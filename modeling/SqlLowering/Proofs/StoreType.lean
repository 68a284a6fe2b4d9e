import SqlLowering.TypeMap.Source

/-!
# The store type of a data type

A mapping source remembers the descriptors of bounded text that it has made. What it answers does
not depend on what it remembers: as long as each descriptor in its cache is the one it would make
for the facet it is kept under, the answer is a function of the data type alone, `storeType?`. The
empty source is such a source, and asking leaves one.
-/

namespace SqlLowering

/-- Each descriptor is the one that the cache makes for its facet. -/
def FacetCache.Faithful (cache : FacetCache) : Prop :=
  ∀ entry ∈ cache.entries, entry.2 = cache.create entry.1

namespace FacetCache

theorem findFrom_descriptor (create : UInt32 → TypeDescriptor) (facet : UInt32) (found : Found) :
    ∀ (entries : List (UInt32 × TypeDescriptor)) (start : Nat),
      (∀ entry ∈ entries, entry.2 = create entry.1) →
      findFrom facet start entries = some found → found.descriptor = create facet := by
  intro entries
  induction entries with
  | nil =>
      intro start _ h
      cases h
  | cons entry rest ih =>
      intro start hcreated h
      rw [findFrom] at h
      split at h
      · rename_i hkey
        rw [← Option.some.inj h, ← hkey]
        exact hcreated entry (List.mem_cons_self ..)
      · exact ih (start + 1) (fun entry' h' => hcreated entry' (List.mem_cons_of_mem _ h')) h

theorem Faithful.descriptor_getOrCreate {cache : FacetCache} (hcache : cache.Faithful)
    (facet : Option UInt32) :
    (cache.getOrCreate facet).1.descriptor = facet.elim cache.default cache.create := by
  cases facet with
  | none => rfl
  | some n =>
      cases hfind : cache.find? n with
      | none => simp only [getOrCreate, hfind, Option.elim_some]
      | some found =>
          simp only [getOrCreate, hfind, Option.elim_some]
          exact findFrom_descriptor cache.create n found _ 0 hcache hfind

theorem default_getOrCreate (cache : FacetCache) (facet : Option UInt32) :
    (cache.getOrCreate facet).2.default = cache.default := by
  unfold getOrCreate
  split
  · rfl
  · split <;> rfl

theorem create_getOrCreate (cache : FacetCache) (facet : Option UInt32) :
    (cache.getOrCreate facet).2.create = cache.create := by
  unfold getOrCreate
  split
  · rfl
  · split <;> rfl

theorem Faithful.getOrCreate {cache : FacetCache} (hcache : cache.Faithful)
    (facet : Option UInt32) : (cache.getOrCreate facet).2.Faithful := by
  unfold FacetCache.getOrCreate
  split
  · exact hcache
  · split
    · exact hcache
    · intro entry hentry
      rw [List.mem_append, List.mem_singleton] at hentry
      rcases hentry with hentry | rfl
      · exact hcache entry hentry
      · rfl

end FacetCache

/-- The store type that every source gives a data type. -/
def DataType.storeType? (t : DataType) : Option TypeDescriptor :=
  match t.base with
  | .text => some (t.maxLength.elim unboundedText boundedText)
  | base => base.fixedStoreType?.map fun name => ⟨base, name, none⟩

theorem DataType.storeType?_eq_some {t : DataType} {descriptor : TypeDescriptor}
    (h : t.storeType? = some descriptor) :
    (∃ base name, base.fixedStoreType? = some name ∧ descriptor = ⟨base, name, none⟩) ∨
      descriptor = unboundedText ∨ ∃ n, descriptor = boundedText n := by
  unfold storeType? at h
  split at h
  · obtain rfl := Option.some.inj h
    cases t.maxLength with
    | none => exact Or.inr (Or.inl rfl)
    | some n => exact Or.inr (Or.inr ⟨n, rfl⟩)
  · obtain ⟨name, hname, rfl⟩ := Option.map_eq_some_iff.1 h
    exact Or.inl ⟨_, name, hname, rfl⟩

/-- The data type that a descriptor describes. -/
def TypeDescriptor.dataType (d : TypeDescriptor) : DataType :=
  ⟨d.valueType, d.size⟩

/-- A descriptor that any data type has is the one of the data type it describes. -/
theorem DataType.storeType?_dataType {t : DataType} {descriptor : TypeDescriptor}
    (h : t.storeType? = some descriptor) : descriptor.dataType.storeType? = some descriptor := by
  rcases storeType?_eq_some h with ⟨base, name, hname, rfl⟩ | rfl | ⟨n, rfl⟩
  · cases base <;> cases hname <;> rfl
  · rfl
  · rfl

namespace MappingSource

theorem snd_findMapping (source : MappingSource) (t : DataType) :
    (source.findMapping t).2 =
      if t.base = .text then ⟨(source.text.getOrCreate t.maxLength).2⟩ else source := by
  obtain ⟨base, maxLength⟩ := t
  cases base <;> rfl

/-- The cache is one of text, and faithful. -/
structure Faithful (source : MappingSource) : Prop where
  default : source.text.default = unboundedText
  create : source.text.create = boundedText
  cache : source.text.Faithful

theorem faithful_empty : MappingSource.empty.Faithful :=
  ⟨rfl, rfl, fun entry h => by cases h⟩

/-- The answer of a faithful source depends on the data type only. -/
theorem Faithful.descriptor_findMapping {source : MappingSource} (hsource : source.Faithful)
    (t : DataType) : (source.findMapping t).1.map Mapping.descriptor = t.storeType? := by
  obtain ⟨base, maxLength⟩ := t
  cases base
  case text =>
    change some (source.text.getOrCreate maxLength).1.descriptor = _
    rw [hsource.cache.descriptor_getOrCreate, hsource.default, hsource.create]
    rfl
  all_goals rfl

theorem Faithful.findMapping {source : MappingSource} (hsource : source.Faithful)
    (t : DataType) : (source.findMapping t).2.Faithful := by
  rw [snd_findMapping]
  split
  · constructor
    · exact (FacetCache.default_getOrCreate source.text t.maxLength).trans hsource.default
    · exact (FacetCache.create_getOrCreate source.text t.maxLength).trans hsource.create
    · exact hsource.cache.getOrCreate t.maxLength
  · exact hsource

end MappingSource

end SqlLowering
