import Mathlib.Data.Finset.Card
import SqlLowering.Proofs.CachedLengths

/-!
# Descriptors that are one and the same

The sources of a process are asked for store types in any order, each as often as one likes. Two
answers are the same object exactly when the questions ask for the same thing: for text of any
length, for the same other type, or one source for text of the same length.

A source keeps the descriptor of a length in the slot that has the number of the length among those
it was asked for (`FacetCache.place_getOrCreate`). These only grow at the end, so the number never
changes (`idxOf_eq_of_isPrefix`), and the objects that were handed out can all be found in the
sources at the end of a run.

* `MappingSource.askAll` : a source that is asked for some types, one after the other;
* `MappingPool.get_askAll` : in a run over several sources, each is left as if it had been asked its
  own questions only;
* `MappingPool.identify` : the object that a pool answers a question with. A run keeps it
  (`identify_askAll`) and what it holds (`contents?_identify`), and it tells questions apart by what
  they ask for (`identify_eq_iff`).
-/

namespace SqlLowering

/-! ## Slots -/

/-- A facet has the same number among more facets, whether it was there or is the first one
added. -/
theorem idxOf_eq_of_isPrefix {facets more : List UInt32} {n : UInt32}
    (h : addFacet facets n <+: more) : more.idxOf n = facets.idxOf n := by
  obtain ⟨rest, rfl⟩ := h
  rw [List.idxOf_append_of_mem (mem_addFacet.2 (Or.inr rfl)), addFacet]
  split
  · rfl
  · rename_i hn
    rw [List.idxOf_append_of_notMem hn, List.idxOf_cons_self, List.idxOf_eq_length hn]
    rfl

theorem prefix_addFacets (facets more : List UInt32) : facets <+: addFacets facets more := by
  induction more generalizing facets with
  | nil => exact List.prefix_rfl
  | cons n more ih =>
      have hfirst : facets <+: addFacet facets n := by
        unfold addFacet
        split
        · exact List.prefix_rfl
        · exact List.prefix_append ..
      exact hfirst.trans (ih (addFacet facets n))

namespace FacetCache

theorem findFrom_of_mem {facet : UInt32} {entries : List (UInt32 × TypeDescriptor)}
    (h : facet ∈ entries.map Prod.fst) (start : Nat) :
    ∃ descriptor, findFrom facet start entries =
      some ⟨.slot (start + (entries.map Prod.fst).idxOf facet), descriptor⟩ := by
  induction entries generalizing start with
  | nil => cases h
  | cons entry entries ih =>
      obtain ⟨key, descriptor⟩ := entry
      rw [findFrom, List.map_cons]
      by_cases hkey : key = facet
      · subst hkey
        rw [if_pos rfl, List.idxOf_cons_self]
        exact ⟨descriptor, rfl⟩
      · rw [List.map_cons, List.mem_cons] at h
        have hrest := h.resolve_left fun heq => hkey heq.symm
        obtain ⟨found, hfound⟩ := ih hrest (start + 1)
        rw [if_neg hkey, List.idxOf_cons_ne _ hkey, hfound]
        refine ⟨found, ?_⟩
        rw [Nat.succ_eq_add_one, Nat.add_right_comm, Nat.add_assoc]

/-- **A facet is kept in the slot of its number** among the facets that were asked for. -/
theorem place_getOrCreate (cache : FacetCache) (n : UInt32) :
    (cache.getOrCreate (some n)).1.place = .slot (cache.facets.idxOf n) := by
  by_cases hn : n ∈ cache.facets
  · obtain ⟨descriptor, hfound⟩ := findFrom_of_mem hn 0
    have hfind : cache.find? n = some ⟨.slot (cache.facets.idxOf n), descriptor⟩ := by
      rw [find?, hfound, Nat.zero_add]
      rfl
    simp only [getOrCreate, hfind]
  · have hfind : cache.find? n = none := findFrom_eq_none_iff.2 hn
    have hlength : cache.facets.length = cache.entries.length := List.length_map _
    simp only [getOrCreate, hfind]
    rw [List.idxOf_eq_length hn, hlength]

/-- The slot of a facet that was asked for holds what the cache makes for it. -/
theorem Faithful.getElem?_idxOf {cache : FacetCache} (h : cache.Faithful) {n : UInt32}
    (hn : n ∈ cache.facets) :
    (cache.entries[cache.facets.idxOf n]?).map Prod.snd = some (cache.create n) := by
  have hkey : cache.facets[cache.facets.idxOf n]? = some n := List.getElem?_idxOf hn
  unfold facets at hkey ⊢
  rw [List.getElem?_map] at hkey
  obtain ⟨entry, hentry, rfl⟩ := Option.map_eq_some_iff.1 hkey
  rw [hentry, Option.map_some, h entry (List.mem_of_getElem? hentry)]

end FacetCache

/-! ## One source -/

theorem DataType.textLength?_eq_some_iff {t : DataType} {n : UInt32} :
    t.textLength? = some n ↔ t = ⟨.text, some n⟩ := by
  obtain ⟨base, maxLength⟩ := t
  simp [textLength?]

namespace MappingSource

/-- Where a source keeps the descriptor of a data type. -/
def cellOf (source : MappingSource) (t : DataType) : Cell :=
  match t.textLength? with
  | some n => .own (source.facets.idxOf n)
  | none => .shared t.base

theorem Faithful.fst_findMapping {source : MappingSource} (h : source.Faithful) (t : DataType) :
    (source.findMapping t).1 = t.storeType?.map fun d => ⟨source.cellOf t, d⟩ := by
  cases hlength : t.textLength? with
  | some n =>
      obtain rfl := DataType.textLength?_eq_some_iff.1 hlength
      have hplace := source.text.place_getOrCreate n
      have hdescriptor := h.cache.descriptor_getOrCreate (some n)
      rw [h.create] at hdescriptor
      unfold cellOf MappingSource.findMapping
      rw [hlength]
      simp only [hplace, hdescriptor]
      rfl
  | none =>
      unfold cellOf
      rw [hlength]
      obtain ⟨base, maxLength⟩ := t
      cases base
      case text =>
        obtain rfl : maxLength = none := hlength
        change some (Mapping.mk (.shared .text) source.text.default) = _
        rw [h.default]
        rfl
      all_goals rfl

def askAll (source : MappingSource) (ts : List DataType) : MappingSource :=
  ts.foldl (fun source t => (source.findMapping t).2) source

theorem Faithful.askAll {source : MappingSource} (h : source.Faithful) (ts : List DataType) :
    (source.askAll ts).Faithful := by
  induction ts generalizing source with
  | nil => exact h
  | cons t ts ih => exact ih (h.findMapping t)

theorem facets_askAll (source : MappingSource) (ts : List DataType) :
    (source.askAll ts).facets = addFacets source.facets (ts.filterMap DataType.textLength?) := by
  induction ts generalizing source with
  | nil => rfl
  | cons t ts ih =>
      have hrest := ih (source.findMapping t).2
      rw [source.facets_findMapping, ← addFacets_append] at hrest
      rw [List.filterMap_cons]
      cases hlength : t.textLength? with
      | none =>
          rw [hlength] at hrest
          exact hrest
      | some n =>
          rw [hlength] at hrest
          exact hrest

end MappingSource

/-! ## Several sources -/

/-- A question to a source, by its name, for the store type of a data type. -/
structure MappingQuestion where
  source : String
  type : DataType
deriving DecidableEq

def typesAsked (name : String) (qs : List MappingQuestion) : List DataType :=
  (qs.filter fun q => q.source = name).map MappingQuestion.type

def lengthsAsked (name : String) (qs : List MappingQuestion) : List UInt32 :=
  (typesAsked name qs).filterMap DataType.textLength?

namespace MappingPool

def askAll (pool : MappingPool) :
    List MappingQuestion → List (Option (DescriptorId × TypeDescriptor)) × MappingPool
  | [] => ([], pool)
  | q :: qs =>
    let (answer, pool) := pool.findMapping q.source q.type
    let (answers, pool) := pool.askAll qs
    (answer :: answers, pool)

theorem askAll_cons (pool : MappingPool) (q : MappingQuestion) (qs : List MappingQuestion) :
    pool.askAll (q :: qs) =
      ((pool.findMapping q.source q.type).1 ::
        ((pool.findMapping q.source q.type).2.askAll qs).1,
        ((pool.findMapping q.source q.type).2.askAll qs).2) :=
  rfl

theorem lookup_putIn (name name' : String) (source : MappingSource)
    (sources : List (String × MappingSource)) :
    (putIn name source sources).lookup name' =
      if name' = name then some source else sources.lookup name' := by
  induction sources with
  | nil =>
      rw [putIn, List.lookup_cons, List.lookup_nil]
      split
      · rename_i hname
        rw [if_pos (beq_iff_eq.1 hname)]
      · rename_i hname
        rw [if_neg (beq_eq_false_iff_ne.1 hname)]
  | cons entry sources ih =>
      obtain ⟨key, old⟩ := entry
      rw [putIn]
      by_cases hkey : key = name
      · rw [if_pos hkey, List.lookup_cons, List.lookup_cons, hkey]
        split
        · rename_i hname
          rw [if_pos (beq_iff_eq.1 hname)]
        · rename_i hname
          rw [if_neg (beq_eq_false_iff_ne.1 hname)]
      · rw [if_neg hkey, List.lookup_cons, List.lookup_cons, ih]
        split
        · rename_i hname
          rw [beq_iff_eq.1 hname, if_neg hkey]
        · rfl

theorem get_findMapping (pool : MappingPool) (name name' : String) (t : DataType) :
    (pool.findMapping name t).2.get name' =
      if name' = name then ((pool.get name).findMapping t).2 else pool.get name' := by
  change ((putIn name _ pool.sources).lookup name').getD .empty = _
  rw [lookup_putIn]
  split <;> rfl

/-- **Each source is left as if it had been asked its own questions only.** -/
theorem get_askAll (pool : MappingPool) (qs : List MappingQuestion) (name : String) :
    (pool.askAll qs).2.get name = (pool.get name).askAll (typesAsked name qs) := by
  induction qs generalizing pool with
  | nil => rfl
  | cons q qs ih =>
      rw [askAll_cons, ih, get_findMapping]
      by_cases hname : name = q.source
      · subst hname
        simp [typesAsked, MappingSource.askAll]
      · have hname' : ¬ q.source = name := fun h => hname h.symm
        simp [typesAsked, hname, hname']

theorem length_fst_askAll (pool : MappingPool) (qs : List MappingQuestion) :
    (pool.askAll qs).1.length = qs.length := by
  induction qs generalizing pool with
  | nil => rfl
  | cons q qs ih => rw [askAll_cons, List.length_cons, List.length_cons, ih]

theorem fst_askAll_take (pool : MappingPool) (qs : List MappingQuestion) (k : Nat) :
    (pool.askAll (qs.take k)).1 = (pool.askAll qs).1.take k := by
  induction qs generalizing pool k with
  | nil => simp [askAll]
  | cons q qs ih =>
      cases k with
      | zero => rfl
      | succ k => rw [List.take_succ_cons, askAll_cons, askAll_cons, ih, List.take_succ_cons]

theorem facets_get_askAll (pool : MappingPool) (qs : List MappingQuestion) (name : String) :
    ((pool.askAll qs).2.get name).facets =
      addFacets (pool.get name).facets (lengthsAsked name qs) := by
  rw [get_askAll, MappingSource.facets_askAll, lengthsAsked]

def Faithful (pool : MappingPool) : Prop :=
  ∀ name, (pool.get name).Faithful

theorem faithful_empty : empty.Faithful :=
  fun _ => MappingSource.faithful_empty

theorem Faithful.askAll {pool : MappingPool} (h : pool.Faithful) (qs : List MappingQuestion) :
    (pool.askAll qs).2.Faithful := by
  intro name
  rw [get_askAll]
  exact (h name).askAll _

/-! ## Objects -/

/-- The object that a pool answers a question with, if the type has a descriptor. -/
def identify (pool : MappingPool) (q : MappingQuestion) : DescriptorId :=
  match q.type.textLength? with
  | some n => .owned q.source ((pool.get q.source).facets.idxOf n)
  | none => .shared q.type.base

theorem Faithful.fst_findMapping {pool : MappingPool} (h : pool.Faithful) (q : MappingQuestion) :
    (pool.findMapping q.source q.type).1 =
      q.type.storeType?.map fun d => (pool.identify q, d) := by
  unfold MappingPool.findMapping
  dsimp only
  rw [(h q.source).fst_findMapping, identify, MappingSource.cellOf, Option.map_map]
  cases q.type.textLength? <;> rfl

/-- What an object holds, in the tables that all sources share or in the slot of a source. -/
def contents? (pool : MappingPool) : DescriptorId → Option TypeDescriptor
  | .shared type => (DataType.mk type none).storeType?
  | .owned name slot => (pool.get name).text.entries[slot]?.map Prod.snd

/-- The length of the question, if it has one, was asked for. -/
def Knows (pool : MappingPool) (q : MappingQuestion) : Prop :=
  ∀ n, q.type.textLength? = some n → n ∈ (pool.get q.source).facets

theorem knows_of_mem (pool : MappingPool) {q : MappingQuestion} {qs : List MappingQuestion}
    (h : q ∈ qs) : (pool.askAll qs).2.Knows q := by
  intro n hn
  rw [facets_get_askAll, mem_addFacets]
  refine Or.inr (List.mem_filterMap.2 ⟨q.type, ?_, hn⟩)
  exact List.mem_map_of_mem (List.mem_filter.2 ⟨h, decide_eq_true rfl⟩)

/-- The object of a question stays the same when it is asked and when others follow. -/
theorem identify_askAll (pool : MappingPool) (q : MappingQuestion) (qs : List MappingQuestion) :
    (pool.askAll (q :: qs)).2.identify q = pool.identify q := by
  rw [identify, identify]
  cases hlength : q.type.textLength? with
  | none => rfl
  | some n =>
      have hasked : lengthsAsked q.source (q :: qs) = n :: lengthsAsked q.source qs := by
        simp [lengthsAsked, typesAsked, hlength]
      have hfacets := pool.facets_get_askAll (q :: qs) q.source
      rw [hasked] at hfacets
      simp only [hfacets]
      exact congrArg _ (idxOf_eq_of_isPrefix (prefix_addFacets _ _))

/-- **All answers of a run can be read off the pool that it leaves.** -/
theorem Faithful.fst_askAll {pool : MappingPool} (h : pool.Faithful) (qs : List MappingQuestion) :
    (pool.askAll qs).1 = qs.map fun q =>
      q.type.storeType?.map fun d => ((pool.askAll qs).2.identify q, d) := by
  induction qs generalizing pool with
  | nil => rfl
  | cons q qs ih =>
      have hnext : (pool.findMapping q.source q.type).2.Faithful := h.askAll [q]
      rw [List.map_cons, identify_askAll, askAll_cons, h.fst_findMapping, ih hnext]

theorem Faithful.getElem?_askAll {pool : MappingPool} (h : pool.Faithful)
    (qs : List MappingQuestion) (i : Nat) :
    (pool.askAll qs).1[i]? = qs[i]?.map fun q =>
      q.type.storeType?.map fun d => ((pool.askAll qs).2.identify q, d) := by
  rw [h.fst_askAll, List.getElem?_map]

theorem Faithful.exists_of_getElem?_askAll {pool : MappingPool} (h : pool.Faithful)
    {qs : List MappingQuestion} {i : Nat} {id : DescriptorId} {d : TypeDescriptor}
    (hanswer : (pool.askAll qs).1[i]? = some (some (id, d))) :
    ∃ q, qs[i]? = some q ∧ q.type.storeType? = some d ∧ (pool.askAll qs).2.identify q = id := by
  rw [h.getElem?_askAll] at hanswer
  obtain ⟨q, hq, hfound⟩ := Option.map_eq_some_iff.1 hanswer
  obtain ⟨d', hd, heq⟩ := Option.map_eq_some_iff.1 hfound
  obtain ⟨hid, rfl⟩ := Prod.mk.inj heq
  exact ⟨q, hq, hd, hid⟩

theorem Faithful.contents?_identify {pool : MappingPool} (h : pool.Faithful) {q : MappingQuestion}
    (hq : pool.Knows q) {d : TypeDescriptor} (hd : q.type.storeType? = some d) :
    pool.contents? (pool.identify q) = some d := by
  rw [← hd, identify]
  cases hlength : q.type.textLength? with
  | some n =>
      have hslot := (h q.source).cache.getElem?_idxOf (hq n hlength)
      rw [(h q.source).create] at hslot
      rw [DataType.textLength?_eq_some_iff.1 hlength]
      exact hslot
  | none =>
      obtain ⟨source, base, maxLength⟩ := q
      cases base
      case text =>
        obtain rfl : maxLength = none := hlength
        rfl
      all_goals rfl

end MappingPool

/-- The questions ask for one descriptor: both for text of any length, both for the same type that
is not text, or both the same source for text of the same length. -/
inductive MappingQuestion.SameDescriptor : MappingQuestion → MappingQuestion → Prop
  | unbounded (a b : String) : SameDescriptor ⟨a, ⟨.text, none⟩⟩ ⟨b, ⟨.text, none⟩⟩
  | fixed (a b : String) {base : ValueType} (m n : Option UInt32) : base ≠ .text →
      SameDescriptor ⟨a, ⟨base, m⟩⟩ ⟨b, ⟨base, n⟩⟩
  | bounded (a : String) (n : UInt32) : SameDescriptor ⟨a, ⟨.text, some n⟩⟩ ⟨a, ⟨.text, some n⟩⟩

/-- Bounded text has one descriptor in one source only. -/
theorem MappingQuestion.SameDescriptor.source_eq {q q' : MappingQuestion} (h : q.SameDescriptor q')
    {n : UInt32} (hn : q.type = ⟨.text, some n⟩) : q.source = q'.source := by
  cases h with
  | unbounded a b => cases hn
  | fixed a b m n' hbase => exact absurd (congrArg DataType.base hn) hbase
  | bounded a n' => rfl

namespace MappingPool

theorem identify_eq_of_sameDescriptor (pool : MappingPool) {q q' : MappingQuestion}
    (h : q.SameDescriptor q') : pool.identify q = pool.identify q' := by
  cases h with
  | unbounded a b => rfl
  | fixed a b m n hbase => simp [identify, DataType.textLength?, hbase]
  | bounded a n => rfl

/-- **The objects of questions that are known are the same exactly when the questions ask for one
descriptor.** -/
theorem identify_eq_iff {pool : MappingPool} {q q' : MappingQuestion} (hq : pool.Knows q)
    (hq' : pool.Knows q') : pool.identify q = pool.identify q' ↔ q.SameDescriptor q' := by
  refine ⟨fun h => ?_, pool.identify_eq_of_sameDescriptor⟩
  obtain ⟨a, t⟩ := q
  obtain ⟨b, t'⟩ := q'
  cases hlength : t.textLength? with
  | some n =>
      cases hlength' : t'.textLength? with
      | some n' =>
          simp only [identify, hlength, hlength', DescriptorId.owned.injEq] at h
          obtain ⟨rfl, hslot⟩ := h
          obtain rfl := (List.idxOf_inj (hq n hlength)).1 hslot
          rw [DataType.textLength?_eq_some_iff.1 hlength,
            DataType.textLength?_eq_some_iff.1 hlength']
          exact .bounded a n
      | none =>
          simp only [identify, hlength, hlength'] at h
          cases h
  | none =>
      cases hlength' : t'.textLength? with
      | some n' =>
          simp only [identify, hlength, hlength'] at h
          cases h
      | none =>
          simp only [identify, hlength, hlength', DescriptorId.shared.injEq] at h
          obtain ⟨base, m⟩ := t
          obtain ⟨base', m'⟩ := t'
          obtain rfl : base = base' := h
          by_cases hbase : base = .text
          · subst hbase
            obtain rfl : m = none := hlength
            obtain rfl : m' = none := hlength'
            exact .unbounded a b
          · exact .fixed a b m m' hbase

theorem size_get_askAll (qs : List MappingQuestion) (name : String) :
    ((empty.askAll qs).2.get name).text.size = (lengthsAsked name qs).toFinset.card := by
  have hfacets := empty.facets_get_askAll qs name
  have hempty : (empty.get name).facets = [] := rfl
  rw [hempty] at hfacets
  have hsize : ((empty.askAll qs).2.get name).text.size =
      ((empty.askAll qs).2.get name).facets.length := (List.length_map _).symm
  have hmem : (addFacets [] (lengthsAsked name qs)).toFinset = (lengthsAsked name qs).toFinset := by
    ext n
    rw [List.mem_toFinset, List.mem_toFinset, mem_addFacets]
    simp
  rw [hsize, hfacets, ← hmem, List.toFinset_card_of_nodup (nodup_addFacets List.nodup_nil _)]

/-- **Descriptors in a run.** Sources are asked for store types, in any order. A question has an
answer unless its type only exists on the host side. Two answers are one object exactly when the
questions ask for one descriptor. At each moment the cache of a source has as many entries as it was
asked for different lengths of text, and these are its facets. What an object holds never changes
after it was handed out. -/
theorem askAll_sameDescriptor (qs : List MappingQuestion) :
    let answers := (empty.askAll qs).1
    let poolAt (k : Nat) : MappingPool := (empty.askAll (qs.take k)).2
    answers.length = qs.length ∧
    (∀ (i : Nat) (q : MappingQuestion), qs[i]? = some q →
      (answers[i]? = some none ↔ q.type.isHostOnly = true)) ∧
    (∀ (i j : Nat) (q q' : MappingQuestion) (id id' : DescriptorId) (d d' : TypeDescriptor),
      qs[i]? = some q → qs[j]? = some q' → answers[i]? = some (some (id, d)) →
      answers[j]? = some (some (id', d')) → (id = id' ↔ q.SameDescriptor q')) ∧
    (∀ (k : Nat) (name : String),
      ((poolAt k).get name).text.size = (lengthsAsked name (qs.take k)).toFinset.card ∧
      ∀ n, n ∈ ((poolAt k).get name).facets ↔ n ∈ lengthsAsked name (qs.take k)) ∧
    ∀ (i : Nat) (id : DescriptorId) (d : TypeDescriptor), answers[i]? = some (some (id, d)) →
      ∀ k, i < k → (poolAt k).contents? id = some d := by
  intro answers poolAt
  refine ⟨length_fst_askAll _ qs, fun i q hq => ?_, ?_, fun k name => ⟨?_, fun n => ?_⟩, ?_⟩
  · have hanswer : answers[i]? = some (q.type.storeType?.map fun d =>
        ((empty.askAll qs).2.identify q, d)) := by
      rw [faithful_empty.getElem?_askAll, hq, Option.map_some]
    rw [hanswer, Option.some.injEq, Option.map_eq_none_iff, q.type.storeType?_eq_none_iff]
  · intro i j q q' id id' d d' hq hq' hi hj
    obtain ⟨p, hp, -, rfl⟩ := faithful_empty.exists_of_getElem?_askAll hi
    obtain ⟨p', hp', -, rfl⟩ := faithful_empty.exists_of_getElem?_askAll hj
    obtain rfl := Option.some.inj (hq.symm.trans hp)
    obtain rfl := Option.some.inj (hq'.symm.trans hp')
    exact identify_eq_iff (empty.knows_of_mem (List.mem_of_getElem? hq))
      (empty.knows_of_mem (List.mem_of_getElem? hq'))
  · exact size_get_askAll (qs.take k) name
  · rw [facets_get_askAll, mem_addFacets]
    exact or_iff_right List.not_mem_nil
  · intro i id d hi k hk
    -- The moment is the end of a shorter run, which gave this answer, too.
    have hanswer : (empty.askAll (qs.take k)).1[i]? = some (some (id, d)) := by
      rw [fst_askAll_take, List.getElem?_take_of_lt hk]
      exact hi
    obtain ⟨q, hq, hd, rfl⟩ := faithful_empty.exists_of_getElem?_askAll hanswer
    have hknows := empty.knows_of_mem (List.mem_of_getElem? hq)
    exact (faithful_empty.askAll (qs.take k)).contents?_identify hknows hd

/-- Two sources make equal descriptors of text without a character, and each keeps its own. The
integer type has one for both, whatever length it is given, and the collection has none. -/
theorem askAll_sameDescriptor_twoSources :
    let qs : List MappingQuestion := [⟨"a", ⟨.text, some 0⟩⟩, ⟨"b", ⟨.text, some 0⟩⟩,
      ⟨"b", ⟨.int32, some 7⟩⟩, ⟨"a", ⟨.collection, none⟩⟩, ⟨"a", ⟨.int32, none⟩⟩,
      ⟨"a", ⟨.text, some 0⟩⟩]
    let answers := (empty.askAll qs).1
    ∃ first other number number' again,
      answers[0]? = some (some (first, boundedText 0)) ∧
      answers[1]? = some (some (other, boundedText 0)) ∧
      answers[2]? = some (some (number, ⟨.int32, "integer", none⟩)) ∧
      answers[3]? = some none ∧
      answers[4]? = some (some (number', ⟨.int32, "integer", none⟩)) ∧
      answers[5]? = some (some (again, boundedText 0)) ∧
      first ≠ other ∧ number = number' ∧ first = again ∧
      ((empty.askAll qs).2.get "a").text.size = 1 ∧
      (empty.askAll qs).2.contents? first = some (boundedText 0) := by
  intro qs answers
  obtain ⟨-, hnone, hsame, hcache, hkept⟩ := askAll_sameDescriptor qs
  refine ⟨_, _, _, _, _, rfl, rfl, rfl, (hnone 3 _ rfl).2 rfl, rfl, rfl, ?_, ?_, ?_, ?_, ?_⟩
  · intro h
    have hsource := ((hsame 0 1 _ _ _ _ _ _ rfl rfl rfl rfl).1 h).source_eq (n := 0) rfl
    exact absurd hsource (by decide)
  · exact (hsame 2 4 _ _ _ _ _ _ rfl rfl rfl rfl).2 (.fixed "b" "a" _ _ (by decide))
  · exact (hsame 0 5 _ _ _ _ _ _ rfl rfl rfl rfl).2 (.bounded "a" 0)
  · exact (hcache 6 "a").1
  · exact hkept 0 _ _ rfl 6 (by decide)

end MappingPool

end SqlLowering
