import SqlLowering.Proofs.History

/-!
# Modules under their keys

Two lists are built under keys, and each has its own way with a key that comes again: a registry
keeps the module that came first, and the requests of a builder put the last one in the place of the
first. In both, the place of a key is that of its first occurrence.

* `FirstOccurrences given kept` : the keys of `kept` are those of `given`, each once and in the
  order in which they occur first. One more key is at the end if it is new
  (`FirstOccurrences.append`);
* `IsFirst`, `IsLast` : the first or the last thing under its key;
* `KeepsFirst`, `KeepsLast` : the two ways, each a statement about all things that were given;
* `KeepsFirst.add` : one more module in a registry, and from it whole runs: the container that is
  left by some events (`Container.keepsFirst_ofEvents`), and each container of a depot whose
  containers meet with events in any order (`Depot.get_happen`);
* `AnsweredBy` : the outcome of a call under some rules, without the search for it.
-/

namespace SqlLowering

/-! ## Keys in the order of their first occurrence -/

/-- The keys that occur, each once, in the order in which they occur first. -/
structure FirstOccurrences (given kept : List String) : Prop where
  ordered : kept.Pairwise fun a b => given.idxOf a < given.idxOf b
  mem_iff : ∀ key, key ∈ kept ↔ key ∈ given

namespace FirstOccurrences

theorem nil : FirstOccurrences [] [] :=
  ⟨List.Pairwise.nil, fun _ => Iff.rfl⟩

theorem nodup {given kept : List String} (h : FirstOccurrences given kept) : kept.Nodup := by
  refine h.ordered.imp ?_
  intro a b hab heq
  rw [heq] at hab
  exact absurd hab (Nat.lt_irrefl _)

theorem append {given kept : List String} (h : FirstOccurrences given kept) (key : String) :
    FirstOccurrences (given ++ [key]) (if key ∈ kept then kept else kept ++ [key]) := by
  have hidx : ∀ a ∈ kept, (given ++ [key]).idxOf a = given.idxOf a := fun a ha =>
    List.idxOf_append_of_mem ((h.mem_iff a).1 ha)
  have hordered : kept.Pairwise fun a b =>
      (given ++ [key]).idxOf a < (given ++ [key]).idxOf b := by
    refine h.ordered.imp_of_mem ?_
    intro a b ha hb hab
    rw [hidx a ha, hidx b hb]
    exact hab
  by_cases hkey : key ∈ kept
  · rw [if_pos hkey]
    refine ⟨hordered, fun k => ?_⟩
    rw [h.mem_iff, List.mem_append, List.mem_singleton]
    constructor
    · exact Or.inl
    · rintro (hk | rfl)
      · exact hk
      · exact (h.mem_iff k).1 hkey
  · rw [if_neg hkey]
    have hnew : key ∉ given := fun hgiven => hkey ((h.mem_iff key).2 hgiven)
    constructor
    · rw [List.pairwise_append]
      refine ⟨hordered, List.pairwise_singleton _ _, ?_⟩
      intro a ha b hb
      obtain rfl := List.mem_singleton.1 hb
      -- the new key stands behind all that was given
      have hlt : given.idxOf a < given.length :=
        List.idxOf_lt_length_of_mem ((h.mem_iff a).1 ha)
      have hlast : (given ++ [b]).idxOf b = given.length := by
        rw [List.idxOf_append_of_notMem hnew]
        simp
      rw [hidx a ha, hlast]
      exact hlt
    · intro k
      rw [List.mem_append, List.mem_append, h.mem_iff]

end FirstOccurrences

/-! ## Things under keys -/

section Keyed

variable {α : Type} (key : α → String)

def IsFirst (given : List α) (a : α) : Prop :=
  ∃ before after, given = before ++ a :: after ∧ ∀ x ∈ before, key x ≠ key a

def IsLast (given : List α) (a : α) : Prop :=
  ∃ before after, given = before ++ a :: after ∧ ∀ x ∈ after, key x ≠ key a

/-- Of all things under a key the first is kept, in its place. -/
structure KeepsFirst (given kept : List α) : Prop where
  keys : FirstOccurrences (given.map key) (kept.map key)
  first : ∀ a ∈ kept, IsFirst key given a

/-- Of all things under a key the last is kept, in the place of the first. -/
structure KeepsLast (given kept : List α) : Prop where
  keys : FirstOccurrences (given.map key) (kept.map key)
  last : ∀ a ∈ kept, IsLast key given a

variable {key} {given : List α} {a : α}

theorem IsFirst.append (h : IsFirst key given a) (more : List α) :
    IsFirst key (given ++ more) a := by
  obtain ⟨before, after, rfl, hbefore⟩ := h
  exact ⟨before, after ++ more, by simp, hbefore⟩

theorem isFirst_append_singleton (h : key a ∉ given.map key) : IsFirst key (given ++ [a]) a := by
  refine ⟨given, [], rfl, fun x hx heq => h ?_⟩
  rw [← heq]
  exact List.mem_map_of_mem hx

theorem IsLast.append_singleton {b : α} (h : IsLast key given a) (hne : key b ≠ key a) :
    IsLast key (given ++ [b]) a := by
  obtain ⟨before, after, rfl, hafter⟩ := h
  refine ⟨before, after ++ [b], by simp, fun x hx => ?_⟩
  rw [List.mem_append, List.mem_singleton] at hx
  rcases hx with hx | rfl
  · exact hafter x hx
  · exact hne

theorem isLast_append_singleton (given : List α) (a : α) : IsLast key (given ++ [a]) a :=
  ⟨given, [], rfl, fun x hx => by cases hx⟩

theorem KeepsFirst.nil : KeepsFirst key [] [] :=
  ⟨.nil, fun a ha => by cases ha⟩

theorem KeepsLast.nil : KeepsLast key [] [] :=
  ⟨.nil, fun a ha => by cases ha⟩

/-- A key is kept when something was given under it. -/
theorem KeepsFirst.exists_mem_iff {kept : List α} (h : KeepsFirst key given kept) (k : String) :
    (∃ a ∈ kept, key a = k) ↔ ∃ a ∈ given, key a = k := by
  have hmem := h.keys.mem_iff k
  rwa [List.mem_map, List.mem_map] at hmem

end Keyed

/-! ## Registries -/

namespace Registry

theorem contains_iff (r : Registry) (key : String) :
    r.contains key = true ↔ key ∈ r.modules.map TranslationModule.key := by
  simp [contains]

end Registry

/-- **One more module** is kept if its key is new. -/
theorem KeepsFirst.add {given : List TranslationModule} {r : Registry}
    (h : KeepsFirst TranslationModule.key given r.modules) (m : TranslationModule) :
    KeepsFirst TranslationModule.key (given ++ [m]) (r.add m).2.modules := by
  have hkeys := h.keys.append m.key
  by_cases hm : r.contains m.key = true
  · rw [Registry.add_of_contains hm]
    rw [if_pos ((r.contains_iff m.key).1 hm)] at hkeys
    exact ⟨by simpa using hkeys, fun a ha => (h.first a ha).append [m]⟩
  · have hnew : m.key ∉ r.modules.map TranslationModule.key := fun hmem =>
      hm ((r.contains_iff m.key).2 hmem)
    rw [Registry.add_of_not_contains hm]
    rw [if_neg hnew] at hkeys
    refine ⟨by simpa using hkeys, fun a ha => ?_⟩
    rw [List.mem_append, List.mem_singleton] at ha
    rcases ha with ha | rfl
    · exact (h.first a ha).append [m]
    · exact isFirst_append_singleton fun hmem => hnew ((h.keys.mem_iff a.key).2 hmem)

/-- Modules under keys of their own are all added, in order. -/
theorem Container.modules_activateAll (extensions : List Extension) (c : Container)
    (h : (c.registry.modules.map TranslationModule.key ++
      extensions.map Extension.key).Nodup) :
    (c.activateAll extensions).registry.modules =
      c.registry.modules ++ extensions.map Extension.module := by
  induction extensions generalizing c with
  | nil => simp [activateAll]
  | cons e extensions ih =>
      have hnew : ¬ c.registry.contains e.key = true := by
        rw [Registry.contains_iff]
        intro hmem
        rw [List.map_cons, List.nodup_append] at h
        exact h.2.2 e.key hmem e.key (List.mem_cons_self ..) rfl
      have hmodules : (c.activate e).2.registry.modules = c.registry.modules ++ [e.module] := by
        have hadd : (c.activate e).2.registry = (c.registry.add e.module).2 := rfl
        rw [hadd, Registry.add_of_not_contains hnew]
      have hrest := ih (c.activate e).2 (by
        rw [hmodules]
        simpa [Extension.key] using h)
      rw [hmodules] at hrest
      simpa [activateAll] using hrest

/-! ## Containers and depots -/

/-- **The registry of a container** holds the first module that was added to it under each key, in
the order of these additions, whatever else happened. -/
theorem Container.keepsFirst_ofEvents (events : List ContainerEvent) :
    KeepsFirst TranslationModule.key (events.filterMap ContainerEvent.module?)
      (ofEvents events).registry.modules := by
  induction events using List.reverseRecOn with
  | nil => exact .nil
  | append_singleton events event ih =>
      have hstep : ofEvents (events ++ [event]) = (ofEvents events).step event := by
        unfold ofEvents
        rw [List.foldl_append]
        rfl
      rw [hstep, List.filterMap_append]
      cases event with
      | addModule m => exact ih.add m
      | call call =>
          have hregistry : ((ofEvents events).step (.call call)).registry =
              (ofEvents events).registry := registry_serve _ call
          have hnone : [ContainerEvent.call call].filterMap ContainerEvent.module? = [] := rfl
          rw [hregistry, hnone, List.append_nil]
          exact ih

theorem Container.contains_foldl_step {c : Container} {key : String}
    (h : c.registry.contains key = true) (events : List ContainerEvent) :
    (events.foldl step c).registry.contains key = true := by
  induction events generalizing c with
  | nil => exact h
  | cons event events ih =>
      apply ih
      cases event with
      | addModule m =>
          have hadd : (c.step (.addModule m)).registry = (c.registry.add m).2 := rfl
          rw [hadd]
          by_cases hm : c.registry.contains m.key = true
          · rw [Registry.add_of_contains hm]
            exact h
          · rw [Registry.add_of_not_contains hm]
            rw [Registry.contains_iff] at h ⊢
            rw [List.map_append]
            exact List.mem_append_left _ h
      | call call =>
          have hregistry : (c.step (.call call)).registry = c.registry := c.registry_serve call
          rw [hregistry]
          exact h

/-- Something that happens to one of the containers of a depot. -/
structure DepotEvent where
  container : ContainerId
  event : ContainerEvent

namespace Depot

def ofSize (n : Nat) : Depot :=
  ⟨List.replicate n .empty⟩

def step (d : Depot) (e : DepotEvent) : Depot :=
  d.update e.container fun c => c.step e.event

def happen (d : Depot) (events : List DepotEvent) : Depot :=
  events.foldl step d

def eventsOf (id : ContainerId) (events : List DepotEvent) : List ContainerEvent :=
  (events.filter fun e => e.container = id).map DepotEvent.event

theorem length_happen (d : Depot) (events : List DepotEvent) :
    (d.happen events).containers.length = d.containers.length := by
  induction events generalizing d with
  | nil => rfl
  | cons e events ih =>
      have hstep : (d.step e).containers.length = d.containers.length := by
        simp [step, update]
      exact (ih (d.step e)).trans hstep

theorem get_step (d : Depot) (e : DepotEvent) {id : ContainerId}
    (h : id.index < d.containers.length) :
    (d.step e).get id = if e.container = id then (d.get id).step e.event else d.get id := by
  unfold step get update
  simp only [List.getD_eq_getElem?_getD, List.getElem?_modify]
  by_cases hid : e.container = id
  · subst hid
    simp [h]
  · have hindex : e.container.index ≠ id.index := fun heq => hid (congrArg ContainerId.mk heq)
    simp [hid, hindex]

/-- **What happens to other containers makes no difference.** -/
theorem get_happen (d : Depot) (events : List DepotEvent) {id : ContainerId}
    (h : id.index < d.containers.length) :
    (d.happen events).get id = (eventsOf id events).foldl Container.step (d.get id) := by
  induction events generalizing d with
  | nil => rfl
  | cons e events ih =>
      have hlength : id.index < (d.step e).containers.length := by
        have hsame : (d.step e).containers.length = d.containers.length := d.length_happen [e]
        omega
      have hrest := ih (d.step e) hlength
      rw [d.get_step e h] at hrest
      unfold happen at hrest ⊢
      rw [List.foldl_cons, hrest]
      by_cases hid : e.container = id
      · simp [eventsOf, hid]
      · simp [eventsOf, hid]

theorem get_ofSize_happen (n : Nat) (events : List DepotEvent) {id : ContainerId}
    (h : id.index < n) :
    ((ofSize n).happen events).get id = Container.ofEvents (eventsOf id events) := by
  have hget : (ofSize n).get id = .empty := by
    unfold get ofSize
    simp [h]
  rw [get_happen _ _ (by simpa [ofSize] using h), hget]
  rfl

end Depot

/-! ## Answers -/

/-- The outcome of a call under some rules: that of the first rule that does not decline. -/
inductive AnsweredBy (call : MethodCall) (rules : List Rule) : Outcome → Prop
  | declined : (∀ rule ∈ rules, rule call = .declined) → AnsweredBy call rules .declined
  | answered (before : List Rule) (rule : Rule) (after : List Rule) :
      rules = before ++ rule :: after → (∀ earlier ∈ before, earlier call = .declined) →
      rule call ≠ .declined → AnsweredBy call rules (rule call)

theorem AnsweredBy.cons {call : MethodCall} {rule : Rule} {rules : List Rule} {o : Outcome}
    (hrule : rule call = .declined) (h : AnsweredBy call rules o) :
    AnsweredBy call (rule :: rules) o := by
  cases h with
  | declined hall => exact .declined (List.forall_mem_cons.2 ⟨hrule, hall⟩)
  | answered before next after hrules hbefore hnext =>
      refine .answered (rule :: before) next after ?_ ?_ hnext
      · rw [hrules, List.cons_append]
      · exact List.forall_mem_cons.2 ⟨hrule, hbefore⟩

/-- The search through the rules finds this outcome. -/
theorem answeredBy_firstAnswer (call : MethodCall) (rules : List Rule) :
    AnsweredBy call rules (firstAnswer call rules) := by
  induction rules with
  | nil => exact .declined fun rule hrule => by cases hrule
  | cons rule rules ih =>
      rw [firstAnswer]
      split
      · rename_i hrule
        exact ih.cons hrule
      · rename_i hrule
        exact .answered [] rule rules rfl (fun earlier h => by cases h) hrule

theorem Registry.answeredBy_translate (r : Registry) (call : MethodCall) :
    AnsweredBy call (r.modules.flatMap TranslationModule.rules) (r.translate call) :=
  answeredBy_firstAnswer call r.rules

end SqlLowering
