import SqlLowering.Proofs.Lowered
import SqlLowering.Proofs.Modules
import SqlLowering.Session

/-!
# Sessions of bundled modules

`Container.OfModules ms c` says that `c` is a container in which the bundled modules `ms` were
activated, with any history besides: store types that were asked for and expressions that were
compiled, under any configuration and with any outcome. A session uses such modules when its
container is one. This holds of every session that a builder makes for bundled modules
(`exists_build_uses`), and it stays so whatever is compiled by sessions of the same depot
(`Session.Uses.compile`).

Whatever the history, the registry is that of the modules and the mapping source is faithful, so a
session compiles by the function `compiled` (`Session.Uses.compile_fst`).
-/

namespace SqlLowering

/-- A container in which bundled modules were activated, and that served any compilations and
questions for store types. -/
inductive Container.OfModules : List BundledModule → Container → Prop
  | empty : OfModules [] .empty
  | activate {ms : List BundledModule} {c : Container} (m : BundledModule) :
      OfModules ms c → OfModules (ms ++ [m]) (c.activate m.extension).2
  | findMapping {ms : List BundledModule} {c : Container} (t : DataType) :
      OfModules ms c → OfModules ms { c with mappings := (c.mappings.findMapping t).2 }
  | compile {ms : List BundledModule} {c : Container} (config : Config) (e : Expr) :
      OfModules ms c →
      OfModules ms { c with mappings := ((compile c.registry config e).run c.mappings).2 }

namespace Container.OfModules

variable {ms : List BundledModule} {c : Container}

theorem registry_eq (h : c.OfModules ms) : c.registry = BundledModule.registry ms := by
  induction h with
  | empty => rfl
  | activate m _ ih =>
      rw [BundledModule.registry_append, ← ih]
      rfl
  | findMapping _ _ ih => exact ih
  | compile _ _ _ ih => exact ih

theorem faithful (h : c.OfModules ms) : c.mappings.Faithful := by
  induction h with
  | empty => exact MappingSource.faithful_empty
  | activate _ _ ih => exact ih
  | findMapping t _ ih => exact ih.findMapping t
  | compile config e _ ih => exact (compile_answers _ config e _ ih).2

theorem activateAll (ms : List BundledModule) :
    (Container.empty.activateAll (ms.map BundledModule.extension)).OfModules ms := by
  induction ms using List.reverseRecOn with
  | nil => exact .empty
  | append_singleton ms m ih =>
      unfold Container.activateAll at ih ⊢
      rw [List.map_append, List.foldl_append]
      exact .activate m ih

end Container.OfModules

/-! ## Depots -/

namespace Depot

/-- An update changes the container of its number, if there is one, and no other. -/
theorem get_update (d : Depot) (id id' : ContainerId) (f : Container → Container) :
    (d.update id f).get id' = d.get id' ∨
      id = id' ∧ (d.update id f).get id' = f (d.get id') := by
  unfold get update
  simp only [List.getD_eq_getElem?_getD, List.getElem?_modify]
  by_cases hid : id = id'
  · subst hid
    cases d.containers[id.index]? with
    | none => exact Or.inl rfl
    | some c =>
        right
        simp
  · have hindex : id.index ≠ id'.index := fun h => hid (congrArg ContainerId.mk h)
    left
    simp [hindex]

theorem get_create (d : Depot) (c : Container) : (d.create c).2.get (d.create c).1 = c := by
  unfold get create
  rw [List.getD_eq_getElem?_getD, List.getElem?_concat_length]
  rfl

end Depot

/-! ## Sessions -/

/-- In this depot, the container of the session is one of the modules. -/
def Session.Uses (s : Session) (d : Depot) (ms : List BundledModule) : Prop :=
  (d.get s.container).OfModules ms

namespace Session

variable {s t : Session} {d : Depot} {ms : List BundledModule}

theorem Uses.translate_eq (h : s.Uses d ms) (call : MethodCall) :
    s.translate d call = (BundledModule.registry ms).translate call := by
  rw [Session.translate, h.registry_eq]

/-- **A session compiles by the function**, whatever was compiled before. -/
theorem Uses.compile_fst (h : s.Uses d ms) (e : Expr) :
    (s.compile d e).1 = compiled (BundledModule.registry ms) s.config e := by
  have hrun := (compile_answers (d.get s.container).registry s.config e _ h.faithful).1
  rw [← h.registry_eq, ← hrun]
  rfl

theorem Uses.compile (h : s.Uses d ms) (t : Session) (e : Expr) : s.Uses (t.compile d e).2 ms := by
  unfold Uses at h ⊢
  unfold Session.compile
  dsimp only
  rcases d.get_update t.container s.container _ with hget | ⟨hid, hget⟩
  · rw [hget]
    exact h
  · rw [hget, hid]
    exact .compile t.config e h

end Session

/-! ## Building a session -/

/-- Requesting a bundled module puts it in its own place, or at the end. -/
theorem requestIn_extension (m : BundledModule) (ms : List BundledModule) :
    requestIn m.extension (ms.map BundledModule.extension) =
      (if m ∈ ms then ms else ms ++ [m]).map BundledModule.extension := by
  induction ms with
  | nil => rfl
  | cons m' ms ih =>
      rw [List.map_cons, requestIn]
      by_cases hm : m'.extension.key = m.extension.key
      · rw [BundledModule.key_injective hm, if_pos rfl, if_pos (List.mem_cons_self ..)]
        rfl
      · have hne : m ≠ m' := fun h => hm (h ▸ rfl)
        rw [if_neg hm, ih]
        by_cases hmem : m ∈ ms
        · rw [if_pos hmem, if_pos (List.mem_cons_of_mem _ hmem)]
          rfl
        · rw [if_neg hmem, if_neg (List.not_mem_cons_of_ne_of_not_mem hne hmem)]
          rfl

theorem exists_withExtensions_eq (ms : List BundledModule) (b : SessionBuilder)
    (old : List BundledModule) (hold : b.extensions = old.map BundledModule.extension) :
    ∃ ms' : List BundledModule, (∀ m, m ∈ ms' ↔ m ∈ old ∨ m ∈ ms) ∧
      b.withExtensions (ms.map BundledModule.extension) =
        { b with extensions := ms'.map BundledModule.extension } := by
  induction ms generalizing b old with
  | nil =>
      refine ⟨old, fun m => ⟨Or.inl, ?_⟩, ?_⟩
      · rintro (h | h)
        · exact h
        · cases h
      · rw [← hold]
        rfl
  | cons m ms ih =>
      have hrequest : (b.withExtension m.extension).extensions =
          (if m ∈ old then old else old ++ [m]).map BundledModule.extension := by
        rw [← requestIn_extension, ← hold]
        rfl
      obtain ⟨ms', hmem, hms'⟩ := ih (b.withExtension m.extension) _ hrequest
      refine ⟨ms', fun m' => ?_, hms'⟩
      rw [hmem, List.mem_cons]
      by_cases hm : m ∈ old
      · rw [if_pos hm]
        constructor
        · exact Or.imp_right Or.inr
        · rintro (h | rfl | h)
          · exact Or.inl h
          · exact Or.inl hm
          · exact Or.inr h
      · rw [if_neg hm, List.mem_append, List.mem_singleton, or_assoc]

/-- **A session built for bundled modules uses these modules**, under any configuration. -/
theorem exists_build_uses (ms : List BundledModule) (config : Config) (d : Depot) :
    ∃ (ms' : List BundledModule) (s : Session) (d' : Depot), (∀ m, m ∈ ms' ↔ m ∈ ms) ∧
      SessionBuilder.build
        { SessionBuilder.empty.withExtensions (ms.map BundledModule.extension) with
          config := config } d = (.ok s, d') ∧
      s.config = config ∧ s.Uses d' ms' := by
  obtain ⟨ms', hmem, hms'⟩ := exists_withExtensions_eq ms .empty [] rfl
  rw [hms']
  refine ⟨ms', _, _, fun m => ?_, rfl, rfl, ?_⟩
  · rw [hmem]
    simp
  · have hnew := Container.OfModules.activateAll ms'
    rw [← d.get_create (Container.empty.activateAll _)] at hnew
    exact hnew

/-! ## A session of its own -/

/-- The depot with one container, in which the modules were activated. -/
def Depot.ofModules (ms : List BundledModule) : Depot :=
  ⟨[Container.empty.activateAll (ms.map BundledModule.extension)]⟩

def Session.ofModules (ms : List BundledModule) (config : Config) : Session :=
  ⟨config, ms.map BundledModule.extension, ⟨0⟩, false⟩

theorem Session.ofModules_uses (ms : List BundledModule) (config : Config) :
    (Session.ofModules ms config).Uses (Depot.ofModules ms) ms :=
  Container.OfModules.activateAll ms

/-- The text of a part of a shape, whose number is found by methods of other modules. -/
def Expr.textOfPart : Expr :=
  .cast ⟨.text, none⟩ none (.methodCall .geometry "GetGeometryN" (some (.column "shape" .geometry))
    [.methodCall .dbFunctions "Levenshtein" none
      [.column "name" .text,
        .index (.column "names" .collection) [.literal (.int32 7), .column "i" .int32] .zero]])

end SqlLowering
