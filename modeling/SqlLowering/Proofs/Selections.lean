import SqlLowering.Proofs.Leftover

/-!
# Selections of modules

A session may have any of the bundled modules, in any order and some of them twice. Which form a
call gets is the same in every selection that has a form for it, and a selection has the forms of
its modules. So the order does not matter, and a module that is added translates calls that were
left before and changes no others.

For expressions this rests on what lowering looks at. Of the configuration it is the default length
alone, and of the registry the answers to calls of the shapes that the expression has, for the
shapes do not change when operands are lowered (`lowered_congr`). When a strict compilation
succeeds, the modules have a form for each of these shapes, and more modules have the same forms;
when two selections have the same modules, they have the same forms for all shapes.
-/

namespace SqlLowering

open BundledModule (registry activeForm? activeForm?_mono recognises recognises_eq
  translate_registry)

/-! ## What lowering looks at -/

section Dependence

variable {registry registry' : Registry} {config config' : Config}

theorem Config.resolvedCast_congr (h : config.defaultStringLength = config'.defaultStringLength)
    (target : DataType) (operand : Expr) :
    config.resolvedCast target operand = config'.resolvedCast target operand := by
  have htarget : config.castTarget target = config'.castTarget target := by
    unfold castTarget
    rw [h]
  rw [resolvedCast, resolvedCast, htarget]

/-- **Lowering depends on the default length and on the answers to calls of the shapes that the
expression has.** -/
theorem Expr.lowered_congr (hlength : config.defaultStringLength = config'.defaultStringLength)
    (e : Expr) (hanswer : ∀ call ∈ e.methodCalls, ∀ call' : MethodCall,
      call'.shape = call.shape → registry.answer call' = registry'.answer call') :
    e.lowered registry config = e.lowered registry' config' := by
  induction e with
  | column name type => rfl
  | literal value => rfl
  | methodCall t m r as hr has =>
      have hoperand : ∀ x ∈ r.toList ++ as, ∀ call ∈ x.methodCalls, ∀ call' : MethodCall,
          call'.shape = call.shape → registry.answer call' = registry'.answer call' :=
        fun x hx call hcall => hanswer call (methodCalls_subset_of_mem_children hx hcall)
      have hr' : loweredOption registry config r = loweredOption registry' config' r := by
        cases r with
        | none => rfl
        | some x => exact loweredOption_congr (.some (hr x rfl (hoperand x (by simp))))
      have has' : loweredList registry config as = loweredList registry' config' as :=
        loweredList_congr <| List.forall₂_same.2 fun x hx =>
          has x hx (hoperand x (List.mem_append_right _ hx))
      rw [lowered, lowered, ← hr', ← has']
      -- If the operands are lowered at all, the call that is answered has the shape of this one.
      cases hreceiver : loweredOption registry config r with
      | error failure => rfl
      | ok r' =>
          cases hargs : loweredList registry config as with
          | error failure => rfl
          | ok as' =>
              have hshape := shape_eq_of_rel t m (loweredOption_eq_ok_iff.1 hreceiver)
                (loweredList_eq_ok_iff.1 hargs)
              exact hanswer ⟨t, m, r, as⟩ (by simp [methodCalls]) _ hshape
  | function name as has =>
      have has' : loweredList registry config as = loweredList registry' config' as :=
        loweredList_congr <| List.forall₂_same.2 fun x hx =>
          has x hx fun call hcall => hanswer call (methodCalls_subset_of_mem_children hx hcall)
      rw [lowered, lowered, has']
  | binary operator l r hl hr =>
      rw [lowered, lowered,
        hl fun call hcall => hanswer call (List.mem_append_left _ hcall),
        hr fun call hcall => hanswer call (List.mem_append_right _ hcall)]
  | cast target storeType x hx =>
      rw [lowered, lowered, hx hanswer]
      simp only [Config.resolvedCast_congr hlength]
  | index a is origin ha his =>
      have his' : loweredList registry config is = loweredList registry' config' is :=
        loweredList_congr <| List.forall₂_same.2 fun x hx => his x hx fun call hcall =>
          hanswer call (methodCalls_subset_of_mem_children (List.mem_cons_of_mem a hx) hcall)
      rw [lowered, lowered, ha fun call hcall => hanswer call (List.mem_append_left _ hcall), his']

end Dependence

/-! ## Selections -/

namespace BundledModule

variable {ms ns : List BundledModule}

theorem answer_congr {call : MethodCall}
    (h : activeForm? ms call.shape = activeForm? ns call.shape) :
    (registry ms).answer call = (registry ns).answer call := by
  rw [Registry.answer, Registry.answer, translate_registry, translate_registry, h]

theorem activeForm?_congr (hsub : ms ⊆ ns) (hsub' : ns ⊆ ms) (shape : CallShape) :
    activeForm? ms shape = activeForm? ns shape := by
  ext form
  exact ⟨activeForm?_mono hsub, activeForm?_mono hsub'⟩

/-- What a selection has a form for, a larger one has the same form for. -/
theorem activeForm?_eq_of_recognises (hsub : ms ⊆ ns) {call : MethodCall}
    (h : recognises ms call = true) :
    activeForm? ms call.shape = activeForm? ns call.shape := by
  rw [recognises_eq, Option.isSome_iff_exists] at h
  obtain ⟨form, hform⟩ := h
  rw [hform, activeForm?_mono hsub hform]

/-- **More modules translate a call as fewer do.** -/
theorem translate_mono (hsub : ms ⊆ ns) {call : MethodCall} {e : Expr}
    (h : (registry ms).translate call = .replaced e) :
    (registry ns).translate call = .replaced e := by
  obtain ⟨form, hform, happly⟩ := translate_eq_replaced_iff.1 h
  exact translate_eq_replaced_iff.2 ⟨form, activeForm?_mono hsub hform, happly⟩

end BundledModule

variable {ms ns : List BundledModule} {config : Config} {e : Expr} {out : Compiled}

theorem compiled_eq_of_same (hsub : ms ⊆ ns) (hsub' : ns ⊆ ms) (e : Expr) :
    compiled (registry ns) config e = compiled (registry ms) config e := by
  have hlowered : e.lowered (registry ns) config = e.lowered (registry ms) config :=
    e.lowered_congr rfl fun _ _ call' _ =>
      BundledModule.answer_congr (BundledModule.activeForm?_congr hsub' hsub call'.shape)
  rw [compiled, compiled, hlowered]

/-- A strict compilation recognises every call of its source. -/
theorem recognises_of_strict (hstrict : config.strictTranslation = true)
    (h : compiled (registry ms) config e = .ok out) {call : MethodCall}
    (hcall : call ∈ e.methodCalls) : recognises ms call = true := by
  have hleft := Expr.forall₂_unrecognised (compiled_eq_ok h).1
  rw [methodCalls_eq_nil_of_strict hstrict h, List.forall₂_nil_right_iff] at hleft
  simpa using List.filter_eq_nil_iff.1 hleft call hcall

/-- More modules make of a strictly compiled expression what fewer do. -/
theorem compiled_mono (hsub : ms ⊆ ns) (hstrict : config.strictTranslation = true)
    (h : compiled (registry ms) config e = .ok out) :
    compiled (registry ns) config e = .ok out := by
  have hlowered : e.lowered (registry ns) config = e.lowered (registry ms) config := by
    refine e.lowered_congr rfl fun call hcall call' hshape => ?_
    have hfound := recognises_of_strict hstrict h hcall
    rw [← BundledModule.recognises_congr ms hshape] at hfound
    exact (BundledModule.answer_congr
      (BundledModule.activeForm?_eq_of_recognises hsub hfound)).symm
  rw [← h, compiled, compiled, hlowered]

/-! ## Sessions -/

namespace Session

variable {s t : Session} {d d' : Depot}

/-- **The order of the modules does not matter, and more modules change no translation.** What one
session translates, a session with these modules and perhaps more translates to the same
expression; what it compiles strictly is compiled to the same, and if both have the same modules
then all expressions are compiled alike, or fail with the same error. -/
theorem compile_selection (hsub : ms ⊆ ns) (hs : s.Uses d ms) (ht : t.Uses d' ns)
    (hconfig : t.config = s.config) :
    (∀ (call : MethodCall) (e : Expr),
      s.translate d call = .replaced e → t.translate d' call = .replaced e) ∧
    (s.config.strictTranslation = true → ∀ (e : Expr) (out : Compiled),
      (s.compile d e).1 = .ok out → (t.compile d' e).1 = .ok out) ∧
    (ns ⊆ ms → ∀ e : Expr, (t.compile d' e).1 = (s.compile d e).1) := by
  refine ⟨fun call e h => ?_, fun hstrict e out h => ?_, fun hsub' e => ?_⟩
  · rw [hs.translate_eq] at h
    rw [ht.translate_eq]
    exact BundledModule.translate_mono hsub h
  · rw [hs.compile_fst] at h
    rw [ht.compile_fst, hconfig]
    exact compiled_mono hsub hstrict h
  · rw [hs.compile_fst, ht.compile_fst, hconfig]
    exact compiled_eq_of_same hsub hsub' e

/-- A strict compilation under two modules, one of them activated twice, and under four others
that contain them; and one that fails alike whether its only module is activated once or twice. -/
theorem compile_selection_twoSounds :
    (∃ out : Compiled, ((ofModules [.unaccent, .fuzzyMatch, .unaccent] ⟨"", true, none⟩).compile
          (.ofModules [.unaccent, .fuzzyMatch, .unaccent]) .twoSounds).1 = .ok out ∧
        out.sql = "concat(soundex(unaccent(name)), unaccent(soundex(title)))" ∧
        ((ofModules [.trigrams, .fuzzyMatch, .geometry, .unaccent] ⟨"", true, none⟩).compile
          (.ofModules [.trigrams, .fuzzyMatch, .geometry, .unaccent]) .twoSounds).1 = .ok out) ∧
      ((ofModules [.unaccent, .unaccent] ⟨"", true, none⟩).compile
          (.ofModules [.unaccent, .unaccent]) .twoSounds).1 =
        ((ofModules [.unaccent] ⟨"", true, none⟩).compile
          (.ofModules [.unaccent]) .twoSounds).1 := by
  refine ⟨⟨_, rfl, rfl, ?_⟩, ?_⟩
  · exact (compile_selection (by decide) (ofModules_uses _ _) (ofModules_uses _ _) rfl).2.1 rfl _ _
      rfl
  · exact (compile_selection (by decide) (ofModules_uses _ _) (ofModules_uses _ _) rfl).2.2
      (by decide) _

end Session

end SqlLowering
