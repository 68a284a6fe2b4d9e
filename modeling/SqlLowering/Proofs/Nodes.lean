import SqlLowering.Proofs.Lowered
import SqlLowering.Proofs.Modules

/-!
# What lowering does at a node

One statement for each kind of node says what a successful lowering makes of it, and
`lowered_induction` is the induction over successful lowerings with bundled modules that they give:
a relation between expressions and their native forms holds if it holds at each node whenever it
holds of the node's children. A call has two cases. Without a form it stays a call, with its
operands lowered; with a form it becomes what the form makes of its lowered operands, and is not
lowered again.

Neither case depends on more than the shape of the call, which lowering keeps, and neither makes a
constant. So lowering keeps the constants where they are and makes no others (`constant?_lowered`),
which is what the shift of subscripts looks at.
-/

namespace SqlLowering

open BundledModule (registry activeForm?)

/-! ## Answers to calls -/

section Answer

variable {ms : List BundledModule} {call : MethodCall}

theorem answer_of_none (h : activeForm? ms call.shape = none) :
    (registry ms).answer call = .ok call.toExpr := by
  rw [Registry.answer, BundledModule.translate_registry, h]

theorem answer_of_some {form : NativeForm} {e : Expr} (h : activeForm? ms call.shape = some form)
    (he : form.apply call.operands = .replaced e) : (registry ms).answer call = .ok e := by
  rw [Registry.answer, BundledModule.translate_registry, h]
  simp only [he]

/-- A call stays when there is no form for it, and else becomes what the form makes of it. -/
theorem answer_eq_ok {e : Expr} (h : (registry ms).answer call = .ok e) :
    activeForm? ms call.shape = none ∧ e = call.toExpr ∨
      ∃ form, activeForm? ms call.shape = some form ∧ form.apply call.operands = .replaced e := by
  cases hform : activeForm? ms call.shape with
  | none =>
      rw [answer_of_none hform] at h
      exact Or.inl ⟨rfl, (Except.ok.inj h).symm⟩
  | some form =>
      obtain ⟨e', he'⟩ := BundledModule.exists_apply_of_activeForm? hform
      rw [answer_of_some hform he'] at h
      exact Or.inr ⟨form, rfl, Except.ok.inj h ▸ he'⟩

theorem exists_answer (ms : List BundledModule) (call : MethodCall) :
    ∃ e, (registry ms).answer call = .ok e := by
  cases hform : activeForm? ms call.shape with
  | none => exact ⟨_, answer_of_none hform⟩
  | some form =>
      obtain ⟨e, he⟩ := BundledModule.exists_apply_of_activeForm? hform
      exact ⟨e, answer_of_some hform he⟩

end Answer

theorem shape_eq_of_rel {R : Expr → Expr → Prop} {r r' : Option Expr} {as as' : List Expr}
    (t : ValueType) (m : String) (hr : Option.Rel R r r') (has : List.Forall₂ R as as') :
    (MethodCall.mk t m r' as').shape = (MethodCall.mk t m r as).shape := by
  have hstatic : r'.isNone = r.isNone := by cases hr <;> rfl
  unfold MethodCall.shape MethodCall.arity MethodCall.isStatic
  rw [hstatic, has.length_eq]

namespace Expr

/-! ## One node -/

section Node

variable {registry : Registry} {config : Config} {e' : Expr}

theorem lowered_methodCall_eq_ok {t : ValueType} {m : String} {r : Option Expr} {as : List Expr}
    (h : (methodCall t m r as).lowered registry config = .ok e') :
    ∃ r' as', Option.Rel (fun x x' => x.lowered registry config = .ok x') r r' ∧
      List.Forall₂ (fun x x' => x.lowered registry config = .ok x') as as' ∧
      registry.answer ⟨t, m, r', as'⟩ = .ok e' := by
  rw [lowered] at h
  obtain ⟨r', hr, h⟩ := bind_eq_ok_iff.1 h
  obtain ⟨as', has, h⟩ := bind_eq_ok_iff.1 h
  exact ⟨r', as', loweredOption_eq_ok_iff.1 hr, loweredList_eq_ok_iff.1 has, h⟩

theorem lowered_function_eq_ok {name : String} {as : List Expr}
    (h : (function name as).lowered registry config = .ok e') :
    ∃ as', List.Forall₂ (fun x x' => x.lowered registry config = .ok x') as as' ∧
      e' = function name as' := by
  rw [lowered] at h
  obtain ⟨as', has, h⟩ := bind_eq_ok_iff.1 h
  exact ⟨as', loweredList_eq_ok_iff.1 has, (Except.ok.inj h).symm⟩

theorem lowered_binary_eq_ok {operator : String} {l r : Expr}
    (h : (binary operator l r).lowered registry config = .ok e') :
    ∃ l' r', l.lowered registry config = .ok l' ∧ r.lowered registry config = .ok r' ∧
      e' = binary operator l' r' := by
  rw [lowered] at h
  obtain ⟨l', hl, h⟩ := bind_eq_ok_iff.1 h
  obtain ⟨r', hr, h⟩ := bind_eq_ok_iff.1 h
  exact ⟨l', r', hl, hr, (Except.ok.inj h).symm⟩

theorem lowered_cast_eq_ok {target : DataType} {storeType : Option TypeDescriptor} {x : Expr}
    (h : (cast target storeType x).lowered registry config = .ok e') :
    ∃ x' descriptor, x.lowered registry config = .ok x' ∧
      (config.castTarget target).storeType? = some descriptor ∧
      e' = cast target (some descriptor) x' := by
  rw [lowered] at h
  obtain ⟨x', hx, h⟩ := bind_eq_ok_iff.1 h
  unfold Config.resolvedCast at h
  cases hstore : (config.castTarget target).storeType? with
  | none =>
      rw [hstore] at h
      cases h
  | some descriptor =>
      rw [hstore] at h
      exact ⟨x', descriptor, hx, rfl, (Except.ok.inj h).symm⟩

theorem lowered_index_eq_ok {a : Expr} {is : List Expr} {origin : Origin}
    (h : (index a is origin).lowered registry config = .ok e') :
    ∃ a' is', a.lowered registry config = .ok a' ∧
      List.Forall₂ (fun x x' => x.lowered registry config = .ok x') is is' ∧
      e' = indexFromOne a' is' origin := by
  rw [lowered] at h
  obtain ⟨a', ha, h⟩ := bind_eq_ok_iff.1 h
  obtain ⟨is', his, h⟩ := bind_eq_ok_iff.1 h
  exact ⟨a', is', ha, loweredList_eq_ok_iff.1 his, (Except.ok.inj h).symm⟩

end Node

/-! ## Constants -/

theorem constant?_indexFromOne (a : Expr) (is : List Expr) (origin : Origin) :
    (indexFromOne a is origin).constant? = none := by
  cases origin <;> rfl

theorem constant?_of_apply {form : NativeForm} {es : List Expr} {e : Expr}
    (h : form.apply es = .replaced e) : e.constant? = none := by
  rcases NativeForm.apply_eq_replaced h with ⟨_, _, rfl⟩ | ⟨_, _, _, _, _, rfl⟩ | ⟨_, _, rfl⟩
  · rfl
  · rfl
  · rfl

variable {ms : List BundledModule} {config : Config}

/-- Lowering makes no constant and unmakes none. -/
theorem constant?_lowered {e e' : Expr} (h : e.lowered (registry ms) config = .ok e') :
    e'.constant? = e.constant? := by
  cases e with
  | column name type => exact Except.ok.inj h ▸ rfl
  | literal value => exact Except.ok.inj h ▸ rfl
  | methodCall t m r as =>
      obtain ⟨r', as', _, _, h⟩ := lowered_methodCall_eq_ok h
      rcases answer_eq_ok h with ⟨_, rfl⟩ | ⟨form, _, happly⟩
      · rfl
      · exact constant?_of_apply happly
  | function name as =>
      obtain ⟨as', _, rfl⟩ := lowered_function_eq_ok h
      rfl
  | binary operator l r =>
      obtain ⟨l', r', _, _, rfl⟩ := lowered_binary_eq_ok h
      rfl
  | cast target storeType x =>
      obtain ⟨x', descriptor, _, _, rfl⟩ := lowered_cast_eq_ok h
      rfl
  | index a is origin =>
      obtain ⟨a', is', _, _, rfl⟩ := lowered_index_eq_ok h
      exact constant?_indexFromOne a' is' origin

/-! ## Induction over successful lowerings -/

/-- The operands have the same constants in the same places. -/
abbrev SameConstants (es es' : List Expr) : Prop :=
  List.Forall₂ (fun x x' => constant? x' = constant? x) es es'

/-- **Induction over successful lowerings.** In the cases that shift positions the operands are
known to have kept their constants. -/
theorem lowered_induction {P : Expr → Expr → Prop}
    (column : ∀ name type, P (.column name type) (.column name type))
    (literal : ∀ value, P (.literal value) (.literal value))
    (kept : ∀ t m r r' as as', Option.Rel P r r' → List.Forall₂ P as as' →
      activeForm? ms (MethodCall.mk t m r as).shape = none →
      (Expr.methodCall t m r as).lowered (registry ms) config = .ok (.methodCall t m r' as') →
      P (.methodCall t m r as) (.methodCall t m r' as'))
    (translated : ∀ t m r as operands form e, List.Forall₂ P (r.toList ++ as) operands →
      SameConstants (r.toList ++ as) operands →
      activeForm? ms (MethodCall.mk t m r as).shape = some form →
      form.apply operands = .replaced e → P (.methodCall t m r as) e)
    (function : ∀ name as as', List.Forall₂ P as as' → P (.function name as) (.function name as'))
    (binary : ∀ operator l r l' r', P l l' → P r r' →
      P (.binary operator l r) (.binary operator l' r'))
    (cast : ∀ target storeType x x' descriptor, P x x' →
      (config.castTarget target).storeType? = some descriptor →
      P (.cast target storeType x) (.cast target (some descriptor) x'))
    (index : ∀ a a' is is' origin, P a a' → List.Forall₂ P is is' → SameConstants is is' →
      P (.index a is origin) (indexFromOne a' is' origin))
    {e e' : Expr} (h : e.lowered (registry ms) config = .ok e') : P e e' := by
  have hlist : ∀ (es es' : List Expr),
      (∀ x ∈ es, ∀ {x'}, x.lowered (registry ms) config = .ok x' → P x x') →
      List.Forall₂ (fun x x' => x.lowered (registry ms) config = .ok x') es es' →
      List.Forall₂ P es es' := by
    intro es es' hes h
    exact ((List.forall₂_and_left es es').2 ⟨hes, h⟩).imp fun _ _ hx => hx.1 hx.2
  induction e generalizing e' with
  | column name type => exact Except.ok.inj h ▸ column name type
  | literal value => exact Except.ok.inj h ▸ literal value
  | methodCall t m r as hr has =>
      obtain ⟨r', as', hr', has', hanswer⟩ := lowered_methodCall_eq_ok h
      have hshape := shape_eq_of_rel t m hr' has'
      rcases answer_eq_ok hanswer with ⟨hform, rfl⟩ | ⟨form, hform, happly⟩
      · rw [hshape] at hform
        refine kept t m r r' as as' ?_ (hlist as as' has has') hform h
        cases hr' with
        | none => exact .none
        | some hx => exact .some (hr _ rfl hx)
      · rw [hshape] at hform
        have hoperands := forall₂_operands hr' has'
        refine translated t m r as _ form e' (hlist _ _ ?_ hoperands)
          (hoperands.imp fun _ _ hx => constant?_lowered hx) hform happly
        intro x hx
        rw [List.mem_append, Option.mem_toList] at hx
        rcases hx with hx | hx
        · exact hr x hx
        · exact has x hx
  | function name as has =>
      obtain ⟨as', has', rfl⟩ := lowered_function_eq_ok h
      exact function name as as' (hlist as as' has has')
  | binary operator l r hl hr =>
      obtain ⟨l', r', hl', hr', rfl⟩ := lowered_binary_eq_ok h
      exact binary operator l r l' r' (hl hl') (hr hr')
  | cast target storeType x hx =>
      obtain ⟨x', descriptor, hx', hstore, rfl⟩ := lowered_cast_eq_ok h
      exact cast target storeType x x' descriptor (hx hx') hstore
  | index a is origin ha his =>
      obtain ⟨a', is', ha', his', rfl⟩ := lowered_index_eq_ok h
      exact index a a' is is' origin (ha ha') (hlist is is' his his')
        (his'.imp fun _ _ hx => constant?_lowered hx)

end Expr

end SqlLowering
