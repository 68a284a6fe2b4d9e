import SqlLowering.Proofs.History
import SqlLowering.Proofs.Shifts

/-!
# Translating before or after lowering

A call can be translated as it stands, and the replacement lowered, or it can be translated when its
operands are lowered, which is what lowering does. With bundled modules both give the same native
form (`translate_commutes`). Whether there is a form for the call depends on its shape, and lowering
the operands keeps it. What the form makes of the operands depends on whether the last one is an
integer constant, if that is a position, and lowering keeps the constants.
-/

namespace SqlLowering

open BundledModule (registry activeForm? translate_eq_replaced_iff)

/-! ## Replaced calls -/

/-- A call is replaced when there is an active form for its shape. -/
theorem exists_translate_eq_replaced_iff {ms : List BundledModule} {call : MethodCall} :
    (∃ e, (registry ms).translate call = .replaced e) ↔ (activeForm? ms call.shape).isSome := by
  simp only [translate_eq_replaced_iff]
  rw [Option.isSome_iff_exists]
  constructor
  · rintro ⟨e, form, hform, -⟩
    exact ⟨form, hform⟩
  · rintro ⟨form, hform⟩
    obtain ⟨e, he⟩ := BundledModule.exists_apply_of_activeForm? hform
    exact ⟨e, form, hform, he⟩

/-! ## Lowering in a session -/

namespace Session

def lower (s : Session) (d : Depot) (e : Expr) : Except CompileFailure Expr :=
  (d.get s.container).lower s.config e

/-- The second call is the first one with its receiver and its arguments lowered. -/
structure LowersOperands (s : Session) (d : Depot) (call call' : MethodCall) : Prop where
  declaringType : call'.declaringType = call.declaringType
  method : call'.method = call.method
  receiver : Option.Rel (fun x x' => s.lower d x = .ok x') call.receiver call'.receiver
  args : List.Forall₂ (fun x x' => s.lower d x = .ok x') call.args call'.args

variable {s : Session} {d : Depot} {ms : List BundledModule} {call call' : MethodCall}

theorem Uses.lower_eq (hs : s.Uses d ms) (e : Expr) :
    s.lower d e = e.lowered (registry ms) s.config := by
  rw [lower, Container.lower_eq hs.faithful, hs.registry_eq]

theorem exists_lowersOperands (hs : s.Uses d ms)
    (h : ∀ x ∈ call.operands, ∃ x', s.lower d x = .ok x') :
    ∃ call', s.LowersOperands d call call' := by
  simp only [hs.lower_eq] at h
  obtain ⟨es, hes⟩ := Expr.exists_loweredList_iff.2 h
  rw [MethodCall.operands, Expr.loweredList_operands] at hes
  obtain ⟨receiver, hreceiver, hes⟩ := bind_eq_ok_iff.1 hes
  obtain ⟨args, hargs, -⟩ := bind_eq_ok_iff.1 hes
  refine ⟨⟨call.declaringType, call.method, receiver, args⟩, rfl, rfl, ?_, ?_⟩
  · simp only [hs.lower_eq]
    exact Expr.loweredOption_eq_ok_iff.1 hreceiver
  · simp only [hs.lower_eq]
    exact Expr.loweredList_eq_ok_iff.1 hargs

namespace LowersOperands

theorem shape_eq (h : s.LowersOperands d call call') : call'.shape = call.shape := by
  have hshape := shape_eq_of_rel call.declaringType call.method h.receiver h.args
  rw [← hshape]
  unfold MethodCall.shape
  rw [h.declaringType, h.method]
  rfl

theorem loweredList_operands (h : s.LowersOperands d call call') (hs : s.Uses d ms) :
    Expr.loweredList (registry ms) s.config call.operands = .ok call'.operands := by
  have hoperands := forall₂_operands h.receiver h.args
  simp only [hs.lower_eq] at hoperands
  exact Expr.loweredList_eq_ok_iff.2 hoperands

/-- **The replacement of the call lowers to the replacement of the lowered call.** -/
theorem lowered_of_translate (h : s.LowersOperands d call call') (hs : s.Uses d ms) {e e' : Expr}
    (he : (registry ms).translate call = .replaced e)
    (he' : (registry ms).translate call' = .replaced e') :
    e.lowered (registry ms) s.config = .ok e' := by
  obtain ⟨form, hform, happly⟩ := translate_eq_replaced_iff.1 he
  obtain ⟨form', hform', happly'⟩ := translate_eq_replaced_iff.1 he'
  rw [h.shape_eq, hform] at hform'
  obtain rfl := Option.some.inj hform'
  obtain ⟨make, hmake, hlowered⟩ := Expr.exists_lowered_of_apply ms s.config happly
  have hoperands := h.loweredList_operands hs
  have hlength : call'.operands.length = call.operands.length :=
    (Expr.loweredList_eq_ok_iff.1 hoperands).length_eq.symm
  rw [hmake _ hlength] at happly'
  rw [hlowered, hoperands, ← Outcome.replaced.inj happly']
  rfl

end LowersOperands

/-- **Translating a call commutes with lowering its operands**, when these can be lowered. The call
is replaced exactly when it is replaced with its operands lowered. Then its replacement lowers to
the replacement of the lowered call, and this is what the call itself lowers to. No expression
becomes a constant or another one when it is lowered, and no constant becomes anything else. -/
theorem translate_commutes (hs : s.Uses d ms)
    (h : ∀ x ∈ call.operands, ∃ x', s.lower d x = .ok x') :
    (∃ call', s.LowersOperands d call call') ∧
    (∀ call', s.LowersOperands d call call' →
      ((∃ e, s.translate d call = .replaced e) ↔ ∃ e', s.translate d call' = .replaced e') ∧
      ∀ e e', s.translate d call = .replaced e → s.translate d call' = .replaced e' →
        s.lower d e = .ok e' ∧ s.lower d call.toExpr = .ok e') ∧
    ∀ (x x' : Expr) (v : Scalar), s.lower d x = .ok x' → (x' = .literal v ↔ x = .literal v) := by
  refine ⟨exists_lowersOperands hs h, fun call' hcall => ?_, fun x x' v hx => ?_⟩
  · simp only [hs.lower_eq, hs.translate_eq]
    refine ⟨?_, fun e e' he he' => ?_⟩
    · rw [exists_translate_eq_replaced_iff, exists_translate_eq_replaced_iff, hcall.shape_eq]
    · have hlowered := hcall.lowered_of_translate hs he he'
      obtain ⟨form, hform, happly⟩ := translate_eq_replaced_iff.1 he
      refine ⟨hlowered, ?_⟩
      rw [← hlowered]
      exact (Expr.lowered_eq_of_apply happly hform rfl).symm
  · rw [hs.lower_eq] at hx
    have hconstant := Expr.constant?_lowered hx
    constructor
    · rintro rfl
      exact Expr.eq_literal_of_constant? hconstant.symm
    · rintro rfl
      exact Expr.eq_literal_of_constant? hconstant

/-- The position is a call of another module with a position inside it. The sum is made before that
call is translated, and in the other order afterwards. -/
theorem translate_commutes_textOfPart :
    let s : Session := ofModules [.geometry, .fuzzyMatch] .initial
    let d : Depot := .ofModules [.geometry, .fuzzyMatch]
    let shape : Expr := .column "shape" .geometry
    let names (subscripts : List Expr) (origin : Origin) : Expr :=
      .index (.column "names" .collection) subscripts origin
    let sound (name : Expr) : Expr := .methodCall .dbFunctions "Soundex" none [name]
    let call (position : Expr) : MethodCall := ⟨.geometry, "GetGeometryN", some shape, [position]⟩
    let position : Expr := sound (names [.literal (.int32 7), .column "i" .int32] .zero)
    let position' : Expr := .function "soundex" [names [.literal (.int32 8),
      .binary "+" (.column "i" .int32) (.literal (.int32 1))] .one]
    let replacement (position : Expr) : Expr :=
      .function "ST_GeometryN" [shape, .binary "+" position (.literal (.int32 1))]
    s.translate d (call position) = .replaced (replacement position) ∧
      s.translate d (call position') = .replaced (replacement position') ∧
      s.lower d (replacement position) = .ok (replacement position') ∧
      s.lower d (call position).toExpr = .ok (replacement position') := by
  intro s d shape names sound call position position' replacement
  have hs : s.Uses d [.geometry, .fuzzyMatch] := ofModules_uses _ _
  have hoperands : ∀ x ∈ (call position).operands, ∃ x', s.lower d x = .ok x' := by
    intro x hx
    rw [MethodCall.operands] at hx
    simp only [call, Option.toList_some, List.singleton_append, List.mem_cons, List.not_mem_nil,
      or_false] at hx
    rcases hx with rfl | rfl
    · exact ⟨shape, rfl⟩
    · exact ⟨position', rfl⟩
  have hlowers : s.LowersOperands d (call position) (call position') :=
    ⟨rfl, rfl, .some rfl, .cons rfl .nil⟩
  obtain ⟨-, hcommutes, -⟩ := translate_commutes hs hoperands
  refine ⟨rfl, rfl, ?_⟩
  exact (hcommutes (call position') hlowers).2 _ _ rfl rfl

end Session

end SqlLowering
