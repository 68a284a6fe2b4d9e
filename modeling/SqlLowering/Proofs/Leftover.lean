import SqlLowering.Proofs.Sessions
import SqlLowering.Proofs.Shifts

/-!
# Calls left in a compiled expression

The calls of a compiled expression are those of the source that no active module recognises, each
in native form, in the order in which the source has them. The calls around them became functions
and operators, and the positions beside them were shifted, but a function, an operator and a sum
have the calls of their operands, in the order of the operands, and a call of their own they have
not (`methodCalls_of_apply`, `methodCalls_indexFromOne`).

Whether a module recognises a call is a matter of its shape (`recognises_congr`), which lowering
does not change.
-/

namespace SqlLowering

open BundledModule (registry activeForm? recognises recognises_eq)

namespace BundledModule

theorem recognises_congr (ms : List BundledModule) {call call' : MethodCall}
    (h : call.shape = call'.shape) : recognises ms call = recognises ms call' := by
  rw [recognises_eq, recognises_eq, h]

end BundledModule

theorem qualifiedName_congr {call call' : MethodCall} (h : call.shape = call'.shape) :
    call.qualifiedName = call'.qualifiedName := by
  have htype := congrArg CallShape.declaringType h
  have hname := congrArg CallShape.name h
  unfold MethodCall.shape at htype hname
  dsimp only at htype hname
  rw [MethodCall.qualifiedName, MethodCall.qualifiedName, htype, hname]

namespace Expr

/-! ## The calls of shifted positions -/

theorem methodCalls_oneBased (e : Expr) : e.oneBased.methodCalls = e.methodCalls := by
  cases hinteger : e.integer? with
  | some n =>
      obtain ⟨value, hvalue, _⟩ := Option.bind_eq_some_iff.1 hinteger
      obtain ⟨value', hvalue'⟩ := exists_oneBased_eq_literal hinteger
      rw [hvalue', eq_literal_of_constant? hvalue]
      rfl
  | none =>
      rw [oneBased_of_integer?_eq_none hinteger, methodCalls]
      exact List.append_nil _

theorem methodCalls_shiftLast (es : List Expr) :
    (shiftLast es).flatMap methodCalls = es.flatMap methodCalls := by
  induction es using shiftLast.induct with
  | case1 => rfl
  | case2 e => rw [shiftLast, List.flatMap_singleton, List.flatMap_singleton, methodCalls_oneBased]
  | case3 e e' es ih => rw [shiftLast, List.flatMap_cons, List.flatMap_cons, ih]

theorem methodCalls_map_literal (values : List Scalar) :
    (values.map literal).flatMap methodCalls = [] := by
  induction values with
  | nil => rfl
  | cons value values ih => rw [List.map_cons, List.flatMap_cons, ih, methodCalls, List.append_nil]

theorem methodCalls_oneBasedList (es : List Expr) :
    (oneBasedList es).flatMap methodCalls = es.flatMap methodCalls := by
  cases hconstants : constants? es with
  | some ns =>
      obtain ⟨values, hvalues⟩ := exists_map_literal_of_constants? hconstants
      rw [oneBasedList_of_constants? hconstants, methodCalls_map_literal, hvalues,
        methodCalls_map_literal]
  | none =>
      rw [oneBasedList, hconstants]
      dsimp only
      rw [List.flatMap_map]
      simp only [methodCalls_oneBased]

theorem methodCalls_indexFromOne (a : Expr) (is : List Expr) (origin : Origin) :
    (indexFromOne a is origin).methodCalls = a.methodCalls ++ is.flatMap methodCalls := by
  cases origin with
  | one => rw [indexFromOne, methodCalls, methodCallsList_eq]
  | zero => rw [indexFromOne, methodCalls, methodCallsList_eq, methodCalls_oneBasedList]

/-- What a form makes of operands has their calls. -/
theorem methodCalls_of_apply {form : NativeForm} {es : List Expr} {e : Expr}
    (h : form.apply es = .replaced e) : e.methodCalls = es.flatMap methodCalls := by
  rcases NativeForm.apply_eq_replaced h with ⟨name, rfl, rfl⟩ | ⟨symbol, l, r, rfl, rfl, rfl⟩ |
    ⟨name, rfl, rfl⟩
  · rw [methodCalls, methodCallsList_eq]
  · rw [methodCalls, List.flatMap_cons, List.flatMap_singleton]
  · rw [methodCalls, methodCallsList_eq, methodCalls_shiftLast]

/-! ## The calls that are left -/

/-- The calls that no signature of the modules accepts. -/
def unrecognised (ms : List BundledModule) (e : Expr) : List MethodCall :=
  e.methodCalls.filter fun call => !recognises ms call

/-- A call that was left, in native form. -/
structure LeftAs (ms : List BundledModule) (config : Config) (call call' : MethodCall) : Prop where
  shape_eq : call'.shape = call.shape
  lowered_eq : call.toExpr.lowered (registry ms) config = .ok call'.toExpr

variable {ms : List BundledModule} {config : Config}

theorem filter_flatMap_methodCalls (es : List Expr) :
    ((es.flatMap methodCalls).filter fun call => !recognises ms call) =
      es.flatMap (unrecognised ms) :=
  List.filter_flatMap ..

theorem map_qualifiedName_of_left {calls calls' : List MethodCall}
    (h : List.Forall₂ (LeftAs ms config) calls calls') :
    calls'.map MethodCall.qualifiedName = calls.map MethodCall.qualifiedName := by
  induction h with
  | nil => rfl
  | cons hcall _ ih => rw [List.map_cons, List.map_cons, ih, qualifiedName_congr hcall.shape_eq]

theorem forall₂_flatMap_unrecognised {es es' : List Expr}
    (h : List.Forall₂ (fun x x' =>
      List.Forall₂ (LeftAs ms config) (x.unrecognised ms) x'.methodCalls) es es') :
    List.Forall₂ (LeftAs ms config) (es.flatMap (unrecognised ms)) (es'.flatMap methodCalls) := by
  induction h with
  | nil => exact .nil
  | cons hx _ ih =>
      rw [List.flatMap_cons, List.flatMap_cons]
      exact List.rel_append hx ih

/-- **The calls of a native form are the unrecognised ones of the source**, in order. -/
theorem forall₂_unrecognised {e e' : Expr} (h : e.lowered (registry ms) config = .ok e') :
    List.Forall₂ (LeftAs ms config) (e.unrecognised ms) e'.methodCalls := by
  refine lowered_induction
    (P := fun e e' => List.Forall₂ (LeftAs ms config) (e.unrecognised ms) e'.methodCalls)
    ?column ?literal ?kept ?translated ?function ?binary ?cast ?index h
  case column =>
    intro name type
    exact .nil
  case literal =>
    intro value
    exact .nil
  case kept =>
    intro t m r r' as as' hr has hform hlowered
    have hoperands := forall₂_flatMap_unrecognised (forall₂_operands hr has)
    have hleft : recognises ms ⟨t, m, r, as⟩ = false := by
      rw [recognises_eq, hform]
      rfl
    rw [unrecognised, methodCalls_methodCall, methodCalls_methodCall, List.filter_cons, hleft,
      filter_flatMap_methodCalls]
    exact .cons ⟨shape_eq_of_rel t m hr has, hlowered⟩ hoperands
  case translated =>
    intro t m r as operands form e hoperands _ hform happly
    have hfound : recognises ms ⟨t, m, r, as⟩ = true := by
      rw [recognises_eq, hform]
      rfl
    rw [unrecognised, methodCalls_methodCall, List.filter_cons, hfound,
      filter_flatMap_methodCalls, methodCalls_of_apply happly]
    exact forall₂_flatMap_unrecognised hoperands
  case function =>
    intro name as as' has
    rw [unrecognised, methodCalls, methodCalls, methodCallsList_eq, methodCallsList_eq,
      filter_flatMap_methodCalls]
    exact forall₂_flatMap_unrecognised has
  case binary =>
    intro operator l r l' r' hl hr
    rw [unrecognised, methodCalls, methodCalls, List.filter_append]
    exact List.rel_append hl hr
  case cast =>
    intro target storeType x x' descriptor hx _
    exact hx
  case index =>
    intro a a' is is' origin ha his _
    rw [unrecognised, methodCalls, methodCallsList_eq, methodCalls_indexFromOne,
      List.filter_append, filter_flatMap_methodCalls]
    exact List.rel_append ha (forall₂_flatMap_unrecognised his)

end Expr

/-! ## Sessions -/

/-- The sound of a stripped text, and the stripped sound of a text. -/
def Expr.twoSounds : Expr :=
  .function "concat" [
    .methodCall .dbFunctions "Soundex" none [
      .methodCall .dbFunctions "Unaccent" none [.column "name" .text]],
    .methodCall .dbFunctions "Unaccent" none [
      .methodCall .dbFunctions "Soundex" none [.column "title" .text]]]

namespace Session

/-- **Exactly the unrecognised calls are left**: compilation reports their names, in the order of
the source and with repetitions, and leaves each of them in the compiled expression, in native form
and in its place among the others. -/
theorem compile_untranslated {s : Session} {d : Depot} {ms : List BundledModule} {e : Expr}
    {out : Compiled} (hs : s.Uses d ms) (hout : (s.compile d e).1 = .ok out) :
    out.untranslated = (e.unrecognised ms).map MethodCall.qualifiedName ∧
    List.Forall₂ (Expr.LeftAs ms s.config) (e.unrecognised ms) out.expr.methodCalls ∧
    ∀ call call' : MethodCall, call.shape = call'.shape →
      recognises ms call = recognises ms call' := by
  rw [hs.compile_fst] at hout
  obtain ⟨hlowered, _, huntranslated⟩ := compiled_eq_ok hout
  have hleft := Expr.forall₂_unrecognised hlowered
  refine ⟨?_, hleft, fun call call' h => BundledModule.recognises_congr ms h⟩
  rw [huntranslated, Expr.map_qualifiedName_of_left hleft]

/-- One call is left outside of a translated one and one inside. -/
theorem compile_untranslated_twoSounds :
    ∃ out : Compiled, ((ofModules [.unaccent] ⟨"", false, none⟩).compile
        (.ofModules [.unaccent]) .twoSounds).1 = .ok out ∧
      out.untranslated =
        (Expr.twoSounds.unrecognised [.unaccent]).map MethodCall.qualifiedName ∧
      out.untranslated = ["DbFunctions.Soundex", "DbFunctions.Soundex"] := by
  refine ⟨_, rfl, ?_, rfl⟩
  exact (compile_untranslated (ofModules_uses [.unaccent] ⟨"", false, none⟩) rfl).1

end Session

end SqlLowering
