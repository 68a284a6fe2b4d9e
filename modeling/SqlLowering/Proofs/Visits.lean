import SqlLowering.Proofs.Lowered

/-!
# Visiting children

The children of a node are listed by `Expr.children` and visited by `Expr.visitChildren`, and each
goes through the kinds of nodes for itself. They agree: visiting the children of a node is visiting
the list of its children (`Expr.visitChildren_eq`), whichever places the node keeps them in.

In a list, the visitor is called on one expression after the other until it stops. What it has left
by then stands in the places of the expressions that it was called on, and the others are as they
were (`Expr.visitList_of_stop`).

Lowering is such a visit of the children, before the node itself (`Expr.run_lower`).
-/

namespace SqlLowering

/-- Goes on with the result of a visit, unless it stopped. -/
def Visit.andThen {α β : Type} (v : Visit MappingSource CompileFailure α) (next : α → Lowering β) :
    Except CompileFailure β × MappingSource :=
  match v.stop with
  | none => (next v.result).run v.state
  | some failure => (.error failure, v.state)

namespace Expr

variable {σ ε : Type} (visit : σ → Expr → Visit σ ε Expr)

/-- What a visitor does to expressions one after the other, as long as it does not stop. -/
def visits (s : σ) : List Expr → List (Visit σ ε Expr)
  | [] => []
  | e :: es => visit s e :: visits (visit s e).state es

/-- The visitor that also lists the expressions that it is called on. -/
def logged : List Expr × σ → Expr → Visit (List Expr × σ) ε Expr
  | (seen, s), e => ⟨(visit s e).result, (seen ++ [e], (visit s e).state), (visit s e).stop⟩

/-! ## Lists -/

theorem visitList_of_noStop (s : σ) (es : List Expr)
    (h : ∀ y ∈ visits visit s es, y.stop = none) :
    visitList visit s es =
      ⟨(visits visit s es).map Visit.result,
        ((visits visit s es).getLast?.map Visit.state).getD s, none⟩ := by
  induction es generalizing s with
  | nil => rfl
  | cons e es ih =>
      rw [visits, List.forall_mem_cons] at h
      obtain ⟨hhead, htail⟩ := h
      simp only [visitList, hhead]
      rw [ih _ htail, visits, List.getLast?_cons]
      cases (visits visit (visit s e).state es).getLast? <;> rfl

/-- A visitor that stops leaves the expressions behind the place where it stops. -/
theorem visitList_of_stop (s : σ) (es : List Expr) {k : Nat} {x : Visit σ ε Expr} {reason : ε}
    (hx : (visits visit s es)[k]? = some x) (hstop : x.stop = some reason)
    (hbefore : ∀ j < k, ∀ y ∈ (visits visit s es)[j]?, y.stop = none) :
    visitList visit s es =
      ⟨((visits visit s es).take k).map Visit.result ++ x.result :: es.drop (k + 1), x.state,
        some reason⟩ := by
  induction es generalizing s k with
  | nil => cases hx
  | cons e es ih =>
      cases k with
      | zero =>
          obtain rfl : visit s e = x := Option.some.inj hx
          simp only [visitList, hstop]
          rfl
      | succ k =>
          have hhead : (visit s e).stop = none := hbefore 0 (Nat.succ_pos k) _ rfl
          have htail := ih _ hx fun j hj y hy => hbefore (j + 1) (Nat.succ_lt_succ hj) y hy
          simp only [visitList, hhead]
          rw [htail]
          rfl

/-- Logging changes nothing else. -/
theorem getElem?_visits_logged (seen : List Expr) (s : σ) (es : List Expr) (k : Nat) :
    (visits (logged visit) (seen, s) es)[k]? =
      ((visits visit s es)[k]?).map fun y =>
        ⟨y.result, (seen ++ es.take (k + 1), y.state), y.stop⟩ := by
  induction es generalizing seen s k with
  | nil => rfl
  | cons e es ih =>
      cases k with
      | zero => rfl
      | succ k =>
          have htail := ih (seen ++ [e]) (visit s e).state k
          rw [List.append_assoc] at htail
          exact htail

theorem length_visits (s : σ) (es : List Expr) : (visits visit s es).length = es.length := by
  induction es generalizing s with
  | nil => rfl
  | cons e es ih => rw [visits, List.length_cons, ih, List.length_cons]

theorem seen_visits_logged (s : σ) (es : List Expr) :
    (((visits (logged visit) ([], s) es).getLast?.map Visit.state).getD ([], s)).1 = es := by
  by_cases hnil : es = []
  · subst hnil
    rfl
  · have hpos : 0 < es.length := List.length_pos_iff.2 hnil
    have hwhole : es.length - 1 + 1 = es.length := by omega
    have hlast : es.length - 1 < (visits visit s es).length := by
      rw [length_visits]
      omega
    rw [List.getLast?_eq_getElem?, length_visits, getElem?_visits_logged,
      List.getElem?_eq_getElem hlast, hwhole, List.take_length]
    rfl

theorem stop_of_visits_logged {seen : List Expr} {s : σ} {es : List Expr} {k : Nat}
    (h : ∀ y ∈ (visits visit s es)[k]?, y.stop = none) :
    ∀ y ∈ (visits (logged visit) (seen, s) es)[k]?, y.stop = none := by
  intro y' hy'
  rw [Option.mem_def, getElem?_visits_logged, Option.map_eq_some_iff] at hy'
  obtain ⟨y, hy, rfl⟩ := hy'
  exact h y hy

/-! ## Nodes -/

theorem visitList_cons (s : σ) (first : Expr) (rest : List Expr) :
    visitList visit s (first :: rest) =
      let v := visitThenList visit s first rest
      ⟨v.result.1 :: v.result.2, v.state, v.stop⟩ := by
  unfold visitThenList
  cases h : (visit s first).stop <;> simp [visitList, h]

theorem visitList_pair (s : σ) (left right : Expr) :
    visitList visit s [left, right] =
      let v := visitPair visit s left right
      ⟨[v.result.1, v.result.2], v.state, v.stop⟩ := by
  unfold visitPair
  cases h : (visit s left).stop with
  | some reason => simp [visitList, h]
  | none => cases h' : (visit (visit s left).state right).stop <;> simp [visitList, h, h']

theorem visitList_singleton (s : σ) (e : Expr) :
    visitList visit s [e] = ⟨[(visit s e).result], (visit s e).state, (visit s e).stop⟩ := by
  cases h : (visit s e).stop <;> simp [visitList, h]

/-- **Visiting the children of a node is visiting the list of its children.** -/
theorem visitChildren_eq (s : σ) (e : Expr) :
    let v := e.visitChildren visit s
    visitList visit s e.children = ⟨v.result.children, v.state, v.stop⟩ := by
  cases e with
  | column name type => rfl
  | literal value => rfl
  | methodCall t m receiver args =>
      cases receiver with
      | none => rfl
      | some receiver => exact visitList_cons visit s receiver args
  | function name args => rfl
  | binary operator left right => exact visitList_pair visit s left right
  | cast target storeType operand => exact visitList_singleton visit s operand
  | index array subscripts origin => exact visitList_cons visit s array subscripts

/-- The two nodes differ in the expressions in the places of their children at most. -/
def SameNode : Expr → Expr → Prop
  | column name type, column name' type' => name = name' ∧ type = type'
  | literal value, literal value' => value = value'
  | methodCall t m receiver args, methodCall t' m' receiver' args' =>
    t = t' ∧ m = m' ∧ receiver.isSome = receiver'.isSome ∧ args.length = args'.length
  | function name args, function name' args' => name = name' ∧ args.length = args'.length
  | binary operator _ _, binary operator' _ _ => operator = operator'
  | cast target storeType _, cast target' storeType' _ =>
    target = target' ∧ storeType = storeType'
  | index _ subscripts origin, index _ subscripts' origin' =>
    subscripts.length = subscripts'.length ∧ origin = origin'
  | _, _ => False

theorem length_visitList (s : σ) (es : List Expr) :
    (visitList visit s es).result.length = es.length := by
  induction es generalizing s with
  | nil => rfl
  | cons e es ih =>
      rw [visitList]
      cases h : (visit s e).stop with
      | some reason => simp
      | none => simp [ih]

theorem length_visitThenList (s : σ) (first : Expr) (rest : List Expr) :
    (visitThenList visit s first rest).result.2.length = rest.length := by
  have hlength := length_visitList visit s (first :: rest)
  rw [visitList_cons] at hlength
  exact Nat.succ.inj hlength

theorem sameNode_visitChildren (s : σ) (e : Expr) :
    SameNode e (e.visitChildren visit s).result := by
  cases e with
  | column name type => exact ⟨rfl, rfl⟩
  | literal value => exact rfl
  | methodCall t m receiver args =>
      cases receiver with
      | none => exact ⟨rfl, rfl, rfl, (length_visitList visit s args).symm⟩
      | some receiver =>
          exact ⟨rfl, rfl, rfl, (length_visitThenList visit s receiver args).symm⟩
  | function name args => exact ⟨rfl, (length_visitList visit s args).symm⟩
  | binary operator left right => exact rfl
  | cast target storeType operand => exact ⟨rfl, rfl⟩
  | index array subscripts origin =>
      exact ⟨(length_visitThenList visit s array subscripts).symm, rfl⟩

/-- **A visitor is called on the children in the order of the list, until it stops.** It leaves the
node, and the children behind the one where it stops. -/
theorem visitChildren_untilStop (s : σ) (e : Expr) :
    let given := visits visit s e.children
    let v := e.visitChildren visit s
    let seen := (e.visitChildren (logged visit) ([], s)).state.1
    SameNode e v.result ∧
    ((∀ y ∈ given, y.stop = none) →
      v.stop = none ∧ v.state = (given.getLast?.map Visit.state).getD s ∧ seen = e.children ∧
        v.result.children = given.map Visit.result) ∧
    ∀ (k : Nat) (x : Visit σ ε Expr) (reason : ε), given[k]? = some x → x.stop = some reason →
      (∀ j < k, ∀ y ∈ given[j]?, y.stop = none) →
      v.stop = some reason ∧ v.state = x.state ∧ seen = e.children.take (k + 1) ∧
        v.result.children =
          (given.take k).map Visit.result ++ x.result :: e.children.drop (k + 1) := by
  intro given v seen
  have hv := visitChildren_eq visit s e
  have hlog := congrArg Visit.state (visitChildren_eq (logged visit) ([], s) e)
  refine ⟨sameNode_visitChildren visit s e, fun hnone => ?_, fun k x reason hx hstop hbefore => ?_⟩
  · have hnone' : ∀ y ∈ visits (logged visit) ([], s) e.children, y.stop = none := by
      intro y hy
      obtain ⟨j, hj⟩ := List.mem_iff_getElem?.1 hy
      exact stop_of_visits_logged visit (fun z hz => hnone z (List.mem_of_getElem? hz)) y hj
    rw [visitList_of_noStop visit s e.children hnone] at hv
    rw [visitList_of_noStop (logged visit) ([], s) e.children hnone'] at hlog
    exact ⟨(congrArg Visit.stop hv).symm, (congrArg Visit.state hv).symm,
      (congrArg Prod.fst hlog).symm.trans (seen_visits_logged visit s e.children),
      (congrArg Visit.result hv).symm⟩
  · have hx' : (visits (logged visit) ([], s) e.children)[k]? =
        some ⟨x.result, (e.children.take (k + 1), x.state), x.stop⟩ := by
      rw [getElem?_visits_logged, hx]
      rfl
    rw [visitList_of_stop visit s e.children hx hstop hbefore] at hv
    rw [visitList_of_stop (logged visit) ([], s) e.children hx' hstop fun j hj =>
      stop_of_visits_logged visit (hbefore j hj)] at hlog
    exact ⟨(congrArg Visit.stop hv).symm, (congrArg Visit.state hv).symm,
      (congrArg Prod.fst hlog).symm, (congrArg Visit.result hv).symm⟩

/-- A visitor that puts casts in the places of expressions, and stops when it has visited one. -/
theorem visitChildren_untilStop_covers :
    let toText (x : Expr) : Expr := cast ⟨.text, none⟩ none x
    let visit : Nat → Expr → Visit Nat String Expr := fun n x =>
      if n = 1 then ⟨column "last" .null, 7, some "one"⟩ else ⟨toText x, n + 1, none⟩
    let a := column "a" .geometry
    let b := column "b" .geometry
    let c := column "c" .geometry
    let e := methodCall .geometry "Covers" (some a) [b, c]
    let fromZero := e.visitChildren visit 0
    let fromTwo := e.visitChildren visit 2
    (fromZero.stop = some "one" ∧ fromZero.state = 7 ∧
      (e.visitChildren (logged visit) ([], 0)).state.1 = [a, b] ∧
      fromZero.result.children = [toText a, column "last" .null, c]) ∧
    fromTwo.stop = none ∧ fromTwo.state = 5 ∧
      (e.visitChildren (logged visit) ([], 2)).state.1 = [a, b, c] ∧
      fromTwo.result.children = [toText a, toText b, toText c] := by
  intro toText visit a b c e fromZero fromTwo
  refine ⟨(visitChildren_untilStop visit 0 e).2.2 1 _ "one" rfl rfl ?_,
    (visitChildren_untilStop visit 2 e).2.1 ?_⟩
  · intro j hj y hy
    obtain rfl : j = 0 := by omega
    obtain rfl := Option.some.inj hy
    rfl
  · intro y hy
    change y ∈ [visit 2 a, visit 3 b, visit 4 c] at hy
    simp only [List.mem_cons, List.not_mem_nil, or_false] at hy
    rcases hy with rfl | rfl | rfl <;> rfl

/-! ## Lowering -/

section Lowering

variable {registry : Registry} {config : Config}
  {visit : MappingSource → Expr → Visit MappingSource CompileFailure Expr} {α : Type}

/-- The visitor leaves an expression in native form, or stops with the failure to lower it. What it
leaves where it stops is not said. -/
def Lowers (registry : Registry) (config : Config)
    (visit : MappingSource → Expr → Visit MappingSource CompileFailure Expr) : Prop :=
  ∀ source e, (e.lower registry config).run source = (visit source e).andThen pure

/-- The visitor that lowers, and leaves an expression that it stops at as it was. -/
def lowerVisit (registry : Registry) (config : Config) (source : MappingSource) (e : Expr) :
    Visit MappingSource CompileFailure Expr :=
  match (e.lower registry config).run source with
  | (.ok lowered, source') => ⟨lowered, source', none⟩
  | (.error failure, source') => ⟨e, source', some failure⟩

theorem lowers_lowerVisit : Lowers registry config (lowerVisit registry config) := by
  intro source e
  unfold lowerVisit
  rcases (e.lower registry config).run source with ⟨_ | lowered, source'⟩ <;> rfl

/-- What lowering does to a node whose children are in native form. -/
def lowerNode (registry : Registry) (config : Config) : Expr → Lowering Expr
  | methodCall t m receiver args => lowerCall registry ⟨t, m, receiver, args⟩
  | cast target _ operand => resolveCast config target operand
  | index array subscripts origin => return indexFromOne array subscripts origin
  | e => return e

theorem run_lower_bind (h : Lowers registry config visit) (source : MappingSource) (e : Expr)
    (next : Expr → Lowering α) :
    (e.lower registry config >>= next).run source = (visit source e).andThen next := by
  rw [Lowering.run_bind, h]
  unfold Visit.andThen
  cases (visit source e).stop <;> rfl

theorem run_lowerList_bind (h : Lowers registry config visit) (source : MappingSource)
    (es : List Expr) (next : List Expr → Lowering α) :
    (lowerList registry config es >>= next).run source =
      (visitList visit source es).andThen next := by
  induction es generalizing source next with
  | nil =>
      rw [lowerList, pure_bind]
      rfl
  | cons e es ih =>
      rw [lowerList, bind_assoc, run_lower_bind h, visitList]
      simp only [bind_assoc, pure_bind]
      unfold Visit.andThen
      cases hhead : (visit source e).stop with
      | some failure => rfl
      | none => exact ih _ _

theorem run_lowerThenList (h : Lowers registry config visit) (source : MappingSource)
    (first : Expr) (rest : List Expr) (next : Expr → List Expr → Lowering α) :
    (first.lower registry config >>= fun first =>
      lowerList registry config rest >>= next first).run source =
      (visitThenList visit source first rest).andThen fun es => next es.1 es.2 := by
  rw [run_lower_bind h, visitThenList]
  unfold Visit.andThen
  cases hhead : (visit source first).stop with
  | some failure => rfl
  | none => exact run_lowerList_bind h _ _ _

theorem run_lowerPair (h : Lowers registry config visit) (source : MappingSource)
    (left right : Expr) (next : Expr → Expr → Lowering α) :
    (left.lower registry config >>= fun left =>
      right.lower registry config >>= next left).run source =
      (visitPair visit source left right).andThen fun es => next es.1 es.2 := by
  rw [run_lower_bind h, visitPair]
  unfold Visit.andThen
  cases hhead : (visit source left).stop with
  | some failure => rfl
  | none => exact run_lower_bind h _ _ _

/-- **Lowering visits the children of a node, and then does what is to be done at the node**, unless
the visit has stopped. -/
theorem run_lower (h : Lowers registry config visit) (source : MappingSource) (e : Expr) :
    (e.lower registry config).run source =
      (e.visitChildren visit source).andThen (lowerNode registry config) := by
  cases e with
  | column name type => rfl
  | literal value => rfl
  | methodCall t m receiver args =>
      cases receiver with
      | none =>
          rw [lower, lowerOption, pure_bind]
          exact run_lowerList_bind h source args _
      | some receiver =>
          rw [lower, lowerOption, bind_assoc]
          simp only [pure_bind]
          exact run_lowerThenList h source receiver args _
  | function name args => exact run_lowerList_bind h source args _
  | binary operator left right => exact run_lowerPair h source left right _
  | cast target storeType operand => exact run_lower_bind h source operand _
  | index array subscripts origin => exact run_lowerThenList h source array subscripts _

end Lowering

end Expr

end SqlLowering
