import SqlLowering.Proofs.Nodes

/-!
# Shifted positions

A shifted integer constant is the next integer, except for the largest one of 64 bits. Positions
are shifted to count from one in three places: a list of constant subscripts as a whole, subscripts
one by one, and the last operand of a native function. Each looks at the constants among the
operands only. Lowering keeps these, so it does not matter whether operands are shifted before they
are lowered or afterwards; the same goes for what a native form makes of the operands of a call
(`lowered_eq_of_apply`).
-/

namespace SqlLowering

open BundledModule (registry activeForm?)

/-! ## The next integer -/

theorem toInt_next32 {n : Int32} (h : n ≠ Int32.maxValue) : (n + 1).toInt = n.toInt + 1 := by
  have hle := n.toInt_le
  have hge := n.le_toInt
  have hne : n.toInt ≠ Int32.maxValue.toInt := fun h' => h (Int32.toInt_inj.1 h')
  have hmax : Int32.maxValue.toInt = 2147483647 := by decide
  have hone : (1 : Int32).toInt = 1 := by decide
  rw [Int32.toInt_add, hone, Int.bmod_eq_of_le]
  all_goals omega

theorem toInt_widened (n : Int32) : (n.toInt64 + 1).toInt = n.toInt + 1 := by
  have hle := n.toInt_le
  have hge := n.le_toInt
  have hmax : Int32.maxValue.toInt = 2147483647 := by decide
  have hmin : Int32.minValue.toInt = -2147483648 := by decide
  have hone : (1 : Int64).toInt = 1 := by decide
  rw [Int64.toInt_add, hone, Int32.toInt_toInt64, Int.bmod_eq_of_le]
  all_goals omega

theorem toInt64_ne_maxValue (n : Int32) : n.toInt64 ≠ Int64.maxValue := by
  have hle := n.toInt_le
  have hmax : Int32.maxValue.toInt = 2147483647 := by decide
  have hmax' : Int64.maxValue.toInt = 9223372036854775807 := by decide
  intro h
  have htoInt := congrArg Int64.toInt h
  rw [Int32.toInt_toInt64] at htoInt
  omega

theorem toInt_saturatingNext {n : Int64} (h : n ≠ Int64.maxValue) :
    (saturatingNext n).toInt = n.toInt + 1 := by
  have hle := n.toInt_le
  have hge := n.le_toInt
  have hne : n.toInt ≠ Int64.maxValue.toInt := fun h' => h (Int64.toInt_inj.1 h')
  have hmax : Int64.maxValue.toInt = 9223372036854775807 := by decide
  have hone : (1 : Int64).toInt = 1 := by decide
  rw [saturatingNext, if_neg h, Int64.toInt_add, hone, Int.bmod_eq_of_le]
  all_goals omega

namespace Expr

/-! ## Integer constants -/

def integer? (e : Expr) : Option Int64 :=
  e.constant?.bind Scalar.toInt64?

theorem eq_literal_of_constant? {e : Expr} {value : Scalar} (h : e.constant? = some value) :
    e = literal value := by
  cases e with
  | literal value' => rw [Option.some.inj h]
  | _ => cases h

theorem oneBased_of_integer?_eq_none {e : Expr} (h : e.integer? = none) :
    e.oneBased = binary "+" e (literal (.int32 1)) := by
  cases e with
  | literal value =>
      cases value with
      | int32 n => cases h
      | int64 n => cases h
      | _ => rfl
  | _ => rfl

theorem exists_oneBased_eq_literal {e : Expr} {n : Int64} (h : e.integer? = some n) :
    ∃ value, e.oneBased = literal value := by
  obtain ⟨value, hvalue, hn⟩ := Option.bind_eq_some_iff.1 h
  rw [eq_literal_of_constant? hvalue]
  cases value with
  | int32 n =>
      rw [oneBased]
      split
      · exact ⟨_, rfl⟩
      · exact ⟨_, rfl⟩
  | int64 n => exact ⟨_, rfl⟩
  | _ => cases hn

theorem constants?_cons (e : Expr) (es : List Expr) :
    constants? (e :: es) = e.integer?.bind fun n => (constants? es).map fun ns => n :: ns := by
  rw [constants?, integer?]
  cases e.constant?.bind Scalar.toInt64? <;> cases constants? es <;> rfl

theorem constants?_eq_some_iff {es : List Expr} {ns : List Int64} :
    constants? es = some ns ↔ List.Forall₂ (fun e n => e.integer? = some n) es ns := by
  induction es generalizing ns with
  | nil => rw [constants?, List.forall₂_nil_left_iff, Option.some.injEq, eq_comm]
  | cons e es ih =>
      rw [constants?_cons, List.forall₂_cons_left_iff, Option.bind_eq_some_iff]
      constructor
      · rintro ⟨n, hn, h⟩
        obtain ⟨ns', hns', rfl⟩ := Option.map_eq_some_iff.1 h
        exact ⟨n, ns', hn, ih.1 hns', rfl⟩
      · rintro ⟨n, ns', hn, hns', rfl⟩
        exact ⟨n, hn, Option.map_eq_some_iff.2 ⟨ns', ih.2 hns', rfl⟩⟩

theorem exists_map_literal_of_constants? {es : List Expr} {ns : List Int64}
    (h : constants? es = some ns) : ∃ values : List Scalar, es = values.map literal := by
  rw [constants?_eq_some_iff] at h
  induction h with
  | nil => exact ⟨[], rfl⟩
  | cons hn _ ih =>
      obtain ⟨value, hvalue, _⟩ := Option.bind_eq_some_iff.1 hn
      obtain ⟨values, rfl⟩ := ih
      rw [eq_literal_of_constant? hvalue]
      exact ⟨value :: values, rfl⟩

theorem oneBasedList_of_constants? {es : List Expr} {ns : List Int64}
    (h : constants? es = some ns) :
    oneBasedList es = (ns.map fun n => Scalar.int64 (saturatingNext n)).map literal := by
  rw [oneBasedList, h, List.map_map]
  exact List.map_map

theorem SameConstants.constants?_eq {es es' : List Expr} (h : SameConstants es es') :
    constants? es' = constants? es := by
  induction h with
  | nil => rfl
  | cons hx _ ih => rw [constants?_cons, constants?_cons, ih, integer?, integer?, hx]

theorem SameConstants.filterMap_constant? {es es' : List Expr} (h : SameConstants es es') :
    es'.filterMap constant? = es.filterMap constant? := by
  induction h with
  | nil => rfl
  | cons hx _ ih => rw [List.filterMap_cons, List.filterMap_cons, hx, ih]

theorem SameConstants.getLast?_bind_constant? {es es' : List Expr} (h : SameConstants es es') :
    es'.getLast?.bind constant? = es.getLast?.bind constant? := by
  induction h with
  | nil => rfl
  | cons hx htail ih =>
      cases htail with
      | nil => exact hx
      | cons _ _ => rw [List.getLast?_cons_cons, ih, List.getLast?_cons_cons]

/-! ## Shifting and lowering -/

section Lowering

variable {ms : List BundledModule} {config : Config}

/-- Shifting a position and lowering it commute. -/
theorem lowered_oneBased (e : Expr) :
    e.oneBased.lowered (registry ms) config =
      e.lowered (registry ms) config >>= fun e' => pure e'.oneBased := by
  cases hinteger : e.integer? with
  | some n =>
      obtain ⟨value, hvalue, _⟩ := Option.bind_eq_some_iff.1 hinteger
      obtain ⟨value', hvalue'⟩ := exists_oneBased_eq_literal hinteger
      obtain rfl := eq_literal_of_constant? hvalue
      rw [lowered, pure_bind, hvalue', lowered]
  | none =>
      rw [oneBased_of_integer?_eq_none hinteger, lowered, lowered]
      cases h : e.lowered (registry ms) config with
      | error failure => rfl
      | ok e' =>
          have hinteger' : e'.integer? = none := by
            rw [← hinteger, integer?, constant?_lowered h, integer?]
          change Except.ok _ = Except.ok e'.oneBased
          rw [oneBased_of_integer?_eq_none hinteger']

theorem loweredList_map_oneBased (es : List Expr) :
    loweredList (registry ms) config (es.map oneBased) =
      loweredList (registry ms) config es >>= fun es' => pure (es'.map oneBased) := by
  induction es with
  | nil => rfl
  | cons e es ih =>
      rw [List.map_cons, loweredList, loweredList, lowered_oneBased, ih]
      simp only [bind_assoc, pure_bind, List.map_cons]

theorem loweredList_shiftLast (es : List Expr) :
    loweredList (registry ms) config (shiftLast es) =
      loweredList (registry ms) config es >>= fun es' => pure (shiftLast es') := by
  induction es using shiftLast.induct with
  | case1 => rfl
  | case2 e =>
      rw [shiftLast, loweredList, loweredList, loweredList, loweredList, lowered_oneBased]
      simp only [bind_assoc, pure_bind, shiftLast]
  | case3 e e' es ih =>
      rw [shiftLast, loweredList, loweredList, ih, loweredList]
      simp only [bind_assoc, pure_bind, shiftLast]

theorem loweredList_map_literal {r : Registry} (values : List Scalar) :
    loweredList r config (values.map literal) = .ok (values.map literal) := by
  induction values with
  | nil => rfl
  | cons value values ih =>
      rw [List.map_cons, loweredList, lowered, pure_bind, ih]
      rfl

theorem loweredList_oneBasedList (es : List Expr) :
    loweredList (registry ms) config (oneBasedList es) =
      loweredList (registry ms) config es >>= fun es' => pure (oneBasedList es') := by
  cases hconstants : constants? es with
  | some ns =>
      obtain ⟨values, hvalues⟩ := exists_map_literal_of_constants? hconstants
      have hlowered : loweredList (registry ms) config es = .ok es := by
        rw [hvalues, loweredList_map_literal]
      have hshifted := oneBasedList_of_constants? hconstants
      rw [hlowered, hshifted, loweredList_map_literal, ← hshifted]
      rfl
  | none =>
      rw [oneBasedList, hconstants, loweredList_map_oneBased]
      cases h : loweredList (registry ms) config es with
      | error failure => rfl
      | ok es' =>
          have hsame : SameConstants es es' :=
            (loweredList_eq_ok_iff.1 h).imp fun _ _ hx => constant?_lowered hx
          change Except.ok _ = Except.ok (oneBasedList es')
          rw [oneBasedList, hsame.constants?_eq, hconstants]

/-- A shifted access lowers like the access. -/
theorem lowered_indexFromOne (a : Expr) (is : List Expr) (origin : Origin) :
    (indexFromOne a is origin).lowered (registry ms) config =
      (index a is origin).lowered (registry ms) config := by
  cases origin with
  | one => rfl
  | zero =>
      rw [indexFromOne, lowered, lowered, loweredList_oneBasedList]
      simp only [bind_assoc, pure_bind]
      rfl

/-! ## Native forms and lowering -/

variable (ms config) in
/-- What a form makes of operands lowers to what it makes of the lowered operands. -/
theorem exists_lowered_of_apply {form : NativeForm} {es : List Expr} {e : Expr}
    (h : form.apply es = .replaced e) :
    ∃ make : List Expr → Expr,
      (∀ es' : List Expr, es'.length = es.length → form.apply es' = .replaced (make es')) ∧
      e.lowered (registry ms) config =
        loweredList (registry ms) config es >>= fun es' => pure (make es') := by
  rcases NativeForm.apply_eq_replaced h with ⟨name, rfl, rfl⟩ | ⟨symbol, l, r, rfl, rfl, rfl⟩ |
    ⟨name, rfl, rfl⟩
  · refine ⟨function name, fun _ _ => rfl, ?_⟩
    rw [lowered]
  · refine ⟨fun es' => binary symbol (es'.getD 0 l) (es'.getD 1 r), ?_, ?_⟩
    · intro es' hlength
      obtain ⟨l', r', rfl⟩ := List.length_eq_two.1 hlength
      rfl
    · rw [lowered, loweredList, loweredList, loweredList]
      simp only [bind_assoc, pure_bind]
      rfl
  · refine ⟨fun es' => function name (shiftLast es'), fun _ _ => rfl, ?_⟩
    rw [lowered, loweredList_shiftLast, bind_assoc]
    rfl

/-- **What a form makes of operands lowers like the call**, when the operands lower like those of
the call and the modules have the form for it. -/
theorem lowered_eq_of_apply {form : NativeForm} {operands : List Expr} {e : Expr}
    {t : ValueType} {m : String} {r : Option Expr} {as : List Expr}
    (h : form.apply operands = .replaced e)
    (hform : activeForm? ms (MethodCall.mk t m r as).shape = some form)
    (hoperands : loweredList (registry ms) config operands =
      loweredList (registry ms) config (r.toList ++ as)) :
    e.lowered (registry ms) config = (methodCall t m r as).lowered (registry ms) config := by
  obtain ⟨make, happly, hlowered⟩ := exists_lowered_of_apply ms config h
  rw [loweredList_operands] at hoperands
  rw [hlowered, lowered]
  cases hr : loweredOption (registry ms) config r with
  | error failure =>
      rw [hr] at hoperands
      rw [hoperands]
      rfl
  | ok r' =>
      cases has : loweredList (registry ms) config as with
      | error failure =>
          rw [hr, has] at hoperands
          rw [hoperands]
          rfl
      | ok as' =>
          rw [hr, has] at hoperands
          have hlength : (r'.toList ++ as').length = operands.length :=
            (loweredList_eq_ok_iff.1 hoperands).length_eq.symm
          have hshape := shape_eq_of_rel t m (loweredOption_eq_ok_iff.1 hr)
            (loweredList_eq_ok_iff.1 has)
          rw [← hshape] at hform
          rw [hoperands]
          exact (answer_of_some hform (happly _ hlength)).symm

end Lowering

end Expr

end SqlLowering
