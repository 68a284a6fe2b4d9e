import SqlLowering.Proofs.Sessions
import SqlLowering.Proofs.Shifts

/-!
# Compilation preserves meaning

An interpretation says what columns, constants, functions, operators, casts, arrays and method calls
denote; only integers, their sum and the counting of elements are fixed. It gives a meaning to
source and compiled expressions alike: a zero-based access reads where the access reads whose
subscripts are greater by one, and a call that an active module has a form for denotes what the form
does, a position being greater by one for the native function.

Lowering keeps this meaning. Where it shifts a position it adds one to the value, as a number or as
a sum, and this happens once for each position that counts from zero; elsewhere it puts native
functions and operators in the places of calls with the same operands.

One constant has no 64-bit successor. It stands for itself where it is a position that counts from
zero, so an expression that has it there may change its meaning, and only such an expression.
-/

namespace SqlLowering

open BundledModule (registry activeForm?)

/-! ## Values -/

/-- An integer, or a value of another kind. -/
inductive Datum (α : Type) where
  | integer (n : Int)
  | other (a : α)
deriving DecidableEq, Repr

namespace Datum

variable {α : Type}

def integer? : Datum α → Option Int
  | integer n => some n
  | other _ => none

def plus : Datum α → Datum α → Option (Datum α)
  | integer m, integer n => some (integer (m + n))
  | _, _ => none

def next (v : Datum α) : Option (Datum α) :=
  v.plus (integer 1)

def nextLast : List (Datum α) → Option (List (Datum α))
  | [] => some []
  | [v] => do return [← v.next]
  | v :: w :: vs => do return v :: (← nextLast (w :: vs))

end Datum

/-- What the parts of an expression denote. Operations are partial, and nothing is known of them but
for the operator `+`, which is read apart from the others. -/
structure Interpretation (α : Type) where
  column : String → ValueType → Datum α
  /-- The constants that are not integers. -/
  constant : Scalar → Datum α
  function : String → List (Datum α) → Option (Datum α)
  operator : String → Datum α → Datum α → Option (Datum α)
  cast : DataType → Datum α → Option (Datum α)
  /-- The element of an array at a position for each dimension, counted from one. -/
  element : Datum α → List Int → Option (Datum α)
  /-- The calls that no active module has a form for. -/
  call : ValueType → String → Option (Datum α) → List (Datum α) → Option (Datum α)

namespace Interpretation

variable {α : Type} (I : Interpretation α)

def literal : Scalar → Datum α
  | .int32 n => .integer n.toInt
  | .int64 n => .integer n.toInt
  | value => I.constant value

def binary (symbol : String) (l r : Datum α) : Option (Datum α) :=
  if symbol = "+" then l.plus r else I.operator symbol l r

/-- The element at some subscripts that count from one, which must be integers. -/
def read (a : Datum α) (subscripts : List (Datum α)) : Option (Datum α) := do
  let positions ← subscripts.mapM Datum.integer?
  I.element a positions

/-- A native form of values; a position counts from zero among them. -/
def native : NativeForm → List (Datum α) → Option (Datum α)
  | .function name, vs => I.function name vs
  | .operator symbol, [l, r] => I.binary symbol l r
  | .operator _, _ => none
  | .positional name, vs => do
    let vs ← Datum.nextLast vs
    I.function name vs

end Interpretation

namespace Expr

variable {α : Type}

/-! ## Expressions -/

mutual

/-- The value of an expression when some modules are active, if it has one. -/
def meaning (ms : List BundledModule) (I : Interpretation α) : Expr → Option (Datum α)
  | column name type => some (I.column name type)
  | literal value => some (I.literal value)
  | methodCall t m r as => do
    let v ← meaningOption ms I r
    let vs ← meaningList ms I as
    match activeForm? ms (MethodCall.mk t m r as).shape with
    | some form => I.native form (v.toList ++ vs)
    | none => I.call t m v vs
  | function name as => do
    let vs ← meaningList ms I as
    I.function name vs
  | binary operator l r => do
    let v ← l.meaning ms I
    let w ← r.meaning ms I
    I.binary operator v w
  | cast target _ x => do
    let v ← x.meaning ms I
    I.cast target v
  | index a is .zero => do
    let v ← a.meaning ms I
    let vs ← meaningList ms I is
    let vs ← vs.mapM Datum.next
    I.read v vs
  | index a is .one => do
    let v ← a.meaning ms I
    let vs ← meaningList ms I is
    I.read v vs

def meaningOption (ms : List BundledModule) (I : Interpretation α) :
    Option Expr → Option (Option (Datum α))
  | none => some none
  | some e => do
    let v ← e.meaning ms I
    return some v

def meaningList (ms : List BundledModule) (I : Interpretation α) :
    List Expr → Option (List (Datum α))
  | [] => some []
  | e :: es => do
    let v ← e.meaning ms I
    let vs ← meaningList ms I es
    return v :: vs

end

/-! ## Operands -/

section Operands

variable {ms : List BundledModule} {I : Interpretation α}

theorem meaningList_congr {es es' : List Expr}
    (h : List.Forall₂ (fun x x' => x'.meaning ms I = x.meaning ms I) es es') :
    meaningList ms I es' = meaningList ms I es := by
  induction h with
  | nil => rfl
  | cons hx _ ih => rw [meaningList, meaningList, hx, ih]

theorem meaningOption_congr {r r' : Option Expr}
    (h : Option.Rel (fun x x' => x'.meaning ms I = x.meaning ms I) r r') :
    meaningOption ms I r' = meaningOption ms I r := by
  cases h with
  | none => rfl
  | some hx => rw [meaningOption, meaningOption, hx]

theorem meaningList_operands (r : Option Expr) (as : List Expr) :
    meaningList ms I (r.toList ++ as) = do
      let v ← meaningOption ms I r
      let vs ← meaningList ms I as
      return v.toList ++ vs := by
  cases r with
  | none =>
      change meaningList ms I as = meaningList ms I as >>= pure
      rw [bind_pure]
  | some e =>
      rw [Option.toList_some, List.singleton_append, meaningList, meaningOption, bind_assoc]
      rfl

end Operands

/-! ## Shifted positions -/

section Shift

variable (ms : List BundledModule) (I : Interpretation α)

theorem meaning_oneBased {e : Expr} (h : e.constant? ≠ some (.int64 Int64.maxValue)) :
    e.oneBased.meaning ms I = e.meaning ms I >>= Datum.next := by
  cases hinteger : e.integer? with
  | some n =>
      obtain ⟨value, hvalue, hn⟩ := Option.bind_eq_some_iff.1 hinteger
      obtain rfl := eq_literal_of_constant? hvalue
      cases value with
      | int32 n =>
          rw [oneBased]
          split
          · change some (Datum.integer (n.toInt64 + 1).toInt) = some (Datum.integer (n.toInt + 1))
            rw [toInt_widened]
          · change some (Datum.integer (n + 1).toInt) = some (Datum.integer (n.toInt + 1))
            rw [toInt_next32 ‹_›]
      | int64 n =>
          have hn : n ≠ Int64.maxValue := fun hn => h (hn ▸ rfl)
          change some (Datum.integer (saturatingNext n).toInt) = some (Datum.integer (n.toInt + 1))
          rw [toInt_saturatingNext hn]
      | _ => cases hn
  | none =>
      rw [oneBased_of_integer?_eq_none hinteger, meaning, meaning]
      rfl

theorem meaningList_map_oneBased {es : List Expr}
    (h : Scalar.int64 Int64.maxValue ∉ es.filterMap constant?) :
    meaningList ms I (es.map oneBased) = meaningList ms I es >>= List.mapM Datum.next := by
  induction es with
  | nil => rfl
  | cons e es ih =>
      have he : e.constant? ≠ some (.int64 Int64.maxValue) := by
        intro he
        apply h
        rw [List.filterMap_cons, he]
        exact List.mem_cons_self ..
      have hes : Scalar.int64 Int64.maxValue ∉ es.filterMap constant? := by
        intro hes
        apply h
        rw [List.mem_filterMap] at hes ⊢
        obtain ⟨x, hx, hvalue⟩ := hes
        exact ⟨x, List.mem_cons_of_mem e hx, hvalue⟩
      rw [List.map_cons, meaningList, meaningList, meaning_oneBased ms I he, ih hes]
      cases e.meaning ms I with
      | none => rfl
      | some v =>
          cases meaningList ms I es with
          | none => simp
          | some vs => simp [List.mapM_cons]

theorem meaningList_shiftLast {es : List Expr}
    (h : es.getLast?.bind constant? ≠ some (.int64 Int64.maxValue)) :
    meaningList ms I (shiftLast es) = meaningList ms I es >>= Datum.nextLast := by
  induction es using shiftLast.induct with
  | case1 => rfl
  | case2 e =>
      have he : e.constant? ≠ some (.int64 Int64.maxValue) := h
      rw [shiftLast, meaningList, meaningList, meaningList, meaning_oneBased ms I he]
      cases e.meaning ms I <;> rfl
  | case3 e e' es ih =>
      rw [shiftLast, meaningList, ih h]
      simp only [meaningList]
      cases e.meaning ms I with
      | none => rfl
      | some v =>
          cases e'.meaning ms I with
          | none => rfl
          | some w =>
              cases meaningList ms I es with
              | none => rfl
              | some ws => rfl

/-- An integer constant may be shifted as a number of 64 bits. -/
theorem meaning_saturatingNext {e : Expr} {n : Int64} (h : e.integer? = some n) :
    (literal (.int64 (saturatingNext n))).meaning ms I = e.oneBased.meaning ms I := by
  obtain ⟨value, hvalue, hn⟩ := Option.bind_eq_some_iff.1 h
  obtain rfl := eq_literal_of_constant? hvalue
  cases value with
  | int32 m =>
      have hm : saturatingNext m.toInt64 = m.toInt64 + 1 := if_neg (toInt64_ne_maxValue m)
      rw [meaning_oneBased ms I (by simp [constant?]), ← Option.some.inj hn, hm]
      change some (Datum.integer (m.toInt64 + 1).toInt) = some (Datum.integer (m.toInt + 1))
      rw [toInt_widened]
  | int64 m =>
      rw [← Option.some.inj hn]
      rfl
  | _ => cases hn

theorem meaningList_oneBasedList (es : List Expr) :
    meaningList ms I (oneBasedList es) = meaningList ms I (es.map oneBased) := by
  cases hconstants : constants? es with
  | some ns =>
      rw [oneBasedList_of_constants? hconstants, List.map_map]
      apply meaningList_congr
      rw [List.forall₂_map_left_iff, List.forall₂_map_right_iff]
      exact (constants?_eq_some_iff.1 hconstants).imp fun _ _ h => meaning_saturatingNext ms I h
  | none => rw [oneBasedList, hconstants]

/-- **A shifted access denotes what the access denotes.** -/
theorem meaning_indexFromOne {a : Expr} {is : List Expr} {origin : Origin}
    (h : origin = .zero → Scalar.int64 Int64.maxValue ∉ is.filterMap constant?) :
    (indexFromOne a is origin).meaning ms I = (index a is origin).meaning ms I := by
  cases origin with
  | one => rfl
  | zero =>
      rw [indexFromOne, meaning, meaning, meaningList_oneBasedList,
        meaningList_map_oneBased ms I (h rfl)]
      simp only [bind_assoc]

/-- **What a form makes of operands denotes what the form makes of their values.** -/
theorem meaning_of_apply {form : NativeForm} {es : List Expr} {e : Expr}
    (h : form.apply es = .replaced e)
    (hlast : ∀ name, form = .positional name →
      es.getLast?.bind constant? ≠ some (.int64 Int64.maxValue)) :
    e.meaning ms I = meaningList ms I es >>= I.native form := by
  rcases NativeForm.apply_eq_replaced h with ⟨name, rfl, rfl⟩ | ⟨symbol, l, r, rfl, rfl, rfl⟩ |
    ⟨name, rfl, rfl⟩
  · rw [meaning]
    rfl
  · rw [meaning, meaningList, meaningList, meaningList]
    cases l.meaning ms I with
    | none => rfl
    | some v => cases r.meaning ms I <;> rfl
  · rw [meaning, meaningList_shiftLast ms I (hlast name rfl), bind_assoc]
    rfl

end Shift

end Expr

/-! ## Positions that count from zero -/

/-- The last operand of a call, when a form takes it for a position and it is a constant. -/
def MethodCall.position? (ms : List BundledModule) (call : MethodCall) : Option Scalar :=
  match activeForm? ms call.shape with
  | some (.positional _) => call.operands.getLast?.bind Expr.constant?
  | _ => none

namespace Expr

mutual

/-- The constants in an expression that are positions and count from zero. -/
def zeroBased (ms : List BundledModule) : Expr → List Scalar
  | column _ _ => []
  | literal _ => []
  | methodCall t m r as =>
    (MethodCall.position? ms ⟨t, m, r, as⟩).toList ++ (zeroBasedOption ms r ++ zeroBasedList ms as)
  | function _ as => zeroBasedList ms as
  | binary _ l r => l.zeroBased ms ++ r.zeroBased ms
  | cast _ _ x => x.zeroBased ms
  | index a is .zero => is.filterMap constant? ++ (a.zeroBased ms ++ zeroBasedList ms is)
  | index a is .one => a.zeroBased ms ++ zeroBasedList ms is

def zeroBasedOption (ms : List BundledModule) : Option Expr → List Scalar
  | none => []
  | some e => e.zeroBased ms

def zeroBasedList (ms : List BundledModule) : List Expr → List Scalar
  | [] => []
  | e :: es => e.zeroBased ms ++ zeroBasedList ms es

end

section Preservation

variable {α : Type} {ms : List BundledModule} (I : Interpretation α)

/-- The expressions have the same meaning, unless the constant without a successor is a position
that counts from zero in the first. -/
def SameMeaning (ms : List BundledModule) (I : Interpretation α) (e e' : Expr) : Prop :=
  Scalar.int64 Int64.maxValue ∉ e.zeroBased ms → e'.meaning ms I = e.meaning ms I

variable {I}

theorem meaningList_of_sameMeaning {es es' : List Expr}
    (h : List.Forall₂ (SameMeaning ms I) es es')
    (hlargest : Scalar.int64 Int64.maxValue ∉ zeroBasedList ms es) :
    meaningList ms I es' = meaningList ms I es := by
  apply meaningList_congr
  induction h with
  | nil => exact .nil
  | cons hx _ ih =>
      rw [zeroBasedList, List.mem_append, not_or] at hlargest
      exact .cons (hx hlargest.1) (ih hlargest.2)

theorem meaningOption_of_sameMeaning {r r' : Option Expr}
    (h : Option.Rel (SameMeaning ms I) r r')
    (hlargest : Scalar.int64 Int64.maxValue ∉ zeroBasedOption ms r) :
    meaningOption ms I r' = meaningOption ms I r := by
  apply meaningOption_congr
  cases h with
  | none => exact .none
  | some hx => exact .some (hx hlargest)

theorem zeroBasedList_operands (r : Option Expr) (as : List Expr) :
    zeroBasedList ms (r.toList ++ as) = zeroBasedOption ms r ++ zeroBasedList ms as := by
  cases r <;> rfl

/-- **Lowering keeps the meaning of an expression.** -/
theorem sameMeaning_of_lowered {config : Config} {e e' : Expr}
    (h : e.lowered (registry ms) config = .ok e') : SameMeaning ms I e e' := by
  refine lowered_induction (P := SameMeaning ms I)
    ?column ?literal ?kept ?translated ?function ?binary ?cast ?index h
  case column =>
    intro name type _
    rfl
  case literal =>
    intro value _
    rfl
  case kept =>
    intro t m r r' as as' hr has hform _ hlargest
    rw [zeroBased, List.mem_append, not_or, List.mem_append, not_or] at hlargest
    have hform' : activeForm? ms (MethodCall.mk t m r' as').shape = none := by
      rw [shape_eq_of_rel t m hr has, hform]
    rw [meaning, meaning, meaningOption_of_sameMeaning hr hlargest.2.1,
      meaningList_of_sameMeaning has hlargest.2.2, hform, hform']
  case translated =>
    intro t m r as operands form e hoperands hsame hform happly hlargest
    rw [zeroBased, List.mem_append, not_or, ← zeroBasedList_operands] at hlargest
    have hlast : ∀ name, form = .positional name →
        operands.getLast?.bind constant? ≠ some (.int64 Int64.maxValue) := by
      rintro name rfl hlast
      apply hlargest.1
      rw [hsame.getLast?_bind_constant?] at hlast
      rw [MethodCall.position?, hform]
      exact Option.mem_toList.2 hlast
    rw [meaning_of_apply ms I happly hlast, meaningList_of_sameMeaning hoperands hlargest.2,
      meaningList_operands, meaning, hform]
    simp only [bind_assoc, pure_bind]
  case function =>
    intro name as as' has hlargest
    rw [meaning, meaning, meaningList_of_sameMeaning has hlargest]
  case binary =>
    intro operator l r l' r' hl hr hlargest
    rw [zeroBased, List.mem_append, not_or] at hlargest
    rw [meaning, meaning, hl hlargest.1, hr hlargest.2]
  case cast =>
    intro target storeType x x' descriptor hx _ hlargest
    rw [meaning, meaning, hx hlargest]
  case index =>
    intro a a' is is' origin ha his hsame hlargest
    have hsubscripts : origin = .zero → Scalar.int64 Int64.maxValue ∉ is'.filterMap constant? := by
      rintro rfl
      rw [zeroBased, List.mem_append, not_or] at hlargest
      rw [hsame.filterMap_constant?]
      exact hlargest.1
    have hchildren : Scalar.int64 Int64.maxValue ∉ a.zeroBased ms ∧
        Scalar.int64 Int64.maxValue ∉ zeroBasedList ms is := by
      cases origin with
      | zero =>
          rw [zeroBased, List.mem_append, not_or, List.mem_append, not_or] at hlargest
          exact hlargest.2
      | one =>
          rw [zeroBased, List.mem_append, not_or] at hlargest
          exact hlargest
    rw [meaning_indexFromOne ms I hsubscripts]
    cases origin <;>
      rw [meaning, meaning, ha hchildren.1, meaningList_of_sameMeaning his hchildren.2]

end Preservation

end Expr

/-! ## Sessions -/

/-- The element of an array at the largest number, counted from zero. -/
def Expr.atLargest : Expr :=
  .index (.column "a" .collection) [.literal (.int64 Int64.maxValue)] .zero

def Datum.total {α : Type} (vs : List (Datum α)) : Datum α :=
  .integer ((vs.filterMap Datum.integer?).foldl (fun n m => n + m) 0)

/-- Each column is five, the element of an array is the decimal number of its positions, and the
other operations add their integers. -/
def Interpretation.sums : Interpretation Unit where
  column _ _ := .integer 5
  constant _ := .other ()
  function _ vs := some (.total vs)
  operator _ v w := some (.total [v, w])
  cast _ v := some v
  element _ positions := some (.integer (positions.foldl (fun n p => 10 * n + p) 0))
  call _ _ v vs := some (.total (v.toList ++ vs))

namespace Session

/-- **Compilation preserves meaning** under every interpretation, as long as the constant without
a 64-bit successor is not a position that counts from zero. -/
theorem compile_meaning {s : Session} {d : Depot} {ms : List BundledModule} {e : Expr}
    {out : Compiled} (hs : s.Uses d ms) (hout : (s.compile d e).1 = .ok out)
    (hlargest : Scalar.int64 Int64.maxValue ∉ e.zeroBased ms) {α : Type} (I : Interpretation α) :
    out.expr.meaning ms I = e.meaning ms I := by
  rw [hs.compile_fst] at hout
  exact Expr.sameMeaning_of_lowered (compiled_eq_ok hout).1 hlargest

/-- The constants of this expression that are positions can be counted from one. -/
theorem compile_meaning_textOfPart :
    ∃ out : Compiled, ((ofModules [.geometry] ⟨"", false, none⟩).compile
        (.ofModules [.geometry]) .textOfPart).1 = .ok out ∧
      Expr.textOfPart.zeroBased [.geometry] = [.int32 7] ∧
      out.expr.meaning [.geometry] .sums = Expr.textOfPart.meaning [.geometry] .sums ∧
      Expr.textOfPart.meaning [.geometry] .sums = some (.integer 97) := by
  refine ⟨_, rfl, rfl, ?_, rfl⟩
  exact compile_meaning (ofModules_uses [.geometry] ⟨"", false, none⟩) rfl (by decide) .sums

/-- The constant without a successor changes the meaning of a position: the compiled access reads
one element before the one that the source reads. -/
theorem compile_meaning_atLargest :
    (ofModules [] .initial).Uses (.ofModules []) [] ∧
    ∃ out : Compiled, ((ofModules [] .initial).compile (.ofModules []) .atLargest).1 = .ok out ∧
      Expr.atLargest.meaning [] .sums = some (.integer 9223372036854775808) ∧
      out.expr.meaning [] .sums = some (.integer 9223372036854775807) ∧
      out.expr.meaning [] .sums ≠ Expr.atLargest.meaning [] .sums := by
  refine ⟨ofModules_uses [] .initial, _, rfl, rfl, rfl, ?_⟩
  decide

end Session

end SqlLowering
