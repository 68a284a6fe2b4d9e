import Mathlib.Logic.Function.Iterate
import SqlLowering.Proofs.Leaves

/-!
# Repeated shifts

A position can be shifted again and again. An integer constant of 32 bits counts on with 32 bits as
long as these are enough, and goes on with 64 bits; there the largest number stays
(`Scalar.Counts.exists_oneBased`). Any other expression gets one more sum around it at each shift,
and no sum is computed.
-/

namespace SqlLowering

/-- A constant that counts up to `n`: with 32 bits if it is narrow and they are enough, and else
with 64 bits, up to the largest number. -/
inductive Scalar.Counts (narrow : Prop) (n : Int) : Scalar → Prop
  | int32 {w : Int32} : narrow → w.toInt = n → Counts narrow n (.int32 w)
  | int64 {w : Int64} : ¬ (narrow ∧ n ≤ 2147483647) → w.toInt = min n 9223372036854775807 →
      Counts narrow n (.int64 w)

namespace Scalar.Counts

open SqlLowering.Expr (oneBased literal toInt_saturatingNext_eq_min)

variable {narrow : Prop} {n : Int} {value : Scalar}

/-- **A shift counts on by one.** -/
theorem exists_oneBased (h : Counts narrow n value) :
    ∃ value', oneBased (literal value) = literal value' ∧ Counts narrow (n + 1) value' := by
  cases h with
  | @int32 w hnarrow hw =>
      have hle : w.toInt ≤ 2147483647 := w.toInt_le
      by_cases hlast : w = Int32.maxValue
      · -- the step that changes the width
        have hlimit : w.toInt = 2147483647 := congrArg Int32.toInt hlast
        refine ⟨.int64 (w.toInt64 + 1), by rw [oneBased, if_pos hlast], int64 ?_ ?_⟩
        · rintro ⟨-, hn⟩
          omega
        · rw [toInt_widened]
          omega
      · refine ⟨.int32 (w + 1), by rw [oneBased, if_neg hlast], int32 hnarrow ?_⟩
        rw [toInt_next32 hlast, hw]
  | @int64 w hwide hw =>
      refine ⟨.int64 (saturatingNext w), rfl, int64 ?_ ?_⟩
      · rintro ⟨hnarrow, hn⟩
        exact hwide ⟨hnarrow, by omega⟩
      · have hnext : (saturatingNext w).toInt = min (w.toInt + 1) 9223372036854775807 :=
          toInt_saturatingNext_eq_min w
        omega

theorem exists_iterate_oneBased (h : Counts narrow n value) (k : Nat) :
    ∃ value', oneBased^[k] (literal value) = literal value' ∧ Counts narrow (n + k) value' := by
  induction k with
  | zero => exact ⟨value, rfl, by simpa using h⟩
  | succ k ih =>
      obtain ⟨last, hlast, hcounts⟩ := ih
      obtain ⟨value', hvalue', hnext⟩ := hcounts.exists_oneBased
      refine ⟨value', ?_, ?_⟩
      · rw [Function.iterate_succ_apply', hlast, hvalue']
      · have hsucc : n + ((k + 1 : Nat) : Int) = n + k + 1 := by omega
        rw [hsucc]
        exact hnext

theorem of_toInt64? {m : Int64} (h : value.toInt64? = some m) :
    value.Counts (∃ v, value = .int32 v) m.toInt := by
  cases value with
  | int32 v =>
      obtain rfl := Option.some.inj h
      exact int32 ⟨v, rfl⟩ (Int32.toInt_toInt64 v).symm
  | int64 v =>
      obtain rfl := Option.some.inj h
      have hle : v.toInt ≤ 9223372036854775807 := v.toInt_le
      exact int64 (fun ⟨⟨_, hv⟩, _⟩ => by cases hv) (by omega)
  | _ => cases h

theorem toInt_toInt64? (h : Counts narrow n value) :
    value.toInt64?.map Int64.toInt = some (min n 9223372036854775807) := by
  cases h with
  | @int32 w _ hw =>
      have hle : w.toInt ≤ 2147483647 := w.toInt_le
      rw [toInt64?, Option.map_some, Int32.toInt_toInt64, hw, Int.min_eq_left (by omega)]
  | int64 _ hw => rw [toInt64?, Option.map_some, hw]

theorem exists_int32_iff (h : Counts narrow n value) :
    (∃ w, value = .int32 w) ↔ narrow ∧ n ≤ 2147483647 := by
  cases h with
  | @int32 w hnarrow hw =>
      have hle : w.toInt ≤ 2147483647 := w.toInt_le
      exact iff_of_true ⟨w, rfl⟩ ⟨hnarrow, by omega⟩
  | int64 hwide _ => exact iff_of_false (fun ⟨_, hw⟩ => by cases hw) hwide

theorem exists_int64_iff (h : Counts narrow n value) :
    (∃ w, value = .int64 w) ↔ ¬ (narrow ∧ n ≤ 2147483647) := by
  rw [← h.exists_int32_iff]
  cases h with
  | @int32 w _ _ => exact iff_of_false (fun ⟨_, hw⟩ => by cases hw) fun hnone => hnone ⟨w, rfl⟩
  | @int64 w _ _ => exact iff_of_true ⟨w, rfl⟩ fun ⟨_, hw⟩ => by cases hw

end Scalar.Counts

namespace Expr

/-- What is no integer constant gets one sum around it for each shift. -/
theorem iterate_oneBased_of_integer?_eq_none {e : Expr} (h : e.integer? = none) (k : Nat) :
    oneBased^[k] e = (fun x => binary "+" x (literal (.int32 1)))^[k] e := by
  induction k generalizing e with
  | zero => rfl
  | succ k ih =>
      rw [Function.iterate_succ_apply, Function.iterate_succ_apply,
        oneBased_of_integer?_eq_none h]
      exact ih rfl

/-- **Repeated shifts are exact up to the limit of 64 bits.** After `k` shifts an integer constant
is one for its value plus `k`, or for the largest number of 64 bits if that is smaller. It keeps 32
bits if it had 32 bits and they are enough. Any other expression stays as it is, with `k` sums
around it. -/
theorem iterate_oneBased (k : Nat) :
    (∀ (value : Scalar) (n : Int64), value.toInt64? = some n →
      ∃ value', oneBased^[k] (literal value) = literal value' ∧
        value'.toInt64?.map Int64.toInt = some (min (n.toInt + k) 9223372036854775807) ∧
        ((∃ w, value' = .int32 w) ↔ (∃ v, value = .int32 v) ∧ n.toInt + k ≤ 2147483647) ∧
        ((∃ w, value' = .int64 w) ↔ ¬ ((∃ v, value = .int32 v) ∧ n.toInt + k ≤ 2147483647))) ∧
    ∀ e : Expr, (∀ v, e ≠ literal (.int32 v)) → (∀ v, e ≠ literal (.int64 v)) →
      oneBased^[k] e = (fun x => binary "+" x (literal (.int32 1)))^[k] e := by
  constructor
  · intro value n hn
    obtain ⟨value', hvalue', h⟩ := (Scalar.Counts.of_toInt64? hn).exists_iterate_oneBased k
    exact ⟨value', hvalue', h.toInt_toInt64?, h.exists_int32_iff, h.exists_int64_iff⟩
  · intro e h32 h64
    refine iterate_oneBased_of_integer?_eq_none ?_ k
    cases e with
    | literal value =>
        cases value with
        | int32 v => exact absurd rfl (h32 v)
        | int64 v => exact absurd rfl (h64 v)
        | _ => rfl
    | _ => rfl

/-- A constant that leaves 32 bits, one that reaches the largest number, and a sum. -/
theorem iterate_oneBased_nearLimits :
    let one : Expr := literal (.int32 1)
    let sum : Expr := binary "+" (column "n" .int32) one
    (∃ value', oneBased^[3] (literal (.int32 2147483646)) = literal value' ∧
      value'.toInt64?.map Int64.toInt = some 2147483649 ∧ ∃ w, value' = .int64 w) ∧
    (∃ value', oneBased^[5] (literal (.int64 9223372036854775804)) = literal value' ∧
      value'.toInt64?.map Int64.toInt = some 9223372036854775807) ∧
    oneBased^[2] sum = binary "+" (binary "+" sum one) one := by
  intro one sum
  obtain ⟨value, hvalue, hn, -, hwide⟩ :=
    (iterate_oneBased 3).1 (.int32 2147483646) 2147483646 rfl
  obtain ⟨value', hvalue', hn', -⟩ :=
    (iterate_oneBased 5).1 (.int64 9223372036854775804) 9223372036854775804 rfl
  have hlimit : ¬ ((∃ v, Scalar.int32 2147483646 = .int32 v) ∧
      (2147483646 : Int64).toInt + ((3 : Nat) : Int) ≤ 2147483647) := fun h =>
    absurd h.2 (by decide)
  refine ⟨⟨value, hvalue, hn.trans (by decide), hwide.2 hlimit⟩,
    ⟨value', hvalue', hn'.trans (by decide)⟩, ?_⟩
  exact (iterate_oneBased 2).2 sum (fun _ => by simp [sum]) (fun _ => by simp [sum])

end Expr

end SqlLowering
