import SqlLowering.Binary64.Basic
import SqlLowering.Text.Decimal

/-!
# The shortest decimal of a number

The decimals that read back to a finite number fill an interval around it, which ends halfway to its
two neighbours; the ends belong to it when the significand is even. The shortest decimal is taken on
the coarsest decimal grid that has a point in the interval, and is the point nearest to the number.
Such a point is one of the number's two neighbours on the grid, since the interval has no gaps. When
both are in the interval and equally near, a rule for ties decides.

All comparisons are between natural numbers: the number and the ends of its interval are multiples
of a quarter of the last bit's weight, which is a quotient `unit` of natural numbers.
-/

namespace SqlLowering.Binary64

/-- Which of two decimals equally near to a number is taken. -/
inductive Tie where
  | up
  | even
deriving DecidableEq, Repr

/-- The decimal `digits * 10 ^ exponent`. -/
structure Decimal where
  digits : Nat
  exponent : Int
deriving DecidableEq, Repr

/-- A positive number and the ends of its interval, as quotients by `denominator`. -/
structure Interval where
  low : Nat
  value : Nat
  high : Nat
  denominator : Nat
  closed : Bool
deriving Repr

/-- The decimals that read back to a finite positive number. Below the least significand of an
exponent, the next number down is half as far away as the next number up. -/
def interval (x : Binary64) : Interval :=
  let m := x.significand
  let below := if m = leadingBit ∧ 1 < x.exponentField then 1 else 2
  let closed := decide (m % 2 = 0)
  match x.scale - 2 with
  | .ofNat k =>
    ⟨(4 * m - below) <<< k, (4 * m) <<< k, (4 * m + 2) <<< k, 1, closed⟩
  | .negSucc k => ⟨4 * m - below, 4 * m, 4 * m + 2, 1 <<< (k + 1), closed⟩

/-- How many digits a natural number has. -/
def digitCount (n : Nat) : Nat :=
  (Nat.toDigits 10 n).length

/-- The exponent `k` with `10 ^ (k - 1) ≤ value / denominator < 10 ^ k`. -/
def Interval.decimalExponent (i : Interval) : Int :=
  if i.denominator ≤ i.value then digitCount (i.value / i.denominator)
  else 1 - (digitCount ((i.denominator + i.value - 1) / i.value - 1) : Int)

/-- The same quotients in units of `10 ^ e`. -/
def Interval.inUnits (i : Interval) (e : Int) : Interval :=
  match e with
  | .ofNat k => { i with denominator := i.denominator * Nat.pow 10 k }
  | .negSucc k =>
    let p := Nat.pow 10 (k + 1)
    { i with low := i.low * p, value := i.value * p, high := i.high * p }

/-- Whether a whole number of units lies in the interval. -/
def Interval.contains (i : Interval) (n : Nat) : Bool :=
  let p := n * i.denominator
  if i.closed then decide (i.low ≤ p ∧ p ≤ i.high) else decide (i.low < p ∧ p < i.high)

/-- The whole number of units in the interval that is nearest to the value. -/
def Interval.nearest? (i : Interval) (tie : Tie) : Option Nat :=
  let down := i.value / i.denominator
  let twice := 2 * (i.value % i.denominator)
  match i.contains down, i.contains (down + 1) with
  | false, false => none
  | true, false => some down
  | false, true => some (down + 1)
  | true, true =>
    if twice < i.denominator then some down
    else if i.denominator < twice then some (down + 1)
    else
      match tie with
      | .up => some (down + 1)
      | .even => some (if down % 2 = 0 then down else down + 1)

/-- The decimal without the zeros at the end of its digits. -/
def Decimal.stripped (d : Decimal) : Decimal :=
  if d.digits = 0 then d
  else if d.digits % 10 = 0 then Decimal.stripped ⟨d.digits / 10, d.exponent + 1⟩
  else d
termination_by d.digits
decreasing_by omega

/-- The shortest decimal that reads back to a finite positive number. Seventeen digits always
suffice. -/
def shortest (tie : Tie) (x : Binary64) : Decimal :=
  let i := x.interval
  let k := i.decimalExponent
  let found := (List.range 17).findSome? fun n =>
    let e := k - (n + 1 : Nat)
    ((i.inUnits e).nearest? tie).map fun d => Decimal.mk d e
  (found.getD ⟨0, 0⟩).stripped

end SqlLowering.Binary64
