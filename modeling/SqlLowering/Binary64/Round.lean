import SqlLowering.Binary64.Basic

/-!
# Rounding to double precision

Quotients of natural numbers are rounded to the nearest double-precision number, a quotient halfway
between two numbers to the one with an even significand, and one beyond the largest finite number to
infinity. Products and quotients of numbers are the roundings of their exact values.

A decimal `s * 10 ^ e` is read in two roundings: the significand is rounded first, and then
multiplied by a rounded power of ten, or divided by one. Powers reach `10 ^ 308`; a smaller exponent
takes several divisions. The result is at most a few units from the nearest number, and it is the
same on every machine.
-/

namespace SqlLowering.Binary64

/-- The quotient of two natural numbers, rounded; a half goes to the even neighbour. -/
def roundedQuotient (num den : Nat) : Nat :=
  let q := num / den
  let r := num % den
  if 2 * r < den then q
  else if den < 2 * r then q + 1
  else if q % 2 = 0 then q else q + 1

/-- `num / den * 2 ^ e` as a quotient of natural numbers. -/
def scaledQuotient (num den : Nat) (e : Int) : Nat × Nat :=
  match e with
  | .ofNat k => (num <<< k, den)
  | .negSucc k => (num, den <<< (k + 1))

/-- The power of two of the last bit of the number nearest to `num / den`: the quotient has its
leading bit 52 places above it, unless that would be below the last bit of the subnormal numbers. -/
def lastBitScale (num den : Nat) : Int :=
  let estimate : Int := (Nat.log2 num : Int) - (Nat.log2 den : Int) - 52
  let (n, d) := scaledQuotient num den (-estimate)
  max (if n / d < leadingBit then estimate - 1 else estimate) (-1074)

/-- The non-negative number nearest to `num / den`. -/
def ofQuotient (num den : Nat) : Binary64 :=
  if num = 0 then zero
  else
    let q := lastBitScale num den
    let (n, d) := scaledQuotient num den (-q)
    ofMagnitude false (min ((q + 1074).toNat * leadingBit + roundedQuotient n d) infinityMagnitude)

/-- The number nearest to a natural number. -/
def ofNat (n : Nat) : Binary64 :=
  ofQuotient n 1

/-- The number nearest to a power of ten. -/
def powerOfTen (k : Nat) : Binary64 :=
  ofNat (Nat.pow 10 k)

/-- The rounded product of two finite non-negative numbers. -/
def times (x y : Binary64) : Binary64 :=
  let (n, d) := scaledQuotient (x.significand * y.significand) 1 (x.scale + y.scale)
  ofQuotient n d

/-- The rounded quotient of a finite non-negative number by a positive one. -/
def dividedBy (x y : Binary64) : Binary64 :=
  let (n, d) := scaledQuotient x.significand y.significand (x.scale - y.scale)
  ofQuotient n d

/-- The number with the sign bit set as given. -/
def withSign (negative : Bool) (x : Binary64) : Binary64 :=
  ofMagnitude negative x.magnitude

/-- The number nearest to an integer; zero is positive. -/
def ofInt (n : Int) : Binary64 :=
  withSign (decide (n < 0)) (ofNat n.natAbs)

/-- `x / 10 ^ k`, in steps of `10 ^ 308`, until nothing is left of `x`. -/
def shiftDown (x : Binary64) (k : Nat) : Binary64 :=
  if k ≤ 308 then x.dividedBy (powerOfTen k)
  else if x.isZero then x
  else shiftDown (x.dividedBy (powerOfTen 308)) (k - 308)
termination_by k
decreasing_by omega

/-- The number read from the decimal `significand * 10 ^ exponent`; none when it is too large. -/
def ofDecimal? (negative : Bool) (significand : Nat) (exponent : Int) : Option Binary64 :=
  let x := ofNat significand
  match exponent with
  | .ofNat k =>
    if x.isZero then some (withSign negative x)
    else if 308 < k then none
    else
      let y := x.times (powerOfTen k)
      if y.isInfinite then none else some (withSign negative y)
  | .negSucc k => some (withSign negative (x.shiftDown (k + 1)))

end SqlLowering.Binary64
