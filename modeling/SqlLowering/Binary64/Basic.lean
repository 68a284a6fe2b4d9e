/-!
# Double-precision numbers

A 64-bit floating-point number is its bit pattern: a sign bit, eleven bits of biased exponent and
52 bits of fraction. Keeping the pattern itself makes equality of patterns decidable and keeps
apart the two zeros and all the NaNs; `agrees` is the comparison of the numbers they stand for,
under which the zeros are equal and a NaN equals nothing.

A finite number is `significand * 2 ^ scale`, with the sign of its sign bit.
-/

namespace SqlLowering

/-- A double-precision number, as its bit pattern. -/
structure Binary64 where
  bits : UInt64
deriving DecidableEq, Repr, Inhabited

namespace Binary64

/-- The weight of the sign bit. -/
def signBit : Nat :=
  0x8000000000000000

/-- The weight of the last bit of the exponent and of the leading bit of a significand. -/
def leadingBit : Nat :=
  0x10000000000000

/-- Whether the sign bit is set. -/
def isNegative (x : Binary64) : Bool :=
  signBit ≤ x.bits.toNat

/-- The pattern without its sign bit. -/
def magnitude (x : Binary64) : Nat :=
  x.bits.toNat % signBit

/-- The biased exponent. -/
def exponentField (x : Binary64) : Nat :=
  x.magnitude / leadingBit

/-- The fraction bits. -/
def fractionField (x : Binary64) : Nat :=
  x.magnitude % leadingBit

/-- The magnitude of an infinity; larger ones are NaNs. -/
def infinityMagnitude : Nat :=
  2047 * leadingBit

def isNaN (x : Binary64) : Bool :=
  infinityMagnitude < x.magnitude

def isInfinite (x : Binary64) : Bool :=
  x.magnitude = infinityMagnitude

def isZero (x : Binary64) : Bool :=
  x.magnitude = 0

/-- The integer part of the pattern, with its leading bit unless the number is subnormal. -/
def significand (x : Binary64) : Nat :=
  if x.exponentField = 0 then x.fractionField else leadingBit + x.fractionField

/-- The power of two that the last bit of the significand stands for. -/
def scale (x : Binary64) : Int :=
  (max x.exponentField 1 : Nat) - 1075

/-- The number with the given sign bit and the pattern `magnitude` below it. -/
def ofMagnitude (negative : Bool) (magnitude : Nat) : Binary64 :=
  ⟨UInt64.ofNat ((if negative then signBit else 0) + magnitude)⟩

/-- Positive zero. -/
def zero : Binary64 :=
  ⟨0⟩

/-- Whether two numbers are equal as numbers. -/
def agrees (x y : Binary64) : Bool :=
  !x.isNaN && !y.isNaN && (x.bits == y.bits || (x.isZero && y.isZero))

end Binary64

end SqlLowering
