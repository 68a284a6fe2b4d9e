import SqlLowering.Binary64.Round
import SqlLowering.Json.Document

/-!
# Numerals

A numeral is read one character at a time. Its significand is kept in 64 bits: once a digit no
longer fits, it and the digits after it up to the point or the exponent are dropped, and a dropped
digit before the point raises the exponent instead. Without a point and an exponent, a numeral
that fits in 64 bits, as an unsigned number or as a negative one, is an integer; all others are
floating-point numbers, and so is minus zero.
-/

namespace SqlLowering.Json

/-- Why a numeral is refused. -/
inductive NumeralError where
  | unfinished
  | malformed
  | outOfRange
deriving DecidableEq, Repr

/-- The part of a numeral that has been read: its sign, and the significand and decimal exponent of
its digits so far. -/
structure Reading where
  negative : Bool
  significand : Nat
  exponent : Int
deriving Repr

/-- Where a numeral has been read to. -/
inductive Numeral where
  /-- After the minus sign. -/
  | sign
  /-- After a leading zero. -/
  | zero (negative : Bool)
  /-- In the digits before the point. -/
  | whole (r : Reading)
  /-- In the digits before the point that are dropped. -/
  | wholeDropped (r : Reading)
  /-- After the point, before any digit. -/
  | point (r : Reading)
  /-- In the digits after the point. -/
  | fraction (r : Reading)
  /-- In the digits after the point that are dropped. -/
  | fractionDropped (r : Reading)
  /-- After the letter of the exponent. -/
  | exponentMark (r : Reading)
  /-- After the sign of the exponent. -/
  | exponentSign (r : Reading) (negative : Bool)
  /-- In the digits of the exponent. -/
  | exponentDigits (r : Reading) (negative : Bool) (value : Nat)
  /-- In the digits of an exponent that is so small or so idle that the number is zero. -/
  | vanished (negative : Bool)
  /-- In the digits of an exponent that is so large that the number has no floating-point form. -/
  | overflowed
deriving Repr

/-- What a character does to a numeral. -/
inductive NumeralStep where
  | next (n : Numeral)
  /-- The character is not part of the numeral. -/
  | ended
  | refused (e : NumeralError)

/-- Whether a significand stays below `2 ^ 64` with one more digit. -/
def fits (significand digit : Nat) : Bool :=
  significand * 10 + digit < UInt64.size

namespace Reading

/-- One more digit before the point. -/
def addWhole (r : Reading) (d : Nat) : Numeral :=
  if fits r.significand d then .whole { r with significand := r.significand * 10 + d }
  else .wholeDropped { r with exponent := r.exponent + 1 }

/-- One more digit after the point. -/
def addFraction (r : Reading) (d : Nat) : Numeral :=
  if fits r.significand d then
    .fraction { r with significand := r.significand * 10 + d, exponent := r.exponent - 1 }
  else .fractionDropped r

/-- The largest exponent that is counted. -/
def maxExponent : Nat :=
  2147483647

/-- One more digit of the exponent. -/
def addExponent (r : Reading) (negative : Bool) (value d : Nat) : NumeralStep :=
  if value * 10 + d ≤ maxExponent then .next (.exponentDigits r negative (value * 10 + d))
  else if r.significand ≠ 0 ∧ !negative then .next .overflowed
  else .next (.vanished r.negative)

/-- The floating-point number that has been read. -/
def toFloat (r : Reading) : Except NumeralError Json :=
  match Binary64.ofDecimal? r.negative r.significand r.exponent with
  | some x => .ok (.float x)
  | none => .error .outOfRange

/-- The integer that has been read, or the number nearest to it when it has no 64-bit form. -/
def toInteger (r : Reading) : Json :=
  if r.negative then
    if 0 < r.significand ∧ r.significand ≤ 9223372036854775808 then .integer (-r.significand)
    else .float (Binary64.withSign true (Binary64.ofNat r.significand))
  else .integer r.significand

end Reading

namespace Numeral

/-- The numeral that a digit starts. -/
def ofDigit (negative : Bool) (d : Nat) : Numeral :=
  if d = 0 then zero negative else whole ⟨negative, d, 0⟩

/-- What follows the digits before the point. -/
def afterWhole (r : Reading) (c : Char) : NumeralStep :=
  if c = '.' then .next (point r)
  else if c = 'e' ∨ c = 'E' then .next (exponentMark r)
  else .ended

/-- What follows the digits after the point. -/
def afterFraction (r : Reading) (c : Char) : NumeralStep :=
  if c = 'e' ∨ c = 'E' then .next (exponentMark r) else .ended

/-- Reads one character. -/
def step (n : Numeral) (c : Char) : NumeralStep :=
  match n, Text.digitValue? c with
  | sign, some d => .next (ofDigit true d)
  | sign, none => .refused .malformed
  | zero _, some _ => .refused .malformed
  | zero negative, none => afterWhole ⟨negative, 0, 0⟩ c
  | whole r, some d => .next (r.addWhole d)
  | whole r, none => afterWhole r c
  | wholeDropped r, some _ => .next (wholeDropped { r with exponent := r.exponent + 1 })
  | wholeDropped r, none => afterWhole r c
  | point r, some d => .next (r.addFraction d)
  | point _, none => .refused .malformed
  | fraction r, some d => .next (r.addFraction d)
  | fraction r, none => afterFraction r c
  | fractionDropped r, some _ => .next (fractionDropped r)
  | fractionDropped r, none => afterFraction r c
  | exponentMark r, some d => .next (exponentDigits r false d)
  | exponentMark r, none =>
    if c = '+' then .next (exponentSign r false)
    else if c = '-' then .next (exponentSign r true)
    else .refused .malformed
  | exponentSign r negative, some d => .next (exponentDigits r negative d)
  | exponentSign _ _, none => .refused .malformed
  | exponentDigits r negative value, some d => r.addExponent negative value d
  | exponentDigits _ _ _, none => .ended
  | vanished negative, some _ => .next (vanished negative)
  | vanished _, none => .ended
  | overflowed, some _ => .next overflowed
  | overflowed, none => .ended

/-- The value of a numeral that ends here. -/
def finish : Numeral → Except NumeralError Json
  | sign | point _ | exponentMark _ | exponentSign _ _ => .error .unfinished
  | zero negative => .ok (Reading.toInteger ⟨negative, 0, 0⟩)
  | whole r => .ok r.toInteger
  | wholeDropped r | fraction r | fractionDropped r => r.toFloat
  | exponentDigits r negative value =>
    Reading.toFloat { r with exponent := r.exponent + (if negative then -(value : Int) else value) }
  | vanished negative => .ok (.float (Binary64.withSign negative .zero))
  | overflowed => .error .outOfRange

end Numeral

end SqlLowering.Json
