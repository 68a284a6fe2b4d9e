import SqlLowering.Binary64.Shortest

/-!
# Number texts

Two spellings of a double-precision number, both from a shortest decimal that reads back to it.

* `plainText` never has an exponent and has no fraction when the number is whole. It is the spelling
  of SQL literals; an exact tie between two shortest decimals goes up.
* `exponentText` has a fraction or an exponent in every case: magnitudes from `10 ^ -5` to below
  `10 ^ 16` are positional, others have one digit before the point and a signed exponent. It is the
  spelling of documents and messages; an exact tie goes to the even decimal.
-/

namespace SqlLowering.Binary64

open SqlLowering.Text

/-- The text of a number's sign. -/
def signText (x : Binary64) : String :=
  if x.isNegative then "-" else ""

/-- The positional spelling of a decimal; a whole number is followed by `wholeSuffix`. -/
def Decimal.positional (d : Decimal) (wholeSuffix : String) : String :=
  let ds := Nat.toDigits 10 d.digits
  match d.exponent with
  | .ofNat k => String.ofList (ds ++ List.replicate k '0') ++ wholeSuffix
  | .negSucc k =>
    let places := k + 1
    if ds.length ≤ places then
      "0." ++ String.ofList (List.replicate (places - ds.length) '0' ++ ds)
    else
      String.ofList (ds.take (ds.length - places)) ++ "." ++
        String.ofList (ds.drop (ds.length - places))

/-- The spelling with one digit before the point and a signed exponent. -/
def Decimal.withExponent (d : Decimal) : String :=
  let ds := Nat.toDigits 10 d.digits
  let e : Int := d.exponent + (ds.length - 1 : Nat)
  let fraction := if ds.length ≤ 1 then "" else "." ++ String.ofList (ds.drop 1)
  String.ofList (ds.take 1) ++ fraction ++ "e" ++ (if e < 0 then "-" else "+") ++ natText e.natAbs

/-- The spelling without an exponent. -/
def plainText (x : Binary64) : String :=
  if x.isNaN then "NaN"
  else if x.isInfinite then x.signText ++ "inf"
  else if x.isZero then x.signText ++ "0"
  else x.signText ++ (x.shortest .up).positional ""

/-- The spelling of a finite number with a fraction or an exponent. -/
def exponentText (x : Binary64) : String :=
  if x.isZero then x.signText ++ "0.0"
  else
    let d := x.shortest .even
    let e : Int := d.exponent + (digitCount d.digits - 1 : Nat)
    x.signText ++ (if -5 ≤ e ∧ e ≤ 15 then d.positional ".0" else d.withExponent)

end SqlLowering.Binary64
