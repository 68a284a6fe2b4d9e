/-!
# Whole numbers in decimal notation

Natural numbers and integers are written with the ten ASCII digits, without leading zeros and with a
leading minus sign below zero. Reading accepts any non-empty run of digits, so leading zeros are
read and not written: the written form of a number is one of the forms that read back to it.
-/

namespace SqlLowering.Text

/-- The decimal digits of a natural number. -/
def natText (n : Nat) : String :=
  String.ofList (Nat.toDigits 10 n)

/-- The decimal digits of an integer, after a minus sign when it is negative. -/
def intText : Int → String
  | .ofNat n => natText n
  | .negSucc n => "-" ++ natText (n + 1)

/-- The value of an ASCII digit. -/
def digitValue? (c : Char) : Option Nat :=
  if c.isDigit then some (c.toNat - '0'.toNat) else none

/-- The number a run of digits continues to when it has been read up to `acc`. -/
def readDigits? (acc : Nat) : List Char → Option Nat
  | [] => some acc
  | c :: rest => (digitValue? c).bind fun d => readDigits? (10 * acc + d) rest

/-- The number a non-empty run of ASCII digits stands for. -/
def readNat? : List Char → Option Nat
  | [] => none
  | cs => readDigits? 0 cs

/-- The texts in order, with `separator` between neighbours. -/
def joinWith (separator : String) : List String → String
  | [] => ""
  | [s] => s
  | s :: t :: rest => s ++ separator ++ joinWith separator (t :: rest)

end SqlLowering.Text
