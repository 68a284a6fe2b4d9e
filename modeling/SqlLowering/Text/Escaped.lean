import SqlLowering.Text.Blank
import SqlLowering.Text.Invisible

/-!
# Texts quoted in messages

A text that a message cites stands between double quotes. The quote and the backslash are escaped
with a backslash, the common controls have their letter, and any other character without a visible
form is written as its code point in lower-case hexadecimal between braces.
-/

namespace SqlLowering.Text

/-- The form of one character inside a cited text. -/
def escapedChar (c : Char) : List Char :=
  if c = '\x00' then ['\x5c', '0']
  else if c = '\x09' then ['\x5c', 't']
  else if c = '\x0d' then ['\x5c', 'r']
  else if c = '\x0a' then ['\x5c', 'n']
  else if c = '\x22' then ['\x5c', '\x22']
  else if c = '\x5c' then ['\x5c', '\x5c']
  else if inRanges invisibleRanges c then
    ['\x5c', 'u', '\x7b'] ++ Nat.toDigits 16 c.toNat ++ ['\x7d']
  else [c]

/-- The text between double quotes, as messages cite it. -/
def escaped (s : String) : String :=
  String.ofList ('\x22' :: s.toList.flatMap escapedChar ++ ['\x22'])

end SqlLowering.Text
