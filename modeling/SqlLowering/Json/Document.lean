import SqlLowering.Binary64.Text

/-!
# Documents

A document is a JSON value. Integers and floating-point numbers are kept apart, as they are by their
spelling, and an object keeps its members in order, repeated keys included.

The written form has no blanks. In texts only the quote, the backslash and the control characters
are escaped, the last by a letter where there is one. A number that is not finite is written as
null.
-/

namespace SqlLowering

inductive Json where
  | null
  | boolean (value : Bool)
  | integer (value : Int)
  | float (value : Binary64)
  | text (value : String)
  | array (items : List Json)
  | object (members : List (String × Json))
deriving Inhabited

namespace Json

/-- The letter that stands for a control character, a quote or a backslash in an escape. -/
def escapeLetter? (c : Char) : Option Char :=
  if c = '\x22' ∨ c = '\x5c' then some c
  else if c = '\x08' then some 'b'
  else if c = '\x09' then some 't'
  else if c = '\x0a' then some 'n'
  else if c = '\x0c' then some 'f'
  else if c = '\x0d' then some 'r'
  else none

/-- The written form of one character of a text. -/
def writeChar (c : Char) : List Char :=
  match escapeLetter? c with
  | some letter => ['\x5c', letter]
  | none =>
    if c.toNat < 32 then
      ['\x5c', 'u', '0', '0', Nat.digitChar (c.toNat / 16), Nat.digitChar (c.toNat % 16)]
    else [c]

/-- The written form of a text, between quotes. -/
def writeText (s : String) : List Char :=
  '\x22' :: s.toList.flatMap writeChar ++ ['\x22']

mutual

def write : Json → List Char
  | null => ['n', 'u', 'l', 'l']
  | boolean true => ['t', 'r', 'u', 'e']
  | boolean false => ['f', 'a', 'l', 's', 'e']
  | integer n => (Text.intText n).toList
  | float x => if x.isNaN || x.isInfinite then ['n', 'u', 'l', 'l'] else x.exponentText.toList
  | text s => writeText s
  | array items => '[' :: writeItems items
  | object members => '\x7b' :: writeMembers members

/-- The items of an array, separated by commas, and the closing bracket. -/
def writeItems : List Json → List Char
  | [] => [']']
  | [v] => v.write ++ [']']
  | v :: vs => v.write ++ ',' :: writeItems vs

/-- The members of an object, separated by commas, and the closing brace. -/
def writeMembers : List (String × Json) → List Char
  | [] => ['\x7d']
  | [(key, v)] => writeText key ++ ':' :: (v.write ++ ['\x7d'])
  | (key, v) :: rest => writeText key ++ ':' :: (v.write ++ ',' :: writeMembers rest)

end

/-- The written form of a document. -/
def render (v : Json) : String :=
  String.ofList v.write

/-- The value of the first member with a key, if the document is an object that has one. -/
def get? : Json → String → Option Json
  | object members, key => members.lookup key
  | _, _ => none

end Json

end SqlLowering
