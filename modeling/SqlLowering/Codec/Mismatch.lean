import SqlLowering.Json.Reader
import SqlLowering.Text.Escaped

/-!
# Mismatches

What can be wrong with a well-formed document that should encode something: it has another type or
value than expected, too few or too many elements, a choice that does not exist, or a field
missing or given twice. Reading from text fails with a mismatch or with a fault of the text.
-/

namespace SqlLowering

/-- What stands in a place where something else is expected. -/
inductive Unexpected where
  | null
  | boolean (value : Bool)
  | integer (value : Int)
  | float (value : Binary64)
  | text (value : String)
  | sequence
  | map
  /-- A choice that should have a value and has none. -/
  | bareChoice
deriving DecidableEq, Repr

namespace Unexpected

def ofJson : Json → Unexpected
  | .null => null
  | .boolean b => boolean b
  | .integer n => integer n
  | .float x => float x
  | .text s => text s
  | .array _ => sequence
  | .object _ => map

def render : Unexpected → String
  | null => "null"
  | boolean b => "boolean `" ++ (if b then "true" else "false") ++ "`"
  | integer n => "integer `" ++ Text.intText n ++ "`"
  | float x => "floating point `" ++ x.exponentText ++ "`"
  | text s => "string " ++ Text.escaped s
  | sequence => "sequence"
  | map => "map"
  | bareChoice => "unit variant"

end Unexpected

inductive Mismatch where
  | invalidType (found : Unexpected) (expected : String)
  | invalidValue (found : Unexpected) (expected : String)
  | invalidLength (found : Nat) (expected : String)
  | unknownChoice (name : String) (choices : List String)
  | missingField (name : String)
  | duplicateField (name : String)
deriving DecidableEq, Repr

/-- The choices that exist, as a message lists them. -/
def renderChoices (choices : List String) : String :=
  match choices.map fun c => "`" ++ c ++ "`" with
  | [] => "no choice"
  | [a] => a
  | [a, b] => a ++ " or " ++ b
  | names => "one of " ++ Text.joinWith ", " names

namespace Mismatch

def message : Mismatch → String
  | invalidType found expected => "invalid type: " ++ found.render ++ ", expected " ++ expected
  | invalidValue found expected => "invalid value: " ++ found.render ++ ", expected " ++ expected
  | invalidLength found expected =>
    "invalid length " ++ Text.natText found ++ ", expected " ++ expected
  | unknownChoice name choices =>
    "unknown variant `" ++ name ++ "`, expected " ++ renderChoices choices
  | missingField name => "missing field `" ++ name ++ "`"
  | duplicateField name => "duplicate field `" ++ name ++ "`"

/-- A document of another type than expected. -/
def wrongType (found : Json) (expected : String) : Mismatch :=
  invalidType (.ofJson found) expected

end Mismatch

/-- A number of things, as messages count them. -/
def counted (n : Nat) (what : String) : String :=
  Text.natText n ++ " " ++ what ++ if n = 1 then "" else "s"

/-- Why a text could not be decoded. -/
inductive DecodeFailure where
  | malformed (e : Json.SyntaxError)
  | mismatch (m : Mismatch)
deriving DecidableEq, Repr

def DecodeFailure.message : DecodeFailure → String
  | malformed e => e.message
  | mismatch m => m.message

end SqlLowering
