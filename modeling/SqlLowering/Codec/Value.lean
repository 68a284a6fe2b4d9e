import SqlLowering.Codec.Mismatch
import SqlLowering.Expr.Basic

/-!
# Encoding of types and constants

A choice without a value is a text naming it, or an object with this name as its only key; the
value under the key is null, or an object without members. A constant is the choice of its type,
with its value under the key. A data type is an object, or an array of its fields, the last of which
may be left out.
-/

namespace SqlLowering

namespace Codec

abbrev Result (α : Type) := Except Mismatch α

def readText : Json → Result String
  | .text s => .ok s
  | v => .error (.wrongType v "a string")

def readBool : Json → Result Bool
  | .boolean b => .ok b
  | v => .error (.wrongType v "a boolean")

/-- An integer in a range. -/
def readInteger (low high : Int) (expected : String) : Json → Result Int
  | .integer n =>
    if low ≤ n ∧ n ≤ high then .ok n else .error (.invalidValue (.integer n) expected)
  | v => .error (.wrongType v expected)

def readInt32 (v : Json) : Result Int32 :=
  (readInteger (-2147483648) 2147483647 "i32" v).map Int32.ofInt

def readInt64 (v : Json) : Result Int64 :=
  (readInteger (-9223372036854775808) 9223372036854775807 "i64" v).map Int64.ofInt

def readUInt32 (v : Json) : Result UInt32 :=
  (readInteger 0 4294967295 "u32" v).map fun n => UInt32.ofNat n.toNat

/-- A number; an integer is rounded. -/
def readFloat : Json → Result Binary64
  | .float x => .ok x
  | .integer n => .ok (.ofInt n)
  | v => .error (.wrongType v "f64")

def readNull : Json → Result Unit
  | .null => .ok ()
  | v => .error (.wrongType v "unit")

/-- One of the given things, by its name. -/
def findNamed {α : Type} (name : α → String) (all : List α) (s : String) : Result α :=
  match all.find? fun a => name a == s with
  | some a => .ok a
  | none => .error (.unknownChoice s (all.map name))

/-! ## Choices -/

/-- One of the things that an encoding can name. -/
inductive Choice (α : Type) where
  | bare (name : String) (result : α)
  /-- A choice with a value, which is not a container, and how it is read. -/
  | holding (name : String) (read : Json → Result α)

namespace Choice

variable {α : Type}

def name : Choice α → String
  | bare n _ => n
  | holding n _ => n

/-- The result of a choice that is only named. -/
def alone : Choice α → Result α
  | bare _ a => .ok a
  | holding _ _ => .error (.invalidType .bareChoice "newtype variant")

/-- The result of a choice that is given with a value. -/
def withValue : Choice α → Json → Result α
  | bare _ a, v => (readNull v).map fun _ => a
  | holding _ read, v => read v

/-- The result of one of the given choices. -/
def decode (choices : List (Choice α)) : Json → Result α
  | .text s => (findNamed name choices s).bind alone
  | .object [(s, v)] => do
    match ← findNamed name choices s, v with
    | bare _ a, .object [] => return a
    | c, v => c.withValue v
  | .object _ => .error (.invalidValue .map "map with a single key")
  | v => .error (.wrongType v "string or map")

end Choice

end Codec

open Codec

namespace ValueType

def choices : List (Choice ValueType) :=
  all.map fun t => .bare t.tag t

def ofJson : Json → Codec.Result ValueType :=
  Choice.decode choices

def toJson (t : ValueType) : Json :=
  .text t.tag

end ValueType

namespace Origin

def tag : Origin → String
  | zero => "zero"
  | one => "one"

def choices : List (Choice Origin) :=
  [zero, one].map fun o => .bare o.tag o

def ofJson : Json → Codec.Result Origin :=
  Choice.decode choices

def toJson (o : Origin) : Json :=
  .text o.tag

end Origin

namespace Scalar

/-- The types of constants, in the order messages list them. -/
def choices : List (Choice Scalar) :=
  [ .bare "null" null,
    .holding "boolean" fun v => (readBool v).map boolean,
    .holding "int32" fun v => (readInt32 v).map int32,
    .holding "int64" fun v => (readInt64 v).map int64,
    .holding "float64" fun v => (readFloat v).map float64,
    .holding "text" fun v => (readText v).map text ]

def ofJson : Json → Codec.Result Scalar :=
  Choice.decode choices

def toJson : Scalar → Json
  | null => .text "null"
  | boolean b => .object [("boolean", .boolean b)]
  | int32 n => .object [("int32", .integer n.toInt)]
  | int64 n => .object [("int64", .integer n.toInt)]
  | float64 x => .object [("float64", .float x)]
  | text s => .object [("text", .text s)]

end Scalar

/-! ## Data types -/

namespace DataType

/-- The fields of a data type as they are read; a length that is given as null is no length. -/
structure Fields where
  base : Option ValueType
  maxLength : Option (Option UInt32)

/-- A length or null. -/
def readLength : Json → Codec.Result (Option UInt32)
  | .null => .ok none
  | v => (readUInt32 v).map some

/-- The data type that has these fields. -/
def Fields.build (f : Fields) : Codec.Result DataType :=
  match f.base with
  | some t => .ok ⟨t, f.maxLength.join⟩
  | none => .error (.missingField "id")

/-- Reads the fields among the members of an object, in their order; other members are ignored. -/
def readMembers (f : Fields) : List (String × Json) → Codec.Result Fields
  | [] => .ok f
  | (key, v) :: rest =>
    if key = "id" then
      if f.base.isSome then .error (.duplicateField "id")
      else (ValueType.ofJson v).bind fun t => readMembers { f with base := some t } rest
    else if key = "max_length" then
      if f.maxLength.isSome then .error (.duplicateField "max_length")
      else (readLength v).bind fun n => readMembers { f with maxLength := some n } rest
    else readMembers f rest

/-- A data type; both spellings are accepted. -/
def ofJson : Json → Codec.Result DataType
  | .object members => (readMembers ⟨none, none⟩ members).bind Fields.build
  | .array [] => .error (.invalidLength 0 "struct DataType with 2 elements")
  | .array [t] => do return ⟨← ValueType.ofJson t, none⟩
  | .array (t :: n :: rest) => do
    let d : DataType := ⟨← ValueType.ofJson t, ← readLength n⟩
    if rest.isEmpty then return d
    throw (.invalidLength (rest.length + 2) "2 elements in sequence")
  | v => .error (.wrongType v "struct DataType")

def toJson (t : DataType) : Json :=
  .object (("id", t.base.toJson) ::
    (t.maxLength.map fun n => ("max_length", Json.integer n.toNat)).toList)

end DataType

end SqlLowering
