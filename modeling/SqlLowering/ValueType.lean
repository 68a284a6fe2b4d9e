import SqlLowering.Text.Decimal

/-!
# Value types

The types of the values an expression produces, which are also the types that declare methods. Each
has a title, shown in names and messages, and a tag, its name in documents. Collections and the
declaring type of static database functions exist on the host side only.

A data type is a value type with an optional bound on its length.
-/

namespace SqlLowering

inductive ValueType where
  | null
  | boolean
  | int32
  | int64
  | float64
  | text
  | bytea
  | geometry
  | ltree
  | lquery
  | ltxtquery
  | collection
  | dbFunctions
deriving DecidableEq, Repr, Inhabited

namespace ValueType

/-- Every value type, in the order messages list them. -/
def all : List ValueType :=
  [null, boolean, int32, int64, float64, text, bytea, geometry, ltree, lquery, ltxtquery,
    collection, dbFunctions]

/-- The name shown in qualified method names and in messages. -/
def title : ValueType → String
  | null => "Null"
  | boolean => "Boolean"
  | int32 => "Int32"
  | int64 => "Int64"
  | float64 => "Float64"
  | text => "Text"
  | bytea => "Bytea"
  | geometry => "Geometry"
  | ltree => "LTree"
  | lquery => "LQuery"
  | ltxtquery => "LTxtQuery"
  | collection => "Collection"
  | dbFunctions => "DbFunctions"

/-- The name used in documents. -/
def tag : ValueType → String
  | null => "null"
  | boolean => "boolean"
  | int32 => "int32"
  | int64 => "int64"
  | float64 => "float64"
  | text => "text"
  | bytea => "bytea"
  | geometry => "geometry"
  | ltree => "ltree"
  | lquery => "lquery"
  | ltxtquery => "ltxtquery"
  | collection => "collection"
  | dbFunctions => "db_functions"

end ValueType

/-- A value type and the bound on its length, if it has one. -/
structure DataType where
  base : ValueType
  maxLength : Option UInt32
deriving DecidableEq, Repr, Inhabited

/-- The title of the value type, followed by the bound in parentheses. -/
def DataType.title (t : DataType) : String :=
  match t.maxLength with
  | none => t.base.title
  | some n => t.base.title ++ "(" ++ Text.natText n.toNat ++ ")"

end SqlLowering
