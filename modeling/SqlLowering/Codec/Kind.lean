import SqlLowering.Codec.Value

/-!
# Kinds of expressions and their fields

The encoding of an expression names its kind and has the fields of that kind, in an order that an
array of the fields keeps. Some fields at the end of this order have a default and may be left out.

Fields are collected one by one, each with a value of its own type.
-/

namespace SqlLowering

namespace Expr

/-- The kinds of expressions, in the order messages list them. -/
inductive Kind where
  | column
  | literal
  | methodCall
  | function
  | binary
  | cast
  | index
deriving DecidableEq, Repr

/-- The fields that occur in encodings. -/
inductive Field where
  | name
  | datatype
  | value
  | declaringType
  | method
  | receiver
  | args
  | op
  | left
  | right
  | target
  | expr
  | array
  | indices
  | origin
deriving DecidableEq, Repr

namespace Field

/-- The type of what a field holds. -/
abbrev Holds : Field → Type
  | name | method | op => String
  | datatype | declaringType => ValueType
  | value => Scalar
  | receiver => Option Expr
  | args | indices => List Expr
  | left | right | expr | array => Expr
  | target => DataType
  | origin => Origin

def key : Field → String
  | name => "name"
  | datatype => "datatype"
  | value => "value"
  | declaringType => "declaring_type"
  | method => "method"
  | receiver => "receiver"
  | args => "args"
  | op => "op"
  | left => "left"
  | right => "right"
  | target => "to"
  | expr => "expr"
  | array => "array"
  | indices => "indices"
  | origin => "origin"

end Field

namespace Kind

def all : List Kind :=
  [column, literal, methodCall, function, binary, cast, index]

def tag : Kind → String
  | column => "column"
  | literal => "literal"
  | methodCall => "method_call"
  | function => "function"
  | binary => "binary_operator"
  | cast => "cast"
  | index => "index"

/-- The name of the structure that has the fields of a kind. -/
def structureName : Kind → String
  | column => "ColumnExpr"
  | literal => "LiteralExpr"
  | methodCall => "MethodCallExpr"
  | function => "FunctionExpr"
  | binary => "BinaryOperatorExpr"
  | cast => "CastExpr"
  | index => "IndexExpr"

/-- The fields of a kind, in the order an array gives them. -/
def fields : Kind → List Field
  | column => [.name, .datatype]
  | literal => [.value]
  | methodCall => [.declaringType, .method, .receiver, .args]
  | function => [.name, .args]
  | binary => [.op, .left, .right]
  | cast => [.target, .expr]
  | index => [.array, .indices, .origin]

/-- How many fields at the start of the order have no default. -/
def required : Kind → Nat
  | column => 2
  | literal => 1
  | methodCall => 2
  | function => 1
  | binary => 3
  | cast => 2
  | index => 2

/-- The field of a kind under a key. -/
def field? (kind : Kind) (key : String) : Option Field :=
  kind.fields.find? fun f => f.key == key

/-- The kind, as a message about the number of fields names it. -/
def expectation (kind : Kind) : String :=
  "struct " ++ kind.structureName ++ " with " ++ counted kind.fields.length "element"

end Kind

/-- Fields that have been collected. -/
def Fields : Type :=
  (f : Field) → Option f.Holds

namespace Fields

def empty : Fields :=
  fun _ => none

/-- The fields with one more. -/
def put (fs : Fields) (f : Field) (x : f.Holds) : Fields := fun g =>
  if h : f = g then some (h ▸ x) else fs g

/-- A field without a default. -/
def require (fs : Fields) (f : Field) : Codec.Result f.Holds :=
  match fs f with
  | some x => .ok x
  | none => .error (.missingField f.key)

/-- The expression of a kind with these fields. -/
def build (fs : Fields) : Kind → Codec.Result Expr
  | .column => do
    let n ← fs.require .name
    let t ← fs.require .datatype
    return column n t
  | .literal => do
    let v ← fs.require .value
    return literal v
  | .methodCall => do
    let t ← fs.require .declaringType
    let m ← fs.require .method
    return methodCall t m ((fs .receiver).getD none) ((fs .args).getD [])
  | .function => do
    let n ← fs.require .name
    return function n ((fs .args).getD [])
  | .binary => do
    let o ← fs.require .op
    let l ← fs.require .left
    let r ← fs.require .right
    return binary o l r
  | .cast => do
    let t ← fs.require .target
    let e ← fs.require .expr
    return cast t none e
  | .index => do
    let a ← fs.require .array
    let is ← fs.require .indices
    return index a is ((fs .origin).getD .zero)

end Fields

end Expr

end SqlLowering
