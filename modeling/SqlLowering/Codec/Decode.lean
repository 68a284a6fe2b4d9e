import SqlLowering.Codec.Kind

/-!
# Decoding expressions

An expression is an object with its kind under the key `kind` and its fields under their keys, or an
array of its kind and its fields in order. In an object the order of the members is free, other
members are ignored, and neither the kind nor a field may be given twice. The kind is judged before
any field; then the fields are read as they come, so that the first bad one is reported, and only
after that those that are missing.

The kind of an outermost expression is a text. Inside an expression it may also be the number of
the kind, counted from zero, for there the document has been read in full before it is decoded.
-/

namespace SqlLowering

namespace Expr

open Codec

/-- Where an expression stands. -/
inductive Nesting where
  | outermost
  | inside
deriving DecidableEq, Repr

/-- A kind by its name. -/
def Kind.ofName (s : String) : Codec.Result Kind :=
  findNamed Kind.tag Kind.all s

/-- A kind by its number. -/
def Kind.ofIndex (n : Nat) : Codec.Result Kind :=
  match Kind.all[n]? with
  | some kind => .ok kind
  | none => .error (.invalidValue (.integer n)
      ("variant index 0 <= i < " ++ Text.natText Kind.all.length))

def Kind.ofJson : Nesting → Json → Codec.Result Kind
  | _, .text s => Kind.ofName s
  | .inside, .integer (.ofNat n) => Kind.ofIndex n
  | _, v => .error (.wrongType v "variant identifier")

/-- The kind given by the members of an object. -/
def findKind (nesting : Nesting) (found : Option Kind) :
    List (String × Json) → Codec.Result Kind
  | [] =>
    match found with
    | some kind => .ok kind
    | none => .error (.missingField "kind")
  | (key, v) :: rest =>
    if key = "kind" then
      if found.isSome then .error (.duplicateField "kind")
      else (Kind.ofJson nesting v).bind fun kind => findKind nesting (some kind) rest
    else findKind nesting found rest

/-- What an encoded expression is called in messages. -/
def expectation : String :=
  "internally tagged enum Expression"

/-- The value of a field, by the ways its document reads as an expression and as a list of them. -/
def readField (f : Field) (v : Json) (asExpr : Unit → Codec.Result Expr)
    (asList : Unit → Codec.Result (List Expr)) : Codec.Result f.Holds :=
  match f with
  | .name | .method | .op => readText v
  | .datatype | .declaringType => ValueType.ofJson v
  | .value => Scalar.ofJson v
  | .receiver =>
    match v with
    | .null => .ok none
    | _ => (asExpr ()).map some
  | .args | .indices => asList ()
  | .left | .right | .expr | .array => asExpr ()
  | .target => DataType.ofJson v
  | .origin => Origin.ofJson v

/-- The fields that an array gave, if their number is right for the kind. -/
def checkLength (kind : Kind) (given : Nat) (fields : Fields) : Codec.Result Fields :=
  if given < kind.required then .error (.invalidLength given kind.expectation)
  else if kind.fields.length < given then
    .error (.invalidLength given (counted kind.fields.length "element" ++ " in sequence"))
  else .ok fields

mutual

/-- The expression that a document encodes. -/
def ofJson (nesting : Nesting) : Json → Codec.Result Expr
  | .object members => do
    let kind ← findKind nesting none members
    let fields ← readMembers kind .empty members
    fields.build kind
  | .array [] => .error (.missingField "kind")
  | .array (tag :: items) => do
    let kind ← Kind.ofJson nesting tag
    let fields ← readItems .empty kind.fields items
    let fields ← checkLength kind items.length fields
    fields.build kind
  | v => .error (.wrongType v expectation)

/-- Reads the fields of a kind among the members of an object, in their order. -/
def readMembers (kind : Kind) (fields : Fields) : List (String × Json) → Codec.Result Fields
  | [] => .ok fields
  | (key, v) :: rest =>
    match kind.field? key with
    | none => readMembers kind fields rest
    | some f =>
      if (fields f).isSome then .error (.duplicateField key)
      else
        match readField f v (fun _ => ofJson .inside v) (fun _ => readList v) with
        | .ok x => readMembers kind (fields.put f x) rest
        | .error e => .error e

/-- Reads fields in order, as far as there are items for them. -/
def readItems (fields : Fields) (order : List Field) : List Json → Codec.Result Fields
  | [] => .ok fields
  | v :: vs =>
    match order with
    | [] => .ok fields
    | f :: fs =>
      match readField f v (fun _ => ofJson .inside v) (fun _ => readList v) with
      | .ok x => readItems (fields.put f x) fs vs
      | .error e => .error e

/-- An array of expressions inside an expression. -/
def readList : Json → Codec.Result (List Expr)
  | .array items => readElements items
  | v => .error (.wrongType v "a sequence")

def readElements : List Json → Codec.Result (List Expr)
  | [] => .ok []
  | v :: vs => do
    let e ← ofJson .inside v
    let es ← readElements vs
    return e :: es

end

end Expr

end SqlLowering
