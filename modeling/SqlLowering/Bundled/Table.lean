import SqlLowering.Signature
import SqlLowering.Subscript
import SqlLowering.Translation.Registry

/-!
# Translation tables

The bundled rules are tables. An entry pairs a signature with the native form that takes the place
of a call with this signature, and the first entry whose signature the call has decides. The
operands of the form are the receiver, if any, and the arguments of the call, or for tables of
static methods the arguments only.
-/

namespace SqlLowering

/-- A native form waiting for its operands. -/
inductive NativeForm where
  /-- A function of all operands. -/
  | function (name : String)
  /-- An infix operator between two operands. -/
  | operator (symbol : String)
  /-- A function whose last operand is a position that it counts from one. -/
  | positional (name : String)
deriving DecidableEq, Repr, Inhabited

/-- The operands with the last one, a position, counted from one. -/
def shiftLast : List Expr → List Expr
  | [] => []
  | [e] => [e.oneBased]
  | e :: e' :: es => e :: shiftLast (e' :: es)

/-- The native expression with the given operands; an operator takes exactly two. -/
def NativeForm.apply : NativeForm → List Expr → Outcome
  | function name, es => .replaced (.function name es)
  | operator symbol, [left, right] => .replaced (.binary symbol left right)
  | operator _, _ => .declined
  | positional name, es => .replaced (.function name (shiftLast es))

abbrev TranslationTable := List (Signature × NativeForm)

/-- The rule that a table stands for, with the operands that it takes from a call. -/
def TranslationTable.rule (table : TranslationTable) (operands : MethodCall → List Expr) : Rule :=
  fun call =>
    match Signature.find? table call with
    | some entry => entry.2.apply (operands call)
    | none => .declined

end SqlLowering
