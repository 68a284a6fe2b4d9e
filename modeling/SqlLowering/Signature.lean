import SqlLowering.Expr.Basic

/-!
# Signatures

A signature names a host method that a rule can translate. A call has the signature when it agrees
with it on the declaring type, the method name, the number of arguments and the presence of a
receiver. The types of the parameters document the method and are not compared with the arguments,
which the host has checked already; only their number counts.
-/

namespace SqlLowering

/-- How a method is called: on a value, or on the type that declares it. -/
inductive CallKind where
  | member
  | static
deriving DecidableEq, Repr, Inhabited

structure Signature where
  kind : CallKind
  declaringType : ValueType
  name : String
  params : List ValueType
deriving DecidableEq, Repr, Inhabited

namespace Signature

def arity (s : Signature) : Nat :=
  s.params.length

/-- Whether a call has the signature. -/
def accepts (s : Signature) (call : MethodCall) : Bool :=
  let kindAgrees :=
    match s.kind with
    | .member => !call.isStatic
    | .static => call.isStatic
  decide (call.declaringType = s.declaringType) && kindAgrees && call.arity == s.arity &&
    call.method == s.name

/-- The declaring type, the name and the parameter types. -/
def render (s : Signature) : String :=
  s.declaringType.title ++ "." ++ s.name ++ "(" ++
    Text.joinWith ", " (s.params.map ValueType.title) ++ ")"

/-- The first entry of a table whose signature a call has. -/
def find? {α : Type} (table : List (Signature × α)) (call : MethodCall) :
    Option (Signature × α) :=
  table.find? fun entry => entry.1.accepts call

end Signature

end SqlLowering
