import SqlLowering.Scalar
import SqlLowering.TypeMap.Descriptor

/-!
# Expressions

An expression is a tree of columns, constants, method calls of the host language, and the native
forms they are lowered to: functions, infix operators, casts and element access. Subscripts count
from zero in the host language and from one in the database, and an access says which it uses. A
cast carries the descriptor of its target once it has been resolved.

A method call is also a structure of its own, the form in which it is offered to translation rules.
A call without a receiver is static.
-/

namespace SqlLowering

/-- The number of the first element that subscripts count from. -/
inductive Origin where
  | zero
  | one
deriving DecidableEq, Repr, Inhabited

inductive Expr where
  | column (name : String) (type : ValueType)
  | literal (value : Scalar)
  | methodCall (declaringType : ValueType) (method : String) (receiver : Option Expr)
      (args : List Expr)
  | function (name : String) (args : List Expr)
  | binary (operator : String) (left right : Expr)
  | cast (target : DataType) (storeType : Option TypeDescriptor) (operand : Expr)
  | index (array : Expr) (subscripts : List Expr) (origin : Origin)
deriving Inhabited

/-- A call of a method that `declaringType` declares. -/
structure MethodCall where
  declaringType : ValueType
  method : String
  receiver : Option Expr
  args : List Expr
deriving Inhabited

namespace MethodCall

def isStatic (call : MethodCall) : Bool :=
  call.receiver.isNone

/-- The number of arguments, the receiver not counted. -/
def arity (call : MethodCall) : Nat :=
  call.args.length

/-- The receiver, if any, followed by the arguments: the order native functions take them in. -/
def operands (call : MethodCall) : List Expr :=
  call.receiver.toList ++ call.args

/-- The name used in diagnostics. -/
def qualifiedName (call : MethodCall) : String :=
  call.declaringType.title ++ "." ++ call.method

def toExpr (call : MethodCall) : Expr :=
  .methodCall call.declaringType call.method call.receiver call.args

end MethodCall

namespace Expr

/-- The constant, when the expression is one. -/
def constant? : Expr → Option Scalar
  | literal value => some value
  | _ => none

/-! ## Agreement

Two expressions agree when they have the same shape, names and types, and constants that agree. It
is the equality of expressions, but for floating-point constants. -/

mutual

def agrees : Expr → Expr → Bool
  | column n t, column n' t' => n == n' && decide (t = t')
  | literal v, literal v' => v.agrees v'
  | methodCall t m r as, methodCall t' m' r' as' =>
    decide (t = t') && m == m' && agreesOption r r' && agreesList as as'
  | function n as, function n' as' => n == n' && agreesList as as'
  | binary o l r, binary o' l' r' => o == o' && l.agrees l' && r.agrees r'
  | cast t s e, cast t' s' e' => decide (t = t') && decide (s = s') && e.agrees e'
  | index a is o, index a' is' o' => a.agrees a' && agreesList is is' && decide (o = o')
  | _, _ => false

def agreesOption : Option Expr → Option Expr → Bool
  | none, none => true
  | some e, some e' => e.agrees e'
  | _, _ => false

def agreesList : List Expr → List Expr → Bool
  | [], [] => true
  | e :: es, e' :: es' => e.agrees e' && agreesList es es'
  | _, _ => false

end

/-! ## Method calls -/

mutual

/-- The method calls of an expression, each before those of its operands and these in order. -/
def methodCalls : Expr → List MethodCall
  | column _ _ => []
  | literal _ => []
  | methodCall t m r as => ⟨t, m, r, as⟩ :: (methodCallsOption r ++ methodCallsList as)
  | function _ as => methodCallsList as
  | binary _ l r => l.methodCalls ++ r.methodCalls
  | cast _ _ e => e.methodCalls
  | index a is _ => a.methodCalls ++ methodCallsList is

def methodCallsOption : Option Expr → List MethodCall
  | none => []
  | some e => e.methodCalls

def methodCallsList : List Expr → List MethodCall
  | [] => []
  | e :: es => e.methodCalls ++ methodCallsList es

end

end Expr

end SqlLowering
