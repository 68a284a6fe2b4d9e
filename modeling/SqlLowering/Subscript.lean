import SqlLowering.Expr.Basic

/-!
# Subscripts

The host language counts the elements of an array from zero and the database counts them from one.
Constant subscripts are shifted as numbers: a whole list of them at once as `Coordinates`, of 64
bits each, or one by one, where a 32-bit constant keeps its width as long as the result fits. A
subscript that is not an integer constant becomes a sum. The largest 64-bit number has no
successor and stands for itself.
-/

namespace SqlLowering

/-- The next 64-bit integer, or the same one at the upper end. -/
def saturatingNext (n : Int64) : Int64 :=
  if n = Int64.maxValue then n else n + 1

/-- Zero-based positions in an array, one for each dimension. -/
structure Coordinates where
  zeroBased : List Int64
deriving DecidableEq, Repr, Inhabited

namespace Coordinates

/-- The same positions counted from one. -/
def oneBased (c : Coordinates) : List Int64 :=
  c.zeroBased.map saturatingNext

def size (c : Coordinates) : Nat :=
  c.zeroBased.length

def isEmpty (c : Coordinates) : Bool :=
  c.zeroBased.isEmpty

/-- The zero-based positions between brackets. -/
def render (c : Coordinates) : String :=
  "[" ++ Text.joinWith ", " (c.zeroBased.map fun n => Text.intText n.toInt) ++ "]"

end Coordinates

namespace Expr

/-- The one-based subscript for a zero-based one. A 32-bit constant without a 32-bit successor is
widened. -/
def oneBased : Expr → Expr
  | literal (.int32 n) =>
    if n = Int32.maxValue then literal (.int64 (n.toInt64 + 1)) else literal (.int32 (n + 1))
  | literal (.int64 n) => literal (.int64 (saturatingNext n))
  | e => binary "+" e (literal (.int32 1))

/-- The values of the subscripts, when all of them are integer constants. -/
def constants? : List Expr → Option (List Int64)
  | [] => some []
  | e :: es =>
    match e.constant?.bind Scalar.toInt64?, constants? es with
    | some n, some ns => some (n :: ns)
    | _, _ => none

/-- The one-based subscripts for zero-based ones. -/
def oneBasedList (subscripts : List Expr) : List Expr :=
  match constants? subscripts with
  | some ns => (Coordinates.mk ns).oneBased.map fun n => literal (.int64 n)
  | none => subscripts.map oneBased

/-- The access with its subscripts counted from one. -/
def indexFromOne (array : Expr) (subscripts : List Expr) : Origin → Expr
  | .one => index array subscripts .one
  | .zero => index array (oneBasedList subscripts) .one

end Expr

end SqlLowering
