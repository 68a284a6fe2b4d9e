import SqlLowering.Binary64.Text
import SqlLowering.Text.Quoted

/-!
# Constants

The constants that appear in an expression, and their SQL literals.
-/

namespace SqlLowering

inductive Scalar where
  | null
  | boolean (value : Bool)
  | int32 (value : Int32)
  | int64 (value : Int64)
  | float64 (value : Binary64)
  | text (value : String)
deriving DecidableEq, Inhabited

namespace Scalar

/-- The value of an integer constant of either width. -/
def toInt64? : Scalar → Option Int64
  | int32 v => some v.toInt64
  | int64 v => some v
  | _ => none

/-- The SQL literal. -/
def render : Scalar → String
  | null => "NULL"
  | boolean true => "TRUE"
  | boolean false => "FALSE"
  | int32 v => Text.intText v.toInt
  | int64 v => Text.intText v.toInt
  | float64 v => v.plainText
  | text s => Text.quoted s

/-- Whether two constants have the same type and equal values, floating-point values being compared
as numbers. -/
def agrees : Scalar → Scalar → Bool
  | float64 x, float64 y => x.agrees y
  | a, b => decide (a = b)

end Scalar

end SqlLowering
