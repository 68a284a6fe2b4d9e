import SqlLowering.Codec.Parse
import SqlLowering.Codec.Standalone

/-!
# Method calls from text

A method call that stands alone is a structure with the fields of a call and no kind. Its receiver
and its arguments are outermost expressions, each of which is read in full before it is decoded; the
containers around them count towards the number that may be open at once.
-/

namespace SqlLowering.MethodCall

open SqlLowering.Codec SqlLowering.Expr

/-- A receiver or null. -/
def readReceiver : Intake (Option Expr) := do
  match ← Intake.peek with
  | some 'n' =>
    let _ ← Intake.simple readNull
    return none
  | _ => return some (← Expr.intake (Json.depthLimit - 1))

/-- A field of a call, and how it is read. -/
def entry (f : Field) (required : Bool) (read : Intake f.Holds) : Entry Fields where
  key := f.key
  required := required
  given := fun fields => (fields f).isSome
  read := fun fields => do
    let x ← read
    return fields.put f x

/-- The fields of a call, in order. -/
def layout : Layout Fields MethodCall where
  title := Kind.methodCall.structureName
  entries :=
    [ entry .declaringType true (Intake.choice ValueType.choices),
      entry .method true (Intake.simple readText),
      entry .receiver false readReceiver,
      entry .args false (Intake.list (Expr.intake (Json.depthLimit - 2))) ]
  start := .empty
  build := fun fields => do
    let t ← fields.require .declaringType
    let m ← fields.require .method
    return ⟨t, m, (fields .receiver).getD none, (fields .args).getD []⟩

/-- The method call that a text encodes. -/
def parse : String → Except DecodeFailure MethodCall :=
  Intake.parse layout.read

end SqlLowering.MethodCall
