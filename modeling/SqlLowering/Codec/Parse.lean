import SqlLowering.Codec.Decode
import SqlLowering.Codec.Intake

/-!
# Expressions from text

A text is read as a document, which is decoded, and nothing may follow it but blanks. A mismatch
wins over what follows the document. A fault inside the document wins over all mismatches but one:
the kind of the outermost expression is judged as soon as it is met, so a wrong kind before the
fault is reported in its place. A kind that is itself an array or an object is wrong from its
first character on.
-/

namespace SqlLowering

namespace Expr

open Codec

/-- What an open container is, where a text is expected. -/
def openContainer : Json.Frame → Mismatch
  | .array _ => .invalidType .sequence "variant identifier"
  | .object _ _ => .invalidType .map "variant identifier"

/-- Judges a complete tag of the outermost expression. -/
def judgeTag (v : Json) : Codec.Result Unit :=
  (Kind.ofJson .outermost v).map fun _ => ()

/-- Judges the members that were read of an open object, of which `key` waits for its value, and the
container that is open inside it. -/
def judgeMembers (seen : Bool) (key : Option String) (inner : Option Json.Frame) :
    List (String × Json) → Codec.Result Unit
  | [] =>
    if key = some "kind" then
      if seen then .error (.duplicateField "kind")
      else
        match inner with
        | some frame => .error (openContainer frame)
        | none => .ok ()
    else .ok ()
  | (k, v) :: rest =>
    if k = "kind" then
      if seen then .error (.duplicateField "kind")
      else (judgeTag v).bind fun _ => judgeMembers true key inner rest
    else judgeMembers seen key inner rest

/-- Judges what had been read of the outermost container when a fault was met. -/
def judgeOpen (outermost : Json.Frame) (inner : Option Json.Frame) : Codec.Result Unit :=
  match outermost with
  | .object members key => judgeMembers false key inner members.reverse
  | .array items =>
    match items.reverse, inner with
    | tag :: _, _ => judgeTag tag
    | [], some frame => .error (openContainer frame)
    | [], none => .ok ()

/-- The failure that a fault stands for. -/
def ofFault (fault : Json.Fault) : DecodeFailure :=
  match fault.stack.reverse with
  | [] => .malformed fault.error
  | outermost :: inner =>
    match judgeOpen outermost inner.head? with
    | .ok () => .malformed fault.error
    | .error m => .mismatch m

/-- Reads an expression in which at most `limit` containers may be open at once. -/
def intake (limit : Nat) : Intake Expr := fun cs =>
  match Json.readValue (.kept limit) cs with
  | .error fault => .error (ofFault fault)
  | .ok (v, rest) =>
    match ofJson .outermost v with
    | .error m => .error (.mismatch m)
    | .ok e => .ok (e, rest)

/-- The expression that a text encodes. -/
def parse : String → Except DecodeFailure Expr :=
  Intake.parse (intake Json.depthLimit)

end Expr

end SqlLowering
