import SqlLowering.Codec.Value

/-!
# Reading values as they come

A type, a constant or a method call that stands alone is not read as a document first. Its text is
read from left to right and every part is judged as soon as that can be done, so that the first
thing that is wrong is reported, be it a mismatch or a fault of the text:

* a container is a mismatch from its first character on where none is expected, and any other value
  once it is complete;
* a choice is judged by its name before its value, and a repeated key before its colon;
* the fields that are missing are judged when the end of their container has been met.

Members under other keys are skipped.
-/

namespace SqlLowering.Codec

/-- A way to read the start of a text, which gives what it read with the rest of the text. -/
abbrev Intake : Type → Type :=
  StateT (List Char) (Except DecodeFailure)

namespace Intake

variable {α σ : Type}

def refuse (e : Json.SyntaxError) : Intake α :=
  throw (.malformed e)

def mismatch (m : Mismatch) : Intake α :=
  throw (.mismatch m)

def judge : Result α → Intake α
  | .ok a => return a
  | .error m => mismatch m

/-- The first character that is no gap; it is left in the text. -/
def peek : Intake (Option Char) := do
  modify (List.dropWhile Json.isGap)
  return (← get).head?

/-- Passes one character. -/
def advance : Intake Unit :=
  modify List.tail

/-- Reads a document. -/
def document (manner : Json.Manner) : Intake Json := fun cs =>
  match Json.readValue manner cs with
  | .ok result => .ok result
  | .error fault => .error (.malformed fault.error)

/-! ## Parts of containers -/

/-- A key, of which `c` is the first character. -/
def keyFrom (c : Char) : Intake String := do
  if c = '\x22' then judge (readText (← document (.kept 0))) else refuse .keyNotText

/-- The next key of an open object, or none at its end, which is passed. -/
def nextKey? (first : Bool) : Intake (Option String) := do
  match ← peek with
  | none => refuse .endInObject
  | some '\x7d' =>
    advance
    return none
  | some c =>
    if first then return some (← keyFrom c)
    else if c ≠ ',' then refuse .objectSeparatorExpected
    else
      advance
      match ← peek with
      | none => refuse .endInValue
      | some '\x7d' => refuse .trailingComma
      | some c => return some (← keyFrom c)

/-- Passes the colon after a key. -/
def colon : Intake Unit := do
  match ← peek with
  | none => refuse .endInObject
  | some c => if c = ':' then advance else refuse .colonExpected

/-- Whether another item follows in an open array, whose end is left. -/
def hasItem (first : Bool) : Intake Bool := do
  match ← peek with
  | none => refuse .endInList
  | some ']' => return false
  | some c =>
    if first then return true
    else if c ≠ ',' then refuse .listSeparatorExpected
    else
      advance
      match ← peek with
      | none => refuse .endInValue
      | some ']' => refuse .trailingComma
      | some _ => return true

/-- Passes the end of an array that should have no more items. -/
def closeArray : Intake Unit := do
  match ← peek with
  | none => refuse .endInList
  | some c => if c = ']' then advance else refuse .trailingCharacters

/-! ## Simple values, choices and lists -/

/-- A value that is no container, by a reading that accepts none: what is in a container makes no
difference to the mismatch. -/
def simple (read : Json → Result α) : Intake α := do
  match ← peek with
  | some '[' => judge (read (.array []))
  | some '\x7b' => judge (read (.object []))
  | _ => judge (read (← document (.kept 0)))

/-- A choice; the object that gives it with a value has no other members. -/
def choice (choices : List (Choice α)) : Intake α := do
  match ← peek with
  | none => refuse .endInValue
  | some '\x22' =>
    let c ← judge (findNamed Choice.name choices (← keyFrom '\x22'))
    judge c.alone
  | some '\x7b' =>
    advance
    match ← peek with
    | none => refuse .endInObject
    | some k =>
      let c ← judge (findNamed Choice.name choices (← keyFrom k))
      colon
      let a ← simple c.withValue
      match ← peek with
      | none => refuse .endInObject
      | some k =>
        if k ≠ '\x7d' then refuse .valueExpected
        advance
        return a
  | some _ => refuse .valueExpected

/-- The items of an open array, at most as many as `fuel`. -/
def items (read : Intake α) (first : Bool) : Nat → Intake (List α)
  | 0 => refuse .endInList
  | fuel + 1 => do
    if ← hasItem first then
      let a ← read
      let as ← items read false fuel
      return a :: as
    else return []

/-- An array of things that are read alike. An item takes a character at least, so the rest of the
text bounds their number. -/
def list (read : Intake α) : Intake (List α) := do
  match ← peek with
  | some '[' =>
    advance
    let as ← items read true ((← get).length + 1)
    closeArray
    return as
  | _ => simple fun v => .error (.wrongType v "a sequence")

/-- What a whole text holds. -/
def parse (read : Intake α) (s : String) : Except DecodeFailure α := do
  let (a, rest) ← read.run s.toList
  if Json.isEnd rest then return a else throw (.malformed .trailingCharacters)

end Intake

/-! ## Structures -/

/-- A field of a structure, and how it is added to those that have been collected. -/
structure Entry (σ : Type) where
  key : String
  required : Bool
  given : σ → Bool
  read : σ → Intake σ

/-- A structure whose fields are collected one by one. It is an object, or an array of its fields in
order, of which those that are not required may be left out at the end. -/
structure Layout (σ α : Type) where
  title : String
  entries : List (Entry σ)
  start : σ
  build : σ → Result α

namespace Layout

open SqlLowering.Codec.Intake

variable {σ α : Type}

/-- The structure, as a message about the number of fields names it. -/
def expectation (l : Layout σ α) : String :=
  "struct " ++ l.title ++ " with " ++ counted l.entries.length "element"

/-- The fields that an open array gives, after `given` others. -/
def items (l : Layout σ α) (given : Nat) (s : σ) : List (Entry σ) → Intake σ
  | [] => return s
  | e :: es => do
    if ← hasItem (given == 0) then l.items (given + 1) (← e.read s) es
    else if e.required then mismatch (.invalidLength given l.expectation)
    else l.items given s es

/-- The fields that an open object gives, which has at most as many members as `fuel`. -/
def members (l : Layout σ α) (first : Bool) (s : σ) : Nat → Intake σ
  | 0 => refuse .endInObject
  | fuel + 1 => do
    match ← nextKey? first with
    | none => return s
    | some key =>
      match l.entries.find? fun e => e.key == key with
      | none =>
        colon
        let _ ← document .skipped
        l.members false s fuel
      | some e =>
        if e.given s then mismatch (.duplicateField key)
        colon
        l.members false (← e.read s) fuel

/-- Reads a structure. A member takes a character at least, so the rest of the text bounds their
number. -/
def read (l : Layout σ α) : Intake α := do
  match ← peek with
  | some '[' =>
    advance
    let s ← l.items 0 l.start l.entries
    closeArray
    judge (l.build s)
  | some '\x7b' =>
    advance
    let s ← l.members true l.start ((← get).length + 1)
    judge (l.build s)
  | _ => simple fun v => .error (.wrongType v ("struct " ++ l.title))

end Layout

end SqlLowering.Codec
