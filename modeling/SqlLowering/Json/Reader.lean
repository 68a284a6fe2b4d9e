import SqlLowering.Json.Numeral

/-!
# Reading documents

The text of a document is read from left to right, one character at a time, with the containers
that are open on a stack. The grammar is strict: blanks are the space, the tab and the two line
ends, texts have no control characters, a surrogate escape must be followed by its partner, and at
most a given number of containers may be open at once. A value that is only skipped is read by the
same grammar, but no number in it is too large, no surrogate lacks a partner and no container is too
deep.

Reading stops at the end of the first value, and what follows is left. When it stops at a fault
instead, the open containers are kept, with what had been read of them: a reader that expects
certain members can judge those that came before the fault.
-/

namespace SqlLowering.Json

/-- What is wrong with a text. -/
inductive SyntaxError where
  | endInValue
  | endInList
  | endInObject
  | endInText
  | colonExpected
  | listSeparatorExpected
  | objectSeparatorExpected
  | wordExpected
  | valueExpected
  | invalidEscape
  | invalidNumber
  | numberOutOfRange
  | controlCharacter
  | keyNotText
  | loneSurrogate
  | unfinishedSurrogate
  | trailingComma
  | trailingCharacters
  | tooDeep
deriving DecidableEq, Repr

namespace SyntaxError

/-- Whether the text only ended too early. -/
def isEnd : SyntaxError → Bool
  | endInValue | endInList | endInObject | endInText => true
  | _ => false

def message : SyntaxError → String
  | endInValue => "EOF while parsing a value"
  | endInList => "EOF while parsing a list"
  | endInObject => "EOF while parsing an object"
  | endInText => "EOF while parsing a string"
  | colonExpected => "expected `:`"
  | listSeparatorExpected => "expected `,` or `]`"
  | objectSeparatorExpected => "expected `,` or `\x7d`"
  | wordExpected => "expected ident"
  | valueExpected => "expected value"
  | invalidEscape => "invalid escape"
  | invalidNumber => "invalid number"
  | numberOutOfRange => "number out of range"
  | controlCharacter => "control character (\\u0000-\\u001F) found while parsing a string"
  | keyNotText => "key must be a string"
  | loneSurrogate => "lone leading surrogate in hex escape"
  | unfinishedSurrogate => "unexpected end of hex escape"
  | trailingComma => "trailing comma"
  | trailingCharacters => "trailing characters"
  | tooDeep => "recursion limit exceeded"

end SyntaxError

def NumeralError.toSyntaxError : NumeralError → SyntaxError
  | unfinished => .endInValue
  | malformed => .invalidNumber
  | outOfRange => .numberOutOfRange

/-! ## Manners -/

/-- What a value is read for. -/
inductive Manner where
  /-- The value is needed, and at most `limit` containers in it may be open at once. -/
  | kept (limit : Nat)
  /-- The value only has to be well-formed, so that what follows it can be read. -/
  | skipped
deriving DecidableEq, Repr

namespace Manner

/-- Whether a container may be opened inside so many others. -/
def admits (manner : Manner) (depth : Nat) : Bool :=
  match manner with
  | kept limit => depth < limit
  | skipped => true

/-- The value of a numeral that ends here. A skipped one needs no value, and is malformed where the
text breaks it off. -/
def finish (manner : Manner) (n : Numeral) : Except SyntaxError Json :=
  match manner, n.finish with
  | _, .ok v => .ok v
  | skipped, .error .outOfRange => .ok .null
  | skipped, .error _ => .error .invalidNumber
  | kept _, .error e => .error e.toSyntaxError

end Manner

/-! ## Texts -/

/-- Where a text has been read to. -/
inductive TextPhase where
  | plain
  /-- After a backslash. -/
  | escape
  /-- In the four characters of a code unit; `lead` is the surrogate before it. -/
  | codeUnit (lead : Option Nat) (characters : List Char)
  /-- After a leading surrogate. -/
  | partner (lead : Nat)
  /-- After a leading surrogate and a backslash. -/
  | partnerMark (lead : Nat)
deriving Repr

/-- The characters of a text so far, the last one first, and where it has been read to. -/
structure TextReading where
  characters : List Char
  phase : TextPhase
deriving Repr

/-- What a character does to a text. -/
inductive TextStep where
  | next (t : TextReading)
  | complete (s : String)
  | refused (e : SyntaxError)

/-- The character that a letter after a backslash stands for. -/
def unescape? (c : Char) : Option Char :=
  if c = '\x22' ∨ c = '\x5c' ∨ c = '/' then some c
  else if c = 'b' then some '\x08'
  else if c = 'f' then some '\x0c'
  else if c = 'n' then some '\x0a'
  else if c = 'r' then some '\x0d'
  else if c = 't' then some '\x09'
  else none

/-- The value of a hexadecimal digit. -/
def hexValue? (c : Char) : Option Nat :=
  if c.isDigit then some (c.toNat - '0'.toNat)
  else if 'a' ≤ c ∧ c ≤ 'f' then some (c.toNat - 'a'.toNat + 10)
  else if 'A' ≤ c ∧ c ≤ 'F' then some (c.toNat - 'A'.toNat + 10)
  else none

/-- The code unit of four hexadecimal digits. -/
def codeUnit? : List Char → Option Nat
  | [a, b, c, d] => do
    return (← hexValue? a) * 4096 + (← hexValue? b) * 256 + (← hexValue? c) * 16 + (← hexValue? d)
  | _ => none

/-- The number of bytes a text takes. -/
def byteCount (cs : List Char) : Nat :=
  (String.ofList cs).utf8ByteSize

namespace TextReading

/-- The text with one more character. -/
def push (t : TextReading) (c : Char) : TextReading :=
  ⟨c :: t.characters, .plain⟩

/-- The text with one more code unit. In a text that is skipped no surrogate needs a partner. -/
def pushUnit (manner : Manner) (t : TextReading) (lead : Option Nat) (unit : Nat) : TextStep :=
  match manner, lead with
  | .skipped, _ => .next (t.push (Char.ofNat unit))
  | .kept _, none =>
    if 0xDC00 ≤ unit ∧ unit ≤ 0xDFFF then .refused .loneSurrogate
    else if 0xD800 ≤ unit ∧ unit ≤ 0xDBFF then .next { t with phase := .partner unit }
    else .next (t.push (Char.ofNat unit))
  | .kept _, some first =>
    if 0xDC00 ≤ unit ∧ unit ≤ 0xDFFF then
      .next (t.push (Char.ofNat ((first - 0xD800) * 1024 + (unit - 0xDC00) + 0x10000)))
    else .refused .loneSurrogate

/-- Reads one character. The characters of a code unit are judged once they take four bytes. -/
def step (manner : Manner) (t : TextReading) (c : Char) : TextStep :=
  match t.phase with
  | .plain =>
    if c = '\x22' then .complete (String.ofList t.characters.reverse)
    else if c = '\x5c' then .next { t with phase := .escape }
    else if c.toNat < 32 then .refused .controlCharacter
    else .next (t.push c)
  | .escape =>
    if c = 'u' then .next { t with phase := .codeUnit none [] }
    else
      match unescape? c with
      | some d => .next (t.push d)
      | none => .refused .invalidEscape
  | .codeUnit lead cs =>
    let cs := cs ++ [c]
    if byteCount cs < 4 then .next { t with phase := .codeUnit lead cs }
    else
      match codeUnit? cs with
      | some unit => pushUnit manner t lead unit
      | none => .refused .invalidEscape
  | .partner lead =>
    if c = '\x5c' then .next { t with phase := .partnerMark lead }
    else .refused .unfinishedSurrogate
  | .partnerMark lead =>
    if c = 'u' then .next { t with phase := .codeUnit (some lead) [] }
    else .refused .unfinishedSurrogate

end TextReading

/-! ## Documents -/

/-- An open container, with what has been read of it, the last part first. An object may have a key
that waits for its value. -/
inductive Frame where
  | array (items : List Json)
  | object (members : List (String × Json)) (key : Option String)
deriving Inhabited

/-- What is being read. -/
inductive Phase where
  /-- Before a value. -/
  | value
  /-- After an opening bracket. -/
  | firstItem
  /-- After a comma between items. -/
  | nextItem
  /-- After an item. -/
  | afterItem
  /-- After an opening brace. -/
  | firstKey
  /-- After a comma between members. -/
  | nextKey
  /-- After a key. -/
  | afterKey
  /-- After a member. -/
  | afterMember
  /-- In a word; the rest of it and its value. -/
  | word (rest : List Char) (value : Json)
  | numeral (n : Numeral)
  | text (t : TextReading)
  /-- In a key. -/
  | key (t : TextReading)

/-- The state of a reader: the open containers, innermost first, and what is being read. -/
structure ReaderState where
  stack : List Frame
  phase : Phase

/-- A fault, and the containers that were open at it, innermost first. -/
structure Fault where
  error : SyntaxError
  stack : List Frame

/-- What a character does to a reader. -/
inductive ReaderStep where
  | next (s : ReaderState)
  /-- The document is complete, and ends with this character. -/
  | complete (v : Json)
  /-- The document is complete, and ended before this character. -/
  | ended (v : Json)
  | refused (e : SyntaxError)

/-- Whether a character may stand between the parts of a document. -/
def isGap (c : Char) : Bool :=
  c = ' ' || c = '\x09' || c = '\x0a' || c = '\x0d'

/-- The state after a value inside a container; none when no container is open. -/
def putValue (v : Json) : List Frame → Option ReaderState
  | [] => none
  | .array items :: rest => some ⟨.array (v :: items) :: rest, .afterItem⟩
  | .object members key :: rest =>
    some ⟨.object ((key.getD "", v) :: members) none :: rest, .afterMember⟩

/-- The step that a value completes with its last character. -/
def completeValue (v : Json) (stack : List Frame) : ReaderStep :=
  match putValue v stack with
  | some s => .next s
  | none => .complete v

/-- The first character of a value. -/
def startValue (manner : Manner) (stack : List Frame) (c : Char) : ReaderStep :=
  if c = '[' then
    if manner.admits stack.length then .next ⟨.array [] :: stack, .firstItem⟩
    else .refused .tooDeep
  else if c = '\x7b' then
    if manner.admits stack.length then .next ⟨.object [] none :: stack, .firstKey⟩
    else .refused .tooDeep
  else if c = '\x22' then .next ⟨stack, .text ⟨[], .plain⟩⟩
  else if c = 'n' then .next ⟨stack, .word ['u', 'l', 'l'] .null⟩
  else if c = 't' then .next ⟨stack, .word ['r', 'u', 'e'] (.boolean true)⟩
  else if c = 'f' then .next ⟨stack, .word ['a', 'l', 's', 'e'] (.boolean false)⟩
  else if c = '-' then .next ⟨stack, .numeral .sign⟩
  else
    match Text.digitValue? c with
    | some d => .next ⟨stack, .numeral (.ofDigit false d)⟩
    | none => .refused .valueExpected

/-- The end of the innermost container. -/
def closeContainer : List Frame → ReaderStep
  | .array items :: rest => completeValue (.array items.reverse) rest
  | .object members _ :: rest => completeValue (.object members.reverse) rest
  | [] => .refused .valueExpected

/-- Whether a character is skipped before a phase. -/
def skips (phase : Phase) (c : Char) : Bool :=
  match phase with
  | .word _ _ | .numeral _ | .text _ | .key _ => false
  | _ => isGap c

/-- Reads one character outside of numerals. -/
def stepToken (manner : Manner) (s : ReaderState) (c : Char) : ReaderStep :=
  match s.phase with
  | .value => startValue manner s.stack c
  | .firstItem => if c = ']' then closeContainer s.stack else startValue manner s.stack c
  | .nextItem => if c = ']' then .refused .trailingComma else startValue manner s.stack c
  | .afterItem =>
    if c = ',' then .next { s with phase := .nextItem }
    else if c = ']' then closeContainer s.stack
    else .refused .listSeparatorExpected
  | .firstKey =>
    if c = '\x22' then .next { s with phase := .key ⟨[], .plain⟩ }
    else if c = '\x7d' then closeContainer s.stack
    else .refused .keyNotText
  | .nextKey =>
    if c = '\x22' then .next { s with phase := .key ⟨[], .plain⟩ }
    else if c = '\x7d' then .refused .trailingComma
    else .refused .keyNotText
  | .afterKey => if c = ':' then .next { s with phase := .value } else .refused .colonExpected
  | .afterMember =>
    if c = ',' then .next { s with phase := .nextKey }
    else if c = '\x7d' then closeContainer s.stack
    else .refused .objectSeparatorExpected
  | .word [] _ => .refused .wordExpected
  | .word (d :: rest) v =>
    if c ≠ d then .refused .wordExpected
    else if rest.isEmpty then completeValue v s.stack
    else .next { s with phase := .word rest v }
  | .numeral _ => .refused .valueExpected
  | .text t =>
    match t.step manner c with
    | .next t => .next { s with phase := .text t }
    | .complete contents => completeValue (.text contents) s.stack
    | .refused e => .refused e
  | .key t =>
    match t.step manner c with
    | .next t => .next { s with phase := .key t }
    | .complete contents =>
      match s.stack with
      | .object members _ :: rest => .next ⟨.object members (some contents) :: rest, .afterKey⟩
      | _ => .refused .keyNotText
    | .refused e => .refused e

/-- Reads one character that stands outside of texts, words and numerals, or inside a text or a
word. -/
def stepSkipping (manner : Manner) (s : ReaderState) (c : Char) : ReaderStep :=
  if skips s.phase c then .next s else stepToken manner s c

/-- Reads one character. A numeral ends at the first character that is not part of it, and this
character is then read after it. -/
def step (manner : Manner) (s : ReaderState) (c : Char) : Except Fault ReaderStep :=
  match s.phase with
  | .numeral n =>
    match n.step c with
    | .next n => .ok (.next { s with phase := .numeral n })
    | .refused e => .error ⟨e.toSyntaxError, s.stack⟩
    | .ended =>
      match manner.finish n with
      | .error e => .error ⟨e, s.stack⟩
      | .ok v =>
        match putValue v s.stack with
        | none => .ok (.ended v)
        | some s' =>
          match stepSkipping manner s' c with
          | .refused e => .error ⟨e, s'.stack⟩
          | result => .ok result
  | _ =>
    match stepSkipping manner s c with
    | .refused e => .error ⟨e, s.stack⟩
    | result => .ok result

/-- The fault of a text that ends in a phase. -/
def Phase.endError : Phase → SyntaxError
  | .firstItem | .afterItem => .endInList
  | .firstKey | .afterKey | .afterMember => .endInObject
  | .text _ | .key _ => .endInText
  | .value | .nextItem | .nextKey | .word _ _ | .numeral _ => .endInValue

/-- The result of a text that ends here. Only a numeral can be complete without a further
character. -/
def finish (manner : Manner) (s : ReaderState) : Except Fault (Json × List Char) :=
  match s.phase with
  | .numeral n =>
    match manner.finish n with
    | .error e => .error ⟨e, s.stack⟩
    | .ok v =>
      match putValue v s.stack with
      | none => .ok (v, [])
      | some s' => .error ⟨s'.phase.endError, s'.stack⟩
  | phase => .error ⟨phase.endError, s.stack⟩

/-- Reads from a state on. -/
def readFrom (manner : Manner) (s : ReaderState) : List Char → Except Fault (Json × List Char)
  | [] => finish manner s
  | c :: cs =>
    match step manner s c with
    | .error fault => .error fault
    | .ok (.next s') => readFrom manner s' cs
    | .ok (.complete v) => .ok (v, cs)
    | .ok (.ended v) => .ok (v, c :: cs)
    | .ok (.refused e) => .error ⟨e, s.stack⟩

/-- The number of containers that may be open at once. -/
def depthLimit : Nat :=
  127

/-- Reads the first value of a text; the rest of the text is returned with it. -/
def readValue (manner : Manner) (cs : List Char) : Except Fault (Json × List Char) :=
  readFrom manner ⟨[], .value⟩ cs

/-- Whether nothing but gaps is left. -/
def isEnd (cs : List Char) : Bool :=
  cs.all isGap

/-- The document a text holds, if it holds one and nothing else. -/
def parse? (manner : Manner) (s : String) : Option Json :=
  match readValue manner s.toList with
  | .ok (v, rest) => if isEnd rest then some v else none
  | .error _ => none

end SqlLowering.Json
