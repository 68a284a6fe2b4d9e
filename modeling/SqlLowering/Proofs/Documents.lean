import Mathlib.Tactic.IntervalCases
import SqlLowering.Json.Reader

/-!
# Reading what was written

A document without floating-point numbers, whose integers have a 64-bit form, is read back from its
written form (`Json.readBack`): in any place of a text where a value may stand, as long as no
more containers are open at once than the reader admits, and what follows cannot belong to a
numeral.

The reader takes one character at a time, so each part of the statement says in which state the
characters of one written part leave it.

* `afterValue` : what the reader makes of the rest of a text once a value is complete;
* `TextReading.run` : the characters inside a text, for keys and for texts alike. What is written
  for a character adds this character (`run_writeChar`);
* `readFrom_digits` : the digits of a number, by the recursion that writes them;
* `readFrom_writeItems`, `readFrom_writeMembers` : the contents of a container, when its values are
  read back.
-/

namespace SqlLowering.Json

/-! ## Depth -/

mutual

/-- The number of containers that are open at once at the deepest place of a document. -/
def depth : Json → Nat
  | array items => depthItems items + 1
  | object members => depthMembers members + 1
  | _ => 0

def depthItems : List Json → Nat
  | [] => 0
  | v :: vs => max v.depth (depthItems vs)

def depthMembers : List (String × Json) → Nat
  | [] => 0
  | (_, v) :: rest => max v.depth (depthMembers rest)

end

theorem depth_le_depthItems {v : Json} {items : List Json} (h : v ∈ items) :
    v.depth ≤ depthItems items := by
  induction items with
  | nil => cases h
  | cons w items ih =>
      rw [depthItems]
      rcases List.mem_cons.1 h with rfl | h
      · exact Nat.le_max_left ..
      · exact Nat.le_trans (ih h) (Nat.le_max_right ..)

theorem depth_le_depthMembers {m : String × Json} {members : List (String × Json)}
    (h : m ∈ members) : m.2.depth ≤ depthMembers members := by
  induction members with
  | nil => cases h
  | cons w members ih =>
      obtain ⟨key, w⟩ := w
      rw [depthMembers]
      rcases List.mem_cons.1 h with rfl | h
      · exact Nat.le_max_left ..
      · exact Nat.le_trans (ih h) (Nat.le_max_right ..)

/-! ## Documents that are read back -/

/-- A document without floating-point numbers, whose integers have a 64-bit form. -/
inductive Plain : Json → Prop
  | null : Plain .null
  | boolean (b : Bool) : Plain (.boolean b)
  | integer (n : Int) : -9223372036854775808 ≤ n → n < 18446744073709551616 → Plain (.integer n)
  | text (s : String) : Plain (.text s)
  | array (items : List Json) : (∀ v ∈ items, Plain v) → Plain (.array items)
  | object (members : List (String × Json)) : (∀ m ∈ members, Plain m.2) → Plain (.object members)

@[simp]
theorem plain_null : Plain .null := .null

@[simp]
theorem plain_boolean (b : Bool) : Plain (.boolean b) := .boolean b

@[simp]
theorem plain_text (s : String) : Plain (.text s) := .text s

@[simp]
theorem plain_integer_iff {n : Int} :
    Plain (.integer n) ↔ -9223372036854775808 ≤ n ∧ n < 18446744073709551616 := by
  constructor
  · rintro ⟨⟩
    constructor <;> assumption
  · exact fun h => .integer n h.1 h.2

@[simp]
theorem plain_array_iff {items : List Json} : Plain (.array items) ↔ ∀ v ∈ items, Plain v := by
  constructor
  · rintro ⟨⟩
    assumption
  · exact .array items

@[simp]
theorem plain_object_iff {members : List (String × Json)} :
    Plain (.object members) ↔ ∀ m ∈ members, Plain m.2 := by
  constructor
  · rintro ⟨⟩
    assumption
  · exact .object members

/-- The rest of a text does not go on with a numeral that ends before it. -/
def EndsNumeral (rest : List Char) : Prop :=
  ∀ c ∈ rest.head?, Text.digitValue? c = none ∧ c ≠ '.' ∧ c ≠ 'e' ∧ c ≠ 'E'

/-- The phases in which a value may start. -/
inductive Phase.AwaitsValue : Phase → Prop
  | value : AwaitsValue .value
  | firstItem : AwaitsValue .firstItem
  | nextItem : AwaitsValue .nextItem

/-- What the reader makes of the rest of a text when a value is complete. -/
def afterValue (manner : Manner) (v : Json) (stack : List Frame) (rest : List Char) :
    Except Fault (Json × List Char) :=
  match putValue v stack with
  | some s => readFrom manner s rest
  | none => .ok (v, rest)

variable {manner : Manner} {stack : List Frame} {rest : List Char}

/-! ## Single steps -/

theorem step_ne_refused (s : ReaderState) (c : Char) (e : SyntaxError) :
    step manner s c ≠ .ok (.refused e) := by
  intro h
  unfold step at h
  split at h
  · split at h
    · simp at h
    · simp at h
    · split at h
      · simp at h
      · split at h
        · simp at h
        · split at h
          · simp at h
          · rename_i hresult
            exact hresult e (Except.ok.inj h)
  · split at h
    · simp at h
    · rename_i hresult
      exact hresult e (Except.ok.inj h)

theorem readFrom_of_next {s s' : ReaderState} {c : Char} (h : step manner s c = .ok (.next s'))
    (rest : List Char) : readFrom manner s (c :: rest) = readFrom manner s' rest := by
  rw [readFrom, h]

theorem readFrom_of_completeValue {s : ReaderState} {c : Char} {v : Json}
    (hphase : ∀ n, s.phase ≠ .numeral n) (h : stepSkipping manner s c = completeValue v stack)
    (rest : List Char) : readFrom manner s (c :: rest) = afterValue manner v stack rest := by
  have hstep : step manner s c = .ok (completeValue v stack) := by
    unfold step
    split
    · exact absurd ‹_› (hphase _)
    · rw [h, completeValue]
      cases putValue v stack <;> rfl
  rw [readFrom, hstep, completeValue, afterValue]
  cases putValue v stack <;> rfl

/-- Before a value, a character that is neither a gap nor a closing bracket starts it. -/
theorem readFrom_of_startValue {phase : Phase} (hphase : phase.AwaitsValue) {c : Char}
    (hgap : isGap c = false) (hclose : c ≠ ']') {s : ReaderState}
    (h : startValue manner stack c = .next s) (rest : List Char) :
    readFrom manner ⟨stack, phase⟩ (c :: rest) = readFrom manner s rest := by
  apply readFrom_of_next
  cases hphase <;> simp [step, stepSkipping, skips, stepToken, hgap, hclose, h]

/-! ## Words -/

theorem readFrom_word (v : Json) (c : Char) (word : List Char) (rest : List Char) :
    readFrom manner ⟨stack, .word (c :: word) v⟩ (c :: word ++ rest) =
      afterValue manner v stack rest := by
  induction word generalizing c with
  | nil =>
      apply readFrom_of_completeValue <;> simp [stepSkipping, skips, stepToken]
  | cons d word ih =>
      have hnext : step manner ⟨stack, .word (c :: d :: word) v⟩ c =
          .ok (.next ⟨stack, .word (d :: word) v⟩) := by
        simp [step, stepSkipping, skips, stepToken]
      rw [List.cons_append, readFrom_of_next hnext, ih d]

/-! ## Texts -/

namespace TextReading

def run (manner : Manner) (t : TextReading) : List Char → Option TextReading
  | [] => some t
  | c :: cs =>
    match t.step manner c with
    | .next t' => t'.run manner cs
    | _ => none

theorem run_append {t t' : TextReading} {cs : List Char} (h : t.run manner cs = some t')
    (cs' : List Char) : t.run manner (cs ++ cs') = t'.run manner cs' := by
  induction cs generalizing t with
  | nil =>
      obtain rfl := Option.some.inj h
      rfl
  | cons c cs ih =>
      rw [run] at h
      rw [List.cons_append, run]
      split at h
      · exact ih h
      · cases h

/-- Inside a text and inside a key alike, the characters go to the reading. -/
theorem readFrom_run {inside : TextReading → Phase}
    (hinside : ∀ t t' c, t.step manner c = .next t' →
      Json.step manner ⟨stack, inside t⟩ c = .ok (.next ⟨stack, inside t'⟩))
    {t t' : TextReading} {cs : List Char} (h : t.run manner cs = some t') (rest : List Char) :
    readFrom manner ⟨stack, inside t⟩ (cs ++ rest) = readFrom manner ⟨stack, inside t'⟩ rest := by
  induction cs generalizing t with
  | nil =>
      obtain rfl := Option.some.inj h
      rfl
  | cons c cs ih =>
      rw [run] at h
      split at h
      · rename_i next hnext
        rw [List.cons_append, readFrom_of_next (hinside t next c hnext), ih h]
      · cases h

theorem hexValue?_digitChar : ∀ d < 16, hexValue? (Nat.digitChar d) = some d := by decide

theorem utf8Size_digitChar : ∀ d < 16, (Nat.digitChar d).utf8Size = 1 := by decide

theorem run_codeUnit {limit : Nat} {c : Char} (hc : c.toNat < 32) (acc : List Char) :
    run (.kept limit) ⟨acc, .codeUnit none []⟩
      ['0', '0', Nat.digitChar (c.toNat / 16), Nat.digitChar (c.toNat % 16)] =
        some ⟨c :: acc, .plain⟩ := by
  have hhigh : c.toNat / 16 < 16 := by omega
  have hlow : c.toNat % 16 < 16 := by omega
  have hunit : codeUnit? ['0', '0', Nat.digitChar (c.toNat / 16), Nat.digitChar (c.toNat % 16)] =
      some c.toNat := by
    have hzero : hexValue? '0' = some 0 := by decide
    simp only [codeUnit?, hzero, hexValue?_digitChar _ hhigh, hexValue?_digitChar _ hlow]
    simp
    omega
  -- a code unit is judged after four bytes, and its digits take one byte each
  have hone : byteCount ['0'] = 1 := by decide
  have htwo : byteCount ['0', '0'] = 2 := by decide
  have hthree : byteCount ['0', '0', Nat.digitChar (c.toNat / 16)] = 3 := by
    simp [byteCount, utf8Size_digitChar _ hhigh]
    decide
  have hfour : byteCount
      ['0', '0', Nat.digitChar (c.toNat / 16), Nat.digitChar (c.toNat % 16)] = 4 := by
    simp [byteCount, utf8Size_digitChar _ hhigh, utf8Size_digitChar _ hlow]
    decide
  have hpush : pushUnit (.kept limit)
      ⟨acc, .codeUnit none ['0', '0', Nat.digitChar (c.toNat / 16)]⟩ none c.toNat =
        .next ⟨c :: acc, .plain⟩ := by
    rw [pushUnit, if_neg (by omega), if_neg (by omega), Char.ofNat_toNat]
    rfl
  simp [run, TextReading.step, hone, htwo, hthree, hfour, hunit, hpush]

theorem unescape?_of_escapeLetter? {c letter : Char} (h : escapeLetter? c = some letter) :
    letter ≠ 'u' ∧ unescape? letter = some c := by
  unfold escapeLetter? at h
  split_ifs at h with hsame hb ht hn hf hr
  · obtain rfl := Option.some.inj h
    rcases hsame with rfl | rfl <;> decide
  all_goals
    obtain rfl := Option.some.inj h
    subst c
    decide

/-- **What is written for a character adds this character to the text.** -/
theorem run_writeChar {limit : Nat} (acc : List Char) (c : Char) :
    run (.kept limit) ⟨acc, .plain⟩ (writeChar c) = some ⟨c :: acc, .plain⟩ := by
  unfold writeChar
  cases hletter : escapeLetter? c with
  | some letter =>
      obtain ⟨hne, hc⟩ := unescape?_of_escapeLetter? hletter
      simp [run, TextReading.step, hne, hc, push]
  | none =>
      have hquote : c ≠ '\x22' ∧ c ≠ '\x5c' := by
        constructor <;>
        · rintro rfl
          simp [escapeLetter?] at hletter
      by_cases hc : c.toNat < 32
      · rw [if_pos hc]
        have hmark : run (.kept limit) ⟨acc, .plain⟩ ['\x5c', 'u'] =
            some ⟨acc, .codeUnit none []⟩ := by
          simp [run, TextReading.step]
        exact (run_append hmark _).trans (run_codeUnit hc acc)
      · rw [if_neg hc]
        simp [run, TextReading.step, hquote, hc, push]

theorem run_flatMap_writeChar (limit : Nat) (acc cs : List Char) :
    run (.kept limit) ⟨acc, .plain⟩ (cs.flatMap writeChar) =
      some ⟨cs.reverse ++ acc, .plain⟩ := by
  induction cs generalizing acc with
  | nil => rfl
  | cons c cs ih =>
      rw [List.flatMap_cons, run_append (run_writeChar acc c), ih]
      simp

end TextReading

theorem readFrom_writeText {limit : Nat} {phase : Phase} (hphase : phase.AwaitsValue) (s : String)
    (rest : List Char) : readFrom (.kept limit) ⟨stack, phase⟩ (writeText s ++ rest) =
      afterValue (.kept limit) (.text s) stack rest := by
  have hinside : ∀ t t' c, t.step (.kept limit) c = .next t' →
      step (.kept limit) ⟨stack, .text t⟩ c = .ok (.next ⟨stack, .text t'⟩) := by
    intro t t' c h
    simp [step, stepSkipping, skips, stepToken, h]
  have hrun := TextReading.run_flatMap_writeChar limit [] s.toList
  rw [writeText, List.cons_append, List.cons_append, List.append_assoc,
    readFrom_of_startValue hphase (by decide) (by decide) (s := ⟨stack, .text ⟨[], .plain⟩⟩)
      (by simp [startValue]),
    TextReading.readFrom_run hinside hrun]
  apply readFrom_of_completeValue <;> simp [stepSkipping, skips, stepToken, TextReading.step]

theorem readFrom_writeKey {limit : Nat} {phase : Phase}
    (hphase : phase = .firstKey ∨ phase = .nextKey) (members : List (String × Json))
    (key : Option String) (s : String) (rest : List Char) :
    readFrom (.kept limit) ⟨.object members key :: stack, phase⟩ (writeText s ++ ':' :: rest) =
      readFrom (.kept limit) ⟨.object members (some s) :: stack, .value⟩ rest := by
  have hinside : ∀ t t' c, t.step (.kept limit) c = .next t' →
      step (.kept limit) ⟨.object members key :: stack, .key t⟩ c =
        .ok (.next ⟨.object members key :: stack, .key t'⟩) := by
    intro t t' c h
    simp [step, stepSkipping, skips, stepToken, h]
  have hrun := TextReading.run_flatMap_writeChar limit [] s.toList
  have hopen : step (.kept limit) ⟨.object members key :: stack, phase⟩ '\x22' =
      .ok (.next ⟨.object members key :: stack, .key ⟨[], .plain⟩⟩) := by
    rcases hphase with rfl | rfl <;> simp [step, stepSkipping, skips, stepToken, isGap]
  have hclose : step (.kept limit)
      ⟨.object members key :: stack, .key ⟨s.toList.reverse ++ [], .plain⟩⟩ '\x22' =
        .ok (.next ⟨.object members (some s) :: stack, .afterKey⟩) := by
    simp [step, stepSkipping, skips, stepToken, TextReading.step]
  have hcolon : step (.kept limit) ⟨.object members (some s) :: stack, .afterKey⟩ ':' =
      .ok (.next ⟨.object members (some s) :: stack, .value⟩) := by
    simp [step, stepSkipping, skips, stepToken, isGap]
  rw [writeText, List.cons_append, List.cons_append, List.append_assoc, readFrom_of_next hopen,
    TextReading.readFrom_run hinside hrun, List.singleton_append, readFrom_of_next hclose,
    readFrom_of_next hcolon]

/-! ## Numbers -/

theorem phase_of_putValue {v : Json} {s : ReaderState} (h : putValue v stack = some s) :
    s.phase = .afterItem ∨ s.phase = .afterMember := by
  unfold putValue at h
  split at h
  · cases h
  · exact Or.inl (by rw [← Option.some.inj h])
  · exact Or.inr (by rw [← Option.some.inj h])

/-- A numeral that ends before the rest of a text is a value. -/
theorem readFrom_numeral {n : Numeral} {v : Json} (hvalue : manner.finish n = .ok v)
    (hends : ∀ c ∈ rest.head?, n.step c = .ended) :
    readFrom manner ⟨stack, .numeral n⟩ rest = afterValue manner v stack rest := by
  unfold afterValue
  cases hput : putValue v stack with
  | none =>
      cases rest with
      | nil => simp [readFrom, finish, hvalue, hput]
      | cons c rest => simp [readFrom, step, hends c rfl, hvalue, hput]
  | some s =>
      -- a value that is complete leaves a phase outside of numerals
      have hphase := phase_of_putValue hput
      cases rest with
      | nil => rcases hphase with h | h <;> simp [readFrom, finish, hvalue, hput, h]
      | cons c rest =>
          have hstep : step manner ⟨stack, .numeral n⟩ c = step manner s c := by
            rcases hphase with h | h <;> simp only [step, hends c rfl, hvalue, hput, h]
          simp only [readFrom, hstep]
          cases hnext : step manner s c with
          | error fault => rfl
          | ok result =>
              cases result with
              | refused e => exact absurd hnext (step_ne_refused s c e)
              | _ => rfl

theorem digitValue?_digitChar : ∀ d < 10, Text.digitValue? (Nat.digitChar d) = some d := by decide

/-- **The digits of a number are read as this number**, when the first of them is. -/
theorem readFrom_digits {negative : Bool} {phase : Phase}
    (hfirst : ∀ d, 0 < d → d < 10 → ∀ rest, readFrom manner ⟨stack, phase⟩
      (Nat.digitChar d :: rest) =
        readFrom manner ⟨stack, .numeral (.whole ⟨negative, d, 0⟩)⟩ rest)
    {n : Nat} (hpos : 0 < n) (hn : n < 18446744073709551616) (rest : List Char) :
    readFrom manner ⟨stack, phase⟩ (Nat.toDigits 10 n ++ rest) =
      readFrom manner ⟨stack, .numeral (.whole ⟨negative, n, 0⟩)⟩ rest := by
  induction n using Nat.strong_induction_on generalizing rest with
  | h n ih =>
      by_cases hlt : n < 10
      · rw [Nat.toDigits_of_lt_base hlt]
        exact hfirst n hpos hlt rest
      · have hdigit : n % 10 < 10 := Nat.mod_lt n (by omega)
        have hfits : fits (n / 10) (n % 10) = true := by
          have hsum : n / 10 * 10 + n % 10 = n := by omega
          simp only [fits, hsum, decide_eq_true_eq]
          exact hn
        have hlast : step manner ⟨stack, .numeral (.whole ⟨negative, n / 10, 0⟩)⟩
            (Nat.digitChar (n % 10)) =
              .ok (.next ⟨stack, .numeral (.whole ⟨negative, n, 0⟩)⟩) := by
          have hsum : n / 10 * 10 + n % 10 = n := by omega
          simp [step, Numeral.step, digitValue?_digitChar _ hdigit, Reading.addWhole, hfits, hsum]
        rw [Nat.toDigits_of_base_le (by omega) (by omega), List.append_assoc,
          ih (n / 10) (by omega) (by omega) (by omega), List.singleton_append,
          readFrom_of_next hlast]

theorem startValue_digitChar : ∀ d < 10, ∀ (manner : Manner) (stack : List Frame),
    startValue manner stack (Nat.digitChar d) = .next ⟨stack, .numeral (.ofDigit false d)⟩ := by
  intro d hd manner stack
  interval_cases d <;> rfl

theorem isGap_digitChar : ∀ d < 10, isGap (Nat.digitChar d) = false := by decide

theorem digitChar_ne_close : ∀ d < 10, Nat.digitChar d ≠ ']' := by decide

theorem readFrom_digitChar {phase : Phase} (hphase : phase.AwaitsValue) {d : Nat} (hd : d < 10)
    (rest : List Char) : readFrom manner ⟨stack, phase⟩ (Nat.digitChar d :: rest) =
      readFrom manner ⟨stack, .numeral (.ofDigit false d)⟩ rest :=
  readFrom_of_startValue hphase (isGap_digitChar d hd) (digitChar_ne_close d hd)
    (startValue_digitChar d hd manner stack) rest

theorem EndsNumeral.step_whole (hends : EndsNumeral rest) (r : Reading) :
    ∀ c ∈ rest.head?, (Numeral.whole r).step c = .ended := by
  intro c hc
  obtain ⟨hdigit, hpoint, he, hE⟩ := hends c hc
  simp [Numeral.step, hdigit, Numeral.afterWhole, hpoint, he, hE]

theorem EndsNumeral.step_zero (hends : EndsNumeral rest) :
    ∀ c ∈ rest.head?, (Numeral.zero false).step c = .ended := by
  intro c hc
  obtain ⟨hdigit, hpoint, he, hE⟩ := hends c hc
  simp [Numeral.step, hdigit, Numeral.afterWhole, hpoint, he, hE]

theorem readFrom_natText {limit : Nat} {phase : Phase} (hphase : phase.AwaitsValue) {n : Nat}
    (hn : n < 18446744073709551616) (hends : EndsNumeral rest) :
    readFrom (.kept limit) ⟨stack, phase⟩ ((Text.natText n).toList ++ rest) =
      afterValue (.kept limit) (.integer n) stack rest := by
  rw [Text.natText, String.toList_ofList]
  by_cases hzero : n = 0
  · subst hzero
    rw [Nat.toDigits_of_lt_base (by omega), List.singleton_append,
      readFrom_digitChar hphase (by omega)]
    exact readFrom_numeral rfl hends.step_zero
  · have hfirst : ∀ d, 0 < d → d < 10 → ∀ rest,
        readFrom (.kept limit) ⟨stack, phase⟩ (Nat.digitChar d :: rest) =
          readFrom (.kept limit) ⟨stack, .numeral (.whole ⟨false, d, 0⟩)⟩ rest := by
      intro d hpos hd rest
      rw [readFrom_digitChar hphase hd, Numeral.ofDigit, if_neg (by omega)]
    rw [readFrom_digits hfirst (by omega) hn]
    exact readFrom_numeral rfl (hends.step_whole _)

theorem readFrom_intText {limit : Nat} {phase : Phase} (hphase : phase.AwaitsValue) {n : Int}
    (hlow : -9223372036854775808 ≤ n) (hhigh : n < 18446744073709551616)
    (hends : EndsNumeral rest) :
    readFrom (.kept limit) ⟨stack, phase⟩ ((Text.intText n).toList ++ rest) =
      afterValue (.kept limit) (.integer n) stack rest := by
  cases n with
  | ofNat n =>
      have hn : n < 18446744073709551616 := by
        rw [Int.ofNat_eq_natCast] at hhigh
        omega
      exact readFrom_natText hphase hn hends
  | negSucc n =>
      have hbound : n + 1 ≤ 9223372036854775808 := by
        rw [Int.negSucc_eq] at hlow
        omega
      have htext : (Text.intText (.negSucc n)).toList = '-' :: Nat.toDigits 10 (n + 1) := by
        simp [Text.intText, Text.natText]
      have hsign : ∀ rest, readFrom (.kept limit) ⟨stack, phase⟩ ('-' :: rest) =
          readFrom (.kept limit) ⟨stack, .numeral .sign⟩ rest := fun rest =>
        readFrom_of_startValue hphase (by decide) (by decide) (by simp [startValue]) rest
      have hfirst : ∀ d, 0 < d → d < 10 → ∀ rest,
          readFrom (.kept limit) ⟨stack, .numeral .sign⟩ (Nat.digitChar d :: rest) =
            readFrom (.kept limit) ⟨stack, .numeral (.whole ⟨true, d, 0⟩)⟩ rest := by
        intro d hpos hd rest
        apply readFrom_of_next
        simp [step, Numeral.step, digitValue?_digitChar _ hd, Numeral.ofDigit]
        omega
      have hvalue : (Manner.kept limit).finish (.whole ⟨true, n + 1, 0⟩) =
          .ok (.integer (.negSucc n)) := by
        simp [Manner.finish, Numeral.finish, Reading.toInteger, hbound]
        omega
      rw [htext, List.cons_append, hsign, readFrom_digits hfirst (by omega) (by omega)]
      exact readFrom_numeral hvalue (hends.step_whole _)

/-! ## Containers -/

/-- A value is read back from its written form, inside the given containers. -/
def ReadBack (limit : Nat) (stack : List Frame) (v : Json) : Prop :=
  ∀ (phase : Phase) (rest : List Char), phase.AwaitsValue → EndsNumeral rest →
    readFrom (.kept limit) ⟨stack, phase⟩ (v.write ++ rest) = afterValue (.kept limit) v stack rest

theorem endsNumeral_cons {c : Char}
    (hc : Text.digitValue? c = none ∧ c ≠ '.' ∧ c ≠ 'e' ∧ c ≠ 'E') (rest : List Char) :
    EndsNumeral (c :: rest) := by
  intro d hd
  obtain rfl := Option.some.inj hd
  exact hc

/-- The items of an array are read to its closing bracket, when each of them is read back. -/
theorem readFrom_writeItems {limit : Nat} {items : List Json} (hne : items ≠ [])
    (hitems : ∀ v ∈ items, ∀ acc, ReadBack limit (.array acc :: stack) v)
    (acc : List Json) {phase : Phase} (hphase : phase.AwaitsValue) (rest : List Char) :
    readFrom (.kept limit) ⟨.array acc :: stack, phase⟩ (writeItems items ++ rest) =
      afterValue (.kept limit) (.array (acc.reverse ++ items)) stack rest := by
  induction items generalizing acc phase with
  | nil => exact absurd rfl hne
  | cons v items ih =>
      have hv : ReadBack limit (.array acc :: stack) v := hitems v (List.mem_cons_self ..) acc
      have hacc : (v :: acc).reverse = acc.reverse ++ [v] := List.reverse_cons
      cases items with
      | nil =>
          rw [writeItems, List.append_assoc, List.singleton_append,
            hv _ _ hphase (endsNumeral_cons (c := ']') (by decide) rest), afterValue, putValue]
          apply readFrom_of_completeValue <;>
            simp [stepSkipping, skips, stepToken, isGap, closeContainer]
      | cons w items =>
          have hcomma : step (.kept limit) ⟨.array (v :: acc) :: stack, .afterItem⟩ ',' =
              .ok (.next ⟨.array (v :: acc) :: stack, .nextItem⟩) := by
            simp [step, stepSkipping, skips, stepToken, isGap]
          have hrest := ih (by simp) (fun u hu => hitems u (List.mem_cons_of_mem v hu)) (v :: acc)
            .nextItem
          rw [writeItems, List.append_assoc, List.cons_append,
            hv _ _ hphase (endsNumeral_cons (c := ',') (by decide) _), afterValue, putValue]
          · exact (readFrom_of_next hcomma _).trans (by rw [hrest, hacc, List.append_assoc]; rfl)
          · simp

theorem readFrom_writeMembers {limit : Nat} {members : List (String × Json)} (hne : members ≠ [])
    (hmembers : ∀ m ∈ members, ∀ acc, ReadBack limit (.object acc (some m.1) :: stack) m.2)
    (acc : List (String × Json)) {phase : Phase} (hphase : phase = .firstKey ∨ phase = .nextKey)
    (rest : List Char) :
    readFrom (.kept limit) ⟨.object acc none :: stack, phase⟩ (writeMembers members ++ rest) =
      afterValue (.kept limit) (.object (acc.reverse ++ members)) stack rest := by
  induction members generalizing acc phase with
  | nil => exact absurd rfl hne
  | cons m members ih =>
      obtain ⟨key, v⟩ := m
      have hv : ReadBack limit (.object acc (some key) :: stack) v :=
        hmembers (key, v) (List.mem_cons_self ..) acc
      have hacc : ((key, v) :: acc).reverse = acc.reverse ++ [(key, v)] := List.reverse_cons
      cases members with
      | nil =>
          rw [writeMembers, List.append_assoc, List.cons_append, List.append_assoc,
            List.singleton_append, readFrom_writeKey hphase,
            hv _ _ .value (endsNumeral_cons (c := '\x7d') (by decide) rest), afterValue,
            putValue]
          apply readFrom_of_completeValue <;>
            simp [stepSkipping, skips, stepToken, isGap, closeContainer]
      | cons m members =>
          have hcomma : step (.kept limit) ⟨.object ((key, v) :: acc) none :: stack, .afterMember⟩
              ',' = .ok (.next ⟨.object ((key, v) :: acc) none :: stack, .nextKey⟩) := by
            simp [step, stepSkipping, skips, stepToken, isGap]
          have hrest := ih (by simp) (fun m hm => hmembers m (List.mem_cons_of_mem _ hm))
            ((key, v) :: acc) (.inr rfl)
          rw [writeMembers, List.append_assoc, List.cons_append, List.append_assoc,
            List.cons_append, readFrom_writeKey hphase,
            hv _ _ .value (endsNumeral_cons (c := ',') (by decide) _), afterValue, putValue]
          · exact (readFrom_of_next hcomma _).trans (by rw [hrest, hacc, List.append_assoc]; rfl)
          · simp

/-- **A document is read back from its written form**, inside any containers that leave room for
it. -/
theorem readBack {limit : Nat} {v : Json} (hv : v.Plain) {stack : List Frame}
    (hdepth : stack.length + v.depth ≤ limit) : ReadBack limit stack v := by
  induction hv generalizing stack with
  | null =>
      intro phase rest hphase _
      rw [write, List.cons_append, readFrom_of_startValue hphase (by decide) (by decide)
        (s := ⟨stack, .word ['u', 'l', 'l'] .null⟩) (by simp [startValue])]
      exact readFrom_word .null 'u' ['l', 'l'] rest
  | boolean b =>
      intro phase rest hphase _
      cases b with
      | true =>
          rw [write, List.cons_append, readFrom_of_startValue hphase (by decide) (by decide)
            (s := ⟨stack, .word ['r', 'u', 'e'] (.boolean true)⟩) (by simp [startValue])]
          exact readFrom_word (.boolean true) 'r' ['u', 'e'] rest
      | false =>
          rw [write, List.cons_append, readFrom_of_startValue hphase (by decide) (by decide)
            (s := ⟨stack, .word ['a', 'l', 's', 'e'] (.boolean false)⟩) (by simp [startValue])]
          exact readFrom_word (.boolean false) 'a' ['l', 's', 'e'] rest
  | integer n hlow hhigh =>
      intro phase rest hphase hends
      rw [write, readFrom_intText hphase hlow hhigh hends]
  | text s =>
      intro phase rest hphase _
      rw [write, readFrom_writeText hphase]
  | array items _ ih =>
      intro phase rest hphase _
      rw [depth] at hdepth
      have hroom : stack.length < limit := by omega
      rw [write, List.cons_append, readFrom_of_startValue hphase (by decide) (by decide)
        (s := ⟨.array [] :: stack, .firstItem⟩) (by simp [startValue, Manner.admits, hroom])]
      by_cases hne : items = []
      · subst hne
        apply readFrom_of_completeValue <;>
          simp [stepSkipping, skips, stepToken, isGap, closeContainer]
      · refine readFrom_writeItems hne (fun v hv acc => ih v hv ?_) [] .firstItem rest
        have hle := depth_le_depthItems hv
        rw [List.length_cons]
        omega
  | object members _ ih =>
      intro phase rest hphase _
      rw [depth] at hdepth
      have hroom : stack.length < limit := by omega
      rw [write, List.cons_append, readFrom_of_startValue hphase (by decide) (by decide)
        (s := ⟨.object [] none :: stack, .firstKey⟩) (by simp [startValue, Manner.admits, hroom])]
      by_cases hne : members = []
      · subst hne
        apply readFrom_of_completeValue <;>
          simp [stepSkipping, skips, stepToken, isGap, closeContainer]
      · refine readFrom_writeMembers hne (fun m hm acc => ih m hm ?_) [] (.inl rfl) rest
        have hle := depth_le_depthMembers hm
        rw [List.length_cons]
        omega

/-- The written form of a document holds this document. -/
theorem parse?_render {limit : Nat} {v : Json} (hv : v.Plain) (hdepth : v.depth ≤ limit) :
    parse? (.kept limit) v.render = some v := by
  have hroom : ([] : List Frame).length + v.depth ≤ limit := by
    simpa using hdepth
  have hends : EndsNumeral [] := by
    intro c hc
    cases hc
  have hread := readBack hv hroom .value [] .value hends
  rw [List.append_nil] at hread
  rw [parse?, readValue, render, String.toList_ofList, hread]
  rfl

end SqlLowering.Json
