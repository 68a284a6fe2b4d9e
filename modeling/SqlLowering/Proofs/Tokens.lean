import SqlLowering.Expr.Render
import SqlLowering.Proofs.StoreType

/-!
# Tokens of rendered SQL

The smallest parts of rendered SQL are words, numbers, text literals, operators and store types.
Each of them ends where the characters it is made of end, so a text that begins with one determines
it, and what comes behind it, as soon as something else comes behind it: a character that is no part
of a word or of a number, no second quote, a space behind an operator, a closing parenthesis behind
a store type. Only a store type with a length has such a parenthesis of its own.
-/

namespace SqlLowering

namespace Text

/-! ## Spans of characters -/

/-- A text begins with only one span of characters of a kind that ends where the kind does. -/
theorem span_inj {p : Char → Bool} {w w' cs cs' : List Char} (hw : ∀ c ∈ w, p c = true)
    (hw' : ∀ c ∈ w', p c = true) (hcs : ∀ c ∈ cs.head?, p c = false)
    (hcs' : ∀ c ∈ cs'.head?, p c = false) (h : w ++ cs = w' ++ cs') : w = w' ∧ cs = cs' := by
  have hspan : ∀ {w cs : List Char}, (∀ c ∈ w, p c = true) → (∀ c ∈ cs.head?, p c = false) →
      (w ++ cs).takeWhile p = w := by
    intro w cs hw hcs
    rw [List.takeWhile_append_of_pos hw]
    cases cs with
    | nil => simp
    | cons c cs => simp [hcs c rfl]
  have hwords : w = w' := by rw [← hspan hw hcs, h, hspan hw' hcs']
  subst hwords
  exact ⟨rfl, List.append_cancel_left h⟩

theorem append_cons_inj {x : Char} {w w' cs cs' : List Char} (hw : x ∉ w) (hw' : x ∉ w')
    (h : w ++ x :: cs = w' ++ x :: cs') : w = w' ∧ cs = cs' := by
  have hspan : ∀ {w : List Char}, x ∉ w → ∀ c ∈ w, (c != x) = true := by
    intro w hw c hc
    rw [bne_iff_ne]
    rintro rfl
    exact hw hc
  obtain ⟨hword, hrest⟩ := span_inj (hspan hw) (hspan hw') (by simp) (by simp) h
  exact ⟨hword, (List.cons.inj hrest).2⟩

/-! ## Words -/

def isWordStart (c : Char) : Bool :=
  c.isAlpha || c == '_'

def isWordChar (c : Char) : Bool :=
  c.isAlphanum || c == '_'

/-- An ASCII identifier: a letter or an underscore, and then letters, digits and underscores. -/
def isIdentifier (s : String) : Bool :=
  match s.toList with
  | [] => false
  | c :: cs => isWordStart c && cs.all isWordChar

theorem isWordChar_of_isWordStart {c : Char} (h : isWordStart c = true) : isWordChar c = true := by
  unfold isWordStart at h
  unfold isWordChar Char.isAlphanum
  simp only [Bool.or_eq_true] at h ⊢
  exact h.imp_left Or.inl

theorem exists_of_isIdentifier {s : String} (h : isIdentifier s = true) :
    ∃ c cs, s.toList = c :: cs ∧ isWordStart c = true ∧ ∀ x ∈ s.toList, isWordChar x = true := by
  unfold isIdentifier at h
  split at h
  · cases h
  · rename_i c cs hs
    rw [Bool.and_eq_true, List.all_eq_true] at h
    refine ⟨c, cs, hs, h.1, ?_⟩
    rw [hs, List.forall_mem_cons]
    exact ⟨isWordChar_of_isWordStart h.1, h.2⟩

/-- A word is determined if no other character of a word comes behind it. -/
theorem word_append_inj {w w' : String} {cs cs' : List Char} (hw : isIdentifier w = true)
    (hw' : isIdentifier w' = true) (hcs : ∀ c ∈ cs.head?, isWordChar c = false)
    (hcs' : ∀ c ∈ cs'.head?, isWordChar c = false) (h : w.toList ++ cs = w'.toList ++ cs') :
    w = w' ∧ cs = cs' := by
  obtain ⟨-, -, -, -, hchars⟩ := exists_of_isIdentifier hw
  obtain ⟨-, -, -, -, hchars'⟩ := exists_of_isIdentifier hw'
  obtain ⟨hword, hrest⟩ := span_inj hchars hchars' hcs hcs' h
  exact ⟨String.toList_injective hword, hrest⟩

/-! ## Numbers -/

def isNumberChar (c : Char) : Bool :=
  c.isDigit || c == '-'

theorem natText_injective {m n : Nat} (h : natText m = natText n) : m = n := by
  unfold natText at h
  have hvalue := congrArg (fun cs => Nat.ofDigitChars 10 cs 0) (String.ofList_injective h)
  simpa using hvalue

theorem isDigit_of_mem_natText {n : Nat} {c : Char} (hc : c ∈ (natText n).toList) :
    c.isDigit = true := by
  unfold natText at hc
  rw [String.toList_ofList] at hc
  exact Nat.isDigit_of_mem_toDigits (by decide) (by decide) hc

theorem toList_natText_ne_nil (n : Nat) : (natText n).toList ≠ [] := by
  unfold natText
  rw [String.toList_ofList]
  exact Nat.toDigits_ne_nil

theorem intText_negSucc (n : Nat) :
    (intText (.negSucc n)).toList = '-' :: (natText (n + 1)).toList := by
  rw [intText, String.toList_append]
  rfl

theorem toList_intText_ne_nil (n : Int) : (intText n).toList ≠ [] := by
  cases n with
  | ofNat n => exact toList_natText_ne_nil n
  | negSucc n =>
      rw [intText_negSucc]
      exact List.cons_ne_nil _ _

theorem isWordStart_of_isNumberChar {c : Char} (h : isNumberChar c = true) :
    isWordStart c = false := by
  unfold isNumberChar at h
  rw [Bool.or_eq_true, beq_iff_eq] at h
  rcases h with h | rfl
  · rw [Char.isDigit_iff_toNat] at h
    rw [Bool.eq_false_iff]
    intro hc
    unfold isWordStart Char.isAlpha Char.isUpper Char.isLower at hc
    simp only [Bool.or_eq_true, Bool.and_eq_true, decide_eq_true_eq, UInt32.le_iff_toNat_le,
      ge_iff_le, beq_iff_eq] at hc
    have hval : c.toNat = c.val.toNat := rfl
    have hnine : ('9').toNat = 57 := rfl
    have hunderscore : ('_').toNat = 95 := rfl
    rcases hc with (hc | hc) | rfl
    · have hA : 'A'.val.toNat = 65 := rfl
      omega
    · have ha : 'a'.val.toNat = 97 := rfl
      omega
    · omega
  · decide

theorem isNumberChar_of_mem_intText {n : Int} {c : Char} (hc : c ∈ (intText n).toList) :
    isNumberChar c = true := by
  unfold isNumberChar
  cases n with
  | ofNat n => rw [isDigit_of_mem_natText hc, Bool.true_or]
  | negSucc n =>
      rw [intText_negSucc, List.mem_cons] at hc
      rcases hc with rfl | hc
      · rfl
      · rw [isDigit_of_mem_natText hc, Bool.true_or]

theorem natText_ne_minus {n : Nat} {cs : List Char} : (natText n).toList ≠ '-' :: cs := by
  intro h
  have hdigit : ('-').isDigit = true := isDigit_of_mem_natText (h ▸ List.mem_cons_self ..)
  exact absurd hdigit (by decide)

theorem intText_injective {m n : Int} (h : (intText m).toList = (intText n).toList) : m = n := by
  cases m with
  | ofNat m =>
      cases n with
      | ofNat n => rw [natText_injective (String.toList_injective h)]
      | negSucc n =>
          rw [intText_negSucc] at h
          exact absurd h natText_ne_minus
  | negSucc m =>
      rw [intText_negSucc] at h
      cases n with
      | ofNat n => exact absurd h.symm natText_ne_minus
      | negSucc n =>
          rw [intText_negSucc, List.cons.injEq] at h
          have hvalue := natText_injective (String.toList_injective h.2)
          rw [Nat.add_right_cancel hvalue]

theorem intText_append_inj {m n : Int} {cs cs' : List Char}
    (hcs : ∀ c ∈ cs.head?, isNumberChar c = false)
    (hcs' : ∀ c ∈ cs'.head?, isNumberChar c = false)
    (h : (intText m).toList ++ cs = (intText n).toList ++ cs') : m = n ∧ cs = cs' := by
  obtain ⟨hnumber, hrest⟩ := span_inj (fun _ => isNumberChar_of_mem_intText)
    (fun _ => isNumberChar_of_mem_intText) hcs hcs' h
  exact ⟨intText_injective hnumber, hrest⟩

/-! ## Text literals -/

theorem ne_doubleQuotes_cons {c : Char} {s cs cs' : List Char} (hcs : cs.head? ≠ some '\x27') :
    '\x27' :: cs ≠ doubleQuotes (c :: s) ++ '\x27' :: cs' := by
  intro h
  rw [doubleQuotes] at h
  split at h
  · -- the contents begin with two quotes
    rw [List.cons_append, List.cons.injEq, List.cons_append] at h
    rw [h.2] at hcs
    exact hcs rfl
  · rename_i hc
    rw [List.cons_append, List.cons.injEq] at h
    exact hc h.1.symm

/-- The contents of a literal are determined if no other quote comes behind the one that ends it. -/
theorem doubleQuotes_append_inj {s s' cs cs' : List Char} (hcs : cs.head? ≠ some '\x27')
    (hcs' : cs'.head? ≠ some '\x27')
    (h : doubleQuotes s ++ '\x27' :: cs = doubleQuotes s' ++ '\x27' :: cs') :
    s = s' ∧ cs = cs' := by
  induction s generalizing s' with
  | nil =>
      cases s' with
      | nil => exact ⟨rfl, (List.cons.inj h).2⟩
      | cons c' s' => exact absurd h (ne_doubleQuotes_cons hcs)
  | cons c s ih =>
      cases s' with
      | nil => exact absurd h.symm (ne_doubleQuotes_cons hcs')
      | cons c' s' =>
          have hstep : c = c' ∧
              doubleQuotes s ++ '\x27' :: cs = doubleQuotes s' ++ '\x27' :: cs' := by
            by_cases hc : c = '\x27' <;> by_cases hc' : c' = '\x27'
            · simpa [doubleQuotes, hc, hc'] using h
            · simp [doubleQuotes, hc, hc', eq_comm] at h
            · simp [doubleQuotes, hc, hc'] at h
            · simpa [doubleQuotes, hc, hc'] using h
          obtain ⟨rfl, hrest⟩ := ih hstep.2
          exact ⟨by rw [hstep.1], hrest⟩

theorem toList_quoted_append (s : String) (cs : List Char) :
    (quoted s).toList ++ cs = '\x27' :: (doubleQuotes s.toList ++ '\x27' :: cs) := by
  simp [quoted]

theorem quoted_append_inj {s s' : String} {cs cs' : List Char} (hcs : cs.head? ≠ some '\x27')
    (hcs' : cs'.head? ≠ some '\x27')
    (h : (quoted s).toList ++ cs = (quoted s').toList ++ cs') : s = s' ∧ cs = cs' := by
  rw [toList_quoted_append, toList_quoted_append, List.cons.injEq] at h
  obtain ⟨htext, hrest⟩ := doubleQuotes_append_inj hcs hcs' h.2
  exact ⟨String.toList_injective htext, hrest⟩

/-! ## Operators -/

theorem operator_append_inj {o o' : String} {cs cs' : List Char} (ho : ' ' ∉ o.toList)
    (ho' : ' ' ∉ o'.toList) (h : o.toList ++ ' ' :: cs = o'.toList ++ ' ' :: cs') :
    o = o' ∧ cs = cs' := by
  obtain ⟨hoperator, hrest⟩ := append_cons_inj ho ho' h
  exact ⟨String.toList_injective hoperator, hrest⟩

end Text

/-! ## Store types -/

/-- The store type of a value type without a length. -/
def ValueType.unboundedStoreType? : ValueType → Option String
  | .text => some "text"
  | base => base.fixedStoreType?

theorem ValueType.parenthesis_notMem {base : ValueType} {name : String}
    (h : base.unboundedStoreType? = some name) : '(' ∉ name.toList ∧ ')' ∉ name.toList := by
  cases base <;> cases h <;> decide

theorem ValueType.unboundedStoreType?_injective {base base' : ValueType} {name : String}
    (h : base.unboundedStoreType? = some name) (h' : base'.unboundedStoreType? = some name) :
    base = base' := by
  have hall : ∀ b ∈ all, ∀ b' ∈ all, b.unboundedStoreType?.isSome = true →
      b.unboundedStoreType? = b'.unboundedStoreType? → b = b' := by
    decide
  exact hall base (by cases base <;> decide) base' (by cases base' <;> decide) (by rw [h]; rfl)
    (h.trans h'.symm)

/-- A store type has a length, or it has no parenthesis. -/
theorem DataType.storeType?_eq_some_cases {t : DataType} {descriptor : TypeDescriptor}
    (h : t.storeType? = some descriptor) :
    (∃ base name, base.unboundedStoreType? = some name ∧ descriptor = ⟨base, name, none⟩) ∨
      ∃ n, descriptor = boundedText n := by
  rcases storeType?_eq_some h with ⟨base, name, hname, rfl⟩ | rfl | ⟨n, rfl⟩
  · refine Or.inl ⟨base, name, ?_, rfl⟩
    cases base <;> first | exact hname | cases hname
  · exact Or.inl ⟨.text, "text", rfl, rfl⟩
  · exact Or.inr ⟨n, rfl⟩

/-- The store type of bounded text up to its own closing parenthesis. -/
def boundedStem (n : UInt32) : List Char :=
  "character varying(".toList ++ (Text.natText n.toNat).toList

theorem toList_boundedText (n : UInt32) :
    (boundedText n).storeType.toList = boundedStem n ++ [')'] := by
  have hclosing : ")".toList = [')'] := by decide
  unfold boundedText boundedStem
  rw [String.toList_append, String.toList_append, hclosing]

theorem closing_notMem_boundedStem (n : UInt32) : ')' ∉ boundedStem n := by
  unfold boundedStem
  rw [List.mem_append]
  rintro (h | h)
  · exact absurd h (by decide)
  · exact absurd (Text.isDigit_of_mem_natText h) (by decide)

theorem opening_mem_boundedStem (n : UInt32) : '(' ∈ boundedStem n :=
  List.mem_append_left _ (by decide)

theorem boundedStem_injective {m n : UInt32} (h : boundedStem m = boundedStem n) : m = n := by
  unfold boundedStem at h
  have hdigits := String.toList_injective (List.append_cancel_left h)
  exact UInt32.toNat_inj.1 (Text.natText_injective hdigits)

/-- **A store type is determined**, and what comes behind it, if that is a closing parenthesis. -/
theorem storeType_append_inj {t t' : DataType} {d d' : TypeDescriptor} {cs cs' : List Char}
    (hd : t.storeType? = some d) (hd' : t'.storeType? = some d')
    (h : d.storeType.toList ++ ')' :: cs = d'.storeType.toList ++ ')' :: cs') :
    d = d' ∧ cs = cs' := by
  rcases DataType.storeType?_eq_some_cases hd with ⟨base, name, hname, rfl⟩ | ⟨n, rfl⟩
  · obtain ⟨hopening, hclosing⟩ := ValueType.parenthesis_notMem hname
    rcases DataType.storeType?_eq_some_cases hd' with ⟨base', name', hname', rfl⟩ | ⟨n', rfl⟩
    · obtain ⟨-, hclosing'⟩ := ValueType.parenthesis_notMem hname'
      obtain ⟨htext, hrest⟩ := Text.append_cons_inj hclosing hclosing' h
      obtain rfl := String.toList_injective htext
      rw [ValueType.unboundedStoreType?_injective hname hname']
      exact ⟨rfl, hrest⟩
    · rw [toList_boundedText, List.append_assoc] at h
      have hstem := (Text.append_cons_inj hclosing (closing_notMem_boundedStem n') h).1
      exact absurd (opening_mem_boundedStem n') (hstem ▸ hopening)
  · rw [toList_boundedText, List.append_assoc] at h
    rcases DataType.storeType?_eq_some_cases hd' with ⟨base', name', hname', rfl⟩ | ⟨n', rfl⟩
    · obtain ⟨hopening', hclosing'⟩ := ValueType.parenthesis_notMem hname'
      have hstem := (Text.append_cons_inj (closing_notMem_boundedStem n) hclosing' h).1
      exact absurd (opening_mem_boundedStem n) (hstem ▸ hopening')
    · rw [toList_boundedText, List.append_assoc] at h
      obtain ⟨hstem, hrest⟩ := Text.append_cons_inj (closing_notMem_boundedStem n)
        (closing_notMem_boundedStem n') h
      rw [boundedStem_injective hstem]
      exact ⟨rfl, (List.cons.inj hrest).2⟩

end SqlLowering
