import SqlLowering.Proofs.Settings
import SqlLowering.Proofs.Tokens

/-!
# The application name as it was typed

Every value is taken for an application name, and a value that is not a text is written as a text
again. What a user typed is recognised first, as a truth value, a number or a text, so the name is
what was typed only if the value is written as it was typed. There are three exceptions: the words
`on` and `off`, and numbers that are spelled with a sign or with a zero before other digits
(`Respells`).

A run of digits is the written form of the number it stands for, or it begins with a zero and goes
on (`Text.eq_natText_or_leadingZero`), which no written form does.
-/

namespace SqlLowering

namespace Text

/-! ## Digits that are read and digits that are written -/

theorem digitValue?_eq_some_iff {c : Char} {d : Nat} :
    digitValue? c = some d ↔ c.isDigit = true ∧ c.toNat - '0'.toNat = d := by
  unfold digitValue?
  split <;> simp [*]

theorem readDigits?_eq_some_iff {cs : List Char} {acc n : Nat} :
    readDigits? acc cs = some n ↔
      (∀ c ∈ cs, c.isDigit = true) ∧ Nat.ofDigitChars 10 cs acc = n := by
  induction cs generalizing acc with
  | nil => simp [readDigits?]
  | cons c cs ih =>
      rw [readDigits?, Option.bind_eq_some_iff, List.forall_mem_cons, Nat.ofDigitChars_cons]
      constructor
      · rintro ⟨d, hd, hn⟩
        obtain ⟨hdigit, rfl⟩ := digitValue?_eq_some_iff.1 hd
        obtain ⟨hdigits, hvalue⟩ := ih.1 hn
        exact ⟨⟨hdigit, hdigits⟩, hvalue⟩
      · rintro ⟨⟨hdigit, hdigits⟩, hvalue⟩
        exact ⟨_, digitValue?_eq_some_iff.2 ⟨hdigit, rfl⟩, ih.2 ⟨hdigits, hvalue⟩⟩

theorem readNat?_eq_some_iff {cs : List Char} {n : Nat} :
    readNat? cs = some n ↔
      cs ≠ [] ∧ (∀ c ∈ cs, c.isDigit = true) ∧ Nat.ofDigitChars 10 cs 0 = n := by
  cases cs with
  | nil => simp [readNat?]
  | cons c cs =>
      rw [readNat?, readDigits?_eq_some_iff]
      · exact (and_iff_right (List.cons_ne_nil c cs)).symm
      · exact List.cons_ne_nil c cs

theorem eq_zero_of_toDigits_eq_cons {n : Nat} {rest : List Char}
    (h : Nat.toDigits 10 n = '0' :: rest) : n = 0 := by
  induction n using Nat.strongRecOn generalizing rest with
  | ind n ih =>
      by_cases hlt : n < 10
      · rw [Nat.toDigits_of_lt_base hlt] at h
        exact Nat.digitChar_eq_zero.1 (List.cons.inj h).1
      · rw [Nat.toDigits_of_base_le (by decide) (Nat.le_of_not_lt hlt)] at h
        have hne : Nat.toDigits 10 (n / 10) ≠ [] := Nat.toDigits_ne_nil
        obtain ⟨c, cs, hc⟩ := List.exists_cons_of_ne_nil hne
        rw [hc, List.cons_append] at h
        obtain ⟨rfl, -⟩ := List.cons.inj h
        have hzero := ih (n / 10) (by omega) hc
        omega

theorem sub_lt_ten_of_isDigit {c : Char} (h : c.isDigit = true) :
    c.toNat - '0'.toNat < 10 := by
  have hzero : ('0').toNat = 48 := rfl
  have hnine : ('9').toNat = 57 := rfl
  rw [Char.isDigit_iff_toNat] at h
  omega

theorem toDigits_of_isDigit {c : Char} (h : c.isDigit = true) :
    Nat.toDigits 10 (c.toNat - '0'.toNat) = [c] := by
  have hten : ∀ d < 10, Nat.toDigits 10 d = [Char.ofNat ('0'.toNat + d)] := by decide
  rw [hten _ (sub_lt_ten_of_isDigit h), Nat.add_sub_of_le (Char.isDigit_iff_toNat.1 h).1,
    Char.ofNat_toNat]

/-- Digits that are read after others go on with the written form of these. -/
theorem toDigits_append_of_readDigits? {acc n : Nat} {cs : List Char} (hacc : 0 < acc)
    (h : readDigits? acc cs = some n) : Nat.toDigits 10 acc ++ cs = Nat.toDigits 10 n := by
  induction cs generalizing acc with
  | nil => rw [Option.some.inj h, List.append_nil]
  | cons c cs ih =>
      rw [readDigits?, Option.bind_eq_some_iff] at h
      obtain ⟨d, hd, hn⟩ := h
      obtain ⟨hdigit, rfl⟩ := digitValue?_eq_some_iff.1 hd
      have hnext : Nat.toDigits 10 acc ++ [c] =
          Nat.toDigits 10 (10 * acc + (c.toNat - '0'.toNat)) := by
        rw [← Nat.toDigits_append_toDigits (by decide) hacc (sub_lt_ten_of_isDigit hdigit),
          toDigits_of_isDigit hdigit]
      calc Nat.toDigits 10 acc ++ c :: cs
          = (Nat.toDigits 10 acc ++ [c]) ++ cs := by rw [List.append_assoc, List.singleton_append]
        _ = Nat.toDigits 10 (10 * acc + (c.toNat - '0'.toNat)) ++ cs := by rw [hnext]
        _ = Nat.toDigits 10 n := ih (by omega) hn

/-- Digits are the written form of the number they stand for, or they begin with a zero and go
on. -/
theorem eq_natText_or_leadingZero {cs : List Char} {n : Nat} (h : readNat? cs = some n) :
    cs = (natText n).toList ∨ ∃ rest, cs = '0' :: rest ∧ readNat? rest = some n := by
  rw [natText, String.toList_ofList]
  cases cs with
  | nil => cases h
  | cons c rest =>
      change readDigits? 0 (c :: rest) = some n at h
      rw [readDigits?, Option.bind_eq_some_iff, Nat.mul_zero] at h
      obtain ⟨d, hd, hn⟩ := h
      obtain ⟨hdigit, rfl⟩ := digitValue?_eq_some_iff.1 hd
      rw [Nat.zero_add] at hn
      rcases Nat.eq_zero_or_pos (c.toNat - '0'.toNat) with hzero | hpos
      · have hc : [c] = ['0'] := by rw [← toDigits_of_isDigit hdigit, hzero, Nat.toDigits_zero]
        obtain rfl := List.singleton_inj.1 hc
        cases rest with
        | nil => exact Or.inl (by rw [← Option.some.inj hn, toDigits_of_isDigit hdigit])
        | cons c' rest => exact Or.inr ⟨c' :: rest, rfl, hn⟩
      · left
        rw [← toDigits_append_of_readDigits? hpos hn, toDigits_of_isDigit hdigit,
          List.singleton_append]

end Text

/-! ## Numbers that are spelled otherwise -/

/-- A text spells a number of 64 bits with a sign, or with a zero before other digits. -/
def Respells (s : String) (n : Nat) : Prop :=
  ∃ digits, Text.readNat? digits = some n ∧ n < UInt64.size ∧
    (s.toList = '+' :: digits ∨ s.toList = '0' :: digits)

namespace Respells

variable {s : String} {n : Nat}

theorem ne_natText (h : Respells s n) (m : Nat) : Text.natText m ≠ s := by
  rintro rfl
  obtain ⟨digits, hdigits, -, hsign | hzero⟩ := h
  · have hdigit : ('+').isDigit = true :=
      Text.isDigit_of_mem_natText (hsign ▸ List.mem_cons_self ..)
    exact absurd hdigit (by decide)
  · obtain ⟨hne, -, -⟩ := Text.readNat?_eq_some_iff.1 hdigits
    rw [Text.natText, String.toList_ofList] at hzero
    rw [Text.eq_zero_of_toDigits_eq_cons hzero, Nat.toDigits_zero] at hzero
    exact hne (List.cons.inj hzero).2.symm

theorem ne_word (h : Respells s n) {word : String}
    (hword : word ∈ ["true", "on", "false", "off"]) : s ≠ word := by
  have hfirst : ∀ word ∈ ["true", "on", "false", "off"],
      word.toList.head? ≠ some '+' ∧ word.toList.head? ≠ some '0' := by decide
  rintro rfl
  obtain ⟨digits, -, -, hsign | hzero⟩ := h
  · exact (hfirst s hword).1 (by rw [hsign]; rfl)
  · exact (hfirst s hword).2 (by rw [hzero]; rfl)

end Respells

namespace SettingValue

theorem bind_number_eq_some_iff {read : Option Nat} {n : UInt64} :
    (read.bind fun m => if m < UInt64.size then some (UInt64.ofNat m) else none) = some n ↔
      read = some n.toNat := by
  cases read with
  | none => simp
  | some m =>
      rw [Option.bind_some, Option.some.injEq]
      by_cases hm : m < UInt64.size
      · rw [if_pos hm, Option.some.injEq, ← UInt64.toNat_inj, UInt64.toNat_ofNat_of_lt' hm]
      · rw [if_neg hm]
        exact iff_of_false (fun h => by cases h) fun h => hm (h ▸ n.toNat_lt)

theorem parseNumber?_eq_some_iff {s : String} {n : UInt64} :
    parseNumber? s = some n ↔
      ∃ digits, (s.toList = '+' :: digits ∨ s.toList = digits) ∧
        Text.readNat? digits = some n.toNat := by
  unfold parseNumber?
  rw [bind_number_eq_some_iff]
  split
  · rename_i rest hsign
    refine ⟨fun h => ⟨rest, Or.inl hsign, h⟩, ?_⟩
    rintro ⟨digits, hdigits | rfl, hn⟩
    · rw [hsign] at hdigits
      exact (List.cons.inj hdigits).2 ▸ hn
    · obtain ⟨-, hall, -⟩ := Text.readNat?_eq_some_iff.1 hn
      exact absurd (hall '+' (hsign ▸ List.mem_cons_self ..)) (by decide)
  · rename_i hunsigned
    refine ⟨fun h => ⟨s.toList, Or.inr rfl, h⟩, ?_⟩
    rintro ⟨digits, hdigits | rfl, hn⟩
    · exact absurd hdigits (hunsigned digits)
    · exact hn

theorem parseNumber?_of_respells {s : String} {n : Nat} (h : Respells s n) :
    ∃ m : UInt64, m.toNat = n ∧ parseNumber? s = some m := by
  obtain ⟨digits, hdigits, hn, hs⟩ := h
  have hm : (UInt64.ofNat n).toNat = n := UInt64.toNat_ofNat_of_lt' hn
  refine ⟨UInt64.ofNat n, hm, parseNumber?_eq_some_iff.2 ?_⟩
  rw [hm]
  rcases hs with hsign | hzero
  · exact ⟨digits, Or.inl hsign, hdigits⟩
  · refine ⟨'0' :: digits, Or.inr hzero, ?_⟩
    obtain ⟨-, hall, hvalue⟩ := Text.readNat?_eq_some_iff.1 hdigits
    exact Text.readNat?_eq_some_iff.2
      ⟨List.cons_ne_nil _ _, List.forall_mem_cons.2 ⟨by decide, hall⟩, hvalue⟩

/-- A text that is recognised as a number is its written form, or spells it otherwise. -/
theorem eq_natText_or_respells {s : String} {n : UInt64} (h : parseNumber? s = some n) :
    s = Text.natText n.toNat ∨ Respells s n.toNat := by
  obtain ⟨digits, hsign | rfl, hdigits⟩ := parseNumber?_eq_some_iff.1 h
  · exact Or.inr ⟨digits, hdigits, n.toNat_lt, Or.inl hsign⟩
  · rcases Text.eq_natText_or_leadingZero hdigits with hwritten | ⟨rest, hzero, hrest⟩
    · exact Or.inl (String.toList_injective hwritten)
    · exact Or.inr ⟨rest, hrest, n.toNat_lt, Or.inr hzero⟩

/-- The name that a value is taken for. -/
def asName : SettingValue → String
  | text s => s
  | value => value.render

variable {s : String}

theorem asName_parse_of_respells {n : Nat} (h : Respells s n) :
    (parse s).asName = Text.natText n := by
  have hword : ∀ {word}, word ∈ ["true", "on", "false", "off"] → s ≠ word := h.ne_word
  obtain ⟨m, rfl, hm⟩ := parseNumber?_of_respells h
  rw [parse, if_neg (not_or.2 ⟨hword (by simp), hword (by simp)⟩),
    if_neg (not_or.2 ⟨hword (by simp), hword (by simp)⟩), hm]
  rfl

theorem asName_parse_eq_self (hon : s ≠ "on") (hoff : s ≠ "off") (h : ∀ n, ¬ Respells s n) :
    (parse s).asName = s := by
  unfold parse
  split
  · rename_i htrue
    exact (htrue.resolve_right hon).symm
  · split
    · rename_i hfalse
      exact (hfalse.resolve_right hoff).symm
    · split
      · rename_i n hn
        exact ((eq_natText_or_respells hn).resolve_right (h n.toNat)).symm
      · rfl

end SettingValue

/-! ## The name -/

namespace Config

theorem set_applicationName (c : Config) (value : SettingValue) :
    c.set "application_name" value = .ok { c with applicationName := value.asName } :=
  (c.set_name .applicationName value).trans (by cases value <;> rfl)

/-- **The application name is what was typed, with three exceptions.** Any text is taken for a name,
which is then shown and changes no other setting. The word `on` is stored as `true`, `off` as
`false`, and a number of 64 bits that is spelled with a sign or with a zero before other digits as
its digits; no other text is changed. -/
theorem set_applicationName_parse (c : Config) (s : String) :
    ∃ c' : Config, c.set "application_name" (.parse s) = .ok c' ∧
      c' = { c with applicationName := c'.applicationName } ∧
      c'.get "application_name" = .ok (.text c'.applicationName) ∧
      (c'.applicationName = s ↔ s ≠ "on" ∧ s ≠ "off" ∧ ∀ n, ¬ Respells s n) ∧
      (s = "on" → c'.applicationName = "true") ∧ (s = "off" → c'.applicationName = "false") ∧
      ∀ n, Respells s n → c'.applicationName = Text.natText n := by
  refine ⟨_, c.set_applicationName _, rfl, get_name _ .applicationName, ⟨fun h => ⟨?_, ?_, ?_⟩, ?_⟩,
    ?_, ?_, ?_⟩
  · rintro rfl
    have hon : (SettingValue.parse "on").asName ≠ "on" := by decide
    exact hon h
  · rintro rfl
    have hoff : (SettingValue.parse "off").asName ≠ "off" := by decide
    exact hoff h
  · intro n hn
    exact hn.ne_natText n ((SettingValue.asName_parse_of_respells hn).symm.trans h)
  · rintro ⟨hon, hoff, hnone⟩
    exact SettingValue.asName_parse_eq_self hon hoff hnone
  · rintro rfl
    rfl
  · rintro rfl
    rfl
  · intro n hn
    exact SettingValue.asName_parse_of_respells hn

/-- A number with a sign and leading zeros is stored as its digits; one that takes more than 64 bits
is a text, and stored as it was typed. -/
theorem set_applicationName_parse_sign :
    let c : Config := ⟨"reports", false, some 64⟩
    Respells "+007" 7 ∧
      (∃ c', c.set "application_name" (.parse "+007") = .ok c' ∧ c'.applicationName = "7") ∧
      ∃ c', c.set "application_name" (.parse "+18446744073709551616") = .ok c' ∧
        c'.applicationName = "+18446744073709551616" := by
  intro c
  have hseven : Respells "+007" 7 := ⟨['0', '0', '7'], rfl, by decide, Or.inl rfl⟩
  obtain ⟨c', hc', -, -, -, -, -, hname⟩ := set_applicationName_parse c "+007"
  exact ⟨hseven, ⟨c', hc', hname 7 hseven⟩, _, rfl, by decide⟩

/-- The word `on` is stored as `true`. -/
theorem set_applicationName_parse_on :
    initial.set "application_name" (.parse "on") = .ok ⟨"true", true, none⟩ ∧
      ¬ ∀ (c : Config) (s : String), ∃ c', c.set "application_name" (.parse s) = .ok c' ∧
        c'.applicationName = s ∧ c'.get "application_name" = .ok (.text s) := by
  have hon : initial.set "application_name" (.parse "on") = .ok ⟨"true", true, none⟩ := rfl
  refine ⟨hon, fun h => ?_⟩
  obtain ⟨c', hc', hname, -⟩ := h initial "on"
  obtain rfl := Except.ok.inj (hon.symm.trans hc')
  exact absurd hname (by decide)

end Config

end SqlLowering
