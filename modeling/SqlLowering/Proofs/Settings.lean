import Mathlib.Data.List.Basic
import SqlLowering.Settings.Config

/-!
# Reading and writing settings

A configuration is reached by calls: settings are set by name, reset one by one, or reset all
together, and a call that fails leaves the configuration. Whether a call fails does not depend on
the configuration, only on the name and the value (`Setting.refusal?`, `Config.write_eq`).

Two things are known of what is reached. A default length is positive and within the limit, and it
is the number that was set last, which is narrowed to 32 bits only within the limit
(`Config.Bounded.afterCalls`, `Config.length_afterCalls`). And the configuration can be put together
again from what its settings show: assigning to any configuration what a setting shows copies the
setting (`Config.agreesOn_assign_read`), so the order of the settings does not matter. The second
needs the first, for a length of zero is shown as no length is.
-/

namespace SqlLowering

/-! ## Settings by name -/

namespace Setting

theorem mem_all (s : Setting) : s ∈ all := by
  cases s <;> decide

theorem name_injective {s t : Setting} (h : s.name = t.name) : s = t := by
  revert h
  cases s <;> cases t <;> decide

theorem ofName_eq_ok_iff {name : String} {s : Setting} : ofName name = .ok s ↔ name = s.name := by
  unfold ofName
  constructor
  · intro h
    split at h
    · rename_i t hfound
      have hname := List.find?_some hfound
      rw [← Except.ok.inj h]
      exact (eq_of_beq hname).symm
    · cases h
  · rintro rfl
    cases s <;> rfl

theorem ofName_eq_error {name : String} (h : ∀ s : Setting, name ≠ s.name) :
    ofName name = .error (.unknown name) := by
  unfold ofName
  have hnone : (all.find? fun s => s.name == name) = none :=
    List.find?_eq_none.2 fun s _ hs => h s (eq_of_beq hs).symm
  rw [hnone]

/-- Why a setting refuses a value, if it does. -/
def refusal? : Setting → SettingValue → Option SettingError
  | applicationName, _ => none
  | strictTranslation, .flag _ => none
  | strictTranslation, value => some (.notFlag value)
  | defaultStringLength, .number n =>
    if n.toNat ≤ 10485760 then none else some (.tooLong Config.maxStringLength)
  | defaultStringLength, value => some (.notNumber value)

end Setting

namespace Config

variable {c d : Config}

/-- The configuration with a setting at a value that it does not refuse. -/
def assign (c : Config) : Setting → SettingValue → Config
  | .applicationName, .text s => { c with applicationName := s }
  | .applicationName, value => { c with applicationName := value.render }
  | .strictTranslation, .flag b => { c with strictTranslation := b }
  | .defaultStringLength, .number n =>
    { c with defaultStringLength := if n = 0 then none else some n.toUInt32 }
  | _, _ => c

theorem maxStringLength_lt_iff {n : UInt64} : maxStringLength < n ↔ ¬ n.toNat ≤ 10485760 := by
  rw [UInt64.lt_iff_toNat_lt, Nat.not_le]
  rfl

/-- **Writing a setting assigns it unless the value is refused**, whatever the configuration is. -/
theorem write_eq (c : Config) (s : Setting) (value : SettingValue) :
    c.write s value =
      match s.refusal? value with
      | some e => .error e
      | none => .ok (c.assign s value) := by
  cases s with
  | applicationName => cases value <;> rfl
  | strictTranslation => cases value <;> rfl
  | defaultStringLength =>
      cases value with
      | flag b => rfl
      | text s => rfl
      | number n =>
          change (if maxStringLength < n then _ else _) = _
          by_cases hn : n.toNat ≤ 10485760
          · rw [if_neg (fun h => maxStringLength_lt_iff.1 h hn)]
            simp only [Setting.refusal?, if_pos hn]
            rfl
          · rw [if_pos (maxStringLength_lt_iff.2 hn)]
            simp only [Setting.refusal?, if_neg hn]
            rfl

theorem set_name (c : Config) (s : Setting) (value : SettingValue) :
    c.set s.name value = c.write s value := by
  rw [set, Setting.ofName_eq_ok_iff.2 rfl]
  rfl

theorem get_name (c : Config) (s : Setting) : c.get s.name = .ok (c.read s) := by
  rw [get, Setting.ofName_eq_ok_iff.2 rfl]
  rfl

theorem reset_name (c : Config) (s : Setting) :
    c.reset s.name = c.write s (initial.read s) := by
  rw [reset, Setting.ofName_eq_ok_iff.2 rfl]
  rfl

theorem set_unknown {name : String} (h : ∀ s : Setting, name ≠ s.name) (value : SettingValue) :
    c.set name value = .error (.unknown name) := by
  rw [set, Setting.ofName_eq_error h]
  rfl

theorem reset_unknown {name : String} (h : ∀ s : Setting, name ≠ s.name) :
    c.reset name = .error (.unknown name) := by
  rw [reset, Setting.ofName_eq_error h]
  rfl

theorem forall_get_eq_iff : (∀ name, c.get name = d.get name) ↔ ∀ s, c.read s = d.read s := by
  constructor
  · intro h s
    have hname := h s.name
    rw [get_name, get_name] at hname
    exact Except.ok.inj hname
  · intro h name
    by_cases hname : ∃ s : Setting, name = s.name
    · obtain ⟨s, rfl⟩ := hname
      rw [get_name, get_name, h]
    · rw [get, get, Setting.ofName_eq_error fun s hs => hname ⟨s, hs⟩]
      rfl

/-- A name and a value that one configuration refuses, all refuse, for the same reason. -/
theorem set_eq_error {name : String} {value : SettingValue} {e : SettingError}
    (h : c.set name value = .error e) (d : Config) : d.set name value = .error e := by
  by_cases hname : ∃ s : Setting, name = s.name
  · obtain ⟨s, rfl⟩ := hname
    rw [set_name, write_eq] at h ⊢
    split at h
    · exact h
    · cases h
  · have hunknown : ∀ s : Setting, name ≠ s.name := fun s hs => hname ⟨s, hs⟩
    rw [set_unknown hunknown] at h ⊢
    exact h

/-! ## Bounded lengths -/

def length (c : Config) : Nat :=
  c.defaultStringLength.elim 0 UInt32.toNat

/-- A default length, if there is one, is positive and within the limit. -/
def Bounded (c : Config) : Prop :=
  ∀ n, c.defaultStringLength = some n → 1 ≤ n.toNat ∧ n.toNat ≤ 10485760

theorem bounded_initial : initial.Bounded :=
  fun n h => by cases h

theorem toNat_toUInt32_of_le {n : UInt64} (h : n.toNat ≤ 10485760) :
    n.toUInt32.toNat = n.toNat := by
  rw [UInt64.toNat_toUInt32]
  omega

theorem length_assign_number {n : UInt64} (h : n.toNat ≤ 10485760) :
    (c.assign .defaultStringLength (.number n)).length = n.toNat := by
  change Option.elim (if n = 0 then none else some n.toUInt32) 0 UInt32.toNat = n.toNat
  split
  · rename_i hn
    rw [hn]
    rfl
  · exact toNat_toUInt32_of_le h

theorem length_assign_of_ne {s : Setting} (h : s ≠ .defaultStringLength) (value : SettingValue) :
    (c.assign s value).defaultStringLength = c.defaultStringLength := by
  cases s with
  | applicationName => cases value <;> rfl
  | strictTranslation => cases value <;> rfl
  | defaultStringLength => exact absurd rfl h

theorem exists_number_of_refusal? {value : SettingValue}
    (h : Setting.defaultStringLength.refusal? value = none) :
    ∃ n : UInt64, value = .number n ∧ n.toNat ≤ 10485760 := by
  cases value with
  | number n =>
      refine ⟨n, rfl, ?_⟩
      by_contra hn
      simp only [Setting.refusal?, if_neg hn] at h
      cases h
  | flag b => cases h
  | text s => cases h

theorem Bounded.assign (hc : c.Bounded) {s : Setting} {value : SettingValue}
    (h : s.refusal? value = none) : (c.assign s value).Bounded := by
  by_cases hs : s = .defaultStringLength
  · subst hs
    obtain ⟨n, rfl, hn⟩ := exists_number_of_refusal? h
    intro m hm
    change (if n = 0 then none else some n.toUInt32) = some m at hm
    split at hm
    · cases hm
    · rename_i hzero
      rw [← Option.some.inj hm, toNat_toUInt32_of_le hn]
      exact ⟨Nat.pos_of_ne_zero fun h => hzero (UInt64.toNat_inj.1 h), hn⟩
  · unfold Bounded
    rw [length_assign_of_ne hs]
    exact hc

/-! ## Calls -/

end Config

inductive SettingCall where
  | set (name : String) (value : SettingValue)
  | reset (name : String)
  | resetAll
deriving DecidableEq, Repr

/-- The default length that is in force after a call when it was `n` before; zero is none. -/
def SettingCall.lengthAfter (n : Nat) : SettingCall → Nat
  | set name (.number m) =>
    if name = "default_string_length" ∧ m.toNat ≤ 10485760 then m.toNat else n
  | set _ _ => n
  | reset name => if name = "default_string_length" then 0 else n
  | resetAll => 0

namespace Config

variable {c d : Config}

def call (c : Config) : SettingCall → Except SettingError Config
  | .set name value => c.set name value
  | .reset name => c.reset name
  | .resetAll => .ok initial

/-- The configuration that a call leaves, failed or not. -/
def afterCall (c : Config) (call : SettingCall) : Config :=
  match c.call call with
  | .ok c' => c'
  | .error _ => c

def afterCalls (c : Config) (calls : List SettingCall) : Config :=
  calls.foldl afterCall c

/-- Sets the named settings to the values that another configuration shows for them, in order. -/
def restore (source : Config) : List String → Config → Except SettingError Config
  | [], target => .ok target
  | name :: names, target => do
    let value ← source.get name
    let target ← target.set name value
    restore source names target

theorem afterCall_set (c : Config) (s : Setting) (value : SettingValue) :
    c.afterCall (.set s.name value) =
      match s.refusal? value with
      | some _ => c
      | none => c.assign s value := by
  rw [afterCall, call, set_name, write_eq]
  cases s.refusal? value <;> rfl

theorem afterCall_set_unknown {name : String} (h : ∀ s : Setting, name ≠ s.name)
    (value : SettingValue) : c.afterCall (.set name value) = c := by
  rw [afterCall, call, set_unknown h]

theorem refusal?_read_initial (s : Setting) : s.refusal? (initial.read s) = none := by
  cases s <;> rfl

theorem afterCall_reset (c : Config) (s : Setting) :
    c.afterCall (.reset s.name) = c.assign s (initial.read s) := by
  rw [afterCall, call, reset_name, write_eq, refusal?_read_initial]

theorem afterCall_reset_unknown {name : String} (h : ∀ s : Setting, name ≠ s.name) :
    c.afterCall (.reset name) = c := by
  rw [afterCall, call, reset_unknown h]

theorem Bounded.afterCall (hc : c.Bounded) (call : SettingCall) : (c.afterCall call).Bounded := by
  cases call with
  | set name value =>
      by_cases hname : ∃ s : Setting, name = s.name
      · obtain ⟨s, rfl⟩ := hname
        rw [afterCall_set]
        split
        · exact hc
        · rename_i hvalue
          exact hc.assign hvalue
      · rw [afterCall_set_unknown fun s hs => hname ⟨s, hs⟩]
        exact hc
  | reset name =>
      by_cases hname : ∃ s : Setting, name = s.name
      · obtain ⟨s, rfl⟩ := hname
        rw [afterCall_reset]
        exact hc.assign (refusal?_read_initial s)
      · rw [afterCall_reset_unknown fun s hs => hname ⟨s, hs⟩]
        exact hc
  | resetAll => exact bounded_initial

theorem Bounded.afterCalls (hc : c.Bounded) (calls : List SettingCall) :
    (c.afterCalls calls).Bounded := by
  induction calls generalizing c with
  | nil => exact hc
  | cons call calls ih => exact ih (hc.afterCall call)

theorem length_assign (c : Config) {s : Setting} {value : SettingValue}
    (h : s.refusal? value = none) :
    (c.assign s value).length = SettingCall.lengthAfter c.length (.set s.name value) := by
  by_cases hs : s = .defaultStringLength
  · subst hs
    obtain ⟨n, rfl, hn⟩ := exists_number_of_refusal? h
    rw [length_assign_number hn]
    exact (if_pos ⟨rfl, hn⟩).symm
  · have hname : s.name ≠ "default_string_length" := fun h => hs (Setting.name_injective h)
    rw [length, length_assign_of_ne hs]
    cases value with
    | number n => exact (if_neg fun h => hname h.1).symm
    | flag b => rfl
    | text t => rfl

theorem lengthAfter_of_refusal? {s : Setting} {value : SettingValue} {e : SettingError} (n : Nat)
    (h : s.refusal? value = some e) : SettingCall.lengthAfter n (.set s.name value) = n := by
  cases value with
  | flag b => rfl
  | text t => rfl
  | number m =>
      refine if_neg fun ⟨hname, hm⟩ => ?_
      obtain rfl : s = .defaultStringLength := Setting.name_injective hname
      simp only [Setting.refusal?, if_pos hm] at h
      cases h

theorem length_afterCall (c : Config) (call : SettingCall) :
    (c.afterCall call).length = call.lengthAfter c.length := by
  cases call with
  | set name value =>
      by_cases hname : ∃ s : Setting, name = s.name
      · obtain ⟨s, rfl⟩ := hname
        rw [afterCall_set]
        split
        · rename_i hvalue
          exact (lengthAfter_of_refusal? c.length hvalue).symm
        · rename_i hvalue
          exact length_assign c hvalue
      · have hunknown : ∀ s : Setting, name ≠ s.name := fun s hs => hname ⟨s, hs⟩
        rw [afterCall_set_unknown hunknown]
        cases value with
        | flag b => rfl
        | text t => rfl
        | number n => exact (if_neg fun h => hunknown .defaultStringLength h.1).symm
  | reset name =>
      by_cases hname : ∃ s : Setting, name = s.name
      · obtain ⟨s, rfl⟩ := hname
        rw [afterCall_reset, length_assign c (refusal?_read_initial s)]
        cases s <;> rfl
      · have hunknown : ∀ s : Setting, name ≠ s.name := fun s hs => hname ⟨s, hs⟩
        rw [afterCall_reset_unknown hunknown]
        exact (if_neg (hunknown .defaultStringLength)).symm
  | resetAll => rfl

/-- The length in force is the one that was asked for last, as a number without a bound. -/
theorem length_afterCalls (c : Config) (calls : List SettingCall) :
    (c.afterCalls calls).length = calls.foldl SettingCall.lengthAfter c.length := by
  induction calls generalizing c with
  | nil => rfl
  | cons call calls ih => exact (ih (c.afterCall call)).trans (by rw [length_afterCall]; rfl)

/-! ## Restoring -/

/-- The two configurations have the same setting. -/
def AgreesOn (c d : Config) : Setting → Prop
  | .applicationName => c.applicationName = d.applicationName
  | .strictTranslation => c.strictTranslation = d.strictTranslation
  | .defaultStringLength => c.defaultStringLength = d.defaultStringLength

theorem eq_of_agreesOn (h : ∀ s, c.AgreesOn d s) : c = d := by
  obtain ⟨_, _, _⟩ := c
  obtain ⟨_, _, _⟩ := d
  obtain rfl := h .applicationName
  obtain rfl := h .strictTranslation
  obtain rfl := h .defaultStringLength
  rfl

/-- A setting shows a value that no configuration refuses. -/
theorem refusal?_read (hc : c.Bounded) (s : Setting) : s.refusal? (c.read s) = none := by
  cases s with
  | applicationName => rfl
  | strictTranslation => rfl
  | defaultStringLength =>
      change (if (c.defaultStringLength.getD 0).toUInt64.toNat ≤ 10485760 then none else _) = none
      refine if_pos ?_
      rw [UInt32.toNat_toUInt64]
      cases hn : c.defaultStringLength with
      | none => decide
      | some n => exact (hc n hn).2

theorem agreesOn_assign_read (hc : c.Bounded) (d : Config) (s : Setting) :
    (d.assign s (c.read s)).AgreesOn c s := by
  cases s with
  | applicationName => rfl
  | strictTranslation => rfl
  | defaultStringLength =>
      change (if (c.defaultStringLength.getD 0).toUInt64 = 0 then none else
        some (c.defaultStringLength.getD 0).toUInt64.toUInt32) = c.defaultStringLength
      cases hn : c.defaultStringLength with
      | none => rfl
      | some n =>
          have hzero : n.toUInt64 ≠ 0 := by
            intro h
            have hpos := (hc n hn).1
            rw [← UInt32.toNat_toUInt64, h] at hpos
            exact Nat.not_lt_zero 0 hpos
          rw [Option.getD_some, if_neg hzero, UInt32.toUInt32_toUInt64]

theorem AgreesOn.assign {s t : Setting} (h : d.AgreesOn c s) (hne : t ≠ s) (value : SettingValue) :
    (d.assign t value).AgreesOn c s := by
  cases t <;> cases s
  case applicationName.applicationName => exact absurd rfl hne
  case strictTranslation.strictTranslation => exact absurd rfl hne
  case defaultStringLength.defaultStringLength => exact absurd rfl hne
  all_goals cases value <;> exact h

/-- Restoring named settings succeeds; those that were named are copied, and the others are left. -/
theorem exists_restore (hc : c.Bounded) (names : List String)
    (hnames : ∀ name ∈ names, ∃ s : Setting, name = s.name) (d : Config) :
    ∃ d', c.restore names d = .ok d' ∧
      ∀ s : Setting, s.name ∈ names ∨ d.AgreesOn c s → d'.AgreesOn c s := by
  induction names generalizing d with
  | nil =>
      refine ⟨d, rfl, fun s hs => hs.resolve_left List.not_mem_nil⟩
  | cons name names ih =>
      obtain ⟨t, rfl⟩ := hnames _ (List.mem_cons_self ..)
      obtain ⟨d', hd', hagree⟩ := ih (fun name hname => hnames name (List.mem_cons_of_mem _ hname))
        (d.assign t (c.read t))
      refine ⟨d', ?_, fun s hs => hagree s ?_⟩
      · rw [restore, get_name]
        change (d.set t.name (c.read t) >>= fun target => c.restore names target) = _
        rw [set_name, write_eq, refusal?_read hc]
        exact hd'
      · by_cases hst : t = s
        · subst hst
          exact Or.inr (agreesOn_assign_read hc d t)
        · rcases hs with hs | hs
          · rcases List.mem_cons.1 hs with hname | hs
            · exact absurd (Setting.name_injective hname).symm hst
            · exact Or.inl hs
          · exact Or.inr (hs.assign hst _)

/-- **What calls leave can be restored from what its settings show**, on any configuration and in
any order. The default length is positive and within the limit, and as a number it is the one that
was set last. -/
theorem restore_afterCalls (calls : List SettingCall) :
    let c := initial.afterCalls calls
    (∀ n, c.defaultStringLength = some n → 1 ≤ n.toNat ∧ n.toNat ≤ 10485760) ∧
      c.defaultStringLength.elim 0 UInt32.toNat = calls.foldl SettingCall.lengthAfter 0 ∧
      ∀ (d : Config) (names : List String), names.Perm (describe.map Prod.fst) →
        c.restore names d = .ok c := by
  intro c
  have hc : c.Bounded := bounded_initial.afterCalls calls
  refine ⟨hc, initial.length_afterCalls calls, fun d names hperm => ?_⟩
  have hnames : ∀ name, name ∈ names ↔ ∃ s : Setting, name = s.name := by
    intro name
    rw [hperm.mem_iff, describe, List.map_map, List.mem_map]
    exact ⟨fun ⟨s, _, hs⟩ => ⟨s, hs.symm⟩, fun ⟨s, hs⟩ => ⟨s, s.mem_all, hs.symm⟩⟩
  obtain ⟨d', hd', hagree⟩ := exists_restore hc names (fun name => (hnames name).1) d
  rw [hd', eq_of_agreesOn fun s => hagree s (Or.inl ((hnames s.name).2 ⟨s, rfl⟩))]

/-- Calls of which three fail; what they leave is restored on a configuration that holds a length of
zero, the last setting first. -/
theorem restore_afterCalls_zeroLength :
    let c := initial.afterCalls [.set "application_name" (.number 123),
      .set "default_string_length" (.number 20), .set "default_string_length" (.number 10485761),
      .reset "strict", .set "strict_translation" (.text "no"), .reset "strict_translation"]
    c = ⟨"123", true, some 20⟩ ∧
      c.restore ["strict_translation", "default_string_length", "application_name"]
        ⟨"reports", false, some 0⟩ = .ok ⟨"123", true, some 20⟩ := by
  intro c
  have hc : c = ⟨"123", true, some 20⟩ := by decide
  refine ⟨hc, ?_⟩
  rw [← hc]
  exact (restore_afterCalls _).2.2 _ _ (by decide)

end Config

end SqlLowering
