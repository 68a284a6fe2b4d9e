import Mathlib.Data.List.FinRange
import SqlLowering.Proofs.Settings
import SqlLowering.Settings.InPlace

/-!
# Independent settings

Calls are carried out one after the other on a configuration that is written in place. Each checks
before it writes, so it makes what the call of the same name makes of a configuration as a value,
and leaves the configuration as it was when it fails (`SettingCall.run_perform`). Whether it fails
is decided by its name and value alone (`SettingCall.fst_run_perform`).

A setting holds what was put there last, by a call that did not fail (`Config.content_afterCalls`).
What calls put into a setting is put there by those that concern it, in their order; so calls on
different settings can change places (`Config.afterCalls_map_get`).
-/

namespace SqlLowering

/-! ## What settings hold -/

namespace Setting

abbrev Content : Setting → Type
  | applicationName => String
  | strictTranslation => Bool
  | defaultStringLength => Option UInt32

/-- What a setting holds once it is set to a value, if it takes the value. -/
def content? : (s : Setting) → SettingValue → Option s.Content
  | applicationName, .text t => some t
  | applicationName, value => some value.render
  | strictTranslation, .flag b => some b
  | strictTranslation, _ => none
  | defaultStringLength, .number n =>
    if n.toNat ≤ 10485760 then some (if n = 0 then none else some n.toUInt32) else none
  | defaultStringLength, _ => none

theorem content?_eq_none_iff {s : Setting} {value : SettingValue} :
    s.content? value = none ↔ s.refusal? value ≠ none := by
  cases s with
  | applicationName => cases value <;> simp [content?, refusal?]
  | strictTranslation => cases value <;> simp [content?, refusal?]
  | defaultStringLength =>
      cases value with
      | number n => by_cases h : n.toNat ≤ 10485760 <;> simp [content?, refusal?, h]
      | flag b => simp [content?, refusal?]
      | text t => simp [content?, refusal?]

theorem refusal?_ne_none_iff {s : Setting} {value : SettingValue} :
    s.refusal? value ≠ none ↔
      s = .strictTranslation ∧ (∀ b, value ≠ .flag b) ∨
        s = .defaultStringLength ∧ ∀ n, value = .number n → 10485760 < n.toNat := by
  cases s with
  | applicationName => simp [refusal?]
  | strictTranslation => cases value <;> simp [refusal?]
  | defaultStringLength => cases value <;> simp [refusal?]

theorem known_or_unknown (name : String) :
    (∃ s : Setting, name = s.name) ∨ ∀ s : Setting, name ≠ s.name := by
  by_cases h : ∃ s : Setting, name = s.name
  · exact Or.inl h
  · exact Or.inr fun s hs => h ⟨s, hs⟩

theorem notMem_names_iff {name : String} :
    name ∉ ["application_name", "default_string_length", "strict_translation"] ↔
      ∀ s : Setting, name ≠ s.name := by
  change name ∉ all.map Setting.name ↔ _
  rw [List.mem_map]
  exact ⟨fun h s hs => h ⟨s, s.mem_all, hs.symm⟩, fun h ⟨s, _, hs⟩ => h s hs.symm⟩

end Setting

namespace Config

variable {c d : Config}

def content (c : Config) : (s : Setting) → s.Content
  | .applicationName => c.applicationName
  | .strictTranslation => c.strictTranslation
  | .defaultStringLength => c.defaultStringLength

theorem agreesOn_iff {s : Setting} : c.AgreesOn d s ↔ c.content s = d.content s := by
  cases s <;> rfl

theorem content_assign {s : Setting} {value : SettingValue} {x : s.Content}
    (h : s.content? value = some x) : (c.assign s value).content s = x := by
  cases s with
  | applicationName => cases value <;> exact Option.some.inj h
  | strictTranslation =>
      cases value with
      | flag b => exact Option.some.inj h
      | number n => cases h
      | text t => cases h
  | defaultStringLength =>
      cases value with
      | flag b => cases h
      | text t => cases h
      | number n =>
          rw [Setting.content?] at h
          split at h
          · exact Option.some.inj h
          · cases h

theorem content_assign_of_ne {s t : Setting} (h : t ≠ s) (value : SettingValue) :
    (c.assign t value).content s = c.content s :=
  agreesOn_iff.1 (AgreesOn.assign (agreesOn_iff.2 rfl) h value)

theorem content_assign_read_initial (s : Setting) :
    (c.assign s (initial.read s)).content s = initial.content s :=
  agreesOn_iff.1 (agreesOn_assign_read bounded_initial c s)

end Config

/-! ## Calls in place -/

namespace Configuring

variable (c : Config)

/-- The result of a computation that leaves a configuration it cannot replace. -/
def outcome (r : Except SettingError Config) : Except SettingError Unit × Config :=
  match r with
  | .ok c' => (.ok (), c')
  | .error e => (.error e, c)

theorem run_write (s : Setting) (value : SettingValue) :
    (write s value).run c = outcome c (c.write s value) := by
  cases s with
  | applicationName => cases value <;> rfl
  | strictTranslation => cases value <;> rfl
  | defaultStringLength =>
      cases value with
      | flag b => rfl
      | text t => rfl
      | number n =>
          change Configuring.run (if Config.maxStringLength < n then _ else _) c =
            outcome c (if Config.maxStringLength < n then _ else _)
          split
          · rfl
          · rfl

theorem run_set (name : String) (value : SettingValue) :
    (set name value).run c = outcome c (c.set name value) := by
  rw [set, Config.set]
  cases Setting.ofName name with
  | error e => rfl
  | ok s => exact run_write c s value

theorem run_reset (name : String) : (reset name).run c = outcome c (c.reset name) := by
  rw [reset, Config.reset]
  cases Setting.ofName name with
  | error e => rfl
  | ok s => exact run_write c s (Config.initial.read s)

end Configuring

namespace SettingCall

def perform : SettingCall → Configuring Unit
  | set name value => .set name value
  | reset name => .reset name
  | resetAll => .resetAll

/-- **A call in place makes what it makes of a value**, and leaves the configuration when it
fails. -/
theorem run_perform (call : SettingCall) (c : Config) :
    call.perform.run c = Configuring.outcome c (c.call call) := by
  cases call with
  | set name value => exact Configuring.run_set c name value
  | reset name => exact Configuring.run_reset c name
  | resetAll => rfl

theorem snd_run_perform (call : SettingCall) (c : Config) :
    (call.perform.run c).2 = c.afterCall call := by
  rw [run_perform, Config.afterCall]
  cases c.call call <;> rfl

theorem snd_run_perform_of_error {call : SettingCall} {c : Config} {e : SettingError}
    (h : (call.perform.run c).1 = .error e) : (call.perform.run c).2 = c := by
  rw [run_perform] at h ⊢
  cases hcall : c.call call with
  | ok c' =>
      rw [hcall] at h
      cases h
  | error e' => rfl

/-- Why a call fails, if it does. -/
def refusal? : SettingCall → Option SettingError
  | set name value =>
    match Setting.ofName name with
    | .ok s => s.refusal? value
    | .error e => some e
  | reset name =>
    match Setting.ofName name with
    | .ok _ => none
    | .error e => some e
  | resetAll => none

def result (call : SettingCall) : Except SettingError Unit :=
  match call.refusal? with
  | some e => .error e
  | none => .ok ()

theorem fst_run_perform (call : SettingCall) (c : Config) :
    (call.perform.run c).1 = call.result := by
  rw [run_perform, result]
  cases call with
  | set name value =>
      rw [Config.call, Config.set, refusal?]
      cases Setting.ofName name with
      | error e => rfl
      | ok s =>
          change (Configuring.outcome c (c.write s value)).1 =
            match s.refusal? value with
            | some e => .error e
            | none => .ok ()
          rw [Config.write_eq]
          cases s.refusal? value <;> rfl
  | reset name =>
      rw [Config.call, Config.reset, refusal?]
      cases Setting.ofName name with
      | error e => rfl
      | ok s =>
          change (Configuring.outcome c (c.write s (Config.initial.read s))).1 = _
          rw [Config.write_eq, Config.refusal?_read_initial]
          rfl
  | resetAll => rfl

def concerns (s : Setting) : SettingCall → Bool
  | set name _ => name = s.name
  | reset name => name = s.name
  | resetAll => true

/-- What a call puts into a setting, if it concerns the setting and does not fail. -/
def puts (s : Setting) : SettingCall → Option s.Content
  | set name value => if name = s.name then s.content? value else none
  | reset name => if name = s.name then some (Config.initial.content s) else none
  | resetAll => some (Config.initial.content s)

end SettingCall

namespace Config

theorem content_afterCall_set_name (c : Config) (s : Setting) (value : SettingValue) :
    (c.afterCall (.set s.name value)).content s = (s.content? value).getD (c.content s) := by
  rw [afterCall_set]
  cases hrefusal : s.refusal? value with
  | some e =>
      have hnone : s.content? value = none :=
        Setting.content?_eq_none_iff.2 (by rw [hrefusal]; exact Option.some_ne_none e)
      rw [hnone]
      rfl
  | none =>
      have hsome : s.content? value ≠ none := fun h =>
        Setting.content?_eq_none_iff.1 h hrefusal
      obtain ⟨x, hx⟩ := Option.ne_none_iff_exists'.1 hsome
      rw [hx]
      exact content_assign hx

/-- A call changes the setting that it puts something into, and no other one. -/
theorem content_afterCall (c : Config) (call : SettingCall) (s : Setting) :
    (c.afterCall call).content s = (call.puts s).getD (c.content s) := by
  cases call with
  | set name value =>
      rcases Setting.known_or_unknown name with ⟨t, rfl⟩ | hunknown
      · rw [SettingCall.puts]
        by_cases hts : t = s
        · subst hts
          rw [if_pos rfl]
          exact c.content_afterCall_set_name t value
        · rw [if_neg fun h => hts (Setting.name_injective h), afterCall_set]
          cases t.refusal? value with
          | some e => rfl
          | none => exact content_assign_of_ne hts value
      · rw [afterCall_set_unknown hunknown, SettingCall.puts, if_neg (hunknown s)]
        rfl
  | reset name =>
      rcases Setting.known_or_unknown name with ⟨t, rfl⟩ | hunknown
      · rw [afterCall_reset, SettingCall.puts]
        by_cases hts : t = s
        · subst hts
          rw [if_pos rfl]
          exact content_assign_read_initial t
        · rw [if_neg fun h => hts (Setting.name_injective h)]
          exact content_assign_of_ne hts _
      · rw [afterCall_reset_unknown hunknown, SettingCall.puts, if_neg (hunknown s)]
        rfl
  | resetAll => rfl

/-- **A setting holds what was put there last.** -/
theorem content_afterCalls (c : Config) (calls : List SettingCall) (s : Setting) :
    (c.afterCalls calls).content s =
      ((calls.filterMap fun call => call.puts s).getLast?).getD (c.content s) := by
  induction calls generalizing c with
  | nil => rfl
  | cons call calls ih =>
      change ((c.afterCall call).afterCalls calls).content s = _
      rw [ih, content_afterCall]
      cases hputs : call.puts s with
      | none => rw [List.filterMap_cons_none hputs, Option.getD_none]
      | some x =>
          rw [List.filterMap_cons_some hputs, List.getLast?_cons, Option.getD_some,
            Option.getD_some]

end Config

namespace SettingCall

theorem result_eq_ok_iff {call : SettingCall} : call.result = .ok () ↔ call.refusal? = none := by
  rw [result]
  cases call.refusal? with
  | none => exact iff_of_true rfl rfl
  | some e => exact iff_of_false (fun h => by cases h) (Option.some_ne_none e)

theorem exists_error_iff {call : SettingCall} :
    (∃ e, call.result = .error e) ↔ call.refusal? ≠ none := by
  rw [result]
  cases call.refusal? with
  | none =>
      refine iff_of_false ?_ fun h => h rfl
      rintro ⟨e, he⟩
      cases he
  | some e => exact iff_of_true ⟨e, rfl⟩ (Option.some_ne_none e)

theorem refusal?_set_name (s : Setting) (value : SettingValue) :
    (set s.name value).refusal? = s.refusal? value := by
  rw [refusal?, Setting.ofName_eq_ok_iff.2 rfl]

theorem refusal?_set_unknown {name : String} (h : ∀ s : Setting, name ≠ s.name)
    (value : SettingValue) : (set name value).refusal? = some (.unknown name) := by
  rw [refusal?, Setting.ofName_eq_error h]

theorem set_fails_iff {name : String} {value : SettingValue} :
    (∃ e, (set name value).result = .error e) ↔
      name ∉ ["application_name", "default_string_length", "strict_translation"] ∨
        name = "strict_translation" ∧ (∀ b, value ≠ .flag b) ∨
        name = "default_string_length" ∧ ∀ n, value = .number n → 10485760 < n.toNat := by
  rw [exists_error_iff, Setting.notMem_names_iff]
  rcases Setting.known_or_unknown name with ⟨s, rfl⟩ | hunknown
  · have hknown : ¬ ∀ t : Setting, s.name ≠ t.name := fun h => h s rfl
    have hname : ∀ t : Setting, s.name = t.name ↔ s = t := fun t =>
      ⟨Setting.name_injective, fun h => h ▸ rfl⟩
    rw [refusal?_set_name, Setting.refusal?_ne_none_iff, or_iff_right hknown,
      ← hname .strictTranslation, ← hname .defaultStringLength]
    rfl
  · rw [refusal?_set_unknown hunknown]
    exact iff_of_true (Option.some_ne_none _) (Or.inl hunknown)

theorem reset_fails_iff {name : String} :
    (∃ e, (reset name).result = .error e) ↔
      name ∉ ["application_name", "default_string_length", "strict_translation"] := by
  rw [exists_error_iff, Setting.notMem_names_iff, refusal?]
  rcases Setting.known_or_unknown name with ⟨s, rfl⟩ | hunknown
  · rw [Setting.ofName_eq_ok_iff.2 rfl]
    exact iff_of_false (fun h => h rfl) fun h => h s rfl
  · rw [Setting.ofName_eq_error hunknown]
    exact iff_of_true (Option.some_ne_none _) hunknown

theorem isSome_puts_iff {call : SettingCall} {s : Setting} :
    (call.puts s).isSome ↔ call.concerns s ∧ call.result = .ok () := by
  rw [result_eq_ok_iff]
  cases call with
  | set name value =>
      by_cases hname : name = s.name
      · subst hname
        rw [refusal?_set_name, puts, if_pos rfl, Option.isSome_iff_ne_none, Ne,
          Setting.content?_eq_none_iff, not_not]
        exact ⟨fun h => ⟨decide_eq_true rfl, h⟩, fun h => h.2⟩
      · rw [puts, if_neg hname]
        exact iff_of_false (fun h => by cases h) fun h => hname (of_decide_eq_true h.1)
  | reset name =>
      by_cases hname : name = s.name
      · subst hname
        rw [refusal?, Setting.ofName_eq_ok_iff.2 rfl, puts, if_pos rfl]
        exact iff_of_true rfl ⟨decide_eq_true rfl, rfl⟩
      · rw [puts, if_neg hname]
        exact iff_of_false (fun h => by cases h) fun h => hname (of_decide_eq_true h.1)
  | resetAll => exact iff_of_true rfl ⟨rfl, rfl⟩

end SettingCall

/-! ## Several calls -/

namespace Config

def performAll (c : Config) : List SettingCall → List (Except SettingError Unit) × Config
  | [] => ([], c)
  | call :: calls =>
    let (result, c) := call.perform.run c
    let (results, c) := performAll c calls
    (result :: results, c)

theorem performAll_eq (c : Config) (calls : List SettingCall) :
    c.performAll calls = (calls.map SettingCall.result, c.afterCalls calls) := by
  induction calls generalizing c with
  | nil => rfl
  | cons call calls ih =>
      change ((call.perform.run c).1 :: (performAll (call.perform.run c).2 calls).1,
        (performAll (call.perform.run c).2 calls).2) = _
      rw [ih, SettingCall.fst_run_perform, SettingCall.snd_run_perform]
      rfl

/-- What calls put into a setting is put there by the calls that concern it. -/
theorem filterMap_puts_filter (calls : List SettingCall) (s : Setting) :
    (calls.filter fun call => call.concerns s).filterMap (fun call => call.puts s) =
      calls.filterMap fun call => call.puts s := by
  rw [List.filterMap_filter]
  congr 1
  funext call
  cases hconcerns : call.concerns s with
  | true => rfl
  | false =>
      have hnone : ¬ (call.puts s).isSome := fun h => by
        rw [SettingCall.isSome_puts_iff, hconcerns] at h
        cases h.1
      exact (Option.not_isSome_iff_eq_none.1 hnone).symm

/-- Calls in another order are the same calls on a setting if these have kept their order. -/
theorem filter_concerns_map_get {calls : List SettingCall} {order : List (Fin calls.length)}
    (horder : order.Perm (List.finRange calls.length)) {s : Setting}
    (hkept : (order.filter fun i => (calls.get i).concerns s).Pairwise (· < ·)) :
    (order.map calls.get).filter (fun call => call.concerns s) =
      calls.filter fun call => call.concerns s := by
  have hincreasing : ((List.finRange calls.length).filter fun i =>
      (calls.get i).concerns s).Pairwise (· < ·) :=
    (List.pairwise_lt_finRange _).filter _
  -- two increasing lists of the same positions are equal
  have hsame := (horder.filter fun i => (calls.get i).concerns s).eq_of_pairwise
    (fun _ _ _ _ hab hba => absurd hab (lt_asymm hba)) hkept hincreasing
  calc (order.map calls.get).filter (fun call => call.concerns s)
      = (order.filter fun i => (calls.get i).concerns s).map calls.get := List.filter_map
    _ = ((List.finRange calls.length).filter fun i => (calls.get i).concerns s).map calls.get := by
        rw [hsame]
    _ = ((List.finRange calls.length).map calls.get).filter fun call => call.concerns s := by
        rw [List.filter_map]
        rfl
    _ = calls.filter fun call => call.concerns s := by rw [List.map_get_finRange]

/-- The configuration is left the same by calls in another order, if the calls on each setting have
kept theirs. -/
theorem afterCalls_map_get (c : Config) {calls : List SettingCall}
    {order : List (Fin calls.length)} (horder : order.Perm (List.finRange calls.length))
    (hkept : ∀ s, (order.filter fun i => (calls.get i).concerns s).Pairwise (· < ·)) :
    c.afterCalls (order.map calls.get) = c.afterCalls calls := by
  refine eq_of_agreesOn fun s => agreesOn_iff.2 ?_
  rw [content_afterCalls, content_afterCalls, ← filterMap_puts_filter,
    filter_concerns_map_get horder (hkept s), filterMap_puts_filter]

/-- **Settings are independent, and a call that fails changes nothing.** A set fails for an unknown
name and for a value that is none for the setting, a reset for an unknown name. A setting holds in
the end what the last call that concerns it and does not fail has put there, or what it held at the
start. So calls can be carried out in any order that keeps the order of those that concern one
setting: they leave the same configuration, and each has the result that it had. -/
theorem performAll_independent (c : Config) (calls : List SettingCall) :
    (∀ (d : Config) (call : SettingCall) (e : SettingError),
      (call.perform.run d).1 = .error e → (call.perform.run d).2 = d) ∧
    (∀ (d : Config) (name : String) (value : SettingValue),
      (∃ e, ((SettingCall.set name value).perform.run d).1 = .error e) ↔
        name ∉ ["application_name", "default_string_length", "strict_translation"] ∨
          name = "strict_translation" ∧ (∀ b, value ≠ .flag b) ∨
          name = "default_string_length" ∧ ∀ n, value = .number n → 10485760 < n.toNat) ∧
    (∀ (d : Config) (name : String),
      (∃ e, ((SettingCall.reset name).perform.run d).1 = .error e) ↔
        name ∉ ["application_name", "default_string_length", "strict_translation"]) ∧
    (∀ (d : Config) (call : SettingCall) (s : Setting),
      (call.puts s).isSome ↔ call.concerns s ∧ (call.perform.run d).1 = .ok ()) ∧
    (∀ s : Setting, (c.performAll calls).2.content s =
      ((calls.filterMap fun call => call.puts s).getLast?).getD (c.content s)) ∧
    ∀ order : List (Fin calls.length), order.Perm (List.finRange calls.length) →
      (∀ s : Setting, (order.filter fun i => (calls.get i).concerns s).Pairwise (· < ·)) →
      (c.performAll (order.map calls.get)).2 = (c.performAll calls).2 ∧
        (c.performAll (order.map calls.get)).1.map some =
          order.map fun i => (c.performAll calls).1[i.val]? := by
  refine ⟨fun d call e h => call.snd_run_perform_of_error h, fun d name value => ?_,
    fun d name => ?_, fun d call s => ?_, fun s => ?_, fun order horder hkept => ⟨?_, ?_⟩⟩
  · rw [SettingCall.fst_run_perform]
    exact SettingCall.set_fails_iff
  · rw [SettingCall.fst_run_perform]
    exact SettingCall.reset_fails_iff
  · rw [SettingCall.fst_run_perform]
    exact SettingCall.isSome_puts_iff
  · rw [performAll_eq]
    exact c.content_afterCalls calls s
  · rw [performAll_eq, performAll_eq]
    exact c.afterCalls_map_get horder hkept
  · rw [performAll_eq, performAll_eq, List.map_map, List.map_map]
    refine List.map_congr_left fun i _ => ?_
    simp

/-- Eight calls on a configuration with a length that no call can set. Two of them fail, and the
order is changed between settings and for an unknown name. -/
theorem performAll_independent_eightCalls :
    let c : Config := ⟨"reports", true, some 20000000⟩
    let refused : SettingCall := .set "strict_translation" (.text "no")
    let calls : List SettingCall := [.set "application_name" (.number 123),
      .reset "default_string_length", .resetAll, .set "verbose" (.flag true),
      .set "default_string_length" (.number 64), refused, .set "strict_translation" (.flag false),
      .set "application_name" (.flag true)]
    let order : List (Fin calls.length) := ([3, 1, 0, 2, 7, 5, 4, 6] : List (Fin 8))
    (refused.perform.run c).1 = .error (.notFlag (.text "no")) ∧ (refused.perform.run c).2 = c ∧
      order.Perm (List.finRange calls.length) ∧
      (∀ s : Setting, (order.filter fun i => (calls.get i).concerns s).Pairwise (· < ·)) ∧
      (c.performAll calls).2 = ⟨"true", false, some 64⟩ ∧
      (c.performAll (order.map calls.get)).2 = (c.performAll calls).2 ∧
      (c.performAll (order.map calls.get)).1.map some =
        order.map fun i => (c.performAll calls).1[i.val]? := by
  intro c refused calls order
  obtain ⟨hleft, -, -, -, -, hmoved⟩ := performAll_independent c calls
  have hrefused : (refused.perform.run c).1 = .error (.notFlag (.text "no")) := rfl
  have horder : order.Perm (List.finRange calls.length) := by decide
  have hkept : ∀ s : Setting,
      (order.filter fun i => (calls.get i).concerns s).Pairwise (· < ·) := by
    intro s
    cases s <;> decide
  exact ⟨hrefused, hleft c refused _ hrefused, horder, hkept, rfl, hmoved order horder hkept⟩

end Config

end SqlLowering
