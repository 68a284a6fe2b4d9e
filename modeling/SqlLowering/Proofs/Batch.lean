import SqlLowering.CommandLine.Run
import SqlLowering.Proofs.Decoding
import SqlLowering.Proofs.Documents
import SqlLowering.Proofs.Failures
import SqlLowering.Proofs.Settings

/-!
# Runs over many expressions

A run compiles all its expressions in one session, which remembers the store types it was asked for,
and stops at the first expression that fails. It prints what as many runs would that have the same
modules and settings and one expression each: nothing that the session remembers shows in what it
prints.

* `EndsWith` : each stage before the first expression ends with a report or with a result. The
  stages are put together by `EndsWith.bind`, so the first report of the first stage that has one is
  that of the run (`setupReport?`).
* `Prints` : what one expression prints. It depends on the modules of the session and not on what
  was compiled before (`Prints.congr`).
* `Prints.printTexts_cons` is the step from one expression to the next, and `printTexts_append` the
  run over expressions that all succeed.
-/

namespace SqlLowering.CommandLine

/-! ## Reports before the first expression -/

/-- A computation ends with the report if there is one, and otherwise with a result like this. -/
def EndsWith {α : Type} (report? : Option Report) (P : α → Prop) (x : Except Report α) : Prop :=
  match report? with
  | some r => x = .error r
  | none => ∃ a, P a ∧ x = .ok a

/-- The report of two stages is that of the first, or else that of the second. -/
theorem EndsWith.bind {α β : Type} {report? report?' : Option Report} {P : α → Prop}
    {Q : β → Prop} {x : Except Report α} {f : α → Except Report β} (hx : EndsWith report? P x)
    (hf : ∀ a, P a → EndsWith report?' Q (f a)) :
    EndsWith (report?.or report?') Q (x >>= f) := by
  cases report? with
  | some r =>
      obtain rfl : x = .error r := hx
      rfl
  | none =>
      obtain ⟨a, ha, rfl⟩ := hx
      exact hf a ha

theorem EndsWith.map {α β : Type} {report? : Option Report} {P : α → Prop} {Q : β → Prop}
    {x : Except Report α} (hx : EndsWith report? P x) {f : α → β} (hf : ∀ a, P a → Q (f a)) :
    EndsWith report? Q (x.map f) := by
  cases report? with
  | some r =>
      obtain rfl : x = .error r := hx
      rfl
  | none =>
      obtain ⟨a, ha, rfl⟩ := hx
      exact ⟨f a, hf a ha, rfl⟩

/-- The report on a name that no bundled module has. -/
def moduleReport? (name : String) : Option Report :=
  match Bundled.find? name with
  | some _ => none
  | none => some ((Report.ofKind .configuration
      ("Unknown extension '" ++ name ++ "'")).withField "module" name)

/-- The report on a setting that cannot be read or is refused. -/
def settingReport? (argument : String) : Option Report :=
  match splitSetting argument with
  | .error r => some r
  | .ok (name, value) =>
    match Config.initial.set name value with
    | .error e => some e.report
    | .ok _ => none

def fileReport? : String × Except String String → Option Report
  | (path, .error reason) =>
    some (.withForeignCause ("Failed to read '" ++ path ++ "'") reason)
  | (_, .ok _) => none

/-- The first report on a module, or else on a setting, or else on a file. -/
def setupReport? (o : Options) (files : List (String × Except String String)) : Option Report :=
  ((o.modules.findSome? moduleReport?).or (o.settings.findSome? settingReport?)).or
    (files.findSome? fileReport?)

/-! ### What has a report -/

/-- Something keeps a run from its first expression. Which configuration refuses a setting does not
matter, as all refuse the same ones (`Config.set_eq_error`). -/
inductive Refused (o : Options) (files : List (String × Except String String)) : Prop
  | unknownModule {name : String} : name ∈ o.modules →
      (∀ m : BundledModule, Bundled.asciiLower m.extension.key ≠ Bundled.asciiLower name) →
      Refused o files
  | malformedSetting {argument : String} : argument ∈ o.settings → '=' ∉ argument.toList →
      Refused o files
  | rejectedSetting {name value : List Char} {e : SettingError} : '=' ∉ name →
      String.ofList (name ++ '=' :: value) ∈ o.settings →
      Config.initial.set (Text.trim (String.ofList name))
        (.parse (Text.trim (String.ofList value))) = .error e →
      Refused o files
  | unreadableFile {path reason : String} : (path, .error reason) ∈ files → Refused o files

theorem moduleReport?_isSome_iff {name : String} : (moduleReport? name).isSome ↔
    ∀ m : BundledModule, Bundled.asciiLower m.extension.key ≠ Bundled.asciiLower name := by
  have hnone : Bundled.find? name = none ↔
      ∀ m : BundledModule, Bundled.asciiLower m.extension.key ≠ Bundled.asciiLower name := by
    unfold Bundled.find?
    rw [List.find?_eq_none, ← BundledModule.map_extension_all, List.forall_mem_map]
    exact ⟨fun h m hm => h m m.mem_all (beq_iff_eq.2 hm), fun h m _ hm => h m (eq_of_beq hm)⟩
  rw [← hnone, moduleReport?]
  cases Bundled.find? name with
  | none => exact ⟨fun _ => rfl, fun _ => rfl⟩
  | some e => exact ⟨nofun, nofun⟩

theorem splitAtEquals_of_not_mem {cs : List Char} (h : '=' ∉ cs) :
    splitAtEquals cs = (cs, none) := by
  induction cs with
  | nil => rfl
  | cons c cs ih =>
      rw [List.mem_cons, not_or] at h
      rw [splitAtEquals, if_neg (Ne.symm h.1), ih h.2]

theorem splitAtEquals_append {name : List Char} (h : '=' ∉ name) (value : List Char) :
    splitAtEquals (name ++ '=' :: value) = (name, some value) := by
  induction name with
  | nil => rfl
  | cons c name ih =>
      rw [List.mem_cons, not_or] at h
      rw [List.cons_append, splitAtEquals, if_neg (Ne.symm h.1), ih h.2]

theorem settingReport?_of_not_mem {argument : String} (h : '=' ∉ argument.toList) :
    settingReport? argument = some (.missing "'=' in setting") := by
  rw [settingReport?, splitSetting, splitAtEquals_of_not_mem h]

theorem settingReport?_append {name : List Char} (h : '=' ∉ name) (value : List Char) :
    settingReport? (String.ofList (name ++ '=' :: value)) =
      match Config.initial.set (Text.trim (String.ofList name))
        (.parse (Text.trim (String.ofList value))) with
      | .error e => some e.report
      | .ok _ => none := by
  rw [settingReport?, splitSetting, String.toList_ofList, splitAtEquals_append h]

theorem refused_iff {o : Options} {files : List (String × Except String String)} :
    Refused o files ↔ ∃ r, setupReport? o files = some r := by
  rw [← Option.isSome_iff_exists, setupReport?]
  simp only [Option.isSome_or, Bool.or_eq_true, List.findSome?_isSome_iff]
  constructor
  · intro h
    cases h with
    | unknownModule hname hunknown =>
        exact Or.inl (Or.inl ⟨_, hname, moduleReport?_isSome_iff.2 hunknown⟩)
    | malformedSetting hargument hequals =>
        refine Or.inl (Or.inr ⟨_, hargument, ?_⟩)
        rw [settingReport?_of_not_mem hequals]
        rfl
    | rejectedSetting hequals hargument he =>
        refine Or.inl (Or.inr ⟨_, hargument, ?_⟩)
        rw [settingReport?_append hequals, he]
        rfl
    | unreadableFile hfile => exact Or.inr ⟨_, hfile, rfl⟩
  · rintro ((⟨name, hname, h⟩ | ⟨argument, hargument, h⟩) | ⟨⟨path, contents⟩, hfile, h⟩)
    · exact .unknownModule hname (moduleReport?_isSome_iff.1 h)
    · by_cases hequals : '=' ∈ argument.toList
      · obtain ⟨name, value, hsplit, hname⟩ := List.eq_append_cons_of_mem hequals
        have hargument' : argument = String.ofList (name ++ '=' :: value) := by
          rw [← hsplit, String.ofList_toList]
        subst hargument'
        rw [settingReport?_append hname] at h
        cases hset : Config.initial.set (Text.trim (String.ofList name))
            (.parse (Text.trim (String.ofList value))) with
        | error e => exact .rejectedSetting hname hargument hset
        | ok c =>
            rw [hset] at h
            cases h
      · exact .malformedSetting hargument hequals
    · cases contents with
      | error reason => exact .unreadableFile hfile
      | ok contents => cases h

/-! ### The stages -/

theorem findExtensions_endsWith (names : List String) :
    EndsWith (names.findSome? moduleReport?)
      (fun es => ∃ ms : List BundledModule, es = ms.map BundledModule.extension)
      (findExtensions names) := by
  induction names with
  | nil => exact ⟨[], ⟨[], rfl⟩, rfl⟩
  | cons name names ih =>
      rw [List.findSome?_cons, moduleReport?, findExtensions]
      cases hfind : Bundled.find? name with
      | none => rfl
      | some e =>
          have hmem := List.mem_of_find?_eq_some hfind
          rw [← BundledModule.map_extension_all] at hmem
          obtain ⟨m, -, rfl⟩ := List.mem_map.1 hmem
          refine ih.map fun es hes => ?_
          obtain ⟨ms, rfl⟩ := hes
          exact ⟨m :: ms, rfl⟩

theorem applySettings_cons {argument name : String} {value : SettingValue}
    (h : splitSetting argument = .ok (name, value)) (b : SessionBuilder) (rest : List String) :
    applySettings b (argument :: rest) =
      match b.config.set name value with
      | .ok config => applySettings { b with config := config } rest
      | .error e => .error e.report := by
  rw [applySettings, h, ok_bind]
  dsimp only
  unfold SessionBuilder.withSetting
  cases b.config.set name value <;> rfl

theorem applySettings_endsWith (b : SessionBuilder) (arguments : List String) :
    EndsWith (arguments.findSome? settingReport?)
      (fun b' => ∃ config, b' = { b with config := config }) (applySettings b arguments) := by
  induction arguments generalizing b with
  | nil => exact ⟨b, ⟨b.config, rfl⟩, rfl⟩
  | cons argument arguments ih =>
      rw [List.findSome?_cons, settingReport?]
      cases hsplit : splitSetting argument with
      | error r =>
          rw [applySettings, hsplit]
          rfl
      | ok setting =>
          obtain ⟨name, value⟩ := setting
          rw [applySettings_cons hsplit]
          dsimp only
          cases hset : b.config.set name value with
          | error e =>
              rw [Config.set_eq_error hset Config.initial]
              rfl
          | ok config =>
              cases hinitial : Config.initial.set name value with
              | error e =>
                  rw [Config.set_eq_error hinitial b.config] at hset
                  cases hset
              | ok c => exact ih { b with config := config }

theorem fileContents_endsWith (files : List (String × Except String String)) :
    EndsWith (files.findSome? fileReport?) (· = files.filterMap fun f => f.2.toOption)
      (fileContents files) := by
  induction files with
  | nil => exact ⟨[], rfl, rfl⟩
  | cons file files ih =>
      obtain ⟨path, contents⟩ := file
      cases contents with
      | error reason => rfl
      | ok contents => exact ih.map fun cs hcs => congrArg (contents :: ·) hcs

def requestedExtensions (o : Options) : Except Report (List Extension) :=
  if o.modules.isEmpty then .ok Bundled.extensions else findExtensions o.modules

theorem requestedExtensions_endsWith (o : Options) :
    EndsWith (o.modules.findSome? moduleReport?)
      (fun es => ∃ ms : List BundledModule, es = ms.map BundledModule.extension)
      (requestedExtensions o) := by
  unfold requestedExtensions
  split
  · rename_i hempty
    rw [List.isEmpty_iff.1 hempty]
    exact ⟨_, ⟨BundledModule.all, BundledModule.map_extension_all.symm⟩, rfl⟩
  · exact findExtensions_endsWith o.modules

/-- The session that a builder with these settings makes, in an empty depot. -/
def sessionOf (b : SessionBuilder) (settings : List String) : Except Report (Session × Depot) := do
  let b ← applySettings b settings
  match b.build .empty with
  | (.ok s, d) => return (s, d)
  | (.error e, _) => throw e.report

theorem buildSession_eq (o : Options) : buildSession o =
    requestedExtensions o >>= fun es =>
      sessionOf (SessionBuilder.empty.withExtensions es) o.settings := by
  unfold buildSession requestedExtensions
  split <;> rfl

/-- Building does not fail, as a session without a container of the caller has its own. -/
theorem sessionOf_endsWith (ms : List BundledModule) (settings : List String) :
    EndsWith (settings.findSome? settingReport?)
      (fun session => ∃ ms', session.1.Uses session.2 ms')
      (sessionOf (SessionBuilder.empty.withExtensions (ms.map BundledModule.extension))
        settings) := by
  rw [← Option.or_none (o := settings.findSome? settingReport?)]
  refine (applySettings_endsWith _ settings).bind fun b hb => ?_
  obtain ⟨config, rfl⟩ := hb
  obtain ⟨ms', s, d, -, hbuild, -, huses⟩ := exists_build_uses ms config .empty
  rw [hbuild]
  exact ⟨(s, d), ⟨ms', huses⟩, rfl⟩

theorem buildSession_endsWith (o : Options) :
    EndsWith ((o.modules.findSome? moduleReport?).or (o.settings.findSome? settingReport?))
      (fun session => ∃ ms, session.1.Uses session.2 ms) (buildSession o) := by
  rw [buildSession_eq]
  refine (requestedExtensions_endsWith o).bind fun es hes => ?_
  obtain ⟨ms, rfl⟩ := hes
  exact sessionOf_endsWith ms o.settings

/-! ## Printing -/

/-- A run that prints a report and nothing else. -/
def RunResult.ofReport (r : Report) : RunResult :=
  ⟨"ERROR: " ++ r.render ++ "\n", 1⟩

def RunResult.after (lines : String) (r : RunResult) : RunResult :=
  ⟨lines ++ r.output, r.exitCode⟩

def printTexts (wording : Wording) (s : Session) (d : Depot) (texts : List String) : RunResult :=
  finishRun (compileTexts wording s d texts).1 (compileTexts wording s d texts).2

theorem finishRun_append (lines lines' : String) (failure : Option RunFailure) :
    finishRun (lines ++ lines') failure = (finishRun lines' failure).after lines := by
  rcases failure with _ | (r | reason)
  · rfl
  · simp only [finishRun, RunResult.after, String.append_assoc]
  · rfl

/-- What one expression prints: the report on its text or on its compilation, or the lines of what
it is compiled to. -/
inductive Prints (wording : Wording) (s : Session) (d : Depot) (text : String) : RunResult → Prop
  | undecoded {e : DecodeFailure} : Expr.parse text = .error e →
      Prints wording s d text
        (.ofReport (.withForeignCause "Failed to parse expression JSON" (wording text e)))
  | refused {e : Expr} {failure : CompileFailure} {r : Report} : Expr.parse text = .ok e →
      (s.compile d e).1 = .error failure → failure.report? = some r →
      Prints wording s d text (.ofReport r)
  | compiled {e : Expr} {out : Compiled} : Expr.parse text = .ok e →
      (s.compile d e).1 = .ok out → Prints wording s d text ⟨compiledLines out, 0⟩

theorem RunResult.after_of_exitCode {r : RunResult} (h : r.exitCode = 0) :
    RunResult.after r.output ⟨"", 0⟩ = r := by
  obtain ⟨output, exitCode⟩ := r
  obtain rfl : exitCode = 0 := h
  rw [after, String.append_empty]

namespace Prints

variable {wording : Wording} {s : Session} {d d' : Depot} {ms : List BundledModule}
  {text : String} {r : RunResult}

/-- What was compiled before does not show. -/
theorem congr (hd : s.Uses d ms) (hd' : s.Uses d' ms) (h : Prints wording s d text r) :
    Prints wording s d' text r := by
  have hcompile : ∀ e, (s.compile d e).1 = (s.compile d' e).1 := fun e => by
    rw [hd.compile_fst, hd'.compile_fst]
  cases h with
  | undecoded he => exact .undecoded he
  | refused he hfailure hr => exact .refused he (hcompile _ ▸ hfailure) hr
  | compiled he hout => exact .compiled he (hcompile _ ▸ hout)

theorem exitCode_le (h : Prints wording s d text r) : r.exitCode = 0 ∨ r.exitCode = 1 := by
  cases h with
  | undecoded _ => exact Or.inr rfl
  | refused _ _ _ => exact Or.inr rfl
  | compiled _ _ => exact Or.inl rfl

/-- **The step from one expression to the next.** After an expression that succeeds the session goes
on in the depot that it leaves, and one that fails ends the run with what it prints. -/
theorem printTexts_cons (h : Prints wording s d text r) (rest : List String) :
    printTexts wording s d (text :: rest) =
      if r.exitCode = 0 then
        (printTexts wording s (compileText wording s d text).2 rest).after r.output
      else r := by
  cases h with
  | undecoded he =>
      rw [printTexts, compileTexts, compileText, he]
      rfl
  | @refused e failure r he hfailure hr =>
      rw [printTexts, compileTexts, compileText, he]
      rcases hcompile : s.compile d e with ⟨answer, d'⟩
      rw [hcompile] at hfailure
      obtain rfl : answer = .error failure := hfailure
      simp only [hcompile, hr]
      rfl
  | @compiled e out he hout =>
      rw [if_pos rfl, printTexts, compileTexts, compileText, he]
      rcases hcompile : s.compile d e with ⟨answer, d'⟩
      rw [hcompile] at hout
      obtain rfl : answer = .ok out := hout
      simp only [hcompile]
      exact finishRun_append _ _ _

theorem printTexts_singleton (h : Prints wording s d text r) :
    printTexts wording s d [text] = r := by
  rw [h.printTexts_cons]
  split
  · rename_i hcode
    exact RunResult.after_of_exitCode hcode
  · rfl

theorem unique {r' : RunResult} (h : Prints wording s d text r)
    (h' : Prints wording s d text r') : r = r' :=
  h.printTexts_singleton.symm.trans h'.printTexts_singleton

end Prints

section Texts

variable {wording : Wording} {s : Session} {d : Depot} {ms : List BundledModule}

/-- Rules of bundled modules do not abort, so each failure of a compilation has a report. -/
theorem exists_report {failure : CompileFailure} {e : Expr} (hs : s.Uses d ms)
    (h : (s.compile d e).1 = .error failure) : ∃ r, failure.report? = some r := by
  rw [hs.compile_fst, compiled] at h
  have hstops : StopsAtFirst (BundledModule.registry ms) s.config e.casts _ :=
    e.lowered_stopsAtFirst
  unfold StopsAtFirst at hstops
  cases hcast : firstHostOnly? e.casts with
  | some c =>
      rw [hcast] at hstops
      obtain ⟨operand, -, hlowered⟩ := hstops
      rw [hlowered] at h
      rw [← Except.error.inj h]
      exact ⟨_, rfl⟩
  | none =>
      rw [hcast] at hstops
      obtain ⟨e', hlowered⟩ := hstops
      rw [hlowered] at h
      change Compiled.ofLowered s.config e' = _ at h
      unfold Compiled.ofLowered at h
      split at h
      · rw [← Except.error.inj h]
        exact ⟨_, rfl⟩
      · cases h

theorem exists_prints (hs : s.Uses d ms) (text : String) : ∃ r, Prints wording s d text r := by
  cases hparse : Expr.parse text with
  | error e => exact ⟨_, .undecoded hparse⟩
  | ok e =>
      cases hcompile : (s.compile d e).1 with
      | error failure =>
          obtain ⟨r, hr⟩ := exists_report hs hcompile
          exact ⟨_, .refused hparse hcompile hr⟩
      | ok out => exact ⟨_, .compiled hparse hcompile⟩

theorem prints_printTexts (hs : s.Uses d ms) (text : String) :
    Prints wording s d text (printTexts wording s d [text]) := by
  obtain ⟨r, hr⟩ := exists_prints hs text
  rwa [hr.printTexts_singleton]

theorem uses_compileText (hs : s.Uses d ms) (text : String) :
    s.Uses (compileText wording s d text).2 ms := by
  unfold compileText
  cases Expr.parse text with
  | error e => exact hs
  | ok e =>
      have huses : s.Uses (s.compile d e).2 ms := hs.compile s e
      dsimp only
      generalize s.compile d e = compiled at huses ⊢
      obtain ⟨failure | out, d'⟩ := compiled
      · dsimp only
        split <;> exact huses
      · exact huses

/-- **The run over expressions that succeed**: the session prints what each of them prints, and then
what it prints for the others. -/
theorem printTexts_append (hs : s.Uses d ms) {alone : String → RunResult}
    (halone : ∀ text, Prints wording s d text (alone text)) {texts : List String}
    (h : ∀ text ∈ texts, (alone text).exitCode = 0) :
    ∃ d', s.Uses d' ms ∧ ∀ rest, printTexts wording s d (texts ++ rest) =
      (printTexts wording s d' rest).after
        (String.join (texts.map fun text => (alone text).output)) := by
  induction texts generalizing d with
  | nil =>
      refine ⟨d, hs, fun rest => ?_⟩
      rw [RunResult.after, List.map_nil, String.join_nil, String.empty_append]
      rfl
  | cons text texts ih =>
      obtain ⟨htext, htexts⟩ := List.forall_mem_cons.1 h
      have hs' : s.Uses (compileText wording s d text).2 ms := uses_compileText hs text
      -- the depot has changed, but in it each expression prints what it printed before
      obtain ⟨d', hd', hrun⟩ := ih hs' (fun t => (halone t).congr hs hs') htexts
      refine ⟨d', hd', fun rest => ?_⟩
      rw [List.cons_append, (halone text).printTexts_cons, if_pos htext, hrun, List.map_cons,
        String.join_cons]
      simp only [RunResult.after, String.append_assoc]

end Texts

/-! ## Runs -/

/-- The run with the same modules and settings, and one expression. -/
def runAlone (wording : Wording) (o : Options) (source : String) : RunResult :=
  run wording { o with files := [], exprs := [source] } []

/-- The expressions of a run, those in files first. -/
def sources (o : Options) (files : List (String × Except String String)) : List String :=
  files.filterMap (fun f => f.2.toOption) ++ o.exprs

section Run

variable {wording : Wording} {o : Options} {files : List (String × Except String String)}

/-- A run that lists nothing has a session and the contents of its files, or a report. -/
theorem run_eq (hsettings : o.has .listSettings = false) (hmodules : o.has .listModules = false) :
    run wording o files =
      match buildSession o with
      | .error r => .ofReport r
      | .ok (s, d) =>
        match fileContents files with
        | .error r => .ofReport r
        | .ok contents => printTexts wording s d (contents ++ o.exprs) := by
  rw [run, hsettings, hmodules]
  cases buildSession o with
  | error r => rfl
  | ok session =>
      cases fileContents files with
      | error r => rfl
      | ok contents => rfl

theorem run_of_report (hsettings : o.has .listSettings = false)
    (hmodules : o.has .listModules = false) {r : Report} (h : setupReport? o files = some r) :
    run wording o files = .ofReport r := by
  have hbuild := buildSession_endsWith o
  have hfiles := fileContents_endsWith files
  rw [run_eq hsettings hmodules]
  unfold setupReport? at h
  cases hreport : (o.modules.findSome? moduleReport?).or (o.settings.findSome? settingReport?) with
  | some r' =>
      rw [hreport] at hbuild h
      obtain rfl := Option.some.inj h
      rw [show buildSession o = .error r' from hbuild]
  | none =>
      rw [hreport] at hbuild h
      rw [show files.findSome? fileReport? = some r from h] at hfiles
      obtain ⟨session, -, hsession⟩ := hbuild
      rw [hsession, show fileContents files = .error r from hfiles]

theorem run_of_session (hsettings : o.has .listSettings = false)
    (hmodules : o.has .listModules = false) {s : Session} {d : Depot}
    (hbuild : buildSession o = .ok (s, d)) (hfiles : files.findSome? fileReport? = none) :
    run wording o files = printTexts wording s d (sources o files) := by
  have hcontents := fileContents_endsWith files
  rw [hfiles] at hcontents
  obtain ⟨contents, rfl, hcontents⟩ := hcontents
  rw [run_eq hsettings hmodules, hbuild, hcontents]
  rfl

theorem exists_session (h : setupReport? o files = none) :
    ∃ s d ms, buildSession o = .ok (s, d) ∧ s.Uses d ms := by
  have hbuild := buildSession_endsWith o
  rw [(Option.or_eq_none_iff.1 h).1] at hbuild
  obtain ⟨⟨s, d⟩, ⟨ms, huses⟩, hsession⟩ := hbuild
  exact ⟨s, d, ms, hsession, huses⟩

def nowText : String :=
  (Json.array [.text "function", .text "now", .array []]).render

/-- The text of a call that only the rules of geometry translate. -/
def areaText : String :=
  (Json.object [("kind", .text "method_call"), ("declaring_type", .text "geometry"),
    ("method", .text "Area"), ("args", .array [])]).render

/-- **A run prints what runs with one expression each would print.** A module that does not exist, a
setting that cannot be read or is refused, and a file that cannot be read, the first of these in
this order, leave only a report. Otherwise each expression by itself prints its lines and ends well,
or prints a report, whether it is in a file or not; and the run prints what its expressions print,
in order, up to and with the first report. -/
theorem run_batch (wording : Wording) (o : Options) (files : List (String × Except String String))
    (hsettings : o.has .listSettings = false) (hmodules : o.has .listModules = false) :
    (Refused o files → ∃ r, setupReport? o files = some r ∧ run wording o files = .ofReport r) ∧
    (¬ Refused o files →
      (∃ s d, buildSession o = .ok (s, d) ∧
        ∀ source, Prints wording s d source (runAlone wording o source)) ∧
      (∀ path source, run wording { o with files := [path], exprs := [] } [(path, .ok source)] =
        runAlone wording o source) ∧
      ((∀ source ∈ sources o files, (runAlone wording o source).exitCode = 0) →
        run wording o files =
          ⟨String.join ((sources o files).map fun source => (runAlone wording o source).output),
            0⟩) ∧
      ∀ before failing after, sources o files = before ++ failing :: after →
        (∀ source ∈ before, (runAlone wording o source).exitCode = 0) →
        (runAlone wording o failing).exitCode ≠ 0 → run wording o files =
          ⟨String.join (before.map fun source => (runAlone wording o source).output) ++
            (runAlone wording o failing).output, 1⟩) := by
  refine ⟨fun h => ?_, fun h => ?_⟩
  · obtain ⟨r, hr⟩ := refused_iff.1 h
    exact ⟨r, hr, run_of_report hsettings hmodules hr⟩
  · have hreport : setupReport? o files = none := by
      by_contra hsome
      exact h (refused_iff.2 (Option.ne_none_iff_exists'.1 hsome))
    obtain ⟨s, d, ms, hbuild, huses⟩ := exists_session hreport
    have hrun : run wording o files = printTexts wording s d (sources o files) :=
      run_of_session hsettings hmodules hbuild (Option.or_eq_none_iff.1 hreport).2
    -- Neither the session nor the flags of a run depend on its files and expressions.
    have hfile : ∀ path source,
        run wording { o with files := [path], exprs := [] } [(path, .ok source)] =
          printTexts wording s d [source] := fun path _ =>
      run_of_session (o := { o with files := [path], exprs := [] }) hsettings hmodules hbuild rfl
    have halone : ∀ source, runAlone wording o source = printTexts wording s d [source] :=
      fun source => run_of_session (o := { o with files := [], exprs := [source] }) hsettings
        hmodules hbuild rfl
    have hprints : ∀ source, Prints wording s d source (runAlone wording o source) := by
      intro source
      rw [halone]
      exact prints_printTexts huses source
    refine ⟨⟨s, d, hbuild, hprints⟩, fun path source => (hfile path source).trans (halone _).symm,
      fun hall => ?_, fun before failing after hsources hbefore hfailing => ?_⟩
    · obtain ⟨d', -, hrest⟩ := printTexts_append huses hprints hall
      have hend := hrest []
      rw [List.append_nil] at hend
      rw [hrun, hend, RunResult.after]
      change RunResult.mk (_ ++ "") 0 = _
      rw [String.append_empty]
    · obtain ⟨d', huses', hrest⟩ := printTexts_append huses hprints hbefore
      have hfails := ((hprints failing).congr huses huses').printTexts_cons after
      rw [if_neg hfailing] at hfails
      rw [hrun, hsources, hrest, hfails, RunResult.after,
        (hprints failing).exitCode_le.resolve_left hfailing]

/-- Two expressions succeed before one that cannot be decoded, and the fourth is not reached; with a
setting that is refused none is. -/
theorem run_batch_fourExpressions :
    let wording : Wording := fun _ e => e.message ++ " at line 1 column 1"
    let o : Options :=
      ⟨["now.json"], ["UNACCENT"], ["strict_translation = off"], [], [areaText, "x", nowText]⟩
    let files := [("now.json", .ok nowText)]
    run wording o files = ⟨"now()\nGeometry.Area()\n-- untranslated: Geometry.Area\n" ++
      "ERROR: Error: Failed to parse expression JSON\n" ++
      "Caused by: expected value at line 1 column 1\n", 1⟩ ∧
    run wording { o with settings := ["strict_translation=5"] } files =
      ⟨"ERROR: Setting error: Expected a boolean, got 5\n", 1⟩ := by
  intro wording o files
  constructor
  · have hrefused : ¬ Refused o files := by
      rw [refused_iff]
      rintro ⟨r, hr⟩
      cases hr
    obtain ⟨⟨s, d, hbuild, hprints⟩, -, -, hbatch⟩ := (run_batch wording o files rfl rfl).2 hrefused
    have hnow : Expr.parse nowText = .ok (.function "now" []) :=
      (Expr.parse_eq_ok_iff (Json.parse?_render (by simp) (by decide)) _).2 rfl
    have harea : Expr.parse areaText = .ok (.methodCall .geometry "Area" none []) :=
      (Expr.parse_eq_ok_iff (Json.parse?_render (by simp) (by decide)) _).2 rfl
    have hsession : buildSession o = .ok (_, _) := rfl
    obtain ⟨rfl, rfl⟩ := Prod.mk.inj (Except.ok.inj (hsession.symm.trans hbuild))
    have hfirst := (hprints nowText).unique (.compiled hnow rfl)
    have hsecond := (hprints areaText).unique (.compiled harea rfl)
    have hthird := (hprints "x").unique (.undecoded rfl)
    have hrun := hbatch [nowText, areaText] "x" [nowText] rfl (by simp [hfirst, hsecond])
      (by simp [hthird, RunResult.ofReport])
    rw [hrun, hthird, List.map_cons, List.map_cons, hfirst, hsecond]
    rfl
  · obtain ⟨r, hr, hrun⟩ := (run_batch wording { o with settings := ["strict_translation=5"] }
      files rfl rfl).1 (refused_iff.2 ⟨_, rfl⟩)
    rw [hrun, ← Option.some.inj hr]
    rfl

end Run

end SqlLowering.CommandLine
