import SqlLowering.Bundled.Catalog
import SqlLowering.Codec.Parse
import SqlLowering.CommandLine.Options
import SqlLowering.Session
import SqlLowering.Text.Blank

/-!
# Running a command line

A run lists the settings or the bundled extensions, or it compiles expressions in one session, first
those in files and then those on the command line. Each expression is printed as its SQL text,
followed by the calls that were left in it. The session is built and all files are read before
anything is compiled. The first error is printed in the place of what would have followed.

How a text is worded that cannot be decoded is up to the reader of JSON, which adds the place in
the text to the message.
-/

namespace SqlLowering.CommandLine

/-- What a run leaves behind. -/
structure RunResult where
  output : String
  exitCode : Nat
deriving DecidableEq, Repr

/-- Why a run stops. -/
inductive RunFailure where
  | error (r : Report)
  /-- A rule aborted. -/
  | aborted (reason : String)
deriving DecidableEq, Repr

/-- The line that describes a setting, with the names padded to equal width. -/
def settingLine (name description : String) : String :=
  name ++ String.ofList (List.replicate (24 - name.length) ' ') ++ " " ++ description ++ "\n"

def settingsListing : String :=
  String.join (Config.describe.map fun s => settingLine s.1 s.2)

def modulesListing : String :=
  String.join (Bundled.extensions.map fun e => e.key ++ "\n")

/-! ## The session -/

/-- The bundled extensions with the given names. -/
def findExtensions : List String → Except Report (List Extension)
  | [] => .ok []
  | name :: rest =>
    match Bundled.find? name with
    | none => .error ((Report.ofKind .configuration
        ("Unknown extension '" ++ name ++ "'")).withField "module" name)
    | some e => (findExtensions rest).map fun es => e :: es

/-- The name and the value that a setting argument gives. -/
def splitSetting (argument : String) : Except Report (String × SettingValue) :=
  match splitAtEquals argument.toList with
  | (_, none) => .error (.missing "'=' in setting")
  | (name, some value) =>
    .ok (Text.trim (String.ofList name), .parse (Text.trim (String.ofList value)))

/-- Applies the setting arguments in order. -/
def applySettings (b : SessionBuilder) : List String → Except Report SessionBuilder
  | [] => .ok b
  | argument :: rest => do
    let (name, value) ← splitSetting argument
    match b.withSetting name value with
    | .ok b => applySettings b rest
    | .error e => .error e.report

/-- The session a command line asks for, with the depot that holds its container. -/
def buildSession (o : Options) : Except Report (Session × Depot) := do
  let extensions ← if o.modules.isEmpty then .ok Bundled.extensions else findExtensions o.modules
  let builder ← applySettings (SessionBuilder.empty.withExtensions extensions) o.settings
  match builder.build .empty with
  | (.ok s, d) => return (s, d)
  | (.error e, _) => throw e.report

/-! ## The expressions -/

/-- The contents of the files, or the failure to read the first one that cannot be read. -/
def fileContents : List (String × Except String String) → Except Report (List String)
  | [] => .ok []
  | (path, .error reason) :: _ =>
    .error (.withForeignCause ("Failed to read '" ++ path ++ "'") reason)
  | (_, .ok contents) :: rest => (fileContents rest).map fun cs => contents :: cs

/-- The lines of a compiled expression. -/
def compiledLines (c : Compiled) : String :=
  c.sql ++ "\n" ++ String.join (c.untranslated.map fun name => "-- untranslated: " ++ name ++ "\n")

/-- The words for a text that cannot be decoded, by the text and the reason. -/
abbrev Wording := String → DecodeFailure → String

/-- Decodes and compiles one expression. -/
def compileText (wording : Wording) (s : Session) (d : Depot) (text : String) :
    Except RunFailure Compiled × Depot :=
  match Expr.parse text with
  | .error e =>
    (.error (.error (.withForeignCause "Failed to parse expression JSON" (wording text e))), d)
  | .ok e =>
    match s.compile d e with
    | (.ok c, d) => (.ok c, d)
    | (.error failure, d) =>
      match failure.report?, failure with
      | some r, _ => (.error (.error r), d)
      | none, .aborted reason => (.error (.aborted reason), d)
      | none, _ => (.error (.aborted ""), d)

/-- The lines of the expressions up to the first that fails, and its failure. -/
def compileTexts (wording : Wording) (s : Session) (d : Depot) :
    List String → String × Option RunFailure
  | [] => ("", none)
  | text :: rest =>
    match compileText wording s d text with
    | (.ok c, d) =>
      let (lines, failure) := compileTexts wording s d rest
      (compiledLines c ++ lines, failure)
    | (.error failure, _) => ("", some failure)

/-- The end of a run after some lines. -/
def finishRun (lines : String) : Option RunFailure → RunResult
  | none => ⟨lines, 0⟩
  | some (.error r) => ⟨lines ++ "ERROR: " ++ r.render ++ "\n", 1⟩
  | some (.aborted _) => ⟨lines, 101⟩

/-- Runs the options; the files are given with their contents, or with why they cannot be read. -/
def run (wording : Wording) (o : Options) (files : List (String × Except String String)) :
    RunResult :=
  if o.has .listSettings then ⟨settingsListing, 0⟩
  else if o.has .listModules then ⟨modulesListing, 0⟩
  else
    match buildSession o with
    | .error r => finishRun "" (some (.error r))
    | .ok (s, d) =>
      match fileContents files with
      | .error r => finishRun "" (some (.error r))
      | .ok contents =>
        let (lines, failure) := compileTexts wording s d (contents ++ o.exprs)
        finishRun lines failure

end SqlLowering.CommandLine
