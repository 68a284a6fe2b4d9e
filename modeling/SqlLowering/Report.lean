import SqlLowering.Text.Decimal

/-!
# Error reports

A report is what a user sees of an error: a kind, a message and named fields, and below them the
reports of the errors that led to it, ending with the text of a foreign error if one was the first
cause. It is shown as one paragraph for each error in this chain.
-/

namespace SqlLowering

/-- The broad category of an error. -/
inductive ReportKind where
  | other
  /-- A module was requested for a session and is not registered in the container it uses. -/
  | configuration
  /-- A method call was left that no rule translates. -/
  | untranslatable
  /-- A setting has no such name, or not this kind of value. -/
  | invalidSetting
deriving DecidableEq, Repr, Inhabited

def ReportKind.title : ReportKind → String
  | other => "Error"
  | configuration => "Configuration error"
  | untranslatable => "Translation error"
  | invalidSetting => "Setting error"

/-- One error of a chain. -/
structure ReportEntry where
  kind : ReportKind
  message : String
  fields : List (String × String)
deriving DecidableEq, Repr, Inhabited

/-- The kind and the message, and the fields in parentheses if there are any. -/
def ReportEntry.render (e : ReportEntry) : String :=
  let shown := e.fields.map fun f => f.1 ++ ": " ++ f.2
  e.kind.title ++ ": " ++ e.message ++
    if shown.isEmpty then "" else " (" ++ Text.joinWith ", " shown ++ ")"

/-- A chain of errors, the last consequence first. -/
structure Report where
  top : ReportEntry
  /-- The causes that are reports themselves, in order. -/
  causes : List ReportEntry
  /-- The text of the foreign error at the end of the chain. -/
  root : Option String
deriving DecidableEq, Repr, Inhabited

namespace Report

/-- A report without fields and causes. -/
def ofKind (kind : ReportKind) (message : String) : Report :=
  ⟨⟨kind, message, []⟩, [], none⟩

/-- A report caused by a foreign error. -/
def withForeignCause (message foreign : String) : Report :=
  ⟨⟨.other, message, []⟩, [], some foreign⟩

/-- A report caused by another report. -/
def withCause (message : String) (cause : Report) : Report :=
  ⟨⟨.other, message, []⟩, cause.top :: cause.causes, cause.root⟩

/-- A failure of input or output, reported with the text the system gives for it. -/
def ofInputFailure (foreign : String) : Report :=
  withForeignCause "IO error" foreign

/-- A failure of formatting. -/
def formatFailure : Report :=
  withForeignCause "Format error" "an error occurred when formatting an argument"

/-- The absence of a required value. -/
def missing (what : String) : Report :=
  ofKind .other ("Missing required value: " ++ what)

/-- Adds a field after those the report has. -/
def withField (r : Report) (key value : String) : Report :=
  { r with top := { r.top with fields := r.top.fields ++ [(key, value)] } }

/-- The value of the first field with a key. -/
def field? (r : Report) (key : String) : Option String :=
  r.top.fields.lookup key

/-- The paragraphs of a chain of causes. -/
def paragraphs (causes : List ReportEntry) (root : Option String) : List String :=
  causes.map ReportEntry.render ++ root.toList

/-- The whole chain, one paragraph for each error. -/
def render (r : Report) : String :=
  Text.joinWith "\nCaused by: " (paragraphs (r.top :: r.causes) r.root)

/-- The causes that are reports, each shown with the chain below it. -/
def renderCauses (root : Option String) : List ReportEntry → List String
  | [] => root.toList
  | e :: es => Text.joinWith "\nCaused by: " (paragraphs (e :: es) root) :: renderCauses root es

/-- The cause of the error, the cause of that, and so on, each shown with the chain below it. -/
def sources (r : Report) : List String :=
  renderCauses r.root r.causes

end Report

end SqlLowering
