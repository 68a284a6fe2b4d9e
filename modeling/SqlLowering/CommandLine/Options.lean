/-!
# Command-line options

The arguments of a run are options and expressions. Files, modules and settings are options with a
value, which is the rest of the argument or the next one, and may be repeated; the others are flags
and may be given once. The first argument that is no option is an expression, and so are all that
follow it or a double dash.
-/

namespace SqlLowering.CommandLine

/-- Why a command line has no meaning. -/
inductive UsageError where
  | unknownOption (argument : String)
  | missingValue (option : String)
  | unexpectedValue (argument : String)
  | repeatedFlag (flag : String)
deriving DecidableEq, Repr

def UsageError.message : UsageError → String
  | unknownOption argument => "unknown option '" ++ argument ++ "'"
  | missingValue option => "option '" ++ option ++ "' needs a value"
  | unexpectedValue argument => "flag '" ++ argument ++ "' takes no value"
  | repeatedFlag flag => "flag '" ++ flag ++ "' is given twice"

/-- The options with a value. -/
inductive ValueOption where
  | files
  | module
  | set
deriving DecidableEq, Repr

namespace ValueOption

def all : List ValueOption :=
  [files, module, set]

def longName : ValueOption → String
  | files => "files"
  | module => "module"
  | set => "set"

def letter : ValueOption → Char
  | files => 'f'
  | module => 'm'
  | set => 's'

/-- Whether a value may be empty; the path of a file may not. -/
def allowsEmpty : ValueOption → Bool
  | files => false
  | module | set => true

end ValueOption

/-- The options without a value. -/
inductive Flag where
  | listSettings
  | listModules
  | jsonLogs
deriving DecidableEq, Repr

namespace Flag

def all : List Flag :=
  [listSettings, listModules, jsonLogs]

def longName : Flag → String
  | listSettings => "list-settings"
  | listModules => "list-modules"
  | jsonLogs => "json-logs"

end Flag

/-- What a command line asks for. -/
structure Options where
  files : List String
  modules : List String
  settings : List String
  flags : List Flag
  exprs : List String
deriving Repr

namespace Options

def empty : Options :=
  ⟨[], [], [], [], []⟩

def addValue (o : Options) (option : ValueOption) (value : String) :
    Except UsageError Options :=
  if value.isEmpty && !option.allowsEmpty then .error (.missingValue option.longName)
  else
    match option with
    | .files => .ok { o with files := o.files ++ [value] }
    | .module => .ok { o with modules := o.modules ++ [value] }
    | .set => .ok { o with settings := o.settings ++ [value] }

def addFlag (o : Options) (flag : Flag) : Except UsageError Options :=
  if flag ∈ o.flags then .error (.repeatedFlag flag.longName)
  else .ok { o with flags := o.flags ++ [flag] }

def has (o : Options) (flag : Flag) : Bool :=
  decide (flag ∈ o.flags)

end Options

/-- What one argument is. -/
inductive Argument where
  /-- The double dash. -/
  | separator
  | positional
  | flag (f : Flag)
  /-- An option, with its value if it is part of the argument. -/
  | option (o : ValueOption) (value : Option String)
  | refused (e : UsageError)

/-- The characters before the first equals sign, and those after it if there is one. -/
def splitAtEquals : List Char → List Char × Option (List Char)
  | [] => ([], none)
  | c :: cs =>
    if c = '=' then ([], some cs)
    else
      let (name, value) := splitAtEquals cs
      (c :: name, value)

/-- The option or flag of a long name. -/
def longArgument (argument : String) (body : List Char) : Argument :=
  let (nameChars, valueChars) := splitAtEquals body
  let name := String.ofList nameChars
  match ValueOption.all.find? fun o => o.longName == name with
  | some o => .option o (valueChars.map String.ofList)
  | none =>
    match Flag.all.find? fun f => f.longName == name with
    | some f => if valueChars.isSome then .refused (.unexpectedValue argument) else .flag f
    | none => .refused (.unknownOption argument)

/-- The option of a letter; an equals sign before its value is dropped. -/
def shortArgument (argument : String) (letter : Char) (body : List Char) : Argument :=
  match ValueOption.all.find? fun o => o.letter == letter with
  | none => .refused (.unknownOption argument)
  | some o =>
    match body with
    | [] => .option o none
    | '=' :: value => .option o (some (String.ofList value))
    | value => .option o (some (String.ofList value))

def classify (argument : String) : Argument :=
  match argument.toList with
  | ['-', '-'] => .separator
  | '-' :: '-' :: body => longArgument argument body
  | '-' :: letter :: body => shortArgument argument letter body
  | _ => .positional

/-- Whether an argument looks like an option, so that it is no value of the option before it. -/
def looksLikeOption (argument : String) : Bool :=
  match argument.toList with
  | '-' :: _ :: _ => true
  | _ => false

/-- Reads the arguments, given the option that still waits for its value. -/
def parseFrom (o : Options) (waiting : Option ValueOption) :
    List String → Except UsageError Options
  | [] =>
    match waiting with
    | none => .ok o
    | some option => .error (.missingValue option.longName)
  | argument :: rest =>
    match waiting with
    | some option =>
      if looksLikeOption argument then .error (.missingValue option.longName)
      else (o.addValue option argument).bind fun o => parseFrom o none rest
    | none =>
      match classify argument with
      | .separator => .ok { o with exprs := rest }
      | .positional => .ok { o with exprs := argument :: rest }
      | .flag f => (o.addFlag f).bind fun o => parseFrom o none rest
      | .option option (some value) =>
        (o.addValue option value).bind fun o => parseFrom o none rest
      | .option option none => parseFrom o (some option) rest
      | .refused e => .error e

/-- The options that a command line gives. -/
def parseOptions (arguments : List String) : Except UsageError Options :=
  parseFrom .empty none arguments

end SqlLowering.CommandLine
