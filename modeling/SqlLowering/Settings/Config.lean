import SqlLowering.Settings.Value

/-!
# Session configuration

The configuration of a session has three settings, each with a name, a description, a way to read
it as a value and a way to write it. The application name takes any value and keeps its text. A
default text length of zero means no bound, and is the same as none when it is set; only a
configuration that is put together by hand can hold a bound of zero.
-/

namespace SqlLowering

structure Config where
  applicationName : String
  strictTranslation : Bool
  defaultStringLength : Option UInt32
deriving DecidableEq, Repr

inductive Setting where
  | applicationName
  | defaultStringLength
  | strictTranslation
deriving DecidableEq, Repr

namespace Setting

/-- The settings in the order of their names. -/
def all : List Setting :=
  [applicationName, defaultStringLength, strictTranslation]

def name : Setting → String
  | applicationName => "application_name"
  | defaultStringLength => "default_string_length"
  | strictTranslation => "strict_translation"

def description : Setting → String
  | applicationName => "Name reported in session logging"
  | defaultStringLength => "Length bound applied to casts to unbounded text, 0 for no bound"
  | strictTranslation => "Fail compilation if any method call is left untranslated"

def ofName (name : String) : Except SettingError Setting :=
  match all.find? fun s => s.name == name with
  | some s => .ok s
  | none => .error (.unknown name)

end Setting

namespace Config

/-- Strict, without a name and without a bound. -/
def initial : Config :=
  ⟨"", true, none⟩

/-- The largest length that text can be bounded by. -/
def maxStringLength : UInt64 :=
  10485760

/-- Writes one setting. -/
def write (c : Config) : Setting → SettingValue → Except SettingError Config
  | .applicationName, .text s => .ok { c with applicationName := s }
  | .applicationName, value => .ok { c with applicationName := value.render }
  | .strictTranslation, value => do
    let b ← value.asFlag
    return { c with strictTranslation := b }
  | .defaultStringLength, value => do
    let n ← value.asNumber
    if maxStringLength < n then throw (.tooLong maxStringLength)
    return { c with defaultStringLength := if n = 0 then none else some n.toUInt32 }

/-- Reads one setting. -/
def read (c : Config) : Setting → SettingValue
  | .applicationName => .text c.applicationName
  | .strictTranslation => .flag c.strictTranslation
  | .defaultStringLength => .number (c.defaultStringLength.getD 0).toUInt64

def set (c : Config) (name : String) (value : SettingValue) : Except SettingError Config := do
  c.write (← Setting.ofName name) value

def get (c : Config) (name : String) : Except SettingError SettingValue := do
  return c.read (← Setting.ofName name)

/-- Writes the initial value of one setting. -/
def reset (c : Config) (name : String) : Except SettingError Config := do
  let setting ← Setting.ofName name
  c.write setting (initial.read setting)

/-- The names and descriptions of all settings, sorted by name. -/
def describe : List (String × String) :=
  Setting.all.map fun s => (s.name, s.description)

end Config

end SqlLowering
