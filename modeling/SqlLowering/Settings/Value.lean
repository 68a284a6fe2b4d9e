import SqlLowering.Report
import SqlLowering.Text.Decimal

/-!
# Setting values

Settings are read and written by name as truth values, numbers of 64 bits, or texts. A value typed
by a user is a truth value if it is one of four words, a number if it is a run of digits that
fits, with or without a plus sign, and a text otherwise.
-/

namespace SqlLowering

inductive SettingValue where
  | flag (value : Bool)
  | number (value : UInt64)
  | text (value : String)
deriving DecidableEq, Repr, Inhabited

/-- Why a setting was refused. -/
inductive SettingError where
  | unknown (name : String)
  | notFlag (value : SettingValue)
  | notNumber (value : SettingValue)
  | tooLong (limit : UInt64)
deriving DecidableEq, Repr

namespace SettingValue

/-- The value as messages cite it; a text stands between single quotes as it is. -/
def render : SettingValue → String
  | flag true => "true"
  | flag false => "false"
  | number n => Text.natText n.toNat
  | text s => "'" ++ s ++ "'"

/-- The number a text spells, if it is one of 64 bits. -/
def parseNumber? (s : String) : Option UInt64 :=
  let digits :=
    match s.toList with
    | '+' :: rest => rest
    | cs => cs
  (Text.readNat? digits).bind fun n => if n < UInt64.size then some (UInt64.ofNat n) else none

/-- The value a user means by a text. -/
def parse (s : String) : SettingValue :=
  if s = "true" ∨ s = "on" then flag true
  else if s = "false" ∨ s = "off" then flag false
  else
    match parseNumber? s with
    | some n => number n
    | none => text s

def asFlag : SettingValue → Except SettingError Bool
  | flag b => .ok b
  | value => .error (.notFlag value)

def asNumber : SettingValue → Except SettingError UInt64
  | number n => .ok n
  | value => .error (.notNumber value)

end SettingValue

namespace SettingError

def message : SettingError → String
  | unknown name => "Missing setting for '" ++ name ++ "'"
  | notFlag value => "Expected a boolean, got " ++ value.render
  | notNumber value => "Expected an unsigned integer, got " ++ value.render
  | tooLong limit => "String length cannot be greater than " ++ Text.natText limit.toNat

def report (e : SettingError) : Report :=
  .ofKind .invalidSetting e.message

end SettingError

end SqlLowering
