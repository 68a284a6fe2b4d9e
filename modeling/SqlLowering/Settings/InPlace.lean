import SqlLowering.Settings.Config

/-!
# Configuring in place

A configuration that its owner keeps is written in place. A call that fails gives its reason, and
what it has written by then stays; so each setting checks a value before it writes.
-/

namespace SqlLowering

/-- A computation that may fail and may write to a configuration, also before it fails. -/
abbrev Configuring (α : Type) := ExceptT SettingError (StateM Config) α

namespace Configuring

/-- Runs a computation on a configuration. -/
def run {α : Type} (x : Configuring α) (c : Config) : Except SettingError α × Config :=
  ExceptT.run x c

/-- Writes one setting. -/
def write : Setting → SettingValue → Configuring Unit
  | .applicationName, .text s => modify fun c => { c with applicationName := s }
  | .applicationName, value => modify fun c => { c with applicationName := value.render }
  | .strictTranslation, value => do
    let b ← value.asFlag
    modify fun c => { c with strictTranslation := b }
  | .defaultStringLength, value => do
    let n ← value.asNumber
    if Config.maxStringLength < n then throw (.tooLong Config.maxStringLength)
    modify fun c => { c with defaultStringLength := if n = 0 then none else some n.toUInt32 }

def set (name : String) (value : SettingValue) : Configuring Unit := do
  write (← Setting.ofName name) value

/-- Writes the initial value of one setting. -/
def reset (name : String) : Configuring Unit := do
  let setting ← Setting.ofName name
  write setting (Config.initial.read setting)

/-- Writes the initial configuration. -/
def resetAll : Configuring Unit :=
  modify fun _ => Config.initial

end Configuring

end SqlLowering
