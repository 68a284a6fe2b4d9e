import SqlLowering.Bundled.Table

/-!
# Accent stripping

A static method that removes the accents of a text. The form with two arguments takes the dictionary
first, as the database function does.
-/

namespace SqlLowering.Bundled

open ValueType

def unaccentTable : TranslationTable :=
  [ (⟨.static, dbFunctions, "Unaccent", [text]⟩, .function "unaccent"),
    (⟨.static, dbFunctions, "Unaccent", [text, text]⟩, .function "unaccent") ]

def unaccentModule : TranslationModule :=
  ⟨"Unaccent", "using Unaccent", [unaccentTable.rule MethodCall.args]⟩

end SqlLowering.Bundled
