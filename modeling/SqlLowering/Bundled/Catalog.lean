import SqlLowering.Bundled.FuzzyMatch
import SqlLowering.Bundled.Geometry
import SqlLowering.Bundled.LabelTree
import SqlLowering.Bundled.Trigrams
import SqlLowering.Bundled.Unaccent
import SqlLowering.Translation.Extension

/-!
# The bundled extensions

All extensions that come with the library, in the order in which they are activated together. They
are found by name without regard to the case of ASCII letters.
-/

namespace SqlLowering.Bundled

def extensions : List Extension :=
  [ ⟨geometryModule, "use_geometry", "register_geometry"⟩,
    ⟨labelTreeModule, "use_ltree", "register_ltree"⟩,
    ⟨fuzzyMatchModule, "use_fuzzystrmatch", "register_fuzzystrmatch"⟩,
    ⟨trigramsModule, "use_trigrams", "register_trigrams"⟩,
    ⟨unaccentModule, "use_unaccent", "register_unaccent"⟩ ]

/-- The text with its ASCII capitals in lower case. -/
def asciiLower (s : String) : List Char :=
  s.toList.map Char.toLower

/-- The bundled extension with a name, whatever its case. -/
def find? (name : String) : Option Extension :=
  extensions.find? fun e => asciiLower e.key == asciiLower name

end SqlLowering.Bundled
