import SqlLowering.Bundled.Table

/-!
# Fuzzy string matching

Static methods that compare texts by sound or by edit distance. The longer forms of the edit
distances take the costs of an insertion, a deletion and a substitution after the texts.
-/

namespace SqlLowering.Bundled

open ValueType

private def fuzzy (name : String) (params : List ValueType) (target : String) :
    Signature × NativeForm :=
  (⟨.static, dbFunctions, name, params⟩, .function target)

def fuzzyMatchTable : TranslationTable :=
  [ fuzzy "Soundex" [text] "soundex",
    fuzzy "Difference" [text, text] "difference",
    fuzzy "Levenshtein" [text, text] "levenshtein",
    fuzzy "Levenshtein" [text, text, int32, int32, int32] "levenshtein",
    fuzzy "LevenshteinLessEqual" [text, text, int32] "levenshtein_less_equal",
    fuzzy "LevenshteinLessEqual" [text, text, int32, int32, int32, int32]
      "levenshtein_less_equal",
    fuzzy "Metaphone" [text, int32] "metaphone",
    fuzzy "DoubleMetaphone" [text] "dmetaphone",
    fuzzy "DoubleMetaphoneAlt" [text] "dmetaphone_alt" ]

def fuzzyMatchModule : TranslationModule :=
  ⟨"FuzzyStringMatch", "using FuzzyStringMatch", [fuzzyMatchTable.rule MethodCall.args]⟩

end SqlLowering.Bundled
