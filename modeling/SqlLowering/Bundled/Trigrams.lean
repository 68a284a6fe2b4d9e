import SqlLowering.Bundled.Table

/-!
# Trigram similarity

Static methods that compare texts by the trigrams they share, as functions for the measures and as
operators for the thresholds and the distances.
-/

namespace SqlLowering.Bundled

open ValueType

private def ofTwoTexts (name : String) (form : NativeForm) : Signature × NativeForm :=
  (⟨.static, dbFunctions, name, [text, text]⟩, form)

def trigramsTable : TranslationTable :=
  [ (⟨.static, dbFunctions, "TrigramsShow", [text]⟩, .function "show_trgm"),
    ofTwoTexts "TrigramsSimilarity" (.function "similarity"),
    ofTwoTexts "TrigramsWordSimilarity" (.function "word_similarity"),
    ofTwoTexts "TrigramsStrictWordSimilarity" (.function "strict_word_similarity"),
    ofTwoTexts "TrigramsAreSimilar" (.operator "%"),
    ofTwoTexts "TrigramsAreWordSimilar" (.operator "<%"),
    ofTwoTexts "TrigramsAreNotWordSimilar" (.operator "%>"),
    ofTwoTexts "TrigramsAreStrictWordSimilar" (.operator "<<%"),
    ofTwoTexts "TrigramsAreNotStrictWordSimilar" (.operator "%>>"),
    ofTwoTexts "TrigramsSimilarityDistance" (.operator "<->"),
    ofTwoTexts "TrigramsWordSimilarityDistance" (.operator "<<->"),
    ofTwoTexts "TrigramsWordSimilarityDistanceInverted" (.operator "<->>"),
    ofTwoTexts "TrigramsStrictWordSimilarityDistance" (.operator "<<<->"),
    ofTwoTexts "TrigramsStrictWordSimilarityDistanceInverted" (.operator "<->>>") ]

def trigramsModule : TranslationModule :=
  ⟨"Trigrams", "using Trigrams", [trigramsTable.rule MethodCall.args]⟩

end SqlLowering.Bundled
