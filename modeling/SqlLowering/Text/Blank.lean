/-!
# Blank characters

The characters of the Unicode property `White_Space`, and texts with the blank characters at both
ends removed. The property is wider than ASCII white space: it has the no-break space, the line and
paragraph separators and the typographic spaces as well.
-/

namespace SqlLowering.Text

/-- The first and last code point of each range of blank characters. -/
def blankRanges : List (Nat × Nat) :=
  [(0x09, 0x0D), (0x20, 0x20), (0x85, 0x85), (0xA0, 0xA0), (0x1680, 0x1680), (0x2000, 0x200A),
   (0x2028, 0x2029), (0x202F, 0x202F), (0x205F, 0x205F), (0x3000, 0x3000)]

/-- Whether a code point lies in one of the ranges. -/
def inRanges (ranges : List (Nat × Nat)) (c : Char) : Bool :=
  ranges.any fun r => r.1 ≤ c.toNat && c.toNat ≤ r.2

/-- Whether a character has the property `White_Space`. -/
def isBlank (c : Char) : Bool :=
  inRanges blankRanges c

/-- The text without the blank characters at its two ends. -/
def trim (s : String) : String :=
  String.ofList ((s.toList.dropWhile isBlank).reverse.dropWhile isBlank).reverse

end SqlLowering.Text
