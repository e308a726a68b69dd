/-!
# Blank characters

White space of any script: the controls that separate text and all separators of Unicode.
-/

namespace Typings.Text

/-- The ranges of code points of blank characters, first and last of each. -/
def blankRanges : List (Nat × Nat) :=
  [(0x09, 0x0d), (0x1c, 0x20), (0x85, 0x85), (0xa0, 0xa0), (0x1680, 0x1680), (0x2000, 0x200a),
   (0x2028, 0x2029), (0x202f, 0x202f), (0x205f, 0x205f), (0x3000, 0x3000)]

/-- Whether a character is white space. -/
def isBlank (c : Char) : Bool :=
  blankRanges.any fun (first, last) => first ≤ c.toNat && c.toNat ≤ last

/-- Removes from both ends every character that satisfies `p`. -/
def stripChars (p : Char → Bool) (cs : List Char) : List Char :=
  ((cs.dropWhile p).reverse.dropWhile p).reverse

/-- A text without the characters satisfying `p` at its two ends. -/
def strip (p : Char → Bool) (text : String) : String :=
  String.ofList (stripChars p text.toList)

/-- A text without white space at its two ends. -/
def trimBlank (text : String) : String :=
  strip isBlank text

end Typings.Text
