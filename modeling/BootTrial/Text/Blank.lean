import BootTrial.Text.Ranges

/-!
# White space

The Unicode property White_Space, and the text between the white space at the two ends of a text.
-/

namespace BootTrial.Text

/-- The code points of the property White_Space. -/
def blankRanges : CodeRanges :=
  [(9, 13), (32, 32), (133, 133), (160, 160), (5760, 5760), (8192, 8202), (8232, 8233),
   (8239, 8239), (8287, 8287), (12288, 12288)]

/-- Whether a character has the property White_Space. -/
def isBlank (c : Char) : Bool :=
  blankRanges.holds c.toNat

/-- The text from its first character that fails `p` on. -/
def dropLeading (p : Char → Bool) (s : String) : String :=
  String.ofList (s.toList.dropWhile p)

/-- The text up to its last character that fails `p`. -/
def dropTrailing (p : Char → Bool) (s : String) : String :=
  String.ofList (s.toList.reverse.dropWhile p).reverse

/-- The text without the white space at its two ends. -/
def trim (s : String) : String :=
  dropTrailing isBlank (dropLeading isBlank s)

end BootTrial.Text
