/-!
# Ranges of code points

A character class of Unicode is a list of closed ranges in ascending order. A lookup walks the list
and stops at the first range that begins beyond the code point.
-/

namespace BootTrial.Text

/-- Closed ranges of code points, in ascending order. -/
abbrev CodeRanges := List (Nat × Nat)

/-- Whether one of the ascending ranges holds the code point `n`. -/
def CodeRanges.holds : CodeRanges → Nat → Bool
  | [], _ => false
  | (first, last) :: rest, n =>
    if n < first then false else if n ≤ last then true else CodeRanges.holds rest n

end BootTrial.Text
