/-!
# Counts

Decimal spellings of counts below `2 ^ 64`: digits, with any number of leading zeros and at most one
plus sign in front.
-/

namespace BootTrial.Text

/-- One more than the largest count. -/
def countLimit : Nat := Nat.pow 2 64

/-- The value of a digit from `0` to `9`. -/
def digitValue? (c : Char) : Option Nat :=
  if '0' ≤ c ∧ c ≤ '9' then some (c.toNat - '0'.toNat) else none

/-- The value of a row of digits that follows digits of value `n`. -/
def digitsValue? (n : Nat) : List Char → Option Nat
  | [] => some n
  | c :: rest => (digitValue? c).bind fun d => digitsValue? (10 * n + d) rest

/-- The count that a text spells. -/
def count? (s : String) : Option Nat :=
  let digits :=
    match s.toList with
    | '+' :: rest => rest
    | cs => cs
  if digits.isEmpty then none
  else (digitsValue? 0 digits).filter (· < countLimit)

end BootTrial.Text
