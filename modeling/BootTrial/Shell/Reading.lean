import BootTrial.Shell.Fields

/-!
# Reading lines

How the builtin command `read` takes a line from its input, and how the line falls into the values
of variables. A backslash takes the meaning away from the character behind it, unless it is itself
to stand for a character.
-/

namespace BootTrial.Shell

/-- A line of the input. -/
structure InputLine where
  /-- The characters, each with whether it stands for itself. -/
  chars : List PatternChar
  /-- The number of octets that were taken. -/
  taken : Nat
  /-- Whether the line was complete. -/
  isComplete : Bool
  deriving DecidableEq, Repr

/-- The line with a character in front of it, and with the number of octets taken for it. -/
def InputLine.behind (c : Char) (isPlain : Bool) (taken : Nat) (line : InputLine) : InputLine :=
  { line with chars := (c, isPlain) :: line.chars, taken := line.taken + taken }

/-- Takes a line. NUL characters are passed over. -/
def takeLine (isRaw : Bool) : List Char → InputLine
  | [] => ⟨[], 0, false⟩
  | '\\' :: rest =>
    if isRaw then (takeLine isRaw rest).behind '\\' false 1
    else
      match rest with
      | [] => ⟨[], 1, false⟩
      | '\n' :: rest =>
        let line := takeLine isRaw rest
        { line with taken := line.taken + 2 }
      | c :: rest => (takeLine isRaw rest).behind c true 2
  | c :: rest =>
    if c = '\n' then ⟨[], 1, true⟩
    else if c = '\x00' then
      let line := takeLine isRaw rest
      { line with taken := line.taken + 1 }
    else (takeLine isRaw rest).behind c false 1

/-- Where the division of a line into values stands. -/
structure Division where
  /-- The values that are complete, the last one first. -/
  values : List String := []
  /-- The characters of the present value, the last one first. -/
  value : List Char := []
  /-- The number of values to come, the present one included; none of them is the last one once it
  is zero. -/
  toCome : Nat
  /-- Whether a blank has just ended a value. -/
  isBehindBlank : Bool := false
  /-- The size to which the last value is to be cut. -/
  cut : Option Nat := none

/-- Adds a character to the present value. -/
def Division.add (division : Division) (c : Char) : Division :=
  { division with value := c :: division.value }

/-- Goes on with a character. The last value goes to the end of the line: what splits values is part
of it, blanks at its end apart, and so is a single mark behind a single value. -/
def Division.step (splitters : List Char) (division : Division) (char : PatternChar) : Division :=
  let c := char.1
  let splits := splitters.contains c
  let isBlank := splits && (c = ' ' || c = '\t' || c = '\n')
  if char.2 then { division.add c with isBehindBlank := false }
  else if division.toCome = 0 then
    if isBlank then
      { division.add c with cut := some (division.cut.getD division.value.length) }
    else
      { division.add c with
        cut := if splits && division.isBehindBlank then division.cut else none
        isBehindBlank := false }
  else if division.isBehindBlank && splits then { division with isBehindBlank := isBlank }
  else if splits then
    if division.value.isEmpty && isBlank then { division with isBehindBlank := false }
    else if division.toCome = 1 then
      { division.add c with
        toCome := 0, cut := some division.value.length, isBehindBlank := isBlank }
    else
      { division with
        values := String.ofList division.value.reverse :: division.values
        value := [], toCome := division.toCome - 1, isBehindBlank := isBlank }
  else { division.add c with isBehindBlank := false }

/-- The values of a line for `n` variables, of which there may be fewer. -/
def valuesOf (splitters : List Char) (n : Nat) (chars : List PatternChar) : List String :=
  let division := chars.foldl (Division.step splitters) { toCome := n }
  let value := division.value.reverse
  let last := match division.cut with
    | some size => value.take size
    | none => value
  (if last.isEmpty then division.values else String.ofList last :: division.values).reverse

end BootTrial.Shell
