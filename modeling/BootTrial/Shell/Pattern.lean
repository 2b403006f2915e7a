import BootTrial.Shell.Syntax

/-!
# Patterns

What the patterns of the shell match. A pattern is given as characters together with whether they
stand for themselves. `matchesAll_chars` says that a pattern of such characters matches one text.
-/

namespace BootTrial.Shell

/-- A character of a pattern, and whether it stands for itself. -/
abbrev PatternChar := Char × Bool

/-- A part of a set of characters. -/
inductive CharSet where
  /-- The characters from one to another. -/
  | range (first last : Char)
  /-- The characters of a kind. -/
  | kind (holds : Char → Bool)

/-- An element of a pattern. -/
inductive Element where
  /-- One character. -/
  | char (c : Char)
  /-- Any character. -/
  | any
  /-- Any row of characters. -/
  | anyRow
  /-- One character of a set, or one outside of it. -/
  | oneOf (outside : Bool) (set : List CharSet)

/-- Whether a character is in a part of a set. -/
def CharSet.contains (c : Char) : CharSet → Bool
  | .range first last => first ≤ c && c ≤ last
  | .kind holds => holds c

/-- Whether an element matches a character by itself. -/
def Element.accepts (c : Char) : Element → Bool
  | .char own => c = own
  | .any | .anyRow => true
  | .oneOf outside set => (set.any (·.contains c)) ≠ outside

/-- Whether a condition holds of some end of a list. -/
def someEnd (holds : List Char → Bool) : List Char → Bool
  | [] => holds []
  | c :: rest => holds (c :: rest) || someEnd holds rest

/-- Whether elements match the whole of a text. -/
def matchesAll : List Element → List Char → Bool
  | [], cs => cs.isEmpty
  | .anyRow :: rest, cs => someEnd (matchesAll rest) cs
  | _ :: _, [] => false
  | element :: rest, c :: cs => element.accepts c && matchesAll rest cs

/-- Characters that stand for themselves match the text that they make up. -/
theorem matchesAll_chars (own cs : List Char) :
    matchesAll (own.map .char) cs = true ↔ cs = own := by
  induction own generalizing cs with
  | nil => simp [matchesAll]
  | cons c rest ih =>
    cases cs with
    | nil => simp [matchesAll]
    | cons d ds => simp [matchesAll, Element.accepts, ih]

/-- Whether a character is a letter. -/
def isLetter (c : Char) : Bool :=
  ('a' ≤ c && c ≤ 'z') || ('A' ≤ c && c ≤ 'Z')

/-- Whether a character is printed with ink. -/
def isGraphic (c : Char) : Bool :=
  '!' ≤ c && c ≤ '~'

/-- Whether a character is a blank of any kind. -/
def isSpace (c : Char) : Bool :=
  c = ' ' || ('\t' ≤ c && c ≤ '\r')

/-- The named kinds of characters. -/
def charKinds : List (String × (Char → Bool)) :=
  [("alnum", fun c => isLetter c || isDigit c), ("alpha", isLetter),
    ("blank", fun c => c = ' ' || c = '\t'), ("cntrl", fun c => c < ' ' || c = '\x7f'),
    ("digit", isDigit), ("graph", isGraphic), ("lower", fun c => 'a' ≤ c && c ≤ 'z'),
    ("print", fun c => c = ' ' || isGraphic c),
    ("punct", fun c => isGraphic c && !isLetter c && !isDigit c), ("space", isSpace),
    ("upper", fun c => 'A' ≤ c && c ≤ 'Z'),
    ("xdigit", fun c => isDigit c || ('a' ≤ c && c ≤ 'f') || ('A' ≤ c && c ≤ 'F'))]

/-- The named kind at the front of a set, behind its opening bracket, and what is left. -/
def charKind? (text : List PatternChar) : Option (CharSet × List PatternChar) :=
  match text with
  | (':', _) :: rest =>
    let name := rest.takeWhile (·.1 ≠ ':')
    match rest.dropWhile (·.1 ≠ ':') with
    | (':', _) :: (']', _) :: after =>
      (charKinds.lookup (String.ofList (name.map (·.1)))).map fun holds => (.kind holds, after)
    | _ => none
  | _ => none

/-- The character at the front of a text, where a backslash takes a meaning away. -/
def escaped? : List PatternChar → Option (PatternChar × List PatternChar)
  | ('\\', false) :: (c, _) :: rest => some ((c, true), rest)
  | c :: rest => some (c, rest)
  | [] => none

/-- The set up to its closing bracket, and what is left. The first character closes nothing. -/
def charSet? : Nat → (isFirst : Bool) → List PatternChar →
    Option (List CharSet × List PatternChar)
  | 0, _, _ => none
  | n + 1, isFirst, text =>
    match text, isFirst with
    | (']', false) :: rest, false => some ([], rest)
    | _, _ =>
      match if text.head? = some ('[', false) then charKind? text.tail else none with
      | some (kind, rest) => (charSet? n false rest).map fun (set, rest) => (kind :: set, rest)
      | none => do
        let ((c, _), rest) ← escaped? text
        match rest with
        | ('-', false) :: next :: after =>
          if next = (']', false) then
            (charSet? n false rest).map fun (set, rest) => (.range c c :: set, rest)
          else do
            let ((d, _), after) ← escaped? (next :: after)
            (charSet? n false after).map fun (set, rest) => (.range c d :: set, rest)
        | _ => (charSet? n false rest).map fun (set, rest) => (.range c c :: set, rest)

/-- The elements of a pattern of at most `n` characters. -/
def elementsWithin : Nat → List PatternChar → List Element
  | 0, _ => []
  | n + 1, text =>
    match text with
    | [] => []
    | (c, true) :: rest => .char c :: elementsWithin n rest
    | ('*', false) :: rest => .anyRow :: elementsWithin n rest
    | ('?', false) :: rest => .any :: elementsWithin n rest
    | ('[', false) :: rest =>
      let outside := rest.head? = some ('!', false)
      match charSet? (rest.length + 1) true (if outside then rest.tail else rest) with
      | some (set, rest) => .oneOf outside set :: elementsWithin n rest
      | none => .char '[' :: elementsWithin n rest
    | ('\\', false) :: (c, _) :: rest => .char c :: elementsWithin n rest
    | (c, false) :: rest => .char c :: elementsWithin n rest

/-- The elements of a pattern. -/
def elements (text : List PatternChar) : List Element :=
  elementsWithin text.length text

/-- Whether a pattern matches the whole of a text. -/
def patternMatches (pattern : List PatternChar) (text : List Char) : Bool :=
  matchesAll (elements pattern) text

/-- A text without what a pattern matches at its front or its end. -/
def trimmed (atEnd longest : Bool) (pattern : List PatternChar) (text : List Char) : List Char :=
  let elements := elements pattern
  let sizes := List.range (text.length + 1)
  let matching (n : Nat) : Bool :=
    matchesAll elements (if atEnd then text.drop (text.length - n) else text.take n)
  match (if longest then sizes.reverse else sizes).find? matching with
  | none => text
  | some n => if atEnd then text.take (text.length - n) else text.drop n

/-- Whether a character makes a text a pattern. -/
def isPatternMark (c : PatternChar) : Bool :=
  !c.2 && (c.1 = '*' || c.1 = '?' || c.1 = '[')

end BootTrial.Shell
