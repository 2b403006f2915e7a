/-!
# Reading a settings file

A reader takes a value off the front of a text, or refuses. A refusal says nothing, since a settings
file is either read or not; where a reader has refused, another may be tried on the same text.
-/

namespace BootTrial.Toml

/-- A reader. -/
abbrev Reader := StateT (List Char) Option

namespace Reader

/-- Takes a character that satisfies `p`. -/
def one (p : Char → Bool) : Reader Char
  | c :: rest => if p c then some (c, rest) else none
  | [] => none

/-- Takes the character `c`. -/
def char (c : Char) : Reader Unit
  | d :: rest => if d = c then some ((), rest) else none
  | [] => none

/-- Takes the characters `cs`. -/
def chars : List Char → Reader Unit
  | [] => pure ()
  | c :: rest => do char c; chars rest

/-- Takes as many characters as satisfy `p`, which may be none. -/
def many (p : Char → Bool) : Reader (List Char) := fun cs =>
  some (cs.takeWhile p, cs.dropWhile p)

/-- Takes as many characters as satisfy `p`, and one at least. -/
def some1 (p : Char → Bool) : Reader (List Char) := do
  let first ← one p
  return first :: (← many p)

/-- Takes just `n` characters that satisfy `p`. -/
def exactly (p : Char → Bool) : Nat → Reader (List Char)
  | 0 => pure []
  | n + 1 => do
    let c ← one p
    return c :: (← exactly p n)

/-- Takes nothing, where the text has ended. -/
def atEnd : Reader Unit
  | [] => some ((), [])
  | _ :: _ => none

/-- Takes nothing, where the next character satisfies `p`. -/
def before (p : Char → Bool) : Reader Unit
  | c :: rest => if p c then some ((), c :: rest) else none
  | [] => none

/-- What a reader takes over and over, at most `n` times. -/
def upTo {α : Type} (reader : Reader α) : Nat → Reader (List α)
  | 0 => pure []
  | n + 1 => do
    match ← optional reader with
    | none => return []
    | some a => return a :: (← upTo reader n)

/-- What a reader takes over and over. It has to take something each time, so the length of the text
bounds the number of times. -/
def repeated {α : Type} (reader : Reader α) : Reader (List α) := fun cs =>
  upTo reader cs.length cs

/-- What a reader takes once or more, with a separator in between. -/
def separated {α : Type} (reader : Reader α) (separator : Reader Unit) : Reader (List α) := do
  let first ← reader
  return first :: (← repeated do separator; reader)

end Reader

/-- Whether a character is a blank or a tab. -/
def isGap (c : Char) : Bool :=
  c = ' ' || c = '\t'

/-- Whether a character may stand for itself in a comment, and, quotes and backslashes apart, in a
text: a tab or no control character. -/
def isPlain (c : Char) : Bool :=
  c = '\t' || (' ' ≤ c && c ≤ '~') || '\x80' ≤ c

/-- Takes the blanks in front. -/
def gap : Reader Unit := do
  let _ ← Reader.many isGap

/-- Takes a line break. -/
def newline : Reader Unit :=
  Reader.char '\n' <|> Reader.chars ['\r', '\n']

/-- Takes a comment, up to the end of its line. -/
def comment : Reader Unit := do
  Reader.char '#'
  let _ ← Reader.many isPlain

/-- Takes the end of a line. -/
def lineEnd : Reader Unit :=
  newline <|> Reader.atEnd

/-- Takes what may follow on a line that is complete: blanks, a comment, the end of the line. -/
def trailing : Reader Unit := do
  gap
  let _ ← optional comment
  lineEnd

/-- Takes blanks and line breaks. -/
def gapAndLines : Reader Unit := do
  let _ ← Reader.repeated ((do let _ ← Reader.some1 isGap) <|> newline)

/-- Takes blanks, line breaks and comments. -/
def filler : Reader Unit := do
  let _ ← Reader.repeated ((do let _ ← Reader.some1 isGap) <|> newline <|> comment)

end BootTrial.Toml
