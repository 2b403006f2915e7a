import BootTrial.Toml.Reader

/-!
# Texts and keys of a settings file

A text stands between double quotes, where a backslash escapes, or between single quotes, where it
does not. Three quotes open a text of many lines, whose first line break is dropped and whose line
breaks count as line feeds. A key is a bare word or a text on one line; dots join keys.
-/

namespace BootTrial.Toml

open Reader

/-- The value of a hexadecimal digit. -/
def hexDigit? (c : Char) : Option Nat :=
  if '0' ≤ c && c ≤ '9' then some (c.toNat - '0'.toNat)
  else if 'a' ≤ c && c ≤ 'f' then some (c.toNat - 'a'.toNat + 10)
  else if 'A' ≤ c && c ≤ 'F' then some (c.toNat - 'A'.toNat + 10)
  else none

/-- Whether a character is a hexadecimal digit. -/
def isHexDigit (c : Char) : Bool :=
  (hexDigit? c).isSome

/-- The value of a row of digits in a base. -/
def valueIn (base : Nat) (digits : List Char) : Nat :=
  digits.foldl (fun n c => n * base + (hexDigit? c).getD 0) 0

/-- Takes the character with a code point of `n` hexadecimal digits. -/
def codePoint (n : Nat) : Reader Char := do
  let code := valueIn 16 (← exactly isHexDigit n)
  if code < 0xD800 || (0xE000 ≤ code && code < 0x110000) then return Char.ofNat code
  else failure

/-- Takes the rest of an escape behind its backslash. -/
def escaped : Reader Char := do
  match ← one fun _ => true with
  | 'b' => return '\x08'
  | 't' => return '\t'
  | 'n' => return '\n'
  | 'f' => return '\x0c'
  | 'r' => return '\r'
  | '\"' => return '\"'
  | '\\' => return '\\'
  | 'u' => codePoint 4
  | 'U' => codePoint 8
  | _ => failure

/-- Whether a character stands for itself between double quotes. -/
def isBasic (c : Char) : Bool :=
  isPlain c && c ≠ '\"' && c ≠ '\\'

/-- Whether a character stands for itself between single quotes. -/
def isLiteral (c : Char) : Bool :=
  isPlain c && c ≠ '\''

/-- Takes one character of a text between double quotes. -/
def basicChar : Reader Char :=
  one isBasic <|> do char '\\'; escaped

/-- Takes a text between double quotes. -/
def basicText : Reader String := do
  char '\"'
  let cs ← repeated basicChar
  char '\"'
  return String.ofList cs

/-- Takes a text between single quotes. -/
def literalText : Reader String := do
  char '\''
  let cs ← many isLiteral
  char '\''
  return String.ofList cs

/-- Takes a line break as it counts in a text of many lines. -/
def lineFeed : Reader (List Char) := do
  newline
  return ['\n']

/-- Takes a line break that a backslash in front hides, together with the blanks and line breaks
around it. -/
def hiddenBreak : Reader (List Char) := do
  char '\\'
  gap
  newline
  gapAndLines
  return []

/-- Takes one piece of a text of many lines between double quotes. -/
def basicPiece : Reader (List Char) :=
  some1 isBasic <|> hiddenBreak <|> (do char '\\'; return [← escaped]) <|> lineFeed

/-- Takes one piece of a text of many lines between single quotes. -/
def literalPiece : Reader (List Char) :=
  some1 isLiteral <|> lineFeed

/-- Takes one or two quotes that close nothing, since no third one follows. -/
def strayQuotes (quote : Char) : Reader (List Char) :=
  (do chars [quote, quote]; before (· ≠ quote); return [quote, quote])
    <|> (do char quote; before (· ≠ quote); return [quote])

/-- Takes the end of a text of many lines: three quotes, with up to two in front that belong to the
text. -/
def closingQuotes (quote : Char) : Reader (List Char) :=
  (do chars [quote, quote, quote, quote, quote]; return [quote, quote])
    <|> (do chars [quote, quote, quote, quote]; return [quote])
    <|> (do chars [quote, quote, quote]; return [])

/-- Takes a text of many lines between triple quotes. -/
def longText (quote : Char) (piece : Reader (List Char)) : Reader String := do
  chars [quote, quote, quote]
  let _ ← optional newline
  let body ← repeated (piece <|> strayQuotes quote)
  let last ← closingQuotes quote
  return String.ofList (body.flatten ++ last)

/-- Takes a text in any of its four forms. -/
def text : Reader String :=
  longText '\"' basicPiece <|> basicText <|> longText '\'' literalPiece <|> literalText

/-- Whether a character may stand in a bare key. -/
def isKeyChar (c : Char) : Bool :=
  ('A' ≤ c && c ≤ 'Z') || ('a' ≤ c && c ≤ 'z') || ('0' ≤ c && c ≤ '9') || c = '-' || c = '_'

/-- Takes a key without dots, with the blanks around it. -/
def simpleKey : Reader String := do
  gap
  let key ← basicText <|> literalText <|> (do return String.ofList (← some1 isKeyChar))
  gap
  return key

/-- One more than the number of parts that a dotted key may have. -/
def depthLimit : Nat := 80

/-- Takes a key: the names in front of its last dot, and its last name. -/
def dottedKey : Reader (List String × String) := do
  let names ← separated simpleKey (char '.')
  match names.reverse with
  | last :: before =>
    if names.length < depthLimit then return (before.reverse, last) else failure
  | [] => failure

end BootTrial.Toml
