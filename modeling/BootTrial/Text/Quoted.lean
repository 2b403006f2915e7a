import BootTrial.Text.Printable

/-!
# Quoted text

The form in which a text is shown inside a message: between quotes, on one line, with an escape for
every character that could not be told apart otherwise. Short escapes serve NUL, tab, line feed,
carriage return, the backslash and the quote; other characters that may not stand for themselves are
written by their code point.
-/

namespace BootTrial.Text

/-- The escape of a character by its code point, in as few hexadecimal digits as it takes. -/
def codeEscape (c : Char) : List Char :=
  ['\\', 'u', '\x7b'] ++ Nat.toDigits 16 c.toNat ++ ['\x7d']

/-- A character as it is written between double quotes. -/
def escapeChar (c : Char) : List Char :=
  if c = '\x00' then ['\\', '0']
  else if c = '\t' then ['\\', 't']
  else if c = '\r' then ['\\', 'r']
  else if c = '\n' then ['\\', 'n']
  else if c = '\\' then ['\\', '\\']
  else if c = '\"' then ['\\', '\"']
  else if isPrintable c then [c]
  else codeEscape c

/-- A text between double quotes. -/
def quoted (s : String) : String :=
  String.ofList (['\"'] ++ s.toList.flatMap escapeChar ++ ['\"'])

/-- A path between double quotes, where a single quote is escaped too. -/
def quotedPath (s : String) : String :=
  let escape (c : Char) : List Char := if c = '\'' then ['\\', '\''] else escapeChar c
  String.ofList (['\"'] ++ s.toList.flatMap escape ++ ['\"'])

/-- A list of texts, each between quotes. -/
def quotedList (items : List String) : String :=
  "[" ++ ", ".intercalate (items.map quoted) ++ "]"

end BootTrial.Text
