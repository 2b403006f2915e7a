import BootTrial.Shell.Source

/-!
# Words

How the words of a script are read piece by piece. What a character means depends on what surrounds
it: between single quotes each stands for itself, between double quotes a dollar sign still begins a
parameter, and in braces a word goes on over blanks. Commands within words are read by the reader of
lists, which is given as an argument.
-/

namespace BootTrial.Shell

/-- The readers of the commands that may stand within a word. -/
structure ListReaders where
  /-- Reads commands up to a closing parenthesis. -/
  enclosed : Parse Command
  /-- Reads commands up to the end of the text. -/
  whole : Parse Command

/-- What surrounds the characters of a word. -/
inductive Surrounding where
  /-- Nothing: the word ends in front of a blank or a mark. -/
  | bare
  /-- Double quotes. -/
  | quotes
  /-- The braces of a parameter, between double quotes or not. -/
  | braces (quoted : Bool)
  /-- The parentheses of an arithmetic expression, with the number of those open within it. -/
  | sum (depth : Nat)
  /-- A text in the script, up to its end. -/
  | document
  deriving DecidableEq, Repr

/-- Whether what stands there is kept from being split and from being taken for a pattern. -/
def Surrounding.isQuoted : Surrounding → Bool
  | .bare => false
  | .braces quoted => quoted
  | .quotes | .sum _ | .document => true

/-- Whether a character ends a word. -/
def endsWord (c : Char) : Bool :=
  c = ' ' || c = '\t' || c = '\n' || c = ';' || c = '&' || c = '|' || c = '<' || c = '>'
    || c = '(' || c = ')'

/-- Whether a character is the name of a parameter by itself. -/
def isSpecial (c : Char) : Bool :=
  c = '@' || c = '*' || c = '#' || c = '?' || c = '-' || c = '$' || c = '!' || isDigit c

/-- Whether a backslash takes a character's meaning away where it would be quoted anyway. -/
def isEscapable (around : Surrounding) (c : Char) : Bool :=
  c = '\\' || c = '`' || c = '$' || (c = '"' && around ≠ .document)
    || (c = '}' && around = .braces true)

/-- The text of a command between backquotes, what is left behind it, and the number of lines that
it goes over. -/
def backquoted (quoted : Bool) : List Char → Option (List Char × List Char × Nat)
  | [] => none
  | '`' :: rest => some ([], rest, 0)
  | '\\' :: '\n' :: rest =>
    (backquoted quoted rest).map fun (text, rest, lines) => (text, rest, lines + 1)
  | '\\' :: c :: rest =>
    (backquoted quoted rest).map fun (text, rest, lines) =>
      if c = '\\' || c = '`' || c = '$' || (quoted && c = '"') then (c :: text, rest, lines)
      else ('\\' :: c :: text, rest, lines)
  | c :: rest =>
    (backquoted quoted rest).map fun (text, rest, lines) =>
      (c :: text, rest, if c = '\n' then lines + 1 else lines)

/-- Reads a command up to a closing backquote. -/
def readBackquoted (lists : ListReaders) (quoted : Bool) : Parse Command := do
  let source ← get
  match backquoted quoted source.rest with
  | none =>
    set { source with rest := [], line := source.line + source.rest.count '\n' }
    Parse.fail "EOF in backquote substitution"
  | some (text, rest, lines) =>
    let command ← Parse.within text 1 lists.whole
    set { source with rest, line := source.line + lines }
    return command

/-- What a word in braces does for a parameter, by the character in front of the word. -/
def useWith (mark : Char) (nullToo : Bool) (word : Word) : Use :=
  if mark = '-' then .orElse nullToo word
  else if mark = '=' then .orAssign nullToo word
  else if mark = '?' then .orFail nullToo word
  else .inPlace nullToo word

/-- Whether a character says what a word in braces does for a parameter. -/
def isUseMark (c : Char) : Bool :=
  c = '-' || c = '=' || c = '?' || c = '+'

/-- Reads what is made of a parameter, behind its name in braces. -/
def readUse (inner : Surrounding → Parse Word) (quoted : Bool) : Parse Use := do
  let text := (← get).rest.take 2
  match text with
  | '}' :: _ =>
    Parse.skip 1
    return .value
  | ':' :: c :: _ =>
    Parse.skip 2
    let word ← inner (.braces quoted)
    return if isUseMark c then useWith c true word else .unknown
  | c :: d :: _ =>
    if isUseMark c then
      Parse.skip 1
      return useWith c false (← inner (.braces quoted))
    else if c = '%' || c = '#' then
      Parse.skip (if c = d then 2 else 1)
      return .without (c = '%') (c = d) (← inner (.braces false))
    else
      let _ ← Parse.take
      let _ ← inner (.braces quoted)
      return .unknown
  | _ => Parse.fail "Missing '\x7d'"

/-- Reads the name of a parameter. -/
def readName : Parse String := do
  match ← Parse.peek with
  | none => return ""
  | some c =>
    if startsName c then return String.ofList (← Parse.takeWhile continuesName)
    else if isDigit c then return String.ofList (← Parse.takeWhile isDigit)
    else if isSpecial c then
      Parse.skip 1
      return c.toString
    else return ""

/-- Whether the text behind an opening brace asks for the length of a parameter. -/
def asksLength : List Char → Bool
  | '#' :: c :: rest => continuesName c || (c ≠ '}' && rest.head? = some '}')
  | _ => false

/-- Reads a parameter in braces. -/
def readBraces (inner : Surrounding → Parse Word) (quoted : Bool) : Parse Piece := do
  if asksLength (← get).rest then
    Parse.skip 1
    let name ← readName
    if name ≠ "" && (← Parse.peek) = some '}' then
      Parse.skip 1
      return .parameter name .length quoted
    else
      let _ ← inner (.braces quoted)
      return .parameter name .unknown quoted
  else
    let name ← readName
    if name = "" then
      let _ ← inner (.braces quoted)
      return .parameter name .unknown quoted
    else return .parameter name (← readUse inner quoted) quoted

/-- Reads what a dollar sign begins, if it begins anything. -/
def readDollar (lists : ListReaders) (inner : Surrounding → Parse Word) (quoted : Bool) :
    Parse (Option Piece) := do
  match (← get).rest with
  | '(' :: '(' :: _ =>
    Parse.skip 2
    return some (.sum (← inner (.sum 0)) quoted)
  | '(' :: _ =>
    Parse.skip 1
    return some (.output (← lists.enclosed) quoted)
  | '{' :: _ =>
    Parse.skip 1
    return some (← readBraces inner quoted)
  | c :: _ =>
    if startsName c then return some (.parameter (← readName) .value quoted)
    else if isSpecial c then
      Parse.skip 1
      return some (.parameter c.toString .value quoted)
    else return none
  | [] => return none

/-- Reads up to a closing single quote. -/
def readSingle : Nat → List Char → Parse (List Char)
  | 0, _ => Parse.fail "Unterminated quoted string"
  | n + 1, cs => do
    match ← Parse.take with
    | none => Parse.fail "Unterminated quoted string"
    | some '\'' => return cs.reverse
    | some c => readSingle n (c :: cs)

/-- What the end of the script means for a word. -/
def endWithin (around : Surrounding) (word : Word) : Parse Word :=
  match around with
  | .bare | .document => return word.reverse
  | .quotes => Parse.fail "Unterminated quoted string"
  | .braces quoted => Parse.fail (if quoted then "Unterminated quoted string" else "Missing '\x7d'")
  | .sum _ => Parse.fail "Missing '))'"

/-- The word, last piece first, behind a backslash. -/
def readEscape (around : Surrounding) (word : Word) : Parse Word := do
  match ← Parse.take with
  | none => return Word.addChar '\\' true word
  | some '\n' => return word
  | some c =>
    if !around.isQuoted || isEscapable around c then return Word.addChar c true word
    else return Word.addChar c true (Word.addChar '\\' true word)

/-- Whether a word ends at the next characters; if so they are taken as far as they belong to it. -/
def closes (around : Surrounding) (c : Char) : Parse Bool := do
  match around with
  | .bare => return endsWord c
  | .quotes =>
    if c = '"' then
      Parse.skip 1
      return true
    else return false
  | .braces _ =>
    if c = '}' then
      Parse.skip 1
      return true
    else return false
  | .sum depth =>
    if depth = 0 && (← get).rest.take 2 = [')', ')'] then
      Parse.skip 2
      return true
    else return false
  | .document => return false

/-- What surrounds the text behind a character. -/
def Surrounding.behind (around : Surrounding) (c : Char) : Surrounding :=
  match around with
  | .sum depth => .sum (if c = '(' then depth + 1 else if c = ')' then depth - 1 else depth)
  | around => around

/-- Reads the pieces of a word up to what ends it. `word` holds those that are there, the last one
first. -/
def readPieces (lists : ListReaders) : Nat → Surrounding → Word → Parse Word
  | 0, around, word => endWithin around word
  | n + 1, around, word => do
    let quoted := around.isQuoted
    match ← Parse.peek with
    | none => endWithin around word
    | some c =>
      if ← closes around c then return word.reverse
      let _ ← Parse.take
      if c = '\\' then readPieces lists n around (← readEscape around word)
      else if c = '\'' && (around = .bare || around = .braces false) then
        let text ← readSingle (← Parse.bound) []
        readPieces lists n around (.text text true :: word)
      else if c = '"' && around ≠ .document then
        match around with
        | .sum _ => readPieces lists n around word
        | _ =>
          let inner ← readPieces lists n .quotes []
          let inner := if inner.isEmpty then [.text [] true] else inner
          readPieces lists n around (inner.reverse ++ word)
      else if c = '$' then
        match ← readDollar lists (fun around => readPieces lists n around []) quoted with
        | some piece => readPieces lists n around (piece :: word)
        | none => readPieces lists n around (Word.addChar c quoted word)
      else if c = '`' then
        let command ← readBackquoted lists quoted
        readPieces lists n around (.output command quoted :: word)
      else readPieces lists n (around.behind c) (Word.addChar c quoted word)

/-- Reads a word. -/
def readWord (lists : ListReaders) : Parse Word := do
  readPieces lists (← Parse.bound) .bare []

/-- Reads a text of the script as a word. -/
def readDocument (lists : ListReaders) (text : List Char) : Parse Word := do
  let line := (← get).line
  Parse.within text line do readPieces lists (← Parse.bound) .document []

end BootTrial.Shell
