import BootTrial.Shell.Words

/-!
# Tokens

How a script falls into words and marks. A text that stands in the script for a redirection begins
behind the line that asks for it; it is taken out as soon as it is asked for.
-/

namespace BootTrial.Shell

/-- The words that mean something of their own where a command may begin. -/
def keywords : List String :=
  ["!", "case", "do", "done", "elif", "else", "esac", "fi", "for", "if", "in", "then", "until",
    "while", "\x7b", "\x7d"]

/-- The keyword that a token is where keywords are looked for. -/
def Token.keyword? : Token → Option String
  | .word pieces => pieces.plain?.filter keywords.contains
  | _ => none

/-- A token as a complaint names it. -/
def Token.name (seesKeywords : Bool) (token : Token) : String :=
  match token with
  | .ending => "end of file"
  | .newline => "newline"
  | .mark text => "\"" ++ text ++ "\""
  | .redirection _ _ => "redirection"
  | .word _ =>
    match if seesKeywords then token.keyword? else none with
    | some keyword => "\"" ++ keyword ++ "\""
    | none => "word"

/-- Gives up on a token that is out of place, and says what should stand there. -/
def failAt {α : Type} (token : Token) (seesKeywords : Bool) (expected : String := "") : Parse α :=
  Parse.fail (token.name seesKeywords ++ " unexpected"
    ++ if expected = "" then "" else " (expecting " ++ expected ++ ")")

/-- A text behind blanks, joined lines and a comment, with the number of joined lines. -/
def behindBlanks : List Char → List Char × Nat
  | '\\' :: '\n' :: rest =>
    let (rest, lines) := behindBlanks rest
    (rest, lines + 1)
  | c :: rest =>
    if c = ' ' || c = '\t' then behindBlanks rest
    else if c = '#' then (rest.dropWhile (· ≠ '\n'), 0)
    else (c :: rest, 0)
  | [] => ([], 0)

/-- The marks that end or join commands, the longest first. -/
def marks : List String :=
  ["&&", "||", ";;", ";", "&", "|", "(", ")"]

/-- The marks of redirections, the longest first. -/
def redirectionMarks : List String :=
  ["<<-", "<<", "<&", "<>", "<", ">>", ">&", ">|", ">"]

/-- The mark at the front of a text. -/
def markAt? (known : List String) (text : List Char) : Option String :=
  known.find? (·.toList.isPrefixOf text)

/-- Reads a token from the text. -/
def readToken (lists : ListReaders) : Parse Token := do
  modify fun source =>
    let (rest, lines) := behindBlanks source.rest
    { source with rest, line := source.line + lines }
  let text := (← get).rest
  match text with
  | [] => return .ending
  | '\n' :: _ =>
    let _ ← Parse.take
    return .newline
  | c :: rest =>
    let descriptor := if isDigit c then some (c.toNat - '0'.toNat) else none
    let inner := if descriptor.isSome then rest else text
    match markAt? redirectionMarks inner, markAt? marks text with
    | some mark, _ =>
      Parse.skip (mark.length + if descriptor.isSome then 1 else 0)
      return .redirection descriptor mark
    | none, some mark =>
      Parse.skip mark.length
      return .mark mark
    | none, none => return .word (← readWord lists)

/-- The next token. -/
def nextToken (lists : ListReaders) : Parse Token := do
  match (← get).ahead with
  | some token =>
    modify fun source => { source with ahead := none }
    return token
  | none => readToken lists

/-- Leaves a token to be read again. -/
def putBack (token : Token) : Parse Unit :=
  modify fun source => { source with ahead := some token }

/-- The next token behind any number of line breaks. -/
def nextBehindLines (lists : ListReaders) : Nat → Parse Token
  | 0 => return .ending
  | n + 1 => do
    match ← nextToken lists with
    | .newline => nextBehindLines lists n
    | token => return token

/-- The next token, behind line breaks where they mean nothing. -/
def nextTokenIn (lists : ListReaders) (passesLines : Bool) : Parse Token := do
  if passesLines then nextBehindLines lists ((← Parse.bound) + 1) else nextToken lists

/-- The lines of a text up to one that ends it, and what is left behind that one. `drops` says
whether tabs at the front of a line are dropped, and the number counts the lines taken. -/
def linesUpTo (ending : List Char) (drops : Bool) (count : Nat) :
    Nat → List Char → List Char × List Char × Nat
  | 0, text => ([], text, count)
  | n + 1, text =>
    if text.isEmpty then ([], [], count)
    else
      let line := text.takeWhile (· ≠ '\n')
      let rest := text.dropWhile (· ≠ '\n')
      let shown := if drops then line.dropWhile (· = '\t') else line
      if shown = ending then ([], rest.drop 1, count + 1)
      else
        let (body, after, count) := linesUpTo ending drops (count + 1) n (rest.drop 1)
        (shown ++ rest.take 1 ++ body, after, count)

/-- Takes out a text that stands behind the line that is being read. -/
def takeDocument (ending : List Char) (drops : Bool) : Parse (List Char) := do
  let source ← get
  let line := source.rest.takeWhile (· ≠ '\n')
  match source.rest.dropWhile (· ≠ '\n') with
  | [] => return []
  | lineBreak :: below =>
    let (body, after, count) := linesUpTo ending drops 0 (below.length + 1) below
    set { source with rest := line ++ lineBreak :: after, takenOut := source.takenOut + count }
    return body

/-- Reads what stands behind the mark of a redirection. -/
def readRedirect (lists : ListReaders) (descriptor : Option Nat) (mark : String) :
    Parse Redirect := do
  match ← nextToken lists with
  | .word word =>
    let toRead := descriptor.getD 0
    let toWrite := descriptor.getD 1
    match mark with
    | "<" => return .file toRead .read word
    | "<>" => return .file toRead .update word
    | ">" => return .file toWrite .write word
    | ">|" => return .file toWrite .overwrite word
    | ">>" => return .file toWrite .append word
    | "<&" => return .duplicate toRead word
    | ">&" => return .duplicate toWrite word
    | _ =>
      let (ending, quoted) := word.characters
      let body ← takeDocument ending (mark = "<<-")
      if quoted then return .document toRead [.text body true]
      else return .document toRead (← readDocument lists body)
  | token => failAt token false

end BootTrial.Shell
