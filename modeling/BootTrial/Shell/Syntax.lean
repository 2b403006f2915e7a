/-!
# The form of shell scripts

What a script of the shell is made of once it has been read: words in pieces, commands with their
redirections, and the ways in which commands are put together. Octets stand as the characters with
their numbers.
-/

namespace BootTrial.Shell

/-- How a redirection opens a file. -/
inductive Opening where
  /-- To read it. -/
  | read
  /-- To write it anew, unless an option protects files that are there. -/
  | write
  /-- To write it anew in any case. -/
  | overwrite
  /-- To add to its end. -/
  | append
  /-- To read and to write it as it is. -/
  | update
  deriving DecidableEq, Repr

mutual

/-- A piece of a word. Between quotes the value of a piece is neither split nor taken for a
pattern. -/
inductive Piece where
  /-- Characters that stand for themselves. -/
  | text (cs : List Char) (quoted : Bool)
  /-- What is made of the value of a parameter. -/
  | parameter (name : String) (use : Use) (quoted : Bool)
  /-- The output of a command. -/
  | output (command : Command) (quoted : Bool)
  /-- The value of an arithmetic expression. -/
  | sum (expression : List Piece) (quoted : Bool)

/-- What is made of the value of a parameter. Where `nullToo` is set an empty value counts as
none. -/
inductive Use where
  /-- The value itself. -/
  | value
  /-- Its length. -/
  | length
  /-- The value, or a word where there is none. -/
  | orElse (nullToo : Bool) (word : List Piece)
  /-- The value, or a word that the parameter is set to where there is none. -/
  | orAssign (nullToo : Bool) (word : List Piece)
  /-- The value; where there is none the script fails with a message. -/
  | orFail (nullToo : Bool) (message : List Piece)
  /-- A word where there is a value. -/
  | inPlace (nullToo : Bool) (word : List Piece)
  /-- The value without what a pattern matches at its front or its end. -/
  | without (atEnd longest : Bool) (pattern : List Piece)
  /-- A use that has no meaning. -/
  | unknown

/-- A redirection of one descriptor. -/
inductive Redirect where
  /-- To a file. -/
  | file (descriptor : Nat) (opening : Opening) (name : List Piece)
  /-- To where another descriptor leads, or to nowhere. -/
  | duplicate (descriptor : Nat) (source : List Piece)
  /-- To a text that stands in the script. -/
  | document (descriptor : Nat) (text : List Piece)

/-- A command. Where a line is given it is the one that faults are reported for. -/
inductive Command where
  /-- Nothing to do. -/
  | nothing
  /-- Variables to set and words to carry out. -/
  | simple (line : Nat) (settings : List (String × List Piece)) (words : List (List Piece))
      (redirects : List Redirect)
  /-- A command whose success counts as failure, and the other way round. -/
  | negated (command : Command)
  /-- Commands each of which reads what the one before it writes. -/
  | pipeline (commands : List Command)
  /-- A command, and one for the case that it succeeds. -/
  | andThen (first second : Command)
  /-- A command, and one for the case that it fails. -/
  | orElse (first second : Command)
  /-- Two commands, one after the other. -/
  | sequence (first second : Command)
  /-- A command that is not waited for. -/
  | background (command : Command)
  /-- A command in a shell of its own. -/
  | subshell (line : Nat) (command : Command) (redirects : List Redirect)
  /-- A command with redirections that hold for all of it. -/
  | redirected (line : Nat) (command : Command) (redirects : List Redirect)
  /-- A choice by the success of a command. -/
  | choice (condition success failure : Command)
  /-- A command that is repeated as long as another one succeeds, or fails. -/
  | loop (onFailure : Bool) (condition body : Command)
  /-- A command that is repeated for each of some words. -/
  | each (line : Nat) (variableName : String) (words : List (List Piece)) (body : Command)
  /-- A choice by the first pattern that matches a word. -/
  | select (line : Nat) (subject : List Piece) (arms : List (List (List Piece) × Command))
  /-- The definition of a function. -/
  | define (name : String) (body : Command)

end

/-- A word, as the pieces that it is put together from. -/
abbrev Word := List Piece

instance : Inhabited Command := ⟨.nothing⟩

/-- Whether a character may begin a name. -/
def startsName (c : Char) : Bool :=
  ('a' ≤ c && c ≤ 'z') || ('A' ≤ c && c ≤ 'Z') || c = '_'

/-- Whether a character is a decimal digit. -/
def isDigit (c : Char) : Bool :=
  '0' ≤ c && c ≤ '9'

/-- Whether a character may stand in a name. -/
def continuesName (c : Char) : Bool :=
  startsName c || isDigit c

/-- Whether a text is a name. -/
def isName : List Char → Bool
  | [] => false
  | c :: rest => startsName c && rest.all continuesName

/-- The text of a word that is written without quotes and without parameters. -/
def Word.plain? : Word → Option String
  | [.text cs false] => some (String.ofList cs)
  | _ => none

/-- The characters of a word that stand for themselves, and whether any of it stands in quotes. -/
def Word.characters (word : Word) : List Char × Bool :=
  word.foldl (fun before piece =>
    match piece with
    | .text cs quoted => (before.1 ++ cs, before.2 || quoted)
    | _ => before) ([], false)

/-- The name and the value that a word of the form `name=value` sets. -/
def Word.setting? : Word → Option (String × Word)
  | .text cs false :: rest =>
    let name := cs.takeWhile continuesName
    match cs.dropWhile continuesName with
    | '=' :: value =>
      if isName name then
        some (String.ofList name, if value.isEmpty then rest else .text value false :: rest)
      else none
    | _ => none
  | _ => none

/-- The word, last piece first, with a character added. -/
def Word.addChar (c : Char) (quoted : Bool) : Word → Word
  | .text cs wasQuoted :: rest =>
    if wasQuoted = quoted then .text (cs ++ [c]) quoted :: rest
    else .text [c] quoted :: .text cs wasQuoted :: rest
  | word => .text [c] quoted :: word

end BootTrial.Shell
