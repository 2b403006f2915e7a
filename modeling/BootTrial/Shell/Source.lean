import BootTrial.Shell.Syntax

/-!
# Reading a script

What is left of a script while it is read, and work on it that may find a fault in its form. The
line counts on with every line break that is taken.
-/

namespace BootTrial.Shell

/-- What a script is made of besides the characters of its words. -/
inductive Token where
  /-- The end of the script. -/
  | ending
  /-- The end of a line. -/
  | newline
  /-- A word. -/
  | word (word : Word)
  /-- A mark that ends or joins commands, such as `;` or `&&`. -/
  | mark (text : String)
  /-- The mark of a redirection, with the descriptor that stands in front of it. -/
  | redirection (descriptor : Option Nat) (text : String)

/-- A fault in the form of a script. -/
structure FormFault where
  /-- The line in which it came up. -/
  line : Nat
  /-- What is wrong. -/
  message : String
  deriving DecidableEq, Repr

/-- What is left of a script while it is read. -/
structure Source where
  /-- The characters that have not been read. -/
  rest : List Char
  /-- The number of the line that is being read. -/
  line : Nat
  /-- The number of lines that have been taken out behind the line that is being read. -/
  takenOut : Nat := 0
  /-- A token that has been read too early. -/
  ahead : Option Token := none
  /-- The words that stand for texts where commands begin. -/
  aliases : List (String × String) := []

/-- The reading of a part of a script. -/
abbrev Parse := StateT Source (Except FormFault)

namespace Parse

/-- Gives up. -/
def fail {α : Type} (message : String) : Parse α := do
  throw ⟨(← get).line, message⟩

/-- The next character, without taking it. -/
def peek : Parse (Option Char) := do
  return (← get).rest.head?

/-- Takes characters, which are no line breaks. -/
def skip (n : Nat) : Parse Unit :=
  modify fun source => { source with rest := source.rest.drop n }

/-- Takes the next character. -/
def take : Parse (Option Char) := do
  let source ← get
  match source.rest with
  | [] => return none
  | c :: rest =>
    if c = '\n' then
      set { source with rest, line := source.line + 1 + source.takenOut, takenOut := 0 }
    else set { source with rest }
    return some c

/-- Takes characters as long as a condition holds, and no line breaks. -/
def takeWhile (holds : Char → Bool) : Parse (List Char) := do
  let source ← get
  set { source with rest := source.rest.dropWhile holds }
  return source.rest.takeWhile holds

/-- Reads a text of its own, which begins with some line, in the place of what is left. -/
def within {α : Type} (text : List Char) (line : Nat) (parse : Parse α) : Parse α := do
  let source ← get
  set { source with rest := text, line, takenOut := 0, ahead := none }
  let a ← parse
  set source
  return a

/-- A limit on the number of steps in which what is left can be read. -/
def bound : Parse Nat := do
  return (← get).rest.length + 1

end Parse

end BootTrial.Shell
