import BootTrial.Bench.Input
import BootTrial.Operator.Basic
import BootTrial.Operator.Highlight
import BootTrial.Text.Count

/-!
# The operator at a terminal

The menu is written out with its entries numbered, and lines are read until one of them makes a
choice: the number of an entry, a hotkey, or a whole description. Blank lines ask again, and so does
a line that means nothing, after a complaint. At the end of the input no choice is made.
-/

namespace BootTrial

open Text (Bytes)

/-- The lines of some octets, each with the line feed that ends it. -/
def inputLines : Bytes → List Bytes
  | [] => []
  | b :: rest =>
    if b = Table.lineFeed then [b] :: inputLines rest
    else
      match inputLines rest with
      | [] => [[b]]
      | line :: more => (b :: line) :: more

namespace Menu

/-- The entry with a number, counted from 1. -/
def numbered? (menu : Menu) (text : String) : Option Menu.Entry :=
  match Text.count? text with
  | some (n + 1) => menu.entries[n]?
  | _ => none

/-- The entry that a line from the operator means. -/
def pick? (menu : Menu) (text : String) : Option Menu.Entry :=
  (menu.numbered? text).or (menu.choice? text)

/-- The number of an entry, at least two characters wide. -/
def numberText (n : Nat) : String :=
  if n < 10 then " " ++ toString n else toString n

/-- The lines for the entries from number `n` on. -/
def entryLines (color : Bool) (n : Nat) : List String → String
  | [] => ""
  | description :: rest =>
    "  " ++ numberText n ++ ") " ++ highlight color description ++ "\n"
      ++ entryLines color (n + 1) rest

/-- The menu as it is written out. -/
def shown (color : Bool) (title : String) (menu : Menu) : String :=
  "\n" ++ Text.styled color .bold title ++ "\n" ++ entryLines color 1 menu.descriptions

end Menu

/-- What an exchange with the operator comes to. -/
structure Exchange where
  /-- What has been written. -/
  output : String
  /-- The description chosen, if one was, or why no line could be read. -/
  choice : Except FileFault (Option String)
  /-- The lines that have not been read. -/
  rest : List Bytes

/-- The question in front of each line. -/
def promptText (color : Bool) : String :=
  Text.styled color .cyan "Choice:" ++ " "

/-- The complaint about a line that means nothing. -/
def complaint (color : Bool) (line : String) : String :=
  Text.styled color .red "Unknown choice:" ++ " " ++ line ++ "\n"

/-- The exchange with something written in front. -/
def Exchange.after (before : String) (exchange : Exchange) : Exchange :=
  { exchange with output := before ++ exchange.output }

/-- Reads lines until one makes a choice. -/
def converse (color : Bool) (menu : Menu) : List Bytes → Exchange
  | [] => ⟨promptText color, .ok none, []⟩
  | line :: rest =>
    match Text.decode? line with
    | none => ⟨promptText color, .error .notText, rest⟩
    | some raw =>
      let text := Text.trim raw
      if text = "" then (converse color menu rest).after (promptText color)
      else
        match menu.pick? text with
        | some entry => ⟨promptText color, .ok (some entry.description), rest⟩
        | none =>
          (converse color menu rest).after (promptText color ++ complaint color text)

/-- The operator who types lines. -/
def Operator.prompt : Operator where
  choose title menu := do
    let bench ← get
    let exchange := converse bench.color menu (inputLines bench.readable)
    Bench.useInput (bench.readable.length - exchange.rest.flatten.length)
    Bench.write .menu (menu.shown bench.color title ++ exchange.output)
    match exchange.choice with
    | .ok choice => return choice
    | .error fault => throw (.ofFault fault)

end BootTrial
