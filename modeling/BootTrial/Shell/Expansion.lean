import BootTrial.Shell.Arithmetic
import BootTrial.Shell.Fields

/-!
# What words stand for

The values of parameters and of arithmetic expressions, the output of commands, and how they replace
the pieces of a word. Commands are carried out by a function that is given as an argument.
-/

namespace BootTrial.Shell

/-- Carries out a command and gives its output. -/
abbrev Capture := Command → Act String

/-- The letters of the options, in the order in which they are shown. -/
def optionLetters : List Char :=
  "ubaCEVvxsnmiIfe".toList

/-- The value of a parameter that is not a list of parameters. -/
def Shell.parameter? (shell : Shell) (name : String) : Option String :=
  match name with
  | "?" => some (toString shell.status)
  | "#" => some (toString shell.params.length)
  | "$" => some (toString shell.process)
  | "!" => shell.lastJob.map toString
  | "-" => some (String.ofList (optionLetters.filter shell.options.contains))
  | "0" => some shell.name
  | _ =>
    match name.toNat? with
    | some n => shell.params[n - 1]?
    | none => shell.value? name

/-- The parts that a value becomes. -/
def valueCells (quoted : Bool) (value : String) : List Cell :=
  (if quoted then [.mark] else []) ++ value.toList.map fun c => .char c quoted (!quoted)

/-- The parts that a word in the place of a value becomes: between blanks it may be split. -/
def Cell.asValue (quoted : Bool) : Cell → Cell
  | .char c wasQuoted splits => .char c wasQuoted (splits || !(quoted || wasQuoted))
  | cell => cell

/-- What joins parameters that become one text. -/
def Shell.joiner (shell : Shell) : String :=
  String.ofList (shell.splitters.take 1)

namespace Act

/-- The value of an arithmetic expression that is spelled by a text. -/
def valueOfSum (text : String) : Sum → Act Int
  | .number n => return n
  | .variableValue name => do
    match valueOf? (((← shell).value? name).getD "") with
    | some n => return n
    | none => fail ("Illegal number: " ++ ((← shell).value? name).getD "")
  | .signed sign operand => return sign.value (← valueOfSum text operand)
  | .binary operator first second => do
    let a ← valueOfSum text first
    let b ← valueOfSum text second
    match operator.value? a b with
    | some n => return n
    | none => fail ("arithmetic expression: division by zero: \"" ++ text ++ "\"")
  | .both first second => do
    if (← valueOfSum text first) = 0 then return 0
    return truth ((← valueOfSum text second) ≠ 0)
  | .either first second => do
    if (← valueOfSum text first) ≠ 0 then return 1
    return truth ((← valueOfSum text second) ≠ 0)
  | .choice condition success failure => do
    if (← valueOfSum text condition) ≠ 0 then valueOfSum text success else valueOfSum text failure
  | .assign name operator value => do
    let new ← valueOfSum text value
    let result ← match operator with
      | none => pure new
      | some operator => do
        match operator.value? (← valueOfSum text (.variableValue name)) new with
        | some n => pure n
        | none => fail ("arithmetic expression: division by zero: \"" ++ text ++ "\"")
    setVariable name (toString result)
    return result

/-- The value of an arithmetic expression. -/
def arithmetic (text : String) : Act Int :=
  match sumOf text with
  | .ok sum => valueOfSum text sum
  | .error message => fail ("arithmetic expression: " ++ message ++ ": \"" ++ text ++ "\"")

/-- The home directory for a tilde at the front of a word, and the pieces without it. -/
def tilde (endsAtColon : Bool) (word : Word) : Act (List Cell × Word) := do
  match word with
  | .text ('~' :: cs) false :: rest =>
    let ends (c : Char) : Bool := c = '/' || (endsAtColon && c = ':')
    if (cs.head?.map ends).getD rest.isEmpty then
      match (← shell).value? "HOME" with
      | some home => return (valueCells true home, .text cs false :: rest)
      | none => return ([], word)
    else return ([], word)
  | _ => return ([], word)

/-- The parts that the parameters become. -/
def parameterCells (star quoted splits : Bool) : Act (List Cell) := do
  let shell ← shell
  if !splits || (star && quoted) then
    return valueCells quoted (shell.joiner.intercalate shell.params)
  return [Cell.gap].intercalate (shell.params.map (valueCells quoted))

/-- Whether a parameter has a value, or one that is not empty. -/
def hasValue (nullToo : Bool) (name : String) : Act Bool := do
  let shell ← shell
  if name = "@" || name = "*" then return !nullToo || shell.params.any (· ≠ "")
  match shell.parameter? name with
  | none => return false
  | some value => return !(nullToo && value = "")

/-- The parts that the value of a parameter becomes. -/
def plainCells (name : String) (quoted splits : Bool) : Act (List Cell) := do
  if name = "@" || name = "*" then parameterCells (name = "*") quoted splits
  else
    match (← shell).parameter? name with
    | some value => return valueCells quoted value
    | none =>
      if ← hasOption 'u' then fail (name ++ ": parameter not set")
      return valueCells quoted ""

/-- The value of a parameter as one text. -/
def plainText (name : String) : Act String := do
  return textOf (unsplit (← plainCells name true false))

/-- What is made of a parameter; `cells` gives the parts that a word becomes. -/
def useCells (cells : Word → Act (List Cell)) (name : String) (use : Use)
    (quoted splits : Bool) : Act (List Cell) := do
  let inPlace (word : Word) : Act (List Cell) := do
    let parts := (← cells word).map (Cell.asValue quoted)
    return if quoted then .mark :: parts else parts
  let text (word : Word) : Act String := do return textOf (unsplit (← cells word))
  match use with
  | .value => plainCells name quoted splits
  | .length => do return valueCells quoted (toString (← plainText name).length)
  | .orElse nullToo word =>
    if ← hasValue nullToo name then plainCells name quoted splits else inPlace word
  | .orAssign nullToo word =>
    if ← hasValue nullToo name then plainCells name quoted splits
    else
      let value ← text word
      if !isName name.toList then fail (name ++ ": bad variable name")
      setVariable name value
      return valueCells quoted value
  | .orFail nullToo message =>
    if ← hasValue nullToo name then plainCells name quoted splits
    else
      let said ← text message
      if !message.isEmpty then fail (name ++ ": " ++ said)
      fail (name ++ ": parameter not set" ++ if nullToo then " or null" else "")
  | .inPlace nullToo word =>
    if ← hasValue nullToo name then inPlace word
    else return if quoted then [.mark] else []
  | .without atEnd longest pattern =>
    let value ← plainText name
    let pattern := unsplit (← cells pattern)
    return valueCells quoted (String.ofList (trimmed atEnd longest pattern value.toList))
  | .unknown => fail "Bad substitution"

/-- The parts that a piece becomes; `cells` gives those that an inner word becomes. -/
def pieceCells (capture : Capture) (cells : Word → Act (List Cell)) (splits : Bool) :
    Piece → Act (List Cell)
  | .text cs quoted =>
    return (if quoted then [.mark] else []) ++ cs.map fun c => .char c quoted false
  | .parameter name use quoted => useCells cells name use quoted splits
  | .output command quoted => do return valueCells quoted (← capture command)
  | .sum expression quoted => do
    let text := textOf (unsplit (← cells expression))
    return valueCells quoted (toString (← arithmetic text))

/-- The parts that pieces become, one after the other. -/
def cellsOf (cells : Piece → Act (List Cell)) : Word → Act (List Cell)
  | [] => return []
  | piece :: rest => do
    let first ← cells piece
    return first ++ (← cellsOf cells rest)

/-- The parts that a word becomes, where words may stand within words to a depth of `n`. -/
def wordCells (capture : Capture) : Nat → (splits : Bool) → Word → Act (List Cell)
  | 0, _, _ => throw .exhausted
  | n + 1, splits, word => do
    let (front, word) ← tilde false word
    let inner := wordCells capture n splits
    return front ++ (← cellsOf (pieceCells capture inner splits) word)

/-- The fields that a word becomes. -/
def fields (capture : Capture) (n : Nat) (word : Word) : Act (List String) := do
  let cells ← wordCells capture n true word
  namedBy (splitFields (← shell).splitters cells)

/-- The characters that a word becomes as a pattern. -/
def patternOf (capture : Capture) (n : Nat) (word : Word) : Act (List PatternChar) := do
  return unsplit (← wordCells capture n false word)

/-- The text that a word becomes where it is not split. -/
def text (capture : Capture) (n : Nat) (word : Word) : Act String := do
  return textOf (← patternOf capture n word)

/-- The pieces of a value that is assigned, with the texts between its colons apart. -/
def atColons : Word → List Word
  | [] => [[]]
  | .text cs false :: rest =>
    let parts := cs.splitBy fun a _ => a ≠ ':'
    match parts.reverse with
    | [] => atColons rest
    | last :: front =>
      let before := front.reverse.map fun part => [Piece.text part false]
      match atColons rest with
      | next :: more =>
        if last.getLast? = some ':' then before ++ [.text last false] :: next :: more
        else before ++ (.text last false :: next) :: more
      | [] => before ++ [[.text last false]]
  | piece :: rest =>
    match atColons rest with
    | next :: more => (piece :: next) :: more
    | [] => [[piece]]

/-- The text that a value becomes which is assigned: a tilde may stand behind each colon. -/
def assignedText (capture : Capture) (n : Nat) (word : Word) : Act String := do
  let parts ← (atColons word).mapM fun part => do
    let (front, part) ← tilde true part
    return textOf (unsplit front) ++ (← text capture n part)
  return String.join parts

end Act

end BootTrial.Shell
