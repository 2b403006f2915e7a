import BootTrial.Toml.Number
import BootTrial.Toml.Value

/-!
# The settings file as a whole

Lines that give values to keys, and headers that open tables. `read?` gives the table that a text
describes, or nothing if it is no settings file.
-/

namespace BootTrial.Toml

open Reader

/-- Takes the values between square brackets. A comma may stand behind the last of them. -/
def array (value : Reader Value) : Reader Value := do
  char '['
  let item : Reader Value := do
    filler
    let inner ← value
    filler
    return inner
  let items ← optional do
    let items ← separated item (char ',')
    let _ ← optional (char ',')
    return items
  filler
  char ']'
  return .array (items.getD [])

/-- Takes a key with its value, and puts them into a table. -/
def inlineEntry (value : Reader Value) : Reader (List String × String × Value) := do
  let (path, name) ← dottedKey
  char '='
  gap
  let inner ← value
  gap
  return (path, name, inner)

/-- Takes the table between braces. -/
def inlineTable (value : Reader Value) : Reader Value := do
  char '\x7b'
  let items ← optional (separated (inlineEntry value) (char ','))
  gap
  char '\x7d'
  let entries : Option Entries := (items.getD []).foldlM (fun entries (path, name, inner) =>
    entries.insertAt path name inner) []
  match entries with
  | some entries => return .table .braces entries
  | none => failure

/-- Takes a value of the kinds that hold no others. -/
def scalar : Reader Value :=
  (do return .string (← text))
    <|> (do chars "true".toList; return .boolean true)
    <|> (do chars "false".toList; return .boolean false)
    <|> (do moment; return .moment)
    <|> (do floatingPoint <|> special; return .number)
    <|> (do integer; return .number)

/-- Takes a value that holds at most `depth` brackets or braces within each other. -/
def value : Nat → Reader Value
  | 0 => scalar
  | depth + 1 => array (value depth) <|> inlineTable (value depth) <|> scalar

/-- What has been read so far: the entries, and the table to which the next keys belong. -/
structure Progress where
  /-- The entries of the whole file. -/
  entries : Entries := []
  /-- The names that lead to the open table. -/
  current : List String := []

/-- Puts a value into the open table. -/
def Progress.insert (path : List String) (name : String) (value : Value) (progress : Progress) :
    Option Progress :=
  (within false (fun _ inner => inner.insertAt path name value) progress.current .header
    progress.entries).map fun entries => { progress with entries }

/-- A line: what it changes. -/
abbrev Change := Progress → Option Progress

/-- Takes a line that gives a value to a key. -/
def keyLine : Reader Change := do
  let (path, name) ← dottedKey
  char '='
  gap
  let inner ← value (depthLimit - 1)
  trailing
  return Progress.insert path name inner

/-- Takes a header that opens a table. -/
def headerLine : Reader Change := do
  char '['
  let (path, name) ← dottedKey
  char ']'
  trailing
  return fun progress => (progress.entries.openTable path name).map fun entries =>
    ⟨entries, path ++ [name]⟩

/-- Takes a header that opens one more table of a row. -/
def repeatedHeaderLine : Reader Change := do
  chars ['[', '[']
  let (path, name) ← dottedKey
  chars [']', ']']
  trailing
  return fun progress => (progress.entries.openNext path name).map fun entries =>
    ⟨entries, path ++ [name]⟩

/-- Takes a line without effect. -/
def emptyLine : Reader Change := do
  newline <|> (do comment; lineEnd)
  return some

/-- Takes a line, with the blanks in front. -/
def line : Reader Change := do
  gap
  emptyLine <|> repeatedHeaderLine <|> headerLine <|> keyLine

/-- Takes a whole file. A byte order mark may stand in front. -/
def document : Reader (List Change) := do
  let _ ← optional (char '\uFEFF')
  let changes ← repeated line
  gap
  atEnd
  return changes

/-- The entries of the table that a text describes. -/
def read? (s : String) : Option Entries :=
  match document s.toList with
  | none => none
  | some (changes, _) =>
    (changes.foldlM (fun (progress : Progress) (change : Change) => change progress) {}).map
      (·.entries)

end BootTrial.Toml
