import BootTrial.Shell.Channels
import BootTrial.Shell.Pattern

/-!
# Fields

How what a word has come to falls into fields, and how a field that is a pattern is replaced by the
paths that it matches. Quotes keep characters from both.
-/

namespace BootTrial.Shell

/-- A part of what a word has come to. -/
inductive Cell where
  /-- A character, whether it was quoted, and whether a word may be split at it. -/
  | char (c : Char) (quoted splits : Bool)
  /-- The end of one of several parameters. -/
  | gap
  /-- Nothing, but in quotes. -/
  | mark
  deriving DecidableEq, Repr

/-- Where the splitting of a word stands. -/
inductive SplitMode where
  /-- At the front of the word, or behind a gap. -/
  | start
  /-- Within a field. -/
  | inside
  /-- Behind a blank that has ended a field. -/
  | behindBlank
  /-- Behind a mark that has ended a field. -/
  | behindMark
  deriving DecidableEq, Repr

/-- The fields of the parts of a word, the present one being `field`. -/
def splitFrom (splitters : List Char) (mode : SplitMode) (field : List PatternChar) :
    List Cell → List (List PatternChar)
  | [] => if mode = .inside then [field] else []
  | .gap :: rest =>
    (if mode = .inside then [field] else []) ++ splitFrom splitters .start [] rest
  | .mark :: rest => splitFrom splitters .inside field rest
  | .char c quoted splits :: rest =>
    if splits && splitters.contains c then
      if c = ' ' || c = '\t' || c = '\n' then
        if mode = .inside then field :: splitFrom splitters .behindBlank [] rest
        else splitFrom splitters mode [] rest
      else if mode = .behindBlank then splitFrom splitters .behindMark [] rest
      else field :: splitFrom splitters .behindMark [] rest
    else splitFrom splitters .inside (field ++ [(c, quoted)]) rest

/-- The fields of the parts of a word. -/
def splitFields (splitters : List Char) (cells : List Cell) : List (List PatternChar) :=
  splitFrom splitters .start [] cells

/-- The characters of a word that is not split. -/
def unsplit (cells : List Cell) : List PatternChar :=
  cells.filterMap fun
    | .char c quoted _ => some (c, quoted)
    | .gap => some (' ', true)
    | .mark => none

/-- The text of some characters. -/
def textOf (chars : List PatternChar) : String :=
  String.ofList (chars.map (·.1))

/-- The parts of a pattern between its slashes. -/
def componentsOf (pattern : List PatternChar) : List (List PatternChar) :=
  pattern.splitBy (fun a b => a.1 ≠ '/' && b.1 ≠ '/') |>.filter (· ≠ [])

/-- The names in the directory that a text leads to, with those that every directory has. -/
def namesAt (files : Node) (here : Place) (text : String) : List String :=
  match (Act.path? text).map fun (path : Path) => path.node files here with
  | some (.ok (.dir entries)) => [".", ".."] ++ entries.map fun entry => Text.inOctets entry.1
  | _ => []

/-- Whether a text leads to something. -/
def leadsSomewhere (files : Node) (here : Place) (text : String) : Bool :=
  ((Act.path? text).map fun path => (path.node files here).isOk).getD false

/-- The paths that the components of a pattern match, each behind one of some fronts. Slashes are
components of their own. -/
def pathsFrom (files : Node) (here : Place) (front : String) :
    List (List PatternChar) → List String
  | [] => if leadsSomewhere files here front then [front] else []
  | component :: rest =>
    if component.any isPatternMark then
      let showsHidden := component.head?.map (·.1) = some '.'
      let names := (namesAt files here (if front = "" then "." else front)).filter fun name =>
        (showsHidden || name.toList.head? ≠ some '.') && patternMatches component name.toList
      names.flatMap fun name => pathsFrom files here (front ++ name) rest
    else pathsFrom files here (front ++ textOf component) rest

/-- The paths that a pattern matches, in order. -/
def pathsMatching (files : Node) (here : Place) (pattern : List PatternChar) : List String :=
  (pathsFrom files here "" (componentsOf pattern)).mergeSort fun a b => !decide (b < a)

/-- The texts that fields stand for: a pattern for the paths that it matches, if there are any. -/
def Act.namedBy (fields : List (List PatternChar)) : Act (List String) := do
  let context ← get
  if context.shell.options.contains 'f' then return fields.map textOf
  return fields.flatMap fun field =>
    if field.any isPatternMark then
      let paths := pathsMatching context.bench.files context.shell.here field
      if paths.isEmpty then [textOf field] else paths
    else [textOf field]

end BootTrial.Shell
