import BootTrial.Trial.Directory
import BootTrial.Scenario.Table
import BootTrial.Text.Quoted

/-!
# The report

The scenarios of all completed tests as one table. It has the concrete columns of the template and
the columns that the settings add, which stay empty for the operator to fill in. The table is
written as a Markdown table whose columns are as wide as they need to be. A text can be padded only
so far: the writing of a table that needs a wider column breaks off, and so does the program.
-/

namespace BootTrial

/-- A table of texts. -/
structure Report where
  /-- The names of the columns. -/
  headers : List String
  /-- The cells, row by row. -/
  rows : List (List String)
  deriving DecidableEq, Repr

namespace Report

/-- The names with those of `extra` behind them that are not there yet. -/
def addNames (names : List String) : List String → List String
  | [] => names
  | extra :: rest => addNames (if names.contains extra then names else names ++ [extra]) rest

/-- The columns of a report. -/
def columns (header extra : List String) : List String :=
  addNames (header.filter isConcrete) extra

/-- The row of a scenario under some columns. -/
def rowOf (columns : List String) (scenario : Scenario) : List String :=
  let concrete := scenario.concrete
  columns.map fun name => (concrete.get? name).getD ""

/-- The rows of a table under some columns, or the first failure. -/
def rowsOf (columns : List String) (rows : List (Except Error Scenario)) :
    Except Error (List (List String)) :=
  rows.mapM fun row => row.map (rowOf columns)

/-- The rows of the completed tests in some directories. A directory without a scenario is passed
over, and one with another header than the template is a failure. -/
def rowsOfTests (header columns : List String) : List Path → Work (List (List String))
  | [] => return []
  | directory :: rest => do
    let file := directory.join scenarioName
    if !(← get).hasFile file then rowsOfTests header columns rest
    else
      let table ← ScenarioTable.read file
      if table.header ≠ header then
        throw (.schema file
          ("header " ++ Text.quotedList table.header ++ " does not match template header "
            ++ Text.quotedList header))
      let rows ← Work.ofExcept (rowsOf columns table.rows)
      return rows ++ (← rowsOfTests header columns rest)

/-- The report with one empty row, if it has none. -/
def fill (columns : List String) (rows : List (List String)) : Report :=
  ⟨columns, if rows.isEmpty then [columns.map fun _ => ""] else rows⟩

/-- The report on the completed tests. -/
def ofResults (settings : Settings) : Work Report := do
  let workspace := settings.workspace
  let header ← ScenarioTable.headerAt (workspace.scenarios settings.template)
  let names := columns header settings.reportHeaders
  return fill names (← rowsOfTests header names (← testsIn workspace.results))

/-- The largest number in a list, or `least`. -/
def atLeast (least : Nat) (numbers : List Nat) : Nat :=
  numbers.foldl max least

/-- The width of column `index`: three, or what its name and its cells need. -/
def widthOf (rows : List (List String)) (index : Nat) (header : String) : Nat :=
  atLeast (max 3 header.length) (rows.filterMap fun row => row[index]?.map String.length)

/-- The widths of the columns. -/
def widths (report : Report) : List Nat :=
  report.headers.mapIdx fun index header => widthOf report.rows index header

/-- A text with blanks behind it up to a width. -/
def padded (width : Nat) (s : String) : String :=
  String.ofList (s.toList ++ List.replicate (width - s.length) ' ')

/-- A cell with its right border. -/
def cellText (width : Nat) (cell : String) : String :=
  " " ++ padded width cell ++ " |"

/-- A row of as many cells as there are widths. Missing cells are empty, and those beyond are not
shown. -/
def cellTexts : List Nat → List String → List String
  | [], _ => []
  | width :: widths, [] => cellText width "" :: cellTexts widths []
  | width :: widths, cell :: cells => cellText width cell :: cellTexts widths cells

/-- The line of a row. -/
def rowLine (widths : List Nat) (cells : List String) : String :=
  "|" ++ String.join (cellTexts widths cells) ++ "\n"

/-- The part of the line below the header that belongs to a column. -/
def ruleText (width : Nat) : String :=
  String.ofList (':' :: List.replicate (width + 1) '-' ++ ['|'])

/-- The line below the header. -/
def ruleLine (widths : List Nat) : String :=
  "|" ++ String.join (widths.map ruleText) ++ "\n"

/-- The report as a Markdown table. -/
def markdown (report : Report) : String :=
  rowLine report.widths report.headers ++ ruleLine report.widths
    ++ String.join (report.rows.map (rowLine report.widths))

/-- The widest column that a text can be padded to. -/
def widthLimit : Nat := 65535

/-- What is written of a report: the table, or nothing if it has a column that is too wide. -/
def markdown? (report : Report) : Option String :=
  if report.widths.all (· ≤ widthLimit) then some report.markdown else none

/-- How far the table of a report with such a column comes on a screen. -/
def begun (report : Report) : String :=
  "|" ++ String.join (cellTexts (report.widths.takeWhile (· ≤ widthLimit)) report.headers)

end Report

end BootTrial
