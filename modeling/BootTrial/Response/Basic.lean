import BootTrial.Bench.Files
import BootTrial.Table.Reader

/-!
# Response files

A response file is a table with one row for each action that a description stands for. The columns
`description` and `action` have to be there; `condition` and `params` may be missing, and other
columns are passed over.
-/

namespace BootTrial

open Text (Bytes)

/-- One row of a response file. -/
structure Response where
  /-- The entry of the menu that the row belongs to. -/
  description : String
  /-- The condition under which it applies. -/
  condition : String
  /-- The name of the action. -/
  action : String
  /-- The parameters of the action, in one line of words. -/
  params : String
  deriving DecidableEq, Repr

namespace Response

/-- The columns that are read. -/
def columns : List String :=
  ["description", "condition", "action", "params"]

/-- The columns that have to be there. -/
def requiredColumns : List String :=
  ["description", "action"]

/-- The first of the columns that are read which a header names again. `seen` holds the names in
front. -/
def repeatedFrom (seen : List String) : List String → Option String
  | [] => none
  | name :: rest =>
    if columns.contains name && seen.contains name then some name
    else repeatedFrom (name :: seen) rest

/-- The row under a header. What the header does not name is empty. -/
def ofTexts (header texts : List String) : Response :=
  let value (name : String) : String := ((header.zip texts).lookup name).getD ""
  ⟨value "description", value "condition", value "action", value "params"⟩

/-- The words for a column that a row would fill twice. -/
def repeatedMessage (start : Table.Position) (name : String) : String :=
  "CSV deserialize error: record " ++ toString start.record ++ " (line: " ++ toString start.line
    ++ ", byte: " ++ toString start.byte ++ "): duplicate field \x60" ++ name ++ "\x60"

/-- A row of a response file, or what is wrong with it. -/
def ofRow (header : List String) (row : Table.Row) : Except String Response :=
  match row.texts with
  | .error fault => .error fault.message
  | .ok texts =>
    match repeatedFrom [] header with
    | some name => .error (repeatedMessage row.start name)
    | none => .ok (ofTexts header texts)

/-- The rows of a file with the given content, or the first thing that is wrong with it. -/
def ofBytes (content : Bytes) : Except String (List Response) :=
  match Table.header content with
  | .error fault => .error fault.message
  | .ok header =>
    match requiredColumns.find? (!header.contains ·) with
    | some name => .error ("missing '" ++ name ++ "' column")
    | none => (Table.rows content).mapM (ofRow header)

/-- Reads the rows of the response file at `path`. -/
def readAll (path : Path) : Work (List Response) := do
  let content ← (FileWork.look (·.bytesAt path)).reportedAs fun fault =>
    .malformedResponses path fault.message
  match ofBytes content with
  | .ok rows => return rows
  | .error details => throw (.malformedResponses path details)

end Response

end BootTrial
