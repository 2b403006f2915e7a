import BootTrial.Bench.Files
import BootTrial.Scenario.Record
import BootTrial.Table.Reader

/-!
# Scenario files

Reading and writing scenario tables. The header of a table is part of the setup of a batch, so the
bench remembers the first header it sees at a place, and a file whose header has changed since
counts as malformed. Places, not paths, are remembered: two spellings of one path share their
header.

A row is written to a neighbour of the file, which then takes the place of the file in one step.
-/

namespace BootTrial

open Text (Bytes)

namespace HeaderCache

/-- The header remembered for a place. -/
def get? (cache : HeaderCache) (place : Place) : Option (List String) :=
  cache.lookup place

/-- The cache with `header` remembered for a place, in the place of what was. -/
def insert (cache : HeaderCache) (place : Place) (header : List String) : HeaderCache :=
  (place, header) :: cache.filter (·.1 ≠ place)

/-- A header that has been remembered for a place is found there. -/
@[simp] theorem get?_insert_self (cache : HeaderCache) (place : Place) (header : List String) :
    (cache.insert place header).get? place = some header := by
  simp [get?, insert]

/-- Remembering a header for a place leaves the other places alone. -/
theorem get?_insert_of_ne {place other : Place} (h : other ≠ place) (cache : HeaderCache)
    (header : List String) : (cache.insert place header).get? other = cache.get? other := by
  have hb : (other == place) = false := by simpa using h
  simp only [get?, insert, List.lookup_cons, hb]
  induction cache with
  | nil => rfl
  | cons entry rest ih =>
    obtain ⟨first, old⟩ := entry
    by_cases h' : first = place
    · have hf : (other == first) = false := by simpa [h'] using h
      rw [List.filter_cons_of_neg (by simp [h']), ih, List.lookup_cons, hf]
    · rw [List.filter_cons_of_pos (by simp [h']), List.lookup_cons, List.lookup_cons, ih]

end HeaderCache

/-- A scenario table as it was read: its header, and each row or what is wrong with it. -/
structure ScenarioTable where
  /-- The names of the columns. -/
  header : List String
  /-- The rows. -/
  rows : List (Except Error Scenario)

namespace ScenarioTable

/-- The words for a list of names. -/
def bracketed (names : List String) : String :=
  "[" ++ ", ".intercalate names ++ "]"

/-- Whether a header names no column. -/
def isBlankHeader (header : List String) : Bool :=
  header.all (· = "")

/-- The failure to read the scenario file at `path` as a table. -/
def malformed (path : Path) (fault : Table.Fault) : Error :=
  .malformedScenario path fault.message

/-- The table in a file with the given content. -/
def ofBytes (path : Path) (content : Bytes) : Except Error ScenarioTable :=
  match Table.header content with
  | .error fault => .error (malformed path fault)
  | .ok header =>
    if isBlankHeader header then .error (.malformedScenario path "missing header row")
    else .ok ⟨header, (Table.rows content).map fun row =>
      match row.texts with
      | .ok texts => .ok (Scenario.ofRow header texts)
      | .error fault => .error (malformed path fault)⟩

/-- Remembers the header of the table at a place, unless another is remembered for it. -/
def checkHeader (path : Path) (place : Place) (header : List String) : Work Unit := do
  let cache := (← get).headers
  match cache.get? place with
  | some known =>
    if known = header then pure ()
    else
      throw (.malformedScenario path
        ("header changed from " ++ bracketed known ++ " to " ++ bracketed header))
  | none => modify fun bench => { bench with headers := cache.insert place header }

/-- Reads the table at `path`. -/
def read (path : Path) : Work ScenarioTable := do
  let place ← (FileWork.look (·.placeAt path)).reportedAs (.unreadable path)
  let content ← (FileWork.look (·.bytesAt path)).reportedAs .ofTableFault
  let table ← Work.ofExcept (ofBytes path content)
  checkHeader path place table.header
  return table

/-- The header of the table at `path`, from memory where it is known. -/
def headerAt (path : Path) : Work (List String) := do
  let place ← (FileWork.look (·.placeAt path)).reportedAs (.unreadable path)
  match (← get).headers.get? place with
  | some known => return known
  | none => return (← read path).header

/-- Checks that the table at `path` has a column. -/
def requireColumn (path : Path) (column : String) : Work Unit := do
  if (← headerAt path).contains column then pure () else throw (.unknownColumn column path)

/-- The only row of a table. Further rows are a failure unless they are tolerated. -/
def onlyRow (path : Path) (tolerant : Bool) : List (Except Error Scenario) → Except Error Scenario
  | [] => .error (.malformedScenario path "no scenario row")
  | .error failure :: _ => .error failure
  | [.ok scenario] => .ok scenario
  | .ok scenario :: _ :: _ => if tolerant then .ok scenario else .error (.multipleScenarios path)

end ScenarioTable

namespace Scenario

/-- Reads the only row of the table at `path`, placeholders included. -/
def read (path : Path) (tolerant : Bool) : Work Scenario := do
  let table ← ScenarioTable.read path
  Work.ofExcept (ScenarioTable.onlyRow path tolerant table.rows)

/-- Reads the only row of the table at `path`, without its placeholders. -/
def readConcrete (path : Path) (tolerant : Bool) : Work Scenario := do
  return (← read path tolerant).concrete

/-- Checks that a record has just the names of a header, in this order. -/
def checkNames (path : Path) (header : List String) (record : Scenario) : Except Error Unit :=
  if record.names = header then .ok ()
  else
    .error (.schema path
      ("record fields " ++ ScenarioTable.bracketed record.names ++ " do not match header "
        ++ ScenarioTable.bracketed header))

/-- Checks that no other header is remembered for the file at `path`. -/
def checkKnownHeader (path : Path) (header : List String) (bench : Bench) : Except Error Unit :=
  match bench.placeAt path with
  | .error _ => .ok ()
  | .ok place =>
    match bench.headers.get? place with
    | none => .ok ()
    | some known =>
      if known = header then .ok ()
      else
        .error (.schema path
          ("header " ++ ScenarioTable.bracketed header ++ " differs from existing header "
            ++ ScenarioTable.bracketed known))

/-- The name of the file that is written first and then takes the place of the file `name`. -/
def draftName (name : String) : String :=
  "." ++ name ++ ".tmp"

/-- The octets of a table with one row. -/
def tableBytes (header : List String) (record : Scenario) : Bytes :=
  Table.write [header, record.values]

/-- Puts a table with one row in the place of the file at `path`. The record has to have just the
names of the header. -/
def write (path : Path) (header : List String) (record : Scenario) : Work Unit := do
  Work.ofExcept (record.checkNames path header)
  Work.ofExcept (checkKnownHeader path header (← get))
  match path.fileName? with
  | none => throw (.internal ("Not a file path: " ++ path.text))
  | some name =>
    let draft := path.sibling (draftName name)
    (FileWork.take (FileStep.createFile draft)).reportedAs .ofTableFault
    (FileWork.take (FileStep.fillFile draft (record.tableBytes header))).reportedAs .ofFault
    (FileWork.rename draft path).reportedAs .ofFault
    let place ← (FileWork.look (·.placeAt path)).reportedAs (.unreadable path)
    modify fun bench => { bench with headers := bench.headers.insert place header }

end Scenario

end BootTrial
