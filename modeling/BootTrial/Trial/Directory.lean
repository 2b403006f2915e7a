import BootTrial.Text.Count
import BootTrial.Workspace

/-!
# Directories of tests

The name of a test directory begins with its ordinal in its batch and the template, and shows the
concrete fields of its scenario. When the test is claimed, the id of the boot it is bound to is
added at the end. Two hyphens stand between these parts.

Two small files in the directory hold the boot id and the front of the names of the logs. Where one
is lost, the name of the directory still has what it held.
-/

namespace BootTrial

/-- What stands between the parts of the name of a test directory. -/
def separator : String := "--"

/-- The characters in front of the first separator. -/
def beforeSeparator : List Char → List Char
  | '-' :: '-' :: _ => []
  | c :: rest => c :: beforeSeparator rest
  | [] => []

/-- The characters behind the last separator. -/
def afterSeparator? : List Char → Option (List Char)
  | [] => none
  | c :: rest =>
    match afterSeparator? rest with
    | some tail => some tail
    | none =>
      match c, rest with
      | '-', '-' :: tail => some tail
      | _, _ => none

/-- The ordinal at the front of the name of a test directory, up to the first hyphen. -/
def ordinal? (name : String) : Option Nat :=
  if name.toList.contains '-' then
    Text.count? (String.ofList (name.toList.takeWhile (· ≠ '-')))
  else none

/-- The ordinal by which a test is put in order. A name without one counts as the last. -/
def sortOrdinal (name : String) : Nat :=
  (ordinal? name).getD (Text.countLimit - 1)

/-- Whether a test goes before another: by ordinal, then by name. -/
def precedes (name other : String) : Bool :=
  sortOrdinal name < sortOrdinal other
    || (sortOrdinal name = sortOrdinal other && !(decide (other < name)))

/-- The name of the directory of a test. -/
def directoryName (path : Path) : Except Error String :=
  match path.fileName? with
  | some name => .ok name
  | none => .error (.internal ("Not a test directory: " ++ path.text))

/-- Whether anything lies in a root. A missing root is empty. -/
def isOccupied (root : Path) : Work Bool := do
  match ← (FileWork.look (·.entriesAt root)).outcome with
  | .ok entries => return !entries.isEmpty
  | .error .notFound => return false
  | .error fault => throw (.ofFault fault)

/-- The names of the directories among some entries, in order. -/
def testNames (entries : List (String × Node)) : List String :=
  ((entries.filter (·.2.isDir)).map (·.1)).mergeSort precedes

/-- The test directories in a root, in order. -/
def testsIn (root : Path) : Work (List Path) := do
  match ← (FileWork.look (·.entriesAt root)).outcome with
  | .ok entries => return (testNames entries).map root.join
  | .error .notFound => return []
  | .error fault => throw (.ofFault fault)

/-- Writes the boot id of a test into its directory. -/
def bindTo (directory : Path) (boot : BootId) : Work Unit :=
  (FileWork.writeFile (directory.join bootIdName) (Text.encode boot.text)).reportedAs .ofFault

/-- The boot id at the end of the name of a test directory. -/
def bootOfName? (name : String) : Option BootId :=
  (afterSeparator? name.toList).bind fun tail => BootId.parse? (String.ofList tail)

/-- The boot id that the file for it holds. -/
def storedBoot (directory : Path) : Work (Option BootId) := do
  let path := directory.join bootIdName
  match ← (FileWork.look (·.textAt path)).outcome with
  | .ok raw => return BootId.parse? raw
  | .error .notFound => return none
  | .error fault => throw (.unreadable path fault)

/-- The boot that a test is bound to. An id that has to be taken from the name is written back. -/
def boundBoot (directory : Path) : Work BootId := do
  match ← storedBoot directory with
  | some boot => return boot
  | none =>
    let name ← Work.ofExcept (directoryName directory)
    match bootOfName? name with
    | none => throw (.missingBootId directory)
    | some boot =>
      bindTo directory boot
      return boot

/-- The front of the names of a test's logs that the file for it holds. -/
def storedFront (directory : Path) : Work (Option String) := do
  let path := directory.join prefixName
  match ← (FileWork.look (·.textAt path)).outcome with
  | .ok raw => return if Text.trim raw = "" then none else some (Text.trim raw)
  | .error .notFound => return none
  | .error fault => throw (.unreadable path fault)

/-- The front of the names of a test's logs: what the file for it holds, or the first part of the
name of the directory. -/
def logFrontOf (directory : Path) : Work String := do
  match ← storedFront directory with
  | some stored => return stored
  | none =>
    let name ← Work.ofExcept (directoryName directory)
    return String.ofList (beforeSeparator name.toList)

end BootTrial
