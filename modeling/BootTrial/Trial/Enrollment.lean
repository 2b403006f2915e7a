import BootTrial.Response.Menu
import BootTrial.Trial.Directory

/-!
# Enrollment

A batch of tests, one for each row of a template's scenario table. It is put together in the staging
directory and then takes the place of the pending root in one step, so the pending root holds the
whole batch or nothing of it. No batch is enrolled while tests are waiting.
-/

namespace BootTrial

/-- The front of the names that belong to a test: its ordinal and its template. -/
def logPrefix (ordinal : Nat) (template : String) : String :=
  toString ordinal ++ "-" ++ template

/-- The name of the directory of a test that waits. -/
def pendingName (ordinal : Nat) (template : String) (scenario : Scenario) : String :=
  logPrefix ordinal template ++ separator ++ scenario.fragment

namespace Workspace

/-- Makes the directory of one test in the staging directory and gives its name. -/
def stageTest (workspace : Workspace) (template : String) (header : List String)
    (ordinal : Nat) (row : Except Error Scenario) : Work String := do
  let scenario ← Work.ofExcept row
  let name := pendingName ordinal template scenario
  let directory := workspace.staging.join name
  (FileWork.makeDir directory).reportedAs .ofFault
  scenario.write (directory.join scenarioName) header
  let front := Text.encode (logPrefix ordinal template)
  (FileWork.writeFile (directory.join prefixName) front).reportedAs .ofFault
  return name

/-- Makes the directories of a batch in the staging directory, numbered from `ordinal` on, and gives
their names. -/
def stageFrom (workspace : Workspace) (template : String) (header : List String) (ordinal : Nat) :
    List (Except Error Scenario) → Work (List String)
  | [] => return []
  | row :: rest => do
    let name ← workspace.stageTest template header ordinal row
    return name :: (← workspace.stageFrom template header (ordinal + 1) rest)

/-- Makes an empty staging directory. What an earlier batch has left there goes. -/
def clearStaging (workspace : Workspace) : Work Unit := do
  if (← get).hasEntry workspace.staging then
    (FileWork.removeTree workspace.staging).reportedAs .ofFault
  (FileWork.makeDirs workspace.staging).reportedAs .ofFault

/-- Makes the directories of a batch in the staging directory, or takes the staging directory down
again. -/
def stage (workspace : Workspace) (template : String) (header : List String)
    (rows : List (Except Error Scenario)) : Work (List String) := do
  match ← (workspace.stageFrom template header 1 rows).outcome with
  | .ok names => return names
  | .error failure =>
    let _ ← (FileWork.removeTree workspace.staging).outcome
    throw failure

/-- Puts the staging directory in the place of the pending root, which is empty. -/
def publish (workspace : Workspace) : Work Unit := do
  if (← get).hasEntry workspace.pending then
    (FileWork.take (FileStep.removeDir workspace.pending)).reportedAs .ofFault
  (FileWork.rename workspace.staging workspace.pending).reportedAs .ofFault

/-- Enrolls a batch and gives the directories of its tests. -/
def enrollRows (workspace : Workspace) (template : String) (header : List String)
    (rows : List (Except Error Scenario)) : Work (List Path) := do
  if ← isOccupied workspace.pending then throw (.pendingTests workspace.pending)
  workspace.clearStaging
  let names ← workspace.stage template header rows
  workspace.publish
  return names.map workspace.pending.join

end Workspace

/-- Enrolls the template that the settings name. Its responses are compiled first, for either boot a
test may be in, so that a fault in them shows before there is any test. -/
def enroll (settings : Settings) : Work (List Path) := do
  settings.requireTemplate
  let workspace := settings.workspace
  let scenarios := workspace.scenarios settings.template
  let responses := workspace.responses settings.template
  if !(← get).hasFile scenarios then throw (.missingTemplate settings.template scenarios)
  if (← get).hasFile responses then
    let _ ← Menu.ofFile responses (.ofBoot true) scenarios
    let _ ← Menu.ofFile responses (.ofBoot false) scenarios
  let table ← ScenarioTable.read scenarios
  workspace.enrollRows settings.template table.header table.rows

end BootTrial
