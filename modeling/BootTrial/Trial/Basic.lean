import BootTrial.Machine.Basic
import BootTrial.Trial.Claim

/-!
# A test in progress

What a run knows of the test it works on: its scenario, its directory, the boot it is bound to and
the boot the machine is in. A trial is closed when its directory has gone where it stays, or when
the operator has left it; from then on nothing of it may be changed.

Closing moves the directory into the results root, at most once.
-/

namespace BootTrial

/-- A test in progress. -/
structure Trial where
  /-- The template at work. -/
  template : String
  /-- The scenario, placeholders included. -/
  scenario : Scenario
  /-- The directory of the test. -/
  directory : Path
  /-- The root of the completed tests. -/
  results : Path
  /-- The boot that the test is bound to. -/
  boot : BootId
  /-- The boot that the machine is in. -/
  currentBoot : BootId
  /-- The front of the names of its logs. -/
  logFront : String
  /-- Whether it is closed. -/
  isClosed : Bool := false
  deriving DecidableEq, Repr

/-- Work on a trial. Work that fails leaves the trial and the bench as far as it came. -/
abbrev TrialWork := ExceptT Error (StateT Trial (StateM Bench))

/-- Work that leaves the trial itself alone. -/
def Work.onTrial {α : Type} (work : Work α) : TrialWork α :=
  ExceptT.mk (StateT.lift work.run)

instance : MonadLift Work TrialWork :=
  ⟨Work.onTrial⟩

namespace Trial

/-- The file that holds the scenario. -/
def scenarioFile (trial : Trial) : Path :=
  trial.directory.join scenarioName

/-- The log with the given end to its name. -/
def log (trial : Trial) (suffix : String) : Path :=
  trial.directory.join (trial.logFront ++ "-" ++ suffix)

/-- Whether the machine is still in the boot in which the test was claimed. -/
def isSameBoot (trial : Trial) : Bool :=
  trial.boot = trial.currentBoot

/-- The conditions that responses may depend on. -/
def conditions (trial : Trial) : Conditions :=
  .ofBoot trial.isSameBoot

/-- Loads the test in a directory of the running root. -/
def load (settings : Settings) (machine : Machine) (directory : Path) : Work Trial := do
  let boot ← boundBoot directory
  let currentBoot ← machine.ask .currentBoot
  let logFront ← logFrontOf directory
  let scenario ← Scenario.read (directory.join scenarioName) false
  return {
    template := settings.template
    scenario, directory
    results := settings.workspace.results
    boot, currentBoot, logFront }

/-- Checks that a trial may still be changed. -/
def requireOpen (trial : Trial) : Except Error Unit :=
  if trial.isClosed then .error (.alreadyClosed trial.directory) else .ok ()

/-- Closes the trial. -/
def markClosed : TrialWork Unit :=
  modifyThe Trial fun trial => { trial with isClosed := true }

/-- Moves a directory into the results root, which is made if it is missing, and gives where it lies
now. Nothing may lie there yet. -/
def moveToResults (directory results : Path) : Work Path := do
  (FileWork.makeDirs results).reportedAs .ofFault
  let name ← Work.ofExcept (directoryName directory)
  let goal := results.join name
  if (← get).hasEntry goal then
    throw (.internal
      ("Cannot finalize " ++ directory.text ++ ": " ++ goal.text ++ " already exists"))
  (FileWork.rename directory goal).reportedAs .ofFault
  return goal

/-- Moves the test into the results root, unless the trial is closed or its directory is gone, and
closes the trial. Gives where the test lies now, if it has been moved. -/
def close : TrialWork (Option Path) := do
  let trial ← getThe Trial
  if trial.isClosed then return none
  let bench ← getThe Bench
  if !bench.hasDir trial.directory then
    markClosed
    return none
  let goal ← moveToResults trial.directory trial.results
  markClosed
  return some goal

/-- A trial as a diagnosis shows it. -/
def shown (trial : Trial) : String :=
  let flag (b : Bool) : String := if b then "true" else "false"
  "RunContext \x7b template: " ++ Text.quoted trial.template
    ++ ", scenario: " ++ Text.quoted trial.scenario.shown
    ++ ", test_directory: " ++ Text.quotedPath trial.directory.text
    ++ ", boot_id: " ++ Text.quoted trial.boot.text
    ++ ", current_boot_id: " ++ Text.quoted trial.currentBoot.text
    ++ ", is_current_boot: " ++ flag trial.isSameBoot
    ++ ", prefix: " ++ Text.quoted trial.logFront
    ++ ", finalized: " ++ flag trial.isClosed ++ " \x7d"

end Trial

end BootTrial
