import BootTrial.Operator.Basic
import BootTrial.Trial.Act

/-!
# The cycle

One run of the program does one of three things: it resumes the tests that have been begun, which is
what happens after a restart; or else it begins the next test that waits; or there is nothing to do.

To run a test is to compile its menu, capture the logs, call the operator, carry out the choice and
close the test. What fails before the operator is asked leaves the test where it is, to be resumed.
Once the operator is asked the test is closed whatever happens. The menu is compiled before a test
is claimed, too, so that a fault in the responses costs no test.
-/

namespace BootTrial

/-- What came of running one test. -/
structure TrialRun where
  /-- The directory that the run began with. -/
  directory : Path
  /-- Whether the machine was still in the boot in which the test was claimed. -/
  isSameBoot : Bool
  /-- The description that the operator chose. -/
  choice : Option String
  /-- The directory of the test in the results root, if it went there. -/
  result : Option Path
  deriving DecidableEq, Repr

/-- What one run of the program did. -/
inductive CycleResult where
  /-- It went on with tests that had been begun. -/
  | resumed (runs : List TrialRun)
  /-- It began a test. -/
  | started (run : TrialRun)
  /-- There was nothing to do. -/
  | idle
  deriving DecidableEq, Repr

/-- The end of the name of the kernel log. -/
def kernelLogName : String := "journal-k.log"

/-- The end of the name of the log of the sleep. -/
def sleepLogName : String := "amd_s2idle.log"

/-- Work on a trial as work on the bench, with how far the trial came. -/
def TrialWork.on {α : Type} (work : TrialWork α) (trial : Trial) :
    Work (Except Error α × Trial) :=
  ExceptT.mk do return .ok (← work.run.run trial)

namespace Settings

/-- Compiles the menu of the template. -/
def menu (settings : Settings) (conditions : Conditions) : Work Menu :=
  Menu.ofFile (settings.workspace.responses settings.template) conditions
    (settings.workspace.scenarios settings.template)

end Settings

namespace Trial

/-- Captures the kernel log of the boot that the test is bound to, and while the machine is still in
it the log of a sleep. -/
def captureLogs (machine : Machine) (trial : Trial) : Work Unit := do
  machine.ask (.captureKernelLog trial.boot (trial.log kernelLogName))
  if trial.isSameBoot then machine.ask (.sleepCycle (trial.log sleepLogName))

/-- Asks the operator and carries out the choice. An empty menu is not shown. -/
def consult (machine : Machine) (operator : Operator) (message : String) (menu : Menu) :
    TrialWork (Option String) := do
  let trial ← getThe Trial
  if menu.isEmpty then return none
  if trial.isSameBoot then (machine.ask (.announce message) : Work Unit)
  match ← (operator.ask trial.scenario.title menu : Work (Option String)) with
  | none => return none
  | some description =>
    Action.runAll machine (menu.actionsOf description)
    return some description

/-- Where a test lies that the trial itself has not moved at its end: in the results root, if a
directory of its name is there. -/
def resultOf (directory results : Path) (bench : Bench) : Option Path :=
  (directory.fileName?.map results.join).filter (bench.hasDir ·)

/-- Runs the test in a directory of the running root. -/
def runAt (settings : Settings) (machine : Machine) (operator : Operator) (directory : Path) :
    Work TrialRun := do
  let trial ← load settings machine directory
  let menu ← settings.menu trial.conditions
  trial.captureLogs machine
  let (answered, trial) ← (consult machine operator settings.notify.message menu).on trial
  let (closed, trial) ← close.on trial
  let choice ← Work.ofExcept answered
  let moved ← Work.ofExcept closed
  return {
    directory
    isSameBoot := trial.isSameBoot
    choice
    result := moved.or (resultOf directory settings.workspace.results (← get)) }

/-- Runs the tests in some directories, one after the other. -/
def runEach (settings : Settings) (machine : Machine) (operator : Operator) :
    List Path → Work (List TrialRun)
  | [] => return []
  | directory :: rest => do
    let run ← runAt settings machine operator directory
    return run :: (← runEach settings machine operator rest)

end Trial

/-- Goes on with the tests that have been begun, or begins the next one that waits. -/
def performCycle (settings : Settings) (machine : Machine) (operator : Operator) :
    Work CycleResult := do
  let workspace := settings.workspace
  if ← isOccupied workspace.running then
    let directories ← testsIn workspace.running
    return .resumed (← Trial.runEach settings machine operator directories)
  else if ← isOccupied workspace.pending then
    let _ ← settings.menu (.ofBoot true)
    let boot ← machine.ask .currentBoot
    let directory ← workspace.claim boot
    return .started (← Trial.runAt settings machine operator directory)
  else return .idle

end BootTrial
