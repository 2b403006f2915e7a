import BootTrial.Trial.Basic

/-!
# Carrying out actions

What each action does to a trial. A restart closes the trial before it asks the machine, because the
machine may stop the program there.
-/

namespace BootTrial

namespace Action

/-- Flushes the disk, moves the test to its result, and restarts the machine. -/
def runReboot (machine : Machine) : TrialWork Unit := do
  (machine.ask .sync : Work Unit)
  let _ ← Trial.close
  (machine.ask .reboot : Work Unit)

/-- Deletes the directory of the test. -/
def runDiscard : TrialWork Unit := do
  let trial ← getThe Trial
  Work.ofExcept trial.requireOpen
  (FileWork.removeTree trial.directory).reportedAs .ofFault
  Trial.markClosed

/-- Writes a result into the scenario, in memory and in its file. -/
def runWriteResult (column result : String) : TrialWork Unit := do
  let trial ← getThe Trial
  Work.ofExcept trial.requireOpen
  let scenario := trial.scenario.set column result
  modifyThe Trial fun trial => { trial with scenario }
  let header ← ScenarioTable.headerAt trial.scenarioFile
  scenario.write trial.scenarioFile header

/-- Carries out an action. -/
def run (machine : Machine) : Action → TrialWork Unit
  | .reboot => runReboot machine
  | .discard => runDiscard
  | .writeResult column result => runWriteResult column result
  | .quit => Trial.markClosed

/-- Carries out actions in order, up to the first that fails. -/
def runAll (machine : Machine) : List Action → TrialWork Unit
  | [] => pure ()
  | action :: rest => do
    action.run machine
    runAll machine rest

end Action

end BootTrial
