import BootTrial.CommandLine.Arguments
import BootTrial.Cycle
import BootTrial.Machine.Host
import BootTrial.Operator.Prompt
import BootTrial.Report

/-!
# Carrying out commands

The three commands on the bench, with what they print, and the whole program: it reads the settings,
sees to its log, carries out the command and says what went wrong.
-/

namespace BootTrial

/-- A run in one line: the test, the choice, and where the test lies now. -/
def TrialRun.line (run : TrialRun) : String :=
  run.directory.fileName?.getD "" ++ ": " ++ run.choice.getD "no result"
    ++ (run.result.elim "" fun result => " -> " ++ result.text) ++ "\n"

/-- What is printed about a cycle. -/
def CycleResult.text : CycleResult → String
  | .resumed runs => String.join (runs.map TrialRun.line)
  | .started run => run.line
  | .idle => "No tests running\nNo tests pending\n"

/-- What is printed about a batch. -/
def enrolledText (directories : List Path) : String :=
  "Enrolled " ++ toString directories.length ++ " test(s):\n"
    ++ String.join (directories.map fun directory => "  " ++ directory.text ++ "\n")

/-- Prints the report. Tells whether it could be written to its end. -/
def printReport (settings : Settings) : Work Bool := do
  let report ← Report.ofResults settings
  match report.markdown? with
  | some text =>
    Bench.write .program text
    return true
  | none =>
    Bench.write .program report.begun
    return false

/-- Carries out a command. Tells whether all that it prints could be written. -/
def carryOut (settings : Settings) : Verb → Work Bool
  | .enroll => do
    Bench.write .program (enrolledText (← enroll settings))
    return true
  | .run => do
    settings.requireTemplate
    let outcome ← performCycle settings (Machine.host settings) Operator.prompt
    Bench.write .program outcome.text
    Bench.write .program "\n"
    printReport settings
  | .report => do
    settings.requireTemplate
    printReport settings

/-- Makes the log of the program, if it can be made. What is in it already stays. -/
def openLog (workspace : Workspace) : FileWork Unit := do
  FileWork.makeDirs workspace.runtime
  let isThere ← FileWork.look fun bench => .ok (bench.hasEntry workspace.log)
  if !isThere then FileWork.take (FileStep.createFile workspace.log)

/-- Reads the settings, sees to the log, and carries out a command. Tells whether all that it prints
could be written. -/
def runCommand (verb : Verb) (template : Option String) : Work Bool := do
  let settings := (← Settings.find).choosing template
  let _ ← (openLog settings.workspace).outcome
  carryOut settings verb

/-- How the program ends: its code, and what it says about an error. -/
structure Ending where
  /-- The code: zero for success. -/
  code : Nat := 0
  /-- What it says about an error. -/
  complaint : String := ""
  deriving DecidableEq, Repr

/-- The answer to the question for the version. -/
def versionText : String := "bootrun 0.1.0\n"

/-- The code for arguments that cannot be understood. -/
def usageCode : Nat := 2

/-- The code of a program that has broken off. What it says then is left out here: it names the
place in the program and the number of a thread. -/
def brokenCode : Nat := 101

/-- The whole program. -/
def program (arguments : List String) : StateM Bench Ending := do
  match Invocation.ofArguments? arguments with
  | none => return { code := usageCode }
  | some .version =>
    Bench.write .program versionText
    return {}
  | some (.command verb template) =>
    match ← (runCommand verb template).run with
    | .ok true => return {}
    | .ok false => return { code := brokenCode }
    | .error failure => return { code := 1, complaint := "Error: " ++ failure.message ++ "\n" }

end BootTrial
