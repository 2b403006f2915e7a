import BootTrial.BootId
import BootTrial.Error
import BootTrial.File.Walk

/-!
# The bench

Everything that work on a test reads or changes: the file tree, the terminal with what it has still
to deliver, the headers already seen, and the requests made to the machine under test.

The bench also keeps its history: one moment for every elementary change of the file tree and for
every call to the machine or to the operator, with the file tree as it stood then. What is true at
every point at which the work may be cut short is a statement about these moments.

Work on the bench that fails leaves the bench as far as it came.
-/

namespace BootTrial

open Text (Bytes)

/-- What the machine under test is asked to do. -/
inductive Request where
  /-- Name the boot it is running in. -/
  | currentBoot
  /-- Write the kernel log of a boot to a file. -/
  | captureKernelLog (boot : BootId) (log : Path)
  /-- Suspend and wake once, with a log. -/
  | sleepCycle (log : Path)
  /-- Call the operator. -/
  | announce (message : String)
  /-- Flush what has been written to the disk. -/
  | sync
  /-- Restart. -/
  | reboot
  deriving DecidableEq, Repr

/-- What the machine replies to a request. -/
abbrev Request.Reply : Request → Type
  | .currentBoot => BootId
  | _ => Unit

/-- What happened at a moment. -/
inductive Event where
  /-- The file tree changed by one step. -/
  | changed
  /-- The machine was asked. -/
  | asked (request : Request)
  /-- A menu was put in front of the operator. -/
  | presented (title : String) (descriptions : List String)
  deriving DecidableEq, Repr

/-- An event, with the file tree as it stood then; for a change, right after it. -/
structure Moment where
  /-- What happened. -/
  event : Event
  /-- The file tree at that time. -/
  files : Node

/-- Who writes on the terminal, and to which of its outputs. -/
inductive Voice where
  /-- The operator menu. -/
  | menu
  /-- The program, or a tool that it runs. -/
  | program
  /-- The tools, with what they have to say about their faults. -/
  | complaints
  deriving DecidableEq, Repr

/-- The headers seen in scenario files, by the place of the file. -/
abbrev HeaderCache := List (Place × List String)

/-- The state of the bench. -/
structure Bench where
  /-- The file tree. -/
  files : Node
  /-- The place of the working directory. -/
  here : Place
  /-- The home directory. -/
  home : Path
  /-- The directories in which commands are looked for. -/
  searchPath : List Path
  /-- What else the environment of the tools says. -/
  environment : Named String := []
  /-- Whether the terminal shows colors. -/
  color : Bool
  /-- The headers seen so far. -/
  headers : HeaderCache := []
  /-- What the terminal has still to deliver. -/
  input : Bytes := []
  /-- What the terminal has delivered, and the operator's program has not used yet. -/
  held : Bytes := []
  /-- The answers an operator has prepared. -/
  answers : List String := []
  /-- What has been written on the terminal, and by whom. -/
  transcript : List (Voice × Bytes) := []
  /-- The requests that a scripted machine has put on record. -/
  calls : List Request := []
  /-- What has happened, the latest moment first. -/
  history : List Moment := []

/-- Work on the bench. -/
abbrev Work := ExceptT Error (StateM Bench)

/-- Work on the bench that only the file system can refuse. -/
abbrev FileWork := ExceptT FileFault (StateM Bench)

namespace Bench

/-- Puts a moment into the history. -/
def record (event : Event) : StateM Bench Unit :=
  modify fun bench => { bench with history := ⟨event, bench.files⟩ :: bench.history }

/-- Writes octets on the terminal. -/
def writeBytes (voice : Voice) (bytes : Bytes) : StateM Bench Unit :=
  modify fun bench => { bench with transcript := bench.transcript ++ [(voice, bytes)] }

/-- Writes on the terminal. -/
def write (voice : Voice) (text : String) : StateM Bench Unit :=
  writeBytes voice (Text.encode text)

/-- What one voice has written on the terminal. -/
def said (voice : Voice) (bench : Bench) : Bytes :=
  (bench.transcript.filter (·.1 = voice)).flatMap (·.2)

/-- What has been written on the terminal, complaints apart. -/
def screen (bench : Bench) : Bytes :=
  (bench.transcript.filter (·.1 ≠ .complaints)).flatMap (·.2)

end Bench

/-- Work on files, with its refusal reported as an error. -/
def FileWork.reportedAs {α : Type} (work : FileWork α) (report : FileFault → Error) : Work α :=
  ExceptT.mk do
    match ← work.run with
    | .ok a => return .ok a
    | .error fault => return .error (report fault)

/-- Work on files, with its refusal as part of the result. -/
def FileWork.outcome {α : Type} (work : FileWork α) : Work (Except FileFault α) :=
  ExceptT.mk do return .ok (← work.run)

/-- A result as work that changes nothing. -/
def Work.ofExcept {α : Type} (result : Except Error α) : Work α :=
  ExceptT.mk (pure result)

/-- Work with its failure as part of the result. -/
def Work.outcome {α : Type} (work : Work α) : Work (Except Error α) :=
  ExceptT.mk do return .ok (← work.run)

end BootTrial
