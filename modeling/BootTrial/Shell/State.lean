import BootTrial.Bench.Basic
import BootTrial.Shell.Syntax
import BootTrial.Text.Octets
import BootTrial.Tool.Exit

/-!
# The state of a shell

What a shell keeps while it carries out a script, and the ways in which it may stop short of the end
of a command. A shell within a shell works on a copy of the state of the other; the files, the
terminal and the channels between them are common to all.

Texts hold one character for each octet.
-/

namespace BootTrial.Shell

open Text (Bytes)

/-- Where an open descriptor leads. -/
inductive Channel where
  /-- To nowhere: it takes all and gives nothing. -/
  | nowhere
  /-- To the terminal. -/
  | terminal (voice : Voice)
  /-- From the terminal. -/
  | keyboard
  /-- To the file at a place, at an offset or at its end. -/
  | file (place : Place) (offset : Nat) (atEnd reads writes : Bool)
  /-- To a reader that gets what has been written. -/
  | pipe (content : Bytes)
  deriving DecidableEq, Repr

/-- A variable. -/
structure Variable where
  /-- Its value, if it has one. -/
  value : Option String := none
  /-- Whether it is in the environment of the tools that the shell runs. -/
  isExported : Bool := false
  /-- Whether it keeps its value. -/
  isFixed : Bool := false
  deriving DecidableEq, Repr

/-- The state of a shell. -/
structure Shell where
  /-- The number of its process. -/
  process : Nat
  /-- The name of the script. -/
  name : String
  /-- The parameters. -/
  params : List String := []
  /-- The variables. -/
  bindings : Named Variable := []
  /-- The functions. -/
  functions : Named Command := []
  /-- The options that are set, by their letters. -/
  options : List Char := []
  /-- The status of the last command. -/
  status : Nat := 0
  /-- The status of the last command whose output stands in the words of the present one. -/
  wordStatus : Nat := 0
  /-- The line that faults are reported for. -/
  line : Nat := 0
  /-- The line up to which the script has been read. -/
  lineRead : Nat := 0
  /-- The builtin command that is being carried out. -/
  builtin : Option String := none
  /-- The channels of the open descriptors. -/
  descriptors : List (Nat × Nat) := []
  /-- The working directory. -/
  here : Place
  /-- What is to be done on signals, by their numbers; zero stands for the end of the script. -/
  traps : List (Nat × String) := []
  /-- The status with which the shell is ending. -/
  ending : Option Nat := none
  /-- The signals that have arrived and for which something is to be done. -/
  pending : List Nat := []
  /-- The variables to restore behind the functions that are being carried out. -/
  saved : List (Named (Option Variable)) := []
  /-- The number of loops around the present command. -/
  loops : Nat := 0
  /-- The last process that was not waited for. -/
  lastJob : Option Nat := none
  /-- The words that stand for texts where commands begin. -/
  aliases : Named String := []
  /-- The place within a parameter at which the search for options goes on. -/
  optionOffset : Nat := 0

/-- A command that is not waited for. It is carried out when a shell next waits for something. -/
structure Job where
  /-- The number of its process. -/
  process : Nat
  /-- The state of the shell as it was when the job began. -/
  shell : Shell
  /-- The command. -/
  command : Command

/-- What the shells of a script work on. -/
structure Context where
  /-- The bench. -/
  bench : Bench
  /-- The shell at work. -/
  shell : Shell
  /-- All channels. -/
  channels : List Channel := []
  /-- The number of the next process. -/
  nextProcess : Nat := 1
  /-- The processes that wait for the shell at work. -/
  waiting : List Nat := []
  /-- The jobs that have not been carried out, in order. -/
  jobs : List Job := []
  /-- The statuses of the jobs that have ended, by their processes. -/
  ended : List (Nat × Nat) := []

/-- Why a shell stops short of the end of a command. -/
inductive Stop where
  /-- The script ends, with the status that is set. -/
  | exit
  /-- A fault that ends the script unless it comes up in a builtin command of the common kind. -/
  | fault
  /-- The function or the file that is being carried out ends. -/
  | returned
  /-- Some loops end. -/
  | leave (loops : Nat)
  /-- Some loops end, and the one around them goes on. -/
  | again (loops : Nat)
  /-- A process ends by a signal. -/
  | killed (process signal : Nat)
  /-- The process has become another one, which has ended. -/
  | replaced (exit : Tool.Exit)
  /-- There was more to do than may be done. -/
  | exhausted
  deriving DecidableEq, Repr

/-- Work of a shell. -/
abbrev Act := ExceptT Stop (StateM Context)

namespace Act

/-- The shell at work. -/
def shell : Act Shell := do
  return (← get).shell

/-- Changes the shell at work. -/
def updateShell (change : Shell → Shell) : Act Unit :=
  modify fun context => { context with shell := change context.shell }

/-- Does something to the bench. -/
def onBench {α : Type} (work : StateM Bench α) : Act α := do
  let context ← get
  let (a, bench) := work.run context.bench
  set { context with bench }
  return a

/-- Work with the way in which it stops as part of the result. -/
def outcome {α : Type} (act : Act α) : Act (Except Stop α) :=
  ExceptT.mk do return .ok (← act.run)

/-- Goes on with what has been the outcome of work. -/
def ofOutcome {α : Type} : Except Stop α → Act α
  | .ok a => return a
  | .error stop => throw stop

/-- Work after which something is done, however it stops. -/
def followedBy {α : Type} (act : Act α) (after : Act Unit) : Act α := do
  let result ← act.outcome
  after
  ofOutcome result

/-- Sets the status. -/
def setStatus (status : Nat) : Act Unit :=
  updateShell fun shell => { shell with status }

/-- Whether an option is set. -/
def hasOption (letter : Char) : Act Bool := do
  return (← shell).options.contains letter

/-- Does work in a shell within the present one. -/
def inSubshell {α : Type} (act : Act α) : Act α := do
  let outer ← shell
  act.followedBy (updateShell fun _ => outer)

/-- A new process number. -/
def newProcess : Act Nat := do
  let context ← get
  set { context with nextProcess := context.nextProcess + 1 }
  return context.nextProcess

end Act

/-- The value of a variable. -/
def Shell.value? (shell : Shell) (name : String) : Option String :=
  (shell.bindings.lookup name).bind (·.value)

/-- The characters at which words are split if nothing else is set. -/
def blankSplitters : String := " \t\n"

/-- The characters at which words are split. -/
def Shell.splitters (shell : Shell) : List Char :=
  ((shell.value? "IFS").getD blankSplitters).toList

/-- The variables that the tools get which the shell runs. -/
def Shell.environment (shell : Shell) : Named String :=
  shell.bindings.filterMap fun (name, found) =>
    if found.isExported then found.value.map (name, ·) else none

/-- What is to be done on a signal. -/
def Shell.trap? (shell : Shell) (signal : Nat) : Option String :=
  (shell.traps.find? (·.1 = signal)).map (·.2)

end BootTrial.Shell
