import BootTrial.Shell.Channels

/-!
# Signals

The signals that scripts send and catch, by their numbers and names.
-/

namespace BootTrial.Shell

/-- The names of the signals from number 1 on. Number 0 stands for the end of a script. -/
def signalNames : List String :=
  ["HUP", "INT", "QUIT", "ILL", "TRAP", "ABRT", "BUS", "FPE", "KILL", "USR1", "SEGV", "USR2",
    "PIPE", "ALRM", "TERM", "STKFLT", "CHLD", "CONT", "STOP", "TSTP", "TTIN", "TTOU", "URG",
    "XCPU", "XFSZ", "VTALRM", "PROF", "WINCH", "POLL", "PWR", "SYS"]

/-- One more than the number of the last signal. -/
def signalLimit : Nat := 65

/-- The name of a signal. -/
def signalName (n : Nat) : String :=
  if n = 0 then "EXIT" else (signalNames[n - 1]?).getD (toString n)

/-- The signal that a name or a number stands for. -/
def signalOf? (text : String) : Option Nat :=
  let upper := String.ofList (text.toList.map Char.toUpper)
  if !text.isEmpty && text.toList.all isDigit then text.toNat?.filter (· < signalLimit)
  else if upper = "EXIT" then some 0
  else (signalNames.findIdx? (· = upper)).map (· + 1)

/-- The signals that do nothing where nothing else is set, and those that only stop a process for a
while. -/
def harmlessSignals : List Nat :=
  [17, 18, 19, 20, 21, 22, 23, 28]

/-- The signals that no process can catch. -/
def uncatchableSignals : List Nat :=
  [9, 19]

/-- What a shell says about a tool that a signal has ended, if it says anything. -/
def signalMessage? (n : Nat) : Option String :=
  match signalName n with
  | "INT" | "PIPE" => none
  | "HUP" => some "Hangup"
  | "QUIT" => some "Quit"
  | "ILL" => some "Illegal instruction"
  | "TRAP" => some "Trace/breakpoint trap"
  | "ABRT" => some "Aborted"
  | "BUS" => some "Bus error"
  | "FPE" => some "Floating point exception"
  | "KILL" => some "Killed"
  | "USR1" => some "User defined signal 1"
  | "SEGV" => some "Segmentation fault"
  | "USR2" => some "User defined signal 2"
  | "ALRM" => some "Alarm clock"
  | "TERM" => some "Terminated"
  | "STKFLT" => some "Stack fault"
  | "XCPU" => some "CPU time limit exceeded"
  | "XFSZ" => some "File size limit exceeded"
  | "VTALRM" => some "Virtual timer expired"
  | "PROF" => some "Profiling timer expired"
  | "POLL" => some "I/O possible"
  | "PWR" => some "Power failure"
  | "SYS" => some "Bad system call"
  | name => some ("Unknown signal " ++ name)

namespace Act

/-- Sends a signal to the process of the shell at work. -/
def signalSelf (signal : Nat) : Act Unit := do
  let shell ← shell
  match if uncatchableSignals.contains signal then none else shell.trap? signal with
  | some "" => return
  | some _ =>
    updateShell fun shell => { shell with pending := shell.pending ++ [signal] }
  | none =>
    if harmlessSignals.contains signal then return else throw (.killed shell.process signal)

/-- Sends a signal to a process, if it is there. -/
def signalTo (process signal : Nat) : Act Bool := do
  let context ← get
  if process = context.shell.process then
    if signal ≠ 0 then signalSelf signal
    return true
  else if context.waiting.contains process then
    if signal ≠ 0 && !harmlessSignals.contains signal then throw (.killed process signal)
    return true
  else if context.jobs.any (·.process = process) then
    if signal ≠ 0 && !harmlessSignals.contains signal then
      set { context with
        jobs := context.jobs.filter (·.process ≠ process)
        ended := (process, 128 + signal) :: context.ended }
    return true
  else return false

end Act

end BootTrial.Shell
