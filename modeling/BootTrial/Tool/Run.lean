import BootTrial.Shell.Run

/-!
# Running tools

A tool is a program that runs in the working directory of the bench. It may write files, and what it
prints goes where the caller says; what it has to say about its faults goes to the terminal in any
case. What comes back is the way it ended.
-/

namespace BootTrial.Tool

open Shell (Act Channel)

/-- The environment of a tool, octet by octet. -/
def environmentOf (bench : Bench) : Named String :=
  ([("HOME", bench.home.text), ("PATH", ":".intercalate (bench.searchPath.map Path.text))]
    ++ bench.environment).map fun (name, value) => (Text.inOctets name, Text.inOctets value)

/-- What a tool starts with: the channels that it reads from and writes to, and the one for what it
has to say about its faults. -/
def startContext (bench : Bench) (input output : Channel) : Shell.Context where
  bench := bench
  shell := { process := 1, name := "", here := bench.here, descriptors := [(0, 0), (1, 1), (2, 2)] }
  channels := [input, output, .terminal .complaints]
  nextProcess := 2

/-- The way a tool ended that was stopped from outside. -/
def stoppedExit : Exit := .signal 9

/-- Runs a tool: the way it ended, or why it cannot be run. -/
def run (path : Path) (params : List String) (input output : Channel) :
    StateM Bench (Except FileFault Exit) := do
  let bench ← get
  let context := startContext bench input output
  match shellCall bench.files bench.here levelLimit (Text.inOctets path.text)
    (params.map Text.inOctets) with
  | .error fault => return .error fault
  | .ok call =>
    let work : Act Exit := do
      let process ← Act.newProcess
      Act.runShell (Shell.evaluate Shell.depthLimit) process (environmentOf bench) call
    let (result, after) := work.run.run context
    set after.bench
    match result with
    | .ok exit => return .ok exit
    | .error _ => return .ok stoppedExit

/-- Whether a path leads to a file that may be run. -/
def isRunnable (p : Path) (bench : Bench) : Bool :=
  match bench.nodeAt p with
  | .ok (.file _ runnable) => runnable
  | _ => false

/-- The working directory of the bench. -/
def workingDirectory (bench : Bench) : Path :=
  ⟨"" :: bench.here⟩

/-- Whether a command is given as a path of several parts and not as a name. -/
def isGivenAsPath (p : Path) : Bool :=
  let leading := if p.isAbsolute || p.segments.head? = some "." then 1 else 0
  1 < p.steps.length + leading

/-- The path of the tool that a command means: a name is looked for in the search path, and a path
of several parts is taken from the working directory. -/
def find? (command : String) (bench : Bench) : Option Path :=
  let p := Path.ofText command
  if isGivenAsPath p then
    let full := if p.isAbsolute then p else (workingDirectory bench).append ⟨p.steps⟩
    if isRunnable full bench then some full else none
  else (bench.searchPath.map (·.join command)).find? (isRunnable · bench)

end BootTrial.Tool
