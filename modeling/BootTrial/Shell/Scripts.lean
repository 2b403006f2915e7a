import BootTrial.Shell.Builtins
import BootTrial.Shell.Expansion
import BootTrial.Tool.Program

/-!
# Carrying out scripts

How the lines of a script are carried out one after the other, how a shell within a shell and a new
shell are run, and what is done when a shell ends. Commands are carried out by a function that is
given as an argument.
-/

namespace BootTrial.Shell

/-- Carries out a command. `tested` says that its failure is looked at, so that it does not end the
script. -/
abbrev Evaluate := (tested : Bool) → Command → Act Unit

namespace Act

/-- Shows the lines that have been read of a script, as far as it is up to the text that is left, if
they come from a file and the script asks for it. -/
def showLines (isFile : Bool) (text rest : List Char) : Act Unit := do
  if isFile && (← hasOption 'v') then
    let _ ← write 2 (String.ofList (text.take (text.length - rest.length)))

/-- Carries out what is left of a script, line by line. A fault in the form of a line is only met
when the lines in front of it have been carried out. `isFile` says whether the lines come from a
file and are shown if the script asks for it. -/
def runSource (evaluate : Evaluate) (tested isFile : Bool) : Nat → Source → Act Unit
  | 0, _ => return
  | n + 1, source => do
    let source := { source with ahead := none, aliases := (← shell).aliases }
    match readLine.run source with
    | .error fault =>
      showLines isFile source.rest []
      updateShell fun shell => { shell with line := fault.line }
      fail ("Syntax error: " ++ fault.message)
    | .ok (command, after) =>
      showLines isFile source.rest after.rest
      updateShell fun shell => { shell with lineRead := after.line }
      evaluate tested command
      if after.rest.isEmpty then return else runSource evaluate tested isFile n after

/-- Carries out a script. -/
def runText (evaluate : Evaluate) (tested : Bool) (text : String) (isFile : Bool := false) :
    Act Unit :=
  runSource evaluate tested isFile (text.length + 1) { rest := text.toList, line := 1 }

/-- Does what is to be done on signals that have arrived; the status stays. -/
def runTraps (evaluate : Evaluate) : Act Unit := do
  let before ← shell
  if before.pending.isEmpty then return
  updateShell fun shell => { shell with pending := [] }
  before.pending.forM fun signal => do
    let status := (← shell).status
    runText evaluate false ((before.trap? signal).getD "")
    setStatus status

/-- Does what is to be done at the end of a shell. -/
def runEnding (evaluate : Evaluate) : Act Unit := do
  let before ← shell
  match before.trap? 0 with
  | none => return
  | some action =>
    updateShell fun shell => { shell with
      traps := shell.traps.filter (·.1 ≠ 0), ending := some shell.status }
    match ← (runText evaluate false action).outcome with
    | .ok () => setStatus before.status
    | .error stop => throw stop

/-- Does the work of a shell up to its end, and gives the status. A signal for the process ends more
than this shell. -/
def settle (evaluate : Evaluate) (act : Act Unit) : Act Tool.Exit := do
  let rest (stop : Stop) : Act Tool.Exit := do
    match stop with
    | .killed _ _ | .exhausted => throw stop
    | .replaced exit => return exit
    | _ => return .code ((← shell).status % 256)
  let ending : Act Tool.Exit := do
    match ← (runEnding evaluate).outcome with
    | .ok () => return .code ((← shell).status % 256)
    | .error stop => rest stop
  match ← act.outcome with
  | .error (.replaced exit) => return exit
  | .error (.killed process signal) => throw (.killed process signal)
  | .error .exhausted => throw .exhausted
  | _ => ending

/-- Does work in a shell within the present one, and gives its status. What is set to be done on
signals is forgotten there, unless it is nothing. -/
def fork (evaluate : Evaluate) (act : Act Unit) : Act Nat :=
  inSubshell do
    updateShell fun shell => { shell with traps := shell.traps.filter (·.2 = "") }
    return (← settle evaluate act).status

/-- Carries out the jobs that are there, `n` at most. -/
def runJobs (evaluate : Evaluate) : Nat → Act Unit
  | 0 => throw .exhausted
  | n + 1 => do
    match (← get).jobs with
    | [] => return
    | job :: rest =>
      modify fun context => { context with jobs := rest }
      let status ← inSubshell do
        updateShell fun _ => job.shell
        fork evaluate do
          connect 0 (← addChannel .nowhere)
          evaluate false job.command
      modify fun context => { context with ended := (job.process, status) :: context.ended }
      runJobs evaluate n

/-- How many jobs are carried out at a time. -/
def jobLimit : Nat := 10000

/-- Does work in a shell within the present one, which waits for it. -/
def subshell (evaluate : Evaluate) (act : Act Unit) : Act Nat := do
  runJobs evaluate jobLimit
  fork evaluate act

/-- Carries out a command and gives its output, without the line breaks at its end. -/
def capture (evaluate : Evaluate) (command : Command) : Act String := do
  let n ← addChannel (.pipe [])
  let status ← subshell evaluate do
    connect 1 n
    evaluate false command
  runJobs evaluate jobLimit
  updateShell fun shell => { shell with wordStatus := status }
  let output :=
    match (← get).channels[n]? with
    | some (.pipe content) => (Text.spelled content).toList
    | _ => []
  setChannel n .nowhere
  let kept := output.filter (· ≠ '\x00')
  return String.ofList (kept.reverse.dropWhile (· = '\n')).reverse

/-- The text of the script at a path, or why it cannot be read. -/
def scriptAt (path : String) : Act (Except FileFault String) := do
  match ← nodeAt path with
  | .ok (.file content _) => return .ok (Text.spelled content)
  | .ok (.dir _) => return .ok ""
  | .error fault =>
    if path = nowherePath then return .ok "" else return .error fault

/-- Why a file cannot be opened, in the words of the shell. -/
def openingWords (creates : Bool) (fault : FileFault) : String :=
  match fault with
  | .notFound | .notDirectory => if creates then "Directory nonexistent" else "No such file"
  | fault => fault.words

/-- The arguments with which a shell is started. -/
structure Start where
  /-- Whether the script is the first argument itself. -/
  isInline : Bool := false
  /-- The arguments behind the options. -/
  args : List String

/-- Sets the options of a shell, from `n` arguments at most. -/
def startOptions : Nat → Bool → List String → Act Start
  | 0, isInline, args => return ⟨isInline, args⟩
  | n + 1, isInline, args => do
    match args with
    | [] => return ⟨isInline, []⟩
    | arg :: rest =>
      if arg = "-" || arg = "--" then return ⟨isInline, rest⟩
      match arg.toList with
      | '-' :: letters =>
        let own := letters.filter fun c => c ≠ 'c' && c ≠ 'l'
        let rest ← Builtin.setLetters true own rest
        startOptions n (isInline || letters.contains 'c') rest
      | '+' :: letters => startOptions n isInline (← Builtin.setLetters false letters rest)
      | _ => return ⟨isInline, args⟩

/-- Carries out what a shell is started for. -/
def runStart (evaluate : Evaluate) (args : List String) : Act Unit := do
  let start ← startOptions (args.length + 1) false args
  let takes (name : String) (params : List String) : Act Unit :=
    updateShell fun shell => { shell with name, params }
  if start.isInline then
    match start.args with
    | [] => fail "-c requires an argument"
    | text :: rest =>
      if let name :: params := rest then takes name params
      runText evaluate false text
  else
    match if ← hasOption 's' then [] else start.args with
    | [] =>
      updateShell fun shell => { shell with params := start.args }
      let text := Text.spelled (← content 0)
      consume 0 text.length
      runText evaluate false text true
    | path :: params =>
      match ← scriptAt path with
      | .error fault => fail ("cannot open " ++ path ++ ": " ++ openingWords false fault)
      | .ok text =>
        takes path params
        runText evaluate false text true

/-- The variables of a new shell. -/
def startVariables (environment : Named String) (parent : Nat) (here : Place) :
    Named Variable :=
  let given := (environment.filter fun (name, _) => isName name.toList).map
    fun (name, value) => (name, { value := some value, isExported := true : Variable })
  let own : List (String × Variable) :=
    [("IFS", { value := some blankSplitters }), ("OPTIND", { value := some "1" }),
      ("PS1", { value := some "# " }), ("PS2", { value := some "> " }),
      ("PS4", { value := some "+ " }), ("PPID", { value := some (toString parent) }),
      ("PWD", { value := some (Builtin.directoryText here), isExported := true })]
  own.foldl (fun bindings (name, value) => Named.set name value bindings) given

/-- Runs a new shell in a process of its own, and gives the way it ended. The first argument is the
path of the shell. -/
def runShell (evaluate : Evaluate) (process : Nat) (environment : Named String)
    (call : List String) : Act Tool.Exit := do
  let outer ← get
  let fresh : Shell :=
    { process
      name := call.headD ""
      bindings := startVariables environment outer.shell.process outer.shell.here
      descriptors := outer.shell.descriptors
      here := outer.shell.here
      traps := outer.shell.traps.filter fun (signal, action) => signal ≠ 0 && action = "" }
  set { outer with
    shell := fresh
    waiting := if process = outer.shell.process then outer.waiting
      else outer.shell.process :: outer.waiting }
  let work : Act Tool.Exit := do
    let exit ← settle evaluate (runStart evaluate call.tail)
    runJobs evaluate jobLimit
    return exit
  let result ← work.outcome
  modify fun context => { context with shell := outer.shell, waiting := outer.waiting }
  match result with
  | .ok exit => return exit
  | .error (.killed killed signal) =>
    if killed = process then return .signal signal else throw (.killed killed signal)
  | .error stop => throw stop

/-- Runs a program in a process, and gives the way it ended, or why it cannot be run. A file that
has no form of its own is carried out as a script. -/
def runProgram (evaluate : Evaluate) (process : Nat) (environment : Named String)
    (path : String) (args : List String) : Act (Except FileFault Tool.Exit) := do
  let context ← get
  match Tool.shellCall context.bench.files context.shell.here Tool.levelLimit path args with
  | .ok call => return .ok (← runShell evaluate process environment call)
  | .error .notRunnable =>
    return .ok (← runShell evaluate process environment (Tool.shellPaths.headD "" :: path :: args))
  | .error fault => return .error fault

end Act

end BootTrial.Shell
