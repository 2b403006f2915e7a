import BootTrial.Shell.Scripts

/-!
# Simple commands

How a simple command is carried out: its words are replaced by what they stand for, its redirections
are made, its variables are set, and then its first word says what is done. A builtin command of the
common kind, a function and a program get the variables for themselves only.
-/

namespace BootTrial.Shell

/-- A redirection with its words replaced. -/
inductive ReadyRedirect where
  /-- To a file. -/
  | file (descriptor : Nat) (opening : Opening) (name : String)
  /-- To where another descriptor leads. -/
  | duplicate (descriptor source : Nat)
  /-- To nowhere. -/
  | closed (descriptor : Nat)
  /-- To a text. -/
  | document (descriptor : Nat) (text : String)

/-- What carries out the parts of a command. -/
structure Hands where
  /-- Carries out a command. -/
  evaluate : Evaluate
  /-- How deep words may stand within words. -/
  depth : Nat

namespace Hands

open Act

/-- Carries out a command and gives its output. -/
def capture (hands : Hands) : Capture :=
  Act.capture hands.evaluate

/-- The text that a word becomes where it is not split. -/
def text (hands : Hands) (word : Word) : Act String :=
  Act.text hands.capture hands.depth word

/-- The fields that a word becomes. -/
def fields (hands : Hands) (word : Word) : Act (List String) :=
  Act.fields hands.capture hands.depth word

/-- Replaces the words of a redirection. -/
def ready (hands : Hands) : Redirect → Act ReadyRedirect
  | .file descriptor opening name => do
    return .file descriptor opening (← hands.text name)
  | .document descriptor text => do return .document descriptor (← hands.text text)
  | .duplicate descriptor source => do
    let source ← hands.text source
    if source = "-" then return .closed descriptor
    match source.toList with
    | [c] => if isDigit c then return .duplicate descriptor (c.toNat - '0'.toNat)
    | _ => pure ()
    updateShell fun shell => { shell with line := shell.lineRead }
    fail "Syntax error: Bad fd number"

/-- Makes a redirection. -/
def redirect : ReadyRedirect → Act Unit
  | .closed descriptor => disconnect descriptor
  | .duplicate descriptor source => do
    match (← shell).descriptors.lookup source with
    | some n => connect descriptor n
    | none => fail (toString source ++ ": Bad file descriptor")
  | .document descriptor text => do
    connect descriptor (← addChannel (.pipe (Text.octetsOf text)))
  | .file descriptor opening name => do
    match ← openChannel opening name with
    | .ok n => connect descriptor n
    | .error fault =>
      let creates := opening ≠ .read
      fail ("cannot " ++ (if creates then "create " else "open ") ++ name ++ ": "
        ++ openingWords creates fault)

/-- Makes redirections, and says whether they could be made. -/
def redirectAll (redirects : List ReadyRedirect) : Act Bool := do
  match ← (redirects.forM redirect).outcome with
  | .ok () => return true
  | .error .fault => return false
  | .error stop => throw stop

/-- The commands whose arguments set variables and are not split where they do. -/
def declaringCommands : List String :=
  ["export", "readonly", "local"]

/-- Whether the words in front say that what follows may set variables. -/
def declares : List String → Bool
  | "command" :: rest => declares rest
  | name :: _ => declaringCommands.contains name
  | [] => false

/-- The fields that words become, behind those that are there. -/
def fieldsFrom (hands : Hands) (before : List String) : List Word → Act (List String)
  | [] => return before
  | word :: rest => do
    match if declares before then word.setting? else none with
    | some (name, value) =>
      let value ← assignedText hands.capture hands.depth value
      fieldsFrom hands (before ++ [name ++ "=" ++ value]) rest
    | none => fieldsFrom hands (before ++ (← hands.fields word)) rest

/-- What a command name stands for. -/
inductive Meaning where
  /-- A builtin command. -/
  | builtin (name : String)
  /-- A function. -/
  | function (body : Command)
  /-- A program. -/
  | program (path : String)
  /-- Nothing, or nothing that may be run. -/
  | unknown (fault : FileFault)

/-- The builtin commands that carry out others. -/
def carryingCommands : List String :=
  ["eval", ".", "exec", "command", "type", "wait"]

/-- Whether a name is that of a builtin command. -/
def isBuiltin (name : String) : Bool :=
  carryingCommands.contains name || (Builtin.plain.lookup name).isSome

/-- The directories in which programs are looked for, each with the slash behind it. -/
def searchFronts (shell : Shell) : List String :=
  (((shell.value? "PATH").getD "").splitOn ":").map fun front =>
    if front = "" then "" else front ++ "/"

/-- The path of the program that a name stands for, or why there is none. -/
def findProgram (name : String) (fault : FileFault := .notFound) :
    List String → Act (Except FileFault String)
  | [] => return .error fault
  | front :: rest => do
    match ← nodeAt (front ++ name) with
    | .ok (.file _ true) => return .ok (front ++ name)
    | .ok _ => findProgram name .permissionDenied rest
    | .error _ =>
      if Tool.shellPaths.contains (front ++ name) then return .ok (front ++ name)
      else findProgram name fault rest

/-- What a command name stands for. -/
def meaningOf (name : String) (passesFunctions : Bool) : Act Meaning := do
  let shell ← shell
  if name.toList.contains '/' then return .program name
  match if passesFunctions then none else shell.functions.lookup name with
  | some body => return .function body
  | none =>
    if isBuiltin name then return .builtin name
    match ← findProgram name .notFound (searchFronts shell) with
    | .ok path => return .program path
    | .error fault => return .unknown fault

/-- Why a program cannot be run, in the words of the shell. -/
def runningWords (fault : FileFault) : String :=
  match fault with
  | .notFound | .notDirectory => "not found"
  | fault => fault.words

/-- The status of a program that cannot be run. -/
def runningStatus (fault : FileFault) : Nat :=
  match fault with
  | .notFound | .notDirectory | .nameTooLong | .tooManyLevels => 127
  | _ => 126

/-- What is said about a command name, and the status. -/
def describe (isLong : Bool) (name : String) : Act (String × Nat) := do
  let line (short long : String) : String × Nat :=
    ((if isLong then name ++ long else short) ++ "\n", 0)
  let missing : String × Nat := (if isLong then name ++ ": not found\n" else "", 127)
  if keywords.contains name then return line name " is a shell keyword"
  if let some value := (← shell).aliases.lookup name then
    return line ("alias " ++ name ++ "=" ++ quotedText value) (" is an alias for " ++ value)
  match ← meaningOf name false with
  | .function _ => return line name " is a shell function"
  | .builtin _ =>
    return line name
      (if specialCommands.contains name then " is a special shell builtin"
        else " is a shell builtin")
  | .program path =>
    match ← nodeAt path with
    | .ok _ => return line path (" is " ++ path)
    | .error _ =>
      if Tool.shellPaths.contains path then return line path (" is " ++ path) else return missing
  | .unknown _ => return missing

/-- Says what command names stand for. -/
def describeAll (isLong : Bool) (names : List String) : Act Nat := do
  let found ← names.mapM (describe isLong)
  print (String.join (found.map (·.1))) ((found.map (·.2)).foldl max 0)

/-- Waits for all jobs; gives the status of the last one that is named. -/
def wait (hands : Hands) : Builtin := fun args => do
  runJobs hands.evaluate jobLimit
  match args.getLast? with
  | none => return 0
  | some process =>
    let n ← countOf process
    return ((← get).ended.lookup n).getD 127

/-- Runs a program in a new process, and waits for it. -/
def callProgram (hands : Hands) (path : String) (args : List String) : Act Unit := do
  runJobs hands.evaluate jobLimit
  let process ← newProcess
  match ← runProgram hands.evaluate process (← shell).environment path (args.drop 1) with
  | .ok exit =>
    setStatus exit.status
    match exit with
    | .signal n =>
      if let some message := signalMessage? n then
        let _ ← write 2 (message ++ "\n")
    | .code _ => pure ()
  | .error fault =>
    complain (args.headD "" ++ ": " ++ runningWords fault)
    setStatus (runningStatus fault)

/-- Becomes a program. -/
def becomeProgram (hands : Hands) (args : List String) : Act Unit := do
  let name := args.headD ""
  let shell ← shell
  let refuse (fault : FileFault) : Act Unit := do
    complain (name ++ ": " ++ runningWords fault)
    setStatus (runningStatus fault)
    throw .exit
  let found ←
    if name.toList.contains '/' then pure (Except.ok name)
    else findProgram name .notFound (searchFronts shell)
  match found with
  | .error fault => refuse fault
  | .ok path =>
    match ← runProgram hands.evaluate shell.process shell.environment path (args.drop 1) with
    | .ok exit => throw (.replaced exit)
    | .error fault => refuse fault

/-- Calls a function. -/
def callFunction (hands : Hands) (tested : Bool) (body : Command) (args : List String) :
    Act Unit := do
  let outer ← shell
  updateShell fun shell => { shell with
    params := args.drop 1, loops := 0, saved := [] :: shell.saved, optionOffset := 0 }
  let result ← (hands.evaluate tested body).outcome
  restore ((← shell).saved.headD [])
  updateShell fun shell => { shell with
    params := outer.params, loops := outer.loops, saved := outer.saved
    optionOffset := outer.optionOffset }
  match result with
  | .error .returned => return
  | result => ofOutcome result

/-- The path of a file that is to be carried out in the present shell. -/
def findSource (name : String) : List String → Act (Except FileFault String)
  | [] => return .error .notFound
  | front :: rest => do
    match ← nodeAt (front ++ name) with
    | .ok (.file _ _) => return .ok (front ++ name)
    | _ => findSource name rest

/-- Carries out a file in the present shell. -/
def source (hands : Hands) (tested : Bool) : Builtin := fun args => do
  let (_, args) ← optionsOf "" args
  match args with
  | [] => return 0
  | name :: _ =>
    let path ←
      if name.toList.contains '/' then pure name
      else
        match ← findSource name (searchFronts (← shell)) with
        | .ok path => pure path
        | .error _ => fail (name ++ ": not found")
    match ← scriptAt path with
    | .error fault => fail ("cannot open " ++ path ++ ": " ++ openingWords false fault)
    | .ok text =>
      setStatus 0
      updateShell fun shell => { shell with builtin := some path }
      match ← (runText hands.evaluate tested text true).outcome with
      | .ok () | .error .returned => return (← shell).status
      | .error stop => throw stop

/-- Carries out its arguments as a line of a script. -/
def eval (hands : Hands) (tested : Bool) : Builtin := fun args => do
  setStatus 0
  runText hands.evaluate tested (" ".intercalate args)
  return (← shell).status

/-- The builtin command under a name, its own name being the first of its arguments. -/
def builtin (hands : Hands) (tested : Bool) (name : String) : Builtin := fun args =>
  match name with
  | "eval" => eval hands tested args
  | "." => source hands tested args
  | "type" => describeAll true args
  | "wait" => wait hands args
  | "exec" => do
    if args.isEmpty then return 0
    becomeProgram hands args
    return 0
  | "command" => return 0
  | _ =>
    match Builtin.plain.lookup name with
    | some builtin => builtin args
    | none => return 0

/-- Carries out a builtin command. A fault in one of the common kind ends that one only. -/
def callBuiltin (hands : Hands) (tested isSpecial : Bool) (name : String) (args : List String) :
    Act Unit := do
  let before := (← shell).builtin
  updateShell fun shell => { shell with builtin := some (args.headD "") }
  let result ← (builtin hands tested name (args.drop 1)).outcome
  updateShell fun shell => { shell with builtin := before }
  match result with
  | .ok status => setStatus status
  | .error .fault => if isSpecial then throw .fault
  | .error stop => throw stop

/-- What is to be done with the words of a command. -/
structure Order where
  /-- The words, the name first. -/
  args : List String
  /-- What the name stands for. -/
  meaning : Meaning
  /-- Whether the first name was that of a builtin command whose faults end a script. -/
  isSpecial : Bool := false
  /-- Whether the variables are set for this command only. -/
  ownsSettings : Bool := true
  /-- Whether the name is only to be described, and at what length. -/
  description : Option Bool := none

/-- The order that some words give, with those of `command` in front. -/
def orderOf : Nat → (isFirst passesFunctions : Bool) → List String → Act Order
  | 0, _, _, args => return { args, meaning := .unknown .notFound }
  | n + 1, isFirst, passesFunctions, args => do
    let meaning ← meaningOf (args.headD "") passesFunctions
    match meaning with
    | .builtin "command" =>
      let (found, rest) ← optionsOf "pvV" (args.drop 1)
      match found.find? (·.1 ≠ 'p') with
      | some (letter, _) =>
        return { args := "command" :: rest, meaning, description := some (letter = 'V') }
      | none =>
        if rest.isEmpty then return { args, meaning }
        else orderOf n false true rest
    | .builtin name =>
      let special := isFirst && specialCommands.contains name
      return { args, meaning, isSpecial := special, ownsSettings := !special }
    | _ => return { args, meaning }

/-- Says which command is carried out, if the script asks for it. -/
def trace (channel : Option Nat) (settings : List (String × String)) (args : List String) :
    Act Unit := do
  let shell ← shell
  if !shell.options.contains 'x' then return
  let words := settings.map (fun (name, value) => name ++ "=" ++ value) ++ args
  match channel with
  | some n =>
    let _ ← writeTo n ((shell.value? "PS4").getD "" ++ " ".intercalate words ++ "\n")
  | none => return

/-- Sets the variables of a command. -/
def settle (hands : Hands) (isOwn exports : Bool) :
    List (String × Word) → Act (List (String × String))
  | [] => return []
  | (name, word) :: rest => do
    let value ← assignedText hands.capture hands.depth word
    if isOwn then keepVariable name
    setVariable name value exports
    return (name, value) :: (← settle hands isOwn exports rest)

/-- Carries out an order. -/
def carryOut (hands : Hands) (tested : Bool) (order : Order) : Act Unit := do
  match order.description, order.meaning with
  | some isLong, _ => setStatus (← describeAll isLong (order.args.drop 1))
  | none, .builtin name => callBuiltin hands tested order.isSpecial name order.args
  | none, .function body => callFunction hands tested body order.args
  | none, .program path => callProgram hands path order.args
  | none, .unknown fault =>
    complain (order.args.headD "" ++ ": " ++ runningWords fault)
    setStatus 127

/-- Whether an order is to become a program, or to redirect the shell itself. -/
def Order.isExec (order : Order) : Bool :=
  match order.meaning with
  | .builtin name => name = "exec"
  | _ => false

/-- Sets the variables of a command and carries out its order, if it has one. -/
def setAndCarryOut (hands : Hands) (tested : Bool) (channel : Option Nat)
    (settings : List (String × Word)) (order : Option Order) : Act Unit := do
  let isOwn := (order.map (·.ownsSettings)).getD false
  let becomes := (order.map fun order => order.isExec && 1 < order.args.length).getD false
  if isOwn then updateShell fun shell => { shell with saved := [] :: shell.saved }
  let work : Act Unit := do
    let values ← settle hands isOwn (isOwn || becomes) settings
    trace channel values ((order.map (·.args)).getD [])
    match order with
    | some order => carryOut hands tested order
    | none => setStatus (← shell).wordStatus
  work.followedBy do
    if isOwn then
      restore ((← shell).saved.headD [])
      updateShell fun shell => { shell with saved := shell.saved.drop 1 }

/-- Carries out a simple command. -/
def simple (hands : Hands) (tested : Bool) (line : Nat) (settings : List (String × Word))
    (words : List Word) (redirects : List Redirect) : Act Unit := do
  updateShell fun shell => { shell with line, wordStatus := 0 }
  let args ← fieldsFrom hands [] words
  let order ←
    if args.isEmpty then pure none else some <$> orderOf (args.length + 1) true false args
  let ready ← redirects.mapM (ready hands)
  let before := (← shell).descriptors
  let work : Act Unit := do
    if ← redirectAll ready then
      setAndCarryOut hands tested (before.lookup 2) settings order
    else if (order.map (·.isSpecial)).getD false then throw .fault
  if (order.map Order.isExec).getD false then work
  else work.followedBy (updateShell fun shell => { shell with descriptors := before })

end Hands

end BootTrial.Shell
