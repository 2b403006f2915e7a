import BootTrial.Shell.Condition
import BootTrial.Shell.Grammar
import BootTrial.Shell.Print
import BootTrial.Shell.Reading
import BootTrial.Shell.Signal

/-!
# Builtin commands

The commands that a shell carries out by itself, without those that carry out other commands in
turn. Each gets its arguments and gives its status.
-/

namespace BootTrial.Shell

/-- A builtin command. -/
abbrev Builtin := List String → Act Nat

namespace Act

/-- Prints the output of a builtin command, and gives its status. -/
def print (output : String) (status : Nat := 0) : Act Nat := do
  if ← write 1 output then return status
  complain (((← shell).builtin.getD "") ++ ": I/O error")
  return 1

/-- The count that an argument spells. -/
def countOf (text : String) : Act Nat := do
  match if text.toList.all isDigit then text.toNat? else none with
  | some n => if n < Nat.pow 2 31 then return n else fail ("Illegal number: " ++ text)
  | none => fail ("Illegal number: " ++ text)

/-- The options in front of the other arguments, by their letters, with what follows those that take
an argument of their own. `known` lists the letters; a colon stands behind one that takes one. -/
def options (known : List Char) : Nat → List String → Act (List (Char × String) × List String)
  | 0, args => return ([], args)
  | n + 1, args => do
    match args with
    | [] => return ([], [])
    | arg :: rest =>
      match arg.toList with
      | '-' :: c :: more =>
        if arg = "--" then return ([], rest)
        if c = ':' || !known.contains c then fail ("Illegal option -" ++ c.toString)
        let takesArgument := (known.dropWhile (· ≠ c)).tail.head? = some ':'
        if takesArgument then
          if !more.isEmpty then
            let (found, rest) ← options known n rest
            return ((c, String.ofList more) :: found, rest)
          match rest with
          | [] => fail ("No arg for -" ++ c.toString ++ " option")
          | value :: rest =>
            let (found, rest) ← options known n rest
            return ((c, value) :: found, rest)
        else
          let again := if more.isEmpty then rest else String.ofList ('-' :: more) :: rest
          let (found, rest) ← options known n again
          return ((c, "") :: found, rest)
      | _ => return ([], args)

/-- The options in front of the other arguments. -/
def optionsOf (known : String) (args : List String) :
    Act (List (Char × String) × List String) :=
  options known.toList (args.foldl (fun total arg => total + arg.length + 1) 1) args

/-- A text between quotes, as a script would write it. -/
def quotedText (text : String) : String :=
  "'" ++ "'\"'\"'".intercalate (text.splitOn "'") ++ "'"

/-- The variables for which a condition holds, as a script would set them, in order of their
names. -/
def listed (front : String) (holds : Variable → Bool) : Act String := do
  let found := ((← shell).bindings.filter (holds ·.2)).mergeSort fun a b => !decide (b.1 < a.1)
  return String.join (found.map fun (name, own) =>
    front ++ name ++ (own.value.elim "" ("=" ++ quotedText ·)) ++ "\n")

/-- The name and the value that an argument sets. -/
def settingOf (arg : String) : String × Option String :=
  let name := arg.toList.takeWhile (· ≠ '=')
  match arg.toList.drop name.length with
  | [] => (arg, none)
  | _ :: value => (String.ofList name, some (String.ofList value))

/-- Checks the name of a variable. -/
def requireName (name : String) : Act Unit :=
  if isName name.toList then return else fail (name ++ ": bad variable name")

/-- Changes what is kept about variables, and sets those that are given a value. -/
def declare (change : Variable → Variable) (args : List String) : Act Unit :=
  args.forM fun arg => do
    let (name, value) := settingOf arg
    requireName name
    if let some value := value then setVariable name value
    updateShell fun shell => { shell with
      bindings := Named.set name (change ((shell.bindings.lookup name).getD {}))
        shell.bindings }

/-- Keeps the present value of a variable to be restored behind the function. -/
def keepVariable (name : String) : Act Unit :=
  updateShell fun shell =>
    match shell.saved with
    | frame :: rest =>
      if (frame.lookup name).isSome then shell
      else { shell with saved := Named.set name (shell.bindings.lookup name) frame :: rest }
    | [] => shell

/-- Restores the variables of a frame. -/
def restore (frame : Named (Option Variable)) : Act Unit :=
  frame.forM fun (name, old) =>
    updateShell fun shell => { shell with
      bindings :=
        match old with
        | some own => Named.set name own shell.bindings
        | none => Named.erase name shell.bindings }

end Act

namespace Builtin

open Act

/-- Exports variables, or lists those that are exported. -/
def exportAll : Builtin := fun args => do
  let (found, names) ← optionsOf "p" args
  if names.isEmpty || !found.isEmpty then return ← print (← listed "export " (·.isExported))
  declare (fun own => { own with isExported := true }) names
  return 0

/-- Fixes variables, or lists those that are fixed. -/
def readonly : Builtin := fun args => do
  let (found, names) ← optionsOf "p" args
  if names.isEmpty || !found.isEmpty then return ← print (← listed "readonly " (·.isFixed))
  declare (fun own => { own with isFixed := true }) names
  return 0

/-- Makes variables those of a function. -/
def makeLocal : Builtin := fun args => do
  if (← shell).saved.isEmpty then fail "not in a function"
  args.forM fun arg => do
    let (name, value) := settingOf arg
    if name ≠ "-" then
      requireName name
      keepVariable name
      if let some value := value then setVariable name value
  return 0

/-- Forgets variables or functions. -/
def unset : Builtin := fun args => do
  let (found, names) ← optionsOf "vf" args
  let forgetsFunctions := found.getLast?.map (·.1) = some 'f'
  names.forM fun name => do
    if forgetsFunctions then
      updateShell fun shell => { shell with functions := Named.erase name shell.functions }
    else
      requireName name
      match (← shell).bindings.lookup name with
      | some own => if own.isFixed then fail (name ++ ": is read only")
      | none => return
      updateShell fun shell => { shell with bindings := Named.erase name shell.bindings }
  return 0

/-- Ends a number of loops, or their present rounds. -/
def endLoops (stop : Nat → Stop) : Builtin := fun args => do
  let n ← match args.head? with
    | none => pure 1
    | some arg => do
      let n ← countOf arg
      if n = 0 then fail ("Illegal number: " ++ arg) else pure n
  let loops := (← shell).loops
  if loops = 0 then return 0
  setStatus 0
  throw (stop (min n loops))

/-- Ends a script or a function, with a status. -/
def endWith (stop : Stop) (codes : Nat) : Builtin := fun args => do
  match args.head?, (← shell).ending with
  | some arg, _ => setStatus ((← countOf arg) % codes)
  | none, some status => if stop = .exit then setStatus status
  | none, none => pure ()
  throw stop

/-- Drops parameters. -/
def shift : Builtin := fun args => do
  let n ← match args.head? with
    | none => pure 1
    | some arg => countOf arg
  let params := (← shell).params
  if params.length < n then fail "can't shift that many"
  updateShell fun shell => { shell with params := shell.params.drop n, optionOffset := 0 }
  return 0

/-- The names of the options that have one letter. -/
def optionNames : List (String × Char) :=
  [("errexit", 'e'), ("noglob", 'f'), ("ignoreeof", 'I'), ("interactive", 'i'), ("monitor", 'm'),
    ("noexec", 'n'), ("stdin", 's'), ("xtrace", 'x'), ("verbose", 'v'), ("vi", 'V'),
    ("emacs", 'E'), ("noclobber", 'C'), ("allexport", 'a'), ("notify", 'b'), ("nounset", 'u'),
    ("privileged", 'p')]

/-- The names of the options that have no letter. -/
def letterlessOptions : List String :=
  ["nolog", "debug"]

/-- Sets or clears an option. -/
def setOption (isSet : Bool) (letter : Char) : Act Unit :=
  updateShell fun shell => { shell with
    options := shell.options.filter (· ≠ letter) ++ if isSet then [letter] else [] }

/-- Sets or clears an option by its name. -/
def setNamed (isSet : Bool) (name : String) : Act Unit := do
  match optionNames.lookup name with
  | some letter => setOption isSet letter
  | none =>
    if letterlessOptions.contains name then return
    else fail ("Illegal option " ++ (if isSet then "-" else "+") ++ "o " ++ name)

/-- The options that are set, as `set -o` lists them or as a script would set them. -/
def listOptions (asScript : Bool) : Act String := do
  let set := (← shell).options
  let states := (optionNames.map fun (name, letter) => (name, set.contains letter))
    ++ letterlessOptions.map (·, false)
  let lines := states.map fun (name, isSet) =>
    if asScript then "set " ++ (if isSet then "-" else "+") ++ "o " ++ name ++ "\n"
    else name ++ String.ofList (List.replicate (16 - name.length) ' ')
      ++ (if isSet then "on" else "off") ++ "\n"
  return (if asScript then "" else "Current option settings\n") ++ String.join lines

/-- Sets the options of an argument such as `-ex`; gives what is left of the arguments. -/
def setLetters (isSet : Bool) : List Char → List String → Act (List String)
  | [], rest => return rest
  | 'o' :: more, rest => do
    match rest with
    | [] =>
      let _ ← print (← listOptions (!isSet))
      setLetters isSet more []
    | name :: rest =>
      setNamed isSet name
      setLetters isSet more rest
  | c :: more, rest => do
    if !(optionNames.any (·.2 = c)) then
      fail ("Illegal option " ++ (if isSet then "-" else "+") ++ c.toString)
    setOption isSet c
    setLetters isSet more rest

/-- Sets options and parameters from `n` arguments at most. The parameters stay as they are where
none are given. -/
def setFrom : Nat → List String → Act Unit
  | 0, _ => return
  | n + 1, args => do
    let replace (params : List String) : Act Unit :=
      updateShell fun shell => { shell with params, optionOffset := 0 }
    match args with
    | [] => return
    | "--" :: rest => replace rest
    | "-" :: rest => do
      setOption false 'x'
      setOption false 'v'
      if rest.isEmpty then return else replace rest
    | arg :: rest => do
      match arg.toList with
      | '-' :: letters => setFrom n (← setLetters true letters rest)
      | '+' :: letters => setFrom n (← setLetters false letters rest)
      | _ => replace args

/-- Sets options and parameters, or lists the variables. -/
def set : Builtin := fun args => do
  if args.isEmpty then return ← print (← listed "" fun own => own.value.isSome)
  setFrom (args.length + 1) args
  return 0

/-- The working directory as a text. -/
def directoryText (here : Place) : String :=
  "/" ++ "/".intercalate (here.map Text.inOctets)

/-- Prints the working directory. -/
def printDirectory : Builtin := fun args => do
  let _ ← optionsOf "LP" args
  print (directoryText (← shell).here ++ "\n")

/-- The place that a text leads to by its letter: a step up undoes the step in front of it. -/
def placeByText (here : Place) (target : Path) : Place :=
  target.steps.foldl (fun place step => if step = ".." then place.dropLast else place ++ [step])
    (if target.isAbsolute then [] else here)

/-- Changes the working directory, if there is such a directory. -/
def enter (text : String) (byLetter : Bool) : Act Bool := do
  match path? text with
  | none => return false
  | some path =>
    let context ← get
    let target : Path :=
      if byLetter then ⟨"" :: match placeByText context.shell.here path with
        | [] => [""]
        | place => place⟩
      else path
    match target.node context.bench.files context.shell.here,
        target.place context.bench.files context.shell.here with
    | .ok (.dir _), .ok place =>
      let old := directoryText context.shell.here
      updateShell fun shell => { shell with here := place }
      setVariable "OLDPWD" old true
      setVariable "PWD" (directoryText place) true
      return true
    | _, _ => return false

/-- Enters the first of some directories in which another one lies, and says whether that one was
named by the list. -/
def enterWithin (target : String) (byLetter : Bool) : List String → Act (Option Bool)
  | [] => return none
  | front :: rest => do
    let text := if front = "" then target else front ++ "/" ++ target
    if ← enter text byLetter then return some (front ≠ "")
    enterWithin target byLetter rest

/-- Changes the working directory. -/
def changeDirectory : Builtin := fun args => do
  let (found, args) ← optionsOf "LP" args
  let byLetter := found.getLast?.map (·.1) ≠ some 'P'
  let shell ← shell
  let (target, isShown) :=
    match args with
    | [] => ((shell.value? "HOME").getD "", false)
    | "-" :: _ => ((shell.value? "OLDPWD").getD "", true)
    | target :: _ => (target, false)
  let isFixed := target.startsWith "/" || ["", ".", ".."].contains target
    || target.startsWith "./" || target.startsWith "../"
  let fronts := ((shell.value? "CDPATH").filter (· ≠ "")).map (·.splitOn ":")
  let target' := if target = "" then "." else target
  let entered ←
    match if isFixed then none else fronts with
    | none => do pure (if ← enter target' byLetter then some false else none)
    | some fronts => enterWithin target' byLetter (fronts ++ [""])
  match entered with
  | none => fail ("can't cd to " ++ target)
  | some isFound =>
    if isShown || isFound then print (directoryText (← Act.shell).here ++ "\n") else return 0

/-- Reads a line into variables. -/
def read : Builtin := fun args => do
  let (found, names) ← optionsOf "p:r" args
  if names.isEmpty then fail "arg count"
  let isRaw := found.any (·.1 = 'r')
  let text := (Text.spelled (← content 0)).toList
  let line := takeLine isRaw text
  consume 0 line.taken
  let values := valuesOf (← shell).splitters names.length line.chars
  let values := values ++ List.replicate (names.length - values.length) ""
  (names.zip values).forM fun (name, value) => do
    requireName name
    setVariable name value
  return if line.isComplete then 0 else 1

/-- Answers questions about files. -/
def fileTests : Act FileTests := do
  let context ← get
  let node? (text : String) : Option Node :=
    (path? text).bind fun path =>
      (path.node context.bench.files context.shell.here).toOption
  let place? (text : String) : Option Place :=
    (path? text).bind fun path =>
      (path.place context.bench.files context.shell.here).toOption
  let about (operator text : String) : Bool :=
    match node? text with
    | none => text = nowherePath && ["-e", "-c", "-r", "-w"].contains operator
    | some node =>
      match operator with
      | "-e" | "-r" | "-w" | "-O" | "-G" => true
      | "-f" => node.isFile
      | "-d" => node.isDir
      | "-s" =>
        match node with
        | .file content _ => !content.isEmpty
        | .dir _ => true
      | "-x" =>
        match node with
        | .file _ runnable => runnable
        | .dir _ => true
      | _ => false
  let between (operator first second : String) : Bool :=
    match operator with
    | "-ef" => (place? first).isSome && place? first = place? second
    | "-nt" => (node? first).isSome && (node? second).isNone
    | _ => (node? first).isNone && (node? second).isSome
  return ⟨about, between⟩

/-- Evaluates a condition. -/
def test : Builtin := fun args => do
  match Test.holds (← fileTests) args with
  | .ok value => return if value then 0 else 1
  | .error message => fail message

/-- Evaluates a condition in brackets. -/
def bracket : Builtin := fun args => do
  if args.getLast? = some "]" then test args.dropLast else fail "missing ]"

/-- Prints its arguments. -/
def echo : Builtin := fun args =>
  print (echoed args)

/-- Prints its arguments by a format. -/
def printByFormat : Builtin := fun args => do
  let (_, args) ← optionsOf "" args
  match args with
  | [] => fail "usage: printf format [arg ...]"
  | format :: args =>
    let result := printed format args
    result.complaints.reverse.forM complain
    let status ← print (String.ofList result.output) (if result.complaints.isEmpty then 0 else 1)
    match result.fault with
    | some message => fail message
    | none => return status

/-- What is set to be done on signals, as a script would set it. -/
def listTraps : Act String := do
  let traps := (← shell).traps.mergeSort fun a b => a.1 ≤ b.1
  return String.join (traps.map fun (signal, action) =>
    "trap -- " ++ quotedText action ++ " " ++ signalName signal ++ "\n")

/-- Sets what is to be done on signals. -/
def setTraps (action : Option String) : List String → Act Nat
  | [] => return 0
  | name :: rest => do
    match signalOf? name with
    | none =>
      let _ ← write 2 ("trap: " ++ name ++ ": bad trap\n")
      return 1
    | some signal =>
      updateShell fun shell => { shell with
        traps := shell.traps.filter (·.1 ≠ signal)
          ++ (action.map fun action => (signal, action)).toList }
      setTraps action rest

/-- Sets or lists what is to be done on signals. -/
def trap : Builtin := fun args => do
  let (_, args) ← optionsOf "" args
  match args with
  | [] => print (← listTraps)
  | [name] => setTraps none [name]
  | action :: names =>
    if (signalOf? action).isSome then setTraps none args
    else setTraps (if action = "-" then none else some action) names

/-- How `kill` is used. -/
def killUsage : String :=
  "Usage: kill [-s sigspec | -signum | -sigspec] [pid | job]... or\nkill -l [exitstatus]"

/-- The name of the signal that a number or a status stands for. -/
def signalNameOf (text : String) : Act String := do
  let n ← countOf text
  let n := if 128 < n then n - 128 else n
  if 0 < n && n < signalLimit then return signalName n ++ "\n"
  else fail ("invalid signal number or exit status: " ++ text)

/-- Sends a signal to processes. -/
def sendSignal (signal : Nat) : Nat → List String → Act Nat
  | status, [] => return status
  | status, process :: rest => do
    if ← signalTo (← countOf process) signal then sendSignal signal status rest
    else
      complain "No such process\n"
      sendSignal signal 1 rest

/-- Sends a signal, or lists the signals. -/
def kill : Builtin := fun args => do
  let direct : Option Nat :=
    (args.head?.filter (·.startsWith "-")).bind fun arg =>
      (signalOf? (String.ofList (arg.toList.drop 1))).filter fun n => 0 < n || arg = "-0"
  match direct with
  | some signal =>
    if args.length = 1 then fail killUsage else sendSignal signal 0 args.tail
  | none =>
    let (found, rest) ← optionsOf "ls:" args
    if found.any (·.1 = 'l') then
      match rest with
      | [] => print (String.join (("0" :: signalNames).map (· ++ "\n")))
      | first :: _ => print (← signalNameOf first)
    else
      let signal ← match found.getLast? with
        | none => pure 15
        | some (_, name) =>
          match signalOf? name with
          | some signal => pure signal
          | none => fail ("invalid signal number or name: " ++ name)
      if rest.isEmpty then fail killUsage else sendSignal signal 0 rest

/-- Lists aliases as a script would set them, or sets them. -/
def setAliases : Builtin := fun args => do
  let line (name value : String) : String := name ++ "=" ++ quotedText value ++ "\n"
  if args.isEmpty then
    let known := (← shell).aliases.mergeSort fun a b => !decide (b.1 < a.1)
    return ← print (String.join (known.map fun (name, value) => line name value))
  args.foldlM (fun status arg => do
    match settingOf arg with
    | (name, some value) =>
      updateShell fun shell => { shell with aliases := Named.set name value shell.aliases }
      return status
    | (name, none) =>
      match (← shell).aliases.lookup name with
      | some value =>
        let _ ← print (line name value)
        return status
      | none =>
        let _ ← write 2 ("alias: " ++ name ++ " not found\n")
        return 1) 0

/-- Forgets aliases. -/
def forgetAliases : Builtin := fun args => do
  let (found, names) ← optionsOf "a" args
  if !found.isEmpty then
    updateShell fun shell => { shell with aliases := [] }
    return 0
  names.foldlM (fun status name => do
    if ((← shell).aliases.lookup name).isSome then
      updateShell fun shell => { shell with aliases := Named.erase name shell.aliases }
      return status
    else
      let _ ← write 2 ("unalias: " ++ name ++ " not found\n")
      return 1) 0

/-- Shows the mask of new files, which is always the same. -/
def mask : Builtin := fun args => do
  let (found, args) ← optionsOf "S" args
  match args with
  | [] => print (if found.isEmpty then "0022\n" else "u=rwx,g=rx,o=rx\n")
  | arg :: _ =>
    if (arg.toList.head?.map isDigit).getD false
        && !arg.toList.all (fun c => (digitOf? 8 c).isSome) then
      fail ("Illegal number: " ++ arg)
    return 0

/-- Does nothing. -/
def nothing (status : Nat) : Builtin := fun _ =>
  return status

/-- Says that there is no job to carry on with. -/
def noJob : Builtin := fun _ =>
  fail "No current job"

/-- What a search for options comes to. -/
structure OptionSearch where
  /-- The value of the variable that is to be set. -/
  value : String
  /-- The argument of the option. -/
  argument : Option String := none
  /-- The number of the parameter at which the search goes on. -/
  next : Nat
  /-- The place within it. -/
  offset : Nat := 0
  /-- What is wrong with an option. -/
  complaint : Option String := none
  /-- Whether there are no more options. -/
  isOver : Bool := false

/-- Searches for the next option, from a place within a parameter on. -/
def searchOption (known : List Char) (args : List String) (next offset : Nat) : OptionSearch :=
  let isQuiet := known.head? = some ':'
  match args[next - 1]? with
  | none => { value := "?", next, isOver := true }
  | some arg =>
    let letters := arg.toList
    if offset = 0 && (letters.head? ≠ some '-' || letters.length < 2) then
      { value := "?", next, isOver := true }
    else if offset = 0 && arg = "--" then { value := "?", next := next + 1, isOver := true }
    else
      let at' := max offset 1
      match letters[at']? with
      | none => { value := "?", next := next + 1, isOver := true }
      | some c =>
        let isLast := at' + 1 = letters.length
        let (next', offset') := if isLast then (next + 1, 0) else (next, at' + 1)
        if c = ':' || !known.contains c then
          if isQuiet then
            { value := "?", argument := some c.toString, next := next', offset := offset' }
          else
            { value := "?", next := next', offset := offset',
              complaint := some ("Illegal option -" ++ c.toString) }
        else if (known.dropWhile (· ≠ c)).tail.head? = some ':' then
          if !isLast then
            { value := c.toString, argument := some (String.ofList (letters.drop (at' + 1))),
              next := next + 1 }
          else
            match args[next]? with
            | some value => { value := c.toString, argument := some value, next := next + 2 }
            | none =>
              if isQuiet then
                { value := ":", argument := some c.toString, next := next + 1 }
              else
                { value := "?", next := next + 1,
                  complaint := some ("No arg for -" ++ c.toString ++ " option") }
        else { value := c.toString, argument := some "", next := next', offset := offset' }

/-- Searches the parameters for the next option. -/
def getOption : Builtin := fun args => do
  match args with
  | known :: name :: rest =>
    let shell ← shell
    let params := if rest.isEmpty then shell.params else rest
    let next := (((shell.value? "OPTIND").bind String.toNat?).filter (0 < ·)).getD 1
    let found := searchOption known.toList params next shell.optionOffset
    if let some message := found.complaint then
      let _ ← write 2 (message ++ "\n")
    setVariable "OPTIND" (toString found.next)
    match found.argument with
    | some value => setVariable "OPTARG" value
    | none =>
      updateShell fun shell => { shell with bindings := Named.erase "OPTARG" shell.bindings }
    setVariable name found.value
    updateShell fun shell => { shell with optionOffset := found.offset }
    return if found.isOver then 1 else 0
  | _ => fail "Usage: getopts optstring var [arg...]"

/-- The builtin commands that carry out no others. -/
def plain : List (String × Builtin) :=
  [(":", nothing 0), ("true", nothing 0), ("false", nothing 1), ("echo", echo),
    ("printf", printByFormat), ("test", test), ("[", bracket), ("cd", changeDirectory),
    ("chdir", changeDirectory), ("pwd", printDirectory), ("read", read), ("set", set),
    ("shift", shift), ("export", exportAll), ("readonly", readonly), ("local", makeLocal),
    ("unset", unset), ("break", endLoops .leave), ("continue", endLoops .again),
    ("exit", endWith .exit 256), ("return", endWith .returned (Nat.pow 2 31)), ("trap", trap),
    ("kill", kill), ("umask", mask), ("getopts", getOption), ("hash", nothing 0),
    ("alias", setAliases), ("unalias", forgetAliases), ("jobs", nothing 0), ("times", nothing 0),
    ("ulimit", nothing 0), ("fg", noJob), ("bg", noJob)]

end Builtin

end BootTrial.Shell
