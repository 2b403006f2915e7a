import BootTrial.Bench.Files
import BootTrial.Shell.State

/-!
# Channels

How a shell opens files, and how it reads and writes through its descriptors. Descriptors that have
been made from each other share their channel, and with it the place in the file.
-/

namespace BootTrial.Shell

open Text (Bytes)

/-- What a channel has to give. -/
def Channel.content (bench : Bench) : Channel → Bytes
  | .nowhere | .terminal _ => []
  | .keyboard => bench.input
  | .file place offset _ reads _ =>
    match if reads then bench.files.get? place else none with
    | some (.file content _) => content.drop offset
    | _ => []
  | .pipe content => content

/-- The content of a file after octets have been written at an offset. -/
def overwritten (content : Bytes) (offset : Nat) (bytes : Bytes) : Bytes :=
  content.take offset ++ List.replicate (offset - content.length) 0 ++ bytes
    ++ content.drop (offset + bytes.length)

namespace Act

/-- The channel of a descriptor, and its number. -/
def channel? (descriptor : Nat) : Act (Option (Nat × Channel)) := do
  let context ← get
  return (context.shell.descriptors.lookup descriptor).bind fun n =>
    context.channels[n]?.map (n, ·)

/-- Puts a channel in the place of another. -/
def setChannel (n : Nat) (channel : Channel) : Act Unit :=
  modify fun context => { context with channels := context.channels.set n channel }

/-- Adds a channel. -/
def addChannel (channel : Channel) : Act Nat := do
  let context ← get
  set { context with channels := context.channels ++ [channel] }
  return context.channels.length

/-- Makes a descriptor lead to a channel. -/
def connect (descriptor n : Nat) : Act Unit :=
  updateShell fun shell => { shell with
    descriptors := (descriptor, n) :: shell.descriptors.filter (·.1 ≠ descriptor) }

/-- Makes a descriptor lead nowhere. -/
def disconnect (descriptor : Nat) : Act Unit :=
  updateShell fun shell => { shell with
    descriptors := shell.descriptors.filter (·.1 ≠ descriptor) }

/-- Gives the file at a place its content. -/
def fillPlace (place : Place) (content : Bytes) (runnable : Bool) : Act Unit :=
  onBench do
    modify fun bench => { bench with files := bench.files.put (.file content runnable) place }
    Bench.record .changed

/-- Writes to a channel, if it can be written to. -/
def writeTo (n : Nat) (text : String) : Act Bool := do
  let bytes := Text.octetsOf text
  match (← get).channels[n]? with
  | none | some .keyboard => return bytes.isEmpty
  | some .nowhere => return true
  | some (.terminal voice) =>
    if !bytes.isEmpty then onBench (Bench.writeBytes voice bytes)
    return true
  | some (.pipe content) =>
    setChannel n (.pipe (content ++ bytes))
    return true
  | some (.file place offset atEnd reads writes) =>
    if bytes.isEmpty then return true
    match (← get).bench.files.get? place with
    | some (.file content runnable) =>
      if !writes then return false
      let start := if atEnd then content.length else offset
      fillPlace place (overwritten content start bytes) runnable
      setChannel n (.file place (start + bytes.length) atEnd reads writes)
      return true
    | _ => return false

/-- Writes through a descriptor, if it can be written to. -/
def write (descriptor : Nat) (text : String) : Act Bool := do
  match (← shell).descriptors.lookup descriptor with
  | some n => writeTo n text
  | none => return text = ""

/-- What a descriptor has to give. -/
def content (descriptor : Nat) : Act Bytes := do
  match ← channel? descriptor with
  | some (_, channel) => return channel.content (← get).bench
  | none => return []

/-- Takes octets that a descriptor has given. -/
def consume (descriptor count : Nat) : Act Unit := do
  match ← channel? descriptor with
  | some (_, .keyboard) =>
    onBench (modify fun bench => { bench with input := bench.input.drop count })
  | some (n, .pipe content) => setChannel n (.pipe (content.drop count))
  | some (n, .file place offset atEnd reads writes) =>
    setChannel n (.file place (offset + count) atEnd reads writes)
  | _ => return

/-- Says what has gone wrong. -/
def complain (message : String) : Act Unit := do
  let shell ← shell
  let front := shell.name ++ ": " ++ toString shell.line ++ ": "
    ++ (shell.builtin.map (· ++ ": ")).getD ""
  let _ ← write 2 (front ++ message ++ "\n")

/-- The status of a fault. -/
def faultStatus : Nat := 2

/-- Gives up with a message. -/
def fail {α : Type} (message : String) : Act α := do
  complain message
  setStatus faultStatus
  throw .fault

/-- Sets a variable. -/
def setVariable (name value : String) (exports : Bool := false) : Act Unit := do
  let shell ← shell
  let old := (shell.bindings.lookup name).getD {}
  if old.isFixed then fail (name ++ ": is read only")
  let exports := exports || old.isExported || shell.options.contains 'a'
  updateShell fun shell => { shell with
    bindings := Named.set name { old with value := some value, isExported := exports }
      shell.bindings
    optionOffset := if name = "OPTIND" then 0 else shell.optionOffset }

/-- The path that a text spells octet by octet; none if it spells no text. -/
def path? (text : String) : Option Path :=
  (Text.fromOctets? text).map Path.ofText

/-- What stands at the path that a text spells. -/
def nodeAt (text : String) : Act (Except FileFault Node) := do
  let context ← get
  match path? text with
  | some path => return path.node context.bench.files context.shell.here
  | none => return .error .notFound

/-- Takes a step in the file tree, from the working directory of the shell. -/
def takeStep (step : FileStep) : Act (Except FileFault Unit) := do
  let context ← get
  match step context.bench.files context.shell.here with
  | .ok files =>
    onBench do
      modify fun bench => { bench with files }
      Bench.record .changed
    return .ok ()
  | .error fault => return .error fault

/-- The descriptor that stands under a path of its own. -/
def descriptorAt? (text : String) : Option Nat :=
  if text = "/dev/stdin" then some 0
  else if text = "/dev/stdout" then some 1
  else if text = "/dev/stderr" then some 2
  else
    match text.toList.reverse with
    | c :: front =>
      if isDigit c && (front.reverse = "/dev/fd/".toList
          || front.reverse = "/proc/self/fd/".toList) then some (c.toNat - '0'.toNat)
      else none
    | [] => none

/-- The path of the file that holds nothing and keeps nothing. -/
def nowherePath : String := "/dev/null"

/-- Opens the file that is there, or a new one. -/
def openFile (opening : Opening) (text : String) : Act (Except FileFault Channel) := do
  let path := (path? text).getD (.ofText "")
  let place : Act (Except FileFault Place) := do
    let context ← get
    return path.place context.bench.files context.shell.here
  let made (keeps : Bool) : Act (Except FileFault Unit) := do
    if keeps then return .ok () else takeStep (FileStep.createFile path)
  let opened (keeps atEnd reads : Bool) : Act (Except FileFault Channel) := do
    match ← made keeps with
    | .error fault => return .error fault
    | .ok () => return (← place).map fun place => .file place 0 atEnd reads true
  match opening, ← nodeAt text with
  | .read, .error fault => return .error fault
  | .read, .ok (.dir _) => return .ok .nowhere
  | .read, .ok (.file _ _) => return (← place).map fun place => .file place 0 false true false
  | _, .ok (.dir _) => return .error .isDirectory
  | .append, .ok (.file _ _) => opened true true false
  | .append, .error _ => opened false true false
  | .update, .ok (.file _ _) => opened true false true
  | .update, .error _ => opened false false true
  | .write, .ok (.file _ _) =>
    if ← hasOption 'C' then return .error .alreadyExists else opened false false false
  | .write, .error _ | .overwrite, _ => opened false false false

/-- Opens what a path leads to: the number of its channel. -/
def openChannel (opening : Opening) (text : String) : Act (Except FileFault Nat) := do
  if text = nowherePath then return .ok (← addChannel .nowhere)
  match descriptorAt? text with
  | some descriptor =>
    match ← channel? descriptor with
    | some (n, _) => return .ok n
    | none => return .error .notFound
  | none =>
    match ← openFile opening text with
    | .ok channel => return .ok (← addChannel channel)
    | .error fault => return .error fault

end Act

end BootTrial.Shell
