import BootTrial.Bench.Basic

/-!
# Work on files

The operations on the file tree of the bench. Each is made of elementary steps: making or removing
one directory, creating or emptying one file, filling one file, removing one entry, renaming one
entry. A step happens whole or not at all and enters the history of the bench; a longer operation
may be cut short between two of them.
-/

namespace BootTrial

open Text (Bytes)

namespace Bench

/-- What a path leads to. -/
def nodeAt (p : Path) (bench : Bench) : Except FileFault Node :=
  p.node bench.files bench.here

/-- The place that a path leads to. -/
def placeAt (p : Path) (bench : Bench) : Except FileFault Place :=
  p.place bench.files bench.here

/-- Whether a path leads to something. -/
def hasEntry (p : Path) (bench : Bench) : Bool :=
  (bench.nodeAt p).isOk

/-- Whether a path leads to a directory. -/
def hasDir (p : Path) (bench : Bench) : Bool :=
  match bench.nodeAt p with
  | .ok node => node.isDir
  | .error _ => false

/-- Whether a path leads to a file. -/
def hasFile (p : Path) (bench : Bench) : Bool :=
  match bench.nodeAt p with
  | .ok node => node.isFile
  | .error _ => false

/-- The octets of the file that a path leads to. -/
def bytesAt (p : Path) (bench : Bench) : Except FileFault Bytes :=
  match bench.nodeAt p with
  | .ok (.file content _) => .ok content
  | .ok (.dir _) => .error .isDirectory
  | .error fault => .error fault

/-- The text of the file that a path leads to. -/
def textAt (p : Path) (bench : Bench) : Except FileFault String :=
  match bench.bytesAt p with
  | .ok content =>
    match Text.decode? content with
    | some text => .ok text
    | none => .error .notText
  | .error fault => .error fault

/-- The entries of the directory that a path leads to. -/
def entriesAt (p : Path) (bench : Bench) : Except FileFault (List (String × Node)) :=
  match bench.nodeAt p with
  | .ok (.dir entries) => .ok entries
  | .ok (.file _ _) => .error .notDirectory
  | .error fault => .error fault

end Bench

/-- Files as the tree stands after one elementary step, or why the step cannot be taken. -/
abbrev FileStep := Node → Place → Except FileFault Node

namespace FileStep

/-- Makes one directory. -/
def makeDir (p : Path) : FileStep := fun root here => do
  let approach ← p.approach root here
  match approach.last with
  | .root | .dot | .dotDot => throw .alreadyExists
  | .name name =>
    match ← lookUp root approach.parent name with
    | .taken _ _ => throw .alreadyExists
    | .free parent name => return root.put .emptyDir (parent ++ [name])

/-- Creates an empty file, or empties the file that is there. A path that could only mean a
directory is refused before it is looked up. -/
def createFile (p : Path) : FileStep := fun root here => do
  let approach ← p.approach root here
  match approach.last with
  | .root | .dot | .dotDot => throw .isDirectory
  | .name name =>
    if approach.endsInSlash then throw .isDirectory
    match ← lookUp root approach.parent name with
    | .taken _ (.dir _) => throw .isDirectory
    | .taken place (.file _ runnable) => return root.put (.file [] runnable) place
    | .free parent name => return root.put (.file [] false) (parent ++ [name])

/-- Gives a file its content. -/
def fillFile (p : Path) (content : Bytes) : FileStep := fun root here => do
  let approach ← p.approach root here
  match ← approach.entry root with
  | (_, .dir _) => throw .isDirectory
  | (place, .file _ runnable) => return root.put (.file content runnable) place

/-- Lets a file be run. -/
def allowRunning (p : Path) : FileStep := fun root here => do
  let approach ← p.approach root here
  match ← approach.entry root with
  | (_, .dir _) => return root
  | (place, .file content _) => return root.put (.file content true) place

/-- Removes one empty directory, which the path has to name. -/
def removeDir (p : Path) : FileStep := fun root here => do
  let approach ← p.approach root here
  match approach.last with
  | .root => throw .busy
  | .dot => throw .invalidArgument
  | .dotDot => throw .notEmpty
  | .name name =>
    match ← lookUp root approach.parent name with
    | .free _ _ => throw .notFound
    | .taken _ (.file _ _) => throw .notDirectory
    | .taken place (.dir entries) =>
      if entries.isEmpty then return root.erase place else throw .notEmpty

/-- Removes one file, which the path has to name. -/
def removeFile (p : Path) : FileStep := fun root here => do
  let approach ← p.approach root here
  match approach.last with
  | .root | .dot | .dotDot => throw .isDirectory
  | .name name =>
    match ← lookUp root approach.parent name with
    | .free _ _ => throw .notFound
    | .taken _ (.dir _) => throw .isDirectory
    | .taken place (.file _ _) =>
      if approach.endsInSlash then throw .notDirectory else return root.erase place

/-- The tree after a node has moved from a place to where a target is. The node takes the place of a
file, if it is one itself, or of an empty directory, if it is a directory. -/
def moveTo (root : Node) (origin : Place) (node : Node) : Target → Except FileFault Node
  | .free parent name =>
    if origin.isPrefixOf parent then .error .invalidArgument
    else .ok ((root.erase origin).put node (parent ++ [name]))
  | .taken goal old =>
    if origin.isPrefixOf goal.dropLast then .error .invalidArgument
    else if goal.isPrefixOf origin.dropLast then .error .notEmpty
    else if origin = goal then .ok root
    else if node.isDir && old.isFile then .error .notDirectory
    else if node.isFile && old.isDir then .error .isDirectory
    else if !old.entries.isEmpty then .error .notEmpty
    else .ok ((root.erase origin).put node goal)

/-- Renames an entry. Both paths have to name what they lead to, and what is renamed is looked up
first. -/
def rename (source dest : Path) : FileStep := fun root here => do
  if dest.text.toList.contains '\x00' then throw .nulInPath
  let source' ← source.approach root here
  let dest' ← dest.approach root here
  match source'.last, dest'.last with
  | .name name, .name newName =>
    match ← lookUp root source'.parent name with
    | .free _ _ => throw .notFound
    | .taken origin node =>
      let goal ← lookUp root dest'.parent newName
      if node.isFile && (source'.endsInSlash || dest'.endsInSlash) then throw .notDirectory
      moveTo root origin node goal
  | _, _ => throw .busy

end FileStep

namespace FileWork

/-- Reads from the bench. -/
def look {α : Type} (read : Bench → Except FileFault α) : FileWork α :=
  ExceptT.mk do return read (← get)

/-- Takes one elementary step. -/
def take (step : FileStep) : FileWork Unit :=
  ExceptT.mk do
    let bench ← get
    match step bench.files bench.here with
    | .ok files =>
      set { bench with files }
      Bench.record .changed
      return .ok ()
    | .error fault => return .error fault

/-- Makes a directory. -/
def makeDir (p : Path) : FileWork Unit :=
  take (FileStep.makeDir p)

/-- Makes the first of the given directories, each of which lies in the next, after those of the
others that are missing. -/
def makeDirsFrom : List Path → FileWork Unit
  | [] => throw .notFound
  | p :: above => ExceptT.mk do
    match ← (makeDir p).run with
    | .ok () => return .ok ()
    | .error .notFound =>
      match ← (makeDirsFrom above).run with
      | .error fault => return .error fault
      | .ok () =>
        match ← (makeDir p).run with
        | .ok () => return .ok ()
        | .error fault => return if (← get).hasDir p then .ok () else .error fault
    | .error fault => return if (← get).hasDir p then .ok () else .error fault

/-- Makes a directory and every missing one above it. -/
def makeDirs (p : Path) : FileWork Unit :=
  if p.text = "" then pure () else makeDirsFrom (p :: p.ancestors)

/-- Writes a file. -/
def writeFile (p : Path) (content : Bytes) : FileWork Unit := do
  take (FileStep.createFile p)
  take (FileStep.fillFile p content)

/-- Removes one entry by its place. -/
def removePlace (place : Place) : FileWork Unit :=
  take fun root _ => .ok (root.erase place)

/-- Removes the entries at some places below another, one after the other. -/
def removeEach (place : Place) : List Place → FileWork Unit
  | [] => pure ()
  | below :: rest => do
    removePlace (place ++ below)
    removeEach place rest

/-- Removes a directory with everything below it, what lies deeper first. -/
def removeTree (p : Path) : FileWork Unit := do
  let entries ← look (·.entriesAt p)
  let place ← look (·.placeAt p)
  removeEach place (Node.placesOf entries)
  take (FileStep.removeDir p)

/-- Renames an entry. -/
def rename (source dest : Path) : FileWork Unit :=
  take (FileStep.rename source dest)

end FileWork

end BootTrial
