import BootTrial.CommandLine.Dispatch

/-!
# The program

The outer layer: what lies in the working directory is put onto a bench, the program runs there, and
its changes are carried over to the disk one elementary step after the other, in the order in which
they were made. The lines of the operator are read before the run. Only tools and files that lie in
the working directory are on the bench, and a file that names an interpreter counts as a tool.
-/

namespace BootTrial.Main

open Text (Bytes)

/-- A file with the given content. -/
def fileNode (content : Bytes) : Node :=
  .file content (content.take 2 = [35, 33])

/-- Loads what stands at an entry of a directory. -/
partial def loadEntry (entry : IO.FS.DirEntry) : IO (String × Node) := do
  if ← entry.path.isDir then
    let entries ← entry.path.readDir
    return (entry.fileName, .dir (← entries.toList.mapM loadEntry))
  else return (entry.fileName, fileNode (← IO.FS.readBinFile entry.path).toList)

/-- The tree in which a node stands at a place. -/
def nest (node : Node) : Place → Node
  | [] => node
  | name :: rest => .dir [(name, nest node rest)]

/-- Removes what stands at a path. -/
partial def discardAt (path : String) : Node → IO Unit
  | .file _ _ => IO.FS.removeFile path
  | .dir entries => do
    for (name, node) in entries do discardAt (path ++ "/" ++ name) node
    IO.FS.removeDir path

/-- Carries over a node that is not on the disk yet. -/
partial def createAt (path : String) : Node → IO Unit
  | .file content _ => IO.FS.writeBinFile path ⟨content.toArray⟩
  | .dir entries => do
    IO.FS.createDir path
    for (name, node) in entries do createAt (path ++ "/" ++ name) node

/-- Carries over the difference between two nodes that stand at one path, one after the other. -/
partial def updateAt (path : String) : Node → Node → IO Unit
  | .file old _, .file new _ =>
    if old = new then pure () else IO.FS.writeBinFile path ⟨new.toArray⟩
  | .dir old, .dir new => do
    for (name, node) in old do
      if (new.lookup name).isNone then discardAt (path ++ "/" ++ name) node
    for (name, node) in new do
      match old.lookup name with
      | none => createAt (path ++ "/" ++ name) node
      | some before => updateAt (path ++ "/" ++ name) before node
  | old, new => do
    discardAt path old
    createAt path new

/-- Carries over the changes of a history, which is given earliest moment first. -/
def replay (path : String) (here : Place) (files : Node) : List Moment → IO Unit
  | [] => pure ()
  | moment :: rest => do
    match files.get? here, moment.files.get? here with
    | some old, some new => updateAt path old new
    | _, _ => pure ()
    replay path here moment.files rest

/-- The lines of the operator. -/
partial def readInput (stream : IO.FS.Stream) : IO Bytes := do
  let chunk ← stream.read 4096
  if chunk.isEmpty then return []
  else return chunk.toList ++ (← readInput stream)

/-- The bench for a working directory. -/
def benchAt (here : Place) (files : Node) (home search : Option String) (input : Bytes) :
    Bench where
  files := nest files here
  here := here
  home := .ofText (home.getD "/")
  searchPath := ((search.getD "").splitOn ":").map Path.ofText
  color := false
  input := input

end BootTrial.Main

open BootTrial BootTrial.Main in
/-- Runs the program. -/
def main (arguments : List String) : IO UInt32 := do
  let directory ← IO.currentDir
  let path := directory.toString
  let here := (Path.ofText path).steps
  let entries ← (← directory.readDir).toList.mapM loadEntry
  let input ← readInput (← IO.getStdin)
  let bench := benchAt here (.dir entries) (← IO.getEnv "HOME") (← IO.getEnv "PATH") input
  let (ending, after) := (program arguments).run bench
  replay path here bench.files after.history.reverse
  (← IO.getStdout).write ⟨after.screen.toArray⟩
  (← IO.getStderr).write ⟨(after.said .complaints).toArray⟩
  IO.eprint ending.complaint
  return UInt32.ofNat ending.code
