import BootTrial.File.Walk
import BootTrial.Text.Octets

/-!
# Programs

What the system does with a file that is to be run as a program. The file has to be one that may be
run, and its first line names the program that is to carry it out, with at most one argument. That
one may be such a file again, up to a limit; in the end stands the shell, which is no file of the
tree. Texts hold one character for each octet.
-/

namespace BootTrial.Tool

/-- The paths of the shell. -/
def shellPaths : List String :=
  ["/bin/sh", "/usr/bin/sh", "/bin/dash", "/usr/bin/dash", "/bin/bash", "/usr/bin/bash"]

/-- How much of a file the system looks at. -/
def headSize : Nat := 256

/-- Whether a character separates the parts of a first line. -/
def isGap (c : Char) : Bool :=
  c = ' ' || c = '\t'

/-- Whether a character ends the name of an interpreter. -/
def endsInterpreter (c : Char) : Bool :=
  isGap c || c = '\x00'

/-- Text without the blanks at its end. -/
def withoutEndGaps (line : List Char) : List Char :=
  (line.reverse.dropWhile isGap).reverse

/-- The interpreter that a first line names, and its argument; `isWhole` says whether a line break
ends the line. -/
def interpreterOf (line : List Char) (isWhole : Bool) : Option (String × Option String) :=
  let inner := (if isWhole then withoutEndGaps line else line).dropWhile isGap
  let name := inner.takeWhile (!endsInterpreter ·)
  let arg? : Option String :=
    match inner.drop name.length with
    | c :: rest =>
      if isGap c then
        some (String.ofList ((rest.dropWhile isGap).takeWhile (· ≠ '\x00')))
      else none
    | [] => none
  if isWhole && inner.isEmpty then none else some (String.ofList name, arg?)

/-- The interpreter that a file names, and its argument. Where the part that is looked at has no
line break the name has to end within that part. -/
def interpreter? (content : String) : Option (String × Option String) :=
  let start := content.toList.take headSize
  match start ++ List.replicate (headSize - start.length) '\x00' with
  | '#' :: '!' :: rest =>
    let line := rest.takeWhile fun c => c ≠ '\n' && c ≠ '\x00'
    if rest[line.length]? = some '\n' then interpreterOf line true
    else
      let text := rest.take (headSize - 3)
      let name := text.dropWhile isGap
      if name.isEmpty || !(name.any endsInterpreter) then none else interpreterOf text false
  | _ => none

/-- What a path leads to, if it may be run as a program: the octets of the file. -/
def runnableAt (files : Node) (here : Place) (path : String) : Except FileFault String :=
  match (Text.fromOctets? path).map fun (text : String) => (Path.ofText text).node files here with
  | none => .error .notFound
  | some (.error fault) => .error fault
  | some (.ok (.file content true)) => .ok (Text.spelled content)
  | some (.ok _) => .error .permissionDenied

/-- The arguments with which the shell is run so that a program is carried out, its own path being
the first of them. At most `n` programs may stand between the program and the shell. -/
def shellCall (files : Node) (here : Place) : (n : Nat) → (path : String) → List String →
    Except FileFault (List String)
  | n, path, args =>
    if shellPaths.contains path then .ok (path :: args)
    else
      match runnableAt files here path with
      | .error fault => .error fault
      | .ok content =>
        match interpreter? content, n with
        | none, _ => .error .notRunnable
        | some _, 0 => .error .tooManyLevels
        | some (interpreter, arg), n + 1 =>
          shellCall files here n interpreter (arg.toList ++ path :: args)

/-- How many programs may stand between a program and what carries it out. -/
def levelLimit : Nat := 5

end BootTrial.Tool
