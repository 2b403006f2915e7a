import BootTrial.File.Fault
import BootTrial.File.Node
import BootTrial.File.Path

/-!
# Where a path leads

A path is followed through the tree component by component. The components in front of the last have
to lead through directories; `Path.approach` follows them and gives the directory in which the last
one is to be looked up, together with the last one itself. What happens there depends on the
operation: some want an entry, some a free name, and several refuse a last component that is no name.
The first fault on the way counts.
-/

namespace BootTrial

/-- The longest name of a directory entry, in octets. -/
def nameLimit : Nat := 255

/-- One more than the longest path, in octets. -/
def pathLimit : Nat := 4096

/-- The last component of a path. -/
inductive LastPart where
  /-- There is none: the path leads to the root. -/
  | root
  /-- A single dot. -/
  | dot
  /-- Two dots. -/
  | dotDot
  /-- A name. -/
  | name (name : String)
  deriving DecidableEq, Repr

/-- Where a path comes to before its last component is looked up. -/
structure Approach where
  /-- The directory in which the last component is looked up. -/
  parent : Place
  /-- The last component. -/
  last : LastPart
  /-- Whether slashes follow the last component. -/
  endsInSlash : Bool
  deriving DecidableEq, Repr

/-- What the last component of a path leads to. -/
inductive Target where
  /-- To what stands at a place. -/
  | taken (place : Place) (node : Node)
  /-- To no entry yet, but to a directory that could hold one. -/
  | free (parent : Place) (name : String)

/-- Looks up one name in the directory at a place. -/
def lookUp (root : Node) (here : Place) (name : String) : Except FileFault Target :=
  match root.get? here with
  | none => .error .notFound
  | some (.file _ _) => .error .notDirectory
  | some (.dir entries) =>
    if nameLimit < name.utf8ByteSize then .error .nameTooLong
    else
      match entries.lookup name with
      | some node => .ok (.taken (here ++ [name]) node)
      | none => .ok (.free here name)

/-- Follows components from a place through directories. -/
def passThrough (root : Node) (here : Place) : List String → Except FileFault Place
  | [] => .ok here
  | component :: rest =>
    if component = "." then passThrough root here rest
    else if component = ".." then passThrough root here.dropLast rest
    else
      match lookUp root here component with
      | .ok (.taken place (.dir _)) => passThrough root place rest
      | .ok (.taken _ (.file _ _)) => .error .notDirectory
      | .ok (.free _ _) => .error .notFound
      | .error fault => .error fault

namespace Path

/-- The last of some components. -/
def lastPart (components : List String) : LastPart :=
  match components.getLast? with
  | none => .root
  | some "." => .dot
  | some ".." => .dotDot
  | some name => .name name

/-- Follows a path up to its last component, whatever its length. -/
def walk (root : Node) (here : Place) (p : Path) : Except FileFault Approach :=
  if p.text.toList.contains '\x00' then .error .nulInPath
  else if p.text = "" then .error .notFound
  else
    let components := p.segments.filter (· ≠ "")
    (passThrough root (if p.isAbsolute then [] else here) components.dropLast).map fun parent =>
      ⟨parent, lastPart components, p.endsInSlash⟩

/-- Follows a path up to its last component, from the root or from the directory `here`. -/
def approach (root : Node) (here : Place) (p : Path) : Except FileFault Approach :=
  if !p.text.toList.contains '\x00' && pathLimit ≤ p.text.utf8ByteSize then .error .nameTooLong
  else p.walk root here

end Path

/-- What stands at a place. -/
def Node.standing (root : Node) (place : Place) : Except FileFault Target :=
  match root.get? place with
  | some node => .ok (.taken place node)
  | none => .error .notFound

/-- Looks up the last component, whatever kind it is. -/
def Approach.target (root : Node) (approach : Approach) : Except FileFault Target :=
  match approach.last with
  | .root => root.standing []
  | .dot => root.standing approach.parent
  | .dotDot => root.standing approach.parent.dropLast
  | .name name => lookUp root approach.parent name

/-- Looks up the last component, which has to be there, and to be a directory where slashes follow
it. -/
def Approach.entry (root : Node) (approach : Approach) : Except FileFault (Place × Node) :=
  match approach.target root with
  | .ok (.taken place node) =>
    if approach.endsInSlash && node.isFile then .error .notDirectory else .ok (place, node)
  | .ok (.free _ _) => .error .notFound
  | .error fault => .error fault

/-- The place of what a path leads to. Its length does not matter. -/
def Path.place (root : Node) (here : Place) (p : Path) : Except FileFault Place :=
  (p.walk root here).bind fun approach => (approach.entry root).map (·.1)

/-- What a path leads to. -/
def Path.node (root : Node) (here : Place) (p : Path) : Except FileFault Node :=
  (p.approach root here).bind fun approach => (approach.entry root).map (·.2)

end BootTrial
