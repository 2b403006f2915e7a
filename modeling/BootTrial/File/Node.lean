import BootTrial.Named
import BootTrial.Text.Utf8

/-!
# The file tree

A tree of files and directories, and the operations on it that a place in the tree is given to. A
place is the list of names from the root; what stands there is `Node.get?`. `put` and `erase` change
one place and leave every place that is not below it alone; `get?_put_self` says that what is put
into a directory stands there. The order of a directory's entries means nothing.
-/

namespace BootTrial

open Text (Bytes)

/-- A file with its content and whether it may be run, or a directory with its named entries. -/
inductive Node where
  | file (content : Bytes) (runnable : Bool)
  | dir (entries : List (String × Node))

/-- A place in the tree: the names from the root to it. -/
abbrev Place := List String

namespace Node

/-- A directory without entries. -/
def emptyDir : Node := .dir []

/-- The entries of a directory; a file has none. -/
def entries : Node → List (String × Node)
  | .file _ _ => []
  | .dir entries => entries

/-- Whether a node is a directory. -/
def isDir : Node → Bool
  | .file _ _ => false
  | .dir _ => true

/-- Whether a node is a file. -/
def isFile : Node → Bool
  | .file _ _ => true
  | .dir _ => false

/-- The entry of a directory under a name. -/
def child? (name : String) (node : Node) : Option Node :=
  node.entries.lookup name

/-- What stands at a place below a node. -/
def get? (node : Node) : Place → Option Node
  | [] => some node
  | name :: rest => (node.child? name).bind (·.get? rest)

/-- The tree with a new node at a place. Where the directory for it is missing nothing changes. -/
def put : (root new : Node) → Place → Node
  | _, new, [] => new
  | .file content runnable, _, _ :: _ => .file content runnable
  | .dir entries, new, [name] => .dir (Named.set name new entries)
  | .dir entries, new, name :: rest =>
    match entries.lookup name with
    | some child => .dir (Named.set name (put child new rest) entries)
    | none => .dir entries

/-- The tree without what stands at a place. The root stays. -/
def erase : Node → Place → Node
  | node, [] => node
  | .file content runnable, _ :: _ => .file content runnable
  | .dir entries, [name] => .dir (Named.erase name entries)
  | .dir entries, name :: rest =>
    match entries.lookup name with
    | some child => .dir (Named.set name (erase child rest) entries)
    | none => .dir entries

/-- What has been put into a directory stands there. -/
theorem get?_put_self {root : Node} {parent : Place} {entries : List (String × Node)}
    (h : root.get? parent = some (.dir entries)) (new : Node) (name : String) :
    (root.put new (parent ++ [name])).get? (parent ++ [name]) = some new := by
  induction parent generalizing root with
  | nil =>
    obtain rfl : root = .dir entries := by simpa [get?] using h
    simp [put, get?, child?, Node.entries]
  | cons first rest ih =>
    cases root with
    | file content runnable => simp [get?, child?, Node.entries] at h
    | dir own =>
      obtain ⟨child, hchild, hrest⟩ := Option.bind_eq_some_iff.mp h
      have hchild : own.lookup first = some child := hchild
      obtain ⟨second, more, hplace⟩ : ∃ second more, rest ++ [name] = second :: more := by
        cases rest <;> simp
      have := ih hrest
      simp_all [put, get?, child?, Node.entries]

mutual

/-- The places below a node, each directory behind what it holds: the order in which a tree is
taken down. -/
def placesBelow : Node → List Place
  | .file _ _ => []
  | .dir entries => placesOf entries

/-- The places that the entries of a directory hold. -/
def placesOf : List (String × Node) → List Place
  | [] => []
  | (name, node) :: rest =>
    (placesBelow node).map (name :: ·) ++ [[name]] ++ placesOf rest

end

end Node

end BootTrial
