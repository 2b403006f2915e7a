import BootTrial.File.Node

/-!
# Changes of the file tree

What `put` and `erase` do to what stands at each place. A change at a place below `p` is a change of
the one node that stands at `p` (`put_append`, `erase_append`), and it leaves alone whatever is apart
from that place (`get?_put_of_apart`, `get?_erase_of_apart`). Directories outside of what a change
replaces stay directories (`HasDir.put`, `HasDir.erase`).
-/

namespace BootTrial

/-- Neither of two places lies at or below the other. -/
def Place.Apart (p q : Place) : Prop := ¬ p <+: q ∧ ¬ q <+: p

/-- Places are apart whose ways part at some name. -/
theorem Place.Apart.of_ne {name other : String} (h : name ≠ other) (p q : Place) :
    Place.Apart (name :: p) (other :: q) := by
  simp [Place.Apart, h, Ne.symm h]

/-- A common way in front keeps places apart. -/
theorem Place.Apart.append_left {p q : Place} (h : Place.Apart p q) (front : Place) :
    Place.Apart (front ++ p) (front ++ q) := by
  simpa [Place.Apart, List.prefix_append_right_inj] using h

/-- What lies below one of two places that are apart is apart from the other. -/
theorem Place.Apart.append_right {p q : Place} (h : Place.Apart p q) (below : Place) :
    Place.Apart p (q ++ below) := by
  refine ⟨fun hp => ?_, fun hq => h.2 ((List.prefix_append q below).trans hq)⟩
  -- A place above `q ++ below` is above `q` or below it.
  rcases List.prefix_or_prefix_of_prefix hp (List.prefix_append q below) with hpq | hqp
  · exact h.1 hpq
  · exact h.2 hqp

/-- Being apart goes both ways. -/
theorem Place.Apart.symm {p q : Place} (h : Place.Apart p q) : Place.Apart q p := ⟨h.2, h.1⟩

namespace Node

/-- A directory stands at a place. -/
def HasDir (root : Node) (place : Place) : Prop :=
  ∃ entries, root.get? place = some (.dir entries)

/-- A place is reached by the way to any place above it. -/
theorem get?_append (root : Node) (p q : Place) :
    root.get? (p ++ q) = (root.get? p).bind (·.get? q) := by
  induction p generalizing root with
  | nil => rfl
  | cons name rest ih =>
    rw [List.cons_append, get?, get?, Option.bind_assoc]
    congr 1
    funext child
    exact ih child

/-- What stands in a directory. -/
theorem get?_snoc {root : Node} {d : Place} {entries : List (String × Node)}
    (h : root.get? d = some (.dir entries)) (name : String) :
    root.get? (d ++ [name]) = entries.lookup name := by
  rw [get?_append, h]
  simp [get?, child?, Node.entries]

/-- Where something stands there is a directory above it. -/
theorem hasDir_of_get?_snoc {root node : Node} {d : Place} {name : String}
    (h : root.get? (d ++ [name]) = some node) : root.HasDir d := by
  rw [get?_append] at h
  obtain ⟨own, hown, hnode⟩ := Option.bind_eq_some_iff.mp h
  cases own with
  | file content runnable => simp [get?, child?, Node.entries] at hnode
  | dir entries => exact ⟨entries, hown⟩

/-- What is found at a place is a directory. -/
theorem hasDir_of_any {root : Node} {place : Place} (h : (root.get? place).any isDir = true) :
    root.HasDir place := by
  obtain ⟨node, hnode, hdir⟩ := (Option.any_eq_true _ _).mp h
  cases node with
  | file content runnable => cases hdir
  | dir entries => exact ⟨entries, hnode⟩

/-- Putting a node below an entry of a directory replaces the entry. -/
theorem put_cons {entries : List (String × Node)} {name : String} {child : Node}
    (h : entries.lookup name = some child) (new : Node) (rest : Place) :
    (Node.dir entries).put new (name :: rest)
      = .dir (Named.set name (child.put new rest) entries) := by
  cases rest with
  | nil => cases child <;> rfl
  | cons second more => simp [put, h]

/-- Erasing below an entry of a directory replaces the entry. -/
theorem erase_cons {entries : List (String × Node)} {name : String} {child : Node}
    (h : entries.lookup name = some child) {rest : Place} (hrest : rest ≠ []) :
    (Node.dir entries).erase (name :: rest) = .dir (Named.set name (child.erase rest) entries) := by
  obtain ⟨second, more, rfl⟩ := List.exists_cons_of_ne_nil hrest
  simp [erase, h]

/-- The way to what stands below a directory begins with an entry of it. -/
theorem exists_entry_of_get?_cons {root sub : Node} {name : String} {rest : Place}
    (h : root.get? (name :: rest) = some sub) :
    ∃ entries child, root = .dir entries ∧ entries.lookup name = some child
      ∧ child.get? rest = some sub := by
  obtain ⟨child, hchild, hsub⟩ := Option.bind_eq_some_iff.mp h
  cases root with
  | file content runnable => simp [child?, Node.entries] at hchild
  | dir entries => exact ⟨entries, child, rfl, hchild, hsub⟩

/-- Putting a node below a place is putting a changed node at that place. -/
theorem put_append {root sub : Node} {p : Place} (h : root.get? p = some sub) (new : Node)
    (q : Place) : root.put new (p ++ q) = root.put (sub.put new q) p := by
  induction p generalizing root with
  | nil =>
    obtain rfl : root = sub := by simpa [get?] using h
    cases root <;> rfl
  | cons name rest ih =>
    obtain ⟨entries, child, rfl, hchild, hsub⟩ := exists_entry_of_get?_cons h
    rw [List.cons_append, put_cons hchild, put_cons hchild, ih hsub]

/-- Erasing below a place is putting a changed node at that place. -/
theorem erase_append {root sub : Node} {p : Place} (h : root.get? p = some sub) {q : Place}
    (hq : q ≠ []) : root.erase (p ++ q) = root.put (sub.erase q) p := by
  induction p generalizing root with
  | nil =>
    obtain rfl : root = sub := by simpa [get?] using h
    cases root <;> rfl
  | cons name rest ih =>
    obtain ⟨entries, child, rfl, hchild, hsub⟩ := exists_entry_of_get?_cons h
    rw [List.cons_append, erase_cons hchild (by simp [hq]), put_cons hchild, ih hsub]

/-- What takes the place of a node stands there. -/
theorem get?_put {root sub : Node} {p : Place} (h : root.get? p = some sub) (new : Node) :
    (root.put new p).get? p = some new := by
  induction p generalizing root with
  | nil => cases root <;> rfl
  | cons name rest ih =>
    obtain ⟨entries, child, rfl, hchild, hsub⟩ := exists_entry_of_get?_cons h
    rw [put_cons hchild, get?]
    simpa [child?, Node.entries] using ih hsub

/-- Of two nodes put at one place the later one counts. -/
theorem put_put {root sub : Node} {p : Place} (h : root.get? p = some sub) (first second : Node) :
    (root.put first p).put second p = root.put second p := by
  induction p generalizing root with
  | nil => cases root <;> cases first <;> rfl
  | cons name rest ih =>
    obtain ⟨entries, child, rfl, hchild, hsub⟩ := exists_entry_of_get?_cons h
    have hset : (Named.set name (child.put first rest) entries).lookup name
        = some (child.put first rest) := Named.lookup_set_self ..
    rw [put_cons hchild, put_cons hset, put_cons hchild, ih hsub, Named.set_set]

/-- Putting the node that stands at a place there changes nothing. -/
theorem put_self {root sub : Node} {p : Place} (h : root.get? p = some sub) :
    root.put sub p = root := by
  induction p generalizing root with
  | nil =>
    obtain rfl : root = sub := by simpa [get?] using h
    cases root <;> rfl
  | cons name rest ih =>
    obtain ⟨entries, child, rfl, hchild, hsub⟩ := exists_entry_of_get?_cons h
    rw [put_cons hchild, ih hsub, Named.set_lookup hchild]

/-- Putting a node leaves alone what is apart from it. -/
theorem get?_put_of_apart {p q : Place} (h : Place.Apart p q) (root new : Node) :
    (root.put new p).get? q = root.get? q := by
  induction p generalizing root q with
  | nil => exact absurd (List.nil_prefix) h.1
  | cons name rest ih =>
    cases q with
    | nil => exact absurd (List.nil_prefix) h.2
    | cons other more =>
      cases root with
      | file content runnable => rfl
      | dir entries =>
        by_cases hname : other = name
        · subst hname
          have hrest : Place.Apart rest more := by simpa [Place.Apart] using h
          cases hlookup : entries.lookup other with
          | some child =>
            rw [put_cons hlookup]
            simp [get?, child?, Node.entries, hlookup, ih hrest]
          | none =>
            cases rest with
            | nil => exact absurd (List.nil_prefix) hrest.1
            | cons second deeper => simp [put, hlookup]
        · have hset : ∀ child : Node,
              (Named.set name child entries).lookup other = entries.lookup other :=
            fun child => Named.lookup_set_of_ne hname child entries
          cases rest with
          | nil => simp [put, get?, child?, Node.entries, hset]
          | cons second deeper =>
            cases hlookup : entries.lookup name <;>
              simp [put, hlookup, get?, child?, Node.entries, hset]

/-- Erasing a node leaves alone what is apart from it. -/
theorem get?_erase_of_apart {p q : Place} (h : Place.Apart p q) (root : Node) :
    (root.erase p).get? q = root.get? q := by
  induction p generalizing root q with
  | nil => exact absurd (List.nil_prefix) h.1
  | cons name rest ih =>
    cases q with
    | nil => exact absurd (List.nil_prefix) h.2
    | cons other more =>
      cases root with
      | file content runnable => rfl
      | dir entries =>
        by_cases hname : other = name
        · subst hname
          have hrest : Place.Apart rest more := by simpa [Place.Apart] using h
          cases rest with
          | nil => exact absurd (List.nil_prefix) hrest.1
          | cons second deeper =>
            cases hlookup : entries.lookup other with
            | some child =>
              rw [erase_cons hlookup (by simp)]
              simp [get?, child?, Node.entries, hlookup, ih hrest]
            | none => simp [erase, hlookup]
        · cases rest with
          | nil => simp [erase, get?, child?, Node.entries, Named.lookup_erase_of_ne hname]
          | cons second deeper =>
            cases hlookup : entries.lookup name <;>
              simp [erase, hlookup, get?, child?, Node.entries, Named.lookup_set_of_ne hname]

/-- Nothing stands at a place in a directory from which it has been erased. -/
theorem get?_erase {root : Node} {d : Place} (name : String) (h : root.HasDir d) :
    (root.erase (d ++ [name])).get? (d ++ [name]) = none := by
  obtain ⟨entries, hd⟩ := h
  rw [erase_append hd (by simp), get?_append, get?_put hd]
  simp [erase, get?, child?, Node.entries]

/-- A directory into which a node has been put. -/
theorem get?_put_entry {root : Node} {d : Place} {entries : List (String × Node)}
    (h : root.get? d = some (.dir entries)) (name : String) (node : Node) :
    (root.put node (d ++ [name])).get? d = some (.dir (Named.set name node entries)) := by
  rw [put_append h, get?_put h]
  rfl

/-- A directory from which a node has been erased. -/
theorem get?_erase_entry {root : Node} {d : Place} {entries : List (String × Node)}
    (h : root.get? d = some (.dir entries)) (name : String) :
    (root.erase (d ++ [name])).get? d = some (.dir (Named.erase name entries)) := by
  rw [erase_append h (by simp), get?_put h]
  rfl

/-- A directory that is not at or below a place stays one when a node is put at that place. -/
theorem HasDir.put {root : Node} {p q : Place} (h : root.HasDir q) (hq : ¬ p <+: q) (new : Node) :
    (root.put new p).HasDir q := by
  obtain ⟨entries, hentries⟩ := h
  by_cases hp : q <+: p
  · -- The change happens somewhere below `q`.
    obtain ⟨below, rfl⟩ := hp
    cases below with
    | nil => simp at hq
    | cons name rest =>
      rw [put_append hentries]
      obtain ⟨own, hown⟩ : ∃ own, (Node.dir entries).put new (name :: rest) = .dir own := by
        cases rest with
        | nil => exact ⟨_, rfl⟩
        | cons second more => cases hlookup : entries.lookup name <;> simp [Node.put, hlookup]
      exact ⟨own, by rw [get?_put hentries, hown]⟩
  · exact ⟨entries, by rw [get?_put_of_apart ⟨hq, hp⟩, hentries]⟩

/-- Above a directory there are directories. -/
theorem HasDir.above {root : Node} {p below : Place} (h : root.HasDir (p ++ below)) :
    root.HasDir p := by
  obtain ⟨entries, hentries⟩ := h
  rw [get?_append] at hentries
  obtain ⟨sub, hsub, hbelow⟩ := Option.bind_eq_some_iff.mp hentries
  cases sub with
  | dir own => exact ⟨own, hsub⟩
  | file content runnable =>
    cases below with
    | nil => simp [get?] at hbelow
    | cons name rest => simp [get?, child?, Node.entries] at hbelow

/-- A directory stays one when a file is put where no directory stands. -/
theorem HasDir.put_file {root : Node} {p q : Place} (h : root.HasDir q) (hp : ¬ root.HasDir p)
    (content : Text.Bytes) (runnable : Bool) : (root.put (.file content runnable) p).HasDir q := by
  refine h.put (fun hbegins => ?_) _
  obtain ⟨below, rfl⟩ := hbegins
  exact hp h.above

/-- Of two nodes put under one name in a directory the later one counts. -/
theorem put_put_snoc {root : Node} {d : Place} (h : root.HasDir d) (name : String)
    (first second : Node) :
    (root.put first (d ++ [name])).put second (d ++ [name]) = root.put second (d ++ [name]) := by
  obtain ⟨entries, hentries⟩ := h
  rw [put_append hentries, put_append (get?_put hentries _), put_put hentries,
    put_append hentries]
  simp only [put, Named.set_set]

/-- A directory that is not at or below a place stays one when that place is erased. -/
theorem HasDir.erase {root : Node} {p q : Place} (h : root.HasDir q) (hq : ¬ p <+: q) :
    (root.erase p).HasDir q := by
  obtain ⟨entries, hentries⟩ := h
  by_cases hp : q <+: p
  · obtain ⟨below, rfl⟩ := hp
    cases below with
    | nil => simp at hq
    | cons name rest =>
      rw [erase_append hentries (by simp)]
      obtain ⟨own, hown⟩ : ∃ own, (Node.dir entries).erase (name :: rest) = .dir own := by
        cases rest with
        | nil => exact ⟨_, rfl⟩
        | cons second more => cases hlookup : entries.lookup name <;> simp [Node.erase, hlookup]
      exact ⟨own, by rw [get?_put hentries, hown]⟩
  · exact ⟨entries, by rw [get?_erase_of_apart ⟨hq, hp⟩, hentries]⟩

section Moving

variable {root : Node} {source goal : Place} {entries entries' : List (String × Node)}
  {name name' : String}

/-- A directory from which an entry has been moved into another one. -/
theorem get?_move_source (h : Place.Apart source goal)
    (hsource : root.get? source = some (.dir entries)) (node : Node) :
    ((root.erase (source ++ [name])).put node (goal ++ [name'])).get? source
      = some (.dir (Named.erase name entries)) := by
  rw [get?_put_of_apart (h.append_right [name']).symm]
  exact get?_erase_entry hsource name

/-- A directory into which an entry has been moved from another one. -/
theorem get?_move_goal (h : Place.Apart source goal)
    (hgoal : root.get? goal = some (.dir entries')) (node : Node) :
    ((root.erase (source ++ [name])).put node (goal ++ [name'])).get? goal
      = some (.dir (Named.set name' node entries')) := by
  have hkept : (root.erase (source ++ [name])).get? goal = some (.dir entries') := by
    rw [get?_erase_of_apart (h.symm.append_right [name]).symm, hgoal]
  exact get?_put_entry hkept name' node

/-- What is apart from the two directories between which an entry is moved. -/
theorem get?_move_of_apart {q : Place} (hsource : Place.Apart source q)
    (hgoal : Place.Apart goal q) (node : Node) :
    ((root.erase (source ++ [name])).put node (goal ++ [name'])).get? q = root.get? q := by
  rw [get?_put_of_apart (hgoal.symm.append_right [name']).symm,
    get?_erase_of_apart (hsource.symm.append_right [name]).symm]

end Moving

end Node

end BootTrial
