import BootTrial.Bench.Files
import BootTrial.Proofs.Paths

/-!
# Elementary steps at joined paths

What each elementary step does at a path that is made by joining a plain name to a path that leads
to a directory. Such a path may be refused for what it spells (`Path.joinFault?`); where it is not,
all depends on what the directory holds under the name.
-/

namespace BootTrial

open Text (Bytes)

/-- Why the path of a name in a directory is refused before the directory is searched, if it is. -/
def Path.joinFault? (p : Path) (name : String) : Option FileFault :=
  match (p.join name).refusal? with
  | some fault => some fault
  | none => if nameLimit < name.utf8ByteSize then some .nameTooLong else none

/-- A path is not refused for its text if it has no NUL in it and is not too long. -/
theorem Path.refusal?_eq_none {p : Path} :
    p.refusal? = none ↔ '\x00' ∉ p.text.toList ∧ p.text.utf8ByteSize < pathLimit := by
  unfold refusal?
  by_cases hnul : '\x00' ∈ p.text.toList
  · simp [hnul]
  · by_cases hlong : pathLimit ≤ p.text.utf8ByteSize
    · simp [hnul, hlong]
    · simpa [hnul, hlong] using Nat.not_le.mp hlong

/-- The path of a name in a directory is not refused if it is not refused for its text and the name
is not too long. -/
theorem Path.joinFault?_eq_none {p : Path} {name : String} :
    p.joinFault? name = none
      ↔ (p.join name).refusal? = none ∧ name.utf8ByteSize ≤ nameLimit := by
  unfold joinFault?
  cases (p.join name).refusal? with
  | some fault => simp
  | none => simp [Nat.not_lt]

section Joined

variable {p : Path} {root : Node} {here d : Place} {name : String}
  {entries : List (String × Node)}

/-- Looking up a name in a directory whose entries are known. -/
theorem lookUp_of_get? (hd : root.get? d = some (.dir entries)) (name : String) :
    lookUp root d name
      = if nameLimit < name.utf8ByteSize then .error .nameTooLong
        else match entries.lookup name with
          | some node => .ok (.taken (d ++ [name]) node)
          | none => .ok (.free d name) := by
  unfold lookUp
  generalize root.get? d = found at hd
  subst hd
  rfl

/-- A name that is free in a directory is that of no entry. -/
theorem lookUp_free_inv {name name' : String} {d parent : Place}
    (h : lookUp root d name = .ok (.free parent name')) :
    parent = d ∧ name' = name ∧ root.get? (d ++ [name]) = none := by
  unfold lookUp at h
  split at h
  · cases h
  · cases h
  · rename_i entries hentries
    split at h
    · cases h
    · cases hentry : entries.lookup name with
      | some node => simp [hentry] at h
      | none =>
        simp only [hentry, Except.ok.injEq, Target.free.injEq] at h
        exact ⟨h.1.symm, h.2.symm, by rw [Node.get?_snoc hentries, hentry]⟩

/-- A name that is taken in a directory is that of an entry. -/
theorem lookUp_taken_inv {name : String} {d place : Place} {node : Node}
    (h : lookUp root d name = .ok (.taken place node)) :
    place = d ++ [name] ∧ root.get? (d ++ [name]) = some node := by
  unfold lookUp at h
  split at h
  · cases h
  · cases h
  · rename_i entries hentries
    split at h
    · cases h
    · cases hentry : entries.lookup name with
      | none => simp [hentry] at h
      | some own =>
        simp only [hentry, Except.ok.injEq, Target.taken.injEq] at h
        exact ⟨h.1.symm, by rw [Node.get?_snoc hentries, hentry, h.2]⟩

/-- What the last component of a path leads to stands at its place. -/
theorem Approach.get?_of_target {approach : Approach} {place : Place} {node : Node}
    (h : approach.target root = .ok (.taken place node)) : root.get? place = some node := by
  have hstanding : ∀ other, root.standing other = .ok (.taken place node) →
      root.get? place = some node := by
    intro other h
    unfold Node.standing at h
    split at h
    · next own hown =>
      cases h
      exact hown
    · cases h
  unfold target at h
  split at h
  · exact hstanding _ h
  · exact hstanding _ h
  · exact hstanding _ h
  · obtain ⟨rfl, hthere⟩ := lookUp_taken_inv h
    exact hthere

/-- What a path leads to stands at the place that the path leads to. -/
theorem Path.exists_place {p : Path} {here : Place} {node : Node}
    (h : p.node root here = .ok node) :
    ∃ place, p.place root here = .ok place ∧ root.get? place = some node := by
  rw [Path.node] at h
  cases happroach : p.approach root here with
  | error fault =>
    rw [happroach] at h
    cases h
  | ok approach =>
    have hwalk : p.walk root here = .ok approach := by
      rw [Path.approach] at happroach
      split at happroach
      · cases happroach
      · exact happroach
    rw [happroach] at h
    cases htarget : approach.target root with
    | error fault =>
      simp only [Except.bind, Approach.entry, htarget] at h
      cases h
    | ok target =>
      cases target with
      | free parent name =>
        simp only [Except.bind, Approach.entry, htarget] at h
        cases h
      | taken place found =>
        simp only [Except.bind, Approach.entry, htarget] at h
        split at h
        · cases h
        · next hends =>
          cases h
          refine ⟨place, ?_, approach.get?_of_target htarget⟩
          rw [Path.place, hwalk]
          simp only [Except.bind, Approach.entry, htarget, hends]
          rfl

/-- Octets are found in a file. -/
theorem Bench.nodeAt_of_bytesAt {bench : Bench} {path : Path} {content : Bytes}
    (h : bench.bytesAt path = .ok content) :
    ∃ runnable, bench.nodeAt path = .ok (.file content runnable) := by
  rw [Bench.bytesAt] at h
  split at h
  · next own runnable hnode =>
    cases h
    exact ⟨runnable, hnode⟩
  · cases h
  · cases h

/-- A name is looked up in a directory, and is not too long. -/
theorem lookUp_inv {name : String} {d : Place} {target : Target}
    (h : lookUp root d name = .ok target) : root.HasDir d ∧ name.utf8ByteSize ≤ nameLimit := by
  unfold lookUp at h
  split at h
  · cases h
  · cases h
  · rename_i entries hentries
    split at h
    · cases h
    · next hshort => exact ⟨⟨entries, hentries⟩, Nat.not_lt.mp hshort⟩

/-- What a joined path leads to. -/
theorem Path.node_join (hname : IsPlain name)
    (hp : passThrough root (p.start here) p.components = .ok d)
    (hd : root.get? d = some (.dir entries)) :
    (p.join name).node root here
      = match p.joinFault? name with
        | some fault => .error fault
        | none => match entries.lookup name with
          | some node => .ok node
          | none => .error .notFound := by
  unfold Path.node Path.joinFault?
  rw [approach_join hname hp]
  cases (p.join name).refusal? with
  | some fault => rfl
  | none =>
    by_cases hlong : nameLimit < name.utf8ByteSize
    · simp [Except.bind, Approach.entry, Approach.target, lookUp_of_get? hd, hlong, Except.map]
    · cases hentry : entries.lookup name <;>
        simp [Except.bind, Approach.entry, Approach.target, lookUp_of_get? hd, hlong, hentry,
          Except.map]

/-- The place of what a joined path leads to. -/
theorem Path.place_join (hname : IsPlain name)
    (hp : passThrough root (p.start here) p.components = .ok d)
    (hd : root.get? d = some (.dir entries)) (hfault : p.joinFault? name = none)
    {node : Node} (hnode : entries.lookup name = some node) :
    (p.join name).place root here = .ok (d ++ [name]) := by
  obtain ⟨hrefusal, hshort⟩ := Path.joinFault?_eq_none.mp hfault
  have hnul : ¬ (p.join name).text.toList.contains '\x00' = true := by
    simpa using (Path.refusal?_eq_none.mp hrefusal).1
  have hlookUp : lookUp root d name = .ok (.taken (d ++ [name]) node) := by
    rw [lookUp_of_get? hd, if_neg (Nat.not_lt.mpr hshort), hnode]
  unfold Path.place
  rw [p.walk_join root here hname, if_neg hnul, hp]
  simp [Except.bind, Approach.entry, Approach.target, hlookUp, Except.map]

/-- Whatever place a joined path is found to have, it is under the name. -/
theorem Path.place_join_ok (hname : IsPlain name)
    (hp : passThrough root (p.start here) p.components = .ok d)
    (hd : root.get? d = some (.dir entries)) {node : Node} (hnode : entries.lookup name = some node)
    {place : Place} (h : (p.join name).place root here = .ok place) : place = d ++ [name] := by
  unfold Path.place at h
  rw [p.walk_join root here hname, hp] at h
  split at h
  · cases h
  · by_cases hlong : nameLimit < name.utf8ByteSize
    · simp [Except.bind, Except.map, Approach.entry, Approach.target, lookUp_of_get? hd, hlong] at h
    · simpa [Except.bind, Except.map, Approach.entry, Approach.target, lookUp_of_get? hd, hlong,
        hnode, eq_comm] using h

/-- The octets at a joined path are those of a file in the directory. -/
theorem Bench.bytesAt_join_ok {bench : Bench} {content : Bytes} (hname : IsPlain name)
    (hp : passThrough bench.files (p.start bench.here) p.components = .ok d)
    (hd : bench.files.get? d = some (.dir entries))
    (h : bench.bytesAt (p.join name) = .ok content) :
    p.joinFault? name = none ∧ ∃ runnable, entries.lookup name = some (.file content runnable) := by
  rw [bytesAt, nodeAt, Path.node_join hname hp hd] at h
  cases hfault : p.joinFault? name with
  | some fault => simp [hfault] at h
  | none =>
    rcases hnode : entries.lookup name with _ | ⟨own, runnable⟩ | own
    · simp [hfault, hnode] at h
    · refine ⟨rfl, runnable, ?_⟩
      simp only [hfault, hnode, Except.ok.injEq] at h
      rw [h]
    · simp [hfault, hnode] at h

/-- The octets of a file in the directory are read at the joined path. -/
theorem Bench.bytesAt_join {bench : Bench} {content : Bytes} {runnable : Bool}
    (hname : IsPlain name)
    (hp : passThrough bench.files (p.start bench.here) p.components = .ok d)
    (hd : bench.files.get? d = some (.dir entries)) (hfault : p.joinFault? name = none)
    (hfile : entries.lookup name = some (.file content runnable)) :
    bench.bytesAt (p.join name) = .ok content := by
  rw [bytesAt, nodeAt, Path.node_join hname hp hd, hfault, hfile]

/-- The text at a joined path is that of a file in the directory. -/
theorem Bench.textAt_join_ok {bench : Bench} {text : String} (hname : IsPlain name)
    (hp : passThrough bench.files (p.start bench.here) p.components = .ok d)
    (hd : bench.files.get? d = some (.dir entries))
    (h : bench.textAt (p.join name) = .ok text) :
    ∃ content runnable, entries.lookup name = some (.file content runnable)
      ∧ Text.decode? content = some text := by
  rw [textAt] at h
  cases hbytes : bench.bytesAt (p.join name) with
  | error fault => simp [hbytes] at h
  | ok content =>
    obtain ⟨-, runnable, hentry⟩ := bytesAt_join_ok hname hp hd hbytes
    refine ⟨content, runnable, hentry, ?_⟩
    cases htext : Text.decode? content with
    | none => simp [hbytes, htext] at h
    | some own =>
      simp only [hbytes, htext, Except.ok.injEq] at h
      rw [h]

namespace FileStep

/-- Making a directory. -/
theorem makeDir_join (hname : IsPlain name)
    (hp : passThrough root (p.start here) p.components = .ok d)
    (hd : root.get? d = some (.dir entries)) :
    makeDir (p.join name) root here
      = match p.joinFault? name with
        | some fault => .error fault
        | none => match entries.lookup name with
          | some _ => .error .alreadyExists
          | none => .ok (root.put .emptyDir (d ++ [name])) := by
  unfold makeDir Path.joinFault?
  rw [Path.approach_join hname hp]
  cases (p.join name).refusal? with
  | some fault => rfl
  | none =>
    simp only [bind, Except.bind, lookUp_of_get? hd]
    by_cases hlong : nameLimit < name.utf8ByteSize
    · simp only [if_pos hlong]
    · simp only [if_neg hlong]
      cases entries.lookup name <;> rfl

/-- Creating a file. -/
theorem createFile_join (hname : IsPlain name)
    (hp : passThrough root (p.start here) p.components = .ok d)
    (hd : root.get? d = some (.dir entries)) :
    createFile (p.join name) root here
      = match p.joinFault? name with
        | some fault => .error fault
        | none => match entries.lookup name with
          | some (.dir _) => .error .isDirectory
          | some (.file _ runnable) => .ok (root.put (.file [] runnable) (d ++ [name]))
          | none => .ok (root.put (.file [] false) (d ++ [name])) := by
  unfold createFile Path.joinFault?
  rw [Path.approach_join hname hp]
  cases (p.join name).refusal? with
  | some fault => rfl
  | none =>
    simp only [bind, Except.bind, lookUp_of_get? hd]
    by_cases hlong : nameLimit < name.utf8ByteSize
    · simp [hlong]
    · rcases entries.lookup name with _ | ⟨content, runnable⟩ | own <;>
        simp [hlong, pure, Except.pure, throw, throwThe, MonadExceptOf.throw]

/-- Filling a file. -/
theorem fillFile_join (hname : IsPlain name)
    (hp : passThrough root (p.start here) p.components = .ok d)
    (hd : root.get? d = some (.dir entries)) (content : Bytes) :
    fillFile (p.join name) content root here
      = match p.joinFault? name with
        | some fault => .error fault
        | none => match entries.lookup name with
          | some (.dir _) => .error .isDirectory
          | some (.file _ runnable) => .ok (root.put (.file content runnable) (d ++ [name]))
          | none => .error .notFound := by
  unfold fillFile Path.joinFault?
  rw [Path.approach_join hname hp]
  cases (p.join name).refusal? with
  | some fault => rfl
  | none =>
    by_cases hlong : nameLimit < name.utf8ByteSize
    · simp [bind, Except.bind, Approach.entry, Approach.target, lookUp_of_get? hd, hlong]
    · rcases hentry : entries.lookup name with _ | ⟨old, runnable⟩ | own <;>
        simp [bind, Except.bind, Approach.entry, Approach.target, lookUp_of_get? hd, hlong,
          hentry, pure, Except.pure, throw, throwThe, MonadExceptOf.throw]

/-- Removing a directory. -/
theorem removeDir_join (hname : IsPlain name)
    (hp : passThrough root (p.start here) p.components = .ok d)
    (hd : root.get? d = some (.dir entries)) :
    removeDir (p.join name) root here
      = match p.joinFault? name with
        | some fault => .error fault
        | none => match entries.lookup name with
          | some (.dir own) =>
            if own.isEmpty then .ok (root.erase (d ++ [name])) else .error .notEmpty
          | some (.file _ _) => .error .notDirectory
          | none => .error .notFound := by
  unfold removeDir Path.joinFault?
  rw [Path.approach_join hname hp]
  cases (p.join name).refusal? with
  | some fault => rfl
  | none =>
    by_cases hlong : nameLimit < name.utf8ByteSize
    · simp [bind, Except.bind, lookUp_of_get? hd, hlong]
    · rcases hentry : entries.lookup name with _ | ⟨content, runnable⟩ | own <;>
        simp [bind, Except.bind, lookUp_of_get? hd, hlong, hentry, pure, Except.pure, throw,
          throwThe, MonadExceptOf.throw]

/-- A node moves to a free name unless this lies below it. -/
theorem moveTo_free_ok {node files : Node} {origin parent : Place}
    (h : moveTo root origin node (.free parent name) = .ok files) :
    ¬ origin <+: parent ∧ files = (root.erase origin).put node (parent ++ [name]) := by
  rw [moveTo] at h
  by_cases hbelow : origin.isPrefixOf parent = true
  · rw [if_pos hbelow] at h
    cases h
  · rw [if_neg hbelow] at h
    cases h
    exact ⟨fun hbegins => hbelow (List.isPrefixOf_iff_prefix.mpr hbegins), rfl⟩

/-- A node moves to itself, or takes the place of a file or an empty directory, as it is one
itself. -/
theorem moveTo_taken_ok {node old files : Node} {origin goal : Place}
    (h : moveTo root origin node (.taken goal old) = .ok files) :
    (origin = goal ∧ files = root)
      ∨ (old.isDir = node.isDir ∧ old.entries = []
        ∧ files = (root.erase origin).put node goal) := by
  rw [moveTo] at h
  by_cases hbelow : origin.isPrefixOf goal.dropLast = true
  · rw [if_pos hbelow] at h
    cases h
  rw [if_neg hbelow] at h
  by_cases habove : goal.isPrefixOf origin.dropLast = true
  · rw [if_pos habove] at h
    cases h
  rw [if_neg habove] at h
  by_cases hself : origin = goal
  · rw [if_pos hself] at h
    cases h
    exact .inl ⟨hself, rfl⟩
  rw [if_neg hself] at h
  by_cases hfull : old.entries = []
  · cases node <;> cases old <;> simp_all [Node.isDir, Node.isFile, Node.entries]
  · simp only [List.isEmpty_eq_false_iff.mpr hfull, Bool.not_false, if_true] at h
    split at h
    · cases h
    · split at h <;> cases h

/-- What renaming does that succeeds: both names may be looked up, something stands under the first
of them, and it moves to where the second leads. -/
theorem rename_join_ok {q : Path} {e : Place} {name' : String} {entries' : List (String × Node)}
    {files : Node} (hname : IsPlain name) (hname' : IsPlain name')
    (hp : passThrough root (p.start here) p.components = .ok d)
    (hq : passThrough root (q.start here) q.components = .ok e)
    (hd : root.get? d = some (.dir entries)) (he : root.get? e = some (.dir entries'))
    (h : rename (p.join name) (q.join name') root here = .ok files) :
    p.joinFault? name = none ∧ q.joinFault? name' = none ∧ ∃ node,
      entries.lookup name = some node ∧
      moveTo root (d ++ [name]) node
        (match entries'.lookup name' with
          | some old => .taken (e ++ [name']) old
          | none => .free e name') = .ok files := by
  unfold rename at h
  by_cases hnul : (q.join name').text.toList.contains '\x00' = true
  · rw [if_pos hnul] at h
    cases h
  · rw [if_neg hnul, Path.approach_join hname hp, Path.approach_join hname' hq] at h
    rw [Path.joinFault?_eq_none, Path.joinFault?_eq_none]
    cases hrefusal : (p.join name).refusal? with
    | some fault =>
      rw [hrefusal] at h
      cases h
    | none =>
      cases hrefusal' : (q.join name').refusal? with
      | some fault =>
        rw [hrefusal, hrefusal'] at h
        cases h
      | none =>
        rw [hrefusal, hrefusal'] at h
        simp only [bind, Except.bind, lookUp_of_get? hd, lookUp_of_get? he] at h
        by_cases hlong : nameLimit < name.utf8ByteSize
        · simp [hlong] at h
        · rw [if_neg hlong] at h
          cases hentry : entries.lookup name with
          | none =>
            rw [hentry] at h
            cases h
          | some node =>
            by_cases hlong' : nameLimit < name'.utf8ByteSize
            · simp [hentry, hlong'] at h
            · refine ⟨⟨rfl, Nat.not_lt.mp hlong⟩, ⟨rfl, Nat.not_lt.mp hlong'⟩, node, rfl, ?_⟩
              rw [hentry, if_neg hlong'] at h
              cases hgoal : entries'.lookup name' <;> simpa [hgoal] using h

/-- Renaming moves what stands under the first name to where the second leads, if both names may be
looked up. -/
theorem rename_join {q : Path} {e : Place} {name' : String} {entries' : List (String × Node)}
    {node : Node} (hname : IsPlain name) (hname' : IsPlain name')
    (hp : passThrough root (p.start here) p.components = .ok d)
    (hq : passThrough root (q.start here) q.components = .ok e)
    (hd : root.get? d = some (.dir entries)) (he : root.get? e = some (.dir entries'))
    (hfault : p.joinFault? name = none) (hfault' : q.joinFault? name' = none)
    (hentry : entries.lookup name = some node) :
    rename (p.join name) (q.join name') root here
      = moveTo root (d ++ [name]) node
        (match entries'.lookup name' with
          | some old => .taken (e ++ [name']) old
          | none => .free e name') := by
  obtain ⟨hrefusal, hshort⟩ := Path.joinFault?_eq_none.mp hfault
  obtain ⟨hrefusal', hshort'⟩ := Path.joinFault?_eq_none.mp hfault'
  have hnul : ¬ (q.join name').text.toList.contains '\x00' = true := by
    simpa using (Path.refusal?_eq_none.mp hrefusal').1
  unfold rename
  rw [if_neg hnul, Path.approach_join hname hp, Path.approach_join hname' hq, hrefusal, hrefusal']
  simp only [bind, Except.bind, lookUp_of_get? hd, lookUp_of_get? he, hentry,
    if_neg (Nat.not_lt.mpr hshort), if_neg (Nat.not_lt.mpr hshort'), Bool.or_self,
    Bool.and_false, Bool.false_eq_true, if_false]
  cases entries'.lookup name' <;> rfl

/-- Renaming succeeds where nothing stands under the second name, and it does not lie below what is
renamed. -/
theorem rename_join_free {q : Path} {e : Place} {name' : String} {entries' : List (String × Node)}
    {node : Node} (hname : IsPlain name) (hname' : IsPlain name')
    (hp : passThrough root (p.start here) p.components = .ok d)
    (hq : passThrough root (q.start here) q.components = .ok e)
    (hd : root.get? d = some (.dir entries)) (he : root.get? e = some (.dir entries'))
    (hfault : p.joinFault? name = none) (hfault' : q.joinFault? name' = none)
    (hentry : entries.lookup name = some node) (hgoal : entries'.lookup name' = none)
    (hbelow : ¬ d ++ [name] <+: e) :
    rename (p.join name) (q.join name') root here
      = .ok ((root.erase (d ++ [name])).put node (e ++ [name'])) := by
  have hbegins : ¬ (d ++ [name]).isPrefixOf e = true := by
    rwa [List.isPrefixOf_iff_prefix]
  rw [rename_join hname hname' hp hq hd he hfault hfault' hentry, hgoal]
  simp only [moveTo, if_neg hbegins]

end FileStep

end Joined

end BootTrial
