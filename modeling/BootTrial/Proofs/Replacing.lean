import BootTrial.Proofs.Neighbours
import BootTrial.Proofs.Parties
import BootTrial.Proofs.Undisturbed

/-!
# A file that takes the place of another

A table is not written over the file that it replaces. It is written to a draft beside the file, and
this takes the place of the file in one step; `Scenario.Writing` lists how far that comes before it
fails. The draft is put where no directory stands, so it is in the way of no path that came somewhere
(`Path.Drafts`). Hence the path of the file leads to what it led to as long as there is a draft, and
to the whole table when it has moved (`Scenario.write_atomic`).
-/

namespace BootTrial

open Text (Bytes)

namespace Node

variable {root before after : Node} {d p q : Place} {name : String} {content : Bytes}
  {runnable : Bool}

/-- Nothing stands below a place at which there is no directory. -/
theorem get?_below (h : ¬ root.HasDir p) {below : Place} (hbelow : below ≠ []) :
    root.get? (p ++ below) = none := by
  obtain ⟨name, rest, rfl⟩ := List.exists_cons_of_ne_nil hbelow
  cases hthere : root.get? (p ++ name :: rest) with
  | none => rfl
  | some node =>
    have hentry : root.get? (p ++ [name]) ≠ none := by
      intro hnone
      rw [← List.singleton_append, ← List.append_assoc, get?_append, hnone] at hthere
      cases hthere
    obtain ⟨entry, hentry⟩ := Option.ne_none_iff_exists'.mp hentry
    exact absurd (hasDir_of_get?_snoc hentry) h

/-- A change at a place that has held no directory, and holds none, is none at any other place. -/
theorem AgreesAt.of_leaf (hbefore : ¬ before.HasDir (d ++ [name]))
    (hafter : ¬ after.HasDir (d ++ [name])) (hd : before.HasDir d)
    (hapart : ∀ q, Place.Apart (d ++ [name]) q → after.get? q = before.get? q)
    (hdirs : ∀ q, before.HasDir q → ¬ d ++ [name] <+: q → after.HasDir q) (hq : q ≠ d ++ [name]) :
    before.AgreesAt after q := by
  by_cases hbelow : d ++ [name] <+: q
  · obtain ⟨below, rfl⟩ := hbelow
    have hne : below ≠ [] := by
      rintro rfl
      simp at hq
    exact .inl (by rw [get?_below hbefore hne, get?_below hafter hne])
  · exact .of_change hbelow (by rwa [List.dropLast_concat]) hapart hdirs

/-- Putting a file where no directory stands changes nothing elsewhere. -/
theorem AgreesAt.put_file (hd : root.HasDir d) (hplace : ¬ root.HasDir (d ++ [name]))
    (hq : q ≠ d ++ [name]) :
    root.AgreesAt (root.put (.file content runnable) (d ++ [name])) q := by
  refine .of_leaf hplace ?_ hd (fun _ hapart => get?_put_of_apart hapart _ _)
    (fun _ hdir hbelow => hdir.put hbelow _) hq
  rintro ⟨entries, hentries⟩
  obtain ⟨own, hown⟩ := hd
  rw [get?_put_self hown] at hentries
  cases hentries

/-- Erasing what is no directory changes nothing elsewhere. -/
theorem AgreesAt.erase_file (hd : root.HasDir d) (hplace : ¬ root.HasDir (d ++ [name]))
    (hq : q ≠ d ++ [name]) : root.AgreesAt (root.erase (d ++ [name])) q := by
  refine .of_leaf hplace ?_ hd (fun _ hapart => get?_erase_of_apart hapart _)
    (fun _ hdir hbelow => hdir.erase hbelow) hq
  rintro ⟨entries, hentries⟩
  rw [get?_erase name hd] at hentries
  cases hentries

/-- What stood at one place stands at another, and all else is the same. -/
structure FileMoved (origin goal : Place) (before after : Node) : Prop where
  /-- The directories are there still. -/
  dirs : ∀ q, before.HasDir q → after.HasDir q
  /-- It stands at the other place. -/
  there : after.get? goal = before.get? origin
  /-- It has gone from the one. -/
  gone : goal ≠ origin → after.get? origin = none
  /-- Elsewhere nothing has changed. -/
  others : ∀ q, q ≠ origin → q ≠ goal → before.AgreesAt after q

/-- A file that is taken from one place and put at another. -/
theorem FileMoved.of_put {o : Place} {n : String}
    (hfile : root.get? (o ++ [n]) = some (.file content runnable)) (hd : root.HasDir d)
    (hgoal : ¬ root.HasDir (d ++ [name])) :
    FileMoved (o ++ [n]) (d ++ [name]) root
      ((root.erase (o ++ [n])).put (.file content runnable) (d ++ [name])) := by
  have ho := hasDir_of_get?_snoc hfile
  have hleaf : ¬ root.HasDir (o ++ [n]) := by
    rintro ⟨entries, hentries⟩
    rw [hfile] at hentries
    cases hentries
  have hout : ∀ {q}, root.HasDir q → ¬ o ++ [n] <+: q := by
    rintro q hq ⟨below, rfl⟩
    exact hleaf hq.above
  have hgone : ¬ (root.erase (o ++ [n])).HasDir (o ++ [n]) := by
    rintro ⟨entries, hentries⟩
    rw [get?_erase n ho] at hentries
    cases hentries
  have herased : ¬ (root.erase (o ++ [n])).HasDir (d ++ [name]) := by
    rintro ⟨entries, hentries⟩
    by_cases hself : d ++ [name] = o ++ [n]
    · exact hgone ⟨entries, hself ▸ hentries⟩
    · rcases AgreesAt.erase_file ho hleaf hself with hsame | ⟨hdir, -⟩
      · exact hgoal ⟨entries, hsame ▸ hentries⟩
      · exact hgoal hdir
  have hd' : (root.erase (o ++ [n])).HasDir d := hd.erase (hout hd)
  refine ⟨fun q hq => (hq.erase (hout hq)).put_file herased _ _, ?_, fun hne => ?_, fun q ho' hg => ?_⟩
  · obtain ⟨entries, hentries⟩ := hd'
    rw [hfile, get?_put_self hentries]
  · have hput : (root.erase (o ++ [n])).AgreesAt
        ((root.erase (o ++ [n])).put (.file content runnable) (d ++ [name])) (o ++ [n]) :=
      .put_file hd' herased hne.symm
    rcases hput with hsame | ⟨hdir, -⟩
    · rw [hsame, get?_erase n ho]
    · exact absurd hdir hgone
  · exact (AgreesAt.erase_file ho hleaf ho').trans (.put_file hd' herased hg)

end Node

/-- A path that comes to a file leads to it. -/
theorem Path.leads_file {p : Path} {root : Node} {here d : Place} {name : String} {content : Bytes}
    {runnable : Bool} (happroach : p.approach root here = .ok ⟨d, .name name, false⟩)
    (hfile : lookUp root d name = .ok (.taken (d ++ [name]) (.file content runnable))) :
    p.place root here = .ok (d ++ [name]) ∧ p.node root here = .ok (.file content runnable) := by
  have hentry : Approach.entry root ⟨d, .name name, false⟩
      = .ok (d ++ [name], .file content runnable) := by
    simp [Approach.entry, Approach.target, hfile]
  have hwalk : p.walk root here = .ok ⟨d, .name name, false⟩ := by
    rw [approach] at happroach
    split at happroach
    · cases happroach
    · exact happroach
  constructor
  · rw [place, hwalk]
    simp only [Except.bind, hentry, Except.map]
  · rw [node, happroach]
    simp only [Except.bind, hentry, Except.map]

namespace FileStep

variable {root files : Node} {here : Place} {p : Path}

/-- Moving a file. -/
theorem moveTo_file {content : Bytes} {runnable : Bool} {o d : Place} {n name : String}
    {target : Target} (hfile : root.get? (o ++ [n]) = some (.file content runnable))
    (htarget : lookUp root d name = .ok target)
    (h : moveTo root (o ++ [n]) (.file content runnable) target = .ok files) :
    Node.FileMoved (o ++ [n]) (d ++ [name]) root files := by
  obtain ⟨hd, -⟩ := lookUp_inv htarget
  cases target with
  | free parent name' =>
    obtain ⟨rfl, rfl, hnone⟩ := lookUp_free_inv htarget
    obtain ⟨-, rfl⟩ := moveTo_free_ok h
    refine .of_put hfile hd ?_
    rintro ⟨entries, hentries⟩
    rw [hnone] at hentries
    cases hentries
  | taken goal old =>
    obtain ⟨rfl, hold⟩ := lookUp_taken_inv htarget
    rcases moveTo_taken_ok h with ⟨hself, rfl⟩ | ⟨hkind, -, rfl⟩
    · exact ⟨fun _ hq => hq, by rw [hself], fun hne => absurd hself.symm hne, fun _ _ _ => .inl rfl⟩
    · refine .of_put hfile hd ?_
      rintro ⟨entries, hentries⟩
      rw [hold] at hentries
      cases hentries
      cases hkind

/-- Renaming a file: the new path leads to where it has moved. -/
theorem rename_file {q : Path} {o : Place} {n : String} {content : Bytes} {runnable : Bool}
    (happroach : p.approach root here = .ok ⟨o, .name n, false⟩)
    (hfile : root.get? (o ++ [n]) = some (.file content runnable))
    (h : rename p q root here = .ok files) :
    ∃ goal, q.place files here = .ok goal ∧ q.node files here = .ok (.file content runnable)
      ∧ Node.FileMoved (o ++ [n]) goal root files := by
  unfold rename at h
  by_cases hnul : q.text.toList.contains '\x00' = true
  · rw [if_pos hnul] at h
    cases h
  rw [if_neg hnul] at h
  obtain ⟨source, hsource, h⟩ := exceptBind_inv h
  obtain ⟨⟨d, last, endsInSlash⟩, hdest, h⟩ := exceptBind_inv h
  obtain rfl := Except.ok.inj (happroach.symm.trans hsource)
  simp only at h
  split at h
  · rename_i name₁ name hname
    cases hname
    obtain ⟨found, hfound, h⟩ := exceptBind_inv h
    cases found with
    | free parent' name' => cases h
    | taken origin node =>
      obtain ⟨rfl, hnode⟩ := lookUp_taken_inv hfound
      rw [hfile] at hnode
      cases hnode
      obtain ⟨target, htarget, h⟩ := exceptBind_inv h
      -- A path that ends in a slash does not name a file.
      cases endsInSlash with
      | true => cases h
      | false =>
        have hmoved := moveTo_file hfile htarget h
        obtain ⟨hd, hshort⟩ := lookUp_inv htarget
        obtain ⟨entries, hentries⟩ := hmoved.dirs d hd
        have hthere := hmoved.there
        rw [hfile, Node.get?_snoc hentries] at hthere
        have hfound : lookUp files d name
            = .ok (.taken (d ++ [name]) (.file content runnable)) := by
          rw [lookUp_of_get? hentries, if_neg (Nat.not_lt.mpr hshort), hthere]
        have hleads := Path.leads_file (Path.approach_of_keeps hmoved.dirs hdest) hfound
        exact ⟨d ++ [name], hleads.1, hleads.2, hmoved⟩
  · cases h

end FileStep

namespace Path

/-- The path of the draft of the file at a path comes to a name in a directory, under which there is
no directory. -/
structure Drafts (path : Path) (name : String) (root : Node) (here d : Place) : Prop where
  /-- The file has a name. -/
  fileName : path.fileName? = some name
  /-- The path of the draft is followed. -/
  approach : (path.sibling (Scenario.draftName name)).approach root here
    = .ok ⟨d, .name (Scenario.draftName name), false⟩
  /-- It comes to a directory. -/
  dir : root.HasDir d
  /-- The name is not too long. -/
  short : (Scenario.draftName name).utf8ByteSize ≤ nameLimit
  /-- The draft may be a file. -/
  free : ¬ root.HasDir (d ++ [Scenario.draftName name])

end Path

/-- A draft has a name. -/
theorem Scenario.draftName_ne_empty (name : String) : draftName name ≠ "" := by
  simp [draftName]

namespace Path.Drafts

variable {path : Path} {name : String} {root files : Node} {here d : Place} {content : Bytes}
  {runnable : Bool}

/-- A draft that has been created. -/
theorem of_createFile (hname : path.fileName? = some name)
    (h : FileStep.createFile (path.sibling (Scenario.draftName name)) root here = .ok files) :
    ∃ d runnable, path.Drafts name root here d
      ∧ files = root.put (.file [] runnable) (d ++ [Scenario.draftName name]) := by
  obtain ⟨d, last, runnable, happroach, hdir, hshort, hfree, rfl⟩ := FileStep.createFile_ok h
  obtain rfl : Scenario.draftName name = last := by
    have hlast := (approach_inv happroach).2
    rw [path.components_sibling (Scenario.draftName_ne_empty name), lastPart,
      List.getLast?_concat] at hlast
    split at hlast
    · cases hlast
    · cases hlast
    · cases hlast
    · rename_i hsome
      cases hsome
      simpa using hlast
  exact ⟨d, runnable, ⟨hname, happroach, hdir, hshort, hfree⟩, rfl⟩

variable (h : path.Drafts name root here d)
include h

/-- While there is a draft its path is followed to it. -/
theorem approach_put (content : Bytes) (runnable : Bool) :
    (path.sibling (Scenario.draftName name)).approach
        (root.put (.file content runnable) (d ++ [Scenario.draftName name])) here
      = .ok ⟨d, .name (Scenario.draftName name), false⟩ :=
  approach_put_file h.free h.approach

/-- The draft stands where it has been put, -/
theorem get?_put (content : Bytes) (runnable : Bool) :
    (root.put (.file content runnable) (d ++ [Scenario.draftName name])).get?
      (d ++ [Scenario.draftName name]) = some (.file content runnable) := by
  obtain ⟨entries, hentries⟩ := h.dir
  exact Node.get?_put_self hentries _ _

end Path.Drafts

/-- Between two trees a path leads to what it led to, or to a file with the given content; and
nothing has changed but where the path or the path of its draft leads, or led. -/
structure Node.Rewritten (path : Path) (content : Bytes) (here : Place) (before after : Node) :
    Prop where
  /-- What the path leads to. -/
  target : path.node after here = path.node before here
    ∨ ∃ runnable, path.node after here = .ok (.file content runnable)
  /-- All else is the same. -/
  others : ∀ q, before.AgreesAt after q ∨ ∃ p,
    (p = path ∨ ∃ name, path.fileName? = some name ∧ p = path.sibling (Scenario.draftName name))
      ∧ (p.place before here = .ok q ∨ p.place after here = .ok q)

/-- A tree that is left as it is. -/
theorem Node.Rewritten.refl (path : Path) (content : Bytes) (here : Place) (root : Node) :
    Node.Rewritten path content here root root :=
  ⟨.inl rfl, fun _ => .inl (.inl rfl)⟩

namespace Path.Drafts

variable {path : Path} {name : String} {root moved : Node} {here d goal : Place} {content : Bytes}
  {runnable : Bool} (h : path.Drafts name root here d)
include h

end Path.Drafts

namespace Scenario

variable {path : Path} {header : List String} {record : Scenario} {bench last : Bench}
  {result : Except Error Unit}

/-- How putting a table in the place of the file at a path ends: with what result, and on what
bench. -/
inductive Writing (path : Path) (header : List String) (record : Scenario) (bench : Bench) :
    Except Error Unit → Bench → Prop where
  /-- It is refused before anything has changed. -/
  | refused (failure : Error) : Writing path header record bench (.error failure) bench
  /-- The draft is created and filled, and cannot be moved. -/
  | drafted (name : String) (d : Place) (runnable : Bool) (failure : Error)
      (draft : path.Drafts name bench.files bench.here d) :
      Writing path header record bench (.error failure)
        ((bench.stepTo (bench.files.put (.file [] runnable) (d ++ [draftName name]))).stepTo
          (bench.files.put (.file (record.tableBytes header) runnable) (d ++ [draftName name])))
  /-- The draft moves to where the path leads, and the header is remembered. -/
  | replaced (name : String) (d goal : Place) (runnable : Bool) (moved : Node)
      (draft : path.Drafts name bench.files bench.here d) (names : record.names = header)
      (place : path.place moved bench.here = .ok goal)
      (node : path.node moved bench.here = .ok (.file (record.tableBytes header) runnable))
      (move : Node.FileMoved (d ++ [draftName name]) goal
        (bench.files.put (.file (record.tableBytes header) runnable) (d ++ [draftName name])) moved) :
      Writing path header record bench (.ok ())
        { ((bench.stepTo (bench.files.put (.file [] runnable) (d ++ [draftName name]))).stepTo
            (bench.files.put (.file (record.tableBytes header) runnable)
              (d ++ [draftName name]))).stepTo moved with
          headers := bench.headers.insert goal header }

/-- Putting a table in the place of the file at a path ends in one of these ways. -/
theorem writing_perform (path : Path) (header : List String) (record : Scenario) (bench : Bench) :
    Writing path header record bench (bench.perform (record.write path header)).1
      (bench.perform (record.write path header)).2 := by
  unfold write
  cases hnames : record.checkNames path header with
  | error failure => exact .refused failure
  | ok _ =>
  rw [Bench.perform_bind_ok (Bench.perform_ofExcept bench _),
    Bench.perform_bind_ok (Bench.perform_get bench)]
  cases hknown : checkKnownHeader path header bench with
  | error failure => exact .refused failure
  | ok _ =>
  rw [Bench.perform_bind_ok (Bench.perform_ofExcept bench _)]
  cases hname : path.fileName? with
  | none => exact .refused _
  | some name =>
  simp only
  -- The draft is created,
  cases hcreate : FileStep.createFile (path.sibling (draftName name)) bench.files bench.here with
  | error fault =>
    rw [Bench.perform_bind_error
      (Bench.perform_reportedAs_error (Bench.perform_take_error hcreate) _)]
    exact .refused _
  | ok created =>
  obtain ⟨d, runnable, draft, rfl⟩ := Path.Drafts.of_createFile hname hcreate
  rw [Bench.perform_bind_ok (Bench.perform_reportedAs_ok (Bench.perform_take_ok hcreate) _)]
  generalize hmade : bench.stepTo (bench.files.put (.file [] runnable) (d ++ [draftName name])) = made
  -- it is filled,
  have hfill : FileStep.fillFile (path.sibling (draftName name)) (record.tableBytes header)
      made.files made.here = .ok (bench.files.put (.file (record.tableBytes header) runnable)
        (d ++ [draftName name])) := by
    subst hmade
    exact FileStep.fillFile_created draft.approach draft.dir draft.short draft.free
  rw [Bench.perform_bind_ok (Bench.perform_reportedAs_ok (Bench.perform_take_ok hfill) _)]
  generalize hdrafted : made.stepTo (bench.files.put (.file (record.tableBytes header) runnable)
    (d ++ [draftName name])) = drafted
  -- and it moves to where the path leads.
  rw [FileWork.rename]
  cases hrename : FileStep.rename (path.sibling (draftName name)) path drafted.files
      drafted.here with
  | error fault =>
    rw [Bench.perform_bind_error
      (Bench.perform_reportedAs_error (Bench.perform_take_error hrename) _)]
    subst hdrafted hmade
    exact .drafted name d runnable _ draft
  | ok moved =>
  rw [Bench.perform_bind_ok (Bench.perform_reportedAs_ok (Bench.perform_take_ok hrename) _)]
  subst hdrafted hmade
  obtain ⟨goal, hplace, hnode, hmove⟩ := FileStep.rename_file
    (draft.approach_put (record.tableBytes header) runnable)
    (draft.get?_put (record.tableBytes header) runnable) hrename
  have hnamesEq : record.names = header := by
    unfold checkNames at hnames
    by_cases hsame : record.names = header
    · exact hsame
    · simp [hsame] at hnames
  rw [Bench.perform_bind, Bench.perform_reportedAs, Bench.perform_look, Bench.placeAt]
  simp only [Bench.stepTo] at hplace ⊢
  rw [hplace]
  exact .replaced name d goal runnable moved draft hnamesEq hplace hnode hmove

end Scenario

end BootTrial
