import BootTrial.Proofs.Reading
import BootTrial.Proofs.Steps

/-!
# Work inside one directory

Work on a test changes the file tree at most in the directory of the test. `Node.Inside` says so of
two trees, and which entries of the directory stay as they are. `Bench.Inside` says it of two
benches, of every moment between them as well, and also what kind of events these moments are.

Work stays inside the directory that a path leads to (`Bench.StaysIn`) if this holds whenever the
path leads there. Since the path leads there afterwards as well, this is a preorder that composed
work keeps if its pieces do.
-/

namespace BootTrial

open Text (Bytes)

namespace Node

/-- Two trees differ at most in what the directory at a place holds, and there not under the names
that are kept. -/
def Inside (d : Place) (keep : String → Prop) (before after : Node) : Prop :=
  ∃ entries entries', before.get? d = some (.dir entries) ∧ after = before.put (.dir entries') d
    ∧ ∀ name, keep name → entries'.lookup name = entries.lookup name

namespace Inside

variable {d : Place} {keep : String → Prop} {before middle after : Node}

/-- A tree with a directory at the place does not differ from itself. -/
theorem refl (h : before.HasDir d) : Inside d keep before before := by
  obtain ⟨entries, hentries⟩ := h
  exact ⟨entries, entries, hentries, (put_self hentries).symm, fun _ _ => rfl⟩

/-- Two changes in the directory are one. -/
theorem trans (h : Inside d keep before middle) (h' : Inside d keep middle after) :
    Inside d keep before after := by
  obtain ⟨entries, entries', hentries, rfl, hkeep⟩ := h
  obtain ⟨own, own', hown, rfl, hkeep'⟩ := h'
  have hsame : entries' = own := by
    rw [get?_put hentries] at hown
    cases hown
    rfl
  refine ⟨entries, own', hentries, put_put hentries _ _, fun name hname => ?_⟩
  rw [hkeep' name hname, ← hsame, hkeep name hname]

/-- Fewer names may be kept. -/
theorem mono (h : Inside d keep before after) {keep' : String → Prop}
    (himp : ∀ name, keep' name → keep name) : Inside d keep' before after := by
  obtain ⟨entries, entries', hentries, hafter, hkeep⟩ := h
  exact ⟨entries, entries', hentries, hafter, fun name hname => hkeep name (himp name hname)⟩

/-- There is a directory at the place before. -/
theorem hasDir_before (h : Inside d keep before after) : before.HasDir d := by
  obtain ⟨entries, -, hentries, -, -⟩ := h
  exact ⟨entries, hentries⟩

/-- There is a directory at the place afterwards. -/
theorem hasDir (h : Inside d keep before after) : after.HasDir d := by
  obtain ⟨entries, entries', hentries, rfl, -⟩ := h
  exact ⟨entries', get?_put hentries _⟩

/-- What is apart from the place stays. -/
theorem get?_of_apart (h : Inside d keep before after) {q : Place} (hq : Place.Apart d q) :
    after.get? q = before.get? q := by
  obtain ⟨entries, entries', hentries, rfl, -⟩ := h
  exact get?_put_of_apart hq before _

/-- What stands in the directory under a name that is kept stays. -/
theorem get?_kept (h : Inside d keep before after) {name : String} (hname : keep name) :
    after.get? (d ++ [name]) = before.get? (d ++ [name]) := by
  obtain ⟨entries, entries', hentries, rfl, hkeep⟩ := h
  rw [get?_snoc (get?_put hentries _), get?_snoc hentries, hkeep name hname]

/-- The directory above the place has another directory under the name, and is the same else. -/
theorem get?_parent {parent : Place} {name : String}
    (h : Inside (parent ++ [name]) keep before after) {entries : List (String × Node)}
    (hentries : before.get? parent = some (.dir entries)) :
    ∃ own own', entries.lookup name = some (.dir own)
      ∧ after.get? parent = some (.dir (Named.set name (.dir own') entries))
      ∧ ∀ name, keep name → own'.lookup name = own.lookup name := by
  obtain ⟨own, own', hown, rfl, hkeep⟩ := h
  rw [get?_snoc hentries] at hown
  refine ⟨own, own', hown, ?_, hkeep⟩
  rw [put_append hentries, get?_put hentries, put_cons hown]
  rfl

/-- A node put into the directory under a name that is not kept. -/
theorem put_entry (hd : before.HasDir d) {name : String} (hname : ¬ keep name) (node : Node) :
    Inside d keep before (before.put node (d ++ [name])) := by
  obtain ⟨entries, hentries⟩ := hd
  refine ⟨entries, Named.set name node entries, hentries, ?_, fun other hother => ?_⟩
  · rw [put_append hentries]
    rfl
  · have hne : other ≠ name := fun h => hname (h ▸ hother)
    exact Named.lookup_set_of_ne hne node entries

/-- A directory above stays one. -/
theorem hasDir_above (h : Inside d keep before after) {q : Place} (hq : before.HasDir q)
    (hbelow : ¬ (d <+: q ∧ q ≠ d)) : after.HasDir q := by
  obtain ⟨entries, entries', hentries, rfl, -⟩ := h
  by_cases hqd : q = d
  · exact ⟨entries', by rw [hqd, get?_put hentries]⟩
  · exact hq.put (fun hpre => hbelow ⟨hpre, hqd⟩) _

end Inside

end Node

namespace Path

/-- A path leads on where it led when the directory there changes. -/
theorem Leads.inside {p : Path} {before after : Node} {here d : Place} {keep : String → Prop}
    (h : p.Leads before here d) (hinside : Node.Inside d keep before after) :
    p.Leads after here d :=
  h.of_hasDir fun _ hq hbelow => hinside.hasDir_above hq hbelow

end Path

namespace Bench

/-- Between two benches only what the directory at a place holds has changed, and nothing under the
names that are kept, through events of the given kind. -/
structure Inside (d : Place) (keep : String → Prop) (kind : Event → Prop)
    (before after : Bench) : Prop where
  /-- The working directory is the same. -/
  here : after.here = before.here
  /-- The files differ in the directory at most. -/
  files : Node.Inside d keep before.files after.files
  /-- So they do at every moment. -/
  history : ∃ moments, after.history = moments ++ before.history
    ∧ ∀ moment ∈ moments, kind moment.event ∧ Node.Inside d keep before.files moment.files

namespace Inside

variable {d : Place} {keep : String → Prop} {kind : Event → Prop} {before middle after : Bench}

/-- A bench with a directory at the place does not differ from itself. -/
theorem refl (h : before.files.HasDir d) : Inside d keep kind before before :=
  ⟨rfl, .refl h, [], rfl, by simp⟩

/-- Two changes in the directory are one. -/
theorem trans (h : Inside d keep kind before middle) (h' : Inside d keep kind middle after) :
    Inside d keep kind before after := by
  obtain ⟨first, hfirst, hmoments⟩ := h.history
  obtain ⟨second, hsecond, hmoments'⟩ := h'.history
  refine ⟨h'.here.trans h.here, h.files.trans h'.files, second ++ first, ?_, ?_⟩
  · rw [hsecond, hfirst, List.append_assoc]
  · intro moment hmem
    rcases List.mem_append.mp hmem with hmem | hmem
    · exact ⟨(hmoments' moment hmem).1, h.files.trans (hmoments' moment hmem).2⟩
    · exact hmoments moment hmem

/-- Fewer names may be kept, and more events may be of the kind. -/
theorem mono (h : Inside d keep kind before after) {keep' : String → Prop}
    {kind' : Event → Prop} (hkeep : ∀ name, keep' name → keep name)
    (hkind : ∀ event, kind event → kind' event) : Inside d keep' kind' before after := by
  obtain ⟨moments, hmoments, hmem⟩ := h.history
  exact ⟨h.here, h.files.mono hkeep, moments, hmoments, fun moment hin =>
    ⟨hkind _ (hmem moment hin).1, (hmem moment hin).2.mono hkeep⟩⟩

/-- Where nothing moves nothing changes. -/
theorem of_unmoved (h : Unmoved before after) (hd : before.files.HasDir d) :
    Inside d keep kind before after :=
  ⟨h.here, by rw [h.files]; exact .refl hd, [], h.history, by simp⟩

/-- One step that changes the directory. -/
theorem stepTo {files : Node} (h : Node.Inside d keep before.files files) (hkind : kind .changed) :
    Inside d keep kind before (before.stepTo files) :=
  ⟨rfl, h, [⟨.changed, files⟩], rfl, by simpa using ⟨hkind, h⟩⟩

end Inside

/-- If a path leads to a place, only what the directory there holds changes between two benches. -/
def StaysIn (p : Path) (d : Place) (keep : String → Prop) (kind : Event → Prop)
    (before after : Bench) : Prop :=
  p.Leads before.files before.here d → Inside d keep kind before after

/-- A path leads on where it led when the directory there changes. -/
theorem Inside.leads {p : Path} {d : Place} {keep : String → Prop} {kind : Event → Prop}
    {before after : Bench} (h : Inside d keep kind before after)
    (hp : p.Leads before.files before.here d) : p.Leads after.files after.here d := by
  rw [h.here]
  exact hp.inside h.files

instance (p : Path) (d : Place) (keep : String → Prop) (kind : Event → Prop) :
    IsPreorder Bench (StaysIn p d keep kind) where
  refl _ hp := .refl hp.dir
  trans _ _ _ h h' hp := (h hp).trans (h' ((h hp).leads hp))

/-- Where nothing moves, nothing moves out of a directory. -/
theorem StaysIn.of_unmoved {p : Path} {d : Place} {keep : String → Prop} {kind : Event → Prop}
    (before after : Bench) (h : Unmoved before after) : StaysIn p d keep kind before after :=
  fun hp => .of_unmoved h hp.dir

end Bench

section Files

variable {p : Path} {d : Place} {keep : String → Prop} {kind : Event → Prop} {name : String}

/-- Creating a file in a directory. -/
theorem FileWork.createFile_staysIn (hname : IsPlain name) (hkeep : ¬ keep name)
    (hkind : kind .changed) :
    Keeps (Bench.StaysIn p d keep kind) (FileWork.take (FileStep.createFile (p.join name))) := by
  refine Keeps.take fun bench files hstep hp => .stepTo ?_ hkind
  obtain ⟨entries, hentries⟩ := hp.dir
  rw [FileStep.createFile_join hname hp.passThrough hentries] at hstep
  split at hstep
  · cases hstep
  · split at hstep
    · cases hstep
    · cases hstep
      exact .put_entry hp.dir hkeep _
    · cases hstep
      exact .put_entry hp.dir hkeep _

/-- Filling a file in a directory. -/
theorem FileWork.fillFile_staysIn (hname : IsPlain name) (hkeep : ¬ keep name)
    (hkind : kind .changed) (content : Bytes) :
    Keeps (Bench.StaysIn p d keep kind)
      (FileWork.take (FileStep.fillFile (p.join name) content)) := by
  refine Keeps.take fun bench files hstep hp => .stepTo ?_ hkind
  obtain ⟨entries, hentries⟩ := hp.dir
  rw [FileStep.fillFile_join hname hp.passThrough hentries] at hstep
  split at hstep
  · cases hstep
  · split at hstep
    · cases hstep
    · cases hstep
      exact .put_entry hp.dir hkeep _
    · cases hstep

/-- Writing a file in a directory. -/
theorem FileWork.writeFile_staysIn (hname : IsPlain name) (hkeep : ¬ keep name)
    (hkind : kind .changed) (content : Bytes) :
    Keeps (Bench.StaysIn p d keep kind) (FileWork.writeFile (p.join name) content) :=
  (createFile_staysIn hname hkeep hkind).bind fun _ =>
    fillFile_staysIn hname hkeep hkind content

/-- An entry of a directory that takes the place of another, or goes to a free name. -/
theorem Node.Inside.move {root files node : Node} (hd : root.HasDir d) {name' : String}
    (hkeep : ¬ keep name) (hkeep' : ¬ keep name') {target : Target}
    (htarget : target = .free d name' ∨ ∃ old, target = .taken (d ++ [name']) old)
    (h : FileStep.moveTo root (d ++ [name]) node target = .ok files) :
    Node.Inside d keep root files := by
  have hmoved : Node.Inside d keep root
      ((root.erase (d ++ [name])).put node (d ++ [name'])) := by
    obtain ⟨entries, hentries⟩ := hd
    have herase : Node.Inside d keep root (root.erase (d ++ [name])) := by
      refine ⟨entries, Named.erase name entries, hentries, ?_, fun other hother => ?_⟩
      · rw [Node.erase_append hentries (by simp)]
        rfl
      · have hne : other ≠ name := fun h => hkeep (h ▸ hother)
        exact Named.lookup_erase_of_ne hne entries
    exact herase.trans (.put_entry herase.hasDir hkeep' node)
  rcases htarget with rfl | ⟨old, rfl⟩
  · obtain ⟨-, rfl⟩ := FileStep.moveTo_free_ok h
    exact hmoved
  · rcases FileStep.moveTo_taken_ok h with ⟨-, rfl⟩ | ⟨-, -, rfl⟩
    · exact .refl hd
    · exact hmoved

/-- Renaming an entry of a directory. -/
theorem FileWork.rename_staysIn {name' : String} (hname : IsPlain name) (hname' : IsPlain name')
    (hkeep : ¬ keep name) (hkeep' : ¬ keep name') (hkind : kind .changed) :
    Keeps (Bench.StaysIn p d keep kind) (FileWork.rename (p.join name) (p.join name')) := by
  refine Keeps.take fun bench files hstep hp => .stepTo ?_ hkind
  obtain ⟨entries, hentries⟩ := hp.dir
  obtain ⟨-, -, node, -, hmove⟩ := FileStep.rename_join_ok hname hname' hp.passThrough
    hp.passThrough hentries hentries hstep
  refine .move hp.dir hkeep hkeep' ?_ hmove
  cases entries.lookup name' with
  | none => exact .inl rfl
  | some old => exact .inr ⟨old, rfl⟩

end Files

end BootTrial
