import BootTrial.Proofs.Staging

/-!
# Tests that can be read

What has to stand in the directory of a test for a run to begin with it (`Node.IsIntact`): the files
with the boot id and with the front of the names of the logs hold text, if they are there, and the
scenario file holds a record as it is written. Only while the directory is being deleted may the
scenario file be missing; the directory is torn then.

A test is tended (`Node.Tends`) by changes of nothing but its directory that leave it intact if it
was.
-/

namespace BootTrial

open Text (Bytes)

namespace Node

/-- A node is a file that holds a text of some kind. -/
def HoldsText (kind : String → Prop) (node : Node) : Prop :=
  ∃ content runnable text, node = .file content runnable ∧ Text.decode? content = some text
    ∧ kind text

/-- A node is a scenario file as it is written: a record under the header of its names, of which
none stands twice and not all are blank. -/
def IsSheet (node : Node) : Prop :=
  ∃ (record : Scenario) (runnable : Bool), node = .file (record.tableBytes record.names) runnable
    ∧ record.names.Nodup ∧ ScenarioTable.isBlankHeader record.names = false

/-- What a node has to be that stands in the directory of a test under a name. -/
structure IsProper (name : String) (node : Node) : Prop where
  /-- The boot id, or what has been written of it. -/
  boot : name = bootIdName → node.HoldsText fun _ => True
  /-- The front of the names of the logs. -/
  front : name = prefixName → node.HoldsText ('/' ∉ ·.toList)
  /-- The scenario. -/
  sheet : name = scenarioName → node.IsSheet

/-- The entries of the directory of a test that can be read, but that the scenario file may be
missing if the directory is torn. -/
structure IsIntact (torn : Prop) (entries : Named Node) : Prop where
  /-- What is there is as it has to be. -/
  proper : ∀ name node, entries.lookup name = some node → IsProper name node
  /-- The scenario file is there. -/
  sheet : torn ∨ ∃ node, entries.lookup scenarioName = some node

/-- The directory of a test that can be read stands at a place. -/
def HasIntact (root : Node) (d : Place) (torn : Prop) : Prop :=
  ∃ entries, root.get? d = some (.dir entries) ∧ IsIntact torn entries

/-- The names in the directory of a test that a run reads. -/
def IsVital (name : String) : Prop :=
  name = bootIdName ∨ name = prefixName ∨ name = scenarioName

/-- Under any other name anything may stand. -/
theorem IsProper.of_not_vital {name : String} (h : ¬ IsVital name) (node : Node) :
    IsProper name node :=
  ⟨fun hname => absurd (.inl hname) h, fun hname => absurd (.inr (.inl hname)) h,
    fun hname => absurd (.inr (.inr hname)) h⟩

/-- A boot id may stand under its name, and so may any other text. -/
theorem IsProper.boot_text (text : String) (runnable : Bool) :
    IsProper bootIdName (.file (Text.encode text) runnable) := by
  exact ⟨fun _ => ⟨_, runnable, text, rfl, Text.decode?_encode text, trivial⟩,
    fun h => absurd h (by decide), fun h => absurd h (by decide)⟩

/-- A record may stand under the name of the scenario file as it is written. -/
theorem IsProper.sheet_file {record : Scenario} (hnodup : record.names.Nodup)
    (hnamed : ScenarioTable.isBlankHeader record.names = false) (runnable : Bool) :
    IsProper scenarioName (.file (record.tableBytes record.names) runnable) :=
  ⟨fun h => absurd h (by decide), fun h => absurd h (by decide),
    fun _ => ⟨record, runnable, rfl, hnodup, hnamed⟩⟩

/-- Erasing below an entry leaves it as it has to be: an entry that a run reads is a file. -/
theorem IsProper.erase {name : String} {node : Node} (h : IsProper name node) (below : Place) :
    IsProper name (node.erase below) := by
  have hfile : ∀ (content : Bytes) (runnable : Bool), (Node.file content runnable).erase below
      = .file content runnable := fun content runnable => by cases below <;> rfl
  refine ⟨fun hname => ?_, fun hname => ?_, fun hname => ?_⟩
  · obtain ⟨content, runnable, text, rfl, htext⟩ := h.boot hname
    exact ⟨content, runnable, text, hfile content runnable, htext⟩
  · obtain ⟨content, runnable, text, rfl, htext⟩ := h.front hname
    exact ⟨content, runnable, text, hfile content runnable, htext⟩
  · obtain ⟨record, runnable, rfl, hrecord⟩ := h.sheet hname
    exact ⟨record, runnable, hfile _ runnable, hrecord⟩

namespace IsIntact

variable {torn : Prop} {entries : Named Node} {name : String} {node : Node}

/-- What is intact may be torn. -/
theorem mono (h : IsIntact torn entries) {torn' : Prop} (himp : torn → torn') :
    IsIntact torn' entries :=
  ⟨h.proper, h.sheet.imp himp id⟩

/-- A test is intact still when something proper has been put into its directory. -/
theorem set (h : IsIntact torn entries) (hnode : IsProper name node) :
    IsIntact torn (Named.set name node entries) := by
  refine ⟨fun other found hfound => ?_, h.sheet.imp id fun hthere => ?_⟩
  · by_cases hname : other = name
    · subst hname
      rw [Named.lookup_set_self] at hfound
      cases hfound
      exact hnode
    · rw [Named.lookup_set_of_ne hname] at hfound
      exact h.proper other found hfound
  · by_cases hname : scenarioName = name
    · exact ⟨node, by rw [hname, Named.lookup_set_self]⟩
    · rwa [Named.lookup_set_of_ne hname]

/-- A test is intact still when something has been erased that is not its scenario file. -/
theorem erase (h : IsIntact torn entries) (hsheet : torn ∨ scenarioName ≠ name) :
    IsIntact torn (Named.erase name entries) := by
  refine ⟨fun other found hfound => ?_, ?_⟩
  · by_cases hname : other = name
    · rw [hname, Named.lookup_erase_self] at hfound
      cases hfound
    · rw [Named.lookup_erase_of_ne hname] at hfound
      exact h.proper other found hfound
  · rcases hsheet with htorn | hne
    · exact .inl htorn
    · rw [Named.lookup_erase_of_ne hne]
      exact h.sheet

/-- The front of the names of the logs of an intact test is plain. -/
theorem front (h : IsIntact torn entries) : (Node.dir entries).HasPlainFront [] := by
  intro content runnable text hfile htext
  have hentry : entries.lookup prefixName = some (.file content runnable) := by
    have hget : (Node.dir entries).get? [prefixName] = entries.lookup prefixName :=
      get?_snoc (d := []) rfl prefixName
    rw [← hget]
    exact hfile
  obtain ⟨own, runnable', text', hown, htext', hslash⟩ := (h.proper _ _ hentry).front rfl
  cases hown
  rw [htext'] at htext
  cases htext
  exact hslash

/-- A test that has just been enrolled is intact, if its record is one that can be read. -/
theorem of_testEntries {header : List String} {front : String} {scenario : Scenario}
    (htest : IsTest name (.dir (testEntries header front scenario)))
    (hnames : scenario.names = header) (hnodup : scenario.names.Nodup)
    (hnamed : ScenarioTable.isBlankHeader header = false) :
    IsIntact False (testEntries header front scenario) := by
  have hslash : '/' ∉ front.toList := htest.front _ false front rfl (Text.decode?_encode front)
  subst hnames
  refine ⟨fun other found hfound => ?_, .inr ⟨_, rfl⟩⟩
  by_cases hsheet : other = scenarioName
  · subst hsheet
    cases hfound
    exact .sheet_file hnodup hnamed false
  by_cases hprefix : other = prefixName
  · subst hprefix
    cases hfound
    exact ⟨fun h => absurd h (by decide),
      fun _ => ⟨_, false, front, rfl, Text.decode?_encode front, hslash⟩,
      fun h => absurd h (by decide)⟩
  · have hnone : (testEntries scenario.names front scenario).lookup other = none := by
      simp [testEntries, List.lookup_cons, beq_false_of_ne hsheet, beq_false_of_ne hprefix]
    rw [hnone] at hfound
    cases hfound

end IsIntact

/-- The front of the names of the logs of an intact test is plain, wherever the test lies. -/
theorem HasIntact.front {root : Node} {d : Place} {torn : Prop} (h : root.HasIntact d torn) :
    root.HasPlainFront d := by
  obtain ⟨entries, hentries, hintact⟩ := h
  exact (hasPlainFront_iff hentries).mpr hintact.front

/-- A test that has not changed is intact still, and may be torn. -/
theorem HasIntact.of_get? {before after : Node} {d e : Place} {torn torn' : Prop}
    (h : before.HasIntact d torn) (hsame : after.get? e = before.get? d) (himp : torn → torn') :
    after.HasIntact e torn' := by
  obtain ⟨entries, hentries, hintact⟩ := h
  exact ⟨entries, hsame.trans hentries, hintact.mono himp⟩

/-- A test is intact still when something proper has been put into its directory. -/
theorem HasIntact.put {root : Node} {d : Place} {torn : Prop} {name : String} {node : Node}
    (h : root.HasIntact d torn) (hnode : IsProper name node) :
    (root.put node (d ++ [name])).HasIntact d torn := by
  obtain ⟨entries, hentries, hintact⟩ := h
  exact ⟨_, get?_put_entry hentries name node, hintact.set hnode⟩

/-- A test is intact still when something in its directory has been erased, but for the scenario
file of one that is not torn. -/
theorem HasIntact.erase {root : Node} {d below : Place} {torn : Prop} (h : root.HasIntact d torn)
    (hbelow : below ≠ []) (hsheet : torn ∨ below ≠ [scenarioName]) :
    (root.erase (d ++ below)).HasIntact d torn := by
  obtain ⟨entries, hentries, hintact⟩ := h
  obtain ⟨entries', herase, -⟩ := erase_dir entries hbelow
  refine ⟨entries', by rw [erase_append hentries hbelow, herase, get?_put hentries], ?_⟩
  obtain ⟨first, rest, rfl⟩ := List.exists_cons_of_ne_nil hbelow
  cases rest with
  | nil =>
    cases herase
    exact hintact.erase (hsheet.imp id fun hne hname => hne (by rw [hname]))
  | cons second more =>
    -- The erasing happens in a directory, and what a run reads is none.
    cases hlookup : entries.lookup first with
    | none =>
      obtain rfl : entries = entries' := by simpa [Node.erase, hlookup] using herase
      exact hintact
    | some child =>
      rw [erase_cons hlookup (by simp)] at herase
      cases herase
      exact hintact.set ((hintact.proper _ _ hlookup).erase _)

/-- A test is intact still after changes under names that a run does not read. -/
theorem HasIntact.inside {before after : Node} {d : Place} {torn : Prop}
    (h : before.HasIntact d torn) (hinside : Inside d IsVital before after) :
    after.HasIntact d torn := by
  obtain ⟨own, hown, hintact⟩ := h
  obtain ⟨entries, entries', hentries, rfl, hkept⟩ := hinside
  obtain rfl : entries = own := by
    rw [hentries] at hown
    cases hown
    rfl
  refine ⟨entries', get?_put hentries _, fun name node hnode => ?_, ?_⟩
  · by_cases hvital : IsVital name
    · exact hintact.proper name node (by rw [← hkept name hvital, hnode])
    · exact .of_not_vital hvital node
  · rw [hkept scenarioName (.inr (.inr rfl))]
    exact hintact.sheet

/-- What is erased in a directory is erased inside of it. -/
theorem Inside.erase_below {root : Node} {d below : Place} (hd : root.HasDir d)
    (hbelow : below ≠ []) : Inside d (fun _ => False) root (root.erase (d ++ below)) := by
  obtain ⟨entries, hentries⟩ := hd
  obtain ⟨entries', herase, -⟩ := erase_dir entries hbelow
  exact ⟨entries, entries', hentries, by rw [erase_append hentries hbelow, herase], by simp⟩

end Node

end BootTrial
