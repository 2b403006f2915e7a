import BootTrial.Proofs.Ending

/-!
# What a root holds

`Node.HoldsTests` says that the directory at a place holds tests with certain names and nothing else;
a missing directory holds nothing. Work spares the roots of a workspace (`Bench.Spares`) if each of
them holds the tests that it held before, at every moment and in the end.
-/

namespace BootTrial

namespace Named

variable {α : Type}

/-- There is a value under each of the names. -/
theorem exists_lookup {name : String} {values : Named α} (h : name ∈ values.names) :
    ∃ value, values.lookup name = some value := by
  cases hlookup : values.lookup name with
  | some value => exact ⟨value, rfl⟩
  | none =>
    obtain ⟨entry, hentry, rfl⟩ := List.mem_map.mp h
    simpa using List.lookup_eq_none_iff.mp hlookup entry hentry

/-- An entry is there under its name, or has just been set. -/
theorem mem_set {name : String} {value : α} {values : Named α} {entry : String × α}
    (h : entry ∈ set name value values) : entry = (name, value) ∨ entry ∈ values := by
  induction values with
  | nil => exact .inl (List.mem_singleton.mp h)
  | cons first rest ih =>
    obtain ⟨other, old⟩ := first
    rw [set] at h
    split at h
    · rcases List.mem_cons.mp h with rfl | h
      · exact .inl rfl
      · exact .inr (List.mem_cons_of_mem _ h)
    · rcases List.mem_cons.mp h with rfl | h
      · exact .inr List.mem_cons_self
      · exact (ih h).imp id (List.mem_cons_of_mem _)

/-- A name under which there is no value is none of the names. -/
theorem lookup_eq_none {name : String} {values : Named α} :
    values.lookup name = none ↔ name ∉ values.names := by
  constructor
  · intro h hmem
    obtain ⟨value, hvalue⟩ := exists_lookup hmem
    rw [h] at hvalue
    cases hvalue
  · intro h
    cases hlookup : values.lookup name with
    | none => rfl
    | some value => exact absurd (List.mem_map_of_mem (mem_of_lookup hlookup)) h

/-- Where no name stands twice an entry is what is found under its name. -/
theorem lookup_of_mem {name : String} {value : α} {values : Named α} (h : (name, value) ∈ values)
    (hnodup : values.names.Nodup) : values.lookup name = some value := by
  obtain ⟨front, back, rfl⟩ := List.append_of_mem h
  rw [names, List.map_append, List.map_cons, List.nodup_append] at hnodup
  refine List.lookup_eq_some_iff.mpr ⟨front, back, rfl, fun entry hentry => ?_⟩
  have hne := hnodup.2.2 entry.1 (List.mem_map_of_mem hentry) name List.mem_cons_self
  simpa using Ne.symm hne

end Named

namespace Node

/-- A node is the directory of a test, under a name. -/
structure IsTest (name : String) (node : Node) : Prop where
  /-- The name is that of one entry. -/
  plain : IsPlain name
  /-- The name is not too long. -/
  short : name.utf8ByteSize ≤ nameLimit
  /-- It is a directory. -/
  isDir : node.isDir = true
  /-- The front of the names of the logs has no slash in it. -/
  front : node.HasPlainFront []

/-- The directory at a place holds tests with the given names, no name twice, and nothing else. -/
def HoldsTests (root : Node) (place : Place) (names : List String) : Prop :=
  ∃ entries, (root.get? place = some (.dir entries) ∨ root.get? place = none ∧ entries = [])
    ∧ Named.names entries = names ∧ names.Nodup ∧ ∀ entry ∈ entries, IsTest entry.1 entry.2

/-- What is listed in the directory at a place are names of one entry, and no name twice. -/
structure IsListing (root : Node) (place : Place) : Prop where
  /-- Each name is that of one entry. -/
  plain : ∀ name ∈ root.namesAt place, IsPlain name
  /-- No name is listed twice. -/
  nodup : (root.namesAt place).Nodup

/-- The directory at a place holds directories under the given names, no name twice, and nothing
else. -/
def HoldsDirs (root : Node) (place : Place) (names : List String) : Prop :=
  ∃ entries, (root.get? place = some (.dir entries) ∨ root.get? place = none ∧ entries = [])
    ∧ Named.names entries = names ∧ names.Nodup ∧ ∀ entry ∈ entries, entry.2.isDir = true

/-- The front of the names of the logs in a directory. -/
theorem hasPlainFront_iff {root node : Node} {d : Place} (h : root.get? d = some node) :
    root.HasPlainFront d ↔ node.HasPlainFront [] := by
  unfold HasPlainFront
  rw [get?_append, h]
  rfl

/-- The names in a directory that holds directories. -/
theorem HoldsDirs.namesAt_eq {root : Node} {d : Place} {names : List String}
    (h : root.HoldsDirs d names) : root.namesAt d = names := by
  obtain ⟨entries, hentries | ⟨hnone, rfl⟩, rfl, -⟩ := h
  · exact namesAt_dir hentries
  · rw [namesAt, hnone]
    rfl

namespace HoldsTests

variable {root before after : Node} {d : Place} {names : List String} {name : String}

/-- A directory that has not changed holds the same tests, wherever it is now. -/
theorem of_get? {e : Place} (h : before.HoldsTests d names)
    (hsame : after.get? e = before.get? d) : after.HoldsTests e names := by
  obtain ⟨entries, hentries, hnames, hnodup, htests⟩ := h
  exact ⟨entries, by rwa [hsame], hnames, hnodup, htests⟩

/-- The entries of a directory that holds tests. -/
theorem entries {entries : List (String × Node)} (h : root.HoldsTests d names)
    (hd : root.get? d = some (.dir entries)) :
    Named.names entries = names ∧ names.Nodup ∧ ∀ entry ∈ entries, IsTest entry.1 entry.2 := by
  obtain ⟨own, hown | ⟨hnone, -⟩, hrest⟩ := h
  · rw [hd] at hown
    cases hown
    exact hrest
  · rw [hd] at hnone
    cases hnone

/-- A directory with some of the entries of one that holds tests holds tests. -/
theorem of_sublist {other : Node} {batch entries : Named Node} (h : root.HoldsTests d names)
    (hbatch : root.get? d = some (.dir batch)) (hentries : other.get? d = some (.dir entries))
    (hleft : entries.Sublist batch) : other.HoldsTests d entries.names := by
  obtain ⟨rfl, hnodup, htests⟩ := h.entries hbatch
  exact ⟨entries, .inl hentries, rfl, hnodup.sublist (hleft.map _), fun entry hentry =>
    htests entry (hleft.subset hentry)⟩

/-- What stands in a directory that holds tests is a test. -/
theorem isTest {node : Node} (h : root.HoldsTests d names)
    (hnode : root.get? (d ++ [name]) = some node) : IsTest name node := by
  obtain ⟨entries, hentries⟩ := hasDir_of_get?_snoc hnode
  rw [get?_snoc hentries] at hnode
  exact (h.entries hentries).2.2 _ (Named.mem_of_lookup hnode)

/-- The tests of a directory stand there. -/
theorem get?_dir (h : root.HoldsTests d names) (hname : name ∈ names) :
    ∃ entries node, root.get? d = some (.dir entries) ∧ entries.lookup name = some node
      ∧ IsTest name node := by
  obtain ⟨entries, hentries, rfl, -, htests⟩ := h
  obtain ⟨node, hnode⟩ := Named.exists_lookup hname
  rcases hentries with hentries | ⟨-, rfl⟩
  · exact ⟨entries, node, hentries, hnode, htests _ (Named.mem_of_lookup hnode)⟩
  · cases hnode

/-- The tests of a directory are directories in it. -/
theorem hasDir (h : root.HoldsTests d names) (hname : name ∈ names) :
    root.HasDir (d ++ [name]) := by
  obtain ⟨entries, node, hdir, hnode, htest⟩ := h.get?_dir hname
  cases node with
  | file content runnable => cases htest.isDir
  | dir own => exact ⟨own, by rw [get?_snoc hdir, hnode]⟩

/-- A directory without one of its tests. -/
theorem erase (h : root.HoldsTests d names) (hname : name ∈ names) :
    (root.erase (d ++ [name])).HoldsTests d (names.filter (· ≠ name)) := by
  obtain ⟨entries, node, hdir, -⟩ := h.get?_dir hname
  obtain ⟨rfl, hnodup, htests⟩ := h.entries hdir
  exact ⟨Named.erase name entries, .inl (get?_erase_entry hdir name),
    Named.names_erase name entries, hnodup.filter _,
    fun entry hentry => htests entry (List.mem_filter.mp hentry).1⟩

/-- A directory with another test in it. -/
theorem put (h : root.HoldsTests d names) (hd : root.HasDir d) (hname : name ∉ names) {node : Node}
    (htest : IsTest name node) : (root.put node (d ++ [name])).HoldsTests d (names ++ [name]) := by
  obtain ⟨entries, hdir⟩ := hd
  obtain ⟨rfl, hnodup, htests⟩ := h.entries hdir
  refine ⟨Named.set name node entries, .inl (get?_put_entry hdir name node), ?_, ?_,
    fun entry hentry => ?_⟩
  · rw [Named.names_set, if_neg hname]
  · exact List.nodup_append.mpr ⟨hnodup, by simp, by grind⟩
  · rcases Named.mem_set hentry with rfl | hentry
    · exact htest
    · exact htests entry hentry

/-- A directory in which a test has changed, and has a front of the names of its logs still that is
plain. -/
theorem changed {keep : String → Prop} (h : before.HoldsTests d names)
    (hinside : Inside (d ++ [name]) keep before after) (hfront : after.HasPlainFront (d ++ [name])) :
    after.HoldsTests d names := by
  obtain ⟨entries, hdir⟩ := hinside.hasDir_before.above
  obtain ⟨rfl, hnodup, htests⟩ := h.entries hdir
  obtain ⟨own, own', hown, hafter, -⟩ := hinside.get?_parent hdir
  have htest : IsTest name (.dir own) := htests _ (Named.mem_of_lookup hown)
  have hname : name ∈ Named.names entries :=
    List.mem_map.mpr ⟨_, Named.mem_of_lookup hown, rfl⟩
  have hnow : after.get? (d ++ [name]) = some (.dir own') := by
    rw [get?_snoc hafter, Named.lookup_set_self]
  refine ⟨_, .inl hafter, ?_, hnodup, fun entry hentry => ?_⟩
  · rw [Named.names_set, if_pos hname]
  · rcases Named.mem_set hentry with rfl | hentry
    · exact ⟨htest.plain, htest.short, rfl, (hasPlainFront_iff hnow).mp hfront⟩
    · exact htests entry hentry

/-- The tests are directories. -/
theorem dirs (h : root.HoldsTests d names) : root.HoldsDirs d names := by
  obtain ⟨entries, hentries, hnames, hnodup, htests⟩ := h
  exact ⟨entries, hentries, hnames, hnodup, fun entry hentry => (htests entry hentry).isDir⟩

/-- They are directories still when one of them has changed. -/
theorem dirs_inside {keep : String → Prop} (h : before.HoldsTests d names)
    (hinside : Inside (d ++ [name]) keep before after) : after.HoldsDirs d names := by
  obtain ⟨entries, hdir⟩ := hinside.hasDir_before.above
  obtain ⟨rfl, hnodup, htests⟩ := h.entries hdir
  obtain ⟨own, own', hown, hafter, -⟩ := hinside.get?_parent hdir
  have hname : name ∈ Named.names entries :=
    List.mem_map.mpr ⟨_, Named.mem_of_lookup hown, rfl⟩
  refine ⟨_, .inl hafter, ?_, hnodup, fun entry hentry => ?_⟩
  · rw [Named.names_set, if_pos hname]
  · rcases Named.mem_set hentry with rfl | hentry
    · rfl
    · exact (htests entry hentry).isDir

/-- The front of the names of the logs of a test is plain. -/
theorem front (h : root.HoldsTests d names) (hname : name ∈ names) :
    root.HasPlainFront (d ++ [name]) := by
  obtain ⟨entries, node, hdir, hnode, htest⟩ := h.get?_dir hname
  have hget : root.get? (d ++ [name]) = some node := by rw [get?_snoc hdir, hnode]
  exact (hasPlainFront_iff hget).mpr htest.front

/-- The names in a directory that holds tests. -/
theorem namesAt_eq (h : root.HoldsTests d names) : root.namesAt d = names :=
  h.dirs.namesAt_eq

/-- The names of tests are those of entries. -/
theorem isListing (h : root.HoldsTests d names) : root.IsListing d := by
  obtain ⟨entries, hentries, rfl, hnodup, htests⟩ := id h
  have hplain : ∀ name ∈ Named.names entries, IsPlain name := by
    intro name hname
    obtain ⟨entry, hentry, rfl⟩ := List.mem_map.mp hname
    exact (htests entry hentry).plain
  exact ⟨by rwa [h.namesAt_eq], by rwa [h.namesAt_eq]⟩

/-- A directory holds no other tests than it holds. -/
theorem unique {names' : List String} (h : root.HoldsTests d names)
    (h' : root.HoldsTests d names') : names = names' := by
  rw [← h.namesAt_eq, h'.namesAt_eq]

/-- What stands in a directory that holds tests is one of them. -/
theorem mem_of_hasDir (h : root.HoldsTests d names) (hdir : root.HasDir (d ++ [name])) :
    name ∈ names := by
  obtain ⟨entries, hentries⟩ := hdir.above
  obtain ⟨rfl, -⟩ := h.entries hentries
  obtain ⟨own, hown⟩ := hdir
  rw [get?_snoc hentries] at hown
  exact List.mem_map.mpr ⟨_, Named.mem_of_lookup hown, rfl⟩

/-- A directory in which a test has changed, but not the front of the names of its logs. -/
theorem inside {keep : String → Prop} (h : before.HoldsTests d names)
    (hinside : Inside (d ++ [name]) keep before after) (hkeep : keep prefixName) :
    after.HoldsTests d names :=
  h.changed hinside ((h.front (h.mem_of_hasDir hinside.hasDir_before)).inside hinside hkeep)

/-- A directory that has just been made where there was none. -/
theorem made (h : root.HoldsTests (d ++ [name]) names) (hd : root.HasDir d)
    (hnone : root.get? (d ++ [name]) = none) :
    (root.put .emptyDir (d ++ [name])).HoldsTests (d ++ [name]) names := by
  obtain ⟨entries, hentries, rfl, hnodup, htests⟩ := h
  rcases hentries with hentries | ⟨-, rfl⟩
  · rw [hnone] at hentries
    cases hentries
  · obtain ⟨own, hown⟩ := hd
    exact ⟨[], .inl (get?_put_self hown _ _), rfl, hnodup, by simp⟩

/-- A directory that is missing holds no tests. -/
theorem of_none (h : root.get? d = none) : root.HoldsTests d [] :=
  ⟨[], .inr ⟨h, rfl⟩, rfl, List.nodup_nil, by simp⟩

/-- A directory without entries holds no tests. -/
theorem of_empty (h : root.get? d = some (.dir [])) : root.HoldsTests d [] :=
  ⟨[], .inl h, rfl, List.nodup_nil, by simp⟩

end HoldsTests

/-- Each root of a workspace holds the tests that it held before. -/
def Spares (w : Place) (before after : Node) : Prop :=
  ∀ (r : Root) names, before.HoldsTests (r.place w) names → after.HoldsTests (r.place w) names

namespace Spares

variable {w : Place} {name : String} {before middle after : Node}

/-- Nothing is lost by what does not happen. -/
theorem refl (w : Place) (root : Node) : Spares w root root := fun _ _ h => h

/-- What spares the roots in each part spares them as a whole. -/
theorem trans (h : Spares w before middle) (h' : Spares w middle after) : Spares w before after :=
  fun r names hholds => h' r names (h r names hholds)

/-- What leaves the nodes at the roots alone spares them. -/
theorem of_get? (h : ∀ r : Root, after.get? (r.place w) = before.get? (r.place w)) :
    Spares w before after :=
  fun r _ hholds => hholds.of_get? (h r)

/-- Changes in the directory of a test that has been begun spare the roots. -/
theorem of_inside_running {keep : String → Prop}
    (h : Inside (Root.running.place w ++ [name]) keep before after) (hkeep : keep prefixName) :
    Spares w before after := by
  intro r names hholds
  by_cases hr : r = .running
  · subst hr
    exact hholds.inside h hkeep
  · refine hholds.of_get? (h.get?_of_apart ?_)
    exact ((Root.place_apart hr w).append_right [name]).symm

/-- Making a root that is missing spares the roots. -/
theorem of_made {r : Root} {d : Place} (hr : r.place w = d ++ [name]) (hd : before.HasDir d)
    (hnone : before.get? (r.place w) = none) :
    Spares w before (before.put .emptyDir (r.place w)) := by
  intro r' names hholds
  by_cases hsame : r' = r
  · subst hsame
    rw [hr] at hholds hnone ⊢
    exact hholds.made hd hnone
  · exact hholds.of_get? (get?_put_of_apart (Root.place_apart (Ne.symm hsame) w) _ _)

end Spares

end Node

namespace Bench

/-- Between two benches the roots of a workspace have been spared, and so they have been at every
moment. -/
structure Spared (workspace : Workspace) (w : Place) (before after : Bench) : Prop where
  /-- The path of the workspace leads there still. -/
  root : workspace.root.Leads after.files after.here w
  /-- The roots have been spared. -/
  files : Node.Spares w before.files after.files
  /-- So they have been at every moment. -/
  history : ∃ moments, after.history = moments ++ before.history
    ∧ ∀ moment ∈ moments, Node.Spares w before.files moment.files

/-- If the path of the workspace leads there, the roots have been spared between two benches. -/
def Spares (workspace : Workspace) (w : Place) (before after : Bench) : Prop :=
  workspace.root.Leads before.files before.here w → Spared workspace w before after

variable {workspace : Workspace} {w : Place} {name : String} {before middle after : Bench}

/-- What spares the roots in each part spares them as a whole. -/
theorem Spared.trans (h : Spared workspace w before middle)
    (h' : Spared workspace w middle after) : Spared workspace w before after := by
  obtain ⟨first, hfirst, hmoments⟩ := h.history
  obtain ⟨second, hsecond, hmoments'⟩ := h'.history
  refine ⟨h'.root, h.files.trans h'.files, second ++ first, ?_, fun moment hmem => ?_⟩
  · rw [hsecond, hfirst, List.append_assoc]
  · rcases List.mem_append.mp hmem with hmem | hmem
    · exact h.files.trans (hmoments' moment hmem)
    · exact hmoments moment hmem

instance (workspace : Workspace) (w : Place) : IsPreorder Bench (Spares workspace w) where
  refl bench hw := ⟨hw, .refl w bench.files, [], rfl, by simp⟩
  trans _ _ _ h h' hw := (h hw).trans (h' (h hw).root)

/-- What does not change the files spares the roots. -/
theorem Spares.of_quiet {kind : Event → Prop} (before after : Bench) (h : Quiet kind before after) :
    Spares workspace w before after := by
  intro hw
  obtain ⟨moments, hmoments, hmem⟩ := h.history
  refine ⟨?_, ?_, moments, hmoments, fun moment hin => ?_⟩
  · rw [h.here, h.files]
    exact hw
  · rw [h.files]
    exact .refl w _
  · rw [(hmem moment hin).2]
    exact .refl w _

/-- What only reads spares the roots. -/
theorem Spares.of_unmoved (before after : Bench) (h : Unmoved before after) :
    Spares workspace w before after :=
  .of_quiet _ _ (.of_unmoved h : Quiet (fun _ => True) before after)

/-- Changes in the directory of a test that has been begun spare the roots. -/
theorem Spared.of_inside_running {keep : String → Prop} {kind : Event → Prop}
    (hruns : workspace.Runs w name before)
    (h : Inside (Root.running.place w ++ [name]) keep kind before after)
    (hkeep : keep prefixName) : Spared workspace w before after := by
  obtain ⟨moments, hmoments, hmem⟩ := h.history
  exact ⟨(hruns.inside h).root, .of_inside_running h.files hkeep, moments, hmoments,
    fun moment hin => .of_inside_running (hmem moment hin).2 hkeep⟩

/-- One step that spares the roots. -/
theorem Spared.stepTo {files : Node} (hw : workspace.root.Leads files before.here w)
    (h : Node.Spares w before.files files) : Spared workspace w before (before.stepTo files) :=
  ⟨hw, h, [⟨.changed, files⟩], rfl, by simpa using h⟩

end Bench

end BootTrial
