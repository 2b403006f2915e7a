import BootTrial.Proofs.Publishing

/-!
# Claiming a test

What moves between two roots is missing in the one and there in the other (`Node.Moved`), and the
third root is the same. A claim moves one test from the pending root into the running root, which
must hold none, and then writes the boot id into its directory (`Workspace.claim_cases`).
-/

namespace BootTrial

namespace Node

/-- A test has left a root, and the other roots hold what they held. -/
structure Lost (w : Place) (source : Root) (name : String) (before after : Node) : Prop where
  /-- The root that it has left. -/
  left : ∀ names, before.HoldsTests (source.place w) names →
    name ∈ names ∧ after.HoldsTests (source.place w) (names.filter (· ≠ name))
  /-- The other roots. -/
  others : ∀ r ≠ source, ∀ names, before.HoldsTests (r.place w) names →
    after.HoldsTests (r.place w) names

/-- A test has moved from a root to another, and the third root holds what it held. -/
structure Moved (w : Place) (source : Root) (name : String) (goal : Root) (name' : String)
    (before after : Node) : Prop where
  /-- The root that it has left. -/
  left : ∀ names, before.HoldsTests (source.place w) names →
    name ∈ names ∧ after.HoldsTests (source.place w) (names.filter (· ≠ name))
  /-- The root that it has gone to. -/
  arrived : ∀ names, before.HoldsTests (goal.place w) names →
    after.HoldsTests (goal.place w) (names ++ [name'])
  /-- The third root. -/
  others : ∀ r, r ≠ source → r ≠ goal → ∀ names, before.HoldsTests (r.place w) names →
    after.HoldsTests (r.place w) names

variable {root node : Node} {w : Place} {source goal : Root} {name name' : String}

/-- A directory that is erased is lost to its root. -/
theorem lost_erase (hdir : root.HasDir (source.place w ++ [name])) :
    Lost w source name root (root.erase (source.place w ++ [name])) := by
  refine ⟨fun names hholds => ?_, fun r hr names hholds => ?_⟩
  · have hname := hholds.mem_of_hasDir hdir
    exact ⟨hname, hholds.erase hname⟩
  · exact hholds.of_get?
      (get?_erase_of_apart ((Root.place_apart hr w).append_right [name]).symm root)

/-- A directory that is erased in one root and put under a free name in another has moved. -/
theorem moved_erase_put (hroots : source ≠ goal) (hdir : root.HasDir (source.place w ++ [name]))
    (hgoal : root.HasDir (goal.place w)) (hfree : root.get? (goal.place w ++ [name']) = none)
    (htest : IsTest name' node) :
    Moved w source name goal name' root
      ((root.erase (source.place w ++ [name])).put node (goal.place w ++ [name'])) := by
  have hlost := lost_erase hdir
  have hput : ∀ r ≠ goal, ∀ names,
      (root.erase (source.place w ++ [name])).HoldsTests (r.place w) names →
      ((root.erase (source.place w ++ [name])).put node (goal.place w ++ [name'])).HoldsTests
        (r.place w) names := fun r hr names hholds =>
    hholds.of_get? (get?_put_of_apart ((Root.place_apart hr w).append_right [name']).symm _ node)
  refine ⟨fun names hholds => ?_, fun names hholds => ?_, fun r hr hr' names hholds => ?_⟩
  · obtain ⟨hname, hafter⟩ := hlost.left names hholds
    exact ⟨hname, hput source hroots _ hafter⟩
  · have hkept : (root.erase (source.place w ++ [name])).get? (goal.place w)
        = root.get? (goal.place w) :=
      get?_erase_of_apart ((Root.place_apart (Ne.symm hroots) w).append_right [name]).symm root
    obtain ⟨entries, hentries⟩ := hgoal
    have hname : name' ∉ names := by
      obtain ⟨rfl, -⟩ := hholds.entries hentries
      rw [get?_snoc hentries] at hfree
      exact Named.lookup_eq_none.mp hfree
    exact (hholds.of_get? hkept).put ⟨entries, hkept.trans hentries⟩ hname htest
  · exact hput r hr' names (hlost.others r hr names hholds)

end Node

/-- Between two benches a test has been claimed: it has moved from the pending root into the running
root, and before and after this step the roots have been spared. -/
def Bench.Claimed (workspace : Workspace) (w : Place) (name name' : String) (before after : Bench) :
    Prop :=
  ∃ middle files, before.Spared workspace w middle
    ∧ Node.Moved w .pending name .running name' middle.files files
    ∧ workspace.root.Leads files middle.here w
    ∧ (middle.stepTo files).Spared workspace w after

/-- The tests in a directory are among its entries. -/
theorem mem_testNames {entries : List (String × Node)} {name : String}
    (h : name ∈ testNames entries) : name ∈ Named.names entries := by
  rw [testNames, List.mem_mergeSort] at h
  obtain ⟨entry, hentry, rfl⟩ := List.mem_map.mp h
  exact List.mem_map_of_mem (List.mem_filter.mp hentry).1

/-- What counts as a test in a directory is a directory in it. -/
theorem Node.IsListing.hasDir {root : Node} {d : Place} {entries : List (String × Node)} {name : String}
    (h : root.IsListing d) (hentries : root.get? d = some (.dir entries))
    (hname : name ∈ testNames entries) : root.HasDir (d ++ [name]) := by
  rw [testNames, List.mem_mergeSort] at hname
  obtain ⟨⟨_, node⟩, hentry, rfl⟩ := List.mem_map.mp hname
  obtain ⟨hmem, hdir⟩ := List.mem_filter.mp hentry
  have hnodup : (Named.names entries).Nodup := by
    have hnames := h.nodup
    rwa [Node.namesAt_dir hentries] at hnames
  cases node with
  | file content runnable => cases hdir
  | dir own => exact ⟨own, by rw [Node.get?_snoc hentries, Named.lookup_of_mem hmem hnodup]⟩

/-- Between two benches nothing has happened, but that a root may have been made that was missing in
a directory. -/
def Bench.RootMade (r : Root) (w : Place) (before after : Bench) : Prop :=
  after = before ∨ ∃ d name, r.place w = d ++ [name] ∧ before.files.HasDir d
    ∧ before.files.get? (r.place w) = none
    ∧ after = before.stepTo (before.files.put .emptyDir (r.place w))

/-- Making a root that is missing spares the roots. -/
theorem Bench.RootMade.spared {workspace : Workspace} {r : Root} {w : Place} {before after : Bench}
    (h : before.RootMade r w after) (hw : workspace.root.Leads before.files before.here w) :
    before.Spared workspace w after := by
  rcases h with rfl | ⟨d, name, hr, hd, hnone, rfl⟩
  · exact refl_of (Spares workspace w) after hw
  · refine .stepTo ?_ (.of_made hr hd hnone)
    simpa using hw.put_in r [] .emptyDir

/-- Making a root leaves another root alone. -/
theorem Bench.RootMade.get?_other {r r' : Root} {w : Place} {before after : Bench}
    (h : before.RootMade r w after) (hr : r ≠ r') (below : Place) :
    after.files.get? (r'.place w ++ below) = before.files.get? (r'.place w ++ below) := by
  rcases h with rfl | ⟨d, name, -, -, -, rfl⟩
  · rfl
  · exact Node.get?_put_of_apart ((Root.place_apart hr w).append_right below) _ _

namespace Workspace

variable {workspace : Workspace} {w : Place} {bench : Bench} {names : List String} {name : String}

/-- Making the running root where another root stands beside it. -/
theorem makeRunning_cases (hw : workspace.root.Leads bench.files bench.here w)
    (hruntime : bench.files.HasDir (w ++ ["runtime"])) :
    (∃ fault, bench.perform (FileWork.makeDirs workspace.running) = (.error fault, bench))
      ∨ ∃ after, bench.perform (FileWork.makeDirs workspace.running) = (.ok (), after)
        ∧ bench.RootMade .running w after ∧ after.files.HasDir (Root.running.place w) := by
  have hleads := runtime_leads hw hruntime
  obtain ⟨entries, hentries⟩ := hruntime
  have hmake := FileWork.perform_makeDirs_join runningName_isPlain hleads.passThrough hentries
  rw [show workspace.runtime.join "running" = workspace.running from rfl] at hmake
  have hget : bench.files.get? (Root.running.place w) = entries.lookup "running" :=
    Node.get?_snoc hentries "running"
  rw [hmake]
  cases workspace.runtime.joinFault? "running" with
  | some fault => exact .inl ⟨fault, rfl⟩
  | none =>
    rcases hentry : entries.lookup "running" with _ | ⟨content, runnable⟩ | own
    · rw [hentry] at hget
      exact .inr ⟨_, rfl, .inr ⟨_, _, rfl, ⟨entries, hentries⟩, hget, rfl⟩,
        ⟨[], Node.get?_put_self hentries .emptyDir "running"⟩⟩
    · exact .inl ⟨_, rfl⟩
    · rw [hentry] at hget
      exact .inr ⟨bench, rfl, .inl rfl, ⟨own, hget⟩⟩

/-- Renaming a test of the pending root into the running root moves its directory, or is refused. -/
theorem rename_cases {name' : String} (hw : workspace.root.Leads bench.files bench.here w)
    (hname : IsPlain name) (hname' : IsPlain name')
    (hpending : bench.files.HasDir (Root.pending.place w))
    (hrunning : bench.files.HasDir (Root.running.place w)) :
    (∃ fault, bench.perform (FileWork.rename (workspace.pending.join name)
        (workspace.running.join name')) = (.error fault, bench))
      ∨ ∃ node, bench.files.get? (Root.pending.place w ++ [name]) = some node
        ∧ name'.utf8ByteSize ≤ nameLimit
        ∧ bench.perform (FileWork.rename (workspace.pending.join name)
          (workspace.running.join name'))
            = (.ok (), bench.stepTo ((bench.files.erase (Root.pending.place w ++ [name])).put node
              (Root.running.place w ++ [name']))) := by
  obtain ⟨entries, hentries⟩ := hpending
  obtain ⟨own, hown⟩ := hrunning
  cases hrename : FileStep.rename (workspace.pending.join name) (workspace.running.join name')
    bench.files bench.here with
  | error fault => exact .inl ⟨fault, Bench.perform_take_error hrename⟩
  | ok files =>
    obtain ⟨-, hfault, node, hnode, hmove⟩ := FileStep.rename_join_ok hname hname'
      (path_leads (r := .pending) hw ⟨entries, hentries⟩).passThrough
      (path_leads (r := .running) hw ⟨own, hown⟩).passThrough hentries hown hrename
    obtain rfl : files = (bench.files.erase (Root.pending.place w ++ [name])).put node
        (Root.running.place w ++ [name']) := by
      cases hgoal : own.lookup name' with
      | none =>
        rw [hgoal] at hmove
        exact (FileStep.moveTo_free_ok hmove).2
      | some old =>
        rw [hgoal] at hmove
        rcases FileStep.moveTo_taken_ok hmove with ⟨hself, -⟩ | ⟨-, -, hmoved⟩
        · have hapart := Root.place_apart (by decide : Root.pending ≠ .running) w
          exact absurd (List.append_inj_left' hself rfl) fun hsame =>
            hapart.1 (hsame ▸ List.prefix_rfl)
        · exact hmoved
    exact .inr ⟨node, by rw [Node.get?_snoc hentries, hnode], (Path.joinFault?_eq_none.mp hfault).2,
      Bench.perform_take_ok hrename⟩

/-- The steps of a claim: it fails, and nothing has happened but that the running root may have been
made; or the directory of the first test that waits has moved there, and its boot id is still to be
written. -/
theorem claim_steps_first (hw : workspace.root.Leads bench.files bench.here w)
    (hpending : bench.files.IsListing (Root.pending.place w)) (boot : BootId) :
    (∃ failure after, bench.perform (workspace.claim boot) = (.error failure, after)
        ∧ bench.RootMade .running w after)
      ∨ ∃ waiting name rest made entries,
        bench.files.get? (Root.pending.place w) = some (.dir waiting)
        ∧ testNames waiting = name :: rest
        ∧ bench.RootMade .running w made
        ∧ made.files.get? (Root.pending.place w ++ [name]) = some (.dir entries)
        ∧ made.files.HasDir (Root.running.place w)
        ∧ (runningName name boot).utf8ByteSize ≤ nameLimit
        ∧ bench.perform (workspace.claim boot)
          = (made.stepTo ((made.files.erase (Root.pending.place w ++ [name])).put (.dir entries)
              (Root.running.place w ++ [runningName name boot]))).perform (do
                bindTo (workspace.running.join (runningName name boot)) boot
                return workspace.running.join (runningName name boot)) := by
  unfold claim
  have hread : (bench.perform (testsIn workspace.pending)).2 = bench := by
    rw [perform_testsIn]
    split <;> rfl
  rcases htests : bench.perform (testsIn workspace.pending) with ⟨failure | directories, read⟩
  all_goals
    rw [htests] at hread
    obtain rfl : read = bench := hread
  · exact .inl ⟨failure, read, Bench.perform_bind_error htests _, .inl rfl⟩
  rw [Bench.perform_bind_ok htests]
  cases directories with
  | nil => exact .inl ⟨_, read, rfl, .inl rfl⟩
  | cons next rest =>
    rcases testsIn_ok (r := .pending) hw htests with ⟨hnil, -⟩ | ⟨waiting, hwaiting, hdirectories⟩
    · cases hnil
    -- The first test is a directory of the pending root, under a name of one entry.
    obtain ⟨name, more, hfirst⟩ : ∃ name more, testNames waiting = name :: more := by
      cases hnames : testNames waiting with
      | nil => simp [hnames] at hdirectories
      | cons name more => exact ⟨name, more, rfl⟩
    obtain rfl : next = workspace.pending.join name := by
      rw [hfirst] at hdirectories
      exact (List.cons.inj hdirectories).1
    have hname : name ∈ testNames waiting := hfirst ▸ List.mem_cons_self
    have hplain : IsPlain name :=
      hpending.plain name (by rw [Node.namesAt_dir hwaiting]; exact mem_testNames hname)
    have hdir := hpending.hasDir hwaiting hname
    obtain ⟨node, hnode⟩ := id hdir
    simp only
    rw [directoryName_join _ hplain, Bench.perform_bind_ok (Bench.perform_ofExcept read _)]
    rcases makeRunning_cases hw hdir.above.above with ⟨fault, hmake⟩ | ⟨made, hmake, hmade, hplace⟩
    · exact .inl ⟨_, read, Bench.perform_bind_error
        (Bench.perform_reportedAs_error hmake .ofFault) _, .inl rfl⟩
    rw [Bench.perform_bind_ok (Bench.perform_reportedAs_ok hmake .ofFault)]
    have hkept : made.files.get? (Root.pending.place w ++ [name]) = some (.dir node) := by
      rw [hmade.get?_other (by decide), hnode]
    rcases rename_cases (hmade.spared hw).root hplain (isPlain_runningName hplain boot)
      (Node.HasDir.above ⟨node, hkept⟩) hplace with ⟨fault, hrename⟩ | ⟨moved, hmoved, hshort, hrename⟩
    · exact .inl ⟨_, made, Bench.perform_bind_error
        (Bench.perform_reportedAs_error hrename .ofFault) _, hmade⟩
    obtain rfl : moved = .dir node := Option.some.inj (hmoved.symm.trans hkept)
    exact .inr ⟨waiting, name, more, made, node, hwaiting, hfirst, hmade, hkept, hplace, hshort,
      Bench.perform_bind_ok (Bench.perform_reportedAs_ok hrename .ofFault) _⟩

/-- The steps of a claim, of whichever test. -/
theorem claim_steps (hw : workspace.root.Leads bench.files bench.here w)
    (hpending : bench.files.HoldsTests (Root.pending.place w) names) (boot : BootId) :
    (∃ failure after, bench.perform (workspace.claim boot) = (.error failure, after)
        ∧ bench.RootMade .running w after)
      ∨ ∃ name made entries, bench.RootMade .running w made
        ∧ made.files.get? (Root.pending.place w ++ [name]) = some (.dir entries)
        ∧ made.files.HasDir (Root.running.place w)
        ∧ (runningName name boot).utf8ByteSize ≤ nameLimit
        ∧ bench.perform (workspace.claim boot)
          = (made.stepTo ((made.files.erase (Root.pending.place w ++ [name])).put (.dir entries)
              (Root.running.place w ++ [runningName name boot]))).perform (do
                bindTo (workspace.running.join (runningName name boot)) boot
                return workspace.running.join (runningName name boot)) := by
  rcases claim_steps_first hw hpending.isListing boot with
    hfailed | ⟨-, name, -, made, entries, -, -, hmoved⟩
  · exact .inl hfailed
  · exact .inr ⟨name, made, entries, hmoved⟩

/-- A directory that has moved from the pending root into the running root. -/
theorem get?_moved (hrunning : bench.files.HasDir (Root.running.place w)) (name name' : String)
    (entries : List (String × Node)) :
    ((bench.files.erase (Root.pending.place w ++ [name])).put (.dir entries)
      (Root.running.place w ++ [name'])).get? (Root.running.place w ++ [name'])
        = some (.dir entries) := by
  obtain ⟨own, hown⟩ := hrunning
  have hroots := Root.place_apart (by decide : Root.pending ≠ .running) w
  rw [Node.get?_snoc (Node.get?_move_goal hroots hown _), Named.lookup_set_self]

/-- A test whose directory has moved from the pending root into the running root can be run there. -/
theorem runs_moved (hw : workspace.root.Leads bench.files bench.here w) (hplain : IsPlain name)
    (hrunning : bench.files.HasDir (Root.running.place w)) {boot : BootId}
    (hshort : (runningName name boot).utf8ByteSize ≤ nameLimit) (entries : List (String × Node)) :
    workspace.Runs w (runningName name boot)
      (bench.stepTo ((bench.files.erase (Root.pending.place w ++ [name])).put (.dir entries)
        (Root.running.place w ++ [runningName name boot]))) :=
  ⟨(hw.erase_in .pending [name]).put_in .running [runningName name boot] (.dir entries),
    isPlain_runningName hplain boot, hshort, entries,
    get?_moved hrunning name _ entries⟩

/-- A claim fails and spares the roots, or the test that is claimed has moved into the running root.
Then the boot id is written into its directory; this may still fail. -/
theorem claim_cases (hw : workspace.root.Leads bench.files bench.here w)
    (hpending : bench.files.HoldsTests (Root.pending.place w) names)
    (hrunning : bench.files.HoldsTests (Root.running.place w) []) (boot : BootId) :
    (∃ failure after, bench.perform (workspace.claim boot) = (.error failure, after)
        ∧ bench.Spared workspace w after)
      ∨ ∃ name result after, bench.perform (workspace.claim boot) = (result, after)
        ∧ bench.Claimed workspace w name (runningName name boot) after
        ∧ ∀ directory, result = .ok directory →
          directory = workspace.running.join (runningName name boot) := by
  rcases claim_steps hw hpending boot with ⟨failure, after, hclaim, hmade⟩ |
    ⟨name, made, entries, hmade, hnode, hplace, hshort, hclaim⟩
  · exact .inl ⟨failure, after, hclaim, hmade.spared hw⟩
  have hmade' := hmade.spared hw
  have htest := (hmade'.files .pending names hpending).isTest hnode
  have hplain := isPlain_runningName htest.plain boot
  obtain ⟨own, hown⟩ := hplace
  have hfree : made.files.get? (Root.running.place w ++ [runningName name boot]) = none := by
    obtain ⟨hempty, -⟩ := (hmade'.files .running [] hrunning).entries hown
    rw [Node.get?_snoc hown, Named.lookup_eq_none, hempty]
    simp
  have hmoved := Node.moved_erase_put (by decide : Root.pending ≠ .running) ⟨entries, hnode⟩
    ⟨own, hown⟩ hfree ⟨hplain, hshort, htest.isDir, htest.front⟩
  have hroot := (hmade'.root.erase_in .pending [name]).put_in .running [runningName name boot]
    (.dir entries)
  generalize (made.files.erase (Root.pending.place w ++ [name])).put (.dir entries)
    (Root.running.place w ++ [runningName name boot]) = files at hclaim hmoved hroot
  have hruns : workspace.Runs w (runningName name boot) (made.stepTo files) :=
    ⟨hroot, hplain, hshort, (hmoved.arrived [] (hmade'.files .running [] hrunning)).hasDir (by simp)⟩
  have hbind : (made.stepTo files).Inside (Root.running.place w ++ [runningName name boot])
      (· = prefixName) (fun _ => True) ((made.stepTo files).perform
        (bindTo (workspace.running.join (runningName name boot)) boot)).2 :=
    bindTo_staysIn (by decide) trivial boot (made.stepTo files) hruns.leads
  rcases hperform : (made.stepTo files).perform
    (bindTo (workspace.running.join (runningName name boot)) boot) with ⟨failure | _, after⟩
  all_goals
    rw [hperform] at hbind
    have hclaimed : bench.Claimed workspace w name (runningName name boot) after :=
      ⟨made, files, hmade', hmoved, hruns.root, .of_inside_running hruns hbind rfl⟩
  · exact .inr ⟨name, _, after, hclaim.trans (Bench.perform_bind_error hperform _), hclaimed,
      fun _ h => by cases h⟩
  · refine .inr ⟨name, _, after, hclaim.trans (Bench.perform_bind_ok hperform _), hclaimed, ?_⟩
    rintro _ ⟨⟩
    rfl

end Workspace

end BootTrial
