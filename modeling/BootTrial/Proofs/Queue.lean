import BootTrial.Proofs.Decoding
import BootTrial.Proofs.Draining
import BootTrial.Proofs.Unasked

/-!
# First in, first out

The tests of a batch wait in the order of its rows: they are put in order by the ordinals in their
names, and these are read as numbers, not as texts (`testNames_batchFrom`). A claim takes the first
of them, or it fails and takes none (`Workspace.claim_queue`); so however many claims there are and
whichever of them fail, they take the tests in the order of the rows (`Workspace.claimAll_queue`).

The directory of a test has been taken when it has moved. The file for the boot id is written after
that, and if its path is refused the claim fails although it has taken the test
(`Workspace.enrollRows_skips`).
-/

namespace BootTrial

/-! ## The order of a batch -/

/-- The ordinals of a batch are in the names of its tests. -/
theorem ordinal?_pendingName {ordinal : Nat} (h : ordinal < Text.countLimit) (template : String)
    (scenario : Scenario) : ordinal? (pendingName ordinal template scenario) = some ordinal := by
  refine ordinal?_of_logPrefix h template (separator.toList ++ scenario.fragment.toList) ?_
  simp [pendingName]

/-- A test goes before another with a larger ordinal. -/
theorem precedes_pendingName {ordinal ordinal' : Nat} (hlt : ordinal < ordinal')
    (hlimit : ordinal' < Text.countLimit) (template : String) (scenario scenario' : Scenario) :
    precedes (pendingName ordinal template scenario) (pendingName ordinal' template scenario')
      = true := by
  have hfirst := ordinal?_pendingName (hlt.trans hlimit) template scenario
  have hsecond := ordinal?_pendingName hlimit template scenario'
  simp [precedes, sortOrdinal, hfirst, hsecond, hlt]

/-- The tests of a batch are in their order. -/
theorem ordered_batchFrom (template : String) (header : List String) {ordinal : Nat}
    {scenarios : List Scenario} (h : ordinal + scenarios.length ≤ Text.countLimit) :
    (batchFrom template header ordinal scenarios).names.Pairwise (precedes · · = true) := by
  induction scenarios generalizing ordinal with
  | nil => exact .nil
  | cons scenario rest ih =>
    rw [List.length_cons] at h
    refine List.pairwise_cons.mpr ⟨fun name hname => ?_, ih (by omega)⟩
    obtain ⟨entry, hentry, rfl⟩ := List.mem_map.mp hname
    obtain ⟨i, hi⟩ := List.getElem?_of_mem hentry
    rw [getElem?_batchFrom, Option.map_eq_some_iff] at hi
    obtain ⟨other, hother, rfl⟩ := hi
    have hlength := (List.getElem?_eq_some_iff.mp hother).1
    exact precedes_pendingName (by omega) (by omega) template scenario other

/-- The directories of tests that wait, each unbound, in the order of the tests. -/
structure IsQueue (waiting : Named Node) : Prop where
  /-- They have not been bound to a boot yet. -/
  unbound : ∀ entry ∈ waiting, Node.IsUnbound entry.1 entry.2
  /-- No name stands twice. -/
  nodup : waiting.names.Nodup
  /-- They are in order. -/
  ordered : waiting.names.Pairwise (precedes · · = true)

namespace IsQueue

variable {waiting : Named Node}

/-- What is left of a queue is a queue. -/
theorem of_sublist {left : Named Node} (h : IsQueue waiting) (hleft : left.Sublist waiting) :
    IsQueue left :=
  ⟨fun entry hentry => h.unbound entry (hleft.subset hentry), h.nodup.sublist (hleft.map _),
    h.ordered.sublist (hleft.map _)⟩

/-- The tests in a queue are listed as they wait. -/
theorem testNames (h : IsQueue waiting) : testNames waiting = waiting.names := by
  have hdirs : waiting.filter (·.2.isDir) = waiting := by
    refine List.filter_eq_self.mpr fun entry hentry => ?_
    obtain ⟨-, own, hown, -⟩ := h.unbound entry hentry
    rw [hown]
    rfl
  rw [BootTrial.testNames, hdirs]
  exact List.mergeSort_of_pairwise h.ordered

/-- The others are left when the first is erased. -/
theorem erase_first {first : String × Node} {rest : Named Node} (h : IsQueue (first :: rest)) :
    Named.erase first.1 (first :: rest) = rest := by
  have hnot : first.1 ∉ Named.names rest := (List.nodup_cons.mp h.nodup).1
  rw [Named.erase, List.filter_cons_of_neg (by simp)]
  refine List.filter_eq_self.mpr fun entry hentry => decide_eq_true ?_
  intro hsame
  exact hnot (hsame ▸ List.mem_map_of_mem hentry)

/-- What is in the place of a queue lists the names of its tests. -/
theorem isListing {root : Node} {place : Place} (h : IsQueue waiting)
    (hwaiting : root.get? place = some (.dir waiting)) : root.IsListing place := by
  constructor <;> rw [Node.namesAt_dir hwaiting]
  · intro name hname
    obtain ⟨entry, hentry, rfl⟩ := List.mem_map.mp hname
    exact (h.unbound entry hentry).1
  · exact h.nodup

end IsQueue

/-! ## Claims -/

/-- A test has been taken in a boot: its directory is in the running root, as it was while the test
waited but for the boot id. -/
def Node.HasTaken (w : Place) (entry : String × Node) (boot : BootId) (root : Node) : Prop :=
  root.HasDir (Root.running.place w ++ [runningName entry.1 boot])
    ∧ ∀ other ≠ bootIdName,
      root.get? (Root.running.place w ++ [runningName entry.1 boot] ++ [other])
        = entry.2.get? [other]

/-- Making the running root leaves the tests alone that have been taken. -/
theorem Bench.RootMade.hasTaken {w : Place} {before after : Bench} {entry : String × Node}
    {boot : BootId} (h : before.RootMade .running w after)
    (htaken : before.files.HasTaken w entry boot) : after.files.HasTaken w entry boot := by
  rcases h with rfl | ⟨d, name, -, -, hnone, -⟩
  · exact htaken
  · obtain ⟨entries, hentries⟩ := htaken.1.above
    rw [hnone] at hentries
    cases hentries

namespace Workspace

variable {workspace : Workspace} {w : Place} {bench : Bench} {waiting : Named Node}

/-- A queue waits in the pending root. -/
structure Queues (workspace : Workspace) (w : Place) (waiting : Named Node) (bench : Bench) :
    Prop where
  /-- The path of the workspace leads there. -/
  root : workspace.root.Leads bench.files bench.here w
  /-- The path of the pending root is accepted. -/
  accepted : workspace.pending.refusal? = none
  /-- The directories of the tests. -/
  pending : bench.files.get? (Root.pending.place w) = some (.dir waiting)
  /-- They are a queue. -/
  queue : IsQueue waiting

/-- The tests in a queue are read in their order. -/
theorem Queues.testsIn (h : workspace.Queues w waiting bench) :
    bench.perform (testsIn workspace.pending)
      = (.ok (waiting.names.map workspace.pending.join), bench) := by
  rw [perform_testsIn, entriesAt_pending h.root h.accepted h.pending]
  simp only [h.queue.testNames]

/-- When the directory of a test has moved into the running root and its boot id is written there,
the claim gives what it gives to the taker; the tests that were taken before stay as they are. -/
theorem bindTo_moved {made : Bench} {name : String} {own : List (String × Node)} {boot : BootId}
    (hw : workspace.root.Leads made.files made.here w) (hname : IsPlain name)
    (hown : own.lookup bootIdName = none) (hrunning : made.files.HasDir (Root.running.place w))
    (hshort : (runningName name boot).utf8ByteSize ≤ nameLimit)
    (hpending : made.files.get? (Root.pending.place w) = some (.dir waiting)) :
    ∃ after, (made.stepTo ((made.files.erase (Root.pending.place w ++ [name])).put (.dir own)
          (Root.running.place w ++ [runningName name boot]))).perform (do
            bindTo (workspace.running.join (runningName name boot)) boot
            return workspace.running.join (runningName name boot))
        = (workspace.taken name boot, after)
      ∧ workspace.root.Leads after.files after.here w
      ∧ after.files.get? (Root.pending.place w) = some (.dir (Named.erase name waiting))
      ∧ after.files.HasTaken w (name, .dir own) boot
      ∧ ∀ entry boot', entry.1 ≠ name → made.files.HasTaken w entry boot' →
        after.files.HasTaken w entry boot' := by
  have hruns := runs_moved hw hname hrunning hshort own
  have hthere := get?_moved hrunning name (runningName name boot) own
  have hroots := Root.place_apart (by decide : Root.pending ≠ .running) w
  generalize hfiles : (made.files.erase (Root.pending.place w ++ [name])).put (.dir own)
    (Root.running.place w ++ [runningName name boot]) = files at hruns hthere ⊢
  have hlists : (made.stepTo files).Lists (workspace.running.join (runningName name boot))
      (Root.running.place w ++ [runningName name boot]) own := ⟨hruns.leads, hthere⟩
  obtain ⟨after, hbind, hinside, hdir⟩ := bindTo_unbound hlists hown boot
  refine ⟨after, perform_taken hbind, (hruns.inside hinside).root, ?_,
    ⟨hdir, fun other hother => ?_⟩, fun entry boot' hne htaken => ?_⟩
  · rw [hinside.files.get?_of_apart (hroots.append_right [runningName name boot]).symm]
    show files.get? (Root.pending.place w) = _
    rw [← hfiles]
    exact Node.get?_move_source hroots hpending _
  · have hentry : (Node.dir own).get? [other] = own.lookup other :=
      Node.get?_snoc (d := []) rfl other
    rw [hinside.files.get?_kept hother, hentry]
    exact Node.get?_snoc hthere other
  · -- What has been taken before is apart from where the directory was and from where it is.
    have hkept : ∀ below, after.files.get? (Root.running.place w ++ [runningName entry.1 boot'] ++ below)
        = made.files.get? (Root.running.place w ++ [runningName entry.1 boot'] ++ below) := by
      intro below
      have hapart : Place.Apart (Root.running.place w ++ [runningName name boot])
          (Root.running.place w ++ [runningName entry.1 boot'] ++ below) := by
        rw [List.append_assoc]
        exact (Place.Apart.of_ne (fun h => hne (runningName_inj h).1.symm) [] below).append_left _
      have hapart' : Place.Apart (Root.pending.place w ++ [name])
          (Root.running.place w ++ [runningName entry.1 boot'] ++ below) := by
        rw [List.append_assoc]
        exact ((hroots.append_right _).symm.append_right _).symm
      rw [hinside.files.get?_of_apart hapart]
      show files.get? _ = _
      rw [← hfiles, Node.get?_put_of_apart hapart, Node.get?_erase_of_apart hapart']
    refine ⟨?_, fun other hother => ?_⟩
    · obtain ⟨entries, hentries⟩ := htaken.1
      exact ⟨entries, by rw [← List.append_nil (_ ++ [_]), hkept [], List.append_nil, hentries]⟩
    · rw [hkept [other]]
      exact htaken.2 other hother

/-- A claim fails and leaves the queue as it is, or it takes the first test. Where there is none it
fails for that, and changes nothing. -/
theorem claim_queue (h : workspace.Queues w waiting bench) (boot : BootId) :
    (waiting = [] → bench.perform (workspace.claim boot)
        = (.error (.noPendingTests workspace.pending), bench))
      ∧ ((∃ failure after, bench.perform (workspace.claim boot) = (.error failure, after)
          ∧ workspace.Queues w waiting after
          ∧ ∀ entry boot', bench.files.HasTaken w entry boot' → after.files.HasTaken w entry boot')
        ∨ ∃ first rest after, waiting = first :: rest
          ∧ bench.perform (workspace.claim boot) = (workspace.taken first.1 boot, after)
          ∧ workspace.Queues w rest after
          ∧ after.files.HasTaken w first boot
          ∧ ∀ entry boot', entry.1 ≠ first.1 → bench.files.HasTaken w entry boot' →
            after.files.HasTaken w entry boot') := by
  refine ⟨?_, ?_⟩
  · rintro rfl
    exact claim_empty h.root h.accepted h.pending boot
  rcases claim_steps_first h.root (h.queue.isListing h.pending) boot with
    ⟨failure, after, hclaim, hmade⟩ |
    ⟨listed, name, more, made, own, hlisted, hfirst, hmade, hnode, hrunning, hshort, hclaim⟩
  · have hpending : after.files.get? (Root.pending.place w) = some (.dir waiting) := by
      rw [← List.append_nil (Root.pending.place w), hmade.get?_other (by decide), List.append_nil,
        h.pending]
    exact .inl ⟨failure, after, hclaim, ⟨(hmade.spared h.root).root, h.accepted, hpending, h.queue⟩,
      fun _ _ => hmade.hasTaken⟩
  · obtain rfl : listed = waiting := by
      rw [h.pending] at hlisted
      exact (Node.dir.inj (Option.some.inj hlisted)).symm
    -- The test that is taken is the first in the queue.
    rw [h.queue.testNames] at hfirst
    cases listed with
    | nil => cases hfirst
    | cons first rest =>
      obtain ⟨name', node⟩ := first
      obtain ⟨rfl, -⟩ := List.cons.inj hfirst
      have hpending : made.files.get? (Root.pending.place w) = some (.dir ((name', node) :: rest)) := by
        rw [← List.append_nil (Root.pending.place w), hmade.get?_other (by decide),
          List.append_nil, h.pending]
      obtain rfl : node = .dir own := by
        rw [Node.get?_snoc hpending, List.lookup_cons_self] at hnode
        exact Option.some.inj hnode
      obtain ⟨hname, own', hsame, hown⟩ := h.queue.unbound _ List.mem_cons_self
      obtain rfl : own = own' := Node.dir.inj hsame
      obtain ⟨after, hbind, hroot, hleft, htaken, hothers⟩ :=
        bindTo_moved (hmade.spared h.root).root hname hown hrunning hshort hpending
      rw [h.queue.erase_first] at hleft
      exact .inr ⟨_, rest, after, rfl, hclaim.trans hbind,
        ⟨hroot, h.accepted, hleft, h.queue.of_sublist (List.sublist_cons_self _ _)⟩, htaken,
        fun entry boot' hne hbefore => hothers entry boot' hne (hmade.hasTaken hbefore)⟩

/-- The first test of a queue is taken if its new name is not too long and free in the running root,
and its new path is accepted. -/
theorem claim_takes {first : String × Node} {rest : Named Node}
    (h : workspace.Queues w (first :: rest) bench) (boot : BootId)
    (hrunning : bench.files.NoFile (Root.running.place w))
    (hfree : runningName first.1 boot ∉ bench.files.namesAt (Root.running.place w))
    (hshort : (runningName first.1 boot).utf8ByteSize ≤ nameLimit)
    (haccepted : (workspace.running.join (runningName first.1 boot)).refusal? = none) :
    ∃ after, bench.perform (workspace.claim boot) = (workspace.taken first.1 boot, after)
      ∧ workspace.Queues w rest after
      ∧ after.files.HasDir (Root.running.place w)
      ∧ after.files.namesAt (Root.running.place w)
        = bench.files.namesAt (Root.running.place w) ++ [runningName first.1 boot] := by
  obtain ⟨after, hclaim, hroot, hleft, hdir, hnames⟩ := claim_first h.root h.pending
    h.queue.unbound h.queue.testNames hrunning hfree hshort haccepted
  rw [h.queue.erase_first] at hleft
  exact ⟨after, hclaim, ⟨hroot, h.accepted, hleft,
    h.queue.of_sublist (List.sublist_cons_self _ _)⟩, hdir, hnames⟩

/-- Claims, each in a boot and one after the other, whatever comes of them. -/
def claimAll (workspace : Workspace) : List BootId → Work (List (Except Error Path))
  | [] => return []
  | boot :: rest => do
    let outcome ← (workspace.claim boot).outcome
    return outcome :: (← workspace.claimAll rest)

/-- Of the tests in a queue as many as boots were chosen have been taken, from its head on, each by a
claim in its boot. The other claims took none. -/
structure Drained (workspace : Workspace) (w : Place) (waiting : Named Node)
    (outcomes : List (Except Error Path)) (chosen : List BootId) (after : Bench) : Prop where
  /-- There were no more claims that took a test than tests. -/
  length_le : chosen.length ≤ waiting.length
  /-- The claims that succeeded gave the tests that were taken, in the order of the queue. -/
  given : outcomes.filterMap Except.toOption
    = (List.zipWith workspace.taken waiting.names chosen).filterMap Except.toOption
  /-- The tests that were taken are in the running root. -/
  taken : ∀ pair ∈ waiting.zip chosen, after.files.HasTaken w pair.1 pair.2
  /-- The other tests wait. -/
  left : workspace.Queues w (waiting.drop chosen.length) after

/-- However many claims there are and whichever of them fail, they take the tests of a queue in their
order. -/
theorem claimAll_queue {boots : List BootId} (h : workspace.Queues w waiting bench) :
    ∃ outcomes chosen after, bench.perform (workspace.claimAll boots) = (.ok outcomes, after)
      ∧ chosen.Sublist boots ∧ workspace.Drained w waiting outcomes chosen after
      ∧ ∀ entry boot, entry.1 ∉ waiting.names → bench.files.HasTaken w entry boot →
        after.files.HasTaken w entry boot := by
  induction boots generalizing bench waiting with
  | nil =>
    exact ⟨[], [], bench, rfl, .slnil, ⟨Nat.zero_le _, by simp, by simp, h⟩, fun _ _ _ => id⟩
  | cons boot boots ih =>
    have hclaims : ∀ {result middle outcomes after},
        bench.perform (workspace.claim boot) = (result, middle) →
        middle.perform (workspace.claimAll boots) = (.ok outcomes, after) →
        bench.perform (workspace.claimAll (boot :: boots)) = (.ok (result :: outcomes), after) := by
      intro result middle outcomes after hclaim hrest
      have houtcome : bench.perform (workspace.claim boot).outcome = (.ok result, middle) := by
        rw [Bench.perform_outcome, hclaim]
      rw [claimAll, Bench.perform_bind_ok houtcome, Bench.perform_bind_ok hrest]
      rfl
    rcases (claim_queue h boot).2 with ⟨failure, middle, hclaim, hmiddle, hkeeps⟩ |
      ⟨first, rest, middle, rfl, hclaim, hmiddle, htaken, hkeeps⟩
    · -- The claim takes no test, and the rest of them meet the same queue.
      obtain ⟨outcomes, chosen, after, hperform, hchosen, hdrained, hothers⟩ := ih hmiddle
      refine ⟨_, chosen, after, hclaims hclaim hperform, hchosen.cons boot,
        ⟨hdrained.length_le, ?_, hdrained.taken, hdrained.left⟩,
        fun entry boot' hnot hbefore => hothers entry boot' hnot (hkeeps entry boot' hbefore)⟩
      rw [List.filterMap_cons]
      exact hdrained.given
    · -- The claim takes the first test, and the rest of them meet what is left.
      obtain ⟨outcomes, chosen, after, hperform, hchosen, hdrained, hothers⟩ := ih hmiddle
      have hfirst : first.1 ∉ Named.names rest := (List.nodup_cons.mp h.queue.nodup).1
      refine ⟨_, boot :: chosen, after, hclaims hclaim hperform, hchosen.cons_cons boot,
        ⟨Nat.succ_le_succ hdrained.length_le, ?_, ?_, hdrained.left⟩,
        fun entry boot' hnot hbefore => ?_⟩
      · show List.filterMap _ (_ :: outcomes) = List.filterMap _ (_ :: _)
        rw [List.filterMap_cons, List.filterMap_cons, hdrained.given]
        rfl
      · intro pair hpair
        rcases List.mem_cons.mp hpair with rfl | hpair
        · exact hothers first boot hfirst htaken
        · exact hdrained.taken pair hpair
      · obtain ⟨hne, hrest⟩ := not_or.mp (fun hmem => hnot (List.mem_cons.mpr hmem))
        exact hothers entry boot' hrest (hkeeps entry boot' hne hbefore)

section Enrolled

variable {template : String} {header : List String} {rows : List (Except Error Scenario)}
  {start last : Bench} {directories : List Path}

/-- When a batch has been enrolled its tests are a queue, in the order of the rows. -/
theorem enrollRows_queues (hw : workspace.root.Leads start.files start.here w)
    (hlimit : rows.length < Text.countLimit)
    (h : start.perform (workspace.enrollRows template header rows) = (.ok directories, last)) :
    ∃ scenarios, rows = scenarios.map .ok
      ∧ directories = (batchFrom template header 1 scenarios).names.map workspace.pending.join
      ∧ workspace.Queues w (batchFrom template header 1 scenarios) last := by
  rcases enrollRows_cases hw template header rows with ⟨failure, after, hperform, -⟩ |
    ⟨scenarios, middle, files, rfl, -, hperform, hmiddle, -, hpublishes, hbatch, htests, haccepted,
      -⟩
  · cases h.symm.trans hperform
  obtain ⟨hdirectories, rfl⟩ := Prod.mk.inj (h.symm.trans hperform)
  rw [List.length_map] at hlimit
  exact ⟨scenarios, rfl, Except.ok.inj hdirectories, hmiddle.here ▸ hpublishes.leads, haccepted,
    hpublishes.pending.trans hbatch, isUnbound_of_batch hbatch htests, nodup_names_batchFrom ..,
    ordered_batchFrom template header (by omega)⟩

/-- When a batch has been enrolled its tests have different names and wait in the order of its rows.
Claims take them in this order, however many there are and whichever of them fail; when all have been
taken there is none to claim. -/
theorem enrollRows_fifo (hw : workspace.root.Leads start.files start.here w)
    (hlimit : rows.length < Text.countLimit)
    (h : start.perform (workspace.enrollRows template header rows) = (.ok directories, last)) :
    ∃ scenarios, rows = scenarios.map .ok
      ∧ directories = (batchFrom template header 1 scenarios).names.map workspace.pending.join
      ∧ (batchFrom template header 1 scenarios).names.Nodup
      ∧ last.perform (testsIn workspace.pending) = (.ok directories, last)
      ∧ ∀ boots : List BootId, ∃ outcomes chosen after,
        last.perform (workspace.claimAll boots) = (.ok outcomes, after)
        ∧ chosen.Sublist boots
        ∧ workspace.Drained w (batchFrom template header 1 scenarios) outcomes chosen after
        ∧ after.perform (testsIn workspace.pending) = (.ok (directories.drop chosen.length), after)
        ∧ (chosen.length = rows.length → ∀ boot, after.perform (workspace.claim boot)
          = (.error (.noPendingTests workspace.pending), after)) := by
  obtain ⟨scenarios, hrows, rfl, hqueue⟩ := enrollRows_queues hw hlimit h
  refine ⟨scenarios, hrows, rfl, hqueue.queue.nodup, hqueue.testsIn, fun boots => ?_⟩
  obtain ⟨outcomes, chosen, after, hperform, hchosen, hdrained, -⟩ := claimAll_queue hqueue
  refine ⟨outcomes, chosen, after, hperform, hchosen, hdrained, ?_, fun hall boot => ?_⟩
  · rw [hdrained.left.testsIn, Named.names, List.map_drop, List.map_drop]
    rfl
  · have hlength : (batchFrom template header 1 scenarios).length = rows.length := by
      rw [hrows, List.length_map, ← length_names_batchFrom template header 1 scenarios,
        Named.names, List.length_map]
    exact (claim_queue hdrained.left boot).1 (List.drop_eq_nil_of_le (by omega))

end Enrolled

end Workspace

/-- The rows of a batch of eleven tests, all of one scenario. -/
def elevenRows : List (Except Error Scenario) :=
  (List.replicate 11 (⟨[("mode", "deep")]⟩ : Scenario)).map .ok

set_option maxRecDepth 100000 in
/-- The tenth of eleven tests waits in front of the last, and behind the second. -/
theorem Workspace.enrollRows_fifo_eleven :
    ∃ directories last, bareBench.perform ((Settings.workspace {}).enrollRows "power" ["mode"]
        elevenRows) = (.ok directories, last)
      ∧ directories = (["1-power--mode-deep", "2-power--mode-deep", "3-power--mode-deep",
        "4-power--mode-deep", "5-power--mode-deep", "6-power--mode-deep", "7-power--mode-deep",
        "8-power--mode-deep", "9-power--mode-deep", "10-power--mode-deep",
        "11-power--mode-deep"].map (Settings.workspace {}).pending.join)
      ∧ last.perform (testsIn (Settings.workspace {}).pending) = (.ok directories, last)
      ∧ ∃ outcomes after, ∃ chosen : List BootId,
        last.perform ((Settings.workspace {}).claimAll (List.replicate 12 longBoot))
          = (.ok outcomes, after)
        ∧ after.perform (testsIn (Settings.workspace {}).pending)
          = (.ok (directories.drop chosen.length), after) := by
  have hroot : (Settings.workspace {}).root.Leads bareBench.files bareBench.here [] :=
    Path.leads_dot ⟨_, rfl⟩
  have hready : (Settings.workspace {}).IsReady [] bareBench.files :=
    ⟨by decide +kernel, Node.noFile_of_none rfl, Node.noFile_of_none rfl, .inl rfl⟩
  have hnames : (batchFrom "power" ["mode"] 1 (List.replicate 11 ⟨[("mode", "deep")]⟩)).names
      = ["1-power--mode-deep", "2-power--mode-deep", "3-power--mode-deep", "4-power--mode-deep",
        "5-power--mode-deep", "6-power--mode-deep", "7-power--mode-deep", "8-power--mode-deep",
        "9-power--mode-deep", "10-power--mode-deep", "11-power--mode-deep"] := by decide +kernel
  have hadmits : (Settings.workspace {}).AdmitsFrom "power" ["mode"] 1 elevenRows := by
    refine ⟨_, rfl, ?_, fun name hname => ?_⟩
    · intro scenario hscenario
      rw [(List.mem_replicate.mp hscenario).2]
      rfl
    · rw [hnames] at hname
      have hfacts : 2 < name.toList.length ∧ '/' ∉ name.toList ∧ '\x00' ∉ name.toList
          ∧ name.utf8ByteSize ≤ nameLimit := by
        revert name
        decide +kernel
      exact .of_isShallow bareWorkspace_isShallow (isPlain_of_length hfacts.1 hfacts.2.1)
        hfacts.2.2.1 hfacts.2.2.2
  obtain ⟨scenarios, last, hrows, henroll, -⟩ := enrollRows_ready hroot hready hadmits
  obtain rfl : scenarios = List.replicate 11 ⟨[("mode", "deep")]⟩ :=
    (List.map_injective_iff.mpr (fun _ _ => Except.ok.inj) hrows).symm
  obtain ⟨scenarios', hrows', hdirectories, -, htests, hclaims⟩ :=
    enrollRows_fifo hroot (by decide) henroll
  obtain ⟨outcomes, chosen, after, hclaim, -, -, hleft, -⟩ := hclaims (List.replicate 12 longBoot)
  exact ⟨_, last, henroll, by rw [hnames], htests, outcomes, after, chosen, hclaim, hleft⟩

/-! ## A claim that fails when it has taken a test -/

/-- The length of a row of dots with slashes between them. -/
theorem Path.text_dots (n : Nat) :
    (⟨List.replicate (n + 1) "."⟩ : Path).text.utf8ByteSize = 2 * n + 1
      ∧ '\x00' ∉ (⟨List.replicate (n + 1) "."⟩ : Path).text.toList := by
  induction n with
  | zero => decide +kernel
  | succ n ih =>
    have htext : (⟨List.replicate (n + 1 + 1) "."⟩ : Path).text
        = "." ++ "/" ++ (⟨List.replicate (n + 1) "."⟩ : Path).text := by
      rw [text, List.replicate_succ, List.replicate_succ, String.intercalate_cons_cons,
        ← List.replicate_succ]
      rfl
    have hdot : '\x00' ∉ ("." ++ "/").toList ∧ ("." ++ "/").utf8ByteSize = 2 := by decide +kernel
    rw [htext, String.utf8ByteSize_append, String.toList_append, List.mem_append, not_or]
    exact ⟨by omega, hdot.1, ih.2⟩

/-- The workspace in the working directory, whose path is spelled with more than two thousand dots. -/
def dottedWorkspace : Workspace := ⟨⟨List.replicate (2023 + 1) "."⟩⟩

/-- The length of the paths of its files. -/
theorem dottedWorkspace_runtime : dottedWorkspace.runtime.text.utf8ByteSize = 4055
    ∧ '\x00' ∉ dottedWorkspace.runtime.text.toList := by
  have hfront : dottedWorkspace.root.front = List.replicate (2023 + 1) "." := by
    rw [Path.front, dottedWorkspace, List.getLast?_replicate]
    rfl
  have htext : dottedWorkspace.runtime.text
      = (⟨List.replicate (2023 + 1) "."⟩ : Path).text ++ "/" ++ "runtime" := by
    rw [Workspace.runtime, Path.text_join _ runtimeName_isPlain, hfront, if_neg (by simp)]
  have hnames : "/".utf8ByteSize = 1 ∧ "runtime".utf8ByteSize = 7 ∧ '\x00' ∉ "/".toList
      ∧ '\x00' ∉ "runtime".toList := by decide
  obtain ⟨hsize, hnul⟩ := Path.text_dots 2023
  rw [htext]
  simp only [String.utf8ByteSize_append, String.toList_append, List.mem_append, not_or]
  exact ⟨by omega, ⟨hnul, hnames.2.2.1⟩, hnames.2.2.2⟩

/-- When the path of a file of a test is refused there. -/
theorem dottedWorkspace_refusal {root name file : String} (hroot : IsPlain root)
    (hname : IsPlain name) (hfile : IsPlain file)
    (hnul : '\x00' ∉ root.toList ∧ '\x00' ∉ name.toList ∧ '\x00' ∉ file.toList) :
    (((dottedWorkspace.runtime.join root).join name).join file).refusal?
      = if 38 ≤ root.utf8ByteSize + name.utf8ByteSize + file.utf8ByteSize then some .nameTooLong
        else none := by
  have hslash : "/".utf8ByteSize = 1 ∧ '\x00' ∉ "/".toList := by decide
  obtain ⟨hsize, hruntime⟩ := dottedWorkspace_runtime
  have hlimit : pathLimit = 4096 := rfl
  have hcontains : (((dottedWorkspace.runtime.join root).join name).join file).text.toList.contains
      '\x00' = false := by
    rw [Workspace.text_testFile hroot hname hfile]
    simp only [String.toList_append, Bool.eq_false_iff, ne_eq, List.contains_iff_mem, List.mem_append,
      not_or]
    exact ⟨⟨⟨⟨⟨⟨hruntime, hslash.2⟩, hnul.1⟩, hslash.2⟩, hnul.2.1⟩, hslash.2⟩, hnul.2.2⟩
  have hlength : (((dottedWorkspace.runtime.join root).join name).join file).text.utf8ByteSize
      = 4058 + (root.utf8ByteSize + name.utf8ByteSize + file.utf8ByteSize) := by
    rw [Workspace.text_testFile hroot hname hfile]
    simp only [String.utf8ByteSize_append]
    omega
  rw [Path.refusal?, hcontains, hlength]
  simp only [Bool.false_eq_true, if_false]
  split <;> split <;> first | rfl | omega

/-- A batch of two tests, the second with a shorter name. -/
def unequalScenarios : List Scenario := [⟨[("m", "sleep")]⟩, ⟨[("m", "s4")]⟩]

/-- The boot of the claim that fails. -/
def tenBoot : BootId := ⟨"b00tb00t10", by decide⟩

set_option maxRecDepth 100000 in
/-- The first claim fails after it has taken the first test, since the path of the file for the boot
id is one octet too long. So the first claim that succeeds gives the second test. -/
theorem Workspace.enrollRows_skips : ∃ enrolled failed after,
    bareBench.perform (dottedWorkspace.enrollRows "t" ["m"] (unequalScenarios.map .ok))
        = (.ok [dottedWorkspace.pending.join "1-t--m-sleep",
          dottedWorkspace.pending.join "2-t--m-s4"], enrolled)
      ∧ enrolled.perform (dottedWorkspace.claim tenBoot)
        = (.error (.ofFault .nameTooLong), failed)
      ∧ failed.perform (dottedWorkspace.claim begunBoot)
        = (.ok (dottedWorkspace.running.join (runningName "2-t--m-s4" begunBoot)), after) := by
  have hroot : dottedWorkspace.root.Leads bareBench.files bareBench.here [] :=
    Path.leads_dots 2023 ⟨_, rfl⟩
  have hnames : (batchFrom "t" ["m"] 1 unequalScenarios).names = ["1-t--m-sleep", "2-t--m-s4"] := by
    decide +kernel
  have hroom : ∀ name ∈ ["1-t--m-sleep", "2-t--m-s4"], dottedWorkspace.HasRoom name := by
    intro name hname
    have hfacts : 2 < name.toList.length ∧ '/' ∉ name.toList ∧ '\x00' ∉ name.toList
        ∧ name.utf8ByteSize ≤ 12 := by
      revert name
      decide +kernel
    obtain ⟨hlength, hslash, hnul, hsize⟩ := hfacts
    have hrefusal := dottedWorkspace_refusal stagingName_isPlain (isPlain_of_length hlength hslash)
      draftName_isPlain ⟨by decide, hnul, by decide⟩
    have hsizes : ".staging".utf8ByteSize = 8
        ∧ (Scenario.draftName scenarioName).utf8ByteSize = 17 := by decide +kernel
    have hlimit : nameLimit = 255 := rfl
    rw [if_neg (by omega)] at hrefusal
    exact ⟨hslash, by omega, hrefusal⟩
  have hstaging : dottedWorkspace.staging.refusal? = none := by
    have hplain : IsPlain "1-t--m-sleep" := isPlain_of_length (by decide) (by decide)
    exact Path.refusal?_of_join stagingName_isPlain hplain
      (Path.refusal?_of_join hplain draftName_isPlain (hroom _ (by simp)).accepted)
  -- The batch is enrolled.
  obtain ⟨scenarios, enrolled, hrows, henroll, -, -, hrunning, -⟩ := enrollRows_ready hroot
    (⟨hstaging, Node.noFile_of_none rfl, Node.noFile_of_none rfl, .inl rfl⟩ :
      dottedWorkspace.IsReady [] bareBench.files)
    (⟨unequalScenarios, rfl, by decide, fun name hname => hroom name (hnames ▸ hname)⟩ :
      dottedWorkspace.AdmitsFrom "t" ["m"] 1 (unequalScenarios.map .ok))
  obtain rfl : scenarios = unequalScenarios :=
    (List.map_injective_iff.mpr (fun _ _ => Except.ok.inj) hrows).symm
  obtain ⟨scenarios, hrows', -, hqueue⟩ := enrollRows_queues hroot (by decide) henroll
  obtain rfl : scenarios = unequalScenarios :=
    (List.map_injective_iff.mpr (fun _ _ => Except.ok.inj) hrows').symm
  have hnone : enrolled.files.get? (Root.running.place []) = none := hrunning
  have hplain : IsPlain "1-t--m-sleep" ∧ IsPlain "2-t--m-s4" :=
    ⟨isPlain_of_length (by decide) (by decide), isPlain_of_length (by decide) (by decide)⟩
  have hsizes : "running".utf8ByteSize = 7 ∧ bootIdName.utf8ByteSize = 7
      ∧ prefixName.utf8ByteSize = 6
      ∧ (runningName "1-t--m-sleep" tenBoot).utf8ByteSize = 24
      ∧ (runningName "2-t--m-s4" begunBoot).utf8ByteSize = 15 := by decide +kernel
  have hnul : '\x00' ∉ (runningName "1-t--m-sleep" tenBoot).toList
      ∧ '\x00' ∉ (runningName "2-t--m-s4" begunBoot).toList := by decide +kernel
  have hlimit : nameLimit = 255 := rfl
  -- The first test is taken, but the path of its file for the boot id is refused.
  have hfile := dottedWorkspace_refusal runningName_isPlain (isPlain_runningName hplain.1 tenBoot)
    bootIdName_isPlain ⟨by decide, hnul.1, by decide⟩
  have hbeside := dottedWorkspace_refusal runningName_isPlain (isPlain_runningName hplain.1 tenBoot)
    prefixName_isPlain ⟨by decide, hnul.1, by decide⟩
  rw [if_pos (by omega)] at hfile
  rw [if_neg (by omega)] at hbeside
  obtain ⟨failed, hfirst, hleft, hdir, hnames'⟩ := claim_takes hqueue tenBoot
    (Node.noFile_of_none hnone) (by rw [Node.namesAt, hnone]; simp) (by
      show (runningName "1-t--m-sleep" tenBoot).utf8ByteSize ≤ nameLimit
      omega) (Path.refusal?_of_join (isPlain_runningName hplain.1 tenBoot) prefixName_isPlain hbeside)
  -- The second one is taken and given.
  have hfile' := dottedWorkspace_refusal runningName_isPlain
    (isPlain_runningName hplain.2 begunBoot) bootIdName_isPlain ⟨by decide, hnul.2, by decide⟩
  rw [if_neg (by omega)] at hfile'
  have hfree : runningName "2-t--m-s4" begunBoot ∉ failed.files.namesAt (Root.running.place []) := by
    rw [hnames', Node.namesAt, hnone]
    decide +kernel
  obtain ⟨after, hsecond, -⟩ := claim_takes hleft begunBoot hdir.noFile hfree (by
      show (runningName "2-t--m-s4" begunBoot).utf8ByteSize ≤ nameLimit
      omega) (Path.refusal?_of_join (isPlain_runningName hplain.2 begunBoot) bootIdName_isPlain hfile')
  have htaken : dottedWorkspace.taken "1-t--m-sleep" tenBoot = .error (.ofFault .nameTooLong) := by
    rw [taken, show dottedWorkspace.running = dottedWorkspace.runtime.join "running" from rfl, hfile]
  have htaken' : dottedWorkspace.taken "2-t--m-s4" begunBoot
      = .ok (dottedWorkspace.running.join (runningName "2-t--m-s4" begunBoot)) := by
    rw [taken, show dottedWorkspace.running = dottedWorkspace.runtime.join "running" from rfl, hfile']
  exact ⟨enrolled, failed, after, by rw [henroll, hnames]; rfl, hfirst.trans (by rw [← htaken]; rfl),
    hsecond.trans (by rw [← htaken']; rfl)⟩

end BootTrial
