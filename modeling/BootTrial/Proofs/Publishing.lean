import BootTrial.Proofs.Staging

/-!
# Publishing a batch

A batch takes the place of the pending root in one step (`Node.Publishes`). Up to this step an
enrollment does not disturb the roots, and one that fails does not disturb them at all
(`Workspace.enrollRows_cases`): the pending root holds the whole batch or nothing of it, at every
moment. For the ledger of tests it is enough that the roots are spared (`Enrolls`).
-/

namespace BootTrial

/-- With one step what is in the staging directory takes the place of the pending root. -/
structure Node.Publishes (p : Path) (here w : Place) (before after : Node) : Prop where
  /-- The path of the workspace leads there still. -/
  leads : p.Leads after here w
  /-- The pending root holds what was in the staging directory. -/
  pending : after.get? (Root.pending.place w) = before.get? (stagingPlace w)
  /-- The staging directory is gone. -/
  staging : after.get? (stagingPlace w) = none
  /-- The other roots are the same. -/
  others : ∀ r ≠ Root.pending, after.get? (r.place w) = before.get? (r.place w)
  /-- Outside the tests everything is the same. -/
  outside : before.SameOutside w after

/-- Between two benches the roots of a workspace have been spared, but for a last step that has put
tests with the given names into the pending root, which held none. -/
def Bench.Published (workspace : Workspace) (w : Place) (names : List String)
    (before after : Bench) : Prop :=
  ∃ middle files, before.Spared workspace w middle ∧ after = middle.stepTo files
    ∧ workspace.root.Leads files middle.here w
    ∧ middle.files.HoldsTests (Root.pending.place w) []
    ∧ files.HoldsTests (Root.pending.place w) names
    ∧ ∀ r ≠ Root.pending, files.get? (r.place w) = middle.files.get? (r.place w)

/-- What has been spared before is spared when tests are published afterwards. -/
theorem Bench.Spared.published {workspace : Workspace} {w : Place} {names : List String}
    {before middle after : Bench} (h : before.Spared workspace w middle)
    (h' : middle.Published workspace w names after) : before.Published workspace w names after := by
  obtain ⟨last, files, hlast, hafter, hrest⟩ := h'
  exact ⟨last, files, h.trans hlast, hafter, hrest⟩

/-- The staging directory and a root are different places. -/
theorem stagingPlace_ne (r : Root) (w : Place) : stagingPlace w ≠ r.place w := fun h =>
  (stagingPlace_apart r w).1 (h ▸ List.prefix_rfl)

namespace Workspace

variable {workspace : Workspace} {w : Place} {bench : Bench}

/-- The path of the pending root is accepted if that of the staging directory is. -/
theorem pending_accepted (h : workspace.staging.refusal? = none) :
    workspace.pending.refusal? = none :=
  Path.refusal?_join_le pendingName_isPlain stagingName_isPlain (by decide) (by decide) h

/-- Renaming the staging directory publishes what is in it, or is refused. It is not refused if its
path is accepted and there is no pending root. -/
theorem renameStaging_cases (hw : workspace.root.Leads bench.files bench.here w)
    (hdir : bench.files.HasDir (stagingPlace w)) :
    ((∃ fault, bench.perform (FileWork.rename workspace.staging workspace.pending)
          = (.error fault, bench))
        ∧ ¬ (workspace.staging.refusal? = none ∧ bench.files.get? (Root.pending.place w) = none))
      ∨ ∃ files, bench.perform (FileWork.rename workspace.staging workspace.pending)
          = (.ok (), bench.stepTo files)
        ∧ bench.files.Publishes workspace.root bench.here w files
        ∧ workspace.pending.refusal? = none := by
  have hruntime := runtime_leads hw hdir.above
  obtain ⟨entries, hentries⟩ := hdir.above
  obtain ⟨staged, hstaged⟩ := hdir
  rw [FileWork.rename, Bench.perform_take]
  cases hrename : FileStep.rename workspace.staging workspace.pending bench.files bench.here with
  | error fault =>
    refine .inl ⟨⟨fault, rfl⟩, fun hready => ?_⟩
    obtain ⟨hrefusal, hnone⟩ := hready
    have hentry : entries.lookup ".staging" = some (.dir staged) := by
      rw [← Node.get?_snoc hentries]
      exact hstaged
    have hfree : entries.lookup "pending" = none := by
      rw [← Node.get?_snoc hentries]
      exact hnone
    have hbelow : ¬ w ++ ["runtime"] ++ [".staging"] <+: w ++ ["runtime"] := fun hbegins => by
      have hlength := hbegins.length_le
      rw [List.length_append, List.length_singleton] at hlength
      omega
    have hmoved := FileStep.rename_join_free stagingName_isPlain pendingName_isPlain
      hruntime.passThrough hruntime.passThrough hentries hentries
      (Path.joinFault?_eq_none.mpr ⟨hrefusal, by decide⟩)
      (Path.joinFault?_eq_none.mpr ⟨pending_accepted hrefusal, by decide⟩) hentry hfree hbelow
    cases hrename.symm.trans hmoved
  | ok files =>
    obtain ⟨-, hfault, node, hnode, hmove⟩ := FileStep.rename_join_ok stagingName_isPlain
      pendingName_isPlain hruntime.passThrough hruntime.passThrough hentries hentries hrename
    have hfiles : files = (bench.files.erase (stagingPlace w)).put node (Root.pending.place w) := by
      cases hgoal : entries.lookup "pending" with
      | none =>
        rw [hgoal] at hmove
        exact (FileStep.moveTo_free_ok hmove).2
      | some old =>
        rw [hgoal] at hmove
        rcases FileStep.moveTo_taken_ok hmove with ⟨hself, -⟩ | ⟨-, -, hmoved⟩
        · exact absurd hself (stagingPlace_ne .pending w)
        · exact hmoved
    have herased : (bench.files.erase (stagingPlace w)).get? (w ++ ["runtime"])
        = some (.dir (Named.erase ".staging" entries)) :=
      Node.get?_erase_entry hentries ".staging"
    refine .inr ⟨files, rfl, ⟨?_, ?_, ?_, fun r hr => ?_, ?_⟩, (Path.joinFault?_eq_none.mp hfault).1⟩
    · have hw' : workspace.root.Leads (bench.files.erase (stagingPlace w)) bench.here w := by
        rw [stagingPlace, List.append_assoc]
        exact hw.erase_below (by simp)
      rw [hfiles]
      simpa using hw'.put_in .pending [] node
    · rw [hfiles, stagingPlace, Node.get?_snoc hentries, hnode]
      exact Node.get?_put_self herased node "pending"
    · rw [hfiles, Node.get?_put_of_apart (stagingPlace_apart .pending w).symm]
      exact Node.get?_erase ".staging" ⟨entries, hentries⟩
    · rw [hfiles, Node.get?_put_of_apart (Root.place_apart (Ne.symm hr) w),
        Node.get?_erase_of_apart (stagingPlace_apart r w)]
    · rw [hfiles]
      exact (Node.SameOutside.erase (.of_staging w) ⟨entries, hentries⟩).trans
        (.put (.of_root .pending w) ⟨_, herased⟩ node)

/-- Putting the staging directory in the place of a pending root that is missing or without entries:
what is in it is published in the last step, or the roots are not disturbed. This fails only if the
path is not accepted. -/
theorem publish_cases (hw : workspace.root.Leads bench.files bench.here w)
    (hidle : bench.files.IsIdle w)
    (hdir : bench.files.HasDir (stagingPlace w)) :
    (∃ failure after, bench.perform workspace.publish = (.error failure, after)
        ∧ bench.Undisturbed workspace w after ∧ workspace.staging.refusal? ≠ none)
      ∨ ∃ middle files, bench.perform workspace.publish = (.ok (), middle.stepTo files)
        ∧ bench.Undisturbed workspace w middle
        ∧ middle.files.get? (stagingPlace w) = bench.files.get? (stagingPlace w)
        ∧ middle.files.Publishes workspace.root bench.here w files
        ∧ workspace.pending.refusal? = none := by
  have hrename : ∀ {cleared : Bench}, bench.Undisturbed workspace w cleared →
      cleared.files.get? (stagingPlace w) = bench.files.get? (stagingPlace w) →
      (workspace.staging.refusal? = none → cleared.files.get? (Root.pending.place w) = none) →
      (∃ failure after, cleared.perform ((FileWork.rename workspace.staging workspace.pending
          ).reportedAs .ofFault) = (.error failure, after)
          ∧ bench.Undisturbed workspace w after ∧ workspace.staging.refusal? ≠ none)
        ∨ ∃ middle files, cleared.perform ((FileWork.rename workspace.staging workspace.pending
          ).reportedAs .ofFault) = (.ok (), middle.stepTo files)
          ∧ bench.Undisturbed workspace w middle
          ∧ middle.files.get? (stagingPlace w) = bench.files.get? (stagingPlace w)
          ∧ middle.files.Publishes workspace.root bench.here w files
          ∧ workspace.pending.refusal? = none := by
    intro cleared hcleared hsame hgone
    have hdir' : cleared.files.HasDir (stagingPlace w) := by
      obtain ⟨entries, hentries⟩ := hdir
      exact ⟨entries, hsame.trans hentries⟩
    rcases renameStaging_cases hcleared.root hdir' with ⟨⟨fault, h⟩, hnot⟩ | ⟨files, h, hafter, haccepted⟩
    · exact .inl ⟨_, cleared, Bench.perform_reportedAs_error h .ofFault, hcleared,
        fun hrefusal => hnot ⟨hrefusal, hgone hrefusal⟩⟩
    · exact .inr ⟨cleared, files, Bench.perform_reportedAs_ok h .ofFault, hcleared, hsame,
        hcleared.here ▸ hafter, haccepted⟩
  have hruntime := runtime_leads hw hdir.above
  obtain ⟨entries, hentries⟩ := hdir.above
  have hpending : bench.files.get? (Root.pending.place w) = entries.lookup "pending" :=
    Node.get?_snoc hentries "pending"
  have hnode : bench.nodeAt workspace.pending = _ :=
    Path.node_join pendingName_isPlain hruntime.passThrough hentries
  unfold publish
  rw [Bench.perform_bind_ok (Bench.perform_get bench)]
  by_cases hentry : bench.hasEntry workspace.pending = true
  · rw [if_pos hentry]
    -- There is a pending root, and it is removed since it has no entries.
    have hfault : workspace.runtime.joinFault? "pending" = none := by
      cases hfault : workspace.runtime.joinFault? "pending" with
      | none => rfl
      | some fault =>
        rw [hfault] at hnode
        rw [Bench.hasEntry, hnode] at hentry
        cases hentry
    have hempty : entries.lookup "pending" = some .emptyDir := by
      rw [← hpending]
      rcases hidle with hnone | hempty
      · rw [hpending] at hnone
        rw [hfault, hnone] at hnode
        rw [Bench.hasEntry, hnode] at hentry
        cases hentry
      · exact hempty
    have hremove : bench.perform (FileWork.take (FileStep.removeDir workspace.pending))
        = (.ok (), bench.stepTo (bench.files.erase (Root.pending.place w))) := by
      have hstep := FileStep.removeDir_join pendingName_isPlain hruntime.passThrough hentries
      rw [hfault, hempty] at hstep
      rw [Bench.perform_take, show workspace.pending = workspace.runtime.join "pending" from rfl,
        hstep]
      rfl
    rw [Bench.perform_bind_ok (Bench.perform_reportedAs_ok hremove .ofFault)]
    refine hrename (.stepTo (.of_pending_erased hw (hpending.trans hempty))) ?_ fun _ => ?_
    · exact Node.get?_erase_of_apart (stagingPlace_apart .pending w).symm bench.files
    · exact Node.get?_erase "pending" ⟨entries, hentries⟩
  · rw [if_neg hentry]
    refine hrename (.refl hw) rfl fun hrefusal => ?_
    rw [Path.joinFault?_eq_none.mpr ⟨pending_accepted hrefusal, by decide⟩] at hnode
    rw [hpending]
    cases hlookup : entries.lookup "pending" with
    | none => rfl
    | some node =>
      rw [hlookup] at hnode
      rw [Bench.hasEntry, hnode] at hentry
      exact absurd rfl hentry

/-- Nothing stands in the way of an enrollment: no tests wait, no file stands where the batch is put
together, and the path of that place is accepted. -/
structure IsReady (workspace : Workspace) (w : Place) (files : Node) : Prop where
  /-- The path of the staging directory is accepted. -/
  accepted : workspace.staging.refusal? = none
  /-- There is no file in the place of the directory of the tests that are not completed. -/
  runtime : files.NoFile (w ++ ["runtime"])
  /-- There is no file in the place of the staging directory. -/
  staging : files.NoFile (stagingPlace w)
  /-- The pending root is missing or has no entries. -/
  idle : files.IsIdle w

/-- What lies beside the pending root is read, if the path is accepted. -/
theorem entriesAt_runtime {entries : List (String × Node)} {name : String}
    (hw : workspace.root.Leads bench.files bench.here w) (hname : IsPlain name)
    (haccepted : workspace.runtime.joinFault? name = none)
    (hentries : bench.files.get? (w ++ ["runtime"] ++ [name]) = some (.dir entries)) :
    bench.entriesAt (workspace.runtime.join name) = .ok entries := by
  have hdir : bench.files.HasDir (w ++ ["runtime"] ++ [name]) := ⟨entries, hentries⟩
  have hruntime := runtime_leads hw hdir.above
  obtain ⟨own, hown⟩ := hdir.above
  have hnode : bench.nodeAt (workspace.runtime.join name) = _ :=
    Path.node_join hname hruntime.passThrough hown
  rw [haccepted, ← Node.get?_snoc hown, hentries] at hnode
  rw [Bench.entriesAt, hnode]

/-- Where tests wait their directories are read, if the path is accepted. -/
theorem entriesAt_pending {entries : List (String × Node)}
    (hw : workspace.root.Leads bench.files bench.here w)
    (haccepted : workspace.pending.refusal? = none)
    (hpending : bench.files.get? (Root.pending.place w) = some (.dir entries)) :
    bench.entriesAt workspace.pending = .ok entries :=
  entriesAt_runtime hw pendingName_isPlain (Path.joinFault?_eq_none.mpr ⟨haccepted, by decide⟩)
    hpending

/-- Without a pending root nothing is found there, if the path is accepted and no file is in the
way. -/
theorem entriesAt_pending_missing (hw : workspace.root.Leads bench.files bench.here w)
    (haccepted : workspace.pending.refusal? = none)
    (hruntime : bench.files.NoFile (w ++ ["runtime"]))
    (hpending : bench.files.get? (Root.pending.place w) = none) :
    bench.entriesAt workspace.pending = .error .notFound := by
  have hnode : bench.nodeAt workspace.pending = .error .notFound := by
    rcases hruntime.cases with hnone | hdir
    · obtain ⟨entries, hentries⟩ := hw.dir
      have hlookup : entries.lookup "runtime" = none := by rw [← Node.get?_snoc hentries, hnone]
      have hpass := passThrough_join runtimeName_isPlain (by decide) hw.passThrough hentries
      rw [hlookup] at hpass
      have happroach := Path.approach_join_blocked pendingName_isPlain hpass
      rw [Bench.nodeAt, Path.node, show workspace.pending.approach _ _ = _ from happroach,
        show ((workspace.root.join "runtime").join "pending").refusal? = none from haccepted]
      rfl
    · have hleads := runtime_leads hw hdir
      obtain ⟨entries, hentries⟩ := hdir
      have hnode : bench.nodeAt workspace.pending = _ :=
        Path.node_join pendingName_isPlain hleads.passThrough hentries
      rwa [Path.joinFault?_eq_none.mpr ⟨haccepted, by decide⟩, ← Node.get?_snoc hentries,
        show bench.files.get? (w ++ ["runtime"] ++ ["pending"]) = _ from hpending] at hnode
  rw [Bench.entriesAt, hnode]

/-- Nothing is found in the pending root when everything is ready. -/
theorem isOccupied_ready (hw : workspace.root.Leads bench.files bench.here w)
    (h : workspace.IsReady w bench.files) :
    bench.perform (isOccupied workspace.pending) = (.ok false, bench) := by
  rw [perform_isOccupied]
  rcases h.idle with hnone | hempty
  · rw [entriesAt_pending_missing hw (pending_accepted h.accepted) h.runtime hnone]
  · rw [entriesAt_pending hw (pending_accepted h.accepted) hempty]
    rfl

/-- Enrolling a batch: it fails without disturbing the roots, or its last step publishes the
directories of its tests, and the roots have not been disturbed until then. It does not fail where
everything is ready and the rows are admitted. -/
theorem enrollRows_cases (hw : workspace.root.Leads bench.files bench.here w) (template : String)
    (header : List String) (rows : List (Except Error Scenario)) :
    (∃ failure after, bench.perform (workspace.enrollRows template header rows)
          = (.error failure, after)
        ∧ bench.Undisturbed workspace w after
        ∧ ¬ (workspace.IsReady w bench.files ∧ workspace.AdmitsFrom template header 1 rows))
      ∨ ∃ scenarios middle files, rows = scenarios.map .ok
        ∧ (∀ scenario ∈ scenarios, scenario.names = header)
        ∧ bench.perform (workspace.enrollRows template header rows)
          = (.ok ((batchFrom template header 1 scenarios).names.map workspace.pending.join),
            middle.stepTo files)
        ∧ bench.Undisturbed workspace w middle
        ∧ bench.files.IsIdle w
        ∧ middle.files.Publishes workspace.root bench.here w files
        ∧ middle.files.get? (stagingPlace w) = some (.dir (batchFrom template header 1 scenarios))
        ∧ middle.files.HoldsTests (stagingPlace w) (batchFrom template header 1 scenarios).names
        ∧ workspace.pending.refusal? = none
        ∧ ∀ name ∈ (batchFrom template header 1 scenarios).names, workspace.HasRoom name := by
  unfold enrollRows
  have hread := isOccupied_keeps (R := Bench.Unmoved) workspace.pending bench
  rcases hoccupied : bench.perform (isOccupied workspace.pending) with ⟨failure | occupied, read⟩
  all_goals
    rw [hoccupied] at hread
    have hquiet := Bench.Undisturbed.of_unmoved hw hread
  · refine .inl ⟨failure, read, Bench.perform_bind_error hoccupied _, hquiet, fun hready => ?_⟩
    rw [isOccupied_ready hw hready.1] at hoccupied
    cases hoccupied
  rw [Bench.perform_bind_ok hoccupied]
  cases occupied with
  | true =>
    refine .inl ⟨_, read, rfl, hquiet, fun hready => ?_⟩
    rw [isOccupied_ready hw hready.1] at hoccupied
    cases hoccupied
  | false =>
    -- No tests are waiting, so the batch can take their place.
    have hidle : bench.files.IsIdle w := isOccupied_false (r := .pending) hw hoccupied
    obtain ⟨cleared, middle, hclear, hcleared, hempty, hclears⟩ := clearStaging_cases hquiet.root
    have hmiddle := hquiet.trans hcleared
    cases cleared with
    | error failure =>
      refine .inl ⟨failure, middle, Bench.perform_bind_error hclear _, hmiddle, fun hready => ?_⟩
      cases hclears hready.1.accepted (hquiet.files.runtime hready.1.runtime)
        (hquiet.files.staging hready.1.staging)
    | ok _ =>
      rcases stage_cases hmiddle.root (hempty rfl) template header rows with
        ⟨failure, staged, hstage, hstaged, hnot⟩ |
        ⟨scenarios, staged, hrows, hnames, hstage, hstaged, hbatch, htests, hroom⟩
      · refine .inl ⟨failure, staged, ?_, hmiddle.trans hstaged, fun hready => hnot hready.2⟩
        exact (Bench.perform_bind_ok hclear _).trans (Bench.perform_bind_error hstage _)
      have hready := hmiddle.trans hstaged
      have hbegins : ∀ next : List String → Work (List Path),
          read.perform (workspace.clearStaging >>= fun _ =>
            workspace.stage template header rows >>= next)
              = staged.perform (next (batchFrom template header 1 scenarios).names) :=
        fun next => (Bench.perform_bind_ok hclear _).trans (Bench.perform_bind_ok hstage _)
      rcases publish_cases hready.root (hready.files.idle hidle) ⟨_, hbatch⟩ with
        ⟨failure, after, h, hafter, hrefusal⟩ |
        ⟨last, files, h, hlast, hsame, hpublishes, haccepted⟩
      · refine .inl ⟨failure, after, ?_, hready.trans hafter,
          fun hready => hrefusal hready.1.accepted⟩
        exact (hbegins _).trans (Bench.perform_bind_error h _)
      · refine .inr ⟨scenarios, last, files, hrows, hnames, ?_, hready.trans hlast, hidle,
          hready.here ▸ hpublishes, hsame.trans hbatch, htests.of_get? hsame, haccepted,
          hroom⟩
        exact (hbegins _).trans (Bench.perform_bind_ok h _)

end Workspace

/-- Work enrolls a batch: it publishes some tests and gives their directories, or it fails and
spares the roots. -/
def Enrolls (workspace : Workspace) (w : Place) (work : Work (List Path)) : Prop :=
  ∀ bench : Bench, workspace.root.Leads bench.files bench.here w →
    (∃ names, bench.files.HoldsTests (Root.pending.place w) names) →
    (∃ failure after, bench.perform work = (.error failure, after)
        ∧ bench.Spared workspace w after)
      ∨ ∃ names after, bench.perform work = (.ok (names.map workspace.pending.join), after)
        ∧ bench.Published workspace w names after

/-- The rows of a table are enrolled. -/
theorem Workspace.enrollRows_enrolls (workspace : Workspace) (w : Place) (template : String)
    (header : List String) (rows : List (Except Error Scenario)) :
    Enrolls workspace w (workspace.enrollRows template header rows) := by
  intro bench hw _
  rcases enrollRows_cases hw template header rows with ⟨failure, after, h, hafter, -⟩ |
    ⟨scenarios, middle, files, -, -, h, hmiddle, hidle, hpublishes, -, htests, -⟩
  · exact .inl ⟨failure, after, h, hafter.spared⟩
  · have hnone : middle.files.HoldsTests (Root.pending.place w) [] :=
      (hmiddle.files.idle hidle).elim .of_none .of_empty
    exact .inr ⟨_, _, h, middle, files, hmiddle.spared, rfl, hmiddle.here ▸ hpublishes.leads, hnone,
      htests.of_get? hpublishes.pending, hpublishes.others⟩

/-- The template that the settings name is enrolled. -/
theorem enroll_enrolls (settings : Settings) (w : Place) :
    Enrolls settings.workspace w (enroll settings) := by
  intro bench hw ⟨names, hholds⟩
  rcases enroll_readsToEnroll settings bench with ⟨failure, after, h, hafter⟩ |
    ⟨table, read, -, hread, h⟩
  · exact .inl ⟨failure, after, h, Bench.Spares.of_unmoved bench after hafter hw⟩
  · have hspared := Bench.Spares.of_unmoved bench read hread hw
    rw [h]
    rcases settings.workspace.enrollRows_enrolls w settings.template table.header table.rows read
      hspared.root ⟨names, hspared.files .pending names hholds⟩ with
      ⟨failure, after, h', hafter⟩ | ⟨names, after, h', hafter⟩
    · exact .inl ⟨failure, after, h', hspared.trans hafter⟩
    · exact .inr ⟨names, after, h', hspared.published hafter⟩

end BootTrial
