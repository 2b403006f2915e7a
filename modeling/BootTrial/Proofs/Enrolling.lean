import BootTrial.Proofs.Publishing

/-!
# Enrollment is all or nothing

What may stand in a workspace at any time of an enrollment, wherever it is cut off
(`Node.AllOrNothing`): the tests that have been begun or completed are the same, and the pending root
holds either the tests that it held or the whole batch. As long as no tests wait, any batch that is
admitted can be enrolled from there, and nothing is left of the one before
(`Workspace.enrollRows_allOrNothing`).
-/

namespace BootTrial

namespace Node

/-- In place of a pending root without tests there is one with a test for each row, which is a record
under the header. The directory of the test holds the scenario file and the front of the names of its
logs, and nothing else. -/
def HasBatch (w : Place) (template : String) (header : List String)
    (rows : List (Except Error Scenario)) (before after : Node) : Prop :=
  before.IsIdle w ∧ ∃ scenarios, rows = scenarios.map .ok
    ∧ (∀ scenario ∈ scenarios, scenario.names = header)
    ∧ after.get? (Root.pending.place w) = some (.dir (batchFrom template header 1 scenarios))

/-- Some time in the course of an enrollment. -/
structure AllOrNothing (w : Place) (template : String) (header : List String)
    (rows : List (Except Error Scenario)) (before after : Node) : Prop where
  /-- The tests that have been begun. -/
  running : after.get? (Root.running.place w) = before.get? (Root.running.place w)
  /-- The tests that are completed. -/
  results : after.get? (Root.results.place w) = before.get? (Root.results.place w)
  /-- The tests that wait. -/
  pending : before.KeepsPending w after ∨ HasBatch w template header rows before after

end Node

namespace Workspace

variable {workspace : Workspace} {w : Place} {template : String} {header : List String}
  {rows : List (Except Error Scenario)} {start last bench : Bench}
  {result : Except Error (List Path)} {files : Node}

/-- Where everything is ready admitted rows are enrolled: the pending root holds just them, the
staging directory is gone, and the other roots are the same. -/
theorem enrollRows_ready (hw : workspace.root.Leads bench.files bench.here w)
    (hready : workspace.IsReady w bench.files)
    (hadmits : workspace.AdmitsFrom template header 1 rows) :
    ∃ scenarios after, rows = scenarios.map .ok
      ∧ bench.perform (workspace.enrollRows template header rows)
        = (.ok ((batchFrom template header 1 scenarios).names.map workspace.pending.join), after)
      ∧ after.files.get? (Root.pending.place w) = some (.dir (batchFrom template header 1 scenarios))
      ∧ after.files.get? (stagingPlace w) = none
      ∧ after.files.get? (Root.running.place w) = bench.files.get? (Root.running.place w)
      ∧ after.files.get? (Root.results.place w) = bench.files.get? (Root.results.place w) := by
  rcases enrollRows_cases hw template header rows with ⟨failure, after, -, -, hnot⟩ |
    ⟨scenarios, middle, files, hrows, -, h, hmiddle, -, hpublishes, hbatch, -⟩
  · exact absurd ⟨hready, hadmits⟩ hnot
  · exact ⟨scenarios, middle.stepTo files, hrows, h, hpublishes.pending.trans hbatch,
      hpublishes.staging, (hpublishes.others .running (by decide)).trans hmiddle.files.running,
      (hpublishes.others .results (by decide)).trans hmiddle.files.results⟩

/-- All that has stood in the course of an enrollment. -/
theorem enrollRows_stood (hw : workspace.root.Leads start.files start.here w)
    (h : start.perform (workspace.enrollRows template header rows) = (result, last))
    (hstood : start.Stood last files) :
    Node.Undisturbed workspace.root start.here w start.files files
      ∨ ∃ middle, Node.Undisturbed workspace.root start.here w start.files middle
        ∧ middle.Publishes workspace.root start.here w files
        ∧ Node.HasBatch w template header rows start.files files ∧ result.isOk = true := by
  rcases enrollRows_cases hw template header rows with ⟨failure, after, hperform, hafter, -⟩ |
    ⟨scenarios, middle, files', hrows, hnames, hperform, hmiddle, hidle, hpublishes, hbatch, -⟩
  · obtain ⟨rfl, rfl⟩ := Prod.mk.inj (h.symm.trans hperform)
    exact .inl (hafter.stood (.refl hw) hstood)
  · obtain ⟨rfl, rfl⟩ := Prod.mk.inj (h.symm.trans hperform)
    obtain ⟨moments, hmoments, -⟩ := hmiddle.history
    rcases hstood.of_stepTo ⟨moments, hmoments⟩ with rfl | hstood
    · exact .inr ⟨middle.files, hmiddle.files, hpublishes,
        ⟨hidle, scenarios, hrows, hnames, hpublishes.pending.trans hbatch⟩, rfl⟩
    · exact .inl (hmiddle.stood (.refl hw) hstood)

/-- From all that has stood in the course of an enrollment another one can start, if no tests wait
there. -/
theorem isReady_of_stood (hw : workspace.root.Leads start.files start.here w)
    (h : start.perform (workspace.enrollRows template header rows) = (result, last))
    (hstood : start.Stood last files) (haccepted : workspace.staging.refusal? = none)
    (hruntime : start.files.NoFile (w ++ ["runtime"]))
    (hstaging : start.files.NoFile (stagingPlace w)) (hidle : files.IsIdle w) :
    workspace.root.Leads files start.here w ∧ workspace.IsReady w files := by
  rcases enrollRows_stood hw h hstood with hsame | ⟨_, -, hpublishes, ⟨-, _, -, -, hbatch⟩, -⟩
  · exact ⟨hsame.leads, haccepted, hsame.runtime hruntime, hsame.staging hstaging, hidle⟩
  · have hdir : files.HasDir (Root.pending.place w) := ⟨_, hbatch⟩
    exact ⟨hpublishes.leads, haccepted, hdir.above.noFile,
      Node.noFile_of_none hpublishes.staging, hidle⟩

/-- At every time from the beginning of an enrollment to its end, or to where it is cut off, the
tests that have been begun or completed are as they were, and the pending root holds the tests that
it held or, in the place of none, the whole batch; the former if it fails, the latter if it succeeds.
From each of these times at which no tests wait a batch that is admitted is enrolled after all, and
then there is nothing but this batch, if no file was in the way in the beginning. -/
theorem enrollRows_allOrNothing (hw : workspace.root.Leads start.files start.here w)
    (h : start.perform (workspace.enrollRows template header rows) = (result, last)) :
    (∀ files, start.Stood last files →
        Node.AllOrNothing w template header rows start.files files)
      ∧ (∀ failure, result = .error failure → start.files.KeepsPending w last.files)
      ∧ (∀ directories, result = .ok directories →
        Node.HasBatch w template header rows start.files last.files)
      ∧ (workspace.staging.refusal? = none → start.files.NoFile (w ++ ["runtime"]) →
        start.files.NoFile (stagingPlace w) →
        ∀ files, start.Stood last files → files.IsIdle w →
        ∀ again : Bench, again.files = files → again.here = start.here →
        ∀ template' header' rows', workspace.AdmitsFrom template' header' 1 rows' →
        ∃ scenarios after, rows' = scenarios.map .ok
          ∧ again.perform (workspace.enrollRows template' header' rows')
            = (.ok ((batchFrom template' header' 1 scenarios).names.map workspace.pending.join), after)
          ∧ after.files.get? (Root.pending.place w)
            = some (.dir (batchFrom template' header' 1 scenarios))
          ∧ after.files.get? (stagingPlace w) = none
          ∧ after.files.get? (Root.running.place w) = files.get? (Root.running.place w)
          ∧ after.files.get? (Root.results.place w) = files.get? (Root.results.place w)) := by
  refine ⟨fun files hstood => ?_, ?_, ?_, ?_⟩
  · rcases enrollRows_stood hw h hstood with hsame | ⟨middle, hmiddle, hpublishes, hbatch, -⟩
    · exact ⟨hsame.running, hsame.results, .inl hsame.pending⟩
    · exact ⟨(hpublishes.others .running (by decide)).trans hmiddle.running,
        (hpublishes.others .results (by decide)).trans hmiddle.results, .inr hbatch⟩
  · rintro failure rfl
    rcases enrollRows_stood hw h (.inr (.inl rfl)) with hsame | ⟨-, -, -, -, hok⟩
    · exact hsame.pending
    · cases hok
  · rintro directories rfl
    rcases enrollRows_cases hw template header rows with ⟨failure, after, hperform, -⟩ |
      ⟨scenarios, middle, files, hrows, hnames, hperform, -, hidle, hpublishes, hbatch, -⟩
    · cases h.symm.trans hperform
    · obtain ⟨-, rfl⟩ := Prod.mk.inj (h.symm.trans hperform)
      exact ⟨hidle, scenarios, hrows, hnames, hpublishes.pending.trans hbatch⟩
  · rintro haccepted hruntime hstaging files hstood hidle again rfl hhere template' header' rows'
      hadmits
    obtain ⟨hleads, hready⟩ := isReady_of_stood hw h hstood haccepted hruntime hstaging hidle
    exact enrollRows_ready (hhere ▸ hleads) hready hadmits

end Workspace

/-- A workspace without tests in which a batch has been left half put together, with one test that
is completed. -/
def leftBench : Bench where
  files := .dir [
    ("runtime", .dir [
      ("pending", .dir []),
      (".staging", .dir [
        ("1-power--mode-s2idle", .dir [
          ("scenario.csv", .file (Text.encode "mode\ns2idle\n") false)]),
        ("2-power--mode-deep", .dir [])])]),
    ("results", .dir [("1-power--mode-s2idle--b00t", .dir [])])]
  here := []
  home := .ofText "/"
  searchPath := []
  color := false

/-- A batch whose second row cannot be read. -/
def brokenRows : List (Except Error Scenario) :=
  [.ok ⟨[("mode", "deep")]⟩, .error (.internal "unreadable row")]

set_option maxRecDepth 100000 in
/-- The broken batch is not enrolled there, and whenever this is cut off its first row can be
enrolled. -/
theorem Workspace.enrollRows_allOrNothing_cut :
    (leftBench.perform ((Settings.workspace {}).enrollRows "power" ["mode"] brokenRows)).1
        = .error (.internal "unreadable row")
      ∧ ∀ files, leftBench.Stood (leftBench.perform
          ((Settings.workspace {}).enrollRows "power" ["mode"] brokenRows)).2 files →
        files.IsIdle [] → ∃ after,
          ({ leftBench with files } : Bench).perform ((Settings.workspace {}).enrollRows "power"
              ["mode"] [.ok ⟨[("mode", "deep")]⟩])
            = (.ok [(Settings.workspace {}).pending.join "1-power--mode-deep"], after)
          ∧ after.files.get? (Root.pending.place [])
            = some (.dir (batchFrom "power" ["mode"] 1 [⟨[("mode", "deep")]⟩]))
          ∧ after.files.get? (stagingPlace []) = none := by
  have hroot : (Settings.workspace {}).root.Leads leftBench.files leftBench.here [] :=
    Path.leads_dot ⟨_, rfl⟩
  have hadmits : (Settings.workspace {}).AdmitsFrom "power" ["mode"] 1
      [.ok ⟨[("mode", "deep")]⟩] := by
    refine ⟨[⟨[("mode", "deep")]⟩], rfl, by simp [Scenario.names], fun name hname => ?_⟩
    obtain rfl : name = pendingName 1 "power" ⟨[("mode", "deep")]⟩ := List.mem_singleton.mp hname
    exact ⟨by decide +kernel, by decide +kernel, by decide +kernel⟩
  have hfails : (leftBench.perform
      ((Settings.workspace {}).enrollRows "power" ["mode"] brokenRows)).1
        = .error (.internal "unreadable row") := by decide +kernel
  obtain ⟨-, -, -, hagain⟩ := enrollRows_allOrNothing hroot (Bench.perform_eq hfails)
  refine ⟨hfails, fun files hstood hidle => ?_⟩
  have hnofile : leftBench.files.NoFile ([] ++ ["runtime"])
      ∧ leftBench.files.NoFile (stagingPlace []) :=
    ⟨Node.HasDir.noFile ⟨_, rfl⟩, Node.HasDir.noFile ⟨_, rfl⟩⟩
  obtain ⟨scenarios, after, hrows, hperform, hpending, hstaging, -⟩ := hagain (by decide +kernel)
    hnofile.1 hnofile.2 files hstood hidle { leftBench with files } rfl rfl "power" ["mode"] _ hadmits
  obtain rfl := rows_single hrows
  exact ⟨after, hperform, hpending, hstaging⟩

end BootTrial
