import BootTrial.Report
import BootTrial.Proofs.Recovery

/-!
# The results only grow

From any workspace that has been reached the program may go on with enrollments, cycles and reports
in any order, each of them complete or cut off at any time (`Workspace.Goes`). Whatever lies in the
results root stays there through all of it, with the same files and the same contents
(`Workspace.Reaches.keeps_results`).
-/

namespace BootTrial

namespace Report

/-- Collecting the rows of the completed tests only reads. -/
theorem rowsOfTests_unmoved (header columns : List String) (directories : List Path) :
    Keeps Bench.Unmoved (rowsOfTests header columns directories) := by
  induction directories with
  | nil => exact Keeps.pure _
  | cons directory rest ih =>
    unfold rowsOfTests
    refine Keeps.get.bind fun bench => ?_
    split
    · exact ih
    · refine (ScenarioTable.read_unmoved _).bind fun table => ?_
      have hrows : Keeps Bench.Unmoved (do
          let rows ← Work.ofExcept (rowsOf columns table.rows)
          return rows ++ (← rowsOfTests header columns rest)) :=
        (Keeps.ofExcept _).bind fun rows => ih.bind fun _ => Keeps.pure _
      split
      · exact (Keeps.throw _).bind fun _ => hrows
      · exact hrows

/-- A report only reads. -/
theorem ofResults_unmoved (settings : Settings) : Keeps Bench.Unmoved (ofResults settings) := by
  unfold ofResults
  refine (ScenarioTable.headerAt_unmoved _).bind fun header => ?_
  refine (testsIn_keeps _).bind fun directories => ?_
  exact (rowsOfTests_unmoved _ _ _).bind fun _ => Keeps.pure _

end Report

namespace Workspace

/-- What one call makes of a bench, complete or cut off at any time, or what else happens that leaves
the roots alone. -/
inductive Goes (workspace : Workspace) (w : Place) (bench after : Bench) : Prop
  /-- Something else happens. -/
  | meanwhile (hleaves : bench.LeavesRoots workspace w after)
  /-- A template is enrolled. -/
  | enroll {settings : Settings} (hsettings : settings.workspace = workspace)
      (hstood : bench.Stood (bench.perform (BootTrial.enroll settings)).2 after.files)
      (hhere : after.here = bench.here)
  /-- A cycle is performed. -/
  | cycle {settings : Settings} {machine : Machine} {operator : Operator}
      (hsettings : settings.workspace = workspace) (hmachine : machine.WritesOnlyLogs)
      (hoperator : operator.OnlyChooses)
      (hstood : bench.Stood (bench.perform (performCycle settings machine operator)).2 after.files)
      (hhere : after.here = bench.here)
  /-- The results are reported. -/
  | report {settings : Settings} (hsettings : settings.workspace = workspace)
      (hstood : bench.Stood (bench.perform (Report.ofResults settings)).2 after.files)
      (hhere : after.here = bench.here)

variable {workspace : Workspace} {w : Place} {torn : String → Prop} {bench after : Bench}

/-- An enrollment that is complete. -/
theorem Reaches.goes_enrolled {settings : Settings}
    (h : settings.workspace.Reaches w torn bench) :
    settings.workspace.Goes w bench (bench.perform (BootTrial.enroll settings)).2 :=
  .enroll rfl (.inr (.inl rfl)) (enroll_upholds settings bench h.sound.1).here

/-- A cycle that is complete. -/
theorem Reaches.goes_cycled {settings : Settings} {machine : Machine} {operator : Operator}
    (h : settings.workspace.Reaches w torn bench) (hmachine : machine.WritesOnlyLogs)
    (hoperator : operator.OnlyChooses) :
    settings.workspace.Goes w bench (bench.perform (performCycle settings machine operator)).2 := by
  obtain ⟨hsound, ledger, hagrees⟩ := h.sound
  exact .cycle rfl hmachine hoperator (.inr (.inl rfl))
    (performCycle_passes hmachine hoperator hsound hagrees).here

/-- One call on a workspace that has been reached keeps the results, and gets to another that has
been reached. -/
theorem Reaches.goes (h : workspace.Reaches w torn bench) (hgoes : workspace.Goes w bench after) :
    Node.KeepsResults w bench.files after.files ∧ ∃ torn', workspace.Reaches w torn' after := by
  obtain ⟨hsound, ledger, hagrees⟩ := h.sound
  cases hgoes with
  | meanwhile hleaves => exact ⟨.of_get? (hleaves.2 .results), torn, .meanwhile h hleaves⟩
  | enroll hsettings hstood hhere =>
    subst hsettings
    exact ⟨((enroll_upholds _ bench).stood hsound hstood).results, torn, .enroll h rfl hstood hhere⟩
  | cycle hsettings hmachine hoperator hstood hhere =>
    subst hsettings
    obtain ⟨hupheld, -⟩ := performCycle_stood hmachine hoperator hsound hagrees hstood
    exact ⟨hupheld.results, _, .cycle h rfl hmachine hoperator hstood hhere⟩
  | @report settings hsettings hstood hhere =>
    have hunmoved := Report.ofResults_unmoved settings bench
    have hpasses : bench.Passes (fun before files => files = before) _ := .of_unmoved hunmoved rfl
    have hsame : after.files = bench.files := hpasses.stood rfl hstood
    have hleaves : bench.LeavesRoots workspace w after := by
      refine ⟨?_, fun r => by rw [hsame]⟩
      rw [hsame, hhere]
      exact hsound.leads
    exact ⟨.of_get? (hleaves.2 .results), torn, .meanwhile h hleaves⟩

/-- What lies in the results root of a workspace that has been reached lies there for ever, with the
same files and the same contents. -/
theorem Reaches.keeps_results (h : workspace.Reaches w torn bench)
    (hlater : Relation.ReflTransGen (workspace.Goes w) bench after) {name : String} {node : Node}
    (hnode : bench.files.get? (Root.results.place w ++ [name]) = some node) :
    after.files.get? (Root.results.place w ++ [name]) = some node := by
  have hkept : Node.KeepsResults w bench.files after.files
      ∧ ∃ torn', workspace.Reaches w torn' after := by
    induction hlater with
    | refl => exact ⟨fun _ _ hnode => hnode, torn, h⟩
    | tail _ hlast ih =>
      obtain ⟨hkept, torn', hreached⟩ := ih
      obtain ⟨hlast', hreached'⟩ := hreached.goes hlast
      exact ⟨hkept.trans hlast', hreached'⟩
  exact hkept.1 name node hnode

/-- The boot in which the scenario of `freshBench` is run. -/
def onlyBoot : Machine := .scripted ⟨"b00t", sameBoot_isId⟩ []

/-- The name of its test there. -/
def onlyName : String := "1-power--mode-s2idle__result---b00t"

/-- The workspace of `freshBench` with the result of a run. -/
def onceBench : Bench :=
  ((freshBench.perform (BootTrial.enroll {})).2.perform (performCycle {} onlyBoot .scripted)).2

/-- The machine writes nothing but logs. -/
theorem onlyBoot_writesOnlyLogs : onlyBoot.WritesOnlyLogs :=
  Machine.scripted_writesOnlyLogs _ _

/-- The workspace has been reached. -/
theorem onceBench_reached : ∃ torn, (Settings.workspace {}).Reaches [] torn onceBench := by
  have henrolled : (Settings.workspace {}).Reaches [] (fun _ => False)
      (freshBench.perform (BootTrial.enroll {})).2 := .enrolled (.fresh freshBench_isFresh)
  rw [onceBench]
  exact henrolled.cycled onlyBoot_writesOnlyLogs Operator.scripted_onlyChooses

set_option maxRecDepth 100000 in
/-- The scenario is enrolled and run again in the same boot. When the second run has come to its end,
the result of the first, whose test has the same name, is as it was. -/
theorem Reaches.keeps_results_sameBoot :
    (onceBench.perform (Scenario.read
          (((Settings.workspace {}).results.join onlyName).join scenarioName) false)).1
        = .ok ⟨[("mode", "s2idle"), ("result", "pass")]⟩
      ∧ ∃ node, onceBench.files.get? (Root.results.place [] ++ [onlyName]) = some node
        ∧ ((onceBench.perform (BootTrial.enroll {})).2.perform
            (performCycle {} onlyBoot .scripted)).2.files.get? (Root.results.place [] ++ [onlyName])
          = some node := by
  have hfacts : (onceBench.perform (Scenario.read
        (((Settings.workspace {}).results.join onlyName).join scenarioName) false)).1
        = .ok ⟨[("mode", "s2idle"), ("result", "pass")]⟩
      ∧ (onceBench.files.get? (Root.results.place [] ++ [onlyName])).isSome = true := by
    decide +kernel
  obtain ⟨node, hnode⟩ := Option.isSome_iff_exists.mp hfacts.2
  obtain ⟨torn, hfirst⟩ := onceBench_reached
  have henrolls := hfirst.goes_enrolled
  obtain ⟨-, torn', henrolled⟩ := hfirst.goes henrolls
  have hcycles := henrolled.goes_cycled onlyBoot_writesOnlyLogs Operator.scripted_onlyChooses
  have hlater := (Relation.ReflTransGen.single henrolls).tail hcycles
  exact ⟨hfacts.1, node, hnode, Reaches.keeps_results hfirst hlater hnode⟩

end Workspace

end BootTrial
