import BootTrial.Proofs.Cycling
import BootTrial.Proofs.Results

/-!
# Work that upholds a workspace

Work upholds a workspace (`Bench.Upholds`) if at every moment of the work, wherever this is cut off,
the workspace is sound and its results are what they were. A cycle does (`performCycle_upholds`), as
long as each test that is deleted in it counts as one that may be torn, and so does an enrollment
(`enroll_upholds`).
-/

namespace BootTrial

/-- A workspace is sound, and it holds the results that it held. -/
structure Node.Upheld (p : Path) (here w : Place) (torn : String → Prop) (before after : Node) :
    Prop where
  /-- It is sound. -/
  sound : IsSound p here w torn after
  /-- It holds the results. -/
  results : KeepsResults w before after

namespace Bench

/-- A workspace that is sound on the first of two benches is upheld at every moment from there to the
second. -/
def Upholds (workspace : Workspace) (w : Place) (torn : String → Prop) (before after : Bench) :
    Prop :=
  Node.IsSound workspace.root before.here w torn before.files →
    before.Passes (Node.Upheld workspace.root before.here w torn) after

variable {workspace : Workspace} {w : Place} {torn : String → Prop} {before middle after : Bench}
  {name : String}

instance (workspace : Workspace) (w : Place) (torn : String → Prop) :
    IsPreorder Bench (Upholds workspace w torn) where
  refl _ hsound := .refl ⟨hsound, fun _ _ hnode => hnode⟩
  trans _ _ _ h h' hsound := by
    have hfirst := h hsound
    have hsecond := h' (by rw [hfirst.here]; exact hfirst.files.sound)
    rw [hfirst.here] at hsecond
    exact hfirst.trans (fun hbefore hlater => ⟨hlater.sound, hbefore.results.trans hlater.results⟩)
      hsecond

/-- A workspace that has been upheld is sound. -/
theorem Upholds.sound (h : before.Upholds workspace w torn after)
    (hsound : Node.IsSound workspace.root before.here w torn before.files) :
    Node.IsSound workspace.root after.here w torn after.files := by
  rw [(h hsound).here]
  exact (h hsound).files.sound

/-- Whatever has stood while a workspace was upheld, it was upheld then. -/
theorem Upholds.stood (h : before.Upholds workspace w torn after)
    (hsound : Node.IsSound workspace.root before.here w torn before.files) {files : Node}
    (hstood : before.Stood after files) :
    Node.Upheld workspace.root before.here w torn before.files files :=
  (h hsound).stood ⟨hsound, fun _ _ hnode => hnode⟩ hstood

/-- One step that upholds the workspace. -/
theorem Upholds.stepTo {files : Node} (h : Node.IsSound workspace.root before.here w torn before.files →
    Node.Upheld workspace.root before.here w torn before.files files) :
    before.Upholds workspace w torn (before.stepTo files) :=
  fun hsound => .stepTo (h hsound)

/-- A workspace is upheld by what does not change the files. -/
theorem Upholds.of_quiet {kind : Event → Prop} (before after : Bench) (h : Quiet kind before after) :
    before.Upholds workspace w torn after := by
  intro hsound
  have hsame : ∀ {files}, files = before.files →
      Node.Upheld workspace.root before.here w torn before.files files := by
    rintro files rfl
    exact ⟨hsound, fun _ _ hnode => hnode⟩
  obtain ⟨moments, hmoments, hmem⟩ := h.history
  exact ⟨h.here, hsame h.files, moments, hmoments, fun moment hin => hsame (hmem moment hin).2⟩

/-- A workspace is upheld by what only reads. -/
theorem Upholds.of_unmoved (before after : Bench) (h : Unmoved before after) :
    before.Upholds workspace w torn after :=
  .of_quiet _ _ (.of_unmoved h : Quiet (fun _ => True) before after)

/-- A workspace is upheld by the run of a test, which may be torn if it is deleted. -/
theorem Changes.upholds (h : before.Changes w name (torn name) after) :
    before.Upholds workspace w torn after :=
  fun hsound => h.imp fun hchanges => ⟨hsound.changes hchanges, .changes hchanges⟩

/-- A workspace is upheld when a root is made that is missing. -/
theorem RootMade.upholds {r : Root} (h : before.RootMade r w after) :
    before.Upholds workspace w torn after := by
  rcases h with rfl | ⟨d, name, hr, hd, hnone, rfl⟩
  · exact refl_of (Upholds workspace w torn) after
  · exact .stepTo fun hsound => ⟨hsound.made hr hd hnone, .made hnone⟩

end Bench

/-- Claiming a test. -/
theorem Workspace.claim_upholds {workspace : Workspace} {w : Place} {torn : String → Prop}
    (boot : BootId) : Keeps (Bench.Upholds workspace w torn) (workspace.claim boot) := by
  intro bench hsound
  obtain ⟨names, hpending⟩ := hsound.holds .pending
  rcases claim_steps hsound.leads hpending boot with ⟨failure, after, hclaim, hmade⟩ |
    ⟨name, made, entries, hmade, hnode, hrunning, hshort, hclaim⟩
  all_goals
    rw [hclaim]
    have hmade' : bench.Upholds workspace w torn _ := hmade.upholds
  · exact hmade' hsound
  · -- The test moves in one step, and what follows tends it.
    have hmoved : made.Upholds workspace w torn (made.stepTo _) :=
      .stepTo fun hsound => ⟨hsound.claimed hnode hrunning hshort, .claimed _ _ _ _⟩
    have hsound' := hmoved.sound (hmade'.sound hsound)
    have hplain : IsPlain name := by
      obtain ⟨names', hpending'⟩ := (hmade'.sound hsound).holds .pending
      exact (hpending'.isTest hnode).plain
    have hbind : Keeps (Bench.Tends (workspace.running.join (runningName name boot)) w
        (runningName name boot) (torn (runningName name boot))) (do
          bindTo (workspace.running.join (runningName name boot)) boot
          return workspace.running.join (runningName name boot)) :=
      (bindTo_tends (bootOfName?_runningName name boot)).bind fun _ => Keeps.pure _
    have hbound : Bench.Upholds workspace w torn _ _ := ((hbind _).changes
      (runs_moved (hmade'.sound hsound).leads hplain hrunning hshort entries)).upholds
    exact trans_of (Bench.Upholds workspace w torn) (trans_of _ hmade' hmoved) hbound hsound

section Cycle

variable {settings : Settings} {machine : Machine} {operator : Operator} {w : Place}
  {bench : Bench} {ledger : Ledger} {torn : String → Prop}

/-- A cycle up to its tests. -/
theorem cycleToTests_upholds (settings : Settings) (hmachine : machine.WritesOnlyLogs) :
    Keeps (Bench.Upholds settings.workspace w torn) (cycleToTests settings machine) := by
  have hreads : ∀ {α : Type} {work : Work α}, Keeps Bench.Unmoved work →
      Keeps (Bench.Upholds settings.workspace w torn) work := fun h => h.imp Bench.Upholds.of_unmoved
  have hask : Keeps (Bench.Quiet fun _ => True) (machine.ask .currentBoot) :=
    hmachine.ask_quiet rfl trivial trivial
  unfold cycleToTests
  refine (isOccupied_keeps _).bind fun occupied => ?_
  split
  · exact testsIn_keeps _
  · refine (isOccupied_keeps _).bind fun occupied => ?_
    split
    · refine (hreads (settings.menu_unmoved _)).bind fun _ => ?_
      refine (hask.imp Bench.Upholds.of_quiet).bind fun boot => ?_
      exact (Workspace.claim_upholds boot).bind fun _ => Keeps.pure _
    · exact Keeps.pure _

/-- A cycle in which each test that the operator chooses to delete counts as one that may be torn. -/
theorem performCycle_upholds (hmachine : machine.WritesOnlyLogs) (hoperator : operator.OnlyChooses)
    (hagrees : Agrees w bench.files ledger)
    (htorn : ∀ name, bench.Discards settings machine operator name → torn name) :
    bench.Upholds settings.workspace w torn
      (bench.perform (performCycle settings machine operator)).2 := by
  intro hsound
  refine performCycle_keeps hmachine hsound.leads hagrees
    (cycleToTests_upholds settings hmachine bench) (fun name base htests hruns hfront => ?_) hsound
  exact (Trial.runAt_changes hmachine hoperator hruns hfront fun actions hactions hmem =>
    htorn name ⟨actions, cycleToChoice_of hruns.plain htests hactions, hmem⟩).upholds

end Cycle

/-- Enrolling a batch of records that can be read. -/
theorem Workspace.enrollRows_upholds {workspace : Workspace} {w : Place} {torn : String → Prop}
    {header : List String} {rows : List (Except Error Scenario)} (template : String)
    (hnamed : ScenarioTable.isBlankHeader header = false)
    (hrows : ∀ scenario, .ok scenario ∈ rows → scenario.names.Nodup) :
    Keeps (Bench.Upholds workspace w torn) (workspace.enrollRows template header rows) := by
  intro bench hsound
  rcases enrollRows_cases hsound.leads template header rows with ⟨failure, after, h, hafter, -⟩ |
    ⟨scenarios, middle, files, rfl, hnames, h, hmiddle, -, hpublishes, hbatch, htests, -⟩
  all_goals rw [h]
  · exact hafter.imp fun hsame => ⟨hsound.undisturbed hsame, .undisturbed hsame⟩
  · have hmiddle' : bench.Upholds workspace w torn middle := fun _ =>
      hmiddle.imp fun hsame => ⟨hsound.undisturbed hsame, .undisturbed hsame⟩
    refine trans_of _ hmiddle' (.stepTo fun hsound' => ⟨?_, .published hpublishes⟩) hsound
    rw [← hmiddle.here] at hpublishes
    exact hsound'.published hpublishes hnamed (fun scenario hmem =>
      ⟨hnames scenario hmem, hrows scenario (List.mem_map_of_mem hmem)⟩) hbatch htests

/-- Enrolling a template. -/
theorem enroll_upholds (settings : Settings) {w : Place} {torn : String → Prop} :
    Keeps (Bench.Upholds settings.workspace w torn) (enroll settings) := by
  intro bench
  rcases enroll_readsToEnroll settings bench with ⟨failure, after, h, hafter⟩ |
    ⟨table, read, ⟨-, content, -, -, htable⟩, hread, h⟩
  all_goals rw [h]
  · exact .of_unmoved _ _ hafter
  · obtain ⟨hnamed, hrows⟩ := ScenarioTable.ofBytes_ok htable
    exact trans_of _ (Bench.Upholds.of_unmoved _ _ hread)
      (Workspace.enrollRows_upholds settings.template hnamed hrows read)

end BootTrial
