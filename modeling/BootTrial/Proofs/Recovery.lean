import BootTrial.Proofs.Decision
import BootTrial.Proofs.Resuming
import BootTrial.Proofs.Upkeep

/-!
# Recovery

The program may be killed at any time: what stood in the file tree at any moment of an enrollment or
of a cycle may be what the next call finds (`Workspace.Reaches`). Every workspace that is reached so
is sound, and there is a ledger that agrees with it. Wherever a cycle is cut off, the next one loads
the test that it comes to, unless this test was to be deleted and its scenario file has gone already
(`Workspace.Reaches.recovers`): a directory that is deleted is taken down where it stands, and what
is left of it is a test that cannot be loaded any more.
-/

namespace BootTrial

variable {settings settings' : Settings} {machine machine' : Machine} {operator : Operator}
  {workspace : Workspace} {w : Place} {torn : String → Prop} {bench after : Bench} {files : Node}

/-- What calls on a workspace without tests lead to, each of them complete or cut off at any time,
with anything happening in between that leaves the roots alone. A test that was to be deleted may be
torn for as long as its directory stands. -/
inductive Workspace.Reaches (workspace : Workspace) (w : Place) : (String → Prop) → Bench → Prop
  /-- There are no tests. -/
  | fresh {bench : Bench} (h : bench.IsFresh workspace w) : Reaches workspace w (fun _ => False) bench
  /-- Something else happens. -/
  | meanwhile {torn : String → Prop} {bench after : Bench} (h : Reaches workspace w torn bench)
      (hleaves : bench.LeavesRoots workspace w after) : Reaches workspace w torn after
  /-- A template is enrolled. -/
  | enroll {torn : String → Prop} {bench after : Bench} {settings : Settings}
      (h : Reaches workspace w torn bench) (hsettings : settings.workspace = workspace)
      (hstood : bench.Stood (bench.perform (BootTrial.enroll settings)).2 after.files)
      (hhere : after.here = bench.here) : Reaches workspace w torn after
  /-- A cycle is performed. -/
  | cycle {torn : String → Prop} {bench after : Bench} {settings : Settings} {machine : Machine}
      {operator : Operator} (h : Reaches workspace w torn bench)
      (hsettings : settings.workspace = workspace) (hmachine : machine.WritesOnlyLogs)
      (hoperator : operator.OnlyChooses)
      (hstood : bench.Stood (bench.perform (performCycle settings machine operator)).2 after.files)
      (hhere : after.here = bench.here) :
      Reaches workspace w (fun name => (torn name ∨ bench.Discards settings machine operator name)
        ∧ after.files.HasDir (Root.running.place w ++ [name])) after

/-- A workspace without tests is sound. -/
theorem Bench.IsFresh.sound (h : bench.IsFresh workspace w) :
    Node.IsSound workspace.root bench.here w torn bench.files := by
  have hempty : ∀ {r : Root} {name : String}, ¬ bench.files.HasDir (r.place w ++ [name]) :=
    fun hdir => List.not_mem_nil ((h.2 _).mem_of_hasDir hdir)
  exact ⟨h.1, fun r => ⟨[], h.2 r⟩, fun _ hdir => absurd hdir hempty,
    fun _ hdir => absurd hdir hempty⟩

/-- What has stood in the course of an enrollment of a sound workspace is sound, and there is a
ledger that agrees with it. -/
theorem enroll_stood {ledger : Ledger}
    (hsound : Node.IsSound settings.workspace.root bench.here w torn bench.files)
    (hagrees : Agrees w bench.files ledger)
    (hstood : bench.Stood (bench.perform (enroll settings)).2 files) :
    Node.IsSound settings.workspace.root bench.here w torn files
      ∧ ∃ ledger', Agrees w files ledger' := by
  have hsound' := ((enroll_upholds settings bench).stood hsound hstood).sound
  obtain ⟨waiting, hwaiting⟩ := hsound.holds .pending
  refine ⟨hsound', ?_⟩
  rcases enroll_enrolls settings w bench hsound.leads ⟨waiting, hwaiting⟩ with
    ⟨failure, after, hperform, hspared⟩ | ⟨names, after, hperform, hpublished⟩
  all_goals rw [hperform] at hstood
  · obtain ⟨ledger', -, haccounts⟩ := Bench.Tells.stood
      (hspared.tells hagrees : bench.Tells _ w (fun _ _ => False) _ _ _) hagrees.accounts hstood
    exact ⟨ledger', hsound'.agrees haccounts⟩
  · obtain ⟨ledger', -, haccounts⟩ := (hpublished.tells hagrees).stood hagrees.accounts hstood
    exact ⟨ledger', hsound'.agrees haccounts⟩

/-- A cycle upholds a sound workspace, in which the tests that it deletes may be torn then. -/
theorem performCycle_passes {ledger : Ledger} (hmachine : machine.WritesOnlyLogs)
    (hoperator : operator.OnlyChooses)
    (hsound : Node.IsSound settings.workspace.root bench.here w torn bench.files)
    (hagrees : Agrees w bench.files ledger) :
    bench.Passes (Node.Upheld settings.workspace.root bench.here w
        fun name => torn name ∨ bench.Discards settings machine operator name)
      (bench.perform (performCycle settings machine operator)).2 :=
  performCycle_upholds hmachine hoperator hagrees (fun _ => .inr) (hsound.mono fun _ => .inl)

/-- What has stood in the course of a cycle on a sound workspace is sound and holds the results, and
the ledger has got there step by step. -/
theorem performCycle_stood {ledger : Ledger} (hmachine : machine.WritesOnlyLogs)
    (hoperator : operator.OnlyChooses)
    (hsound : Node.IsSound settings.workspace.root bench.here w torn bench.files)
    (hagrees : Agrees w bench.files ledger)
    (hstood : bench.Stood (bench.perform (performCycle settings machine operator)).2 files) :
    Node.Upheld settings.workspace.root bench.here w
        (fun name => torn name ∨ bench.Discards settings machine operator name) bench.files files
      ∧ ∃ ledger', Relation.ReflTransGen
          (Ledger.Step (bench.Claims settings machine) (bench.Discards settings machine operator))
          ledger ledger'
        ∧ Agrees w files ledger' := by
  have hupheld := (performCycle_passes hmachine hoperator hsound hagrees).stood
    ⟨hsound.mono fun _ => .inl, fun _ _ hnode => hnode⟩ hstood
  obtain ⟨last, htells⟩ := performCycle_tells hmachine hoperator hsound.leads hagrees
  obtain ⟨ledger', hsteps, haccounts⟩ := htells.stood hagrees.accounts hstood
  exact ⟨hupheld, ledger', hsteps, hupheld.sound.agrees haccounts⟩

/-- A workspace that is reached is sound, and there is a ledger that agrees with it. -/
theorem Workspace.Reaches.sound (h : workspace.Reaches w torn bench) :
    Node.IsSound workspace.root bench.here w torn bench.files
      ∧ ∃ ledger, Agrees w bench.files ledger := by
  induction h with
  | fresh h => exact ⟨h.sound, [], .of_isFresh h⟩
  | meanwhile h hleaves ih =>
    obtain ⟨hsound, ledger, hagrees⟩ := ih
    exact ⟨hsound.of_get? hleaves.1 hleaves.2, ledger, hagrees.spares (.of_get? hleaves.2)⟩
  | enroll h hsettings hstood hhere ih =>
    subst hsettings
    obtain ⟨hsound, ledger, hagrees⟩ := ih
    rw [hhere]
    exact enroll_stood hsound hagrees hstood
  | cycle h hsettings hmachine hoperator hstood hhere ih =>
    subst hsettings
    obtain ⟨hsound, ledger, hagrees⟩ := ih
    obtain ⟨hupheld, ledger', -, hagrees'⟩ :=
      performCycle_stood hmachine hoperator hsound hagrees hstood
    rw [hhere]
    exact ⟨hupheld.sound.forget, ledger', hagrees'⟩

/-- A complete enrollment. -/
theorem Workspace.Reaches.enrolled (h : settings.workspace.Reaches w torn bench) :
    settings.workspace.Reaches w torn (bench.perform (BootTrial.enroll settings)).2 :=
  .enroll h rfl (.inr (.inl rfl)) (enroll_upholds settings bench h.sound.1).here

/-- A complete cycle. -/
theorem Workspace.Reaches.cycled (h : settings.workspace.Reaches w torn bench)
    (hmachine : machine.WritesOnlyLogs) (hoperator : operator.OnlyChooses) :
    ∃ torn', settings.workspace.Reaches w torn'
      (bench.perform (performCycle settings machine operator)).2 := by
  obtain ⟨hsound, ledger, hagrees⟩ := h.sound
  have hpasses := performCycle_passes hmachine hoperator hsound hagrees
  exact ⟨_, .cycle h rfl hmachine hoperator (.inr (.inl rfl)) hpasses.here⟩

/-- A test to which a cycle comes. It is loaded if and only if its scenario file can be read and the
path of the file is not refused. The file can be read unless it is missing, which it is only if the
test may be torn, or the first name in it begins with a byte order mark. -/
def Bench.Resumes (workspace : Workspace) (w : Place) (torn : String → Prop) (settings : Settings)
    (machine : Machine) (bench : Bench) (directory : Path) : Prop :=
  ∃ name, IsPlain name ∧ directory = workspace.running.join name
    ∧ bench.files.HasDir (Root.running.place w ++ [name])
    ∧ ((∃ trial, (bench.perform (Trial.load settings machine directory)).1 = .ok trial)
      ↔ (directory.join scenarioName).refusal? = none
        ∧ bench.files.IsLegible (Root.running.place w ++ [name]))
    ∧ (bench.files.IsLegible (Root.running.place w ++ [name])
      ∨ torn name ∧ bench.files.get? (Root.running.place w ++ [name] ++ [scenarioName]) = none
      ∨ ∃ (record : Scenario) (runnable : Bool), record.IsMarked
        ∧ bench.files.get? (Root.running.place w ++ [name] ++ [scenarioName])
          = some (.file (record.tableBytes record.names) runnable))

/-- In a sound workspace a program that has just been started loads the tests to which its cycle
comes. -/
theorem cycleToTests_resumes {ledger : Ledger} {directories : List Path} {directory : Path}
    (hmachine : machine.WritesOnlyLogs) (hnames : machine.NamesBoot)
    (hsound : Node.IsSound settings.workspace.root bench.here w torn bench.files)
    (hagrees : Agrees w bench.files ledger) (hheaders : bench.headers = [])
    (htests : bench.perform (cycleToTests settings machine) = (.ok directories, after))
    (hdirectory : directory ∈ directories) :
    after.Resumes settings.workspace w torn settings machine directory := by
  obtain ⟨ledger', result, last, htests', htold, -, hdirectories⟩ :=
    cycleToTests_tells (fun _ => False) hmachine hsound.leads hagrees
  obtain ⟨rfl, rfl⟩ := Prod.mk.inj (htests.symm.trans htests')
  have hupholds : bench.Upholds settings.workspace w torn
      (bench.perform (cycleToTests settings machine)).2 := cycleToTests_upholds settings hmachine bench
  rw [htests] at hupholds
  have hsound' := hupholds.sound hsound
  rcases hdirectories with hnone | ⟨name, hname, hsingle⟩
  · rw [hnone directories rfl] at hdirectory
    cases hdirectory
  cases hsingle
  obtain rfl := List.mem_singleton.mp hdirectory
  obtain ⟨hruns, -⟩ := htold.agrees.runs htold.root hname
  obtain ⟨hintact, hbound⟩ := hsound'.running name hruns.dir
  have hunknown : after.headers.get? (Root.running.place w ++ [name] ++ [scenarioName]) = none := by
    have hleaves := cycleToTests_leavesUnknown (d := Root.running.place w ++ [name]) settings hnames
      bench (by rw [hheaders]; rfl)
    rwa [htests] at hleaves
  exact ⟨name, hruns.plain, rfl, hruns.dir, Trial.load_isOk_iff settings hmachine hnames hruns.plain hruns.leads
    hintact hbound hunknown, hintact.legible_or⟩

/-- Wherever a cycle on a workspace that has been reached is cut off, each test waits, runs, is
completed or has been deleted because the operator chose so, and the tests that a new start of the
program comes to are loaded: each of them unless it was to be deleted and its scenario file has gone,
the path of this file is refused, or its first name begins with a byte order mark. -/
theorem Workspace.Reaches.recovers (h : settings.workspace.Reaches w torn bench)
    (hmachine : machine.WritesOnlyLogs) (hoperator : operator.OnlyChooses)
    (hstood : bench.Stood (bench.perform (performCycle settings machine operator)).2 files) :
    (∃ first last, Agrees w bench.files first
        ∧ Relation.ReflTransGen (Ledger.Step (bench.Claims settings machine)
          (bench.Discards settings machine operator)) first last
        ∧ Agrees w files last)
      ∧ ∀ (again base : Bench) (settings' : Settings) (machine' : Machine) (directories : List Path),
        again.files = files → again.here = bench.here → again.headers = [] →
        settings'.workspace = settings.workspace → machine'.WritesOnlyLogs → machine'.NamesBoot →
        again.perform (cycleToTests settings' machine') = (.ok directories, base) →
        ∀ directory ∈ directories, base.Resumes settings.workspace w
          (fun name => torn name ∨ bench.Discards settings machine operator name) settings' machine'
          directory := by
  obtain ⟨hsound, first, hagrees⟩ := h.sound
  obtain ⟨hupheld, last, hsteps, hagrees'⟩ :=
    performCycle_stood hmachine hoperator hsound hagrees hstood
  have hsound' := hupheld.sound
  refine ⟨⟨first, last, hagrees, hsteps, hagrees'⟩, ?_⟩
  rintro again base settings' machine' directories rfl hhere hheaders hsettings hmachine' hnames htests
    directory hdirectory
  rw [← hsettings, ← hhere] at hsound'
  rw [← hsettings]
  exact cycleToTests_resumes hmachine' hnames hsound' hagrees' hheaders htests hdirectory

/-- A workspace in which nothing has been enrolled yet, with one scenario and an operator who will
choose to delete its test. -/
def droppingBench : Bench where
  files := .dir [
    ("templates", .dir [("power", .dir [
      ("scenarios.csv", .file (Text.encode "mode,result\ns2idle,\n") false),
      ("quick-responses.csv", .file (Text.encode
        "description,action,params\nDrop [d],discard,\n") false)])])]
  here := []
  home := .ofText "/"
  searchPath := []
  color := false
  answers := ["d"]

/-- The same workspace once its scenario has been enrolled. -/
def enrolledBench : Bench :=
  { droppingBench with files := (droppingBench.perform (enroll {})).2.files }

/-- It is reached. -/
theorem enrolledBench_reached :
    (Settings.workspace {}).Reaches [] (fun _ => False) enrolledBench := by
  have hfresh : droppingBench.IsFresh (Settings.workspace {}) [] := by
    refine ⟨Path.leads_dot ⟨_, rfl⟩, fun r => .of_none ?_⟩
    cases r <;> rfl
  have hfiles : ∀ files : Node, ({ droppingBench with files } : Bench).files = files := fun _ => rfl
  have hstood : droppingBench.Stood (droppingBench.perform (enroll {})).2 enrolledBench.files := by
    rw [enrolledBench, hfiles]
    exact .inr (.inl rfl)
  exact .enroll (.fresh hfresh) rfl hstood rfl

set_option maxRecDepth 100000 in
/-- A cycle is cut off while it deletes a test, right behind the removal of the scenario file. The
next cycle comes to this test, and cannot load it. -/
theorem Workspace.Reaches.recovers_dropping :
    ∃ files base, enrolledBench.Stood
        (enrolledBench.perform (performCycle {} (.scripted ⟨"b00t", sameBoot_isId⟩ []) .scripted)).2
        files
      ∧ ({ droppingBench with files } : Bench).perform
          (cycleToTests {} (.scripted ⟨"b00t", sameBoot_isId⟩ []))
        = (.ok [(Settings.workspace {}).running.join "1-power--mode-s2idle__result---b00t"], base)
      ∧ ¬ ∃ trial, (base.perform (Trial.load {} (.scripted ⟨"b00t", sameBoot_isId⟩ [])
          ((Settings.workspace {}).running.join "1-power--mode-s2idle__result---b00t"))).1
        = .ok trial := by
  let machine : Machine := .scripted ⟨"b00t", sameBoot_isId⟩ []
  let after := (enrolledBench.perform (performCycle {} machine .scripted)).2
  let directory := (Settings.workspace {}).running.join "1-power--mode-s2idle__result---b00t"
  let sheet := Root.running.place [] ++ ["1-power--mode-s2idle__result---b00t"] ++ [scenarioName]
  have hfacts : ∃ moment ∈ after.history,
      (({ droppingBench with files := moment.files } : Bench).perform (cycleToTests {} machine)).1
          = .ok [directory]
        ∧ (({ droppingBench with files := moment.files } : Bench).perform
            (cycleToTests {} machine)).2.files.get? sheet = none := by decide +kernel
  obtain ⟨moment, hmoment, htests, hgone⟩ := hfacts
  have hstood : enrolledBench.Stood after moment.files :=
    .inr (.inr ⟨after.history, (List.append_nil _).symm, moment, hmoment, rfl⟩)
  obtain ⟨-, hresumes⟩ := Workspace.Reaches.recovers enrolledBench_reached
    (Machine.scripted_writesOnlyLogs _ _) Operator.scripted_onlyChooses hstood
  obtain ⟨name, hplain, hname, -, hload, -⟩ := hresumes { droppingBench with files := moment.files } _ {}
    machine [directory] rfl rfl rfl rfl (Machine.scripted_writesOnlyLogs _ _)
    (Machine.scripted_namesBoot _ List.not_mem_nil) (Bench.perform_eq htests) directory (List.mem_singleton_self _)
  refine ⟨moment.files, _, hstood, Bench.perform_eq htests, fun hloaded => ?_⟩
  obtain ⟨-, content, runnable, header, scenario, hthere, -⟩ := hload.mp hloaded
  obtain rfl : "1-power--mode-s2idle__result---b00t" = name :=
    Path.join_inj (isPlain_of_length (by decide) (by decide)) hplain hname
  rw [hgone] at hthere
  cases hthere

end BootTrial
