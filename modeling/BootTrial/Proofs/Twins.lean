import BootTrial.Proofs.Caching

/-!
# Cycles on twins

A cycle is alike on twins (`performCycle_alike`), though the headers that a bench remembers may be
those of tests that are gone. The run of a test reads the scenario file before it writes into it,
and so each twin remembers the header of this file when a result is written (`Trial.IsKnown`): the
header is taken from memory on both, and it is that of the template. Whatever else a run does pays
no heed to the headers.
-/

namespace BootTrial

/-- Work on a trial comes to the same on two benches, and leaves twins. -/
structure TrialWork.Alike {α : Type} (header : List String) (found : Prop) (work : TrialWork α)
    (trial : Trial) (a b : Bench) : Prop where
  /-- The results are the same. -/
  result : (b.act trial work).1 = (a.act trial work).1
  /-- The trials are the same. -/
  trials : (b.act trial work).2.1 = (a.act trial work).2.1
  /-- Twins are left. -/
  twins : Bench.Twins header found (a.act trial work).2.2 (b.act trial work).2.2

namespace TrialWork.Alike

variable {α β : Type} {header : List String} {found : Prop} {trial : Trial} {a b : Bench}

/-- Oblivious work. -/
theorem of_oblivious {work : TrialWork α} (htwins : a.Twins header found b)
    (h : work.IsOblivious) : Alike header found work trial a b := by
  have hleft : a.act trial work = ((a.act trial work).1, (a.act trial work).2.1,
      (a.act trial work).2.2.remembering a.headers) := h a a.headers trial
  have hright := h a b.headers trial
  rw [← htwins.same] at hright
  refine ⟨by rw [hright], by rw [hright], ?_⟩
  rw [hleft, hright]
  exact ⟨rfl, htwins.left, htwins.right⟩

/-- Work that leaves the trial alone. -/
theorem lift {work : Work α} (h : BootTrial.Alike header found work a b) :
    Alike header found (liftM work : TrialWork α) trial a b :=
  ⟨h.result, rfl, h.twins⟩

/-- What work that is alike comes to on both benches. -/
theorem acts {work : TrialWork α} (h : Alike header found work trial a b) :
    ∃ result trial' a' b', a.act trial work = (result, trial', a')
      ∧ b.act trial work = (result, trial', b') ∧ a'.Twins header found b' :=
  ⟨(a.act trial work).1, (a.act trial work).2.1, (a.act trial work).2.2, (b.act trial work).2.2,
    rfl, Prod.ext h.result (Prod.ext h.trials rfl), h.twins⟩

/-- Work on a trial that goes on where other work has succeeded. -/
theorem bind {work : TrialWork α} {next : α → TrialWork β} (h : Alike header found work trial a b)
    (hnext : ∀ x trial' a' b', a.act trial work = (.ok x, trial', a') →
      b.act trial work = (.ok x, trial', b') → a'.Twins header found b' →
      Alike header found (next x) trial' a' b') :
    Alike header found (work >>= next) trial a b := by
  obtain ⟨failure | x, trial', a', b', ha, hb, htwins⟩ := h.acts
  · refine ⟨?_, ?_, ?_⟩
    all_goals rw [Bench.act_bind_error ha, Bench.act_bind_error hb]
    exact htwins
  · have hrest := hnext x trial' a' b' ha hb htwins
    refine ⟨?_, ?_, ?_⟩
    all_goals rw [Bench.act_bind_ok ha, Bench.act_bind_ok hb]
    · exact hrest.result
    · exact hrest.trials
    · exact hrest.twins

end TrialWork.Alike

/-! ## Runs -/

namespace Bench

variable {workspace : Workspace} {w : Place} {name : String} {header : List String} {found : Prop}
  {a b : Bench}

/-- A test that runs on a bench runs on a twin. -/
theorem Twins.runs (h : a.Twins header found b) (hruns : workspace.Runs w name a) :
    workspace.Runs w name b := by
  refine ⟨?_, hruns.plain, hruns.short, ?_⟩
  · rw [h.files, h.here]
    exact hruns.root
  · rw [h.files]
    exact hruns.dir

/-- The table of a template is kept by what keeps everything outside the tests. -/
theorem Offers.keeps {after : Bench} {p : Path} {own : List String}
    (h : a.Offers (p.join "scenarios.csv") header found) (hkeeps : a.KeepsTemplate w own after)
    (havoids : p.Avoids a.here w) : after.Offers (p.join "scenarios.csv") header found := by
  obtain ⟨hbytes, hplace⟩ := join_outside hkeeps.here hkeeps.outside havoids
    ScenarioTable.scenariosName_isPlain (by decide) (by decide)
  exact h.of_same hbytes hplace

end Bench

namespace Trial

variable {workspace : Workspace} {settings : Settings} {machine : Machine} {operator : Operator}
  {w : Place} {name : String} {base base' a b : Bench} {header : List String} {found : Prop}
  {scenario : Scenario} {trial : Trial}

/-- Loading a test. -/
theorem load_alike (hmachine : machine.WritesOnlyLogs) (hobeys : machine.IsOblivious)
    (htwins : a.Twins header found b) (hruns : settings.workspace.Runs w name a)
    (hheaded : a.files.AllHeaded w header) :
    Alike header found (load settings machine (settings.workspace.running.join name)) a b := by
  unfold load
  refine .oblivious_bind htwins (boundBoot_oblivious _) fun boot a₁ b₁ hbound htwins₁ => ?_
  refine .oblivious_bind htwins₁ (hobeys.ask _) fun current a₂ b₂ hasked htwins₂ => ?_
  refine .oblivious_bind htwins₂ (logFrontOf_oblivious _) fun front a₃ b₃ hfront htwins₃ => ?_
  -- The scenario file is the same as before.
  have hinside : Bench.Inside (Root.running.place w ++ [name]) IsFixed (fun _ => True) a a₁ := by
    have hkeeps : Keeps (Bench.StaysIn (settings.workspace.running.join name)
        (Root.running.place w ++ [name]) IsFixed fun _ => True)
        (boundBoot (settings.workspace.running.join name)) :=
      boundBoot_staysIn (by simp [IsFixed, bootIdName, scenarioName, prefixName]) trivial
    have h := hkeeps a hruns.leads
    rwa [hbound] at h
  have hquiet : Bench.Quiet (fun _ => True) a₁ a₃ := by
    have hask : Keeps (Bench.Quiet fun _ => True) (machine.ask .currentBoot) :=
      hmachine.ask_quiet rfl trivial trivial
    have hask₁ := hask a₁
    have hread₂ := logFrontOf_keeps (R := Eq) (settings.workspace.running.join name) a₂
    rw [hasked] at hask₁
    rw [hfront] at hread₂
    obtain rfl : a₂ = a₃ := hread₂
    exact hask₁
  have hruns₃ := (hruns.inside hinside).quiet hquiet
  have hheaded₃ : a₃.files.AllHeaded w header := by
    rw [hquiet.files]
    exact hheaded.inside_kept hinside.files (.inl rfl)
  have hread : Alike header found
      (Scenario.read ((settings.workspace.running.join name).join scenarioName) false) a₃ b₃ :=
    (ScenarioTable.read_sheet_alike htwins₃ fun _ =>
      hheaded₃.of_bytesAt hruns₃.leads).bind_oblivious fun _ => .ofExcept _
  exact hread.bind_oblivious fun _ => .pure _

/-- Preparing a test. -/
theorem prepare_alike (hmachine : machine.WritesOnlyLogs) (hobeys : machine.IsOblivious)
    (htwins : a.Twins header found b)
    (hoffers : a.Offers (settings.workspace.scenarios settings.template) header found)
    (havoids : (settings.workspace.template settings.template).Avoids a.here w)
    (hruns : settings.workspace.Runs w name a) (hheaded : a.files.AllHeaded w header) :
    Alike header found (prepare settings machine (settings.workspace.running.join name)) a b := by
  unfold prepare
  refine (load_alike hmachine hobeys htwins hruns hheaded).bind fun trial a₁ b₁ hload htwins₁ => ?_
  have hinside := load_staysIn settings hmachine a hruns.leads
  rw [hload] at hinside
  have hkeeps : a.KeepsTemplate w header a₁ := .of_inside hinside (.inl rfl)
  refine (settings.menu_alike htwins₁ (hoffers.keeps hkeeps havoids) _).bind_oblivious
    fun menu => ?_
  exact (captureLogs_oblivious hobeys trial).bind fun _ => .pure _

/-- Nothing is written for a trial any more, or the header of its scenario file is remembered. -/
def IsKnown (workspace : Workspace) (w : Place) (name : String) (base : Bench)
    (header : List String) (trial : Trial) (bench : Bench) : Prop :=
  trial.isClosed = true ∨ IsOpen workspace w name base header trial.scenario trial bench

/-- An action that succeeds leaves a trial open with its header remembered, or closed. -/
theorem IsKnown.run (hmachine : machine.WritesOnlyLogs)
    (h : IsKnown workspace w name base header trial a) {action : Action} {trial' : Trial}
    {after : Bench} (hact : a.act trial (action.run machine) = (.ok (), trial', after)) :
    IsKnown workspace w name base header trial' after := by
  rcases h with hclosed | hopen
  · -- No action opens a trial again.
    obtain ⟨outcome, last, hact', -⟩ := act_run_closed hmachine hclosed a action trial.scenario
    rw [hact] at hact'
    cases hact'
    exact .inl hclosed
  · obtain ⟨outcome, trial'', last, hact', hreached, hok⟩ := hopen.act_run hmachine rfl action
    rw [hact] at hact'
    cases hact'
    obtain ⟨hclosed, hscenario⟩ := hok rfl
    by_cases hstate : trial'.isClosed = true
    · exact .inl hstate
    · rw [Bool.not_eq_true] at hstate
      have hnone : Deed.fate? machine ⟨action, a, .ok ()⟩ = none := by
        rwa [hstate, eq_comm, Option.isSome_eq_false_iff, Option.isNone_iff_eq_none] at hclosed
      rw [hnone, ← hscenario hstate] at hreached
      exact .inr hreached

/-- The header of the scenario file of an open trial is taken from memory, if the path of the file
is not refused. -/
theorem IsOpen.perform_headerAt (h : IsOpen workspace w name base header scenario trial a) :
    a.perform (ScenarioTable.headerAt trial.scenarioFile)
      = (((a.placeAt trial.scenarioFile).map fun _ => header).mapError
          (.unreadable trial.scenarioFile), a) := by
  obtain ⟨content, runnable, hfile, -⟩ := h.stands.file
  obtain ⟨own, hown⟩ := h.runs_now.dir
  rw [Node.get?_snoc hown] at hfile
  have hlook : a.perform (FileWork.look (·.placeAt trial.scenarioFile))
      = (a.placeAt trial.scenarioFile, a) := rfl
  unfold ScenarioTable.headerAt
  cases hplace : a.placeAt trial.scenarioFile with
  | error fault =>
    rw [hplace] at hlook
    rw [Bench.perform_bind_error (Bench.perform_reportedAs_error hlook _)]
    rfl
  | ok place =>
    obtain rfl := Path.place_join_ok scenarioName_isPlain h.leads.passThrough hown hfile hplace
    rw [hplace] at hlook
    rw [Bench.perform_bind_ok (Bench.perform_reportedAs_ok hlook _),
      Bench.perform_bind_ok (Bench.perform_get a), h.known]
    rfl

/-- Writing a result into the scenario of a trial. -/
theorem runWriteResult_alike (htwins : a.Twins header found b)
    (ha : IsKnown workspace w name base header trial a)
    (hb : IsKnown workspace w name base' header trial b) (column result : String) :
    TrialWork.Alike header found (Action.runWriteResult column result) trial a b := by
  by_cases hclosed : trial.isClosed = true
  · -- The action is refused before it looks for a header.
    have hact : ∀ bench : Bench, bench.act trial (Action.runWriteResult column result)
        = (.error (.alreadyClosed trial.directory), trial, bench) := by
      intro bench
      unfold Action.runWriteResult
      rw [Bench.act_bind_ok (Bench.act_getTrial bench trial)]
      simp only [requireOpen, hclosed, if_true]
      rfl
    refine ⟨?_, ?_, ?_⟩
    all_goals rw [hact, hact]
    exact htwins
  · have hopen : trial.requireOpen = .ok () := by simp [requireOpen, hclosed]
    have ha' := ha.resolve_left hclosed
    have hb' := hb.resolve_left hclosed
    have hact : ∀ bench : Bench, bench.act trial (Action.runWriteResult column result)
        = bench.act { trial with scenario := trial.scenario.set column result } (do
            let header ← ScenarioTable.headerAt trial.scenarioFile
            (trial.scenario.set column result).write trial.scenarioFile header) := by
      intro bench
      unfold Action.runWriteResult
      rw [Bench.act_bind_ok (Bench.act_getTrial bench trial)]
      simp only [hopen]
      rfl
    have hheader : BootTrial.Alike header found
        (ScenarioTable.headerAt trial.scenarioFile) a b := by
      refine .of_remembering htwins ha'.perform_headerAt htwins.left ?_ htwins.right
      rw [hb'.perform_headerAt, htwins.same]
      rfl
    have hwrite : TrialWork.Alike header found (do
        let header ← ScenarioTable.headerAt trial.scenarioFile
        (trial.scenario.set column result).write trial.scenarioFile header)
        { trial with scenario := trial.scenario.set column result } a b := by
      refine (TrialWork.Alike.lift hheader).bind fun known trial' a' b' hknown _ htwins' => ?_
      obtain rfl : known = header := by
        rw [Bench.act_lift, ha'.perform_headerAt] at hknown
        cases hplace : a.placeAt trial.scenarioFile with
        | error fault =>
          rw [hplace] at hknown
          cases hknown
        | ok place =>
          rw [hplace] at hknown
          cases hknown
          rfl
      exact .lift (Scenario.write_alike htwins' _ _)
    refine ⟨?_, ?_, ?_⟩
    all_goals rw [hact, hact]
    · exact hwrite.result
    · exact hwrite.trials
    · exact hwrite.twins

/-- Carrying out actions on a trial. -/
theorem runAll_alike (hmachine : machine.WritesOnlyLogs) (hobeys : machine.IsOblivious)
    (htwins : a.Twins header found b) (ha : IsKnown workspace w name base header trial a)
    (hb : IsKnown workspace w name base' header trial b) (actions : List Action) :
    TrialWork.Alike header found (Action.runAll machine actions) trial a b := by
  induction actions generalizing trial a b with
  | nil => exact .of_oblivious htwins fun _ _ _ => rfl
  | cons action rest ih =>
    have hfirst : TrialWork.Alike header found (action.run machine) trial a b := by
      cases action with
      | quit => exact .of_oblivious htwins fun _ _ _ => rfl
      | discard => exact .of_oblivious htwins .runDiscard
      | reboot => exact .of_oblivious htwins (.runReboot hobeys)
      | writeResult column result => exact runWriteResult_alike htwins ha hb column result
    exact hfirst.bind fun _ trial' a' b' hact hact' htwins' =>
      ih htwins' (ha.run hmachine hact) (hb.run hmachine hact')

/-- The end of a run. -/
theorem finish_alike (settings : Settings) (htwins : a.Twins header found b) (directory : Path)
    (answered : Except Error (Option String)) (trial : Trial) :
    ∃ result a' b', finish settings directory answered trial a = (result, a')
      ∧ finish settings directory answered trial b = (result, b') ∧ a'.Twins header found b' := by
  have hclose : TrialWork.Alike header found close trial a b := .of_oblivious htwins .close
  obtain ⟨closed, trial', a', b', ha, hb, htwins'⟩ := hclose.acts
  refine ⟨_, a', b', by rw [finish, ha], ?_, htwins'⟩
  rw [finish, hb, htwins'.same]
  rfl

/-- What follows the choice in a run. -/
theorem conclude_alike (settings : Settings) (hmachine : machine.WritesOnlyLogs)
    (hobeys : machine.IsOblivious)
    (htwins : a.Twins header found b) (ha : IsKnown workspace w name base header trial a)
    (hb : IsKnown workspace w name base' header trial b) (directory : Path) (menu : Menu)
    (answer : Except Error (Option String)) :
    ∃ result a' b', conclude settings machine directory menu answer trial a = (result, a')
      ∧ conclude settings machine directory menu answer trial b = (result, b')
      ∧ a'.Twins header found b' := by
  cases answer with
  | error failure => exact finish_alike settings htwins directory _ trial
  | ok choice =>
    obtain ⟨outcome, trial', a', b', hacts, hacts', htwins'⟩ :=
      (runAll_alike hmachine hobeys htwins ha hb (actionsOf menu choice)).acts
    simp only [conclude, hacts, hacts']
    exact finish_alike settings htwins' directory _ trial'

/-- Running a test. -/
theorem runAt_alike (hmachine : machine.WritesOnlyLogs) (hobeys : machine.IsOblivious)
    (hoperator : operator.OnlyChooses) (hchooses : operator.IsOblivious)
    (htwins : a.Twins header found b)
    (hoffers : a.Offers (settings.workspace.scenarios settings.template) header found)
    (havoids : (settings.workspace.template settings.template).Avoids a.here w)
    (hruns : settings.workspace.Runs w name a)
    (hfront : a.files.HasPlainFront (Root.running.place w ++ [name]))
    (hheaded : a.files.AllHeaded w header)
    (hmark : ∀ column ∈ header, column.toList.head? ≠ some '\uFEFF') :
    Alike header found (runAt settings machine operator (settings.workspace.running.join name))
      a b := by
  obtain ⟨failure | ⟨trial, menu⟩, ready, ready', ha, hb, htwins₁⟩ :=
    (prepare_alike hmachine hobeys htwins hoffers havoids hruns hheaded).performs
  · refine ⟨?_, ?_⟩
    all_goals rw [perform_runAt, perform_runAt, ha, hb]
    exact htwins₁
  · -- Both have read the scenario file, so both remember its header.
    obtain ⟨hopen, -⟩ := prepare_opens_headed hmachine hruns hfront hheaded hmark ha
    obtain ⟨hopen', -⟩ := prepare_opens_headed hmachine (htwins.runs hruns)
      (by rwa [htwins.files]) (by rwa [htwins.files]) hmark hb
    obtain ⟨answer, chosen, chosen', hchoose, hchoose', htwins₂⟩ := (Alike.of_oblivious htwins₁
      (choose_oblivious hobeys hchooses settings.notify.message menu trial)).performs
    have hquiet := choose_quiet hmachine hoperator settings.notify.message menu trial ready
    have hquiet' := choose_quiet hmachine hoperator settings.notify.message menu trial ready'
    rw [hchoose] at hquiet
    rw [hchoose'] at hquiet'
    obtain ⟨result, last, last', hconclude, hconclude', htwins₃⟩ :=
      conclude_alike settings hmachine hobeys htwins₂ (.inr (hopen.quiet hquiet))
        (.inr (hopen'.quiet hquiet')) (settings.workspace.running.join name) menu answer
    refine ⟨?_, ?_⟩
    all_goals
      rw [perform_runAt_prepared ha hchoose, perform_runAt_prepared hb hchoose', hconclude,
        hconclude']
    exact htwins₃

end Trial

/-! ## Cycles -/

section Cycle

variable {settings : Settings} {machine : Machine} {operator : Operator} {w : Place}
  {header : List String} {found : Prop} {a b : Bench} {ledger : Ledger}

/-- A cycle up to its tests. -/
theorem cycleToTests_alike (hobeys : machine.IsOblivious) (htwins : a.Twins header found b)
    (hoffers : a.Offers (settings.workspace.scenarios settings.template) header found) :
    Alike header found (cycleToTests settings machine) a b := by
  unfold cycleToTests
  refine .oblivious_bind htwins (isOccupied_oblivious _) fun begun a₁ b₁ hbegun htwins₁ => ?_
  split
  · exact .of_oblivious htwins₁ (testsIn_oblivious _)
  refine .oblivious_bind htwins₁ (isOccupied_oblivious _) fun waiting a₂ b₂ hwaiting htwins₂ => ?_
  split
  · have hlooked : Bench.Unmoved a a₂ := by
      have hfirst := isOccupied_keeps (R := Bench.Unmoved) settings.workspace.running a
      have hsecond := isOccupied_keeps (R := Bench.Unmoved) settings.workspace.pending a₁
      rw [hbegun] at hfirst
      rw [hwaiting] at hsecond
      exact trans_of Bench.Unmoved hfirst hsecond
    refine (settings.menu_alike htwins₂ (hoffers.unmoved hlooked) _).bind_oblivious fun _ => ?_
    exact (hobeys.ask _).bind fun boot => (settings.workspace.claim_oblivious boot).bind fun _ =>
      .pure _
  · exact .of_oblivious htwins₂ (.pure _)

/-- A cycle. -/
theorem performCycle_alike (hmachine : machine.WritesOnlyLogs) (hobeys : machine.IsOblivious)
    (hoperator : operator.OnlyChooses) (hchooses : operator.IsOblivious)
    (htwins : a.Twins header found b)
    (hoffers : a.Offers (settings.workspace.scenarios settings.template) header found)
    (havoids : (settings.workspace.template settings.template).Avoids a.here w)
    (hw : settings.workspace.root.Leads a.files a.here w)
    (hagrees : Agrees w a.files ledger) (hheaded : a.files.AllHeaded w header)
    (hmark : ∀ column ∈ header, column.toList.head? ≠ some '\uFEFF') :
    Alike header found (performCycle settings machine operator) a b := by
  have hbegun : (b.perform (isOccupied settings.workspace.running)).1
      = (a.perform (isOccupied settings.workspace.running)).1 :=
    (Alike.of_oblivious htwins (isOccupied_oblivious _)).result
  obtain ⟨waiting, hwaiting, -⟩ := hagrees.holds .pending
  have hkeeps : a.KeepsTemplate w header (a.perform (cycleToTests settings machine)).2 :=
    cycleToTests_keepsTemplate hmachine hw hwaiting.isListing
  obtain ⟨middle, result, base, htests, htold, -, hdirectories⟩ :=
    cycleToTests_tells (fun _ => False) hmachine hw hagrees
  rw [htests] at hkeeps
  have hcycle : Alike header found (do
      let directories ← cycleToTests settings machine
      let runs ← Trial.runEach settings machine operator directories
      return CycleResult.ofRuns (a.perform (isOccupied settings.workspace.running)).1 runs)
      a b := by
    refine (cycleToTests_alike hobeys htwins hoffers).bind fun directories a₁ b₁ h htwins₁ => ?_
    obtain ⟨rfl, rfl⟩ := Prod.mk.inj (h.symm.trans htests)
    have hruns : Alike header found (Trial.runEach settings machine operator directories)
        a₁ b₁ := by
      rcases hdirectories with hnone | ⟨name, hname, hone⟩
      · obtain rfl := hnone directories rfl
        exact .of_oblivious htwins₁ (.pure _)
      · obtain rfl := Except.ok.inj hone
        obtain ⟨hruns, hfront⟩ := htold.agrees.runs htold.root hname
        refine (Trial.runAt_alike hmachine hobeys hoperator hchooses htwins₁
          (hoffers.keeps hkeeps havoids) (by rwa [hkeeps.here]) hruns hfront (hkeeps.headed hheaded)
          hmark).bind_oblivious fun run => ?_
        exact (Oblivious.pure _).bind fun _ => .pure _
    exact hruns.bind_oblivious fun _ => .pure _
  refine ⟨?_, ?_⟩
  all_goals rw [perform_performCycle a, perform_performCycle b, hbegun]
  · exact hcycle.result
  · exact hcycle.twins

end Cycle

end BootTrial
