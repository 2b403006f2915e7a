import BootTrial.Proofs.Ledger

/-!
# What a cycle does to the tests

A run ends with the test in one of the places of its fate (`Trial.runAt_ended`), where only a deed
that is among the actions of the choice decides to leave or to delete it. What a cycle does is told
by the ledger (`performCycle_tells`): it goes on with the one test in the running root, or claims
a test that waits and runs it.
-/

namespace BootTrial

/-- The action of a deed that deletes the test. -/
theorem Deed.action_of_discarded {machine : Machine} {deed : Deed}
    (h : deed.fate? machine = some .discarded) : deed.action = .discard := by
  unfold fate? at h
  split at h
  · cases h
  · assumption
  · split at h <;> cases h
  · cases h

/-- The action of a deed that leaves the test. -/
theorem Deed.action_of_left {machine : Machine} {deed : Deed}
    (h : deed.fate? machine = some .left) : deed.action = .quit := by
  unfold fate? at h
  split at h
  · assumption
  · cases h
  · split at h <;> cases h
  · cases h

namespace Trial

variable {settings : Settings} {machine : Machine} {operator : Operator} {w : Place}
  {name : String} {bench : Bench}

/-- What decides the fate of a test is among the actions of the choice. -/
theorem exists_deed {menu : Menu} {trial : Trial} {chosen : Bench}
    {answer : Except Error (Option String)} {fate : Fate}
    (h : (deedsOf machine menu trial chosen answer).findSome? (Deed.fate? machine) = some fate) :
    ∃ (choice : Option String) (deed : Deed), answer = .ok choice
      ∧ deed.fate? machine = some fate ∧ deed.action ∈ actionsOf menu choice := by
  obtain ⟨front, deed, back, hdeeds, hfate, -⟩ := List.findSome?_eq_some_iff.mp h
  cases answer with
  | error failure => simp [deedsOf] at hdeeds
  | ok choice =>
    refine ⟨choice, deed, rfl, hfate, ?_⟩
    have hbegins := (Action.deeds_spec machine (actionsOf menu choice) trial chosen).1
    refine hbegins.subset (List.mem_map_of_mem ?_)
    rw [deedsOf] at hdeeds
    rw [hdeeds]
    simp

/-- What a run does to a test that has been prepared: what is chosen for it is carried out, and then
the trial is closed. The test is left or deleted only by an action of the choice. -/
theorem runAt_reached {trial : Trial} {menu : Menu} {ready : Bench}
    (hmachine : machine.WritesOnlyLogs) (hoperator : operator.OnlyChooses)
    (hruns : settings.workspace.Runs w name bench)
    (hfront : bench.files.HasPlainFront (Root.running.place w ++ [name]))
    (hprepare : bench.perform (prepare settings machine (settings.workspace.running.join name))
      = (.ok (trial, menu), ready)) :
    ∃ answered header scenario fate trial' after,
      bench.perform (runAt settings machine operator (settings.workspace.running.join name))
          = finish settings (settings.workspace.running.join name) answered trial' after
        ∧ Reached settings.workspace w name bench header scenario fate trial' after
        ∧ (settings.workspace.running.join name).refusal? = none
        ∧ ∀ decided, fate = some decided → ∃ actions deed,
          (bench.perform (runToChoice settings machine operator
              (settings.workspace.running.join name))).1 = .ok actions
            ∧ Deed.fate? machine deed = some decided ∧ deed.action ∈ actions := by
  obtain ⟨header, hopen, -⟩ := prepare_opens hmachine hruns hfront hprepare
  have hquiet := choose_quiet hmachine hoperator settings.notify.message menu trial ready
  rcases hchoose : ready.perform (choose machine operator settings.notify.message menu trial) with
    ⟨answer, chosen⟩
  rw [hchoose] at hquiet
  obtain ⟨trial', after, hconclude, hreached, -⟩ := (hopen.quiet hquiet).conclude hmachine
    (settings.workspace.running.join name) menu answer
  refine ⟨_, header, _, _, trial', after,
    (perform_runAt_prepared hprepare hchoose).trans hconclude, hreached, hopen.accepted,
    fun decided hdecided => ?_⟩
  obtain ⟨choice, deed, rfl, hdeed, hmem⟩ := exists_deed hdecided
  refine ⟨actionsOf menu choice, deed, ?_, hdeed, hmem⟩
  rw [runToChoice, Bench.perform_bind_ok hprepare]
  simp only
  rw [Bench.perform_bind_ok hchoose]
  rfl

/-- A run ends with the test in a place of its fate. It is deleted only by an action of the choice,
and without an action that leaves or deletes it the results have it, or refuse it. -/
theorem runAt_ended (hmachine : machine.WritesOnlyLogs) (hoperator : operator.OnlyChooses)
    (hruns : settings.workspace.Runs w name bench)
    (hfront : bench.files.HasPlainFront (Root.running.place w ++ [name])) :
    ∃ header scenario fate result last,
      bench.perform (runAt settings machine operator (settings.workspace.running.join name))
          = (result, last)
        ∧ Ended w name bench header scenario fate last
        ∧ (fate = some .discarded → ∃ actions,
          (bench.perform (runToChoice settings machine operator
              (settings.workspace.running.join name))).1 = .ok actions ∧ .discard ∈ actions)
        ∧ ∀ actions, (bench.perform (runToChoice settings machine operator
              (settings.workspace.running.join name))).1 = .ok actions →
          .quit ∉ actions → .discard ∉ actions →
          (fate = none ∨ fate = some .completed)
            ∧ (¬ bench.files.IsFree (Root.results.place w) name →
              ∃ failure, result = .error failure) := by
  rcases hprepare : bench.perform
    (prepare settings machine (settings.workspace.running.join name)) with
    ⟨failure | ⟨trial, menu⟩, ready⟩
  · -- A test that cannot be prepared is left where it is.
    have hinside := prepare_inside settings hmachine hruns.plain hruns.leads hfront
    rw [hprepare] at hinside
    have hrun : bench.perform (runAt settings machine operator
        (settings.workspace.running.join name)) = (.error failure, ready) := by
      rw [perform_runAt, hprepare]
    have hchoice : (bench.perform (runToChoice settings machine operator
        (settings.workspace.running.join name))).1 = .error failure := by
      rw [runToChoice, Bench.perform_bind_error hprepare]
    have hleft : Ended w name bench [] {} (some .left) ready :=
      hinside.mono (fun _ h => .inr h) fun _ _ => trivial
    refine ⟨[], {}, some .left, .error failure, ready, hrun, hleft, by simp, fun actions h => ?_⟩
    rw [hchoice] at h
    cases h
  obtain ⟨answered, header, scenario, fate, trial', after, hrun, hreached, -, hdecides⟩ :=
    runAt_reached hmachine hoperator hruns hfront hprepare
  obtain ⟨result, last, hfinish, hended, -, hfull⟩ :=
    hreached.finish_ended (settings.workspace.running.join name) answered
  refine ⟨header, scenario, fate, result, last, hrun.trans hfinish, hended, fun hfate => ?_,
    fun actions hactions hquit hdiscard => ?_⟩
  · obtain ⟨actions, deed, hchoice, hdeed, hmem⟩ := hdecides .discarded hfate
    exact ⟨actions, hchoice, Deed.action_of_discarded hdeed ▸ hmem⟩
  · have hfate : fate = none ∨ fate = some .completed := by
      rcases hfind : fate with _ | decided
      · exact .inl rfl
      obtain ⟨actions', deed, hchoice, hdeed, hmem⟩ := hdecides decided hfind
      obtain rfl : actions = actions' := Except.ok.inj (hactions.symm.trans hchoice)
      cases decided with
      | left => exact absurd (Deed.action_of_left hdeed ▸ hmem) hquit
      | discarded => exact absurd (Deed.action_of_discarded hdeed ▸ hmem) hdiscard
      | completed => exact .inr rfl
    exact ⟨hfate, fun hnot => hfull hnot hfate⟩

/-- What a run does to the test is told by the ledger. -/
theorem Ended.tells {workspace : Workspace} {header : List String} {scenario : Scenario}
    {fate : Option Fate} {last : Bench} {ledger : Ledger} {claims : BootId → Prop}
    {discards : String → Prop} (h : Ended w name bench header scenario fate last)
    (hruns : workspace.Runs w name bench) (hagrees : Agrees w bench.files ledger)
    (hdiscards : fate = some .discarded → discards name) :
    ∃ ledger', bench.Tells workspace w (Ledger.Step claims discards) ledger ledger' last := by
  have hcompleted : (bench.files.IsFree (Root.results.place w) name
        ∧ bench.Completed w name last
        ∧ scenario.StandsIn header (Root.results.place w ++ [name]) last.files)
      ∨ (¬ bench.files.IsFree (Root.results.place w) name
        ∧ bench.Inside (Root.running.place w ++ [name]) (· = prefixName) (fun _ => True) last) →
      ∃ ledger', bench.Tells workspace w (Ledger.Step claims discards) ledger ledger' last := by
    rintro (⟨hfree, hcompleted, -⟩ | ⟨-, hinside⟩)
    · exact hcompleted.tells hfree hruns hagrees
    · exact ⟨ledger, hinside.tells rfl hruns hagrees⟩
  match fate, h with
  | none, h => exact hcompleted h
  | some .completed, h => exact hcompleted h
  | some .left, h => exact ⟨ledger, Bench.Inside.tells h rfl hruns hagrees⟩
  | some .discarded, h => exact Bench.Removed.tells h hruns hagrees (hdiscards rfl)

end Trial

/-- A test that has been claimed is claimed in the ledger. -/
theorem Bench.Claimed.tells {workspace : Workspace} {w : Place} {name : String} {boot : BootId}
    {before after : Bench} {ledger : Ledger} {claims : BootId → Prop} (discards : String → Prop)
    (h : before.Claimed workspace w name (runningName name boot) after)
    (hagrees : Agrees w before.files ledger) (hnone : ledger.namesIn .running = [])
    (hclaims : claims boot) :
    ∃ ledger', before.Tells workspace w (Ledger.Step claims discards) ledger ledger' after
      ∧ runningName name boot ∈ ledger'.namesIn .running := by
  obtain ⟨middle, files, hspared, hmoved, hroot, hafter⟩ := h
  have hmiddle : before.Tells workspace w (Ledger.Step claims discards) ledger ledger middle :=
    hspared.tells hagrees
  obtain ⟨names, hholds, hnames⟩ := hmiddle.agrees.holds .pending
  have hname := (hmoved.left names hholds).1
  obtain ⟨front, test, back, rfl, htest⟩ := Ledger.exists_test (hnames.mem_iff.mp hname)
  obtain rfl := Test.eq_of_nameIn?_pending htest
  have hrunning : Ledger.namesIn .running (front ++ ⟨name, .running boot⟩ :: back)
      = [runningName name boot] := by
    rw [Ledger.namesIn_append, Ledger.namesIn_cons_of_none rfl, List.append_eq_nil_iff] at hnone
    rw [Ledger.namesIn_append, Ledger.namesIn_cons rfl, hnone.1, hnone.2]
    rfl
  have hagrees' : Agrees w files (front ++ ⟨name, .running boot⟩ :: back) :=
    hmiddle.agrees.moved (by decide) hmoved htest rfl (by simp [hrunning])
  have hclaimed := hmiddle.trans (.stepTo hroot hagrees' (.claim hclaims front name back))
  refine ⟨_, hclaimed.trans (hafter.tells hagrees'), ?_⟩
  simp [hrunning]

/-- The results hold what they held when a test has been claimed. -/
theorem Bench.Claimed.results {workspace : Workspace} {w : Place} {name name' : String}
    {before after : Bench} (h : before.Claimed workspace w name name' after) (names : List String)
    (hholds : before.files.HoldsTests (Root.results.place w) names) :
    after.files.HoldsTests (Root.results.place w) names := by
  obtain ⟨middle, files, hspared, hmoved, -, hafter⟩ := h
  exact hafter.files .results names
    (hmoved.others .results (by decide) (by decide) names (hspared.files .results names hholds))

/-- The directory of a test that is running by the ledger stands in the running root. -/
theorem Agrees.runs {workspace : Workspace} {w : Place} {bench : Bench} {ledger : Ledger}
    {name : String} (h : Agrees w bench.files ledger)
    (hw : workspace.root.Leads bench.files bench.here w) (hname : name ∈ ledger.namesIn .running) :
    workspace.Runs w name bench ∧ bench.files.HasPlainFront (Root.running.place w ++ [name]) := by
  obtain ⟨names, hholds, hnames⟩ := h.holds .running
  have hmem := hnames.mem_iff.mpr hname
  obtain ⟨entries, node, -, -, htest⟩ := hholds.get?_dir hmem
  exact ⟨⟨hw, htest.plain, htest.short, hholds.hasDir hmem⟩, hholds.front hmem⟩

/-- The first part of a cycle, up to the boot in which it claims a test, if it claims one. -/
def cycleToClaim (settings : Settings) (machine : Machine) : Work (Option BootId) := do
  if ← isOccupied settings.workspace.running then return none
  else if ← isOccupied settings.workspace.pending then
    let _ ← settings.menu (.ofBoot true)
    return some (← machine.ask .currentBoot)
  else return none

/-- The first part of a cycle, up to the tests that it runs: those that have been begun, or one that
it claims. -/
def cycleToTests (settings : Settings) (machine : Machine) : Work (List Path) := do
  if ← isOccupied settings.workspace.running then testsIn settings.workspace.running
  else if ← isOccupied settings.workspace.pending then
    let _ ← settings.menu (.ofBoot true)
    let boot ← machine.ask .currentBoot
    return [← settings.workspace.claim boot]
  else return []

/-- The first part of a cycle, up to the choice of the operator for its first test. It gives the
directory of this test and the actions of the choice. -/
def cycleToChoice (settings : Settings) (machine : Machine) (operator : Operator) :
    Work (Option (Path × List Action)) := do
  match ← cycleToTests settings machine with
  | [] => return none
  | directory :: _ =>
    return some (directory, ← Trial.runToChoice settings machine operator directory)

namespace Bench

/-- A cycle on a bench claims a test in a boot. -/
def Claims (bench : Bench) (settings : Settings) (machine : Machine) (boot : BootId) : Prop :=
  (bench.perform (cycleToClaim settings machine)).1 = .ok (some boot)

/-- In a cycle on a bench the operator chooses some actions for the test that runs under a name. -/
def Chooses (bench : Bench) (settings : Settings) (machine : Machine) (operator : Operator)
    (name : String) (actions : List Action) : Prop :=
  IsPlain name ∧ (bench.perform (cycleToChoice settings machine operator)).1
    = .ok (some (settings.workspace.running.join name, actions))

/-- In a cycle on a bench the operator chooses to delete the test that runs under a name. -/
def Discards (bench : Bench) (settings : Settings) (machine : Machine) (operator : Operator)
    (name : String) : Prop :=
  ∃ actions, bench.Chooses settings machine operator name actions ∧ .discard ∈ actions

end Bench

/-- What a cycle reports on its runs, as it has found that tests had been begun or not. -/
def CycleResult.ofRuns (begun : Except Error Bool) (runs : List TrialRun) : CycleResult :=
  match begun with
  | .ok true => .resumed runs
  | _ => runs.head?.elim .idle .started

/-- A cycle runs its tests, one after the other, and reports on the runs. -/
theorem perform_performCycle (bench : Bench) (settings : Settings) (machine : Machine)
    (operator : Operator) :
    bench.perform (performCycle settings machine operator) = bench.perform (do
      let directories ← cycleToTests settings machine
      let runs ← Trial.runEach settings machine operator directories
      return .ofRuns (bench.perform (isOccupied settings.workspace.running)).1 runs) := by
  unfold performCycle
  simp only
  rcases hrunning : bench.perform (isOccupied settings.workspace.running) with
    ⟨failure | occupied, bench₁⟩
  · have htests : bench.perform (cycleToTests settings machine) = (.error failure, bench₁) :=
      Bench.perform_bind_error hrunning _
    rw [Bench.perform_bind_error hrunning, Bench.perform_bind_error htests]
  rw [Bench.perform_bind_ok hrunning]
  cases occupied with
  | true =>
    have htests : bench.perform (cycleToTests settings machine)
        = bench₁.perform (testsIn settings.workspace.running) := Bench.perform_bind_ok hrunning _
    exact (Bench.perform_bind_congr htests _).symm
  | false =>
    rw [if_neg (by simp)]
    have htests : bench.perform (cycleToTests settings machine) = bench₁.perform (do
        if ← isOccupied settings.workspace.pending then
          let _ ← settings.menu (.ofBoot true)
          let boot ← machine.ask .currentBoot
          return [← settings.workspace.claim boot]
        else return []) := Bench.perform_bind_ok hrunning _
    rcases hpending : bench₁.perform (isOccupied settings.workspace.pending) with
      ⟨failure | occupied, bench₂⟩
    · rw [Bench.perform_bind_error hpending] at htests ⊢
      exact (Bench.perform_bind_error htests _).symm
    rw [Bench.perform_bind_ok hpending] at htests ⊢
    cases occupied with
    | false =>
      rw [if_neg (by simp)] at htests ⊢
      rw [Bench.perform_bind_congr htests]
      simp only [pure_bind, Trial.runEach, CycleResult.ofRuns, List.head?_nil, Option.elim_none]
    | true =>
      -- What is claimed is the only test.
      rw [Bench.perform_bind_congr htests]
      simp only [if_true, bind_assoc, pure_bind, Trial.runEach, CycleResult.ofRuns, List.head?_cons,
        Option.elim_some]

/-- There are no more tests in a directory than entries. -/
theorem length_testNames_le (entries : List (String × Node)) :
    (testNames entries).length ≤ entries.length := by
  rw [testNames, List.length_mergeSort, List.length_map]
  exact List.length_filter_le _ entries

/-- The tests that are read of the running root are those that are running by the ledger: one at
most. -/
theorem Agrees.testsIn_running {workspace : Workspace} {w : Place} {bench after : Bench}
    {ledger : Ledger} {directories : List Path} (h : Agrees w bench.files ledger)
    (hw : workspace.root.Leads bench.files bench.here w)
    (hread : bench.perform (testsIn workspace.running) = (.ok directories, after)) :
    directories = [] ∨ ∃ name ∈ ledger.namesIn .running, directories = [workspace.running.join name]
    := by
  rcases testsIn_ok (r := .running) hw hread with ⟨hnil, -⟩ | ⟨entries, hentries, hdirectories⟩
  · exact .inl hnil
  obtain ⟨names, hholds, hnames⟩ := h.holds .running
  obtain ⟨rfl, -⟩ := hholds.entries hentries
  have hlength : (testNames entries).length ≤ 1 := by
    refine Nat.le_trans (length_testNames_le entries) ?_
    have hsingle := h.single
    rwa [← hnames.length_eq, Named.names, List.length_map] at hsingle
  cases htests : testNames entries with
  | nil =>
    rw [htests] at hdirectories
    exact .inl hdirectories
  | cons name rest =>
    rw [htests] at hdirectories hlength
    obtain rfl : rest = [] := List.length_eq_zero_iff.mp (by simpa using hlength)
    have hname : name ∈ Named.names entries := mem_testNames (by rw [htests]; simp)
    exact .inr ⟨name, hnames.mem_iff.mp hname, hdirectories⟩

section Cycle

variable {settings : Settings} {machine : Machine} {operator : Operator} {w : Place}
  {bench : Bench} {ledger : Ledger}

/-- Up to its tests a cycle claims a test at most, and the results stay as they are. It runs the
test that is running by the ledger, if there is one. -/
theorem cycleToTests_tells (discards : String → Prop) (hmachine : machine.WritesOnlyLogs)
    (hw : settings.workspace.root.Leads bench.files bench.here w)
    (hagrees : Agrees w bench.files ledger) :
    ∃ ledger' result after, bench.perform (cycleToTests settings machine) = (result, after)
      ∧ bench.Tells settings.workspace w (Ledger.Step (bench.Claims settings machine) discards)
        ledger ledger' after
      ∧ (∀ names, bench.files.HoldsTests (Root.results.place w) names →
        after.files.HoldsTests (Root.results.place w) names)
      ∧ ((∀ directories, result = .ok directories → directories = [])
        ∨ ∃ name ∈ ledger'.namesIn .running,
          result = .ok [settings.workspace.running.join name]) := by
  -- What only reads is not told.
  have hreads : ∀ {between after : Bench}, bench.Spared settings.workspace w between →
      Bench.Unmoved between after → bench.Spared settings.workspace w after :=
    fun hspared hread => hspared.trans (Bench.Spares.of_unmoved _ _ hread hspared.root)
  have hnothing : ∀ {work : Work (List Path)} {result after}, bench.perform work = (result, after) →
      bench.Spared settings.workspace w after →
      (∀ directories, result = .ok directories → directories = []) →
      ∃ ledger' result after, bench.perform work = (result, after)
        ∧ bench.Tells settings.workspace w (Ledger.Step (bench.Claims settings machine) discards)
          ledger ledger' after
        ∧ (∀ names, bench.files.HoldsTests (Root.results.place w) names →
          after.files.HoldsTests (Root.results.place w) names)
        ∧ ((∀ directories, result = .ok directories → directories = [])
          ∨ ∃ name ∈ ledger'.namesIn .running,
            result = .ok [settings.workspace.running.join name]) :=
    fun hperform hspared hnone => ⟨ledger, _, _, hperform, hspared.tells hagrees,
      hspared.files .results, .inl hnone⟩
  have hsame : bench.Spared settings.workspace w bench :=
    refl_of (Bench.Spares settings.workspace w) bench hw
  have hread₁ := isOccupied_keeps (R := Bench.Unmoved) settings.workspace.running bench
  rcases hrunning : bench.perform (isOccupied settings.workspace.running) with
    ⟨failure | occupied, bench₁⟩
  all_goals rw [hrunning] at hread₁
  · exact hnothing (Bench.perform_bind_error hrunning _) (hreads hsame hread₁) (by simp)
  have hspared₁ := hreads hsame hread₁
  cases occupied with
  | true =>
    have htests : bench.perform (cycleToTests settings machine)
        = bench₁.perform (testsIn settings.workspace.running) := Bench.perform_bind_ok hrunning _
    have hread₂ := testsIn_keeps (R := Bench.Unmoved) settings.workspace.running bench₁
    rcases hperform : bench₁.perform (testsIn settings.workspace.running) with ⟨result, bench₂⟩
    rw [hperform] at hread₂
    have hspared₂ := hreads hspared₁ hread₂
    refine ⟨ledger, result, bench₂, htests.trans hperform, hspared₂.tells hagrees,
      hspared₂.files .results, ?_⟩
    cases result with
    | error failure => exact .inl (by simp)
    | ok directories =>
      rcases (hagrees.spares hspared₁.files).testsIn_running hspared₁.root hperform with
        rfl | ⟨name, hname, rfl⟩
      · exact .inl fun directories hok => (Except.ok.inj hok).symm
      · exact .inr ⟨name, hname, rfl⟩
  | false =>
    have hnone : ledger.namesIn .running = [] := by
      obtain ⟨names, hholds, hnames⟩ := hagrees.holds .running
      have hoccupied := isOccupied_ok (r := .running) hw hrunning
      rw [hholds.namesAt_eq] at hoccupied
      obtain rfl : names = [] := by simpa using hoccupied
      exact List.nil_perm.mp hnames
    have htests : bench.perform (cycleToTests settings machine) = bench₁.perform (do
        if ← isOccupied settings.workspace.pending then
          let _ ← settings.menu (.ofBoot true)
          let boot ← machine.ask .currentBoot
          return [← settings.workspace.claim boot]
        else return []) := Bench.perform_bind_ok hrunning _
    have hclaims : bench.perform (cycleToClaim settings machine) = bench₁.perform (do
        if ← isOccupied settings.workspace.pending then
          let _ ← settings.menu (.ofBoot true)
          return some (← machine.ask .currentBoot)
        else return none) := Bench.perform_bind_ok hrunning _
    have hread₂ := isOccupied_keeps (R := Bench.Unmoved) settings.workspace.pending bench₁
    rcases hpending : bench₁.perform (isOccupied settings.workspace.pending) with
      ⟨failure | occupied, bench₂⟩
    all_goals rw [hpending] at hread₂
    · exact hnothing (htests.trans (Bench.perform_bind_error hpending _)) (hreads hspared₁ hread₂)
        (by simp)
    have hspared₂ := hreads hspared₁ hread₂
    rw [Bench.perform_bind_ok hpending] at htests hclaims
    cases occupied with
    | false => exact hnothing htests hspared₂ fun directories hok => (Except.ok.inj hok).symm
    | true =>
      rw [if_pos rfl] at htests hclaims
      have hread₃ := settings.menu_unmoved (.ofBoot true) bench₂
      rcases hmenu : bench₂.perform (settings.menu (.ofBoot true)) with ⟨failure | menu, bench₃⟩
      all_goals rw [hmenu] at hread₃
      · exact hnothing (htests.trans (Bench.perform_bind_error hmenu _)) (hreads hspared₂ hread₃)
          (by simp)
      have hspared₃ := hreads hspared₂ hread₃
      rw [Bench.perform_bind_ok hmenu] at htests hclaims
      have hquiet : Bench.Quiet (fun _ => True) bench₃
          (bench₃.perform (machine.ask .currentBoot)).2 :=
        hmachine.ask_quiet rfl trivial trivial bench₃
      rcases hask : bench₃.perform (machine.ask .currentBoot) with ⟨failure | boot, bench₄⟩
      all_goals
        rw [hask] at hquiet
        have hspared₄ := hspared₃.trans (Bench.Spares.of_quiet _ _ hquiet hspared₃.root)
      · exact hnothing (htests.trans (Bench.perform_bind_error hask _)) hspared₄ (by simp)
      rw [Bench.perform_bind_ok hask] at htests hclaims
      have hclaimed : bench.Claims settings machine boot := congrArg Prod.fst hclaims
      obtain ⟨waiting, hwaiting, -⟩ := (hagrees.spares hspared₄.files).holds .pending
      obtain ⟨held, hheld, hnames⟩ := (hagrees.spares hspared₄.files).holds .running
      obtain rfl : held = [] := List.perm_nil.mp (hnone ▸ hnames)
      rcases Workspace.claim_cases hspared₄.root hwaiting hheld boot with
        ⟨failure, bench₅, hclaim, hspared₅⟩ | ⟨name, result, bench₅, hclaim, hmoved, hdirectory⟩
      · exact hnothing (htests.trans (Bench.perform_bind_error hclaim _))
          (hspared₄.trans hspared₅) (by simp)
      obtain ⟨ledger', htells, hmem⟩ := hmoved.tells discards (hagrees.spares hspared₄.files) hnone
        hclaimed
      have htold := (hspared₄.tells hagrees).trans htells
      have hresults : ∀ names, bench.files.HoldsTests (Root.results.place w) names →
          bench₅.files.HoldsTests (Root.results.place w) names := fun names hholds =>
        hmoved.results names (hspared₄.files .results names hholds)
      cases result with
      | error failure =>
        exact ⟨ledger', _, bench₅, htests.trans (Bench.perform_bind_error hclaim _), htold,
          hresults, .inl (by simp)⟩
      | ok directory =>
        obtain rfl := hdirectory directory rfl
        exact ⟨ledger', _, bench₅, htests.trans (Bench.perform_bind_ok hclaim _), htold,
          hresults, .inr ⟨_, hmem, rfl⟩⟩

end Cycle

/-- A cycle that comes to no test ends there. -/
theorem performCycle_none {bench after : Bench} {settings : Settings} {machine : Machine}
    (operator : Operator) {result : Except Error (List Path)}
    (htests : bench.perform (cycleToTests settings machine) = (result, after))
    (hnone : ∀ directories, result = .ok directories → directories = []) :
    (bench.perform (performCycle settings machine operator)).2 = after := by
  rw [perform_performCycle]
  cases result with
  | error failure => rw [Bench.perform_bind_error htests]
  | ok directories =>
    obtain rfl := hnone directories rfl
    rw [Bench.perform_bind_ok htests]
    rfl

/-- A cycle that comes to one test runs it, and fails if the run fails. -/
theorem performCycle_single {bench base last : Bench} {settings : Settings} {machine : Machine}
    {operator : Operator} {directory : Path} {result : Except Error TrialRun}
    (htests : bench.perform (cycleToTests settings machine) = (.ok [directory], base))
    (hrun : base.perform (Trial.runAt settings machine operator directory) = (result, last)) :
    ∃ outcome, bench.perform (performCycle settings machine operator) = (outcome, last)
      ∧ ∀ failure, result = .error failure → outcome = .error failure := by
  rw [perform_performCycle, Bench.perform_bind_ok htests]
  simp only [Trial.runEach, bind_assoc, pure_bind]
  cases result with
  | error failure =>
    rw [Bench.perform_bind_error hrun]
    exact ⟨_, rfl, fun _ h => by cases h; rfl⟩
  | ok run =>
    rw [Bench.perform_bind_ok hrun]
    exact ⟨_, rfl, fun _ h => by cases h⟩

/-- A cycle keeps what its first part keeps, and the run of the test that it comes to. -/
theorem performCycle_keeps {R : Bench → Bench → Prop} [IsPreorder Bench R] {settings : Settings}
    {machine : Machine} {operator : Operator} {w : Place} {bench : Bench} {ledger : Ledger}
    (hmachine : machine.WritesOnlyLogs)
    (hw : settings.workspace.root.Leads bench.files bench.here w)
    (hagrees : Agrees w bench.files ledger)
    (hbefore : R bench (bench.perform (cycleToTests settings machine)).2)
    (hrun : ∀ name base, bench.perform (cycleToTests settings machine)
        = (.ok [settings.workspace.running.join name], base) →
      settings.workspace.Runs w name base →
      base.files.HasPlainFront (Root.running.place w ++ [name]) →
      R base (base.perform
        (Trial.runAt settings machine operator (settings.workspace.running.join name))).2) :
    R bench (bench.perform (performCycle settings machine operator)).2 := by
  obtain ⟨middle, result, base, htests, htold, -, hdirectories⟩ :=
    cycleToTests_tells (fun _ => False) hmachine hw hagrees
  rw [htests] at hbefore
  rcases hdirectories with hnone | ⟨name, hname, rfl⟩
  · rwa [performCycle_none operator htests hnone]
  · obtain ⟨hruns, hfront⟩ := htold.agrees.runs htold.root hname
    have hlast := hrun name base htests hruns hfront
    rcases hperform : base.perform (Trial.runAt settings machine operator
      (settings.workspace.running.join name)) with ⟨result, last⟩
    rw [hperform] at hlast
    obtain ⟨outcome, hcycle, -⟩ := performCycle_single htests hperform
    rw [hcycle]
    exact trans_of R hbefore hlast

/-- What is chosen in the run of the test that a cycle comes to is chosen in the cycle. -/
theorem cycleToChoice_of {bench base : Bench} {settings : Settings} {machine : Machine}
    {operator : Operator} {name : String} {actions : List Action} (hname : IsPlain name)
    (htests : bench.perform (cycleToTests settings machine)
      = (.ok [settings.workspace.running.join name], base))
    (hactions : (base.perform (Trial.runToChoice settings machine operator
      (settings.workspace.running.join name))).1 = .ok actions) :
    bench.Chooses settings machine operator name actions := by
  refine ⟨hname, ?_⟩
  rw [cycleToChoice, Bench.perform_bind_ok htests]
  rcases hperform : base.perform (Trial.runToChoice settings machine operator
    (settings.workspace.running.join name)) with ⟨result, chosen⟩
  rw [hperform] at hactions
  obtain rfl : result = .ok actions := hactions
  simp only
  rw [Bench.perform_bind_ok hperform]
  rfl

/-- What a cycle does is told by the ledger: a test is claimed in the boot that the machine names,
and deleted if the operator chooses so. -/
theorem performCycle_tells {settings : Settings} {machine : Machine} {operator : Operator} {w : Place}
    {bench : Bench} {ledger : Ledger} (hmachine : machine.WritesOnlyLogs)
    (hoperator : operator.OnlyChooses)
    (hw : settings.workspace.root.Leads bench.files bench.here w)
    (hagrees : Agrees w bench.files ledger) :
    ∃ ledger', bench.Tells settings.workspace w
      (Ledger.Step (bench.Claims settings machine) (bench.Discards settings machine operator))
      ledger ledger' (bench.perform (performCycle settings machine operator)).2 := by
  obtain ⟨middle, result, base, htests, hbefore, -, hdirectories⟩ :=
    cycleToTests_tells (bench.Discards settings machine operator) hmachine hw hagrees
  rcases hdirectories with hnone | ⟨name, hname, rfl⟩
  · rw [performCycle_none operator htests hnone]
    exact ⟨middle, hbefore⟩
  · obtain ⟨hruns, hfront⟩ := hbefore.agrees.runs hbefore.root hname
    obtain ⟨header, scenario, fate, result, last, hrun, hended, hdiscarded, -⟩ :=
      Trial.runAt_ended hmachine hoperator hruns hfront
    obtain ⟨outcome, hcycle, -⟩ := performCycle_single htests hrun
    have hdiscards : fate = some .discarded → bench.Discards settings machine operator name := by
      intro hfate
      obtain ⟨actions, hactions, hmem⟩ := hdiscarded hfate
      exact ⟨actions, cycleToChoice_of hruns.plain htests hactions, hmem⟩
    obtain ⟨ledger', hafter⟩ := Trial.Ended.tells hended hruns hbefore.agrees hdiscards
    rw [hcycle]
    exact ⟨ledger', hbefore.trans hafter⟩

end BootTrial
