import BootTrial.Proofs.Deeds

/-!
# What becomes of a test

While the trial of a test is open nothing but the directory of the test changes, and the scenario
file there holds the scenario with the results that have been written (`Trial.IsOpen`). The first
deed that decides about the test ends this: `Trial.Reached` says for each fate what the files are
like then. A closed trial is not changed any more, and neither are the files (`Action.act_closed`).

`Trial.IsOpen.act_run` says this of one action, and `Trial.IsOpen.act_runAll` of any actions,
whichever they are and wherever they fail.
-/

namespace BootTrial

namespace Bench

/-- Between two benches the directory at a place has been taken down. -/
def Removed (d : Place) (before after : Bench) : Prop :=
  ∃ last, Inside d (fun _ => False) (fun _ => True) before last
    ∧ Quiet (fun _ => True) (last.stepTo (before.files.erase d)) after

/-- Between two benches the directory of a test has gone from the running root to the results. -/
def Completed (w : Place) (name : String) (before after : Bench) : Prop :=
  ∃ last ready own,
    Inside (Root.running.place w ++ [name]) (· = prefixName) (fun _ => True) before last
      ∧ ResultsMade w last ready
      ∧ ready.files.get? (Root.running.place w ++ [name]) = some (.dir own)
      ∧ ready.files.HasDir (Root.results.place w)
      ∧ Quiet (fun _ => True) (ready.stepTo
        ((ready.files.erase (Root.running.place w ++ [name])).put (.dir own)
          (Root.results.place w ++ [name]))) after

variable {d w : Place} {name : String} {before middle after : Bench}

/-- A directory that has been taken down stays so while the files do not change. -/
theorem Removed.quiet (h : Removed d before middle) (hquiet : Quiet (fun _ => True) middle after) :
    Removed d before after := by
  obtain ⟨last, hinside, hlast⟩ := h
  exact ⟨last, hinside, hlast.trans hquiet⟩

/-- A test that has been completed stays so while the files do not change. -/
theorem Completed.quiet (h : Completed w name before middle)
    (hquiet : Quiet (fun _ => True) middle after) : Completed w name before after := by
  obtain ⟨last, ready, own, hinside, hmade, hown, hresults, hready⟩ := h
  exact ⟨last, ready, own, hinside, hmade, hown, hresults, hready.trans hquiet⟩

/-- What is erased with a directory does not depend on what has changed in it before. -/
theorem Inside.erase {keep : String → Prop} {kind : Event → Prop}
    (h : Inside (d ++ [name]) keep kind before after) :
    after.files.erase (d ++ [name]) = before.files.erase (d ++ [name]) := by
  obtain ⟨entries, entries', hentries, hfiles, -⟩ := h.files
  rw [hfiles, Node.erase_put_snoc (Node.hasDir_of_get?_snoc hentries)]

end Bench

/-- Changes inside the directory of a test leave it as free for another place as it was. -/
theorem Node.Inside.isFree {d e : Place} {keep : String → Prop} {before after : Node}
    (h : Node.Inside d keep before after) (hapart : Place.Apart d e) (name : String) :
    after.IsFree e name ↔ before.IsFree e name := by
  unfold IsFree
  rw [h.get?_of_apart hapart, h.get?_of_apart (hapart.append_right [name])]

namespace Trial

/-- A trial is open, and since the bench `base` nothing but the directory of its test has changed.
The scenario with the results written so far stands there. -/
structure IsOpen (workspace : Workspace) (w : Place) (name : String) (base : Bench)
    (header : List String) (scenario : Scenario) (trial : Trial) (bench : Bench) : Prop where
  /-- The test was in the running root. -/
  runs : workspace.Runs w name base
  /-- Its path is not refused. -/
  accepted : (workspace.running.join name).refusal? = none
  /-- The trial is of this test. -/
  directory : trial.directory = workspace.running.join name
  /-- It will go to the results of the workspace. -/
  results : trial.results = workspace.results
  /-- The trial is open. -/
  isOpen : trial.isClosed = false
  /-- Nothing but the directory has changed. -/
  inside : base.Inside (Root.running.place w ++ [name]) (· = prefixName) (fun _ => True) bench
  /-- The scenario stands in its file. -/
  stands : scenario.StandsIn header (Root.running.place w ++ [name]) bench.files
  /-- The header of the file is remembered. -/
  known : bench.headers.get? (Root.running.place w ++ [name] ++ [scenarioName]) = some header

/-- How far a test has come since the bench `base`: its trial is open as long as nothing has been
decided; a decision closes it, unless the results do not take the test. -/
def Reached (workspace : Workspace) (w : Place) (name : String) (base : Bench)
    (header : List String) (scenario : Scenario) : Option Fate → Trial → Bench → Prop
  | none, trial, bench => IsOpen workspace w name base header scenario trial bench
  | some .left, trial, bench => trial.isClosed = true
      ∧ base.Inside (Root.running.place w ++ [name]) (· = prefixName) (fun _ => True) bench
  | some .discarded, trial, bench => trial.isClosed = true
      ∧ base.Removed (Root.running.place w ++ [name]) bench
  | some .completed, trial, bench =>
    (trial.isClosed = true ∧ base.files.IsFree (Root.results.place w) name
      ∧ base.Completed w name bench
      ∧ scenario.StandsIn header (Root.results.place w ++ [name]) bench.files)
    ∨ (¬ base.files.IsFree (Root.results.place w) name
      ∧ IsOpen workspace w name base header scenario trial bench)

variable {workspace : Workspace} {w : Place} {name : String} {base bench after : Bench}
  {header : List String} {scenario : Scenario} {trial : Trial}

namespace IsOpen

variable (h : IsOpen workspace w name base header scenario trial bench)
include h

/-- The test is in the running root still. -/
theorem runs_now : workspace.Runs w name bench := h.runs.inside h.inside

/-- The path leads to the directory of the test. -/
theorem leads : trial.directory.Leads bench.files bench.here (Root.running.place w ++ [name]) := by
  rw [h.directory]
  exact h.runs_now.leads

/-- Nothing is decided by what does not change the files. -/
theorem quiet (hquiet : Bench.Quiet (fun _ => True) bench after) :
    IsOpen workspace w name base header scenario trial after := by
  refine ⟨h.runs, h.accepted, h.directory, h.results, h.isOpen, ?_, ?_, hquiet.headers _ _ h.known⟩
  · exact h.inside.trans (Bench.StaysIn.of_quiet _ _ hquiet h.leads)
  · exact h.stands.of_get? (by rw [hquiet.files])

/-- What the trial has in mind for the scenario is of no account for the files. -/
theorem withScenario (other : Scenario) :
    IsOpen workspace w name base header scenario { trial with scenario := other } bench :=
  ⟨h.runs, h.accepted, h.directory, h.results, h.isOpen, h.inside, h.stands, h.known⟩

/-- The directory of the test is there. -/
theorem hasDir : bench.hasDir trial.directory = true := by
  obtain ⟨running, hrunning⟩ := h.runs_now.dir.above
  obtain ⟨own, hown⟩ := h.runs_now.dir
  have hlead := Workspace.path_leads (r := .running) h.runs_now.root ⟨running, hrunning⟩
  have hlookup : running.lookup name = some (.dir own) := by rw [← Node.get?_snoc hrunning, hown]
  have hfault : workspace.running.joinFault? name = none :=
    Path.joinFault?_eq_none.mpr ⟨h.accepted, h.runs.short⟩
  have hnode : bench.nodeAt (workspace.running.join name) = .ok (.dir own) := by
    rw [Bench.nodeAt, Path.node_join (p := workspace.running) h.runs.plain hlead.passThrough
      hrunning, hfault, hlookup]
  rw [h.directory, Bench.hasDir, hnode]
  rfl

end IsOpen

/-- Closing a trial that is closed. -/
theorem act_close_closed (h : trial.isClosed = true) (bench : Bench) :
    bench.act trial close = (.ok none, trial, bench) := by
  unfold close
  rw [Bench.act_bind_ok (Bench.act_getTrial bench trial), if_pos h]
  rfl

/-- Closing a trial that is open and whose directory is there. -/
theorem act_close_open (h : trial.isClosed = false) (hdir : bench.hasDir trial.directory = true) :
    bench.act trial close
      = match bench.perform (moveToResults trial.directory trial.results) with
        | (.ok goal, after) => (.ok (some goal), { trial with isClosed := true }, after)
        | (.error failure, after) => (.error failure, trial, after) := by
  unfold close
  rw [Bench.act_bind_ok (Bench.act_getTrial bench trial), if_neg (by simp [h]),
    Bench.act_bind_ok (Bench.act_getBench bench trial), if_neg (by simp [hdir]), Bench.act_bind,
    Bench.act_lift]
  rcases bench.perform (moveToResults trial.directory trial.results) with ⟨_ | _, _⟩ <;> rfl

/-- Closing an open trial: its test goes to the results with its scenario file as it is, if they are
free for it, and otherwise nothing happens. -/
theorem IsOpen.act_close (h : IsOpen workspace w name base header scenario trial bench) :
    (base.files.IsFree (Root.results.place w) name ∧ ∃ after,
        bench.act trial close
          = (.ok (some (workspace.results.join name)), { trial with isClosed := true }, after)
        ∧ base.Completed w name after
        ∧ after.files.get? (Root.results.place w ++ [name] ++ [scenarioName])
          = bench.files.get? (Root.running.place w ++ [name] ++ [scenarioName]))
      ∨ (¬ base.files.IsFree (Root.results.place w) name ∧ ∃ failure,
        bench.act trial close = (.error failure, trial, bench)) := by
  have hapart : Place.Apart (Root.running.place w ++ [name]) (Root.results.place w) :=
    ((Root.place_apart (by decide) w).append_right [name]).symm
  have hfree := h.inside.files.isFree hapart name
  rw [act_close_open h.isOpen h.hasDir, h.directory, h.results, ← hfree]
  obtain ⟨ready, hmade, ⟨failure, hperform, hnot⟩ | ⟨own, hown, hresults, hfree', hperform⟩⟩ :=
    moveToResults_cases h.runs_now
  · refine .inr ⟨hnot h.accepted, failure, ?_⟩
    -- A results root that had been made would be free.
    rcases hmade with rfl | ⟨hmissing, -⟩
    · rw [hperform]
    · exact absurd (Node.isFree_missing hmissing name) (hnot h.accepted)
  · refine .inl ⟨hfree', _, by rw [hperform], ?_, ?_⟩
    · exact ⟨bench, ready, own, h.inside, hmade, hown, hresults, refl_of (Bench.Quiet _) _⟩
    · obtain ⟨results, hresults⟩ := hresults
      obtain ⟨running, hrunning⟩ := Node.hasDir_of_get?_snoc hown
      have hroots : Place.Apart (Root.running.place w) (Root.results.place w) :=
        Root.place_apart (by decide) w
      have hgoal : ((ready.files.erase (Root.running.place w ++ [name])).put (.dir own)
          (Root.results.place w ++ [name])).get? (Root.results.place w ++ [name])
          = some (.dir own) := by
        rw [Node.get?_snoc (Node.get?_move_goal hroots hresults (.dir own))]
        exact Named.lookup_set_self name (.dir own) results
      have hfile : ready.files.get? (Root.running.place w ++ [name] ++ [scenarioName])
          = bench.files.get? (Root.running.place w ++ [name] ++ [scenarioName]) := by
        rcases hmade with rfl | ⟨-, rfl⟩
        · rfl
        · exact Node.get?_put_of_apart ((hroots.symm.append_right [name]).append_right _) _ _
      rw [← hfile, Node.get?_snoc hown]
      exact Node.get?_snoc hgoal scenarioName

end Trial

/-- The header that is remembered for a scenario file is taken from memory. -/
theorem ScenarioTable.headerAt_known {p : Path} {d : Place} {bench after : Bench}
    {known header : List String} (hp : p.Leads bench.files bench.here d) {node : Node}
    (hfile : bench.files.get? (d ++ [scenarioName]) = some node)
    (hknown : bench.headers.get? (d ++ [scenarioName]) = some known)
    (h : bench.perform (headerAt (p.join scenarioName)) = (.ok header, after)) :
    header = known ∧ after = bench := by
  obtain ⟨entries, hentries⟩ := hp.dir
  rw [Node.get?_snoc hentries] at hfile
  obtain ⟨place, middle, hplace, h⟩ := Bench.perform_bind_inv h
  obtain ⟨hat, rfl⟩ := Prod.mk.inj (Bench.perform_reportedAs_inv hplace)
  have hplace : place = d ++ [scenarioName] := Path.place_join_ok scenarioName_isPlain
    hp.passThrough hentries hfile hat
  rw [Bench.perform_bind_ok (Bench.perform_get bench), hplace, hknown] at h
  cases h
  exact ⟨rfl, rfl⟩

namespace Trial

variable {workspace : Workspace} {w : Place} {name : String} {base bench after : Bench}
  {header : List String} {scenario : Scenario} {trial : Trial}

/-- Writing a result into the scenario of an open trial is to have it in mind, to look for the header
of the file and to write the record under it. -/
theorem IsOpen.act_writeResult_eq (h : IsOpen workspace w name base header scenario trial bench)
    (column result : String) :
    bench.act trial (Action.runWriteResult column result)
      = match bench.perform (ScenarioTable.headerAt
          ((workspace.running.join name).join scenarioName)) with
        | (.ok found, after) =>
          ((after.perform ((trial.scenario.set column result).write
              ((workspace.running.join name).join scenarioName) found)).1,
            { trial with scenario := trial.scenario.set column result },
            (after.perform ((trial.scenario.set column result).write
              ((workspace.running.join name).join scenarioName) found)).2)
        | (.error failure, after) =>
          (.error failure, { trial with scenario := trial.scenario.set column result }, after) := by
  have hopen : trial.requireOpen = .ok () := by simp [requireOpen, h.isOpen]
  have hfile : trial.scenarioFile
      = (workspace.running.join name).join scenarioName := by rw [scenarioFile, h.directory]
  unfold Action.runWriteResult
  rw [Bench.act_bind_ok (Bench.act_getTrial bench trial)]
  simp only [hopen]
  rw [Bench.act_bind, Bench.act_lift, Bench.perform_ofExcept]
  simp only
  rw [Bench.act_bind_ok (Bench.act_modifyTrial bench trial _), hfile, Bench.act_bind,
    Bench.act_lift]
  rcases bench.perform (ScenarioTable.headerAt
    ((workspace.running.join name).join scenarioName)) with ⟨failure | found, after⟩ <;> rfl

/-- Writing a result into the scenario of an open trial is to write the record under the header of
the file, if this can be looked up. -/
theorem IsOpen.writeResult_steps (h : IsOpen workspace w name base header scenario trial bench)
    (column result : String) :
    (∃ failure after, bench.act trial (Action.runWriteResult column result)
          = (.error failure, { trial with scenario := trial.scenario.set column result }, after)
        ∧ bench.Unmoved after)
      ∨ bench.act trial (Action.runWriteResult column result)
        = ((bench.perform ((trial.scenario.set column result).write
              ((workspace.running.join name).join scenarioName) header)).1,
            { trial with scenario := trial.scenario.set column result },
            (bench.perform ((trial.scenario.set column result).write
              ((workspace.running.join name).join scenarioName) header)).2) := by
  rw [h.act_writeResult_eq column result]
  obtain ⟨content, runnable, hcontent, -⟩ := h.stands.file
  rcases hheader : bench.perform (ScenarioTable.headerAt
    ((workspace.running.join name).join scenarioName)) with ⟨failure | found, after⟩
  · have hunmoved := ScenarioTable.headerAt_unmoved
      ((workspace.running.join name).join scenarioName) bench
    rw [hheader] at hunmoved
    exact .inl ⟨failure, after, rfl, hunmoved⟩
  · obtain ⟨rfl, rfl⟩ :=
      ScenarioTable.headerAt_known h.runs_now.leads hcontent h.known hheader
    exact .inr rfl

/-- Writing a result into the scenario of an open trial: the record that the trial has in mind is
what its file holds afterwards; or the action has failed, and the file is as it was. In either case
the trial has the result in mind. -/
theorem IsOpen.writeResult_cases (h : IsOpen workspace w name base header scenario trial bench)
    (hnodup : trial.scenario.names.Nodup) (column result : String) :
    (∃ failure after, bench.act trial (Action.runWriteResult column result)
          = (.error failure, { trial with scenario := trial.scenario.set column result }, after)
        ∧ IsOpen workspace w name base header scenario
          { trial with scenario := trial.scenario.set column result } after
        ∧ after.files.get? (Root.running.place w ++ [name] ++ [scenarioName])
          = bench.files.get? (Root.running.place w ++ [name] ++ [scenarioName]))
      ∨ ∃ after, bench.act trial (Action.runWriteResult column result)
          = (.ok (), { trial with scenario := trial.scenario.set column result }, after)
        ∧ IsOpen workspace w name base header (trial.scenario.set column result)
          { trial with scenario := trial.scenario.set column result } after
        ∧ (trial.scenario.set column result).names = header
        ∧ (trial.scenario.set column result).IsIn (Root.running.place w ++ [name]) after.files := by
  have hset := h.withScenario (trial.scenario.set column result)
  rcases h.writeResult_steps column result with ⟨failure, after, hact, hunmoved⟩ | hact
  · exact .inl ⟨failure, after, hact, hset.quiet (.of_unmoved hunmoved), by rw [hunmoved.files]⟩
  · rw [hact]
    have hleads := h.runs_now.leads
    have hstays : Keeps (Bench.StaysIn (workspace.running.join name)
        (Root.running.place w ++ [name]) (· = prefixName) fun _ => True)
        ((trial.scenario.set column result).write ((workspace.running.join name).join scenarioName)
          header) :=
      Scenario.write_staysIn h.runs.plain (by decide) (by decide) trivial _ _
    have hinside := hstays bench hleads
    rcases Scenario.write_cases h.runs.plain hleads header (trial.scenario.set column result) with
      ⟨failure, last, hwrite, hheaders, hdraft⟩ | ⟨last, runnable, hwrite, hnames, hwritten, hheaders⟩
    · rw [hwrite] at hinside ⊢
      have hfile := hdraft.get?_kept Scenario.scenarioName_isNoDraft
      exact .inl ⟨failure, last, rfl, ⟨h.runs, h.accepted, h.directory, h.results, h.isOpen,
        h.inside.trans hinside, h.stands.of_get? hfile, by rw [hheaders]; exact h.known⟩, hfile⟩
    · rw [hwrite] at hinside ⊢
      have hin : (trial.scenario.set column result).IsIn (Root.running.place w ++ [name])
          last.files := ⟨runnable, by rw [hwritten, hnames]⟩
      have hstands := h.stands.written (Named.nodup_names_set column result hnodup) hnames hwritten
      refine .inr ⟨last, rfl, ⟨h.runs, h.accepted, h.directory, h.results, h.isOpen,
        h.inside.trans hinside, hstands, ?_⟩, hnames, hin⟩
      rw [hheaders]
      exact HeaderCache.get?_insert_self _ _ _

/-- Writing a result into the scenario of an open trial that has in mind what its file holds: it
stands there afterwards, as it has been written; or the scenario stands there that stood there
before, and the action has failed. -/
theorem IsOpen.act_writeResult (h : IsOpen workspace w name base header scenario trial bench)
    (hsame : trial.scenario = scenario) (column result : String) :
    (∃ failure trial' after,
        bench.act trial (Action.runWriteResult column result) = (.error failure, trial', after)
        ∧ IsOpen workspace w name base header scenario trial' after)
      ∨ ∃ trial' after,
        bench.act trial (Action.runWriteResult column result) = (.ok (), trial', after)
        ∧ IsOpen workspace w name base header (scenario.set column result) trial' after
        ∧ trial'.scenario = scenario.set column result
        ∧ (scenario.set column result).IsIn (Root.running.place w ++ [name]) after.files := by
  subst hsame
  rcases h.writeResult_cases h.stands.nodup column result with
    ⟨failure, after, hact, hopen, -⟩ | ⟨after, hact, hopen, -, hin⟩
  · exact .inl ⟨failure, _, after, hact, hopen⟩
  · exact .inr ⟨_, after, hact, hopen, rfl, hin⟩

/-- Deleting the test of an open trial: all that its directory holds goes, and then the directory. -/
theorem IsOpen.discard_steps (h : IsOpen workspace w name base header scenario trial bench) :
    ∃ own last,
      bench.perform (FileWork.removeEach (Root.running.place w ++ [name]) (Node.placesOf own))
          = (.ok (), last)
        ∧ bench.Inside (Root.running.place w ++ [name]) (fun _ => False) (· = .changed) last
        ∧ bench.act trial Action.runDiscard = (.ok (), { trial with isClosed := true },
          last.stepTo (bench.files.erase (Root.running.place w ++ [name]))) := by
  have hopen : trial.requireOpen = .ok () := by simp [requireOpen, h.isOpen]
  have hroot := Workspace.path_leads (r := .running) h.runs_now.root h.runs_now.dir.above
  obtain ⟨own, last, heach, hremove, hinside⟩ := FileWork.perform_removeTree_join h.runs.plain hroot
    (Path.joinFault?_eq_none.mpr ⟨h.accepted, h.runs.short⟩) h.runs_now.dir
  refine ⟨own, last, heach, hinside, ?_⟩
  unfold Action.runDiscard
  rw [Bench.act_bind_ok (Bench.act_getTrial bench trial)]
  simp only [hopen]
  rw [Bench.act_bind, Bench.act_lift, Bench.perform_ofExcept]
  simp only
  have hremove' : bench.perform (FileWork.removeTree trial.directory) = (.ok (),
      last.stepTo (bench.files.erase (Root.running.place w ++ [name]))) := by
    rw [h.directory]
    exact hremove
  rw [Bench.act_bind, Bench.act_lift, Bench.perform_reportedAs, hremove']
  rfl

/-- Deleting the test of an open trial. -/
theorem IsOpen.act_discard (h : IsOpen workspace w name base header scenario trial bench) :
    ∃ after, bench.act trial Action.runDiscard = (.ok (), { trial with isClosed := true }, after)
      ∧ base.Removed (Root.running.place w ++ [name]) after := by
  obtain ⟨own, last, -, hinside, hact⟩ := h.discard_steps
  refine ⟨last.stepTo (bench.files.erase (Root.running.place w ++ [name])), hact, last, ?_, ?_⟩
  · exact (h.inside.mono (fun _ hfalse => hfalse.elim) fun _ _ => trivial).trans
      (hinside.mono (fun _ hfalse => hfalse) fun _ _ => trivial)
  · rw [h.inside.erase]
    exact refl_of (Bench.Quiet _) _

/-- Restarting in the course of an open trial: the test goes to the results with its scenario file as
it is and the trial is closed; or the restart has failed, since the disk could not be flushed or the
results did not take the test, and neither the trial nor the files have changed. -/
theorem IsOpen.reboot_cases {machine : Machine} (hmachine : machine.WritesOnlyLogs)
    (h : IsOpen workspace w name base header scenario trial bench) :
    (∃ failure after, bench.act trial (Action.runReboot machine) = (.error failure, trial, after)
        ∧ Bench.Quiet (fun _ => True) bench after
        ∧ ((bench.perform (machine.ask .sync)).1.isOk = true →
          ¬ base.files.IsFree (Root.results.place w) name))
      ∨ ∃ outcome after, bench.act trial (Action.runReboot machine)
          = (outcome, { trial with isClosed := true }, after)
        ∧ (bench.perform (machine.ask .sync)).1.isOk = true
        ∧ base.files.IsFree (Root.results.place w) name ∧ base.Completed w name after
        ∧ after.files.get? (Root.results.place w ++ [name] ++ [scenarioName])
          = bench.files.get? (Root.running.place w ++ [name] ++ [scenarioName]) := by
  obtain ⟨outcome, trial', after, hact, hrebooting⟩ := Action.act_runReboot machine trial bench
  rw [hact]
  cases hrebooting with
  | unflushed hflush =>
    refine .inl ⟨_, after, rfl, hmachine.quiet_after rfl hflush, fun hok => ?_⟩
    rw [hflush] at hok
    cases hok
  | unclosed hflush hclose =>
    have hflushed := hmachine.quiet_after rfl hflush
    rcases (h.quiet hflushed).act_close with ⟨-, closed, hclosed, -⟩ | ⟨hfull, _, hclosed⟩
    · cases hclosed.symm.trans hclose
    · cases hclosed.symm.trans hclose
      exact .inl ⟨_, after, rfl, hflushed, fun _ => hfull⟩
  | asked hflush hclose hask =>
    have hflushed := hmachine.quiet_after rfl hflush
    rcases (h.quiet hflushed).act_close with
      ⟨hfree, closed, hclosed, hcompleted, hfile⟩ | ⟨-, _, hclosed⟩
    · cases hclosed.symm.trans hclose
      have hquiet := hmachine.quiet_after rfl hask
      exact .inr ⟨outcome, after, rfl, by rw [hflush]; rfl, hfree, hcompleted.quiet hquiet,
        by rw [hquiet.files, hfile, hflushed.files]⟩
    · cases hclosed.symm.trans hclose

/-- Restarting in the course of an open trial. The test is decided about if the disk could be
flushed; if the results do not take the test then, the restart fails. -/
theorem IsOpen.act_reboot {machine : Machine} (hmachine : machine.WritesOnlyLogs)
    (h : IsOpen workspace w name base header scenario trial bench) :
    (∃ failure after, bench.act trial (Action.runReboot machine) = (.error failure, trial, after)
        ∧ (bench.perform (machine.ask .sync)).1.isOk = false
        ∧ IsOpen workspace w name base header scenario trial after)
      ∨ ∃ outcome trial' after,
        bench.act trial (Action.runReboot machine) = (outcome, trial', after)
        ∧ (bench.perform (machine.ask .sync)).1.isOk = true
        ∧ Reached workspace w name base header scenario (some .completed) trial' after
        ∧ (outcome = .ok () → trial'.isClosed = true) := by
  rcases h.reboot_cases hmachine with
    ⟨failure, after, hact, hquiet, hfull⟩ | ⟨outcome, after, hact, hsync, hfree, hcompleted, hfile⟩
  · cases hsync : (bench.perform (machine.ask .sync)).1.isOk with
    | false => exact .inl ⟨failure, after, hact, rfl, h.quiet hquiet⟩
    | true =>
      exact .inr ⟨.error failure, trial, after, hact, rfl, .inr ⟨hfull hsync, h.quiet hquiet⟩,
        fun hok => by cases hok⟩
  · exact .inr ⟨outcome, _, after, hact, hsync,
      .inl ⟨rfl, hfree, hcompleted, h.stands.of_get? hfile⟩, fun _ => rfl⟩

/-- Carrying out an action on an open trial. -/
theorem IsOpen.act_run {machine : Machine} (hmachine : machine.WritesOnlyLogs)
    (h : IsOpen workspace w name base header scenario trial bench)
    (hsame : trial.scenario = scenario) (action : Action) :
    ∃ outcome trial' after, bench.act trial (action.run machine) = (outcome, trial', after)
      ∧ Reached workspace w name base header (Deed.write scenario ⟨action, bench, outcome⟩)
        (Deed.fate? machine ⟨action, bench, outcome⟩) trial' after
      ∧ (outcome = .ok () →
        trial'.isClosed = (Deed.fate? machine ⟨action, bench, outcome⟩).isSome
          ∧ (trial'.isClosed = false →
            trial'.scenario = Deed.write scenario ⟨action, bench, outcome⟩)) := by
  cases action with
  | quit =>
    refine ⟨.ok (), _, bench, rfl, ⟨rfl, h.inside⟩, fun _ => ⟨rfl, fun hclosed => ?_⟩⟩
    cases hclosed
  | discard =>
    obtain ⟨after, hact, hremoved⟩ := h.act_discard
    refine ⟨.ok (), _, after, hact, ⟨rfl, hremoved⟩, fun _ => ⟨rfl, fun hclosed => ?_⟩⟩
    cases hclosed
  | writeResult column result =>
    rcases h.act_writeResult hsame column result with
      ⟨failure, trial', after, hact, hopen⟩ | ⟨trial', after, hact, hopen, hscenario, -⟩
    · exact ⟨.error failure, trial', after, hact, hopen, fun h => by cases h⟩
    · exact ⟨.ok (), trial', after, hact, hopen, fun _ => ⟨hopen.isOpen, fun _ => hscenario⟩⟩
  | reboot =>
    rcases h.act_reboot hmachine with
      ⟨failure, after, hact, hsync, hopen⟩ | ⟨outcome, trial', after, hact, hsync, hreached, hclosed⟩
    · refine ⟨.error failure, trial, after, hact, ?_, fun h => by cases h⟩
      simp only [Deed.fate?, hsync]
      exact hopen
    · refine ⟨outcome, trial', after, hact, ?_, fun hok => ?_⟩
      · simp only [Deed.fate?, hsync, if_true]
        exact hreached
      · simp only [Deed.fate?, hsync, if_true]
        refine ⟨hclosed hok, fun hopen => ?_⟩
        rw [hclosed hok] at hopen
        cases hopen

/-- What has been reached by closing the trial stays while the files do not change. -/
theorem Reached.quiet {fate : Fate} (hclosed : trial.isClosed = true)
    (h : Reached workspace w name base header scenario (some fate) trial bench)
    (hruns : workspace.Runs w name base)
    (hquiet : Bench.Quiet (fun _ => True) bench after) :
    Reached workspace w name base header scenario (some fate) trial after := by
  cases fate with
  | left =>
    have hleads := (hruns.inside h.2).leads
    exact ⟨h.1, h.2.trans (Bench.StaysIn.of_quiet _ _ hquiet hleads)⟩
  | discarded => exact ⟨h.1, h.2.quiet hquiet⟩
  | completed =>
    rcases h with ⟨-, hfree, hcompleted, hstands⟩ | ⟨-, hopen⟩
    · exact .inl ⟨hclosed, hfree, hcompleted.quiet hquiet, hstands.of_get? (by rw [hquiet.files])⟩
    · rw [hopen.isOpen] at hclosed
      cases hclosed

/-- Carrying out an action on a closed trial changes neither the trial nor the files. -/
theorem act_run_closed {machine : Machine} (hmachine : machine.WritesOnlyLogs)
    (h : trial.isClosed = true) (bench : Bench) (action : Action) (scenario : Scenario) :
    ∃ outcome after, bench.act trial (action.run machine) = (outcome, trial, after)
      ∧ Bench.Quiet (fun _ => True) bench after
      ∧ Deed.write scenario ⟨action, bench, outcome⟩ = scenario := by
  have hclosed : trial.requireOpen = .error (.alreadyClosed trial.directory) := by
    simp [requireOpen, h]
  have hsame : ({ trial with isClosed := true } : Trial) = trial := by rw [← h]
  cases action with
  | quit =>
    refine ⟨.ok (), bench, ?_, refl_of (Bench.Quiet _) _, rfl⟩
    rw [Action.run, Bench.act_markClosed, hsame]
  | discard =>
    refine ⟨.error (.alreadyClosed trial.directory), bench, ?_, refl_of (Bench.Quiet _) _, rfl⟩
    simp only [Action.run, Action.runDiscard]
    rw [Bench.act_bind_ok (Bench.act_getTrial bench trial)]
    simp only [hclosed]
    rfl
  | writeResult column result =>
    refine ⟨.error (.alreadyClosed trial.directory), bench, ?_, refl_of (Bench.Quiet _) _, rfl⟩
    simp only [Action.run, Action.runWriteResult]
    rw [Bench.act_bind_ok (Bench.act_getTrial bench trial)]
    simp only [hclosed]
    rfl
  | reboot =>
    obtain ⟨outcome, trial', after, hact, hrebooting⟩ := Action.act_runReboot machine trial bench
    rw [Action.run, hact]
    cases hrebooting with
    | unflushed hflush => exact ⟨_, after, rfl, hmachine.quiet_after rfl hflush, rfl⟩
    | unclosed hflush hclose => cases (act_close_closed h _).symm.trans hclose
    | asked hflush hclose hask =>
      cases (act_close_closed h _).symm.trans hclose
      exact ⟨outcome, after, rfl,
        (hmachine.quiet_after rfl hflush).trans (hmachine.quiet_after rfl hask), rfl⟩

/-- Carrying out actions on a closed trial. -/
theorem act_runAll_closed {machine : Machine} (hmachine : machine.WritesOnlyLogs)
    (h : trial.isClosed = true) (actions : List Action) (bench : Bench) (scenario : Scenario) :
    ∃ after, bench.act trial (Action.runAll machine actions)
        = (Deed.outcomeOf (Action.deeds machine actions trial bench), trial, after)
      ∧ Bench.Quiet (fun _ => True) bench after
      ∧ (Action.deeds machine actions trial bench).foldl Deed.write scenario = scenario := by
  induction actions generalizing bench with
  | nil => exact ⟨bench, rfl, refl_of (Bench.Quiet _) _, rfl⟩
  | cons action rest ih =>
    obtain ⟨outcome, middle, hact, hquiet, hwrite⟩ := act_run_closed hmachine h bench action scenario
    rw [Action.act_runAll_cons, hact]
    cases outcome with
    | error failure =>
      rw [Action.deeds_cons_error hact, Deed.outcomeOf_singleton]
      exact ⟨middle, rfl, hquiet, hwrite⟩
    | ok _ =>
      obtain ⟨after, hrest, hquiet', hwrite'⟩ := ih middle
      rw [Action.deeds_cons_ok hact, Deed.outcomeOf_cons_ok rfl, List.foldl_cons, hwrite]
      exact ⟨after, hrest, hquiet.trans hquiet', hwrite'⟩

/-- Carrying out actions on an open trial: the first deed that decides about the test decides what
is reached, and the scenario has been written as far as the deeds have written it. -/
theorem IsOpen.act_runAll {machine : Machine} (hmachine : machine.WritesOnlyLogs)
    (h : IsOpen workspace w name base header scenario trial bench)
    (hsame : trial.scenario = scenario) (actions : List Action) :
    ∃ trial' after, bench.act trial (Action.runAll machine actions)
        = (Deed.outcomeOf (Action.deeds machine actions trial bench), trial', after)
      ∧ Reached workspace w name base header
        ((Action.deeds machine actions trial bench).foldl Deed.write scenario)
        ((Action.deeds machine actions trial bench).findSome? (Deed.fate? machine)) trial' after := by
  induction actions generalizing trial bench scenario with
  | nil => exact ⟨trial, bench, rfl, h⟩
  | cons action rest ih =>
    obtain ⟨outcome, trial', middle, hact, hreached, hok⟩ := h.act_run hmachine hsame action
    rw [Action.act_runAll_cons, hact]
    cases outcome with
    | error failure =>
      rw [Action.deeds_cons_error hact, Deed.outcomeOf_singleton]
      refine ⟨trial', middle, rfl, ?_⟩
      rw [List.findSome?_cons, List.findSome?_nil, List.foldl_cons, List.foldl_nil]
      cases hfate : Deed.fate? machine ⟨action, bench, .error failure⟩ with
      | none => rwa [hfate] at hreached
      | some fate => rwa [hfate] at hreached
    | ok _ =>
      obtain ⟨hclosed, hscenario⟩ := hok rfl
      rw [Action.deeds_cons_ok hact, Deed.outcomeOf_cons_ok rfl, List.findSome?_cons,
        List.foldl_cons]
      cases hfate : Deed.fate? machine ⟨action, bench, .ok ()⟩ with
      | none =>
        -- The trial is open still, and the rest is carried out on it.
        rw [hfate] at hreached hclosed
        exact ih hreached (hscenario hclosed)
      | some fate =>
        -- The trial is closed, and the rest changes nothing.
        rw [hfate] at hreached hclosed
        obtain ⟨after, hrest, hquiet, hwrite⟩ :=
          act_runAll_closed hmachine hclosed rest middle (Deed.write scenario ⟨action, bench, .ok ()⟩)
        rw [hwrite]
        exact ⟨trial', after, hrest, hreached.quiet hclosed h.runs hquiet⟩

end Trial

end BootTrial
