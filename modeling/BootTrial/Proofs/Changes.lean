import BootTrial.Proofs.Tending

/-!
# What a run changes

A run changes the file tree in few ways (`Node.Change`): it touches the directory of its test, it
deletes this directory once it is empty, it makes the results root, and it moves the directory
there. Nothing else changes at any moment of a run (`Trial.runAt_changes`), whatever the operator
chooses and whatever fails. So what each such step keeps is kept by all runs, wherever they are cut
off.
-/

namespace BootTrial

/-- Directories under different names in one root are apart. -/
theorem Root.entries_apart {name other : String} (h : name ≠ other) (r : Root) (w : Place) :
    Place.Apart (r.place w ++ [name]) (r.place w ++ [other]) :=
  (Place.Apart.of_ne h [] []).append_left (r.place w)

/-- Directories in different roots are apart. -/
theorem Root.place_apart_entries {r r' : Root} (h : r ≠ r') (w : Place) (name other : String) :
    Place.Apart (r.place w ++ [name]) (r'.place w ++ [other]) :=
  (((Root.place_apart h w).append_right [other]).symm.append_right [name]).symm

namespace Node

/-- What one step of the run of a test changes. Only a test that is doomed is deleted. -/
inductive Change (w : Place) (name : String) (doomed : Prop) (before : Node) : Node → Prop
  /-- The directory of the test is touched. -/
  | touched {after : Node} (h : Touch w name doomed before after) : Change w name doomed before after
  /-- The directory is deleted. -/
  | deleted (hdoomed : doomed) (hdir : before.HasDir (Root.running.place w ++ [name])) :
      Change w name doomed before (before.erase (Root.running.place w ++ [name]))
  /-- The results root is made. -/
  | made (hdir : before.HasDir w) (hnone : before.get? (Root.results.place w) = none) :
      Change w name doomed before (before.put .emptyDir (Root.results.place w))
  /-- The directory is moved into the results root, where nothing lies under its name. -/
  | completed {entries : Named Node}
      (hnode : before.get? (Root.running.place w ++ [name]) = some (.dir entries))
      (hresults : before.HasDir (Root.results.place w))
      (hfree : before.get? (Root.results.place w ++ [name]) = none) :
      Change w name doomed before ((before.erase (Root.running.place w ++ [name])).put
        (.dir entries) (Root.results.place w ++ [name]))

/-- What any steps of the run of a test change. -/
abbrev Changes (w : Place) (name : String) (doomed : Prop) : Node → Node → Prop :=
  Relation.ReflTransGen (Change w name doomed)

end Node

namespace Bench

/-- Between two benches nothing has changed but what a run of a test changes, at every moment. -/
abbrev Changes (w : Place) (name : String) (doomed : Prop) (before after : Bench) : Prop :=
  before.Passes (Node.Changes w name doomed) after

variable {workspace : Workspace} {w : Place} {name : String} {doomed : Prop}
  {before after : Bench}

instance (w : Place) (name : String) (doomed : Prop) : IsPreorder Bench (Changes w name doomed) where
  refl _ := .refl .refl
  trans _ _ _ h h' := h.trans .trans h'

/-- One step of a run. -/
theorem Changes.stepTo {files : Node} (h : Node.Change w name doomed before.files files) :
    before.Changes w name doomed (before.stepTo files) :=
  Passes.stepTo (.single h)

/-- Where the files do not change nothing does. -/
theorem Changes.of_quiet {kind : Event → Prop} (h : Quiet kind before after) :
    before.Changes w name doomed after := by
  obtain ⟨moments, hmoments, hmem⟩ := h.history
  exact ⟨h.here, h.files ▸ .refl, moments, hmoments, fun moment hin => (hmem moment hin).2 ▸ .refl⟩

/-- What tends a test that runs. -/
theorem Tends.changes (h : before.Tends (workspace.running.join name) w name doomed after)
    (hruns : workspace.Runs w name before) : before.Changes w name doomed after :=
  (h hruns.leads).imp fun htouches => htouches.lift id fun _ _ htouch => .touched htouch

/-- Making the results root. -/
theorem ResultsMade.changes (h : ResultsMade w before after) (hdir : before.files.HasDir w) :
    before.Changes w name doomed after := by
  rcases h with rfl | ⟨hnone, rfl⟩
  · exact refl_of (Changes w name doomed) after
  · exact .stepTo (.made hdir hnone)

end Bench

namespace Trial

variable {workspace : Workspace} {settings : Settings} {machine : Machine} {operator : Operator}
  {w : Place} {name : String} {base bench : Bench} {header : List String} {scenario : Scenario}
  {trial : Trial} {doomed : Prop} {fate : Option Fate}

/-- Closing an open trial. -/
theorem IsOpen.close_changes (h : IsOpen workspace w name base header scenario trial bench) :
    bench.Changes w name doomed (bench.act trial close).2.2 := by
  rw [act_close_open h.isOpen h.hasDir, h.directory, h.results]
  obtain ⟨ready, hmade, ⟨failure, hperform, -⟩ | ⟨own, hown, hresults, hfree, hperform⟩⟩ :=
    moveToResults_cases h.runs_now
  all_goals
    rw [hperform]
    have hready : bench.Changes w name doomed ready := hmade.changes h.runs_now.root.dir
  · exact hready
  · have hfree' : ready.files.get? (Root.results.place w ++ [name]) = none := by
      rcases hmade with rfl | ⟨-, rfl⟩
      · exact hfree.1
      · -- A results root that has just been made is empty.
        obtain ⟨top, htop⟩ := h.runs_now.root.dir
        exact Node.get?_snoc (Node.get?_put_self htop .emptyDir "results") name
    exact trans_of _ hready (.stepTo (.completed hown hresults hfree'))

/-- Deleting the test of an open trial, which is doomed. -/
theorem IsOpen.discard_changes (h : IsOpen workspace w name base header scenario trial bench)
    (hdoomed : doomed) :
    bench.Changes w name doomed (bench.act trial Action.runDiscard).2.2 := by
  obtain ⟨own, last, heach, hinside, hact⟩ := h.discard_steps
  -- The directory is taken down entry by entry, and then it goes.
  have heach' : Keeps (Bench.Tends (workspace.running.join name) w name doomed)
      (FileWork.removeEach (Root.running.place w ++ [name]) (Node.placesOf own)) :=
    FileWork.removeEach_tends (fun _ hbelow => Node.ne_nil_of_mem_placesOf hbelow) hdoomed
  have htends := heach' bench
  rw [heach] at htends
  rw [hact, ← hinside.erase]
  exact trans_of (Bench.Changes w name doomed) (htends.changes h.runs_now)
    (.stepTo (.deleted hdoomed hinside.files.hasDir))

/-- Writing a result into the scenario of an open trial. -/
theorem IsOpen.writeResult_changes (h : IsOpen workspace w name base header scenario trial bench)
    (hsame : trial.scenario = scenario) (column result : String) :
    bench.Changes w name doomed (bench.act trial (Action.runWriteResult column result)).2.2 := by
  subst hsame
  rcases h.writeResult_steps column result with ⟨failure, after, hact, hunmoved⟩ | hact
  all_goals rw [hact]
  · exact .of_quiet (.of_unmoved hunmoved : Bench.Quiet (fun _ => True) _ _)
  · have hnodup : (trial.scenario.set column result).names.Nodup :=
      Named.nodup_names_set column result h.stands.nodup
    exact (Scenario.write_tends h.runs.plain hnodup h.stands.named bench).changes h.runs_now

/-- Carrying out an action on an open trial. -/
theorem IsOpen.run_changes (hmachine : machine.WritesOnlyLogs)
    (h : IsOpen workspace w name base header scenario trial bench)
    (hsame : trial.scenario = scenario) {action : Action} (hdoomed : action = .discard → doomed) :
    bench.Changes w name doomed (bench.act trial (action.run machine)).2.2 := by
  cases action with
  | quit => exact refl_of (Bench.Changes w name doomed) bench
  | discard => exact h.discard_changes (hdoomed rfl)
  | writeResult column result => exact h.writeResult_changes hsame column result
  | reboot =>
    obtain ⟨outcome, trial', after, hact, hrebooting⟩ := Action.act_runReboot machine trial bench
    rw [Action.run, hact]
    cases hrebooting with
    | unflushed hflush => exact .of_quiet (hmachine.quiet_after rfl hflush)
    | unclosed hflush hclose =>
      have hflushed := hmachine.quiet_after rfl hflush
      have hclosed : Bench.Changes w name doomed _ _ := (h.quiet hflushed).close_changes
      rw [hclose] at hclosed
      exact trans_of (Bench.Changes w name doomed) (.of_quiet hflushed) hclosed
    | asked hflush hclose hask =>
      have hflushed := hmachine.quiet_after rfl hflush
      have hclosed : Bench.Changes w name doomed _ _ := (h.quiet hflushed).close_changes
      rw [hclose] at hclosed
      exact trans_of _ (trans_of (Bench.Changes w name doomed) (.of_quiet hflushed) hclosed)
        (.of_quiet (hmachine.quiet_after rfl hask))

/-- Carrying out actions on an open trial. -/
theorem IsOpen.runAll_changes (hmachine : machine.WritesOnlyLogs)
    (h : IsOpen workspace w name base header scenario trial bench)
    (hsame : trial.scenario = scenario) {actions : List Action}
    (hdoomed : .discard ∈ actions → doomed) :
    bench.Changes w name doomed (bench.act trial (Action.runAll machine actions)).2.2 := by
  induction actions generalizing trial bench scenario with
  | nil => exact refl_of (Bench.Changes w name doomed) bench
  | cons action rest ih =>
    have hfirst : bench.Changes w name doomed (bench.act trial (action.run machine)).2.2 :=
      h.run_changes hmachine hsame fun haction => hdoomed (haction ▸ List.mem_cons_self)
    obtain ⟨outcome, trial', middle, hact, hreached, hok⟩ := h.act_run hmachine hsame action
    rw [Action.act_runAll_cons, hact]
    rw [hact] at hfirst
    cases outcome with
    | error failure => exact hfirst
    | ok _ =>
      obtain ⟨hclosed, hscenario⟩ := hok rfl
      cases hfate : Deed.fate? machine ⟨action, bench, .ok ()⟩ with
      | none =>
        rw [hfate] at hreached hclosed
        exact trans_of _ hfirst (ih hreached (hscenario hclosed)
          fun hmem => hdoomed (List.mem_cons_of_mem _ hmem))
      | some fate =>
        -- The trial is closed, and the rest changes nothing.
        rw [hfate] at hclosed
        obtain ⟨after, hrest, hquiet, -⟩ :=
          act_runAll_closed hmachine hclosed rest middle scenario
        simp only [hrest]
        exact trans_of _ hfirst (.of_quiet hquiet)

/-- Closing a trial at the end of its run. -/
theorem Reached.close_changes
    (h : Reached workspace w name base header scenario fate trial bench) :
    bench.Changes w name doomed (bench.act trial close).2.2 := by
  have hclosed : trial.isClosed = true →
      bench.Changes w name doomed (bench.act trial close).2.2 := by
    intro hclosed
    rw [act_close_closed hclosed]
    exact refl_of (Bench.Changes w name doomed) bench
  cases fate with
  | none => exact IsOpen.close_changes h
  | some fate =>
    cases fate with
    | left => exact hclosed h.1
    | discarded => exact hclosed h.1
    | completed =>
      rcases h with ⟨hclosed', -⟩ | ⟨-, hopen⟩
      · exact hclosed hclosed'
      · exact hopen.close_changes

/-- Running a test, which has to be doomed if the operator chooses to delete it. -/
theorem runAt_changes (hmachine : machine.WritesOnlyLogs) (hoperator : operator.OnlyChooses)
    (hruns : settings.workspace.Runs w name bench)
    (hfront : bench.files.HasPlainFront (Root.running.place w ++ [name]))
    (hdoomed : ∀ actions, (bench.perform (runToChoice settings machine operator
      (settings.workspace.running.join name))).1 = .ok actions → .discard ∈ actions → doomed) :
    bench.Changes w name doomed
      (bench.perform (runAt settings machine operator (settings.workspace.running.join name))).2 := by
  have htends : Bench.Tends (settings.workspace.running.join name) w name doomed bench
      (bench.perform (prepare settings machine (settings.workspace.running.join name))).2 :=
    prepare_tends settings hmachine hruns.plain hfront
  have hprepared := htends.changes hruns
  rcases hprepare : bench.perform
    (prepare settings machine (settings.workspace.running.join name)) with
    ⟨failure | ⟨trial, menu⟩, ready⟩
  all_goals rw [hprepare] at hprepared
  · rwa [perform_runAt, hprepare]
  · obtain ⟨header, hopen, -⟩ := prepare_opens hmachine hruns hfront hprepare
    have hquiet := choose_quiet hmachine hoperator settings.notify.message menu trial ready
    rcases hchoose : ready.perform (choose machine operator settings.notify.message menu trial) with
      ⟨answer, chosen⟩
    rw [hchoose] at hquiet
    have hchosen := trans_of _ hprepared (.of_quiet hquiet)
    have hopen' := hopen.quiet hquiet
    rw [perform_runAt_prepared hprepare hchoose]
    cases answer with
    | error failure => exact trans_of _ hchosen hopen'.close_changes
    | ok choice =>
      have hactions : (bench.perform (runToChoice settings machine operator
          (settings.workspace.running.join name))).1 = .ok (actionsOf menu choice) := by
        rw [runToChoice, Bench.perform_bind_ok hprepare]
        simp only
        rw [Bench.perform_bind_ok hchoose]
        rfl
      have hall := hopen'.runAll_changes hmachine rfl (hdoomed _ hactions)
      obtain ⟨trial', after, hact, hreached⟩ :=
        hopen'.act_runAll hmachine rfl (actionsOf menu choice)
      rw [hact] at hall
      simp only [conclude, hact]
      exact trans_of _ (trans_of _ hchosen hall) hreached.close_changes

end Trial

end BootTrial
