import BootTrial.Proofs.Opening

/-!
# The end of a run

At its end a run closes the trial, whatever came of the choice and of the actions (`Trial.finish`).
`Trial.Ended` says for each fate where the directory of the test lies then: a test whose fate has
not been decided goes to the results, as one that the machine was restarted for has before. The
results take every test but one whose name they have already; such a test stays in the running root.

`Bench.Removed.get?_running` and the lemmas behind it say what stands in the roots afterwards.
-/

namespace BootTrial

namespace Bench

variable {workspace : Workspace} {w : Place} {name : String} {before after : Bench}

/-- The path of the workspace leads there when a test has been deleted. -/
theorem Removed.root (h : Removed (Root.running.place w ++ [name]) before after)
    (hruns : workspace.Runs w name before) :
    workspace.root.Leads after.files after.here w := by
  obtain ⟨last, hinside, hquiet⟩ := h
  rw [hquiet.files, hquiet.here, stepTo]
  simp only
  rw [hinside.here]
  exact hruns.root.erase_in .running [name]

/-- The running root without a test that has been deleted. -/
theorem Removed.get?_running (h : Removed (Root.running.place w ++ [name]) before after)
    {entries : List (String × Node)}
    (hentries : before.files.get? (Root.running.place w) = some (.dir entries)) :
    after.files.get? (Root.running.place w) = some (.dir (Named.erase name entries)) := by
  obtain ⟨last, -, hquiet⟩ := h
  rw [hquiet.files, stepTo]
  exact Node.get?_erase_entry hentries name

/-- The other roots when a test has been deleted. -/
theorem Removed.get?_other (h : Removed (Root.running.place w ++ [name]) before after) {r : Root}
    (hr : r ≠ .running) : after.files.get? (r.place w) = before.files.get? (r.place w) := by
  obtain ⟨last, -, hquiet⟩ := h
  rw [hquiet.files, stepTo]
  exact Node.get?_erase_of_apart (((Root.place_apart hr w).append_right [name]).symm) _

/-- The path of the workspace leads there when a test has been completed. -/
theorem Completed.root (h : Completed w name before after)
    (hruns : workspace.Runs w name before) : workspace.root.Leads after.files after.here w := by
  obtain ⟨last, ready, own, hinside, hmade, -, -, hquiet⟩ := h
  have hready := ((hruns.inside hinside).resultsMade hmade).root
  rw [hquiet.files, hquiet.here, stepTo]
  exact (hready.erase_in .running [name]).put_in .results [name] _

/-- The running root without a test that has been completed. -/
theorem Completed.get?_running (h : Completed w name before after)
    {entries : List (String × Node)}
    (hentries : before.files.get? (Root.running.place w) = some (.dir entries)) :
    after.files.get? (Root.running.place w) = some (.dir (Named.erase name entries)) := by
  obtain ⟨last, ready, own, hinside, hmade, hown, ⟨results, hresults⟩, hquiet⟩ := h
  obtain ⟨own₁, own₂, -, hlast, -⟩ := hinside.files.get?_parent hentries
  have hroots : Place.Apart (Root.running.place w) (Root.results.place w) :=
    Root.place_apart (by decide) w
  have hready : ready.files.get? (Root.running.place w) = last.files.get? (Root.running.place w) := by
    rcases hmade with rfl | ⟨-, rfl⟩
    · rfl
    · exact Node.get?_put_of_apart hroots.symm _ _
  rw [hquiet.files, stepTo]
  simp only
  rw [Node.get?_move_source hroots (hready.trans hlast), Named.erase_set]

/-- The results with a test that has been completed. -/
theorem Completed.get?_results (h : Completed w name before after)
    (hruns : workspace.Runs w name before) :
    ∃ own results, after.files.get? (Root.results.place w)
        = some (.dir (Named.set name (.dir own) results))
      ∧ (before.files.get? (Root.results.place w) = some (.dir results)
        ∨ before.files.get? (Root.results.place w) = none ∧ results = []) := by
  obtain ⟨last, ready, own, hinside, hmade, hown, ⟨results, hresults⟩, hquiet⟩ := h
  have hroots : Place.Apart (Root.running.place w) (Root.results.place w) :=
    Root.place_apart (by decide) w
  have hlast : last.files.get? (Root.results.place w)
      = before.files.get? (Root.results.place w) :=
    hinside.files.get?_of_apart ((hroots.symm.append_right [name]).symm)
  refine ⟨own, results, ?_, ?_⟩
  · rw [hquiet.files, stepTo]
    exact Node.get?_move_goal hroots hresults _
  · rcases hmade with rfl | ⟨hnone, rfl⟩
    · exact .inl (hlast.symm.trans hresults)
    · -- A results root that has just been made is empty.
      obtain ⟨top, htop⟩ := (hruns.inside hinside).root.dir
      have hempty : (last.files.put .emptyDir (Root.results.place w)).get? (Root.results.place w)
          = some .emptyDir := Node.get?_put_self htop _ _
      have hsame : some (Node.dir results) = some .emptyDir := hresults.symm.trans hempty
      refine .inr ⟨hlast.symm.trans hnone, ?_⟩
      simpa [Node.emptyDir] using hsame

/-- The root of the tests that wait when a test has been completed. -/
theorem Completed.get?_pending (h : Completed w name before after) :
    after.files.get? (Root.pending.place w) = before.files.get? (Root.pending.place w) := by
  obtain ⟨last, ready, own, hinside, hmade, -, -, hquiet⟩ := h
  have hrunning : Place.Apart (Root.running.place w) (Root.pending.place w) :=
    Root.place_apart (by decide) w
  have hresults : Place.Apart (Root.results.place w) (Root.pending.place w) :=
    Root.place_apart (by decide) w
  have hready : ready.files.get? (Root.pending.place w)
      = last.files.get? (Root.pending.place w) := by
    rcases hmade with rfl | ⟨-, rfl⟩
    · rfl
    · exact Node.get?_put_of_apart hresults _ _
  rw [hquiet.files, stepTo]
  simp only
  rw [Node.get?_move_of_apart hrunning hresults, hready,
    hinside.files.get?_of_apart ((hrunning.symm.append_right [name]).symm)]

/-- A test that has been deleted is not in the running root. -/
theorem Removed.gone (h : Removed (Root.running.place w ++ [name]) before after)
    (hruns : workspace.Runs w name before) :
    after.files.get? (Root.running.place w ++ [name]) = none := by
  obtain ⟨running, hrunning⟩ := hruns.dir.above
  rw [Node.get?_snoc (h.get?_running hrunning)]
  exact Named.lookup_erase_self name running

/-- A test that has been completed has left the running root for the results. -/
theorem Completed.moved (h : Completed w name before after)
    (hruns : workspace.Runs w name before) :
    after.files.get? (Root.running.place w ++ [name]) = none
      ∧ after.files.HasDir (Root.results.place w ++ [name]) := by
  obtain ⟨running, hrunning⟩ := hruns.dir.above
  obtain ⟨own, results, hresults, -⟩ := h.get?_results hruns
  refine ⟨?_, own, ?_⟩
  · rw [Node.get?_snoc (h.get?_running hrunning)]
    exact Named.lookup_erase_self name running
  · rw [Node.get?_snoc hresults]
    exact Named.lookup_set_self name _ results

/-- The path of the result of a test leads to a directory if there is one in the results root. -/
theorem hasDir_results {bench : Bench} (hw : workspace.root.Leads bench.files bench.here w)
    (hname : IsPlain name) (hshort : name.utf8ByteSize ≤ nameLimit)
    (haccepted : (workspace.running.join name).refusal? = none) :
    bench.hasDir (workspace.results.join name) = true
      ↔ bench.files.HasDir (Root.results.place w ++ [name]) := by
  constructor
  · intro h
    rw [hasDir, nodeAt] at h
    cases hnode : (workspace.results.join name).node bench.files bench.here with
    | error fault => simp [hnode] at h
    | ok node =>
      obtain ⟨d, hpass, hget, -⟩ := Path.node_join_ok hname hnode
      obtain ⟨rfl, -⟩ := passThrough_join_ok resultsName_isPlain hw.passThrough hpass
      cases node with
      | file content runnable => simp [hnode, Node.isDir] at h
      | dir entries => exact ⟨entries, hget⟩
  · rintro ⟨own, hown⟩
    obtain ⟨results, hresults⟩ := Node.hasDir_of_get?_snoc hown
    have hlead := Workspace.path_leads (r := .results) hw ⟨results, hresults⟩
    have hlookup : results.lookup name = some (.dir own) := by
      rw [← Node.get?_snoc hresults, hown]
    have hfault : workspace.results.joinFault? name = none :=
      Path.joinFault?_eq_none.mpr ⟨(Workspace.results_refusal? hname haccepted).1, hshort⟩
    have hnode : bench.nodeAt (workspace.results.join name) = .ok (.dir own) := by
      rw [nodeAt, Path.node_join (p := workspace.results) hname hlead.passThrough hresults, hfault,
        hlookup]
    rw [hasDir, hnode]
    rfl

end Bench

namespace Trial

/-- Where the directory of a test lies at the end of its run, for each fate. -/
def Ended (w : Place) (name : String) (base : Bench) (header : List String) (scenario : Scenario) :
    Option Fate → Bench → Prop
  | some .left, bench =>
    base.Inside (Root.running.place w ++ [name]) (· = prefixName) (fun _ => True) bench
  | some .discarded, bench => base.Removed (Root.running.place w ++ [name]) bench
  | none, bench | some .completed, bench =>
    (base.files.IsFree (Root.results.place w) name ∧ base.Completed w name bench
      ∧ scenario.StandsIn header (Root.results.place w ++ [name]) bench.files)
    ∨ (¬ base.files.IsFree (Root.results.place w) name
      ∧ base.Inside (Root.running.place w ++ [name]) (· = prefixName) (fun _ => True) bench)

/-- The result of a run, as far as the fate of the test decides it. -/
def resultFor (results : Path) (name : String) : Option Fate → Option Path
  | some .left | some .discarded => none
  | none | some .completed => some (results.join name)

variable {settings : Settings} {w : Place} {name : String} {base bench : Bench}
  {header : List String} {scenario : Scenario} {trial : Trial} {fate : Option Fate}

/-- Closing the trial at the end of a run. -/
theorem Reached.act_close {workspace : Workspace}
    (h : Reached workspace w name base header scenario fate trial bench) :
    ∃ closed trial' last, bench.act trial close = (closed, trial', last)
      ∧ Ended w name base header scenario fate last
      ∧ (base.files.IsFree (Root.results.place w) name →
        closed = .ok (if fate = none then some (workspace.results.join name) else none))
      ∧ (¬ base.files.IsFree (Root.results.place w) name → fate = none ∨ fate = some .completed →
        ∃ failure, closed = .error failure)
      ∧ (fate = some .left ∨ fate = some .discarded → closed = .ok none) := by
  -- A trial that is open still is closed, if the results take the test.
  have hopen : ∀ {fate : Option Fate},
      IsOpen workspace w name base header scenario trial bench →
      fate = none ∨ fate = some .completed ∧ ¬ base.files.IsFree (Root.results.place w) name →
      ∃ closed trial' last, bench.act trial close = (closed, trial', last)
        ∧ Ended w name base header scenario fate last
        ∧ (base.files.IsFree (Root.results.place w) name →
          closed = .ok (if fate = none then some (workspace.results.join name) else none))
        ∧ (¬ base.files.IsFree (Root.results.place w) name → fate = none ∨ fate = some .completed →
          ∃ failure, closed = .error failure)
        ∧ (fate = some .left ∨ fate = some .discarded → closed = .ok none) := by
    intro fate h hfate
    have hmoves : ¬ (fate = some .left ∨ fate = some .discarded) := by
      rcases hfate with rfl | ⟨rfl, -⟩ <;> simp
    rcases h.act_close with ⟨hfree, after, hact, hcompleted, hfile⟩ | ⟨hfull, failure, hact⟩
    · have hstands := h.stands.of_get? hfile
      rcases hfate with rfl | ⟨-, hfull⟩
      · exact ⟨_, _, after, hact, .inl ⟨hfree, hcompleted, hstands⟩, fun _ => rfl,
          fun hfull => absurd hfree hfull, fun hstays => absurd hstays hmoves⟩
      · exact absurd hfree hfull
    · refine ⟨_, _, bench, hact, ?_, fun hfree => absurd hfree hfull, fun _ _ => ⟨failure, rfl⟩,
        fun hstays => absurd hstays hmoves⟩
      rcases hfate with rfl | ⟨rfl, -⟩
      · exact .inr ⟨hfull, h.inside⟩
      · exact .inr ⟨hfull, h.inside⟩
  match fate, h with
  | none, h => exact hopen h (.inl rfl)
  | some .left, h =>
    exact ⟨_, trial, bench, act_close_closed h.1 bench, h.2, fun _ => rfl, by simp, fun _ => rfl⟩
  | some .discarded, h =>
    exact ⟨_, trial, bench, act_close_closed h.1 bench, h.2, fun _ => rfl, by simp, fun _ => rfl⟩
  | some .completed, .inl ⟨hclosed, hfree, hcompleted, hstands⟩ =>
    exact ⟨_, trial, bench, act_close_closed hclosed bench, .inl ⟨hfree, hcompleted, hstands⟩,
      fun _ => rfl, fun hfull => absurd hfree hfull, fun _ => rfl⟩
  | some .completed, .inr ⟨hfull, h⟩ => exact hopen h (.inr ⟨rfl, hfull⟩)

/-- Work on a trial that changes neither the boot that it is bound to nor the one the machine is
in. -/
def KeepsBoots {α : Type} (work : TrialWork α) : Prop :=
  ∀ bench trial, (Bench.act bench trial work).2.1.isSameBoot = trial.isSameBoot

namespace KeepsBoots

/-- Work that leaves the trial alone. -/
theorem lift {α : Type} (work : Work α) : KeepsBoots (liftM work) := fun _ _ => rfl

/-- Work that goes on where other work has succeeded. -/
theorem bind {α β : Type} {work : TrialWork α} {next : α → TrialWork β} (hwork : KeepsBoots work)
    (hnext : ∀ a, KeepsBoots (next a)) : KeepsBoots (work >>= next) := by
  intro bench trial
  have hfirst := hwork bench trial
  rw [Bench.act_bind]
  rcases hact : bench.act trial work with ⟨failure | a, trial', after⟩
  all_goals rw [hact] at hfirst
  · exact hfirst
  · exact (hnext a after trial').trans hfirst

/-- Closing a trial. -/
theorem close : KeepsBoots Trial.close := by
  unfold Trial.close
  refine bind (fun _ _ => rfl) fun trial => ?_
  split
  · exact fun _ _ => rfl
  · refine bind (fun _ _ => rfl) fun bench => ?_
    split
    · exact bind (fun _ _ => rfl) fun _ _ _ => rfl
    · exact bind (lift _) fun _ => bind (fun _ _ => rfl) fun _ _ _ => rfl

/-- Carrying out an action. -/
theorem run (machine : Machine) (action : Action) : KeepsBoots (action.run machine) := by
  cases action with
  | quit => exact fun _ _ => rfl
  | discard =>
    exact bind (fun _ _ => rfl) fun _ => bind (lift _) fun _ => bind (lift _) fun _ _ _ => rfl
  | writeResult column result =>
    exact bind (fun _ _ => rfl) fun _ => bind (lift _) fun _ => bind (fun _ _ => rfl) fun _ =>
      bind (lift _) fun _ => lift _
  | reboot => exact bind (lift _) fun _ => bind close fun _ => lift _

/-- Carrying out actions. -/
theorem runAll (machine : Machine) (actions : List Action) :
    KeepsBoots (Action.runAll machine actions) := by
  induction actions with
  | nil => exact fun _ _ => rfl
  | cons action rest ih => exact bind (run machine action) fun _ => ih

end KeepsBoots

/-- Where a test lies that the trial itself has not moved at its end. -/
theorem resultOf_join {p q : Path} (hname : IsPlain name) (bench : Bench) :
    resultOf (p.join name) q bench = if bench.hasDir (q.join name) then some (q.join name) else none
    := by
  rw [resultOf, p.fileName?_join hname, Option.map_some, Option.filter_some]

/-- The end of a run of a test that the results take: it gives what the choice and the actions gave,
and where the test lies. -/
theorem Reached.finish_free
    (h : Reached settings.workspace w name base header scenario fate trial bench)
    (hruns : settings.workspace.Runs w name base)
    (haccepted : (settings.workspace.running.join name).refusal? = none)
    (hfree : base.files.IsFree (Root.results.place w) name)
    (answered : Except Error (Option String)) :
    ∃ last, finish settings (settings.workspace.running.join name) answered trial bench
        = (answered.map fun choice =>
            { directory := settings.workspace.running.join name
              isSameBoot := trial.isSameBoot
              choice
              result := resultFor settings.workspace.results name fate }, last)
      ∧ Ended w name base header scenario fate last := by
  obtain ⟨closed, trial', last, hact, hended, hclosed, -⟩ := h.act_close
  obtain rfl := hclosed hfree
  have hboots := KeepsBoots.close bench trial
  rw [hact] at hboots
  have hresult : (if fate = none then some (settings.workspace.results.join name) else none).or
      (resultOf (settings.workspace.running.join name) settings.workspace.results last)
      = resultFor settings.workspace.results name fate := by
    have hrunning : Place.Apart (Root.running.place w ++ [name])
        (Root.results.place w ++ [name]) :=
      (((Root.place_apart (by decide) w).append_right [name]).symm).append_right [name]
    rw [resultOf_join hruns.plain]
    match fate, hended with
    | none, _ => rfl
    | some .left, hinside =>
      have hw := (hruns.inside hinside).root
      have hnone : ¬ last.hasDir (settings.workspace.results.join name) = true := by
        rw [Bench.hasDir_results hw hruns.plain hruns.short haccepted]
        rintro ⟨own, hown⟩
        rw [hinside.files.get?_of_apart hrunning, hfree.1] at hown
        cases hown
      rw [if_neg hnone]
      rfl
    | some .discarded, hremoved =>
      have hnone : ¬ last.hasDir (settings.workspace.results.join name) = true := by
        rw [Bench.hasDir_results (hremoved.root hruns) hruns.plain hruns.short haccepted]
        rintro ⟨own, hown⟩
        rw [Node.get?_append, hremoved.get?_other (by decide), ← Node.get?_append, hfree.1] at hown
        cases hown
      rw [if_neg hnone]
      rfl
    | some .completed, .inr ⟨hfull, _⟩ => exact absurd hfree hfull
    | some .completed, .inl ⟨_, hcompleted, _⟩ =>
      have hsome : last.hasDir (settings.workspace.results.join name) = true := by
        rw [Bench.hasDir_results (hcompleted.root hruns) hruns.plain hruns.short haccepted]
        obtain ⟨own, results, hresults, -⟩ := hcompleted.get?_results hruns
        exact ⟨own, by rw [Node.get?_snoc hresults]; exact Named.lookup_set_self name _ results⟩
      rw [if_pos hsome]
      rfl
  refine ⟨last, ?_, hended⟩
  rw [finish, hact]
  cases answered with
  | error failure => rfl
  | ok choice =>
    simp only [Except.map, ← hboots, ← hresult]
    rfl

/-- The end of a run in general. -/
theorem Reached.finish_ended
    (h : Reached settings.workspace w name base header scenario fate trial bench)
    (directory : Path) (answered : Except Error (Option String)) :
    ∃ result last, finish settings directory answered trial bench = (result, last)
      ∧ Ended w name base header scenario fate last
      ∧ (∀ failure, answered = .error failure → result = .error failure)
      ∧ (¬ base.files.IsFree (Root.results.place w) name → fate = none ∨ fate = some .completed →
        ∃ failure, result = .error failure) := by
  obtain ⟨closed, trial', last, hact, hended, -, hfull, -⟩ := h.act_close
  refine ⟨_, last, by rw [finish, hact], hended, ?_, fun hnot hfate => ?_⟩
  · rintro failure rfl
    rfl
  · obtain ⟨failure, rfl⟩ := hfull hnot hfate
    cases answered with
    | error failure' => exact ⟨failure', rfl⟩
    | ok choice => exact ⟨failure, rfl⟩

/-- The actions that are carried out in a run in which the operator has answered. -/
def deedsOf (machine : Machine) (menu : Menu) (trial : Trial) (chosen : Bench) :
    Except Error (Option String) → List Deed
  | .ok choice => Action.deeds machine (actionsOf menu choice) trial chosen
  | .error _ => []

/-- What a run answers before its trial is closed: the choice, unless there is none to be had or one
of its actions fails. -/
def answeredOf (deeds : List Deed) (answer : Except Error (Option String)) :
    Except Error (Option String) := do
  let choice ← answer
  Deed.outcomeOf deeds
  return choice

/-- What a run does once the operator has answered: the deeds decide what is reached, and then the
trial is closed. -/
theorem IsOpen.conclude {machine : Machine} {chosen : Bench}
    (hmachine : machine.WritesOnlyLogs)
    (h : IsOpen settings.workspace w name base header trial.scenario trial chosen)
    (directory : Path) (menu : Menu) (answer : Except Error (Option String)) :
    ∃ trial' after,
      conclude settings machine directory menu answer trial chosen
          = finish settings directory (answeredOf (deedsOf machine menu trial chosen answer) answer)
            trial' after
        ∧ Reached settings.workspace w name base header
          ((deedsOf machine menu trial chosen answer).foldl Deed.write trial.scenario)
          ((deedsOf machine menu trial chosen answer).findSome? (Deed.fate? machine)) trial' after
        ∧ trial'.isSameBoot = trial.isSameBoot := by
  cases answer with
  | error failure => exact ⟨trial, chosen, rfl, h, rfl⟩
  | ok choice =>
    obtain ⟨trial', after, hact, hreached⟩ := h.act_runAll hmachine rfl (actionsOf menu choice)
    have hboots := KeepsBoots.runAll machine (actionsOf menu choice) chosen trial
    rw [hact] at hboots
    refine ⟨trial', after, ?_, hreached, hboots⟩
    simp only [Trial.conclude, hact, deedsOf, answeredOf]
    cases Deed.outcomeOf (Action.deeds machine (actionsOf menu choice) trial chosen) <;> rfl

/-- The run of a test that has been prepared and about which the operator has been asked. -/
theorem perform_runAt_prepared {machine : Machine} {operator : Operator} {ready chosen : Bench}
    {menu : Menu} {answer : Except Error (Option String)} {directory : Path}
    (hprepare : base.perform (prepare settings machine directory) = (.ok (trial, menu), ready))
    (hchoose : ready.perform (choose machine operator settings.notify.message menu trial)
      = (answer, chosen)) :
    base.perform (runAt settings machine operator directory)
      = conclude settings machine directory menu answer trial chosen := by
  rw [perform_runAt, hprepare]
  simp only [hchoose]

end Trial

end BootTrial
