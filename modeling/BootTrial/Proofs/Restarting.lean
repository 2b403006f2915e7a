import BootTrial.Proofs.Beginning
import BootTrial.Proofs.Choice
import BootTrial.Proofs.Moments

/-!
# Restarting

A restart may stop the program, so all that is to last has to lie on the disk before the machine is
asked. At this moment the disk has been flushed and the test has left the running root: it has been
deleted by an action in front of the restart, or it lies in the results with every result in its
scenario file that has been written in front of the restart (`Trial.Settled`). The next start of the
program begins another test, or has nothing to do (`Trial.runAt_restarts`).

`Trial.Course` is what the actions preserve, one by one, as long as none of them leaves the test.
-/

namespace BootTrial

namespace Action

/-- A scenario with what an action writes into it. -/
def writeInto (scenario : Scenario) : Action → Scenario
  | .writeResult column result => scenario.set column result
  | .reboot | .discard | .quit => scenario

/-- What actions write into a column that they do not write is nothing. -/
theorem get?_foldl_writeInto_of_not_mem {column : String} {actions : List Action}
    (h : ∀ result, .writeResult column result ∉ actions) (scenario : Scenario) :
    (actions.foldl writeInto scenario).get? column = scenario.get? column := by
  induction actions generalizing scenario with
  | nil => rfl
  | cons action rest ih =>
    rw [List.foldl_cons, ih fun result hmem => h result (List.mem_cons_of_mem action hmem)]
    cases action with
    | reboot | discard | quit => rfl
    | writeResult other result =>
      have hne : column ≠ other := fun hsame => h result (hsame ▸ List.mem_cons_self)
      exact Named.lookup_set_of_ne hne result scenario.fields

/-- Actions write the last result for each column. -/
theorem get?_foldl_writeInto {column result : String} {back : List Action}
    (h : ∀ later, .writeResult column later ∉ back) (scenario : Scenario) (front : List Action) :
    ((front ++ .writeResult column result :: back).foldl writeInto scenario).get? column
      = some result := by
  rw [List.foldl_append, List.foldl_cons, get?_foldl_writeInto_of_not_mem h]
  exact Named.lookup_set_self column result _

/-- If some actions write results, the scenario file of a test holds the scenario with these in it. -/
def Written (scenario : Scenario) (actions : List Action) (d : Place) (files : Node) : Prop :=
  ∀ column result, .writeResult column result ∈ actions →
    (actions.foldl writeInto scenario).IsIn d files

namespace Written

variable {scenario : Scenario} {actions : List Action} {d e : Place} {before after : Node}

/-- What has been written is where the scenario file is. -/
theorem of_get? (h : Written scenario actions d before)
    (hfile : after.get? (e ++ [scenarioName]) = before.get? (d ++ [scenarioName])) :
    Written scenario actions e after := by
  intro column result hmem
  obtain ⟨runnable, hget⟩ := h column result hmem
  exact ⟨runnable, hfile.trans hget⟩

/-- An action that writes nothing adds nothing. -/
theorem snoc (h : Written scenario actions d before) {action : Action}
    (haction : ∀ column result, action ≠ .writeResult column result) :
    Written scenario (actions ++ [action]) d before := by
  intro column result hmem
  rw [List.mem_append, List.mem_singleton] at hmem
  have hsame : ∀ record, writeInto record action = record := by
    cases action with
    | writeResult other late => exact absurd rfl (haction other late)
    | reboot | discard | quit => exact fun _ => rfl
  rw [List.foldl_append, List.foldl_cons, List.foldl_nil, hsame]
  exact h column result (hmem.resolve_right fun hlast => haction column result hlast.symm)

end Written

end Action

namespace Trial

/-- After some actions it is settled what becomes of a test since the bench `base`: one of them has
deleted it, or it lies in the results with what they have written. -/
def Settled (w : Place) (name : String) (base : Bench) (scenario : Scenario) (done : List Action)
    (bench : Bench) : Prop :=
  (.discard ∈ done ∧ base.Removed (Root.running.place w ++ [name]) bench)
    ∨ (base.Completed w name bench
      ∧ Action.Written scenario done (Root.results.place w ++ [name]) bench.files)

/-- How far a test has come since the bench `base` when some actions have been carried out on it,
none of which leaves it: its trial is open and what they have written is in its file, or its trial
is closed and it is settled what becomes of it. -/
inductive Course (workspace : Workspace) (w : Place) (name : String) (base : Bench)
    (scenario : Scenario) (done : List Action) (trial : Trial) (bench : Bench) : Prop
  /-- The trial is open. -/
  | isOpen (header : List String)
      (here : IsOpen workspace w name base header (done.foldl Action.writeInto scenario) trial bench)
      (same : trial.scenario = done.foldl Action.writeInto scenario)
      (written : Action.Written scenario done (Root.running.place w ++ [name]) bench.files)
  /-- The trial is closed. -/
  | settled (closed : trial.isClosed = true) (settled : Settled w name base scenario done bench)

variable {workspace : Workspace} {machine : Machine} {w : Place} {name : String}
  {base bench after : Bench} {scenario : Scenario} {done : List Action} {trial trial' : Trial}

/-- What is settled stays so while the files do not change. -/
theorem Settled.quiet (h : Settled w name base scenario done bench)
    (hquiet : Bench.Quiet (fun _ => True) bench after) :
    Settled w name base scenario done after := by
  rcases h with ⟨hmem, hremoved⟩ | ⟨hcompleted, hwritten⟩
  · exact .inl ⟨hmem, hremoved.quiet hquiet⟩
  · exact .inr ⟨hcompleted.quiet hquiet, hwritten.of_get? (by rw [hquiet.files])⟩

/-- What is settled stays so by an action that writes nothing. -/
theorem Settled.snoc (h : Settled w name base scenario done bench) {action : Action}
    (haction : ∀ column result, action ≠ .writeResult column result) :
    Settled w name base scenario (done ++ [action]) bench := by
  rcases h with ⟨hmem, hremoved⟩ | ⟨hcompleted, hwritten⟩
  · exact .inl ⟨List.mem_append_left _ hmem, hremoved⟩
  · exact .inr ⟨hcompleted, hwritten.snoc haction⟩

/-- A closed trial takes no action but a restart, and being left. -/
theorem act_run_closed_ok {action : Action} (hclosed : trial.isClosed = true)
    (h : bench.act trial (action.run machine) = (.ok (), trial', after)) :
    action = .reboot ∨ action = .quit := by
  have hrefused : trial.requireOpen = .error (.alreadyClosed trial.directory) := by
    simp [requireOpen, hclosed]
  cases action with
  | reboot => exact .inl rfl
  | quit => exact .inr rfl
  | discard | writeResult column result =>
    simp only [Action.run, Action.runDiscard, Action.runWriteResult] at h
    rw [Bench.act_bind_ok (Bench.act_getTrial bench trial)] at h
    simp only [hrefused] at h
    cases h

namespace Course

/-- Nothing changes while the files do not change. -/
theorem quiet (h : Course workspace w name base scenario done trial bench)
    (hquiet : Bench.Quiet (fun _ => True) bench after) :
    Course workspace w name base scenario done trial after := by
  cases h with
  | isOpen header here same written =>
    exact .isOpen header (here.quiet hquiet) same (written.of_get? (by rw [hquiet.files]))
  | settled closed settled => exact .settled closed (settled.quiet hquiet)

/-- With the trial closed it is settled what becomes of the test. -/
theorem act_close (h : Course workspace w name base scenario done trial bench) {goal : Option Path}
    (hact : bench.act trial close = (.ok goal, trial', after)) :
    trial'.isClosed = true ∧ Settled w name base scenario done after := by
  cases h with
  | isOpen header here same written =>
    rcases here.act_close with ⟨-, last, hclose, hcompleted, hfile⟩ | ⟨-, failure, hclose⟩
    · rw [hclose] at hact
      cases hact
      exact ⟨rfl, .inr ⟨hcompleted, written.of_get? hfile⟩⟩
    · rw [hclose] at hact
      cases hact
  | settled closed settled =>
    rw [act_close_closed closed] at hact
    cases hact
    exact ⟨closed, settled⟩

/-- Before the machine is asked to restart the disk is flushed, and it is settled what becomes of the
test. -/
theorem runReboot_inv (hmachine : machine.WritesOnlyLogs)
    (h : Course workspace w name base scenario done trial bench)
    (hact : bench.act trial (Action.runReboot machine) = (.ok (), trial', after)) :
    trial'.isClosed = true ∧ Settled w name base scenario done after := by
  have hsync : Keeps (Bench.Quiet fun _ => True) (machine.ask .sync) :=
    hmachine.ask_quiet rfl trivial trivial
  have hreboot : Keeps (Bench.Quiet fun _ => True) (machine.ask .reboot) :=
    hmachine.ask_quiet rfl trivial trivial
  obtain ⟨_, trial₁, flushed, hflush, hrest⟩ := Bench.act_bind_inv hact
  obtain ⟨goal, trial₂, closed, hclose, hask⟩ := Bench.act_bind_inv hrest
  obtain ⟨rfl, hflushed⟩ := Bench.act_lift_inv hflush
  obtain ⟨rfl, hasked⟩ := Bench.act_lift_inv hask
  have hquiet := hsync bench
  rw [hflushed] at hquiet
  obtain ⟨hclosed, hsettled⟩ := (h.quiet hquiet).act_close hclose
  have hquiet' := hreboot closed
  rw [hasked] at hquiet'
  exact ⟨hclosed, hsettled.quiet hquiet'⟩

/-- One more action is carried out. -/
theorem act_run {action : Action} (hmachine : machine.WritesOnlyLogs) (haction : action ≠ .quit)
    (h : Course workspace w name base scenario done trial bench)
    (hact : bench.act trial (action.run machine) = (.ok (), trial', after)) :
    Course workspace w name base scenario (done ++ [action]) trial' after := by
  have hreboot : ∀ {trial' : Trial} {after : Bench},
      bench.act trial (Action.runReboot machine) = (.ok (), trial', after) →
      Course workspace w name base scenario (done ++ [.reboot]) trial' after := by
    intro trial' after hact
    obtain ⟨hclosed, hsettled⟩ := h.runReboot_inv hmachine hact
    exact .settled hclosed (hsettled.snoc (by simp))
  cases h with
  | settled closed settled =>
    rcases act_run_closed_ok closed hact with rfl | rfl
    · exact hreboot hact
    · exact absurd rfl haction
  | isOpen header here same written =>
    cases action with
    | quit => exact absurd rfl haction
    | reboot => exact hreboot hact
    | discard =>
      obtain ⟨last, hdiscard, hremoved⟩ := here.act_discard
      obtain ⟨rfl, rfl⟩ : _ = trial' ∧ last = after := by simpa using hdiscard.symm.trans hact
      exact .settled rfl (.inl ⟨by simp, hremoved⟩)
    | writeResult column result =>
      rcases here.act_writeResult same column result with ⟨failure, trial₁, last, hwrite, -⟩ |
        ⟨trial₁, last, hwrite, hopen, hscenario, hin⟩
      · cases hwrite.symm.trans hact
      · obtain ⟨rfl, rfl⟩ : trial₁ = trial' ∧ last = after := by
          simpa using hwrite.symm.trans hact
        have hfold : (done ++ [Action.writeResult column result]).foldl Action.writeInto scenario
            = (done.foldl Action.writeInto scenario).set column result := by
          rw [List.foldl_append]
          rfl
        refine .isOpen header (hfold ▸ hopen) (hscenario.trans hfold.symm) fun _ _ _ => ?_
        rw [hfold]
        exact hin

/-- More actions are carried out. -/
theorem act_runAll (hmachine : machine.WritesOnlyLogs) {actions : List Action}
    (hquit : .quit ∉ actions) (h : Course workspace w name base scenario done trial bench)
    (hact : bench.act trial (Action.runAll machine actions) = (.ok (), trial', after)) :
    Course workspace w name base scenario (done ++ actions) trial' after := by
  induction actions generalizing done trial bench with
  | nil =>
    obtain ⟨rfl, rfl⟩ : trial = trial' ∧ bench = after := by simpa [Action.runAll] using hact
    rwa [List.append_nil]
  | cons action rest ih =>
    obtain ⟨_, trial₁, middle, hfirst, hrest⟩ := Bench.act_bind_inv hact
    rw [List.mem_cons, not_or] at hquit
    have hstep := h.act_run hmachine (Ne.symm hquit.1) hfirst
    simpa using ih hquit.2 hstep hrest

end Course

end Trial

section Moment

variable {machine : Machine} {operator : Operator} {settings : Settings} {bench : Bench}
  {trial : Trial} {moment : Moment} {earlier : List Moment}

/-- When the machine is asked to restart, the disk has been flushed and the trial has been closed. -/
theorem Action.runReboot_came (hmachine : machine.WritesOnlyLogs)
    (hcame : Bench.Came moment earlier bench (bench.act trial (runReboot machine)).2.2)
    (hevent : moment.event = .asked .reboot) :
    ∃ flushed goal trial' closed, bench.perform (machine.ask .sync) = (.ok (), flushed)
      ∧ flushed.act trial Trial.close = (.ok goal, trial', closed)
      ∧ moment.files = closed.files ∧ earlier = closed.history := by
  have hnot : ∀ {before after : Bench}, before.Only (· = .changed) after →
      ¬ Bench.Came moment earlier before after := fun honly hcame => by
    cases hevent.symm.trans (honly.of_came hcame)
  -- It is not yet asked when the disk is flushed, and not when the trial is closed.
  have hsync : ¬ Bench.Came moment earlier bench (bench.perform (machine.ask .sync)).2 := fun hcame => by
    obtain ⟨rfl, -⟩ := hmachine.ask_came hcame (by simp [hevent])
    cases hevent
  have hclosing : KeepsActing (Bench.Only (· = .changed)) Trial.close := Trial.close_only rfl
  have hasking : Keeps (Bench.Only fun _ => True) (machine.ask .reboot) :=
    hmachine.ask_only trivial trivial
  unfold runReboot at hcame
  rw [Bench.act_bind, Bench.act_lift] at hcame
  rcases hflush : bench.perform (machine.ask .sync) with ⟨failure | _, flushed⟩
  all_goals rw [hflush] at hcame hsync
  · exact absurd hcame hsync
  simp only at hcame
  rw [Bench.act_bind] at hcame
  have hquiet := hclosing flushed trial
  rcases hclose : flushed.act trial Trial.close with ⟨failure | goal, trial', closed⟩
  all_goals rw [hclose] at hcame hquiet
  · exact ((hcame.split hquiet.grows).elim hsync (hnot hquiet)).elim
  simp only [Bench.act_lift] at hcame
  rcases hcame.split (hasking closed).grows with hcame | hcame
  · exact ((hcame.split hquiet.grows).elim hsync (hnot hquiet)).elim
  · obtain ⟨rfl, rfl⟩ := hmachine.ask_came hcame (by simp [hevent])
    exact ⟨flushed, goal, trial', closed, rfl, hclose, rfl, rfl⟩

/-- When the machine is asked to restart in the course of some actions, this is done by one of them,
and those in front of it have been carried out. -/
theorem Action.runAll_came (hmachine : machine.WritesOnlyLogs) {actions : List Action}
    (hcame : Bench.Came moment earlier bench (bench.act trial (runAll machine actions)).2.2)
    (hevent : moment.event = .asked .reboot) :
    ∃ front back trial' before, actions = front ++ .reboot :: back
      ∧ bench.act trial (runAll machine front) = (.ok (), trial', before)
      ∧ Bench.Came moment earlier before (before.act trial' (runReboot machine)).2.2 := by
  induction actions generalizing trial bench with
  | nil => exact absurd hcame (Bench.Came.not_self bench)
  | cons action rest ih =>
    -- If it is asked by the first action, there is none in front.
    have hfirst : Bench.Came moment earlier bench (bench.act trial (action.run machine)).2.2 →
        ∃ front back trial' before, action :: rest = front ++ .reboot :: back
          ∧ bench.act trial (runAll machine front) = (.ok (), trial', before)
          ∧ Bench.Came moment earlier before (before.act trial' (runReboot machine)).2.2 := by
      intro hcame
      by_cases haction : action = .reboot
      · subst haction
        exact ⟨[], rest, trial, bench, rfl, rfl, hcame⟩
      · cases hevent.symm.trans ((run_only haction machine bench trial).of_came hcame)
    rw [act_runAll_cons] at hcame
    rcases hact : bench.act trial (action.run machine) with ⟨failure | _, trial', middle⟩
    all_goals rw [hact] at hcame hfirst
    · exact hfirst hcame
    · have hgrows : middle.Only (fun _ => True) (middle.act trial' (runAll machine rest)).2.2 :=
        runAll_only hmachine trivial trivial trivial rest middle trial'
      rcases hcame.split hgrows.grows with hcame | hcame
      · exact hfirst hcame
      · obtain ⟨front, back, trial'', before, rfl, hfront, hcame⟩ := ih hcame
        refine ⟨action :: front, back, trial'', before, rfl, ?_, hcame⟩
        rw [act_runAll_cons, hact]
        exact hfront

/-- When the machine is asked to restart in the course of a run, the test has been prepared and the
operator has chosen. -/
theorem Trial.runAt_came {directory : Path} (hmachine : machine.WritesOnlyLogs)
    (hoperator : operator.OnlyChooses)
    (hcame : Bench.Came moment earlier bench
      (bench.perform (runAt settings machine operator directory)).2)
    (hevent : moment.event = .asked .reboot) :
    ∃ trial menu ready choice chosen,
      bench.perform (prepare settings machine directory) = (.ok (trial, menu), ready)
        ∧ ready.perform (choose machine operator settings.notify.message menu trial)
          = (.ok choice, chosen)
        ∧ Bench.Came moment earlier chosen
          (chosen.act trial (Action.runAll machine (actionsOf menu choice))).2.2 := by
  have hpreparing := prepare_only hmachine settings directory bench
  have hnotPreparing : ¬ Bench.Came moment earlier bench
      (bench.perform (prepare settings machine directory)).2 := fun hcame => by
    have hkind := hpreparing.of_came hcame
    rw [hevent] at hkind
    exact hkind
  have hclosing : KeepsActing (Bench.Only (· = .changed)) close := close_only rfl
  have hnotClosing : ∀ (trial : Trial) (bench : Bench),
      ¬ Bench.Came moment earlier bench (bench.act trial close).2.2 := fun trial bench hcame => by
    cases hevent.symm.trans ((hclosing bench trial).of_came hcame)
  rw [perform_runAt] at hcame
  rcases hprepare : bench.perform (prepare settings machine directory) with
    ⟨failure | ⟨trial, menu⟩, ready⟩
  all_goals rw [hprepare] at hcame hnotPreparing
  · exact absurd hcame hnotPreparing
  have hchoosing : Keeps (Bench.Only (· ≠ .asked .reboot))
      (choose machine operator settings.notify.message menu trial) :=
    choose_only hmachine hoperator _ menu trial (by simp) (by simp) (by simp)
  have hchosen := hchoosing ready
  rcases hchoose : ready.perform (choose machine operator settings.notify.message menu trial) with
    ⟨answer, chosen⟩
  rw [hchoose] at hchosen
  simp only [hchoose] at hcame
  have hnotChosen : ¬ Bench.Came moment earlier bench chosen := fun hcame => by
    rcases hcame.split hchosen.grows with hcame | hcame
    · exact hnotPreparing hcame
    · exact hchosen.of_came hcame hevent
  refine ⟨trial, menu, ready, ?_⟩
  cases answer with
  | error failure =>
    rcases hcame.split (hclosing chosen trial).grows with hcame | hcame
    · exact absurd hcame hnotChosen
    · exact absurd hcame (hnotClosing trial chosen)
  | ok choice =>
    refine ⟨choice, chosen, rfl, hchoose, ?_⟩
    have hgrows : chosen.Only (fun _ => True)
        (chosen.act trial (Action.runAll machine (actionsOf menu choice))).2.2 :=
      Action.runAll_only hmachine trivial trivial trivial _ chosen trial
    simp only [conclude] at hcame
    rcases hact : chosen.act trial (Action.runAll machine (actionsOf menu choice)) with
      ⟨outcome, trial', after⟩
    rw [hact] at hcame hgrows
    rcases hcame.split (hclosing after trial').grows with hcame | hcame
    · exact (hcame.split hgrows.grows).resolve_left hnotChosen
    · exact absurd hcame (hnotClosing trial' after)

end Moment

namespace Bench

variable {w : Place} {name : String} {before after : Bench}

/-- The program is where it was when a test has been deleted. -/
theorem Removed.here {d : Place} (h : Removed d before after) : after.here = before.here := by
  obtain ⟨last, hinside, hquiet⟩ := h
  exact hquiet.here.trans hinside.here

/-- The program is where it was when a test has been completed. -/
theorem Completed.here (h : Completed w name before after) : after.here = before.here := by
  obtain ⟨last, ready, own, hinside, hmade, -, -, hquiet⟩ := h
  have hready : ready.here = last.here := by
    rcases hmade with rfl | ⟨-, rfl⟩
    · rfl
    · rfl
  exact hquiet.here.trans (hready.trans hinside.here)

end Bench

namespace Trial

/-- What the files are like when the machine is asked to restart after some actions none of which
has left the test: what has come of it is on the disk, and the next start of the program does not
come back to it. -/
structure KeepsVerdict (workspace : Workspace) (w : Place) (name : String) (base : Bench)
    (scenario : Scenario) (front : List Action) (files : Node) : Prop where
  /-- The test is not in the running root. -/
  gone : files.get? (Root.running.place w ++ [name]) = none
  /-- It has been deleted by one of the actions, or it lies in the results with what they have
  written. -/
  verdict : (.discard ∈ front
      ∧ files.get? (Root.results.place w) = base.files.get? (Root.results.place w))
    ∨ (files.HasDir (Root.results.place w ++ [name])
      ∧ Action.Written scenario front (Root.results.place w ++ [name]) files)
  /-- The tests that wait are the same. -/
  waiting : files.get? (Root.pending.place w) = base.files.get? (Root.pending.place w)
  /-- If the test was the only one in the running root, the next start begins another one, whichever
  boot the machine is in then. -/
  next : (∀ other ∈ base.files.namesAt (Root.running.place w), other = name) →
    ∀ (again : Bench) (settings : Settings) (machine : Machine) (operator : Operator),
    again.files = files → again.here = base.here → settings.workspace = workspace →
    machine.WritesOnlyLogs → again.BeginsNext settings machine operator w

variable {workspace : Workspace} {w : Place} {name : String} {base bench : Bench}
  {scenario : Scenario} {front : List Action}

/-- Once it is settled what becomes of a test the verdict is kept. -/
theorem Settled.keepsVerdict (h : Settled w name base scenario front bench)
    (hruns : workspace.Runs w name base)
    (haccepted : (workspace.running.join name).refusal? = none) :
    KeepsVerdict workspace w name base scenario front bench.files := by
  obtain ⟨entries, hentries⟩ := hruns.dir.above
  have hrunning : workspace.running.refusal? = none :=
    Path.refusal?_of_join runningName_isPlain hruns.plain haccepted
  have hnext : workspace.root.Leads bench.files bench.here w → bench.here = base.here →
      bench.files.get? (Root.running.place w) = some (.dir (Named.erase name entries)) →
      (∀ other ∈ base.files.namesAt (Root.running.place w), other = name) →
      ∀ (again : Bench) (settings : Settings) (machine : Machine) (operator : Operator),
      again.files = bench.files → again.here = base.here → settings.workspace = workspace →
      machine.WritesOnlyLogs → again.BeginsNext settings machine operator w := by
    intro hroot hhere hleft hsingle again settings machine operator hfiles hhere' hsame hmachine
    have hempty : Named.erase name entries = [] := by
      rw [Named.erase, List.filter_eq_nil_iff]
      intro entry hentry
      rw [Node.namesAt_dir hentries] at hsingle
      simpa using hsingle entry.1 (List.mem_map_of_mem hentry)
    subst hsame
    refine performCycle_vacant hmachine ?_ hrunning ?_
    · rw [hfiles, hhere', ← hhere]
      exact hroot
    · rw [hfiles, hleft, hempty]
      rfl
  rcases h with ⟨hmem, hremoved⟩ | ⟨hcompleted, hwritten⟩
  · exact {
      gone := hremoved.gone hruns
      verdict := .inl ⟨hmem, hremoved.get?_other (by decide)⟩
      waiting := hremoved.get?_other (by decide)
      next := hnext (hremoved.root hruns) hremoved.here (hremoved.get?_running hentries) }
  · obtain ⟨hgone, hdir⟩ := hcompleted.moved hruns
    exact {
      gone := hgone
      verdict := .inr ⟨hdir, hwritten⟩
      waiting := hcompleted.get?_pending
      next := hnext (hcompleted.root hruns) hcompleted.here (hcompleted.get?_running hentries) }

/-- Whenever a run asks the machine to restart, this is done by an action of the choice, those in
front of it have been carried out, and the disk has been flushed. Unless the test has been left by
one of these it is gone from the running root then, with its verdict on the disk, and the next start
of the program does not come back to it. -/
theorem runAt_restarts {settings : Settings} {machine : Machine} {operator : Operator}
    {moment : Moment} {earlier : List Moment} (hmachine : machine.WritesOnlyLogs)
    (hoperator : operator.OnlyChooses) (hruns : settings.workspace.Runs w name base)
    (hfront : base.files.HasPlainFront (Root.running.place w ++ [name]))
    (hcame : Bench.Came moment earlier base (base.perform (runAt settings machine operator
      (settings.workspace.running.join name))).2)
    (hevent : moment.event = .asked .reboot) :
    ∃ trial menu ready choice chosen front back trial' before,
      base.perform (prepare settings machine (settings.workspace.running.join name))
          = (.ok (trial, menu), ready)
        ∧ ready.perform (choose machine operator settings.notify.message menu trial)
          = (.ok choice, chosen)
        ∧ actionsOf menu choice = front ++ .reboot :: back
        ∧ chosen.act trial (Action.runAll machine front) = (.ok (), trial', before)
        ∧ (before.perform (machine.ask .sync)).1 = .ok ()
        ∧ ⟨.asked .sync, before.files⟩ :: before.history <:+ earlier
        ∧ (.quit ∉ front →
          KeepsVerdict settings.workspace w name base trial.scenario front moment.files) := by
  obtain ⟨trial, menu, ready, choice, chosen, hprepare, hchoose, hcame⟩ :=
    runAt_came hmachine hoperator hcame hevent
  obtain ⟨front, back, trial', before, hactions, hact, hcame⟩ :=
    Action.runAll_came hmachine hcame hevent
  obtain ⟨flushed, goal, trial'', closed, hflush, hclose, hfiles, rfl⟩ :=
    Action.runReboot_came hmachine hcame hevent
  refine ⟨trial, menu, ready, choice, chosen, front, back, trial', before, hprepare, hchoose, hactions,
    hact, by rw [hflush], ?_, fun hquit => ?_⟩
  · -- The flush is recorded before the trial is closed.
    have hasked := (hmachine.answer_only .sync before).grows
    have hclosing : KeepsActing (Bench.Only fun _ => True) close := close_only trivial
    have hgrows := (hclosing flushed trial').grows
    rw [hflush] at hasked
    rw [hclose] at hgrows
    exact hasked.trans hgrows
  · obtain ⟨header, hopen, -, -⟩ := prepare_opens hmachine hruns hfront hprepare
    have hquiet := choose_quiet hmachine hoperator settings.notify.message menu trial ready
    rw [hchoose] at hquiet
    have hstart : Course settings.workspace w name base trial.scenario [] trial chosen :=
      .isOpen header (hopen.quiet hquiet) rfl fun _ _ hmem => by cases hmem
    have hsync : Keeps (Bench.Quiet fun _ => True) (machine.ask .sync) :=
      hmachine.ask_quiet rfl trivial trivial
    have hflushed := hsync before
    rw [hflush] at hflushed
    obtain ⟨-, hsettled⟩ := ((hstart.act_runAll hmachine hquit hact).quiet hflushed).act_close hclose
    rw [hfiles]
    exact hsettled.keepsVerdict hruns hopen.accepted

/-- A bench on which a test has just been prepared. -/
def preparedBench : Bench :=
  ((begunBench restartResponses).perform (prepare {} (.scripted begunBoot []) begunPath)).2

set_option maxRecDepth 100000 in
/-- The machine is asked to restart once the result has been written. The test lies in the results
then, with this result in its scenario file, and the next start does not come back to it. -/
theorem runAt_restarts_begun :
    ∃ moment earlier,
      Bench.Came moment earlier (begunBench restartResponses) ((begunBench restartResponses).perform
          (runAt {} (.scripted begunBoot []) .scripted begunPath)).2
        ∧ moment.event = .asked .reboot
        ∧ KeepsVerdict (Settings.workspace {}) [] begunName (begunBench restartResponses)
          restartTrial.scenario [.writeResult "result" "pass"] moment.files := by
  have hfacts : ((begunBench restartResponses).perform
          (prepare {} (.scripted begunBoot []) begunPath)).1 = .ok (restartTrial, restartMenu)
      ∧ (preparedBench.perform (choose (.scripted begunBoot []) .scripted "Ready" restartMenu
          restartTrial)).1 = .ok (some "Done [d]")
      ∧ ∃ moment ∈ ((begunBench restartResponses).perform
          (runAt {} (.scripted begunBoot []) .scripted begunPath)).2.history,
        moment.event = .asked .reboot := by decide +kernel
  obtain ⟨hprepared, hasked, moment, hmem, hevent⟩ := hfacts
  have hready : (begunBench restartResponses).perform (prepare {} (.scripted begunBoot []) begunPath)
      = (.ok (restartTrial, restartMenu), preparedBench) := by
    rw [preparedBench]
    exact Bench.perform_eq hprepared
  obtain ⟨later, earlier, hsplit⟩ := List.append_of_mem hmem
  have hcame : Bench.Came moment earlier (begunBench restartResponses)
      ((begunBench restartResponses).perform
        (runAt {} (.scripted begunBoot []) .scripted begunPath)).2 :=
    ⟨List.nil_suffix, later, hsplit.symm⟩
  obtain ⟨trial, menu, ready, choice, chosen, front, back, trial', before, hprepare, hchoose, hactions,
    -, -, -, hkeeps⟩ := runAt_restarts (Machine.scripted_writesOnlyLogs begunBoot [])
      Operator.scripted_onlyChooses (begunBench_runs restartResponses)
      (begunBench_hasPlainFront restartResponses) hcame hevent
  -- What is prepared and chosen is known, so the actions in front of the restart are.
  obtain ⟨hloaded, rfl⟩ := Prod.mk.inj (hready.symm.trans hprepare)
  obtain ⟨rfl, rfl⟩ := Prod.mk.inj (Except.ok.inj hloaded)
  have hchosen : choice = some "Done [d]" := by
    have hanswer := congrArg Prod.fst hchoose
    exact (Except.ok.inj (hasked.symm.trans hanswer)).symm
  subst hchosen
  have hlist : [Action.writeResult "result" "pass", .reboot, .writeResult "result" "late"]
      = front ++ .reboot :: back := hactions
  obtain rfl : front = [.writeResult "result" "pass"] := by
    rcases front with _ | ⟨first, _ | ⟨second, _ | ⟨third, others⟩⟩⟩
    all_goals simp_all
  exact ⟨moment, earlier, hcame, hevent, hkeeps (by simp)⟩

end Trial

end BootTrial
