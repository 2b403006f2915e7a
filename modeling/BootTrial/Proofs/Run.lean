import BootTrial.Proofs.Preparation

/-!
# The parts of a run

`Bench.act` does work on a trial on a bench. The equations here say how the outcome of composed work
comes from its parts, and `Trial.perform_runAt` takes the run of a test apart: the preparation, after
which a failure ends the run; the choice of the operator (`Trial.choose`); the actions of this
choice; and the closing of the test, which happens whatever came of the choice and of the actions
(`Trial.finish`).
-/

namespace BootTrial

namespace Bench

variable {α β : Type}

/-- What comes of doing work on a trial on a bench: its result, with the trial and the bench that it
leaves. -/
def act (bench : Bench) (trial : Trial) (work : TrialWork α) : Except Error α × Trial × Bench :=
  match (work.run.run trial).run bench with
  | ((result, trial), bench) => (result, trial, bench)

/-- Work on a trial that only gives a value. -/
@[simp] theorem act_pure (bench : Bench) (trial : Trial) (a : α) :
    bench.act trial (pure a) = (.ok a, trial, bench) := rfl

/-- Work on a trial that goes on where other work has succeeded. -/
theorem act_bind (bench : Bench) (trial : Trial) (work : TrialWork α) (next : α → TrialWork β) :
    bench.act trial (work >>= next)
      = match bench.act trial work with
        | (.ok a, trial, after) => after.act trial (next a)
        | (.error failure, trial, after) => (.error failure, trial, after) := by
  unfold act
  rw [ExceptT.run_bind, StateT.run_bind, StateT.run_bind]
  rcases (work.run.run trial).run bench with ⟨⟨_ | _, _⟩, after⟩ <;> rfl

/-- Work on a trial that goes on where other work has succeeded, when it has. -/
theorem act_bind_ok {bench after : Bench} {trial trial' : Trial} {work : TrialWork α} {a : α}
    (h : bench.act trial work = (.ok a, trial', after)) (next : α → TrialWork β) :
    bench.act trial (work >>= next) = after.act trial' (next a) := by
  rw [act_bind, h]

/-- Work on a trial that goes on where other work has succeeded, when it has not. -/
theorem act_bind_error {bench after : Bench} {trial trial' : Trial} {work : TrialWork α}
    {failure : Error} (h : bench.act trial work = (.error failure, trial', after))
    (next : α → TrialWork β) :
    bench.act trial (work >>= next) = (.error failure, trial', after) := by
  rw [act_bind, h]

/-- Work that leaves the trial alone. -/
@[simp] theorem act_lift (bench : Bench) (trial : Trial) (work : Work α) :
    bench.act trial (liftM work) = ((bench.perform work).1, trial, (bench.perform work).2) := rfl

/-- Looking at the trial. -/
@[simp] theorem act_getTrial (bench : Bench) (trial : Trial) :
    bench.act trial (getThe Trial) = (.ok trial, trial, bench) := rfl

/-- Looking at the bench. -/
@[simp] theorem act_getBench (bench : Bench) (trial : Trial) :
    bench.act trial (getThe Bench) = (.ok bench, trial, bench) := rfl

/-- Changing the trial. -/
@[simp] theorem act_modifyTrial (bench : Bench) (trial : Trial) (change : Trial → Trial) :
    bench.act trial (modifyThe Trial change) = (.ok (), change trial, bench) := rfl

/-- Marking the trial closed. -/
@[simp] theorem act_markClosed (bench : Bench) (trial : Trial) :
    bench.act trial Trial.markClosed = (.ok (), { trial with isClosed := true }, bench) := rfl

/-- Work on a trial as work on the bench. -/
theorem perform_on (bench : Bench) (trial : Trial) (work : TrialWork α) :
    bench.perform (work.on trial)
      = (.ok ((bench.act trial work).1, (bench.act trial work).2.1),
          (bench.act trial work).2.2) := rfl

end Bench

/-- Carrying out one action and then others. -/
theorem Action.act_runAll_cons (bench : Bench) (trial : Trial) (machine : Machine)
    (action : Action) (rest : List Action) :
    bench.act trial (runAll machine (action :: rest))
      = match bench.act trial (action.run machine) with
        | (.ok (), trial, after) => after.act trial (runAll machine rest)
        | (.error failure, trial, after) => (.error failure, trial, after) := by
  rw [runAll, Bench.act_bind]
  rcases bench.act trial (action.run machine) with ⟨_ | _, _, _⟩ <;> rfl

/-- How far restarting has come, and what came of it: the disk is flushed, the trial is closed, and
the machine is asked to restart, each only once the step before it has succeeded. -/
inductive Action.Rebooting (machine : Machine) (trial : Trial) (bench : Bench) :
    Except Error Unit → Trial → Bench → Prop
  /-- The disk could not be flushed. -/
  | unflushed {failure : Error} {flushed : Bench}
    (hflush : bench.perform (machine.ask .sync) = (.error failure, flushed)) :
    Rebooting machine trial bench (.error failure) trial flushed
  /-- The trial could not be closed. -/
  | unclosed {failure : Error} {trial' : Trial} {flushed after : Bench}
    (hflush : bench.perform (machine.ask .sync) = (.ok (), flushed))
    (hclose : flushed.act trial Trial.close = (.error failure, trial', after)) :
    Rebooting machine trial bench (.error failure) trial' after
  /-- The machine has been asked. -/
  | asked {goal : Option Path} {outcome : Except Error Unit} {trial' : Trial}
    {flushed closed after : Bench}
    (hflush : bench.perform (machine.ask .sync) = (.ok (), flushed))
    (hclose : flushed.act trial Trial.close = (.ok goal, trial', closed))
    (hask : closed.perform (machine.ask .reboot) = (outcome, after)) :
    Rebooting machine trial bench outcome trial' after

/-- Restarting ends in one of these ways. -/
theorem Action.act_runReboot (machine : Machine) (trial : Trial) (bench : Bench) :
    ∃ outcome trial' after, bench.act trial (runReboot machine) = (outcome, trial', after)
      ∧ Rebooting machine trial bench outcome trial' after := by
  unfold runReboot
  rw [Bench.act_bind, Bench.act_lift]
  rcases hflush : bench.perform (machine.ask .sync) with ⟨failure | _, flushed⟩
  · exact ⟨_, _, _, rfl, .unflushed hflush⟩
  · simp only
    rw [Bench.act_bind]
    rcases hclose : flushed.act trial Trial.close with ⟨failure | goal, trial', closed⟩
    · exact ⟨_, _, _, rfl, .unclosed hflush hclose⟩
    · exact ⟨_, _, _, rfl, .asked hflush hclose rfl⟩

namespace Trial

/-- Calls the operator and has an entry of the menu chosen. An empty menu is not shown. -/
def choose (machine : Machine) (operator : Operator) (message : String) (menu : Menu)
    (trial : Trial) : Work (Option String) := do
  if menu.isEmpty then return none
  if trial.isSameBoot then machine.ask (.announce message)
  operator.ask trial.scenario.title menu

/-- The actions of a choice, none if nothing is chosen. -/
def actionsOf (menu : Menu) (choice : Option String) : List Action :=
  choice.elim [] menu.actionsOf

/-- Closes a trial at the end of its run, and gives the result of the run. -/
def finish (settings : Settings) (directory : Path) (answered : Except Error (Option String))
    (trial : Trial) (bench : Bench) : Except Error TrialRun × Bench :=
  match bench.act trial close with
  | (closed, trial, after) =>
    (do
      let choice ← answered
      let moved ← closed
      return {
        directory
        isSameBoot := trial.isSameBoot
        choice
        result := moved.or (resultOf directory settings.workspace.results after) }, after)

/-- What a run does once the operator has answered, or could not be asked: it carries out the
actions of the choice and closes the trial. -/
def conclude (settings : Settings) (machine : Machine) (directory : Path) (menu : Menu)
    (answer : Except Error (Option String)) (trial : Trial) (chosen : Bench) :
    Except Error TrialRun × Bench :=
  match answer with
  | .error failure => finish settings directory (.error failure) trial chosen
  | .ok choice =>
    match chosen.act trial (Action.runAll machine (actionsOf menu choice)) with
    | (outcome, trial, after) =>
      finish settings directory (outcome.map fun _ => choice) trial after

/-- To ask the operator and carry out the choice is to have something chosen and then to carry out
its actions. -/
theorem act_consult (bench : Bench) (trial : Trial) (machine : Machine) (operator : Operator)
    (message : String) (menu : Menu) :
    bench.act trial (consult machine operator message menu)
      = match bench.perform (choose machine operator message menu trial) with
        | (.error failure, after) => (.error failure, trial, after)
        | (.ok choice, after) =>
          match after.act trial (Action.runAll machine (actionsOf menu choice)) with
          | (.error failure, trial, last) => (.error failure, trial, last)
          | (.ok (), trial, last) => (.ok choice, trial, last) := by
  -- What follows the call is the same whether or not the machine announces it.
  have hask : ∀ {respond : Option String → TrialWork (Option String)}, respond none = pure none →
      (∀ description, respond (some description) = do
        Action.runAll machine (menu.actionsOf description)
        return some description) →
      ∀ bench : Bench,
      bench.act trial ((operator.ask trial.scenario.title menu : Work (Option String)) >>= respond)
        = match bench.perform (operator.ask trial.scenario.title menu) with
          | (.error failure, after) => (.error failure, trial, after)
          | (.ok choice, after) =>
            match after.act trial (Action.runAll machine (actionsOf menu choice)) with
            | (.error failure, trial, last) => (.error failure, trial, last)
            | (.ok (), trial, last) => (.ok choice, trial, last) := by
    intro respond hnone hsome bench
    rw [Bench.act_bind, Bench.act_lift]
    rcases bench.perform (operator.ask trial.scenario.title menu) with ⟨failure | choice, after⟩
    · rfl
    · cases choice with
      | none =>
        simp only [hnone]
        rfl
      | some description =>
        simp only [hsome, actionsOf, Option.elim, Bench.act_bind]
        rcases after.act trial (Action.runAll machine (menu.actionsOf description)) with
          ⟨_ | _, _, _⟩ <;> rfl
  unfold consult choose
  rw [Bench.act_bind, Bench.act_getTrial]
  simp only
  by_cases hempty : menu.isEmpty = true
  · simp [hempty, actionsOf, Action.runAll]
  rw [if_neg hempty, if_neg hempty]
  by_cases hsame : trial.isSameBoot = true
  · simp only [hsame, if_true]
    rw [Bench.act_bind, Bench.act_lift, Bench.perform_bind]
    rcases bench.perform (machine.ask (.announce message)) with ⟨failure | _, after⟩
    · rfl
    · refine hask ?_ ?_ after
      · rfl
      · exact fun _ => rfl
  · simp only [hsame]
    refine hask ?_ ?_ bench
    · rfl
    · exact fun _ => rfl

/-- The run of a test. -/
theorem perform_runAt (bench : Bench) (settings : Settings) (machine : Machine)
    (operator : Operator) (directory : Path) :
    bench.perform (runAt settings machine operator directory)
      = match bench.perform (prepare settings machine directory) with
        | (.error failure, after) => (.error failure, after)
        | (.ok (trial, menu), ready) =>
          match ready.perform (choose machine operator settings.notify.message menu trial) with
          | (answer, chosen) => conclude settings machine directory menu answer trial chosen := by
  have hfinish : ∀ (answered : Except Error (Option String)) (trial : Trial) (bench : Bench),
      bench.perform (do
        let closing ← close.on trial
        let choice ← Work.ofExcept answered
        let moved ← Work.ofExcept closing.1
        return {
          directory
          isSameBoot := closing.2.isSameBoot
          choice
          result := moved.or (resultOf directory settings.workspace.results (← get)) })
        = finish settings directory answered trial bench := by
    intro answered trial bench
    rw [finish, Bench.perform_bind, Bench.perform_on]
    rcases bench.act trial close with ⟨closed, trial', after⟩
    cases answered with
    | error failure => rfl
    | ok choice => cases closed <;> rfl
  unfold runAt prepare
  rw [Bench.perform_bind, Bench.perform_bind]
  rcases bench.perform (load settings machine directory) with ⟨failure | trial, bench₁⟩
  · rfl
  simp only
  rw [Bench.perform_bind, Bench.perform_bind]
  rcases bench₁.perform (settings.menu trial.conditions) with ⟨failure | menu, bench₂⟩
  · rfl
  simp only
  rw [Bench.perform_bind, Bench.perform_bind]
  rcases bench₂.perform (trial.captureLogs machine) with ⟨failure | _, bench₃⟩
  · rfl
  simp only [Bench.perform_pure]
  rw [Bench.perform_bind, Bench.perform_on, act_consult]
  rcases bench₃.perform (choose machine operator settings.notify.message menu trial) with
    ⟨failure | choice, bench₄⟩
  · exact hfinish (.error failure) trial bench₄
  · simp only [conclude]
    rcases bench₄.act trial (Action.runAll machine (actionsOf menu choice)) with
      ⟨failure | _, trial', bench₅⟩
    · exact hfinish (.error failure) trial' bench₅
    · exact hfinish (.ok choice) trial' bench₅

end Trial

end BootTrial
