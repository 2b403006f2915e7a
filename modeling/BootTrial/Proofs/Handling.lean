import BootTrial.Proofs.Acting
import BootTrial.Proofs.Choice
import BootTrial.Proofs.Relocation

/-!
# Handling a trial

A trial can be handled by carrying out any actions on it and by closing it, in any order and any
number of times, and after a failure the handling goes on (`Trial.handle`). A trial that is once
closed stays so, and no handling changes the files any more; and the directory of its test is moved
at most once (`Trial.stays_closed`).
-/

namespace BootTrial

/-- What can be done with a trial. -/
inductive Handling where
  /-- An action is carried out. -/
  | perform (action : Action)
  /-- The trial is closed. -/
  | close
  deriving DecidableEq, Repr

/-- To handle a trial in some way. -/
def Handling.run (machine : Machine) : Handling → TrialWork Unit
  | .perform action => action.run machine
  | .close => do let _ ← Trial.close

namespace Trial

/-- Handles a trial in several ways, one after the other, whatever comes of each. -/
def handle (machine : Machine) : List Handling → Trial → Bench → Trial × Bench
  | [], trial, bench => (trial, bench)
  | handling :: rest, trial, bench =>
    match bench.act trial (handling.run machine) with
    | (_, trial, bench) => handle machine rest trial bench

variable {machine : Machine} {trial : Trial} {bench after : Bench}

/-- Handling a trial in some ways and then in others. -/
theorem handle_append (machine : Machine) (front back : List Handling) (trial : Trial)
    (bench : Bench) :
    handle machine (front ++ back) trial bench
      = handle machine back (handle machine front trial bench).1
        (handle machine front trial bench).2 := by
  induction front generalizing trial bench with
  | nil => rfl
  | cons handling rest ih => exact ih _ _

/-- Handling a closed trial changes neither the trial nor the files. -/
theorem act_handling_closed (hmachine : machine.WritesOnlyLogs) (h : trial.isClosed = true)
    (bench : Bench) (handling : Handling) :
    ∃ outcome after, bench.act trial (handling.run machine) = (outcome, trial, after)
      ∧ Bench.Quiet (fun _ => True) bench after := by
  cases handling with
  | perform action =>
    obtain ⟨outcome, after, hact, hquiet, -⟩ := act_run_closed hmachine h bench action trial.scenario
    exact ⟨outcome, after, hact, hquiet⟩
  | close =>
    refine ⟨.ok (), bench, ?_, refl_of (Bench.Quiet _) _⟩
    rw [Handling.run, Bench.act_bind_ok (act_close_closed h bench)]
    rfl

/-- Handling a trial moves at most one directory, and none unless the trial is closed then. -/
theorem act_handling_steps (hmachine : machine.WritesOnlyLogs) (trial : Trial) (bench : Bench)
    (handling : Handling) :
    ∃ outcome trial' after, bench.act trial (handling.run machine) = (outcome, trial', after)
      ∧ (bench.Steadily after ∨ trial'.isClosed = true ∧ bench.MovesOnce after) := by
  have hquiet : ∀ request : Request, request.log? = none → ∀ {before after : Bench} {outcome},
      before.perform (machine.ask request) = (outcome, after) → before.Steadily after :=
    fun request hlog _ _ _ hask => .of_quiet (hmachine.quiet_after hlog hask)
  cases handling with
  | close =>
    rcases act_close_steps trial bench with ⟨closed, trial', after, hact, hsteady⟩ |
      ⟨goal, ready, files, hact, hready⟩
    · refine ⟨closed.map fun _ => (), trial', after, ?_, .inl hsteady⟩
      rw [Handling.run, Bench.act_bind, hact]
      cases closed <;> rfl
    · refine ⟨.ok (), { trial with isClosed := true }, ready.stepTo files, ?_,
        .inr ⟨rfl, ready, files, hready, refl_of Bench.Steadily _⟩⟩
      rw [Handling.run, Bench.act_bind_ok hact]
      rfl
  | perform action =>
    cases action with
    | quit => exact ⟨_, _, bench, rfl, .inl (refl_of Bench.Steadily _)⟩
    | discard =>
      have hremove : KeepsActing Bench.Steadily Action.runDiscard :=
        .runDiscard FileWork.removeTree_steadily
      exact ⟨_, _, _, rfl, .inl (hremove bench trial)⟩
    | writeResult column result =>
      have hwrite : KeepsActing Bench.Steadily (Action.runWriteResult column result) :=
        .runWriteResult (fun p => (ScenarioTable.headerAt_unmoved p).imp Bench.Steadily.of_unmoved)
          Scenario.write_steadily column result
      exact ⟨_, _, _, rfl, .inl (hwrite bench trial)⟩
    | reboot =>
      obtain ⟨outcome, trial', after, hact, hrebooting⟩ := Action.act_runReboot machine trial bench
      refine ⟨outcome, trial', after, hact, ?_⟩
      cases hrebooting with
      | unflushed hflush => exact .inl (hquiet .sync rfl hflush)
      | unclosed hflush hclose =>
        rcases act_close_steps trial _ with ⟨closed, _, _, hclosed, hsteady⟩ |
          ⟨goal, ready, files, hclosed, -⟩
        all_goals cases hclosed.symm.trans hclose
        exact .inl (trans_of _ (hquiet .sync rfl hflush) hsteady)
      | asked hflush hclose hask =>
        rcases act_close_steps trial _ with ⟨closed, _, _, hclosed, hsteady⟩ |
          ⟨goal, ready, files, hclosed, hready⟩
        all_goals cases hclosed.symm.trans hclose
        · exact .inl (trans_of _ (trans_of _ (hquiet .sync rfl hflush) hsteady)
            (hquiet .reboot rfl hask))
        · have hmoved : bench.MovesOnce (ready.stepTo files) :=
            ⟨ready, files, trans_of _ (hquiet .sync rfl hflush) hready, refl_of Bench.Steadily _⟩
          exact .inr ⟨rfl, hmoved.append (refl_of Bench.Steadily bench)
            (hquiet .reboot rfl hask)⟩

/-- Handling a closed trial in several ways. -/
theorem handle_closed (hmachine : machine.WritesOnlyLogs) (h : trial.isClosed = true)
    (handlings : List Handling) (bench : Bench) :
    (handle machine handlings trial bench).1 = trial
      ∧ Bench.Quiet (fun _ => True) bench (handle machine handlings trial bench).2 := by
  induction handlings generalizing bench with
  | nil => exact ⟨rfl, refl_of (Bench.Quiet _) bench⟩
  | cons handling rest ih =>
    obtain ⟨outcome, middle, hact, hquiet⟩ := act_handling_closed hmachine h bench handling
    obtain ⟨hsame, hquiet'⟩ := ih middle
    simp only [handle, hact]
    exact ⟨hsame, hquiet.trans hquiet'⟩

/-- Handling a trial in several ways moves at most one directory. -/
theorem handle_steps (hmachine : machine.WritesOnlyLogs) (handlings : List Handling)
    (trial : Trial) (bench : Bench) :
    bench.Steadily (handle machine handlings trial bench).2
      ∨ bench.MovesOnce (handle machine handlings trial bench).2 := by
  induction handlings generalizing trial bench with
  | nil => exact .inl (refl_of Bench.Steadily bench)
  | cons handling rest ih =>
    obtain ⟨outcome, trial', middle, hact, hsteps⟩ :=
      act_handling_steps hmachine trial bench handling
    simp only [handle, hact]
    rcases hsteps with hsteady | ⟨hclosed, hmoved⟩
    · rcases ih trial' middle with hrest | hrest
      · exact .inl (trans_of _ hsteady hrest)
      · exact .inr (hrest.append hsteady (refl_of Bench.Steadily _))
    · -- The move has closed the trial, and nothing moves any more.
      obtain ⟨-, hquiet⟩ := handle_closed hmachine hclosed rest middle
      exact .inr (hmoved.append (refl_of Bench.Steadily bench) (.of_quiet hquiet))

/-- A handling that ends the work on a trial: the operator leaves it, or its directory is deleted. -/
def Ends (trial : Trial) (bench : Bench) : Handling → Prop
  | .perform .quit => True
  | .perform .discard => (bench.act trial Action.runDiscard).1 = .ok ()
  | .perform .reboot | .perform (.writeResult _ _) | .close => False

/-- A trial is closed when the work on it has been ended. -/
theorem Ends.isClosed {handling : Handling} (h : Ends trial bench handling) (machine : Machine) :
    (bench.act trial (handling.run machine)).2.1.isClosed = true := by
  cases handling with
  | close => exact absurd h id
  | perform action =>
    cases action with
    | quit =>
      simp only [Handling.run, Action.run]
      rw [Bench.act_markClosed]
    | discard =>
      rcases hact : bench.act trial Action.runDiscard with ⟨result, trial', after⟩
      obtain rfl : result = .ok () := by
        have hok : (bench.act trial Action.runDiscard).1 = .ok () := h
        rw [hact] at hok
        exact hok
      simp only [Handling.run, Action.run, hact]
      obtain ⟨_, trial₁, bench₁, -, hrest⟩ := Bench.act_bind_inv hact
      obtain ⟨_, trial₂, bench₂, -, hrest⟩ := Bench.act_bind_inv hrest
      obtain ⟨_, trial₃, bench₃, -, hrest⟩ := Bench.act_bind_inv hrest
      cases hrest
      rfl
    | writeResult column result => exact absurd h id
    | reboot => exact absurd h id

/-- Whatever is done with a trial, and whatever comes of it: once the trial is closed it stays as it
is, and so do the files at every later moment. It is closed when the operator has left it or its
directory has been deleted. Through it all a directory is relocated at most once, into the results
root or anywhere. -/
theorem stays_closed (hmachine : machine.WritesOnlyLogs) (trial : Trial) (bench : Bench)
    (front back : List Handling) :
    ((handle machine front trial bench).1.isClosed = true →
        (handle machine (front ++ back) trial bench).1 = (handle machine front trial bench).1
          ∧ Bench.Quiet (fun _ => True) (handle machine front trial bench).2
            (handle machine (front ++ back) trial bench).2)
      ∧ (∀ earlier handling, front = earlier ++ [handling] →
          Ends (handle machine earlier trial bench).1 (handle machine earlier trial bench).2 handling →
          (handle machine front trial bench).1.isClosed = true)
      ∧ bench.RelocatesAtMostOnce (handle machine (front ++ back) trial bench).2 := by
  refine ⟨fun hclosed => ?_, fun earlier handling hfront hends => ?_, ?_⟩
  · rw [handle_append]
    exact handle_closed hmachine hclosed back _
  · rw [hfront, handle_append]
    exact hends.isClosed machine
  · rcases handle_steps hmachine (front ++ back) trial bench with hsteady | hmoved
    · exact hsteady.relocatesAtMostOnce
    · exact hmoved.relocatesAtMostOnce

/-- A bench on which a test has just been loaded. -/
def loadedBench : Bench :=
  ((begunBench restartResponses).perform (load {} (.scripted begunBoot []) begunPath)).2

set_option maxRecDepth 100000 in
/-- A test that has been loaded is closed once its result is written. Then it can neither be deleted
nor written, and a restart and another closing change nothing. -/
theorem stays_closed_completed :
    (begunBench restartResponses).perform (load {} (.scripted begunBoot []) begunPath)
        = (.ok restartTrial, loadedBench)
      ∧ (handle (.scripted begunBoot []) [.perform (.writeResult "result" "pass"), .close]
          restartTrial loadedBench).2.files.HasDir (Root.results.place [] ++ [begunName])
      ∧ (handle (.scripted begunBoot []) ([.perform (.writeResult "result" "pass"), .close]
          ++ [.perform .discard, .perform (.writeResult "result" "late"), .perform .reboot, .close])
          restartTrial loadedBench).2.files
        = (handle (.scripted begunBoot []) [.perform (.writeResult "result" "pass"), .close]
          restartTrial loadedBench).2.files
      ∧ loadedBench.RelocatesAtMostOnce (handle (.scripted begunBoot [])
          ([.perform (.writeResult "result" "pass"), .close]
            ++ [.perform .discard, .perform (.writeResult "result" "late"), .perform .reboot, .close])
          restartTrial loadedBench).2 := by
  have hfacts : ((begunBench restartResponses).perform
          (load {} (.scripted begunBoot []) begunPath)).1 = .ok restartTrial
      ∧ (handle (.scripted begunBoot []) [.perform (.writeResult "result" "pass"), .close]
          restartTrial loadedBench).1.isClosed = true
      ∧ ((handle (.scripted begunBoot []) [.perform (.writeResult "result" "pass"), .close]
          restartTrial loadedBench).2.files.get? (Root.results.place [] ++ [begunName])).any
            Node.isDir = true := by
    decide +kernel
  obtain ⟨hload, hclosed, hdir⟩ := hfacts
  obtain ⟨hstays, -, honce⟩ := stays_closed (Machine.scripted_writesOnlyLogs begunBoot [])
    restartTrial loadedBench [.perform (.writeResult "result" "pass"), .close]
    [.perform .discard, .perform (.writeResult "result" "late"), .perform .reboot, .close]
  exact ⟨Bench.perform_eq hload, Node.hasDir_of_any hdir, (hstays hclosed).2.files, honce⟩

end Trial

end BootTrial
