import BootTrial.Proofs.Decision

/-!
# What a run reports

A run that comes to its end reports where its test lies in the results. If the run has moved it
there, the report is right. A test that the operator has left or deleted is looked for in the
results by its name, and where another batch has left a directory of this name there, that one is
reported (`Trial.runAt_result`, `Session.reports_result`).
-/

namespace BootTrial

namespace Trial

variable {settings : Settings} {machine : Machine} {operator : Operator} {w : Place}
  {name : String} {base bench last : Bench} {header : List String} {scenario : Scenario}
  {trial : Trial} {fate : Option Fate} {run : TrialRun}

/-- The directories that the results have under the name of a test when it has been left. -/
theorem hasDir_results_left {keep : String → Prop} {kind : Event → Prop}
    (h : base.Inside (Root.running.place w ++ [name]) keep kind last) :
    last.files.HasDir (Root.results.place w ++ [name])
      ↔ base.files.HasDir (Root.results.place w ++ [name]) := by
  have hapart : Place.Apart (Root.running.place w ++ [name]) (Root.results.place w ++ [name]) :=
    (((Root.place_apart (by decide) w).append_right [name]).symm).append_right [name]
  rw [Node.HasDir, Node.HasDir, h.files.get?_of_apart hapart]

/-- The directories that the results have under the name of a test when it has been deleted. -/
theorem hasDir_results_removed (h : base.Removed (Root.running.place w ++ [name]) last) :
    last.files.HasDir (Root.results.place w ++ [name])
      ↔ base.files.HasDir (Root.results.place w ++ [name]) := by
  rw [Node.HasDir, Node.HasDir, Node.get?_append, h.get?_other (by decide), ← Node.get?_append]

/-- Where a test lies that the trial itself has not moved is read off the results. -/
theorem resultOf_eq_some {p q goal : Path} (hname : IsPlain name) :
    resultOf (p.join name) q bench = some goal
      ↔ goal = q.join name ∧ bench.hasDir (q.join name) = true := by
  rw [resultOf_join hname, Option.ite_none_right_eq_some, Option.some.injEq]
  exact ⟨fun h => ⟨h.2.symm, h.1⟩, fun h => ⟨h.2, h.1.symm⟩⟩

/-- A run that comes to its end reports the place of its test in the results if it has moved the
test there, and also if it has not, but the results had a directory of its name already. -/
theorem Reached.finish_result
    (h : Reached settings.workspace w name base header scenario fate trial bench)
    (hruns : settings.workspace.Runs w name base)
    (haccepted : (settings.workspace.running.join name).refusal? = none)
    {answered : Except Error (Option String)}
    (hfinish : finish settings (settings.workspace.running.join name) answered trial bench
      = (.ok run, last)) :
    Ended w name base header scenario fate last
      ∧ (fate = none ∨ fate = some .completed → base.files.IsFree (Root.results.place w) name)
      ∧ ∀ goal, run.result = some goal ↔ goal = settings.workspace.results.join name
        ∧ ((fate = none ∨ fate = some .completed)
          ∨ base.files.HasDir (Root.results.place w ++ [name])) := by
  obtain ⟨closed, trial', after, hact, hended, hfree, hfull, hstays⟩ := h.act_close
  rw [finish, hact] at hfinish
  obtain ⟨hresult, rfl⟩ := Prod.mk.inj hfinish
  obtain ⟨choice, rfl⟩ : ∃ choice, answered = .ok choice := by
    cases answered with
    | error failure => cases hresult
    | ok choice => exact ⟨choice, rfl⟩
  obtain ⟨moved, rfl⟩ : ∃ moved, closed = .ok moved := by
    cases closed with
    | error failure => cases hresult
    | ok moved => exact ⟨moved, rfl⟩
  have hreport : run.result = moved.or
      (resultOf (settings.workspace.running.join name) settings.workspace.results after) := by
    cases hresult
    rfl
  -- The run would have failed on a test that it had to move and could not.
  have htaken : fate = none ∨ fate = some .completed →
      base.files.IsFree (Root.results.place w) name := by
    refine fun hfate => Classical.byContradiction fun hnot => ?_
    obtain ⟨failure, hfailure⟩ := hfull hnot hfate
    cases hfailure
  refine ⟨hended, htaken, fun goal => ?_⟩
  -- What has not been moved by the closing of the trial is looked for by its name.
  have hprobe : moved = none → settings.workspace.root.Leads after.files after.here w →
      (run.result = some goal ↔ goal = settings.workspace.results.join name
        ∧ after.files.HasDir (Root.results.place w ++ [name])) := by
    rintro rfl hw
    rw [hreport, Option.none_or, resultOf_eq_some hruns.plain,
      Bench.hasDir_results hw hruns.plain hruns.short haccepted]
  rcases fate with _ | _ | _ | _
  case none =>
    obtain rfl : moved = some (settings.workspace.results.join name) :=
      Except.ok.inj (hfree (htaken (.inl rfl)))
    rw [hreport, Option.some_or, Option.some.injEq]
    exact ⟨fun h => ⟨h.symm, .inl (.inl rfl)⟩, fun h => h.1.symm⟩
  case some.left =>
    rw [hprobe (Except.ok.inj (hstays (.inl rfl))) (hruns.inside hended).root,
      hasDir_results_left hended]
    simp
  case some.discarded =>
    rw [hprobe (Except.ok.inj (hstays (.inr rfl))) (Bench.Removed.root hended hruns),
      hasDir_results_removed hended]
    simp
  case some.completed =>
    rcases hended with ⟨_, hcompleted, _⟩ | ⟨hnot, _⟩
    · rw [hprobe (Except.ok.inj (hfree (htaken (.inr rfl)))) (hcompleted.root hruns)]
      exact and_congr_right fun _ =>
        iff_of_true (hcompleted.moved hruns).2 (.inl (.inr rfl))
    · exact absurd (htaken (.inr rfl)) hnot

/-- What a run that comes to its end has done to its test, and what it reports. Either it has moved
the test to the results, where it reports it; or it has left or deleted it, as the operator has
chosen. In these cases the results are as they were, and it reports the directory that they have
under the name of the test, if they have one. -/
theorem runAt_result (hmachine : machine.WritesOnlyLogs) (hoperator : operator.OnlyChooses)
    (hruns : settings.workspace.Runs w name base)
    (hfront : base.files.HasPlainFront (Root.running.place w ++ [name]))
    (hrun : base.perform (runAt settings machine operator (settings.workspace.running.join name))
      = (.ok run, last)) :
    (base.files.get? (Root.results.place w ++ [name]) = none
        ∧ last.files.get? (Root.running.place w ++ [name]) = none
        ∧ last.files.HasDir (Root.results.place w ++ [name])
        ∧ run.result = some (settings.workspace.results.join name))
      ∨ (∃ actions, (base.perform (runToChoice settings machine operator
            (settings.workspace.running.join name))).1 = .ok actions
          ∧ (last.files.get? (Root.running.place w ++ [name]) = none ∧ .discard ∈ actions
            ∨ last.files.HasDir (Root.running.place w ++ [name]) ∧ .quit ∈ actions))
        ∧ last.files.get? (Root.results.place w) = base.files.get? (Root.results.place w)
        ∧ ∀ goal, run.result = some goal ↔ goal = settings.workspace.results.join name
          ∧ base.files.HasDir (Root.results.place w ++ [name]) := by
  rcases hprepare : base.perform
    (prepare settings machine (settings.workspace.running.join name)) with
    ⟨failure | ⟨trial, menu⟩, ready⟩
  · rw [perform_runAt, hprepare] at hrun
    cases hrun
  obtain ⟨answered, header, scenario, fate, trial', after, hfinish, hreached, haccepted, hdecides⟩ :=
    runAt_reached hmachine hoperator hruns hfront hprepare
  obtain ⟨hended, htaken, hresult⟩ :=
    hreached.finish_result hruns haccepted (hfinish.symm.trans hrun)
  have hmoved : fate = none ∨ fate = some .completed → base.Completed w name last →
      base.files.get? (Root.results.place w ++ [name]) = none
        ∧ last.files.get? (Root.running.place w ++ [name]) = none
        ∧ last.files.HasDir (Root.results.place w ++ [name])
        ∧ run.result = some (settings.workspace.results.join name) := by
    intro hfate hcompleted
    obtain ⟨hgone, hdir⟩ := hcompleted.moved hruns
    exact ⟨(htaken hfate).1, hgone, hdir, (hresult _).mpr ⟨rfl, .inl hfate⟩⟩
  match fate, hended with
  | none, .inl ⟨_, hcompleted, _⟩ => exact .inl (hmoved (.inl rfl) hcompleted)
  | none, .inr ⟨hnot, _⟩ => exact absurd (htaken (.inl rfl)) hnot
  | some .completed, .inl ⟨_, hcompleted, _⟩ => exact .inl (hmoved (.inr rfl) hcompleted)
  | some .completed, .inr ⟨hnot, _⟩ => exact absurd (htaken (.inr rfl)) hnot
  | some .left, hinside =>
    obtain ⟨actions, deed, hchoice, hdeed, hmem⟩ := hdecides .left rfl
    have hapart := (Root.place_apart (by decide : Root.results ≠ .running) w).append_right [name]
    refine .inr ⟨⟨actions, hchoice, .inr ⟨hinside.files.hasDir, ?_⟩⟩,
      hinside.files.get?_of_apart hapart.symm, fun goal => (hresult goal).trans (by simp)⟩
    exact Deed.action_of_left hdeed ▸ hmem
  | some .discarded, hremoved =>
    obtain ⟨actions, deed, hchoice, hdeed, hmem⟩ := hdecides .discarded rfl
    refine .inr ⟨⟨actions, hchoice, .inl ⟨hremoved.gone hruns, ?_⟩⟩,
      hremoved.get?_other (by decide), fun goal => (hresult goal).trans (by simp)⟩
    exact Deed.action_of_discarded hdeed ▸ hmem

end Trial

/-- After any session on a workspace that had no tests, a run of a test to which a cycle comes, if
it comes to its end, either has moved the test to the results and reports it there, or has left or
deleted it, as the operator has chosen. In these cases the results are as they were, and the run
reports nothing unless they had a directory of the name of the test, which is reported then. -/
theorem Session.reports_result {settings : Settings} {machine : Machine} {operator : Operator}
    {w : Place} {session : Session} {start base last : Bench} {directories : List Path}
    {directory : Path} {run : TrialRun}
    (hfair : session.IsFair settings.workspace w) (hfresh : start.IsFresh settings.workspace w)
    (hmachine : machine.WritesOnlyLogs) (hoperator : operator.OnlyChooses)
    (htests : (session.after start).perform (cycleToTests settings machine)
      = (.ok directories, base))
    (hdirectory : directory ∈ directories)
    (hrun : base.perform (Trial.runAt settings machine operator directory) = (.ok run, last)) :
    ∃ name, IsPlain name ∧ directory = settings.workspace.running.join name
      ∧ base.files.HasDir (Root.running.place w ++ [name])
      ∧ ((base.files.get? (Root.results.place w ++ [name]) = none
          ∧ last.files.get? (Root.running.place w ++ [name]) = none
          ∧ last.files.HasDir (Root.results.place w ++ [name])
          ∧ run.result = some (settings.workspace.results.join name))
        ∨ (∃ actions, (base.perform (Trial.runToChoice settings machine operator directory)).1
              = .ok actions
            ∧ (last.files.get? (Root.running.place w ++ [name]) = none ∧ .discard ∈ actions
              ∨ last.files.HasDir (Root.running.place w ++ [name]) ∧ .quit ∈ actions))
          ∧ last.files.get? (Root.results.place w) = base.files.get? (Root.results.place w)
          ∧ ∀ goal, run.result = some goal ↔ goal = settings.workspace.results.join name
            ∧ base.files.HasDir (Root.results.place w ++ [name])) := by
  obtain ⟨ledger, -, hw, hagrees⟩ := Session.exists_told hfair hfresh.1 (Agrees.of_isFresh hfresh)
  obtain ⟨ledger', result, after, hperform, htells, -, hcomes⟩ :=
    cycleToTests_tells (fun _ => False) hmachine hw hagrees
  obtain ⟨rfl, rfl⟩ := Prod.mk.inj (htests.symm.trans hperform)
  rcases hcomes with hnone | ⟨name, hname, hsingle⟩
  · rw [hnone directories rfl] at hdirectory
    cases hdirectory
  · rw [Except.ok.inj hsingle, List.mem_singleton] at hdirectory
    subst hdirectory
    obtain ⟨hruns, hfront⟩ := htells.agrees.runs htells.root hname
    exact ⟨name, hruns.plain, rfl, hruns.dir, Trial.runAt_result hmachine hoperator hruns hfront hrun⟩

/-- The responses of a template, one that completes a test and one that deletes it. -/
def choosyResponses : String :=
  "description,action,params\n"
    ++ "Passed [p],write_result,\"result, pass\"\n"
    ++ "Drop [d],discard,\n"

/-- A workspace as `freshBench`, with an operator who will complete the first test and delete the
second. -/
def choosyBench : Bench :=
  { freshBench with
    files := .dir [
      ("templates", .dir [("power", .dir [
        ("scenarios.csv", .file (Text.encode "mode,result\ns2idle,\n") false),
        ("quick-responses.csv", .file (Text.encode choosyResponses) false)])])]
    answers := ["p", "d"] }

/-- There are no tests in the workspace. -/
theorem choosyBench_isFresh : choosyBench.IsFresh (Settings.workspace {}) [] := by
  refine ⟨Path.leads_dot ⟨_, rfl⟩, fun r => .of_none ?_⟩
  cases r <;> rfl

set_option maxRecDepth 100000 in
/-- The run of the second of two tests with one scenario, which is deleted, reports the result of
the first. -/
theorem Session.reports_result_sameBoot :
    ∃ base run last, (sameBootSession.after choosyBench).perform
          (cycleToTests {} (.scripted ⟨"b00t", by decide⟩ []))
        = (.ok [(Settings.workspace {}).running.join "1-power--mode-s2idle__result---b00t"], base)
      ∧ base.perform (Trial.runAt {} (.scripted ⟨"b00t", by decide⟩ []) .scripted
          ((Settings.workspace {}).running.join "1-power--mode-s2idle__result---b00t"))
        = (.ok run, last)
      ∧ last.files.get? (Root.running.place [] ++ ["1-power--mode-s2idle__result---b00t"]) = none
      ∧ last.files.get? (Root.results.place []) = base.files.get? (Root.results.place [])
      ∧ run.result
        = some ((Settings.workspace {}).results.join "1-power--mode-s2idle__result---b00t") := by
  let bench := sameBootSession.after choosyBench
  let machine : Machine := .scripted ⟨"b00t", by decide⟩ []
  let name := "1-power--mode-s2idle__result---b00t"
  let directory := (Settings.workspace {}).running.join name
  let base := (bench.perform (cycleToTests {} machine)).2
  let work := Trial.runAt {} machine .scripted directory
  let run : TrialRun :=
    { directory, isSameBoot := true, choice := some "Drop [d]"
      result := some ((Settings.workspace {}).results.join name) }
  have hfacts : (bench.perform (cycleToTests {} machine)).1 = .ok [directory]
      ∧ (base.perform work).1 = .ok run
      ∧ (base.perform (Trial.runToChoice {} machine .scripted directory)).1 = .ok [.discard]
      ∧ (base.files.get? (Root.results.place [] ++ [name])).isSome = true := by decide +kernel
  have htests : bench.perform (cycleToTests {} machine) = (.ok [directory], base) :=
    Bench.perform_eq hfacts.1
  have hrun : base.perform work = (.ok run, (base.perform work).2) := Bench.perform_eq hfacts.2.1
  obtain ⟨name', hplain, hname, -, hreports⟩ := Session.reports_result sameBootSession_isFair
    choosyBench_isFresh (Machine.scripted_writesOnlyLogs _ _) Operator.scripted_onlyChooses htests
    (List.mem_singleton_self _) hrun
  obtain rfl : name = name' :=
    Path.join_inj (isPlain_of_length (by decide) (by decide)) hplain hname
  have hother : base.files.get? (Root.results.place [] ++ [name]) ≠ none :=
    Option.isSome_iff_ne_none.mp hfacts.2.2.2
  rcases hreports with ⟨hfree, -⟩ | ⟨⟨actions, hactions, hdone⟩, hresults, -⟩
  · exact absurd hfree hother
  · obtain rfl : [.discard] = actions := Except.ok.inj (hfacts.2.2.1.symm.trans hactions)
    rcases hdone with ⟨hgone, -⟩ | ⟨-, hquit⟩
    · exact ⟨base, run, _, htests, hrun, hgone, hresults, rfl⟩
    · simp at hquit

end BootTrial
