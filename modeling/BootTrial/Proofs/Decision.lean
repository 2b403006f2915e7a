import BootTrial.Proofs.Session

/-!
# Where a decided test goes

In a cycle the operator may decide a test: he chooses actions none of which leaves or deletes it. It
goes to the results then, whatever the actions come to, if the results have no test of its name. If
they have one, as they may after another batch has been run in the same boot, the test stays in the
running root and the cycle fails (`Session.lies_once_decided`).
-/

namespace BootTrial

/-- Where a directory holds tests, or could, it could take another test under a name that none of
them has. -/
theorem Node.HoldsTests.isFree_iff {root : Node} {d : Place} {names : List String}
    (h : root.HoldsTests d names) (name : String) :
    root.IsFree d name ↔ root.get? (d ++ [name]) = none := by
  refine ⟨fun hfree => hfree.1, fun hnone => ⟨hnone, fun content runnable hfile => ?_⟩⟩
  obtain ⟨entries, hentries | ⟨hmissing, -⟩, -⟩ := h
  · rw [hfile] at hentries
    cases hentries
  · rw [hfile] at hmissing
    cases hmissing

/-- Whether a directory that holds tests has one of a name is decided by their names. -/
theorem Node.HoldsTests.get?_eq_none_iff {root : Node} {d : Place} {names : List String}
    (h : root.HoldsTests d names) (name : String) :
    root.get? (d ++ [name]) = none ↔ name ∉ names := by
  constructor
  · intro hnone hname
    obtain ⟨entries, hdir⟩ := h.hasDir hname
    rw [hnone] at hdir
    cases hdir
  · intro hname
    obtain ⟨entries, hentries | ⟨hmissing, -⟩, rfl, -⟩ := h
    · rw [Node.get?_snoc hentries, Named.lookup_eq_none.mpr hname]
    · rw [Node.get?_append, hmissing]
      rfl

section Cycle

variable {settings : Settings} {machine : Machine} {operator : Operator} {w : Place}
  {name : String} {actions : List Action} {bench : Bench} {ledger : Ledger}

/-- A cycle in which the operator chooses for a test comes to this test, with the results as they
were, and what is chosen is chosen in its run. -/
theorem Bench.Chooses.exists_base (h : bench.Chooses settings machine operator name actions)
    (hmachine : machine.WritesOnlyLogs)
    (hw : settings.workspace.root.Leads bench.files bench.here w)
    (hagrees : Agrees w bench.files ledger) :
    ∃ base, bench.perform (cycleToTests settings machine)
        = (.ok [settings.workspace.running.join name], base)
      ∧ settings.workspace.Runs w name base
      ∧ base.files.HasPlainFront (Root.running.place w ++ [name])
      ∧ (∀ names, bench.files.HoldsTests (Root.results.place w) names →
        base.files.HoldsTests (Root.results.place w) names)
      ∧ (base.perform (Trial.runToChoice settings machine operator
        (settings.workspace.running.join name))).1 = .ok actions := by
  obtain ⟨hname, hchoice⟩ := h
  obtain ⟨middle, result, base, htests, htells, hresults, hdirectories⟩ :=
    cycleToTests_tells (fun _ => False) hmachine hw hagrees
  rw [cycleToChoice] at hchoice
  rcases hdirectories with hnone | ⟨name', hmem, rfl⟩
  · -- A cycle that comes to no test asks for no choice.
    cases result with
    | error failure =>
      rw [Bench.perform_bind_error htests] at hchoice
      cases hchoice
    | ok directories =>
      obtain rfl := hnone directories rfl
      rw [Bench.perform_bind_ok htests] at hchoice
      cases hchoice
  · rw [Bench.perform_bind_ok htests] at hchoice
    simp only at hchoice
    obtain ⟨hruns, hfront⟩ := htells.agrees.runs htells.root hmem
    rcases hperform : base.perform (Trial.runToChoice settings machine operator
      (settings.workspace.running.join name')) with ⟨failure | actions', chosen⟩
    · rw [Bench.perform_bind_error hperform] at hchoice
      cases hchoice
    · rw [Bench.perform_bind_ok hperform] at hchoice
      obtain ⟨hpath, rfl⟩ := Prod.mk.inj (Option.some.inj (Except.ok.inj hchoice))
      obtain rfl := Path.join_inj hruns.plain hname hpath
      exact ⟨base, htests, hruns, hfront, hresults, by rw [hperform]⟩

/-- Where a test lies that has been decided in a cycle. It is in the results, if they had no test of
its name. If they had one, the results hold what they held, the test is in the running root, and
the cycle has failed. -/
theorem Bench.Chooses.lies (h : bench.Chooses settings machine operator name actions)
    (hquit : .quit ∉ actions) (hdiscard : .discard ∉ actions)
    (hmachine : machine.WritesOnlyLogs) (hoperator : operator.OnlyChooses)
    (hw : settings.workspace.root.Leads bench.files bench.here w)
    (hagrees : Agrees w bench.files ledger) :
    ∃ outcome last, bench.perform (performCycle settings machine operator) = (outcome, last)
      ∧ (bench.files.get? (Root.results.place w ++ [name]) = none →
        last.files.get? (Root.running.place w ++ [name]) = none
          ∧ last.files.HasDir (Root.results.place w ++ [name]))
      ∧ (bench.files.get? (Root.results.place w ++ [name]) ≠ none →
        last.files.HasDir (Root.running.place w ++ [name])
          ∧ (∀ names, bench.files.HoldsTests (Root.results.place w) names →
            last.files.HoldsTests (Root.results.place w) names)
          ∧ ∃ failure, outcome = .error failure) := by
  obtain ⟨base, htests, hruns, hfront, hresults, hchoice⟩ := h.exists_base hmachine hw hagrees
  obtain ⟨header, scenario, fate, result, last, hrun, hended, -, hdecided⟩ :=
    Trial.runAt_ended hmachine hoperator hruns hfront
  obtain ⟨hfate, hfull⟩ := hdecided actions hchoice hquit hdiscard
  obtain ⟨outcome, hcycle, hfails⟩ := performCycle_single htests hrun
  obtain ⟨names, hholds, -⟩ := hagrees.holds .results
  have hbase := hresults names hholds
  -- The results have a test of this name when the run begins if they have one now.
  have hfree : base.files.IsFree (Root.results.place w) name
      ↔ bench.files.get? (Root.results.place w ++ [name]) = none := by
    rw [hbase.isFree_iff, hbase.get?_eq_none_iff, hholds.get?_eq_none_iff]
  have hends : (base.files.IsFree (Root.results.place w) name ∧ base.Completed w name last)
      ∨ (¬ base.files.IsFree (Root.results.place w) name
        ∧ base.Inside (Root.running.place w ++ [name]) (· = prefixName) (fun _ => True) last) := by
    rcases hfate with rfl | rfl
    all_goals
      rcases hended with ⟨hempty, hcompleted, -⟩ | hfilled
      · exact .inl ⟨hempty, hcompleted⟩
      · exact .inr hfilled
  refine ⟨outcome, last, hcycle, fun hnone => ?_, fun hsome => ?_⟩
  · rcases hends with ⟨-, hcompleted⟩ | ⟨hnot, -⟩
    · exact hcompleted.moved hruns
    · exact absurd (hfree.mpr hnone) hnot
  · have hnot : ¬ base.files.IsFree (Root.results.place w) name := fun h => hsome (hfree.mp h)
    rcases hends with ⟨hempty, -⟩ | ⟨-, hinside⟩
    · exact absurd hempty hnot
    · obtain ⟨failure, hfailure⟩ := hfull hnot
      have hapart := (Root.place_apart (by decide : Root.results ≠ .running) w).append_right [name]
      exact ⟨hinside.files.hasDir,
        fun names hnames => (hresults names hnames).of_get? (hinside.files.get?_of_apart hapart.symm),
        failure, hfails failure hfailure⟩

/-- A test that has been decided in a cycle, after any session on a workspace that had no tests, is
in the results and not in the running root, whatever its actions have come to, if the results had
no test of its name. If they had one, the test stays in the running root, the results hold what they
held, and the cycle fails. -/
theorem Session.lies_once_decided {session : Session} {start : Bench}
    (hfair : session.IsFair settings.workspace w) (hfresh : start.IsFresh settings.workspace w)
    (hmachine : machine.WritesOnlyLogs) (hoperator : operator.OnlyChooses)
    (hchooses : (session.after start).Chooses settings machine operator name actions)
    (hquit : .quit ∉ actions) (hdiscard : .discard ∉ actions) :
    ∃ outcome last,
      (session.after start).perform (performCycle settings machine operator) = (outcome, last)
        ∧ ((session.after start).files.get? (Root.results.place w ++ [name]) = none →
          last.files.get? (Root.running.place w ++ [name]) = none
            ∧ last.files.HasDir (Root.results.place w ++ [name]))
        ∧ ((session.after start).files.get? (Root.results.place w ++ [name]) ≠ none →
          last.files.HasDir (Root.running.place w ++ [name])
            ∧ (∀ names, (session.after start).files.HoldsTests (Root.results.place w) names →
              last.files.HoldsTests (Root.results.place w) names)
            ∧ ∃ failure, outcome = .error failure) := by
  obtain ⟨ledger, -, hw, hagrees⟩ :=
    Session.exists_told hfair hfresh.1 (Agrees.of_isFresh hfresh)
  exact hchooses.lies hquit hdiscard hmachine hoperator hw hagrees

set_option maxRecDepth 100000 in
/-- The second of two tests with one scenario that are run in one boot stays in the running root,
though its only action, to write a result, has been carried out. -/
theorem Session.lies_once_decided_sameBoot :
    ∃ failure last, (sameBootSession.after freshBench).perform
        (performCycle {} (.scripted ⟨"b00t", by decide⟩ []) .scripted) = (.error failure, last)
      ∧ last.files.HasDir (Root.running.place [] ++ ["1-power--mode-s2idle__result---b00t"]) := by
  let bench := sameBootSession.after freshBench
  let machine : Machine := .scripted ⟨"b00t", by decide⟩ []
  let name := "1-power--mode-s2idle__result---b00t"
  have hfacts : (bench.perform (cycleToChoice {} machine .scripted)).1
        = .ok (some ((Settings.workspace {}).running.join name, [.writeResult "result" "pass"]))
      ∧ (bench.files.get? (Root.results.place [] ++ [name])).isSome = true := by decide +kernel
  have hchooses : bench.Chooses {} machine .scripted name [.writeResult "result" "pass"] :=
    ⟨isPlain_of_length (by decide) (by decide), hfacts.1⟩
  obtain ⟨outcome, last, hcycle, -, hcollides⟩ := Session.lies_once_decided sameBootSession_isFair
    freshBench_isFresh (Machine.scripted_writesOnlyLogs _ _) Operator.scripted_onlyChooses hchooses
    (by decide) (by decide)
  have htaken : bench.files.get? (Root.results.place [] ++ [name]) ≠ none :=
    Option.isSome_iff_ne_none.mp hfacts.2
  obtain ⟨hrunning, -, failure, rfl⟩ := hcollides htaken
  exact ⟨failure, last, hcycle, hrunning⟩

end Cycle

end BootTrial
