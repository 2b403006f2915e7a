import BootTrial.Proofs.Ending

/-!
# Runs that fail before the operator is asked

A run that fails before a menu has been put in front of the operator leaves its test in the running
root and the results as they are, to be resumed, with one exception: if the call to the operator
fails, the trial is closed as if the operator had been asked, and the test goes to the results
unless these do not take it (`Trial.runAt_unasked`).
-/

namespace BootTrial

/-- The operator is called. -/
def Event.IsCall : Event → Prop
  | .asked (.announce _) => True
  | _ => False

/-- A menu is put in front of the operator. -/
def Event.IsMenu : Event → Prop
  | .presented _ _ => True
  | _ => False

instance : DecidablePred Event.IsCall
  | .asked (.announce _) => isTrue trivial
  | .asked .currentBoot | .asked (.captureKernelLog _ _) | .asked (.sleepCycle _) | .asked .sync
  | .asked .reboot | .changed | .presented _ _ => isFalse id

instance : DecidablePred Event.IsMenu
  | .presented _ _ => isTrue trivial
  | .changed | .asked _ => isFalse id

/-- Nobody is called by what happens before the call. -/
theorem Event.IsPreparatory.not_isCall {event : Event} (h : event.IsPreparatory) :
    ¬ event.IsCall := by
  match event, h with
  | .changed, _ | .asked .currentBoot, _ | .asked (.captureKernelLog _ _), _
  | .asked (.sleepCycle _), _ => exact id

namespace Bench

/-- Between two benches there was an event of a kind. -/
def Heard (kind : Event → Prop) (before after : Bench) : Prop :=
  ∃ moments, after.history = moments ++ before.history ∧ ∃ moment ∈ moments, kind moment.event

variable {kind : Event → Prop} {before middle after : Bench} {d w : Place} {name : String}

/-- What has been heard is heard of later, too. -/
theorem Heard.later (h : Heard kind before middle) (hgrows : middle.history <:+ after.history) :
    Heard kind before after := by
  obtain ⟨moments, hmoments, moment, hmem, hkind⟩ := h
  obtain ⟨more, hmore⟩ := hgrows
  refine ⟨more ++ moments, ?_, moment, List.mem_append_right _ hmem, hkind⟩
  rw [← hmore, hmoments, List.append_assoc]

/-- What has been heard was heard since any time before, too. -/
theorem Heard.since (h : Heard kind middle after) (hgrows : before.history <:+ middle.history) :
    Heard kind before after := by
  obtain ⟨moments, hmoments, moment, hmem, hkind⟩ := h
  obtain ⟨more, hmore⟩ := hgrows
  refine ⟨moments ++ more, ?_, moment, List.mem_append_left _ hmem, hkind⟩
  rw [hmoments, ← hmore, List.append_assoc]

/-- Nothing of a kind has been heard if no moment is of this kind. -/
theorem not_heard {moments : List Moment} (h : after.history = moments ++ before.history)
    (hkind : ∀ moment ∈ moments, ¬ kind moment.event) : ¬ Heard kind before after := by
  rintro ⟨others, hothers, moment, hmem, hmoment⟩
  rw [h, List.append_left_inj] at hothers
  exact hkind moment (hothers ▸ hmem) hmoment

/-- The history grows by changes inside a directory. -/
theorem Inside.grows {keep : String → Prop} (h : Inside d keep kind before after) :
    before.history <:+ after.history := by
  obtain ⟨moments, hmoments, -⟩ := h.history
  exact ⟨moments, hmoments.symm⟩

/-- The history grows while the files do not change. -/
theorem Quiet.grows (h : Quiet kind before after) : before.history <:+ after.history := by
  obtain ⟨moments, hmoments, -⟩ := h.history
  exact ⟨moments, hmoments.symm⟩

/-- The history grows when the results root is made. -/
theorem ResultsMade.grows (h : ResultsMade w before after) : before.history <:+ after.history := by
  rcases h with rfl | ⟨-, rfl⟩
  · exact List.suffix_rfl
  · exact List.suffix_cons _ _

/-- The history grows by a step. -/
theorem grows_stepTo (bench : Bench) (files : Node) :
    bench.history <:+ (bench.stepTo files).history :=
  List.suffix_cons _ _

/-- The history grows when a test is deleted. -/
theorem Removed.grows (h : Removed d before after) : before.history <:+ after.history := by
  obtain ⟨last, hinside, hquiet⟩ := h
  exact (hinside.grows.trans (grows_stepTo _ _)).trans hquiet.grows

/-- The history grows when a test is completed. -/
theorem Completed.grows (h : Completed w name before after) :
    before.history <:+ after.history := by
  obtain ⟨last, ready, own, hinside, hmade, -, -, hquiet⟩ := h
  exact ((hinside.grows.trans hmade.grows).trans (grows_stepTo _ _)).trans hquiet.grows

end Bench

/-- A request is heard. -/
theorem Machine.WritesOnlyLogs.ask_heard {machine : Machine} (h : machine.WritesOnlyLogs)
    {request : Request} {kind : Event → Prop} (hkind : kind (.asked request)) :
    Keeps (Bench.Heard kind) (machine.ask request) := by
  intro bench
  obtain ⟨-, -, ⟨moments, hmoments, -⟩, -⟩ :=
    h.answered request { bench with history := ⟨.asked request, bench.files⟩ :: bench.history }
  refine ⟨moments ++ [⟨.asked request, bench.files⟩], ?_, _,
    List.mem_append_right _ (List.mem_singleton_self _), hkind⟩
  rw [List.append_assoc]
  exact hmoments

/-- A menu is heard of. -/
theorem Operator.OnlyChooses.ask_heard {operator : Operator} (h : operator.OnlyChooses)
    (title : String) (menu : Menu) : Keeps (Bench.Heard Event.IsMenu) (operator.ask title menu) := by
  intro bench
  obtain ⟨-, -, hhistory, -⟩ := h.unmoved title menu
    { bench with history := ⟨.presented title menu.descriptions, bench.files⟩ :: bench.history }
  exact ⟨[⟨.presented title menu.descriptions, bench.files⟩], hhistory, _,
    List.mem_singleton_self _, trivial⟩

namespace Trial

variable {settings : Settings} {machine : Machine} {operator : Operator} {w : Place}
  {name : String} {base bench after : Bench} {header : List String} {scenario : Scenario}
  {trial : Trial} {fate : Option Fate}

/-- The history has grown at the end of a run. -/
theorem Ended.grows (h : Ended w name base header scenario fate bench) :
    base.history <:+ bench.history := by
  match fate, h with
  | some .left, hinside => exact Bench.Inside.grows hinside
  | some .discarded, hremoved => exact Bench.Removed.grows hremoved
  | none, .inl ⟨_, hcompleted, _⟩ | some .completed, .inl ⟨_, hcompleted, _⟩ =>
    exact hcompleted.grows
  | none, .inr ⟨_, hinside⟩ | some .completed, .inr ⟨_, hinside⟩ => exact hinside.grows

/-- An open trial, seen from where it has come to. -/
theorem IsOpen.rebase {workspace : Workspace}
    (h : IsOpen workspace w name base header scenario trial bench) :
    IsOpen workspace w name bench header scenario trial bench :=
  ⟨h.runs_now, h.accepted, h.directory, h.results, h.isOpen, .refl h.runs_now.dir, h.stands,
    h.known⟩

/-- Having the operator choose: an empty menu is not shown, the call fails, or the menu is shown. -/
theorem choose_cases (hmachine : machine.WritesOnlyLogs) (hoperator : operator.OnlyChooses)
    (message : String) (menu : Menu) (trial : Trial) (bench : Bench) :
    bench.perform (choose machine operator message menu trial) = (.ok none, bench)
      ∨ (∃ failure after,
        bench.perform (choose machine operator message menu trial) = (.error failure, after)
          ∧ bench.Heard Event.IsCall after)
      ∨ bench.Heard Event.IsMenu
        (bench.perform (choose machine operator message menu trial)).2 := by
  have hask : ∀ bench : Bench, bench.Heard Event.IsMenu
      (bench.perform (operator.ask trial.scenario.title menu)).2 :=
    hoperator.ask_heard trial.scenario.title menu
  unfold choose
  by_cases hempty : menu.isEmpty = true
  · rw [if_pos hempty]
    exact .inl rfl
  rw [if_neg hempty]
  by_cases hsame : trial.isSameBoot = true
  · rw [if_pos hsame]
    have hcall : Keeps (Bench.Heard Event.IsCall) (machine.ask (.announce message)) :=
      hmachine.ask_heard trivial
    have hquiet : Keeps (Bench.Quiet fun _ => True) (machine.ask (.announce message)) :=
      hmachine.ask_quiet rfl trivial trivial
    have hcalled := hcall bench
    have hgrows := (hquiet bench).grows
    rcases hperform : bench.perform (machine.ask (.announce message)) with ⟨failure | _, called⟩
    all_goals rw [hperform] at hcalled hgrows
    · rw [Bench.perform_bind_error hperform]
      exact .inr (.inl ⟨failure, called, rfl, hcalled⟩)
    · rw [Bench.perform_bind_ok hperform]
      exact .inr (.inr ((hask called).since hgrows))
  · rw [if_neg hsame]
    exact .inr (.inr (hask bench))

/-- A run that fails without a menu having been put in front of the operator leaves its test in the
running root, and the results as they are, unless it has failed when the operator was called and the
results take the test: then the test lies there. -/
theorem runAt_unasked {failure : Error} (hmachine : machine.WritesOnlyLogs)
    (hoperator : operator.OnlyChooses) (hruns : settings.workspace.Runs w name bench)
    (hfront : bench.files.HasPlainFront (Root.running.place w ++ [name]))
    (hrun : bench.perform (runAt settings machine operator
      (settings.workspace.running.join name)) = (.error failure, after))
    (hunasked : ¬ bench.Heard Event.IsMenu after) :
    (after.files.HasDir (Root.running.place w ++ [name])
          ∧ after.files.get? (Root.results.place w) = bench.files.get? (Root.results.place w)
        ↔ ¬ (bench.Heard Event.IsCall after ∧ bench.files.IsFree (Root.results.place w) name))
      ∧ (bench.Heard Event.IsCall after ∧ bench.files.IsFree (Root.results.place w) name →
        after.files.get? (Root.running.place w ++ [name]) = none
          ∧ after.files.HasDir (Root.results.place w ++ [name])) := by
  have hapart : Place.Apart (Root.running.place w ++ [name]) (Root.results.place w) :=
    ((Root.place_apart (by decide) w).append_right [name]).symm
  -- A test whose directory alone has changed is there to be resumed.
  have hstays : ∀ {keep : String → Prop} {kind : Event → Prop},
      bench.Inside (Root.running.place w ++ [name]) keep kind after →
      after.files.HasDir (Root.running.place w ++ [name])
        ∧ after.files.get? (Root.results.place w) = bench.files.get? (Root.results.place w) :=
    fun hinside => ⟨hinside.files.hasDir, hinside.files.get?_of_apart hapart⟩
  have hinside := prepare_inside settings hmachine hruns.plain hruns.leads hfront
  rw [perform_runAt] at hrun
  rcases hprepare : bench.perform (prepare settings machine
    (settings.workspace.running.join name)) with ⟨failure' | ⟨trial, menu⟩, ready⟩
  all_goals rw [hprepare] at hrun hinside
  · -- The test could not be prepared, and nobody has been called.
    cases hrun
    obtain ⟨moments, hmoments, hkind⟩ := hinside.history
    have huncalled : ¬ bench.Heard Event.IsCall after := by
      refine Bench.not_heard hmoments fun moment hmem => ?_
      exact (hkind moment hmem).1.not_isCall
    exact ⟨⟨fun _ hcalled => huncalled hcalled.1, fun _ => hstays hinside⟩,
      fun hcalled => absurd hcalled.1 huncalled⟩
  obtain ⟨header, hopen, -, -⟩ := prepare_opens hmachine hruns hfront hprepare
  have hquiet := choose_quiet hmachine hoperator settings.notify.message menu trial ready
  have hcases := choose_cases hmachine hoperator settings.notify.message menu trial ready
  rcases hchoose : ready.perform (choose machine operator settings.notify.message menu trial) with
    ⟨answer, chosen⟩
  rw [hchoose] at hquiet hcases
  simp only [hchoose] at hrun
  have hchosen := hopen.quiet hquiet
  have hfree := hchosen.inside.files.isFree hapart name
  obtain ⟨trial', last, hconclude, hreached, -⟩ := hchosen.rebase.conclude hmachine
    (settings.workspace.running.join name) menu answer
  rw [hconclude] at hrun
  obtain ⟨result, after', hfinish, hended, -, -⟩ :=
    hreached.finish_ended (settings.workspace.running.join name)
      (answeredOf (deedsOf machine menu trial chosen answer) answer)
  obtain ⟨rfl, rfl⟩ : .error failure = result ∧ after = after' := by
    rw [hfinish, Prod.mk.injEq] at hrun
    exact ⟨hrun.1.symm, hrun.2.symm⟩
  rcases hcases with hempty | ⟨failure', after', hfailed, hcall⟩ | hmenu
  · -- The menu is empty; then a run fails only if the results do not take the test.
    obtain ⟨rfl, rfl⟩ : answer = .ok none ∧ chosen = ready := Prod.mk.inj hempty
    have hfull : ¬ bench.files.IsFree (Root.results.place w) name := by
      intro hfree'
      obtain ⟨last', hfinish', -⟩ := hreached.finish_free hchosen.rebase.runs hchosen.accepted
        (hfree.mpr hfree') (answeredOf (deedsOf machine menu trial chosen (.ok none)) (.ok none))
      rw [hfinish] at hfinish'
      cases hfinish'
    rcases hended with ⟨hfree', -⟩ | ⟨-, hinside'⟩
    · exact absurd (hfree.mp hfree') hfull
    · refine ⟨⟨fun _ hcalled => hfull hcalled.2, fun _ => hstays (hchosen.inside.trans hinside')⟩,
        fun hcalled => absurd hcalled.2 hfull⟩
  · -- The call has failed, and the trial has been closed.
    obtain ⟨rfl, rfl⟩ : answer = .error failure' ∧ chosen = after' := Prod.mk.inj hfailed
    have hcalled : bench.Heard Event.IsCall after := (hcall.since hinside.grows).later hended.grows
    rcases hended with ⟨hfree', hcompleted, -⟩ | ⟨hfull, hinside'⟩
    · obtain ⟨hgone, hdir⟩ := hcompleted.moved hchosen.rebase.runs
      refine ⟨⟨fun hthere => ?_, fun hnot => absurd ⟨hcalled, hfree.mp hfree'⟩ hnot⟩,
        fun _ => ⟨hgone, hdir⟩⟩
      obtain ⟨own, hown⟩ := hthere.1
      rw [hgone] at hown
      cases hown
    · have hfull' : ¬ bench.files.IsFree (Root.results.place w) name := fun h => hfull (hfree.mpr h)
      exact ⟨⟨fun _ hcalled => hfull' hcalled.2, fun _ => hstays (hchosen.inside.trans hinside')⟩,
        fun hcalled => absurd hcalled.2 hfull'⟩
  · exact absurd ((hmenu.since hinside.grows).later hended.grows) hunasked

end Trial

/-- The name of the test in `begunBench`. -/
def begunName : String := "1-power--mode-s2idle--b00t"

/-- The directory of the test in `begunBench`. -/
def begunPath : Path := (Settings.workspace {}).running.join begunName

/-- A workspace in which one test has been begun, with the responses of its template and an operator
who will press one key. -/
def begunBench (responses : String) : Bench where
  files := .dir [
    ("templates", .dir [("power", .dir [
      ("scenarios.csv", .file (Text.encode "mode,result\ns2idle,\n") false),
      ("quick-responses.csv", .file (Text.encode responses) false)])]),
    ("runtime", .dir [("running", .dir [(begunName, .dir [
      ("scenario.csv", .file (Text.encode "mode,result\ns2idle,\n") false),
      ("prefix", .file (Text.encode "1-power") false),
      ("boot_id", .file (Text.encode "b00t") false)])])])]
  here := []
  home := .ofText "/"
  searchPath := []
  color := false
  answers := ["d"]

/-- The boot of the test in `begunBench`. -/
def begunBoot : BootId := ⟨"b00t", by decide⟩

/-- The test stands in the running root. -/
theorem begunBench_runs (responses : String) :
    (Settings.workspace {}).Runs [] begunName (begunBench responses) :=
  ⟨Path.leads_dot ⟨_, rfl⟩, isPlain_of_length (by decide) (by decide), by decide, _, rfl⟩

/-- The front of the names of its logs has no slash in it. -/
theorem begunBench_hasPlainFront (responses : String) :
    (begunBench responses).files.HasPlainFront (Root.running.place [] ++ [begunName]) := by
  have hplain : '/' ∉ "1-power".toList := by decide
  exact Node.hasPlainFront_of_file rfl hplain

set_option maxRecDepth 100000 in
/-- A call to the operator that fails sends the test to the results, though no menu was shown. -/
theorem runAt_unasked_call :
    ∃ after, (begunBench "description,action,params\nDone [d],quit,\n").perform
          (Trial.runAt {} (.scripted begunBoot ["announce"]) .scripted begunPath)
        = (.error (.commandFailed "announce" "made to fail"), after)
      ∧ ¬ (begunBench "description,action,params\nDone [d],quit,\n").Heard Event.IsMenu after
      ∧ after.files.get? (Root.running.place [] ++ [begunName]) = none
      ∧ after.files.HasDir (Root.results.place [] ++ [begunName]) := by
  let bench := begunBench "description,action,params\nDone [d],quit,\n"
  let work := Trial.runAt {} (.scripted begunBoot ["announce"]) .scripted begunPath
  let after := (bench.perform work).2
  have hfacts : (bench.perform work).1 = .error (.commandFailed "announce" "made to fail")
      ∧ (∀ moment ∈ after.history, ¬ moment.event.IsMenu)
      ∧ ∃ moment ∈ after.history, moment.event.IsCall := by decide +kernel
  have hrun : bench.perform work
      = (.error (.commandFailed "announce" "made to fail"), after) := Bench.perform_eq hfacts.1
  have hhistory : after.history = after.history ++ bench.history := (List.append_nil _).symm
  have hunasked : ¬ bench.Heard Event.IsMenu after := Bench.not_heard hhistory hfacts.2.1
  have hcalled : bench.Heard Event.IsCall after := ⟨after.history, hhistory, hfacts.2.2⟩
  have hruns : (Settings.workspace {}).Runs [] begunName bench := begunBench_runs _
  have hfront : bench.files.HasPlainFront (Root.running.place [] ++ [begunName]) :=
    begunBench_hasPlainFront _
  obtain ⟨-, hmoved⟩ := Trial.runAt_unasked (Machine.scripted_writesOnlyLogs _ _)
    Operator.scripted_onlyChooses hruns hfront hrun hunasked
  exact ⟨after, hrun, hunasked, hmoved ⟨hcalled, Node.isFree_missing rfl _⟩⟩

end BootTrial
