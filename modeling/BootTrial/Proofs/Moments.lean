import BootTrial.Proofs.Acting
import BootTrial.Proofs.Stepwise

/-!
# The moments between two benches

`Bench.Only` says of what kind the events between two benches are, and `Bench.Came` that a certain
moment was among them, with all that had happened by then. A moment between two benches comes before
or after any bench in between (`Bench.Came.split`), so that it can be traced to the piece of work
that it belongs to.

The pieces of a run follow: what is asked of the machine and of the operator in each.
-/

namespace BootTrial

namespace Bench

/-- The bench when an event has been put into its history. -/
def noted (bench : Bench) (event : Event) : Bench :=
  { bench with history := ⟨event, bench.files⟩ :: bench.history }

/-- Between two benches there were only events of a kind. -/
def Only (kind : Event → Prop) (before after : Bench) : Prop :=
  ∃ moments, after.history = moments ++ before.history ∧ ∀ moment ∈ moments, kind moment.event

/-- Between two benches there was a moment, right after some earlier ones. -/
structure Came (moment : Moment) (earlier : List Moment) (before after : Bench) : Prop where
  /-- It was not before the first bench. -/
  since : before.history <:+ earlier
  /-- It was not after the second bench. -/
  reached : moment :: earlier <:+ after.history

variable {kind : Event → Prop} {before middle after : Bench} {moment : Moment}
  {earlier : List Moment}

instance (kind : Event → Prop) : IsPreorder Bench (Only kind) where
  refl _ := ⟨[], rfl, by simp⟩
  trans _ _ _ h h' := by
    obtain ⟨first, hfirst, hkind⟩ := h
    obtain ⟨second, hsecond, hkind'⟩ := h'
    refine ⟨second ++ first, by rw [hsecond, hfirst, List.append_assoc], fun moment hmem => ?_⟩
    rcases List.mem_append.mp hmem with hmem | hmem
    · exact hkind' moment hmem
    · exact hkind moment hmem

namespace Only

/-- Where nothing has happened there were events of any kind. -/
theorem of_history (h : after.history = before.history) : before.Only kind after :=
  ⟨[], h, by simp⟩

/-- Where nothing moves nothing has happened. -/
theorem of_unmoved (before after : Bench) (h : Unmoved before after) : before.Only kind after :=
  of_history h.history

/-- A step is a change. -/
theorem stepTo (hkind : kind .changed) (bench : Bench) (files : Node) :
    bench.Only kind (bench.stepTo files) :=
  ⟨[⟨.changed, files⟩], rfl, by simpa using hkind⟩

/-- An event that is put into the history. -/
theorem noted {event : Event} (hkind : kind event) (bench : Bench) :
    bench.Only kind (bench.noted event) :=
  ⟨[⟨event, bench.files⟩], rfl, by simpa using hkind⟩

/-- Events of a kind are events of a wider kind. -/
theorem mono {kind' : Event → Prop} (himp : ∀ event, kind event → kind' event) (before after : Bench)
    (h : before.Only kind after) : before.Only kind' after := by
  obtain ⟨moments, hmoments, hkind⟩ := h
  exact ⟨moments, hmoments, fun moment hmem => himp _ (hkind moment hmem)⟩

/-- The history grows. -/
theorem grows (h : before.Only kind after) : before.history <:+ after.history := by
  obtain ⟨moments, hmoments, -⟩ := h
  exact ⟨moments, hmoments.symm⟩

/-- A moment that came is of the kind. -/
theorem of_came (h : before.Only kind after) (hcame : Came moment earlier before after) :
    kind moment.event := by
  obtain ⟨moments, hmoments, hkind⟩ := h
  obtain ⟨between, rfl⟩ := hcame.since
  obtain ⟨later, hlater⟩ := hcame.reached
  have hsame : later ++ moment :: between = moments := by
    rw [hmoments, ← List.cons_append, ← List.append_assoc] at hlater
    exact List.append_cancel_right hlater
  exact hkind moment (hsame ▸ List.mem_append_right later List.mem_cons_self)

end Only

namespace Came

/-- What came between two benches came before or after a bench in between. -/
theorem split (h : Came moment earlier before after) (hgrows : middle.history <:+ after.history) :
    Came moment earlier before middle ∨ Came moment earlier middle after := by
  rcases List.suffix_or_suffix_of_suffix h.reached hgrows with hshort | hlong
  · exact .inl ⟨h.since, hshort⟩
  · rcases List.suffix_cons_iff.mp hlong with hsame | hlong
    · exact .inl ⟨h.since, hsame ▸ List.suffix_rfl⟩
    · exact .inr ⟨hlong, h.reached⟩

/-- Between a bench and itself nothing came. -/
theorem not_self (bench : Bench) : ¬ Came moment earlier bench bench := by
  intro h
  have hlength := (h.reached.trans h.since).length_le
  rw [List.length_cons] at hlength
  omega

/-- What came by some bench came by each later one. -/
theorem later (h : Came moment earlier before middle) (hgrows : middle.history <:+ after.history) :
    Came moment earlier before after :=
  ⟨h.since, h.reached.trans hgrows⟩

end Came

end Bench

section Parts

variable {kind : Event → Prop} {machine : Machine} {operator : Operator} {settings : Settings}

/-- Behind a request there are only changes. -/
theorem Machine.WritesOnlyLogs.answer_only (h : machine.WritesOnlyLogs) (request : Request)
    (bench : Bench) :
    (bench.noted (.asked request)).Only (· = .changed) (bench.perform (machine.ask request)).2 := by
  obtain ⟨-, -, ⟨moments, hmoments, hmem⟩, -⟩ := h.answered request (bench.noted (.asked request))
  exact ⟨moments, hmoments, fun moment hin => (hmem moment hin).1⟩

/-- A request is asked, and then there are only changes. -/
theorem Machine.WritesOnlyLogs.ask_only (h : machine.WritesOnlyLogs) {request : Request}
    (hasked : kind (.asked request)) (hchanged : kind .changed) :
    Keeps (Bench.Only kind) (machine.ask request) := by
  intro bench
  refine trans_of (Bench.Only kind) (.noted hasked bench) ?_
  refine Bench.Only.mono ?_ _ _ (h.answer_only request bench)
  rintro _ rfl
  exact hchanged

/-- Of what came of a request only the request itself is no change. -/
theorem Machine.WritesOnlyLogs.ask_came (h : machine.WritesOnlyLogs) {request : Request}
    {bench : Bench} {moment : Moment} {earlier : List Moment}
    (hcame : Bench.Came moment earlier bench (bench.perform (machine.ask request)).2)
    (hevent : moment.event ≠ .changed) :
    moment = ⟨.asked request, bench.files⟩ ∧ earlier = bench.history := by
  have hanswer := h.answer_only request bench
  rcases hcame.split hanswer.grows with hcame | hcame
  · obtain ⟨between, rfl⟩ := hcame.since
    have hlength := hcame.reached.length_le
    have hnil : between = [] := by
      simp only [Bench.noted, List.length_cons, List.length_append] at hlength
      exact List.length_eq_zero_iff.mp (by omega)
    subst hnil
    have hreached : moment :: bench.history = ⟨.asked request, bench.files⟩ :: bench.history :=
      hcame.reached.eq_of_length rfl
    exact ⟨(List.cons.inj hreached).1, rfl⟩
  · exact absurd (hanswer.of_came hcame) hevent

/-- A menu is presented. -/
theorem Operator.OnlyChooses.ask_only (h : operator.OnlyChooses) (title : String) (menu : Menu)
    (hkind : kind (.presented title menu.descriptions)) :
    Keeps (Bench.Only kind) (operator.ask title menu) := by
  intro bench
  exact ⟨[⟨.presented title menu.descriptions, bench.files⟩],
    (h.unmoved title menu _).history, by simpa using hkind⟩

namespace Trial

/-- Loading a test is preparation. -/
theorem load_only (hmachine : machine.WritesOnlyLogs) (settings : Settings) (directory : Path) :
    Keeps (Bench.Only Event.IsPreparatory) (load settings machine directory) := by
  unfold load
  refine (boundBoot_keeps (Bench.Only.stepTo trivial) directory).bind fun boot => ?_
  refine (hmachine.ask_only trivial trivial).bind fun currentBoot => ?_
  refine (logFrontOf_keeps directory).bind fun front => ?_
  exact ((Scenario.read_unmoved _ _).imp Bench.Only.of_unmoved).bind fun _ => Keeps.pure _

/-- What happens before the operator is called is preparation. -/
theorem prepare_only (hmachine : machine.WritesOnlyLogs) (settings : Settings) (directory : Path) :
    Keeps (Bench.Only Event.IsPreparatory) (prepare settings machine directory) := by
  unfold prepare
  refine (load_only hmachine settings directory).bind fun trial => ?_
  refine ((settings.menu_unmoved _).imp Bench.Only.of_unmoved).bind fun menu => ?_
  refine Keeps.bind ?_ fun _ => Keeps.pure _
  unfold captureLogs
  refine (hmachine.ask_only trivial trivial).bind fun _ => ?_
  split
  · exact hmachine.ask_only trivial trivial
  · exact Keeps.pure _

/-- Having the operator choose is to call and to present a menu. -/
theorem choose_only (hmachine : machine.WritesOnlyLogs) (hoperator : operator.OnlyChooses)
    (message : String) (menu : Menu) (trial : Trial)
    (hcall : kind (.asked (.announce message))) (hchanged : kind .changed)
    (hmenu : kind (.presented trial.scenario.title menu.descriptions)) :
    Keeps (Bench.Only kind) (choose machine operator message menu trial) := by
  unfold choose
  split
  · exact Keeps.pure _
  · split
    · exact Keeps.bind (hmachine.ask_only hcall hchanged) fun _ => hoperator.ask_only _ _ hmenu
    · exact hoperator.ask_only _ _ hmenu

/-- To close a trial is nothing but changes. -/
theorem close_only (hchanged : kind .changed) : KeepsActing (Bench.Only kind) close :=
  .close (moveToResults_keeps (Bench.Only.stepTo hchanged))

end Trial

namespace Action

/-- An action that does not restart is nothing but changes. -/
theorem run_only {action : Action} (haction : action ≠ .reboot) (machine : Machine) :
    KeepsActing (Bench.Only (· = .changed)) (action.run machine) := by
  have hstep : ∀ (bench : Bench) (files : Node), bench.Only (· = .changed) (bench.stepTo files) :=
    Bench.Only.stepTo rfl
  cases action with
  | reboot => exact absurd rfl haction
  | quit => exact .modifyTrial _
  | discard => exact .runDiscard (FileWork.removeTree_keeps hstep)
  | writeResult column result =>
    refine .runWriteResult (fun path => (ScenarioTable.headerAt_unmoved path).imp Bench.Only.of_unmoved)
      (Scenario.write_keeps hstep fun _ _ => .of_history rfl) column result

/-- A restart asks the machine to flush its disk and to restart. -/
theorem runReboot_only (hmachine : machine.WritesOnlyLogs) (hsync : kind (.asked .sync))
    (hreboot : kind (.asked .reboot)) (hchanged : kind .changed) :
    KeepsActing (Bench.Only kind) (runReboot machine) :=
  (KeepsActing.lift (hmachine.ask_only hsync hchanged)).bind fun _ =>
    (Trial.close_only hchanged).bind fun _ => .lift (hmachine.ask_only hreboot hchanged)

/-- Actions ask the machine for nothing but flushing its disk and restarting. -/
theorem runAll_only (hmachine : machine.WritesOnlyLogs) (hsync : kind (.asked .sync))
    (hreboot : kind (.asked .reboot)) (hchanged : kind .changed) (actions : List Action) :
    KeepsActing (Bench.Only kind) (runAll machine actions) := by
  induction actions with
  | nil => exact .pure _
  | cons action rest ih =>
    refine KeepsActing.bind ?_ fun _ => ih
    by_cases haction : action = .reboot
    · subst haction
      exact runReboot_only hmachine hsync hreboot hchanged
    · intro bench trial
      refine Bench.Only.mono ?_ _ _ (run_only haction machine bench trial)
      rintro _ rfl
      exact hchanged

end Action

end Parts

end BootTrial
