import BootTrial.Proofs.Moments

/-!
# The calls of a run

What a run asks of the machine and of the operator, in the order of time (`Bench.Calls`). To load its
test it asks the machine for the boot that it is in. Then it goes through a script that the test and
the menu give it (`Trial.script`): the kernel log is captured of the boot that the test is bound to;
in this boot the machine is put to sleep; the operator is called, in this boot again; and the menu is
shown. A call that fails ends the script. What is asked behind it is asked by actions of the choice,
which flush the disk and restart the machine (`Trial.runAt_conduct`).
-/

namespace BootTrial

namespace Bench

/-- The calls between two benches, to the machine and to the operator, the first one first. -/
def Calls (before after : Bench) (calls : List Event) : Prop :=
  ∃ moments, after.history = moments ++ before.history
    ∧ calls = (moments.reverse.map (·.event)).filter (· ≠ .changed)

/-- Between two benches the machine has been asked something, and this was the reply. -/
def Replied (machine : Machine) (request : Request) (reply : request.Reply) (before after : Bench) :
    Prop :=
  ∃ asking : Bench, before.history <:+ asking.history
    ∧ (asking.perform (machine.ask request)).1 = .ok reply
    ∧ (asking.perform (machine.ask request)).2.history <:+ after.history

/-- Between two benches the machine has served a request. -/
def Served (machine : Machine) (request : Request) (before after : Bench) : Prop :=
  ∃ reply, before.Replied machine request reply after

/-- The calls between two benches are the beginning of a script, and each request that another call
follows has been served. If the work between them is done they are the whole script, and each has
been served. -/
def Follows (machine : Machine) (script : List Event) (before after : Bench) (done : Prop) : Prop :=
  ∃ calls, before.Calls after calls ∧ calls <+: script
    ∧ (∀ request, .asked request ∈ calls.dropLast → before.Served machine request after)
    ∧ (done → calls = script
      ∧ ∀ request, .asked request ∈ calls → before.Served machine request after)

variable {machine : Machine} {script script' calls calls' : List Event} {before middle after : Bench}
  {done : Prop}

namespace Calls

/-- Calls and later calls. -/
theorem trans (h : before.Calls middle calls) (h' : middle.Calls after calls') :
    before.Calls after (calls ++ calls') := by
  obtain ⟨first, hfirst, rfl⟩ := h
  obtain ⟨second, hsecond, rfl⟩ := h'
  refine ⟨second ++ first, by rw [hsecond, hfirst, List.append_assoc], ?_⟩
  rw [List.reverse_append, List.map_append, List.filter_append]

/-- The history has grown by the calls. -/
theorem grows (h : before.Calls after calls) : before.history <:+ after.history := by
  obtain ⟨moments, hmoments, -⟩ := h
  exact ⟨moments, hmoments.symm⟩

/-- Events of a kind are calls of this kind. -/
theorem of_only {kind : Event → Prop} (h : before.Only kind after) :
    ∃ calls, before.Calls after calls ∧ ∀ call ∈ calls, kind call ∧ call ≠ .changed := by
  obtain ⟨moments, hmoments, hkind⟩ := h
  refine ⟨_, ⟨moments, hmoments, rfl⟩, fun call hcall => ?_⟩
  obtain ⟨hmem, hne⟩ := List.mem_filter.mp hcall
  obtain ⟨moment, hmoment, rfl⟩ := List.mem_map.mp hmem
  exact ⟨hkind moment (List.mem_reverse.mp hmoment), of_decide_eq_true hne⟩

/-- Changes are no calls. -/
theorem of_changes (h : before.Only (· = .changed) after) : before.Calls after [] := by
  obtain ⟨calls, hcalls, hkind⟩ := of_only h
  obtain rfl : calls = [] :=
    List.eq_nil_iff_forall_not_mem.mpr fun call hmem => (hkind call hmem).2 (hkind call hmem).1
  exact hcalls

end Calls

/-- What has been served has been served within a longer time. -/
theorem Served.mono {request : Request} {first last : Bench}
    (h : before.Served machine request after) (hfirst : first.history <:+ before.history)
    (hlast : after.history <:+ last.history) : first.Served machine request last := by
  obtain ⟨reply, asking, hsince, hreply, huntil⟩ := h
  exact ⟨reply, asking, hfirst.trans hsince, hreply, huntil.trans hlast⟩

namespace Follows

/-- Where there are only changes the script is empty. -/
theorem of_changes (h : before.Only (· = .changed) after) (done : Prop) :
    before.Follows machine [] after done :=
  ⟨[], .of_changes h, List.nil_prefix, by simp, fun _ => ⟨rfl, by simp⟩⟩

/-- A script that has been gone through, and then another one. -/
theorem trans (h : before.Follows machine script middle True)
    (h' : middle.Follows machine script' after done) :
    before.Follows machine (script ++ script') after done := by
  obtain ⟨calls, hcalls, -, -, hdone⟩ := h
  obtain ⟨rfl, hserved⟩ := hdone trivial
  obtain ⟨calls', hcalls', hbegins, hserved', hdone'⟩ := h'
  have hfirst : ∀ request, .asked request ∈ calls → before.Served machine request after :=
    fun request hmem => (hserved request hmem).mono List.suffix_rfl hcalls'.grows
  have hsecond : ∀ {request}, middle.Served machine request after →
      before.Served machine request after := fun h => h.mono hcalls.grows List.suffix_rfl
  refine ⟨calls ++ calls', hcalls.trans hcalls', (List.prefix_append_right_inj calls).mpr hbegins,
    fun request hmem => ?_, fun hend => ?_⟩
  · by_cases hnil : calls' = []
    · subst hnil
      rw [List.append_nil] at hmem
      exact hfirst request (List.dropLast_subset calls hmem)
    · rw [List.dropLast_append_of_ne_nil hnil, List.mem_append] at hmem
      exact hmem.elim (hfirst request) fun hmem => hsecond (hserved' request hmem)
  · obtain ⟨rfl, hserved'⟩ := hdone' hend
    refine ⟨rfl, fun request hmem => ?_⟩
    exact (List.mem_append.mp hmem).elim (hfirst request) fun hmem => hsecond (hserved' request hmem)

/-- A script that has been broken off is the beginning of a longer one. -/
theorem broken (h : before.Follows machine script after done) (script' : List Event) :
    before.Follows machine (script ++ script') after False := by
  obtain ⟨calls, hcalls, hbegins, hserved, -⟩ := h
  exact ⟨calls, hcalls, hbegins.trans (List.prefix_append script script'), hserved, False.elim⟩

/-- Work that is done is done in any sense. -/
theorem mono {done' : Prop} (h : before.Follows machine script after done) (hdone : done' → done) :
    before.Follows machine script after done' := by
  obtain ⟨calls, hcalls, hbegins, hserved, hwhole⟩ := h
  exact ⟨calls, hcalls, hbegins, hserved, fun h => hwhole (hdone h)⟩

end Follows

end Bench

/-- Work follows a script: it makes the calls of the script, up to the first that fails. -/
def Work.Follows {α : Type} (machine : Machine) (script : List Event) (work : Work α) : Prop :=
  ∀ bench : Bench,
    bench.Follows machine script (bench.perform work).2 ((bench.perform work).1.isOk = true)

section Parts

variable {α β : Type} {machine : Machine} {operator : Operator} {settings : Settings}
  {plan plan' : List Event}

namespace Work.Follows

/-- Work that only changes files. -/
theorem of_keeps {work : Work α} (h : Keeps (Bench.Only (· = .changed)) work) :
    work.Follows machine [] :=
  fun bench => .of_changes (h bench) _

/-- Work that goes on where other work has succeeded. -/
theorem bind {work : Work α} {next : α → Work β} (hwork : work.Follows machine plan)
    (hnext : ∀ a, (next a).Follows machine plan') :
    (work >>= next).Follows machine (plan ++ plan') := by
  intro bench
  have hfirst := hwork bench
  rcases hperform : bench.perform work with ⟨failure | a, middle⟩
  all_goals rw [hperform] at hfirst
  · rw [Bench.perform_bind_error hperform]
    exact (hfirst.broken plan').mono (by simp [Except.isOk, Except.toBool])
  · rw [Bench.perform_bind_ok hperform]
    exact (hfirst.mono fun _ => rfl).trans (hnext a middle)

/-- Work that follows work that only changes files. -/
theorem behind_changes {work : Work α} {next : α → Work β}
    (hwork : Keeps (Bench.Only (· = .changed)) work)
    (hnext : ∀ a, (next a).Follows machine plan) : (work >>= next).Follows machine plan := by
  simpa using (of_keeps hwork : work.Follows machine []).bind hnext

/-- Work behind which other work only changes files. -/
theorem before_changes {work : Work α} {next : α → Work β} (hwork : work.Follows machine plan)
    (hnext : ∀ a, Keeps (Bench.Only (· = .changed)) (next a)) :
    (work >>= next).Follows machine plan := by
  simpa using hwork.bind fun a => (of_keeps (hnext a) : (next a).Follows machine [])

end Work.Follows

/-- The script of a request. -/
theorem Machine.WritesOnlyLogs.ask_follows (h : machine.WritesOnlyLogs) (request : Request) :
    (machine.ask request : Work request.Reply).Follows machine [.asked request] := by
  intro bench
  have hasked : bench.Calls (bench.noted (.asked request)) [.asked request] :=
    ⟨[⟨.asked request, bench.files⟩], rfl, rfl⟩
  have hcalls := hasked.trans (.of_changes (h.answer_only request bench))
  refine ⟨[.asked request], hcalls, List.prefix_rfl, by simp, fun hok => ⟨rfl, ?_⟩⟩
  intro other hother
  obtain rfl : other = request := by simpa using hother
  cases hreply : (bench.perform (machine.ask other)).1 with
  | error failure => simp [hreply, Except.isOk, Except.toBool] at hok
  | ok reply => exact ⟨reply, bench, List.suffix_rfl, hreply, List.suffix_rfl⟩

/-- The script of a menu. -/
theorem Operator.OnlyChooses.ask_follows (h : operator.OnlyChooses) (title : String) (menu : Menu) :
    (operator.ask title menu).Follows machine [.presented title menu.descriptions] := by
  intro bench
  refine ⟨_, ⟨[⟨.presented title menu.descriptions, bench.files⟩],
    (h.unmoved title menu _).history, rfl⟩, List.prefix_rfl, by simp, fun _ => ⟨rfl, by simp⟩⟩

namespace Trial

/-- What is captured for a test: the kernel log of the boot that it is bound to, and in this boot the
log of a sleep. -/
def captures (trial : Trial) : List Event :=
  .asked (.captureKernelLog trial.boot (trial.log kernelLogName))
    :: if trial.isSameBoot then [.asked (.sleepCycle (trial.log sleepLogName))] else []

/-- How the operator is asked about a test: with a call, in the boot that it is bound to, and with
the menu. An empty menu is not shown. -/
def consultation (trial : Trial) (message : String) (menu : Menu) : List Event :=
  if menu.isEmpty then []
  else (if trial.isSameBoot then [.asked (.announce message)] else [])
    ++ [.presented trial.scenario.title menu.descriptions]

/-- What a run asks for a test before it carries out what has been chosen. -/
def script (trial : Trial) (message : String) (menu : Menu) : List Event :=
  trial.captures ++ trial.consultation message menu

/-- To load a test the machine is asked for its boot. -/
theorem load_follows (hmachine : machine.WritesOnlyLogs) (settings : Settings) (directory : Path) :
    (load settings machine directory).Follows machine [.asked .currentBoot] := by
  have hstep : ∀ (bench : Bench) (files : Node), bench.Only (· = .changed) (bench.stepTo files) :=
    Bench.Only.stepTo rfl
  unfold load
  refine .behind_changes (boundBoot_keeps hstep directory) fun boot => ?_
  refine .before_changes (hmachine.ask_follows .currentBoot) fun currentBoot => ?_
  refine (logFrontOf_keeps directory).bind fun front => ?_
  exact ((Scenario.read_unmoved _ _).imp Bench.Only.of_unmoved).bind fun _ => Keeps.pure _

/-- Capturing the logs of a test. -/
theorem captureLogs_follows (hmachine : machine.WritesOnlyLogs) (trial : Trial) :
    (trial.captureLogs machine).Follows machine trial.captures := by
  unfold captureLogs captures
  refine Work.Follows.bind (hmachine.ask_follows _) fun _ => ?_
  cases trial.isSameBoot with
  | true => exact hmachine.ask_follows _
  | false => exact .of_keeps (Keeps.pure _)

/-- Having the operator choose. -/
theorem choose_follows (hmachine : machine.WritesOnlyLogs) (hoperator : operator.OnlyChooses)
    (message : String) (menu : Menu) (trial : Trial) :
    (choose machine operator message menu trial).Follows machine
      (trial.consultation message menu) := by
  unfold choose consultation
  cases menu.isEmpty with
  | true => exact .of_keeps (Keeps.pure _)
  | false =>
    cases trial.isSameBoot with
    | true => exact Work.Follows.bind (hmachine.ask_follows _) fun _ => hoperator.ask_follows _ _
    | false => exact hoperator.ask_follows _ _

/-- A script with a menu is at its end when the menu is shown, and its last call is this one. -/
theorem script_presented {trial : Trial} {message title : String} {menu : Menu} {front : List Event}
    {descriptions : List String} (hfront : front <+: trial.script message menu)
    (hmem : .presented title descriptions ∈ front) :
    .asked (.captureKernelLog trial.boot (trial.log kernelLogName)) ∈ front.dropLast
      ∧ (trial.isSameBoot = true → .asked (.sleepCycle (trial.log sleepLogName)) ∈ front.dropLast
        ∧ .asked (.announce message) ∈ front.dropLast) := by
  obtain ⟨back, hback⟩ := hfront
  have hscript : .presented title descriptions ∈ trial.script message menu :=
    hback ▸ List.mem_append_left back hmem
  unfold script captures consultation at hback hscript
  cases hempty : menu.isEmpty <;> cases hsame : trial.isSameBoot
  case true.false | true.true => simp [hempty, hsame] at hscript
  case false.false =>
    simp only [hempty, hsame] at hback
    rcases front with _ | ⟨first, _ | ⟨second, others⟩⟩
    all_goals simp_all
  case false.true =>
    simp only [hempty, hsame] at hback
    rcases front with _ | ⟨first, _ | ⟨second, _ | ⟨third, _ | ⟨fourth, others⟩⟩⟩⟩
    all_goals simp_all

/-- How a run conducts a test that it has loaded, with its menu compiled: behind the request for the
boot stands the beginning of the script, in which each request that another call follows has been
served. Behind the whole script there may be flushes and restarts. -/
structure Conduct (machine : Machine) (trial : Trial) (message : String) (menu : Menu)
    (before after : Bench) (front rest : List Event) : Prop where
  /-- The calls. -/
  calls : before.Calls after (.asked .currentBoot :: front ++ rest)
  /-- They begin with the script: the kernel log is captured first, once at most, and of no boot but
  the one that the test is bound to. The machine sleeps and the operator is called after that, once
  at most, and only if this is the boot that the machine is in. -/
  script : front <+: trial.script message menu
  /-- A request is served before the next call. -/
  served : ∀ request, .asked request ∈ front.dropLast → before.Served machine request after
  /-- So the menu is shown only when the kernel log has been captured, and in the boot that the test
  is bound to only when the machine has slept and the operator has been called. -/
  shown : ∀ title descriptions, .presented title descriptions ∈ front →
    before.Served machine (.captureKernelLog trial.boot (trial.log kernelLogName)) after
      ∧ (trial.isSameBoot = true →
        before.Served machine (.sleepCycle (trial.log sleepLogName)) after
          ∧ before.Served machine (.announce message) after)
  /-- Nothing else is asked before the script is at its end. -/
  whole : rest ≠ [] → front = trial.script message menu
  /-- What is asked then. -/
  rest : ∀ call ∈ rest, call = .asked .sync ∨ call = .asked .reboot

/-- A script that is followed once a test has been loaded, and what is asked behind it. -/
theorem conduct_of_follows {trial : Trial} {message : String} {menu : Menu}
    {before read middle after : Bench} {done : Prop} {rest : List Event}
    (h : read.Follows machine (trial.script message menu) middle done)
    (hread : before.Calls read [.asked .currentBoot]) (hafter : middle.Calls after rest)
    (hdone : rest = [] ∨ done) (hrest : ∀ call ∈ rest, call = .asked .sync ∨ call = .asked .reboot) :
    ∃ front, Conduct machine trial message menu before after front rest := by
  obtain ⟨front, hcalls, hbegins, hserved, hwhole⟩ := h
  have hserved' : ∀ request, .asked request ∈ front.dropLast → before.Served machine request after :=
    fun request hmem => (hserved request hmem).mono hread.grows hafter.grows
  refine ⟨front, (hread.trans hcalls).trans hafter, hbegins, hserved',
    fun title descriptions hmem => ?_, fun hne => (hwhole (hdone.resolve_left hne)).1, hrest⟩
  obtain ⟨hcaptured, hsame⟩ := script_presented hbegins hmem
  exact ⟨hserved' _ hcaptured, fun h => ⟨hserved' _ (hsame h).1, hserved' _ (hsame h).2⟩⟩

/-- What a run comes to once its test has been loaded and its menu compiled. -/
theorem perform_runAt_loaded {directory : Path} {trial : Trial} {menu : Menu}
    {bench loaded read : Bench}
    (hload : bench.perform (load settings machine directory) = (.ok trial, loaded))
    (hmenu : loaded.perform (settings.menu trial.conditions) = (.ok menu, read)) :
    bench.perform (runAt settings machine operator directory)
      = match read.perform (trial.captureLogs machine) with
        | (.error failure, after) => (.error failure, after)
        | (.ok _, ready) =>
          match ready.perform (choose machine operator settings.notify.message menu trial) with
          | (answer, chosen) => conclude settings machine directory menu answer trial chosen := by
  rw [perform_runAt, prepare, Bench.perform_bind_ok hload, Bench.perform_bind_ok hmenu]
  rcases hcapture : read.perform (trial.captureLogs machine) with ⟨failure | _, ready⟩
  · rw [Bench.perform_bind_error hcapture]
  · rw [Bench.perform_bind_ok hcapture]
    rfl

/-- A test that has been loaded, with its menu compiled, is conducted by its script. -/
theorem runAt_conducted (hmachine : machine.WritesOnlyLogs) (hoperator : operator.OnlyChooses)
    {directory : Path} {trial : Trial} {menu : Menu} {bench loaded read : Bench}
    (hload : bench.perform (load settings machine directory) = (.ok trial, loaded))
    (hmenu : loaded.perform (settings.menu trial.conditions) = (.ok menu, read))
    (hread : bench.Calls read [.asked .currentBoot]) :
    ∃ front rest, Conduct machine trial settings.notify.message menu bench
      (bench.perform (runAt settings machine operator directory)).2 front rest := by
  have hclosing : ∀ (trial : Trial) (bench : Bench), bench.Calls (bench.act trial close).2.2 [] := by
    have hclose : KeepsActing (Bench.Only (· = .changed)) close := close_only rfl
    exact fun trial bench => .of_changes (hclose bench trial)
  rw [perform_runAt_loaded hload hmenu]
  have hlogs := captureLogs_follows hmachine trial read
  rcases hcapture : read.perform (trial.captureLogs machine) with ⟨failure | _, ready⟩
  all_goals rw [hcapture] at hlogs
  · -- The script is broken off in front of the operator.
    obtain ⟨front, hconduct⟩ := conduct_of_follows
      (hlogs.broken (trial.consultation settings.notify.message menu)) hread
      (.of_changes (refl_of _ ready)) (.inl rfl) (by simp)
    exact ⟨front, [], hconduct⟩
  have hasking := choose_follows hmachine hoperator settings.notify.message menu trial ready
  rcases hchoose : ready.perform (choose machine operator settings.notify.message menu trial) with
    ⟨failure | choice, chosen⟩
  all_goals
    rw [hchoose] at hasking
    have hfollows := (hlogs.mono fun _ => rfl).trans hasking
    simp only [hchoose]
  · -- The trial is closed nevertheless, and this asks nothing.
    obtain ⟨front, hconduct⟩ :=
      conduct_of_follows hfollows hread (hclosing trial chosen) (.inl rfl) (by simp)
    exact ⟨front, [], hconduct⟩
  · have hactions : KeepsActing (Bench.Only fun event =>
          event = .changed ∨ event = .asked .sync ∨ event = .asked .reboot)
        (Action.runAll machine (actionsOf menu choice)) :=
      Action.runAll_only hmachine (.inr (.inl rfl)) (.inr (.inr rfl)) (.inl rfl) _
    obtain ⟨rest, hrest, hkind⟩ := Bench.Calls.of_only (hactions chosen trial)
    simp only [conclude]
    rcases hact : chosen.act trial (Action.runAll machine (actionsOf menu choice)) with
      ⟨outcome, trial', acted⟩
    rw [hact] at hrest
    have hafter := hrest.trans (hclosing trial' acted)
    rw [List.append_nil] at hafter
    obtain ⟨front, hconduct⟩ := conduct_of_follows hfollows hread hafter (.inr rfl)
      fun call hcall => (hkind call hcall).1.resolve_left (hkind call hcall).2
    exact ⟨front, rest, hconduct⟩

/-- Whatever comes of a run: its test is not loaded or its menu is not compiled, and then nothing has
been asked but the boot that the machine is in; or the test is conducted by its script. -/
theorem runAt_conduct (hmachine : machine.WritesOnlyLogs) (hoperator : operator.OnlyChooses)
    (settings : Settings) (directory : Path) (bench : Bench) :
    (∃ calls, bench.Calls (bench.perform (runAt settings machine operator directory)).2 calls
        ∧ calls <+: [.asked .currentBoot])
      ∨ ∃ trial loaded menu read front rest,
        bench.perform (load settings machine directory) = (.ok trial, loaded)
          ∧ loaded.perform (settings.menu trial.conditions) = (.ok menu, read)
          ∧ Conduct machine trial settings.notify.message menu bench
            (bench.perform (runAt settings machine operator directory)).2 front rest := by
  have hloading := load_follows hmachine settings directory bench
  rcases hload : bench.perform (load settings machine directory) with ⟨failure | trial, loaded⟩
  all_goals
    rw [hload] at hloading
    obtain ⟨calls, hloaded, hbegins, -, hwhole⟩ := hloading
  · have hprepare : bench.perform (prepare settings machine directory) = (.error failure, loaded) :=
      Bench.perform_bind_error hload _
    rw [perform_runAt, hprepare]
    exact .inl ⟨calls, hloaded, hbegins⟩
  obtain ⟨rfl, -⟩ := hwhole rfl
  have hreading := settings.menu_unmoved trial.conditions loaded
  rcases hmenu : loaded.perform (settings.menu trial.conditions) with ⟨failure | menu, read⟩
  all_goals
    rw [hmenu] at hreading
    have hread : bench.Calls read [.asked .currentBoot] :=
      hloaded.trans (.of_changes (.of_unmoved _ _ hreading))
  · have hprepare : bench.perform (prepare settings machine directory) = (.error failure, read) := by
      rw [prepare, Bench.perform_bind_ok hload, Bench.perform_bind_error hmenu]
    rw [perform_runAt, hprepare]
    exact .inl ⟨_, hread, List.prefix_rfl⟩
  · obtain ⟨front, rest, hconduct⟩ := runAt_conducted hmachine hoperator hload hmenu hread
    exact .inr ⟨trial, loaded, menu, read, front, rest, rfl, hmenu, hconduct⟩

end Trial

end Parts

end BootTrial
