import BootTrial.Proofs.Fate

/-!
# Up to the choice

What a run does up to the choice of the operator. Once the test has been prepared its trial is open
(`Trial.prepare_opens`), and it is open still when the operator has chosen, or could not be asked
(`Trial.choose_quiet`). `Trial.runToChoice` is this part of a run; it gives the actions of the
choice.
-/

namespace BootTrial

/-- The front of the names of the logs that has been written down without a slash in it. -/
theorem Node.hasPlainFront_of_file {root : Node} {d : Place} {front : String} {runnable : Bool}
    (hfile : root.get? (d ++ [prefixName]) = some (.file (Text.encode front) runnable))
    (hslash : '/' ∉ front.toList) : root.HasPlainFront d := by
  intro content runnable' text hfile' htext
  rw [hfile, Option.some.injEq, Node.file.injEq] at hfile'
  rw [← hfile'.1, Text.decode?_encode] at htext
  cases htext
  exact hslash

namespace Trial

variable {settings : Settings} {machine : Machine} {operator : Operator} {workspace : Workspace}
  {w : Place} {name : String} {bench ready : Bench} {trial : Trial} {menu : Menu}

/-- Capturing the logs makes no header be forgotten. -/
theorem captureLogs_remembers (hmachine : machine.WritesOnlyLogs) (trial : Trial) :
    Keeps Bench.Remembers (trial.captureLogs machine) := by
  unfold captureLogs
  refine (hmachine.ask_remembers _).bind fun _ => ?_
  split
  · exact hmachine.ask_remembers _
  · exact Keeps.pure _

/-- A test that has been loaded is worked on by an open trial, which has read its scenario. -/
theorem load_opens (hmachine : machine.WritesOnlyLogs) (hruns : settings.workspace.Runs w name bench)
    (h : bench.perform (load settings machine (settings.workspace.running.join name))
      = (.ok trial, ready)) :
    ∃ content runnable header,
      bench.files.get? (Root.running.place w ++ [name] ++ [scenarioName])
          = some (.file content runnable)
        ∧ trial.scenario.IsRead content header
        ∧ IsOpen settings.workspace w name bench header trial.scenario trial ready
        ∧ ((settings.workspace.running.join name).join scenarioName).refusal? = none := by
  have hinside := load_staysIn (p := settings.workspace.running.join name)
    (d := Root.running.place w ++ [name]) settings hmachine bench hruns.leads
  rw [h] at hinside
  obtain ⟨boot, bound, -, h⟩ := Bench.perform_bind_inv h
  obtain ⟨currentBoot, asked, -, h⟩ := Bench.perform_bind_inv h
  obtain ⟨front, fronted, -, h⟩ := Bench.perform_bind_inv h
  obtain ⟨scenario, read, hscenario, h⟩ := Bench.perform_bind_inv h
  cases h
  -- Reading the scenario leaves the files alone, so the path led to the directory before.
  have hread := Scenario.read_unmoved ((settings.workspace.running.join name).join scenarioName)
    false fronted
  rw [hscenario] at hread
  have hleads : (settings.workspace.running.join name).Leads fronted.files fronted.here
      (Root.running.place w ++ [name]) := by
    rw [← hread.files, ← hread.here]
    exact hinside.leads hruns.leads
  obtain ⟨hfault, content, runnable, header, hfile, hisRead, hknown⟩ :=
    Scenario.read_ok hleads hscenario
  obtain ⟨hrefusal, -⟩ := Path.joinFault?_eq_none.mp hfault
  rw [← hread.files] at hfile
  have hstood : bench.files.get? (Root.running.place w ++ [name] ++ [scenarioName])
      = some (.file content runnable) := by
    rw [← hfile, hinside.files.get?_kept (.inl rfl)]
  have hstands : scenario.StandsIn header (Root.running.place w ++ [name]) ready.files :=
    ⟨hisRead.names_nodup, hisRead.named, content, runnable, hfile, fun _ => hisRead⟩
  refine ⟨content, runnable, header, hstood, hisRead, ⟨hruns, ?_, rfl, rfl, rfl, ?_, hstands, hknown⟩,
    hrefusal⟩
  · exact Path.refusal?_of_join hruns.plain scenarioName_isPlain hrefusal
  · exact hinside.mono (fun _ hbegins => .inr hbegins) fun _ _ => trivial

/-- A trial stays open while its directory changes only beside its fixed files. -/
theorem IsOpen.fixed {base after : Bench} {header : List String} {scenario : Scenario}
    {kind : Event → Prop}
    (h : IsOpen workspace w name base header scenario trial bench)
    (hinside : bench.Inside (Root.running.place w ++ [name]) IsFixed kind after)
    (hheaders : Bench.Remembers bench after) :
    IsOpen workspace w name base header scenario trial after := by
  refine ⟨h.runs, h.accepted, h.directory, h.results, h.isOpen, ?_, ?_, hheaders _ _ h.known⟩
  · exact h.inside.trans (hinside.mono (fun _ hbegins => .inr hbegins) fun _ _ => trivial)
  · exact h.stands.of_get? (hinside.files.get?_kept (.inl rfl))

/-- A test that has been prepared is worked on by an open trial, which has read its scenario. -/
theorem prepare_opens (hmachine : machine.WritesOnlyLogs)
    (hruns : settings.workspace.Runs w name bench)
    (hfront : bench.files.HasPlainFront (Root.running.place w ++ [name]))
    (h : bench.perform (prepare settings machine (settings.workspace.running.join name))
      = (.ok (trial, menu), ready)) :
    ∃ header, IsOpen settings.workspace w name bench header trial.scenario trial ready
      ∧ trial.scenario.names ≠ []
      ∧ ((settings.workspace.running.join name).join scenarioName).refusal? = none := by
  obtain ⟨loaded, bench₁, hload, h⟩ := Bench.perform_bind_inv h
  obtain ⟨menu', bench₂, hmenu, h⟩ := Bench.perform_bind_inv h
  obtain ⟨_, bench₃, hlogs, h⟩ := Bench.perform_bind_inv h
  cases h
  obtain ⟨hloaded, hplain⟩ := load_ok hmachine hruns.plain hruns.leads hfront hload
  obtain ⟨content, runnable, header, -, hisRead, hopen, hrefusal⟩ := load_opens hmachine hruns hload
  -- What follows keeps the scenario file and the header that is remembered for it.
  have hunmoved := Settings.menu_unmoved settings trial.conditions bench₁
  rw [hmenu] at hunmoved
  have hquiet := hopen.quiet (.of_unmoved hunmoved)
  have hlogsIn := captureLogs_staysIn hmachine hloaded.directory hplain bench₂
    hquiet.runs_now.leads
  have hremembers := captureLogs_remembers hmachine trial bench₂
  rw [hlogs] at hlogsIn hremembers
  exact ⟨header, hquiet.fixed hlogsIn hremembers, hisRead.names_ne_nil, hrefusal⟩

/-- Having the operator choose leaves the files alone. -/
theorem choose_quiet (hmachine : machine.WritesOnlyLogs) (hoperator : operator.OnlyChooses)
    (message : String) (menu : Menu) (trial : Trial) :
    Keeps (Bench.Quiet fun _ => True) (choose machine operator message menu trial) := by
  unfold choose
  split
  · exact Keeps.pure _
  · split
    · exact Keeps.bind (hmachine.ask_quiet rfl trivial trivial) fun _ =>
        hoperator.ask_quiet _ _ trivial
    · exact hoperator.ask_quiet _ _ trivial

/-- The part of a run up to the choice of the operator: it gives the actions of the choice. -/
def runToChoice (settings : Settings) (machine : Machine) (operator : Operator) (directory : Path) :
    Work (List Action) := do
  let (trial, menu) ← prepare settings machine directory
  let choice ← choose machine operator settings.notify.message menu trial
  return actionsOf menu choice

end Trial

end BootTrial
