import BootTrial.Proofs.Boots
import BootTrial.Proofs.Resuming

/-!
# An enrollment is faithful to its template

The i-th test of a batch holds the i-th row of the template (`Workspace.Carries`). A program that
remembers no header for the scenario file of the test reads just this row there while the test
waits, placeholders included, and loads the test with it when the test has been claimed, whichever
tests have been claimed before.

There is one exception, in which neither is so for any test of the batch: the header of the template
loses a byte order mark (`Table.losesMark`), which has come to stand at the start of the scenario
file and is passed over there. `enroll_carries` says this of all contents of the template that are
enrolled.
-/

namespace BootTrial

/-- An intact test is intact when it has been claimed: its directory has moved, and the file with
the boot id has been written. -/
theorem Node.HasIntact.bound {before after : Node} {d e : Place} {torn : Prop} {boot : BootId}
    (h : before.HasIntact d torn) (hdir : after.HasDir e) (hbound : after.IsBoundTo e boot)
    (hothers : ∀ other ≠ bootIdName, after.get? (e ++ [other]) = before.get? (d ++ [other])) :
    after.HasIntact e torn := by
  obtain ⟨entries, hentries, hintact⟩ := h
  obtain ⟨own, hown⟩ := hdir
  have hsame : ∀ other ≠ bootIdName, own.lookup other = entries.lookup other := by
    intro other hother
    rw [← get?_snoc hown, ← get?_snoc hentries, hothers other hother]
  refine ⟨own, hown, fun name node hnode => ?_, ?_⟩
  · by_cases hname : name = bootIdName
    · subst hname
      rw [← get?_snoc hown] at hnode
      obtain ⟨text, runnable, rfl, -⟩ := hbound node hnode
      exact .boot_text text runnable
    · exact hintact.proper name node (by rwa [← hsame name hname])
  · rw [hsame scenarioName (by decide)]
    exact hintact.sheet

section Tests

variable {workspace : Workspace} {w : Place} {name front : String} {scenario : Scenario}
  {bench waiting claimed : Bench}

/-- The scenario file of a test that has just been made. -/
theorem Node.get?_sheet {root : Node} {d : Place} {header : List String}
    (h : root.get? d = some (.dir (testEntries header front scenario))) :
    root.get? (d ++ [scenarioName]) = some (.file (scenario.tableBytes header) false) := by
  rw [get?_snoc h]
  rfl

/-- What is read of the scenario file of a test that waits. -/
theorem Workspace.read_waiting (hw : workspace.root.Leads bench.files bench.here w)
    (hname : IsPlain name) (hroom : workspace.HasRoom name)
    (htest : bench.files.get? (Root.pending.place w ++ [name])
      = some (.dir (testEntries scenario.names front scenario)))
    (hnodup : scenario.names.Nodup) (hnamed : ScenarioTable.isBlankHeader scenario.names = false)
    (hunknown : bench.headers.get? (Root.pending.place w ++ [name] ++ [scenarioName]) = none)
    (tolerant : Bool) :
    (bench.perform (Scenario.read ((workspace.pending.join name).join scenarioName) tolerant)).1
        = .ok scenario
      ↔ Table.losesMark scenario.names = false := by
  have hdir : bench.files.HasDir (Root.pending.place w ++ [name]) := ⟨_, htest⟩
  have hleads : (workspace.pending.join name).Leads bench.files bench.here
      (Root.pending.place w ++ [name]) :=
    (path_leads (r := .pending) hw hdir.above).join hname hroom.short hdir
  exact Scenario.read_tableBytes hleads
    (Path.joinFault?_eq_none.mpr ⟨hroom.sheet_accepted hname, by decide⟩) (Node.get?_sheet htest)
    hnodup hnamed hunknown tolerant

/-- What a test is loaded with when it has been claimed. -/
theorem Workspace.load_claimed {boot : BootId} {settings : Settings} {machine : Machine}
    (hmachine : machine.WritesOnlyLogs) (hnames : machine.NamesBoot)
    (hruns : workspace.Runs w (runningName name boot) claimed)
    (hbound : claimed.files.IsBoundTo (Root.running.place w ++ [runningName name boot]) boot)
    (hothers : ∀ other ≠ bootIdName,
      claimed.files.get? (Root.running.place w ++ [runningName name boot] ++ [other])
        = waiting.files.get? (Root.pending.place w ++ [name] ++ [other]))
    (htest : waiting.files.get? (Root.pending.place w ++ [name])
      = some (.dir (testEntries scenario.names front scenario)))
    (hown : Node.IsTest name (.dir (testEntries scenario.names front scenario)))
    (hnodup : scenario.names.Nodup) (hnamed : ScenarioTable.isBlankHeader scenario.names = false)
    (hunknown : claimed.headers.get?
      (Root.running.place w ++ [runningName name boot] ++ [scenarioName]) = none)
    (haccepted : ((workspace.running.join (runningName name boot)).join scenarioName).refusal?
      = none) :
    (∃ trial, (claimed.perform (Trial.load settings machine
        (workspace.running.join (runningName name boot)))).1 = .ok trial
          ∧ trial.scenario = scenario)
      ↔ Table.losesMark scenario.names = false := by
  have hintact : waiting.files.HasIntact (Root.pending.place w ++ [name]) False :=
    ⟨_, htest, .of_testEntries hown rfl hnodup hnamed⟩
  -- The scenario file has moved with the directory, and the claim has not written to it.
  have hfile : claimed.files.get?
      (Root.running.place w ++ [runningName name boot] ++ [scenarioName])
        = some (.file (scenario.tableBytes scenario.names) false) :=
    (hothers scenarioName (by decide)).trans (Node.get?_sheet htest)
  rw [Trial.load_reads_iff settings hmachine hnames hruns.plain hruns.leads
      (hintact.bound hruns.dir hbound hothers) ⟨boot, bootOfName?_runningName name boot⟩ hunknown,
    ← Scenario.exists_isRead_tableBytes hnodup hnamed]
  constructor
  · rintro ⟨-, content, runnable, header, hget, hread⟩
    rw [hfile] at hget
    cases hget
    exact ⟨header, hread⟩
  · rintro ⟨header, hread⟩
    exact ⟨haccepted, _, false, header, hfile, hread⟩

end Tests

/-- Each of some directories in the pending root is that of a test that holds the scenario with the
same number, if `kept` is so; otherwise none is. -/
structure Workspace.Carries (workspace : Workspace) (w : Place) (directories : List Path)
    (scenarios : List Scenario) (kept : Prop) (last : Bench) : Prop where
  /-- There are as many directories as scenarios. -/
  length : directories.length = scenarios.length
  /-- The scenario is read in the directory. -/
  reads : ∀ (i : Nat) (directory : Path) (scenario : Scenario), directories[i]? = some directory →
    scenarios[i]? = some scenario → ∃ name, directory = workspace.pending.join name
      ∧ ∀ (headers : HeaderCache) (tolerant : Bool),
        headers.get? (Root.pending.place w ++ [name] ++ [scenarioName]) = none →
        ((Bench.perform { last with headers }
          (Scenario.read (directory.join scenarioName) tolerant)).1 = .ok scenario ↔ kept)
  /-- When the test has been claimed, from what is left of the batch, it is loaded with the
  scenario. -/
  loads : ∀ (batch entries : Named Node) (waiting claimed : Bench) (boot : BootId)
    (directory : Path), last.files.get? (Root.pending.place w) = some (.dir batch) →
    workspace.root.Leads waiting.files waiting.here w →
    waiting.files.get? (Root.pending.place w) = some (.dir entries) → entries.Sublist batch →
    waiting.perform (workspace.claim boot) = (.ok directory, claimed) →
    ∃ (i : Nat) (name : String) (scenario : Scenario),
      directories[i]? = some (workspace.pending.join name) ∧ scenarios[i]? = some scenario
      ∧ directory = workspace.running.join (runningName name boot)
      ∧ ∀ (settings : Settings) (machine : Machine) (headers : HeaderCache),
        machine.WritesOnlyLogs → machine.NamesBoot →
        headers.get? (Root.running.place w ++ [runningName name boot] ++ [scenarioName]) = none →
        (directory.join scenarioName).refusal? = none →
        ((∃ trial, (Bench.perform { claimed with headers }
            (Trial.load settings machine directory)).1 = .ok trial ∧ trial.scenario = scenario)
          ↔ kept)

/-- The pending root holds a batch just as it has been enrolled. -/
structure Bench.IsBatched (workspace : Workspace) (w : Place) (template : String)
    (header : List String) (scenarios : List Scenario) (bench : Bench) : Prop where
  /-- The path of the workspace leads there. -/
  leads : workspace.root.Leads bench.files bench.here w
  /-- The batch. -/
  batch : bench.files.get? (Root.pending.place w)
    = some (.dir (batchFrom template header 1 scenarios))
  /-- It consists of tests. -/
  tests : bench.files.HoldsTests (Root.pending.place w)
    (batchFrom template header 1 scenarios).names
  /-- There has been room for them. -/
  room : ∀ name ∈ (batchFrom template header 1 scenarios).names, workspace.HasRoom name
  /-- The header names a column. -/
  named : ScenarioTable.isBlankHeader header = false
  /-- The records have the names of the header. -/
  names : ∀ scenario ∈ scenarios, scenario.names = header
  /-- No name stands twice in a record. -/
  nodup : ∀ scenario ∈ scenarios, scenario.names.Nodup

namespace Bench.IsBatched

variable {workspace : Workspace} {w : Place} {template : String} {header : List String}
  {scenarios : List Scenario} {bench : Bench} {i : Nat}

/-- The directory with a number is that of the record with this number. -/
theorem entry (h : bench.IsBatched workspace w template header scenarios) {name : String}
    {node : Node} (hnode : (batchFrom template header 1 scenarios)[i]? = some (name, node)) :
    ∃ scenario front, scenarios[i]? = some scenario ∧ scenario.names = header
      ∧ scenario.names.Nodup ∧ node = .dir (testEntries header front scenario)
      ∧ Node.IsTest name node := by
  have htest := (h.tests.entries h.batch).2.2 _ (List.mem_of_getElem? hnode)
  rw [getElem?_batchFrom, Option.map_eq_some_iff] at hnode
  obtain ⟨scenario, hscenario, hpair⟩ := hnode
  have hmem := List.mem_of_getElem? hscenario
  exact ⟨scenario, _, hscenario, h.names scenario hmem, h.nodup scenario hmem,
    (Prod.mk.inj hpair).2.symm, htest⟩

/-- What is read in a directory of the batch. -/
theorem reads (h : bench.IsBatched workspace w template header scenarios) {directory : Path}
    {scenario : Scenario}
    (hdirectory : ((batchFrom template header 1 scenarios).names.map workspace.pending.join)[i]?
      = some directory) (hscenario : scenarios[i]? = some scenario) :
    ∃ name, directory = workspace.pending.join name
      ∧ ∀ (headers : HeaderCache) (tolerant : Bool),
        headers.get? (Root.pending.place w ++ [name] ++ [scenarioName]) = none →
        ((Bench.perform { bench with headers }
          (Scenario.read (directory.join scenarioName) tolerant)).1 = .ok scenario
            ↔ Table.losesMark header = false) := by
  rw [Named.names, List.map_map, List.getElem?_map, Option.map_eq_some_iff] at hdirectory
  obtain ⟨⟨name, node⟩, hnode, rfl⟩ := hdirectory
  obtain ⟨scenario', front, hscenario', rfl, hnodup, rfl, htest⟩ := h.entry hnode
  obtain rfl : scenario' = scenario := Option.some.inj (hscenario'.symm.trans hscenario)
  have hmem := List.mem_of_getElem? hnode
  have hthere : bench.files.get? (Root.pending.place w ++ [name])
      = some (.dir (testEntries scenario'.names front scenario')) := by
    rw [Node.get?_snoc h.batch, Named.lookup_of_mem hmem (nodup_names_batchFrom ..)]
  have hroom := h.room name (List.mem_map_of_mem hmem)
  refine ⟨name, rfl, fun headers tolerant hunknown => ?_⟩
  have hleads : workspace.root.Leads { bench with headers }.files { bench with headers }.here w :=
    h.leads
  exact Workspace.read_waiting hleads htest.plain hroom hthere hnodup h.named hunknown tolerant

/-- What a test of the batch is loaded with when it has been claimed from what is left of the
batch. -/
theorem loads (h : bench.IsBatched workspace w template header scenarios) {entries : Named Node}
    {waiting claimed : Bench} {boot : BootId} {directory : Path}
    (hwaiting : workspace.root.Leads waiting.files waiting.here w)
    (hentries : waiting.files.get? (Root.pending.place w) = some (.dir entries))
    (hleft : entries.Sublist (batchFrom template header 1 scenarios))
    (hclaim : waiting.perform (workspace.claim boot) = (.ok directory, claimed)) :
    ∃ (i : Nat) (name : String) (scenario : Scenario),
      ((batchFrom template header 1 scenarios).names.map workspace.pending.join)[i]?
          = some (workspace.pending.join name)
        ∧ scenarios[i]? = some scenario
        ∧ directory = workspace.running.join (runningName name boot)
        ∧ ∀ (settings : Settings) (machine : Machine) (headers : HeaderCache),
          machine.WritesOnlyLogs → machine.NamesBoot →
          headers.get? (Root.running.place w ++ [runningName name boot] ++ [scenarioName]) = none →
          (directory.join scenarioName).refusal? = none →
          ((∃ trial, (Bench.perform { claimed with headers }
              (Trial.load settings machine directory)).1 = .ok trial ∧ trial.scenario = scenario)
            ↔ Table.losesMark header = false) := by
  have hpending := h.tests.of_sublist h.batch hentries hleft
  obtain ⟨name, ⟨own, hown⟩, -, rfl, hruns, hbound, hothers⟩ :=
    Workspace.claim_bound hwaiting hpending.isListing hclaim
  -- What has been claimed is in the batch, under some number.
  obtain ⟨i, hnode⟩ : ∃ i : Nat,
      (batchFrom template header 1 scenarios)[i]? = some (name, Node.dir own) := by
    rw [Node.get?_snoc hentries] at hown
    exact List.mem_iff_getElem?.mp (hleft.subset (Named.mem_of_lookup hown))
  obtain ⟨scenario, front, hscenario, rfl, hnodup, hdirs, htest⟩ := h.entry hnode
  rw [hdirs] at hown htest
  refine ⟨i, name, scenario, ?_, hscenario, rfl,
    fun settings machine headers hmachine hnamesBoot hunknown haccepted => ?_⟩
  · rw [Named.names, List.map_map, List.getElem?_map, hnode]
    rfl
  · have hruns' : workspace.Runs w (runningName name boot) { claimed with headers } :=
      ⟨hruns.root, hruns.plain, hruns.short, hruns.dir⟩
    exact Workspace.load_claimed hmachine hnamesBoot hruns' hbound hothers hown htest hnodup h.named
      hunknown haccepted

/-- A batch carries its records, unless their header loses a byte order mark. -/
theorem carries (h : bench.IsBatched workspace w template header scenarios) :
    workspace.Carries w ((batchFrom template header 1 scenarios).names.map workspace.pending.join)
      scenarios (Table.losesMark header = false) bench := by
  refine ⟨?_, fun i directory scenario => h.reads,
    fun batch entries waiting claimed boot directory hbatch hwaiting hentries hleft => ?_⟩
  · rw [List.length_map, length_names_batchFrom]
  · obtain rfl : batchFrom template header 1 scenarios = batch := by
      rw [h.batch] at hbatch
      cases hbatch
      rfl
    exact h.loads hwaiting hentries hleft

end Bench.IsBatched

/-- The rows that have been enrolled are those of records, and the batch carries these, unless the
header loses a byte order mark. -/
theorem Workspace.enrollRows_carries {workspace : Workspace} {w : Place} {template : String}
    {header : List String} {rows : List (Except Error Scenario)} {start last : Bench}
    {directories : List Path} (hw : workspace.root.Leads start.files start.here w)
    (hnamed : ScenarioTable.isBlankHeader header = false)
    (hrows : ∀ scenario, .ok scenario ∈ rows → scenario.names.Nodup)
    (h : start.perform (workspace.enrollRows template header rows) = (.ok directories, last)) :
    ∃ scenarios : List Scenario, rows = scenarios.map .ok
      ∧ (∀ scenario ∈ scenarios, scenario.names = header)
      ∧ workspace.Carries w directories scenarios (Table.losesMark header = false) last := by
  rcases enrollRows_cases hw template header rows with ⟨failure, after, henrolled, -⟩ |
    ⟨scenarios, middle, files, rfl, hnames, henrolled, hmiddle, -, hpublishes, hstaged, htests, -,
      hroom⟩
  all_goals
    rw [henrolled] at h
    cases h
  have hbatched : (middle.stepTo files).IsBatched workspace w template header scenarios :=
    ⟨hmiddle.here ▸ hpublishes.leads, hpublishes.pending.trans hstaged,
      htests.of_get? hpublishes.pending, hroom, hnamed, hnames,
      fun scenario hmem => hrows scenario (List.mem_map_of_mem hmem)⟩
  exact ⟨scenarios, rfl, hnames, hbatched.carries⟩

/-- Whatever the contents of the template are, if it is enrolled there is a test for each row of the
table, in this order, and each carries its row as a program that has just been started reads it in
the template; but not if the header of the table loses a byte order mark. -/
theorem enroll_carries {settings : Settings} {w : Place} {start last : Bench}
    {directories : List Path} (hw : settings.workspace.root.Leads start.files start.here w)
    (h : start.perform (enroll settings) = (.ok directories, last)) :
    ∃ (table : ScenarioTable) (scenarios : List Scenario),
      (Bench.perform { start with headers := [] }
          (ScenarioTable.read (settings.workspace.scenarios settings.template))).1 = .ok table
        ∧ table.rows = scenarios.map .ok
        ∧ (∀ scenario ∈ scenarios, scenario.names = table.header)
        ∧ settings.workspace.Carries w directories scenarios
          (Table.losesMark table.header = false) last := by
  rcases enroll_readsToEnroll settings start with ⟨failure, after, henroll, -⟩ |
    ⟨table, read, htable, hread, henroll⟩
  · rw [henroll] at h
    cases h
  rw [henroll] at h
  have hw' : settings.workspace.root.Leads read.files read.here w := by
    rwa [hread.files, hread.here]
  obtain ⟨-, content, -, -, hbytes⟩ := id htable
  obtain ⟨hnamed, hrows⟩ := ScenarioTable.ofBytes_ok hbytes
  obtain ⟨scenarios, hscenarios, hnames, hcarries⟩ :=
    Workspace.enrollRows_carries hw' hnamed hrows h
  exact ⟨table, scenarios, htable.perform_read, hscenarios, hnames, hcarries⟩

/-- A workspace with a template whose first column begins with a byte order mark, behind the one
that the file begins with. -/
def markedBench : Bench where
  files := .dir [("templates", .dir [("power", .dir [
    ("scenarios.csv", .file (Text.encode "\uFEFF\uFEFFmode,result\ns2idle,\n") false)])])]
  here := []
  home := .ofText "/"
  searchPath := []
  color := false

set_option maxRecDepth 100000 in
/-- Its only row is enrolled, and the test does not carry it. -/
theorem enroll_carries_marked :
    (markedBench.perform (enroll {})).1
        = .ok [(Settings.workspace {}).pending.join "1-power--_mode-s2idle__result-"]
      ∧ ∃ (table : ScenarioTable) (scenarios : List Scenario),
        (Bench.perform { markedBench with headers := [] }
            (ScenarioTable.read ((Settings.workspace {}).scenarios "power"))).1 = .ok table
          ∧ table.header = ["\uFEFFmode", "result"]
          ∧ table.rows = scenarios.map .ok
          ∧ (Settings.workspace {}).Carries []
            [(Settings.workspace {}).pending.join "1-power--_mode-s2idle__result-"] scenarios False
            (markedBench.perform (enroll {})).2 := by
  have henroll : (markedBench.perform (enroll {})).1
      = .ok [(Settings.workspace {}).pending.join "1-power--_mode-s2idle__result-"] := by
    decide +kernel
  have hheader : ((Bench.perform { markedBench with headers := [] }
      (ScenarioTable.read ((Settings.workspace {}).scenarios "power"))).1.map (·.header)).toOption
        = some ["\uFEFFmode", "result"] := by
    decide +kernel
  have hroot : (Settings.workspace {}).root.Leads markedBench.files markedBench.here [] :=
    Path.leads_dot ⟨_, rfl⟩
  obtain ⟨table, scenarios, htable, hrows, -, hcarries⟩ :=
    enroll_carries hroot (Bench.perform_eq henroll)
  replace htable : (Bench.perform { markedBench with headers := [] }
      (ScenarioTable.read ((Settings.workspace {}).scenarios "power"))).1 = .ok table := htable
  have hnames : table.header = ["\uFEFFmode", "result"] := by
    rw [htable] at hheader
    exact Option.some.inj hheader
  have hlost : (Table.losesMark table.header = false) = False := by
    rw [hnames]
    decide +kernel
  rw [hlost] at hcarries
  exact ⟨henroll, table, scenarios, htable, hnames, hrows, hcarries⟩

end BootTrial
