import BootTrial.Proofs.Choice
import BootTrial.Proofs.Cycling
import BootTrial.Proofs.Changes

/-!
# The header of all tests

The tests of a template have its header: whatever stands in the scenario file of one of them, if it
is read as a table the table has this header (`Node.AllHeaded`). A call on the template keeps this,
and outside the tests it keeps everything (`Bench.KeepsTemplate`): an enrollment writes the header
of the template (`enroll_keepsTemplate`), a claim and the end of a run move what is there, and a
result is written under the header that has been read (`performCycle_keepsTemplate`).

A header that begins with a byte order mark may be lost when it is written, so no name of the header
may begin with one.
-/

namespace BootTrial

open Text (Bytes)

namespace ScenarioTable

/-- If some octets are read as a table, the table has the given header. -/
def IsHeaded (header : List String) (content : Bytes) : Prop :=
  ∀ path table, ofBytes path content = .ok table → table.header = header

/-- The header of a table is the first row of its file. -/
theorem IsHeaded.of_header {header : List String} {content : Bytes}
    (h : Table.header content = .ok header) : IsHeaded header content := by
  intro path table htable
  rw [ofBytes, h] at htable
  simp only at htable
  split at htable
  · cases htable
  · cases htable
    rfl

end ScenarioTable

namespace Scenario

variable {scenario : Scenario} {content : Bytes} {header header' : List String}

/-- What is read as a scenario has the header of the scenario. -/
theorem IsRead.isHeaded (h : IsRead content header scenario) :
    ScenarioTable.IsHeaded header content := by
  intro path table htable
  rw [h.ofBytes path] at htable
  cases htable
  rfl

/-- A scenario that is read where the header is known has this header. -/
theorem IsRead.header_eq (h : IsRead content header scenario)
    (hheaded : ScenarioTable.IsHeaded header' content) : header = header' :=
  hheaded (.ofText scenarioName) _ (h.ofBytes _)

/-- A scenario that has been read under a header without byte order marks is not marked. -/
theorem IsRead.not_isMarked (h : IsRead content header scenario)
    (hmark : ∀ column ∈ header, column.toList.head? ≠ some '\uFEFF') : ¬ scenario.IsMarked := by
  obtain ⟨row, texts, -, -, rfl⟩ := h.row
  exact Scenario.not_isMarked fun column hcolumn => hmark column (mem_of_mem_names_ofRow hcolumn)

/-- A scenario with a name that is not marked stays one when a deed writes into it. -/
theorem not_isMarked_write (h : ¬ scenario.IsMarked) (hnames : scenario.names ≠ []) (deed : Deed) :
    ¬ (Deed.write scenario deed).IsMarked ∧ (Deed.write scenario deed).names ≠ [] := by
  have hhead : (Deed.write scenario deed).names.head? = scenario.names.head? :=
    head?_names_written hnames [deed]
  refine ⟨not_isMarked_of_head? h hhead, fun hnil => hnames ?_⟩
  rwa [hnil, List.head?_nil, eq_comm, List.head?_eq_none_iff] at hhead

end Scenario

namespace Node

/-- The scenario file of a test has the given header, as far as it is a table. -/
def IsHeaded (header : List String) (test : Node) : Prop :=
  ∀ content runnable, test.child? scenarioName = some (.file content runnable) →
    ScenarioTable.IsHeaded header content

/-- All tests in the roots of a workspace have the given header. -/
def AllHeaded (w : Place) (header : List String) (files : Node) : Prop :=
  ∀ (r : Root) (name : String) (test : Node), files.get? (r.place w ++ [name]) = some test →
    test.IsHeaded header

/-- Two entries of roots are the same or apart. -/
theorem entry_cases (r r' : Root) (w : Place) (name name' : String) :
    (r = r' ∧ name = name') ∨ Place.Apart (r.place w ++ [name]) (r'.place w ++ [name']) := by
  by_cases hr : r = r'
  · subst hr
    by_cases hname : name = name'
    · exact .inl ⟨rfl, hname⟩
    · exact .inr (Root.entries_apart hname r w)
  · exact .inr (Root.place_apart_entries hr w name name')

namespace AllHeaded

variable {w : Place} {header : List String} {before after : Node} {name name' : String}

/-- The scenario file of a test. -/
theorem sheet (h : before.AllHeaded w header) {r : Root} {content : Bytes} {runnable : Bool}
    (hfile : before.get? (r.place w ++ [name] ++ [scenarioName]) = some (.file content runnable)) :
    ScenarioTable.IsHeaded header content := by
  rw [get?_append] at hfile
  obtain ⟨test, htest, hsheet⟩ := Option.bind_eq_some_iff.mp hfile
  obtain ⟨node, hnode, hsame⟩ := Option.bind_eq_some_iff.mp hsheet
  obtain rfl : node = .file content runnable := Option.some.inj hsame
  exact h r name test htest content runnable hnode

/-- Tests that were there before, or have the header as well. -/
theorem imp (h : before.AllHeaded w header)
    (himp : ∀ (r : Root) (name : String) (test : Node),
      after.get? (r.place w ++ [name]) = some test →
      before.get? (r.place w ++ [name]) = some test ∨ test.IsHeaded header) :
    after.AllHeaded w header :=
  fun r name test htest => (himp r name test htest).elim (h r name test) id

/-- A root that is the same, or one without entries. -/
theorem of_roots (h : before.AllHeaded w header)
    (hroots : ∀ r : Root, after.get? (r.place w) = before.get? (r.place w)
      ∨ after.get? (r.place w) = none ∨ after.get? (r.place w) = some .emptyDir) :
    after.AllHeaded w header := by
  refine h.imp fun r name test htest => .inl ?_
  rw [get?_append] at htest ⊢
  rcases hroots r with hsame | hnone | hempty
  · rwa [hsame] at htest
  · rw [hnone] at htest
    cases htest
  · rw [hempty] at htest
    cases htest

/-- Changes in the directory of a test that leave a scenario file with the header. -/
theorem inside {r : Root} {keep : String → Prop} (h : before.AllHeaded w header)
    (hinside : Inside (r.place w ++ [name]) keep before after)
    (hsheet : ∀ content runnable,
      after.get? (r.place w ++ [name] ++ [scenarioName]) = some (.file content runnable) →
      ScenarioTable.IsHeaded header content) : after.AllHeaded w header := by
  refine h.imp fun r' name' test htest => ?_
  rcases entry_cases r r' w name name' with ⟨rfl, rfl⟩ | hapart
  · refine .inr fun content runnable hfile => hsheet content runnable ?_
    rw [get?_append, htest]
    simp only [Option.bind_some, get?, hfile]
  · exact .inl (hinside.get?_of_apart hapart ▸ htest)

/-- Changes in the directory of a test beside its scenario file. -/
theorem inside_kept {r : Root} {keep : String → Prop} (h : before.AllHeaded w header)
    (hinside : Inside (r.place w ++ [name]) keep before after) (hkeep : keep scenarioName) :
    after.AllHeaded w header :=
  h.inside hinside fun _ _ hfile => h.sheet (hinside.get?_kept hkeep ▸ hfile)

/-- A test that goes. -/
theorem erase (h : before.AllHeaded w header) {r : Root} (hdir : before.HasDir (r.place w)) :
    (before.erase (r.place w ++ [name])).AllHeaded w header := by
  refine h.imp fun r' name' test htest => .inl ?_
  rcases entry_cases r r' w name name' with ⟨rfl, rfl⟩ | hapart
  · rw [get?_erase name hdir] at htest
    cases htest
  · rwa [get?_erase_of_apart hapart] at htest

/-- A test that moves from one root to another. -/
theorem move {source goal : Root} (hroots : source ≠ goal) {entries : List (String × Node)}
    (h : before.AllHeaded w header)
    (hnode : before.get? (source.place w ++ [name]) = some (.dir entries))
    (hgoal : before.HasDir (goal.place w)) :
    ((before.erase (source.place w ++ [name])).put (.dir entries)
      (goal.place w ++ [name'])).AllHeaded w header := by
  have herased : (before.erase (source.place w ++ [name])).AllHeaded w header :=
    h.erase (hasDir_of_get?_snoc hnode)
  refine herased.imp fun r name'' test htest => ?_
  rcases entry_cases goal r w name' name'' with ⟨rfl, rfl⟩ | hapart
  · obtain ⟨own, hown⟩ := hgoal
    rw [get?_snoc (get?_move_goal (Root.place_apart hroots w) hown _), Named.lookup_set_self]
      at htest
    cases htest
    exact .inr (h source name _ hnode)
  · exact .inl (get?_put_of_apart hapart _ _ ▸ htest)

/-- A batch that is published has the header with which it was written. -/
theorem published {p : Path} {here : Place} {template : String} {scenarios : List Scenario}
    (h : before.AllHeaded w header) (hpublishes : Publishes p here w before after)
    (hbatch : before.get? (stagingPlace w) = some (.dir (batchFrom template header 1 scenarios)))
    (hsheets : ∀ scenario ∈ scenarios, ScenarioTable.IsHeaded header (scenario.tableBytes header)) :
    after.AllHeaded w header := by
  intro r name test htest
  by_cases hr : r = .pending
  · subst hr
    rw [get?_append, hpublishes.pending, ← get?_append, get?_snoc hbatch] at htest
    obtain ⟨number, scenario, -, hmem, hentry⟩ := mem_batchFrom (Named.mem_of_lookup htest)
    obtain ⟨-, rfl⟩ := Prod.mk.inj hentry
    intro content runnable hfile
    cases hfile
    exact hsheets scenario hmem
  · refine h r name test ?_
    rw [get?_append, hpublishes.others r hr, ← get?_append] at htest
    exact htest

end AllHeaded

/-- Outside the tests a run changes nothing. -/
theorem Changes.outside {w : Place} {name : String} {doomed : Prop} {before after : Node}
    (h : Changes w name doomed before after) : SameOutside w before after := by
  have htest := (Place.IsOfTests.of_root .running w).append [name]
  induction h with
  | refl => exact .refl w before
  | tail _ hlast ih =>
    refine ih.trans ?_
    cases hlast with
    | touched h => exact .of_inside htest h.inside
    | deleted _ hdir => exact .erase htest hdir.above
    | made hdir => exact .put (.of_root .results w) hdir _
    | completed hnode hresults =>
      refine .move htest ((Place.IsOfTests.of_root .results w).append [name])
        (hasDir_of_get?_snoc hnode) hresults (fun hpre => ?_) _
      exact ((Root.place_apart (by decide : Root.results ≠ .running) w).append_right [name]).2 hpre

end Node

namespace Bench

/-- Between two benches everything outside the tests of a workspace stays as it is, and if all tests
had the given header they have it still. -/
structure KeepsTemplate (w : Place) (header : List String) (before after : Bench) : Prop where
  /-- The working directory is the same. -/
  here : after.here = before.here
  /-- Outside the tests everything is the same. -/
  outside : before.files.SameOutside w after.files
  /-- The tests have the header. -/
  headed : before.files.AllHeaded w header → after.files.AllHeaded w header

variable {workspace : Workspace} {w : Place} {header : List String} {name : String}
  {before after : Bench} {r : Root}

instance (w : Place) (header : List String) : IsPreorder Bench (KeepsTemplate w header) where
  refl bench := ⟨rfl, .refl w bench.files, id⟩
  trans _ _ _ h h' :=
    ⟨h'.here.trans h.here, h.outside.trans h'.outside, h'.headed ∘ h.headed⟩

namespace KeepsTemplate

/-- One step. -/
theorem stepTo {files : Node} (houtside : before.files.SameOutside w files)
    (hheaded : before.files.AllHeaded w header → files.AllHeaded w header) :
    before.KeepsTemplate w header (before.stepTo files) :=
  ⟨rfl, houtside, hheaded⟩

/-- What does not change the files. -/
theorem of_quiet {kind : Event → Prop} (before after : Bench) (h : Quiet kind before after) :
    before.KeepsTemplate w header after := by
  refine ⟨h.here, ?_, fun hheaded => ?_⟩
  · rw [h.files]
    exact .refl w before.files
  · rwa [h.files]

/-- What only reads. -/
theorem of_unmoved (before after : Bench) (h : Unmoved before after) :
    before.KeepsTemplate w header after :=
  of_quiet _ _ (.of_unmoved h : Quiet (fun _ => True) before after)

/-- Work that does not change the files may come first. -/
theorem quiet_bind {ε α β : Type} {kind : Event → Prop} {work : ExceptT ε (StateM Bench) α}
    {next : α → ExceptT ε (StateM Bench) β} (hwork : Keeps (Quiet kind) work)
    (hnext : ∀ a middle, Quiet kind before middle →
      middle.KeepsTemplate w header (middle.perform (next a)).2) :
    before.KeepsTemplate w header (before.perform (work >>= next)).2 := by
  have hquiet := hwork before
  rcases hperform : before.perform work with ⟨failure | a, middle⟩
  all_goals rw [hperform] at hquiet
  · rw [perform_bind_error hperform]
    exact of_quiet _ _ hquiet
  · rw [perform_bind_ok hperform]
    exact trans_of _ (of_quiet _ _ hquiet) (hnext a middle hquiet)

/-- Changes in the directory of a test beside its scenario file. -/
theorem of_inside {keep : String → Prop} {kind : Event → Prop}
    (h : Inside (r.place w ++ [name]) keep kind before after) (hkeep : keep scenarioName) :
    before.KeepsTemplate w header after :=
  ⟨h.here, .of_inside ((Place.IsOfTests.of_root r w).append [name]) h.files,
    fun hheaded => hheaded.inside_kept h.files hkeep⟩

/-- A root that is made where there was none. -/
theorem of_made {d : Place} (hr : r.place w = d ++ [name]) (hd : before.files.HasDir d) :
    before.KeepsTemplate w header (before.stepTo (before.files.put .emptyDir (r.place w))) := by
  refine .stepTo ?_ fun hheaded => hheaded.of_roots fun r' => ?_
  · rw [hr]
    exact .put (hr ▸ .of_root r w) hd _
  · by_cases hsame : r' = r
    · subst hsame
      obtain ⟨entries, hentries⟩ := hd
      exact .inr (.inr (by rw [hr, Node.get?_put_self hentries]))
    · exact .inl (Node.get?_put_of_apart (Root.place_apart (Ne.symm hsame) w) _ _)

/-- An enrollment up to its last step. -/
theorem of_undisturbed (h : before.Undisturbed workspace w after) :
    before.KeepsTemplate w header after := by
  refine ⟨h.here, h.files.outside, fun hheaded => hheaded.of_roots fun r => ?_⟩
  cases r with
  | running => exact .inl h.files.running
  | results => exact .inl h.files.results
  | pending => exact h.files.pending.imp id fun hgone => .inl hgone.2

end KeepsTemplate

/-- Making a root that is missing. -/
theorem RootMade.keepsTemplate (h : before.RootMade r w after) :
    before.KeepsTemplate w header after := by
  rcases h with rfl | ⟨d, name, hr, hd, -, rfl⟩
  · exact refl_of (KeepsTemplate w header) after
  · exact .of_made hr hd

/-- Making the results root. -/
theorem ResultsMade.keepsTemplate (h : ResultsMade w before after) (hdir : before.files.HasDir w) :
    before.KeepsTemplate w header after := by
  rcases h with rfl | ⟨-, rfl⟩
  · exact refl_of (KeepsTemplate w header) after
  · exact .of_made (r := .results) rfl hdir

end Bench

/-! ## Claims -/

/-- Claiming a test. -/
theorem Workspace.claim_keepsTemplate {workspace : Workspace} {w : Place} {header : List String}
    {bench : Bench} (hw : workspace.root.Leads bench.files bench.here w)
    (hpending : bench.files.IsListing (Root.pending.place w)) (boot : BootId) :
    bench.KeepsTemplate w header (bench.perform (workspace.claim boot)).2 := by
  rcases claim_steps_first hw hpending boot with ⟨failure, after, hclaim, hmade⟩ |
    ⟨waiting, name, rest, made, entries, hwaiting, hfirst, hmade, hnode, hrunning, hshort, hclaim⟩
  all_goals
    rw [hclaim]
    have hmade' : bench.KeepsTemplate w header _ := hmade.keepsTemplate
  · exact hmade'
  · have hplain : IsPlain name := hpending.plain name (by
      rw [Node.namesAt_dir hwaiting]
      exact mem_testNames (hfirst ▸ List.mem_cons_self))
    -- The directory of the test moves, and the boot id is written beside its scenario file.
    have hroots : Place.Apart (Root.running.place w) (Root.pending.place w) :=
      Root.place_apart (by decide) w
    have hmoved : made.KeepsTemplate w header (made.stepTo _) :=
      .stepTo (.move ((Place.IsOfTests.of_root .pending w).append [name])
          ((Place.IsOfTests.of_root .running w).append [runningName name boot])
          (Node.hasDir_of_get?_snoc hnode) hrunning (hroots.append_right [name]).2 _)
        fun hheaded => hheaded.move (by decide) hnode hrunning
    have hruns := runs_moved (hmade.spared hw).root hplain hrunning hshort entries
    have hbind : Keeps (Bench.StaysIn (workspace.running.join (runningName name boot))
        (Root.running.place w ++ [runningName name boot]) (· ≠ bootIdName) fun _ => True) (do
          bindTo (workspace.running.join (runningName name boot)) boot
          return workspace.running.join (runningName name boot)) :=
      (bindTo_staysIn (by simp) trivial boot).bind fun _ => Keeps.pure _
    have hbound : Bench.KeepsTemplate w header _ _ := .of_inside (hbind _ hruns.leads) (by decide)
    exact trans_of (Bench.KeepsTemplate w header) (trans_of _ hmade' hmoved) hbound

/-! ## Runs -/

namespace Trial

variable {workspace : Workspace} {settings : Settings} {machine : Machine} {operator : Operator}
  {w : Place} {name : String} {base bench : Bench} {header own : List String} {scenario : Scenario}
  {trial : Trial} {fate : Option Fate}

/-- While a trial is open all tests have the header if they had it before. -/
theorem IsOpen.allHeaded (h : IsOpen workspace w name base header scenario trial bench)
    (hmark : ¬ scenario.IsMarked) (hbase : base.files.AllHeaded w header) :
    bench.files.AllHeaded w header := by
  refine hbase.inside h.inside.files fun content runnable hfile => ?_
  obtain ⟨content', runnable', hfile', hread⟩ := h.stands.file
  rw [hfile] at hfile'
  cases hfile'
  exact (hread hmark).isHeaded

/-- What keeps a trial open keeps the tests of the template. -/
theorem IsOpen.keepsTemplate {after : Bench} {trial' : Trial}
    (h : IsOpen workspace w name bench header scenario trial' after) (hmark : ¬ scenario.IsMarked) :
    bench.KeepsTemplate w header after :=
  ⟨h.inside.here, .of_inside ((Place.IsOfTests.of_root .running w).append [name]) h.inside.files,
    h.allHeaded hmark⟩

/-- Closing an open trial. -/
theorem IsOpen.close_keepsTemplate (h : IsOpen workspace w name base header scenario trial bench) :
    bench.KeepsTemplate w own (bench.act trial close).2.2 := by
  rw [act_close_open h.isOpen h.hasDir, h.directory, h.results]
  obtain ⟨ready, hmade, ⟨failure, hperform, -⟩ | ⟨entries, hown, hresults, -, hperform⟩⟩ :=
    moveToResults_cases h.runs_now
  all_goals
    rw [hperform]
    have hready : bench.KeepsTemplate w own ready := hmade.keepsTemplate h.runs_now.root.dir
  · exact hready
  · have hroots : Place.Apart (Root.results.place w) (Root.running.place w) :=
      Root.place_apart (by decide) w
    exact trans_of _ hready (.stepTo (.move ((Place.IsOfTests.of_root .running w).append [name])
        ((Place.IsOfTests.of_root .results w).append [name]) (Node.hasDir_of_get?_snoc hown)
        hresults (hroots.append_right [name]).2 _)
      fun hheaded => hheaded.move (by decide) hown hresults)

/-- Closing a trial at the end of its run. -/
theorem Reached.close_keepsTemplate
    (h : Reached workspace w name base header scenario fate trial bench) :
    bench.KeepsTemplate w own (bench.act trial close).2.2 := by
  have hclosed : trial.isClosed = true →
      bench.KeepsTemplate w own (bench.act trial close).2.2 := by
    intro hclosed
    rw [act_close_closed hclosed]
    exact refl_of (Bench.KeepsTemplate w own) bench
  match fate, h with
  | none, h => exact IsOpen.close_keepsTemplate h
  | some .left, h => exact hclosed h.1
  | some .discarded, h => exact hclosed h.1
  | some .completed, .inl h => exact hclosed h.1
  | some .completed, .inr h => exact h.2.close_keepsTemplate

/-- Carrying out an action on an open trial. -/
theorem IsOpen.run_keepsTemplate (hmachine : machine.WritesOnlyLogs)
    (h : IsOpen workspace w name base header scenario trial bench)
    (hsame : trial.scenario = scenario) (hmark : ¬ scenario.IsMarked) (hnames : scenario.names ≠ [])
    (action : Action) :
    bench.KeepsTemplate w header (bench.act trial (action.run machine)).2.2 := by
  cases action with
  | quit => exact refl_of (Bench.KeepsTemplate w header) bench
  | discard =>
    obtain ⟨entries, last, -, hinside, hact⟩ := h.discard_steps
    have hdir := h.runs_now.dir
    simp only [Action.run, hact]
    exact ⟨hinside.here, .erase ((Place.IsOfTests.of_root .running w).append [name]) hdir.above,
      fun hheaded => hheaded.erase hdir.above⟩
  | writeResult column result =>
    rcases h.rebase.act_writeResult hsame column result with
      ⟨failure, trial', after, hact, hopen⟩ | ⟨trial', after, hact, hopen, -⟩
    all_goals simp only [Action.run, hact]
    · exact hopen.keepsTemplate hmark
    · exact hopen.keepsTemplate (Scenario.not_isMarked_of_head? hmark
        (Scenario.head?_names_set hnames column result))
  | reboot =>
    obtain ⟨outcome, trial', after, hact, hrebooting⟩ := Action.act_runReboot machine trial bench
    rw [Action.run, hact]
    cases hrebooting with
    | unflushed hflush => exact .of_quiet _ _ (hmachine.quiet_after rfl hflush)
    | unclosed hflush hclose =>
      have hflushed := hmachine.quiet_after rfl hflush
      have hclosed : Bench.KeepsTemplate w header _ _ := (h.quiet hflushed).close_keepsTemplate
      rw [hclose] at hclosed
      exact trans_of (Bench.KeepsTemplate w header) (.of_quiet _ _ hflushed) hclosed
    | asked hflush hclose hask =>
      have hflushed := hmachine.quiet_after rfl hflush
      have hclosed : Bench.KeepsTemplate w header _ _ := (h.quiet hflushed).close_keepsTemplate
      rw [hclose] at hclosed
      exact trans_of _ (trans_of (Bench.KeepsTemplate w header) (.of_quiet _ _ hflushed) hclosed)
        (.of_quiet _ _ (hmachine.quiet_after rfl hask))

/-- Carrying out actions on an open trial. -/
theorem IsOpen.runAll_keepsTemplate (hmachine : machine.WritesOnlyLogs)
    (h : IsOpen workspace w name base header scenario trial bench)
    (hsame : trial.scenario = scenario) (hmark : ¬ scenario.IsMarked) (hnames : scenario.names ≠ [])
    (actions : List Action) :
    bench.KeepsTemplate w header (bench.act trial (Action.runAll machine actions)).2.2 := by
  induction actions generalizing trial bench scenario with
  | nil => exact refl_of (Bench.KeepsTemplate w header) bench
  | cons action rest ih =>
    have hfirst := h.run_keepsTemplate hmachine hsame hmark hnames action
    obtain ⟨outcome, trial', middle, hact, hreached, hok⟩ := h.act_run hmachine hsame action
    rw [Action.act_runAll_cons, hact]
    rw [hact] at hfirst
    cases outcome with
    | error failure => exact hfirst
    | ok _ =>
      obtain ⟨hclosed, hscenario⟩ := hok rfl
      cases hfate : Deed.fate? machine ⟨action, bench, .ok ()⟩ with
      | none =>
        rw [hfate] at hreached hclosed
        obtain ⟨hmark', hnames'⟩ :=
          Scenario.not_isMarked_write hmark hnames ⟨action, bench, .ok ()⟩
        exact trans_of _ hfirst (ih hreached (hscenario hclosed) hmark' hnames')
      | some fate =>
        -- The trial is closed, and the rest changes nothing.
        rw [hfate] at hclosed
        obtain ⟨after, hrest, hquiet, -⟩ :=
          act_runAll_closed hmachine hclosed rest middle scenario
        simp only [hrest]
        exact trans_of _ hfirst (.of_quiet _ _ hquiet)

/-- A test that is prepared in a workspace whose tests have a header is opened under this header. -/
theorem prepare_opens_headed (hmachine : machine.WritesOnlyLogs)
    (hruns : settings.workspace.Runs w name bench)
    (hfront : bench.files.HasPlainFront (Root.running.place w ++ [name]))
    (hheaded : bench.files.AllHeaded w header)
    (hmark : ∀ column ∈ header, column.toList.head? ≠ some '\uFEFF') {menu : Menu} {ready : Bench}
    (h : bench.perform (prepare settings machine (settings.workspace.running.join name))
      = (.ok (trial, menu), ready)) :
    IsOpen settings.workspace w name bench header trial.scenario trial ready
      ∧ ¬ trial.scenario.IsMarked ∧ trial.scenario.names ≠ [] := by
  obtain ⟨found, hopen, hnames, -⟩ := prepare_opens hmachine hruns hfront h
  obtain ⟨loaded, bench₁, hload, h'⟩ := Bench.perform_bind_inv h
  obtain ⟨menu', bench₂, -, h'⟩ := Bench.perform_bind_inv h'
  obtain ⟨_, bench₃, -, h'⟩ := Bench.perform_bind_inv h'
  obtain rfl : loaded = trial := by cases h'; rfl
  obtain ⟨content, runnable, read, hfile, hread, -⟩ := load_opens hmachine hruns hload
  obtain rfl : read = header := hread.header_eq (hheaded.sheet hfile)
  have hunmarked := hread.not_isMarked hmark
  -- What stands in the scenario file still has the header.
  have hinside := prepare_inside settings hmachine hruns.plain hruns.leads hfront
  rw [h] at hinside
  have hready := hheaded.inside_kept hinside.files (.inl rfl)
  obtain ⟨content', runnable', hfile', hread'⟩ := hopen.stands.file
  obtain rfl : found = read := (hread' hunmarked).header_eq (hready.sheet hfile')
  exact ⟨hopen, hunmarked, hnames⟩

/-- Running a test. -/
theorem runAt_keepsTemplate (hmachine : machine.WritesOnlyLogs) (hoperator : operator.OnlyChooses)
    (hruns : settings.workspace.Runs w name bench)
    (hfront : bench.files.HasPlainFront (Root.running.place w ++ [name]))
    (hmark : ∀ column ∈ header, column.toList.head? ≠ some '\uFEFF') :
    bench.KeepsTemplate w header
      (bench.perform
        (runAt settings machine operator (settings.workspace.running.join name))).2 := by
  have hchanges : bench.Changes w name True _ :=
    runAt_changes hmachine hoperator hruns hfront fun _ _ _ => trivial
  refine ⟨hchanges.here, hchanges.files.outside, fun hheaded => ?_⟩
  have hinside := prepare_inside settings hmachine hruns.plain hruns.leads hfront
  rcases hprepare : bench.perform
    (prepare settings machine (settings.workspace.running.join name)) with
    ⟨failure | ⟨trial, menu⟩, ready⟩
  all_goals
    rw [hprepare] at hinside
    have hready := hheaded.inside_kept hinside.files (.inl rfl)
  · rwa [perform_runAt, hprepare]
  · obtain ⟨hopen, hunmarked, hnames⟩ :=
      prepare_opens_headed hmachine hruns hfront hheaded hmark hprepare
    have hquiet := choose_quiet hmachine hoperator settings.notify.message menu trial ready
    rcases hchoose : ready.perform (choose machine operator settings.notify.message menu trial) with
      ⟨answer, chosen⟩
    rw [hchoose] at hquiet
    have hchosen : ready.KeepsTemplate w header chosen := .of_quiet _ _ hquiet
    have hopen' := hopen.quiet hquiet
    rw [perform_runAt_prepared hprepare hchoose]
    cases answer with
    | error failure => exact hopen'.close_keepsTemplate.headed (hchosen.headed hready)
    | ok choice =>
      have hall := hopen'.runAll_keepsTemplate hmachine rfl hunmarked hnames (actionsOf menu choice)
      obtain ⟨trial', after, hact, hreached⟩ :=
        hopen'.act_runAll hmachine rfl (actionsOf menu choice)
      rw [hact] at hall
      simp only [conclude, hact]
      exact hreached.close_keepsTemplate.headed (hall.headed (hchosen.headed hready))

end Trial

/-! ## Cycles -/

section Cycle

variable {settings : Settings} {machine : Machine} {operator : Operator} {w : Place}
  {header : List String} {bench : Bench} {ledger : Ledger}

/-- A cycle up to its tests. -/
theorem cycleToTests_keepsTemplate (hmachine : machine.WritesOnlyLogs)
    (hw : settings.workspace.root.Leads bench.files bench.here w)
    (hpending : bench.files.IsListing (Root.pending.place w)) :
    bench.KeepsTemplate w header (bench.perform (cycleToTests settings machine)).2 := by
  have hlooks : ∀ root : Path, Keeps (Bench.Quiet fun _ => True) (isOccupied root) :=
    fun root => isOccupied_keeps root
  have hmenu : Keeps (Bench.Quiet fun _ => True) (settings.menu (.ofBoot true)) :=
    (settings.menu_unmoved _).imp fun _ _ => .of_unmoved
  have hask : Keeps (Bench.Quiet fun _ => True) (machine.ask .currentBoot) :=
    hmachine.ask_quiet rfl trivial trivial
  -- Up to the claim nothing happens to the files.
  unfold cycleToTests
  refine .quiet_bind (hlooks _) fun begun bench₁ hquiet₁ => ?_
  split
  · exact .of_quiet _ _ (testsIn_keeps (R := Bench.Quiet fun _ => True) _ bench₁)
  refine .quiet_bind (hlooks _) fun waiting bench₂ hquiet₂ => ?_
  split
  · refine .quiet_bind hmenu fun menu bench₃ hquiet₃ => ?_
    refine .quiet_bind hask fun boot bench₄ hquiet₄ => ?_
    have hquiet : Bench.Quiet (fun _ => True) bench bench₄ :=
      ((hquiet₁.trans hquiet₂).trans hquiet₃).trans hquiet₄
    have hclaim : bench₄.KeepsTemplate w header _ := settings.workspace.claim_keepsTemplate
      (by rwa [hquiet.files, hquiet.here]) (by rwa [hquiet.files]) boot
    rw [Bench.perform_bind]
    rcases hclaimed : bench₄.perform (settings.workspace.claim boot) with
      ⟨failure | directory, after⟩
    all_goals rwa [hclaimed] at hclaim
  · exact refl_of (Bench.KeepsTemplate w header) bench₂

/-- A cycle keeps the tests of the template, and everything outside of them. -/
theorem performCycle_keepsTemplate (hmachine : machine.WritesOnlyLogs)
    (hoperator : operator.OnlyChooses)
    (hw : settings.workspace.root.Leads bench.files bench.here w)
    (hagrees : Agrees w bench.files ledger)
    (hmark : ∀ column ∈ header, column.toList.head? ≠ some '\uFEFF') :
    bench.KeepsTemplate w header (bench.perform (performCycle settings machine operator)).2 := by
  obtain ⟨waiting, hwaiting, -⟩ := hagrees.holds .pending
  exact performCycle_keeps hmachine hw hagrees
    (cycleToTests_keepsTemplate hmachine hw hwaiting.isListing) fun name base _ hruns hfront =>
      Trial.runAt_keepsTemplate hmachine hoperator hruns hfront hmark

end Cycle

/-! ## Enrollments -/

/-- Enrolling a batch under the header. -/
theorem Workspace.enrollRows_keepsTemplate {workspace : Workspace} {w : Place}
    {header : List String} {rows : List (Except Error Scenario)} {bench : Bench}
    (hw : workspace.root.Leads bench.files bench.here w) (template : String)
    (hmark : ∀ column ∈ header, column.toList.head? ≠ some '\uFEFF')
    (hnamed : ScenarioTable.isBlankHeader header = false)
    (hrows : ∀ scenario, .ok scenario ∈ rows → scenario.names.Nodup) :
    bench.KeepsTemplate w header (bench.perform (workspace.enrollRows template header rows)).2 := by
  rcases enrollRows_cases hw template header rows with ⟨failure, after, h, hafter, -⟩ |
    ⟨scenarios, middle, files, rfl, hnames, h, hmiddle, -, hpublishes, hbatch, -⟩
  all_goals rw [h]
  · exact .of_undisturbed hafter
  · have hmiddle' : bench.KeepsTemplate w header middle := .of_undisturbed hmiddle
    refine trans_of _ hmiddle' (.stepTo hpublishes.outside fun hheaded =>
      hheaded.published hpublishes hbatch fun scenario hmem => ?_)
    obtain rfl := hnames scenario hmem
    exact (Scenario.isRead_tableBytes (hrows scenario (List.mem_map_of_mem hmem)) hnamed
      (Scenario.losesMark_of_not_isMarked (Scenario.not_isMarked hmark))).isHeaded

/-- An enrollment keeps the tests of the template, and everything outside of them, if the scenario
table of the template has the header. -/
theorem enroll_keepsTemplate {settings : Settings} {w : Place} {header : List String}
    {bench : Bench} (hw : settings.workspace.root.Leads bench.files bench.here w)
    (hmark : ∀ column ∈ header, column.toList.head? ≠ some '\uFEFF')
    (htemplate : ∀ content, bench.bytesAt (settings.workspace.scenarios settings.template)
      = .ok content → ScenarioTable.IsHeaded header content) :
    bench.KeepsTemplate w header (bench.perform (enroll settings)).2 := by
  rcases enroll_readsToEnroll settings bench with ⟨failure, after, h, hafter⟩ |
    ⟨table, read, ⟨place, content, -, hcontent, htable⟩, hread, h⟩
  all_goals rw [h]
  · exact .of_unmoved _ _ hafter
  · obtain ⟨hnamed, hrows⟩ := ScenarioTable.ofBytes_ok htable
    obtain rfl : table.header = header := htemplate content hcontent _ _ htable
    have hread' : bench.KeepsTemplate w table.header read := .of_unmoved _ _ hread
    exact trans_of _ hread' (Workspace.enrollRows_keepsTemplate
      (by rwa [hread.files, hread.here]) settings.template hmark hnamed hrows)

end BootTrial
