import BootTrial.Machine.Scripted
import BootTrial.Operator.Prompt
import BootTrial.Operator.Scripted
import BootTrial.Proofs.Compiling
import BootTrial.Proofs.Run

/-!
# Failing for lack of a test

That no test waits is said by one failure only, `Error.noPendingTests`, and a test that runs never
fails with it, provided that neither the machine nor the operator does (`Trial.runAt_neverLacks`).
The same holds of the compilation of the menu. So where a cycle fails for lack of a test, this is
what has come of claiming one.

Work never fails so if its pieces do not (`NeverLacks.bind`). Refused work on files needs no look at
its steps, since the failure is made up where the refusal is reported.
-/

namespace BootTrial

/-- An error says that no test waits. -/
def Error.isLack : Error → Bool
  | .noPendingTests _ => true
  | _ => false

/-- What has failed has not failed for lack of a test. -/
def HasNoLack {α : Type} (result : Except Error α) : Prop :=
  ∀ failure, result = .error failure → failure.isLack = false

/-- Work never fails for lack of a test. -/
def NeverLacks {α : Type} (work : Work α) : Prop :=
  ∀ bench : Bench, HasNoLack (bench.perform work).1

/-- Work on a bench fails for lack of a test. -/
def Bench.Lacks {α : Type} (bench : Bench) (work : Work α) : Prop :=
  ∃ path after, bench.perform work = (.error (.noPendingTests path), after)

/-- Work on a trial never fails for lack of a test. -/
def TrialWork.NeverLacks {α : Type} (work : TrialWork α) : Prop :=
  ∀ (bench : Bench) (trial : Trial), HasNoLack (bench.act trial work).1

namespace HasNoLack

variable {α : Type}

/-- What has succeeded. -/
theorem ok (a : α) : HasNoLack (.ok a) := fun _ h => nomatch h

/-- What has failed with another error. -/
theorem error {failure : Error} (h : failure.isLack = false) :
    HasNoLack (.error failure : Except Error α) := by
  rintro _ ⟨⟩
  exact h

end HasNoLack

namespace NeverLacks

variable {α β : Type}

/-- A result as work. -/
theorem ofExcept {result : Except Error α} (h : HasNoLack result) :
    NeverLacks (Work.ofExcept result) :=
  fun _ => h

/-- Work that only gives a value. -/
theorem pure (a : α) : NeverLacks (Pure.pure a) :=
  ofExcept (.ok a)

/-- Work that fails at once with another error. -/
theorem throw {failure : Error} (h : failure.isLack = false) :
    NeverLacks (MonadExcept.throw failure : Work α) :=
  ofExcept (.error h)

/-- Work that cannot fail. -/
theorem lift (work : StateM Bench α) : NeverLacks (liftM work : Work α) :=
  fun _ => .ok _

/-- Looking at the bench. -/
theorem get : NeverLacks (MonadState.get : Work Bench) :=
  fun _ => .ok _

/-- Changing the bench. -/
theorem modify (change : Bench → Bench) : NeverLacks (modify change : Work Unit) :=
  fun _ => .ok _

/-- Work on files whose refusal is reported as an error. -/
theorem reportedAs (work : FileWork α) {report : FileFault → Error}
    (h : ∀ fault, (report fault).isLack = false) : NeverLacks (work.reportedAs report) := by
  intro bench
  rw [Bench.perform_reportedAs]
  cases (bench.perform work).1 with
  | ok a => exact .ok a
  | error fault => exact .error (h fault)

/-- Work on files whose refusal is part of the result. -/
theorem fileOutcome (work : FileWork α) : NeverLacks work.outcome :=
  fun _ => .ok _

/-- Work that goes on where other work has succeeded. -/
theorem bind {work : Work α} {next : α → Work β} (hwork : NeverLacks work)
    (hnext : ∀ a, NeverLacks (next a)) : NeverLacks (work >>= next) := by
  intro bench
  have hfirst := hwork bench
  rw [Bench.perform_bind]
  rcases hresult : bench.perform work with ⟨failure | a, after⟩
  · exact .error (hfirst failure (congrArg Prod.fst hresult))
  · exact hnext a after

/-- Such work does not fail so on a bench. -/
theorem not_lacks {work : Work α} (h : NeverLacks work) (bench : Bench) : ¬ bench.Lacks work := by
  rintro ⟨path, after, hfails⟩
  cases h bench (.noPendingTests path) (congrArg Prod.fst hfails)

end NeverLacks

namespace Bench

variable {α β : Type}

/-- Where the first part of some work never fails for lack of a test, it is the rest that does. -/
theorem lacks_bind {work : Work α} (h : NeverLacks work) (next : α → Work β) (bench : Bench) :
    bench.Lacks (work >>= next)
      ↔ ∃ a after, bench.perform work = (.ok a, after) ∧ after.Lacks (next a) := by
  have hwork := h bench
  unfold Lacks
  rw [perform_bind]
  rcases hresult : bench.perform work with ⟨failure | a, after⟩
  · simp only [Prod.mk.injEq, Except.error.injEq, reduceCtorEq, false_and, exists_false, iff_false]
    rintro ⟨path, last, rfl, -⟩
    cases hwork _ (congrArg Prod.fst hresult)
  · simp only [Prod.mk.injEq, Except.ok.injEq]
    constructor
    · exact fun hlacks => ⟨a, after, ⟨rfl, rfl⟩, hlacks⟩
    · rintro ⟨_, _, ⟨rfl, rfl⟩, hlacks⟩
      exact hlacks

/-- Where the rest of some work never fails for lack of a test, it is the first part that does. -/
theorem lacks_bind_left {work : Work α} {next : α → Work β} (h : ∀ a, NeverLacks (next a))
    (bench : Bench) : bench.Lacks (work >>= next) ↔ bench.Lacks work := by
  unfold Lacks
  rw [perform_bind]
  rcases bench.perform work with ⟨failure | a, after⟩
  · simp only [Prod.mk.injEq, Except.error.injEq]
  · exact iff_of_false ((h a).not_lacks after) (by simp)

end Bench

/-! ## Reading -/

/-- A path has a last name, or it is an internal fault. -/
theorem directoryName_hasNoLack (directory : Path) : HasNoLack (directoryName directory) := by
  unfold directoryName
  split
  · exact .ok _
  · exact .error rfl

/-- Listing the tests in a root. -/
theorem testsIn_neverLacks (root : Path) : NeverLacks (testsIn root) := by
  unfold testsIn
  refine (NeverLacks.fileOutcome _).bind fun outcome => ?_
  split
  · exact .pure _
  · exact .pure _
  · exact .throw rfl

/-- Writing the boot id of a test. -/
theorem bindTo_neverLacks (directory : Path) (boot : BootId) : NeverLacks (bindTo directory boot) :=
  .reportedAs _ fun _ => rfl

/-- Finding the boot that a test is bound to. -/
theorem boundBoot_neverLacks (directory : Path) : NeverLacks (boundBoot directory) := by
  have hstored : NeverLacks (storedBoot directory) := by
    unfold storedBoot
    refine (NeverLacks.fileOutcome _).bind fun outcome => ?_
    split
    · exact .pure _
    · exact .pure _
    · exact .throw rfl
  unfold boundBoot
  refine hstored.bind fun stored => ?_
  split
  · exact .pure _
  · refine (NeverLacks.ofExcept (directoryName_hasNoLack _)).bind fun name => ?_
    split
    · exact .throw rfl
    · exact (bindTo_neverLacks _ _).bind fun _ => .pure _

/-- Finding the front of the names of the logs. -/
theorem logFrontOf_neverLacks (directory : Path) : NeverLacks (logFrontOf directory) := by
  have hstored : NeverLacks (storedFront directory) := by
    unfold storedFront
    refine (NeverLacks.fileOutcome _).bind fun outcome => ?_
    split
    · exact .pure _
    · exact .pure _
    · exact .throw rfl
  unfold logFrontOf
  refine hstored.bind fun stored => ?_
  split
  · exact .pure _
  · exact (NeverLacks.ofExcept (directoryName_hasNoLack _)).bind fun _ => .pure _

namespace ScenarioTable

/-- A table that cannot be read is malformed, and so are the rows of one that can. -/
theorem ofBytes_hasNoLack (path : Path) (content : Text.Bytes) :
    HasNoLack (ofBytes path content)
      ∧ ∀ table, ofBytes path content = .ok table → ∀ row ∈ table.rows, HasNoLack row := by
  unfold ofBytes
  split
  · exact ⟨.error rfl, nofun⟩
  · split
    · exact ⟨.error rfl, nofun⟩
    · refine ⟨.ok _, ?_⟩
      rintro _ ⟨⟩ row hrow
      obtain ⟨cells, -, rfl⟩ := List.mem_map.mp hrow
      split
      · exact .ok _
      · exact .error rfl

/-- Remembering a header, or comparing it with the one that is remembered. -/
theorem checkHeader_neverLacks (path : Path) (place : Place) (header : List String) :
    NeverLacks (checkHeader path place header) := by
  unfold checkHeader
  refine NeverLacks.get.bind fun bench => ?_
  simp only
  split
  · split
    · exact .pure _
    · exact .throw rfl
  · exact .modify _

/-- Reading a table. -/
theorem read_neverLacks (path : Path) : NeverLacks (read path) := by
  unfold read
  refine (NeverLacks.reportedAs _ fun _ => rfl).bind fun place => ?_
  refine (NeverLacks.reportedAs _ fun fault => ?_).bind fun content => ?_
  · cases fault <;> rfl
  refine (NeverLacks.ofExcept (ofBytes_hasNoLack path content).1).bind fun table => ?_
  exact (checkHeader_neverLacks _ _ _).bind fun _ => .pure _

/-- The rows of a table that has been read. -/
theorem rows_hasNoLack {path : Path} {bench after : Bench} {table : ScenarioTable}
    (h : bench.perform (read path) = (.ok table, after)) : ∀ row ∈ table.rows, HasNoLack row := by
  unfold read at h
  obtain ⟨place, bench₁, -, h⟩ := Bench.perform_bind_inv h
  obtain ⟨content, bench₂, -, h⟩ := Bench.perform_bind_inv h
  obtain ⟨table', bench₃, htable, h⟩ := Bench.perform_bind_inv h
  obtain ⟨-, bench₄, -, h⟩ := Bench.perform_bind_inv h
  obtain rfl : table' = table := Except.ok.inj (congrArg Prod.fst h)
  exact (ofBytes_hasNoLack path content).2 table' (congrArg Prod.fst htable)

/-- Finding the header of a table. -/
theorem headerAt_neverLacks (path : Path) : NeverLacks (headerAt path) := by
  unfold headerAt
  refine (NeverLacks.reportedAs _ fun _ => rfl).bind fun place => NeverLacks.get.bind fun bench => ?_
  split
  · exact .pure _
  · exact (read_neverLacks _).bind fun _ => .pure _

/-- The only row of a table fails as one of the rows, or because there is not one only. -/
theorem onlyRow_hasNoLack (path : Path) (tolerant : Bool) {rows : List (Except Error Scenario)}
    (h : ∀ row ∈ rows, HasNoLack row) : HasNoLack (onlyRow path tolerant rows) := by
  unfold onlyRow
  split
  · exact .error rfl
  · exact .error (h _ List.mem_cons_self _ rfl)
  · exact .ok _
  · split
    · exact .ok _
    · exact .error rfl

end ScenarioTable

/-- Reading a scenario. -/
theorem Scenario.read_neverLacks (path : Path) (tolerant : Bool) :
    NeverLacks (Scenario.read path tolerant) := by
  intro bench
  have hread := ScenarioTable.read_neverLacks path bench
  unfold Scenario.read
  rcases htable : bench.perform (ScenarioTable.read path) with ⟨failure | table, after⟩
  · rw [Bench.perform_bind_error htable]
    rw [htable] at hread
    exact .error (hread failure rfl)
  · rw [Bench.perform_bind_ok htable]
    exact ScenarioTable.onlyRow_hasNoLack path tolerant (ScenarioTable.rows_hasNoLack htable)

/-! ## The menu -/

/-- A row that has no action is at fault. -/
theorem Response.prepare_hasNoLack (row : Response) : HasNoLack row.prepare := by
  have hplain : ∀ (kind : ActionKind) action params,
      HasNoLack (kind.withoutParameters action params) := fun kind action params => by
    unfold ActionKind.withoutParameters
    split
    · exact .ok _
    · exact .error rfl
  have hkind : ∀ (kind : ActionKind) params, HasNoLack (kind.prepare params) := fun kind params => by
    unfold ActionKind.prepare
    split
    · exact hplain _ _ _
    · exact hplain _ _ _
    · exact hplain _ _ _
    · split
      · split
        · exact .error rfl
        · exact .ok _
      · exact .error rfl
  unfold prepare
  split
  · exact .error rfl
  · split
    · exact .error rfl
    · exact hkind _ _

/-- Reading a response file. -/
theorem Response.readAll_neverLacks (path : Path) : NeverLacks (Response.readAll path) := by
  unfold Response.readAll
  refine (NeverLacks.reportedAs _ fun _ => rfl).bind fun content => ?_
  split
  · exact .pure _
  · exact .throw rfl

/-- Looking for the column that an action writes. -/
theorem Action.verify_neverLacks (action : Action) (schema : Path) :
    NeverLacks (action.verify schema) := by
  unfold verify
  split
  · unfold ScenarioTable.requireColumn
    refine (ScenarioTable.headerAt_neverLacks _).bind fun header => ?_
    split
    · exact .pure _
    · exact .throw rfl
  · exact .pure _

namespace Menu

/-- Adding a row. -/
theorem addRow_neverLacks (conditions : Conditions) (schema : Path) (menu : Menu) (row : Response) :
    NeverLacks (addRow conditions schema menu row) := by
  have hholds : HasNoLack (conditions.holds row.condition) := by
    rcases conditions.holds_cases row.condition with ⟨value, h, -⟩ | ⟨h, -⟩
    · rw [h]
      exact .ok value
    · rw [h]
      exact .error rfl
  have hadd : ∀ action, HasNoLack (menu.add row.description action) := by
    intro action
    unfold add
    rcases bindKeys_cases row.description menu.hotkeys (BootTrial.hotkeys row.description) with
      ⟨bindings, h, -⟩ | ⟨before, key, behind, existing, -, -, -, -, h⟩
    · rw [h]
      exact .ok _
    · rw [h]
      exact .error rfl
  unfold addRow
  refine (NeverLacks.ofExcept row.prepare_hasNoLack).bind fun action => ?_
  refine (action.verify_neverLacks schema).bind fun _ => (NeverLacks.ofExcept hholds).bind ?_
  intro holds
  split
  · exact .ofExcept (hadd action)
  · exact .pure menu

/-- Adding rows. -/
theorem foldlM_addRow_neverLacks (conditions : Conditions) (schema : Path) (rows : List Response)
    (menu : Menu) : NeverLacks (rows.foldlM (addRow conditions schema) menu) := by
  induction rows generalizing menu with
  | nil => exact .pure menu
  | cons row rest ih =>
    rw [List.foldlM_cons]
    exact (addRow_neverLacks conditions schema menu row).bind fun menu => ih menu

end Menu

/-- Compiling the menu of the template. -/
theorem Settings.menu_neverLacks (settings : Settings) (conditions : Conditions) :
    NeverLacks (settings.menu conditions) :=
  (Response.readAll_neverLacks _).bind fun rows => Menu.foldlM_addRow_neverLacks _ _ rows {}

/-! ## The machine and the operator -/

/-- A machine that never says that no test waits. -/
structure Machine.IsSilent (machine : Machine) : Prop where
  /-- No request is answered so. -/
  answered : ∀ request, NeverLacks (machine.answer request)

/-- An operator who never says that no test waits. -/
structure Operator.IsSilent (operator : Operator) : Prop where
  /-- No choice fails so. -/
  chosen : ∀ title menu, NeverLacks (operator.choose title menu)

/-- Asking the machine. -/
theorem Machine.IsSilent.ask {machine : Machine} (h : machine.IsSilent) (request : Request) :
    NeverLacks (machine.ask request) :=
  (NeverLacks.lift _).bind fun _ => h.answered request

/-- Asking the operator. -/
theorem Operator.IsSilent.ask {operator : Operator} (h : operator.IsSilent) (title : String)
    (menu : Menu) : NeverLacks (operator.ask title menu) :=
  (NeverLacks.lift _).bind fun _ => h.chosen title menu

/-- The scripted machine refuses what it is told to refuse, and says so. -/
theorem Machine.scripted_isSilent (boot : BootId) (refused : List String) :
    (scripted boot refused).IsSilent := by
  have hrefuse : ∀ request, NeverLacks (refuse refused request) := by
    intro request
    unfold refuse
    split
    · exact .throw rfl
    · exact .pure _
  have hfail : ∀ request tool, NeverLacks (failAs refused request tool) := by
    intro request tool
    unfold failAs
    split
    · exact .throw rfl
    · exact .pure _
  have hnote : ∀ request, NeverLacks (note request) := fun request => .modify _
  have hlog : ∀ log text, NeverLacks (standIn log text) := fun log text =>
    .reportedAs _ fun _ => rfl
  refine ⟨fun request => ?_⟩
  cases request with
  | currentBoot => exact (hrefuse _).bind fun _ => .pure _
  | captureKernelLog of log => exact (hrefuse _).bind fun _ => (hnote _).bind fun _ => hlog _ _
  | sleepCycle log => exact (hnote _).bind fun _ => (hfail _ _).bind fun _ => hlog _ _
  | announce message => exact (hrefuse _).bind fun _ => hnote _
  | sync => exact (hrefuse _).bind fun _ => hnote _
  | reboot => exact (hnote _).bind fun _ => hfail _ _

/-- The scripted operator fails only with an answer that is not on the menu. -/
theorem Operator.scripted_isSilent : scripted.IsSilent := by
  refine ⟨fun title menu => (NeverLacks.lift _).bind fun answer => ?_⟩
  cases answer with
  | none => exact .pure _
  | some answer =>
    dsimp only
    cases menu.choice? answer with
    | some entry => exact .pure _
    | none => exact .throw rfl

/-- An operator at a terminal fails only where a line is not text. -/
theorem Operator.prompt_isSilent : prompt.IsSilent := by
  refine ⟨fun title menu => NeverLacks.get.bind fun bench => ?_⟩
  refine (NeverLacks.lift _).bind fun _ => (NeverLacks.lift _).bind fun _ => ?_
  split
  · exact .pure _
  · exact .throw rfl

/-! ## A run -/

namespace TrialWork.NeverLacks

variable {α β : Type}

/-- Work that leaves the trial alone. -/
theorem lift {work : Work α} (h : BootTrial.NeverLacks work) :
    NeverLacks (liftM work : TrialWork α) :=
  fun bench _ => h bench

/-- Work on a trial that only gives a value. -/
theorem pure (a : α) : NeverLacks (Pure.pure a : TrialWork α) :=
  fun _ _ => .ok a

/-- Looking at the trial. -/
theorem getTrial : NeverLacks (getThe Trial : TrialWork Trial) :=
  fun _ trial => .ok trial

/-- Changing the trial. -/
theorem modifyTrial (change : Trial → Trial) :
    NeverLacks (modifyThe Trial change : TrialWork Unit) :=
  fun _ _ => .ok ()

/-- Work on a trial that goes on where other work has succeeded. -/
theorem bind {work : TrialWork α} {next : α → TrialWork β} (hwork : NeverLacks work)
    (hnext : ∀ a, NeverLacks (next a)) : NeverLacks (work >>= next) := by
  intro bench trial
  have hfirst := hwork bench trial
  rw [Bench.act_bind]
  rcases hresult : bench.act trial work with ⟨failure | a, trial', after⟩
  · exact .error (hfirst failure (congrArg Prod.fst hresult))
  · exact hnext a after trial'

/-- Work on the bench that goes on with the result of work on a trial, failures included. -/
theorem on_bind {work : TrialWork α} {next : Except Error α × Trial → Work β}
    (hwork : NeverLacks work)
    (hnext : ∀ result trial, HasNoLack result → BootTrial.NeverLacks (next (result, trial)))
    (trial : Trial) : BootTrial.NeverLacks (work.on trial >>= next) := by
  intro bench
  rw [Bench.perform_bind_ok (Bench.perform_on bench trial work)]
  exact hnext _ _ (hwork bench trial) _

end TrialWork.NeverLacks

namespace Trial

/-- A trial that is closed already is at fault. -/
theorem requireOpen_hasNoLack (trial : Trial) : HasNoLack trial.requireOpen := by
  unfold requireOpen
  split
  · exact .error rfl
  · exact .ok ()

/-- Moving a directory into the results root. -/
theorem moveToResults_neverLacks (directory results : Path) :
    NeverLacks (moveToResults directory results) := by
  unfold moveToResults
  refine (NeverLacks.reportedAs _ fun _ => rfl).bind fun _ => ?_
  refine (NeverLacks.ofExcept (directoryName_hasNoLack _)).bind fun name => ?_
  refine NeverLacks.get.bind fun bench => ?_
  simp only
  split
  · exact .throw rfl
  · exact (NeverLacks.reportedAs _ fun _ => rfl).bind fun _ => .pure _

/-- Closing a trial. -/
theorem close_neverLacks : TrialWork.NeverLacks close := by
  unfold close
  refine TrialWork.NeverLacks.getTrial.bind fun trial => ?_
  split
  · exact .pure none
  · refine TrialWork.NeverLacks.bind (fun bench _ => .ok bench) fun bench => ?_
    split
    · exact (TrialWork.NeverLacks.modifyTrial _).bind fun _ => .pure none
    · refine (TrialWork.NeverLacks.lift (moveToResults_neverLacks _ _)).bind fun goal => ?_
      exact (TrialWork.NeverLacks.modifyTrial _).bind fun _ => .pure (some goal)

end Trial

/-- Writing a scenario. -/
theorem Scenario.write_neverLacks (path : Path) (header : List String) (record : Scenario) :
    NeverLacks (record.write path header) := by
  have hnames : HasNoLack (record.checkNames path header) := by
    unfold checkNames
    split
    · exact .ok ()
    · exact .error rfl
  have hknown : ∀ bench, HasNoLack (checkKnownHeader path header bench) := by
    intro bench
    unfold checkKnownHeader
    split
    · exact .ok ()
    · split
      · exact .ok ()
      · split
        · exact .ok ()
        · exact .error rfl
  unfold write
  refine (NeverLacks.ofExcept hnames).bind fun _ => NeverLacks.get.bind fun bench => ?_
  refine (NeverLacks.ofExcept (hknown bench)).bind fun _ => ?_
  split
  · exact .throw rfl
  · refine (NeverLacks.reportedAs _ fun fault => ?_).bind fun _ => ?_
    · cases fault <;> rfl
    refine (NeverLacks.reportedAs _ fun _ => rfl).bind fun _ => ?_
    refine (NeverLacks.reportedAs _ fun _ => rfl).bind fun _ => ?_
    exact (NeverLacks.reportedAs _ fun _ => rfl).bind fun _ => .modify _

namespace Action

/-- Carrying out an action. -/
theorem run_neverLacks {machine : Machine} (hmachine : machine.IsSilent) (action : Action) :
    TrialWork.NeverLacks (action.run machine) := by
  cases action with
  | reboot =>
    refine (TrialWork.NeverLacks.lift (hmachine.ask .sync)).bind fun _ => ?_
    exact Trial.close_neverLacks.bind fun _ => .lift (hmachine.ask .reboot)
  | discard =>
    refine TrialWork.NeverLacks.getTrial.bind fun trial => ?_
    refine (TrialWork.NeverLacks.lift (.ofExcept trial.requireOpen_hasNoLack)).bind fun _ => ?_
    refine (TrialWork.NeverLacks.lift (.reportedAs _ fun _ => rfl)).bind fun _ => ?_
    exact .modifyTrial _
  | writeResult column result =>
    refine TrialWork.NeverLacks.getTrial.bind fun trial => ?_
    refine (TrialWork.NeverLacks.lift (.ofExcept trial.requireOpen_hasNoLack)).bind fun _ => ?_
    refine (TrialWork.NeverLacks.modifyTrial _).bind fun _ => ?_
    refine (TrialWork.NeverLacks.lift (ScenarioTable.headerAt_neverLacks _)).bind fun header => ?_
    exact .lift (Scenario.write_neverLacks _ header _)
  | quit => exact .modifyTrial _

/-- Carrying out actions. -/
theorem runAll_neverLacks {machine : Machine} (hmachine : machine.IsSilent)
    (actions : List Action) : TrialWork.NeverLacks (runAll machine actions) := by
  induction actions with
  | nil => exact .pure ()
  | cons action rest ih => exact (action.run_neverLacks hmachine).bind fun _ => ih

end Action

namespace Trial

variable {machine : Machine} {operator : Operator}

/-- Loading a test. -/
theorem load_neverLacks (hmachine : machine.IsSilent) (settings : Settings) (directory : Path) :
    NeverLacks (load settings machine directory) := by
  unfold load
  refine (boundBoot_neverLacks _).bind fun boot => (hmachine.ask .currentBoot).bind fun here => ?_
  refine (logFrontOf_neverLacks _).bind fun front => ?_
  exact (Scenario.read_neverLacks _ _).bind fun scenario => .pure _

/-- Capturing the logs of a test. -/
theorem captureLogs_neverLacks (hmachine : machine.IsSilent) (trial : Trial) :
    NeverLacks (trial.captureLogs machine) := by
  unfold captureLogs
  refine (hmachine.ask _).bind fun _ => ?_
  split
  · exact hmachine.ask _
  · exact .pure ()

/-- Calling the operator and having an entry of the menu chosen. -/
theorem choose_neverLacks (hmachine : machine.IsSilent) (hoperator : operator.IsSilent)
    (message : String) (menu : Menu) (trial : Trial) :
    NeverLacks (choose machine operator message menu trial) := by
  unfold choose
  split
  · exact .pure none
  · split
    · exact (hmachine.ask _).bind fun _ => hoperator.ask _ _
    · exact hoperator.ask _ _

/-- Asking the operator and carrying out the choice. -/
theorem consult_neverLacks (hmachine : machine.IsSilent) (hoperator : operator.IsSilent)
    (message : String) (menu : Menu) :
    TrialWork.NeverLacks (consult machine operator message menu) := by
  intro bench trial
  have hchosen := choose_neverLacks hmachine hoperator message menu trial bench
  rw [act_consult]
  rcases hchoice : bench.perform (choose machine operator message menu trial) with
    ⟨failure | choice, after⟩
  · exact .error (hchosen failure (congrArg Prod.fst hchoice))
  have hacted := Action.runAll_neverLacks hmachine (actionsOf menu choice) after trial
  simp only
  rcases hacts : after.act trial (Action.runAll machine (actionsOf menu choice)) with
    ⟨failure | _, trial', last⟩
  · exact .error (hacted failure (congrArg Prod.fst hacts))
  · exact .ok choice

/-- Running a test. -/
theorem runAt_neverLacks (hmachine : machine.IsSilent) (hoperator : operator.IsSilent)
    (settings : Settings) (directory : Path) :
    NeverLacks (runAt settings machine operator directory) := by
  unfold runAt
  refine (load_neverLacks hmachine settings directory).bind fun trial => ?_
  refine (settings.menu_neverLacks _).bind fun menu => ?_
  refine (captureLogs_neverLacks hmachine trial).bind fun _ => ?_
  -- The failure of the choice and that of the closing are reported behind both.
  refine (consult_neverLacks hmachine hoperator _ menu).on_bind (fun answered trial hanswered => ?_) _
  refine close_neverLacks.on_bind (fun closed trial hclosed => ?_) _
  refine (NeverLacks.ofExcept hanswered).bind fun choice => ?_
  exact (NeverLacks.ofExcept hclosed).bind fun moved => NeverLacks.get.bind fun bench => .pure _

/-- Running tests. -/
theorem runEach_neverLacks (hmachine : machine.IsSilent) (hoperator : operator.IsSilent)
    (settings : Settings) (directories : List Path) :
    NeverLacks (runEach settings machine operator directories) := by
  induction directories with
  | nil => exact .pure []
  | cons directory rest ih =>
    exact (runAt_neverLacks hmachine hoperator settings directory).bind fun run =>
      ih.bind fun runs => .pure (run :: runs)

end Trial

/-- Claiming a test fails for lack of one exactly where none is listed. -/
theorem Workspace.lacks_claim (workspace : Workspace) (boot : BootId) (bench : Bench) :
    bench.Lacks (workspace.claim boot)
      ↔ (bench.perform (testsIn workspace.pending)).1 = .ok [] := by
  unfold claim
  rw [Bench.lacks_bind (testsIn_neverLacks _)]
  rcases htests : bench.perform (testsIn workspace.pending) with ⟨failure | tests, listed⟩
  · simp
  cases tests with
  | nil => exact iff_of_true ⟨[], listed, rfl, workspace.pending, listed, rfl⟩ rfl
  | cons next rest =>
    have hmoves : NeverLacks (do
        let name ← Work.ofExcept (directoryName next)
        (FileWork.makeDirs workspace.running).reportedAs .ofFault
        let directory := workspace.running.join (runningName name boot)
        (FileWork.rename next directory).reportedAs .ofFault
        bindTo directory boot
        return directory) := by
      refine (NeverLacks.ofExcept (directoryName_hasNoLack next)).bind fun name => ?_
      refine (NeverLacks.reportedAs _ fun _ => rfl).bind fun _ => ?_
      refine (NeverLacks.reportedAs _ fun _ => rfl).bind fun _ => ?_
      exact (bindTo_neverLacks _ _).bind fun _ => .pure _
    refine iff_of_false ?_ (by simp)
    rintro ⟨_, _, ⟨⟩, hlacks⟩
    exact hmoves.not_lacks listed hlacks

end BootTrial
