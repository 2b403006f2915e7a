import BootTrial.Machine.Scripted
import BootTrial.Operator.Scripted
import BootTrial.Proofs.Layout
import BootTrial.Proofs.Run

/-!
# Work that pays no heed to what is remembered

Only reading and writing scenario tables looks at the headers that the bench remembers. All other
work is oblivious to them (`Oblivious`): whichever headers are remembered, it gives the same result,
leaves the same bench and remembers the same headers still. Work is oblivious if it is composed of
oblivious pieces (`Oblivious.bind`), and so are listing the tests, staging and publishing a batch
apart from its scenario files, claiming a test, and closing or deleting it.

A machine and an operator have no access to the headers (`Machine.IsOblivious`,
`Operator.IsOblivious`). The scripted ones are such.
-/

namespace BootTrial

open Text (Bytes)

/-- The bench with other headers remembered. -/
def Bench.remembering (headers : HeaderCache) (bench : Bench) : Bench :=
  { bench with headers }

/-- Work is the same whichever headers are remembered, and leaves them as they are. -/
def Oblivious {ε α : Type} (work : ExceptT ε (StateM Bench) α) : Prop :=
  ∀ (bench : Bench) (headers : HeaderCache),
    (bench.remembering headers).perform work
      = ((bench.perform work).1, (bench.perform work).2.remembering headers)

namespace Oblivious

variable {ε α β : Type}

/-- Work that only gives a value. -/
theorem pure (a : α) : Oblivious (Pure.pure a : ExceptT ε (StateM Bench) α) :=
  fun _ _ => rfl

/-- Work that fails at once. -/
theorem throw (failure : ε) : Oblivious (MonadExcept.throw failure : ExceptT ε (StateM Bench) α) :=
  fun _ _ => rfl

/-- A result as work. -/
theorem ofExcept (result : Except Error α) : Oblivious (Work.ofExcept result) :=
  fun _ _ => rfl

/-- Work that goes on where other work has succeeded. -/
theorem bind {work : ExceptT ε (StateM Bench) α} {next : α → ExceptT ε (StateM Bench) β}
    (hwork : Oblivious work) (hnext : ∀ a, Oblivious (next a)) : Oblivious (work >>= next) := by
  intro bench headers
  rw [Bench.perform_bind, Bench.perform_bind, hwork bench headers]
  rcases bench.perform work with ⟨failure | a, after⟩
  · rfl
  · exact hnext a after headers

/-- Work that goes on with the bench, as far as it does not look at the headers. -/
theorem get_bind {next : Bench → ExceptT ε (StateM Bench) α}
    (hsame : ∀ (bench : Bench) (known : HeaderCache), next (bench.remembering known) = next bench)
    (hnext : ∀ bench, Oblivious (next bench)) : Oblivious (MonadState.get >>= next) := by
  intro bench headers
  rw [Bench.perform_bind_ok (Bench.perform_get _), Bench.perform_bind_ok (Bench.perform_get _),
    hsame]
  exact hnext bench bench headers

/-- A change of the bench that commutes with a change of the headers. -/
theorem modify {change : Bench → Bench}
    (hchange : ∀ (bench : Bench) (headers : HeaderCache),
      change (bench.remembering headers) = (change bench).remembering headers) :
    Oblivious
      (MonadState.modifyGet fun bench => ((), change bench) : ExceptT ε (StateM Bench) Unit) := by
  intro bench headers
  exact congrArg (Prod.mk (Except.ok ())) (hchange bench headers)

/-- Reading files. -/
theorem look {read : Bench → Except FileFault α}
    (hread : ∀ (bench : Bench) (known : HeaderCache), read (bench.remembering known) = read bench) :
    Oblivious (FileWork.look read) := by
  intro bench headers
  rw [Bench.perform_look, Bench.perform_look, hread]

/-- An elementary step. -/
theorem take (step : FileStep) : Oblivious (FileWork.take step) := by
  intro bench headers
  rw [Bench.perform_take, Bench.perform_take]
  have hsame : step (bench.remembering headers).files (bench.remembering headers).here
      = step bench.files bench.here := rfl
  rw [hsame]
  cases step bench.files bench.here <;> rfl

/-- Putting an event into the history. -/
theorem record (event : Event) :
    Oblivious (liftM (Bench.record event) : ExceptT ε (StateM Bench) Unit) :=
  fun _ _ => rfl

/-- Work on files whose refusal is reported as an error. -/
theorem reportedAs {work : FileWork α} (h : Oblivious work) (report : FileFault → Error) :
    Oblivious (work.reportedAs report) := by
  intro bench headers
  rw [Bench.perform_reportedAs, Bench.perform_reportedAs, h bench headers]

/-- Work on files whose refusal is part of the result. -/
theorem fileOutcome {work : FileWork α} (h : Oblivious work) : Oblivious work.outcome := by
  intro bench headers
  rw [Bench.perform_fileOutcome, Bench.perform_fileOutcome, h bench headers]

/-- Writing a file. -/
theorem writeFile (p : Path) (content : Bytes) : Oblivious (FileWork.writeFile p content) :=
  (take _).bind fun _ => take _

/-- Making a directory after those above it that are missing. -/
theorem makeDirsFrom (paths : List Path) : Oblivious (FileWork.makeDirsFrom paths) := by
  induction paths with
  | nil => exact throw _
  | cons p above ih =>
    intro bench headers
    have hmake : ∀ (bench : Bench), _ := fun bench => take (FileStep.makeDir p) bench headers
    simp only [FileWork.perform_makeDirsFrom, FileWork.makeDir, hmake]
    rcases bench.perform (FileWork.take (FileStep.makeDir p)) with ⟨fault | _, made⟩
    · -- Only where something is missing above, the work goes on.
      cases fault <;> try rfl
      simp only [ih made headers]
      rcases made.perform (FileWork.makeDirsFrom above) with ⟨fault | _, last⟩
      · rfl
      simp only [hmake]
      rcases last.perform (FileWork.take (FileStep.makeDir p)) with ⟨fault | _, after⟩
      · rfl
      · rfl
    · rfl

/-- Making a directory and every missing one above it. -/
theorem makeDirs (p : Path) : Oblivious (FileWork.makeDirs p) := by
  unfold FileWork.makeDirs
  split
  · exact pure _
  · exact makeDirsFrom _

/-- Removing the entries at some places. -/
theorem removeEach (place : Place) (belows : List Place) :
    Oblivious (FileWork.removeEach place belows) := by
  induction belows with
  | nil => exact pure _
  | cons below rest ih => exact (take _).bind fun _ => ih

/-- Removing a directory with everything below it. -/
theorem removeTree (p : Path) : Oblivious (FileWork.removeTree p) :=
  (look fun _ _ => rfl).bind fun _ => (look fun _ _ => rfl).bind fun _ =>
    (removeEach _ _).bind fun _ => take _

end Oblivious

/-! ## The tests -/

section Tests

/-- Looking whether anything lies in a root. -/
theorem isOccupied_oblivious (root : Path) : Oblivious (isOccupied root) := by
  unfold isOccupied
  refine (Oblivious.look fun _ _ => rfl).fileOutcome.bind fun outcome => ?_
  split
  · exact .pure _
  · exact .pure _
  · exact .throw _

/-- Listing the tests in a root. -/
theorem testsIn_oblivious (root : Path) : Oblivious (testsIn root) := by
  unfold testsIn
  refine (Oblivious.look fun _ _ => rfl).fileOutcome.bind fun outcome => ?_
  split
  · exact .pure _
  · exact .pure _
  · exact .throw _

/-- Writing the boot id of a test. -/
theorem bindTo_oblivious (directory : Path) (boot : BootId) : Oblivious (bindTo directory boot) :=
  (Oblivious.writeFile _ _).reportedAs _

/-- Finding the boot that a test is bound to. -/
theorem boundBoot_oblivious (directory : Path) : Oblivious (boundBoot directory) := by
  have hstored : Oblivious (storedBoot directory) := by
    unfold storedBoot
    refine (Oblivious.look fun _ _ => rfl).fileOutcome.bind fun outcome => ?_
    split
    · exact .pure _
    · exact .pure _
    · exact .throw _
  unfold boundBoot
  refine hstored.bind fun stored => ?_
  split
  · exact .pure _
  · refine (Oblivious.ofExcept _).bind fun name => ?_
    split
    · exact .throw _
    · exact (bindTo_oblivious _ _).bind fun _ => .pure _

/-- Finding the front of the names of the logs. -/
theorem logFrontOf_oblivious (directory : Path) : Oblivious (logFrontOf directory) := by
  have hstored : Oblivious (storedFront directory) := by
    unfold storedFront
    refine (Oblivious.look fun _ _ => rfl).fileOutcome.bind fun outcome => ?_
    split
    · exact .pure _
    · exact .pure _
    · exact .throw _
  unfold logFrontOf
  refine hstored.bind fun stored => ?_
  split
  · exact .pure _
  · exact (Oblivious.ofExcept _).bind fun _ => .pure _

/-- Reading a response file. -/
theorem Response.readAll_oblivious (path : Path) : Oblivious (Response.readAll path) := by
  unfold Response.readAll
  refine ((Oblivious.look fun _ _ => rfl).reportedAs _).bind fun content => ?_
  split
  · exact .pure _
  · exact .throw _

/-- Checking that the template is there. -/
theorem Settings.requireTemplate_oblivious (settings : Settings) :
    Oblivious settings.requireTemplate := by
  unfold Settings.requireTemplate
  split
  · exact .throw _
  · refine .get_bind (fun _ _ => rfl) fun bench => ?_
    split
    · exact .pure _
    · exact .throw _

/-- Making an empty staging directory. -/
theorem Workspace.clearStaging_oblivious (workspace : Workspace) :
    Oblivious workspace.clearStaging := by
  have hmake : Oblivious ((FileWork.makeDirs workspace.staging).reportedAs .ofFault) :=
    (Oblivious.makeDirs _).reportedAs _
  unfold clearStaging
  refine .get_bind (fun _ _ => rfl) fun bench => ?_
  split
  · exact ((Oblivious.removeTree _).reportedAs _).bind fun _ => hmake
  · exact hmake

/-- Putting the staging directory in the place of the pending root. -/
theorem Workspace.publish_oblivious (workspace : Workspace) : Oblivious workspace.publish := by
  have hrename : Oblivious
      ((FileWork.rename workspace.staging workspace.pending).reportedAs .ofFault) :=
    (Oblivious.take _).reportedAs _
  unfold publish
  refine .get_bind (fun _ _ => rfl) fun bench => ?_
  split
  · exact ((Oblivious.take _).reportedAs _).bind fun _ => hrename
  · exact hrename

/-- Claiming a test. -/
theorem Workspace.claim_oblivious (workspace : Workspace) (boot : BootId) :
    Oblivious (workspace.claim boot) := by
  unfold claim
  refine (testsIn_oblivious _).bind fun tests => ?_
  split
  · exact .throw _
  · refine (Oblivious.ofExcept _).bind fun name => ?_
    refine ((Oblivious.makeDirs _).reportedAs _).bind fun _ => ?_
    refine ((Oblivious.take _).reportedAs _).bind fun _ => ?_
    exact (bindTo_oblivious _ _).bind fun _ => .pure _

end Tests

/-! ## The machine and the operator -/

/-- A machine whose answers do not depend on the headers that the program remembers. -/
structure Machine.IsOblivious (machine : Machine) : Prop where
  /-- Every request is answered so. -/
  answered : ∀ request, Oblivious (machine.answer request)

/-- An operator whose choices do not depend on the headers that the program remembers. -/
structure Operator.IsOblivious (operator : Operator) : Prop where
  /-- Every choice is made so. -/
  chosen : ∀ title menu, Oblivious (operator.choose title menu)

/-- Asking the machine. -/
theorem Machine.IsOblivious.ask {machine : Machine} (h : machine.IsOblivious) (request : Request) :
    Oblivious (machine.ask request) :=
  (Oblivious.record _).bind fun _ => h.answered request

/-- Asking the operator. -/
theorem Operator.IsOblivious.ask {operator : Operator} (h : operator.IsOblivious) (title : String)
    (menu : Menu) : Oblivious (operator.ask title menu) :=
  (Oblivious.record _).bind fun _ => h.chosen title menu

/-- The scripted machine does not look at the headers. -/
theorem Machine.scripted_isOblivious (boot : BootId) (refused : List String) :
    (scripted boot refused).IsOblivious := by
  have hrefuse : ∀ request, Oblivious (refuse refused request) := by
    intro request
    unfold refuse
    split
    · exact .throw _
    · exact .pure _
  have hfail : ∀ request tool, Oblivious (failAs refused request tool) := by
    intro request tool
    unfold failAs
    split
    · exact .throw _
    · exact .pure _
  have hnote : ∀ request, Oblivious (note request) := fun request => .modify fun _ _ => rfl
  have hlog : ∀ log text, Oblivious (standIn log text) := fun log text =>
    (Oblivious.writeFile _ _).reportedAs _
  refine ⟨fun request => ?_⟩
  cases request with
  | currentBoot => exact (hrefuse _).bind fun _ => .pure _
  | captureKernelLog of log => exact (hrefuse _).bind fun _ => (hnote _).bind fun _ => hlog _ _
  | sleepCycle log => exact (hnote _).bind fun _ => (hfail _ _).bind fun _ => hlog _ _
  | announce message => exact (hrefuse _).bind fun _ => hnote _
  | sync => exact (hrefuse _).bind fun _ => hnote _
  | reboot => exact (hnote _).bind fun _ => hfail _ _

/-- The scripted operator does not look at the headers. -/
theorem Operator.scripted_isOblivious : scripted.IsOblivious := by
  have htake : Oblivious (liftM Bench.takeAnswer : Work (Option String)) := by
    intro bench headers
    rcases bench with ⟨files, here, home, searchPath, environment, color, headers', input, held,
      answers, transcript, calls, history⟩
    cases answers <;> rfl
  refine ⟨fun title menu => htake.bind fun answer => ?_⟩
  cases answer with
  | none => exact .pure _
  | some answer =>
    dsimp only
    cases menu.choice? answer with
    | some entry => exact .pure _
    | none => exact .throw _

/-! ## A run -/

namespace Trial

variable {machine : Machine} {operator : Operator}

/-- Capturing the logs of a test. -/
theorem captureLogs_oblivious (hmachine : machine.IsOblivious) (trial : Trial) :
    Oblivious (trial.captureLogs machine) := by
  unfold captureLogs
  refine (hmachine.ask _).bind fun _ => ?_
  split
  · exact hmachine.ask _
  · exact .pure _

/-- Having the operator choose. -/
theorem choose_oblivious (hmachine : machine.IsOblivious) (hoperator : operator.IsOblivious)
    (message : String) (menu : Menu) (trial : Trial) :
    Oblivious (choose machine operator message menu trial) := by
  unfold choose
  split
  · exact .pure _
  · split
    · exact (hmachine.ask _).bind fun _ => hoperator.ask _ _
    · exact hoperator.ask _ _

/-- Moving a directory into the results root. -/
theorem moveToResults_oblivious (directory results : Path) :
    Oblivious (moveToResults directory results) := by
  unfold moveToResults
  refine ((Oblivious.makeDirs _).reportedAs _).bind fun _ => ?_
  refine (Oblivious.ofExcept _).bind fun name => .get_bind (fun _ _ => rfl) fun bench => ?_
  split
  · exact .throw _
  · exact ((Oblivious.take _).reportedAs _).bind fun _ => .pure _

end Trial

/-- Work on a trial is the same whichever headers are remembered, and leaves them as they are. -/
def TrialWork.IsOblivious {α : Type} (work : TrialWork α) : Prop :=
  ∀ (bench : Bench) (headers : HeaderCache) (trial : Trial),
    (bench.remembering headers).act trial work
      = ((bench.act trial work).1, (bench.act trial work).2.1,
          (bench.act trial work).2.2.remembering headers)

namespace TrialWork.IsOblivious

variable {α β : Type}

/-- Work that leaves the trial alone. -/
theorem lift {work : Work α} (h : Oblivious work) : IsOblivious (liftM work : TrialWork α) := by
  intro bench headers trial
  rw [Bench.act_lift, Bench.act_lift, h bench headers]

/-- Work on a trial that goes on where other work has succeeded. -/
theorem bind {work : TrialWork α} {next : α → TrialWork β} (hwork : IsOblivious work)
    (hnext : ∀ a, IsOblivious (next a)) : IsOblivious (work >>= next) := by
  intro bench headers trial
  rw [Bench.act_bind, Bench.act_bind, hwork bench headers trial]
  rcases bench.act trial work with ⟨failure | a, trial', after⟩
  · rfl
  · exact hnext a after headers trial'

/-- Closing a trial. -/
theorem close : IsOblivious Trial.close := by
  have hmark : IsOblivious (do Trial.markClosed; return (none : Option Path)) := fun _ _ _ => rfl
  unfold Trial.close
  refine bind (fun _ _ _ => rfl) fun trial => ?_
  split
  · exact fun _ _ _ => rfl
  · intro bench headers trial'
    rw [Bench.act_bind_ok (Bench.act_getBench _ _), Bench.act_bind_ok (Bench.act_getBench _ _)]
    have hdir : (bench.remembering headers).hasDir trial.directory = bench.hasDir trial.directory :=
      rfl
    rw [hdir]
    split
    · exact hmark bench headers trial'
    · refine bind (lift (Trial.moveToResults_oblivious _ _)) (fun goal => ?_) bench headers trial'
      exact fun _ _ _ => rfl

/-- Restarting. -/
theorem runReboot {machine : Machine} (h : machine.IsOblivious) :
    IsOblivious (Action.runReboot machine) :=
  (lift (h.ask _)).bind fun _ => close.bind fun _ => lift (h.ask _)

/-- Deleting the test. -/
theorem runDiscard : IsOblivious Action.runDiscard := by
  refine bind (fun _ _ _ => rfl) fun trial => (lift (.ofExcept _)).bind fun _ => ?_
  exact (lift ((Oblivious.removeTree _).reportedAs _)).bind fun _ _ _ _ => rfl

end TrialWork.IsOblivious

end BootTrial
