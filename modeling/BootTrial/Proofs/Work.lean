import Mathlib.Order.Defs.Unbundled
import BootTrial.Scenario.Table

/-!
# What work leaves behind

`Bench.perform` does work on a bench and gives its result with the bench that it leaves. The
equations here say how the result of composed work comes from the results of its parts.

What a piece of work does to the bench, however it ends, is told by a preorder on benches that it
keeps (`Keeps`): then work composed of pieces that keep it keeps it as well (`Keeps.bind`). Work that
only reads keeps the relation `Bench.Unmoved`.
-/

namespace BootTrial

open Text (Bytes)

/-- Results are compared by what they hold. -/
instance decidableEqResult {ε α : Type} [DecidableEq ε] [DecidableEq α] :
    DecidableEq (Except ε α)
  | .ok a, .ok b => decidable_of_iff (a = b) (by rw [Except.ok.injEq])
  | .error failure, .error failure' =>
    decidable_of_iff (failure = failure') (by rw [Except.error.injEq])
  | .ok _, .error _ | .error _, .ok _ => isFalse nofun

/-- What has succeeded in two parts has succeeded in each. -/
theorem exceptBind_inv {ε α β : Type} {first : Except ε α} {next : α → Except ε β} {b : β}
    (h : first >>= next = .ok b) : ∃ a, first = .ok a ∧ next a = .ok b := by
  cases first with
  | error failure => cases h
  | ok a => exact ⟨a, rfl, h⟩

namespace Bench

variable {ε α β : Type}

/-- What comes of doing work on a bench: its result, and the bench that it leaves. -/
def perform (bench : Bench) (work : ExceptT ε (StateM Bench) α) : Except ε α × Bench :=
  work.run.run bench

/-- The outcome of work whose result is known. -/
theorem perform_eq {bench : Bench} {work : ExceptT ε (StateM Bench) α} {result : Except ε α}
    (h : (bench.perform work).1 = result) :
    bench.perform work = (result, (bench.perform work).2) := by
  rw [← h]

/-- Work that only gives a value. -/
@[simp] theorem perform_pure (bench : Bench) (a : α) :
    bench.perform (pure a : ExceptT ε (StateM Bench) α) = (.ok a, bench) := rfl

/-- Work that fails at once. -/
@[simp] theorem perform_throw (bench : Bench) (failure : ε) :
    bench.perform (throw failure : ExceptT ε (StateM Bench) α) = (.error failure, bench) := rfl

/-- Work that goes on where other work has succeeded. -/
theorem perform_bind (bench : Bench) (work : ExceptT ε (StateM Bench) α)
    (next : α → ExceptT ε (StateM Bench) β) :
    bench.perform (work >>= next)
      = match bench.perform work with
        | (.ok a, after) => after.perform (next a)
        | (.error failure, after) => (.error failure, after) := by
  unfold perform
  rw [ExceptT.run_bind, StateT.run_bind]
  rcases work.run.run bench with ⟨_ | _, after⟩ <;> rfl

/-- Work that goes on where other work has succeeded, when it has. -/
theorem perform_bind_ok {bench after : Bench} {work : ExceptT ε (StateM Bench) α} {a : α}
    (h : bench.perform work = (.ok a, after)) (next : α → ExceptT ε (StateM Bench) β) :
    bench.perform (work >>= next) = after.perform (next a) := by
  rw [perform_bind, h]

/-- Work that goes on where other work has succeeded, when it has not. -/
theorem perform_bind_error {bench after : Bench} {work : ExceptT ε (StateM Bench) α} {failure : ε}
    (h : bench.perform work = (.error failure, after)) (next : α → ExceptT ε (StateM Bench) β) :
    bench.perform (work >>= next) = (.error failure, after) := by
  rw [perform_bind, h]

/-- Work that amounts to other work on another bench does so with whatever follows. -/
theorem perform_bind_congr {bench middle : Bench} {work work' : ExceptT ε (StateM Bench) α}
    (h : bench.perform work = middle.perform work') (next : α → ExceptT ε (StateM Bench) β) :
    bench.perform (work >>= next) = middle.perform (work' >>= next) := by
  rw [perform_bind, perform_bind, h]

/-- Work that goes on where other work has to succeed has succeeded only if that work has. -/
theorem perform_bind_inv {bench after : Bench} {work : ExceptT ε (StateM Bench) α}
    {next : α → ExceptT ε (StateM Bench) β} {b : β}
    (h : bench.perform (work >>= next) = (.ok b, after)) :
    ∃ a middle, bench.perform work = (.ok a, middle) ∧ middle.perform (next a) = (.ok b, after) := by
  rcases hwork : bench.perform work with ⟨failure | a, middle⟩
  · rw [perform_bind_error hwork] at h
    cases h
  · rw [perform_bind_ok hwork] at h
    exact ⟨a, middle, rfl, h⟩

/-- Work whose result is changed in the end. -/
theorem perform_map (bench : Bench) (f : α → β) (work : ExceptT ε (StateM Bench) α) :
    bench.perform (f <$> work) = ((bench.perform work).1.map f, (bench.perform work).2) := by
  rw [map_eq_pure_bind, perform_bind]
  rcases bench.perform work with ⟨_ | _, after⟩ <;> rfl

/-- Looking at the bench. -/
@[simp] theorem perform_get (bench : Bench) :
    bench.perform (get : ExceptT ε (StateM Bench) Bench) = (.ok bench, bench) := rfl

/-- Changing the bench. -/
@[simp] theorem perform_modify (bench : Bench) (change : Bench → Bench) :
    bench.perform (modify change : ExceptT ε (StateM Bench) Unit) = (.ok (), change bench) := rfl

/-- Work that cannot fail. -/
@[simp] theorem perform_lift (bench : Bench) (work : StateM Bench α) :
    bench.perform (liftM work : ExceptT ε (StateM Bench) α)
      = (.ok (work.run bench).1, (work.run bench).2) := rfl

/-- A result as work. -/
@[simp] theorem perform_ofExcept (bench : Bench) (result : Except Error α) :
    bench.perform (Work.ofExcept result) = (result, bench) := rfl

/-- Work on files whose refusal is reported as an error. -/
theorem perform_reportedAs (bench : Bench) (work : FileWork α) (report : FileFault → Error) :
    bench.perform (work.reportedAs report)
      = ((bench.perform work).1.mapError report, (bench.perform work).2) := by
  unfold perform FileWork.reportedAs
  rw [ExceptT.run_mk, StateT.run_bind]
  rcases work.run.run bench with ⟨_ | _, after⟩ <;> rfl

/-- Work on files that succeeds. -/
theorem perform_reportedAs_ok {bench after : Bench} {work : FileWork α} {a : α}
    (h : bench.perform work = (.ok a, after)) (report : FileFault → Error) :
    bench.perform (work.reportedAs report) = (.ok a, after) := by
  rw [perform_reportedAs, h]
  rfl

/-- Work on files that is refused. -/
theorem perform_reportedAs_error {bench after : Bench} {work : FileWork α} {fault : FileFault}
    (h : bench.perform work = (.error fault, after)) (report : FileFault → Error) :
    bench.perform (work.reportedAs report) = (.error (report fault), after) := by
  rw [perform_reportedAs, h]
  rfl

/-- Work on files whose refusal would have been reported, and which has succeeded. -/
theorem perform_reportedAs_inv {bench after : Bench} {work : FileWork α}
    {report : FileFault → Error} {a : α}
    (h : bench.perform (work.reportedAs report) = (.ok a, after)) :
    bench.perform work = (.ok a, after) := by
  rw [perform_reportedAs] at h
  rcases hwork : bench.perform work with ⟨fault | b, last⟩
  all_goals
    rw [hwork] at h
    cases h
  rfl

/-- Work on files whose refusal is part of the result. -/
theorem perform_fileOutcome (bench : Bench) (work : FileWork α) :
    bench.perform work.outcome = (.ok (bench.perform work).1, (bench.perform work).2) := rfl

/-- Work whose failure is part of the result. -/
theorem perform_outcome (bench : Bench) (work : Work α) :
    bench.perform work.outcome = (.ok (bench.perform work).1, (bench.perform work).2) := rfl

/-- Reading files. -/
@[simp] theorem perform_look (bench : Bench) (read : Bench → Except FileFault α) :
    bench.perform (FileWork.look read) = (read bench, bench) := rfl

/-- The bench after an elementary step to other files. -/
def stepTo (bench : Bench) (files : Node) : Bench :=
  { bench with files, history := ⟨.changed, files⟩ :: bench.history }

/-- An elementary step is taken, or refused without a trace. -/
theorem perform_take (bench : Bench) (step : FileStep) :
    bench.perform (FileWork.take step)
      = match step bench.files bench.here with
        | .ok files => (.ok (), bench.stepTo files)
        | .error fault => (.error fault, bench) := by
  unfold perform FileWork.take stepTo
  rw [ExceptT.run_mk, StateT.run_bind, StateT.run_get, pure_bind]
  cases step bench.files bench.here <;> rfl

/-- An elementary step that is taken. -/
theorem perform_take_ok {bench : Bench} {step : FileStep} {files : Node}
    (h : step bench.files bench.here = .ok files) :
    bench.perform (FileWork.take step) = (.ok (), bench.stepTo files) := by
  rw [perform_take, h]

/-- An elementary step that is refused. -/
theorem perform_take_error {bench : Bench} {step : FileStep} {fault : FileFault}
    (h : step bench.files bench.here = .error fault) :
    bench.perform (FileWork.take step) = (.error fault, bench) := by
  rw [perform_take, h]

/-- No header that is remembered is forgotten or replaced. -/
def Remembers (before after : Bench) : Prop :=
  ∀ place known, before.headers.get? place = some known → after.headers.get? place = some known

instance : IsPreorder Bench Remembers where
  refl _ _ _ h := h
  trans _ _ _ h h' place known hknown := h' place known (h place known hknown)

/-- The bench is the same but for headers that are remembered anew and what the terminal and the
machine have on record. -/
structure Unmoved (before after : Bench) : Prop where
  /-- The files are the same. -/
  files : after.files = before.files
  /-- The working directory is the same. -/
  here : after.here = before.here
  /-- Nothing has happened. -/
  history : after.history = before.history
  /-- No header is forgotten or replaced. -/
  headers : Remembers before after

instance : IsPreorder Bench Unmoved where
  refl bench := ⟨rfl, rfl, rfl, refl_of Remembers bench⟩
  trans _ _ _ h h' :=
    ⟨h'.files.trans h.files, h'.here.trans h.here, h'.history.trans h.history,
      trans_of Remembers h.headers h'.headers⟩

end Bench

/-- Work keeps a relation if it always stands between the benches before and after. -/
def Keeps {ε α : Type} (R : Bench → Bench → Prop) (work : ExceptT ε (StateM Bench) α) : Prop :=
  ∀ bench, R bench (bench.perform work).2

namespace Keeps

variable {ε α β : Type} {R : Bench → Bench → Prop}

/-- Work that keeps a relation keeps each weaker one. -/
theorem imp {R' : Bench → Bench → Prop} {work : ExceptT ε (StateM Bench) α} (h : Keeps R work)
    (hR : ∀ before after, R before after → R' before after) : Keeps R' work :=
  fun bench => hR _ _ (h bench)

section Preorder

variable [IsPreorder Bench R]

/-- Work that only gives a value keeps everything. -/
theorem pure (a : α) : Keeps R (Pure.pure a : ExceptT ε (StateM Bench) α) :=
  fun bench => refl_of R bench

/-- Work that fails at once keeps everything. -/
theorem throw (failure : ε) : Keeps R (MonadExcept.throw failure : ExceptT ε (StateM Bench) α) :=
  fun bench => refl_of R bench

/-- A result as work keeps everything. -/
theorem ofExcept (result : Except Error α) : Keeps R (Work.ofExcept result) :=
  fun bench => refl_of R bench

/-- Looking at the bench keeps everything. -/
theorem get : Keeps R (MonadState.get : ExceptT ε (StateM Bench) Bench) :=
  fun bench => refl_of R bench

/-- Reading files keeps everything. -/
theorem look (read : Bench → Except FileFault α) : Keeps R (FileWork.look read) :=
  fun bench => refl_of R bench

/-- Work that goes on where other work has succeeded keeps what both keep. -/
theorem bind {work : ExceptT ε (StateM Bench) α} {next : α → ExceptT ε (StateM Bench) β}
    (hwork : Keeps R work) (hnext : ∀ a, Keeps R (next a)) : Keeps R (work >>= next) := by
  intro bench
  have hfirst := hwork bench
  rcases h : bench.perform work with ⟨_ | a, after⟩
  · rw [Bench.perform_bind_error h]
    rwa [h] at hfirst
  · rw [Bench.perform_bind_ok h]
    rw [h] at hfirst
    exact trans_of R hfirst (hnext a after)

end Preorder

/-- Work whose result is changed in the end keeps what it keeps. -/
theorem map {work : ExceptT ε (StateM Bench) α} (h : Keeps R work) (f : α → β) :
    Keeps R (f <$> work) := by
  intro bench
  rw [Bench.perform_map]
  exact h bench

/-- Reporting refusals as errors changes nothing about what work keeps. -/
theorem reportedAs {work : FileWork α} (h : Keeps R work) (report : FileFault → Error) :
    Keeps R (work.reportedAs report) := by
  intro bench
  rw [Bench.perform_reportedAs]
  exact h bench

/-- Having refusals in the result changes nothing about what work keeps. -/
theorem fileOutcome {work : FileWork α} (h : Keeps R work) : Keeps R work.outcome := h

/-- Having failures in the result changes nothing about what work keeps. -/
theorem outcome {work : Work α} (h : Keeps R work) : Keeps R work.outcome := h

/-- An elementary step keeps what its success keeps. -/
theorem take [IsPreorder Bench R] {step : FileStep}
    (h : ∀ bench files, step bench.files bench.here = .ok files → R bench (bench.stepTo files)) :
    Keeps R (FileWork.take step) := by
  intro bench
  rw [Bench.perform_take]
  cases hstep : step bench.files bench.here with
  | ok files => exact h bench files hstep
  | error fault => exact refl_of R bench

end Keeps

end BootTrial
