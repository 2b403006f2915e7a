import BootTrial.Proofs.Layout

/-!
# Work that is made of steps

A preorder on benches that every elementary step keeps is kept by all work on the files of a test,
whatever it does (`hstep`). Writing a scenario also changes which headers are remembered
(`hheaders`).
-/

namespace BootTrial

section Stepwise

variable {R : Bench → Bench → Prop} [IsPreorder Bench R]
variable (hstep : ∀ (bench : Bench) (files : Node), R bench (bench.stepTo files))
include hstep

/-- Taking a step keeps what every step keeps. -/
theorem FileWork.take_keeps (step : FileStep) : Keeps R (take step) :=
  Keeps.take fun bench files _ => hstep bench files

/-- Taking a directory down keeps what every step keeps. -/
theorem FileWork.removeTree_keeps (p : Path) : Keeps R (removeTree p) := by
  have heach : ∀ (place : Place) (belows : List Place), Keeps R (removeEach place belows) := by
    intro place belows
    induction belows with
    | nil => exact Keeps.pure _
    | cons below rest ih => exact (take_keeps hstep _).bind fun _ => ih
  exact (Keeps.look _).bind fun entries => (Keeps.look _).bind fun place =>
    (heach place _).bind fun _ => take_keeps hstep _

/-- Writing a boot id keeps what every step keeps. -/
theorem bindTo_keeps (directory : Path) (boot : BootId) : Keeps R (bindTo directory boot) :=
  ((FileWork.take_keeps hstep _).bind fun _ => FileWork.take_keeps hstep _).reportedAs _

/-- Finding the boot that a test is bound to keeps what every step keeps. -/
theorem boundBoot_keeps (directory : Path) : Keeps R (boundBoot directory) := by
  unfold boundBoot
  refine (storedBoot_keeps directory).bind fun stored => ?_
  split
  · exact Keeps.pure _
  · refine (Keeps.ofExcept _).bind fun name => ?_
    split
    · exact Keeps.throw _
    · exact (bindTo_keeps hstep _ _).bind fun _ => Keeps.pure _

/-- Claiming a test keeps what every step keeps. -/
theorem Workspace.claim_keeps (workspace : Workspace) (boot : BootId) :
    Keeps R (workspace.claim boot) := by
  unfold claim
  refine (testsIn_keeps _).bind fun tests => ?_
  split
  · exact Keeps.throw _
  · refine (Keeps.ofExcept _).bind fun name => ?_
    refine ((FileWork.makeDirs_keeps (fun _ => FileWork.take_keeps hstep _) _).reportedAs _).bind
      fun _ => ?_
    refine ((FileWork.take_keeps hstep _).reportedAs _).bind fun _ => ?_
    exact (bindTo_keeps hstep _ _).bind fun _ => Keeps.pure _

/-- Moving a directory into the results root keeps what every step keeps. -/
theorem Trial.moveToResults_keeps (directory results : Path) :
    Keeps R (moveToResults directory results) := by
  unfold moveToResults
  refine ((FileWork.makeDirs_keeps (fun _ => FileWork.take_keeps hstep _) _).reportedAs _).bind
    fun _ => (Keeps.ofExcept _).bind fun name => Keeps.get.bind fun bench => ?_
  split
  · exact Keeps.throw _
  · exact ((FileWork.take_keeps hstep _).reportedAs _).bind fun _ => Keeps.pure _

/-- Putting a record in the place of a file keeps what every step and every change of what is
remembered keep. -/
theorem Scenario.write_keeps
    (hheaders : ∀ (bench : Bench) (headers : HeaderCache), R bench { bench with headers })
    (path : Path) (header : List String) (record : Scenario) :
    Keeps R (record.write path header) := by
  unfold write
  refine (Keeps.ofExcept _).bind fun _ => Keeps.get.bind fun known =>
    (Keeps.ofExcept _).bind fun _ => ?_
  split
  · exact Keeps.throw _
  · refine ((FileWork.take_keeps hstep _).reportedAs _).bind fun _ => ?_
    refine ((FileWork.take_keeps hstep _).reportedAs _).bind fun _ => ?_
    refine ((FileWork.take_keeps hstep _).reportedAs _).bind fun _ => ?_
    exact ((Keeps.look _).reportedAs _).bind fun place bench => hheaders bench _

end Stepwise

end BootTrial
