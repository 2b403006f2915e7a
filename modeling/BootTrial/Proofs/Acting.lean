import BootTrial.Proofs.Run

/-!
# What work on a trial leaves behind

Work on a trial keeps a relation on benches (`KeepsActing`) as work on the bench does: work composed
of pieces that keep a preorder keeps it as well.
-/

namespace BootTrial

/-- Work on a trial that goes on where other work has to succeed has succeeded only if that work
has. -/
theorem Bench.act_bind_inv {α β : Type} {bench after : Bench} {trial trial' : Trial}
    {work : TrialWork α} {next : α → TrialWork β} {b : β}
    (h : bench.act trial (work >>= next) = (.ok b, trial', after)) :
    ∃ a trial'' middle, bench.act trial work = (.ok a, trial'', middle)
      ∧ middle.act trial'' (next a) = (.ok b, trial', after) := by
  rcases hwork : bench.act trial work with ⟨failure | a, trial'', middle⟩
  · rw [act_bind_error hwork] at h
    cases h
  · rw [act_bind_ok hwork] at h
    exact ⟨a, trial'', middle, rfl, h⟩

/-- Work that leaves the trial alone is done on the bench. -/
theorem Bench.act_lift_inv {α : Type} {bench after : Bench} {trial trial' : Trial} {work : Work α}
    {result : Except Error α} (h : bench.act trial (liftM work) = (result, trial', after)) :
    trial' = trial ∧ bench.perform work = (result, after) := by
  rw [act_lift] at h
  obtain ⟨rfl, rfl, rfl⟩ : (bench.perform work).1 = result ∧ trial = trial'
      ∧ (bench.perform work).2 = after := by simpa using h
  exact ⟨rfl, rfl⟩

/-- Work on a trial keeps a relation if it always stands between the benches before and after. -/
def KeepsActing {α : Type} (R : Bench → Bench → Prop) (work : TrialWork α) : Prop :=
  ∀ bench trial, R bench (bench.act trial work).2.2

namespace KeepsActing

variable {α β : Type} {R : Bench → Bench → Prop}

/-- Work that leaves the trial alone keeps what it keeps on the bench. -/
theorem lift {work : Work α} (h : Keeps R work) : KeepsActing R (liftM work) :=
  fun bench _ => h bench

section Preorder

variable [IsPreorder Bench R]

/-- Work that only gives a value keeps everything. -/
theorem pure (a : α) : KeepsActing R (Pure.pure a : TrialWork α) :=
  fun bench _ => refl_of R bench

/-- Looking at the trial keeps everything. -/
theorem getTrial : KeepsActing R (getThe Trial : TrialWork Trial) :=
  fun bench _ => refl_of R bench

/-- Looking at the bench keeps everything. -/
theorem getBench : KeepsActing R (getThe Bench : TrialWork Bench) :=
  fun bench _ => refl_of R bench

/-- Changing the trial keeps everything. -/
theorem modifyTrial (change : Trial → Trial) :
    KeepsActing R (modifyThe Trial change : TrialWork Unit) :=
  fun bench _ => refl_of R bench

/-- Work that goes on where other work has succeeded keeps what both keep. -/
theorem bind {work : TrialWork α} {next : α → TrialWork β} (hwork : KeepsActing R work)
    (hnext : ∀ a, KeepsActing R (next a)) : KeepsActing R (work >>= next) := by
  intro bench trial
  have hfirst := hwork bench trial
  rw [Bench.act_bind]
  rcases hact : bench.act trial work with ⟨failure | a, trial', after⟩
  all_goals rw [hact] at hfirst
  · exact hfirst
  · exact trans_of R hfirst (hnext a after trial')

/-- Deleting the directory of a test keeps what taking it down keeps. -/
theorem runDiscard (hremove : ∀ p, Keeps R (FileWork.removeTree p)) :
    KeepsActing R Action.runDiscard :=
  getTrial.bind fun _ => (lift (Keeps.ofExcept _)).bind fun _ =>
    (lift ((hremove _).reportedAs _)).bind fun _ => modifyTrial _

/-- Writing a result keeps what looking up the header and writing the record keep. -/
theorem runWriteResult (hheader : ∀ p, Keeps R (ScenarioTable.headerAt p))
    (hwrite : ∀ p header (record : Scenario), Keeps R (record.write p header))
    (column result : String) : KeepsActing R (Action.runWriteResult column result) :=
  getTrial.bind fun _ => (lift (Keeps.ofExcept _)).bind fun _ => (modifyTrial _).bind fun _ =>
    (lift (hheader _)).bind fun _ => lift (hwrite _ _ _)

/-- Closing a trial keeps what moving its directory keeps. -/
theorem close (hmove : ∀ p q, Keeps R (Trial.moveToResults p q)) : KeepsActing R Trial.close := by
  unfold Trial.close
  refine getTrial.bind fun trial => ?_
  split
  · exact pure _
  · refine getBench.bind fun bench => ?_
    split
    · exact (modifyTrial _).bind fun _ => pure _
    · exact (lift (hmove _ _)).bind fun _ => (modifyTrial _).bind fun _ => pure _

end Preorder

end KeepsActing

end BootTrial
