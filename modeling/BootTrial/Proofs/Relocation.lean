import BootTrial.Proofs.Fate
import BootTrial.Proofs.Replacing

/-!
# Directories that move

A step relocates a directory (`Node.Relocates`) if a directory has gone from one place by it and
another place has come to hold one. A step that takes no directory away, or only takes away, is
steady (`Node.Steady`): it relocates none. All steps of the work on a trial are steady, but for the
one that moves the directory of the test (`Trial.moveToResults_steps`).

`Bench.steps` lists the steps between two benches, from each tree to the next.
-/

namespace BootTrial

open Text (Bytes)

namespace Node

/-- From one tree to another a directory has gone from one place, and at a place apart from it there
is one that was not there, or was different. -/
def Relocates (before after : Node) : Prop :=
  ∃ origin goal, Place.Apart origin goal ∧ before.HasDir origin ∧ ¬ after.HasDir origin
    ∧ after.HasDir goal ∧ after.get? goal ≠ before.get? goal

/-- From one tree to another no directory has gone, or something has been erased. -/
def Steady (before after : Node) : Prop :=
  (∀ p, before.HasDir p → after.HasDir p) ∨ ∃ p, after = before.erase p

variable {root before after : Node} {p q : Place}

/-- A directory that is moved to a free name in another directory is relocated. -/
theorem relocates_move {source goal : Place} {name name' : String} {own : List (String × Node)}
    (h : Place.Apart source goal) (hown : root.get? (source ++ [name]) = some (.dir own))
    (hgoal : root.HasDir goal) (hfree : root.get? (goal ++ [name']) = none) :
    Relocates root ((root.erase (source ++ [name])).put (.dir own) (goal ++ [name'])) := by
  obtain ⟨entries, hentries⟩ := hasDir_of_get?_snoc hown
  obtain ⟨entries', hentries'⟩ := hgoal
  have hgone : ((root.erase (source ++ [name])).put (.dir own) (goal ++ [name'])).get?
      (source ++ [name]) = none := by
    rw [get?_snoc (get?_move_source h hentries _), Named.lookup_erase_self]
  have hthere : ((root.erase (source ++ [name])).put (.dir own) (goal ++ [name'])).get?
      (goal ++ [name']) = some (.dir own) := by
    rw [get?_snoc (get?_move_goal h hentries' _), Named.lookup_set_self]
  refine ⟨source ++ [name], goal ++ [name'], (h.symm.append_right [name]).symm.append_right [name'],
    ⟨own, hown⟩, ?_, ⟨own, hthere⟩, ?_⟩
  · rintro ⟨entries, hdir⟩
    rw [hgone] at hdir
    cases hdir
  · rw [hthere, hfree]
    simp

/-- What does not change is steady. -/
theorem Steady.refl (root : Node) : Steady root root :=
  .inl fun _ h => h

/-- No directory stands where one has been erased. -/
theorem not_hasDir_erase (hp : p ≠ []) : ¬ (root.erase p).HasDir p := by
  induction p generalizing root with
  | nil => exact absurd rfl hp
  | cons name rest ih =>
    rintro ⟨own, hown⟩
    obtain ⟨entries, child, hentries, hchild, hsub⟩ := exists_entry_of_get?_cons hown
    cases root with
    | file content runnable => cases hentries
    | dir before =>
      cases rest with
      | nil =>
        obtain rfl : Named.erase name before = entries := Node.dir.inj hentries
        rw [Named.lookup_erase_self] at hchild
        cases hchild
      | cons second deeper =>
        cases hlookup : before.lookup name with
        | none =>
          obtain rfl : before = entries := Node.dir.inj (by rw [← hentries]; simp [erase, hlookup])
          rw [hlookup] at hchild
          cases hchild
        | some sub =>
          rw [erase_cons hlookup (by simp)] at hentries
          obtain rfl := Node.dir.inj hentries
          rw [Named.lookup_set_self] at hchild
          cases hchild
          exact ih (by simp) ⟨own, hsub⟩

/-- Steady steps relocate nothing. -/
theorem Steady.not_relocates (h : Steady before after) : ¬ Relocates before after := by
  rintro ⟨origin, goal, hapart, horigin, hgone, hgoal, hchanged⟩
  rcases h with hgrows | ⟨p, rfl⟩
  · exact hgone (hgrows origin horigin)
  · have horigin' : p <+: origin := Decidable.byContradiction fun hout => hgone (horigin.erase hout)
    -- What an erasure changes without erasing it lies above what has gone.
    by_cases hin : p <+: goal
    · have hp : p ≠ [] := by
        rintro rfl
        cases before <;> exact hchanged rfl
      obtain ⟨below, rfl⟩ := hin
      exact not_hasDir_erase hp hgoal.above
    · by_cases habove : goal <+: p
      · exact hapart.2 (habove.trans horigin')
      · exact hchanged (get?_erase_of_apart ⟨hin, habove⟩ before)

end Node

section Steps

variable {root files : Node} {here : Place} {p : Path}

/-- Making a directory takes none away. -/
theorem FileStep.makeDir_steady (h : makeDir p root here = .ok files) : root.Steady files := by
  obtain ⟨⟨parent, last, endsInSlash⟩, -, h⟩ := exceptBind_inv h
  cases last with
  | root => cases h
  | dot => cases h
  | dotDot => cases h
  | name name =>
    obtain ⟨target, htarget, hfiles⟩ := exceptBind_inv h
    cases target with
    | taken place node => cases hfiles
    | free parent' name' =>
      obtain ⟨rfl, rfl, hnone⟩ := lookUp_free_inv htarget
      cases hfiles
      refine .inl fun q hq => hq.put (fun hbegins => ?_) _
      -- Nothing stands at or below the place of the new directory.
      obtain ⟨below, rfl⟩ := hbegins
      obtain ⟨entries, hentries⟩ := hq.above
      rw [hnone] at hentries
      cases hentries

/-- Removing a directory is erasing it. -/
theorem FileStep.removeDir_steady (h : removeDir p root here = .ok files) : root.Steady files := by
  obtain ⟨⟨parent, last, endsInSlash⟩, -, h⟩ := exceptBind_inv h
  cases last with
  | root => cases h
  | dot => cases h
  | dotDot => cases h
  | name name =>
    obtain ⟨target, -, h⟩ := exceptBind_inv h
    rcases target with ⟨place, ⟨content, runnable⟩ | ⟨entries⟩⟩ | ⟨parent', name'⟩
    · cases h
    · simp only at h
      split at h
      · cases h
        exact .inr ⟨place, rfl⟩
      · cases h
    · cases h

end Steps

namespace Bench

/-- The tree at the latest of some moments, the latest first, that come after a first tree. -/
def latest (first : Node) : List Moment → Node
  | [] => first
  | moment :: _ => moment.files

/-- The steps through some moments, the latest first: from each tree to the next. -/
def steps (first : Node) : List Moment → List (Node × Node)
  | [] => []
  | moment :: earlier => (latest first earlier, moment.files) :: steps first earlier

/-- The latest of some moments and of earlier ones. -/
theorem latest_append (first : Node) (later earlier : List Moment) :
    latest first (later ++ earlier) = latest (latest first earlier) later := by
  cases later <;> rfl

/-- The steps through some moments and through earlier ones. -/
theorem steps_append (first : Node) (later earlier : List Moment) :
    steps first (later ++ earlier)
      = steps (latest first earlier) later ++ steps first earlier := by
  induction later with
  | nil => rfl
  | cons moment rest ih => rw [List.cons_append, steps, steps, latest_append, ih, List.cons_append]

/-- Where the files are the same at every moment no step changes them. -/
theorem steps_same {first : Node} {moments : List Moment}
    (h : ∀ moment ∈ moments, moment.files = first) :
    latest first moments = first ∧ ∀ step ∈ steps first moments, step = (first, first) := by
  induction moments with
  | nil => exact ⟨rfl, by simp [steps]⟩
  | cons moment rest ih =>
    obtain ⟨hlatest, hsteps⟩ := ih fun other hother => h other (List.mem_cons_of_mem _ hother)
    have hmoment := h moment List.mem_cons_self
    refine ⟨hmoment, fun step hstep => ?_⟩
    rcases List.mem_cons.mp hstep with rfl | hstep
    · rw [hlatest, hmoment]
    · exact hsteps step hstep

/-- Between two benches all steps are steady. -/
def Steadily (before after : Bench) : Prop :=
  ∃ moments, after.history = moments ++ before.history
    ∧ after.files = latest before.files moments
    ∧ ∀ step ∈ steps before.files moments, step.1.Steady step.2

variable {before middle after : Bench} {files : Node}

instance : IsPreorder Bench Steadily where
  refl bench := ⟨[], rfl, rfl, by simp [steps]⟩
  trans before middle after h h' := by
    obtain ⟨earlier, hearlier, hmiddle, hsteps⟩ := h
    obtain ⟨later, hlater, hafter, hsteps'⟩ := h'
    refine ⟨later ++ earlier, ?_, ?_, fun step hstep => ?_⟩
    · rw [hlater, hearlier, List.append_assoc]
    · rw [latest_append, ← hmiddle, hafter]
    · rw [steps_append, ← hmiddle] at hstep
      rcases List.mem_append.mp hstep with hstep | hstep
      · exact hsteps' step hstep
      · exact hsteps step hstep

/-- A single step that is steady. -/
theorem Steadily.stepTo (h : before.files.Steady files) : before.Steadily (before.stepTo files) :=
  ⟨[⟨.changed, files⟩], rfl, rfl, by simpa [steps, latest] using h⟩

/-- Nothing moves while the files do not change. -/
theorem Steadily.of_quiet {kind : Event → Prop} (h : Quiet kind before after) :
    before.Steadily after := by
  obtain ⟨moments, hmoments, hmem⟩ := h.history
  obtain ⟨hlatest, hsteps⟩ := steps_same fun moment hin => (hmem moment hin).2
  refine ⟨moments, hmoments, by rw [hlatest, h.files], fun step hstep => ?_⟩
  rw [hsteps step hstep]
  exact .refl _

/-- Reading moves nothing. -/
theorem Steadily.of_unmoved (before after : Bench) (h : Unmoved before after) :
    before.Steadily after :=
  .of_quiet (.of_unmoved h : Quiet (fun _ => True) before after)

/-- Between two benches all steps are steady but one. -/
def MovesOnce (before after : Bench) : Prop :=
  ∃ middle files, before.Steadily middle ∧ (middle.stepTo files).Steadily after

/-- What is steady before and after a move. -/
theorem MovesOnce.append {first last : Bench} (h : before.MovesOnce after)
    (hfirst : first.Steadily before) (hlast : after.Steadily last) : first.MovesOnce last := by
  obtain ⟨middle, files, hbefore, hafter⟩ := h
  exact ⟨middle, files, trans_of Steadily hfirst hbefore, trans_of Steadily hafter hlast⟩

/-- Between two benches a directory is relocated at most once: no two of the steps relocate one. -/
def RelocatesAtMostOnce (before after : Bench) : Prop :=
  ∃ moments, after.history = moments ++ before.history
    ∧ after.files = latest before.files moments
    ∧ (steps before.files moments).Pairwise fun step other =>
      ¬ (step.1.Relocates step.2 ∧ other.1.Relocates other.2)

/-- Steady steps relocate nothing. -/
theorem Steadily.relocatesAtMostOnce (h : before.Steadily after) :
    before.RelocatesAtMostOnce after := by
  obtain ⟨moments, hmoments, hlatest, hsteps⟩ := h
  exact ⟨moments, hmoments, hlatest, List.pairwise_of_forall_mem_list fun step hstep _ _ hboth =>
    (hsteps step hstep).not_relocates hboth.1⟩

/-- Where all steps are steady but one, at most this one relocates a directory. -/
theorem MovesOnce.relocatesAtMostOnce (h : before.MovesOnce after) :
    before.RelocatesAtMostOnce after := by
  obtain ⟨middle, files, ⟨earlier, hearlier, hmiddle, hsteps⟩, later, hlater, hafter, hsteps'⟩ := h
  refine ⟨later ++ (⟨.changed, files⟩ :: earlier), ?_, ?_, ?_⟩
  · rw [hlater, stepTo, hearlier, List.append_assoc, List.cons_append]
  · rw [latest_append, hafter]
    rfl
  · rw [steps_append, steps]
    have hnever : ∀ {step : Node × Node}, step.1.Steady step.2 → ¬ step.1.Relocates step.2 :=
      fun hsteady => hsteady.not_relocates
    refine List.pairwise_append.mpr ⟨?_, List.pairwise_cons.mpr ⟨?_, ?_⟩, ?_⟩
    · exact List.pairwise_of_forall_mem_list fun step hstep _ _ hboth =>
        hnever (hsteps' step hstep) hboth.1
    · exact fun other hother hboth => hnever (hsteps other hother) hboth.2
    · exact List.pairwise_of_forall_mem_list fun step hstep _ _ hboth =>
        hnever (hsteps step hstep) hboth.1
    · exact fun step hstep _ _ hboth => hnever (hsteps' step hstep) hboth.1

end Bench

section Files

/-- Taking a directory down moves none. -/
theorem FileWork.removeTree_steadily (p : Path) : Keeps Bench.Steadily (removeTree p) := by
  have heach : ∀ (place : Place) (belows : List Place),
      Keeps Bench.Steadily (removeEach place belows) := by
    intro place belows
    induction belows with
    | nil => exact Keeps.pure _
    | cons below rest ih =>
      refine (Keeps.take fun bench files hstep => .stepTo ?_).bind fun _ => ih
      cases hstep
      exact .inr ⟨_, rfl⟩
  unfold removeTree
  refine (Keeps.look _).bind fun entries => (Keeps.look _).bind fun place => ?_
  exact (heach place _).bind fun _ => Keeps.take fun bench files hstep =>
    .stepTo (FileStep.removeDir_steady hstep)

/-- Making directories moves none. -/
theorem FileWork.makeDirs_steadily (p : Path) : Keeps Bench.Steadily (makeDirs p) :=
  makeDirs_keeps (fun _ => Keeps.take fun _ _ hstep => .stepTo (FileStep.makeDir_steady hstep)) p

/-- Putting a table in the place of a file moves no directory. -/
theorem Scenario.write_steadily (path : Path) (header : List String) (record : Scenario) :
    Keeps Bench.Steadily (record.write path header) := by
  intro bench
  have hdrafted : ∀ {name : String} {d : Place} (runnable : Bool),
      path.Drafts name bench.files bench.here d →
      bench.Steadily
        ((bench.stepTo (bench.files.put (.file [] runnable) (d ++ [draftName name]))).stepTo
          (bench.files.put (.file (record.tableBytes header) runnable)
            (d ++ [draftName name]))) := by
    intro name d runnable draft
    refine trans_of Bench.Steadily (.stepTo (.inl fun _ hdir => hdir.put_file draft.free _ _))
      (.stepTo (.inl fun _ hdir => ?_))
    rw [← Node.put_put_snoc draft.dir _ (.file [] runnable)]
    refine hdir.put_file ?_ _ _
    rintro ⟨entries, hentries⟩
    have hfile := (draft.get?_put [] runnable).symm.trans hentries
    cases hfile
  have hwriting := writing_perform path header record bench
  rcases hwrite : bench.perform (record.write path header) with ⟨result, last⟩
  rw [hwrite] at hwriting
  cases hwriting with
  | refused failure => exact refl_of Bench.Steadily _
  | drafted name d runnable failure draft => exact hdrafted runnable draft
  | replaced name d goal runnable moved draft names place node move =>
    exact trans_of Bench.Steadily (hdrafted runnable draft) (.stepTo (.inl move.dirs))

end Files

namespace Trial

/-- Moving a directory into the results root takes at most one step that is not steady, the last. -/
theorem moveToResults_steps (directory results : Path) (bench : Bench) :
    ∃ ready, bench.Steadily ready
      ∧ ((∃ failure, bench.perform (moveToResults directory results) = (.error failure, ready))
        ∨ ∃ goal files, bench.perform (moveToResults directory results)
          = (.ok goal, ready.stepTo files)) := by
  have hmake := FileWork.makeDirs_steadily results bench
  unfold moveToResults
  rcases hperform : bench.perform (FileWork.makeDirs results) with ⟨fault | _, ready⟩
  all_goals rw [hperform] at hmake
  · exact ⟨ready, hmake,
      .inl ⟨_, Bench.perform_bind_error (Bench.perform_reportedAs_error hperform _) _⟩⟩
  refine ⟨ready, hmake, ?_⟩
  rw [Bench.perform_bind_ok (Bench.perform_reportedAs_ok hperform _), Bench.perform_bind,
    Bench.perform_ofExcept]
  cases directoryName directory with
  | error failure => exact .inl ⟨failure, rfl⟩
  | ok name =>
    simp only
    rw [Bench.perform_bind_ok (Bench.perform_get ready)]
    split
    · exact .inl ⟨_, rfl⟩
    · rw [Bench.perform_bind, Bench.perform_reportedAs, FileWork.rename, Bench.perform_take]
      cases FileStep.rename directory (results.join name) ready.files ready.here with
      | error fault => exact .inl ⟨_, rfl⟩
      | ok files => exact .inr ⟨_, files, rfl⟩

variable {trial : Trial} {bench : Bench}

/-- To close a trial moves at most one directory, and then the trial is closed. -/
theorem act_close_steps (trial : Trial) (bench : Bench) :
    (∃ closed trial' after, bench.act trial close = (closed, trial', after)
        ∧ bench.Steadily after)
      ∨ ∃ goal ready files, bench.act trial close
            = (.ok (some goal), { trial with isClosed := true }, ready.stepTo files)
          ∧ bench.Steadily ready := by
  cases hclosed : trial.isClosed with
  | true =>
    exact .inl ⟨_, trial, bench, act_close_closed hclosed bench, refl_of Bench.Steadily bench⟩
  | false =>
    cases hdir : bench.hasDir trial.directory with
    | false =>
      refine .inl ⟨.ok none, { trial with isClosed := true }, bench, ?_, refl_of Bench.Steadily bench⟩
      unfold close
      rw [Bench.act_bind_ok (Bench.act_getTrial bench trial), if_neg (by simp [hclosed]),
        Bench.act_bind_ok (Bench.act_getBench bench trial), if_pos (by simp [hdir])]
      rfl
    | true =>
      rw [act_close_open hclosed hdir]
      obtain ⟨ready, hready, ⟨failure, hmove⟩ | ⟨goal, files, hmove⟩⟩ :=
        moveToResults_steps trial.directory trial.results bench
      · exact .inl ⟨_, _, ready, by rw [hmove], hready⟩
      · exact .inr ⟨goal, ready, files, by rw [hmove], hready⟩

end Trial

end BootTrial
