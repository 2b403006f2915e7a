import BootTrial.Proofs.Draining

/-!
# Beginning the next test

A cycle that finds the running root without entries resumes nothing. It begins the first test that
waits, or has nothing to do (`performCycle_vacant`).
-/

namespace BootTrial

namespace Workspace

variable {workspace : Workspace} {w : Place} {bench after : Bench}
  {entries : List (String × Node)}

/-- What is claimed is the first test that waits. -/
theorem claim_takes_first {boot : BootId} {directory : Path}
    (hw : workspace.root.Leads bench.files bench.here w)
    (hpending : bench.files.get? (Root.pending.place w) = some (.dir entries))
    (h : bench.perform (workspace.claim boot) = (.ok directory, after)) :
    ∃ first rest, testNames entries = first :: rest
      ∧ (IsPlain first → directory = workspace.running.join (runningName first boot)) := by
  obtain ⟨directories, read, htests, h⟩ := Bench.perform_bind_inv h
  rcases testsIn_ok (r := .pending) hw htests with ⟨-, hnone⟩ | ⟨entries', hentries, rfl⟩
  · rw [hpending] at hnone
    cases hnone
  obtain rfl : entries = entries' := by
    rw [hpending] at hentries
    simpa using hentries
  cases hnames : testNames entries with
  | nil =>
    rw [hnames] at h
    cases h
  | cons first rest =>
    rw [hnames] at h
    refine ⟨first, rest, rfl, fun hfirst => ?_⟩
    obtain ⟨name, bench₁, hname, h⟩ := Bench.perform_bind_inv h
    obtain ⟨_, bench₂, -, h⟩ := Bench.perform_bind_inv h
    obtain ⟨_, bench₃, -, h⟩ := Bench.perform_bind_inv h
    obtain ⟨_, bench₄, -, h⟩ := Bench.perform_bind_inv h
    have hjoin : directoryName (workspace.pending.join first) = .ok first :=
      directoryName_join _ hfirst
    obtain rfl : first = name := by
      rw [show workspace.path .pending = workspace.pending from rfl, hjoin] at hname
      cases hname
      rfl
    cases h
    rfl

end Workspace

/-- A cycle on a bench resumes no test: it begins the first test that waits, or has nothing to do. -/
structure Bench.BeginsNext (settings : Settings) (machine : Machine) (operator : Operator)
    (w : Place) (bench : Bench) : Prop where
  /-- If it succeeds it has begun a test, or had nothing to do. -/
  outcome : ∀ result, (bench.perform (performCycle settings machine operator)).1 = .ok result →
    result = .idle ∨ ∃ run, result = .started run
  /-- Where no test waits it has nothing to do. -/
  idle : bench.files.get? (Root.pending.place w) = none
      ∨ bench.files.get? (Root.pending.place w) = some .emptyDir →
    bench.perform (performCycle settings machine operator) = (.ok .idle, bench)
  /-- Where tests wait, the menu can be compiled and the machine names its boot, it claims the first
  of them and runs it. -/
  begins : ∀ entries first rest menu boot read ready,
    bench.files.get? (Root.pending.place w) = some (.dir entries) →
    testNames entries = first :: rest → IsPlain first →
    bench.perform (settings.menu (.ofBoot true)) = (.ok menu, read) →
    read.perform (machine.ask .currentBoot) = (.ok boot, ready) →
    bench.perform (performCycle settings machine operator) = ready.perform (do
        let directory ← settings.workspace.claim boot
        return .started (← Trial.runAt settings machine operator directory))
      ∧ (∀ directory claimed,
        ready.perform (settings.workspace.claim boot) = (.ok directory, claimed) →
        directory = settings.workspace.running.join (runningName first boot))
      ∧ ((∀ entry ∈ entries, Node.IsUnbound entry.1 entry.2) →
        settings.workspace.Fits first boot →
        ∃ claimed, ready.perform (settings.workspace.claim boot)
          = (.ok (settings.workspace.running.join (runningName first boot)), claimed))

/-- A cycle on a bench where the running root has no entries. -/
theorem performCycle_vacant {settings : Settings} {machine : Machine} {operator : Operator}
    {w : Place} {bench : Bench} (hmachine : machine.WritesOnlyLogs)
    (hw : settings.workspace.root.Leads bench.files bench.here w)
    (haccepted : settings.workspace.running.refusal? = none)
    (hrunning : bench.files.get? (Root.running.place w) = some .emptyDir) :
    bench.BeginsNext settings machine operator w := by
  have hdir : bench.files.HasDir (Root.running.place w) := ⟨[], hrunning⟩
  have hpending : settings.workspace.pending.refusal? = none :=
    Path.refusal?_join_le pendingName_isPlain runningName_isPlain (by decide) (by decide) haccepted
  -- Nothing is found in the running root, so the cycle turns to the tests that wait.
  have hvacant : bench.perform (isOccupied settings.workspace.running) = (.ok false, bench) := by
    rw [perform_isOccupied, Workspace.running, Workspace.entriesAt_runtime hw runningName_isPlain
      (Path.joinFault?_eq_none.mpr ⟨haccepted, by decide⟩) hrunning]
    rfl
  have hcycle : bench.perform (performCycle settings machine operator) = bench.perform (do
      if ← isOccupied settings.workspace.pending then
        let _ ← settings.menu (.ofBoot true)
        let boot ← machine.ask .currentBoot
        let directory ← settings.workspace.claim boot
        return .started (← Trial.runAt settings machine operator directory)
      else return .idle) := Bench.perform_bind_ok hvacant _
  refine ⟨fun result hresult => ?_, fun hnone => ?_,
    fun entries first rest menu boot read ready hentries hfirst hplain hmenu hboot => ?_⟩
  · rw [hcycle] at hresult
    obtain ⟨occupied, bench₁, hoccupied, h⟩ :=
      Bench.perform_bind_inv (b := result) (Prod.ext hresult rfl)
    cases occupied with
    | false =>
      cases h
      exact .inl rfl
    | true =>
      rw [if_pos rfl] at h
      obtain ⟨_, bench₂, -, h⟩ := Bench.perform_bind_inv h
      obtain ⟨_, bench₃, -, h⟩ := Bench.perform_bind_inv h
      obtain ⟨_, bench₄, -, h⟩ := Bench.perform_bind_inv h
      obtain ⟨run, bench₅, -, h⟩ := Bench.perform_bind_inv h
      cases h
      exact .inr ⟨run, rfl⟩
  · have hidle : bench.perform (isOccupied settings.workspace.pending) = (.ok false, bench) := by
      rw [perform_isOccupied]
      rcases hnone with hnone | hempty
      · rw [Workspace.entriesAt_pending_missing hw hpending hdir.above.noFile hnone]
      · rw [Workspace.entriesAt_pending hw hpending hempty]
        rfl
    rw [hcycle, Bench.perform_bind_ok hidle]
    rfl
  · have hoccupied : bench.perform (isOccupied settings.workspace.pending) = (.ok true, bench) := by
      rw [perform_isOccupied, Workspace.entriesAt_pending hw hpending hentries]
      cases entries with
      | nil => simp [testNames_nil] at hfirst
      | cons entry others => rfl
    -- The menu and the boot leave the files alone.
    have hread := settings.menu_unmoved (.ofBoot true) bench
    have hquiet : Bench.Quiet (fun _ => True) read (read.perform (machine.ask .currentBoot)).2 :=
      hmachine.ask_quiet rfl trivial trivial read
    rw [hmenu] at hread
    rw [hboot] at hquiet
    have hfiles : ready.files = bench.files := hquiet.files.trans hread.files
    have hw' : settings.workspace.root.Leads ready.files ready.here w := by
      rw [hfiles, hquiet.here, hread.here]
      exact hw
    refine ⟨?_, fun directory claimed hclaim => ?_, fun hunbound hfits => ?_⟩
    · rw [hcycle, Bench.perform_bind_ok hoccupied, if_pos rfl, Bench.perform_bind_ok hmenu,
        Bench.perform_bind_ok hboot]
    · obtain ⟨first', rest', hfirst', hdirectory⟩ :=
        Workspace.claim_takes_first hw' (hfiles ▸ hentries) hclaim
      obtain ⟨rfl, -⟩ := List.cons.inj (hfirst'.symm.trans hfirst)
      exact hdirectory hplain
    · have hnames : ready.files.namesAt (Root.running.place w) = [] := by
        rw [hfiles, Node.namesAt_dir hrunning]
        rfl
      obtain ⟨claimed, hclaim, -⟩ := Workspace.claim_first hw' (hfiles ▸ hentries) hunbound hfirst
        (by rw [hfiles]; exact hdir.noFile) (by simp [hnames]) hfits.short
        (hfits.directory hplain)
      exact ⟨claimed, hclaim.trans (by rw [hfits.taken])⟩

end BootTrial
