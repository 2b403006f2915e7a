import BootTrial.Proofs.Dispatch
import BootTrial.Proofs.Lacking

/-!
# Looking for tests

Whether there are tests in a root is asked in two ways: whether anything lies there (`isOccupied`),
and which directories lie there (`testsIn`). The answers agree unless there are entries of which none
is a directory, which are called strays here (`RootContent.strays`). A cycle asks in the first way
and goes on in the second. Where strays alone lie in the running root it has resumed no test and
looks no further, and where they alone lie in the pending root it fails to claim a test; both are the
only ways in which this comes about (`performCycle_probes`).
-/

namespace BootTrial

/-! ## The content of a root -/

/-- What there is in a root. -/
inductive RootContent where
  /-- It cannot be read. -/
  | unreadable (fault : FileFault)
  /-- There are no entries, or there is no root. -/
  | vacant
  /-- There are entries, and none of them is a directory. -/
  | strays
  /-- There is a directory. -/
  | tests
  deriving DecidableEq, Repr

/-- What there is in a root of a bench. -/
def Bench.contentOf (bench : Bench) (root : Path) : RootContent :=
  match bench.entriesAt root with
  | .error .notFound => .vacant
  | .error fault => .unreadable fault
  | .ok [] => .vacant
  | .ok entries => if entries.any (·.2.isDir) then .tests else .strays

/-- Among some entries there is a test exactly if one of them is a directory. -/
theorem testNames_ne_nil_iff {entries : List (String × Node)} :
    testNames entries ≠ [] ↔ entries.any (·.2.isDir) = true := by
  rw [testNames, ne_eq, ← List.length_eq_zero_iff, List.length_mergeSort, List.length_map,
    List.length_eq_zero_iff, List.filter_eq_nil_iff, List.any_eq_true]
  simp

/-- The two questions about a root, by what there is in it. -/
inductive Bench.Probed : RootContent → Except Error Bool → Except Error (List Path) → Prop
  /-- Both fail. -/
  | unreadable (fault : FileFault) :
      Probed (.unreadable fault) (.error (.ofFault fault)) (.error (.ofFault fault))
  /-- There is nothing. -/
  | vacant : Probed .vacant (.ok false) (.ok [])
  /-- There is something, but no test. -/
  | strays : Probed .strays (.ok true) (.ok [])
  /-- There is a test. -/
  | tests (first : Path) (rest : List Path) : Probed .tests (.ok true) (.ok (first :: rest))

/-- The two questions are answered by what there is in a root, and the bench is left alone. -/
theorem Bench.exists_probed (bench : Bench) (root : Path) : ∃ occupied tests,
    bench.perform (isOccupied root) = (occupied, bench)
      ∧ bench.perform (testsIn root) = (tests, bench)
      ∧ Probed (bench.contentOf root) occupied tests := by
  rw [perform_isOccupied, perform_testsIn, contentOf]
  rcases bench.entriesAt root with fault | entries
  · by_cases hfault : fault = .notFound
    · subst hfault
      exact ⟨_, _, rfl, rfl, .vacant⟩
    · cases fault <;> first | exact ⟨_, _, rfl, rfl, .unreadable _⟩ | exact absurd rfl hfault
  cases entries with
  | nil => exact ⟨_, _, rfl, by simp only [testNames_nil, List.map_nil], .vacant⟩
  | cons entry others =>
    refine ⟨_, _, rfl, rfl, ?_⟩
    simp only [List.isEmpty_cons, Bool.not_false]
    split
    · next hdir =>
      obtain ⟨name, names, hnames⟩ := List.exists_cons_of_ne_nil (testNames_ne_nil_iff.mpr hdir)
      rw [hnames]
      exact .tests _ _
    · next hdir =>
      rw [not_not.mp (mt testNames_ne_nil_iff.mp hdir)]
      exact .strays

/-- The content of a root is the same on benches with the same files. -/
theorem Bench.contentOf_congr {before after : Bench} (hfiles : after.files = before.files)
    (hhere : after.here = before.here) (root : Path) :
    after.contentOf root = before.contentOf root := by
  rw [contentOf, contentOf, entriesAt, entriesAt, nodeAt, nodeAt, hfiles, hhere]

/-! ## A cycle -/

section Cycle

variable {bench : Bench} {settings : Settings} {machine : Machine} {operator : Operator}

/-- The part of a cycle that begins a test. -/
def beginNext (settings : Settings) (machine : Machine) (operator : Operator) :
    Work CycleResult := do
  let _ ← settings.menu (.ofBoot true)
  let boot ← machine.ask .currentBoot
  let directory ← settings.workspace.claim boot
  return .started (← Trial.runAt settings machine operator directory)

/-- The way that a cycle takes, by what there is in the running and the pending root. -/
inductive Bench.Takes (bench : Bench) (settings : Settings) (machine : Machine)
    (operator : Operator) : RootContent → RootContent → Except Error CycleResult × Bench → Prop
  /-- The running root cannot be read. -/
  | refused (fault : FileFault) (pending : RootContent) :
      Takes bench settings machine operator (.unreadable fault) pending
        (.error (.ofFault fault), bench)
  /-- There are strays in the running root. -/
  | stalled (pending : RootContent) :
      Takes bench settings machine operator .strays pending (.ok (.resumed []), bench)
  /-- There are tests in the running root. -/
  | resumes (pending : RootContent) (first : Path) (rest : List Path) :
      Takes bench settings machine operator .tests pending (bench.perform (do
        return .resumed (← Trial.runEach settings machine operator (first :: rest))))
  /-- There is nothing in the running root, and the pending root cannot be read. -/
  | refusedNext (fault : FileFault) :
      Takes bench settings machine operator .vacant (.unreadable fault)
        (.error (.ofFault fault), bench)
  /-- There is nothing in either root. -/
  | idles : Takes bench settings machine operator .vacant .vacant (.ok .idle, bench)
  /-- There is nothing in the running root, and something in the pending root. -/
  | begins {pending : RootContent} (hpending : pending = .strays ∨ pending = .tests)
      (hclaims : bench.perform (cycleToClaim settings machine) = bench.perform (do
        let _ ← settings.menu (.ofBoot true)
        return some (← machine.ask .currentBoot))) :
      Takes bench settings machine operator .vacant pending
        (bench.perform (beginNext settings machine operator))

/-- A cycle takes the way that the content of the roots shows it. -/
theorem performCycle_takes (bench : Bench) (settings : Settings) (machine : Machine)
    (operator : Operator) :
    bench.Takes settings machine operator (bench.contentOf settings.workspace.running)
      (bench.contentOf settings.workspace.pending)
      (bench.perform (performCycle settings machine operator)) := by
  obtain ⟨occupied, tests, hoccupied, htests, hrunning⟩ :=
    bench.exists_probed settings.workspace.running
  obtain ⟨occupied', tests', hoccupied', -, hpending⟩ :=
    bench.exists_probed settings.workspace.pending
  generalize bench.contentOf settings.workspace.running = running at hrunning ⊢
  generalize bench.contentOf settings.workspace.pending = pending at hpending ⊢
  cases hrunning with
  | unreadable fault =>
    have hcycle : bench.perform (performCycle settings machine operator)
        = (.error (.ofFault fault), bench) := Bench.perform_bind_error hoccupied _
    rw [hcycle]
    exact .refused fault pending
  | strays =>
    have hcycle : bench.perform (performCycle settings machine operator)
        = (.ok (.resumed []), bench) :=
      (Bench.perform_bind_ok hoccupied _).trans (Bench.perform_bind_ok htests _)
    rw [hcycle]
    exact .stalled pending
  | tests first rest =>
    have hcycle : bench.perform (performCycle settings machine operator) = bench.perform (do
        return .resumed (← Trial.runEach settings machine operator (first :: rest))) :=
      (Bench.perform_bind_ok hoccupied _).trans (Bench.perform_bind_ok htests _)
    rw [hcycle]
    exact .resumes pending first rest
  | vacant =>
    cases hpending with
    | unreadable fault =>
      have hcycle : bench.perform (performCycle settings machine operator)
          = (.error (.ofFault fault), bench) :=
        (Bench.perform_bind_ok hoccupied _).trans (Bench.perform_bind_error hoccupied' _)
      rw [hcycle]
      exact .refusedNext fault
    | vacant =>
      have hcycle : bench.perform (performCycle settings machine operator) = (.ok .idle, bench) :=
        (Bench.perform_bind_ok hoccupied _).trans (Bench.perform_bind_ok hoccupied' _)
      rw [hcycle]
      exact .idles
    | strays | tests =>
      have hcycle : bench.perform (performCycle settings machine operator)
          = bench.perform (beginNext settings machine operator) :=
        (Bench.perform_bind_ok hoccupied _).trans (Bench.perform_bind_ok hoccupied' _)
      rw [hcycle]
      exact .begins (by simp)
        ((Bench.perform_bind_ok hoccupied _).trans (Bench.perform_bind_ok hoccupied' _))

/-- A test that is begun is reported as begun. -/
theorem beginNext_started {after : Bench} {result : CycleResult}
    (h : bench.perform (beginNext settings machine operator) = (.ok result, after)) :
    ∃ run, result = .started run := by
  obtain ⟨menu, bench₁, -, h⟩ := Bench.perform_bind_inv h
  obtain ⟨boot, bench₂, -, h⟩ := Bench.perform_bind_inv h
  obtain ⟨directory, bench₃, -, h⟩ := Bench.perform_bind_inv h
  obtain ⟨run, bench₄, -, h⟩ := Bench.perform_bind_inv h
  exact ⟨run, (Except.ok.inj (congrArg Prod.fst h)).symm⟩

/-- The menu and the boot leave what there is in a root alone. -/
theorem contentOf_ready (hmachine : machine.WritesOnlyLogs) {menu : Menu} {boot : BootId}
    {read ready : Bench} (hmenu : bench.perform (settings.menu (.ofBoot true)) = (.ok menu, read))
    (hask : read.perform (machine.ask .currentBoot) = (.ok boot, ready)) (root : Path) :
    ready.contentOf root = bench.contentOf root := by
  have hread := settings.menu_unmoved (.ofBoot true) bench
  have hquiet : Bench.Quiet (fun _ => True) read (read.perform (machine.ask .currentBoot)).2 :=
    hmachine.ask_quiet rfl trivial trivial read
  rw [hmenu] at hread
  rw [hask] at hquiet
  exact Bench.contentOf_congr (hquiet.files.trans hread.files) (hquiet.here.trans hread.here) root

/-- Claiming a test and running it fails for lack of one exactly if there are strays in the pending
root, where there is something. -/
theorem lacks_claimAndRun (hsilent : machine.IsSilent) (hoperator : operator.IsSilent)
    (boot : BootId) (hpending : bench.contentOf settings.workspace.pending = .strays
      ∨ bench.contentOf settings.workspace.pending = .tests) :
    bench.Lacks (do
        let directory ← settings.workspace.claim boot
        return CycleResult.started (← Trial.runAt settings machine operator directory))
      ↔ bench.contentOf settings.workspace.pending = .strays := by
  have hruns : ∀ directory, NeverLacks (do
      return CycleResult.started (← Trial.runAt settings machine operator directory)) :=
    fun directory => (Trial.runAt_neverLacks hsilent hoperator settings directory).bind
      fun run => .pure _
  obtain ⟨occupied, tests, -, htests, hprobed⟩ := bench.exists_probed settings.workspace.pending
  rw [Bench.lacks_bind_left hruns, Workspace.lacks_claim, htests]
  rcases hpending with hcontent | hcontent
  all_goals
    rw [hcontent] at hprobed ⊢
    cases hprobed
  · exact iff_of_true rfl rfl
  · exact iff_of_false (by simp) (by simp)

/-- That a test cannot be begun for lack of one comes about exactly if the machine has named its boot
and there are strays in the pending root. -/
theorem lacks_beginNext (hmachine : machine.WritesOnlyLogs) (hsilent : machine.IsSilent)
    (hoperator : operator.IsSilent)
    (hpending : bench.contentOf settings.workspace.pending = .strays
      ∨ bench.contentOf settings.workspace.pending = .tests) :
    bench.Lacks (beginNext settings machine operator)
      ↔ bench.contentOf settings.workspace.pending = .strays
        ∧ ∃ boot, (bench.perform (do
          let _ ← settings.menu (.ofBoot true)
          return some (← machine.ask .currentBoot))).1 = .ok (some boot) := by
  unfold beginNext
  rw [Bench.lacks_bind (settings.menu_neverLacks _)]
  constructor
  · rintro ⟨menu, read, hmenu, hlacks⟩
    obtain ⟨boot, ready, hask, hlacks⟩ := (Bench.lacks_bind (hsilent.ask _) _ _).mp hlacks
    have hsame := contentOf_ready hmachine hmenu hask settings.workspace.pending
    rw [← hsame] at hpending ⊢
    refine ⟨(lacks_claimAndRun hsilent hoperator boot hpending).mp hlacks, boot, ?_⟩
    rw [Bench.perform_bind_ok hmenu, Bench.perform_bind_ok hask]
    rfl
  · rintro ⟨hstrays, boot, hboot⟩
    obtain ⟨menu, read, hmenu, hboot⟩ := Bench.perform_bind_inv (Bench.perform_eq hboot)
    obtain ⟨named, ready, hask, -⟩ := Bench.perform_bind_inv hboot
    have hsame := contentOf_ready hmachine hmenu hask settings.workspace.pending
    rw [← hsame] at hpending hstrays
    refine ⟨menu, read, hmenu, (Bench.lacks_bind (hsilent.ask _) _ _).mpr ⟨named, ready, hask, ?_⟩⟩
    exact (lacks_claimAndRun hsilent hoperator named hpending).mpr hstrays

namespace Bench.Takes

variable {running pending : RootContent} {outcome : Except Error CycleResult × Bench}

/-- No test is resumed by the way that strays in the running root show. -/
theorem stalls_iff (h : bench.Takes settings machine operator running pending outcome) :
    (∃ after, outcome = (.ok (.resumed []), after)) ↔ running = .strays := by
  cases h with
  | refused fault => exact iff_of_false (by simp) (by simp)
  | stalled => exact iff_of_true ⟨bench, rfl⟩ rfl
  | resumes _ first rest =>
    refine iff_of_false ?_ (by simp)
    rintro ⟨after, hcycle⟩
    obtain ⟨runs, last, heach, hcycle⟩ := Bench.perform_bind_inv hcycle
    obtain rfl : runs = [] := CycleResult.resumed.inj (Except.ok.inj (congrArg Prod.fst hcycle))
    -- There is a run for each directory.
    cases Trial.runEach_directories heach
  | refusedNext fault => exact iff_of_false (by simp) (by simp)
  | idles => exact iff_of_false (by simp) (by simp)
  | begins =>
    refine iff_of_false ?_ (by simp)
    rintro ⟨after, hcycle⟩
    obtain ⟨run, hrun⟩ := beginNext_started hcycle
    cases hrun

/-- Strays in the running root change nothing. -/
theorem sticks (h : bench.Takes settings machine operator running pending outcome)
    (hrunning : running = .strays) : outcome = (.ok (.resumed []), bench) := by
  subst hrunning
  cases h
  rfl

/-- There is nothing to do by the way that two vacant roots show. -/
theorem idles_iff (h : bench.Takes settings machine operator running pending outcome) :
    (∃ after, outcome = (.ok .idle, after)) ↔ running = .vacant ∧ pending = .vacant := by
  cases h with
  | refused fault => exact iff_of_false (by simp) (by simp)
  | stalled => exact iff_of_false (by simp) (by simp)
  | resumes _ first rest =>
    refine iff_of_false ?_ (by simp)
    rintro ⟨after, hcycle⟩
    obtain ⟨runs, last, -, hcycle⟩ := Bench.perform_bind_inv hcycle
    cases Except.ok.inj (congrArg Prod.fst hcycle)
  | refusedNext fault => exact iff_of_false (by simp) (by simp)
  | idles => exact iff_of_true ⟨bench, rfl⟩ ⟨rfl, rfl⟩
  | begins hpending =>
    refine iff_of_false ?_ (by rcases hpending with rfl | rfl <;> simp)
    rintro ⟨after, hcycle⟩
    obtain ⟨run, hrun⟩ := beginNext_started hcycle
    cases hrun

/-- A test is lacking by the way that a vacant running root and strays in the pending root show. -/
theorem lacks_iff (hmachine : machine.WritesOnlyLogs) (hsilent : machine.IsSilent)
    (hoperator : operator.IsSilent)
    (h : bench.Takes settings machine operator (bench.contentOf settings.workspace.running)
      (bench.contentOf settings.workspace.pending) outcome) :
    (∃ path after, outcome = (.error (.noPendingTests path), after))
      ↔ bench.contentOf settings.workspace.running = .vacant
        ∧ bench.contentOf settings.workspace.pending = .strays
        ∧ ∃ boot, bench.Claims settings machine boot := by
  have hlacks := @lacks_beginNext bench settings machine operator hmachine hsilent hoperator
  generalize bench.contentOf settings.workspace.running = running at h ⊢
  generalize bench.contentOf settings.workspace.pending = pending at h hlacks ⊢
  cases h with
  | refused fault => exact iff_of_false (by cases fault <;> simp [Error.ofFault]) (by simp)
  | stalled => exact iff_of_false (by simp) (by simp)
  | resumes _ first rest =>
    have hruns : NeverLacks (do
        return CycleResult.resumed
          (← Trial.runEach settings machine operator (first :: rest))) :=
      (Trial.runEach_neverLacks hsilent hoperator settings (first :: rest)).bind fun runs => .pure _
    exact iff_of_false (hruns.not_lacks bench) (by simp)
  | refusedNext fault =>
    exact iff_of_false (by cases fault <;> simp [Error.ofFault]) (by simp)
  | idles => exact iff_of_false (by simp) (by simp)
  | begins hpending hclaims =>
    simp only [Bench.Claims, hclaims, true_and]
    exact hlacks hpending

end Bench.Takes

/-- How the two questions about tests agree, and what a cycle makes of it where they do not. -/
structure Bench.Probes (bench : Bench) (settings : Settings) (machine : Machine)
    (operator : Operator) : Prop where
  /-- Both questions about a root fail, with the same error, or both are answered. The answers agree,
  that is, the root is occupied exactly if there are tests in it, exactly if there are no strays. -/
  agrees : ∀ root, (∃ failure, bench.perform (isOccupied root) = (.error failure, bench)
      ∧ bench.perform (testsIn root) = (.error failure, bench))
    ∨ ∃ occupied tests, bench.perform (isOccupied root) = (.ok occupied, bench)
      ∧ bench.perform (testsIn root) = (.ok tests, bench)
      ∧ ((occupied = true ↔ tests ≠ []) ↔ bench.contentOf root ≠ .strays)
  /-- A cycle has resumed no tests exactly if there are strays in the running root. -/
  stalls : (∃ after, bench.perform (performCycle settings machine operator)
      = (.ok (.resumed []), after)) ↔ bench.contentOf settings.workspace.running = .strays
  /-- Such a cycle leaves everything as it is, so that the next one does the same. -/
  sticks : bench.contentOf settings.workspace.running = .strays →
    bench.perform (performCycle settings machine operator) = (.ok (.resumed []), bench)
  /-- A cycle fails for lack of a test exactly if there is nothing in the running root, there are
  strays in the pending root, and it comes to claim a test. -/
  lacks : bench.Lacks (performCycle settings machine operator)
    ↔ bench.contentOf settings.workspace.running = .vacant
      ∧ bench.contentOf settings.workspace.pending = .strays
      ∧ ∃ boot, bench.Claims settings machine boot
  /-- A cycle has nothing to do exactly if there is nothing in either root. -/
  idles : (∃ after, bench.perform (performCycle settings machine operator) = (.ok .idle, after))
    ↔ bench.contentOf settings.workspace.running = .vacant
      ∧ bench.contentOf settings.workspace.pending = .vacant

/-- However the roots are filled, the question whether a root is occupied and the list of its tests
agree unless there are strays in it; and where there are, a cycle resumes no test or lacks the one
that it sets out to claim. Of the machine it is supposed that it leaves the roots alone, and of the
machine and the operator that they do not themselves fail with what only a claim says. -/
theorem performCycle_probes (hmachine : machine.WritesOnlyLogs) (hsilent : machine.IsSilent)
    (hoperator : operator.IsSilent) (bench : Bench) (settings : Settings) :
    bench.Probes settings machine operator := by
  have htakes := performCycle_takes bench settings machine operator
  refine ⟨fun root => ?_, htakes.stalls_iff, htakes.sticks,
    htakes.lacks_iff hmachine hsilent hoperator, htakes.idles_iff⟩
  obtain ⟨occupied, tests, hoccupied, htests, hprobed⟩ := bench.exists_probed root
  rw [hoccupied, htests]
  generalize bench.contentOf root = content at hprobed ⊢
  cases hprobed with
  | unreadable fault => exact .inl ⟨_, rfl, rfl⟩
  | vacant => exact .inr ⟨_, _, rfl, rfl, by simp⟩
  | strays => exact .inr ⟨_, _, rfl, rfl, by simp⟩
  | tests first rest => exact .inr ⟨_, _, rfl, rfl, by simp⟩

end Cycle

/-- A test that waits, and a file among the tests that have been begun. -/
def strayBench : Bench where
  files := .dir [("runtime", .dir
    [("pending", .dir [("1-s2idle", .dir [])]), ("running", .dir [("notes.txt", .file [] false)])])]
  here := []
  home := .ofText "/"
  searchPath := []
  color := false

/-- The test is not begun, however often a cycle is performed. -/
theorem performCycle_probes_stray :
    strayBench.contentOf (Settings.workspace {}).pending = .tests
      ∧ strayBench.perform (performCycle {} (.scripted ⟨"b00t", by decide⟩ []) .scripted)
        = (.ok (.resumed []), strayBench) := by
  have hprobes := performCycle_probes (Machine.scripted_writesOnlyLogs ⟨"b00t", by decide⟩ [])
    (Machine.scripted_isSilent _ _) Operator.scripted_isSilent strayBench {}
  exact ⟨by decide +kernel, hprobes.sticks (by decide +kernel)⟩

end BootTrial
