import BootTrial.Proofs.Boots
import BootTrial.Proofs.Dispatch
import BootTrial.Proofs.Gating
import BootTrial.Proofs.Headed

/-!
# The menu is compiled twice

A cycle that begins a test compiles the menu before it claims the test, and again when the test has
been loaded. What is done in between lies in the directories of the tests, outside of which the files
of the template are kept (`Bench.KeepsTemplate`). So the second compilation reads what the first has
read; the header that the first has looked for is remembered; and whichever boot the
machine is in then, no row has a condition that is not known, and no more rows reach the menu. So it
does not fail (`Menu.ofFile_again`). A definition that does not compile is met before the claim.
-/

namespace BootTrial

/-! ## Headers that are remembered -/

/-- Claiming a test no header is forgotten. -/
theorem Workspace.claim_remembers (workspace : Workspace) (boot : BootId) :
    Keeps Bench.Remembers (workspace.claim boot) :=
  workspace.claim_keeps (fun _ _ _ _ hknown => hknown) boot

/-- Loading a test no header is forgotten. -/
theorem Trial.load_remembers (settings : Settings) {machine : Machine}
    (hmachine : machine.WritesOnlyLogs) (directory : Path) :
    Keeps Bench.Remembers (load settings machine directory) := by
  unfold load
  refine (boundBoot_keeps (fun _ _ _ _ hknown => hknown) _).bind fun boot => ?_
  refine (hmachine.ask_remembers _).bind fun current => (logFrontOf_keeps _).bind fun front => ?_
  exact ((Scenario.read_unmoved _ _).imp fun _ _ h => h.headers).bind fun _ => Keeps.pure _

/-! ## The second compilation -/

section Again

variable {path schema : Path} {rows : List Response} {menu : Menu} {bench read later : Bench}

/-- Rows that give a menu in the boot of the claim give one in every boot, while the headers that
have been looked for are remembered. -/
theorem Menu.ofResponses_again
    (h : bench.perform (ofResponses rows (.ofBoot true) schema) = (.ok menu, read))
    (hplace : later.placeAt schema = read.placeAt schema) (hheaders : Bench.Remembers read later)
    (isSame : Bool) :
    ∃ menu' after, later.perform (ofResponses rows (.ofBoot isSame) schema) = (.ok menu', after)
      ∧ (isSame = true → menu' = menu) := by
  have hfinds : bench.Finds schema (bench.perform (ScenarioTable.headerAt schema)).1 := rfl
  rcases addRows_cases hfinds (Holds.empty (.ofBoot true)) rows with
    ⟨_, _, hrows, hall, hmenu, hcaches⟩ | ⟨_, _, _, _, _, _, hrows, -⟩
  all_goals
    rw [ofResponses, hrows] at h
    cases h
  rw [List.nil_append] at hmenu
  -- Where a row has a column to write, the header is remembered in which it was found.
  have hpasses : ∀ row ∈ rows,
      row.Passes (.ofBoot isSame) (later.perform (ScenarioTable.headerAt schema)).1 := by
    intro row hrow
    obtain ⟨⟨kind, words, action, hkind, hwords, haction, hcolumn⟩, hcondition⟩ :=
      (hall row hrow).sameNames (Conditions.sameNames_ofBoot isSame true)
    refine ⟨⟨kind, words, action, hkind, hwords, haction, fun column hwrites => ?_⟩, hcondition⟩
    obtain ⟨names, hnames, hmem⟩ := hcolumn column hwrites
    have hprepare : row.prepare = .ok action := Response.prepare_ok hkind hwords haction
    obtain ⟨names', hnames', hread⟩ := hcaches row hrow ⟨action, column, hprepare, hwrites⟩
    obtain rfl : names = names' := Except.ok.inj (hnames.symm.trans hnames')
    exact ⟨names, by rw [(hread.mono hplace hheaders).perform_headerAt], hmem⟩
  have hkeys : KeysApart (.ofBoot isSame) rows :=
    hmenu.keysApart.anti (Conditions.ofBoot_implies isSame)
  have hcompiles := compiles_of_finds (rfl : later.Finds schema _) (.ofBoot isSame) rows
  obtain ⟨menu', hmenu'⟩ := hcompiles.accepts.mpr ⟨hpasses, hkeys⟩
  refine ⟨menu', _, Prod.ext hmenu' rfl, ?_⟩
  rintro rfl
  exact (hcompiles.holds menu' hmenu').unique hmenu

/-- A response file that compiles in the boot of the claim does so in every boot, while it is the
same and the headers that have been looked for are remembered. -/
theorem Menu.ofFile_again
    (h : bench.perform (ofFile path (.ofBoot true) schema) = (.ok menu, read))
    (hpath : later.bytesAt path = bench.bytesAt path)
    (hplace : later.placeAt schema = read.placeAt schema) (hheaders : Bench.Remembers read later)
    (isSame : Bool) :
    ∃ menu' after, later.perform (ofFile path (.ofBoot isSame) schema) = (.ok menu', after)
      ∧ (isSame = true → menu' = menu) := by
  obtain ⟨rows, middle, hrows, h⟩ := Bench.perform_bind_inv h
  have hlater : later.perform (Response.readAll path) = (.ok rows, later) := by
    rw [Response.perform_readAll] at hrows ⊢
    rw [hpath, (Prod.mk.inj hrows).1]
  obtain ⟨menu', after, hmenu', hsame⟩ := ofResponses_again h hplace hheaders isSame
  exact ⟨menu', after, (Bench.perform_bind_ok hlater _).trans hmenu', hsame⟩

end Again

/-! ## A cycle -/

/-- The first part of a cycle, up to the second compilation of the menu, if the cycle begins a test.
It gives the menu that has been compiled before the claim, the boot of the claim and the trial. -/
def cycleToLoad (settings : Settings) (machine : Machine) : Work (Option (Menu × BootId × Trial)) := do
  if ← isOccupied settings.workspace.running then return none
  else if ← isOccupied settings.workspace.pending then
    let menu ← settings.menu (.ofBoot true)
    let boot ← machine.ask .currentBoot
    let directory ← settings.workspace.claim boot
    return some (menu, boot, ← Trial.load settings machine directory)
  else return none

/-- A cycle comes to a compilation of the menu, under some conditions and on some bench. -/
inductive Bench.ComesToMenu (settings : Settings) (machine : Machine) (operator : Operator)
    (bench : Bench) : Conditions → Bench → Prop
  /-- No test has been begun, but tests wait. -/
  | waiting {before : Bench} (hrunning : (bench.perform (isOccupied settings.workspace.running))
        = (.ok false, before)) {after : Bench}
      (hpending : before.perform (isOccupied settings.workspace.pending) = (.ok true, after)) :
      ComesToMenu settings machine operator bench (.ofBoot true) after
  /-- A test has been claimed and loaded. -/
  | begun {menu : Menu} {boot : BootId} {trial : Trial} {loaded : Bench}
      (hload : bench.perform (cycleToLoad settings machine) = (.ok (some (menu, boot, trial)), loaded)) :
      ComesToMenu settings machine operator bench trial.conditions loaded
  /-- A test that has been begun is gone on with, and has been loaded. -/
  | resumed {before listed run loaded : Bench} {front back : List Path} {directory : Path}
      {runs : List TrialRun} {trial : Trial}
      (hrunning : bench.perform (isOccupied settings.workspace.running) = (.ok true, before))
      (htests : before.perform (testsIn settings.workspace.running)
        = (.ok (front ++ directory :: back), listed))
      (hruns : listed.perform (Trial.runEach settings machine operator front) = (.ok runs, run))
      (hload : run.perform (Trial.load settings machine directory) = (.ok trial, loaded)) :
      ComesToMenu settings machine operator bench trial.conditions loaded

/-- A cycle on a bench meets a definition that does not compile before it claims a test. -/
structure Bench.CompilesFirst (settings : Settings) (machine : Machine) (operator : Operator)
    (bench : Bench) : Prop where
  /-- A compilation that the cycle comes to and that fails ends the cycle. No file has changed then,
  and nobody has been asked anything. -/
  refuses : ∀ conditions before failure after,
    bench.ComesToMenu settings machine operator conditions before →
    before.perform (settings.menu conditions) = (.error failure, after) →
    bench.perform (performCycle settings machine operator) = (.error failure, after)
      ∧ Unmoved bench after
  /-- If a test has been claimed and loaded its menu compiles again. The menu is the one that has
  been compiled before, if the machine is in the boot of the claim still. -/
  repeats : ∀ menu boot trial loaded,
    bench.perform (cycleToLoad settings machine) = (.ok (some (menu, boot, trial)), loaded) →
    ∃ menu' after, loaded.perform (settings.menu trial.conditions) = (.ok menu', after)
      ∧ (trial.currentBoot = boot → menu' = menu)

section Cycle

variable {settings : Settings} {machine : Machine} {operator : Operator} {w : Place}
  {bench loaded : Bench} {menu : Menu} {boot : BootId} {trial : Trial}

/-- The menu of a test that has been claimed and loaded compiles again. -/
theorem cycleToLoad_again (hmachine : machine.WritesOnlyLogs)
    (hw : settings.workspace.root.Leads bench.files bench.here w)
    (hpending : bench.files.IsListing (Root.pending.place w))
    (htemplate : IsPlain settings.template)
    (h : bench.perform (cycleToLoad settings machine) = (.ok (some (menu, boot, trial)), loaded)) :
    ∃ menu' after, loaded.perform (settings.menu trial.conditions) = (.ok menu', after)
      ∧ (trial.currentBoot = boot → menu' = menu) := by
  obtain ⟨occupied, looked, hrunning, h⟩ := Bench.perform_bind_inv h
  obtain rfl : bench = looked := by
    have hkeeps := isOccupied_keeps (R := Eq) settings.workspace.running bench
    rwa [hrunning] at hkeeps
  cases occupied with
  | true => cases h
  | false =>
  obtain ⟨occupied, looked, hwaiting, h⟩ := Bench.perform_bind_inv h
  obtain rfl : bench = looked := by
    have hkeeps := isOccupied_keeps (R := Eq) settings.workspace.pending bench
    rwa [hwaiting] at hkeeps
  cases occupied with
  | false => cases h
  | true =>
  obtain ⟨first, read, hmenu, h⟩ := Bench.perform_bind_inv h
  obtain ⟨own, asked, hasked, h⟩ := Bench.perform_bind_inv h
  obtain ⟨directory, claimed, hclaim, h⟩ := Bench.perform_bind_inv h
  obtain ⟨loadedTrial, last, hload, h⟩ := Bench.perform_bind_inv h
  cases h
  -- Nothing happens to the files before the claim.
  have hread := settings.menu_unmoved (.ofBoot true) bench
  have hquiet : Bench.Quiet (fun _ => True) read (read.perform (machine.ask .currentBoot)).2 :=
    hmachine.ask_quiet rfl trivial trivial read
  rw [hmenu] at hread
  rw [hasked] at hquiet
  have hfiles : asked.files = bench.files := hquiet.files.trans hread.files
  have hhere : asked.here = bench.here := hquiet.here.trans hread.here
  have hw' : settings.workspace.root.Leads asked.files asked.here w := by rwa [hfiles, hhere]
  have hpending' : asked.files.IsListing (Root.pending.place w) := by rwa [hfiles]
  -- The claim and the loading keep the files of the template.
  obtain ⟨name, -, -, rfl, hruns, hbound, -⟩ := Workspace.claim_bound hw' hpending' hclaim
  have hclaimed : asked.KeepsTemplate w [] _ :=
    settings.workspace.claim_keepsTemplate hw' hpending' boot
  have hloaded : Bench.Inside _ IsFixed _ claimed _ :=
    Trial.load_staysIn settings hmachine claimed hruns.leads
  have hremembers := settings.workspace.claim_remembers boot asked
  have hremembers' := Trial.load_remembers settings hmachine
    (settings.workspace.running.join (runningName name boot)) claimed
  rw [hclaim] at hclaimed hremembers
  rw [hload] at hloaded hremembers'
  have hkeeps : read.KeepsTemplate w [] loaded := trans_of _ (.of_quiet _ _ hquiet)
    (trans_of _ hclaimed (.of_inside (r := .running) hloaded (.inl rfl)))
  have hheaders : Bench.Remembers read loaded :=
    trans_of _ hquiet.headers (trans_of Bench.Remembers hremembers hremembers')
  have htemplates : ∀ {file : String}, IsPlain file → file ≠ "runtime" → file ≠ "results" →
      loaded.bytesAt ((settings.workspace.template settings.template).join file)
          = read.bytesAt ((settings.workspace.template settings.template).join file)
        ∧ loaded.placeAt ((settings.workspace.template settings.template).join file)
          = read.placeAt ((settings.workspace.template settings.template).join file) := by
    intro file hfile hruntime hresults
    have hroot : settings.workspace.root.Leads read.files read.here w := by
      rwa [hread.files, hread.here]
    exact Bench.join_outside hkeeps.here hkeeps.outside
      (Workspace.avoids_of_isPlain hroot htemplate) hfile hruntime hresults
  obtain ⟨hresponses, -⟩ := htemplates (isPlain_of_length (by decide) (by decide) :
    IsPlain "quick-responses.csv") (by decide) (by decide)
  obtain ⟨-, hscenarios⟩ := htemplates (isPlain_of_length (by decide) (by decide) :
    IsPlain "scenarios.csv") (by decide) (by decide)
  have hbytes : loaded.bytesAt (settings.workspace.responses settings.template)
      = bench.bytesAt (settings.workspace.responses settings.template) := by
    rw [Workspace.responses, hresponses, Bench.bytesAt, Bench.bytesAt, Bench.nodeAt, Bench.nodeAt,
      hread.files, hread.here]
  obtain ⟨menu', after, hmenu', hsame⟩ :=
    Menu.ofFile_again hmenu hbytes hscenarios hheaders trial.isSameBoot
  refine ⟨menu', after, hmenu', fun hboot => hsame ?_⟩
  obtain ⟨hbound', -⟩ := Trial.load_binds hmachine hruns.plain hruns.short
    (bootOfName?_runningName name _) hruns.root hbound hload
  rw [Trial.isSameBoot, hbound', hboot, decide_eq_true rfl]

/-- Where no test has been begun a cycle meets a definition that does not compile before it claims a
test. -/
theorem performCycle_compilesFirst (hmachine : machine.WritesOnlyLogs) (operator : Operator)
    (hw : settings.workspace.root.Leads bench.files bench.here w)
    (hbegun : bench.files.queueAt (Root.running.place w) = [])
    (hpending : bench.files.IsListing (Root.pending.place w)) (htemplate : IsPlain settings.template) :
    bench.CompilesFirst settings machine operator := by
  have hlooks : ∀ {root : Path} {occupied : Bool} {bench after : Bench},
      bench.perform (isOccupied root) = (.ok occupied, after) → after = bench := by
    intro root occupied bench after h
    have hkeeps := isOccupied_keeps (R := Eq) root bench
    rw [h] at hkeeps
    exact hkeeps.symm
  refine ⟨fun conditions before failure after hcomes hfails => ?_, fun menu boot trial loaded hload =>
    cycleToLoad_again hmachine hw hpending htemplate hload⟩
  cases hcomes with
  | waiting hrunning hwaiting =>
    obtain rfl := hlooks hwaiting
    obtain rfl := hlooks hrunning
    have hunmoved := settings.menu_unmoved (.ofBoot true) before
    rw [hfails] at hunmoved
    refine ⟨?_, hunmoved⟩
    rw [performCycle, Bench.perform_bind_ok hrunning, if_neg Bool.false_ne_true,
      Bench.perform_bind_ok hwaiting, if_pos rfl, Bench.perform_bind_error hfails]
  | begun hload =>
    obtain ⟨menu', _, hmenu', -⟩ := cycleToLoad_again hmachine hw hpending htemplate hload
    rw [hmenu'] at hfails
    cases hfails
  | resumed hrunning htests hruns hload =>
    -- There is no test to go on with.
    obtain rfl := hlooks hrunning
    rcases testsIn_ok (r := .running) hw htests with ⟨hnil, -⟩ | ⟨entries, hentries, hlisted⟩
    · simp at hnil
    · rw [Node.queueAt_dir hentries] at hbegun
      simp [hbegun] at hlisted

end Cycle

set_option maxRecDepth 100000 in
/-- The menu of a test that waits is compiled before its claim and once more behind it, in one boot.
-/
theorem performCycle_compilesFirst_waiting :
    ∃ menu boot trial loaded after,
      waitingBench.perform (cycleToLoad {} (.scripted ⟨"b00t", sameBoot_isId⟩ []))
          = (.ok (some (menu, boot, trial)), loaded)
        ∧ loaded.perform (Settings.menu {} trial.conditions) = (.ok menu, after) := by
  let machine : Machine := .scripted ⟨"b00t", sameBoot_isId⟩ []
  have hfacts : waitingBench.files.queueAt (Root.running.place []) = []
      ∧ (waitingBench.perform (cycleToLoad {} machine)).1.toOption.join.any
        (fun found => decide (found.2.2.currentBoot = found.2.1)) = true := by
    decide +kernel
  obtain ⟨hnone, hload⟩ := hfacts
  obtain ⟨hsound, -⟩ := waitingBench_reached.sound
  obtain ⟨names, hwaiting⟩ := hsound.holds .pending
  have hcompiles : waitingBench.CompilesFirst {} machine .scripted :=
    performCycle_compilesFirst (Machine.scripted_writesOnlyLogs _ _) .scripted hsound.leads hnone
      hwaiting.isListing (isPlain_of_length (by decide) (by decide))
  rcases hperform : waitingBench.perform (cycleToLoad {} machine) with
    ⟨failure | _ | ⟨menu, boot, trial⟩, loaded⟩
  all_goals rw [hperform] at hload
  · cases hload
  · cases hload
  · obtain ⟨menu', after, hmenu', hsame⟩ := hcompiles.repeats menu boot trial loaded hperform
    obtain rfl := hsame (of_decide_eq_true hload)
    exact ⟨_, boot, trial, loaded, after, rfl, hmenu'⟩

end BootTrial
