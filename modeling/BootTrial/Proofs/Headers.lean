import BootTrial.Proofs.Cycling
import BootTrial.Proofs.Stepwise

/-!
# Headers that are not remembered

A program that has just been started remembers no header. It comes to remember that of the scenario
table of its template, and so none for the scenario file of a test before this is read
(`cycleToTests_leavesUnknown`), if the machine leaves alone what the program remembers
(`Machine.NamesBoot`).
-/

namespace BootTrial

/-- A machine that names the boot that it is in whenever it is asked, and leaves alone what the
program remembers. -/
structure Machine.NamesBoot (machine : Machine) : Prop where
  /-- The boot is named. -/
  named : ∀ bench : Bench, ∃ boot, (bench.perform (machine.ask .currentBoot)).1 = .ok boot
  /-- Nothing is remembered by that. -/
  headers : ∀ bench : Bench, (bench.perform (machine.ask .currentBoot)).2.headers = bench.headers

/-- The scripted machine names its boot, unless it is told to refuse this. -/
theorem Machine.scripted_namesBoot (boot : BootId) {refused : List String}
    (h : "boot_id" ∉ refused) : (Machine.scripted boot refused).NamesBoot := by
  have hanswer : ∀ bench : Bench, ∃ moments,
      bench.perform ((Machine.scripted boot refused).ask .currentBoot)
        = (.ok boot, { bench with history := moments ++ bench.history }) := by
    intro bench
    refine ⟨[⟨.asked .currentBoot, bench.files⟩], ?_⟩
    have hrefuse : Machine.refuse refused .currentBoot = pure () :=
      if_neg (by simpa [Request.name] using h)
    simp only [Machine.ask, Machine.scripted, hrefuse]
    rfl
  refine ⟨fun bench => ⟨boot, ?_⟩, fun bench => ?_⟩
  all_goals obtain ⟨moments, hmoments⟩ := hanswer bench
  · rw [hmoments]
  · rw [hmoments]

/-- Between two benches no header has come to be remembered for a place. -/
def Bench.LeavesUnknown (place : Place) (before after : Bench) : Prop :=
  before.headers.get? place = none → after.headers.get? place = none

instance (place : Place) : IsPreorder Bench (Bench.LeavesUnknown place) where
  refl _ h := h
  trans _ _ _ h h' hnone := h' (h hnone)

section Unknown

variable {p : Path} {d : Place} {name other : String} {settings : Settings} {machine : Machine}

/-- Nothing is remembered by a step. -/
theorem Bench.LeavesUnknown.stepTo (place : Place) (bench : Bench) (files : Node) :
    bench.LeavesUnknown place (bench.stepTo files) := id

/-- Reading a table under one name nothing is remembered for a place under another. -/
theorem ScenarioTable.read_leavesUnknown (hname : IsPlain name) (hne : other ≠ name) :
    Keeps (Bench.LeavesUnknown (d ++ [other])) (read (p.join name)) := by
  intro bench hnone
  unfold read
  rw [Bench.perform_bind]
  rcases hplace : bench.perform ((FileWork.look (·.placeAt (p.join name))).reportedAs
    (.unreadable (p.join name))) with ⟨failure | place, after⟩
  · rw [Bench.perform_reportedAs, Bench.perform_look, Prod.mk.injEq] at hplace
    rw [← hplace.2]
    exact hnone
  · replace hplace := Bench.perform_reportedAs_inv hplace
    rw [Bench.perform_look, Prod.mk.injEq] at hplace
    obtain ⟨hat, rfl⟩ := hplace
    obtain ⟨e, rfl⟩ := Path.place_join_snoc hname hat
    have hplaces : d ++ [other] ≠ e ++ [name] := fun h => hne (List.cons.inj (List.append_inj' h rfl).2).1
    have hcheck : ∀ header, Keeps (Bench.LeavesUnknown (d ++ [other]))
        (checkHeader (p.join name) (e ++ [name]) header) := by
      intro header bench hnone
      unfold checkHeader
      rw [Bench.perform_bind_ok (Bench.perform_get bench)]
      cases hknown : bench.headers.get? (e ++ [name]) with
      | some known =>
        simp only [hknown]
        split
        · exact hnone
        · exact hnone
      | none =>
        simp only [hknown]
        exact (HeaderCache.get?_insert_of_ne hplaces _ _).trans hnone
    refine (((Keeps.look _).reportedAs _).bind fun content => ?_ :
      Keeps (Bench.LeavesUnknown (d ++ [other])) _) bench hnone
    exact (Keeps.ofExcept _).bind fun table => (hcheck _).bind fun _ => Keeps.pure _

/-- Up to the tests of a cycle no header is remembered for the scenario file of a test. -/
theorem cycleToTests_leavesUnknown (settings : Settings) (hmachine : machine.NamesBoot) :
    Keeps (Bench.LeavesUnknown (d ++ [scenarioName])) (cycleToTests settings machine) := by
  have hmenu : Keeps (Bench.LeavesUnknown (d ++ [scenarioName])) (settings.menu (.ofBoot true)) :=
    Menu.ofFile_keeps (ScenarioTable.read_leavesUnknown (isPlain_of_length (by decide) (by decide))
      (by decide)) _ _
  have hask : Keeps (Bench.LeavesUnknown (d ++ [scenarioName])) (machine.ask .currentBoot) :=
    fun bench hnone => by rwa [hmachine.headers]
  unfold cycleToTests
  refine (isOccupied_keeps _).bind fun occupied => ?_
  split
  · exact testsIn_keeps _
  · refine (isOccupied_keeps _).bind fun occupied => ?_
    split
    · refine hmenu.bind fun _ => hask.bind fun boot => ?_
      exact (settings.workspace.claim_keeps (Bench.LeavesUnknown.stepTo _) boot).bind fun _ =>
        Keeps.pure _
    · exact Keeps.pure _

end Unknown

end BootTrial
