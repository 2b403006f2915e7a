import Mathlib.Data.String.Basic
import BootTrial.Proofs.Draining
import BootTrial.Proofs.Recovery

/-!
# What a cycle does with the tests

A cycle goes on with the tests that have been begun, all of them in their order, and leaves the
tests that wait alone; or it begins the first test that waits, and leaves the others alone; or there
is no test, and it does nothing (`Bench.Dispatches`). Whatever fails in between, at every moment the
tests that wait are those of before, or the first of them has left them.

`testNames` puts the tests in order, by ordinal and then by name (`sorted_testNames`).
-/

namespace BootTrial

/-- Whether a test goes before another. -/
theorem precedes_iff {name other : String} : precedes name other = true
    ↔ sortOrdinal name < sortOrdinal other
      ∨ sortOrdinal name = sortOrdinal other ∧ name ≤ other := by
  simp only [precedes, Bool.or_eq_true, Bool.and_eq_true, decide_eq_true_eq, Bool.not_eq_true',
    decide_eq_false_iff_not, not_lt]

/-- The order of the tests is transitive. -/
theorem precedes_trans {name other last : String} (h : precedes name other = true)
    (h' : precedes other last = true) : precedes name last = true := by
  rw [precedes_iff] at h h' ⊢
  rcases h with h | ⟨h, hle⟩ <;> rcases h' with h' | ⟨h', hle'⟩
  · exact .inl (h.trans h')
  · exact .inl (h' ▸ h)
  · exact .inl (h ▸ h')
  · exact .inr ⟨h.trans h', hle.trans hle'⟩

/-- Of two tests one goes before the other. -/
theorem precedes_total (name other : String) :
    (precedes name other || precedes other name) = true := by
  rw [Bool.or_eq_true, precedes_iff, precedes_iff]
  rcases Nat.lt_trichotomy (sortOrdinal name) (sortOrdinal other) with h | h | h
  · exact .inl (.inl h)
  · exact (le_total name other).imp (fun hle => .inr ⟨h, hle⟩) fun hle => .inr ⟨h.symm, hle⟩
  · exact .inr (.inl h)

/-- The tests in a directory are listed in their order. -/
theorem sorted_testNames (entries : List (String × Node)) :
    (testNames entries).Pairwise (precedes · · = true) := by
  rw [testNames]
  exact @List.pairwise_mergeSort _ precedes (fun _ _ _ => precedes_trans) precedes_total _

namespace Node

/-- The tests in the directory at a place, in their order. -/
def queueAt (root : Node) (place : Place) : List String :=
  match root.get? place with
  | some (.dir entries) => testNames entries
  | _ => []

/-- The tests that wait are the same, with all that is in their directories. -/
def SameQueue (w : Place) (before after : Node) : Prop :=
  after.get? (Root.pending.place w) = before.get? (Root.pending.place w)

/-- A test has left the tests that wait, and the others are the same. -/
def Dequeued (w : Place) (name : String) (before after : Node) : Prop :=
  ∃ entries, before.get? (Root.pending.place w) = some (.dir entries)
    ∧ after.get? (Root.pending.place w) = some (.dir (Named.erase name entries))

/-- One test may have left the tests that wait, and the others are the same. -/
def KeepsOthers (w : Place) (name : String) (before after : Node) : Prop :=
  SameQueue w before after ∨ Dequeued w name before after

variable {p : Path} {here w place : Place} {name : String} {doomed : Prop}
  {root before middle after : Node}

/-- The tests in a directory. -/
theorem queueAt_dir {entries : List (String × Node)} (h : root.get? place = some (.dir entries)) :
    root.queueAt place = testNames entries := by
  rw [queueAt, h]

/-- The tests in a directory that holds tests are those that it holds, in their order. -/
theorem HoldsTests.queueAt {names : List String} (h : root.HoldsTests place names) :
    (root.queueAt place).Perm names ∧ (root.queueAt place).Pairwise (precedes · · = true) := by
  obtain ⟨entries, hentries | ⟨hnone, rfl⟩, rfl, -, htests⟩ := h
  · rw [queueAt_dir hentries]
    exact ⟨perm_testNames fun entry hentry => (htests entry hentry).isDir, sorted_testNames entries⟩
  · rw [Node.queueAt, hnone]
    exact ⟨.refl [], .nil⟩

/-- What is apart from the directory of a test and from the results is left alone by its run. -/
theorem Change.get?_of_apart (h : Change w name doomed before after)
    (hrunning : Place.Apart (Root.running.place w ++ [name]) place)
    (hresults : Place.Apart (Root.results.place w) place) :
    after.get? place = before.get? place := by
  have hresult : Place.Apart (Root.results.place w ++ [name]) place :=
    (hresults.symm.append_right [name]).symm
  cases h with
  | touched htouch => exact htouch.inside.get?_of_apart hrunning
  | deleted => exact get?_erase_of_apart hrunning _
  | made => exact get?_put_of_apart hresults _ _
  | completed => rw [get?_put_of_apart hresult, get?_erase_of_apart hrunning]

/-- The path of a workspace leads there still after a step of the run of a test. -/
theorem Change.leads (h : Change w name doomed before after) (hleads : p.Leads before here w) :
    p.Leads after here w := by
  cases h with
  | touched htouch =>
    obtain ⟨entries, entries', hentries, rfl, -⟩ := htouch.inside
    exact hleads.put_in .running [name] (.dir entries')
  | deleted => exact hleads.erase_in .running [name]
  | made => simpa using hleads.put_in .results [] .emptyDir
  | @completed entries =>
    exact (hleads.erase_in .running [name]).put_in .results [name] (.dir entries)

/-- The steps of the run of a test leave alone what each of them does. -/
theorem Changes.get?_of_apart (h : Changes w name doomed before after)
    (hrunning : Place.Apart (Root.running.place w ++ [name]) place)
    (hresults : Place.Apart (Root.results.place w) place) :
    after.get? place = before.get? place := by
  induction h with
  | refl => rfl
  | tail _ hlast ih => exact (hlast.get?_of_apart hrunning hresults).trans ih

/-- The path of a workspace leads there still after the run of a test. -/
theorem Changes.leads (h : Changes w name doomed before after) (hleads : p.Leads before here w) :
    p.Leads after here w := by
  induction h with
  | refl => exact hleads
  | tail _ hlast ih => exact hlast.leads ih

/-- The run of a test leaves the tests that wait alone. -/
theorem Changes.sameQueue (h : Changes w name doomed before after) : SameQueue w before after :=
  h.get?_of_apart
    ((Root.place_apart (by decide : Root.pending ≠ .running) w).append_right [name]).symm
    (Root.place_apart (by decide : Root.results ≠ .pending) w)

/-- What leaves the tests that wait alone in each part leaves them alone as a whole. -/
theorem SameQueue.trans (h : SameQueue w before middle) (h' : SameQueue w middle after) :
    SameQueue w before after :=
  Eq.trans h' h

/-- A test leaves the tests that wait where nothing happened to them before. -/
theorem Dequeued.behind (h : SameQueue w before middle) (h' : Dequeued w name middle after) :
    Dequeued w name before after := by
  obtain ⟨entries, hentries, hafter⟩ := h'
  exact ⟨entries, h.symm.trans hentries, hafter⟩

/-- A test has left the tests that wait where nothing happened to them since. -/
theorem Dequeued.since (h : Dequeued w name before middle) (h' : SameQueue w middle after) :
    Dequeued w name before after := by
  obtain ⟨entries, hentries, hmiddle⟩ := h
  exact ⟨entries, hentries, Eq.trans h' hmiddle⟩

/-- A test that has left the tests that wait leaves them but once. -/
theorem KeepsOthers.trans (h : KeepsOthers w name before middle)
    (h' : KeepsOthers w name middle after) :
    KeepsOthers w name before after := by
  rcases h with hsame | hleft <;> rcases h' with hsame' | hleft'
  · exact .inl (hsame.trans hsame')
  · exact .inr (hleft'.behind hsame)
  · exact .inr (hleft.since hsame')
  · obtain ⟨entries, hentries, hmiddle⟩ := hleft
    obtain ⟨others, hothers, hafter⟩ := hleft'
    obtain rfl : Named.erase name entries = others := by
      rw [hmiddle] at hothers
      simpa using hothers
    have htwice : Named.erase name (Named.erase name entries) = Named.erase name entries := by
      simp [Named.erase]
    exact .inr ⟨entries, hentries, htwice ▸ hafter⟩

/-- A test leaves the tests that wait when its directory goes into another root. -/
theorem Dequeued.move {entries : List (String × Node)} {node : Node} {other : String}
    (h : before.get? (Root.pending.place w) = some (.dir entries)) :
    Dequeued w name before ((before.erase (Root.pending.place w ++ [name])).put node
      (Root.running.place w ++ [other])) := by
  refine ⟨entries, h, ?_⟩
  rw [get?_put_of_apart ((Root.place_apart
    (by decide : Root.pending ≠ .running) w).append_right [other]).symm]
  exact get?_erase_entry h name

end Node

namespace Trial

variable {settings : Settings} {machine : Machine} {operator : Operator} {w : Place}
  {name : String} {names : List String} {bench after : Bench}

/-- A run tells of the directory that it began with. -/
theorem runAt_directory {directory : Path} {run : TrialRun}
    (h : bench.perform (runAt settings machine operator directory) = (.ok run, after)) :
    run.directory = directory := by
  obtain ⟨trial, bench₁, -, h⟩ := Bench.perform_bind_inv h
  obtain ⟨menu, bench₂, -, h⟩ := Bench.perform_bind_inv h
  obtain ⟨_, bench₃, -, h⟩ := Bench.perform_bind_inv h
  obtain ⟨⟨answered, consulted⟩, bench₄, -, h⟩ := Bench.perform_bind_inv h
  obtain ⟨⟨closed, ended⟩, bench₅, -, h⟩ := Bench.perform_bind_inv h
  obtain ⟨choice, bench₆, -, h⟩ := Bench.perform_bind_inv h
  obtain ⟨moved, bench₇, -, h⟩ := Bench.perform_bind_inv h
  obtain ⟨_, bench₈, -, h⟩ := Bench.perform_bind_inv h
  cases h
  rfl

/-- The runs of some tests tell of their directories, in the order of the tests. -/
theorem runEach_directories {directories : List Path} {runs : List TrialRun}
    (h : bench.perform (runEach settings machine operator directories) = (.ok runs, after)) :
    runs.map (·.directory) = directories := by
  induction directories generalizing bench runs with
  | nil =>
    cases h
    rfl
  | cons directory rest ih =>
    obtain ⟨run, bench₁, hrun, h⟩ := Bench.perform_bind_inv h
    obtain ⟨others, bench₂, hothers, h⟩ := Bench.perform_bind_inv h
    cases h
    rw [List.map_cons, runAt_directory hrun, ih hothers]

/-- The run of a test leaves the tests that wait alone at every moment, and another test that has
been begun can be run then as before. -/
theorem runAt_sameQueue (hmachine : machine.WritesOnlyLogs) (hoperator : operator.OnlyChooses)
    (hruns : settings.workspace.Runs w name bench)
    (hfront : bench.files.HasPlainFront (Root.running.place w ++ [name])) :
    bench.Passes (Node.SameQueue w) (bench.perform
        (runAt settings machine operator (settings.workspace.running.join name))).2
      ∧ ∀ other ≠ name, settings.workspace.Runs w other bench →
        bench.files.HasPlainFront (Root.running.place w ++ [other]) →
        settings.workspace.Runs w other (bench.perform
            (runAt settings machine operator (settings.workspace.running.join name))).2
          ∧ (bench.perform (runAt settings machine operator
            (settings.workspace.running.join name))).2.files.HasPlainFront
              (Root.running.place w ++ [other]) := by
  -- Whether the operator deletes the test is of no account here.
  have hchanges : bench.Changes w name True (bench.perform
      (runAt settings machine operator (settings.workspace.running.join name))).2 :=
    runAt_changes hmachine hoperator hruns hfront fun _ _ _ => trivial
  refine ⟨hchanges.imp Node.Changes.sameQueue, fun other hother hruns' hfront' => ?_⟩
  have hsame : ∀ below, (bench.perform (runAt settings machine operator
        (settings.workspace.running.join name))).2.files.get? (Root.running.place w ++ [other] ++ below)
      = bench.files.get? (Root.running.place w ++ [other] ++ below) := fun below =>
    hchanges.files.get?_of_apart
      ((Root.entries_apart (Ne.symm hother) .running w).append_right below)
      (((Root.place_apart (by decide : Root.results ≠ .running) w).append_right
        [other]).append_right below)
  refine ⟨⟨?_, hruns'.plain, hruns'.short, ?_⟩, fun content runnable text hnode => ?_⟩
  · rw [hchanges.here]
    exact hchanges.files.leads hruns.root
  · obtain ⟨entries, hentries⟩ := hruns'.dir
    exact ⟨entries, by simpa using (hsame []).trans (by simpa using hentries)⟩
  · rw [hsame] at hnode
    exact hfront' content runnable text hnode

/-- Running tests that have been begun, one after the other, leaves the tests that wait alone at
every moment, also where it fails. -/
theorem runEach_sameQueue (hmachine : machine.WritesOnlyLogs) (hoperator : operator.OnlyChooses)
    (hnodup : names.Nodup) (hruns : ∀ name ∈ names, settings.workspace.Runs w name bench
      ∧ bench.files.HasPlainFront (Root.running.place w ++ [name])) :
    bench.Passes (Node.SameQueue w) (bench.perform
      (runEach settings machine operator (names.map settings.workspace.running.join))).2 := by
  induction names generalizing bench with
  | nil => exact .refl rfl
  | cons name rest ih =>
    obtain ⟨hname, hrest⟩ := List.nodup_cons.mp hnodup
    obtain ⟨hruns₁, hfront₁⟩ := hruns name List.mem_cons_self
    obtain ⟨hfirst, hothers⟩ := runAt_sameQueue hmachine hoperator hruns₁ hfront₁
    rw [List.map_cons, runEach]
    rcases hrun : bench.perform
      (runAt settings machine operator (settings.workspace.running.join name)) with
      ⟨failure | run, between⟩
    all_goals rw [hrun] at hfirst hothers
    · -- The first run that fails is the last.
      rw [Bench.perform_bind_error hrun]
      exact hfirst
    · rw [Bench.perform_bind_ok hrun]
      have hlater := ih hrest fun other hother =>
        hothers other (fun heq => hname (heq ▸ hother))
          (hruns other (List.mem_cons_of_mem _ hother)).1
          (hruns other (List.mem_cons_of_mem _ hother)).2
      rcases heach : between.perform
        (runEach settings machine operator (rest.map settings.workspace.running.join)) with
        ⟨failure | runs, last⟩
      all_goals rw [heach] at hlater
      · rw [Bench.perform_bind_error heach]
        exact hfirst.trans .trans hlater
      · rw [Bench.perform_bind_ok heach]
        exact hfirst.trans .trans hlater

end Trial

section Cycle

variable {settings : Settings} {machine : Machine} {operator : Operator} {workspace : Workspace}
  {w : Place} {name first : String} {names names' rest : List String} {bench after : Bench}
  {outcome : Except Error CycleResult}

/-- A test in the running root can be run. -/
theorem Node.HoldsTests.runs (h : bench.files.HoldsTests (Root.running.place w) names)
    (hw : workspace.root.Leads bench.files bench.here w) (hname : name ∈ names) :
    workspace.Runs w name bench ∧ bench.files.HasPlainFront (Root.running.place w ++ [name]) := by
  obtain ⟨entries, node, -, -, htest⟩ := h.get?_dir hname
  exact ⟨⟨hw, htest.plain, htest.short, h.hasDir hname⟩, h.front hname⟩

/-- Claiming a test leaves the tests that wait alone, but for the first of them, at every moment. If
it succeeds the first test is gone, and can be run. -/
theorem Workspace.claim_dequeues (hw : workspace.root.Leads bench.files bench.here w)
    (hpending : bench.files.HoldsTests (Root.pending.place w) names)
    (hfirst : bench.files.queueAt (Root.pending.place w) = first :: rest) (boot : BootId) :
    bench.Passes (Node.KeepsOthers w first) (bench.perform (workspace.claim boot)).2
      ∧ ∀ directory, (bench.perform (workspace.claim boot)).1 = .ok directory →
        directory = workspace.running.join (runningName first boot)
          ∧ Node.Dequeued w first bench.files (bench.perform (workspace.claim boot)).2.files
          ∧ workspace.Runs w (runningName first boot) (bench.perform (workspace.claim boot)).2
          ∧ (bench.perform (workspace.claim boot)).2.files.HasPlainFront
            (Root.running.place w ++ [runningName first boot]) := by
  have hmakes : ∀ {after : Bench}, bench.RootMade .running w after →
      bench.Passes (Node.SameQueue w) after := by
    intro after hmade
    have hsame : Node.SameQueue w bench.files after.files := by
      simpa [Node.SameQueue] using hmade.get?_other (by decide : Root.running ≠ .pending) []
    rcases hmade with rfl | ⟨-, -, -, -, -, rfl⟩
    · exact .refl rfl
    · exact .stepTo hsame
  rcases claim_steps_first hw hpending.isListing boot with ⟨failure, after, hclaim, hmade⟩ |
    ⟨waiting, name, more, made, entries, hwaiting, hname, hmade, hnode, hplace, hshort, hclaim⟩
  · rw [hclaim]
    exact ⟨(hmakes hmade).imp .inl, fun directory hok => by cases hok⟩
  obtain rfl : name = first := by
    rw [Node.queueAt_dir hwaiting, hname] at hfirst
    exact (List.cons.inj hfirst).1
  have hmade' := hmade.spared hw
  have htest := (hmade'.files .pending names hpending).isTest hnode
  have hruns := runs_moved hmade'.root htest.plain hplace hshort entries
  have hfront :=
    (Node.hasPlainFront_iff (get?_moved hplace name (runningName name boot) entries)).mpr htest.front
  have hmoved : Node.Dequeued w name made.files ((made.files.erase
      (Root.pending.place w ++ [name])).put (.dir entries)
        (Root.running.place w ++ [runningName name boot])) :=
    .move (Eq.trans (hmakes hmade).files hwaiting)
  generalize (made.files.erase (Root.pending.place w ++ [name])).put (.dir entries)
    (Root.running.place w ++ [runningName name boot]) = files at hclaim hruns hfront hmoved
  -- What is written into the directory in the running root is apart from the tests that wait.
  have hbind : (made.stepTo files).Inside (Root.running.place w ++ [runningName name boot])
      (· = prefixName) (fun _ => True) ((made.stepTo files).perform
        (bindTo (workspace.running.join (runningName name boot)) boot)).2 :=
    bindTo_staysIn (by decide) trivial boot (made.stepTo files) hruns.leads
  have hwritten : ∀ {after : Bench}, (made.stepTo files).Inside
      (Root.running.place w ++ [runningName name boot]) (· = prefixName) (fun _ => True) after →
      bench.Passes (Node.KeepsOthers w name) after
        ∧ Node.Dequeued w name bench.files after.files := by
    intro after hinside
    have happart := ((Root.place_apart (by decide : Root.pending ≠ .running) w).append_right
      [runningName name boot]).symm
    obtain ⟨moments, hmoments, hmem⟩ := hinside.history
    have hsame : (made.stepTo files).Passes (Node.SameQueue w) after :=
      ⟨hinside.here, hinside.files.get?_of_apart happart, moments, hmoments,
        fun moment hin => (hmem moment hin).2.get?_of_apart happart⟩
    have hstep : made.Passes (Node.KeepsOthers w name) (made.stepTo files) := .stepTo (.inr hmoved)
    exact ⟨(((hmakes hmade).imp .inl).trans .trans hstep).trans .trans (hsame.imp .inl),
      (hmoved.behind (hmakes hmade).files).since hsame.files⟩
  rw [hclaim]
  rcases hperform : (made.stepTo files).perform
    (bindTo (workspace.running.join (runningName name boot)) boot) with ⟨failure | _, after⟩
  all_goals
    rw [hperform] at hbind
    obtain ⟨hpasses, hdequeued⟩ := hwritten hbind
  · rw [Bench.perform_bind_error hperform]
    exact ⟨hpasses, fun directory hok => by cases hok⟩
  · rw [Bench.perform_bind_ok hperform]
    refine ⟨hpasses, ?_⟩
    rintro _ ⟨⟩
    exact ⟨rfl, hdequeued, hruns.inside hbind, hfront.inside hbind.files rfl⟩

/-- What a cycle on a bench does with the tests: it goes on with all tests that have been begun, or
begins the first that waits, or does nothing. -/
structure Bench.Dispatches (settings : Settings) (machine : Machine) (operator : Operator)
    (w : Place) (bench : Bench) : Prop where
  /-- The tests of a root are the directories in it, by ordinal and then by name. -/
  ordered : ∀ r : Root, (bench.files.queueAt (r.place w)).Perm (bench.files.namesAt (r.place w))
    ∧ (bench.files.queueAt (r.place w)).Pairwise (precedes · · = true)
  /-- Where tests have been begun it goes on with each of them, in their order. The tests that wait
  are left alone at every moment, also if it fails. -/
  resumes : bench.files.queueAt (Root.running.place w) ≠ [] →
    (∀ files, bench.Stood (bench.perform (performCycle settings machine operator)).2 files →
      Node.SameQueue w bench.files files)
    ∧ ∀ result, (bench.perform (performCycle settings machine operator)).1 = .ok result →
      ∃ runs, result = .resumed runs ∧ runs.map (·.directory)
        = (bench.files.queueAt (Root.running.place w)).map settings.workspace.running.join
  /-- Where no test has been begun but tests wait it begins the first of them, in the boot that the
  machine names. The others are left alone at every moment, also if it fails. -/
  begins : ∀ first rest, bench.files.queueAt (Root.running.place w) = [] →
    bench.files.queueAt (Root.pending.place w) = first :: rest →
    (∀ files, bench.Stood (bench.perform (performCycle settings machine operator)).2 files →
      Node.KeepsOthers w first bench.files files)
    ∧ ∀ result, (bench.perform (performCycle settings machine operator)).1 = .ok result →
      ∃ boot run, result = .started run ∧ bench.Claims settings machine boot
        ∧ run.directory = settings.workspace.running.join (runningName first boot)
        ∧ Node.Dequeued w first bench.files
          (bench.perform (performCycle settings machine operator)).2.files
  /-- Where there is no test it changes nothing and asks nobody, also if it fails. -/
  idles : bench.files.queueAt (Root.running.place w) = [] →
    bench.files.queueAt (Root.pending.place w) = [] →
    (bench.perform (performCycle settings machine operator)).2 = bench
    ∧ ∀ result, (bench.perform (performCycle settings machine operator)).1 = .ok result →
      result = .idle

/-- What is read of whether a root is occupied that holds tests. -/
theorem isOccupied_cases {r : Root} (hw : workspace.root.Leads bench.files bench.here w)
    (hholds : bench.files.HoldsTests (r.place w) names) :
    (∃ failure, bench.perform (isOccupied (workspace.path r)) = (.error failure, bench))
      ∨ bench.perform (isOccupied (workspace.path r))
        = (.ok !(bench.files.queueAt (r.place w)).isEmpty, bench) := by
  have hread : bench = (bench.perform (isOccupied (workspace.path r))).2 :=
    isOccupied_keeps (R := Eq) (workspace.path r) bench
  rcases hoccupied : bench.perform (isOccupied (workspace.path r)) with ⟨failure | occupied, after⟩
  all_goals
    rw [hoccupied] at hread
    obtain rfl := hread
  · exact .inl ⟨failure, rfl⟩
  · have hqueue : (bench.files.queueAt (r.place w)).isEmpty
        = (bench.files.namesAt (r.place w)).isEmpty := by
      rw [hholds.namesAt_eq, Bool.eq_iff_iff, List.isEmpty_iff, List.isEmpty_iff]
      exact ⟨fun h => List.nil_perm.mp (h ▸ hholds.queueAt.1),
        fun h => List.perm_nil.mp (h ▸ hholds.queueAt.1)⟩
    rw [hqueue, ← isOccupied_ok hw hoccupied]
    exact .inr rfl

/-- A cycle where tests have been begun. -/
theorem performCycle_resumes (hmachine : machine.WritesOnlyLogs) (hoperator : operator.OnlyChooses)
    (hw : settings.workspace.root.Leads bench.files bench.here w)
    (hbegun : bench.files.HoldsTests (Root.running.place w) names)
    (hsome : bench.files.queueAt (Root.running.place w) ≠ [])
    (h : bench.perform (performCycle settings machine operator) = (outcome, after)) :
    bench.Passes (Node.SameQueue w) after
      ∧ ∀ result, outcome = .ok result → ∃ runs, result = .resumed runs ∧ runs.map (·.directory)
        = (bench.files.queueAt (Root.running.place w)).map settings.workspace.running.join := by
  have hfails : ∀ {failure}, (outcome, after) = (Except.error failure, bench) →
      bench.Passes (Node.SameQueue w) after
        ∧ ∀ result, outcome = .ok result → ∃ runs, result = .resumed runs ∧ runs.map (·.directory)
          = (bench.files.queueAt (Root.running.place w)).map settings.workspace.running.join := by
    rintro failure ⟨⟩
    exact ⟨.refl rfl, fun result hok => by cases hok⟩
  rcases isOccupied_cases (r := .running) hw hbegun with ⟨failure, hoccupied⟩ | hoccupied
  · exact hfails (h.symm.trans (Bench.perform_bind_error hoccupied _))
  rw [List.isEmpty_eq_false_iff.mpr hsome] at hoccupied
  replace h := (Bench.perform_bind_ok hoccupied _).symm.trans h
  rw [if_pos (by rfl)] at h
  have hread : bench = (bench.perform (testsIn settings.workspace.running)).2 :=
    testsIn_keeps (R := Eq) settings.workspace.running bench
  rcases htests : bench.perform (testsIn settings.workspace.running) with
    ⟨failure | directories, read⟩
  all_goals
    rw [htests] at hread
    obtain rfl := hread
  · exact hfails (h.symm.trans (Bench.perform_bind_error htests _))
  -- The tests that are listed are those in the queue.
  obtain rfl : directories
      = (bench.files.queueAt (Root.running.place w)).map settings.workspace.running.join := by
    rcases testsIn_ok (r := .running) hw htests with ⟨-, hnone⟩ | ⟨entries, hentries, hlisted⟩
    · rw [Node.queueAt, hnone] at hsome
      exact absurd rfl hsome
    · rw [Node.queueAt_dir hentries]
      exact hlisted
  rw [Bench.perform_bind_ok htests] at h
  have hperm := hbegun.queueAt.1
  have hnodup : names.Nodup := by
    obtain ⟨-, -, -, hnodup, -⟩ := hbegun
    exact hnodup
  have hsame := Trial.runEach_sameQueue hmachine hoperator (hperm.nodup_iff.mpr hnodup)
    fun name hname => hbegun.runs hw (hperm.mem_iff.mp hname)
  rcases heach : bench.perform (Trial.runEach settings machine operator
    ((bench.files.queueAt (Root.running.place w)).map settings.workspace.running.join)) with
    ⟨failure | runs, last⟩
  all_goals rw [heach] at hsame
  · obtain ⟨rfl, rfl⟩ := Prod.mk.inj (h.symm.trans (Bench.perform_bind_error heach _))
    exact ⟨hsame, fun result hok => by cases hok⟩
  · obtain ⟨rfl, rfl⟩ := Prod.mk.inj (h.symm.trans (Bench.perform_bind_ok heach _))
    refine ⟨hsame, ?_⟩
    rintro _ ⟨⟩
    exact ⟨runs, rfl, Trial.runEach_directories heach⟩

/-- A cycle where no test has been begun looks at the tests that wait. -/
theorem performCycle_looks (hw : settings.workspace.root.Leads bench.files bench.here w)
    (hbegun : bench.files.HoldsTests (Root.running.place w) names)
    (hnone : bench.files.queueAt (Root.running.place w) = []) :
    (∃ failure, bench.perform (cycleToClaim settings machine) = (.error failure, bench)
        ∧ bench.perform (performCycle settings machine operator) = (.error failure, bench))
      ∨ bench.perform (cycleToClaim settings machine) = bench.perform (do
          if ← isOccupied settings.workspace.pending then
            let _ ← settings.menu (.ofBoot true)
            return some (← machine.ask .currentBoot)
          else return none)
        ∧ bench.perform (performCycle settings machine operator) = bench.perform (do
          if ← isOccupied settings.workspace.pending then
            let _ ← settings.menu (.ofBoot true)
            let boot ← machine.ask .currentBoot
            let directory ← settings.workspace.claim boot
            return .started (← Trial.runAt settings machine operator directory)
          else return .idle) := by
  rcases isOccupied_cases (r := .running) hw hbegun with ⟨failure, hoccupied⟩ | hoccupied
  · exact .inl ⟨failure, Bench.perform_bind_error hoccupied _, Bench.perform_bind_error hoccupied _⟩
  · rw [hnone] at hoccupied
    exact .inr ⟨Bench.perform_bind_ok hoccupied _, Bench.perform_bind_ok hoccupied _⟩

/-- A cycle where there is no test. -/
theorem performCycle_idles (hw : settings.workspace.root.Leads bench.files bench.here w)
    (hbegun : bench.files.HoldsTests (Root.running.place w) names)
    (hwaiting : bench.files.HoldsTests (Root.pending.place w) names')
    (hnone : bench.files.queueAt (Root.running.place w) = [])
    (hnone' : bench.files.queueAt (Root.pending.place w) = [])
    (h : bench.perform (performCycle settings machine operator) = (outcome, after)) :
    after = bench ∧ ∀ result, outcome = .ok result → result = .idle := by
  rcases performCycle_looks hw hbegun hnone with ⟨failure, -, hcycle⟩ | ⟨-, hcycle⟩
  · obtain ⟨rfl, rfl⟩ := Prod.mk.inj (h.symm.trans hcycle)
    exact ⟨rfl, fun result hok => by cases hok⟩
  rcases isOccupied_cases (r := .pending) hw hwaiting with ⟨failure, hoccupied⟩ | hoccupied
  · obtain ⟨rfl, rfl⟩ :=
      Prod.mk.inj (h.symm.trans (hcycle.trans (Bench.perform_bind_error hoccupied _)))
    exact ⟨rfl, fun result hok => by cases hok⟩
  · rw [hnone'] at hoccupied
    obtain ⟨rfl, rfl⟩ :=
      Prod.mk.inj (h.symm.trans (hcycle.trans (Bench.perform_bind_ok hoccupied _)))
    exact ⟨rfl, fun result hok => (Except.ok.inj hok).symm⟩

/-- A cycle where no test has been begun but tests wait. -/
theorem performCycle_begins (hmachine : machine.WritesOnlyLogs) (hoperator : operator.OnlyChooses)
    (hw : settings.workspace.root.Leads bench.files bench.here w)
    (hbegun : bench.files.HoldsTests (Root.running.place w) names)
    (hwaiting : bench.files.HoldsTests (Root.pending.place w) names')
    (hnone : bench.files.queueAt (Root.running.place w) = [])
    (hfirst : bench.files.queueAt (Root.pending.place w) = first :: rest)
    (h : bench.perform (performCycle settings machine operator) = (outcome, after)) :
    bench.Passes (Node.KeepsOthers w first) after
      ∧ ∀ result, outcome = .ok result → ∃ boot run, result = .started run
        ∧ bench.Claims settings machine boot
        ∧ run.directory = settings.workspace.running.join (runningName first boot)
        ∧ Node.Dequeued w first bench.files after.files := by
  have hfails : ∀ {failure} {last : Bench}, bench.Passes (Node.KeepsOthers w first) last →
      (outcome, after) = (Except.error failure, last) →
      bench.Passes (Node.KeepsOthers w first) after
        ∧ ∀ result, outcome = .ok result → ∃ boot run, result = .started run
          ∧ bench.Claims settings machine boot
          ∧ run.directory = settings.workspace.running.join (runningName first boot)
          ∧ Node.Dequeued w first bench.files after.files := by
    rintro failure last hpasses ⟨⟩
    exact ⟨hpasses, fun result hok => by cases hok⟩
  rcases performCycle_looks hw hbegun hnone with ⟨failure, -, hcycle⟩ | ⟨hclaims, hcycle⟩
  · exact hfails (.refl (.inl rfl)) (h.symm.trans hcycle)
  replace h := hcycle.symm.trans h
  rcases isOccupied_cases (r := .pending) hw hwaiting with ⟨failure, hoccupied⟩ | hoccupied
  · exact hfails (.refl (.inl rfl)) (h.symm.trans (Bench.perform_bind_error hoccupied _))
  rw [hfirst] at hoccupied
  replace h := (Bench.perform_bind_ok hoccupied _).symm.trans h
  replace hclaims := hclaims.trans (Bench.perform_bind_ok hoccupied _)
  rw [List.isEmpty_cons, Bool.not_false, if_pos rfl] at h hclaims
  -- The menu and the boot leave the files alone.
  have hread := settings.menu_unmoved (.ofBoot true) bench
  rcases hmenu : bench.perform (settings.menu (.ofBoot true)) with ⟨failure | menu, read⟩
  all_goals
    rw [hmenu] at hread
    have hpasses₁ : bench.Passes (Node.KeepsOthers w first) read := .of_unmoved hread (.inl rfl)
  · exact hfails hpasses₁ (h.symm.trans (Bench.perform_bind_error hmenu _))
  replace h := (Bench.perform_bind_ok hmenu _).symm.trans h
  replace hclaims := hclaims.trans (Bench.perform_bind_ok hmenu _)
  have hquiet : Bench.Quiet (fun _ => True) read (read.perform (machine.ask .currentBoot)).2 :=
    hmachine.ask_quiet rfl trivial trivial read
  rcases hask : read.perform (machine.ask .currentBoot) with ⟨failure | boot, ready⟩
  all_goals
    rw [hask] at hquiet
    have hfiles : ready.files = bench.files := hquiet.files.trans hread.files
    have hpasses₂ : bench.Passes (Node.KeepsOthers w first) ready := by
      obtain ⟨moments, hmoments, hmem⟩ := hquiet.history
      refine hpasses₁.trans .trans
        ⟨hquiet.here, .inl ?_, moments, hmoments, fun moment hin => .inl ?_⟩
      · rw [Node.SameQueue, hquiet.files]
      · rw [Node.SameQueue, (hmem moment hin).2]
  · exact hfails hpasses₂ (h.symm.trans (Bench.perform_bind_error hask _))
  replace h := (Bench.perform_bind_ok hask _).symm.trans h
  have hclaimed : bench.Claims settings machine boot :=
    congrArg Prod.fst (hclaims.trans (Bench.perform_bind_ok hask _))
  -- The first test is claimed and run.
  have hw' : settings.workspace.root.Leads ready.files ready.here w := by
    rw [hfiles, hquiet.here, hread.here]
    exact hw
  obtain ⟨hpasses₃, hdequeues⟩ :=
    Workspace.claim_dequeues hw' (hfiles ▸ hwaiting) (hfiles ▸ hfirst) boot
  rcases hclaim : ready.perform (settings.workspace.claim boot) with ⟨failure | directory, claimed⟩
  all_goals
    rw [hclaim] at hpasses₃ hdequeues
    replace hpasses₃ := hpasses₂.trans .trans hpasses₃
  · exact hfails hpasses₃ (h.symm.trans (Bench.perform_bind_error hclaim _))
  replace h := (Bench.perform_bind_ok hclaim _).symm.trans h
  obtain ⟨rfl, hdequeued, hruns, hfront⟩ := hdequeues directory rfl
  obtain ⟨hsame, -⟩ := Trial.runAt_sameQueue hmachine hoperator hruns hfront
  rcases hrun : claimed.perform (Trial.runAt settings machine operator
    (settings.workspace.running.join (runningName first boot))) with ⟨failure | run, last⟩
  all_goals
    rw [hrun] at hsame
    have hpasses₄ := hpasses₃.trans .trans (hsame.imp .inl)
  · exact hfails hpasses₄ (h.symm.trans (Bench.perform_bind_error hrun _))
  · obtain ⟨rfl, rfl⟩ := Prod.mk.inj (h.symm.trans (Bench.perform_bind_ok hrun _))
    refine ⟨hpasses₄, ?_⟩
    rintro _ ⟨⟩
    exact ⟨boot, run, rfl, hclaimed, Trial.runAt_directory hrun,
      (hfiles ▸ hdequeued).since hsame.files⟩

/-- What a cycle does with the tests of a workspace whose roots hold nothing but tests. -/
theorem performCycle_dispatches (hmachine : machine.WritesOnlyLogs)
    (hoperator : operator.OnlyChooses)
    (hw : settings.workspace.root.Leads bench.files bench.here w)
    (hholds : ∀ r : Root, ∃ names, bench.files.HoldsTests (r.place w) names) :
    bench.Dispatches settings machine operator w := by
  obtain ⟨begun, hbegun⟩ := hholds .running
  obtain ⟨waiting, hwaiting⟩ := hholds .pending
  refine ⟨fun r => ?_, fun hsome => ?_, fun first rest hnone hfirst => ?_, fun hnone hnone' => ?_⟩
  · obtain ⟨names, hnames⟩ := hholds r
    rw [hnames.namesAt_eq]
    exact hnames.queueAt
  · obtain ⟨hpasses, hresult⟩ := performCycle_resumes hmachine hoperator hw hbegun hsome rfl
    exact ⟨fun files hstood => hpasses.stood rfl hstood, hresult⟩
  · obtain ⟨hpasses, hresult⟩ :=
      performCycle_begins hmachine hoperator hw hbegun hwaiting hnone hfirst rfl
    exact ⟨fun files hstood => hpasses.stood (.inl rfl) hstood, hresult⟩
  · exact performCycle_idles hw hbegun hwaiting hnone hnone' rfl

end Cycle

/-- On a workspace that has been reached a cycle goes on with the tests that have been begun, or
begins the first test that waits, or has nothing to do. Whatever fails, the tests that wait are left
alone where tests have been begun, and one of them at most has left them, which is the first. -/
theorem Workspace.Reaches.dispatches {settings : Settings} {machine : Machine} {operator : Operator}
    {w : Place} {torn : String → Prop} {bench : Bench} (h : settings.workspace.Reaches w torn bench)
    (hmachine : machine.WritesOnlyLogs) (hoperator : operator.OnlyChooses) :
    bench.Dispatches settings machine operator w := by
  obtain ⟨hsound, -⟩ := h.sound
  exact performCycle_dispatches hmachine hoperator hsound.leads hsound.holds

/-- The workspace of `freshBench` once its scenario has been enrolled. -/
def waitingBench : Bench :=
  (freshBench.perform (enroll {})).2

/-- It is reached. -/
theorem waitingBench_reached :
    (Settings.workspace {}).Reaches [] (fun _ => False) waitingBench := by
  rw [waitingBench]
  exact .enrolled (.fresh freshBench_isFresh)

set_option maxRecDepth 100000 in
/-- A cycle begins the test that waits, in the boot that the machine names. -/
theorem Workspace.Reaches.dispatches_waiting :
    waitingBench.files.queueAt (Root.pending.place []) = ["1-power--mode-s2idle__result-"]
      ∧ ∃ boot run, (waitingBench.perform
            (performCycle {} (.scripted ⟨"b00t", sameBoot_isId⟩ []) .scripted)).1 = .ok (.started run)
        ∧ waitingBench.Claims {} (.scripted ⟨"b00t", sameBoot_isId⟩ []) boot
        ∧ run.directory = (Settings.workspace {}).running.join
            (runningName "1-power--mode-s2idle__result-" boot)
        ∧ Node.Dequeued [] "1-power--mode-s2idle__result-" waitingBench.files
            (waitingBench.perform
              (performCycle {} (.scripted ⟨"b00t", sameBoot_isId⟩ []) .scripted)).2.files := by
  let machine : Machine := .scripted ⟨"b00t", sameBoot_isId⟩ []
  have hfacts : waitingBench.files.queueAt (Root.running.place []) = []
      ∧ waitingBench.files.queueAt (Root.pending.place []) = ["1-power--mode-s2idle__result-"]
      ∧ (waitingBench.perform (performCycle {} machine .scripted)).1.isOk = true := by
    decide +kernel
  obtain ⟨hnone, hwaiting, hok⟩ := hfacts
  have hdispatches : waitingBench.Dispatches {} machine .scripted [] :=
    Workspace.Reaches.dispatches waitingBench_reached (Machine.scripted_writesOnlyLogs _ _)
      Operator.scripted_onlyChooses
  rcases hcycle : waitingBench.perform (performCycle {} machine .scripted) with
    ⟨failure | result, after⟩
  all_goals rw [hcycle] at hok
  · cases hok
  · obtain ⟨boot, run, rfl, hclaims, hdirectory, hdequeued⟩ :=
      (hdispatches.begins _ _ hnone hwaiting).2 result (by rw [hcycle])
    rw [hcycle] at hdequeued
    exact ⟨hwaiting, boot, run, rfl, hclaims, hdirectory, hdequeued⟩

end BootTrial
