import BootTrial.Proofs.Filling
import BootTrial.Proofs.Naming
import BootTrial.Proofs.Undisturbed

/-!
# Putting a batch together

A batch is put together in the staging directory, which is apart from the roots: nothing of this
disturbs them. If it succeeds the staging directory holds just the batch (`Workspace.stage_cases`):
one directory for each row, with its files. It succeeds for every batch that the workspace admits
(`Workspace.AdmitsFrom`), whatever an earlier one has left in the staging directory.
-/

namespace BootTrial

/-- Tests that wait have different names if they have different ordinals. -/
theorem pendingName_ne {ordinal ordinal' : Nat} (h : ordinal ≠ ordinal') (template : String)
    (scenario scenario' : Scenario) :
    pendingName ordinal template scenario ≠ pendingName ordinal' template scenario' := by
  -- The ordinal is what stands in front of the first hyphen.
  have hfront : ∀ (n : Nat) (scenario : Scenario),
      (pendingName n template scenario).toList.takeWhile (· ≠ '-') = (toString n).toList := by
    intro n scenario
    have hname : (pendingName n template scenario).toList = (toString n).toList
        ++ '-' :: (template.toList ++ separator.toList ++ scenario.fragment.toList) := by
      simp [pendingName, logPrefix]
    rw [hname, List.takeWhile_append_of_pos]
    · simp
    · intro c hc
      have hdigit := isDigit_of_mem_toString hc
      simp only [ne_eq, decide_not, Bool.not_eq_true', decide_eq_false_iff_not]
      rintro rfl
      cases hdigit
  intro hname
  have hordinals : toString ordinal = toString ordinal' := by
    rw [← String.toList_inj, ← hfront ordinal scenario, ← hfront ordinal' scenario', hname]
  exact h (toString_inj hordinals)

/-- What is written when a test is made goes into its directory. -/
theorem fillTest_staysIn {p : Path} {d : Place} {name : String} (hname : IsPlain name)
    (header : List String) (front : String) (scenario : Scenario) :
    Keeps (Bench.StaysIn (p.join name) d (fun _ => False) (fun _ => True))
      (fillTest (p.join name) header front scenario) :=
  (Scenario.write_staysIn hname id id trivial header scenario).bind fun _ =>
    (FileWork.writeFile_staysIn prefixName_isPlain id trivial (Text.encode front)).reportedAs _

/-- The directory of a test that waits is that of a test. -/
theorem Node.isTest_testEntries {name front : String} (hname : IsPlain name)
    (hshort : name.utf8ByteSize ≤ nameLimit) (hfront : '/' ∉ front.toList) (header : List String)
    (scenario : Scenario) : IsTest name (.dir (testEntries header front scenario)) :=
  ⟨hname, hshort, rfl, hasPlainFront_of_file (d := []) rfl hfront⟩

/-- The directories of a batch whose tests are numbered from `ordinal` on. -/
def batchFrom (template : String) (header : List String) : Nat → List Scenario → Named Node
  | _, [] => []
  | ordinal, scenario :: rest =>
    (pendingName ordinal template scenario,
        .dir (testEntries header (logPrefix ordinal template) scenario))
      :: batchFrom template header (ordinal + 1) rest

/-- The directory of each record of a batch. -/
theorem getElem?_batchFrom (template : String) (header : List String) (ordinal : Nat)
    (scenarios : List Scenario) (i : Nat) :
    (batchFrom template header ordinal scenarios)[i]? = scenarios[i]?.map fun scenario =>
      (pendingName (ordinal + i) template scenario,
        .dir (testEntries header (logPrefix (ordinal + i) template) scenario)) := by
  induction scenarios generalizing ordinal i with
  | nil => rfl
  | cons scenario rest ih =>
    cases i with
    | zero => rfl
    | succ i => simpa [batchFrom, Nat.add_comm 1 i, Nat.add_assoc] using ih (ordinal + 1) i

/-- The directories of a batch carry their ordinals, and each is that of a record of the batch. -/
theorem mem_batchFrom {template : String} {header : List String} {ordinal : Nat}
    {scenarios : List Scenario} {entry : String × Node}
    (h : entry ∈ batchFrom template header ordinal scenarios) :
    ∃ number scenario, ordinal ≤ number ∧ scenario ∈ scenarios
      ∧ entry = (pendingName number template scenario,
        .dir (testEntries header (logPrefix number template) scenario)) := by
  induction scenarios generalizing ordinal with
  | nil => cases h
  | cons scenario rest ih =>
    rcases List.mem_cons.mp h with rfl | h
    · exact ⟨ordinal, scenario, Nat.le_refl _, List.mem_cons_self, rfl⟩
    · obtain ⟨number, scenario, hle, hmem, hentry⟩ := ih h
      exact ⟨number, scenario, by omega, List.mem_cons_of_mem _ hmem, hentry⟩

/-- There is a test for each row. -/
theorem length_names_batchFrom (template : String) (header : List String) (ordinal : Nat)
    (scenarios : List Scenario) :
    (batchFrom template header ordinal scenarios).names.length = scenarios.length := by
  induction scenarios generalizing ordinal with
  | nil => rfl
  | cons scenario rest ih => exact congrArg (· + 1) (ih (ordinal + 1))

/-- No two tests of a batch have one name. -/
theorem nodup_names_batchFrom (template : String) (header : List String) (ordinal : Nat)
    (scenarios : List Scenario) : (batchFrom template header ordinal scenarios).names.Nodup := by
  induction scenarios generalizing ordinal with
  | nil => exact List.nodup_nil
  | cons scenario rest ih =>
    refine List.nodup_cons.mpr ⟨fun hmem => ?_, ih (ordinal + 1)⟩
    obtain ⟨entry, hentry, hname⟩ := List.mem_map.mp hmem
    obtain ⟨number, scenario', hle, -, rfl⟩ := mem_batchFrom hentry
    exact pendingName_ne (by omega) template scenario' scenario hname

/-- A batch whose names are not too long consists of tests. -/
theorem Node.holdsTests_batchFrom {root : Node} {d : Place} {template : String}
    {header : List String} {ordinal : Nat} {scenarios : List Scenario}
    (h : root.get? d = some (.dir (batchFrom template header ordinal scenarios)))
    (hshort : ∀ name ∈ (batchFrom template header ordinal scenarios).names,
      name.utf8ByteSize ≤ nameLimit)
    (htemplate : scenarios = [] ∨ '/' ∉ template.toList) :
    root.HoldsTests d (batchFrom template header ordinal scenarios).names := by
  refine ⟨_, .inl h, rfl, nodup_names_batchFrom .., fun entry hentry => ?_⟩
  rcases htemplate with rfl | htemplate
  · cases hentry
  · have hname := hshort entry.1 (List.mem_map_of_mem hentry)
    obtain ⟨number, scenario, -, -, rfl⟩ := mem_batchFrom hentry
    exact isTest_testEntries (isPlain_pendingName htemplate number scenario) hname
      (slash_not_mem_logPrefix htemplate number) header scenario

namespace Workspace

variable {workspace : Workspace} {w : Place} {template : String} {header : List String}
  {bench : Bench} {ordinal : Nat} {entries : List (String × Node)}

/-- The workspace has room for a test under a name. -/
structure HasRoom (workspace : Workspace) (name : String) : Prop where
  /-- The name is that of one entry. -/
  slashless : '/' ∉ name.toList
  /-- It is not too long. -/
  short : name.utf8ByteSize ≤ nameLimit
  /-- The paths of its files are accepted while it is made. -/
  accepted : ((workspace.staging.join name).join (Scenario.draftName scenarioName)).refusal? = none

/-- The path of the workspace is so short that those of all files below it are accepted, if their
names are. -/
structure IsShallow (workspace : Workspace) : Prop where
  /-- There is no NUL in it. -/
  noNul : '\x00' ∉ workspace.runtime.text.toList
  /-- It leaves room for a root, a directory in the root and a file in the directory. -/
  short : workspace.runtime.text.utf8ByteSize + 300 ≤ pathLimit

/-- The path of a file in the directory of a test. -/
theorem text_testFile {root name file : String} (hroot : IsPlain root) (hname : IsPlain name)
    (hfile : IsPlain file) :
    (((workspace.runtime.join root).join name).join file).text
      = workspace.runtime.text ++ "/" ++ root ++ "/" ++ name ++ "/" ++ file := by
  rw [Path.text_join_join _ hname hfile, Path.text_join_join _ hroot hname, runtime,
    Path.text_join_join _ runtimeName_isPlain hroot]

/-- Where there is room for a test the path of its scenario file in the pending root is accepted,
which is shorter than that of the draft. -/
theorem HasRoom.sheet_accepted {name : String} (h : workspace.HasRoom name) (hname : IsPlain name) :
    ((workspace.pending.join name).join scenarioName).refusal? = none := by
  have hpending : ((workspace.pending.join name).join scenarioName).text = _ :=
    text_testFile pendingName_isPlain hname scenarioName_isPlain
  have hstaging : ((workspace.staging.join name).join (Scenario.draftName scenarioName)).text = _ :=
    text_testFile stagingName_isPlain hname draftName_isPlain
  have hsizes : "pending".utf8ByteSize ≤ ".staging".utf8ByteSize
      ∧ scenarioName.utf8ByteSize ≤ (Scenario.draftName scenarioName).utf8ByteSize := by decide
  have hnul : '\x00' ∉ "pending".toList ∧ '\x00' ∉ scenarioName.toList := by decide
  refine Path.refusal?_of_le h.accepted ?_ fun c hc => ?_
  · rw [hpending, hstaging]
    simp only [String.utf8ByteSize_append]
    omega
  · rw [hpending] at hc
    rw [hstaging]
    simp only [String.toList_append, List.mem_append] at hc ⊢
    grind

/-- Below a short path the path of a file in the directory of a test is accepted. -/
theorem IsShallow.refusal? (h : workspace.IsShallow) {root name file : String}
    (hroot : IsPlain root) (hname : IsPlain name) (hfile : IsPlain file)
    (hnul : ∀ part ∈ [root, name, file], '\x00' ∉ part.toList)
    (hsizes : root.utf8ByteSize ≤ 9 ∧ name.utf8ByteSize ≤ nameLimit ∧ file.utf8ByteSize ≤ 24) :
    (((workspace.runtime.join root).join name).join file).refusal? = none := by
  rw [Path.refusal?_eq_none, text_testFile hroot hname hfile]
  constructor
  · have hslash : '\x00' ∉ "/".toList := by decide
    simp only [String.toList_append, List.mem_append, not_or]
    exact ⟨⟨⟨⟨⟨⟨h.noNul, hslash⟩, hnul root (by simp)⟩, hslash⟩, hnul name (by simp)⟩, hslash⟩,
      hnul file (by simp)⟩
  · have hslash : "/".utf8ByteSize = 1 := by decide
    have hshort := h.short
    have hlimit : nameLimit = 255 := rfl
    simp only [String.utf8ByteSize_append]
    omega

/-- Below a short path there is room for a test under any name of an entry. -/
theorem HasRoom.of_isShallow {name : String} (h : workspace.IsShallow) (hname : IsPlain name)
    (hnul : '\x00' ∉ name.toList) (hshort : name.utf8ByteSize ≤ nameLimit) :
    workspace.HasRoom name := by
  refine ⟨hname.noSlash, hshort, h.refusal? stagingName_isPlain hname draftName_isPlain ?_
    ⟨by decide, hshort, by decide⟩⟩
  simp only [List.forall_mem_cons]
  exact ⟨by decide, hnul, by decide, by simp⟩

/-- The rows from `ordinal` on can be made tests of: each is a record with the names of the header,
and there is room for it. -/
def AdmitsFrom (workspace : Workspace) (template : String) (header : List String) (ordinal : Nat)
    (rows : List (Except Error Scenario)) : Prop :=
  ∃ scenarios : List Scenario, rows = scenarios.map .ok
    ∧ (∀ scenario ∈ scenarios, scenario.names = header)
    ∧ ∀ name ∈ (batchFrom template header ordinal scenarios).names, workspace.HasRoom name

/-- One row that can be read is that of one record. -/
theorem rows_single {scenario : Scenario} {scenarios : List Scenario}
    (h : [Except.ok (ε := Error) scenario] = scenarios.map .ok) : scenarios = [scenario] := by
  obtain ⟨record, rfl, hrecord⟩ := List.map_eq_singleton_iff.mp h.symm
  rw [Except.ok.inj hrecord]

/-- What is admitted is admitted row by row. -/
theorem AdmitsFrom.of_cons {row : Except Error Scenario} {rest : List (Except Error Scenario)}
    (h : workspace.AdmitsFrom template header ordinal (row :: rest)) :
    (∃ scenario, row = .ok scenario ∧ scenario.names = header
        ∧ workspace.HasRoom (pendingName ordinal template scenario))
      ∧ workspace.AdmitsFrom template header (ordinal + 1) rest := by
  obtain ⟨scenarios, hrows, hnames, hroom⟩ := h
  cases scenarios with
  | nil => cases hrows
  | cons scenario more =>
    obtain ⟨rfl, rfl⟩ := List.cons.inj hrows
    exact ⟨⟨scenario, rfl, hnames scenario List.mem_cons_self, hroom _ List.mem_cons_self⟩,
      more, rfl, fun other hother => hnames other (List.mem_cons_of_mem _ hother),
      fun name hname => hroom name (List.mem_cons_of_mem _ hname)⟩

/-- Making the directory of a test in the staging directory. -/
theorem stageTest_ok (template : String) (header : List String) (ordinal : Nat)
    (scenario : Scenario) :
    workspace.stageTest template header ordinal (.ok scenario) = do
      let name := pendingName ordinal template scenario
      (FileWork.makeDir (workspace.staging.join name)).reportedAs .ofFault
      fillTest (workspace.staging.join name) header (logPrefix ordinal template) scenario
      return name := by
  have hrow : Work.ofExcept (.ok scenario : Except Error Scenario) = pure scenario := rfl
  simp only [stageTest, fillTest, hrow, pure_bind, bind_assoc]

/-- Making the directory of a test under a name that no other has, with no slash in the template. It
succeeds if the row is a record with the names of the header and there is room for it, and then the
test stands in the staging directory behind the others. -/
theorem stageTest_cases (htemplate : '/' ∉ template.toList)
    (hstaging : bench.Lists workspace.staging (stagingPlace w) entries)
    (hfresh : ∀ scenario, pendingName ordinal template scenario ∉ Named.names entries)
    (row : Except Error Scenario) :
    (∃ failure after, bench.perform (workspace.stageTest template header ordinal row)
          = (.error failure, after)
        ∧ bench.Inside (stagingPlace w) (fun _ => False) (fun _ => True) after
        ∧ ¬ ∃ scenario, row = .ok scenario ∧ scenario.names = header
          ∧ workspace.HasRoom (pendingName ordinal template scenario))
      ∨ ∃ scenario after, row = .ok scenario ∧ scenario.names = header
        ∧ bench.perform (workspace.stageTest template header ordinal row)
          = (.ok (pendingName ordinal template scenario), after)
        ∧ bench.Inside (stagingPlace w) (fun _ => False) (fun _ => True) after
        ∧ workspace.HasRoom (pendingName ordinal template scenario)
        ∧ after.Lists workspace.staging (stagingPlace w)
          (entries ++ batchFrom template header ordinal [scenario]) := by
  have hsame : bench.Inside (stagingPlace w) (fun _ => False) (fun _ => True) bench :=
    .refl hstaging.leads.dir
  cases row with
  | error failure =>
    refine .inl ⟨failure, bench, rfl, hsame, fun hready => ?_⟩
    obtain ⟨_, hrow, _⟩ := hready
    cases hrow
  | ok scenario =>
    have hname := isPlain_pendingName htemplate ordinal scenario
    have hfree := Named.lookup_eq_none.mpr (hfresh scenario)
    rw [stageTest_ok]
    generalize hnamed : pendingName ordinal template scenario = name at hname hfree ⊢
    rcases FileWork.makeDir_cases hname hstaging.leads.passThrough hstaging.dir with
      ⟨⟨fault, hmake⟩, htaken⟩ | ⟨hfault, -, hmake⟩
    · have hreport := Bench.perform_reportedAs_error hmake .ofFault
      refine .inl ⟨_, bench, Bench.perform_bind_error hreport _, hsame, ?_⟩
      rintro ⟨_, ⟨⟩, -, hroom⟩
      rw [hnamed] at hroom
      refine htaken ⟨Path.joinFault?_eq_none.mpr ⟨?_, hroom.short⟩, hfree⟩
      exact Path.refusal?_of_join hname draftName_isPlain hroom.accepted
    · have hreport := Bench.perform_reportedAs_ok hmake .ofFault
      have hshort := (Path.joinFault?_eq_none.mp hfault).2
      generalize hmade :
        bench.stepTo (bench.files.put .emptyDir (stagingPlace w ++ [name])) = made at hreport
      have hin : bench.Inside (stagingPlace w) (fun _ => False) (fun _ => True) made := by
        rw [← hmade]
        exact .stepTo (.put_entry hstaging.leads.dir id _) trivial
      have hlists : made.Lists workspace.staging (stagingPlace w)
          (Named.set name .emptyDir entries) := by
        rw [← hmade]
        exact hstaging.put name .emptyDir
      have hempty : made.files.get? (stagingPlace w ++ [name]) = some (.dir []) := by
        rw [Node.get?_snoc hlists.dir, Named.lookup_set_self]
        rfl
      have hown : made.Lists (workspace.staging.join name) (stagingPlace w ++ [name]) [] :=
        ⟨hlists.leads.join hname hshort ⟨[], hempty⟩, hempty⟩
      have hinside := fillTest_staysIn hname header (logPrefix ordinal template) scenario made
        hown.leads
      simp only
      rw [Bench.perform_bind_ok hreport]
      rcases fillTest_fresh hname hown header (logPrefix ordinal template) scenario with
        ⟨failure, filled, hfill, hnot⟩ | ⟨filled, hfill, ⟨hnames, hdraft⟩, hfilled⟩
      all_goals
        rw [hfill] at hinside
        have hup : made.Inside (stagingPlace w) (fun _ => False) (fun _ => True) filled :=
          hinside.up id
      · refine .inl ⟨failure, filled, Bench.perform_bind_error hfill _, hin.trans hup, ?_⟩
        rintro ⟨_, ⟨⟩, hnames, hroom⟩
        rw [hnamed] at hroom
        have hdraft : (Scenario.draftName scenarioName).utf8ByteSize ≤ nameLimit := by decide
        exact hnot ⟨hnames, Path.joinFault?_eq_none.mpr ⟨hroom.accepted, hdraft⟩⟩
      · subst hnamed
        refine .inr ⟨scenario, filled, rfl, hnames, Bench.perform_bind_ok hfill _,
          hin.trans hup, ⟨hname.noSlash, hshort, (Path.joinFault?_eq_none.mp hdraft).1⟩,
          hup.leads hlists.leads, ?_⟩
        obtain ⟨own, own', -, hparent, -⟩ := hinside.files.get?_parent hlists.dir
        obtain rfl : own' = testEntries header (logPrefix ordinal template) scenario := by
          have hown' := hfilled.dir
          rw [Node.get?_snoc hparent, Named.lookup_set_self] at hown'
          cases hown'
          rfl
        rw [hparent, Named.set_set, Named.set_of_not_mem (Named.lookup_eq_none.mp hfree)]
        rfl

/-- A test is not made in an empty staging directory if there is a slash in the template. -/
theorem stageTest_slashed (htemplate : '/' ∈ template.toList)
    (hstaging : bench.Lists workspace.staging (stagingPlace w) []) (header : List String)
    (ordinal : Nat) (row : Except Error Scenario) :
    ∃ failure, bench.perform (workspace.stageTest template header ordinal row)
      = (.error failure, bench) := by
  cases row with
  | error failure => exact ⟨failure, rfl⟩
  | ok scenario =>
    obtain ⟨front, rest, hsplit, hfront⟩ := List.eq_append_cons_of_mem htemplate
    have hname : (pendingName ordinal template scenario).toList
        = (logPrefix ordinal (String.ofList front)).toList
          ++ '/' :: (rest ++ separator.toList ++ scenario.fragment.toList) := by
      simp [pendingName, logPrefix, hsplit]
    have hplain : IsPlain (String.ofList (logPrefix ordinal (String.ofList front)).toList) := by
      obtain ⟨digit, more, hdigit, hcons⟩ := logPrefix_eq_cons ordinal (String.ofList front)
      rw [String.ofList_toList]
      refine isPlain_of_cons hcons ?_ (slash_not_mem_logPrefix (by simpa using hfront) ordinal)
      rintro rfl
      exact absurd hdigit (by decide)
    obtain ⟨fault, happroach⟩ := Path.approach_join_slashed (c := '-') hname hplain
      (by simp [separator]) (by decide) hstaging.leads.passThrough hstaging.dir rfl
    rw [stageTest_ok]
    generalize pendingName ordinal template scenario = name at happroach ⊢
    have hmake : bench.perform (FileWork.makeDir (workspace.staging.join name))
        = (.error fault, bench) := by
      rw [FileWork.makeDir, Bench.perform_take, FileStep.makeDir, happroach]
      rfl
    exact ⟨_, Bench.perform_bind_error (Bench.perform_reportedAs_error hmake .ofFault) _⟩

/-- Making the directories of a batch behind others whose ordinals are lower, with no slash in the
template. It succeeds for the rows that are admitted, and then they stand there. -/
theorem stageFrom_cases (htemplate : '/' ∉ template.toList)
    (hstaging : bench.Lists workspace.staging (stagingPlace w) entries)
    (hfresh : ∀ number scenario, ordinal ≤ number →
      pendingName number template scenario ∉ Named.names entries)
    (rows : List (Except Error Scenario)) :
    (∃ failure after, bench.perform (workspace.stageFrom template header ordinal rows)
          = (.error failure, after)
        ∧ bench.Inside (stagingPlace w) (fun _ => False) (fun _ => True) after
        ∧ ¬ workspace.AdmitsFrom template header ordinal rows)
      ∨ ∃ scenarios after, rows = scenarios.map .ok
        ∧ (∀ scenario ∈ scenarios, scenario.names = header)
        ∧ bench.perform (workspace.stageFrom template header ordinal rows)
          = (.ok (batchFrom template header ordinal scenarios).names, after)
        ∧ bench.Inside (stagingPlace w) (fun _ => False) (fun _ => True) after
        ∧ (∀ name ∈ (batchFrom template header ordinal scenarios).names, workspace.HasRoom name)
        ∧ after.Lists workspace.staging (stagingPlace w)
          (entries ++ batchFrom template header ordinal scenarios) := by
  induction rows generalizing bench entries ordinal with
  | nil =>
    exact .inr ⟨[], bench, rfl, by simp, rfl, .refl hstaging.leads.dir, by simp [batchFrom, Named.names],
      by simpa [batchFrom] using hstaging⟩
  | cons row rest ih =>
    rw [stageFrom]
    rcases stageTest_cases htemplate hstaging (fun scenario => hfresh ordinal scenario (Nat.le_refl _))
      row with ⟨failure, made, hmake, hmade, hnot⟩ |
        ⟨scenario, made, rfl, hnames, hmake, hmade, hroom, hlists⟩
    · exact .inl ⟨failure, made, Bench.perform_bind_error hmake _, hmade,
        fun hadmits => hnot hadmits.of_cons.1⟩
    rw [Bench.perform_bind_ok hmake]
    have hfresh' : ∀ number other, ordinal + 1 ≤ number → pendingName number template other
        ∉ Named.names (entries ++ batchFrom template header ordinal [scenario]) := by
      intro number other hle hmem
      rw [Named.names, List.map_append, List.mem_append] at hmem
      rcases hmem with hmem | hmem
      · exact hfresh number other (by omega) hmem
      · exact pendingName_ne (by omega : number ≠ ordinal) template other scenario
          (List.mem_singleton.mp hmem)
    rcases ih hlists hfresh' with
      ⟨failure, after, hrest, hafter, hnot⟩ |
      ⟨scenarios, after, rfl, hnames', hrest, hafter, hrooms, hlists'⟩
    · exact .inl ⟨failure, after, Bench.perform_bind_error hrest _, hmade.trans hafter,
        fun hadmits => hnot hadmits.of_cons.2⟩
    · refine .inr ⟨scenario :: scenarios, after, rfl, ?_, Bench.perform_bind_ok hrest _,
        hmade.trans hafter, ?_, ?_⟩
      · intro other hother
        rcases List.mem_cons.mp hother with rfl | hother
        · exact hnames
        · exact hnames' other hother
      · intro name hname
        rcases List.mem_cons.mp hname with rfl | hname
        · exact hroom
        · exact hrooms name hname
      · simpa [batchFrom] using hlists'

/-- Nothing is found in the place of the staging directory where nothing stands. -/
theorem hasEntry_staging (hw : workspace.root.Leads bench.files bench.here w)
    (hnone : bench.files.get? (stagingPlace w) = none) :
    bench.hasEntry workspace.staging = false := by
  cases hnode : bench.nodeAt workspace.staging with
  | error fault =>
    rw [Bench.hasEntry, hnode]
    rfl
  | ok node =>
    obtain ⟨d, hpass, hget, -⟩ := Path.node_join_ok stagingName_isPlain hnode
    obtain ⟨rfl, -⟩ := passThrough_join_ok runtimeName_isPlain hw.passThrough hpass
    exact absurd (hnone.symm.trans hget) (by simp)

/-- Taking the staging directory down does not disturb the roots. If this is not refused it is gone,
and it is not refused where there is one whose path is accepted. -/
theorem removeStaging_cases (hw : workspace.root.Leads bench.files bench.here w) :
    ∃ result after, bench.perform (FileWork.removeTree workspace.staging) = (result, after)
      ∧ bench.Undisturbed workspace w after
      ∧ (result = .ok () → after.hasEntry workspace.staging = false)
      ∧ (workspace.staging.refusal? = none → bench.files.HasDir (stagingPlace w)
        → result = .ok ()) := by
  by_cases hstands : workspace.staging.refusal? = none ∧ bench.files.HasDir (stagingPlace w)
  case neg =>
    -- What cannot be listed is not removed.
    obtain ⟨fault, hfault⟩ : ∃ fault, bench.entriesAt workspace.staging = .error fault := by
      cases hnode : workspace.staging.node bench.files bench.here with
      | error fault => exact ⟨fault, by rw [Bench.entriesAt, Bench.nodeAt, hnode]⟩
      | ok node =>
        cases node with
        | file content runnable =>
          exact ⟨.notDirectory, by rw [Bench.entriesAt, Bench.nodeAt, hnode]⟩
        | dir entries =>
          obtain ⟨d, hpass, hget, hfault⟩ := Path.node_join_ok stagingName_isPlain hnode
          obtain ⟨rfl, -⟩ := passThrough_join_ok runtimeName_isPlain hw.passThrough hpass
          exact absurd ⟨(Path.joinFault?_eq_none.mp hfault).1, entries, hget⟩ hstands
    exact ⟨_, bench, FileWork.perform_removeTree_refused hfault, .refl hw, (fun h => by cases h),
      fun hrefusal hdir => absurd ⟨hrefusal, hdir⟩ hstands⟩
  obtain ⟨hrefusal, hdir⟩ := hstands
  obtain ⟨-, before, -, hremove, hinside⟩ := FileWork.perform_removeTree_join stagingName_isPlain
    (runtime_leads hw hdir.above) (Path.joinFault?_eq_none.mpr ⟨hrefusal, by decide⟩) hdir
  have hbefore := Bench.Undisturbed.of_inside_staging hw hinside
  have hbefore' := hinside.files.hasDir
  have herase : bench.files.erase (stagingPlace w) = before.files.erase (stagingPlace w) := by
    obtain ⟨own, own', -, hfiles, -⟩ := hinside.files
    rw [hfiles, stagingPlace, Node.erase_put_snoc hdir.above]
  have hafter : bench.Undisturbed workspace w
      (before.stepTo (bench.files.erase (stagingPlace w))) :=
    hbefore.trans (.stepTo (herase ▸ .of_staging_erased hbefore.root hbefore'.above))
  refine ⟨.ok (), before.stepTo (bench.files.erase (stagingPlace w)), hremove, hafter, fun _ => ?_,
    fun _ _ => rfl⟩
  exact hasEntry_staging hafter.root (Node.get?_erase ".staging" hdir.above)

/-- Making the staging directory where there is none, and the directory above it if need be. -/
theorem makeStaging_cases (hw : workspace.root.Leads bench.files bench.here w)
    (hfree : bench.hasEntry workspace.staging = false) :
    ∃ result after, bench.perform (FileWork.makeDirs workspace.staging) = (result, after)
      ∧ bench.Undisturbed workspace w after
      ∧ (result = .ok () → after.files.get? (stagingPlace w) = some (.dir []))
      ∧ (workspace.staging.refusal? = none → bench.files.NoFile (w ++ ["runtime"])
        → result = .ok ()) := by
  have hmakes : ∀ {made : Bench}, bench.Undisturbed workspace w made →
      made.files.HasDir (w ++ ["runtime"]) →
      bench.Undisturbed workspace w
        (made.stepTo (made.files.put .emptyDir (w ++ ["runtime"] ++ [".staging"]))) ∧
      (made.stepTo (made.files.put .emptyDir (w ++ ["runtime"] ++ [".staging"]))).files.get?
        (stagingPlace w) = some (.dir []) := by
    intro made hmade hdir
    refine ⟨hmade.trans (.stepTo (.of_staging_made hmade.root hdir)), ?_⟩
    obtain ⟨own, hown⟩ := hdir
    exact Node.get?_put_self hown .emptyDir ".staging"
  have hfault : workspace.staging.refusal? = none →
      workspace.runtime.joinFault? ".staging" = none := fun hrefusal =>
    Path.joinFault?_eq_none.mpr ⟨hrefusal, by decide⟩
  rcases FileWork.makeDirs_cases runtimeName_isPlain stagingName_isPlain (by decide) hw hfree with
    ⟨⟨fault, h⟩, hnot⟩ | ⟨hnone, ⟨fault, h⟩, hnot⟩ | ⟨hdir, h⟩ | ⟨hnone, h⟩
  · exact ⟨_, _, h, .refl hw, (fun h => by cases h),
      fun hrefusal hnofile => absurd ⟨hnofile, hfault hrefusal⟩ hnot⟩
  · exact ⟨_, _, h, .stepTo (.of_runtime_made hw hnone), (fun h => by cases h),
      fun hrefusal _ => absurd (hfault hrefusal) hnot⟩
  · obtain ⟨hmade, hempty⟩ := hmakes (.refl hw) hdir
    exact ⟨_, _, h, hmade, fun _ => hempty, fun _ _ => rfl⟩
  · have hruntime : bench.Undisturbed workspace w
        (bench.stepTo (bench.files.put .emptyDir (w ++ ["runtime"]))) :=
      .stepTo (.of_runtime_made hw hnone)
    obtain ⟨own, hown⟩ := hw.dir
    obtain ⟨hmade, hempty⟩ := hmakes hruntime ⟨[], Node.get?_put_self hown .emptyDir "runtime"⟩
    exact ⟨_, _, h, hmade, fun _ => hempty, fun _ _ => rfl⟩

/-- Making an empty staging directory does not disturb the roots, and there is one if this is not
refused. It is refused only where a file is in the way or the path is not accepted. -/
theorem clearStaging_cases (hw : workspace.root.Leads bench.files bench.here w) :
    ∃ result after, bench.perform workspace.clearStaging = (result, after)
      ∧ bench.Undisturbed workspace w after
      ∧ (result = .ok () → after.files.get? (stagingPlace w) = some (.dir []))
      ∧ (workspace.staging.refusal? = none → bench.files.NoFile (w ++ ["runtime"])
        → bench.files.NoFile (stagingPlace w) → result = .ok ()) := by
  have hmake : ∀ {cleared : Bench}, bench.Undisturbed workspace w cleared →
      cleared.hasEntry workspace.staging = false → ∃ result after,
        cleared.perform ((FileWork.makeDirs workspace.staging).reportedAs .ofFault)
            = (result, after)
          ∧ bench.Undisturbed workspace w after
          ∧ (result = .ok () → after.files.get? (stagingPlace w) = some (.dir []))
          ∧ (workspace.staging.refusal? = none → bench.files.NoFile (w ++ ["runtime"])
            → result = .ok ()) := by
    intro cleared hcleared hfree
    obtain ⟨result, after, h, hafter, hempty, hsucceeds⟩ := makeStaging_cases hcleared.root hfree
    have hdone := hcleared.trans hafter
    cases result with
    | error fault =>
      refine ⟨_, after, Bench.perform_reportedAs_error h .ofFault, hdone, (fun h => by cases h),
        fun hrefusal hnofile => ?_⟩
      cases hsucceeds hrefusal (hcleared.files.runtime hnofile)
    | ok _ =>
      exact ⟨_, after, Bench.perform_reportedAs_ok h .ofFault, hdone, fun _ => hempty rfl,
        fun _ _ => rfl⟩
  unfold clearStaging
  rw [Bench.perform_bind_ok (Bench.perform_get bench)]
  by_cases hentry : bench.hasEntry workspace.staging = true
  · rw [if_pos hentry]
    obtain ⟨result, cleared, hremove, hcleared, hgone, hsucceeds⟩ := removeStaging_cases hw
    cases result with
    | error fault =>
      refine ⟨_, cleared,
        Bench.perform_bind_error (Bench.perform_reportedAs_error hremove .ofFault) _, hcleared,
        (fun h => by cases h), fun hrefusal _ hnofile => ?_⟩
      rcases hnofile.cases with hnone | hdir
      · rw [hasEntry_staging hw hnone] at hentry
        cases hentry
      · cases hsucceeds hrefusal hdir
    | ok _ =>
      rw [Bench.perform_bind_ok (Bench.perform_reportedAs_ok hremove .ofFault)]
      obtain ⟨result, after, h, hafter, hempty, hmade⟩ := hmake hcleared (hgone rfl)
      exact ⟨result, after, h, hafter, hempty, fun hrefusal hnofile _ => hmade hrefusal hnofile⟩
  · rw [if_neg hentry]
    obtain ⟨result, after, h, hafter, hempty, hmade⟩ :=
      hmake (.refl hw) (Bool.eq_false_iff.mpr hentry)
    exact ⟨result, after, h, hafter, hempty, fun hrefusal hnofile _ => hmade hrefusal hnofile⟩

/-- Putting a batch together in an empty staging directory does not disturb the roots. It succeeds
for the rows that are admitted, and then the staging directory holds just the batch, for which there
is room. -/
theorem stage_cases (hw : workspace.root.Leads bench.files bench.here w)
    (hempty : bench.files.get? (stagingPlace w) = some (.dir [])) (template : String)
    (header : List String) (rows : List (Except Error Scenario)) :
    (∃ failure after, bench.perform (workspace.stage template header rows) = (.error failure, after)
        ∧ bench.Undisturbed workspace w after
        ∧ ¬ workspace.AdmitsFrom template header 1 rows)
      ∨ ∃ scenarios after, rows = scenarios.map .ok
        ∧ (∀ scenario ∈ scenarios, scenario.names = header)
        ∧ bench.perform (workspace.stage template header rows)
          = (.ok (batchFrom template header 1 scenarios).names, after)
        ∧ bench.Undisturbed workspace w after
        ∧ after.files.get? (stagingPlace w) = some (.dir (batchFrom template header 1 scenarios))
        ∧ after.files.HoldsTests (stagingPlace w) (batchFrom template header 1 scenarios).names
        ∧ ∀ name ∈ (batchFrom template header 1 scenarios).names, workspace.HasRoom name := by
  have hlists : bench.Lists workspace.staging (stagingPlace w) [] :=
    ⟨staging_leads hw ⟨[], hempty⟩, hempty⟩
  -- With a slash in the template the first row fails, whatever it is.
  have hmake : (∃ failure after, bench.perform (workspace.stageFrom template header 1 rows)
        = (.error failure, after)
      ∧ bench.Inside (stagingPlace w) (fun _ => False) (fun _ => True) after
      ∧ ¬ workspace.AdmitsFrom template header 1 rows)
    ∨ ∃ scenarios after, rows = scenarios.map .ok
      ∧ (∀ scenario ∈ scenarios, scenario.names = header)
      ∧ bench.perform (workspace.stageFrom template header 1 rows)
        = (.ok (batchFrom template header 1 scenarios).names, after)
      ∧ bench.Inside (stagingPlace w) (fun _ => False) (fun _ => True) after
      ∧ after.files.get? (stagingPlace w) = some (.dir (batchFrom template header 1 scenarios))
      ∧ after.files.HoldsTests (stagingPlace w) (batchFrom template header 1 scenarios).names
      ∧ ∀ name ∈ (batchFrom template header 1 scenarios).names, workspace.HasRoom name := by
    by_cases htemplate : '/' ∈ template.toList
    · cases rows with
      | nil =>
        exact .inr ⟨[], bench, rfl, by simp, rfl, .refl hlists.leads.dir, hempty, .of_empty hempty,
          by simp [batchFrom, Named.names]⟩
      | cons row rest =>
        obtain ⟨failure, hfirst⟩ := stageTest_slashed htemplate hlists header 1 row
        refine .inl ⟨failure, bench, Bench.perform_bind_error hfirst _, .refl hlists.leads.dir,
          fun hadmits => ?_⟩
        obtain ⟨⟨scenario, -, -, hroom⟩, -⟩ := hadmits.of_cons
        exact hroom.slashless (by simp [pendingName, logPrefix, htemplate])
    · rcases stageFrom_cases htemplate hlists (by simp [Named.names]) rows with
        hfails | ⟨scenarios, after, hrows, hnames, hstage, hinside, hroom, hafter⟩
      · exact .inl hfails
      · exact .inr ⟨scenarios, after, hrows, hnames, hstage, hinside, hafter.dir,
          Node.holdsTests_batchFrom hafter.dir (fun name hname => (hroom name hname).short)
            (.inr htemplate), hroom⟩
  unfold stage
  rcases hmake with ⟨failure, staged, hstage, hinside, hnot⟩ |
    ⟨scenarios, staged, hrows, hnames, hstage, hinside, hrest⟩
  all_goals
    have hundisturbed := Bench.Undisturbed.of_inside_staging hw hinside
    have houtcome := Bench.perform_outcome bench (workspace.stageFrom template header 1 rows)
    rw [hstage] at houtcome
    rw [Bench.perform_bind_ok houtcome]
  · -- What has been made is taken down, as far as this can be done.
    obtain ⟨removal, left, hremove, hleft, -⟩ := removeStaging_cases hundisturbed.root
    have hremoval : staged.perform (FileWork.removeTree workspace.staging).outcome
        = (.ok removal, left) := by
      rw [Bench.perform_fileOutcome, hremove]
    exact .inl ⟨failure, left, Bench.perform_bind_ok hremoval _, hundisturbed.trans hleft, hnot⟩
  · exact .inr ⟨scenarios, staged, hrows, hnames, rfl, hundisturbed, hrest⟩

end Workspace

end BootTrial
