import BootTrial.Proofs.Enrolling
import BootTrial.Proofs.Pinning

/-!
# Names that stand twice

A record has each name once, however it has been made (`Scenario.IsMade`), and setting a field
touches nothing but this field. So a record has the names of a header, in order, just if no name
stands twice there (`Scenario.names_ofRow_iff`): of a column that is repeated a value is lost.

No batch can come of that. Before a record is written its names are compared with the header, and
under a header with a repeated name they are never the same. So the first test of a batch is not
written, and the enrollment fails before anything is published
(`Scenario.repeated_names_refused`).
-/

namespace BootTrial

namespace Scenario

/-! ## Records that are made -/

/-- A record as the program makes it. -/
inductive IsMade : Scenario → Prop
  /-- From a row under a header. -/
  | ofRow (header row : List String) : IsMade (ofRow header row)
  /-- From fields that are set one after the other, of which there may be none. -/
  | ofFields (fields : List (String × String)) : IsMade (ofFields fields)
  /-- Without the placeholders of another one. -/
  | concrete {record : Scenario} (made : IsMade record) : IsMade record.concrete
  /-- With a field of another one set. -/
  | set {record : Scenario} (made : IsMade record) (name value : String) :
    IsMade (record.set name value)

/-- No name stands twice in a record that is made. -/
theorem IsMade.nodup {record : Scenario} (h : record.IsMade) : record.names.Nodup := by
  induction h with
  | ofRow header row => exact nodup_names_ofFields _
  | ofFields fields => exact nodup_names_ofFields fields
  | concrete made ih => exact nodup_names_ofFields _
  | set made name value ih => exact Named.nodup_names_set name value ih

/-- Setting a field gives it its value and does nothing else. -/
structure SetsOnly (record : Scenario) (name value : String) : Prop where
  /-- The field has the value. -/
  own : (record.set name value).get? name = some value
  /-- The other fields have theirs. -/
  others : ∀ other ≠ name, (record.set name value).get? other = record.get? other
  /-- A field that is there keeps its place, as all others do. A new one comes last. -/
  fields : (record.set name value).fields
    = if name ∈ record.names then
        record.fields.map fun field => if field.1 = name then (name, value) else field
      else record.fields ++ [(name, value)]

/-- Setting a field of a record in which no name stands twice. -/
theorem setsOnly {record : Scenario} (h : record.names.Nodup) (name value : String) :
    record.SetsOnly name value where
  own := get?_set_self record name value
  others := fun _ hother => get?_set_of_ne hother record value
  fields := by
    split
    · next hmem => exact Named.set_of_mem h hmem value
    · next hnew => exact Named.set_of_not_mem hnew value

/-- The record of a row has the names of the header just if no name stands twice there. -/
theorem names_ofRow_iff {header row : List String} (hlength : header.length = row.length) :
    (ofRow header row).names = header ↔ header.Nodup := by
  have hnames : (header.zip row).map (·.1) = header := List.map_fst_zip (Nat.le_of_eq hlength)
  constructor
  · intro hsame
    rw [← hsame]
    exact (IsMade.ofRow header row).nodup
  · intro hnodup
    have hfields : ofRow header row = ⟨header.zip row⟩ := by
      rw [ofRow, ofFields, foldl_set {} (by simpa [names, hnames] using hnodup)]
      rfl
    rw [hfields]
    exact hnames

end Scenario

namespace Workspace

/-! ## Batches that are refused -/

/-- What is done for a test before its record is written. Gives the path of its scenario file. -/
def reachFile (workspace : Workspace) (template : String) (ordinal : Nat)
    (row : Except Error Scenario) : Work Path := do
  let scenario ← Work.ofExcept row
  let directory := workspace.staging.join (pendingName ordinal template scenario)
  (FileWork.makeDir directory).reportedAs .ofFault
  return directory.join scenarioName

/-- What is done of an enrollment before the record of the first test is written. -/
def reachFirstFile (workspace : Workspace) (template : String) (row : Except Error Scenario) :
    Work Path := do
  if ← isOccupied workspace.pending then throw (.pendingTests workspace.pending)
  workspace.clearStaging
  workspace.reachFile template 1 row

/-- What is done of an enrollment before the batch is published. -/
def stageRows (workspace : Workspace) (template : String) (header : List String)
    (rows : List (Except Error Scenario)) : Work (List String) := do
  if ← isOccupied workspace.pending then throw (.pendingTests workspace.pending)
  workspace.clearStaging
  workspace.stage template header rows

/-- How work fails that has to reach a file and cannot write a record there. -/
inductive FailsAt : Except Error Path → Error → Prop
  /-- It fails on the way to the file. -/
  | earlier (failure : Error) : FailsAt (.error failure) failure
  /-- It fails for the header of the file. -/
  | schema (file : Path) (details : String) : FailsAt (.ok file) (.schema file details)

/-- If the file is reached, work fails for the header. -/
theorem FailsAt.of_reached {reached : Except Error Path} {failure : Error} {file : Path}
    (h : FailsAt reached failure) (hreached : reached = .ok file) :
    ∃ details, failure = .schema file details := by
  cases h with
  | earlier => cases hreached
  | schema _ details =>
    cases hreached
    exact ⟨details, rfl⟩

variable {workspace : Workspace} {template : String} {header : List String}
  {row : Except Error Scenario} {rest : List (Except Error Scenario)} {bench : Bench}

/-- A test is not made whose record does not have just the names of the header. -/
theorem stageTest_mismatched (h : ∀ record, row = .ok record → record.names ≠ header)
    (bench : Bench) (ordinal : Nat) :
    ∃ failure after, bench.perform (workspace.stageTest template header ordinal row)
        = (.error failure, after)
      ∧ FailsAt (bench.perform (workspace.reachFile template ordinal row)).1 failure := by
  unfold stageTest reachFile
  cases row with
  | error failure => exact ⟨failure, bench, rfl, .earlier failure⟩
  | ok record =>
    -- The directory of the test is made, and then nothing is written into it.
    rw [Bench.perform_bind_ok (Bench.perform_ofExcept bench (.ok record)),
      Bench.perform_bind_ok (Bench.perform_ofExcept bench (.ok record))]
    rcases hmake : bench.perform ((FileWork.makeDir
      (workspace.staging.join (pendingName ordinal template record))).reportedAs .ofFault) with
        ⟨failure | _, made⟩
    · refine ⟨failure, made, Bench.perform_bind_error hmake _, ?_⟩
      rw [Bench.perform_bind_error hmake]
      exact .earlier failure
    · have hrefuses (file : Path) : made.Refuses (record.write file header) (.schema file) :=
        Scenario.write_mismatched (h record rfl)
      obtain ⟨details, hwrite⟩ :=
        hrefuses ((workspace.staging.join (pendingName ordinal template record)).join scenarioName)
      refine ⟨_, made,
        (Bench.perform_bind_ok hmake _).trans (Bench.perform_bind_error hwrite _), ?_⟩
      rw [Bench.perform_bind_ok hmake]
      exact .schema _ details

/-- A batch is not put together if its first test is not made. -/
theorem stage_of_first {failure : Error} {middle : Bench}
    (h : bench.perform (workspace.stageTest template header 1 row) = (.error failure, middle)) :
    ∃ after, bench.perform (workspace.stage template header (row :: rest))
      = (.error failure, after) := by
  have hfrom : bench.perform (workspace.stageFrom template header 1 (row :: rest))
      = (.error failure, middle) := Bench.perform_bind_error h _
  have houtcome := Bench.perform_outcome bench (workspace.stageFrom template header 1 (row :: rest))
  rw [hfrom] at houtcome
  rw [stage, Bench.perform_bind_ok houtcome]
  exact ⟨_, rfl⟩

/-- A batch is not put together if the record of its first test does not have just the names of the
header. -/
theorem stageRows_mismatched (h : ∀ record, row = .ok record → record.names ≠ header) :
    ∃ failure after, bench.perform (workspace.stageRows template header (row :: rest))
        = (.error failure, after)
      ∧ FailsAt (bench.perform (workspace.reachFirstFile template row)).1 failure := by
  unfold stageRows reachFirstFile
  rcases hoccupied : bench.perform (isOccupied workspace.pending) with ⟨failure | occupied, read⟩
  · simp only [Bench.perform_bind_error hoccupied]
    exact ⟨failure, read, rfl, .earlier failure⟩
  simp only [Bench.perform_bind_ok hoccupied]
  cases occupied with
  | true => exact ⟨_, read, rfl, .earlier _⟩
  | false =>
    simp only [Bool.false_eq_true, if_false]
    rcases hclear : read.perform workspace.clearStaging with ⟨failure | _, cleared⟩
    · simp only [Bench.perform_bind_error hclear]
      exact ⟨failure, cleared, rfl, .earlier failure⟩
    · simp only [Bench.perform_bind_ok hclear]
      obtain ⟨failure, middle, hfirst, hfails⟩ := stageTest_mismatched h cleared 1
      obtain ⟨after, hstage⟩ := stage_of_first hfirst
      exact ⟨failure, after, hstage, hfails⟩

/-- An enrollment publishes what it has put together. -/
theorem enrollRows_eq (workspace : Workspace) (template : String) (header : List String)
    (rows : List (Except Error Scenario)) :
    workspace.enrollRows template header rows = (do
      let names ← workspace.stageRows template header rows
      workspace.publish
      return names.map workspace.pending.join) := by
  rw [enrollRows, stageRows, bind_assoc]
  congr 1
  funext occupied
  cases occupied with
  | true => rfl
  | false => simp only [Bool.false_eq_true, if_false, bind_assoc]

/-- A batch is refused, and nothing of it is published. -/
structure RefusesBatch (workspace : Workspace) (template : String) (header : List String)
    (row : Except Error Scenario) (rest : List (Except Error Scenario)) (bench : Bench)
    (failure : Error) (after : Bench) : Prop where
  /-- The enrollment fails, -/
  enroll : bench.perform (workspace.enrollRows template header (row :: rest))
    = (.error failure, after)
  /-- and so does what comes before the publishing, after which nothing is done. -/
  stage : bench.perform (workspace.stageRows template header (row :: rest))
    = (.error failure, after)
  /-- It fails for the header if nothing has failed before. -/
  failure : FailsAt (bench.perform (workspace.reachFirstFile template row)).1 failure
  /-- The roots of the workspace have not been disturbed at any moment. -/
  undisturbed : ∀ w, workspace.root.Leads bench.files bench.here w →
    bench.Undisturbed workspace w after

/-- A batch is refused if the record of its first test does not have just the names of the
header. -/
theorem refuses_mismatched (h : ∀ record, row = .ok record → record.names ≠ header) :
    ∃ failure after, workspace.RefusesBatch template header row rest bench failure after := by
  obtain ⟨failure, after, hstage, hfails⟩ := stageRows_mismatched h
  have henroll : bench.perform (workspace.enrollRows template header (row :: rest))
      = (.error failure, after) := by
    rw [enrollRows_eq, Bench.perform_bind_error hstage]
  refine ⟨failure, after, henroll, hstage, hfails, fun w hw => ?_⟩
  rcases enrollRows_cases hw template header (row :: rest) with
    ⟨failure', after', hperform, hundisturbed, -⟩ | ⟨scenarios, middle, files, -, -, hperform, -⟩
  · obtain ⟨-, rfl⟩ := Prod.mk.inj (henroll.symm.trans hperform)
    exact hundisturbed
  · cases henroll.symm.trans hperform

end Workspace

/-- No name stands twice in a record that is made, and setting a field sets only this. The record of
a row has the names of its header just if none stands twice there. So a batch of at least one row is
refused under a header with a repeated name, whether its first row could be read or not. -/
theorem Scenario.repeated_names_refused :
    (∀ record : Scenario, record.IsMade →
        record.names.Nodup ∧ ∀ name value, record.SetsOnly name value)
      ∧ (∀ header row : List String, header.length = row.length →
        ((ofRow header row).names = header ↔ header.Nodup))
      ∧ ∀ (workspace : Workspace) (template : String) (header : List String)
          (row : Except Error Scenario) (rest : List (Except Error Scenario)) (bench : Bench),
        ¬ header.Nodup → (∀ record, row = .ok record → record.IsMade) →
          ∃ failure after, workspace.RefusesBatch template header row rest bench failure after := by
  refine ⟨fun record hmade => ⟨hmade.nodup, setsOnly hmade.nodup⟩,
    fun header row => names_ofRow_iff, ?_⟩
  intro workspace template header row rest bench hrepeated hmade
  refine Workspace.refuses_mismatched fun record hrow hnames => ?_
  -- The names of the record stand once each, those of the header do not.
  exact hrepeated (hnames ▸ (hmade record hrow).nodup)

/-- A record under a header with a repeated name. -/
def repeatedRow : Except Error Scenario :=
  .ok (.ofRow ["mode", "mode"] ["s2idle", "deep"])

set_option maxRecDepth 100000 in
/-- Nothing stands in the way of this batch but its header, and it is refused for that. -/
theorem Scenario.repeated_names_refused_clear : ∃ details after,
    leftBench.perform ((Settings.workspace {}).enrollRows "power" ["mode", "mode"] [repeatedRow])
        = (.error (.schema ((Settings.workspace {}).staging.join "1-power--mode-deep/scenario.csv")
          details), after)
      ∧ leftBench.files.KeepsPending [] after.files := by
  obtain ⟨-, -, hrefused⟩ := repeated_names_refused
  obtain ⟨failure, after, hrefuses⟩ := hrefused (Settings.workspace {}) "power" ["mode", "mode"]
    repeatedRow [] leftBench (by simp) fun record hrow => by
      rw [← Except.ok.inj hrow]
      exact .ofRow _ _
  have hreached : (leftBench.perform
      ((Settings.workspace {}).reachFirstFile "power" repeatedRow)).1
        = .ok ((Settings.workspace {}).staging.join "1-power--mode-deep/scenario.csv") := by
    decide +kernel
  obtain ⟨details, rfl⟩ := hrefuses.failure.of_reached hreached
  have hroot : (Settings.workspace {}).root.Leads leftBench.files leftBench.here [] :=
    Path.leads_dot ⟨_, rfl⟩
  exact ⟨details, after, hrefuses.enroll, (hrefuses.undisturbed [] hroot).files.pending⟩

end BootTrial
