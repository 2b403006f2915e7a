import BootTrial.Cycle
import BootTrial.Proofs.Work

/-!
# Work that only reads

Reading tables, compiling menus and listing tests leave the bench as it was, but that headers are
remembered which were not known before (`Bench.Unmoved`). To enroll a template nothing else is done
before its rows are enrolled (`enroll_readsToEnroll`).
-/

namespace BootTrial

open Bench (Unmoved)

namespace ScenarioTable

/-- Only a header that is not known is remembered. -/
theorem checkHeader_unmoved (path : Path) (place : Place) (header : List String) :
    Keeps Unmoved (checkHeader path place header) := by
  intro bench
  unfold checkHeader
  rw [Bench.perform_bind_ok (Bench.perform_get bench)]
  cases hknown : bench.headers.get? place with
  | some known =>
    simp only [hknown]
    split
    · exact refl_of Unmoved bench
    · exact refl_of Unmoved bench
  | none =>
    simp only [hknown]
    refine ⟨rfl, rfl, rfl, fun other known hother => ?_⟩
    have hne : other ≠ place := by
      rintro rfl
      simp [hknown] at hother
    simpa [HeaderCache.get?_insert_of_ne hne] using hother

/-- What has been read of a table comes from its file. -/
theorem read_inv {path : Path} {bench after : Bench} {table : ScenarioTable}
    (h : bench.perform (read path) = (.ok table, after)) :
    ∃ place content, bench.placeAt path = .ok place ∧ bench.bytesAt path = .ok content
      ∧ ofBytes path content = .ok table
      ∧ bench.perform (checkHeader path place table.header) = (.ok (), after) := by
  obtain ⟨place, bench₁, hplace, h⟩ := Bench.perform_bind_inv h
  obtain ⟨content, bench₂, hcontent, h⟩ := Bench.perform_bind_inv h
  obtain ⟨table', bench₃, htable, h⟩ := Bench.perform_bind_inv h
  obtain ⟨_, bench₄, hcheck, h⟩ := Bench.perform_bind_inv h
  cases h
  obtain ⟨hplaceAt, rfl⟩ := Prod.mk.inj (Bench.perform_reportedAs_inv hplace)
  obtain ⟨hbytesAt, rfl⟩ := Prod.mk.inj (Bench.perform_reportedAs_inv hcontent)
  rw [Bench.perform_ofExcept, Prod.mk.injEq] at htable
  obtain ⟨htable, rfl⟩ := htable
  exact ⟨place, content, hplaceAt, hbytesAt, htable, hcheck⟩

/-- The table in a file has a header that names a column, and records in which no name stands
twice. -/
theorem ofBytes_ok {path : Path} {content : Text.Bytes} {table : ScenarioTable}
    (h : ofBytes path content = .ok table) :
    isBlankHeader table.header = false
      ∧ ∀ scenario, .ok scenario ∈ table.rows → scenario.names.Nodup := by
  unfold ofBytes at h
  cases hheader : Table.header content with
  | error fault =>
    rw [hheader] at h
    cases h
  | ok header =>
    rw [hheader] at h
    simp only at h
    cases hblank : isBlankHeader header with
    | true =>
      rw [hblank, if_pos rfl] at h
      cases h
    | false =>
      rw [hblank, if_neg (by simp)] at h
      cases h
      refine ⟨hblank, fun scenario hmem => ?_⟩
      obtain ⟨row, -, hrow⟩ := List.mem_map.mp hmem
      cases htexts : row.texts with
      | error fault =>
        rw [htexts] at hrow
        cases hrow
      | ok texts =>
        rw [htexts] at hrow
        cases hrow
        exact Scenario.nodup_names_ofFields _

/-- The header of a table in a file is that of the file, and names a column. -/
theorem header_of_ofBytes {path : Path} {content : Text.Bytes} {table : ScenarioTable}
    (h : ofBytes path content = .ok table) :
    Table.header content = .ok table.header ∧ isBlankHeader table.header = false := by
  unfold ofBytes at h
  cases hheader : Table.header content with
  | error fault =>
    rw [hheader] at h
    cases h
  | ok names =>
    rw [hheader] at h
    simp only at h
    split at h
    · cases h
    · next hnamed =>
      cases h
      exact ⟨rfl, Bool.not_eq_true _ ▸ hnamed⟩

/-- A file in which there is no table is malformed. -/
theorem ofBytes_error {path : Path} {content : Text.Bytes} {failure : Error}
    (h : ofBytes path content = .error failure) :
    ∃ details, failure = .malformedScenario path details := by
  unfold ofBytes at h
  split at h
  · next fault _ =>
    cases h
    exact ⟨fault.message, rfl⟩
  · split at h
    · cases h
      exact ⟨_, rfl⟩
    · cases h

/-- A table in a file is read, and then its header is checked against what is remembered. -/
theorem perform_read {path : Path} {place : Place} {content : Text.Bytes} {bench : Bench}
    (hplace : bench.placeAt path = .ok place) (hcontent : bench.bytesAt path = .ok content) :
    bench.perform (read path) = match ofBytes path content with
      | .ok table => bench.perform (checkHeader path place table.header >>= fun _ => pure table)
      | .error failure => (.error failure, bench) := by
  have hplace' : bench.perform ((FileWork.look (·.placeAt path)).reportedAs (.unreadable path))
      = (.ok place, bench) := by
    rw [Bench.perform_reportedAs, Bench.perform_look, hplace]
    rfl
  have hcontent' : bench.perform ((FileWork.look (·.bytesAt path)).reportedAs .ofTableFault)
      = (.ok content, bench) := by
    rw [Bench.perform_reportedAs, Bench.perform_look, hcontent]
    rfl
  rw [read, Bench.perform_bind_ok hplace', Bench.perform_bind_ok hcontent', Bench.perform_bind,
    Bench.perform_ofExcept]
  cases ofBytes path content <;> rfl

/-- What is read of a table whose header is not remembered. It is remembered then. -/
theorem perform_read_unknown {path : Path} {place : Place} {content : Text.Bytes} {bench : Bench}
    (hplace : bench.placeAt path = .ok place) (hcontent : bench.bytesAt path = .ok content)
    (hunknown : bench.headers.get? place = none) :
    bench.perform (read path) = match ofBytes path content with
      | .ok table =>
        (.ok table, { bench with headers := bench.headers.insert place table.header })
      | .error failure => (.error failure, bench) := by
  rw [perform_read hplace hcontent]
  cases ofBytes path content with
  | error failure => rfl
  | ok table =>
    simp only [checkHeader, bind_assoc]
    rw [Bench.perform_bind_ok (Bench.perform_get bench)]
    simp only [hunknown]
    rfl

/-- A table whose header is remembered is read, and nothing happens. -/
theorem perform_read_known {path : Path} {place : Place} {content : Text.Bytes}
    {table : ScenarioTable} {bench : Bench} (hplace : bench.placeAt path = .ok place)
    (hcontent : bench.bytesAt path = .ok content) (htable : ofBytes path content = .ok table)
    (hknown : bench.headers.get? place = some table.header) :
    bench.perform (read path) = (.ok table, bench) := by
  rw [perform_read hplace hcontent, htable]
  simp only [checkHeader, bind_assoc]
  rw [Bench.perform_bind_ok (Bench.perform_get bench)]
  simp only [hknown, if_true]
  rfl

/-- Reading a table. -/
theorem read_unmoved (path : Path) : Keeps Unmoved (read path) := by
  unfold read
  refine ((Keeps.look _).reportedAs _).bind fun place => ?_
  refine ((Keeps.look _).reportedAs _).bind fun content => ?_
  refine (Keeps.ofExcept _).bind fun table => ?_
  exact (checkHeader_unmoved path place table.header).bind fun _ => Keeps.pure _

variable {R : Bench → Bench → Prop} [IsPreorder Bench R]

/-- Looking for the header of a table keeps what reading it keeps. -/
theorem headerAt_keeps {path : Path} (h : Keeps R (read path)) : Keeps R (headerAt path) := by
  unfold headerAt
  refine ((Keeps.look _).reportedAs _).bind fun place => Keeps.get.bind fun bench => ?_
  cases bench.headers.get? place with
  | some known => exact Keeps.pure _
  | none => exact h.map _

/-- Checking that a table has a column keeps what reading it keeps. -/
theorem requireColumn_keeps {path : Path} (h : Keeps R (read path)) (column : String) :
    Keeps R (requireColumn path column) := by
  unfold requireColumn
  refine (headerAt_keeps h).bind fun header => ?_
  split
  · exact Keeps.pure _
  · exact Keeps.throw _

/-- Looking for the header of a table. -/
theorem headerAt_unmoved (path : Path) : Keeps Unmoved (headerAt path) :=
  headerAt_keeps (read_unmoved path)

/-- A table is that in the file at a path. -/
def LiesAt (table : ScenarioTable) (path : Path) (bench : Bench) : Prop :=
  ∃ place content, bench.placeAt path = .ok place ∧ bench.bytesAt path = .ok content
    ∧ ofBytes path content = .ok table

/-- What has been read is the table in the file. -/
theorem LiesAt.of_read {table : ScenarioTable} {path : Path} {bench after : Bench}
    (h : bench.perform (read path) = (.ok table, after)) : table.LiesAt path bench := by
  obtain ⟨place, content, hplace, hcontent, htable, -⟩ := read_inv h
  exact ⟨place, content, hplace, hcontent, htable⟩

/-- Reading leaves a table where it is. -/
theorem LiesAt.of_unmoved {table : ScenarioTable} {path : Path} {bench after : Bench}
    (h : table.LiesAt path after) (hunmoved : Unmoved bench after) : table.LiesAt path bench := by
  simpa only [LiesAt, Bench.placeAt, Bench.bytesAt, Bench.nodeAt, hunmoved.files, hunmoved.here]
    using h

/-- The table in a file is read by a program that has just been started. -/
theorem LiesAt.perform_read {table : ScenarioTable} {path : Path} {bench : Bench}
    (h : table.LiesAt path bench) :
    (Bench.perform { bench with headers := [] } (ScenarioTable.read path)).1 = .ok table := by
  obtain ⟨place, content, hplace, hcontent, htable⟩ := h
  have hplace' : Bench.placeAt path { bench with headers := [] } = .ok place := hplace
  have hcontent' : Bench.bytesAt path { bench with headers := [] } = .ok content := hcontent
  rw [perform_read_unknown hplace' hcontent' rfl, htable]

end ScenarioTable

/-- Reading a scenario. -/
theorem Scenario.read_unmoved (path : Path) (tolerant : Bool) :
    Keeps Unmoved (Scenario.read path tolerant) :=
  (ScenarioTable.read_unmoved path).bind fun _ => Keeps.ofExcept _

section Preorder

variable {R : Bench → Bench → Prop} [IsPreorder Bench R]

/-- Reading a response file keeps everything. -/
theorem Response.readAll_keeps (path : Path) : Keeps R (Response.readAll path) := by
  unfold Response.readAll
  refine ((Keeps.look _).reportedAs _).bind fun content => ?_
  split
  · exact Keeps.pure _
  · exact Keeps.throw _

namespace Menu

variable {schema : Path} (h : Keeps R (ScenarioTable.read schema))
include h

/-- Adding a row to a menu keeps what reading the scenario table keeps. -/
theorem addRow_keeps (conditions : Conditions) (menu : Menu) (row : Response) :
    Keeps R (addRow conditions schema menu row) := by
  unfold addRow
  refine (Keeps.ofExcept _).bind fun action => ?_
  have hverify : Keeps R (action.verify schema) := by
    unfold Action.verify
    split
    · exact ScenarioTable.requireColumn_keeps h _
    · exact Keeps.pure _
  refine hverify.bind fun _ => (Keeps.ofExcept _).bind fun holds => ?_
  split
  · exact Keeps.ofExcept _
  · exact Keeps.pure _

/-- Adding rows to a menu keeps what reading the scenario table keeps. -/
theorem foldlM_addRow_keeps (conditions : Conditions) (rows : List Response) (menu : Menu) :
    Keeps R (rows.foldlM (addRow conditions schema) menu) := by
  induction rows generalizing menu with
  | nil => exact Keeps.pure _
  | cons row rest ih =>
    rw [List.foldlM_cons]
    exact (addRow_keeps h conditions menu row).bind ih

/-- Compiling a response file keeps what reading the scenario table keeps. -/
theorem ofFile_keeps (path : Path) (conditions : Conditions) :
    Keeps R (ofFile path conditions schema) :=
  (Response.readAll_keeps path).bind fun rows => foldlM_addRow_keeps h conditions rows {}

end Menu

end Preorder

/-- Compiling a response file. -/
theorem Menu.ofFile_unmoved (path : Path) (conditions : Conditions) (schema : Path) :
    Keeps Unmoved (ofFile path conditions schema) :=
  ofFile_keeps (ScenarioTable.read_unmoved schema) path conditions

namespace Settings

/-- Compiling the menu of the template. -/
theorem menu_unmoved (settings : Settings) (conditions : Conditions) :
    Keeps Unmoved (settings.menu conditions) :=
  Menu.ofFile_unmoved _ _ _

/-- Checking that the template is there. -/
theorem requireTemplate_unmoved (settings : Settings) : Keeps Unmoved settings.requireTemplate := by
  unfold requireTemplate
  split
  · exact Keeps.throw _
  · refine Keeps.get.bind fun bench => ?_
    split
    · exact Keeps.pure _
    · exact Keeps.throw _

end Settings

/-- Work comes to enrolling the rows of the scenario table, and before that it does nothing but
read; or it fails before that. -/
def Settings.ReadsToEnroll (settings : Settings) (work : Work (List Path)) : Prop :=
  ∀ bench : Bench,
    (∃ failure after, bench.perform work = (.error failure, after) ∧ Unmoved bench after)
      ∨ ∃ (table : ScenarioTable) (read : Bench),
        table.LiesAt (settings.workspace.scenarios settings.template) bench
        ∧ Unmoved bench read
        ∧ bench.perform work
          = read.perform (settings.workspace.enrollRows settings.template table.header table.rows)

namespace Settings.ReadsToEnroll

variable {settings : Settings}

/-- Work that fails at once. -/
theorem throw (failure : Error) : settings.ReadsToEnroll (MonadExcept.throw failure) :=
  fun bench => .inl ⟨failure, bench, rfl, refl_of Unmoved bench⟩

/-- Work that only reads may come first. -/
theorem bind {α : Type} {work : Work α} {next : α → Work (List Path)}
    (hwork : Keeps Unmoved work) (hnext : ∀ a, settings.ReadsToEnroll (next a)) :
    settings.ReadsToEnroll (work >>= next) := by
  intro bench
  have hunmoved := hwork bench
  rcases hperform : bench.perform work with ⟨failure | a, middle⟩
  all_goals rw [hperform] at hunmoved
  · exact .inl ⟨failure, middle, Bench.perform_bind_error hperform next, hunmoved⟩
  · rw [Bench.perform_bind_ok hperform]
    rcases hnext a middle with ⟨failure, after, h, hafter⟩ | ⟨table, read, htable, hread, h⟩
    · exact .inl ⟨failure, after, h, trans_of Unmoved hunmoved hafter⟩
    · exact .inr ⟨table, read, htable.of_unmoved hunmoved, trans_of Unmoved hunmoved hread, h⟩

end Settings.ReadsToEnroll

/-- Enrolling a template comes to enrolling the rows of its scenario table. -/
theorem enroll_readsToEnroll (settings : Settings) : settings.ReadsToEnroll (enroll settings) := by
  have htable : settings.ReadsToEnroll (do
      let table ← ScenarioTable.read (settings.workspace.scenarios settings.template)
      settings.workspace.enrollRows settings.template table.header table.rows) := by
    intro bench
    have hunmoved :=
      ScenarioTable.read_unmoved (settings.workspace.scenarios settings.template) bench
    rcases hread : bench.perform
      (ScenarioTable.read (settings.workspace.scenarios settings.template)) with
        ⟨failure | table, read⟩
    all_goals rw [hread] at hunmoved
    · exact .inl ⟨failure, read, Bench.perform_bind_error hread _, hunmoved⟩
    · exact .inr ⟨table, read, .of_read hread, hunmoved, Bench.perform_bind_ok hread _⟩
  have hmenu : ∀ conditions, Keeps Unmoved
      (Menu.ofFile (settings.workspace.responses settings.template) conditions
        (settings.workspace.scenarios settings.template)) := fun _ => Menu.ofFile_unmoved _ _ _
  unfold enroll
  refine .bind settings.requireTemplate_unmoved fun _ => .bind Keeps.get fun _ => ?_
  split
  · exact .throw _
  · refine .bind Keeps.get fun _ => ?_
    split
    · exact .bind (hmenu _) fun _ => .bind (hmenu _) fun _ => htable
    · exact htable

section Preorder

variable {R : Bench → Bench → Prop} [IsPreorder Bench R]

/-- Looking whether anything lies in a root keeps everything. -/
theorem isOccupied_keeps (root : Path) : Keeps R (isOccupied root) := by
  unfold isOccupied
  refine (Keeps.look _).fileOutcome.bind fun outcome => ?_
  split
  · exact Keeps.pure _
  · exact Keeps.pure _
  · exact Keeps.throw _

/-- Listing the tests in a root keeps everything. -/
theorem testsIn_keeps (root : Path) : Keeps R (testsIn root) := by
  unfold testsIn
  refine (Keeps.look _).fileOutcome.bind fun outcome => ?_
  split
  · exact Keeps.pure _
  · exact Keeps.pure _
  · exact Keeps.throw _

/-- Reading the boot id of a test keeps everything. -/
theorem storedBoot_keeps (p : Path) : Keeps R (storedBoot p) := by
  unfold storedBoot
  refine (Keeps.look _).fileOutcome.bind fun outcome => ?_
  split
  · exact Keeps.pure _
  · exact Keeps.pure _
  · exact Keeps.throw _

/-- Reading the front of the names of the logs keeps everything. -/
theorem storedFront_keeps (p : Path) : Keeps R (storedFront p) := by
  unfold storedFront
  refine (Keeps.look _).fileOutcome.bind fun outcome => ?_
  split
  · exact Keeps.pure _
  · exact Keeps.pure _
  · exact Keeps.throw _

/-- Finding the front of the names of the logs keeps everything. -/
theorem logFrontOf_keeps (p : Path) : Keeps R (logFrontOf p) := by
  unfold logFrontOf
  refine (storedFront_keeps p).bind fun stored => ?_
  split
  · exact Keeps.pure _
  · exact (Keeps.ofExcept _).bind fun _ => Keeps.pure _

end Preorder

end BootTrial
