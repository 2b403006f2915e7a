import BootTrial.Proofs.Dispatch
import BootTrial.Proofs.Oblivious
import BootTrial.Proofs.Rereading
import BootTrial.Report

/-!
# What a report gathers

A report is gathered from the scenario files of the completed tests, by ordinal and then by name. A
file is usable under the header of the template if it has this header and all its rows can be read
(`IsUsable`). If all are, the report shows every row of every file under its columns
(`Report.Shows`). Otherwise the first that is not decides what is wrong: it has another header, or
it cannot be read (`Report.ofResults_gathers`).

A program that has just been started remembers nothing but what it has read, and nothing moves while
a report is gathered. So what it remembers of a file is what is in the file
(`Bench.RemembersTruly`), and every file is judged by its content alone
(`ScenarioTable.read_truly`).
-/

namespace BootTrial

open Text (Bytes)

/-! ## Headers that are remembered truly -/

/-- Every header that is remembered for a place is that of the file which stands there. -/
def Bench.RemembersTruly (bench : Bench) : Prop :=
  ∀ place known, bench.headers.get? place = some known →
    ∃ content runnable, bench.files.get? place = some (.file content runnable)
      ∧ Table.header content = .ok known

/-- What is remembered for the place of a file is its header. -/
theorem Bench.RemembersTruly.header_eq {bench : Bench} {place : Place} {content : Bytes}
    {runnable : Bool} {known : List String} (h : bench.RemembersTruly)
    (hstands : bench.files.get? place = some (.file content runnable))
    (hknown : bench.headers.get? place = some known) : Table.header content = .ok known := by
  obtain ⟨own, runnable', hown, hheader⟩ := h place known hknown
  rw [hstands] at hown
  obtain ⟨rfl, rfl⟩ := Node.file.inj (Option.some.inj hown)
  exact hheader

namespace ScenarioTable

variable {path : Path} {content : Bytes} {bench : Bench} {header : List String}

/-- The scenario of a row, or what is wrong with the row. -/
def scenarioOf (path : Path) (header : List String) :
    Except Table.Fault (List String) → Except Error Scenario
  | .ok texts => .ok (Scenario.ofRow header texts)
  | .error fault => .error (malformed path fault)

/-- The table in a file whose header can be read. -/
theorem ofBytes_eq (hheader : Table.header content = .ok header)
    (hnamed : isBlankHeader header = false) (path : Path) :
    ofBytes path content
      = .ok ⟨header, ((Table.rows content).map Table.Row.texts).map (scenarioOf path header)⟩ := by
  unfold ofBytes
  simp only [hheader, hnamed, List.map_map]
  rfl

/-- What is read at a path is the table in the file, and what is remembered then is true, too. -/
theorem read_truly (h : bench.RemembersTruly) (hcontent : bench.bytesAt path = .ok content) :
    ∃ known, bench.perform (read path) = (ofBytes path content, bench.remembering known)
      ∧ (bench.remembering known).RemembersTruly := by
  obtain ⟨runnable, hnode⟩ := Bench.nodeAt_of_bytesAt hcontent
  obtain ⟨place, hplace, hstands⟩ := Path.exists_place hnode
  cases htable : ofBytes path content with
  | error failure =>
    refine ⟨bench.headers, ?_, h⟩
    rw [perform_read hplace hcontent, htable]
    rfl
  | ok table =>
    cases hknown : bench.headers.get? place with
    | some known =>
      have hheader := h.header_eq hstands hknown
      rw [(header_of_ofBytes htable).1] at hheader
      obtain rfl := Except.ok.inj hheader
      exact ⟨bench.headers, perform_read_known hplace hcontent htable hknown, h⟩
    | none =>
      refine ⟨bench.headers.insert place table.header, ?_, fun other known hother => ?_⟩
      · rw [perform_read_unknown hplace hcontent hknown, htable]
        rfl
      · by_cases hsame : other = place
        · subst hsame
          change (bench.headers.insert other table.header).get? other = some known at hother
          rw [HeaderCache.get?_insert_self, Option.some.injEq] at hother
          exact ⟨content, runnable, hstands, hother ▸ (header_of_ofBytes htable).1⟩
        · change (bench.headers.insert place table.header).get? other = some known at hother
          rw [HeaderCache.get?_insert_of_ne hsame] at hother
          exact h other known hother

/-- The header of a table that can be read is found, and what is remembered then is true. -/
theorem headerAt_truly (h : bench.RemembersTruly) (hcontent : bench.bytesAt path = .ok content)
    (hheader : Table.header content = .ok header) (hnamed : isBlankHeader header = false) :
    ∃ known, bench.perform (headerAt path) = (.ok header, bench.remembering known)
      ∧ (bench.remembering known).RemembersTruly := by
  obtain ⟨runnable, hnode⟩ := Bench.nodeAt_of_bytesAt hcontent
  obtain ⟨place, hplace, hstands⟩ := Path.exists_place hnode
  have hlook : bench.perform ((FileWork.look (·.placeAt path)).reportedAs (.unreadable path))
      = (.ok place, bench) :=
    Bench.perform_reportedAs_ok (by rw [Bench.perform_look]; exact congrArg (·, bench) hplace) _
  rw [headerAt, Bench.perform_bind_ok hlook, Bench.perform_bind_ok (Bench.perform_get bench)]
  cases hknown : bench.headers.get? place with
  | some known =>
    obtain rfl := Except.ok.inj (hheader.symm.trans (h.header_eq hstands hknown))
    exact ⟨bench.headers, rfl, h⟩
  | none =>
    obtain ⟨known, hread, htruly⟩ := read_truly h hcontent
    rw [ofBytes_eq hheader hnamed path] at hread
    refine ⟨known, ?_, htruly⟩
    simp only
    rw [Bench.perform_bind_ok hread]
    rfl

end ScenarioTable

/-! ## Files that are usable -/

/-- A scenario file can be used under a header: it has this header, and its rows hold these texts.
-/
structure IsUsable (header : List String) (content : Bytes) (rows : List (List String)) : Prop where
  /-- Its header is this one. -/
  header : Table.header content = .ok header
  /-- All its rows can be read. -/
  rows : (Table.rows content).map Table.Row.texts = rows.map .ok

/-- A row of a usable file has a text for each column. -/
theorem IsUsable.length {header : List String} {content : Bytes} {rows : List (List String)}
    (h : IsUsable header content rows) {texts : List String} (hmem : texts ∈ rows) :
    texts.length = header.length := by
  have hread : .ok texts ∈ (Table.rows content).map Table.Row.texts :=
    h.rows ▸ List.mem_map_of_mem hmem
  obtain ⟨row, hrow, htexts⟩ := List.mem_map.mp hread
  exact Table.length_texts_of_mem_rows h.header hrow htexts

/-- The scenario files of the tests in some directories, each with its path. A directory in which
there is none is passed over. -/
def Bench.sheets (bench : Bench) (directories : List Path) : List (Path × Bytes) :=
  directories.filterMap fun directory =>
    match bench.bytesAt (directory.join scenarioName) with
    | .ok content => some (directory.join scenarioName, content)
    | .error _ => none

/-- A path leads to a file if its octets can be read. -/
theorem Bench.hasFile_eq_isOk (bench : Bench) (path : Path) :
    bench.hasFile path = (bench.bytesAt path).isOk := by
  rw [hasFile, bytesAt]
  rcases bench.nodeAt path with fault | node
  · rfl
  · cases node <;> rfl

/-- A directory in which there is no scenario file is passed over. -/
theorem Bench.sheets_cons_error {bench : Bench} {directory : Path} {fault : FileFault}
    (h : bench.bytesAt (directory.join scenarioName) = .error fault) (rest : List Path) :
    bench.sheets (directory :: rest) = bench.sheets rest := by
  rw [sheets, List.filterMap_cons, h]
  rfl

/-- The scenario file in a directory comes in front of those in the others. -/
theorem Bench.sheets_cons_ok {bench : Bench} {directory : Path} {content : Bytes}
    (h : bench.bytesAt (directory.join scenarioName) = .ok content) (rest : List Path) :
    bench.sheets (directory :: rest)
      = (directory.join scenarioName, content) :: bench.sheets rest := by
  rw [sheets, List.filterMap_cons, h]
  rfl

/-- The tests in a root are these, by ordinal and then by name. A missing root has none. -/
structure Bench.Enumerates (bench : Bench) (root : Path) (names : List String) : Prop where
  /-- They are the directories in the root. -/
  directories : ∃ entries, (bench.entriesAt root = .ok entries
      ∨ bench.entriesAt root = .error .notFound ∧ entries = [])
    ∧ names.Perm ((entries.filter (·.2.isDir)).map (·.1))
  /-- They are in order. -/
  ordered : names.Pairwise fun name other =>
    sortOrdinal name < sortOrdinal other ∨ sortOrdinal name = sortOrdinal other ∧ name ≤ other

/-- The tests in a root are listed. -/
theorem Bench.Enumerates.perform_testsIn {bench : Bench} {root : Path} {names : List String}
    (h : bench.Enumerates root names) :
    bench.perform (testsIn root) = (.ok (names.map root.join), bench) := by
  obtain ⟨entries, hread | ⟨hread, rfl⟩, hperm⟩ := h.directories
  · -- There is only one way to put the tests in order.
    have hlisted : testNames entries = names := by
      have hperm' : (testNames entries).Perm names :=
        (List.mergeSort_perm _ _).trans hperm.symm
      refine hperm'.eq_of_pairwise (fun name other _ _ hle hge => ?_) (sorted_testNames entries)
        (h.ordered.imp precedes_iff.mpr)
      rcases precedes_iff.mp hle with hlt | ⟨heq, hle⟩ <;>
        rcases precedes_iff.mp hge with hlt' | ⟨heq', hge⟩
      · omega
      · omega
      · omega
      · exact le_antisymm hle hge
    rw [BootTrial.perform_testsIn, hread]
    simp only
    rw [hlisted]
  · obtain rfl : names = [] := hperm.eq_nil
    rw [BootTrial.perform_testsIn, hread]
    rfl

namespace Report

/-- A row of a report shows the texts of a row under a header. -/
structure IsRowOf (header columns texts row : List String) : Prop where
  /-- It has a cell for each column. -/
  length : row.length = columns.length
  /-- Under a concrete column of the header stands the text of this column. -/
  concrete : ∀ (name : String) (i j : Nat), isConcrete name = true → header[i]? = some name →
    columns[j]? = some name → row[j]? = texts[i]?
  /-- All other cells are empty. -/
  added : ∀ (name : String) (j : Nat), ¬ (isConcrete name = true ∧ name ∈ header) →
    columns[j]? = some name → row[j]? = some ""

/-- A report shows rows with these texts under a header. -/
structure Shows (header extra : List String) (texts : List (List String)) (report : Report) :
    Prop where
  /-- The columns are the concrete ones of the header, and behind them those of the extra ones that
  are not there yet, each once. -/
  headers : report.headers = header.filter isConcrete
    ++ (extra.filter (· ∉ header.filter isConcrete)).eraseDups
  /-- No column stands twice. -/
  nodup : report.headers.Nodup
  /-- If there are rows, it has a row for each of them, in their order, and no other. -/
  rows : texts ≠ [] → texts.Forall₂ (IsRowOf header report.headers) report.rows
  /-- An empty row is put in if there are none. -/
  empty : texts = [] → report.rows = [List.replicate report.headers.length ""]
  /-- All rows are as wide as the header. -/
  width : ∀ row ∈ report.rows, row.length = report.headers.length

/-- What is wrong with a file that has another header than the template. -/
def mismatch (path : Path) (other header : List String) : Error :=
  .schema path ("header " ++ Text.quotedList other ++ " does not match template header "
    ++ Text.quotedList header)

/-- What gathering a report comes to, by the scenario files of the completed tests in their order.
-/
structure Gathers (header extra : List String) (sheets : List (Path × Bytes))
    (outcome : Except Error Report) : Prop where
  /-- If all files are usable, there is a report that shows the rows of all files. -/
  complete : ∀ tables, sheets.Forall₂ (fun sheet rows => IsUsable header sheet.2 rows) tables →
    ∃ report, outcome = .ok report ∧ report.Shows header extra tables.flatten
  /-- If the first that is not has another header, the report fails for it. -/
  mismatched : ∀ front path content back other, sheets = front ++ (path, content) :: back →
    (∀ sheet ∈ front, ∃ rows, IsUsable header sheet.2 rows) → Table.header content = .ok other →
    ScenarioTable.isBlankHeader other = false → other ≠ header →
    outcome = .error (mismatch path other header)
  /-- If the first that is not has no other header that can be read, the report fails for it as for
  a file that is no scenario file. -/
  malformed : ∀ front path content back, sheets = front ++ (path, content) :: back →
    (∀ sheet ∈ front, ∃ rows, IsUsable header sheet.2 rows) →
    (¬ ∃ rows, IsUsable header content rows) →
    (∀ other, Table.header content = .ok other → ScenarioTable.isBlankHeader other = false →
      other = header) →
    ∃ details, outcome = .error (.malformedScenario path details)

/-- The rows of a report that come from one file. -/
def sheetRows (header columns : List String) (sheet : Path × Bytes) :
    Except Error (List (List String)) :=
  match ScenarioTable.ofBytes sheet.1 sheet.2 with
  | .error failure => .error failure
  | .ok table =>
    if table.header ≠ header then .error (mismatch sheet.1 table.header header)
    else rowsOf columns table.rows

/-- The scenario file of the first test is read, and the others after it if it is usable. -/
theorem rowsOfTests_cons {bench : Bench} {directory : Path} {content : Bytes}
    (h : bench.RemembersTruly) (header columns : List String)
    (hcontent : bench.bytesAt (directory.join scenarioName) = .ok content) (rest : List Path) :
    ∃ known, (bench.remembering known).RemembersTruly
      ∧ bench.perform (rowsOfTests header columns (directory :: rest))
        = match sheetRows header columns (directory.join scenarioName, content) with
          | .error failure => (.error failure, bench.remembering known)
          | .ok rows => (bench.remembering known).perform do
            return rows ++ (← rowsOfTests header columns rest) := by
  obtain ⟨known, hread, htruly⟩ := ScenarioTable.read_truly h hcontent
  refine ⟨known, htruly, ?_⟩
  rw [rowsOfTests, Bench.perform_bind_ok (Bench.perform_get bench),
    if_neg (by simp [Bench.hasFile_eq_isOk, hcontent, Except.isOk, Except.toBool])]
  simp only [sheetRows]
  cases htable : ScenarioTable.ofBytes (directory.join scenarioName) content with
  | error failure =>
    rw [htable] at hread
    rw [Bench.perform_bind_error hread]
  | ok table =>
    rw [htable] at hread
    rw [Bench.perform_bind_ok hread]
    by_cases hheader : table.header = header
    · simp only [ne_eq, hheader, not_true_eq_false, if_false]
      cases hrows : rowsOf columns table.rows with
      | error failure => rw [Bench.perform_bind_error (Bench.perform_ofExcept _ _)]
      | ok rows => rw [Bench.perform_bind_ok (Bench.perform_ofExcept _ _)]
    · simp only [ne_eq, hheader, not_false_eq_true, if_true]
      rw [Bench.perform_bind_error (Bench.perform_throw _ _)]
      rfl

/-- The rows of a report come from the files one after the other. -/
theorem rowsOfTests_truly {bench : Bench} (h : bench.RemembersTruly) (header columns : List String)
    (directories : List Path) :
    ∃ known, bench.perform (rowsOfTests header columns directories)
      = (((bench.sheets directories).mapM (sheetRows header columns)).map List.flatten,
          bench.remembering known) := by
  induction directories generalizing bench with
  | nil => exact ⟨bench.headers, rfl⟩
  | cons directory rest ih =>
    cases hcontent : bench.bytesAt (directory.join scenarioName) with
    | error fault =>
      rw [Bench.sheets_cons_error hcontent]
      obtain ⟨known, hrest⟩ := ih h
      refine ⟨known, ?_⟩
      rw [rowsOfTests, Bench.perform_bind_ok (Bench.perform_get bench),
        if_pos (by simp [Bench.hasFile_eq_isOk, hcontent, Except.isOk, Except.toBool])]
      exact hrest
    | ok content =>
      obtain ⟨known, htruly, hperform⟩ := rowsOfTests_cons h header columns hcontent rest
      rw [hperform, Bench.sheets_cons_ok hcontent, List.mapM_cons]
      cases sheetRows header columns (directory.join scenarioName, content) with
      | error failure => exact ⟨known, rfl⟩
      | ok rows =>
        obtain ⟨known', hrest⟩ := ih htruly
        have hsheets : (bench.remembering known).sheets rest = bench.sheets rest := rfl
        rw [hsheets] at hrest
        refine ⟨known', ?_⟩
        simp only
        cases hmore : (bench.sheets rest).mapM (sheetRows header columns) with
        | error failure =>
          rw [hmore] at hrest
          rw [Bench.perform_bind_error hrest]
          rfl
        | ok more =>
          rw [hmore] at hrest
          rw [Bench.perform_bind_ok hrest]
          rfl

/-! ### What is wrong with a file -/

section Sheets

variable {header columns : List String} {path : Path} {content : Bytes}

/-- The files in front can be used, and so what comes of all is what comes of the next one. -/
theorem mapM_sheetRows_error {front back : List (Path × Bytes)} {sheet : Path × Bytes}
    {failure : Error} (hfront : ∀ sheet ∈ front, ∃ rows, sheetRows header columns sheet = .ok rows)
    (hsheet : sheetRows header columns sheet = .error failure) :
    (front ++ sheet :: back).mapM (sheetRows header columns) = .error failure := by
  induction front with
  | nil =>
    rw [List.nil_append, List.mapM_cons, hsheet]
    rfl
  | cons first rest ih =>
    obtain ⟨rows, hrows⟩ := hfront first List.mem_cons_self
    rw [List.cons_append, List.mapM_cons, hrows,
      ih fun sheet hmem => hfront sheet (List.mem_cons_of_mem _ hmem)]
    rfl

/-- A usable file gives a row for each of its rows. -/
theorem sheetRows_usable {rows : List (List String)}
    (hnamed : ScenarioTable.isBlankHeader header = false) (h : IsUsable header content rows)
    (columns : List String) (path : Path) :
    sheetRows header columns (path, content)
      = .ok (rows.map fun texts => rowOf columns (Scenario.ofRow header texts)) := by
  rw [sheetRows, ScenarioTable.ofBytes_eq h.header hnamed path, h.rows]
  simp only [ne_eq, not_true_eq_false, if_false, rowsOf, List.mapM_map]
  exact List.mapM_pure

/-- A file with another header is refused. -/
theorem sheetRows_mismatch {other : List String} (hheader : Table.header content = .ok other)
    (hnamed : ScenarioTable.isBlankHeader other = false) (hother : other ≠ header)
    (columns : List String) (path : Path) :
    sheetRows header columns (path, content) = .error (mismatch path other header) := by
  rw [sheetRows, ScenarioTable.ofBytes_eq hheader hnamed path]
  exact if_pos hother

/-- Where not all rows can be read, the first that cannot is reported. -/
theorem rowsOf_malformed {texts : List (Except Table.Fault (List String))}
    (h : ¬ ∃ rows : List (List String), texts = rows.map .ok) (header columns : List String)
    (path : Path) :
    ∃ fault, rowsOf columns (texts.map (ScenarioTable.scenarioOf path header))
      = .error (ScenarioTable.malformed path fault) := by
  induction texts with
  | nil => exact absurd ⟨[], rfl⟩ h
  | cons first rest ih =>
    cases first with
    | error fault => exact ⟨fault, rfl⟩
    | ok texts =>
      obtain ⟨fault, hrest⟩ := ih fun ⟨rows, hrows⟩ => h ⟨texts :: rows, by rw [hrows]; rfl⟩
      refine ⟨fault, ?_⟩
      rw [rowsOf] at hrest ⊢
      rw [List.map_cons, List.mapM_cons, hrest]
      rfl

/-- A file that cannot be used, but not for its header, is malformed. -/
theorem sheetRows_malformed (hunusable : ¬ ∃ rows, IsUsable header content rows)
    (hheader : ∀ other, Table.header content = .ok other →
      ScenarioTable.isBlankHeader other = false → other = header) (columns : List String)
    (path : Path) :
    ∃ details, sheetRows header columns (path, content)
      = .error (.malformedScenario path details) := by
  cases hown : Table.header content with
  | error fault => exact ⟨fault.message, by rw [sheetRows, ScenarioTable.ofBytes, hown]; rfl⟩
  | ok own =>
    cases hnamed : ScenarioTable.isBlankHeader own with
    | true =>
      exact ⟨"missing header row", by
        rw [sheetRows, ScenarioTable.ofBytes, hown]
        simp only [hnamed, if_true]⟩
    | false =>
      obtain rfl := hheader own hown hnamed
      have hrows : ¬ ∃ rows : List (List String),
          (Table.rows content).map Table.Row.texts = rows.map .ok := by
        rintro ⟨rows, hrows⟩
        exact hunusable ⟨rows, hown, hrows⟩
      obtain ⟨fault, hfault⟩ := rowsOf_malformed hrows own columns path
      refine ⟨fault.message, ?_⟩
      rw [sheetRows, ScenarioTable.ofBytes_eq hown hnamed path]
      simp only [ne_eq, not_true_eq_false, if_false]
      exact hfault

/-- The rows of usable files come one after the other. -/
theorem mapM_sheetRows_ok {sheets : List (Path × Bytes)} {tables : List (List (List String))}
    (hnamed : ScenarioTable.isBlankHeader header = false)
    (h : sheets.Forall₂ (fun sheet rows => IsUsable header sheet.2 rows) tables)
    (columns : List String) :
    sheets.mapM (sheetRows header columns)
      = .ok (tables.map (List.map fun texts => rowOf columns (Scenario.ofRow header texts))) := by
  induction h with
  | nil => rfl
  | cons hsheet _ ih =>
    rw [List.mapM_cons, sheetRows_usable hnamed hsheet, ih]
    rfl

end Sheets

/-! ### The columns -/

/-- The columns that are added are those that are not there yet, each once. -/
theorem addNames_eq (names extra : List String) :
    addNames names extra = names ++ (extra.filter (· ∉ names)).eraseDups := by
  induction extra generalizing names with
  | nil => simp [addNames]
  | cons name rest ih =>
    rw [addNames]
    by_cases hthere : name ∈ names
    · rw [if_pos (by simpa using hthere), List.filter_cons_of_neg (by simpa using hthere), ih]
    · rw [if_neg (by simpa using hthere), List.filter_cons_of_pos (by simpa using hthere), ih,
        List.eraseDups_cons, List.filter_filter, List.append_assoc, List.singleton_append]
      congr 4
      funext other
      simp [Bool.and_comm, Bool.beq_eq_decide_eq]

/-- Adding names makes none stand twice. -/
theorem nodup_addNames {names : List String} (h : names.Nodup) (extra : List String) :
    (addNames names extra).Nodup := by
  induction extra generalizing names with
  | nil => exact h
  | cons name rest ih =>
    rw [addNames]
    split
    · exact ih h
    · next hnew =>
      refine ih (List.nodup_append.mpr ⟨h, by simp, fun other hother added hadded => ?_⟩)
      rw [List.mem_singleton.mp hadded]
      rintro rfl
      exact hnew (List.contains_iff_mem.mpr hother)

/-! ### The cells -/

/-- In a scenario that has been read stands each text under the column it was read from. -/
theorem fields_ofRow {header texts : List String} (hnodup : header.Nodup)
    (hlength : texts.length = header.length) :
    (Scenario.ofRow header texts).fields = header.zip texts := by
  have hnames : (header.zip texts).map (·.1) = header := List.map_fst_zip hlength.ge
  rw [Scenario.ofRow, Scenario.ofFields, Scenario.foldl_set {} (by simpa [Scenario.names, hnames])]
  rfl

/-- The fields of a scenario that has been read and show up in a report. -/
theorem get?_concrete_ofRow {header texts : List String} (hnodup : header.Nodup)
    (hlength : texts.length = header.length) (name : String) :
    (Scenario.ofRow header texts).concrete.get? name
      = ((header.zip texts).filter (isConcrete ·.1)).lookup name := by
  have hnames : (Scenario.ofRow header texts).names.Nodup := Scenario.nodup_names_ofFields _
  rw [Scenario.concrete_eq hnames, Scenario.get?, Scenario.concreteFields,
    fields_ofRow hnodup hlength]

/-- The row of a scenario that has been read. -/
theorem isRowOf_rowOf {header texts : List String} (hnodup : header.Nodup)
    (hlength : texts.length = header.length) (columns : List String) :
    IsRowOf header columns texts (rowOf columns (Scenario.ofRow header texts)) := by
  have hfirst : (header.zip texts).map (·.1) = header := List.map_fst_zip hlength.ge
  have hnames : (((header.zip texts).filter (isConcrete ·.1)).map (·.1)).Nodup :=
    (hfirst.symm ▸ hnodup).sublist (List.filter_sublist.map _)
  refine ⟨List.length_map _, fun name i j hconcrete hi hj => ?_, fun name j hadded hj => ?_⟩
  · have hlt : i < texts.length := hlength ▸ (List.getElem?_eq_some_iff.mp hi).1
    have hmem : (name, texts[i]) ∈ (header.zip texts).filter (isConcrete ·.1) :=
      List.mem_filter.mpr ⟨List.mem_of_getElem?
        (List.getElem?_zip_eq_some.mpr ⟨hi, List.getElem?_eq_getElem hlt⟩), hconcrete⟩
    rw [rowOf, List.getElem?_map, hj, Option.map_some, get?_concrete_ofRow hnodup hlength,
      Named.lookup_of_mem hmem hnames, List.getElem?_eq_getElem hlt]
    rfl
  · have hnone : ((header.zip texts).filter (isConcrete ·.1)).lookup name = none := by
      refine Named.lookup_eq_none.mpr fun hmem => hadded ?_
      obtain ⟨field, hfield, rfl⟩ := List.mem_map.mp hmem
      obtain ⟨hzip, hconcrete⟩ := List.mem_filter.mp hfield
      exact ⟨hconcrete, hfirst ▸ List.mem_map_of_mem hzip⟩
    rw [rowOf, List.getElem?_map, hj, Option.map_some, get?_concrete_ofRow hnodup hlength, hnone]
    rfl

/-- A row of one of several usable files has a text for each column. -/
theorem length_of_mem_flatten {header : List String} {sheets : List (Path × Bytes)}
    {tables : List (List (List String))}
    (h : sheets.Forall₂ (fun sheet rows => IsUsable header sheet.2 rows) tables) :
    ∀ texts ∈ tables.flatten, texts.length = header.length := by
  induction h with
  | nil => exact fun texts hmem => absurd hmem (List.not_mem_nil)
  | cons hsheet _ ih =>
    intro texts hmem
    rw [List.flatten_cons, List.mem_append] at hmem
    exact hmem.elim hsheet.length (ih texts)

/-- The report on the rows of usable files. -/
theorem shows_fill {header : List String} {texts : List (List String)} (hnodup : header.Nodup)
    (hlength : ∀ row ∈ texts, row.length = header.length) (extra : List String) :
    (fill (columns header extra)
      (texts.map fun row => rowOf (columns header extra) (Scenario.ofRow header row))).Shows
        header extra texts := by
  have hwidth : ∀ row ∈ (fill (columns header extra)
      (texts.map fun row => rowOf (columns header extra) (Scenario.ofRow header row))).rows,
      row.length = (columns header extra).length := by
    intro row hrow
    rw [fill] at hrow
    dsimp only at hrow
    split at hrow
    · rw [List.mem_singleton.mp hrow, List.length_map]
    · obtain ⟨own, -, rfl⟩ := List.mem_map.mp hrow
      exact List.length_map _
  refine ⟨addNames_eq _ _, nodup_addNames (hnodup.filter _) extra, fun hsome => ?_, fun hnone => ?_,
    hwidth⟩
  · rw [fill, if_neg (by simpa using hsome)]
    clear hwidth hsome
    induction texts with
    | nil => exact .nil
    | cons row rest ih =>
      exact .cons (isRowOf_rowOf hnodup (hlength row List.mem_cons_self) _)
        (ih fun row hmem => hlength row (List.mem_cons_of_mem _ hmem))
  · subst hnone
    exact congrArg (fun row => [row]) (List.map_const')

section Results

variable {bench : Bench} {settings : Settings} {content : Bytes} {table : ScenarioTable}
  {names : List String}

/-- What a program that has just been started makes of the files of the completed tests. -/
theorem perform_ofResults (hnew : bench.headers = [])
    (htemplate : bench.bytesAt (settings.workspace.scenarios settings.template) = .ok content)
    (htable : ScenarioTable.ofBytes (settings.workspace.scenarios settings.template) content
      = .ok table)
    (hlists : bench.Enumerates settings.workspace.results names) :
    (bench.perform (ofResults settings)).1
      = ((bench.sheets (names.map settings.workspace.results.join)).mapM
          (sheetRows table.header (columns table.header settings.reportHeaders))).map
        fun tables => fill (columns table.header settings.reportHeaders) tables.flatten := by
  have hempty : bench.RemembersTruly := by
    intro place known hknown
    rw [hnew] at hknown
    cases hknown
  obtain ⟨hheader, hnamed⟩ := ScenarioTable.header_of_ofBytes htable
  obtain ⟨known, hread, htruly⟩ :=
    ScenarioTable.headerAt_truly hempty htemplate hheader hnamed
  have hlists' : (bench.remembering known).Enumerates settings.workspace.results names :=
    ⟨hlists.directories, hlists.ordered⟩
  obtain ⟨known', hrows⟩ := rowsOfTests_truly htruly table.header
    (columns table.header settings.reportHeaders) (names.map settings.workspace.results.join)
  have hsheets : (bench.remembering known).sheets (names.map settings.workspace.results.join)
      = bench.sheets (names.map settings.workspace.results.join) := rfl
  rw [hsheets] at hrows
  rw [ofResults, Bench.perform_bind_ok hread, Bench.perform_bind_ok hlists'.perform_testsIn]
  cases htables : (bench.sheets (names.map settings.workspace.results.join)).mapM
      (sheetRows table.header (columns table.header settings.reportHeaders)) with
  | error failure =>
    rw [htables] at hrows
    rw [Bench.perform_bind_error hrows]
    rfl
  | ok tables =>
    rw [htables] at hrows
    rw [Bench.perform_bind_ok hrows]
    rfl

/-- What a program that has just been started gathers. The template can be read, the names of its
columns are distinct, and the tests in the results are these, in order. A directory is passed over
if no file is found under the path of its scenario file.

Either all scenario files are usable, or one of them is the first that is not. -/
theorem ofResults_gathers (hnew : bench.headers = [])
    (htemplate : bench.bytesAt (settings.workspace.scenarios settings.template) = .ok content)
    (htable : ScenarioTable.ofBytes (settings.workspace.scenarios settings.template) content
      = .ok table)
    (hnodup : table.header.Nodup)
    (hlists : bench.Enumerates settings.workspace.results names) :
    Gathers table.header settings.reportHeaders
      (bench.sheets (names.map settings.workspace.results.join))
      (bench.perform (ofResults settings)).1 := by
  obtain ⟨-, hnamed⟩ := ScenarioTable.header_of_ofBytes htable
  rw [perform_ofResults hnew htemplate htable hlists]
  have hfront : ∀ front : List (Path × Bytes),
      (∀ sheet ∈ front, ∃ rows, IsUsable table.header sheet.2 rows) → ∀ sheet ∈ front,
        ∃ rows, sheetRows table.header (columns table.header settings.reportHeaders) sheet
          = .ok rows := by
    intro front hfront sheet hmem
    obtain ⟨rows, hrows⟩ := hfront sheet hmem
    exact ⟨_, sheetRows_usable hnamed hrows _ sheet.1⟩
  refine ⟨fun tables htables => ?_,
    fun front path own back other hsheets hgood hother hown hne => ?_,
    fun front path own back hsheets hgood hbad hother => ?_⟩
  · rw [mapM_sheetRows_ok hnamed htables]
    refine ⟨_, rfl, ?_⟩
    simp only
    rw [← List.map_flatten]
    exact shows_fill hnodup (length_of_mem_flatten htables) settings.reportHeaders
  · rw [hsheets, mapM_sheetRows_error (hfront front hgood)
      (sheetRows_mismatch hother hown hne _ path)]
    rfl
  · obtain ⟨details, hmalformed⟩ := sheetRows_malformed hbad hother
      (columns table.header settings.reportHeaders) path
    exact ⟨details, by rw [hsheets, mapM_sheetRows_error (hfront front hgood) hmalformed]; rfl⟩

end Results

/-- A scenario file with two rows. -/
def twoRows : Bytes :=
  Text.encode "mode,cycles?,kernel\ndeep,5,6.9\n\"a|b\",,\n"

/-- A workspace with three completed tests. The first in order has two rows, the second no scenario
file, and the last the scenario file `last`. A file lies beside them. -/
def threeTests (last : String) : Bench where
  files := .dir [
    ("templates", .dir [("power", .dir [
      ("scenarios.csv", .file (Text.encode "mode,cycles?,kernel\n") false)])]),
    ("results", .dir [
      ("10-power--b", .dir [("scenario.csv", .file (Text.encode last) false)]),
      ("2-power--a", .dir [("scenario.csv", .file twoRows false)]),
      ("3-power--c", .dir [("log", .file [] false)]),
      ("scenario.csv", .file [] false)])]
  here := []
  home := .ofText "/"
  searchPath := []
  color := false

/-- The scenario files of the tests. -/
def threeSheets (last : String) : List (Path × Bytes) :=
  [(.ofText "./results/2-power--a/scenario.csv", twoRows),
    (.ofText "./results/10-power--b/scenario.csv", Text.encode last)]

/-- The settings ask for a column for notes, twice, for one that there is, and for one of the
template that holds a placeholder. -/
def withNotes : Settings := { reportHeaders := ["notes", "mode", "cycles?", "notes"] }

/-- The completed tests come in the order of their numbers. -/
theorem threeTests_enumerates (last : String) : (threeTests last).Enumerates
    withNotes.workspace.results ["2-power--a", "3-power--c", "10-power--b"] := by
  have hperm : ["2-power--a", "3-power--c", "10-power--b"].Perm
      ["10-power--b", "2-power--a", "3-power--c"] := by decide
  exact ⟨⟨_, .inl rfl, hperm⟩, by decide +kernel⟩

/-- The scenario file of the first test is usable. -/
theorem isUsable_twoRows : IsUsable ["mode", "cycles?", "kernel"] twoRows
    [["deep", "5", "6.9"], ["a|b", "", ""]] :=
  ⟨by decide +kernel, by decide +kernel⟩

set_option maxRecDepth 100000 in
/-- If the last file is usable, the rows of all tests are shown. If its columns come in another
order, the report fails. -/
theorem ofResults_gathers_threeTests :
    (∃ report, ((threeTests "mode,cycles?,kernel\nfreeze,7,6.10\n").perform
        (ofResults withNotes)).1 = .ok report
      ∧ report.Shows ["mode", "cycles?", "kernel"] ["notes", "mode", "cycles?", "notes"]
        [["deep", "5", "6.9"], ["a|b", "", ""], ["freeze", "7", "6.10"]])
    ∧ ((threeTests "kernel,mode,cycles?\n6.10,freeze,7\n").perform (ofResults withNotes)).1
      = .error (mismatch (.ofText "./results/10-power--b/scenario.csv")
          ["kernel", "mode", "cycles?"] ["mode", "cycles?", "kernel"]) := by
  have hheader : Table.header (Text.encode "mode,cycles?,kernel\n")
      = .ok ["mode", "cycles?", "kernel"] := by decide +kernel
  have hgathers : ∀ last, (threeTests last).bytesAt
        (withNotes.workspace.scenarios withNotes.template)
        = .ok (Text.encode "mode,cycles?,kernel\n") →
      (threeTests last).sheets
        (["2-power--a", "3-power--c", "10-power--b"].map withNotes.workspace.results.join)
        = threeSheets last →
      Gathers ["mode", "cycles?", "kernel"] ["notes", "mode", "cycles?", "notes"]
        (threeSheets last) ((threeTests last).perform (ofResults withNotes)).1 := by
    intro last htemplate hsheets
    rw [← hsheets]
    exact ofResults_gathers rfl htemplate (ScenarioTable.ofBytes_eq hheader (by decide) _)
      (by decide) (threeTests_enumerates last)
  refine ⟨?_, ?_⟩
  · have hlast : IsUsable ["mode", "cycles?", "kernel"]
        (Text.encode "mode,cycles?,kernel\nfreeze,7,6.10\n") [["freeze", "7", "6.10"]] :=
      ⟨by decide +kernel, by decide +kernel⟩
    exact (hgathers "mode,cycles?,kernel\nfreeze,7,6.10\n" (by decide +kernel)
      (by decide +kernel)).complete _ (.cons isUsable_twoRows (.cons hlast .nil))
  · have hother : Table.header (Text.encode "kernel,mode,cycles?\n6.10,freeze,7\n")
        = .ok ["kernel", "mode", "cycles?"] := by decide +kernel
    refine (hgathers "kernel,mode,cycles?\n6.10,freeze,7\n" (by decide +kernel)
      (by decide +kernel)).mismatched [_] _ _ [] _ rfl (fun sheet hmem => ?_) hother (by decide)
      (by decide)
    obtain rfl := List.mem_singleton.mp hmem
    exact ⟨_, isUsable_twoRows⟩

end Report

end BootTrial
