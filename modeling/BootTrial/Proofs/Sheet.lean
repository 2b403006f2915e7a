import BootTrial.Proofs.Marks
import BootTrial.Proofs.Preparation

/-!
# The scenario file of a test

What is read from a scenario file depends on its content alone, and not on the path under which it
is read (`Scenario.IsRead`): so a test keeps its scenario when its directory moves. A record that
has just the names of the header is read back as it was written if and only if the header does not
lose a byte order mark (`Scenario.read_tableBytes`), and a file that could not be written is left as
it was (`Scenario.write_cases`).
-/

namespace BootTrial

open Text (Bytes)

namespace Table

/-- The texts of fields that are the octets of texts. -/
theorem textsFrom_encode (start : Position) (index : Nat) (texts : List String) :
    textsFrom start index (texts.map Text.encode) = .ok texts := by
  induction texts generalizing index with
  | nil => rfl
  | cons text rest ih =>
    rw [List.map_cons, textsFrom, Text.decode_encode, ih]
    rfl

/-- The texts of a record have the number of its fields. -/
theorem length_textsFrom {start : Position} {index : Nat} {fields : List Bytes}
    {texts : List String} (h : textsFrom start index fields = .ok texts) :
    texts.length = fields.length := by
  induction fields generalizing index texts with
  | nil =>
    cases h
    rfl
  | cons field rest ih =>
    rw [textsFrom] at h
    cases hfield : Text.decode field with
    | error byte => simp [hfield] at h
    | ok text =>
      cases hrest : textsFrom start (index + 1) rest with
      | error fault => simp [hfield, hrest, Except.map] at h
      | ok others =>
        simp only [hfield, hrest, Except.map, Except.ok.injEq] at h
        rw [← h, List.length_cons, ih hrest, List.length_cons]

/-- A row has as many texts as the header. -/
theorem length_texts_of_mem_rows {content : Bytes} {names texts : List String} {row : Row}
    (hheader : header content = .ok names) (hrow : row ∈ rows content)
    (htexts : row.texts = .ok texts) : texts.length = names.length := by
  unfold header at hheader
  unfold rows at hrow
  cases hrecords : records content with
  | nil => simp [hrecords] at hrow
  | cons first rest =>
    rw [hrecords] at hheader hrow
    obtain ⟨record, -, rfl⟩ := List.mem_map.mp hrow
    simp only [Record.textsOf] at htexts
    split at htexts
    · rename_i hwidth
      rw [length_textsFrom htexts, hwidth, ← length_textsFrom hheader]
    · cases htexts

end Table

namespace Scenario

/-- The content of a file is a header with one row below it, and the row is a scenario. -/
structure IsRead (content : Bytes) (header : List String) (scenario : Scenario) : Prop where
  /-- The header. -/
  names : Table.header content = .ok header
  /-- The header names a column. -/
  named : ScenarioTable.isBlankHeader header = false
  /-- The row. -/
  row : ∃ row texts, Table.rows content = [row] ∧ row.texts = .ok texts
    ∧ scenario = Scenario.ofRow header texts

/-- The table in a scenario file, under whatever path. -/
theorem IsRead.ofBytes {content : Bytes} {header : List String} {scenario : Scenario}
    (h : IsRead content header scenario) (path : Path) :
    ScenarioTable.ofBytes path content = .ok ⟨header, [.ok scenario]⟩ := by
  obtain ⟨row, texts, hrows, htexts, rfl⟩ := h.row
  simp [ScenarioTable.ofBytes, h.names, h.named, hrows, htexts]

/-- What is read of a scenario file, under whatever path. -/
theorem isRead_iff {path : Path} {content : Bytes} {header : List String} {scenario : Scenario} :
    IsRead content header scenario ↔ ∃ table, ScenarioTable.ofBytes path content = .ok table
      ∧ table.header = header ∧ ScenarioTable.onlyRow path false table.rows = .ok scenario := by
  constructor
  · exact fun h => ⟨_, h.ofBytes path, rfl, rfl⟩
  · rintro ⟨table, htable, rfl, hrow⟩
    unfold ScenarioTable.ofBytes at htable
    cases hnames : Table.header content with
    | error fault => simp [hnames] at htable
    | ok names =>
      rw [hnames] at htable
      simp only at htable
      cases hnamed : ScenarioTable.isBlankHeader names with
      | true => simp [hnamed] at htable
      | false =>
        simp only [hnamed, Bool.false_eq_true, if_false, Except.ok.injEq] at htable
        subst htable
        refine ⟨hnames, hnamed, ?_⟩
        rcases hrows : Table.rows content with _ | ⟨row, _ | ⟨second, others⟩⟩
        · simp [hrows, ScenarioTable.onlyRow] at hrow
        · cases htexts : row.texts with
          | error fault => simp [hrows, htexts, ScenarioTable.onlyRow] at hrow
          | ok texts =>
            refine ⟨row, texts, rfl, htexts, ?_⟩
            simpa [hrows, htexts, ScenarioTable.onlyRow, eq_comm] using hrow
        · cases htexts : row.texts <;> simp [hrows, htexts, ScenarioTable.onlyRow] at hrow

/-- A scenario that has been read has each name once. -/
theorem IsRead.names_nodup {content : Bytes} {header : List String} {scenario : Scenario}
    (h : IsRead content header scenario) : scenario.names.Nodup := by
  obtain ⟨row, texts, -, -, rfl⟩ := h.row
  exact nodup_names_ofFields _

/-- A record with a name keeps one when fields are set. -/
theorem foldl_set_names_ne_nil {record : Scenario} (h : record.names ≠ [])
    (fields : List (String × String)) :
    (fields.foldl (fun record field => record.set field.1 field.2) record).names ≠ [] := by
  induction fields generalizing record with
  | nil => exact h
  | cons field rest ih =>
    refine ih ?_
    rw [names_set]
    split
    · exact h
    · simp

/-- A scenario that has been read has a name. -/
theorem IsRead.names_ne_nil {content : Bytes} {header : List String} {scenario : Scenario}
    (h : IsRead content header scenario) : scenario.names ≠ [] := by
  obtain ⟨row, texts, hrows, htexts, rfl⟩ := h.row
  have hlength : texts.length = header.length :=
    Table.length_texts_of_mem_rows h.names (by rw [hrows]; exact List.mem_singleton_self row) htexts
  -- A header without names would be blank.
  cases header with
  | nil => exact absurd h.named (by decide)
  | cons name others =>
    cases texts with
    | nil => simp at hlength
    | cons text more =>
      have hfirst : (({} : Scenario).set name text).names ≠ [] := by
        simp [Scenario.set, Scenario.names, Named.set]
      exact foldl_set_names_ne_nil hfirst (others.zip more)

/-- Setting fields with names of their own appends them. -/
theorem foldl_set {fields : List (String × String)} (record : Scenario)
    (h : (record.names ++ fields.map (·.1)).Nodup) :
    fields.foldl (fun record field => record.set field.1 field.2) record
      = ⟨record.fields ++ fields⟩ := by
  induction fields generalizing record with
  | nil => simp
  | cons field rest ih =>
    obtain ⟨name, value⟩ := field
    have hnot : name ∉ Named.names record.fields := by
      intro hmem
      have hnodup := (List.nodup_append.mp h).2.2 name hmem name (by simp)
      exact hnodup rfl
    rw [List.foldl_cons]
    have hrecord : record.set name value = ⟨record.fields ++ [(name, value)]⟩ := by
      rw [Scenario.set, Named.set_of_not_mem hnot]
    rw [hrecord, ih ⟨record.fields ++ [(name, value)]⟩ (by simpa [Scenario.names] using h)]
    simp

/-- The record of a row that holds the values of a record, under its names. -/
theorem ofRow_values {record : Scenario} (h : record.names.Nodup) :
    ofRow record.names record.values = record := by
  have hzip : record.names.zip record.values = record.fields := by
    have hunzip := List.zip_unzip record.fields
    rwa [List.unzip_eq_map] at hunzip
  rw [ofRow, hzip, ofFields, foldl_set {} (by simpa [names] using h)]
  simp

/-- A record is read as it was written if it has just the names of the header, and this does not
lose a byte order mark. -/
theorem isRead_tableBytes {record : Scenario} (hnodup : record.names.Nodup)
    (hnamed : ScenarioTable.isBlankHeader record.names = false)
    (hkept : Table.losesMark record.names = false) :
    IsRead (record.tableBytes record.names) record.names record := by
  have hnames : record.names ≠ [] := by
    intro hnil
    rw [hnil] at hnamed
    cases hnamed
  have hlength : record.values.length = record.names.length := by simp [values, names]
  have hvalues : record.values ≠ [] := by
    intro hnil
    rw [hnil] at hlength
    exact hnames (List.eq_nil_of_length_eq_zero hlength.symm)
  obtain ⟨start, next, hrecords⟩ := Table.records_write hnames hvalues hkept
  refine ⟨?_, hnamed, ⟨next, .ok record.values⟩, record.values, ?_, rfl,
    (ofRow_values hnodup).symm⟩
  · rw [tableBytes, Table.header, hrecords]
    exact Table.textsFrom_encode _ _ _
  · rw [tableBytes, Table.rows, hrecords]
    simp only [List.map_cons, List.map_nil, Table.Record.textsOf, List.length_map, hlength,
      if_true, Table.Record.texts, Table.textsFrom_encode]

/-- The names of a record of which fields have been set are its own and those of the fields. -/
theorem mem_names_foldl_set {name : String} {fields : List (String × String)} {record : Scenario} :
    name ∈ (fields.foldl (fun record field => record.set field.1 field.2) record).names
      ↔ name ∈ record.names ∨ name ∈ fields.map (·.1) := by
  induction fields generalizing record with
  | nil => simp
  | cons field rest ih =>
    rw [List.foldl_cons, ih, names_set]
    grind

/-- The names of the record of a row are those of the header. -/
theorem mem_of_mem_names_ofRow {name : String} {header texts : List String}
    (h : name ∈ (ofRow header texts).names) : name ∈ header := by
  rcases mem_names_foldl_set.mp h with hmem | hmem
  · cases hmem
  · obtain ⟨entry, hentry, rfl⟩ := List.mem_map.mp hmem
    exact (List.of_mem_zip hentry).1

/-- In the table that is written for a record no row has all its names, if its header loses a byte
order mark. -/
theorem not_mem_rows_of_losesMark {record other : Scenario} {path : Path} {table : ScenarioTable}
    (hnodup : record.names.Nodup) (hlost : Table.losesMark record.names = true)
    (hother : record.names ⊆ other.names)
    (h : ScenarioTable.ofBytes path (record.tableBytes record.names) = .ok table) :
    .ok other ∉ table.rows := by
  have hvalues : record.values ≠ [] := by
    intro hnil
    have hfields : record.fields = [] := by simpa [values] using hnil
    rw [names, hfields] at hlost
    cases hlost
  rcases Table.records_write_lost hlost hvalues with
    ⟨name, bare, others, start, next, hnames, hbare, hrecords⟩ | ⟨start, hrecords⟩
  · -- The first name of the record is no name of the header that is read.
    have hheader : Table.header (record.tableBytes record.names) = .ok (bare :: others) := by
      rw [tableBytes, Table.header, hrecords]
      exact Table.textsFrom_encode _ _ _
    have hname : name ∉ bare :: others := by
      rw [hnames] at hnodup
      simp only [List.mem_cons, not_or]
      exact ⟨Ne.symm hbare, (List.nodup_cons.mp hnodup).1⟩
    rw [ScenarioTable.ofBytes, hheader] at h
    simp only at h
    split at h
    · cases h
    · cases h
      intro hmem
      obtain ⟨row, -, hrow⟩ := List.mem_map.mp hmem
      cases htexts : row.texts with
      | error fault => simp [htexts] at hrow
      | ok texts =>
        simp only [htexts, Except.ok.injEq] at hrow
        have hmem' : name ∈ (ofRow (bare :: others) texts).names := by
          rw [hrow]
          exact hother (by rw [hnames]; exact List.mem_cons_self)
        exact hname (mem_of_mem_names_ofRow hmem')
  · have hrows : Table.rows (record.tableBytes record.names) = [] := by
      rw [tableBytes, Table.rows, hrecords]
      rfl
    unfold ScenarioTable.ofBytes at h
    split at h
    · cases h
    · split at h
      · cases h
      · cases h
        simp [hrows]

/-- A record is read of its table, under whatever header, if and only if the header that is written
does not lose a byte order mark. -/
theorem exists_isRead_tableBytes {record : Scenario} (hnodup : record.names.Nodup)
    (hnamed : ScenarioTable.isBlankHeader record.names = false) :
    (∃ header, IsRead (record.tableBytes record.names) header record)
      ↔ Table.losesMark record.names = false := by
  constructor
  · rintro ⟨header, hread⟩
    refine Bool.eq_false_iff.mpr fun hlost => ?_
    exact not_mem_rows_of_losesMark hnodup hlost (fun _ hmem => hmem)
      (hread.ofBytes (.ofText scenarioName))
      (List.mem_singleton_self _)
  · exact fun hkept => ⟨_, isRead_tableBytes hnodup hnamed hkept⟩

/-- The only row of a table is one of its rows. -/
theorem mem_of_onlyRow {path : Path} {tolerant : Bool} {rows : List (Except Error Scenario)}
    {record : Scenario} (h : ScenarioTable.onlyRow path tolerant rows = .ok record) :
    .ok record ∈ rows := by
  rcases rows with _ | ⟨failure | first, _ | ⟨second, rest⟩⟩
  · cases h
  · cases h
  · cases h
  · cases h
    exact List.mem_singleton_self _
  · cases tolerant with
    | false => cases h
    | true =>
      cases h
      exact List.mem_cons_self

section Files

variable {p : Path} {d : Place} {name : String} {bench after : Bench} {scenario : Scenario}

/-- What has been read of the scenario file of a test: it was there, and its header is remembered.
-/
theorem read_ok (hp : p.Leads bench.files bench.here d)
    (h : bench.perform (read (p.join scenarioName) false) = (.ok scenario, after)) :
    p.joinFault? scenarioName = none ∧ ∃ content runnable header,
      bench.files.get? (d ++ [scenarioName]) = some (.file content runnable)
        ∧ IsRead content header scenario
        ∧ after.headers.get? (d ++ [scenarioName]) = some header := by
  obtain ⟨entries, hentries⟩ := hp.dir
  obtain ⟨table, read, htable, h⟩ := Bench.perform_bind_inv h
  obtain ⟨place, content, hplaceAt, hbytesAt, htable, hcheck⟩ := ScenarioTable.read_inv htable
  obtain ⟨hfault, runnable, hentry⟩ :=
    Bench.bytesAt_join_ok scenarioName_isPlain hp.passThrough hentries hbytesAt
  have hplace' : bench.placeAt (p.join scenarioName) = .ok (d ++ [scenarioName]) :=
    Path.place_join scenarioName_isPlain hp.passThrough hentries hfault hentry
  have hplaceEq : place = d ++ [scenarioName] := by
    rw [hplace', Except.ok.injEq] at hplaceAt
    exact hplaceAt.symm
  subst hplaceEq
  rw [Bench.perform_ofExcept, Prod.mk.injEq] at h
  obtain ⟨hrow, rfl⟩ := h
  refine ⟨hfault, content, runnable, table.header, ?_, isRead_iff.mpr ⟨table, htable, rfl, hrow⟩,
    ?_⟩
  · rw [Node.get?_snoc hentries, hentry]
  · -- The header was remembered before or is remembered now.
    unfold ScenarioTable.checkHeader at hcheck
    rw [Bench.perform_bind_ok (Bench.perform_get bench)] at hcheck
    cases hknown : bench.headers.get? (d ++ [scenarioName]) with
    | none =>
      simp only [hknown, Bench.perform_modify, Prod.mk.injEq] at hcheck
      rw [← hcheck.2]
      exact HeaderCache.get?_insert_self _ _ _
    | some known =>
      simp only [hknown] at hcheck
      by_cases hsame : known = table.header
      · rw [if_pos hsame, Bench.perform_pure, Prod.mk.injEq] at hcheck
        rw [← hcheck.2, hknown, hsame]
      · rw [if_neg hsame] at hcheck
        cases hcheck

/-- What is read of a scenario file for which no header is remembered comes from the table in it. -/
theorem perform_read_unknown (hp : p.Leads bench.files bench.here d)
    (hfault : p.joinFault? scenarioName = none) {content : Bytes} {runnable : Bool}
    (hfile : bench.files.get? (d ++ [scenarioName]) = some (.file content runnable))
    (hunknown : bench.headers.get? (d ++ [scenarioName]) = none) (tolerant : Bool) :
    (bench.perform (read (p.join scenarioName) tolerant)).1
      = ScenarioTable.ofBytes (p.join scenarioName) content >>= fun table =>
        ScenarioTable.onlyRow (p.join scenarioName) tolerant table.rows := by
  obtain ⟨entries, hentries⟩ := hp.dir
  rw [Node.get?_snoc hentries] at hfile
  have hplace : bench.placeAt (p.join scenarioName) = .ok (d ++ [scenarioName]) :=
    Path.place_join scenarioName_isPlain hp.passThrough hentries hfault hfile
  have hbytes : bench.bytesAt (p.join scenarioName) = .ok content :=
    Bench.bytesAt_join scenarioName_isPlain hp.passThrough hentries hfault hfile
  have htables := ScenarioTable.perform_read_unknown hplace hbytes hunknown
  cases htable : ScenarioTable.ofBytes (p.join scenarioName) content with
  | error failure =>
    rw [htable] at htables
    rw [read, Bench.perform_bind_error htables]
    rfl
  | ok table =>
    rw [htable] at htables
    rw [read, Bench.perform_bind_ok htables, Bench.perform_ofExcept]
    rfl

/-- What is read of a scenario file for which no header is remembered. -/
theorem read_of_isRead (hp : p.Leads bench.files bench.here d)
    (hfault : p.joinFault? scenarioName = none) {content : Bytes} {runnable : Bool}
    {header : List String}
    (hfile : bench.files.get? (d ++ [scenarioName]) = some (.file content runnable))
    (hread : IsRead content header scenario)
    (hunknown : bench.headers.get? (d ++ [scenarioName]) = none) (tolerant : Bool) :
    (bench.perform (read (p.join scenarioName) tolerant)).1 = .ok scenario := by
  rw [perform_read_unknown hp hfault hfile hunknown, hread.ofBytes]
  rfl

/-- Of the table of a record a record with all its names is read only if the header does not lose a
byte order mark. -/
theorem losesMark_of_read {other : Scenario} (hp : p.Leads bench.files bench.here d)
    (hfault : p.joinFault? scenarioName = none) {runnable : Bool}
    (hfile : bench.files.get? (d ++ [scenarioName])
      = some (.file (scenario.tableBytes scenario.names) runnable))
    (hnodup : scenario.names.Nodup) (hother : scenario.names ⊆ other.names)
    (hunknown : bench.headers.get? (d ++ [scenarioName]) = none) {tolerant : Bool}
    (h : (bench.perform (read (p.join scenarioName) tolerant)).1 = .ok other) :
    Table.losesMark scenario.names = false := by
  rw [perform_read_unknown hp hfault hfile hunknown] at h
  cases htable : ScenarioTable.ofBytes (p.join scenarioName)
    (scenario.tableBytes scenario.names) with
  | error failure =>
    rw [htable] at h
    cases h
  | ok table =>
    rw [htable] at h
    exact Bool.eq_false_iff.mpr fun hlost =>
      not_mem_rows_of_losesMark hnodup hlost hother htable (mem_of_onlyRow h)

/-- A record is read as it was written if and only if its header does not lose a byte order mark. -/
theorem read_tableBytes (hp : p.Leads bench.files bench.here d)
    (hfault : p.joinFault? scenarioName = none) {runnable : Bool}
    (hfile : bench.files.get? (d ++ [scenarioName])
      = some (.file (scenario.tableBytes scenario.names) runnable))
    (hnodup : scenario.names.Nodup) (hnamed : ScenarioTable.isBlankHeader scenario.names = false)
    (hunknown : bench.headers.get? (d ++ [scenarioName]) = none) (tolerant : Bool) :
    (bench.perform (read (p.join scenarioName) tolerant)).1 = .ok scenario
      ↔ Table.losesMark scenario.names = false :=
  ⟨losesMark_of_read hp hfault hfile hnodup (fun _ hmem => hmem) hunknown, fun hkept =>
    read_of_isRead hp hfault hfile (isRead_tableBytes hnodup hnamed hkept) hunknown tolerant⟩

/-- Whether a name is not that of the draft of a scenario file. -/
def IsNoDraft (other : String) : Prop :=
  other ≠ draftName scenarioName

theorem scenarioName_isNoDraft : IsNoDraft scenarioName := by
  unfold IsNoDraft
  decide

/-- The steps of putting a record in the place of the scenario file of a test. -/
theorem write_eq {q : Path} (hname : IsPlain name) (header : List String) (record : Scenario) :
    record.write ((q.join name).join scenarioName) header = (do
      Work.ofExcept (record.checkNames ((q.join name).join scenarioName) header)
      Work.ofExcept (checkKnownHeader ((q.join name).join scenarioName) header (← get))
      (FileWork.take (FileStep.createFile ((q.join name).join (draftName scenarioName)))).reportedAs
        .ofTableFault
      (FileWork.take (FileStep.fillFile ((q.join name).join (draftName scenarioName))
        (record.tableBytes header))).reportedAs .ofFault
      (FileWork.rename ((q.join name).join (draftName scenarioName))
        ((q.join name).join scenarioName)).reportedAs .ofFault
      let place ← (FileWork.look (·.placeAt ((q.join name).join scenarioName))).reportedAs
        (.unreadable ((q.join name).join scenarioName))
      modify fun bench => { bench with headers := bench.headers.insert place header }) := by
  unfold write
  rw [Path.fileName?_join _ scenarioName_isPlain]
  simp only [q.sibling_join hname scenarioName_isPlain draftName_isPlain]

/-- Putting a record in the place of the scenario file changes nothing but the directory of the
test. -/
theorem write_staysIn {q : Path} {keep : String → Prop} {kind : Event → Prop}
    (hname : IsPlain name) (hfile : ¬ keep scenarioName) (hdraft : ¬ keep (draftName scenarioName))
    (hkind : kind .changed) (header : List String) (record : Scenario) :
    Keeps (Bench.StaysIn (q.join name) d keep kind)
      (record.write ((q.join name).join scenarioName) header) := by
  rw [write_eq hname]
  refine (Keeps.ofExcept _).bind fun _ => Keeps.get.bind fun _ => (Keeps.ofExcept _).bind fun _ => ?_
  refine ((FileWork.createFile_staysIn draftName_isPlain hdraft hkind).reportedAs _).bind
    fun _ => ?_
  refine ((FileWork.fillFile_staysIn draftName_isPlain hdraft hkind _).reportedAs _).bind
    fun _ => ?_
  refine ((FileWork.rename_staysIn draftName_isPlain scenarioName_isPlain hdraft hfile
    hkind).reportedAs _).bind fun _ => ?_
  refine ((Keeps.look _).reportedAs _).bind fun place bench hp => ?_
  exact ⟨rfl, .refl hp.dir, [], rfl, by simp⟩

/-- The steps of putting a record in the place of the scenario file: it fails, and nothing but the
draft has changed; or the draft has been written, and in the last step it takes the place of the
file. -/
theorem write_steps {q : Path} (hname : IsPlain name)
    (hp : (q.join name).Leads bench.files bench.here d) (header : List String)
    (record : Scenario) :
    (∃ failure after, bench.perform (record.write ((q.join name).join scenarioName) header)
          = (.error failure, after)
        ∧ after.headers = bench.headers ∧ bench.Inside d IsNoDraft (fun _ => True) after)
      ∨ ∃ middle runnable, record.names = header
        ∧ bench.Inside d IsNoDraft (fun _ => True) middle
        ∧ bench.perform (record.write ((q.join name).join scenarioName) header)
          = (.ok (), { middle.stepTo ((middle.files.erase (d ++ [draftName scenarioName])).put
              (.file (record.tableBytes header) runnable) (d ++ [scenarioName])) with
            headers := bench.headers.insert (d ++ [scenarioName]) header }) := by
  have hdraft : ¬ IsNoDraft (draftName scenarioName) := fun h => h rfl
  rw [write_eq hname]
  -- A record with other names, or another header than the one remembered, is refused at once.
  cases hnames : record.checkNames ((q.join name).join scenarioName) header with
  | error failure => exact .inl ⟨failure, bench, rfl, rfl, .refl hp.dir⟩
  | ok _ =>
  have hnamesEq : record.names = header := by
    unfold checkNames at hnames
    by_cases hsame : record.names = header
    · exact hsame
    · simp [hsame] at hnames
  rw [Bench.perform_bind_ok (Bench.perform_ofExcept bench _),
    Bench.perform_bind_ok (Bench.perform_get bench)]
  cases hknown : checkKnownHeader ((q.join name).join scenarioName) header bench with
  | error failure => exact .inl ⟨failure, bench, rfl, rfl, .refl hp.dir⟩
  | ok _ =>
  rw [Bench.perform_bind_ok (Bench.perform_ofExcept bench _)]
  -- The draft is created,
  cases hcreate : FileStep.createFile ((q.join name).join (draftName scenarioName)) bench.files
      bench.here with
  | error fault =>
    exact .inl ⟨_, bench, Bench.perform_bind_error
      (Bench.perform_reportedAs_error (Bench.perform_take_error hcreate) _) _, rfl, .refl hp.dir⟩
  | ok created =>
  rw [Bench.perform_bind_ok (Bench.perform_reportedAs_ok (Bench.perform_take_ok hcreate) _)]
  have hcreateIn : Keeps (Bench.StaysIn (q.join name) d IsNoDraft fun _ => True)
      (FileWork.take (FileStep.createFile ((q.join name).join (draftName scenarioName)))) :=
    FileWork.createFile_staysIn draftName_isPlain hdraft trivial
  have hcreated := hcreateIn bench hp
  rw [Bench.perform_take_ok hcreate] at hcreated
  -- it is filled,
  cases hfill : FileStep.fillFile ((q.join name).join (draftName scenarioName))
      (record.tableBytes header) (bench.stepTo created).files (bench.stepTo created).here with
  | error fault =>
    exact .inl ⟨_, _, Bench.perform_bind_error
      (Bench.perform_reportedAs_error (Bench.perform_take_error hfill) _) _, rfl, hcreated⟩
  | ok filled =>
  rw [Bench.perform_bind_ok (Bench.perform_reportedAs_ok (Bench.perform_take_ok hfill) _)]
  have hfillIn : Keeps (Bench.StaysIn (q.join name) d IsNoDraft fun _ => True)
      (FileWork.take (FileStep.fillFile ((q.join name).join (draftName scenarioName))
        (record.tableBytes header))) :=
    FileWork.fillFile_staysIn draftName_isPlain hdraft trivial _
  have hfilled := hfillIn (bench.stepTo created) (hcreated.leads hp)
  rw [Bench.perform_take_ok hfill] at hfilled
  have hp' := hfilled.leads (hcreated.leads hp)
  obtain ⟨entries, hentries⟩ := hp'.dir
  obtain ⟨runnable, hdraftFile⟩ : ∃ runnable, entries.lookup (draftName scenarioName)
      = some (.file (record.tableBytes header) runnable) := by
    obtain ⟨own, hown⟩ := (hcreated.leads hp).dir
    rw [FileStep.fillFile_join draftName_isPlain (hcreated.leads hp).passThrough hown] at hfill
    split at hfill
    · cases hfill
    · split at hfill
      · cases hfill
      · rename_i runnable hold
        cases hfill
        refine ⟨runnable, ?_⟩
        rw [← Node.get?_snoc hentries]
        exact Node.get?_put_self hown _ _
      · cases hfill
  rw [FileWork.rename]
  -- and it takes the place of the file.
  cases hrename : FileStep.rename ((q.join name).join (draftName scenarioName))
      ((q.join name).join scenarioName) ((bench.stepTo created).stepTo filled).files
      ((bench.stepTo created).stepTo filled).here with
  | error fault =>
    exact .inl ⟨_, _, Bench.perform_bind_error
      (Bench.perform_reportedAs_error (Bench.perform_take_error hrename) _) _, rfl,
      hcreated.trans hfilled⟩
  | ok moved =>
  rw [Bench.perform_bind_ok (Bench.perform_reportedAs_ok (Bench.perform_take_ok hrename) _)]
  obtain ⟨-, hfault, node, hnode, hmove⟩ := FileStep.rename_join_ok draftName_isPlain
    scenarioName_isPlain hp'.passThrough hp'.passThrough hentries hentries hrename
  rw [hdraftFile] at hnode
  cases hnode
  have hplaces : d ++ [draftName scenarioName] ≠ d ++ [scenarioName] := by
    simp [draftName, scenarioName]
  obtain rfl : moved = (filled.erase (d ++ [draftName scenarioName])).put
      (.file (record.tableBytes header) runnable) (d ++ [scenarioName]) := by
    cases hgoal : entries.lookup scenarioName with
    | none =>
      rw [hgoal] at hmove
      exact (FileStep.moveTo_free_ok hmove).2
    | some old =>
      rw [hgoal] at hmove
      rcases FileStep.moveTo_taken_ok hmove with ⟨hself, -⟩ | ⟨-, -, hmoved⟩
      · exact absurd hself hplaces
      · exact hmoved
  refine .inr ⟨_, runnable, hnamesEq, hcreated.trans hfilled, ?_⟩
  have herased : (filled.erase (d ++ [draftName scenarioName])).get? d
      = some (.dir (Named.erase (draftName scenarioName) entries)) :=
    Node.get?_erase_entry hentries _
  have hlead : (q.join name).Leads ((filled.erase (d ++ [draftName scenarioName])).put
      (.file (record.tableBytes header) runnable) (d ++ [scenarioName])) bench.here d :=
    (Path.Leads.erase_below hp' (by simp)).put_below (by simp) _
  have hplace : Bench.placeAt ((q.join name).join scenarioName)
      (((bench.stepTo created).stepTo filled).stepTo
        ((filled.erase (d ++ [draftName scenarioName])).put
          (.file (record.tableBytes header) runnable) (d ++ [scenarioName])))
      = .ok (d ++ [scenarioName]) := by
    obtain ⟨entries', hentries'⟩ := hlead.dir
    have hentry : entries'.lookup scenarioName
        = some (.file (record.tableBytes header) runnable) := by
      rw [← Node.get?_snoc hentries']
      exact Node.get?_put_self herased _ _
    exact Path.place_join scenarioName_isPlain hlead.passThrough hentries' hfault hentry
  rw [Bench.perform_bind, Bench.perform_reportedAs, Bench.perform_look, hplace]
  rfl

/-- What comes of putting a record in the place of the scenario file: it is there, and its header is
remembered; or nothing but the draft has changed. -/
theorem write_cases {q : Path} (hname : IsPlain name)
    (hp : (q.join name).Leads bench.files bench.here d) (header : List String)
    (record : Scenario) :
    (∃ failure after, bench.perform (record.write ((q.join name).join scenarioName) header)
          = (.error failure, after)
        ∧ after.headers = bench.headers ∧ Node.Inside d IsNoDraft bench.files after.files)
      ∨ ∃ after runnable, bench.perform (record.write ((q.join name).join scenarioName) header)
            = (.ok (), after)
          ∧ record.names = header
          ∧ after.files.get? (d ++ [scenarioName])
            = some (.file (record.tableBytes header) runnable)
          ∧ after.headers = bench.headers.insert (d ++ [scenarioName]) header := by
  rcases write_steps hname hp header record with
    ⟨failure, after, hwrite, hheaders, hinside⟩ | ⟨middle, runnable, hnames, hinside, hwrite⟩
  · exact .inl ⟨failure, after, hwrite, hheaders, hinside.files⟩
  · obtain ⟨entries, hentries⟩ := hinside.files.hasDir
    have herased := Node.get?_erase_entry hentries (draftName scenarioName)
    exact .inr ⟨_, runnable, hwrite, hnames, Node.get?_put_self herased _ _, rfl⟩

end Files

end Scenario

end BootTrial
