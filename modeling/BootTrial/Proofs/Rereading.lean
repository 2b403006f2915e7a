import BootTrial.Proofs.Compiling
import BootTrial.Proofs.Deeds
import BootTrial.Proofs.Relocation

/-!
# What has been written is read

A record that has been written at a path, whatever the path is like, lies there as a table, and its
header is remembered for the place it lies at (`Scenario.write_ok`). The table is read as it was
written, by a program that remembers the header and by one that remembers none, if the first name
does not begin with a byte order mark (`Scenario.write_reads`).
-/

namespace BootTrial

open Text (Bytes)

/-- A table whose header is remembered or not known is read. -/
theorem ScenarioTable.perform_read_fits {path : Path} {table : ScenarioTable} {place : Place}
    {content : Bytes} {bench : Bench} (hplace : bench.placeAt path = .ok place)
    (hcontent : bench.bytesAt path = .ok content) (htable : ofBytes path content = .ok table)
    (hfits : ∀ known, bench.headers.get? place = some known → known = table.header) :
    ∃ after, bench.perform (read path) = (.ok table, after) := by
  cases hknown : bench.headers.get? place with
  | none => exact ⟨_, by rw [perform_read_unknown hplace hcontent hknown, htable]⟩
  | some known =>
    obtain rfl := hfits known hknown
    exact ⟨_, perform_read_known hplace hcontent htable hknown⟩

namespace Scenario

variable {path : Path} {header : List String} {record : Scenario} {bench after reader : Bench}

/-- A record that has been written has the names of the header, and lies at the path as a table. Its
header is remembered. -/
theorem write_ok (h : bench.perform (record.write path header) = (.ok (), after)) :
    record.names = header ∧ ∃ place, after.placeAt path = .ok place
      ∧ after.bytesAt path = .ok (record.tableBytes header)
      ∧ after.headers.get? place = some header := by
  have hwriting := writing_perform path header record bench
  rw [h] at hwriting
  cases hwriting with
  | replaced name d goal runnable moved draft names place node move =>
    refine ⟨names, goal, place, ?_, HeaderCache.get?_insert_self _ _ _⟩
    have hnode : Bench.nodeAt path { ((bench.stepTo (bench.files.put (.file [] runnable)
        (d ++ [draftName name]))).stepTo (bench.files.put (.file (record.tableBytes header) runnable)
          (d ++ [draftName name]))).stepTo moved with headers := bench.headers.insert goal header }
        = .ok (.file (record.tableBytes header) runnable) := node
    rw [Bench.bytesAt, hnode]

/-- The concrete fields of a record with different names are its fields that are no placeholders. -/
theorem concrete_eq (hnodup : record.names.Nodup) : record.concrete = ⟨record.concreteFields⟩ := by
  have hsublist : (record.concreteFields.map (·.1)).Sublist record.names :=
    List.filter_sublist.map _
  rw [concrete, ofFields, foldl_set {} (by simpa [names] using hnodup.sublist hsublist)]
  rfl

/-- What has been written is read. The record has no name twice, as every record that is made by
setting fields (`nodup_names_ofFields`), and its header names a column and does not begin with a byte
order mark. The program that reads remembers the headers that are remembered behind the writing, or
none: it reads the record as it was written, and finds the header. Without its placeholders the
record has the other fields, in order. -/
theorem write_reads (hnodup : record.names.Nodup)
    (hnamed : ScenarioTable.isBlankHeader header = false)
    (hmark : ∀ name, header.head? = some name → name.toList.head? ≠ some '\uFEFF')
    (hwrite : bench.perform (record.write path header) = (.ok (), after))
    (hfiles : reader.files = after.files) (hhere : reader.here = after.here)
    (hheaders : reader.headers = after.headers ∨ reader.headers = []) :
    (∀ tolerant, (reader.perform (read path tolerant)).1 = .ok record
        ∧ (reader.perform (readConcrete path tolerant)).1
          = .ok ⟨record.fields.filter fun field => !field.1.toList.contains '?'⟩)
      ∧ (reader.perform (ScenarioTable.headerAt path)).1 = .ok header := by
  obtain ⟨rfl, place, hplace, hcontent, hknown⟩ := write_ok hwrite
  have hplace' : reader.placeAt path = .ok place := by
    rw [Bench.placeAt, hfiles, hhere]
    exact hplace
  have hcontent' : reader.bytesAt path = .ok (record.tableBytes record.names) := by
    rw [Bench.bytesAt, Bench.nodeAt, hfiles, hhere]
    exact hcontent
  have hfits : ∀ known, reader.headers.get? place = some known → known = record.names := by
    intro known hread
    rcases hheaders with hsame | hnone
    · rw [hsame, hknown] at hread
      exact (Option.some.inj hread).symm
    · rw [hnone] at hread
      cases hread
  -- The octets that were written are a table of the record.
  have htable := (isRead_tableBytes hnodup hnamed (Table.losesMark_eq_false hmark)).ofBytes path
  obtain ⟨last, hread⟩ := ScenarioTable.perform_read_fits hplace' hcontent' htable hfits
  have hrecord : ∀ tolerant, reader.perform (read path tolerant) = (.ok record, last) := by
    intro tolerant
    rw [read, Bench.perform_bind_ok hread, Bench.perform_ofExcept]
    rfl
  refine ⟨fun tolerant => ⟨by rw [hrecord], ?_⟩, ?_⟩
  · rw [readConcrete, Bench.perform_bind_ok (hrecord tolerant), concrete_eq hnodup]
    rfl
  · have hlook : reader.perform ((FileWork.look (·.placeAt path)).reportedAs (.unreadable path))
        = (.ok place, reader) := by
      rw [Bench.perform_reportedAs, Bench.perform_look, hplace']
      rfl
    rw [ScenarioTable.headerAt, Bench.perform_bind_ok hlook,
      Bench.perform_bind_ok (Bench.perform_get reader)]
    cases hcached : reader.headers.get? place with
    | some known =>
      rw [hfits known hcached]
      rfl
    | none =>
      simp only
      rw [Bench.perform_bind_ok hread]
      rfl

/-- A table of one column, with a comma and quotes in the name and no text in the row, is read as it
was written, by the program that has written it and by another. -/
theorem write_reads_empty : ∃ after,
    tableBench.perform (Scenario.write (.ofText "./scenario.csv") ["mode, \"deep\""]
        ⟨[("mode, \"deep\"", "")]⟩) = (.ok (), after)
      ∧ (after.perform (read (.ofText "./scenario.csv") false)).1 = .ok ⟨[("mode, \"deep\"", "")]⟩
      ∧ (Bench.perform { after with headers := [] } (read (.ofText "./scenario.csv") false)).1
        = .ok ⟨[("mode, \"deep\"", "")]⟩ := by
  have hok : (tableBench.perform (Scenario.write (.ofText "./scenario.csv") ["mode, \"deep\""]
      ⟨[("mode, \"deep\"", "")]⟩)).1.isOk = true := by
    decide +kernel
  rcases hwrite : tableBench.perform (Scenario.write (.ofText "./scenario.csv") ["mode, \"deep\""]
    ⟨[("mode, \"deep\"", "")]⟩) with ⟨failure | _, after⟩
  · rw [hwrite] at hok
    cases hok
  · have hmark : ∀ name, ["mode, \"deep\""].head? = some name →
        name.toList.head? ≠ some '\uFEFF' := by
      rintro _ ⟨⟩
      decide
    have hreads : ∀ reader : Bench, reader.files = after.files → reader.here = after.here →
        (reader.headers = after.headers ∨ reader.headers = []) →
        (reader.perform (read (.ofText "./scenario.csv") false)).1
          = .ok ⟨[("mode, \"deep\"", "")]⟩ := by
      intro reader hfiles hhere hheaders
      obtain ⟨hrecord, -⟩ :=
        write_reads (by decide) (by decide) hmark hwrite hfiles hhere hheaders
      exact (hrecord false).1
    exact ⟨after, rfl, hreads after rfl rfl (.inl rfl),
      hreads { after with headers := [] } rfl rfl (.inr rfl)⟩

end Scenario

end BootTrial
