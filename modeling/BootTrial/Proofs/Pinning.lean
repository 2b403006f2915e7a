import BootTrial.Proofs.Rereading

/-!
# Headers that stay

The header that is remembered for a place is remembered there for good. Tables may be read and
written by calls of the program (`TableCall`), and files may be changed between the calls in any way
(`Bench.Evolves`), as long as nothing is written at a path that leads nowhere. While a header is
remembered it is given for each path to the place, no table with another header is read or written
there, and a call that would do so fails and changes nothing (`Bench.Pins`,
`Bench.Evolves.pins`).

Writing is the only call that replaces what is remembered. It checks the place to which its path
leads before, and remembers the header for the place to which its path leads then. These are the
same, because what a path leads to depends on its components only (`Path.place_eq_destination`).
-/

namespace BootTrial

open Text (Bytes)

/-! ## Where a path ends -/

/-- Components are followed one after the other. -/
theorem destination_append_components (here : Place) (front components : List String) :
    destination here (front ++ components) = destination (destination here front) components := by
  induction front generalizing here with
  | nil => rfl
  | cons component rest ih =>
    simp only [List.cons_append, destination]
    split
    · exact ih here
    · split
      · exact ih here.dropLast
      · exact ih (here ++ [component])

/-- Components that are followed through directories come to their end. -/
theorem passThrough_eq_destination {root : Node} {here place : Place} {components : List String}
    (h : passThrough root here components = .ok place) : place = destination here components := by
  induction components generalizing here with
  | nil => exact (Except.ok.inj h).symm
  | cons component rest ih =>
    unfold passThrough at h
    unfold destination
    split at h
    · next hdot => rw [if_pos hdot, ih h]
    · next hdot =>
      rw [if_neg hdot]
      split at h
      · next hup => rw [if_pos hup, ih h]
      · next hup =>
        rw [if_neg hup]
        split at h
        · next hfound =>
          obtain ⟨rfl, -⟩ := lookUp_taken_inv hfound
          exact ih h
        all_goals cases h

/-- The place of the last component, from that of the others. -/
def LastPart.place (parent : Place) : LastPart → Place
  | .root => []
  | .dot => parent
  | .dotDot => parent.dropLast
  | .name last => parent ++ [last]

/-- What the last component leads to stands at its place. -/
theorem Approach.entry_place {approach : Approach} {root node : Node} {place : Place}
    (h : approach.entry root = .ok (place, node)) :
    place = approach.last.place approach.parent := by
  obtain ⟨parent, last, endsInSlash⟩ := approach
  have hstanding : ∀ {there}, root.standing there = .ok (.taken place node) → place = there := by
    intro there hthere
    unfold Node.standing at hthere
    split at hthere <;> cases hthere
    rfl
  have htarget : Approach.target root ⟨parent, last, endsInSlash⟩ = .ok (.taken place node) := by
    unfold Approach.entry at h
    split at h
    · next hfound =>
      split at h
      · cases h
      · cases h
        exact hfound
    all_goals cases h
  cases last with
  | root => exact hstanding htarget
  | dot => exact hstanding htarget
  | dotDot => exact hstanding htarget
  | name name => exact (lookUp_taken_inv htarget).1

/-- A path without components begins with a slash, unless it is empty. -/
theorem Path.isAbsolute_of_components {p : Path} (h : p.text ≠ "") (hnone : p.components = []) :
    p.isAbsolute = true := by
  obtain ⟨segments⟩ := p
  have hempty : ∀ segment ∈ segments, segment = "" := by
    simpa [components] using hnone
  rcases segments with _ | ⟨first, _ | ⟨second, more⟩⟩
  · exact absurd rfl h
  · obtain rfl := hempty first List.mem_cons_self
    exact absurd rfl h
  · obtain rfl := hempty first List.mem_cons_self
    rfl

/-- The last component is one more that is followed. -/
theorem destination_last {p : Path} (h : p.text ≠ "") (here : Place) :
    (Path.lastPart p.components).place (destination (p.start here) p.components.dropLast)
      = destination (p.start here) p.components := by
  rcases List.eq_nil_or_concat p.components with hnil | ⟨front, last, hlast⟩
  · rw [hnil, Path.start, p.isAbsolute_of_components h hnil]
    rfl
  · rw [hlast, List.concat_eq_append, List.dropLast_concat, destination_append_components,
      Path.lastPart, List.getLast?_concat]
    split
    all_goals simp_all [LastPart.place, destination]

/-- What stands at the end of a path stands where its components end, whatever the tree is. -/
theorem Path.place_eq_destination {p : Path} {root : Node} {here place : Place}
    (h : p.place root here = .ok place) : place = destination (p.start here) p.components := by
  have hfound : (p.walk root here >>= fun approach => (approach.entry root).map (·.1))
      = .ok place := h
  obtain ⟨approach, hwalk, hplace⟩ := exceptBind_inv hfound
  obtain ⟨htext, hpass, hlast⟩ := walk_inv hwalk
  cases hentry : approach.entry root with
  | error fault =>
    rw [hentry] at hplace
    cases hplace
  | ok found =>
    rw [hentry] at hplace
    cases hplace
    calc found.1
        = approach.last.place approach.parent := Approach.entry_place hentry
      _ = (lastPart p.components).place (destination (p.start here) p.components.dropLast) := by
        rw [hlast, passThrough_eq_destination hpass]
      _ = destination (p.start here) p.components := destination_last htext here

/-! ## What a remembered header decides -/

/-- Work fails with a kind of error, and nothing happens. -/
def Bench.Refuses {α : Type} (bench : Bench) (work : Work α) (kind : String → Error) : Prop :=
  ∃ details, bench.perform work = (.error (kind details), bench)

/-- Work that goes on where other work is refused is refused. -/
theorem Bench.Refuses.bind {α β : Type} {bench : Bench} {work : Work α} {kind : String → Error}
    (h : bench.Refuses work kind) (next : α → Work β) : bench.Refuses (work >>= next) kind := by
  obtain ⟨details, hdetails⟩ := h
  exact ⟨details, Bench.perform_bind_error hdetails next⟩

section Known

variable {path : Path} {place : Place} {header other : List String} {record : Scenario}
  {bench after : Bench} (hplace : bench.placeAt path = .ok place)
  (hknown : bench.headers.get? place = some header)

namespace ScenarioTable

include hplace hknown

/-- A header that is remembered is given. -/
theorem perform_headerAt_known : bench.perform (headerAt path) = (.ok header, bench) := by
  have hlook : bench.perform ((FileWork.look (·.placeAt path)).reportedAs (.unreadable path))
      = (.ok place, bench) :=
    Bench.perform_reportedAs_ok (by rw [Bench.perform_look, hplace]) _
  rw [headerAt, Bench.perform_bind_ok hlook, Bench.perform_bind_ok (Bench.perform_get bench),
    hknown]
  rfl

/-- The columns of a header that is remembered are known. -/
theorem perform_requireColumn_known (column : String) :
    bench.perform (requireColumn path column)
      = (if header.contains column then .ok () else .error (.unknownColumn column path),
          bench) := by
  rw [requireColumn, Bench.perform_bind_ok (perform_headerAt_known hplace hknown)]
  cases header.contains column <;> rfl

/-- A table that is read has the header that is remembered. -/
theorem read_known_inv {table : ScenarioTable}
    (h : bench.perform (read path) = (.ok table, after)) :
    table.header = header ∧ after = bench := by
  obtain ⟨place', content, hplace', -, -, hcheck⟩ := read_inv h
  obtain rfl := Except.ok.inj (hplace.symm.trans hplace')
  rw [checkHeader, Bench.perform_bind_ok (Bench.perform_get bench)] at hcheck
  simp only [hknown] at hcheck
  split at hcheck
  · next hsame =>
    cases hcheck
    exact ⟨hsame.symm, rfl⟩
  · cases hcheck

/-- A file with another header is not read. -/
theorem read_refuses {content : Bytes} (hcontent : bench.bytesAt path = .ok content)
    (hchanged : Table.header content ≠ .ok header) :
    bench.Refuses (read path) (.malformedScenario path) := by
  rw [Bench.Refuses, perform_read hplace hcontent]
  cases htable : ofBytes path content with
  | error failure =>
    obtain ⟨details, rfl⟩ := ofBytes_error htable
    exact ⟨details, rfl⟩
  | ok table =>
    have hne : header ≠ table.header := by
      rintro rfl
      exact hchanged (header_of_ofBytes htable).1
    simp only [checkHeader, bind_assoc]
    rw [Bench.perform_bind_ok (Bench.perform_get bench)]
    simp only [hknown, if_neg hne]
    exact ⟨_, rfl⟩

end ScenarioTable

namespace Scenario

/-- A record that is written has been checked. -/
theorem write_checked (h : bench.perform (record.write path other) = (.ok (), after)) :
    record.checkNames path other = .ok () ∧ checkKnownHeader path other bench = .ok () := by
  rw [write] at h
  obtain ⟨_, _, hnames, h⟩ := Bench.perform_bind_inv h
  rw [Bench.perform_ofExcept, Prod.mk.injEq] at hnames
  obtain ⟨hnames, rfl⟩ := hnames
  obtain ⟨_, _, hget, h⟩ := Bench.perform_bind_inv h
  cases hget
  obtain ⟨_, _, hheader, -⟩ := Bench.perform_bind_inv h
  rw [Bench.perform_ofExcept, Prod.mk.injEq] at hheader
  exact ⟨hnames, hheader.1⟩

/-- A record is not written under a header that does not have just its names. -/
theorem write_mismatched (h : record.names ≠ other) :
    bench.Refuses (record.write path other) (.schema path) := by
  have hcheck : record.checkNames path other = .error (.schema path _) := if_neg h
  rw [Bench.Refuses, write, hcheck]
  exact ⟨_, rfl⟩

include hplace hknown

/-- A row that is read stands below the header that is remembered. -/
theorem row_known_inv {tolerant : Bool}
    (h : bench.perform (read path tolerant) = (.ok record, after)) :
    (∃ table : ScenarioTable, table.header = header ∧ table.LiesAt path bench
      ∧ ScenarioTable.onlyRow path tolerant table.rows = .ok record) ∧ after = bench := by
  obtain ⟨table, middle, hread, hrow⟩ := Bench.perform_bind_inv h
  obtain ⟨hheader, rfl⟩ := ScenarioTable.read_known_inv hplace hknown hread
  rw [Bench.perform_ofExcept, Prod.mk.injEq] at hrow
  obtain ⟨hrow, rfl⟩ := hrow
  exact ⟨⟨table, hheader, .of_read hread, hrow⟩, rfl⟩

/-- A header that is not the one that is remembered does not pass the check. -/
theorem checkKnownHeader_refuses (h : other ≠ header) :
    ∃ details, checkKnownHeader path other bench = .error (.schema path details) := by
  simp only [checkKnownHeader, hplace, hknown]
  exact ⟨_, if_neg h.symm⟩

/-- What is written has the header that is remembered. -/
theorem write_known_inv (h : bench.perform (record.write path other) = (.ok (), after)) :
    other = header := by
  by_contra hother
  obtain ⟨details, hrefused⟩ := checkKnownHeader_refuses hplace hknown hother
  cases (write_checked h).2.symm.trans hrefused

/-- Nothing is written with another header, and no record that has other names. -/
theorem write_refuses (h : other ≠ header ∨ record.names ≠ header) :
    bench.Refuses (record.write path other) (.schema path) := by
  by_cases hnames : record.names = other
  · -- Then the header is another one.
    have hother : other ≠ header := h.elim id fun hne => hnames ▸ hne
    obtain ⟨details, hcheck⟩ := checkKnownHeader_refuses hplace hknown hother
    have hpass : record.checkNames path other = .ok () := if_pos hnames
    refine ⟨details, ?_⟩
    rw [write, hpass, Bench.perform_bind_ok (Bench.perform_ofExcept bench _),
      Bench.perform_bind_ok (Bench.perform_get bench), hcheck]
    rfl
  · exact write_mismatched hnames

end Scenario

end Known

/-- The header of the tables at a path is settled. -/
structure Bench.Pins (path : Path) (header : List String) (bench : Bench) : Prop where
  /-- It is given when it is asked for, whatever the file holds. -/
  known : bench.perform (ScenarioTable.headerAt path) = (.ok header, bench)
  /-- Its columns are the known ones. -/
  column : ∀ column, bench.perform (ScenarioTable.requireColumn path column)
    = (if header.contains column then .ok () else .error (.unknownColumn column path), bench)
  /-- A table that is read is that of the file, and has the header. -/
  read : ∀ table after, bench.perform (ScenarioTable.read path) = (.ok table, after) →
    table.header = header ∧ table.LiesAt path bench ∧ after = bench
  /-- So it is with the table whose only row is read, -/
  row : ∀ tolerant record after, bench.perform (Scenario.read path tolerant) = (.ok record, after) →
    (∃ table : ScenarioTable, table.header = header ∧ table.LiesAt path bench
      ∧ ScenarioTable.onlyRow path tolerant table.rows = .ok record) ∧ after = bench
  /-- and whose only row is read without its placeholders. -/
  concreteRow : ∀ tolerant record after,
    bench.perform (Scenario.readConcrete path tolerant) = (.ok record, after) →
      (∃ table : ScenarioTable, table.header = header ∧ table.LiesAt path bench
        ∧ ∃ full, ScenarioTable.onlyRow path tolerant table.rows = .ok full
          ∧ record = full.concrete) ∧ after = bench
  /-- A file with another header counts as malformed. -/
  changed : ∀ content, bench.bytesAt path = .ok content → Table.header content ≠ .ok header →
    bench.Refuses (ScenarioTable.read path) (.malformedScenario path)
      ∧ ∀ tolerant, bench.Refuses (Scenario.read path tolerant) (.malformedScenario path)
        ∧ bench.Refuses (Scenario.readConcrete path tolerant) (.malformedScenario path)
  /-- What is written has the header, whatever the file held, -/
  written : ∀ (record : Scenario) other after,
    bench.perform (record.write path other) = (.ok (), after) →
      other = header ∧ record.names = header
        ∧ after.bytesAt path = .ok (record.tableBytes header)
  /-- and writing with another one fails. -/
  refused : ∀ (record : Scenario) other, other ≠ header ∨ record.names ≠ header →
    bench.Refuses (record.write path other) (.schema path)

/-- A header that is remembered is settled for all paths to its place. -/
theorem Bench.pins_of_known {path : Path} {place : Place} {header : List String} {bench : Bench}
    (hplace : bench.placeAt path = .ok place)
    (hknown : bench.headers.get? place = some header) : bench.Pins path header where
  known := ScenarioTable.perform_headerAt_known hplace hknown
  column := ScenarioTable.perform_requireColumn_known hplace hknown
  read := by
    intro table after h
    obtain ⟨hheader, hafter⟩ := ScenarioTable.read_known_inv hplace hknown h
    exact ⟨hheader, .of_read h, hafter⟩
  row := fun _ _ _ h => Scenario.row_known_inv hplace hknown h
  concreteRow := by
    intro tolerant record after h
    obtain ⟨full, middle, hfull, hconcrete⟩ := Bench.perform_bind_inv h
    obtain ⟨⟨table, hheader, hlies, hrow⟩, rfl⟩ := Scenario.row_known_inv hplace hknown hfull
    cases hconcrete
    exact ⟨⟨table, hheader, hlies, full, hrow, rfl⟩, rfl⟩
  changed := by
    intro content hcontent hchanged
    have hread := ScenarioTable.read_refuses hplace hknown hcontent hchanged
    exact ⟨hread, fun tolerant => ⟨hread.bind _, (hread.bind _).bind _⟩⟩
  written := by
    intro record other after h
    obtain rfl := Scenario.write_known_inv hplace hknown h
    obtain ⟨hnames, -, -, hbytes, -⟩ := Scenario.write_ok h
    exact ⟨rfl, hnames, hbytes⟩
  refused := fun record other => Scenario.write_refuses hplace hknown

/-! ## Calls and edits -/

/-- A call that reads or writes a table. -/
inductive TableCall where
  /-- Reads the table at a path. -/
  | read (path : Path)
  /-- Asks for the header of the table at a path. -/
  | header (path : Path)
  /-- Checks that the table at a path has a column. -/
  | requireColumn (path : Path) (column : String)
  /-- Reads the only row of the table at a path. -/
  | row (path : Path) (tolerant : Bool)
  /-- Reads the only row of the table at a path without its placeholders. -/
  | concreteRow (path : Path) (tolerant : Bool)
  /-- Puts a record in the place of the table at a path. -/
  | write (path : Path) (header : List String) (record : Scenario)

namespace TableCall

/-- The bench that a call leaves, however it ends. -/
def after (bench : Bench) : TableCall → Bench
  | read path => (bench.perform (ScenarioTable.read path)).2
  | header path => (bench.perform (ScenarioTable.headerAt path)).2
  | requireColumn path column => (bench.perform (ScenarioTable.requireColumn path column)).2
  | row path tolerant => (bench.perform (Scenario.read path tolerant)).2
  | concreteRow path tolerant => (bench.perform (Scenario.readConcrete path tolerant)).2
  | write path names record => (bench.perform (record.write path names)).2

/-- A call does not write at a path that leads nowhere. -/
def IsInPlace (bench : Bench) : TableCall → Prop
  | write path _ _ => ∃ place, bench.placeAt path = .ok place
  | _ => True

end TableCall

/-- From one bench to another by calls on tables, between which anything but the headers may have
been changed. -/
inductive Bench.Evolves (first : Bench) : Bench → Prop
  /-- Nothing has happened. -/
  | refl : Evolves first first
  /-- A call comes last, which does not write at a path that leads nowhere. -/
  | call {bench : Bench} (call : TableCall) (before : Evolves first bench)
      (inPlace : call.IsInPlace bench) : Evolves first (call.after bench)
  /-- A change from outside comes last. -/
  | edit {bench edited : Bench} (before : Evolves first bench)
      (headers : edited.headers = bench.headers) : Evolves first edited

/-- Writing remembers the header that is remembered already, if its path leads somewhere. -/
theorem Scenario.write_remembers {path : Path} {header : List String} {record : Scenario}
    {bench : Bench} {place : Place} (hplace : bench.placeAt path = .ok place) :
    bench.Remembers (bench.perform (record.write path header)).2 := by
  have hwriting := writing_perform path header record bench
  rcases hwrite : bench.perform (record.write path header) with ⟨result, after⟩
  rw [hwrite] at hwriting
  cases hwriting with
  | refused failure => exact refl_of Bench.Remembers _
  | drafted name d runnable failure draft => exact fun _ _ hknown => hknown
  | replaced name d goal runnable moved draft names hgoal node move =>
    intro other known hknown
    -- The path leads to one place, before and after.
    obtain rfl : goal = place :=
      (Path.place_eq_destination hgoal).trans (Path.place_eq_destination hplace).symm
    by_cases hother : other = goal
    · subst hother
      rw [← write_known_inv hplace hknown hwrite]
      exact HeaderCache.get?_insert_self _ _ _
    · exact (HeaderCache.get?_insert_of_ne hother _ _).trans hknown

/-- A call forgets and replaces no header. -/
theorem TableCall.after_remembers {bench : Bench} {call : TableCall} (h : call.IsInPlace bench) :
    bench.Remembers (call.after bench) := by
  cases call with
  | read path => exact (ScenarioTable.read_unmoved path bench).headers
  | header path => exact (ScenarioTable.headerAt_unmoved path bench).headers
  | requireColumn path column =>
    exact (ScenarioTable.requireColumn_keeps (ScenarioTable.read_unmoved path) column bench).headers
  | row path tolerant => exact (Scenario.read_unmoved path tolerant bench).headers
  | concreteRow path tolerant =>
    exact (((Scenario.read_unmoved path tolerant).bind fun _ => Keeps.pure _) bench).headers
  | write path header record =>
    obtain ⟨place, hplace⟩ := h
    exact Scenario.write_remembers hplace

namespace Bench.Evolves

variable {first last : Bench} {place : Place} {header : List String}

/-- No header is forgotten or replaced on the way. -/
theorem remembers (h : first.Evolves last) : first.Remembers last := by
  induction h with
  | refl => exact refl_of Remembers _
  | call call before inPlace ih =>
    exact trans_of Remembers ih (TableCall.after_remembers inPlace)
  | edit before headers ih =>
    intro place known hknown
    rw [headers]
    exact ih place known hknown

/-- A header that is remembered for a place is remembered from then on, and settled for each path
that leads there. -/
theorem pins (h : first.Evolves last) (hknown : first.headers.get? place = some header) :
    last.headers.get? place = some header
      ∧ ∀ path, last.placeAt path = .ok place → last.Pins path header :=
  ⟨h.remembers place header hknown,
    fun _ hplace => pins_of_known hplace (h.remembers place header hknown)⟩

/-- The files may be changed. -/
theorem of_files (bench : Bench) (files : Node) : bench.Evolves { bench with files } :=
  .edit .refl rfl

end Bench.Evolves

/-- A program that has asked for the header of a table. -/
def askedBench : Bench :=
  (TableCall.header (.ofText "scenarios.csv")).after tableBench

/-- A table with another header. -/
def changedFiles : Node :=
  .dir [("scenarios.csv", .file (Text.encode "mode,verdict\ns2idle,\n") false)]

/-- Once the header has been changed from outside the file is malformed under each spelling of its
path. The old header is given for it still, and no record can be written with the new one. -/
theorem Bench.Evolves.pins_changed :
    Bench.Pins (.ofText "./scenarios.csv") ["mode", "result"]
        { askedBench with files := changedFiles }
      ∧ Bench.Refuses { askedBench with files := changedFiles }
        (ScenarioTable.read (.ofText "/scenarios.csv"))
        (.malformedScenario (.ofText "/scenarios.csv"))
      ∧ Bench.Refuses { askedBench with files := changedFiles }
        (Scenario.write (.ofText "/./scenarios.csv") ["mode", "verdict"]
          ⟨[("mode", "deep"), ("verdict", "")]⟩) (.schema (.ofText "/./scenarios.csv")) := by
  have hknown : askedBench.headers.get? ["scenarios.csv"] = some ["mode", "result"] := by
    decide +kernel
  obtain ⟨-, hpins⟩ := pins (of_files askedBench changedFiles) hknown
  have hcontent : Bench.bytesAt (.ofText "/scenarios.csv") { askedBench with files := changedFiles }
      = .ok (Text.encode "mode,verdict\ns2idle,\n") := by
    decide +kernel
  exact ⟨hpins _ (by decide +kernel),
    ((hpins _ (by decide +kernel)).changed _ hcontent (by decide +kernel)).1,
    (hpins _ (by decide +kernel)).refused _ _ (.inl (by decide))⟩

end BootTrial
