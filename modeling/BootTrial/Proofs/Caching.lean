import BootTrial.Proofs.Growing
import BootTrial.Proofs.Headed
import BootTrial.Proofs.Oblivious

/-!
# Headers that make no difference

Two benches that differ only in the headers they remember are twins if all these headers are the
right ones (`Bench.Twins`): each is that of the template, whatever has become of the file it was
read from, and the scenario table of the template is remembered only if there is one, since a header
from memory stands in for reading the file. Work that comes to the same on twins and leaves twins
again is alike on them (`Alike`), and work composed of such pieces is (`Alike.bind`).

Oblivious work is alike on all twins. Reading a table is alike where the table has the header of the
template (`ScenarioTable.read_alike`), and writing one is if it is written under that header
(`Scenario.write_alike`). From these come the menu, the enrollment (`enroll_alike`) and the report
(`Report.ofResults_alike`).
-/

namespace BootTrial

open Text (Bytes)

/-- All headers that are remembered are that of a template, and one for its scenario table is
remembered only if the table has been found. -/
def HeaderCache.Vouches (cache : HeaderCache) (header : List String) (found : Prop) : Prop :=
  ∀ place known, cache.get? place = some known →
    known = header ∧ (place.getLast? = some "scenarios.csv" → found)

/-- Nothing is remembered by a program that has just been started. -/
theorem HeaderCache.vouches_nil (header : List String) (found : Prop) :
    HeaderCache.Vouches [] header found :=
  fun _ _ hknown => by cases hknown

/-- The header of the template may be remembered for one more place. -/
theorem HeaderCache.Vouches.insert {cache : HeaderCache} {header : List String} {found : Prop}
    (h : cache.Vouches header found) {place : Place}
    (hfound : place.getLast? = some "scenarios.csv" → found) :
    (cache.insert place header).Vouches header found := by
  intro other known hknown
  by_cases hne : other = place
  · subst hne
    rw [get?_insert_self, Option.some.injEq] at hknown
    exact ⟨hknown.symm, hfound⟩
  · rw [get?_insert_of_ne hne] at hknown
    exact h other known hknown

/-- Two benches are the same but for the headers that they remember, and these are vouched for. -/
structure Bench.Twins (header : List String) (found : Prop) (a b : Bench) : Prop where
  /-- They are the same but for the headers. -/
  same : b = a.remembering b.headers
  /-- The headers of the one. -/
  left : a.headers.Vouches header found
  /-- The headers of the other. -/
  right : b.headers.Vouches header found

/-- Work comes to the same on two benches, and leaves twins. -/
structure Alike {ε α : Type} (header : List String) (found : Prop)
    (work : ExceptT ε (StateM Bench) α) (a b : Bench) : Prop where
  /-- The results are the same. -/
  result : (b.perform work).1 = (a.perform work).1
  /-- Twins are left. -/
  twins : Bench.Twins header found (a.perform work).2 (b.perform work).2

section Alike

variable {ε α β : Type} {header : List String} {found : Prop} {a b : Bench}

namespace Bench.Twins

/-- A bench has a twin that remembers nothing. -/
theorem forgetting (h : a.headers.Vouches header found) : Twins header found a (a.remembering []) :=
  ⟨rfl, h, HeaderCache.vouches_nil header found⟩

/-- The twin of a twin that forgets everything is one. -/
theorem forget (h : Twins header found a b) : Twins header found a (b.remembering []) := by
  rw [h.same]
  exact forgetting h.left

/-- Twins have the same files. -/
theorem files (h : Twins header found a b) : b.files = a.files := by rw [h.same]; rfl

/-- Twins have the same working directory. -/
theorem here (h : Twins header found a b) : b.here = a.here := by rw [h.same]; rfl

end Bench.Twins

namespace Alike

/-- Work with the same result on both benches, which changes only what is remembered. -/
theorem of_remembering {work : ExceptT ε (StateM Bench) α} {result : Except ε α}
    {known known' : HeaderCache} (htwins : a.Twins header found b)
    (ha : a.perform work = (result, a.remembering known)) (hknown : known.Vouches header found)
    (hb : b.perform work = (result, b.remembering known')) (hknown' : known'.Vouches header found) :
    Alike header found work a b := by
  refine ⟨by rw [ha, hb], ?_⟩
  rw [ha, hb, htwins.same]
  exact ⟨rfl, hknown, hknown'⟩

/-- Oblivious work. -/
theorem of_oblivious {work : ExceptT ε (StateM Bench) α} (htwins : a.Twins header found b)
    (h : Oblivious work) : Alike header found work a b := by
  have hleft : a.perform work = ((a.perform work).1, (a.perform work).2.remembering a.headers) :=
    h a a.headers
  have hright := h a b.headers
  rw [← htwins.same] at hright
  refine ⟨by rw [hright], ?_⟩
  rw [hleft, hright]
  exact ⟨rfl, htwins.left, htwins.right⟩

/-- What work that is alike comes to on both benches. -/
theorem performs {work : ExceptT ε (StateM Bench) α} (h : Alike header found work a b) :
    ∃ result a' b', a.perform work = (result, a') ∧ b.perform work = (result, b')
      ∧ a'.Twins header found b' :=
  ⟨(a.perform work).1, (a.perform work).2, (b.perform work).2, rfl, Prod.ext h.result rfl, h.twins⟩

/-- Work that goes on where other work has succeeded. -/
theorem bind {work : ExceptT ε (StateM Bench) α} {next : α → ExceptT ε (StateM Bench) β}
    (h : Alike header found work a b)
    (hnext : ∀ x a' b', a.perform work = (.ok x, a') → a'.Twins header found b' →
      Alike header found (next x) a' b') : Alike header found (work >>= next) a b := by
  obtain ⟨failure | x, a', b', ha, hb, htwins⟩ := h.performs
  · refine ⟨?_, ?_⟩
    all_goals rw [Bench.perform_bind_error ha, Bench.perform_bind_error hb]
    exact htwins
  · have hrest := hnext x a' b' ha htwins
    refine ⟨?_, ?_⟩
    all_goals rw [Bench.perform_bind_ok ha, Bench.perform_bind_ok hb]
    · exact hrest.result
    · exact hrest.twins

/-- Oblivious work that comes first. -/
theorem oblivious_bind {work : ExceptT ε (StateM Bench) α} {next : α → ExceptT ε (StateM Bench) β}
    (htwins : a.Twins header found b) (hwork : Oblivious work)
    (hnext : ∀ x a' b', a.perform work = (.ok x, a') → a'.Twins header found b' →
      Alike header found (next x) a' b') : Alike header found (work >>= next) a b :=
  (of_oblivious htwins hwork).bind hnext

/-- Oblivious work that comes last. -/
theorem bind_oblivious {work : ExceptT ε (StateM Bench) α} {next : α → ExceptT ε (StateM Bench) β}
    (h : Alike header found work a b) (hnext : ∀ x, Oblivious (next x)) :
    Alike header found (work >>= next) a b :=
  h.bind fun x _ _ _ htwins => of_oblivious htwins (hnext x)

/-- Work that goes on with the bench, where this makes no difference. -/
theorem get_bind {next : Bench → ExceptT ε (StateM Bench) α} (hsame : next b = next a)
    (h : Alike header found (next a) a b) :
    Alike header found (MonadState.get >>= next) a b := by
  refine ⟨?_, ?_⟩
  all_goals
    rw [Bench.perform_bind_ok (Bench.perform_get a), Bench.perform_bind_ok (Bench.perform_get b),
      hsame]
  · exact h.result
  · exact h.twins

/-- Work that goes on with a result. -/
theorem ofExcept_bind {result : Except Error α} {next : α → Work β}
    (htwins : a.Twins header found b)
    (hnext : ∀ x, result = .ok x → Alike header found (next x) a b) :
    Alike header found (Work.ofExcept result >>= next) a b := by
  cases result with
  | error failure => exact ⟨rfl, htwins⟩
  | ok x =>
    have hpass : ∀ bench : Bench,
        bench.perform (Work.ofExcept (.ok x) >>= next) = bench.perform (next x) := fun bench =>
      Bench.perform_bind_ok (Bench.perform_ofExcept bench (.ok x)) next
    refine ⟨?_, ?_⟩
    all_goals rw [hpass, hpass]
    · exact (hnext x rfl).result
    · exact (hnext x rfl).twins

/-- Work that goes on with what has been read of the files. -/
theorem look_bind {read : Bench → Except FileFault α} {report : FileFault → Error}
    {next : α → Work β} (htwins : a.Twins header found b)
    (hread : ∀ (bench : Bench) (known : HeaderCache), read (bench.remembering known) = read bench)
    (hnext : ∀ x, read a = .ok x → Alike header found (next x) a b) :
    Alike header found ((FileWork.look read).reportedAs report >>= next) a b := by
  have hsame : read b = read a := by rw [htwins.same, hread]
  cases hlook : read a with
  | error fault =>
    have hfail : ∀ bench : Bench, read bench = .error fault →
        bench.perform ((FileWork.look read).reportedAs report >>= next)
          = (.error (report fault), bench) := fun bench h =>
      Bench.perform_bind_error
        (Bench.perform_reportedAs_error (by rw [Bench.perform_look, h]) report) next
    refine ⟨?_, ?_⟩
    all_goals rw [hfail a hlook, hfail b (hsame.trans hlook)]
    exact htwins
  | ok x =>
    have hpass : ∀ bench : Bench, read bench = .ok x →
        bench.perform ((FileWork.look read).reportedAs report >>= next) = bench.perform (next x) :=
      fun bench h => Bench.perform_bind_ok
        (Bench.perform_reportedAs_ok (by rw [Bench.perform_look, h]) report) next
    refine ⟨?_, ?_⟩
    all_goals rw [hpass a hlook, hpass b (hsame.trans hlook)]
    · exact (hnext x hlook).result
    · exact (hnext x hlook).twins

/-- Work whose failure is part of the result. -/
theorem outcome {work : Work α} (h : Alike header found work a b) :
    Alike header found work.outcome a b := by
  refine ⟨?_, ?_⟩
  all_goals rw [Bench.perform_outcome, Bench.perform_outcome]
  · rw [h.result]
  · exact h.twins

end Alike

end Alike

/-! ## Reading tables -/

/-- The scenario table of a template has a header, as far as it is one, and whether it is one is
known. -/
structure Bench.Offers (bench : Bench) (schema : Path) (header : List String) (found : Prop) :
    Prop where
  /-- The table has the header. -/
  headed : ∀ content, bench.bytesAt schema = .ok content → ScenarioTable.IsHeaded header content
  /-- It is there or not. -/
  found : found ↔ ∃ table : ScenarioTable, table.LiesAt schema bench

namespace Bench.Offers

variable {bench after : Bench} {schema : Path} {header : List String} {found : Prop}

/-- A table that stays where it is. -/
theorem of_same (h : bench.Offers schema header found)
    (hbytes : after.bytesAt schema = bench.bytesAt schema)
    (hplace : after.placeAt schema = bench.placeAt schema) : after.Offers schema header found := by
  refine ⟨by rw [hbytes]; exact h.headed, ?_⟩
  simp only [ScenarioTable.LiesAt, hbytes, hplace]
  exact h.found

/-- What only reads leaves the table. -/
theorem unmoved (h : bench.Offers schema header found) (hread : bench.Unmoved after) :
    after.Offers schema header found := by
  refine h.of_same ?_ ?_
  · rw [bytesAt, bytesAt, nodeAt, nodeAt, hread.files, hread.here]
  · rw [placeAt, placeAt, hread.files, hread.here]

/-- The table that is there has the header. -/
theorem header_eq (h : bench.Offers schema header found) {table : ScenarioTable}
    (htable : table.LiesAt schema bench) : table.header = header := by
  obtain ⟨place, content, -, hcontent, htable⟩ := htable
  exact h.headed content hcontent schema table htable

end Bench.Offers

/-- Twins have the same table. -/
theorem Bench.Twins.offers {a b : Bench} {schema : Path} {header : List String} {found : Prop}
    (h : a.Twins header found b) (hoffers : a.Offers schema header found) :
    b.Offers schema header found := by
  rw [h.same]
  exact hoffers.of_same rfl rfl

/-- A path with the name of a test's scenario file behind it is not that of a template's table. -/
theorem Path.getLast?_place_join {p : Path} {name : String} {root : Node} {here place : Place}
    (hname : IsPlain name) (h : (p.join name).place root here = .ok place) :
    place.getLast? = some name := by
  obtain ⟨d, rfl⟩ := Path.place_join_snoc hname h
  simp

/-- The path of a test in a root leads to its directory. -/
theorem Workspace.test_leads {workspace : Workspace} {root : Node} {here w : Place} {r : Root}
    {names : List String} {name : String} (hw : workspace.root.Leads root here w)
    (hholds : root.HoldsTests (r.place w) names) (hname : name ∈ names) :
    ((workspace.path r).join name).Leads root here (r.place w ++ [name]) := by
  obtain ⟨entries, node, hentries, -, htest⟩ := hholds.get?_dir hname
  exact (path_leads hw ⟨entries, hentries⟩).join htest.plain htest.short (hholds.hasDir hname)

/-- The scenario file of a test whose directory a path leads to. -/
theorem Node.AllHeaded.of_bytesAt {w : Place} {header : List String} {bench : Bench} {p : Path}
    {r : Root} {name : String} {content : Bytes} (h : bench.files.AllHeaded w header)
    (hp : p.Leads bench.files bench.here (r.place w ++ [name]))
    (hcontent : bench.bytesAt (p.join scenarioName) = .ok content) :
    ScenarioTable.IsHeaded header content := by
  obtain ⟨entries, hentries⟩ := hp.dir
  obtain ⟨-, runnable, hentry⟩ :=
    Bench.bytesAt_join_ok scenarioName_isPlain hp.passThrough hentries hcontent
  have hfile : bench.files.get? (r.place w ++ [name] ++ [scenarioName])
      = some (.file content runnable) := by rw [Node.get?_snoc hentries, hentry]
  exact h.sheet hfile

namespace ScenarioTable

variable {header : List String} {found : Prop} {a b bench : Bench} {path schema : Path}
  {place : Place}

/-- The header of the template is accepted for every place. -/
theorem checkHeader_vouched (h : bench.headers.Vouches header found)
    (hfound : place.getLast? = some "scenarios.csv" → found) (path : Path) :
    ∃ known, bench.perform (checkHeader path place header) = (.ok (), bench.remembering known)
      ∧ known.Vouches header found := by
  unfold checkHeader
  rw [Bench.perform_bind_ok (Bench.perform_get bench)]
  cases hknown : bench.headers.get? place with
  | some known =>
    -- Whichever file it was read from, it is the header of the template.
    obtain ⟨rfl, -⟩ := h place known hknown
    simp only [hknown, if_true]
    exact ⟨bench.headers, rfl, h⟩
  | none =>
    simp only [hknown]
    exact ⟨bench.headers.insert place header, rfl, h.insert hfound⟩

/-- Reading a table that has the header of the template, if it is one. -/
theorem read_alike (htwins : a.Twins header found b)
    (hheaded : ∀ content, a.bytesAt path = .ok content → IsHeaded header content)
    (hfound : ∀ place, a.placeAt path = .ok place → place.getLast? = some "scenarios.csv" →
      (∃ table : ScenarioTable, table.LiesAt path a) → found) :
    Alike header found (read path) a b := by
  unfold read
  refine .look_bind htwins (fun _ _ => rfl) fun place hplace => ?_
  refine .look_bind htwins (fun _ _ => rfl) fun content hcontent => ?_
  refine .ofExcept_bind htwins fun table htable => ?_
  obtain rfl := hheaded content hcontent path table htable
  have hfound' : place.getLast? = some "scenarios.csv" → found := fun hlast =>
    hfound place hplace hlast ⟨table, place, content, hplace, hcontent, htable⟩
  obtain ⟨known, ha, hknown⟩ := checkHeader_vouched htwins.left hfound' path
  obtain ⟨known', hb, hknown'⟩ := checkHeader_vouched htwins.right hfound' path
  exact (Alike.of_remembering htwins ha hknown hb hknown').bind_oblivious fun _ => .pure _

/-- Reading the scenario file of a test. -/
theorem read_sheet_alike {p : Path} (htwins : a.Twins header found b)
    (hheaded : ∀ content, a.bytesAt (p.join scenarioName) = .ok content → IsHeaded header content) :
    Alike header found (read (p.join scenarioName)) a b := by
  refine read_alike htwins hheaded fun place hplace hlast => ?_
  rw [Path.getLast?_place_join scenarioName_isPlain hplace] at hlast
  exact absurd (Option.some.inj hlast) (by decide)

/-- The name of the scenario table of a template is that of one entry. -/
theorem scenariosName_isPlain : IsPlain "scenarios.csv" :=
  isPlain_of_length (by decide) (by decide)

variable {p : Path}

/-- The header of a table that is there, from memory or from the file. -/
theorem headerAt_vouched (h : bench.headers.Vouches header found)
    (hoffers : bench.Offers schema header found) (hfound : found) :
    ∃ known, bench.perform (headerAt schema) = (.ok header, bench.remembering known)
      ∧ known.Vouches header found := by
  obtain ⟨table, place, content, hplace, hcontent, htable⟩ := hoffers.found.mp hfound
  obtain rfl := hoffers.headed content hcontent schema table htable
  have hplace' : bench.perform ((FileWork.look (·.placeAt schema)).reportedAs (.unreadable schema))
      = (.ok place, bench) :=
    Bench.perform_reportedAs_ok (by rw [Bench.perform_look, hplace]) _
  unfold headerAt
  rw [Bench.perform_bind_ok hplace', Bench.perform_bind_ok (Bench.perform_get bench)]
  cases hknown : bench.headers.get? place with
  | some known =>
    obtain ⟨rfl, -⟩ := h place known hknown
    exact ⟨bench.headers, rfl, h⟩
  | none =>
    obtain ⟨known, hcheck, hvouches⟩ := checkHeader_vouched h (fun _ => hfound) schema
    refine ⟨known, ?_, hvouches⟩
    simp only
    have hread : bench.perform (read schema) = (.ok table, bench.remembering known) := by
      rw [perform_read hplace hcontent, htable]
      simp only
      rw [Bench.perform_bind_ok hcheck]
      rfl
    rw [Bench.perform_bind_ok hread]
    rfl

/-- Looking for the header of the template. -/
theorem headerAt_alike (htwins : a.Twins header found b)
    (hoffers : a.Offers (p.join "scenarios.csv") header found) :
    Alike header found (headerAt (p.join "scenarios.csv")) a b := by
  by_cases hfound : found
  · obtain ⟨known, ha, hknown⟩ := headerAt_vouched htwins.left hoffers hfound
    obtain ⟨known', hb, hknown'⟩ := headerAt_vouched htwins.right (htwins.offers hoffers) hfound
    exact .of_remembering htwins ha hknown hb hknown'
  · -- Nothing is remembered for the table, and so both look into the file.
    unfold headerAt
    refine .look_bind htwins (fun _ _ => rfl) fun place hplace => ?_
    have hlast := Path.getLast?_place_join scenariosName_isPlain hplace
    have hnone : ∀ {cache : HeaderCache}, cache.Vouches header found → cache.get? place = none := by
      intro cache hvouches
      refine Option.eq_none_iff_forall_ne_some.mpr fun known hknown => ?_
      exact hfound ((hvouches place known hknown).2 hlast)
    refine .get_bind (by rw [hnone htwins.left, hnone htwins.right]) ?_
    rw [hnone htwins.left]
    exact (read_alike htwins hoffers.headed fun _ _ _ => hoffers.found.mpr).bind_oblivious
      fun _ => .pure _

/-- Checking that the scenario table of the template has a column. -/
theorem requireColumn_alike (htwins : a.Twins header found b)
    (hoffers : a.Offers (p.join "scenarios.csv") header found) (column : String) :
    Alike header found (requireColumn (p.join "scenarios.csv") column) a b := by
  unfold requireColumn
  refine (headerAt_alike htwins hoffers).bind_oblivious fun _ => ?_
  split
  · exact .pure _
  · exact .throw _

end ScenarioTable

/-! ## Menus -/

namespace Menu

variable {header : List String} {found : Prop} {a b : Bench} {p : Path}

/-- Adding a row to a menu. -/
theorem addRow_alike (htwins : a.Twins header found b)
    (hoffers : a.Offers (p.join "scenarios.csv") header found) (conditions : Conditions)
    (menu : Menu) (row : Response) :
    Alike header found (addRow conditions (p.join "scenarios.csv") menu row) a b := by
  unfold addRow
  refine .ofExcept_bind htwins fun action _ => ?_
  have hverify : Alike header found (action.verify (p.join "scenarios.csv")) a b := by
    unfold Action.verify
    split
    · exact ScenarioTable.requireColumn_alike htwins hoffers _
    · exact .of_oblivious htwins (.pure _)
  refine hverify.bind_oblivious fun _ => (Oblivious.ofExcept _).bind fun holds => ?_
  split
  · exact .ofExcept _
  · exact .pure _

/-- Compiling a response file. -/
theorem ofFile_alike (htwins : a.Twins header found b)
    (hoffers : a.Offers (p.join "scenarios.csv") header found) (path : Path)
    (conditions : Conditions) :
    Alike header found (ofFile path conditions (p.join "scenarios.csv")) a b := by
  have hrows : ∀ (rows : List Response) (menu : Menu) (a b : Bench), a.Twins header found b →
      a.Offers (p.join "scenarios.csv") header found →
      Alike header found (rows.foldlM (addRow conditions (p.join "scenarios.csv")) menu) a b := by
    intro rows
    induction rows with
    | nil => exact fun _ _ _ htwins _ => .of_oblivious htwins (.pure _)
    | cons row rest ih =>
      intro menu a b htwins hoffers
      rw [List.foldlM_cons]
      refine (addRow_alike htwins hoffers conditions menu row).bind fun menu' a' b' h htwins' => ?_
      have hunmoved := addRow_keeps (ScenarioTable.read_unmoved (p.join "scenarios.csv")) conditions
        menu row a
      rw [h] at hunmoved
      exact ih menu' a' b' htwins' (hoffers.unmoved hunmoved)
  refine .oblivious_bind htwins (Response.readAll_oblivious path) fun rows a' b' h htwins' => ?_
  have hunmoved := Response.readAll_keeps (R := Bench.Unmoved) path a
  rw [h] at hunmoved
  exact hrows rows {} a' b' htwins' (hoffers.unmoved hunmoved)

end Menu

/-- Compiling the menu of the template. -/
theorem Settings.menu_alike {settings : Settings} {header : List String} {found : Prop}
    {a b : Bench} (htwins : a.Twins header found b)
    (hoffers : a.Offers (settings.workspace.scenarios settings.template) header found)
    (conditions : Conditions) : Alike header found (settings.menu conditions) a b :=
  Menu.ofFile_alike htwins hoffers _ conditions

/-! ## Enrollments -/

section Enrollment

variable {header : List String} {found : Prop} {a b : Bench}

/-- Writing the scenario file of a test under the header of the template. -/
theorem Scenario.write_alike (htwins : a.Twins header found b) (p : Path) (record : Scenario) :
    Alike header found (record.write (p.join scenarioName) header) a b := by
  have hcheck : ∀ bench : Bench, bench.headers.Vouches header found →
      checkKnownHeader (p.join scenarioName) header bench = .ok () := by
    intro bench hvouches
    unfold checkKnownHeader
    split
    · rfl
    · next place _ =>
      split
      · rfl
      · next known hknown => rw [(hvouches place known hknown).1, if_pos rfl]
  unfold Scenario.write
  refine .ofExcept_bind htwins fun _ _ => ?_
  refine .get_bind (by rw [hcheck a htwins.left, hcheck b htwins.right]) ?_
  refine .ofExcept_bind htwins fun _ _ => ?_
  split
  · exact .of_oblivious htwins (.throw _)
  refine .oblivious_bind htwins ((Oblivious.take _).reportedAs _) fun _ a₁ b₁ _ htwins₁ => ?_
  refine .oblivious_bind htwins₁ ((Oblivious.take _).reportedAs _) fun _ a₂ b₂ _ htwins₂ => ?_
  refine .oblivious_bind htwins₂ ((Oblivious.take _).reportedAs _) fun _ a₃ b₃ _ htwins₃ => ?_
  refine .look_bind htwins₃ (fun _ _ => rfl) fun place hplace => ?_
  have hfound : place.getLast? = some "scenarios.csv" → found := by
    rw [Path.getLast?_place_join scenarioName_isPlain hplace]
    exact fun hlast => absurd (Option.some.inj hlast) (by decide)
  exact .of_remembering htwins₃ rfl (htwins₃.left.insert hfound) rfl (htwins₃.right.insert hfound)

namespace Workspace

/-- Staging one test. -/
theorem stageTest_alike (htwins : a.Twins header found b) (workspace : Workspace)
    (template : String) (ordinal : Nat) (row : Except Error Scenario) :
    Alike header found (workspace.stageTest template header ordinal row) a b := by
  unfold stageTest
  refine .ofExcept_bind htwins fun scenario _ => ?_
  refine .oblivious_bind htwins ((Oblivious.take _).reportedAs _) fun _ a₁ b₁ _ htwins₁ => ?_
  refine (Scenario.write_alike htwins₁ _ scenario).bind_oblivious fun _ => ?_
  exact ((Oblivious.writeFile _ _).reportedAs _).bind fun _ => .pure _

/-- Staging tests. -/
theorem stageFrom_alike (htwins : a.Twins header found b) (workspace : Workspace)
    (template : String) (ordinal : Nat) (rows : List (Except Error Scenario)) :
    Alike header found (workspace.stageFrom template header ordinal rows) a b := by
  induction rows generalizing ordinal a b with
  | nil => exact .of_oblivious htwins (.pure _)
  | cons row rest ih =>
    refine (stageTest_alike htwins workspace template ordinal row).bind
      fun name a' b' _ htwins' => ?_
    exact (ih htwins' (ordinal + 1)).bind_oblivious fun _ => .pure _

/-- Staging a batch, or taking the staging directory down again. -/
theorem stage_alike (htwins : a.Twins header found b) (workspace : Workspace) (template : String)
    (rows : List (Except Error Scenario)) :
    Alike header found (workspace.stage template header rows) a b := by
  unfold stage
  refine (stageFrom_alike htwins workspace template 1 rows).outcome.bind_oblivious fun outcome => ?_
  split
  · exact .pure _
  · exact (Oblivious.removeTree _).fileOutcome.bind fun _ => .throw _

/-- Enrolling a batch under the header of the template. -/
theorem enrollRows_alike (htwins : a.Twins header found b) (workspace : Workspace)
    (template : String) (rows : List (Except Error Scenario)) :
    Alike header found (workspace.enrollRows template header rows) a b := by
  have hrest : ∀ {a b : Bench}, a.Twins header found b → Alike header found (do
      workspace.clearStaging
      let names ← workspace.stage template header rows
      workspace.publish
      return names.map workspace.pending.join) a b := by
    intro a b htwins
    refine .oblivious_bind htwins workspace.clearStaging_oblivious fun _ a' b' _ htwins' => ?_
    refine (stage_alike htwins' workspace template rows).bind_oblivious fun names => ?_
    exact workspace.publish_oblivious.bind fun _ => .pure _
  unfold enrollRows
  refine .oblivious_bind htwins (isOccupied_oblivious _) fun occupied a' b' _ htwins' => ?_
  split
  · exact .oblivious_bind htwins' (.throw _) fun _ _ _ _ htwins'' => hrest htwins''
  · exact hrest htwins'

end Workspace

/-- Enrolling the template. -/
theorem enroll_alike {settings : Settings} (htwins : a.Twins header found b)
    (hoffers : a.Offers (settings.workspace.scenarios settings.template) header found) :
    Alike header found (enroll settings) a b := by
  have htable : ∀ {a b : Bench}, a.Twins header found b →
      a.Offers (settings.workspace.scenarios settings.template) header found →
      Alike header found (do
        let table ← ScenarioTable.read (settings.workspace.scenarios settings.template)
        settings.workspace.enrollRows settings.template table.header table.rows) a b := by
    intro a b htwins hoffers
    refine (ScenarioTable.read_alike htwins hoffers.headed fun _ _ _ => hoffers.found.mpr).bind
      fun table a₁ b₁ hread htwins₁ => ?_
    obtain rfl := hoffers.header_eq (.of_read hread)
    exact Workspace.enrollRows_alike htwins₁ _ _ _
  have hmenu : ∀ (conditions : Conditions) {a b : Bench} {next : Menu → Work (List Path)},
      a.Twins header found b →
      a.Offers (settings.workspace.scenarios settings.template) header found →
      (∀ menu a' b', a'.Twins header found b' →
        a'.Offers (settings.workspace.scenarios settings.template) header found →
        Alike header found (next menu) a' b') →
      Alike header found (Menu.ofFile (settings.workspace.responses settings.template) conditions
        (settings.workspace.scenarios settings.template) >>= next) a b := by
    intro conditions a b next htwins hoffers hnext
    refine (settings.menu_alike htwins hoffers conditions).bind fun menu a' b' h htwins' => ?_
    have hunmoved := settings.menu_unmoved conditions a
    rw [h] at hunmoved
    exact hnext menu a' b' htwins' (hoffers.unmoved hunmoved)
  unfold enroll
  refine .oblivious_bind htwins settings.requireTemplate_oblivious
    fun _ a₁ b₁ hchecked htwins₁ => ?_
  have hunmoved := settings.requireTemplate_unmoved a
  rw [hchecked] at hunmoved
  have hoffers₁ := hoffers.unmoved hunmoved
  refine .get_bind (by rw [htwins₁.same]; rfl) ?_
  split
  · exact .of_oblivious htwins₁ (.throw _)
  · refine .get_bind (by rw [htwins₁.same]; rfl) ?_
    split
    · exact hmenu _ htwins₁ hoffers₁ fun _ _ _ htwins₂ hoffers₂ =>
        hmenu _ htwins₂ hoffers₂ fun _ _ _ htwins₃ hoffers₃ => htable htwins₃ hoffers₃
    · exact htable htwins₁ hoffers₁

end Enrollment

/-! ## Reports -/

namespace Report

variable {header : List String} {found : Prop} {a b : Bench}

/-- Collecting the rows of tests whose scenario files have the header of the template. -/
theorem rowsOfTests_alike (htwins : a.Twins header found b) (expected columns : List String)
    {directories : List Path}
    (hheaded : ∀ directory ∈ directories, ∀ content,
      a.bytesAt (directory.join scenarioName) = .ok content →
      ScenarioTable.IsHeaded header content) :
    Alike header found (rowsOfTests expected columns directories) a b := by
  induction directories generalizing a b with
  | nil => exact .of_oblivious htwins (.pure _)
  | cons directory rest ih =>
    obtain ⟨hfirst, hrest⟩ := List.forall_mem_cons.mp hheaded
    unfold rowsOfTests
    refine .get_bind (by rw [htwins.same]; rfl) ?_
    split
    · exact ih htwins hrest
    · refine (ScenarioTable.read_sheet_alike htwins hfirst).bind fun table a' b' hread htwins' => ?_
      have hunmoved := ScenarioTable.read_unmoved (directory.join scenarioName) a
      rw [hread] at hunmoved
      have hrows : Alike header found (do
          let rows ← Work.ofExcept (rowsOf columns table.rows)
          return rows ++ (← rowsOfTests expected columns rest)) a' b' := by
        refine .ofExcept_bind htwins' fun rows _ => ?_
        refine Alike.bind_oblivious (ih htwins' fun other hother content hcontent => ?_)
          fun _ => .pure _
        rw [Bench.bytesAt, Bench.nodeAt, hunmoved.files, hunmoved.here] at hcontent
        exact hrest other hother content hcontent
      split
      · exact .oblivious_bind htwins' (.throw _) fun _ _ _ hthrow _ => by cases hthrow
      · exact hrows

/-- Reporting on the completed tests of a workspace whose tests have the header of the template. -/
theorem ofResults_alike {settings : Settings} {w : Place} {names : List String}
    (htwins : a.Twins header found b)
    (hoffers : a.Offers (settings.workspace.scenarios settings.template) header found)
    (hw : settings.workspace.root.Leads a.files a.here w)
    (hholds : a.files.HoldsTests (Root.results.place w) names)
    (hheaded : a.files.AllHeaded w header) : Alike header found (ofResults settings) a b := by
  have hheader : Alike header found
      (ScenarioTable.headerAt (settings.workspace.scenarios settings.template)) a b :=
    ScenarioTable.headerAt_alike htwins hoffers
  unfold ofResults
  refine hheader.bind fun expected a₁ b₁ hfound htwins₁ => ?_
  have hunmoved := ScenarioTable.headerAt_unmoved (settings.workspace.scenarios settings.template) a
  rw [hfound] at hunmoved
  refine .oblivious_bind htwins₁ (testsIn_oblivious _) fun directories a₂ b₂ htests htwins₂ => ?_
  have hread := trans_of Bench.Unmoved hunmoved
    (testsIn_keeps (R := Bench.Unmoved) settings.workspace.results a₁)
  rw [htests] at hread
  refine Alike.bind_oblivious
    (rowsOfTests_alike htwins₂ _ _ fun directory hdirectory content hcontent => ?_) fun _ => .pure _
  rw [Bench.bytesAt, Bench.nodeAt, hread.files, hread.here] at hcontent
  rcases testsIn_ok (r := .results) (by rwa [hunmoved.files, hunmoved.here]) htests with
    ⟨rfl, -⟩ | ⟨entries, hentries, rfl⟩
  · cases hdirectory
  · rw [hunmoved.files] at hentries
    obtain ⟨name, hname, rfl⟩ := List.mem_map.mp hdirectory
    rw [← (hholds.entries hentries).1] at hholds
    exact hheaded.of_bytesAt (Workspace.test_leads hw hholds (mem_testNames hname)) hcontent

end Report

end BootTrial
