import BootTrial.Proofs.Choice
import BootTrial.Proofs.Compiling
import BootTrial.Proofs.Filling

/-!
# Writes that have been compiled

A row that writes a column is compiled if the column is one of the scenario table of the template.
So a test whose scenario file has the header of this table has the column, too: the record keeps its
names, in their order, and the file takes it (`Trial.IsOpen.act_write`). Only the file system can
refuse, and it does exactly if no draft can be created beside the file (`Workspace.TakesDraft`).

`Trial.act_writes` says this of all writes that a menu offers, in any order and number, and what a
program that has just been started reads behind them.
-/

namespace BootTrial

open Text (Bytes)

/-! ## The columns of a menu -/

/-- What the entries of a menu write are columns of the scenario table for which it was compiled. -/
theorem Menu.column_mem_header {bench : Bench} {schema : Path} {header : List String}
    {conditions : Conditions} {rows : List Response} {menu : Menu} {entry : Menu.Entry}
    {action : Action} {column : String} (hfinds : bench.Finds schema (.ok header))
    (hmenu : (bench.perform (ofResponses rows conditions schema)).1 = .ok menu)
    (hentry : entry ∈ menu.entries) (haction : action ∈ entry.actions)
    (hcolumn : action.column? = some column) : column ∈ header := by
  have hcompiles := compiles_of_finds hfinds conditions rows
  obtain ⟨hpasses, -⟩ := hcompiles.accepts.mp ⟨menu, hmenu⟩
  rw [(hcompiles.holds menu hmenu).entries] at hentry
  obtain ⟨description, -, rfl⟩ := List.mem_map.mp hentry
  obtain ⟨row, hrow, hrowAction⟩ := List.mem_filterMap.mp haction
  -- The row that has given the action has passed its checks.
  obtain ⟨kind, words, own, hkind, hwords, hown, hcolumns⟩ :=
    (hpasses row (List.mem_filter.mp hrow).1).prepared
  have hprepare : row.prepare = .ok own := Response.prepare_ok hkind hwords hown
  have hsame : own = action := by
    rw [Response.action?, hprepare] at hrowAction
    exact Option.some.inj hrowAction
  subst hsame
  obtain ⟨names, hnames, hmem⟩ := hcolumns column hcolumn
  rwa [Except.ok.inj hnames]

/-! ## Records -/

namespace Scenario

variable {record : Scenario} {header : List String} {content : Bytes}

/-- A scenario that has been read under names that are all different has just these names. -/
theorem IsRead.names_eq (h : record.IsRead content header) (hnodup : header.Nodup) :
    record.names = header := by
  obtain ⟨row, texts, hrows, htexts, rfl⟩ := h.row
  have hlength : texts.length = header.length :=
    Table.length_texts_of_mem_rows h.names (by rw [hrows]; exact List.mem_singleton_self row) htexts
  have hzip : (header.zip texts).map (·.1) = header :=
    List.map_fst_zip (Nat.le_of_eq hlength.symm)
  rw [ofRow, ofFields, foldl_set {} (by simpa [Scenario.names, hzip] using hnodup)]
  simpa [Scenario.names] using hzip

/-- A record keeps its names when a field is set that it has. -/
theorem names_set_of_mem {column : String} (h : column ∈ record.names) (result : String) :
    (record.set column result).names = record.names := by
  rw [names_set, if_pos h]

/-- The record with some fields set one after the other. -/
def withWrites (record : Scenario) (writes : List (String × String)) : Scenario :=
  writes.foldl (fun record write => record.set write.1 write.2) record

/-- Of the values that are set under a name the last one counts. -/
theorem get?_withWrites (record : Scenario) (writes : List (String × String)) (column : String) :
    (record.withWrites writes).get? column
      = (writes.reverse.lookup column).or (record.get? column) := by
  induction writes generalizing record with
  | nil => rfl
  | cons write rest ih =>
    have hlookup : (rest.reverse ++ [write]).lookup column
        = (rest.reverse.lookup column).or (if column = write.1 then some write.2 else none) := by
      rw [List.lookup_append]
      obtain ⟨name, value⟩ := write
      by_cases hsame : column = name
      · simp [hsame]
      · simp [hsame, List.lookup_cons, beq_false_of_ne hsame]
    have hset : (record.set write.1 write.2).get? column
        = if column = write.1 then some write.2 else record.get? column := by
      by_cases hsame : column = write.1
      · rw [hsame, get?_set_self, if_pos rfl]
      · rw [get?_set_of_ne hsame, if_neg hsame]
    rw [withWrites, List.foldl_cons, ← withWrites, ih, hset, List.reverse_cons, hlookup,
      Option.or_assoc]
    by_cases hsame : column = write.1 <;> simp [hsame]

end Scenario

/-! ## One write -/

/-- The draft of the scenario file of a test in the running root can be created: its path is
accepted, and no directory has its name. -/
structure Workspace.TakesDraft (workspace : Workspace) (w : Place) (name : String) (bench : Bench) :
    Prop where
  /-- The path of the draft is accepted. -/
  accepted : (workspace.running.join name).joinFault? (Scenario.draftName scenarioName) = none
  /-- No directory is in its way. -/
  free : ¬ bench.files.HasDir
    (Root.running.place w ++ [name] ++ [Scenario.draftName scenarioName])

/-- Writing a record where a record with the same names lies is refused if and only if the draft
cannot be created. -/
theorem Scenario.write_there {q : Path} {d : Place} {name : String} {bench : Bench}
    {entries : List (String × Node)} {header : List String} {record : Scenario} {content : Bytes}
    {runnable : Bool} (hname : IsPlain name) (h : bench.Lists (q.join name) d entries)
    (hfile : entries.lookup scenarioName = some (.file content runnable))
    (hnames : record.names = header)
    (hknown : bench.headers.get? (d ++ [scenarioName]) = some header) :
    (∃ fault, bench.perform (record.write ((q.join name).join scenarioName) header)
          = (.error (.ofTableFault fault), bench)
        ∧ ¬ ((q.join name).joinFault? (draftName scenarioName) = none
          ∧ ∀ own, entries.lookup (draftName scenarioName) ≠ some (.dir own)))
      ∨ ∃ after, bench.perform (record.write ((q.join name).join scenarioName) header)
          = (.ok (), after)
        ∧ (q.join name).joinFault? (draftName scenarioName) = none
        ∧ (∀ own, entries.lookup (draftName scenarioName) ≠ some (.dir own))
        ∧ after.files.get? (d ++ [draftName scenarioName]) = none := by
  have hcheck : record.checkNames ((q.join name).join scenarioName) header = .ok () :=
    if_pos hnames
  have hkept : checkKnownHeader ((q.join name).join scenarioName) header bench = .ok () := by
    unfold checkKnownHeader
    split
    · rfl
    · next place hplace =>
      obtain rfl : place = d ++ [scenarioName] := Path.place_join_ok scenarioName_isPlain
        h.leads.passThrough h.dir hfile hplace
      simp only [hknown, if_true]
  rw [write_eq hname, hcheck, Bench.perform_bind_ok (Bench.perform_ofExcept bench _),
    Bench.perform_bind_ok (Bench.perform_get bench), hkept,
    Bench.perform_bind_ok (Bench.perform_ofExcept bench _)]
  have hcreates := FileStep.createFile_join draftName_isPlain h.leads.passThrough h.dir
  -- The draft is refused for its path or for a directory,
  have hrefused : ∀ fault, FileStep.createFile ((q.join name).join (draftName scenarioName))
      bench.files bench.here = .error fault → bench.perform (do
        (FileWork.take (FileStep.createFile ((q.join name).join (draftName scenarioName)))).reportedAs
          .ofTableFault
        (FileWork.take (FileStep.fillFile ((q.join name).join (draftName scenarioName))
          (record.tableBytes header))).reportedAs .ofFault
        (FileWork.rename ((q.join name).join (draftName scenarioName))
          ((q.join name).join scenarioName)).reportedAs .ofFault
        let place ← (FileWork.look (·.placeAt ((q.join name).join scenarioName))).reportedAs
          (.unreadable ((q.join name).join scenarioName))
        modify fun bench => { bench with headers := bench.headers.insert place header })
        = (.error (.ofTableFault fault), bench) := fun fault hfault =>
    Bench.perform_bind_error
      (Bench.perform_reportedAs_error (Bench.perform_take_error hfault) _) _
  cases hfault : (q.join name).joinFault? (draftName scenarioName) with
  | some fault =>
    rw [hfault] at hcreates
    exact .inl ⟨fault, hrefused fault hcreates, fun hboth => by cases hboth.1⟩
  | none =>
  by_cases hdir : ∃ own, entries.lookup (draftName scenarioName) = some (.dir own)
  · obtain ⟨own, hown⟩ := hdir
    rw [hfault, hown] at hcreates
    exact .inl ⟨_, hrefused _ hcreates, fun hboth => hboth.2 own hown⟩
  · -- or it is created and filled, and takes the place of the file.
    have hfault' : (q.join name).joinFault? scenarioName = none :=
      Path.joinFault?_le scenarioName_isPlain draftName_isPlain (by decide) (by decide) hfault
    have hne : scenarioName ≠ draftName scenarioName := by decide
    obtain ⟨created, bit, hcreate, hcreated⟩ := FileWork.createFile_there draftName_isPlain h hfault
      fun own hown => hdir ⟨own, hown⟩
    obtain ⟨filled, hfill, hfilled⟩ := FileWork.fillFile_there draftName_isPlain hcreated hfault
      (Named.lookup_set_self ..) (record.tableBytes header)
    rw [Named.set_set] at hfilled
    have hfile' : (Named.set (draftName scenarioName) (.file (record.tableBytes header) bit)
        entries).lookup scenarioName = some (.file content runnable) := by
      rw [Named.lookup_set_of_ne hne, hfile]
    obtain ⟨moved, hmove, hmoved⟩ := FileWork.rename_onto draftName_isPlain scenarioName_isPlain
      hne.symm hfilled hfault hfault' (Named.lookup_set_self ..) hfile'
    have hplace : moved.placeAt ((q.join name).join scenarioName) = .ok (d ++ [scenarioName]) :=
      Path.place_join scenarioName_isPlain hmoved.leads.passThrough hmoved.dir hfault'
        (Named.lookup_set_self ..)
    refine .inr ⟨{ moved with headers := moved.headers.insert (d ++ [scenarioName]) header }, ?_,
      rfl, fun own hown => hdir ⟨own, hown⟩, ?_⟩
    · rw [Bench.perform_bind_ok (Bench.perform_reportedAs_ok hcreate _),
        Bench.perform_bind_ok (Bench.perform_reportedAs_ok hfill _),
        Bench.perform_bind_ok (Bench.perform_reportedAs_ok hmove _), Bench.perform_bind,
        Bench.perform_reportedAs, Bench.perform_look, hplace]
      rfl
    · show moved.files.get? (d ++ [draftName scenarioName]) = none
      rw [Node.get?_snoc hmoved.dir, Named.lookup_set_of_ne hne.symm, Named.lookup_erase_self]

namespace Trial

variable {workspace : Workspace} {w : Place} {name : String} {base bench : Bench}
  {header : List String} {scenario : Scenario} {trial : Trial}

/-- Writing a result into the scenario of an open trial, by which its record has the names of the
header: it stands there afterwards, and the next draft can be created as this one could; or the file
system has refused it, since this draft could not be created. -/
theorem IsOpen.act_write (h : IsOpen workspace w name base header scenario trial bench)
    (hnodup : trial.scenario.names.Nodup)
    (hrefusal : ((workspace.running.join name).join scenarioName).refusal? = none)
    {column result : String} (hnames : (trial.scenario.set column result).names = header) :
    (∃ failure trial' after,
        bench.act trial (Action.runWriteResult column result) = (.error failure, trial', after)
        ∧ failure.code = "IO_ERROR" ∧ ¬ workspace.TakesDraft w name bench)
      ∨ ∃ trial' after,
        bench.act trial (Action.runWriteResult column result) = (.ok (), trial', after)
        ∧ IsOpen workspace w name base header (trial.scenario.set column result) trial' after
        ∧ trial'.scenario = trial.scenario.set column result
        ∧ workspace.TakesDraft w name bench ∧ workspace.TakesDraft w name after := by
  have hleads := h.runs_now.leads
  obtain ⟨entries, hentries⟩ := hleads.dir
  obtain ⟨content, runnable, hfile, -⟩ := h.stands.file
  rw [Node.get?_snoc hentries] at hfile
  have hplace : bench.placeAt ((workspace.running.join name).join scenarioName)
      = .ok (Root.running.place w ++ [name] ++ [scenarioName]) :=
    Path.place_join scenarioName_isPlain hleads.passThrough hentries
      (Path.joinFault?_eq_none.mpr ⟨hrefusal, by decide⟩) hfile
  -- The header is remembered.
  have hcaches : bench.Caches ((workspace.running.join name).join scenarioName) header :=
    ⟨_, hplace, h.known⟩
  have hact := h.act_writeResult_eq column result
  simp only [hcaches.perform_headerAt] at hact
  rcases Scenario.write_there h.runs.plain ⟨hleads, hentries⟩ hfile hnames h.known with
    ⟨fault, hwrite, hrefused⟩ | ⟨last, hwrite, haccepted, hfree, hgone⟩
  · rw [hwrite] at hact
    refine .inl ⟨_, _, _, hact, rfl, fun htakes => hrefused ⟨htakes.accepted, fun own hown => ?_⟩⟩
    exact htakes.free ⟨own, by rw [Node.get?_snoc hentries, hown]⟩
  · rw [hwrite] at hact
    rcases h.writeResult_cases hnodup column result with
      ⟨failure, after, hfailed, -⟩ | ⟨after, hdone, hopen, -⟩
    · rw [hact] at hfailed
      cases hfailed
    · rw [hact] at hdone
      cases hdone
      refine .inr ⟨_, _, hact, hopen, rfl, ⟨haccepted, ?_⟩, haccepted, ?_⟩
      · rintro ⟨own, hown⟩
        rw [Node.get?_snoc hentries] at hown
        exact hfree own hown
      · rintro ⟨own, hown⟩
        rw [hgone] at hown
        cases hown

/-- Writing a result into the scenario of an open trial succeeds if and only if its record then has
the names of the header and a draft can be created. -/
theorem IsOpen.writeResult_ok_iff (h : IsOpen workspace w name base header scenario trial bench)
    (hnodup : trial.scenario.names.Nodup)
    (hrefusal : ((workspace.running.join name).join scenarioName).refusal? = none)
    (column result : String) :
    (bench.act trial (Action.runWriteResult column result)).1 = .ok ()
      ↔ (trial.scenario.set column result).names = header ∧ workspace.TakesDraft w name bench := by
  constructor
  · intro hok
    have hnames : (trial.scenario.set column result).names = header := by
      rcases h.writeResult_cases hnodup column result with
        ⟨failure, after, hact, -⟩ | ⟨after, -, -, hnames, -⟩
      · rw [hact] at hok
        cases hok
      · exact hnames
    refine ⟨hnames, ?_⟩
    rcases h.act_write hnodup hrefusal hnames with
      ⟨failure, trial', after, hact, -⟩ | ⟨trial', after, -, -, -, htakes, -⟩
    · rw [hact] at hok
      cases hok
    · exact htakes
  · rintro ⟨hnames, htakes⟩
    rcases h.act_write hnodup hrefusal hnames with
      ⟨failure, trial', after, -, -, hrefused⟩ | ⟨trial', after, hact, -⟩
    · exact absurd htakes hrefused
    · rw [hact]

/-- Writing results into columns of an open trial, one after the other: they stand there afterwards;
or the file system has refused one of them, since a draft could not be created. -/
theorem IsOpen.act_writes (h : IsOpen workspace w name base header scenario trial bench)
    (hsame : trial.scenario = scenario) (hnames : scenario.names = header)
    (hrefusal : ((workspace.running.join name).join scenarioName).refusal? = none)
    (machine : Machine) {writes : List (String × String)}
    (hcolumns : ∀ write ∈ writes, write.1 ∈ header) :
    (∃ failure trial' after,
        bench.act trial (Action.runAll machine (writes.map fun write => .writeResult write.1 write.2))
          = (.error failure, trial', after)
        ∧ failure.code = "IO_ERROR" ∧ ¬ workspace.TakesDraft w name bench)
      ∨ ∃ trial' after,
        bench.act trial (Action.runAll machine (writes.map fun write => .writeResult write.1 write.2))
          = (.ok (), trial', after)
        ∧ IsOpen workspace w name base header (scenario.withWrites writes) trial' after
        ∧ (scenario.withWrites writes).names = header := by
  induction writes generalizing scenario trial bench with
  | nil => exact .inr ⟨trial, bench, rfl, h, hnames⟩
  | cons write rest ih =>
    obtain ⟨hcolumn, hrest⟩ := List.forall_mem_cons.mp hcolumns
    rw [List.map_cons, Action.act_runAll_cons, Action.run]
    subst hsame
    -- The record still has the names of the header.
    have hset : (trial.scenario.set write.1 write.2).names = header := by
      rw [Scenario.names_set_of_mem (hnames ▸ hcolumn), hnames]
    rcases h.act_write h.stands.nodup hrefusal hset with
      ⟨failure, trial', after, hact, hcode, hrefused⟩
        | ⟨trial', middle, hact, hopen, hscenario, -, htakes⟩
    · rw [hact]
      exact .inl ⟨failure, trial', after, rfl, hcode, hrefused⟩
    · rw [hact]
      rcases ih hopen hscenario hset hrest with ⟨failure, last, after, -, -, hrefused⟩ | hdone
      · exact absurd htakes hrefused
      · exact .inr hdone

/-- Writes that have been compiled do not go wrong. A table of responses compiles against a scenario
table whose columns have different names, none with a byte order mark in front, and a test in the
running root has been loaded whose scenario file has the same header. Then any of the writes that
the menu offers, in any order and number, can be carried out: only the file system can refuse them,
and it does not if a draft of the scenario file can be created. A program that has just been started
reads behind them the same header, and the record that was loaded with the last value that was
written to each column. -/
theorem writes_succeed {settings : Settings} {machine : Machine} {w : Place} {name : String}
    {compiling bench loaded : Bench} {schema : Path} {header : List String} {rows : List Response}
    {conditions : Conditions} {menu : Menu} {content : Bytes} {trial : Trial}
    (hfinds : compiling.Finds schema (.ok header)) (hnodup : header.Nodup)
    (hmark : ∀ column ∈ header, column.toList.head? ≠ some '\uFEFF')
    (hmenu : (compiling.perform (Menu.ofResponses rows conditions schema)).1 = .ok menu)
    (hmachine : machine.WritesOnlyLogs) (hruns : settings.workspace.Runs w name bench)
    (hcontent : bench.bytesAt ((settings.workspace.running.join name).join scenarioName) = .ok content)
    (hheader : Table.header content = .ok header)
    (hload : bench.perform (load settings machine (settings.workspace.running.join name))
      = (.ok trial, loaded))
    {writes : List (String × String)}
    (hwrites : ∀ write ∈ writes, ∃ entry ∈ menu.entries,
      Action.writeResult write.1 write.2 ∈ entry.actions) :
    ∃ outcome trial' after,
      loaded.act trial (Action.runAll machine (writes.map fun write => .writeResult write.1 write.2))
          = (outcome, trial', after)
        ∧ (∀ failure, outcome = .error failure → failure.code = "IO_ERROR")
        ∧ (settings.workspace.TakesDraft w name loaded → outcome = .ok ())
        ∧ (outcome = .ok () → ∃ record,
          (Bench.perform { after with headers := [] } (Scenario.read trial.scenarioFile false)).1
              = .ok record
            ∧ (Bench.perform { after with headers := [] }
                (ScenarioTable.headerAt trial.scenarioFile)).1 = .ok header
            ∧ record.names = header
            ∧ ∀ column, record.get? column
              = (writes.reverse.lookup column).or (trial.scenario.get? column)) := by
  obtain ⟨content', runnable, header', hstood, hisRead, hopen, hrefusal⟩ :=
    load_opens hmachine hruns hload
  -- The header that has been loaded is that of the template.
  obtain ⟨entries, hentries⟩ := hruns.leads.dir
  obtain ⟨hfault, runnable', hentry⟩ := Bench.bytesAt_join_ok scenarioName_isPlain
    hruns.leads.passThrough hentries hcontent
  rw [Node.get?_snoc hentries, hentry] at hstood
  cases hstood
  obtain rfl : header = header' := Except.ok.inj (hheader.symm.trans hisRead.names)
  have hnames := hisRead.names_eq hnodup
  have hcolumns : ∀ write ∈ writes, write.1 ∈ header := by
    intro write hwrite
    obtain ⟨entry, hentry, haction⟩ := hwrites write hwrite
    exact Menu.column_mem_header hfinds hmenu hentry haction rfl
  rcases hopen.act_writes rfl hnames hrefusal machine hcolumns with
    ⟨failure, trial', after, hact, hcode, hrefused⟩ | ⟨trial', after, hact, hopen', hnames'⟩
  · refine ⟨_, trial', after, hact, ?_, fun htakes => absurd htakes hrefused, ?_⟩
    · rintro _ ⟨⟩
      exact hcode
    · intro hok
      cases hok
  · have hunmarked : ¬ (trial.scenario.withWrites writes).IsMarked :=
      Scenario.not_isMarked (hnames' ▸ hmark)
    obtain ⟨written, runnable', hfile, hread⟩ := hopen'.stands.file
    have hleads : (settings.workspace.running.join name).Leads { after with headers := [] }.files
        { after with headers := [] }.here (Root.running.place w ++ [name]) :=
      hopen'.runs_now.leads
    have hrow := Scenario.read_of_isRead hleads hfault hfile (hread hunmarked) rfl false
    obtain ⟨own, hown⟩ := hleads.dir
    rw [Node.get?_snoc hown] at hfile
    have hbytes : Bench.bytesAt ((settings.workspace.running.join name).join scenarioName)
        { after with headers := [] } = .ok written := by
      rw [Bench.bytesAt, Bench.nodeAt, Path.node_join scenarioName_isPlain hleads.passThrough hown,
        hfault, hfile]
    have hfound := Bench.finds_of_bytesAt hbytes (hread hunmarked).names (hread hunmarked).named rfl
    have hpath : trial.scenarioFile = (settings.workspace.running.join name).join scenarioName := by
      rw [scenarioFile, hopen.directory]
    rw [← hpath] at hrow hfound
    exact ⟨_, trial', after, hact, by simp, fun _ => rfl, fun _ =>
      ⟨_, hrow, hfound, hnames', trial.scenario.get?_withWrites writes⟩⟩

/-- Two verdicts, of which the second corrects the mode as well. -/
def verdictResponses : List Response :=
  [⟨"Pass [p]", "", "write_result", "result pass"⟩,
    ⟨"Fail [f]", "", "write_result", "result fail"⟩,
    ⟨"Fail [f]", "", "write_result", "mode deep"⟩]

set_option maxRecDepth 100000 in
/-- They are written one after the other into the scenario of a test that has been begun, and the
later verdict is read. -/
theorem writes_succeed_twice :
    ∃ loaded trial' after record,
      (begunBench restartResponses).perform (load {} (.scripted begunBoot []) begunPath)
          = (.ok restartTrial, loaded)
        ∧ loaded.act restartTrial (Action.runAll (.scripted begunBoot [])
            [.writeResult "result" "pass", .writeResult "mode" "deep", .writeResult "result" "fail"])
          = (.ok (), trial', after)
        ∧ (Bench.perform { after with headers := [] }
            (Scenario.read restartTrial.scenarioFile false)).1 = .ok record
        ∧ record.names = ["mode", "result"] ∧ record.get? "mode" = some "deep"
        ∧ record.get? "result" = some "fail" := by
  let bench := begunBench restartResponses
  let loaded := (bench.perform (load {} (.scripted begunBoot []) begunPath)).2
  have hfacts : (bench.perform (load {} (.scripted begunBoot []) begunPath)).1 = .ok restartTrial
      ∧ (loaded.files.get? (Root.running.place [] ++ [begunName]
        ++ [Scenario.draftName scenarioName])).isNone = true
      ∧ (tableBench.perform (Menu.ofResponses verdictResponses (.ofBoot true)
          (.ofText "scenarios.csv"))).1 = .ok ⟨[⟨"Pass [p]", [.writeResult "result" "pass"]⟩,
            ⟨"Fail [f]", [.writeResult "result" "fail", .writeResult "mode" "deep"]⟩],
          [('f', "Fail [f]"), ('p', "Pass [p]")]⟩
      ∧ (tableBench.perform (ScenarioTable.headerAt (.ofText "scenarios.csv"))).1
        = .ok ["mode", "result"]
      ∧ bench.bytesAt (begunPath.join scenarioName) = .ok (Text.encode "mode,result\ns2idle,\n")
      ∧ Table.header (Text.encode "mode,result\ns2idle,\n") = .ok ["mode", "result"] := by
    decide +kernel
  obtain ⟨hload, hnone, hmenu, hfinds, hcontent, hheader⟩ := hfacts
  have htakes : (Settings.workspace {}).TakesDraft [] begunName loaded := by
    refine ⟨by decide +kernel, ?_⟩
    rintro ⟨own, hown⟩
    rw [hown] at hnone
    cases hnone
  have hload' : bench.perform (load {} (.scripted begunBoot []) begunPath)
      = (.ok restartTrial, loaded) := Bench.perform_eq hload
  have hwrites : ∀ write ∈ [("result", "pass"), ("mode", "deep"), ("result", "fail")],
      ∃ entry ∈ [(⟨"Pass [p]", [.writeResult "result" "pass"]⟩ : Menu.Entry),
          ⟨"Fail [f]", [.writeResult "result" "fail", .writeResult "mode" "deep"]⟩],
        Action.writeResult write.1 write.2 ∈ entry.actions := by
    decide
  obtain ⟨outcome, trial', after, hact, -, hok, hread⟩ := writes_succeed hfinds (by decide)
    (by decide) hmenu (Machine.scripted_writesOnlyLogs begunBoot [])
    (begunBench_runs restartResponses) hcontent hheader hload' hwrites
  obtain rfl := hok htakes
  obtain ⟨record, hrecord, -, hnames, hvalues⟩ := hread rfl
  exact ⟨loaded, trial', after, record, hload', hact, hrecord, hnames, hvalues "mode",
    hvalues "result"⟩

end Trial

end BootTrial
