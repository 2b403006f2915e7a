import BootTrial.Proofs.Making
import BootTrial.Proofs.Sheet

/-!
# Filling a new directory

What is written into a directory that has just been made stands there and nothing else does: the
scenario file, without a draft (`Scenario.write_fresh`), and the file with the front of the names of
the logs (`fillTest_fresh`). Where the names of the record are those of the header and the path of
the draft is accepted, nothing of this is refused.
-/

namespace BootTrial

namespace Path

variable {p : Path} {name other : String}

/-- A joined path is not refused for its text if one is not that ends in a longer name. -/
theorem refusal?_join_le (hname : IsPlain name) (hother : IsPlain other)
    (hsize : name.utf8ByteSize ≤ other.utf8ByteSize) (hnul : '\x00' ∉ name.toList)
    (h : (p.join other).refusal? = none) : (p.join name).refusal? = none := by
  refine refusal?_of_le h ?_ fun c hc => ?_
  · rw [p.text_join hname, p.text_join hother, String.utf8ByteSize_append,
      String.utf8ByteSize_append]
    omega
  · rw [p.text_join hname, String.toList_append, List.mem_append] at hc
    rw [p.text_join hother, String.toList_append, List.mem_append]
    rcases hc with hc | hc
    · exact .inl (.inl hc)
    · exact .inr fun h => hnul (h ▸ hc)

/-- A name in a directory is not refused if a longer one is not. -/
theorem joinFault?_le (hname : IsPlain name) (hother : IsPlain other)
    (hsize : name.utf8ByteSize ≤ other.utf8ByteSize) (hnul : '\x00' ∉ name.toList)
    (h : p.joinFault? other = none) : p.joinFault? name = none := by
  rw [joinFault?_eq_none] at h ⊢
  exact ⟨refusal?_join_le hname hother hsize hnul h.1, Nat.le_trans hsize h.2⟩

/-- A joined path under whose name nothing stands has no place. -/
theorem place_join_missing {root : Node} {here d : Place} {entries : List (String × Node)}
    (hname : IsPlain name) (hp : passThrough root (p.start here) p.components = .ok d)
    (hd : root.get? d = some (.dir entries)) (hentry : entries.lookup name = none) :
    ∃ fault, (p.join name).place root here = .error fault := by
  unfold Path.place
  rw [p.walk_join root here hname, hp]
  split
  · exact ⟨_, rfl⟩
  · by_cases hlong : nameLimit < name.utf8ByteSize
    · exact ⟨.nameTooLong, by
        simp [Except.bind, Except.map, Approach.entry, Approach.target, lookUp_of_get? hd, hlong]⟩
    · exact ⟨.notFound, by
        simp [Except.bind, Except.map, Approach.entry, Approach.target, lookUp_of_get? hd, hlong,
          hentry]⟩

end Path

/-- At a path there is a directory with the given entries. -/
structure Bench.Lists (p : Path) (d : Place) (entries : List (String × Node)) (bench : Bench) :
    Prop where
  /-- The path leads there. -/
  leads : p.Leads bench.files bench.here d
  /-- The directory. -/
  dir : bench.files.get? d = some (.dir entries)

section Files

variable {p : Path} {d : Place} {name : String} {bench : Bench} {entries : List (String × Node)}

/-- Putting a node into a directory. -/
theorem Bench.Lists.put (h : bench.Lists p d entries) (name : String) (node : Node) :
    (bench.stepTo (bench.files.put node (d ++ [name]))).Lists p d (Named.set name node entries) :=
  ⟨h.leads.put_below (by simp) node, Node.get?_put_entry h.dir name node⟩

/-- Creating a file under a name that is free. -/
theorem FileWork.createFile_free (hname : IsPlain name) (h : bench.Lists p d entries)
    (hfault : p.joinFault? name = none) (hfree : entries.lookup name = none) :
    ∃ after, bench.perform (take (FileStep.createFile (p.join name))) = (.ok (), after)
      ∧ after.Lists p d (Named.set name (.file [] false) entries) := by
  refine ⟨_, ?_, h.put name (.file [] false)⟩
  rw [Bench.perform_take, FileStep.createFile_join hname h.leads.passThrough h.dir, hfault, hfree]

/-- Creating a file under a name that no directory has: what stood there before is emptied. -/
theorem FileWork.createFile_there (hname : IsPlain name) (h : bench.Lists p d entries)
    (hfault : p.joinFault? name = none) (hfile : ∀ own, entries.lookup name ≠ some (.dir own)) :
    ∃ after runnable, bench.perform (take (FileStep.createFile (p.join name))) = (.ok (), after)
      ∧ after.Lists p d (Named.set name (.file [] runnable) entries) := by
  have hcreate := FileStep.createFile_join hname h.leads.passThrough h.dir
  rw [hfault] at hcreate
  rcases hentry : entries.lookup name with _ | ⟨content, runnable⟩ | own
  · rw [hentry] at hcreate
    exact ⟨_, false, Bench.perform_take_ok hcreate, h.put name _⟩
  · rw [hentry] at hcreate
    exact ⟨_, runnable, Bench.perform_take_ok hcreate, h.put name _⟩
  · exact absurd hentry (hfile own)

/-- Filling a file. -/
theorem FileWork.fillFile_there {old : Text.Bytes} {runnable : Bool} (hname : IsPlain name)
    (h : bench.Lists p d entries) (hfault : p.joinFault? name = none)
    (hentry : entries.lookup name = some (.file old runnable)) (content : Text.Bytes) :
    ∃ after, bench.perform (take (FileStep.fillFile (p.join name) content)) = (.ok (), after)
      ∧ after.Lists p d (Named.set name (.file content runnable) entries) := by
  refine ⟨_, ?_, h.put name (.file content runnable)⟩
  rw [Bench.perform_take, FileStep.fillFile_join hname h.leads.passThrough h.dir, hfault, hentry]

/-- Writing a file under a name that is free. -/
theorem FileWork.writeFile_free (hname : IsPlain name) (h : bench.Lists p d entries)
    (hfault : p.joinFault? name = none) (hfree : entries.lookup name = none)
    (content : Text.Bytes) :
    ∃ after, bench.perform (writeFile (p.join name) content) = (.ok (), after)
      ∧ after.Lists p d (Named.set name (.file content false) entries) := by
  obtain ⟨created, hcreate, hcreated⟩ := createFile_free hname h hfault hfree
  obtain ⟨filled, hfill, hfilled⟩ :=
    fillFile_there hname hcreated hfault (Named.lookup_set_self ..) content
  refine ⟨filled, ?_, by rwa [Named.set_set] at hfilled⟩
  rw [writeFile, Bench.perform_bind_ok hcreate, hfill]

/-- Renaming an entry of a directory to a name that is free. -/
theorem FileWork.rename_free {name' : String} {node : Node} (hname : IsPlain name)
    (hname' : IsPlain name') (h : bench.Lists p d entries) (hfault : p.joinFault? name = none)
    (hfault' : p.joinFault? name' = none) (hentry : entries.lookup name = some node)
    (hfree : entries.lookup name' = none) :
    ∃ after, bench.perform (rename (p.join name) (p.join name')) = (.ok (), after)
      ∧ after.Lists p d (Named.set name' node (Named.erase name entries)) := by
  have hbelow : ¬ d ++ [name] <+: d := fun hbegins => by
    have hlength := hbegins.length_le
    rw [List.length_append, List.length_singleton] at hlength
    omega
  refine ⟨bench.stepTo _, ?_, ⟨(h.leads.erase_below (by simp)).put_below (by simp) node,
    Node.get?_put_entry (Node.get?_erase_entry h.dir name) name' node⟩⟩
  rw [rename, Bench.perform_take, FileStep.rename_join_free hname hname' h.leads.passThrough
    h.leads.passThrough h.dir h.dir hfault hfault' hentry hfree hbelow]

/-- Renaming a file of a directory to the name of another, which it takes the place of. -/
theorem FileWork.rename_onto {name' : String} {content old : Text.Bytes} {runnable runnable' : Bool}
    (hname : IsPlain name) (hname' : IsPlain name') (hne : name ≠ name')
    (h : bench.Lists p d entries) (hfault : p.joinFault? name = none)
    (hfault' : p.joinFault? name' = none)
    (hentry : entries.lookup name = some (.file content runnable))
    (htaken : entries.lookup name' = some (.file old runnable')) :
    ∃ after, bench.perform (rename (p.join name) (p.join name')) = (.ok (), after)
      ∧ after.Lists p d (Named.set name' (.file content runnable) (Named.erase name entries)) := by
  have hbelow : ∀ other : String, (d ++ [other]).isPrefixOf d = false := by
    intro other
    refine Bool.eq_false_iff.mpr fun hbegins => ?_
    have hlength := (List.isPrefixOf_iff_prefix.mp hbegins).length_le
    rw [List.length_append, List.length_singleton] at hlength
    omega
  refine ⟨bench.stepTo _, ?_, ⟨(h.leads.erase_below (by simp)).put_below (by simp) _,
    Node.get?_put_entry (Node.get?_erase_entry h.dir name) name' _⟩⟩
  rw [rename, Bench.perform_take, FileStep.rename_join hname hname' h.leads.passThrough
    h.leads.passThrough h.dir h.dir hfault hfault' hentry, htaken]
  simp [FileStep.moveTo, hbelow, hne, Node.isDir, Node.isFile, Node.entries]

end Files

/-- What is written into the directory of a test when it is made. -/
def fillTest (directory : Path) (header : List String) (front : String) (scenario : Scenario) :
    Work Unit := do
  scenario.write (directory.join scenarioName) header
  (FileWork.writeFile (directory.join prefixName) (Text.encode front)).reportedAs .ofFault

/-- The entries of the directory of a test that waits. -/
def testEntries (header : List String) (front : String) (scenario : Scenario) :
    List (String × Node) :=
  [(scenarioName, .file (scenario.tableBytes header) false),
    (prefixName, .file (Text.encode front) false)]

section Fresh

variable {q : Path} {d : Place} {name : String} {bench : Bench}

/-- Writing the scenario file of a test into an empty directory. It succeeds if the record has just
the names of the header and the path of the draft is accepted, and then the file is all that stands
there. -/
theorem Scenario.write_fresh (hname : IsPlain name) (h : bench.Lists (q.join name) d [])
    (header : List String) (record : Scenario) :
    (∃ failure after, bench.perform (record.write ((q.join name).join scenarioName) header)
          = (.error failure, after)
        ∧ ¬ (record.names = header ∧ (q.join name).joinFault? (draftName scenarioName) = none))
      ∨ ∃ after, bench.perform (record.write ((q.join name).join scenarioName) header)
          = (.ok (), after)
        ∧ (record.names = header ∧ (q.join name).joinFault? (draftName scenarioName) = none)
        ∧ after.Lists (q.join name) d
          [(scenarioName, .file (record.tableBytes header) false)] := by
  rw [write_eq hname]
  by_cases hnames : record.names = header
  case neg =>
    obtain ⟨failure, hcheck⟩ : ∃ failure,
        record.checkNames ((q.join name).join scenarioName) header = .error failure :=
      ⟨_, if_neg hnames⟩
    refine .inl ⟨failure, bench, ?_, fun hboth => hnames hboth.1⟩
    rw [hcheck, Bench.perform_bind_error (Bench.perform_ofExcept bench _)]
  have hcheck : record.checkNames ((q.join name).join scenarioName) header = .ok () :=
    if_pos hnames
  -- No header is remembered for a file that is not there.
  have hknown : checkKnownHeader ((q.join name).join scenarioName) header bench = .ok () := by
    obtain ⟨fault, hmissing⟩ :=
      Path.place_join_missing scenarioName_isPlain h.leads.passThrough h.dir rfl
    have hplace : bench.placeAt ((q.join name).join scenarioName) = .error fault := hmissing
    rw [checkKnownHeader, hplace]
  rw [hcheck, Bench.perform_bind_ok (Bench.perform_ofExcept bench _),
    Bench.perform_bind_ok (Bench.perform_get bench), hknown,
    Bench.perform_bind_ok (Bench.perform_ofExcept bench _)]
  cases hfault : (q.join name).joinFault? (draftName scenarioName) with
  | some fault =>
    have hcreate : bench.perform
        (FileWork.take (FileStep.createFile ((q.join name).join (draftName scenarioName))))
        = (.error fault, bench) := by
      rw [Bench.perform_take, FileStep.createFile_join draftName_isPlain h.leads.passThrough h.dir,
        hfault]
    refine .inl ⟨.ofTableFault fault, bench, ?_, fun hboth => by cases hboth.2⟩
    exact Bench.perform_bind_error (Bench.perform_reportedAs_error hcreate _) _
  | none =>
    have hfault' : (q.join name).joinFault? scenarioName = none :=
      Path.joinFault?_le scenarioName_isPlain draftName_isPlain (by decide) (by decide) hfault
    -- The draft is created and filled, and it takes the place of the file.
    obtain ⟨created, hcreate, hcreated⟩ :=
      FileWork.createFile_free draftName_isPlain h hfault rfl
    obtain ⟨filled, hfill, hfilled⟩ := FileWork.fillFile_there draftName_isPlain hcreated hfault
      (Named.lookup_set_self ..) (record.tableBytes header)
    have hne : scenarioName ≠ draftName scenarioName := by decide
    have hfree : (Named.set (draftName scenarioName) (Node.file (record.tableBytes header) false)
        (Named.set (draftName scenarioName) (.file [] false) [])).lookup scenarioName = none := by
      rw [Named.set_set, Named.lookup_set_of_ne hne]
      rfl
    obtain ⟨moved, hmove, hmoved⟩ := FileWork.rename_free draftName_isPlain scenarioName_isPlain
      hfilled hfault hfault' (Named.lookup_set_self ..) hfree
    rw [Named.erase_set, Named.erase_set] at hmoved
    have hplace : moved.placeAt ((q.join name).join scenarioName) = .ok (d ++ [scenarioName]) :=
      Path.place_join scenarioName_isPlain hmoved.leads.passThrough hmoved.dir hfault'
        (Named.lookup_set_self ..)
    refine .inr ⟨{ moved with headers := moved.headers.insert (d ++ [scenarioName]) header }, ?_,
      ⟨hnames, rfl⟩, hmoved.leads, hmoved.dir⟩
    rw [Bench.perform_bind_ok (Bench.perform_reportedAs_ok hcreate _),
      Bench.perform_bind_ok (Bench.perform_reportedAs_ok hfill _),
      Bench.perform_bind_ok (Bench.perform_reportedAs_ok hmove _), Bench.perform_bind,
      Bench.perform_reportedAs, Bench.perform_look, hplace]
    rfl

/-- Filling an empty directory for a test. -/
theorem fillTest_fresh (hname : IsPlain name) (h : bench.Lists (q.join name) d [])
    (header : List String) (front : String) (scenario : Scenario) :
    (∃ failure after, bench.perform (fillTest (q.join name) header front scenario)
          = (.error failure, after)
        ∧ ¬ (scenario.names = header
          ∧ (q.join name).joinFault? (Scenario.draftName scenarioName) = none))
      ∨ ∃ after, bench.perform (fillTest (q.join name) header front scenario) = (.ok (), after)
        ∧ (scenario.names = header
          ∧ (q.join name).joinFault? (Scenario.draftName scenarioName) = none)
        ∧ after.Lists (q.join name) d (testEntries header front scenario) := by
  rcases Scenario.write_fresh hname h header scenario with
    ⟨failure, after, hwrite, hnot⟩ | ⟨written, hwrite, haccepted, hwritten⟩
  · exact .inl ⟨failure, after, Bench.perform_bind_error hwrite _, hnot⟩
  · have hfault : (q.join name).joinFault? prefixName = none :=
      Path.joinFault?_le prefixName_isPlain draftName_isPlain (by decide) (by decide) haccepted.2
    obtain ⟨after, hfront, hafter⟩ :=
      FileWork.writeFile_free prefixName_isPlain hwritten hfault rfl (Text.encode front)
    refine .inr ⟨after, ?_, haccepted, hafter⟩
    exact (Bench.perform_bind_ok hwrite _).trans (Bench.perform_reportedAs_ok hfront _)

end Fresh

end BootTrial
