import BootTrial.Proofs.Headers
import BootTrial.Proofs.Tending

/-!
# Loading a test

A run begins with loading its test. Of an intact test the boot id and the front of the names of the
logs can always be had, as long as the paths of the files are not refused: what cannot be read from
its file is in the name of the directory. So the test is loaded if and only if its scenario file
can be read (`Trial.load_isOk_iff`). This file is as it was written, but it may be missing while the
test is torn (`Node.HasIntact.legible_or`).
-/

namespace BootTrial

open Text (Bytes)

namespace Node

/-- The scenario file in the directory at a place holds a record that can be read. -/
def IsLegible (root : Node) (d : Place) : Prop :=
  ∃ content runnable header scenario,
    root.get? (d ++ [scenarioName]) = some (.file content runnable)
      ∧ Scenario.IsRead content header scenario

/-- The scenario file of an intact test can be read, unless it is missing, which it is only if the
test is torn, or the first name in it begins with a byte order mark. -/
theorem HasIntact.legible_or {root : Node} {d : Place} {torn : Prop} (h : root.HasIntact d torn) :
    root.IsLegible d ∨ torn ∧ root.get? (d ++ [scenarioName]) = none
      ∨ ∃ (record : Scenario) (runnable : Bool), record.IsMarked
        ∧ root.get? (d ++ [scenarioName])
          = some (.file (record.tableBytes record.names) runnable) := by
  obtain ⟨entries, hentries, hintact⟩ := h
  cases hlookup : entries.lookup scenarioName with
  | none =>
    refine .inr (.inl ⟨?_, by rw [get?_snoc hentries, hlookup]⟩)
    rcases hintact.sheet with htorn | ⟨node, hnode⟩
    · exact htorn
    · rw [hlookup] at hnode
      cases hnode
  | some node =>
    obtain ⟨record, runnable, rfl, hnodup, hnamed⟩ := (hintact.proper _ _ hlookup).sheet rfl
    have hfile : root.get? (d ++ [scenarioName])
        = some (.file (record.tableBytes record.names) runnable) := by
      rw [get?_snoc hentries, hlookup]
    by_cases hmark : record.IsMarked
    · exact .inr (.inr ⟨record, runnable, hmark, hfile⟩)
    · exact .inl ⟨_, runnable, _, record, hfile,
        Scenario.isRead_tableBytes hnodup hnamed (Scenario.losesMark_of_not_isMarked hmark)⟩

end Node

/-- The path of a file of a test is not refused if that of its scenario file is not, which has a
longer name. -/
theorem Path.joinFault?_of_scenario {q : Path} {name other : String} (hname : IsPlain name)
    (hother : IsPlain other) (hsize : other.utf8ByteSize ≤ scenarioName.utf8ByteSize)
    (hnul : '\x00' ∉ other.toList)
    (h : ((q.join name).join scenarioName).refusal? = none) :
    (q.join name).joinFault? other = none := by
  have hlimit : scenarioName.utf8ByteSize ≤ nameLimit := by decide
  refine joinFault?_eq_none.mpr ⟨refusal?_of_le h ?_ fun c hc => ?_, Nat.le_trans hsize hlimit⟩
  · rw [text_join_join _ hname hother, text_join_join _ hname scenarioName_isPlain]
    simp only [String.utf8ByteSize_append]
    omega
  · rw [text_join_join _ hname hother] at hc
    rw [text_join_join _ hname scenarioName_isPlain]
    simp only [String.toList_append, List.mem_append] at hc ⊢
    rcases hc with (hc | hc) | hc
    · exact .inl (.inl (.inl hc))
    · exact .inl (.inl (.inr hc))
    · refine .inr ?_
      rintro rfl
      exact hnul hc

section Files

variable {p q : Path} {d : Place} {name : String} {bench : Bench} {torn : Prop}
  {kind : String → Prop}

/-- What is read of a file that holds text, if it is there. -/
theorem Bench.textAt_of_holdsText (hname : IsPlain name) (hp : p.Leads bench.files bench.here d)
    (hfault : p.joinFault? name = none)
    (htext : ∀ node, bench.files.get? (d ++ [name]) = some node → node.HoldsText kind) :
    (∃ text, bench.textAt (p.join name) = .ok text)
      ∨ bench.textAt (p.join name) = .error .notFound := by
  obtain ⟨entries, hentries⟩ := hp.dir
  have hnode : bench.nodeAt (p.join name) = _ := Path.node_join hname hp.passThrough hentries
  rw [hfault] at hnode
  rw [Node.get?_snoc hentries] at htext
  cases hlookup : entries.lookup name with
  | none =>
    rw [hlookup] at hnode
    exact .inr (by rw [textAt, bytesAt, hnode])
  | some node =>
    obtain ⟨content, runnable, text, rfl, hdecode, -⟩ := htext node hlookup
    rw [hlookup] at hnode
    exact .inl ⟨text, by simp only [textAt, bytesAt, hnode, hdecode]⟩

/-- The boot id of a test is read, or found to be missing. -/
theorem storedBoot_ok (hp : p.Leads bench.files bench.here d)
    (hfault : p.joinFault? bootIdName = none)
    (htext : ∀ node, bench.files.get? (d ++ [bootIdName]) = some node → node.HoldsText kind) :
    ∃ stored, bench.perform (storedBoot p) = (.ok stored, bench) := by
  rw [perform_storedBoot]
  rcases Bench.textAt_of_holdsText bootIdName_isPlain hp hfault htext with ⟨text, hraw⟩ | hraw
  all_goals rw [hraw]; exact ⟨_, rfl⟩

/-- The boot id of a test is written where no directory is in the way. -/
theorem bindTo_ok (hp : p.Leads bench.files bench.here d)
    (hfault : p.joinFault? bootIdName = none)
    (htext : ∀ node, bench.files.get? (d ++ [bootIdName]) = some node → node.HoldsText kind)
    (boot : BootId) : ∃ after, bench.perform (bindTo p boot) = (.ok (), after) := by
  obtain ⟨entries, hentries⟩ := hp.dir
  obtain ⟨runnable, hcreate⟩ : ∃ runnable,
      FileStep.createFile (p.join bootIdName) bench.files bench.here
        = .ok (bench.files.put (.file [] runnable) (d ++ [bootIdName])) := by
    rw [FileStep.createFile_join bootIdName_isPlain hp.passThrough hentries, hfault]
    rw [Node.get?_snoc hentries] at htext
    cases hlookup : entries.lookup bootIdName with
    | none => exact ⟨false, rfl⟩
    | some node =>
      obtain ⟨content, runnable, text, rfl, -⟩ := htext node hlookup
      exact ⟨runnable, rfl⟩
  have hp' : p.Leads (bench.files.put (.file [] runnable) (d ++ [bootIdName])) bench.here d :=
    hp.put_below (by simp) _
  have hentries' := Node.get?_put_entry hentries bootIdName (.file [] runnable)
  obtain ⟨files, hfill⟩ : ∃ files, FileStep.fillFile (p.join bootIdName) (Text.encode boot.text)
      (bench.files.put (.file [] runnable) (d ++ [bootIdName])) bench.here = .ok files := by
    rw [FileStep.fillFile_join bootIdName_isPlain hp'.passThrough hentries', hfault,
      Named.lookup_set_self]
    exact ⟨_, rfl⟩
  have hwrite : bench.perform (FileWork.writeFile (p.join bootIdName) (Text.encode boot.text))
      = (.ok (), Bench.stepTo (bench.stepTo
          (bench.files.put (.file [] runnable) (d ++ [bootIdName]))) files) := by
    rw [FileWork.writeFile, Bench.perform_bind_ok (Bench.perform_take_ok hcreate)]
    exact Bench.perform_take_ok hfill
  exact ⟨_, Bench.perform_reportedAs_ok hwrite .ofFault⟩

/-- The boot is found that a test is bound to by its name at least. -/
theorem boundBoot_ok (hname : IsPlain name) (hp : (q.join name).Leads bench.files bench.here d)
    (hfault : (q.join name).joinFault? bootIdName = none)
    (htext : ∀ node, bench.files.get? (d ++ [bootIdName]) = some node → node.HoldsText kind)
    (hbound : ∃ boot, bootOfName? name = some boot) :
    ∃ boot after, bench.perform (boundBoot (q.join name)) = (.ok boot, after) := by
  obtain ⟨stored, hstored⟩ := storedBoot_ok hp hfault htext
  rw [boundBoot, Bench.perform_bind_ok hstored]
  cases stored with
  | some boot => exact ⟨boot, bench, rfl⟩
  | none =>
    obtain ⟨boot, hboot⟩ := hbound
    obtain ⟨after, hbind⟩ := bindTo_ok hp hfault htext boot
    refine ⟨boot, after, ?_⟩
    simp only [directoryName_join _ hname]
    rw [Bench.perform_bind_ok (Bench.perform_ofExcept bench _)]
    simp only [hboot]
    rw [Bench.perform_bind_ok hbind]
    rfl

/-- The front of the names of the logs of a test is found, in the name of its directory at least. -/
theorem logFrontOf_isOk (hname : IsPlain name) (hp : (q.join name).Leads bench.files bench.here d)
    (hfault : (q.join name).joinFault? prefixName = none)
    (htext : ∀ node, bench.files.get? (d ++ [prefixName]) = some node → node.HoldsText kind) :
    ∃ front, bench.perform (logFrontOf (q.join name)) = (.ok front, bench) := by
  obtain ⟨stored, hstored⟩ :
      ∃ stored, bench.perform (storedFront (q.join name)) = (.ok stored, bench) := by
    rw [perform_storedFront]
    rcases Bench.textAt_of_holdsText prefixName_isPlain hp hfault htext with ⟨text, hraw⟩ | hraw
    all_goals rw [hraw]; exact ⟨_, rfl⟩
  rw [logFrontOf, Bench.perform_bind_ok hstored]
  cases stored with
  | some front => exact ⟨front, rfl⟩
  | none =>
    simp only [directoryName_join _ hname]
    exact ⟨_, rfl⟩

end Files

namespace Trial

variable {settings : Settings} {machine : Machine} {q : Path} {w : Place} {name : String}
  {bench : Bench} {torn : Prop}

/-- An intact test that is bound to a boot by its name is loaded with a scenario by a program that
remembers no header for its scenario file if and only if this is read of the file, and the path of
the file is not refused. -/
theorem load_reads_iff (settings : Settings) (hmachine : machine.WritesOnlyLogs)
    (hnames : machine.NamesBoot) (hname : IsPlain name)
    (hp : (q.join name).Leads bench.files bench.here (Root.running.place w ++ [name]))
    (hintact : bench.files.HasIntact (Root.running.place w ++ [name]) torn)
    (hbound : ∃ boot, bootOfName? name = some boot)
    (hunknown : bench.headers.get? (Root.running.place w ++ [name] ++ [scenarioName]) = none)
    (scenario : Scenario) :
    (∃ trial, (bench.perform (load settings machine (q.join name))).1 = .ok trial
        ∧ trial.scenario = scenario)
      ↔ ((q.join name).join scenarioName).refusal? = none
        ∧ ∃ content runnable header,
          bench.files.get? (Root.running.place w ++ [name] ++ [scenarioName])
            = some (.file content runnable)
          ∧ Scenario.IsRead content header scenario := by
  have htends : bench.Tends (q.join name) w name torn (bench.perform (boundBoot (q.join name))).2 :=
    boundBoot_tends hname bench
  have hstill : (bench.perform (boundBoot (q.join name))).2.files.HasIntact
      (Root.running.place w ++ [name]) torn := (htends hp).files.intact hintact
  clear htends
  generalize Root.running.place w ++ [name] = d at *
  -- What precedes the reading of the scenario leaves its file alone.
  have hstays : Keeps (Bench.StaysIn (q.join name) d IsFixed Event.IsPreparatory)
      (boundBoot (q.join name)) :=
    boundBoot_staysIn (by simp [IsFixed, bootIdName, scenarioName, prefixName]) trivial
  have hask : Keeps (Bench.Quiet fun _ => True) (machine.ask .currentBoot) :=
    hmachine.ask_quiet rfl trivial trivial
  have hfile : ∀ (asked : Bench) {bound : Bench} {boot : BootId},
      bench.perform (boundBoot (q.join name)) = (.ok boot, bound) →
      (bound.perform (machine.ask .currentBoot)).2 = asked →
      (q.join name).Leads asked.files asked.here d
        ∧ asked.files.get? (d ++ [scenarioName]) = bench.files.get? (d ++ [scenarioName]) := by
    intro asked bound boot hboot hasked
    have hinside := hstays bench hp
    have hquiet := hask bound
    rw [hboot] at hinside
    rw [hasked] at hquiet
    rw [hquiet.files, hquiet.here]
    exact ⟨hinside.leads hp, hinside.files.get?_kept (.inl rfl)⟩
  constructor
  · rintro ⟨trial, h, rfl⟩
    obtain ⟨boot, bound, hboot, h⟩ := Bench.perform_bind_inv (Bench.perform_eq h)
    obtain ⟨currentBoot, asked, hcurrent, h⟩ := Bench.perform_bind_inv h
    obtain ⟨front, fronted, hfront, h⟩ := Bench.perform_bind_inv h
    obtain ⟨scenario, last, hscenario, h⟩ := Bench.perform_bind_inv h
    obtain ⟨hp', hsame⟩ := hfile asked hboot (by rw [hcurrent])
    have hunmoved : Bench.Unmoved asked (asked.perform (logFrontOf (q.join name))).2 :=
      logFrontOf_keeps _ asked
    rw [hfront] at hunmoved
    have hp'' : (q.join name).Leads fronted.files fronted.here d := by
      rw [hunmoved.files, hunmoved.here]
      exact hp'
    obtain ⟨hfault, content, runnable, header, hget, hread, -⟩ := Scenario.read_ok hp'' hscenario
    rw [hunmoved.files, hsame] at hget
    cases h
    exact ⟨(Path.joinFault?_eq_none.mp hfault).1, content, runnable, header, hget, hread⟩
  · rintro ⟨hrefusal, content, runnable, header, hget, hread⟩
    have hfault : ∀ {other : String}, IsPlain other →
        other.utf8ByteSize ≤ scenarioName.utf8ByteSize → '\x00' ∉ other.toList →
        (q.join name).joinFault? other = none := fun hother hsize hnul =>
      Path.joinFault?_of_scenario hname hother hsize hnul hrefusal
    obtain ⟨entries, hentries, hproper⟩ := id hintact
    obtain ⟨boot, bound, hboot⟩ := boundBoot_ok hname hp
      (hfault bootIdName_isPlain (by decide) (by decide)) (fun node hnode => by
        rw [Node.get?_snoc hentries] at hnode
        exact (hproper.proper _ _ hnode).boot rfl) hbound
    obtain ⟨currentBoot, hcurrent⟩ := hnames.named bound
    have hasked := Bench.perform_eq hcurrent
    have hquiet := hask bound
    have hheaders : (bound.perform (machine.ask .currentBoot)).2.headers.get? (d ++ [scenarioName])
        = none := by
      have hbound' := boundBoot_keeps (Bench.LeavesUnknown.stepTo (d ++ [scenarioName]))
        (q.join name) bench hunknown
      rw [hboot] at hbound'
      rw [hnames.headers]
      exact hbound'
    obtain ⟨hp', hsame⟩ := hfile (bound.perform (machine.ask .currentBoot)).2 hboot rfl
    generalize (bound.perform (machine.ask .currentBoot)).2 = asked at *
    -- The test is intact still.
    obtain ⟨own, hown, hproper'⟩ : asked.files.HasIntact d torn := by
      rw [hquiet.files]
      rwa [hboot] at hstill
    obtain ⟨front, hfront⟩ := logFrontOf_isOk hname hp'
      (hfault prefixName_isPlain (by decide) (by decide)) fun node hnode => by
        rw [Node.get?_snoc hown] at hnode
        exact (hproper'.proper _ _ hnode).front rfl
    have hscenario := Scenario.read_of_isRead hp'
      (hfault scenarioName_isPlain (Nat.le_refl _) (by decide)) (hsame.trans hget) hread hheaders
      false
    rw [load, Bench.perform_bind_ok hboot, Bench.perform_bind_ok hasked,
      Bench.perform_bind_ok hfront, Bench.perform_bind_ok (Bench.perform_eq hscenario)]
    exact ⟨_, rfl, rfl⟩

/-- Such a test is loaded if and only if its scenario file can be read, and the path of the file is
not refused. -/
theorem load_isOk_iff (settings : Settings) (hmachine : machine.WritesOnlyLogs)
    (hnames : machine.NamesBoot) (hname : IsPlain name)
    (hp : (q.join name).Leads bench.files bench.here (Root.running.place w ++ [name]))
    (hintact : bench.files.HasIntact (Root.running.place w ++ [name]) torn)
    (hbound : ∃ boot, bootOfName? name = some boot)
    (hunknown : bench.headers.get? (Root.running.place w ++ [name] ++ [scenarioName]) = none) :
    (∃ trial, (bench.perform (load settings machine (q.join name))).1 = .ok trial)
      ↔ ((q.join name).join scenarioName).refusal? = none
        ∧ bench.files.IsLegible (Root.running.place w ++ [name]) := by
  have hreads := load_reads_iff settings hmachine hnames hname hp hintact hbound hunknown
  constructor
  · rintro ⟨trial, h⟩
    obtain ⟨hrefusal, content, runnable, header, hread⟩ :=
      (hreads trial.scenario).mp ⟨trial, h, rfl⟩
    exact ⟨hrefusal, content, runnable, header, trial.scenario, hread⟩
  · rintro ⟨hrefusal, content, runnable, header, scenario, hread⟩
    obtain ⟨trial, h, -⟩ := (hreads scenario).mpr ⟨hrefusal, content, runnable, header, hread⟩
    exact ⟨trial, h⟩

end Trial

end BootTrial
