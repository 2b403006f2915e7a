import BootTrial.Proofs.Parties

/-!
# What happens before the operator is called

`Trial.prepare` is the part of a run in front of the operator: the test is loaded, its menu is
compiled and the logs are captured. It changes nothing but the directory of the test, where it
leaves the scenario and the front of the names of the logs alone (`Trial.prepare_staysIn`).

For the logs to go into the directory of the test this front must not hold a slash
(`Node.HasPlainFront`); the front that enrollment writes does not.
-/

namespace BootTrial

/-- A name in which some character that is no dot stands in front and no slash at all. -/
theorem isPlain_of_cons {name : String} {c : Char} {rest : List Char}
    (h : name.toList = c :: rest) (hdot : c ≠ '.') (hslash : '/' ∉ name.toList) :
    IsPlain name := by
  refine ⟨?_, ?_, ?_, hslash⟩
  · rintro rfl
    simp at h
  · rintro rfl
    simp only [String.reduceToList, List.cons.injEq] at h
    exact hdot h.1.symm
  · rintro rfl
    simp only [String.reduceToList, List.cons.injEq] at h
    exact hdot h.1.symm

/-- A name with more than two characters and no slash. -/
theorem isPlain_of_length {name : String} (h : 2 < name.toList.length)
    (hslash : '/' ∉ name.toList) : IsPlain name := by
  refine ⟨?_, ?_, ?_, hslash⟩
  all_goals
    rintro rfl
    simp at h

theorem scenarioName_isPlain : IsPlain scenarioName := isPlain_of_length (by decide) (by decide)

theorem bootIdName_isPlain : IsPlain bootIdName := isPlain_of_length (by decide) (by decide)

theorem prefixName_isPlain : IsPlain prefixName := isPlain_of_length (by decide) (by decide)

theorem draftName_isPlain : IsPlain (Scenario.draftName scenarioName) :=
  isPlain_of_length (by decide) (by decide)

namespace Path

/-- A plain name is a step. -/
theorem isIdle_of_isPlain {name : String} (h : IsPlain name) : isIdle name = false := by
  simp [isIdle, h.ne_empty, h.ne_dot]

/-- The name at the end of a joined path. -/
theorem fileName?_join (p : Path) {name : String} (h : IsPlain name) :
    (p.join name).fileName? = some name := by
  simp [fileName?, steps, p.segments_join h, List.filter_append, isIdle_of_isPlain h, h.ne_dotDot]

/-- A joined path does not end in an empty segment. -/
theorem front_join (p : Path) {name : String} (h : IsPlain name) :
    (p.join name).front = p.front ++ [name] := by
  simp [front.eq_def (p.join name), p.segments_join h, h.ne_empty]

/-- The neighbour of what lies in a directory lies in it, too. -/
theorem sibling_join (p : Path) {name other neighbour : String} (h : IsPlain name)
    (hother : IsPlain other) (hneighbour : IsPlain neighbour) :
    ((p.join name).join other).sibling neighbour = (p.join name).join neighbour := by
  have htrim : trimEnd (p.front ++ [name]) = p.front ++ [name] := by
    cases p.front with
    | nil => rfl
    | cons first rest => simp [trimEnd, isIdle_of_isPlain h]
  have hstem : ((p.join name).join other).stem = p.front ++ [name] := by
    rw [stem, (p.join name).segments_join hother, p.front_join h]
    simp [isIdle_of_isPlain hother, htrim]
  rw [sibling, hstem, ← p.front_join h, ← (p.join name).segments_join hneighbour]

end Path

/-- The name of a directory that a joined path leads to. -/
theorem directoryName_join (p : Path) {name : String} (h : IsPlain name) :
    directoryName (p.join name) = .ok name := by
  rw [directoryName, p.fileName?_join h]

/-- The front of the names of the logs that is written down in a directory has no slash in it. -/
def Node.HasPlainFront (root : Node) (d : Place) : Prop :=
  ∀ content runnable text, root.get? (d ++ [prefixName]) = some (.file content runnable) →
    Text.decode? content = some text → '/' ∉ text.toList

/-- The names in the directory of a test that nobody writes before the operator is asked. -/
def IsFixed (name : String) : Prop :=
  name = scenarioName ∨ name = prefixName

/-- The front of the names of logs stays where nothing is written under fixed names. -/
theorem Node.HasPlainFront.inside {before after : Node} {d : Place} {keep : String → Prop}
    (h : before.HasPlainFront d) (hinside : Node.Inside d keep before after)
    (hkeep : keep prefixName) : after.HasPlainFront d := by
  intro content runnable text hfile
  rw [hinside.get?_kept hkeep] at hfile
  exact h content runnable text hfile

/-- The events before the operator is called. -/
def Event.IsPreparatory : Event → Prop
  | .changed | .asked .currentBoot | .asked (.captureKernelLog _ _) | .asked (.sleepCycle _) => True
  | .asked (.announce _) | .asked .sync | .asked .reboot | .presented _ _ => False

section Directory

variable {p : Path} {d : Place} {keep : String → Prop} {kind : Event → Prop}

/-- Writing the boot id of a test. -/
theorem bindTo_staysIn (hkeep : ¬ keep bootIdName) (hkind : kind .changed) (boot : BootId) :
    Keeps (Bench.StaysIn p d keep kind) (bindTo p boot) :=
  (FileWork.writeFile_staysIn bootIdName_isPlain hkeep hkind _).reportedAs _

/-- Finding the boot that a test is bound to. -/
theorem boundBoot_staysIn (hkeep : ¬ keep bootIdName) (hkind : kind .changed) :
    Keeps (Bench.StaysIn p d keep kind) (boundBoot p) := by
  unfold boundBoot
  refine (storedBoot_keeps p).bind fun stored => ?_
  split
  · exact Keeps.pure _
  · refine (Keeps.ofExcept _).bind fun name => ?_
    split
    · exact Keeps.throw _
    · exact (bindTo_staysIn hkeep hkind _).bind fun _ => Keeps.pure _

/-- A text has the characters of the text between its white space. -/
theorem mem_of_mem_trim {s : String} {c : Char} (h : c ∈ (Text.trim s).toList) : c ∈ s.toList := by
  simp only [Text.trim, Text.dropTrailing, Text.dropLeading, String.toList_ofList,
    List.mem_reverse] at h
  have h' := (List.dropWhile_sublist _).mem h
  rw [List.mem_reverse] at h'
  exact (List.dropWhile_sublist _).mem h'

/-- What stands in front of a separator is part of the whole. -/
theorem mem_of_mem_beforeSeparator {cs : List Char} {c : Char} (h : c ∈ beforeSeparator cs) :
    c ∈ cs := by
  fun_induction beforeSeparator cs with
  | case1 => simp at h
  | case2 first rest _ ih =>
    rcases List.mem_cons.mp h with rfl | h
    · exact List.mem_cons_self
    · exact List.mem_cons_of_mem _ (ih h)
  | case3 => exact h

/-- What is read of the file for the boot id. -/
theorem perform_storedBoot (p : Path) (bench : Bench) :
    bench.perform (storedBoot p) = match bench.textAt (p.join bootIdName) with
      | .ok raw => (.ok (BootId.parse? raw), bench)
      | .error .notFound => (.ok none, bench)
      | .error fault => (.error (.unreadable (p.join bootIdName) fault), bench) := by
  have hread : bench.perform (FileWork.look (·.textAt (p.join bootIdName))).outcome
      = (.ok (bench.textAt (p.join bootIdName)), bench) := by
    rw [Bench.perform_fileOutcome, Bench.perform_look]
  rw [storedBoot, Bench.perform_bind_ok hread]
  rcases bench.textAt (p.join bootIdName) with fault | raw
  · cases fault <;> rfl
  · rfl

/-- What is read of the file for the front of the names of the logs. -/
theorem perform_storedFront (p : Path) (bench : Bench) :
    bench.perform (storedFront p) = match bench.textAt (p.join prefixName) with
      | .ok raw => (.ok (if Text.trim raw = "" then none else some (Text.trim raw)), bench)
      | .error .notFound => (.ok none, bench)
      | .error fault => (.error (.unreadable (p.join prefixName) fault), bench) := by
  have hread : bench.perform (FileWork.look (·.textAt (p.join prefixName))).outcome
      = (.ok (bench.textAt (p.join prefixName)), bench) := by
    rw [Bench.perform_fileOutcome, Bench.perform_look]
  rw [storedFront, Bench.perform_bind_ok hread]
  rcases bench.textAt (p.join prefixName) with fault | raw
  · cases fault <;> rfl
  · rfl

/-- The front that is written down is that of a text. -/
theorem storedFront_ok {bench after : Bench} {stored : String}
    (h : bench.perform (storedFront p) = (.ok (some stored), after)) :
    ∃ raw, bench.textAt (p.join prefixName) = .ok raw ∧ stored = Text.trim raw := by
  rw [perform_storedFront] at h
  split at h
  · rename_i raw hraw
    refine ⟨raw, hraw, ?_⟩
    simp only [Prod.mk.injEq, Except.ok.injEq] at h
    by_cases hblank : Text.trim raw = ""
    · simp [hblank] at h
    · rw [if_neg hblank] at h
      exact (Option.some.inj h.1).symm
  · cases h
  · cases h

/-- The front of the names of the logs has no slash in it. -/
theorem logFrontOf_ok {q : Path} {name : String} {bench after : Bench} {front : String}
    (hname : IsPlain name) (hp : (q.join name).Leads bench.files bench.here d)
    (hfront : bench.files.HasPlainFront d)
    (h : bench.perform (logFrontOf (q.join name)) = (.ok front, after)) : '/' ∉ front.toList := by
  obtain ⟨stored, middle, hstored, h⟩ := Bench.perform_bind_inv h
  cases stored with
  | some stored =>
    cases h
    obtain ⟨raw, hraw, rfl⟩ := storedFront_ok hstored
    obtain ⟨entries, hentries⟩ := hp.dir
    obtain ⟨content, runnable, hnode, htext⟩ :=
      Bench.textAt_join_ok prefixName_isPlain hp.passThrough hentries hraw
    rw [← Node.get?_snoc hentries] at hnode
    exact fun hslash => hfront content runnable raw hnode htext (mem_of_mem_trim hslash)
  | none =>
    simp only [directoryName_join q hname] at h
    cases h
    rw [String.toList_ofList]
    exact fun hslash => hname.noSlash (mem_of_mem_beforeSeparator hslash)

end Directory

namespace Trial

/-- What a run does before it calls the operator. -/
def prepare (settings : Settings) (machine : Machine) (directory : Path) : Work (Trial × Menu) := do
  let trial ← load settings machine directory
  let menu ← settings.menu trial.conditions
  trial.captureLogs machine
  return (trial, menu)

/-- A trial as it is when it has been loaded. -/
structure IsLoaded (settings : Settings) (directory : Path) (trial : Trial) : Prop where
  /-- It is the test in the directory. -/
  directory : trial.directory = directory
  /-- It will go to the results of the workspace. -/
  results : trial.results = settings.workspace.results
  /-- It is open. -/
  isOpen : trial.isClosed = false

variable {settings : Settings} {machine : Machine} {p q : Path} {d : Place} {name : String}
  {bench after : Bench} {trial : Trial} {menu : Menu}

/-- Loading a test changes nothing but its directory. -/
theorem load_staysIn (settings : Settings) (hmachine : machine.WritesOnlyLogs) :
    Keeps (Bench.StaysIn p d IsFixed Event.IsPreparatory) (load settings machine p) := by
  unfold load
  refine (boundBoot_staysIn (by simp [IsFixed, bootIdName, scenarioName, prefixName])
    trivial).bind fun boot => ?_
  have hask : Keeps (Bench.Quiet Event.IsPreparatory) (machine.ask .currentBoot) :=
    hmachine.ask_quiet rfl trivial trivial
  refine (hask.imp Bench.StaysIn.of_quiet).bind fun currentBoot => ?_
  refine (logFrontOf_keeps p).bind fun front => ?_
  exact ((Scenario.read_unmoved _ _).imp Bench.StaysIn.of_unmoved).bind fun _ => Keeps.pure _

/-- What has been loaded. -/
theorem load_ok (hmachine : machine.WritesOnlyLogs) (hname : IsPlain name)
    (hp : (q.join name).Leads bench.files bench.here d) (hfront : bench.files.HasPlainFront d)
    (h : bench.perform (load settings machine (q.join name)) = (.ok trial, after)) :
    IsLoaded settings (q.join name) trial ∧ '/' ∉ trial.logFront.toList := by
  obtain ⟨boot, bench₁, hboot, h⟩ := Bench.perform_bind_inv h
  obtain ⟨currentBoot, bench₂, hcurrent, h⟩ := Bench.perform_bind_inv h
  obtain ⟨front, bench₃, hfrontOf, h⟩ := Bench.perform_bind_inv h
  obtain ⟨scenario, bench₄, hscenario, h⟩ := Bench.perform_bind_inv h
  cases h
  refine ⟨⟨rfl, rfl, rfl⟩, ?_⟩
  -- The front is read after the boot id has been written back and the machine has been asked.
  have hbound : Keeps (Bench.StaysIn (q.join name) d IsFixed Event.IsPreparatory)
      (boundBoot (q.join name)) :=
    boundBoot_staysIn (by simp [IsFixed, bootIdName, scenarioName, prefixName]) trivial
  have hinside₁ := hbound bench hp
  rw [hboot] at hinside₁
  have hask : Keeps (Bench.Quiet Event.IsPreparatory) (machine.ask .currentBoot) :=
    hmachine.ask_quiet rfl trivial trivial
  have hquiet := hask bench₁
  rw [hcurrent] at hquiet
  have hinside₂ := hinside₁.trans (Bench.StaysIn.of_quiet _ _ hquiet (hinside₁.leads hp))
  exact logFrontOf_ok hname (hinside₂.leads hp) (hfront.inside hinside₂.files (.inr rfl)) hfrontOf

/-- A log is no fixed file of a test, and lies in its directory. -/
theorem log_isPlain {front suffix : String} (hfront : '/' ∉ front.toList)
    (hsuffix : suffix = kernelLogName ∨ suffix = sleepLogName) :
    IsPlain (front ++ "-" ++ suffix) ∧ ¬ IsFixed (front ++ "-" ++ suffix) := by
  have hlast : (front ++ "-" ++ suffix).toList.getLast? = some 'g' := by
    rcases hsuffix with rfl | rfl <;> simp [kernelLogName, sleepLogName]
  refine ⟨isPlain_of_length ?_ ?_, ?_⟩
  · rcases hsuffix with rfl | rfl <;> simp [kernelLogName, sleepLogName]
  · rcases hsuffix with rfl | rfl <;> simpa [kernelLogName, sleepLogName] using hfront
  · rintro (hfixed | hfixed)
    · rw [hfixed] at hlast
      exact absurd hlast (by decide)
    · rw [hfixed] at hlast
      exact absurd hlast (by decide)

/-- Capturing the logs of a test changes nothing but its directory. -/
theorem captureLogs_staysIn (hmachine : machine.WritesOnlyLogs) (hdirectory : trial.directory = p)
    (hfront : '/' ∉ trial.logFront.toList) :
    Keeps (Bench.StaysIn p d IsFixed Event.IsPreparatory) (trial.captureLogs machine) := by
  unfold captureLogs
  obtain ⟨hkernel, hkernel'⟩ := log_isPlain hfront (.inl rfl)
  obtain ⟨hsleep, hsleep'⟩ := log_isPlain hfront (.inr rfl)
  subst hdirectory
  refine Keeps.bind (hmachine.ask_staysIn rfl hkernel hkernel' trivial trivial) fun _ => ?_
  split
  · exact hmachine.ask_staysIn rfl hsleep hsleep' trivial trivial
  · exact Keeps.pure _

/-- What happens before the operator is called changes nothing but the directory of the test. -/
theorem prepare_inside (settings : Settings) (hmachine : machine.WritesOnlyLogs)
    (hname : IsPlain name) (hp : (q.join name).Leads bench.files bench.here d)
    (hfront : bench.files.HasPlainFront d) :
    Bench.Inside d IsFixed Event.IsPreparatory bench
      (bench.perform (prepare settings machine (q.join name))).2 := by
  have hload := load_staysIn (d := d) settings hmachine bench hp
  unfold prepare
  rcases hperform : bench.perform (load settings machine (q.join name)) with ⟨failure | trial, after⟩
  · rw [Bench.perform_bind_error hperform]
    rwa [hperform] at hload
  · rw [Bench.perform_bind_ok hperform]
    rw [hperform] at hload
    obtain ⟨hloaded, hfront'⟩ := load_ok hmachine hname hp hfront hperform
    refine hload.trans (Keeps.bind ((Settings.menu_unmoved _ _).imp Bench.StaysIn.of_unmoved)
      (fun menu => ?_) after (hload.leads hp))
    exact (captureLogs_staysIn hmachine hloaded.directory hfront').bind fun _ => Keeps.pure _

end Trial

end BootTrial
