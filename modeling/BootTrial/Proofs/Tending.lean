import Mathlib.Logic.Relation
import BootTrial.Proofs.Binding
import BootTrial.Proofs.Ending
import BootTrial.Proofs.Intact

/-!
# Work on the directory of a test

There are four ways in which a run touches the directory of its test (`Node.Touch`): it writes
something that no run reads, it writes down the boot id, it puts the draft of the scenario in the
place of the scenario file, and it deletes something. Whatever each of them leaves as it was is so
after all of them: an intact test is intact still (`Node.Touches.intact`), unless it is deleted.

Work tends the test in a directory (`Bench.Tends`) if the directory has only been touched at every
moment of the work. All that a run does up to the choice of the operator tends its test
(`Trial.prepare_tends`), and so does writing a result (`Scenario.write_tends`). What takes the
directory down entry by entry tends a test that is doomed (`FileWork.removeEach_tends`).
-/

namespace BootTrial

open Text (Bytes)

namespace Node

/-- What one step of a run touches in the directory of its test. Only a test that is doomed loses
anything. -/
inductive Touch (w : Place) (name : String) (doomed : Prop) (before : Node) : Node → Prop
  /-- Something is written that no run reads: a log, or the draft of the scenario. -/
  | aside {after : Node} (h : Inside (Root.running.place w ++ [name]) IsVital before after) :
      Touch w name doomed before after
  /-- The file for the boot id is made, or the id that is in the name is written into it. -/
  | bound {text : String} {runnable : Bool}
      (hdir : before.HasDir (Root.running.place w ++ [name]))
      (htext : text = "" ∨ ∃ boot, bootOfName? name = some boot ∧ text = boot.text) :
      Touch w name doomed before (before.put (.file (Text.encode text) runnable)
        (Root.running.place w ++ [name] ++ [bootIdName]))
  /-- The draft of the scenario becomes the scenario file. -/
  | written {record : Scenario} {runnable : Bool}
      (hdir : before.HasDir (Root.running.place w ++ [name])) (hnodup : record.names.Nodup)
      (hnamed : ScenarioTable.isBlankHeader record.names = false) :
      Touch w name doomed before
        ((before.erase (Root.running.place w ++ [name] ++ [Scenario.draftName scenarioName])).put
          (.file (record.tableBytes record.names) runnable)
          (Root.running.place w ++ [name] ++ [scenarioName]))
  /-- Something is deleted. -/
  | taken {below : Place} (hdoomed : doomed)
      (hdir : before.HasDir (Root.running.place w ++ [name])) (hbelow : below ≠ []) :
      Touch w name doomed before (before.erase (Root.running.place w ++ [name] ++ below))

/-- What any steps of a run touch in the directory of its test. -/
abbrev Touches (w : Place) (name : String) (doomed : Prop) : Node → Node → Prop :=
  Relation.ReflTransGen (Touch w name doomed)

variable {w : Place} {name : String} {doomed : Prop} {before after : Node}

/-- What is touched lies in the directory. -/
theorem Touch.inside (h : Touch w name doomed before after) :
    Inside (Root.running.place w ++ [name]) (fun _ => False) before after := by
  cases h with
  | aside h => exact h.mono fun _ hfalse => hfalse.elim
  | bound hdir => exact .put_entry hdir id _
  | written hdir =>
    have herased := Inside.erase_below hdir
      (List.cons_ne_nil (Scenario.draftName scenarioName) [])
    exact herased.trans (.put_entry herased.hasDir id _)
  | taken _ hdir hbelow => exact .erase_below hdir hbelow

/-- A test that is touched is intact still. -/
theorem Touch.intact (h : Touch w name doomed before after)
    (hintact : before.HasIntact (Root.running.place w ++ [name]) doomed) :
    after.HasIntact (Root.running.place w ++ [name]) doomed := by
  cases h with
  | aside h => exact hintact.inside h
  | bound => exact hintact.put (.boot_text _ _)
  | written _ hnodup hnamed =>
    have hdraft : [Scenario.draftName scenarioName] ≠ [scenarioName] :=
      fun h => Scenario.scenarioName_isNoDraft (List.cons.inj h).1.symm
    exact (hintact.erase (by simp) (.inr hdraft)).put (.sheet_file hnodup hnamed _)
  | taken hdoomed _ hbelow => exact hintact.erase hbelow (.inl hdoomed)

/-- All that is touched lies in the directory. -/
theorem Touches.inside (h : Touches w name doomed before after)
    (hdir : before.HasDir (Root.running.place w ++ [name])) :
    Inside (Root.running.place w ++ [name]) (fun _ => False) before after := by
  induction h with
  | refl => exact .refl hdir
  | tail _ hlast ih => exact ih.trans hlast.inside

/-- A test is intact still whatever has been touched. -/
theorem Touches.intact (h : Touches w name doomed before after)
    (hintact : before.HasIntact (Root.running.place w ++ [name]) doomed) :
    after.HasIntact (Root.running.place w ++ [name]) doomed := by
  induction h with
  | refl => exact hintact
  | tail _ hlast ih => exact hlast.intact ih

end Node

namespace Bench

/-- If a path leads to the directory of a test, nothing but this is touched between two benches, at
every moment. -/
def Tends (p : Path) (w : Place) (name : String) (doomed : Prop) (before after : Bench) : Prop :=
  p.Leads before.files before.here (Root.running.place w ++ [name]) →
    before.Passes (Node.Touches w name doomed) after

variable {p : Path} {w : Place} {name : String} {doomed : Prop} {before middle after : Bench}

/-- A path leads on where it led while the test there is tended. -/
theorem Tends.leads (h : before.Tends p w name doomed after)
    (hp : p.Leads before.files before.here (Root.running.place w ++ [name])) :
    p.Leads after.files after.here (Root.running.place w ++ [name]) := by
  rw [(h hp).here]
  exact hp.inside ((h hp).files.inside hp.dir)

instance (p : Path) (w : Place) (name : String) (doomed : Prop) :
    IsPreorder Bench (Tends p w name doomed) where
  refl _ _ := .refl .refl
  trans _ _ _ h h' hp := (h hp).trans .trans (h' (h.leads hp))

/-- One step that touches the directory. -/
theorem Tends.stepTo {files : Node}
    (h : p.Leads before.files before.here (Root.running.place w ++ [name]) →
      Node.Touch w name doomed before.files files) :
    before.Tends p w name doomed (before.stepTo files) :=
  fun hp => .stepTo (.single (h hp))

/-- A test is tended by changes under names that a run does not read. -/
theorem Inside.tends {kind : Event → Prop}
    (h : Inside (Root.running.place w ++ [name]) Node.IsVital kind before after) :
    before.Passes (Node.Touches w name doomed) after := by
  obtain ⟨moments, hmoments, hmem⟩ := h.history
  exact ⟨h.here, .single (.aside h.files), moments, hmoments,
    fun moment hin => .single (.aside (hmem moment hin).2)⟩

/-- A test is tended by what does not change the files. -/
theorem Tends.of_quiet {kind : Event → Prop} (before after : Bench) (h : Quiet kind before after) :
    before.Tends p w name doomed after :=
  fun hp => (StaysIn.of_quiet _ _ h hp).tends

/-- A test is tended by what only reads. -/
theorem Tends.of_unmoved (before after : Bench) (h : Unmoved before after) :
    before.Tends p w name doomed after :=
  fun hp => (StaysIn.of_unmoved _ _ h hp : Inside _ _ (fun _ => True) _ _).tends

end Bench

section Files

variable {p q : Path} {w : Place} {name other : String} {doomed : Prop}

/-- Creating a file in the directory of a test, where the empty file may be put. -/
theorem FileWork.createFile_tends (hother : IsPlain other)
    (hempty : ∀ (before : Node) (runnable : Bool),
      before.HasDir (Root.running.place w ++ [name]) → Node.Touch w name doomed before
        (before.put (.file [] runnable) (Root.running.place w ++ [name] ++ [other]))) :
    Keeps (Bench.Tends p w name doomed) (FileWork.take (FileStep.createFile (p.join other))) := by
  refine Keeps.take fun bench files hstep => .stepTo fun hp => ?_
  obtain ⟨entries, hentries⟩ := hp.dir
  rw [FileStep.createFile_join hother hp.passThrough hentries] at hstep
  split at hstep
  · cases hstep
  · split at hstep
    · cases hstep
    · cases hstep
      exact hempty _ _ hp.dir
    · cases hstep
      exact hempty _ _ hp.dir

/-- Filling a file in the directory of a test, where the file with the content may be put. -/
theorem FileWork.fillFile_tends (hother : IsPlain other) {content : Bytes}
    (hfilled : ∀ (before : Node) (runnable : Bool),
      before.HasDir (Root.running.place w ++ [name]) → Node.Touch w name doomed before
        (before.put (.file content runnable) (Root.running.place w ++ [name] ++ [other]))) :
    Keeps (Bench.Tends p w name doomed)
      (FileWork.take (FileStep.fillFile (p.join other) content)) := by
  refine Keeps.take fun bench files hstep => .stepTo fun hp => ?_
  obtain ⟨entries, hentries⟩ := hp.dir
  rw [FileStep.fillFile_join hother hp.passThrough hentries] at hstep
  split at hstep
  · cases hstep
  · split at hstep
    · cases hstep
    · cases hstep
      exact hfilled _ _ hp.dir
    · cases hstep

/-- Writing the boot id of a test that is in its name. -/
theorem bindTo_tends {boot : BootId} (hboot : bootOfName? name = some boot) :
    Keeps (Bench.Tends p w name doomed) (bindTo p boot) := by
  refine Keeps.reportedAs (Keeps.bind ?_ fun _ => ?_) _
  · refine FileWork.createFile_tends bootIdName_isPlain fun before runnable hdir => ?_
    have hmade : Node.Touch w name doomed before (before.put (.file (Text.encode "") runnable)
        (Root.running.place w ++ [name] ++ [bootIdName])) := .bound hdir (.inl rfl)
    exact hmade
  · exact FileWork.fillFile_tends bootIdName_isPlain fun before runnable hdir =>
      .bound hdir (.inr ⟨boot, hboot, rfl⟩)

/-- Finding the boot that a test is bound to. -/
theorem boundBoot_tends (hname : IsPlain name) :
    Keeps (Bench.Tends (q.join name) w name doomed) (boundBoot (q.join name)) := by
  unfold boundBoot
  refine (storedBoot_keeps _).bind fun stored => ?_
  split
  · exact Keeps.pure _
  · -- The name is that of the test, so the id is the one in its name.
    have hgiven : Work.ofExcept (directoryName (q.join name)) = pure name := by
      rw [directoryName_join q hname]
      rfl
    rw [hgiven, pure_bind]
    cases hboot : bootOfName? name with
    | none => exact Keeps.throw _
    | some boot => exact (bindTo_tends hboot).bind fun _ => Keeps.pure _

/-- Taking the directory of a test that is doomed down entry by entry. -/
theorem FileWork.removeEach_tends {belows : List Place} (hbelows : ∀ below ∈ belows, below ≠ [])
    (hdoomed : doomed) :
    Keeps (Bench.Tends p w name doomed)
      (FileWork.removeEach (Root.running.place w ++ [name]) belows) := by
  induction belows with
  | nil => exact Keeps.pure _
  | cons below rest ih =>
    refine Keeps.bind ?_ fun _ => ih fun below hmem => hbelows below (List.mem_cons_of_mem _ hmem)
    refine Keeps.take fun bench files hstep => .stepTo fun hp => ?_
    cases hstep
    exact .taken hdoomed hp.dir (hbelows below List.mem_cons_self)

/-- Writing a record into the scenario file of a test. -/
theorem Scenario.write_tends {record : Scenario} {header : List String}
    (hname : IsPlain name) (hnodup : record.names.Nodup)
    (hnamed : ScenarioTable.isBlankHeader header = false) :
    Keeps (Bench.Tends (q.join name) w name doomed)
      (record.write ((q.join name).join scenarioName) header) := by
  intro bench hp
  -- The draft is nothing that a run reads.
  have hdraft : ∀ other, Node.IsVital other → IsNoDraft other := by
    rintro other (rfl | rfl | rfl)
    · exact show _ ≠ _ by decide
    · exact show _ ≠ _ by decide
    · exact scenarioName_isNoDraft
  rcases write_steps hname hp header record with
    ⟨failure, after, hwrite, -, hinside⟩ | ⟨middle, runnable, rfl, hinside, hwrite⟩
  all_goals rw [hwrite]
  · exact (hinside.mono hdraft fun _ _ => trivial).tends
  · have hmiddle : bench.Passes (Node.Touches w name doomed) middle :=
      (hinside.mono hdraft fun _ _ => trivial).tends
    have hstep : Node.Touch w name doomed middle.files ((middle.files.erase
          (Root.running.place w ++ [name] ++ [Scenario.draftName scenarioName])).put
        (.file (record.tableBytes record.names) runnable)
        (Root.running.place w ++ [name] ++ [scenarioName])) :=
      .written hinside.files.hasDir hnodup hnamed
    have hwritten : bench.Passes (Node.Touches w name doomed) (middle.stepTo _) :=
      hmiddle.trans .trans (.stepTo (.single hstep))
    obtain ⟨hhere, hfiles, hhistory⟩ := hwritten
    exact ⟨hhere, hfiles, hhistory⟩

end Files

namespace Trial

variable {settings : Settings} {machine : Machine} {p q : Path} {w : Place} {doomed : Prop}
  {name : String} {bench : Bench} {trial : Trial}

/-- Loading a test. -/
theorem load_tends (settings : Settings) (hmachine : machine.WritesOnlyLogs)
    (hname : IsPlain name) :
    Keeps (Bench.Tends (q.join name) w name doomed) (load settings machine (q.join name)) := by
  unfold load
  have hask : Keeps (Bench.Quiet fun _ => True) (machine.ask .currentBoot) :=
    hmachine.ask_quiet rfl trivial trivial
  refine (boundBoot_tends hname).bind fun boot => (hask.imp Bench.Tends.of_quiet).bind
    fun current => ?_
  refine (logFrontOf_keeps _).bind fun front => ?_
  exact ((Scenario.read_unmoved _ _).imp Bench.Tends.of_unmoved).bind fun _ => Keeps.pure _

/-- A log is nothing that a run reads. -/
theorem log_not_vital {front suffix : String}
    (hsuffix : suffix = kernelLogName ∨ suffix = sleepLogName) :
    ¬ Node.IsVital (front ++ "-" ++ suffix) := by
  have hlast : (front ++ "-" ++ suffix).toList.getLast? = some 'g' := by
    rcases hsuffix with rfl | rfl <;> simp [kernelLogName, sleepLogName]
  rintro (hname | hname | hname) <;> rw [hname] at hlast <;> exact absurd hlast (by decide)

/-- Capturing the logs of a test. -/
theorem captureLogs_tends (hmachine : machine.WritesOnlyLogs) (hdirectory : trial.directory = p)
    (hfront : '/' ∉ trial.logFront.toList) :
    Keeps (Bench.Tends p w name doomed) (trial.captureLogs machine) := by
  unfold captureLogs
  subst hdirectory
  have hlog : ∀ {request suffix}, suffix = kernelLogName ∨ suffix = sleepLogName →
      request.log? = some (trial.log suffix) →
      Keeps (Bench.Tends trial.directory w name doomed) (machine.ask request) := by
    intro request suffix hsuffix hlog
    have hstays : Keeps (Bench.StaysIn trial.directory (Root.running.place w ++ [name]) Node.IsVital
        fun _ => True) (machine.ask request) :=
      hmachine.ask_staysIn hlog (log_isPlain hfront hsuffix).1 (log_not_vital hsuffix) trivial trivial
    exact hstays.imp fun _ _ hin hp => (hin hp).tends
  refine Keeps.bind (hlog (.inl rfl) rfl) fun _ => ?_
  split
  · exact hlog (.inr rfl) rfl
  · exact Keeps.pure _

/-- What happens before the operator is called. -/
theorem prepare_tends (settings : Settings) (hmachine : machine.WritesOnlyLogs)
    (hname : IsPlain name) (hfront : bench.files.HasPlainFront (Root.running.place w ++ [name])) :
    Bench.Tends (q.join name) w name doomed bench
      (bench.perform (prepare settings machine (q.join name))).2 := by
  intro hp
  have hload : bench.Tends (q.join name) w name doomed
      (bench.perform (load settings machine (q.join name))).2 :=
    load_tends settings hmachine hname bench
  refine (?_ : bench.Tends (q.join name) w name doomed _) hp
  unfold prepare
  rcases hperform : bench.perform (load settings machine (q.join name)) with ⟨failure | trial, after⟩
  all_goals rw [hperform] at hload
  · rwa [Bench.perform_bind_error hperform]
  · rw [Bench.perform_bind_ok hperform]
    obtain ⟨hloaded, hfront'⟩ := load_ok hmachine hname hp hfront hperform
    refine trans_of _ hload (Keeps.bind ((Settings.menu_unmoved _ _).imp
      Bench.Tends.of_unmoved) (fun menu => ?_) after)
    exact (captureLogs_tends hmachine hloaded.directory hfront').bind fun _ => Keeps.pure _

end Trial

end BootTrial
