import BootTrial.Machine.Scripted
import BootTrial.Operator.Scripted
import BootTrial.Proofs.Inside

/-!
# The machine and the operator

What the program relies on in the parties that it works with. A machine that is asked for a log may
write the file of that log, and it writes nothing else (`Machine.WritesOnlyLogs`); an operator only
chooses (`Operator.OnlyChooses`). Both may fail at any time. The scripted machine and the scripted
operator are such parties.
-/

namespace BootTrial

open Text (Bytes)

/-- The log that a request is for. -/
def Request.log? : Request → Option Path
  | .captureKernelLog _ log | .sleepCycle log => some log
  | .currentBoot | .announce _ | .sync | .reboot => none

/-- Two trees are the same, but that the later one may have a file where a log goes. -/
def Node.WithLog (here : Place) (log? : Option Path) (before after : Node) : Prop :=
  after = before ∨ ∃ log parent name content runnable,
    log? = some log ∧ log.approach before here = .ok ⟨parent, .name name, false⟩
      ∧ before.HasDir parent ∧ ¬ before.HasDir (parent ++ [name])
      ∧ after = before.put (.file content runnable) (parent ++ [name])

namespace Bench

/-- Between two benches a request has been answered: the log that it is for may have been
written. -/
structure Answered (request : Request) (before after : Bench) : Prop where
  /-- The working directory is the same. -/
  here : after.here = before.here
  /-- The log may have been written. -/
  files : Node.WithLog before.here request.log? before.files after.files
  /-- Every moment is a step at the log. -/
  history : ∃ moments, after.history = moments ++ before.history ∧ ∀ moment ∈ moments,
    moment.event = .changed ∧ Node.WithLog before.here request.log? before.files moment.files
  /-- No header is forgotten or replaced. -/
  headers : Remembers before after

/-- Between two benches there were only events of a kind, and the files have not changed. -/
structure Quiet (kind : Event → Prop) (before after : Bench) : Prop where
  /-- The files are the same. -/
  files : after.files = before.files
  /-- The working directory is the same. -/
  here : after.here = before.here
  /-- At every moment the files were the same. -/
  history : ∃ moments, after.history = moments ++ before.history
    ∧ ∀ moment ∈ moments, kind moment.event ∧ moment.files = before.files
  /-- No header is forgotten or replaced. -/
  headers : Remembers before after

/-- Where nothing moves nothing is heard. -/
theorem Quiet.of_unmoved {kind : Event → Prop} {before after : Bench} (h : Unmoved before after) :
    Quiet kind before after :=
  ⟨h.files, h.here, ⟨[], h.history, by simp⟩, h.headers⟩

/-- What happens one after the other without a change of the files. -/
theorem Quiet.trans {kind : Event → Prop} {before middle after : Bench}
    (h : Quiet kind before middle) (h' : Quiet kind middle after) : Quiet kind before after := by
  obtain ⟨first, hfirst, hmoments⟩ := h.history
  obtain ⟨second, hsecond, hmoments'⟩ := h'.history
  refine ⟨h'.files.trans h.files, h'.here.trans h.here, ⟨second ++ first, ?_, ?_⟩, ?_⟩
  · rw [hsecond, hfirst, List.append_assoc]
  · intro moment hmem
    rcases List.mem_append.mp hmem with hmem | hmem
    · exact ⟨(hmoments' moment hmem).1, (hmoments' moment hmem).2.trans h.files⟩
    · exact hmoments moment hmem
  · exact trans_of Remembers h.headers h'.headers

instance (kind : Event → Prop) : IsPreorder Bench (Quiet kind) where
  refl bench := .of_unmoved (refl_of Unmoved bench)
  trans _ _ _ h h' := h.trans h'

/-- Nothing leaves a directory while the files do not change. -/
theorem StaysIn.of_quiet {p : Path} {d : Place} {keep : String → Prop} {kind : Event → Prop}
    (before after : Bench) (h : Quiet kind before after) : StaysIn p d keep kind before after := by
  intro hp
  obtain ⟨moments, hmoments, hmem⟩ := h.history
  refine ⟨h.here, ?_, moments, hmoments, fun moment hin => ⟨(hmem moment hin).1, ?_⟩⟩
  · rw [h.files]
    exact .refl hp.dir
  · rw [(hmem moment hin).2]
    exact .refl hp.dir

end Bench

/-- A machine that writes no file but the log that it is asked for. -/
structure Machine.WritesOnlyLogs (machine : Machine) : Prop where
  /-- Every request is answered so. -/
  answered : ∀ request, Keeps (Bench.Answered request) (machine.answer request)

/-- An operator who only chooses. -/
structure Operator.OnlyChooses (operator : Operator) : Prop where
  /-- Choosing moves nothing. -/
  unmoved : ∀ title menu, Keeps Bench.Unmoved (operator.choose title menu)

namespace Machine.WritesOnlyLogs

variable {machine : Machine} (h : machine.WritesOnlyLogs)
include h

/-- A request that is not for a log leaves the files alone. -/
theorem ask_quiet {request : Request} (hlog : request.log? = none) {kind : Event → Prop}
    (hasked : kind (.asked request)) (hchanged : kind .changed) :
    Keeps (Bench.Quiet kind) (machine.ask request) := by
  intro bench
  obtain ⟨hhere, hfiles, ⟨moments, hmoments, hmem⟩, hheaders⟩ :=
    h.answered request { bench with history := ⟨.asked request, bench.files⟩ :: bench.history }
  simp only [Node.WithLog, hlog, reduceCtorEq, false_and, exists_false, or_false] at hfiles hmem
  refine ⟨hfiles, hhere, ⟨moments ++ [⟨.asked request, bench.files⟩], ?_, ?_⟩, hheaders⟩
  · rw [List.append_assoc]
    exact hmoments
  · intro moment hin
    rcases List.mem_append.mp hin with hin | hin
    · refine ⟨?_, (hmem moment hin).2⟩
      rw [(hmem moment hin).1]
      exact hchanged
    · rw [List.mem_singleton.mp hin]
      exact ⟨hasked, rfl⟩

/-- A request that is not for a log, once it has been answered. -/
theorem quiet_after {request : Request} (hlog : request.log? = none) {bench after : Bench}
    {outcome : Except Error request.Reply}
    (hask : bench.perform (machine.ask request) = (outcome, after)) :
    Bench.Quiet (fun _ => True) bench after := by
  have hquiet : Keeps (Bench.Quiet fun _ => True) (machine.ask request) :=
    h.ask_quiet hlog trivial trivial
  have hbench := hquiet bench
  rwa [hask] at hbench

/-- A request for a log in a directory changes nothing but this directory. -/
theorem ask_staysIn {request : Request} {p : Path} {d : Place} {keep : String → Prop}
    {kind : Event → Prop} {name : String} (hlog : request.log? = some (p.join name))
    (hname : IsPlain name) (hkeep : ¬ keep name) (hasked : kind (.asked request))
    (hchanged : kind .changed) :
    Keeps (Bench.StaysIn p d keep kind) (machine.ask request) := by
  intro bench hp
  obtain ⟨hhere, hfiles, ⟨moments, hmoments, hmem⟩, -⟩ :=
    h.answered request { bench with history := ⟨.asked request, bench.files⟩ :: bench.history }
  have hinside : ∀ files, Node.WithLog bench.here request.log? bench.files files →
      Node.Inside d keep bench.files files := by
    rintro files (rfl | ⟨log, parent, other, content, runnable, hsome, happroach, -, -, rfl⟩)
    · exact .refl hp.dir
    · obtain rfl : p.join name = log := by simpa [hlog] using hsome
      rw [Path.approach_join hname hp.passThrough] at happroach
      split at happroach
      · cases happroach
      · cases happroach
        exact .put_entry hp.dir hkeep _
  refine ⟨hhere, hinside _ hfiles, moments ++ [⟨.asked request, bench.files⟩], ?_, ?_⟩
  · rw [List.append_assoc]
    exact hmoments
  · intro moment hin
    rcases List.mem_append.mp hin with hin | hin
    · refine ⟨?_, hinside _ (hmem moment hin).2⟩
      rw [(hmem moment hin).1]
      exact hchanged
    · rw [List.mem_singleton.mp hin]
      exact ⟨hasked, .refl hp.dir⟩

/-- No request makes a header be forgotten. -/
theorem ask_remembers (request : Request) : Keeps Bench.Remembers (machine.ask request) :=
  fun bench => (h.answered request
    { bench with history := ⟨.asked request, bench.files⟩ :: bench.history }).headers

end Machine.WritesOnlyLogs

/-- A menu that is put in front of an operator leaves the files alone. -/
theorem Operator.OnlyChooses.ask_quiet {operator : Operator} (h : operator.OnlyChooses)
    (title : String) (menu : Menu) {kind : Event → Prop}
    (hkind : kind (.presented title menu.descriptions)) :
    Keeps (Bench.Quiet kind) (operator.ask title menu) := by
  intro bench
  obtain ⟨hfiles, hhere, hhistory, hheaders⟩ := h.unmoved title menu
    { bench with history := ⟨.presented title menu.descriptions, bench.files⟩ :: bench.history }
  exact ⟨hfiles, hhere, ⟨[⟨.presented title menu.descriptions, bench.files⟩], hhistory,
    by simpa using hkind⟩, hheaders⟩

section Logs

variable {root : Node} {here place : Place} {content : Bytes} {runnable : Bool}

/-- What looking up a name finds that is a directory. -/
theorem hasDir_of_lookUp {name : String} {entries : List (String × Node)}
    (h : lookUp root here name = .ok (.taken place (.dir entries))) :
    place = here ++ [name] ∧ root.HasDir place ∧ name.utf8ByteSize ≤ nameLimit := by
  unfold lookUp at h
  split at h
  · cases h
  · cases h
  · rename_i own hown
    by_cases hlong : nameLimit < name.utf8ByteSize
    · rw [if_pos hlong] at h
      cases h
    · rw [if_neg hlong] at h
      cases hentry : own.lookup name with
      | none =>
        rw [hentry] at h
        cases h
      | some node =>
        rw [hentry] at h
        cases h
        exact ⟨rfl, ⟨entries, by rw [Node.get?_snoc hown, hentry]⟩, Nat.not_lt.mp hlong⟩

/-- What was followed can be followed where every directory is still there. -/
theorem passThrough_of_keeps {after : Node} (hkeeps : ∀ q, root.HasDir q → after.HasDir q)
    {components : List String} {goal : Place} (h : passThrough root here components = .ok goal) :
    passThrough after here components = .ok goal := by
  induction components generalizing here with
  | nil => exact h
  | cons component rest ih =>
    unfold passThrough at h ⊢
    by_cases hdot : component = "."
    · rw [if_pos hdot] at h ⊢
      exact ih h
    rw [if_neg hdot] at h ⊢
    by_cases hup : component = ".."
    · rw [if_pos hup] at h ⊢
      exact ih h
    rw [if_neg hup] at h ⊢
    split at h
    · rename_i next entries hnext
      obtain ⟨rfl, hdir, hshort⟩ := hasDir_of_lookUp hnext
      obtain ⟨entries', hentries'⟩ := lookUp_of_hasDir (hkeeps _ hdir) hshort
      rw [hentries']
      exact ih h
    · cases h
    · cases h
    · cases h

/-- A path that came somewhere comes there where every directory is still there. -/
theorem Path.approach_of_keeps {after : Node} (hkeeps : ∀ q, root.HasDir q → after.HasDir q)
    {p : Path} {approach : Approach} (h : p.approach root here = .ok approach) :
    p.approach after here = .ok approach := by
  unfold Path.approach Path.walk at h ⊢
  split at h
  · cases h
  · rename_i hlong
    rw [if_neg hlong]
    split at h
    · cases h
    · rename_i hnul
      rw [if_neg hnul]
      split at h
      · cases h
      · rename_i hempty
        rw [if_neg hempty]
        simp only at h ⊢
        cases hpass : passThrough root (if p.isAbsolute then [] else here)
            (p.segments.filter (· ≠ "")).dropLast with
        | error fault =>
          rw [hpass] at h
          cases h
        | ok parent =>
          rw [hpass] at h
          rw [passThrough_of_keeps hkeeps hpass]
          exact h

/-- A file that is put where no directory stands is in the way of no path that came somewhere. -/
theorem Path.approach_put_file (hplace : ¬ root.HasDir place) {p : Path} {approach : Approach}
    (h : p.approach root here = .ok approach) :
    p.approach (root.put (.file content runnable) place) here = .ok approach :=
  approach_of_keeps (fun _ hdir => hdir.put_file hplace content runnable) h

/-- What creating a file does that succeeds. -/
theorem FileStep.createFile_ok {p : Path} {files : Node}
    (h : createFile p root here = .ok files) : ∃ parent name runnable,
      p.approach root here = .ok ⟨parent, .name name, false⟩ ∧ root.HasDir parent
        ∧ name.utf8ByteSize ≤ nameLimit ∧ ¬ root.HasDir (parent ++ [name])
        ∧ files = root.put (.file [] runnable) (parent ++ [name]) := by
  obtain ⟨⟨parent, last, endsInSlash⟩, happroach, h⟩ := exceptBind_inv h
  cases last with
  | root => cases h
  | dot => cases h
  | dotDot => cases h
  | name name =>
    cases endsInSlash with
    | true => cases h
    | false =>
      obtain ⟨target, htarget, hfiles⟩ := exceptBind_inv h
      obtain ⟨hparent, hshort⟩ := lookUp_inv htarget
      have hleaf : ∀ {found : Option Node}, root.get? (parent ++ [name]) = found →
          (∀ own, found ≠ some (.dir own)) → ¬ root.HasDir (parent ++ [name]) := by
        rintro found rfl hfound ⟨own, hown⟩
        exact hfound own hown
      rcases target with ⟨place, ⟨content, runnable⟩ | own⟩ | ⟨parent', name'⟩
      · obtain ⟨rfl, hentry⟩ := lookUp_taken_inv htarget
        cases hfiles
        exact ⟨parent, name, runnable, happroach, hparent, hshort, hleaf hentry (by simp), rfl⟩
      · cases hfiles
      · obtain ⟨rfl, rfl, hnone⟩ := lookUp_free_inv htarget
        cases hfiles
        exact ⟨_, _, false, happroach, hparent, hshort, hleaf hnone (by simp), rfl⟩

/-- Filling a file that has just been created. -/
theorem FileStep.fillFile_created {p : Path} {parent : Place} {name : String} {runnable : Bool}
    (happroach : p.approach root here = .ok ⟨parent, .name name, false⟩)
    (hparent : root.HasDir parent) (hshort : name.utf8ByteSize ≤ nameLimit)
    (hplace : ¬ root.HasDir (parent ++ [name])) :
    fillFile p content (root.put (.file [] runnable) (parent ++ [name])) here
      = .ok (root.put (.file content runnable) (parent ++ [name])) := by
  obtain ⟨entries, hentries⟩ := hparent.put_file hplace [] runnable
  have hfile : entries.lookup name = some (.file [] runnable) := by
    rw [← Node.get?_snoc hentries]
    obtain ⟨own, hown⟩ := hparent
    exact Node.get?_put_self hown _ name
  unfold fillFile
  rw [Path.approach_put_file hplace happroach]
  simp only [bind, Except.bind, Approach.entry, Approach.target, lookUp_of_get? hentries,
    hfile, if_neg (Nat.not_lt.mpr hshort), Bool.false_and, Bool.false_eq_true, if_false]
  exact congrArg _ (Node.put_put_snoc hparent name _ _)

/-- Writing the log that a request is for. -/
theorem FileWork.writeFile_answered {request : Request} {log : Path}
    (hlog : request.log? = some log) (content : Bytes) :
    Keeps (Bench.Answered request) (FileWork.writeFile log content) := by
  intro bench
  have hsame : ∀ files, Node.WithLog bench.here request.log? files files := fun _ => .inl rfl
  unfold FileWork.writeFile
  rw [Bench.perform_bind, Bench.perform_take]
  cases hcreate : FileStep.createFile log bench.files bench.here with
  | error fault => exact ⟨rfl, hsame _, ⟨[], rfl, by simp⟩, fun _ _ h => h⟩
  | ok created =>
    obtain ⟨parent, name, runnable, happroach, hparent, hshort, hplace, rfl⟩ :=
      FileStep.createFile_ok hcreate
    have hcreated : ∀ content, Node.WithLog bench.here request.log? bench.files
        (bench.files.put (.file content runnable) (parent ++ [name])) := fun content =>
      .inr ⟨log, parent, name, content, runnable, hlog, happroach, hparent, hplace, rfl⟩
    have hfill : FileStep.fillFile log content
        (bench.stepTo (bench.files.put (.file [] runnable) (parent ++ [name]))).files
        (bench.stepTo (bench.files.put (.file [] runnable) (parent ++ [name]))).here
      = .ok (bench.files.put (.file content runnable) (parent ++ [name])) :=
      FileStep.fillFile_created happroach hparent hshort hplace
    simp only [Bench.perform_take, hfill]
    refine ⟨rfl, hcreated _, ⟨[⟨.changed, _⟩, ⟨.changed, _⟩], rfl, fun moment hmem => ?_⟩,
      fun _ _ h => h⟩
    rcases List.mem_cons.mp hmem with rfl | hmem
    · exact ⟨rfl, hcreated content⟩
    · rw [List.mem_singleton.mp hmem]
      exact ⟨rfl, hcreated []⟩

/-- Where nothing moves a request has been answered. -/
theorem Bench.Answered.of_unmoved {request : Request} {before after : Bench}
    (h : Bench.Unmoved before after) : Bench.Answered request before after :=
  ⟨h.here, .inl h.files, ⟨[], h.history, by simp⟩, h.headers⟩

/-- An answer may begin with work that moves nothing. -/
theorem Keeps.answered_bind {request : Request} {ε α β : Type} {work : ExceptT ε (StateM Bench) α}
    {next : α → ExceptT ε (StateM Bench) β} (hwork : Keeps Bench.Unmoved work)
    (hnext : ∀ a, Keeps (Bench.Answered request) (next a)) :
    Keeps (Bench.Answered request) (work >>= next) := by
  intro bench
  have hfirst := hwork bench
  rcases hperform : bench.perform work with ⟨failure | a, after⟩
  · rw [Bench.perform_bind_error hperform]
    rw [hperform] at hfirst
    exact .of_unmoved hfirst
  · rw [Bench.perform_bind_ok hperform]
    rw [hperform] at hfirst
    obtain ⟨hhere, hfiles, hhistory, hheaders⟩ := hnext a after
    refine ⟨hhere.trans hfirst.here, ?_, ?_, trans_of Bench.Remembers hfirst.headers hheaders⟩
    · rwa [← hfirst.files, ← hfirst.here]
    · rwa [← hfirst.files, ← hfirst.here, ← hfirst.history]

end Logs

/-- The scripted machine writes no file but the log that it is asked for. -/
theorem Machine.scripted_writesOnlyLogs (boot : BootId) (refused : List String) :
    (Machine.scripted boot refused).WritesOnlyLogs := by
  have hnote : ∀ request, Keeps Bench.Unmoved (Machine.note request) :=
    fun _ _ => ⟨rfl, rfl, rfl, fun _ _ h => h⟩
  have hrefuse : ∀ request, Keeps Bench.Unmoved (Machine.refuse refused request) := by
    intro request
    unfold Machine.refuse
    split
    · exact Keeps.throw _
    · exact Keeps.pure _
  have hfailAs : ∀ request tool, Keeps Bench.Unmoved (Machine.failAs refused request tool) := by
    intro request tool
    unfold Machine.failAs
    split
    · exact Keeps.throw _
    · exact Keeps.pure _
  have hquiet : ∀ {request : Request} {α : Type} {work : Work α},
      Keeps Bench.Unmoved work → Keeps (Bench.Answered request) work :=
    fun hwork bench => .of_unmoved (hwork bench)
  refine ⟨fun request => ?_⟩
  cases request with
  | currentBoot => exact hquiet ((hrefuse _).bind fun _ => Keeps.pure _)
  | captureKernelLog of log =>
    refine Keeps.answered_bind (hrefuse _) fun _ => Keeps.answered_bind (hnote _) fun _ => ?_
    exact (FileWork.writeFile_answered rfl _).reportedAs _
  | sleepCycle log =>
    refine Keeps.answered_bind (hnote _) fun _ => Keeps.answered_bind (hfailAs _ _) fun _ => ?_
    exact (FileWork.writeFile_answered rfl _).reportedAs _
  | announce message => exact hquiet ((hrefuse _).bind fun _ => hnote _)
  | sync => exact hquiet ((hrefuse _).bind fun _ => hnote _)
  | reboot => exact hquiet ((hnote _).bind fun _ => hfailAs _ _)

/-- The scripted operator only chooses. -/
theorem Operator.scripted_onlyChooses : Operator.scripted.OnlyChooses := by
  refine ⟨fun title menu => ?_⟩
  have htake : Keeps Bench.Unmoved (liftM Bench.takeAnswer : Work (Option String)) := by
    intro bench
    rw [Bench.perform_lift, Bench.takeAnswer, StateT.run_bind, StateT.run_get, pure_bind]
    cases hanswers : bench.answers with
    | nil => exact refl_of Bench.Unmoved bench
    | cons answer rest => exact ⟨rfl, rfl, rfl, fun _ _ h => h⟩
  refine htake.bind fun answer => ?_
  split
  · exact Keeps.pure _
  · split
    · exact Keeps.pure _
    · exact Keeps.throw _

end BootTrial
