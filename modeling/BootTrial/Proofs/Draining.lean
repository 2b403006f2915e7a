import BootTrial.Proofs.Binding
import BootTrial.Proofs.Enrolling
import BootTrial.Proofs.Ledger

/-!
# Claiming one test after the other

A test that waits first in the queue is claimed if there is room for its name with the boot id behind
it (`Workspace.Fits`). If this is so for all tests of a batch they can be claimed one after the other
until none is left (`Workspace.claimEach_queue`). If the name of the first one gets too long by the
boot id it is never claimed, and as long as it waits no batch is enrolled
(`Workspace.blocks_of_tooLong`).
-/

namespace BootTrial

/-- The directory of a test that has not been bound to a boot yet. -/
def Node.IsUnbound (name : String) (node : Node) : Prop :=
  IsPlain name ∧ ∃ own : List (String × Node), node = .dir own ∧ own.lookup bootIdName = none

/-- The tests in the queue are the entries, if these are directories. -/
theorem perm_testNames {entries : List (String × Node)}
    (h : ∀ entry ∈ entries, entry.2.isDir = true) :
    (testNames entries).Perm (Named.names entries) := by
  rw [testNames, List.filter_eq_self.mpr h]
  exact List.mergeSort_perm _ _

/-- There is nothing in the queue of a root without entries. -/
theorem testNames_nil : testNames [] = [] := by
  simp [testNames]

/-- The boot id is written into a directory that has no entry under the name of its file, unless the
path of this file is refused. All else in the directory stays as it is. -/
theorem bindTo_unbound {p : Path} {d : Place} {own : List (String × Node)} {bench : Bench}
    (h : bench.Lists p d own) (hfree : own.lookup bootIdName = none) (boot : BootId) :
    ∃ after, bench.perform (bindTo p boot) = ((match (p.join bootIdName).refusal? with
          | some fault => .error (.ofFault fault)
          | none => .ok ()), after)
      ∧ bench.Inside d (· ≠ bootIdName) (fun _ => True) after ∧ after.files.HasDir d := by
  have hinside : bench.Inside d (· ≠ bootIdName) (fun _ => True)
      (bench.perform (bindTo p boot)).2 :=
    bindTo_staysIn (fun hne => hne rfl) trivial boot bench h.leads
  refine ⟨_, ?_, hinside, hinside.files.hasDir⟩
  cases hrefusal : (p.join bootIdName).refusal? with
  | none =>
    obtain ⟨after, hwrite, -⟩ := FileWork.writeFile_free bootIdName_isPlain h
      (Path.joinFault?_eq_none.mpr ⟨hrefusal, by decide⟩) hfree (Text.encode boot.text)
    have hbind : bench.perform (bindTo p boot) = (.ok (), after) :=
      Bench.perform_reportedAs_ok hwrite .ofFault
    rw [hbind]
  | some fault =>
    have hfault : p.joinFault? bootIdName = some fault := by
      rw [Path.joinFault?, hrefusal]
    have hcreate : bench.perform (FileWork.take (FileStep.createFile (p.join bootIdName)))
        = (.error fault, bench) := by
      rw [Bench.perform_take, FileStep.createFile_join bootIdName_isPlain h.leads.passThrough h.dir,
        hfault]
    have hbind : bench.perform (bindTo p boot) = (.error (.ofFault fault), bench) :=
      Bench.perform_reportedAs_error (Bench.perform_bind_error hcreate _) .ofFault
    rw [hbind]

namespace Workspace

variable {workspace : Workspace} {w : Place} {bench : Bench} {name : String} {boot : BootId}
  {entries : List (String × Node)}

/-- There is room for a test under the name that it has in the running root: the name is not too
long, and the path of the file with its boot id is accepted. -/
structure Fits (workspace : Workspace) (name : String) (boot : BootId) : Prop where
  /-- The name is not too long. -/
  short : (runningName name boot).utf8ByteSize ≤ nameLimit
  /-- The path is accepted. -/
  accepted : ((workspace.running.join (runningName name boot)).join bootIdName).refusal? = none

/-- What a claim gives that has taken a test: the directory that this has now, unless the path of the
file for the boot id in it is refused. -/
def taken (workspace : Workspace) (name : String) (boot : BootId) : Except Error Path :=
  match ((workspace.running.join (runningName name boot)).join bootIdName).refusal? with
  | some fault => .error (.ofFault fault)
  | none => .ok (workspace.running.join (runningName name boot))

/-- The path of a test while it waits is accepted if it is accepted in the running root. -/
theorem waiting_accepted (hname : IsPlain name)
    (h : (workspace.running.join (runningName name boot)).refusal? = none) :
    (workspace.pending.join name).refusal? = none := by
  have hrunning : (workspace.running.join (runningName name boot)).text
      = workspace.runtime.text ++ "/" ++ "running" ++ "/" ++ (name ++ separator ++ boot.text) := by
    rw [Workspace.running, Path.text_join_join _ runningName_isPlain (isPlain_runningName hname boot),
      runtime, Path.text_join_join _ runtimeName_isPlain runningName_isPlain]
    rfl
  have hpending : (workspace.pending.join name).text
      = workspace.runtime.text ++ "/" ++ "pending" ++ "/" ++ name := by
    rw [pending, Path.text_join_join _ pendingName_isPlain hname,
      runtime, Path.text_join_join _ runtimeName_isPlain pendingName_isPlain]
  refine Path.refusal?_of_le h ?_ fun c hc => ?_
  · rw [hrunning, hpending]
    simp only [String.utf8ByteSize_append]
    have hsizes : "pending".utf8ByteSize ≤ "running".utf8ByteSize := by decide
    omega
  · rw [hpending] at hc
    rw [hrunning]
    simp only [String.toList_append, List.mem_append] at hc ⊢
    rcases hc with (((hc | hc) | hc) | hc) | hc
    · exact .inl (.inl (.inl (.inl (.inl hc))))
    · exact .inl (.inl (.inl (.inl (.inr hc))))
    · refine .inr ?_
      rintro rfl
      exact absurd hc (by decide)
    · exact .inl (.inl (.inr hc))
    · exact .inl (.inr (.inl (.inl hc)))

namespace Fits

/-- The path of the directory is accepted. -/
theorem directory (h : workspace.Fits name boot) (hname : IsPlain name) :
    (workspace.running.join (runningName name boot)).refusal? = none :=
  Path.refusal?_of_join (isPlain_runningName hname boot) bootIdName_isPlain h.accepted

/-- A test that fits is given when it has been taken. -/
theorem taken (h : workspace.Fits name boot) :
    workspace.taken name boot = .ok (workspace.running.join (runningName name boot)) := by
  rw [Workspace.taken, h.accepted]

/-- Below a short path a test fits if its new name is not too long. -/
theorem of_isShallow (h : workspace.IsShallow) (hname : IsPlain name) (hnul : '\x00' ∉ name.toList)
    (hshort : (runningName name boot).utf8ByteSize ≤ nameLimit) : workspace.Fits name boot := by
  have hnul' : '\x00' ∉ (runningName name boot).toList := by
    have hboot : '\x00' ∉ boot.text.toList := fun hmem =>
      absurd (List.all_eq_true.mp boot.isId.2 _ hmem) (by decide)
    simp [runningName, separator, hnul, hboot]
  refine ⟨hshort, h.refusal? runningName_isPlain (isPlain_runningName hname boot)
    bootIdName_isPlain ?_ ⟨by decide, hshort, by decide⟩⟩
  simp only [List.forall_mem_cons]
  exact ⟨by decide, hnul', by decide, by simp⟩

end Fits

/-- The running root is there when it has been made where no file is in the way, with the entries
that it had. -/
theorem makeRunning_free (hw : workspace.root.Leads bench.files bench.here w)
    (haccepted : workspace.running.refusal? = none)
    (hpending : bench.files.get? (Root.pending.place w) = some (.dir entries))
    (hrunning : bench.files.NoFile (Root.running.place w)) :
    ∃ after own, bench.perform (FileWork.makeDirs workspace.running) = (.ok (), after)
      ∧ workspace.root.Leads after.files after.here w
      ∧ after.files.get? (Root.pending.place w) = some (.dir entries)
      ∧ after.files.get? (Root.running.place w) = some (.dir own)
      ∧ Named.names own = bench.files.namesAt (Root.running.place w) := by
  have hruntime : bench.files.HasDir (w ++ ["runtime"]) :=
    Node.HasDir.above (⟨entries, hpending⟩ : bench.files.HasDir (Root.pending.place w))
  have hleads := runtime_leads hw hruntime
  obtain ⟨beside, hbeside⟩ := hruntime
  have hmake : bench.perform (FileWork.makeDirs workspace.running) = _ :=
    FileWork.perform_makeDirs_join runningName_isPlain hleads.passThrough hbeside
  rw [Path.joinFault?_eq_none.mpr ⟨haccepted, by decide⟩, ← Node.get?_snoc hbeside,
    show w ++ ["runtime"] ++ ["running"] = Root.running.place w from rfl] at hmake
  rcases hrunning.cases with hnone | ⟨own, hown⟩
  · rw [hnone] at hmake
    refine ⟨_, [], hmake, ?_, ?_, Node.get?_put_self hbeside .emptyDir "running", ?_⟩
    · simpa [Root.place, Bench.stepTo] using hw.put_in .running [] .emptyDir
    · rw [← hpending]
      exact Node.get?_put_of_apart (Root.place_apart (by decide : Root.running ≠ .pending) w) _ _
    · rw [Node.namesAt, hnone]
      rfl
  · rw [hown] at hmake
    exact ⟨bench, own, hmake, hw, hpending, hown, (Node.namesAt_dir hown).symm⟩

/-- When the boot id of a test that has moved has been written or refused, the claim gives what has
been taken. -/
theorem perform_taken {moved after : Bench}
    (hbind : moved.perform (bindTo (workspace.running.join (runningName name boot)) boot)
      = ((match ((workspace.running.join (runningName name boot)).join bootIdName).refusal? with
          | some fault => .error (.ofFault fault)
          | none => .ok ()), after)) :
    moved.perform (do
        bindTo (workspace.running.join (runningName name boot)) boot
        return workspace.running.join (runningName name boot))
      = (workspace.taken name boot, after) := by
  rw [Bench.perform_bind, hbind, taken]
  cases ((workspace.running.join (runningName name boot)).join bootIdName).refusal? <;> rfl

/-- The directory of the first test in the queue moves into the running root when it is claimed, if
its new name is not too long and free there, and its new path is accepted. Then its boot id is
written. -/
theorem claim_moves {rest : List String} {own : List (String × Node)}
    (hw : workspace.root.Leads bench.files bench.here w)
    (hpending : bench.files.get? (Root.pending.place w) = some (.dir entries))
    (hname : IsPlain name) (hnode : entries.lookup name = some (.dir own))
    (hfirst : testNames entries = name :: rest)
    (hrunning : bench.files.NoFile (Root.running.place w))
    (hfree : runningName name boot ∉ bench.files.namesAt (Root.running.place w))
    (hshort : (runningName name boot).utf8ByteSize ≤ nameLimit)
    (haccepted : (workspace.running.join (runningName name boot)).refusal? = none) :
    ∃ moved beside, bench.perform (workspace.claim boot) = moved.perform (do
          bindTo (workspace.running.join (runningName name boot)) boot
          return workspace.running.join (runningName name boot))
      ∧ workspace.Runs w (runningName name boot) moved
      ∧ moved.files.get? (Root.running.place w ++ [runningName name boot]) = some (.dir own)
      ∧ moved.files.get? (Root.pending.place w) = some (.dir (Named.erase name entries))
      ∧ moved.files.get? (Root.running.place w)
        = some (.dir (Named.set (runningName name boot) (.dir own) beside))
      ∧ Named.names beside = bench.files.namesAt (Root.running.place w) := by
  have hplain := isPlain_runningName hname boot
  have hwaiting := waiting_accepted hname haccepted
  have htests : bench.perform (testsIn workspace.pending)
      = (.ok (workspace.pending.join name :: rest.map workspace.pending.join), bench) := by
    rw [perform_testsIn, entriesAt_pending hw
      (Path.refusal?_of_join pendingName_isPlain hname hwaiting) hpending]
    simp only [hfirst, List.map_cons]
  obtain ⟨made, beside, hmake, hmade, hpending', hrunning', hbeside⟩ := makeRunning_free hw
    (Path.refusal?_of_join runningName_isPlain hplain haccepted) hpending hrunning
  have hfree' : beside.lookup (runningName name boot) = none :=
    Named.lookup_eq_none.mpr (hbeside ▸ hfree)
  have hwaits : name.utf8ByteSize ≤ nameLimit := by
    refine Nat.le_trans ?_ hshort
    rw [runningName, String.utf8ByteSize_append, String.utf8ByteSize_append]
    omega
  -- The directory is renamed.
  have hroots := Root.place_apart (by decide : Root.pending ≠ .running) w
  have hbelow : ¬ Root.pending.place w ++ [name] <+: Root.running.place w := fun h =>
    hroots.1 ((List.prefix_append _ [name]).trans h)
  have hrename := FileStep.rename_join_free hname hplain
    (path_leads (r := .pending) hmade ⟨_, hpending'⟩).passThrough
    (path_leads (r := .running) hmade ⟨_, hrunning'⟩).passThrough hpending' hrunning'
    (Path.joinFault?_eq_none.mpr ⟨hwaiting, hwaits⟩)
    (Path.joinFault?_eq_none.mpr ⟨haccepted, hshort⟩) hnode hfree' hbelow
  have hmove : made.perform (FileWork.rename (workspace.pending.join name)
      (workspace.running.join (runningName name boot)))
        = (.ok (), made.stepTo ((made.files.erase (Root.pending.place w ++ [name])).put (.dir own)
          (Root.running.place w ++ [runningName name boot]))) := Bench.perform_take_ok hrename
  refine ⟨_, beside, ?_, runs_moved hmade hname ⟨beside, hrunning'⟩ hshort own,
    get?_moved ⟨beside, hrunning'⟩ name _ own, Node.get?_move_source hroots hpending' _,
    Node.get?_move_goal hroots hrunning' _, hbeside⟩
  rw [claim, Bench.perform_bind_ok htests]
  simp only
  rw [directoryName_join _ hname, Bench.perform_bind_ok (Bench.perform_ofExcept bench _),
    Bench.perform_bind_ok (Bench.perform_reportedAs_ok hmake .ofFault),
    Bench.perform_bind_ok (Bench.perform_reportedAs_ok hmove .ofFault)]

/-- The first test in the queue is taken if its new name is not too long and free in the running
root, and its new path is accepted. It leaves the queue, and the other tests stay. -/
theorem claim_first {rest : List String} (hw : workspace.root.Leads bench.files bench.here w)
    (hpending : bench.files.get? (Root.pending.place w) = some (.dir entries))
    (hunbound : ∀ entry ∈ entries, Node.IsUnbound entry.1 entry.2)
    (hfirst : testNames entries = name :: rest)
    (hrunning : bench.files.NoFile (Root.running.place w))
    (hfree : runningName name boot ∉ bench.files.namesAt (Root.running.place w))
    (hshort : (runningName name boot).utf8ByteSize ≤ nameLimit)
    (haccepted : (workspace.running.join (runningName name boot)).refusal? = none) :
    ∃ after, bench.perform (workspace.claim boot) = (workspace.taken name boot, after)
      ∧ workspace.root.Leads after.files after.here w
      ∧ after.files.get? (Root.pending.place w) = some (.dir (Named.erase name entries))
      ∧ after.files.HasDir (Root.running.place w)
      ∧ after.files.namesAt (Root.running.place w)
        = bench.files.namesAt (Root.running.place w) ++ [runningName name boot] := by
  obtain ⟨node, hnode⟩ := Named.exists_lookup (mem_testNames (hfirst ▸ List.mem_cons_self))
  obtain ⟨hname, own, rfl, hown⟩ := hunbound _ (Named.mem_of_lookup hnode)
  obtain ⟨moved, beside, hclaim, hruns, hthere, hleft, hmoved, hbeside⟩ :=
    claim_moves hw hpending hname hnode hfirst hrunning hfree hshort haccepted
  -- The boot id is written into it.
  obtain ⟨after, hbind, hinside, -⟩ := bindTo_unbound ⟨hruns.leads, hthere⟩ hown boot
  obtain ⟨_, bound, -, hafter, -⟩ := hinside.files.get?_parent hmoved
  have hnames : after.files.namesAt (Root.running.place w)
      = bench.files.namesAt (Root.running.place w) ++ [runningName name boot] := by
    rw [Node.namesAt_dir hafter, Named.set_set, Named.set_of_not_mem (hbeside ▸ hfree),
      List.map_append, ← hbeside]
    rfl
  refine ⟨after, hclaim.trans (perform_taken hbind), (hruns.inside hinside).root, ?_, ⟨_, hafter⟩,
    hnames⟩
  rw [hinside.files.get?_of_apart ((Root.place_apart
    (by decide : Root.pending ≠ .running) w).append_right [runningName name boot]).symm]
  exact hleft

/-- Claims one test after the other, each in a boot, and gives their directories. -/
def claimEach (workspace : Workspace) : List BootId → Work (List Path)
  | [] => return []
  | boot :: rest => do
    let directory ← workspace.claim boot
    return directory :: (← workspace.claimEach rest)

/-- All tests of a queue are claimed one after the other, if their new names fit and are free in the
running root. Then the queue is empty. -/
theorem claimEach_queue {boots : List BootId}
    (hw : workspace.root.Leads bench.files bench.here w)
    (hpending : bench.files.get? (Root.pending.place w) = some (.dir entries))
    (hunbound : ∀ entry ∈ entries, Node.IsUnbound entry.1 entry.2)
    (hnodup : (Named.names entries).Nodup) (hlength : (Named.names entries).length = boots.length)
    (hrunning : bench.files.NoFile (Root.running.place w))
    (hfree : ∀ name ∈ Named.names entries, ∀ boot ∈ boots,
      runningName name boot ∉ bench.files.namesAt (Root.running.place w))
    (hfits : ∀ name ∈ Named.names entries, ∀ boot ∈ boots, workspace.Fits name boot) :
    ∃ claimed after, claimed.Perm (Named.names entries)
      ∧ bench.perform (workspace.claimEach boots)
        = (.ok ((List.zipWith runningName claimed boots).map workspace.running.join), after)
      ∧ workspace.root.Leads after.files after.here w
      ∧ after.files.get? (Root.pending.place w) = some .emptyDir
      ∧ after.files.namesAt (Root.running.place w)
        = bench.files.namesAt (Root.running.place w) ++ List.zipWith runningName claimed boots := by
  induction boots generalizing bench entries with
  | nil =>
    obtain rfl : entries = [] := by simpa [Named.names] using hlength
    exact ⟨[], bench, .refl _, rfl, hw, hpending, by simp⟩
  | cons boot boots ih =>
    have hqueue := perm_testNames fun entry hentry => by
      obtain ⟨-, own, hown, -⟩ := hunbound entry hentry
      rw [hown]
      rfl
    obtain ⟨name, rest, hfirst⟩ : ∃ name rest, testNames entries = name :: rest := by
      refine List.exists_cons_of_ne_nil fun hnil => ?_
      rw [hnil] at hqueue
      rw [← hqueue.length_eq] at hlength
      cases hlength
    have hname : name ∈ Named.names entries :=
      hqueue.mem_iff.mp (hfirst ▸ List.mem_cons_self)
    have hfit := hfits name hname boot List.mem_cons_self
    have hplain : IsPlain name := by
      obtain ⟨entry, hentry, rfl⟩ := List.mem_map.mp hname
      exact (hunbound entry hentry).1
    obtain ⟨middle, hclaim, hmiddle, hpending', hdir, hnames⟩ := claim_first hw hpending hunbound
      hfirst hrunning (hfree name hname boot List.mem_cons_self) hfit.short
      (hfit.directory hplain)
    rw [hfit.taken] at hclaim
    -- The others are left, and their new names are different from that of the first.
    have hothers : ∀ other ∈ Named.names (Named.erase name entries),
        other ∈ Named.names entries ∧ other ≠ name := by
      intro other hother
      rw [Named.names_erase, List.mem_filter] at hother
      exact ⟨hother.1, of_decide_eq_true hother.2⟩
    have hperm : (Named.names entries).Perm (name :: Named.names (Named.erase name entries)) := by
      obtain ⟨front, back, hsplit⟩ := List.append_of_mem hname
      rw [Named.names_erase]
      refine ((List.Perm.of_eq hsplit).trans List.perm_middle).trans (.cons name ?_)
      exact (Agrees.perm_filter (.of_eq hsplit) hnodup).symm
    obtain ⟨claimed, after, hclaimed, hrest, hafter, hempty, hnames'⟩ := ih hmiddle hpending'
      (fun entry hentry => hunbound entry (List.mem_filter.mp hentry).1)
      (List.nodup_cons.mp (hperm.nodup_iff.mp hnodup)).2
      (by simpa using hperm.length_eq.symm.trans hlength) hdir.noFile
      (fun other hother boot' hboot' hmem => by
        obtain ⟨hother, hne⟩ := hothers other hother
        rw [hnames, List.mem_append, List.mem_singleton] at hmem
        rcases hmem with hmem | hmem
        · exact hfree other hother boot' (List.mem_cons_of_mem _ hboot') hmem
        · exact hne (runningName_inj hmem).1)
      (fun other hother boot' hboot' =>
        hfits other (hothers other hother).1 boot' (List.mem_cons_of_mem _ hboot'))
    refine ⟨name :: claimed, after, (hclaimed.cons name).trans hperm.symm, ?_, hafter, hempty, ?_⟩
    · rw [claimEach, Bench.perform_bind_ok hclaim]
      exact Bench.perform_bind_ok hrest _
    · rw [hnames', hnames, List.append_assoc]
      rfl

/-- In an empty queue there is no test to claim. -/
theorem claim_empty (hw : workspace.root.Leads bench.files bench.here w)
    (haccepted : workspace.pending.refusal? = none)
    (hpending : bench.files.get? (Root.pending.place w) = some .emptyDir) (boot : BootId) :
    bench.perform (workspace.claim boot) = (.error (.noPendingTests workspace.pending), bench) := by
  have htests : bench.perform (testsIn workspace.pending) = (.ok [], bench) := by
    rw [perform_testsIn, entriesAt_pending hw haccepted hpending]
    simp only [testNames_nil, List.map_nil]
  rw [claim, Bench.perform_bind_ok htests]
  rfl

/-- The first test in the queue is not claimed if its new name is too long. -/
theorem claim_tooLong {rest : List String} (hw : workspace.root.Leads bench.files bench.here w)
    (haccepted : workspace.pending.refusal? = none)
    (hpending : bench.files.get? (Root.pending.place w) = some (.dir entries))
    (hfirst : testNames entries = name :: rest) (hname : IsPlain name)
    (hlong : nameLimit < (runningName name boot).utf8ByteSize) :
    ∃ failure after, bench.perform (workspace.claim boot) = (.error failure, after)
      ∧ workspace.root.Leads after.files after.here w
      ∧ after.files.get? (Root.pending.place w) = some (.dir entries) := by
  have htests : bench.perform (testsIn workspace.pending)
      = (.ok (workspace.pending.join name :: rest.map workspace.pending.join), bench) := by
    rw [perform_testsIn, entriesAt_pending hw haccepted hpending]
    simp only [hfirst, List.map_cons]
  have hdir : bench.files.HasDir (Root.pending.place w) := ⟨entries, hpending⟩
  rw [claim, Bench.perform_bind_ok htests]
  simp only
  rw [directoryName_join _ hname, Bench.perform_bind_ok (Bench.perform_ofExcept bench _)]
  rcases makeRunning_cases hw hdir.above with ⟨fault, hmake⟩ | ⟨made, hmake, hmade, hplace⟩
  · exact ⟨_, bench, Bench.perform_bind_error (Bench.perform_reportedAs_error hmake .ofFault) _, hw,
      hpending⟩
  rw [Bench.perform_bind_ok (Bench.perform_reportedAs_ok hmake .ofFault)]
  obtain ⟨own, hown⟩ := hplace
  have hroot := (hmade.spared hw).root
  have hpending' : made.files.get? (Root.pending.place w) = some (.dir entries) := by
    rw [← List.append_nil (Root.pending.place w), hmade.get?_other (by decide), List.append_nil,
      hpending]
  have hrename : ∃ fault, made.perform (FileWork.rename (workspace.pending.join name)
      (workspace.running.join (runningName name boot))) = (.error fault, made) := by
    rw [FileWork.rename, Bench.perform_take]
    cases hstep : FileStep.rename (workspace.pending.join name)
      (workspace.running.join (runningName name boot)) made.files made.here with
    | error fault => exact ⟨fault, rfl⟩
    | ok files =>
      obtain ⟨-, hfault, -⟩ := FileStep.rename_join_ok hname (isPlain_runningName hname boot)
        (path_leads (r := .pending) hroot ⟨_, hpending'⟩).passThrough
        (path_leads (r := .running) hroot ⟨own, hown⟩).passThrough hpending' hown hstep
      exact absurd (Path.joinFault?_eq_none.mp hfault).2 (Nat.not_le.mpr hlong)
  obtain ⟨fault, hrename⟩ := hrename
  exact ⟨_, made, Bench.perform_bind_error (Bench.perform_reportedAs_error hrename .ofFault) _,
    hroot, hpending'⟩

/-- While tests wait no batch is enrolled. -/
theorem enrollRows_refused {entry : String × Node}
    (hw : workspace.root.Leads bench.files bench.here w)
    (haccepted : workspace.pending.refusal? = none)
    (hpending : bench.files.get? (Root.pending.place w) = some (.dir (entry :: entries)))
    (template : String) (header : List String) (rows : List (Except Error Scenario)) :
    bench.perform (workspace.enrollRows template header rows)
      = (.error (.pendingTests workspace.pending), bench) := by
  have hoccupied : bench.perform (isOccupied workspace.pending) = (.ok true, bench) := by
    rw [perform_isOccupied, entriesAt_pending hw haccepted hpending]
    rfl
  rw [enrollRows, Bench.perform_bind_ok hoccupied]
  rfl

end Workspace

/-- What can be tried to get on with a queue. -/
inductive Attempt where
  /-- To claim the first test in a boot. -/
  | claim (boot : BootId)
  /-- To enroll a batch. -/
  | enroll (template : String) (header : List String) (rows : List (Except Error Scenario))

/-- The work of an attempt. -/
def Attempt.work (workspace : Workspace) : Attempt → Work Unit
  | .claim boot => do let _ ← workspace.claim boot
  | .enroll template header rows => do let _ ← workspace.enrollRows template header rows

/-- Attempts, one after the other, all fail, and the pending root is the same all the time. -/
def Workspace.Blocks (workspace : Workspace) (w : Place) : List Attempt → Bench → Prop
  | [], _ => True
  | attempt :: rest, bench => ∃ failure after,
    bench.perform (attempt.work workspace) = (.error failure, after)
      ∧ after.files.get? (Root.pending.place w) = bench.files.get? (Root.pending.place w)
      ∧ workspace.Blocks w rest after

namespace Workspace

variable {workspace : Workspace} {w : Place} {bench : Bench} {name : String}
  {entries : List (String × Node)}

/-- A test whose new name is too long in every boot that is tried stays first in the queue. -/
theorem blocks_of_tooLong {rest : List String} {attempts : List Attempt}
    (hw : workspace.root.Leads bench.files bench.here w)
    (haccepted : workspace.pending.refusal? = none)
    (hpending : bench.files.get? (Root.pending.place w) = some (.dir entries))
    (hfirst : testNames entries = name :: rest) (hname : IsPlain name)
    (hlong : ∀ boot, .claim boot ∈ attempts → nameLimit < (runningName name boot).utf8ByteSize) :
    workspace.Blocks w attempts bench := by
  induction attempts generalizing bench with
  | nil => trivial
  | cons attempt more ih =>
    have hmore : ∀ boot, .claim boot ∈ more → nameLimit < (runningName name boot).utf8ByteSize :=
      fun boot hboot => hlong boot (List.mem_cons_of_mem _ hboot)
    cases attempt with
    | claim boot =>
      obtain ⟨failure, after, hclaim, hafter, hsame⟩ := claim_tooLong hw haccepted hpending hfirst
        hname (hlong boot List.mem_cons_self)
      exact ⟨failure, after, Bench.perform_bind_error hclaim _, hsame.trans hpending.symm,
        ih hafter hsame hmore⟩
    | enroll template header rows =>
      cases entries with
      | nil => cases testNames_nil.symm.trans hfirst
      | cons entry entries =>
        have hrefused := enrollRows_refused hw haccepted hpending template header rows
        exact ⟨_, bench, Bench.perform_bind_error hrefused _, rfl, ih hw hpending hmore⟩

/-- The tests of a batch have not been bound to a boot. -/
theorem isUnbound_of_batch {template : String} {header : List String} {scenarios : List Scenario}
    {root : Node} {d : Place} {names : List String}
    (h : root.get? d = some (.dir (batchFrom template header 1 scenarios)))
    (hholds : root.HoldsTests d names) :
    ∀ entry ∈ batchFrom template header 1 scenarios, Node.IsUnbound entry.1 entry.2 := by
  intro entry hentry
  refine ⟨((hholds.entries h).2.2 entry hentry).plain, ?_⟩
  obtain ⟨number, scenario, -, -, rfl⟩ := mem_batchFrom hentry
  exact ⟨_, rfl, rfl⟩

/-- When a batch has been enrolled all of its tests can be claimed one after the other, in any boots,
if their new names fit and are free in the running root; then none is left. But if the new name of
the first one is too long in every boot that is tried, no test is claimed and no batch is enrolled
ever after. -/
theorem enrollRows_claimable {template : String} {header : List String}
    {rows : List (Except Error Scenario)} {start last : Bench} {directories : List Path}
    (hw : workspace.root.Leads start.files start.here w)
    (h : start.perform (workspace.enrollRows template header rows) = (.ok directories, last)) :
    ∃ scenarios, rows = scenarios.map .ok
      ∧ directories = (batchFrom template header 1 scenarios).names.map workspace.pending.join
      ∧ (∀ boots : List BootId, boots.length = scenarios.length →
        last.files.NoFile (Root.running.place w) →
        (∀ name ∈ (batchFrom template header 1 scenarios).names, ∀ boot ∈ boots,
          runningName name boot ∉ last.files.namesAt (Root.running.place w)
            ∧ workspace.Fits name boot) →
        ∃ claimed after, claimed.Perm (batchFrom template header 1 scenarios).names
          ∧ last.perform (workspace.claimEach boots)
            = (.ok ((List.zipWith runningName claimed boots).map workspace.running.join), after)
          ∧ after.files.namesAt (Root.running.place w)
            = last.files.namesAt (Root.running.place w) ++ List.zipWith runningName claimed boots
          ∧ after.files.get? (Root.pending.place w) = some .emptyDir
          ∧ ∀ boot, (after.perform (workspace.claim boot)).1
            = .error (.noPendingTests workspace.pending))
      ∧ ∀ name rest attempts, testNames (batchFrom template header 1 scenarios) = name :: rest →
        (∀ boot, .claim boot ∈ attempts → nameLimit < (runningName name boot).utf8ByteSize) →
        workspace.Blocks w attempts last := by
  rcases enrollRows_cases hw template header rows with ⟨failure, after, hperform, -⟩ |
    ⟨scenarios, middle, files, hrows, -, hperform, hmiddle, -, hpublishes, hbatch, htests, haccepted,
      -⟩
  · cases h.symm.trans hperform
  obtain ⟨hdirectories, rfl⟩ := Prod.mk.inj (h.symm.trans hperform)
  have hleads : workspace.root.Leads (middle.stepTo files).files (middle.stepTo files).here w :=
    hmiddle.here ▸ hpublishes.leads
  have hpending := hpublishes.pending.trans hbatch
  have hunbound := isUnbound_of_batch hbatch htests
  refine ⟨scenarios, hrows, Except.ok.inj hdirectories, fun boots hlength hrunning hboots => ?_,
    fun name rest attempts hfirst hlong => ?_⟩
  · obtain ⟨claimed, after, hclaimed, hclaims, hafter, hempty, hnames⟩ := claimEach_queue hleads
      hpending hunbound (nodup_names_batchFrom ..) (by rw [length_names_batchFrom, hlength]) hrunning
      (fun name hname boot hboot => (hboots name hname boot hboot).1)
      (fun name hname boot hboot => (hboots name hname boot hboot).2)
    exact ⟨claimed, after, hclaimed, hclaims, hnames, hempty, fun boot => by
      rw [claim_empty hafter haccepted hempty]⟩
  · have hname : name ∈ Named.names (batchFrom template header 1 scenarios) :=
      mem_testNames (hfirst ▸ List.mem_cons_self)
    obtain ⟨entry, hentry, rfl⟩ := List.mem_map.mp hname
    exact blocks_of_tooLong hleads haccepted hpending hfirst (hunbound entry hentry).1 hlong

end Workspace

/-- A workspace with nothing in it. -/
def bareBench : Bench where
  files := .dir []
  here := []
  home := .ofText "/"
  searchPath := []
  color := false

/-- The path of this workspace is short. -/
theorem bareWorkspace_isShallow : (Settings.workspace {}).IsShallow :=
  ⟨by decide +kernel, by decide +kernel⟩

/-- A boot with an id as long as those of a machine. -/
def longBoot : BootId := ⟨"0123456789abcdef0123456789abcdef", by decide⟩

/-- A template whose tests have long names. -/
def longTemplate : String := String.ofList (List.replicate 215 'p')

/-- All that stands in a text of one letter is this letter. -/
theorem eq_of_mem_replicate {n : Nat} {letter c : Char}
    (h : c ∈ (String.ofList (List.replicate n letter)).toList) : c = letter := by
  rw [String.toList_ofList] at h
  exact (List.mem_replicate.mp h).2

/-- A batch of one test is admitted if there is room for it. -/
theorem Workspace.admits_single {template : String} {scenario : Scenario}
    (h : (Settings.workspace {}).HasRoom (pendingName 1 template scenario)) :
    (Settings.workspace {}).AdmitsFrom template scenario.names 1 [.ok scenario] := by
  refine ⟨[scenario], rfl, by simp, fun name hname => ?_⟩
  rw [List.mem_singleton.mp hname]
  exact h

set_option maxRecDepth 100000 in
/-- A test with a short name is enrolled and claimed. A test with a long name is enrolled as well, but
it cannot be claimed, and then nothing else is enrolled. -/
theorem Workspace.enrollRows_claimable_long :
    (∃ last after, bareBench.perform ((Settings.workspace {}).enrollRows "power" ["mode"]
          [.ok ⟨[("mode", "deep")]⟩])
        = (.ok [(Settings.workspace {}).pending.join "1-power--mode-deep"], last)
      ∧ last.perform ((Settings.workspace {}).claimEach [longBoot])
        = (.ok [(Settings.workspace {}).running.join (runningName "1-power--mode-deep" longBoot)],
          after))
      ∧ ∃ directories last, bareBench.perform ((Settings.workspace {}).enrollRows longTemplate
          ["mode"] [.ok ⟨[("mode", "deep")]⟩]) = (.ok directories, last)
        ∧ (Settings.workspace {}).Blocks [] [.claim longBoot, .enroll "power" ["mode"] [],
          .claim longBoot] last := by
  have hroot : (Settings.workspace {}).root.Leads bareBench.files bareBench.here [] :=
    Path.leads_dot ⟨_, rfl⟩
  constructor
  · have hfacts : (bareBench.perform ((Settings.workspace {}).enrollRows "power" ["mode"]
          [.ok ⟨[("mode", "deep")]⟩])).1
          = .ok [(Settings.workspace {}).pending.join "1-power--mode-deep"]
        ∧ ((bareBench.perform ((Settings.workspace {}).enrollRows "power" ["mode"]
          [.ok ⟨[("mode", "deep")]⟩])).2.files.get? (Root.running.place [])).isNone = true
        ∧ pendingName 1 "power" ⟨[("mode", "deep")]⟩ = "1-power--mode-deep"
        ∧ (runningName "1-power--mode-deep" longBoot).utf8ByteSize ≤ nameLimit := by
      decide +kernel
    obtain ⟨hresult, hnone, hname, hshort⟩ := hfacts
    have henrolled := Bench.perform_eq hresult
    generalize (bareBench.perform ((Settings.workspace {}).enrollRows "power" ["mode"]
      [.ok ⟨[("mode", "deep")]⟩])).2 = last at henrolled hnone
    obtain ⟨scenarios, hrows, -, hclaims, -⟩ := enrollRows_claimable hroot henrolled
    obtain rfl := rows_single hrows
    have hnames : (batchFrom "power" ["mode"] 1 [⟨[("mode", "deep")]⟩]).names
        = ["1-power--mode-deep"] := congrArg (fun name => [name]) hname
    rw [hnames] at hclaims
    obtain ⟨claimed, after, hperm, hclaim, -⟩ := hclaims [longBoot] rfl
      (Node.noFile_of_none (Option.isNone_iff_eq_none.mp hnone)) fun name hname boot hboot => by
        obtain rfl := List.mem_singleton.mp hname
        obtain rfl := List.mem_singleton.mp hboot
        refine ⟨?_, .of_isShallow bareWorkspace_isShallow
          (isPlain_of_length (by decide) (by decide)) (by decide +kernel) hshort⟩
        rw [Node.namesAt, Option.isNone_iff_eq_none.mp hnone]
        exact List.not_mem_nil
    obtain rfl := List.perm_singleton.mp hperm
    exact ⟨last, after, henrolled, hclaim⟩
  · have hslash : '/' ∉ longTemplate.toList := fun h => absurd (eq_of_mem_replicate (n := 215) h) (by decide)
    have hnul : '\x00' ∉ (pendingName 1 longTemplate ⟨[("mode", "deep")]⟩).toList := by
      have hparts : '\x00' ∉ (toString 1).toList ∧ '\x00' ∉ "-".toList ∧ '\x00' ∉ separator.toList
          ∧ '\x00' ∉ (Scenario.fragment ⟨[("mode", "deep")]⟩).toList := by decide +kernel
      simp only [pendingName, logPrefix, String.toList_append, List.mem_append, not_or]
      exact ⟨⟨⟨⟨hparts.1, hparts.2.1⟩, fun h => absurd (eq_of_mem_replicate (n := 215) h) (by decide)⟩,
        hparts.2.2.1⟩, hparts.2.2.2⟩
    have hadmits : (Settings.workspace {}).AdmitsFrom longTemplate ["mode"] 1
        [.ok ⟨[("mode", "deep")]⟩] :=
      admits_single (.of_isShallow bareWorkspace_isShallow (isPlain_pendingName hslash 1 _) hnul
        (by decide +kernel))
    have hready : (Settings.workspace {}).IsReady [] bareBench.files :=
      ⟨by decide, Node.noFile_of_none rfl, Node.noFile_of_none rfl, .inl rfl⟩
    obtain ⟨scenarios, last, -, hperform, -⟩ := enrollRows_ready hroot hready hadmits
    obtain ⟨scenarios', hrows, -, -, hblocks⟩ := enrollRows_claimable hroot hperform
    obtain rfl := rows_single hrows
    refine ⟨_, last, hperform, hblocks (pendingName 1 longTemplate ⟨[("mode", "deep")]⟩) [] _
      (by simp [testNames, batchFrom, Node.isDir]) fun boot hboot => ?_⟩
    obtain rfl : boot = longBoot := by simpa using hboot
    decide +kernel

end BootTrial
