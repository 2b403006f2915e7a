import BootTrial.Proofs.Removal
import BootTrial.Proofs.Run

/-!
# Closing a test

A test that runs has its directory in the running root (`Workspace.Runs`). To close it is to move
this directory into the results root, which is made if it is missing. The results root refuses the
directory if and only if it holds an entry of this name already, or is no directory
(`Trial.moveToResults_cases`): the path of the result is shorter than the path of the directory, so
that it is never refused for its length.
-/

namespace BootTrial

/-- The directory of a test stands in the running root of a workspace. -/
structure Workspace.Runs (workspace : Workspace) (w : Place) (name : String) (bench : Bench) :
    Prop where
  /-- The workspace is where its path leads. -/
  root : workspace.root.Leads bench.files bench.here w
  /-- The name is that of one entry. -/
  plain : IsPlain name
  /-- The name is not too long. -/
  short : name.utf8ByteSize ≤ nameLimit
  /-- The directory stands. -/
  dir : bench.files.HasDir (Root.running.place w ++ [name])

/-- The directory at a place could take another entry under a name; where there is none it could be
made. -/
def Node.IsFree (root : Node) (d : Place) (name : String) : Prop :=
  root.get? (d ++ [name]) = none ∧ ∀ content runnable, root.get? d ≠ some (.file content runnable)

/-- A directory could take another entry under a name that none of its entries has. -/
theorem Node.isFree_dir {root : Node} {d : Place} {entries : List (String × Node)}
    (h : root.get? d = some (.dir entries)) {name : String} :
    root.IsFree d name ↔ entries.lookup name = none := by
  unfold IsFree
  rw [get?_snoc h, h]
  simp

/-- A directory that is missing could be made and take any entry. -/
theorem Node.isFree_missing {root : Node} {d : Place} (h : root.get? d = none) (name : String) :
    root.IsFree d name := by
  refine ⟨?_, by simp [h]⟩
  rw [get?_append, h]
  rfl

/-- Between two benches nothing has happened, but that a missing results root may have been made. -/
def Bench.ResultsMade (w : Place) (before after : Bench) : Prop :=
  after = before ∨ (before.files.get? (Root.results.place w) = none
    ∧ after = before.stepTo (before.files.put .emptyDir (Root.results.place w)))

namespace Path

/-- A path is not refused for its text if another one is not whose text is no shorter and has the
same characters. -/
theorem refusal?_of_le {p q : Path} (h : p.refusal? = none)
    (hsize : q.text.utf8ByteSize ≤ p.text.utf8ByteSize)
    (hchars : ∀ c ∈ q.text.toList, c ∈ p.text.toList ∨ c ≠ '\x00') : q.refusal? = none := by
  rw [refusal?_eq_none] at h ⊢
  refine ⟨fun hnul => ?_, Nat.lt_of_le_of_lt hsize h.2⟩
  rcases hchars _ hnul with hnul' | hne
  · exact h.1 hnul'
  · exact hne rfl

/-- The front of a path that is made by joining is the path. -/
theorem text_join_join (p : Path) {name other : String} (h : IsPlain name)
    (hother : IsPlain other) :
    ((p.join name).join other).text = (p.join name).text ++ "/" ++ other := by
  have hpath : (⟨p.front ++ [name]⟩ : Path) = p.join name := by rw [← p.segments_join h]
  rw [(p.join name).text_join hother, p.front_join h, if_neg (by simp), hpath]

/-- A path is not refused for its text if a longer one is not. -/
theorem refusal?_of_join {p : Path} {name other : String} (h : IsPlain name)
    (hother : IsPlain other) (hlong : ((p.join name).join other).refusal? = none) :
    (p.join name).refusal? = none := by
  refine refusal?_of_le hlong ?_ fun c hc => ?_
  · rw [p.text_join_join h hother, String.utf8ByteSize_append, String.utf8ByteSize_append]
    omega
  · rw [p.text_join_join h hother]
    simp [hc]

end Path

namespace Workspace

variable {workspace : Workspace} {w : Place} {name : String} {bench after : Bench}

/-- The path of the result of a test is no longer than that of its directory, and has no other
characters but such as are always taken. -/
theorem results_text (workspace : Workspace) (hname : IsPlain name) :
    (workspace.results.join name).text.utf8ByteSize
        ≤ (workspace.running.join name).text.utf8ByteSize
      ∧ ∀ c ∈ (workspace.results.join name).text.toList,
        c ∈ (workspace.running.join name).text.toList ∨ c ≠ '\x00' := by
  have hrunning : (workspace.running.join name).text
      = (workspace.root.join "runtime").text ++ "/" ++ "running" ++ "/" ++ name := by
    rw [running, runtime, Path.text_join_join _ runningName_isPlain hname,
      Path.text_join_join _ runtimeName_isPlain runningName_isPlain]
  refine ⟨?_, fun c hc => ?_⟩
  · rw [hrunning, results, Path.text_join_join _ resultsName_isPlain hname,
      Path.text_join _ resultsName_isPlain, Path.text_join _ runtimeName_isPlain]
    simp only [String.utf8ByteSize_append]
    have hsizes : "results".utf8ByteSize ≤ "runtime".utf8ByteSize := by decide
    omega
  · rw [results, Path.text_join_join _ resultsName_isPlain hname,
      Path.text_join _ resultsName_isPlain] at hc
    rw [hrunning, Path.text_join _ runtimeName_isPlain]
    simp only [String.toList_append, List.mem_append] at hc ⊢
    rcases hc with ((hc | hc) | hc) | hc
    · exact .inl (.inl (.inl (.inl (.inl (.inl hc)))))
    · refine .inr ?_
      rintro rfl
      exact absurd hc (by decide)
    · exact .inl (.inl (.inr hc))
    · exact .inl (.inr hc)

/-- The path of the result of a test is not refused if that of its directory is not. -/
theorem results_refusal? (hname : IsPlain name)
    (h : (workspace.running.join name).refusal? = none) :
    (workspace.results.join name).refusal? = none ∧ workspace.results.refusal? = none := by
  obtain ⟨hsize, hchars⟩ := workspace.results_text hname
  have hresults := Path.refusal?_of_le h hsize hchars
  exact ⟨hresults, Path.refusal?_of_join resultsName_isPlain hname hresults⟩

namespace Runs

/-- The path of the directory of a test leads to it. -/
theorem leads (h : workspace.Runs w name bench) :
    (workspace.running.join name).Leads bench.files bench.here
      (Root.running.place w ++ [name]) :=
  (path_leads (r := .running) h.root h.dir.above).join h.plain h.short h.dir

/-- The directory of a test stands on when it changes. -/
theorem inside {keep : String → Prop} {kind : Event → Prop} (h : workspace.Runs w name bench)
    (hinside : Bench.Inside (Root.running.place w ++ [name]) keep kind bench after) :
    workspace.Runs w name after := by
  refine ⟨?_, h.plain, h.short, hinside.files.hasDir⟩
  obtain ⟨entries, entries', hentries, hfiles, -⟩ := hinside.files
  rw [hinside.here, hfiles]
  exact h.root.put_in .running [name] _

/-- The directory of a test stands on while the files do not change. -/
theorem quiet {kind : Event → Prop} (h : workspace.Runs w name bench)
    (hquiet : Bench.Quiet kind bench after) : workspace.Runs w name after := by
  refine ⟨?_, h.plain, h.short, ?_⟩
  · rw [hquiet.here, hquiet.files]
    exact h.root
  · rw [hquiet.files]
    exact h.dir

/-- The directory of a test stands on when the results root is made. -/
theorem resultsMade (h : workspace.Runs w name bench) (hmade : Bench.ResultsMade w bench after) :
    workspace.Runs w name after := by
  rcases hmade with rfl | ⟨-, rfl⟩
  · exact h
  · refine ⟨h.root.put_below (by simp) _, h.plain, h.short, ?_⟩
    obtain ⟨entries, hentries⟩ := h.dir
    refine ⟨entries, ?_⟩
    have hapart : Place.Apart (Root.results.place w) (Root.running.place w ++ [name]) :=
      (Root.place_apart (by decide) w).append_right _
    exact (Node.get?_put_of_apart hapart _ _).trans hentries

end Runs

end Workspace

namespace Trial

variable {workspace : Workspace} {w : Place} {name : String} {bench : Bench}

/-- What is left of moving a directory into the results root once this is there. -/
def moveInto (directory results : Path) : Work Path := do
  let name ← Work.ofExcept (directoryName directory)
  let goal := results.join name
  if (← get).hasEntry goal then
    throw (.internal
      ("Cannot finalize " ++ directory.text ++ ": " ++ goal.text ++ " already exists"))
  (FileWork.rename directory goal).reportedAs .ofFault
  return goal

/-- Moving the directory of a test into the results root, which stands. -/
theorem moveInto_cases (h : workspace.Runs w name bench)
    (hdir : bench.files.HasDir (Root.results.place w)) :
    (∃ failure, bench.perform (moveInto (workspace.running.join name) workspace.results)
          = (.error failure, bench)
        ∧ ((workspace.running.join name).refusal? = none →
          ¬ bench.files.IsFree (Root.results.place w) name))
      ∨ ∃ own, bench.files.get? (Root.running.place w ++ [name]) = some (.dir own)
        ∧ bench.files.IsFree (Root.results.place w) name
        ∧ bench.perform (moveInto (workspace.running.join name) workspace.results)
          = (.ok (workspace.results.join name),
            bench.stepTo ((bench.files.erase (Root.running.place w ++ [name])).put (.dir own)
              (Root.results.place w ++ [name]))) := by
  obtain ⟨entries, hentries⟩ := hdir
  obtain ⟨running, hrunning⟩ := h.dir.above
  obtain ⟨own, hown⟩ := h.dir
  have hsource := Workspace.path_leads (r := .running) h.root ⟨running, hrunning⟩
  have hgoal := Workspace.path_leads (r := .results) h.root ⟨entries, hentries⟩
  have hlookup : running.lookup name = some (.dir own) := by
    rw [← Node.get?_snoc hrunning, hown]
  have hbelow : ¬ Root.running.place w ++ [name] <+: Root.results.place w := by
    intro hbegins
    exact (Root.place_apart (by decide : Root.running ≠ .results) w).1
      ((List.prefix_append _ _).trans hbegins)
  have hname : bench.perform (Work.ofExcept (directoryName (workspace.running.join name)))
      = (.ok name, bench) := by
    rw [Bench.perform_ofExcept, directoryName_join _ h.plain]
  unfold moveInto
  rw [Bench.perform_bind_ok hname, Bench.perform_bind_ok (Bench.perform_get bench),
    Node.isFree_dir hentries]
  have hnode : bench.nodeAt (workspace.results.join name) = _ :=
    Path.node_join h.plain hgoal.passThrough hentries
  by_cases hentry : bench.hasEntry (workspace.results.join name) = true
  · -- Something lies there already.
    refine .inl ⟨_, by rw [if_pos hentry]; rfl, fun _ hfree => ?_⟩
    rw [Bench.hasEntry, hnode, hfree] at hentry
    cases hfault : workspace.results.joinFault? name <;> simp [hfault, Except.isOk, Except.toBool]
      at hentry
  · rw [if_neg hentry]
    simp only [FileWork.rename, Bench.perform_bind, Bench.perform_reportedAs, Bench.perform_take,
      Bench.perform_pure]
    cases hrename : FileStep.rename (workspace.running.join name) (workspace.results.join name)
        bench.files bench.here with
    | ok files =>
      right
      obtain ⟨-, hfault, node, hnode', hmove⟩ := FileStep.rename_join_ok h.plain h.plain
        hsource.passThrough hgoal.passThrough hrunning hentries hrename
      have hfault' : workspace.results.joinFault? name = none := hfault
      have hfree : entries.lookup name = none := by
        cases hlook : entries.lookup name with
        | none => rfl
        | some node => simp [Bench.hasEntry, hnode, hfault', hlook, Except.isOk, Except.toBool]
            at hentry
      rw [hfree] at hmove
      obtain ⟨-, rfl⟩ := FileStep.moveTo_free_ok hmove
      rw [hlookup] at hnode'
      cases hnode'
      exact ⟨own, hown, hfree, rfl⟩
    | error fault =>
      refine .inl ⟨_, rfl, fun hrefusal hfree => ?_⟩
      obtain ⟨hrefusal', -⟩ := Workspace.results_refusal? h.plain hrefusal
      have hok := FileStep.rename_join_free h.plain h.plain hsource.passThrough hgoal.passThrough
        hrunning hentries (Path.joinFault?_eq_none.mpr ⟨hrefusal, h.short⟩)
        (Path.joinFault?_eq_none.mpr ⟨hrefusal', h.short⟩) hlookup hfree hbelow
      exact absurd (hrename.symm.trans hok) (by simp)

/-- Moving the directory of a test into the results root: it is refused, and then the root was not
free for it; or it lies there afterwards. In either case a missing root may have been made. -/
theorem moveToResults_cases (h : workspace.Runs w name bench) :
    ∃ ready, Bench.ResultsMade w bench ready ∧
      ((∃ failure, bench.perform (moveToResults (workspace.running.join name) workspace.results)
            = (.error failure, ready)
          ∧ ((workspace.running.join name).refusal? = none →
            ¬ bench.files.IsFree (Root.results.place w) name))
        ∨ ∃ own, ready.files.get? (Root.running.place w ++ [name]) = some (.dir own)
          ∧ ready.files.HasDir (Root.results.place w)
          ∧ bench.files.IsFree (Root.results.place w) name
          ∧ bench.perform (moveToResults (workspace.running.join name) workspace.results)
            = (.ok (workspace.results.join name),
              ready.stepTo ((ready.files.erase (Root.running.place w ++ [name])).put (.dir own)
                (Root.results.place w ++ [name])))) := by
  obtain ⟨top, htop⟩ := h.root.dir
  have hmake : bench.perform (FileWork.makeDirs workspace.results) = _ :=
    FileWork.perform_makeDirs_join resultsName_isPlain h.root.passThrough htop
  have hplace : bench.files.get? (Root.results.place w) = top.lookup "results" :=
    Node.get?_snoc htop "results"
  have hmove : ∀ {ready : Bench},
      bench.perform (FileWork.makeDirs workspace.results) = (.ok (), ready) →
      bench.perform (moveToResults (workspace.running.join name) workspace.results)
        = ready.perform (moveInto (workspace.running.join name) workspace.results) :=
    fun hready => Bench.perform_bind_ok (Bench.perform_reportedAs_ok hready .ofFault) _
  have hfails : ∀ {fault : FileFault},
      bench.perform (FileWork.makeDirs workspace.results) = (.error fault, bench) →
      bench.perform (moveToResults (workspace.running.join name) workspace.results)
        = (.error (.ofFault fault), bench) :=
    fun hfault => Bench.perform_bind_error (Bench.perform_reportedAs_error hfault .ofFault) _
  cases hfault : workspace.root.joinFault? "results" with
  | some fault =>
    rw [hfault] at hmake
    refine ⟨bench, .inl rfl, .inl ⟨_, hfails hmake, fun hrefusal _ => ?_⟩⟩
    have hnone := Path.joinFault?_eq_none.mpr
      ⟨(Workspace.results_refusal? h.plain hrefusal).2, (by decide : "results".utf8ByteSize ≤ _)⟩
    exact absurd (hfault.symm.trans hnone) (by simp)
  | none =>
    rw [hfault] at hmake
    rcases hlook : top.lookup "results" with _ | ⟨content, runnable⟩ | entries
    all_goals rw [hlook] at hplace hmake
    · -- The results root is made.
      have hmade : Bench.ResultsMade w bench
          (bench.stepTo (bench.files.put .emptyDir (Root.results.place w))) := .inr ⟨hplace, rfl⟩
      have hempty : (bench.files.put .emptyDir (Root.results.place w)).get?
          (Root.results.place w) = some (.dir []) := Node.get?_put_self htop _ _
      have hfree : bench.files.IsFree (Root.results.place w) name :=
        Node.isFree_missing hplace name
      refine ⟨_, hmade, ?_⟩
      rw [hmove hmake]
      rcases moveInto_cases (h.resultsMade hmade) ⟨[], hempty⟩ with
        ⟨failure, hperform, hnot⟩ | ⟨own, hown, -, hperform⟩
      · refine .inl ⟨failure, hperform, fun hrefusal => ?_⟩
        exact absurd ((Node.isFree_dir hempty).mpr rfl) (hnot hrefusal)
      · exact .inr ⟨own, hown, ⟨[], hempty⟩, hfree, hperform⟩
    · exact ⟨bench, .inl rfl, .inl ⟨_, hfails hmake, fun _ hfree => hfree.2 content runnable hplace⟩⟩
    · have hdir : bench.files.HasDir (Root.results.place w) := ⟨entries, hplace⟩
      refine ⟨bench, .inl rfl, ?_⟩
      rw [hmove hmake]
      rcases moveInto_cases h hdir with hfailed | ⟨own, hown, hfree, hperform⟩
      · exact .inl hfailed
      · exact .inr ⟨own, hown, hdir, hfree, hperform⟩

end Trial

end BootTrial
