import BootTrial.Proofs.Closing

/-!
# Making files and directories

What comes of making a directory: it is made where its path can be followed and the name is free
(`FileWork.makeDir_cases`). With the directories above it at most one more has to be made, if it
lies in a directory of a directory that is there (`FileWork.makeDirs_cases`).
-/

namespace BootTrial

namespace Node

/-- No file stands at a place. -/
def NoFile (root : Node) (place : Place) : Prop :=
  ∀ content runnable, root.get? place ≠ some (.file content runnable)

/-- What is not a file is a directory or missing. -/
theorem NoFile.cases {root : Node} {place : Place} (h : root.NoFile place) :
    root.get? place = none ∨ root.HasDir place := by
  rcases hget : root.get? place with _ | ⟨content, runnable⟩ | entries
  · exact .inl rfl
  · exact absurd hget (h content runnable)
  · exact .inr ⟨entries, hget⟩

/-- A directory is not a file. -/
theorem HasDir.noFile {root : Node} {place : Place} (h : root.HasDir place) :
    root.NoFile place := by
  obtain ⟨entries, hentries⟩ := h
  intro content runnable hfile
  rw [hentries] at hfile
  cases hfile

/-- What is missing is not a file. -/
theorem noFile_of_none {root : Node} {place : Place} (h : root.get? place = none) :
    root.NoFile place := by
  intro content runnable hfile
  rw [h] at hfile
  cases hfile

end Node

/-- A change in a directory is a change in the directory above it. -/
theorem Node.Inside.up {before after : Node} {d : Place} {name : String} {keep keep' : String → Prop}
    (h : Node.Inside (d ++ [name]) keep before after) (hname : ¬ keep' name) :
    Node.Inside d keep' before after := by
  obtain ⟨entries, entries', hentries, rfl, -⟩ := h
  exact .put_entry (hasDir_of_get?_snoc hentries) hname (.dir entries')

/-- What happens in a directory happens in the directory above it. -/
theorem Bench.Inside.up {before after : Bench} {d : Place} {name : String}
    {keep keep' : String → Prop} {kind : Event → Prop}
    (h : Bench.Inside (d ++ [name]) keep kind before after) (hname : ¬ keep' name) :
    Bench.Inside d keep' kind before after := by
  obtain ⟨moments, hmoments, hmem⟩ := h.history
  exact ⟨h.here, h.files.up hname, moments, hmoments, fun moment hin =>
    ⟨(hmem moment hin).1, (hmem moment hin).2.up hname⟩⟩

/-- A front that ends in a step is the last of the fronts of some segments. -/
theorem Path.fronts_snoc {name : String} (h : IsPlain name) (before segments : List String) :
    fronts before (segments ++ [name])
      = fronts before segments ++ [⟨before ++ (segments ++ [name])⟩] := by
  induction segments generalizing before with
  | nil => simp [fronts, isIdle_of_isPlain h]
  | cons segment rest ih =>
    rw [List.cons_append, fronts, fronts]
    split
    · rw [ih, List.append_assoc, List.singleton_append]
    · rw [ih, List.append_assoc, List.singleton_append, List.cons_append]

/-- Above a directory in a directory is this directory, and what is above it. -/
theorem Path.ancestors_join (p : Path) {name other : String} (h : IsPlain name)
    (hother : IsPlain other) :
    ((p.join name).join other).ancestors = p.join name :: (p.join name).ancestors := by
  have hname : (p.join name).segments = p.front ++ [name] := p.segments_join h
  have hpath : (⟨p.front ++ [name]⟩ : Path) = p.join name := by rw [← hname]
  rw [ancestors, ancestors, (p.join name).segments_join hother, p.front_join h, hname,
    fronts_snoc hother, fronts_snoc h]
  simp [hpath]

variable {p : Path} {root : Node} {here d : Place} {name other : String}

/-- Passing through a joined path depends on what stands under the name. -/
theorem passThrough_join {entries : List (String × Node)} (hname : IsPlain name)
    (hshort : name.utf8ByteSize ≤ nameLimit)
    (hp : passThrough root (p.start here) p.components = .ok d)
    (hd : root.get? d = some (.dir entries)) :
    passThrough root ((p.join name).start here) (p.join name).components
      = match entries.lookup name with
        | some (.dir _) => .ok (d ++ [name])
        | some (.file _ _) => .error .notDirectory
        | none => .error .notFound := by
  rw [p.start_join hname, p.components_join hname, passThrough_append, hp]
  simp only [Except.bind, passThrough, if_neg hname.ne_dot, if_neg hname.ne_dotDot,
    lookUp_of_get? hd, if_neg (Nat.not_lt.mpr hshort)]
  rcases entries.lookup name with _ | ⟨content, runnable⟩ | own <;> rfl

/-- A joined path is not followed if the path in front cannot be passed through. -/
theorem Path.approach_join_blocked {fault : FileFault} (hname : IsPlain name)
    (hp : passThrough root (p.start here) p.components = .error fault) :
    (p.join name).approach root here = .error ((p.join name).refusal?.getD fault) := by
  rw [p.approach_join_eq root here hname, hp]
  cases (p.join name).refusal? <;> rfl

/-- Making a directory under a joined path is refused, or there is one now under a name that was
free. -/
theorem FileWork.makeDir_cases {p : Path} {d : Place} {name : String} {bench : Bench}
    {entries : List (String × Node)} (hname : IsPlain name)
    (hp : passThrough bench.files (p.start bench.here) p.components = .ok d)
    (hd : bench.files.get? d = some (.dir entries)) :
    ((∃ fault, bench.perform (makeDir (p.join name)) = (.error fault, bench))
        ∧ ¬ (p.joinFault? name = none ∧ entries.lookup name = none))
      ∨ (p.joinFault? name = none ∧ entries.lookup name = none
        ∧ bench.perform (makeDir (p.join name))
          = (.ok (), bench.stepTo (bench.files.put .emptyDir (d ++ [name])))) := by
  rw [perform_makeDir_join hname hp hd]
  cases p.joinFault? name with
  | some fault => exact .inl ⟨⟨fault, rfl⟩, by simp⟩
  | none =>
    cases entries.lookup name with
    | some node => exact .inl ⟨⟨_, rfl⟩, by simp⟩
    | none => exact .inr ⟨rfl, rfl, rfl⟩

/-- Where a path cannot be followed no directory is made, and there is none. -/
theorem FileWork.makeDir_blocked {bench : Bench} {fault : FileFault}
    (h : p.approach bench.files bench.here = .error fault) :
    bench.perform (makeDir p) = (.error fault, bench) ∧ bench.hasDir p = false := by
  constructor
  · rw [makeDir, Bench.perform_take, FileStep.makeDir, h]
    rfl
  · rw [Bench.hasDir, Bench.nodeAt, Path.node, h]
    rfl

/-- Making a directory and those above it is refused where its path cannot be followed, unless the
directory above it is missing. -/
theorem FileWork.makeDirsFrom_blocked {bench : Bench} {fault : FileFault} (above : List Path)
    (h : p.approach bench.files bench.here = .error fault) (hne : fault ≠ .notFound) :
    bench.perform (makeDirsFrom (p :: above)) = (.error fault, bench) := by
  obtain ⟨hmake, hdir⟩ := makeDir_blocked h
  rw [perform_makeDirsFrom, hmake]
  cases fault <;> first
    | exact absurd rfl hne
    | simp [hdir]

/-- Making a directory that is missing and the one above it if that is missing: all steps are taken
that are needed, or one of them is refused, which happens where a file is in the way or the name is
not accepted. -/
theorem FileWork.makeDirs_cases {bench : Bench} (hname : IsPlain name) (hother : IsPlain other)
    (hshort : name.utf8ByteSize ≤ nameLimit) (hp : p.Leads bench.files bench.here d)
    (hfree : bench.hasEntry ((p.join name).join other) = false) :
    ((∃ fault, bench.perform (makeDirs ((p.join name).join other)) = (.error fault, bench))
      ∧ ¬ (bench.files.NoFile (d ++ [name]) ∧ (p.join name).joinFault? other = none))
    ∨ (bench.files.get? (d ++ [name]) = none
      ∧ (∃ fault, bench.perform (makeDirs ((p.join name).join other))
        = (.error fault, bench.stepTo (bench.files.put .emptyDir (d ++ [name]))))
      ∧ (p.join name).joinFault? other ≠ none)
    ∨ (bench.files.HasDir (d ++ [name])
      ∧ bench.perform (makeDirs ((p.join name).join other))
        = (.ok (), bench.stepTo (bench.files.put .emptyDir (d ++ [name] ++ [other]))))
    ∨ (bench.files.get? (d ++ [name]) = none
      ∧ bench.perform (makeDirs ((p.join name).join other))
        = (.ok (), (bench.stepTo (bench.files.put .emptyDir (d ++ [name]))).stepTo
          ((bench.files.put .emptyDir (d ++ [name])).put .emptyDir (d ++ [name] ++ [other])))) := by
  obtain ⟨entries, hentries⟩ := hp.dir
  have hpass := passThrough_join hname hshort hp.passThrough hentries
  have hget : bench.files.get? (d ++ [name]) = entries.lookup name := Node.get?_snoc hentries name
  rcases hentry : entries.lookup name with _ | ⟨content, runnable⟩ | own
  all_goals
    rw [hentry] at hpass hget
    simp only at hpass
  · -- The directory above is missing, so it is made first.
    have happroach := Path.approach_join_blocked hother hpass
    rw [makeDirs, if_neg ((p.join name).text_join_ne_empty hother)]
    cases hrefusal : ((p.join name).join other).refusal? with
    | some fault =>
      have hne : fault ≠ .notFound := fun h => Path.refusal?_ne_notFound _ (h ▸ hrefusal)
      rw [hrefusal] at happroach
      refine .inl ⟨⟨fault, makeDirsFrom_blocked _ happroach hne⟩, fun hfree => ?_⟩
      rw [(Path.joinFault?_eq_none.mp hfree.2).1] at hrefusal
      cases hrefusal
    | none =>
      rw [hrefusal] at happroach
      have hfault : p.joinFault? name = none :=
        Path.joinFault?_eq_none.mpr ⟨Path.refusal?_of_join hname hother hrefusal, hshort⟩
      have hmade : bench.perform (makeDir (p.join name))
          = (.ok (), bench.stepTo (bench.files.put .emptyDir (d ++ [name]))) := by
        rw [perform_makeDir_join hname hp.passThrough hentries, hfault, hentry]
      have hp' : p.Leads (bench.files.put .emptyDir (d ++ [name])) bench.here d :=
        hp.put_below (by simp) _
      generalize hafter : bench.stepTo (bench.files.put .emptyDir (d ++ [name])) = after at hmade ⊢
      have hempty : after.files.get? (d ++ [name]) = some .emptyDir := by
        rw [← hafter]
        exact Node.get?_put_self hentries .emptyDir name
      have hq : (p.join name).Leads after.files after.here (d ++ [name]) := by
        rw [← hafter] at hempty ⊢
        exact hp'.join hname hshort ⟨[], hempty⟩
      rw [perform_makeDirsFrom, (makeDir_blocked happroach).1, p.ancestors_join hname hother]
      simp only [Option.getD_none]
      rw [perform_makeDirsFrom, hmade]
      simp only
      have hnode := Path.node_join hother hq.passThrough hempty
      rw [perform_makeDir_join hother hq.passThrough hempty]
      cases hfault' : (p.join name).joinFault? other with
      | some fault =>
        rw [hfault'] at hnode
        have hdir : after.hasDir ((p.join name).join other) = false := by
          rw [Bench.hasDir, Bench.nodeAt, hnode]
        simp only [hdir]
        exact .inr (.inl ⟨hget, ⟨fault, rfl⟩, by simp⟩)
      | none =>
        subst hafter
        exact .inr (.inr (.inr ⟨hget, rfl⟩))
  · -- A file is in the way.
    have happroach := Path.approach_join_blocked hother hpass
    have hne : (((p.join name).join other).refusal?.getD .notDirectory) ≠ .notFound := by
      cases hrefusal : ((p.join name).join other).refusal? with
      | some fault => exact fun h => Path.refusal?_ne_notFound _ (hrefusal.trans (congrArg some h))
      | none => simp
    rw [makeDirs, if_neg ((p.join name).text_join_ne_empty hother)]
    exact .inl ⟨⟨_, makeDirsFrom_blocked _ happroach hne⟩, fun hfree => hfree.1 _ _ hget⟩
  · have hq := hp.join hname hshort ⟨own, hget⟩
    have hnode := Path.node_join hother hq.passThrough hget
    rw [perform_makeDirs_join hother hq.passThrough hget]
    cases hfault : (p.join name).joinFault? other with
    | some fault => exact .inl ⟨⟨fault, rfl⟩, fun hfree => by cases hfree.2⟩
    | none =>
      cases hown : own.lookup other with
      | none => exact .inr (.inr (.inl ⟨⟨own, hget⟩, rfl⟩))
      | some node =>
        rw [Bench.hasEntry, Bench.nodeAt, hnode, hfault, hown] at hfree
        cases hfree

end BootTrial
