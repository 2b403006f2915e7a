import BootTrial.Proofs.Preparation

/-!
# The layout of a workspace

The places of the three roots in a workspace that lies at a place `w`. The path of a workspace leads
there (`Path.Leads`), and then the path of each root leads to its place as soon as there is a
directory. What the program reads of a root is what stands at that place (`Bench.entriesAt_path`),
and making a root changes nothing else (`FileWork.perform_makeDirs_join`).
-/

namespace BootTrial

theorem runtimeName_isPlain : IsPlain "runtime" := isPlain_of_length (by decide) (by decide)

theorem pendingName_isPlain : IsPlain "pending" := isPlain_of_length (by decide) (by decide)

theorem runningName_isPlain : IsPlain "running" := isPlain_of_length (by decide) (by decide)

theorem stagingName_isPlain : IsPlain ".staging" := isPlain_of_length (by decide) (by decide)

theorem resultsName_isPlain : IsPlain "results" := isPlain_of_length (by decide) (by decide)

/-- The three roots in which the directories of tests lie. -/
inductive Root where
  /-- The tests that wait. -/
  | pending
  /-- The tests that have been begun. -/
  | running
  /-- The tests that are completed. -/
  | results
  deriving DecidableEq, Repr

/-- The place of a root in a workspace at a place. -/
def Root.place (w : Place) : Root → Place
  | .pending => w ++ ["runtime"] ++ ["pending"]
  | .running => w ++ ["runtime"] ++ ["running"]
  | .results => w ++ ["results"]

/-- The place of the staging directory in a workspace at a place. -/
def stagingPlace (w : Place) : Place :=
  w ++ ["runtime"] ++ [".staging"]

/-- The path of a root. -/
def Workspace.path (workspace : Workspace) : Root → Path
  | .pending => workspace.pending
  | .running => workspace.running
  | .results => workspace.results

/-- Two roots are apart. -/
theorem Root.place_apart {root other : Root} (h : root ≠ other) (w : Place) :
    Place.Apart (root.place w) (other.place w) := by
  cases root <;> cases other <;> first
    | exact absurd rfl h
    | simp [Root.place, Place.Apart, List.prefix_append_right_inj]

/-- The staging directory is apart from the roots. -/
theorem stagingPlace_apart (root : Root) (w : Place) :
    Place.Apart (stagingPlace w) (root.place w) := by
  cases root <;> simp [Root.place, stagingPlace, Place.Apart, List.prefix_append_right_inj]

/-- What lies in a root lies below the place of the workspace. -/
theorem Root.place_append (r : Root) (w below : Place) :
    ∃ rest, rest ≠ [] ∧ r.place w ++ below = w ++ rest := by
  cases r with
  | pending => exact ⟨"runtime" :: "pending" :: below, by simp, by simp [place]⟩
  | running => exact ⟨"runtime" :: "running" :: below, by simp, by simp [place]⟩
  | results => exact ⟨"results" :: below, by simp, by simp [place]⟩

/-- What is put into a root is not in the way of the path of the workspace. -/
theorem Path.Leads.put_in {p : Path} {root : Node} {here w : Place} (h : p.Leads root here w)
    (r : Root) (below : Place) (node : Node) :
    p.Leads (root.put node (r.place w ++ below)) here w := by
  obtain ⟨rest, hrest, hplace⟩ := r.place_append w below
  rw [hplace]
  exact h.put_below hrest node

/-- What is erased in a root was not in the way of the path of the workspace. -/
theorem Path.Leads.erase_in {p : Path} {root : Node} {here w : Place} (h : p.Leads root here w)
    (r : Root) (below : Place) : p.Leads (root.erase (r.place w ++ below)) here w := by
  obtain ⟨rest, hrest, hplace⟩ := r.place_append w below
  rw [hplace]
  exact h.erase_below hrest

/-- A path is not refused for its text as one that leads to nothing. -/
theorem Path.refusal?_ne_notFound (p : Path) : p.refusal? ≠ some .notFound := by
  unfold refusal?
  split
  · simp
  · split <;> simp

/-- A joined path is not refused as one that leads to nothing. -/
theorem Path.joinFault?_ne_notFound (p : Path) (name : String) :
    p.joinFault? name ≠ some .notFound := by
  have hrefusal := (p.join name).refusal?_ne_notFound
  unfold joinFault?
  cases hfault : (p.join name).refusal? with
  | some fault =>
    rw [hfault] at hrefusal
    exact hrefusal
  | none =>
    simp only
    split <;> simp

section Passing

variable {root : Node} {here w : Place} {p : Path} {name : String}

/-- Following components one part after the other. -/
theorem passThrough_append (root : Node) (here : Place) (first second : List String) :
    passThrough root here (first ++ second)
      = (passThrough root here first).bind fun middle => passThrough root middle second := by
  induction first generalizing here with
  | nil => rfl
  | cons component rest ih =>
    rw [List.cons_append, passThrough, passThrough]
    by_cases hdot : component = "."
    · rw [if_pos hdot, if_pos hdot, ih]
    rw [if_neg hdot, if_neg hdot]
    by_cases hup : component = ".."
    · rw [if_pos hup, if_pos hup, ih]
    rw [if_neg hup, if_neg hup]
    split
    · rw [ih]
    · rfl
    · rfl
    · rfl

/-- Passing through a joined path is passing through a directory under the name. -/
theorem passThrough_join_ok (hname : IsPlain name)
    (hp : passThrough root (p.start here) p.components = .ok w) {goal : Place}
    (h : passThrough root ((p.join name).start here) (p.join name).components = .ok goal) :
    goal = w ++ [name] ∧ root.HasDir goal := by
  rw [p.start_join hname, p.components_join hname, passThrough_append, hp] at h
  simp only [Except.bind, passThrough, if_neg hname.ne_dot, if_neg hname.ne_dotDot] at h
  split at h
  · rename_i place entries hlookUp
    obtain ⟨rfl, hdir, -⟩ := hasDir_of_lookUp hlookUp
    cases h
    exact ⟨rfl, hdir⟩
  · cases h
  · cases h
  · cases h

/-- What a joined path leads to stands under the name where the path leads. -/
theorem Path.node_join_ok (hname : IsPlain name) {node : Node}
    (h : (p.join name).node root here = .ok node) : ∃ d,
      passThrough root (p.start here) p.components = .ok d ∧ root.get? (d ++ [name]) = some node
        ∧ p.joinFault? name = none := by
  have happroach := h
  unfold Path.node at happroach
  rw [p.approach_join_eq root here hname] at happroach
  cases hrefusal : (p.join name).refusal? with
  | some fault => simp [hrefusal, Except.bind] at happroach
  | none =>
    cases hpass : passThrough root (p.start here) p.components with
    | error fault => simp [hrefusal, hpass, Except.bind, Except.map] at happroach
    | ok d =>
      have hdir : root.HasDir d := by
        simp only [hrefusal, hpass, Except.bind, Except.map, Approach.entry, Approach.target,
          lookUp] at happroach
        cases hd : root.get? d with
        | none => simp [hd] at happroach
        | some own =>
          cases own with
          | dir entries => exact ⟨entries, hd⟩
          | file content runnable => simp [hd] at happroach
      obtain ⟨entries, hentries⟩ := hdir
      rw [Path.node_join hname hpass hentries] at h
      refine ⟨d, rfl, ?_⟩
      rw [Node.get?_snoc hentries]
      cases hfault : p.joinFault? name with
      | some fault => simp [hfault] at h
      | none =>
        cases hentry : entries.lookup name with
        | none => simp [hfault, hentry] at h
        | some found => simpa [hfault, hentry] using h

/-- Whatever a joined path leads to stands under the name. -/
theorem Path.place_join_snoc (hname : IsPlain name) {place : Place}
    (h : (p.join name).place root here = .ok place) : ∃ d, place = d ++ [name] := by
  unfold Path.place at h
  rw [p.walk_join root here hname] at h
  split at h
  · cases h
  · rcases hpass : passThrough root (p.start here) p.components with fault | d
    · rw [hpass] at h
      cases h
    · rw [hpass] at h
      refine ⟨d, ?_⟩
      simp only [Except.map, Except.bind, Approach.entry, Approach.target, lookUp] at h
      grind

end Passing

namespace Workspace

variable {workspace : Workspace} {root : Node} {here w : Place}

/-- Where the directory of the tests that are not completed stands, its path leads to it. -/
theorem runtime_leads (hw : workspace.root.Leads root here w)
    (hdir : root.HasDir (w ++ ["runtime"])) :
    workspace.runtime.Leads root here (w ++ ["runtime"]) :=
  hw.join runtimeName_isPlain (by decide) hdir

/-- Where a root stands its path leads to it. -/
theorem path_leads (hw : workspace.root.Leads root here w) {r : Root}
    (hdir : root.HasDir (r.place w)) : (workspace.path r).Leads root here (r.place w) := by
  cases r with
  | pending => exact (runtime_leads hw hdir.above).join pendingName_isPlain (by decide) hdir
  | running => exact (runtime_leads hw hdir.above).join runningName_isPlain (by decide) hdir
  | results => exact hw.join resultsName_isPlain (by decide) hdir

/-- Where the staging directory stands its path leads to it. -/
theorem staging_leads (hw : workspace.root.Leads root here w)
    (hdir : root.HasDir (stagingPlace w)) :
    workspace.staging.Leads root here (stagingPlace w) :=
  (runtime_leads hw hdir.above).join stagingName_isPlain (by decide) hdir

/-- What the path of a root leads to stands at its place. -/
theorem get?_of_node_path (hw : workspace.root.Leads root here w) {r : Root} {node : Node}
    (h : (workspace.path r).node root here = .ok node) :
    root.get? (r.place w) = some node := by
  have hruntime : ∀ {name : String}, IsPlain name →
      (workspace.runtime.join name).node root here = .ok node →
      root.get? (w ++ ["runtime"] ++ [name]) = some node := by
    intro name hname hnode
    obtain ⟨d, hpass, hget, -⟩ := Path.node_join_ok hname hnode
    obtain ⟨rfl, -⟩ := passThrough_join_ok runtimeName_isPlain hw.passThrough hpass
    exact hget
  cases r with
  | pending => exact hruntime pendingName_isPlain h
  | running => exact hruntime runningName_isPlain h
  | results =>
    obtain ⟨d, hpass, hget, -⟩ := Path.node_join_ok resultsName_isPlain h
    rw [hw.passThrough] at hpass
    cases hpass
    exact hget

/-- Nothing stands at the place of a root whose path leads to nothing. -/
theorem get?_of_path_notFound (hw : workspace.root.Leads root here w) {r : Root}
    (h : (workspace.path r).node root here = .error .notFound) :
    root.get? (r.place w) = none := by
  have hjoin : ∀ {p : Path} {d : Place} {name : String}, IsPlain name →
      (root.HasDir d → p.Leads root here d) → (p.join name).node root here = .error .notFound →
      root.get? (d ++ [name]) = none := by
    intro p d name hname hp hnode
    cases hget : root.get? (d ++ [name]) with
    | none => rfl
    | some node =>
      obtain ⟨entries, hentries⟩ := Node.hasDir_of_get?_snoc hget
      have hlead := hp ⟨entries, hentries⟩
      rw [Node.get?_snoc hentries] at hget
      rw [Path.node_join hname hlead.passThrough hentries, hget] at hnode
      cases hfault : p.joinFault? name with
      | none => simp [hfault] at hnode
      | some fault =>
        simp only [hfault, Except.error.injEq] at hnode
        exact absurd (hnode ▸ hfault) (p.joinFault?_ne_notFound name)
  cases r with
  | pending => exact hjoin pendingName_isPlain (runtime_leads hw) h
  | running => exact hjoin runningName_isPlain (runtime_leads hw) h
  | results => exact hjoin resultsName_isPlain (fun _ => hw) h

end Workspace

namespace Bench

variable {workspace : Workspace} {bench : Bench} {w : Place} {r : Root}

/-- The entries that are read of a root are those of the directory at its place. -/
theorem get?_of_entriesAt_path (hw : workspace.root.Leads bench.files bench.here w)
    {entries : List (String × Node)} (h : bench.entriesAt (workspace.path r) = .ok entries) :
    bench.files.get? (r.place w) = some (.dir entries) := by
  rw [entriesAt, nodeAt] at h
  cases hnode : (workspace.path r).node bench.files bench.here with
  | error fault => simp [hnode] at h
  | ok node =>
    rw [Workspace.get?_of_node_path hw hnode]
    cases node with
    | file content runnable => simp [hnode] at h
    | dir own =>
      simp only [hnode, Except.ok.injEq] at h
      rw [h]

/-- Nothing stands at the place of a root that is missing when it is read. -/
theorem get?_of_entriesAt_notFound (hw : workspace.root.Leads bench.files bench.here w)
    (h : bench.entriesAt (workspace.path r) = .error .notFound) :
    bench.files.get? (r.place w) = none := by
  rw [entriesAt, nodeAt] at h
  refine Workspace.get?_of_path_notFound hw ?_
  cases hnode : (workspace.path r).node bench.files bench.here with
  | error fault => simpa [hnode] using h
  | ok node => cases node <;> simp [hnode] at h

end Bench

/-- The names in the directory at a place, none if there is no directory. -/
def Node.namesAt (root : Node) (place : Place) : List String :=
  match root.get? place with
  | some (.dir entries) => entries.map (·.1)
  | _ => []

/-- The names in a directory. -/
theorem Node.namesAt_dir {root : Node} {place : Place} {entries : List (String × Node)}
    (h : root.get? place = some (.dir entries)) : root.namesAt place = entries.map (·.1) := by
  rw [namesAt, h]

/-- What is read of whether a root is occupied. -/
theorem perform_isOccupied (root : Path) (bench : Bench) :
    bench.perform (isOccupied root) = match bench.entriesAt root with
      | .ok entries => (.ok !entries.isEmpty, bench)
      | .error .notFound => (.ok false, bench)
      | .error fault => (.error (.ofFault fault), bench) := by
  have hread : bench.perform (FileWork.look (·.entriesAt root)).outcome
      = (.ok (bench.entriesAt root), bench) := by
    rw [Bench.perform_fileOutcome, Bench.perform_look]
  rw [isOccupied, Bench.perform_bind_ok hread]
  rcases bench.entriesAt root with fault | entries
  · cases fault <;> rfl
  · rfl

/-- What is read of the tests in a root. -/
theorem perform_testsIn (root : Path) (bench : Bench) :
    bench.perform (testsIn root) = match bench.entriesAt root with
      | .ok entries => (.ok ((testNames entries).map root.join), bench)
      | .error .notFound => (.ok [], bench)
      | .error fault => (.error (.ofFault fault), bench) := by
  have hread : bench.perform (FileWork.look (·.entriesAt root)).outcome
      = (.ok (bench.entriesAt root), bench) := by
    rw [Bench.perform_fileOutcome, Bench.perform_look]
  rw [testsIn, Bench.perform_bind_ok hread]
  rcases bench.entriesAt root with fault | entries
  · cases fault <;> rfl
  · rfl

/-- A root in which nothing is found is missing or without entries. -/
theorem isOccupied_false {workspace : Workspace} {bench after : Bench} {w : Place} {r : Root}
    (hw : workspace.root.Leads bench.files bench.here w)
    (h : bench.perform (isOccupied (workspace.path r)) = (.ok false, after)) :
    bench.files.get? (r.place w) = none ∨ bench.files.get? (r.place w) = some .emptyDir := by
  rw [perform_isOccupied] at h
  cases hentries : bench.entriesAt (workspace.path r) with
  | ok entries =>
    rw [hentries] at h
    cases entries with
    | nil => exact .inr (Bench.get?_of_entriesAt_path hw hentries)
    | cons entry rest => cases h
  | error fault =>
    cases fault <;> simp only [hentries] at h
    case notFound => exact .inl (Bench.get?_of_entriesAt_notFound hw hentries)
    all_goals cases h

/-- Whether a root is occupied is whether there are names in it. -/
theorem isOccupied_ok {workspace : Workspace} {bench after : Bench} {w : Place} {r : Root}
    {occupied : Bool} (hw : workspace.root.Leads bench.files bench.here w)
    (h : bench.perform (isOccupied (workspace.path r)) = (.ok occupied, after)) :
    occupied = !(bench.files.namesAt (r.place w)).isEmpty := by
  cases occupied with
  | false =>
    rcases isOccupied_false hw h with hnone | hempty
    · rw [Node.namesAt, hnone]
      rfl
    · rw [Node.namesAt_dir hempty]
      rfl
  | true =>
    rw [perform_isOccupied] at h
    cases hentries : bench.entriesAt (workspace.path r) with
    | ok entries =>
      rw [hentries] at h
      rw [Node.namesAt_dir (Bench.get?_of_entriesAt_path hw hentries)]
      cases entries with
      | nil => cases h
      | cons entry rest => rfl
    | error fault => cases fault <;> simp [hentries] at h

/-- What is read of the tests in a root. -/
theorem testsIn_ok {workspace : Workspace} {bench after : Bench} {w : Place} {r : Root}
    {directories : List Path} (hw : workspace.root.Leads bench.files bench.here w)
    (h : bench.perform (testsIn (workspace.path r)) = (.ok directories, after)) :
    (directories = [] ∧ bench.files.get? (r.place w) = none) ∨ ∃ entries,
      bench.files.get? (r.place w) = some (.dir entries)
        ∧ directories = (testNames entries).map (workspace.path r).join := by
  obtain ⟨outcome, middle, houtcome, h⟩ := Bench.perform_bind_inv h
  rw [Bench.perform_fileOutcome, Bench.perform_look] at houtcome
  cases houtcome
  cases hentries : bench.entriesAt (workspace.path r) with
  | ok entries =>
    rw [hentries] at h
    cases h
    exact .inr ⟨entries, Bench.get?_of_entriesAt_path hw hentries, rfl⟩
  | error fault =>
    cases fault <;> simp only [hentries] at h
    case notFound =>
      cases h
      exact .inl ⟨rfl, Bench.get?_of_entriesAt_notFound hw hentries⟩
    all_goals cases h

section Making

variable {p : Path} {d : Place} {name : String} {bench : Bench} {entries : List (String × Node)}

/-- Making a directory under a joined path on a bench. -/
theorem FileWork.perform_makeDir_join (hname : IsPlain name)
    (hp : passThrough bench.files (p.start bench.here) p.components = .ok d)
    (hd : bench.files.get? d = some (.dir entries)) :
    bench.perform (makeDir (p.join name))
      = match p.joinFault? name with
        | some fault => (.error fault, bench)
        | none => match entries.lookup name with
          | some _ => (.error .alreadyExists, bench)
          | none => (.ok (), bench.stepTo (bench.files.put .emptyDir (d ++ [name]))) := by
  rw [makeDir, Bench.perform_take, FileStep.makeDir_join hname hp hd]
  cases p.joinFault? name with
  | some fault => rfl
  | none => cases entries.lookup name <;> rfl

/-- Making a directory and those above it, which are made where they are missing. -/
theorem FileWork.perform_makeDirsFrom (p : Path) (above : List Path) (bench : Bench) :
    bench.perform (makeDirsFrom (p :: above))
      = match bench.perform (makeDir p) with
        | (.ok (), after) => (.ok (), after)
        | (.error .notFound, after) =>
          match after.perform (makeDirsFrom above) with
          | (.error fault, last) => (.error fault, last)
          | (.ok (), last) =>
            match last.perform (makeDir p) with
            | (.ok (), made) => (.ok (), made)
            | (.error fault, made) => (if made.hasDir p then .ok () else .error fault, made)
        | (.error fault, after) => (if after.hasDir p then .ok () else .error fault, after) := by
  have hrun : ∀ (work : FileWork Unit) (bench : Bench),
      work.run.run bench = bench.perform work := fun _ _ => rfl
  rw [← hrun, makeDirsFrom, ExceptT.run_mk, StateT.run_bind, hrun]
  rcases bench.perform (makeDir p) with ⟨fault | _, after⟩
  · cases fault <;> try rfl
    -- What is missing above is made before the directory is tried again.
    change ((makeDirsFrom above).run >>= _).run after = _
    rw [StateT.run_bind, hrun]
    simp only
    rcases after.perform (makeDirsFrom above) with ⟨fault | _, last⟩
    · rfl
    · change ((makeDir p).run >>= _).run last = _
      rw [StateT.run_bind, hrun]
      simp only
      rcases last.perform (makeDir p) with ⟨fault | _, made⟩ <;> rfl
  · rfl

/-- Making directories keeps what making each of them keeps. -/
theorem FileWork.makeDirs_keeps {R : Bench → Bench → Prop} [IsPreorder Bench R]
    (hmake : ∀ p : Path, Keeps R (makeDir p)) (p : Path) : Keeps R (makeDirs p) := by
  have hall : ∀ paths : List Path, Keeps R (makeDirsFrom paths) := by
    intro paths
    induction paths with
    | nil => exact Keeps.throw _
    | cons p above ih =>
      intro bench
      have hfirst := hmake p bench
      rw [perform_makeDirsFrom]
      rcases hperform : bench.perform (makeDir p) with ⟨fault | _, after⟩
      all_goals rw [hperform] at hfirst
      · by_cases hmissing : fault = .notFound
        · -- The directories above are made, and the directory is tried again.
          subst hmissing
          simp only
          have habove := trans_of R hfirst (ih after)
          rcases hrest : after.perform (makeDirsFrom above) with ⟨fault | ⟨⟩, last⟩
          all_goals rw [hrest] at habove
          · exact habove
          · have hagain := trans_of R habove (hmake p last)
            simp only
            rcases hlast : last.perform (makeDir p) with ⟨fault | ⟨⟩, made⟩
            all_goals
              rw [hlast] at hagain
              exact hagain
        · cases fault <;> first | exact hfirst | exact absurd rfl hmissing
      · exact hfirst
  unfold makeDirs
  split
  · exact Keeps.pure _
  · exact hall _

/-- Making a directory, with the directory above it in place. -/
theorem FileWork.perform_makeDirs_join (hname : IsPlain name)
    (hp : passThrough bench.files (p.start bench.here) p.components = .ok d)
    (hd : bench.files.get? d = some (.dir entries)) :
    bench.perform (makeDirs (p.join name))
      = match p.joinFault? name with
        | some fault => (.error fault, bench)
        | none => match entries.lookup name with
          | some (.dir _) => (.ok (), bench)
          | some (.file _ _) => (.error .alreadyExists, bench)
          | none => (.ok (), bench.stepTo (bench.files.put .emptyDir (d ++ [name]))) := by
  rw [makeDirs, if_neg (p.text_join_ne_empty hname), perform_makeDirsFrom,
    perform_makeDir_join hname hp hd]
  have hnode := Path.node_join hname hp hd
  cases hfault : p.joinFault? name with
  | some fault =>
    have hne : fault ≠ .notFound := fun h => p.joinFault?_ne_notFound name (h ▸ hfault)
    have hdir : bench.hasDir (p.join name) = false := by
      simp [Bench.hasDir, Bench.nodeAt, hnode, hfault]
    cases fault <;> simp_all
  | none =>
    rcases hentry : entries.lookup name with _ | ⟨content, runnable⟩ | own
    · rfl
    · simp [Bench.hasDir, Bench.nodeAt, hnode, hfault, hentry, Node.isDir]
    · simp [Bench.hasDir, Bench.nodeAt, hnode, hfault, hentry, Node.isDir]

end Making

end BootTrial
