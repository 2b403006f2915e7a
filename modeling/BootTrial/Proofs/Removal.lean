import BootTrial.Proofs.Layout

/-!
# Taking a tree down

A directory is removed entry by entry, what lies deeper first, and then itself. Until the last step
only the directory changes, and before it the directory is empty (`Node.foldl_erase_placesOf`), so
that the last step is never refused (`FileWork.perform_removeTree_join`).
-/

namespace BootTrial

namespace Named

/-- The names of what is left when one is erased. -/
theorem names_erase {α : Type} (name : String) (values : Named α) :
    (erase name values).names = values.names.filter (· ≠ name) := by
  rw [names, names, erase, List.filter_map]
  rfl

/-- What is found under a name is an entry. -/
theorem mem_of_lookup {α : Type} {name : String} {value : α} {values : Named α}
    (h : values.lookup name = some value) : (name, value) ∈ values := by
  obtain ⟨front, back, rfl, -⟩ := List.lookup_eq_some_iff.mp h
  simp

/-- A value that is erased need not have been set. -/
theorem erase_set {α : Type} (name : String) (value : α) (values : Named α) :
    erase name (set name value values) = erase name values := by
  induction values with
  | nil => simp [set, erase]
  | cons entry rest ih =>
    obtain ⟨other, old⟩ := entry
    simp only [erase] at ih ⊢
    by_cases h : other = name
    · simp [set, h]
    · rw [set, if_neg h, List.filter_cons, List.filter_cons, ih]

end Named

namespace Node

/-- The names of the entries of a node. -/
def names (node : Node) : List String :=
  Named.names node.entries

/-- Erasing below a directory leaves a directory, with no new names in it. -/
theorem erase_dir (entries : List (String × Node)) {below : Place} (h : below ≠ []) :
    ∃ entries', (Node.dir entries).erase below = .dir entries'
      ∧ ∀ name ∈ Named.names entries', name ∈ Named.names entries ∧ below ≠ [name] := by
  obtain ⟨first, rest, rfl⟩ := List.exists_cons_of_ne_nil h
  cases rest with
  | nil =>
    refine ⟨Named.erase first entries, rfl, fun name hname => ?_⟩
    rw [Named.names_erase, List.mem_filter] at hname
    refine ⟨hname.1, fun h => of_decide_eq_true hname.2 ?_⟩
    exact (List.cons.inj h).1.symm
  | cons second more =>
    cases hlookup : entries.lookup first with
    | none => exact ⟨entries, by simp [erase, hlookup], fun name hname => ⟨hname, by simp⟩⟩
    | some child =>
      refine ⟨_, erase_cons hlookup (by simp), fun name hname => ⟨?_, by simp⟩⟩
      rw [Named.names_set] at hname
      split at hname
      · exact hname
      · rename_i hmem
        rcases List.mem_append.mp hname with hname | hname
        · exact hname
        · rw [List.mem_singleton.mp hname]
          exact List.mem_map.mpr ⟨(first, child), Named.mem_of_lookup hlookup, rfl⟩

/-- Erasing at some places below a directory leaves a directory, without the entries at these
places. -/
theorem foldl_erase_dir (belows : List Place) (h : ∀ below ∈ belows, below ≠ [])
    (entries : List (String × Node)) :
    ∃ entries', belows.foldl erase (.dir entries) = .dir entries'
      ∧ ∀ name ∈ Named.names entries', name ∈ Named.names entries ∧ [name] ∉ belows := by
  induction belows generalizing entries with
  | nil => exact ⟨entries, rfl, fun name hname => ⟨hname, by simp⟩⟩
  | cons below rest ih =>
    obtain ⟨middle, hmiddle, hnames⟩ := erase_dir entries (h below List.mem_cons_self)
    obtain ⟨last, hlast, hnames'⟩ :=
      ih (fun below hbelow => h below (List.mem_cons_of_mem _ hbelow)) middle
    refine ⟨last, by rw [List.foldl_cons, hmiddle, hlast], fun name hname => ?_⟩
    obtain ⟨hname, hrest⟩ := hnames' name hname
    obtain ⟨hname, hbelow⟩ := hnames name hname
    exact ⟨hname, fun hmem => (List.mem_cons.mp hmem).elim (fun h => hbelow h.symm) hrest⟩

/-- No place that the entries of a directory hold is that of the directory. -/
theorem ne_nil_of_mem_placesOf {entries : List (String × Node)} {below : Place}
    (h : below ∈ placesOf entries) : below ≠ [] := by
  induction entries with
  | nil => simp [placesOf] at h
  | cons entry rest ih =>
    obtain ⟨name, node⟩ := entry
    simp only [placesOf, List.mem_append, List.mem_map, List.mem_singleton] at h
    rcases h with (⟨deeper, -, rfl⟩ | rfl) | h
    · simp
    · simp
    · exact ih h

/-- The entries of a directory are among the places that they hold. -/
theorem mem_placesOf {entries : List (String × Node)} {name : String}
    (h : name ∈ Named.names entries) : [name] ∈ placesOf entries := by
  induction entries with
  | nil => simp [Named.names] at h
  | cons entry rest ih =>
    obtain ⟨other, node⟩ := entry
    simp only [placesOf, List.mem_append, List.mem_singleton]
    rcases List.mem_cons.mp h with rfl | h
    · exact .inl (.inr rfl)
    · exact .inr (ih h)

/-- A directory is empty when all that its entries hold has been erased. -/
theorem foldl_erase_placesOf (entries : List (String × Node)) :
    (placesOf entries).foldl erase (.dir entries) = .dir [] := by
  obtain ⟨left, hleft, hnames⟩ := foldl_erase_dir (placesOf entries)
    (fun _ hbelow => ne_nil_of_mem_placesOf hbelow) entries
  cases left with
  | nil => exact hleft
  | cons entry rest =>
    obtain ⟨hname, hnot⟩ := hnames entry.1 List.mem_cons_self
    exact absurd (mem_placesOf hname) hnot

/-- Erasing a node does away with what has been put there before. -/
theorem erase_put_snoc {root : Node} {d : Place} (h : root.HasDir d) (name : String) (node : Node) :
    (root.put node (d ++ [name])).erase (d ++ [name]) = root.erase (d ++ [name]) := by
  obtain ⟨entries, hentries⟩ := h
  rw [put_append hentries, erase_append (get?_put hentries _) (by simp), put_put hentries,
    erase_append hentries (by simp)]
  simp only [put, erase, Named.erase_set]

end Node

section Removing

variable {bench : Bench} {d : Place}

/-- Removing the entries at some places below a directory. -/
theorem FileWork.perform_removeEach {belows : List Place} (h : ∀ below ∈ belows, below ≠ [])
    {entries : List (String × Node)} (hd : bench.files.get? d = some (.dir entries)) :
    ∃ after, bench.perform (removeEach d belows) = (.ok (), after)
      ∧ Bench.Inside d (fun _ => False) (· = .changed) bench after
      ∧ after.files.get? d = some (belows.foldl Node.erase (.dir entries)) := by
  induction belows generalizing bench entries with
  | nil => exact ⟨bench, rfl, .refl ⟨entries, hd⟩, hd⟩
  | cons below rest ih =>
    have hbelow := h below List.mem_cons_self
    obtain ⟨entries', herase, -⟩ := Node.erase_dir entries hbelow
    have hfiles : bench.files.erase (d ++ below) = bench.files.put (.dir entries') d := by
      rw [Node.erase_append hd hbelow, herase]
    have hstep : bench.perform (removePlace (d ++ below))
        = (.ok (), bench.stepTo (bench.files.erase (d ++ below))) := by
      rw [removePlace, Bench.perform_take]
    have hd' : (bench.stepTo (bench.files.erase (d ++ below))).files.get? d
        = some (.dir entries') := by
      rw [Bench.stepTo, hfiles, Node.get?_put hd]
    obtain ⟨after, hafter, hinside, hleft⟩ :=
      ih (fun below hmem => h below (List.mem_cons_of_mem _ hmem)) hd'
    refine ⟨after, ?_, ?_, ?_⟩
    · rw [removeEach, Bench.perform_bind_ok hstep, hafter]
    · exact .trans (.stepTo ⟨entries, entries', hd, hfiles, by simp⟩ rfl) hinside
    · rw [hleft, List.foldl_cons, herase]

/-- Removing a directory with everything below it, where its path is not refused: all that its
entries hold is removed, during which only the directory changes, and then it is gone. -/
theorem FileWork.perform_removeTree_join {p : Path} {name : String} (hname : IsPlain name)
    (hp : p.Leads bench.files bench.here d) (hfault : p.joinFault? name = none)
    (hdir : bench.files.HasDir (d ++ [name])) :
    ∃ own before, bench.perform (removeEach (d ++ [name]) (Node.placesOf own)) = (.ok (), before)
      ∧ bench.perform (removeTree (p.join name))
        = (.ok (), before.stepTo (bench.files.erase (d ++ [name])))
      ∧ Bench.Inside (d ++ [name]) (fun _ => False) (· = .changed) bench before := by
  obtain ⟨entries, hentries⟩ := hp.dir
  obtain ⟨own, hown⟩ := hdir
  have hlookup : entries.lookup name = some (.dir own) := by rw [← Node.get?_snoc hentries, hown]
  have hnode : bench.nodeAt (p.join name) = .ok (.dir own) := by
    rw [Bench.nodeAt, Path.node_join hname hp.passThrough hentries, hfault, hlookup]
  have hplace : bench.placeAt (p.join name) = .ok (d ++ [name]) :=
    Path.place_join hname hp.passThrough hentries hfault hlookup
  have hbelows : ∀ below ∈ Node.placesOf own, below ≠ [] :=
    fun _ hbelow => Node.ne_nil_of_mem_placesOf hbelow
  obtain ⟨before, hbefore, hinside, hempty⟩ := perform_removeEach hbelows hown
  rw [Node.foldl_erase_placesOf] at hempty
  obtain ⟨left, left', hleft, hfiles, -⟩ := hinside.files
  have hp' : p.Leads before.files before.here d := by
    rw [hinside.here]
    refine hp.of_hasDir fun q hq hbelow => hinside.files.hasDir_above hq fun habove => hbelow ?_
    refine ⟨(List.prefix_append d [name]).trans habove.1, fun heq => ?_⟩
    have hlength := habove.1.length_le
    rw [heq, List.length_append, List.length_singleton] at hlength
    omega
  obtain ⟨entries', hentries'⟩ := hp'.dir
  have hlookup' : entries'.lookup name = some (.dir []) := by
    rw [← Node.get?_snoc hentries', hempty]
  have herase : before.files.erase (d ++ [name]) = bench.files.erase (d ++ [name]) := by
    rw [hfiles, Node.erase_put_snoc hp.dir]
  refine ⟨own, before, hbefore, ?_, hinside⟩
  have hread : bench.perform (look (·.entriesAt (p.join name))) = (.ok own, bench) := by
    rw [Bench.perform_look, Bench.entriesAt, hnode]
  have hread' : bench.perform (look (·.placeAt (p.join name))) = (.ok (d ++ [name]), bench) := by
    rw [Bench.perform_look, hplace]
  rw [removeTree, Bench.perform_bind_ok hread, Bench.perform_bind_ok hread',
    Bench.perform_bind_ok hbefore, Bench.perform_take,
    FileStep.removeDir_join hname hp'.passThrough hentries', hfault, hlookup', ← herase]
  rfl

/-- Removing a directory whose path is refused. -/
theorem FileWork.perform_removeTree_refused {p : Path} {fault : FileFault}
    (hfault : bench.entriesAt p = .error fault) :
    bench.perform (removeTree p) = (.error fault, bench) := by
  have hread : bench.perform (look (·.entriesAt p)) = (.error fault, bench) := by
    rw [Bench.perform_look, hfault]
  rw [removeTree, Bench.perform_bind_error hread]

end Removing

end BootTrial
