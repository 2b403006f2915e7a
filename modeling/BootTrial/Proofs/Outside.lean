import BootTrial.Proofs.Layout

/-!
# Outside the tests

All tests of a workspace lie in two directories, that of the tests that are not completed and the
results root (`Place.IsOfTests`). Two trees are the same outside if at every other place both have
the same, or a directory each (`Node.SameOutside`): of a directory above the tests only the entries
matter that do not lead to them. Each single change in the roots keeps the trees the same outside.

A path that does not come through the tests leads to the same in both trees
(`passThrough_outside`), and so the octets and the place at it are the same
(`Path.join_outside`). The path of a template is one, as far as its name is plain
(`Workspace.avoids_of_isPlain`).
-/

namespace BootTrial

/-- Where the tests of a workspace lie, with all that is below. -/
def Place.IsOfTests (w q : Place) : Prop :=
  w ++ ["runtime"] <+: q ∨ w ++ ["results"] <+: q

namespace Place.IsOfTests

variable {w q : Place}

/-- What lies below a place of the tests is one. -/
theorem append (h : IsOfTests w q) (below : Place) : IsOfTests w (q ++ below) :=
  h.imp (·.trans (List.prefix_append q below)) (·.trans (List.prefix_append q below))

/-- The places of the tests lie below that of the workspace. -/
theorem below (h : IsOfTests w q) : w <+: q ∧ q ≠ w := by
  have hbelow : ∀ name : String, w ++ [name] <+: q → w <+: q ∧ q ≠ w := by
    intro name hpre
    refine ⟨(List.prefix_append w [name]).trans hpre, ?_⟩
    rintro rfl
    exact absurd hpre.length_le (by simp)
  exact h.elim (hbelow "runtime") (hbelow "results")

/-- The roots are at places of the tests. -/
theorem of_root (r : Root) (w : Place) : IsOfTests w (r.place w) := by
  cases r with
  | pending => exact .inl (List.prefix_append _ _)
  | running => exact .inl (List.prefix_append _ _)
  | results => exact .inr List.prefix_rfl

/-- So is the staging directory. -/
theorem of_staging (w : Place) : IsOfTests w (stagingPlace w) := .inl (List.prefix_append _ _)

end Place.IsOfTests

namespace Node

/-- At a place two trees have the same, or a directory each. -/
def AgreesAt (before after : Node) (q : Place) : Prop :=
  after.get? q = before.get? q ∨ before.HasDir q ∧ after.HasDir q

namespace AgreesAt

variable {before middle after : Node} {p q : Place}

/-- What agrees in each part agrees in the end. -/
theorem trans (h : AgreesAt before middle q) (h' : AgreesAt middle after q) :
    AgreesAt before after q := by
  rcases h with hsame | ⟨hdir, hdir'⟩
  · rcases h' with hsame' | ⟨⟨entries, hentries⟩, hdir'⟩
    · exact .inl (hsame'.trans hsame)
    · exact .inr ⟨⟨entries, hsame ▸ hentries⟩, hdir'⟩
  · rcases h' with hsame' | ⟨-, hlast⟩
    · obtain ⟨entries, hentries⟩ := hdir'
      exact .inr ⟨hdir, entries, hsame'.trans hentries⟩
    · exact .inr ⟨hdir, hlast⟩

/-- A change at a place that leaves alone what is apart from it, and the directories that are not
below, is none at any place that is not below. -/
theorem of_change (hq : ¬ p <+: q) (habove : before.HasDir p.dropLast)
    (hapart : ∀ q, Place.Apart p q → after.get? q = before.get? q)
    (hdirs : ∀ q, before.HasDir q → ¬ p <+: q → after.HasDir q) : AgreesAt before after q := by
  by_cases hup : q <+: p
  · -- The place lies below, so there is a directory before and after.
    obtain ⟨rest, rfl⟩ := hup
    have hrest : rest ≠ [] := by
      rintro rfl
      exact hq (by simp)
    rw [List.dropLast_append_of_ne_nil hrest] at habove
    exact .inr ⟨habove.above, hdirs q habove.above hq⟩
  · exact .inl (hapart q ⟨hq, hup⟩)

end AgreesAt

/-- Two trees are the same outside the tests of a workspace. -/
def SameOutside (w : Place) (before after : Node) : Prop :=
  ∀ q, ¬ Place.IsOfTests w q → AgreesAt before after q

namespace SameOutside

variable {w d : Place} {name : String} {root before middle after : Node}

/-- A tree is the same as itself. -/
theorem refl (w : Place) (root : Node) : SameOutside w root root := fun _ _ => .inl rfl

/-- What is the same in each part is the same in the end. -/
theorem trans (h : SameOutside w before middle) (h' : SameOutside w middle after) :
    SameOutside w before after :=
  fun q hq => (h q hq).trans (h' q hq)

/-- A change at a place of the tests that leaves alone what is apart from it, and the directories
that are not below. -/
theorem of_change {p : Place} (hp : Place.IsOfTests w p) (habove : before.HasDir p.dropLast)
    (hapart : ∀ q, Place.Apart p q → after.get? q = before.get? q)
    (hdirs : ∀ q, before.HasDir q → ¬ p <+: q → after.HasDir q) : SameOutside w before after := by
  intro q hq
  refine .of_change (fun hbelow => ?_) habove hapart hdirs
  obtain ⟨below, rfl⟩ := hbelow
  exact hq (hp.append below)

/-- What is put at a place of the tests. -/
theorem put (hp : Place.IsOfTests w (d ++ [name])) (hd : root.HasDir d) (node : Node) :
    SameOutside w root (root.put node (d ++ [name])) :=
  of_change hp (by rwa [List.dropLast_concat]) (fun _ hq => get?_put_of_apart hq root node)
    fun _ hdir hq => hdir.put hq node

/-- What is erased at a place of the tests. -/
theorem erase (hp : Place.IsOfTests w (d ++ [name])) (hd : root.HasDir d) :
    SameOutside w root (root.erase (d ++ [name])) :=
  of_change hp (by rwa [List.dropLast_concat]) (fun _ hq => get?_erase_of_apart hq root)
    fun _ hdir hq => hdir.erase hq

/-- What changes in a directory at a place of the tests. -/
theorem of_inside {keep : String → Prop} (hp : Place.IsOfTests w (d ++ [name]))
    (h : Inside (d ++ [name]) keep before after) : SameOutside w before after := by
  obtain ⟨entries, entries', hentries, rfl, -⟩ := h
  exact put hp (hasDir_of_get?_snoc hentries) _

/-- What moves from one place of the tests to another. -/
theorem move {e : Place} {name' : String} (hp : Place.IsOfTests w (d ++ [name]))
    (hp' : Place.IsOfTests w (e ++ [name'])) (hd : root.HasDir d) (he : root.HasDir e)
    (hbelow : ¬ d ++ [name] <+: e) (node : Node) :
    SameOutside w root ((root.erase (d ++ [name])).put node (e ++ [name'])) :=
  (erase hp hd).trans (put hp' (he.erase hbelow) node)

end SameOutside

end Node

/-- A path leads on to the workspace when something changes with its tests. -/
theorem Path.Leads.outside {p : Path} {before after : Node} {here w : Place}
    (h : p.Leads before here w) (hsame : Node.SameOutside w before after) :
    p.Leads after here w := by
  refine h.of_hasDir fun q hdir hbelow => ?_
  rcases hsame q fun hof => hbelow hof.below with hget | ⟨-, hdir'⟩
  · obtain ⟨entries, hentries⟩ := hdir
    exact ⟨entries, hget.trans hentries⟩
  · exact hdir'

section Outside

variable {w here goal : Place} {before after : Node} {name : String}

/-- A name that does not lead to the tests is looked up with the same result, or it leads to a
directory before and after. -/
theorem lookUp_outside (h : Node.SameOutside w before after)
    (hout : ¬ Place.IsOfTests w (here ++ [name])) :
    lookUp after here name = lookUp before here name ∨ ∃ entries entries',
      lookUp before here name = .ok (.taken (here ++ [name]) (.dir entries))
        ∧ lookUp after here name = .ok (.taken (here ++ [name]) (.dir entries')) := by
  rcases h here fun hof => hout (hof.append [name]) with
    hsame | ⟨⟨entries, hentries⟩, ⟨entries', hentries'⟩⟩
  · left
    rw [lookUp, lookUp, hsame]
  rw [lookUp_of_get? hentries, lookUp_of_get? hentries', ← Node.get?_snoc hentries,
    ← Node.get?_snoc hentries']
  by_cases hlong : nameLimit < name.utf8ByteSize
  · left
    rw [if_pos hlong, if_pos hlong]
  rw [if_neg hlong, if_neg hlong]
  rcases h _ hout with hsame | ⟨⟨own, hown⟩, ⟨own', hown'⟩⟩
  · left
    rw [hsame]
  · right
    rw [hown, hown']
    exact ⟨own, own', rfl, rfl⟩

/-- Components that do not arrive at the tests are passed through with the same result. -/
theorem passThrough_outside {components : List String} (h : Node.SameOutside w before after)
    (hout : ∀ q ∈ arrivals here components, ¬ Place.IsOfTests w q) :
    passThrough after here components = passThrough before here components := by
  induction components generalizing here with
  | nil => rfl
  | cons component rest ih =>
    unfold arrivals at hout
    rw [passThrough, passThrough]
    by_cases hdot : component = "."
    · rw [if_pos hdot] at hout
      rw [if_pos hdot, if_pos hdot, ih hout]
    by_cases hup : component = ".."
    · rw [if_neg hdot, if_pos hup] at hout
      rw [if_neg hdot, if_neg hdot, if_pos hup, if_pos hup, ih hout]
    rw [if_neg hdot, if_neg hup] at hout
    rw [if_neg hdot, if_neg hdot, if_neg hup, if_neg hup]
    obtain ⟨hfirst, hrest⟩ := List.forall_mem_cons.mp hout
    rcases lookUp_outside h hfirst with hsame | ⟨entries, entries', hlookUp, hlookUp'⟩
    · rw [hsame]
      split
      · next place entries hlookUp =>
        obtain ⟨rfl, -⟩ := hasDir_of_lookUp hlookUp
        exact ih hrest
      all_goals rfl
    · rw [hlookUp, hlookUp']
      exact ih hrest

/-- Components that are passed through end where they lead. -/
theorem passThrough_ok {root : Node} {components : List String}
    (h : passThrough root here components = .ok goal) : goal = destination here components := by
  induction components generalizing here with
  | nil => exact (Except.ok.inj h).symm
  | cons component rest ih =>
    rw [passThrough] at h
    rw [destination]
    by_cases hdot : component = "."
    · rw [if_pos hdot] at h ⊢
      exact ih h
    by_cases hup : component = ".."
    · rw [if_neg hdot, if_pos hup] at h ⊢
      exact ih h
    rw [if_neg hdot, if_neg hup] at h ⊢
    split at h
    · next place entries hlookUp =>
      obtain ⟨rfl, -⟩ := hasDir_of_lookUp hlookUp
      exact ih h
    all_goals cases h

/-- A path does not come through the tests of a workspace, and does not end there. -/
structure Path.Avoids (p : Path) (here w : Place) : Prop where
  /-- It arrives elsewhere. -/
  arrives : ∀ q ∈ arrivals (p.start here) p.components, ¬ Place.IsOfTests w q
  /-- It ends elsewhere. -/
  ends : ¬ Place.IsOfTests w (destination (p.start here) p.components)

/-- A name that is joined to a path outside the tests stands outside, but for those of the two
directories of the tests. -/
theorem Path.Avoids.not_isOfTests {p : Path} (h : p.Avoids here w) (hruntime : name ≠ "runtime")
    (hresults : name ≠ "results") :
    ¬ Place.IsOfTests w (destination (p.start here) p.components ++ [name]) := by
  have hstep : ∀ root : String, name ≠ root →
      ¬ w ++ [root] <+: destination (p.start here) p.components →
      ¬ w ++ [root] <+: destination (p.start here) p.components ++ [name] := by
    intro root hne hnot hpre
    rcases List.prefix_concat_iff.mp hpre with hsame | hbelow
    · exact hne (List.cons.inj (List.append_inj' hsame rfl).2).1.symm
    · exact hnot hbelow
  rintro (hpre | hpre)
  · exact hstep "runtime" hruntime (fun h' => h.ends (.inl h')) hpre
  · exact hstep "results" hresults (fun h' => h.ends (.inr h')) hpre

/-- A path with a name behind it that does not come through the tests has the same place, and what
it leads to is the same, or a directory before and after. -/
theorem Path.join_outside {p : Path} (h : Node.SameOutside w before after)
    (havoids : p.Avoids here w)
    (hname : IsPlain name) (hruntime : name ≠ "runtime") (hresults : name ≠ "results") :
    (p.join name).place after here = (p.join name).place before here
      ∧ ((p.join name).node after here = (p.join name).node before here
        ∨ ∃ entries entries', (p.join name).node before here = .ok (.dir entries)
          ∧ (p.join name).node after here = .ok (.dir entries')) := by
  have hpass := passThrough_outside h havoids.arrives
  rw [place, place, node, node, p.walk_join after here hname, p.walk_join before here hname,
    p.approach_join_eq after here hname, p.approach_join_eq before here hname, hpass]
  cases hparent : passThrough before (p.start here) p.components with
  | error fault =>
    refine ⟨?_, .inl ?_⟩
    · split <;> rfl
    · cases (p.join name).refusal? <;> rfl
  | ok parent =>
    obtain rfl := passThrough_ok hparent
    -- Both depend only on what is found under the name in the directory.
    have hentry : Approach.entry after ⟨destination (p.start here) p.components, .name name, false⟩
          = Approach.entry before ⟨destination (p.start here) p.components, .name name, false⟩
        ∨ ∃ place entries entries',
          Approach.entry before ⟨destination (p.start here) p.components, .name name, false⟩
              = .ok (place, .dir entries)
            ∧ Approach.entry after ⟨destination (p.start here) p.components, .name name, false⟩
              = .ok (place, .dir entries') := by
      simp only [Approach.entry, Approach.target]
      rcases lookUp_outside h (havoids.not_isOfTests hruntime hresults) with
        hsame | ⟨entries, entries', hlookUp, hlookUp'⟩
      · exact .inl (by rw [hsame])
      · exact .inr ⟨_, entries, entries', by rw [hlookUp]; rfl, by rw [hlookUp']; rfl⟩
    by_cases hnul : (p.join name).text.toList.contains '\x00' = true
    all_goals cases hrefusal : (p.join name).refusal?
    all_goals simp only [hnul, if_true, Bool.false_eq_true, if_false, Except.map, Except.bind]
    all_goals
      rcases hentry with hsame | ⟨place, entries, entries', hbefore, hafter⟩
      · simp [hsame]
      · simp [hbefore, hafter]

/-- Outside the tests the octets at a path are the same, and its place. -/
theorem Bench.join_outside {before after : Bench} {p : Path} (hhere : after.here = before.here)
    (h : Node.SameOutside w before.files after.files) (havoids : p.Avoids before.here w)
    (hname : IsPlain name) (hruntime : name ≠ "runtime") (hresults : name ≠ "results") :
    after.bytesAt (p.join name) = before.bytesAt (p.join name)
      ∧ after.placeAt (p.join name) = before.placeAt (p.join name) := by
  obtain ⟨hplace, hnode⟩ := Path.join_outside h havoids hname hruntime hresults
  refine ⟨?_, by rw [placeAt, placeAt, hhere, hplace]⟩
  rw [bytesAt, bytesAt, nodeAt, nodeAt, hhere]
  rcases hnode with hnode | ⟨entries, entries', hbefore, hafter⟩
  · rw [hnode]
  · rw [hbefore, hafter]

end Outside

/-! ## Templates -/

/-- The path of a template with a plain name does not come through the tests. -/
theorem Workspace.avoids_of_isPlain {workspace : Workspace} {root : Node} {here w : Place}
    {template : String} (hw : workspace.root.Leads root here w) (htemplate : IsPlain template) :
    (workspace.template template).Avoids here w := by
  have hname : IsPlain "templates" := isPlain_of_length (by decide) (by decide)
  have hends : destination ((workspace.root.join "templates").start here)
      (workspace.root.join "templates").components = w ++ ["templates"] := by
    rw [workspace.root.start_join hname, workspace.root.components_join hname,
      destination_append _ _ hname, hw.ends]
  have harrives : arrivals ((workspace.template template).start here)
      (workspace.template template).components
        = arrivals (workspace.root.start here) workspace.root.components ++ [w ++ ["templates"]]
          ++ [w ++ ["templates"] ++ [template]] := by
    rw [Workspace.template, Workspace.templates, Path.start_join _ htemplate,
      Path.components_join _ htemplate, arrivals_append _ _ htemplate, hends,
      workspace.root.start_join hname, workspace.root.components_join hname,
      arrivals_append _ _ hname, hw.ends]
  have htemplates : ∀ below, ¬ Place.IsOfTests w (w ++ ["templates"] ++ below) := by
    intro below
    simp [Place.IsOfTests, List.prefix_append_right_inj]
  refine ⟨fun q hq => ?_, ?_⟩
  · rw [harrives] at hq
    rcases List.mem_append.mp hq with hq | hq
    · rcases List.mem_append.mp hq with hq | hq
      · -- The path of the workspace does not arrive below the workspace.
        exact fun hof => hof.below.2 (hw.direct q hq hof.below.1)
      · rw [List.mem_singleton.mp hq]
        simpa using htemplates []
    · rw [List.mem_singleton.mp hq]
      exact htemplates [template]
  · rw [Workspace.template, Workspace.templates, Path.start_join _ htemplate,
      Path.components_join _ htemplate, destination_append _ _ htemplate, hends]
    exact htemplates [template]

end BootTrial
