import BootTrial.Proofs.Changes
import BootTrial.Proofs.Ledger

/-!
# Sound workspaces

A workspace is sound (`Node.IsSound`) if its roots hold tests and nothing else, all tests that wait
are intact, and so are those that run, but for the ones that may be torn. Each kind of step, from
publishing a batch to deleting a test, leaves a sound workspace sound: whatever else a step does,
each test that is in its root afterwards was there before and has not changed, or is intact in its
new state (`Node.IsSound.of_tests`).
-/

namespace BootTrial

namespace Node

/-- The directory at a place holds tests, whichever they are, and nothing else. -/
abbrev IsRoot (root : Node) (d : Place) : Prop :=
  ∃ names, root.HoldsTests d names

/-- A directory that holds tests and into which another is put, under whatever name. -/
theorem HoldsTests.isRoot_put {root node : Node} {d : Place} {names : List String} {name : String}
    (h : root.HoldsTests d names) (hd : root.HasDir d) (htest : IsTest name node) :
    (root.put node (d ++ [name])).IsRoot d := by
  obtain ⟨entries, hentries⟩ := hd
  obtain ⟨rfl, hnodup, htests⟩ := h.entries hentries
  refine ⟨_, _, .inl (get?_put_entry hentries name node), rfl,
    Named.nodup_names_set name node hnodup, fun entry hentry => ?_⟩
  rcases Named.mem_set hentry with rfl | hentry
  · exact htest
  · exact htests entry hentry

/-- The roots of a workspace hold tests, those that wait are intact, and those that run are bound to
a boot by their names and intact, but for the ones that may be torn. -/
structure IsSound (p : Path) (here w : Place) (torn : String → Prop) (files : Node) : Prop where
  /-- The path of the workspace leads there. -/
  leads : p.Leads files here w
  /-- The roots. -/
  holds : ∀ r : Root, files.IsRoot (r.place w)
  /-- The tests that wait. -/
  pending : ∀ name, files.HasDir (Root.pending.place w ++ [name]) →
    files.HasIntact (Root.pending.place w ++ [name]) False
  /-- The tests that run. -/
  running : ∀ name, files.HasDir (Root.running.place w ++ [name]) →
    files.HasIntact (Root.running.place w ++ [name]) (torn name)
      ∧ ∃ boot, bootOfName? name = some boot

namespace IsSound

variable {p : Path} {here here' w : Place} {torn : String → Prop} {before after node : Node}
  {name name' : String}

/-- More tests may be torn. -/
theorem mono (h : IsSound p here w torn before) {torn' : String → Prop}
    (himp : ∀ name, torn name → torn' name) : IsSound p here w torn' before := by
  refine ⟨h.leads, h.holds, h.pending, fun name hdir => ?_⟩
  obtain ⟨hintact, hbound⟩ := h.running name hdir
  exact ⟨hintact.of_get? rfl (himp name), hbound⟩

/-- Only a test that runs may be torn. -/
theorem forget (h : IsSound p here w torn before) :
    IsSound p here w
      (fun name => torn name ∧ before.HasDir (Root.running.place w ++ [name])) before := by
  refine ⟨h.leads, h.holds, h.pending, fun name hdir => ?_⟩
  obtain ⟨hintact, hbound⟩ := h.running name hdir
  exact ⟨hintact.of_get? rfl fun htorn => ⟨htorn, hdir⟩, hbound⟩

/-- A ledger that accounts for a sound workspace agrees with it. -/
theorem agrees {ledger : Ledger} (h : IsSound p here w torn before)
    (haccounts : Accounts w before ledger) : Agrees w before ledger := by
  refine ⟨fun r => ?_, haccounts.single⟩
  obtain ⟨names, hdirs, hnames⟩ := haccounts.holds r
  obtain ⟨names', hholds⟩ := h.holds r
  obtain rfl : names = names' := by rw [← hdirs.namesAt_eq, hholds.namesAt_eq]
  exact ⟨names, hholds, hnames⟩

/-- A workspace is sound still if each test that waits has waited before and each that runs has run
before, unless it is intact and bound to a boot. -/
theorem of_tests (h : IsSound p here w torn before) (hleads : p.Leads after here' w)
    (hholds : ∀ r : Root, after.IsRoot (r.place w))
    (hpending : ∀ name, after.HasDir (Root.pending.place w ++ [name]) →
      after.get? (Root.pending.place w ++ [name]) = before.get? (Root.pending.place w ++ [name]))
    (hrunning : ∀ name, after.HasDir (Root.running.place w ++ [name]) →
      after.get? (Root.running.place w ++ [name]) = before.get? (Root.running.place w ++ [name])
        ∨ after.HasIntact (Root.running.place w ++ [name]) (torn name)
          ∧ ∃ boot, bootOfName? name = some boot) :
    IsSound p here' w torn after := by
  have hthere : ∀ {d : Place}, after.HasDir d → after.get? d = before.get? d → before.HasDir d := by
    intro d hdir hsame
    obtain ⟨entries, hentries⟩ := hdir
    exact ⟨entries, hsame.symm.trans hentries⟩
  refine ⟨hleads, hholds, fun name hdir => ?_, fun name hdir => ?_⟩
  · have hsame := hpending name hdir
    exact (h.pending name (hthere hdir hsame)).of_get? hsame id
  · rcases hrunning name hdir with hsame | hnow
    · obtain ⟨hintact, hbound⟩ := h.running name (hthere hdir hsame)
      exact ⟨hintact.of_get? hsame id, hbound⟩
    · exact hnow

/-- What leaves the roots alone. -/
theorem of_get? (h : IsSound p here w torn before) (hleads : p.Leads after here' w)
    (hsame : ∀ r : Root, after.get? (r.place w) = before.get? (r.place w)) :
    IsSound p here' w torn after := by
  refine h.of_tests hleads (fun r => ?_) (fun name _ => ?_) (fun name _ => .inl ?_)
  · obtain ⟨names, hholds⟩ := h.holds r
    exact ⟨names, hholds.of_get? (hsame r)⟩
  · rw [get?_append, hsame, ← get?_append]
  · rw [get?_append, hsame, ← get?_append]

/-- Making a root that is missing. -/
theorem made (h : IsSound p here w torn before) {r : Root} {d : Place} (hr : r.place w = d ++ [name])
    (hd : before.HasDir d) (hnone : before.get? (r.place w) = none) :
    IsSound p here w torn (before.put .emptyDir (r.place w)) := by
  have hempty : ∀ other, ¬ (before.put .emptyDir (r.place w)).HasDir (r.place w ++ [other]) := by
    intro other hdir
    obtain ⟨entries, hentries⟩ := hd
    obtain ⟨own, hown⟩ := hdir
    rw [hr, get?_append, get?_put_self hentries] at hown
    cases hown
  -- There are tests in the other roots only.
  have hsame : ∀ (r' : Root) (other : String),
      (before.put .emptyDir (r.place w)).HasDir (r'.place w ++ [other]) →
      (before.put .emptyDir (r.place w)).get? (r'.place w ++ [other])
        = before.get? (r'.place w ++ [other]) := by
    intro r' other hdir
    by_cases hroot : r = r'
    · subst hroot
      exact absurd hdir (hempty other)
    · exact get?_put_of_apart ((Root.place_apart hroot w).append_right [other]) _ _
  refine h.of_tests ?_ (fun r' => ?_) (hsame .pending) (fun other hdir => .inl (hsame .running other hdir))
  · have hput := h.leads.put_in r [] .emptyDir
    rwa [List.append_nil] at hput
  · obtain ⟨names, hholds⟩ := h.holds r'
    exact ⟨names, Spares.of_made hr hd hnone r' names hholds⟩

/-- Touching the directory of a test that runs. -/
theorem touched (h : IsSound p here w torn before)
    (htouch : Touch w name (torn name) before after) : IsSound p here w torn after := by
  have hinside := htouch.inside
  obtain ⟨hintact, hbound⟩ := h.running name hinside.hasDir_before
  have hafter := htouch.intact hintact
  have hothers : ∀ {r : Root}, r ≠ .running →
      after.get? (r.place w) = before.get? (r.place w) := fun hr =>
    hinside.get?_of_apart ((Root.place_apart hr w).append_right [name]).symm
  refine h.of_tests ?_ (fun r => ?_) (fun other _ => ?_) (fun other _ => ?_)
  · obtain ⟨entries, entries', hentries, rfl, -⟩ := hinside
    exact h.leads.put_in .running [name] (.dir entries')
  · obtain ⟨names, hholds⟩ := h.holds r
    by_cases hr : r = .running
    · subst hr
      exact ⟨names, hholds.changed hinside hafter.front⟩
    · exact ⟨names, hholds.of_get? (hothers hr)⟩
  · rw [get?_append, hothers (by decide), ← get?_append]
  · by_cases hname : name = other
    · subst hname
      exact .inr ⟨hafter, hbound⟩
    · exact .inl (hinside.get?_of_apart (Root.entries_apart hname .running w))

/-- Deleting a test that runs. -/
theorem deleted (h : IsSound p here w torn before)
    (hdir : before.HasDir (Root.running.place w ++ [name])) :
    IsSound p here w torn (before.erase (Root.running.place w ++ [name])) := by
  have hlost := lost_erase hdir
  refine h.of_tests (h.leads.erase_in .running [name]) (fun r => ?_) (fun other _ => ?_)
    (fun other hother => .inl ?_)
  · obtain ⟨names, hholds⟩ := h.holds r
    by_cases hr : r = .running
    · subst hr
      exact ⟨_, (hlost.left names hholds).2⟩
    · exact ⟨names, hlost.others r hr names hholds⟩
  · exact get?_erase_of_apart (Root.place_apart_entries (by decide) w name other) before
  · by_cases hname : name = other
    · subst hname
      obtain ⟨entries, hentries⟩ := hother
      rw [get?_erase name hdir.above] at hentries
      cases hentries
    · exact get?_erase_of_apart (Root.entries_apart hname .running w) before

/-- The roots when a directory has moved from one to another, under whatever name. -/
theorem isRoot_move (h : ∀ r : Root, before.IsRoot (r.place w)) {source goal : Root}
    (hroots : source ≠ goal) (hdir : before.HasDir (source.place w ++ [name]))
    (hgoal : before.HasDir (goal.place w)) (htest : IsTest name' node) (r : Root) :
    ((before.erase (source.place w ++ [name])).put node (goal.place w ++ [name'])).IsRoot
      (r.place w) := by
  have hlost := lost_erase hdir
  have herased : ∀ r : Root, (before.erase (source.place w ++ [name])).IsRoot (r.place w) := by
    intro r
    obtain ⟨names, hholds⟩ := h r
    by_cases hr : r = source
    · subst hr
      exact ⟨_, (hlost.left names hholds).2⟩
    · exact ⟨names, hlost.others r hr names hholds⟩
  obtain ⟨names, hholds⟩ := herased r
  by_cases hr : r = goal
  · subst hr
    refine hholds.isRoot_put (hgoal.erase fun hbegins => ?_) htest
    exact ((Root.place_apart hroots w).symm.append_right [name]).2 hbegins
  · exact ⟨names, hholds.of_get?
      (get?_put_of_apart ((Root.place_apart hr w).append_right [name']).symm _ node)⟩

/-- What is in a root when a directory has moved from one to another. -/
theorem get?_move_entry {source goal r : Root} {other : String}
    (hdir : before.HasDir (source.place w ++ [name]))
    (hgoal : r = goal → name' ≠ other)
    (hthere : ((before.erase (source.place w ++ [name])).put node
      (goal.place w ++ [name'])).HasDir (r.place w ++ [other])) :
    ((before.erase (source.place w ++ [name])).put node (goal.place w ++ [name'])).get?
      (r.place w ++ [other]) = before.get? (r.place w ++ [other]) := by
  have hput : ((before.erase (source.place w ++ [name])).put node (goal.place w ++ [name'])).get?
      (r.place w ++ [other]) = (before.erase (source.place w ++ [name])).get?
        (r.place w ++ [other]) := by
    refine get?_put_of_apart ?_ _ node
    by_cases hr : goal = r
    · subst hr
      exact Root.entries_apart (hgoal rfl) goal w
    · exact Root.place_apart_entries hr w name' other
  rw [hput]
  by_cases hr : source = r
  · subst hr
    by_cases hname : name = other
    · -- What has moved is not there any more.
      subst hname
      obtain ⟨entries, hentries⟩ := hthere
      rw [hput, get?_erase name hdir.above] at hentries
      cases hentries
    · exact get?_erase_of_apart (Root.entries_apart hname source w) before
  · exact get?_erase_of_apart (Root.place_apart_entries hr w name other) before

/-- Claiming a test in a boot. -/
theorem claimed (h : IsSound p here w torn before) {boot : BootId} {entries : Named Node}
    (hnode : before.get? (Root.pending.place w ++ [name]) = some (.dir entries))
    (hrunning : before.HasDir (Root.running.place w))
    (hshort : (runningName name boot).utf8ByteSize ≤ nameLimit) :
    IsSound p here w torn ((before.erase (Root.pending.place w ++ [name])).put (.dir entries)
      (Root.running.place w ++ [runningName name boot])) := by
  have hdir : before.HasDir (Root.pending.place w ++ [name]) := ⟨entries, hnode⟩
  have htest : IsTest (runningName name boot) (.dir entries) := by
    obtain ⟨names, hholds⟩ := h.holds .pending
    have hwaits := hholds.isTest hnode
    exact ⟨isPlain_runningName hwaits.plain boot, hshort, rfl, hwaits.front⟩
  obtain ⟨own, hown⟩ := hrunning
  have harrived : ((before.erase (Root.pending.place w ++ [name])).put (.dir entries)
      (Root.running.place w ++ [runningName name boot])).get?
        (Root.running.place w ++ [runningName name boot]) = some (.dir entries) := by
    have hroots := Root.place_apart (by decide : Root.pending ≠ .running) w
    rw [get?_snoc (get?_move_goal hroots hown _), Named.lookup_set_self]
  refine h.of_tests ?_ (isRoot_move h.holds (by decide) hdir ⟨own, hown⟩ htest) (fun other hother => ?_)
    (fun other hother => ?_)
  · exact (h.leads.erase_in .pending [name]).put_in .running [runningName name boot] _
  · exact get?_move_entry hdir (fun hr => by cases hr) hother
  · by_cases hname : runningName name boot = other
    · subst hname
      refine .inr ⟨?_, boot, bootOfName?_runningName name boot⟩
      exact (h.pending name hdir).of_get? (harrived.trans hnode.symm) False.elim
    · exact .inl (get?_move_entry hdir (fun _ => hname) hother)

/-- Completing a test. -/
theorem completed (h : IsSound p here w torn before) {entries : Named Node}
    (hnode : before.get? (Root.running.place w ++ [name]) = some (.dir entries))
    (hresults : before.HasDir (Root.results.place w)) :
    IsSound p here w torn ((before.erase (Root.running.place w ++ [name])).put (.dir entries)
      (Root.results.place w ++ [name])) := by
  have hdir : before.HasDir (Root.running.place w ++ [name]) := ⟨entries, hnode⟩
  obtain ⟨names, hholds⟩ := h.holds .running
  refine h.of_tests ?_ (isRoot_move h.holds (by decide) hdir hresults (hholds.isTest hnode)) (fun other hother => ?_)
    (fun other hother => .inl ?_)
  · exact (h.leads.erase_in .running [name]).put_in .results [name] _
  · exact get?_move_entry hdir (fun hr => by cases hr) hother
  · exact get?_move_entry hdir (fun hr => by cases hr) hother

/-- A step of a run of a test, which may be torn if the step deletes anything of it. -/
theorem changed (h : IsSound p here w torn before)
    (hchange : Change w name (torn name) before after) : IsSound p here w torn after := by
  cases hchange with
  | touched htouch => exact h.touched htouch
  | deleted _ hdir => exact h.deleted hdir
  | made hdir hnone => exact h.made (r := .results) rfl hdir hnone
  | completed hnode hresults => exact h.completed hnode hresults

/-- The steps of a run. -/
theorem changes (h : IsSound p here w torn before)
    (hchanges : Changes w name (torn name) before after) : IsSound p here w torn after := by
  induction hchanges with
  | refl => exact h
  | tail _ hlast ih => exact ih.changed hlast

/-- What does not disturb the roots. -/
theorem undisturbed (h : IsSound p here w torn before)
    (hsame : Undisturbed p here w before after) : IsSound p here w torn after := by
  refine h.of_tests hsame.leads (fun r => ?_) (fun name hdir => ?_) (fun name _ => .inl ?_)
  · obtain ⟨names, hholds⟩ := h.holds r
    exact ⟨names, hsame.spares r names hholds⟩
  · rcases hsame.pending with hpending | ⟨-, hnone⟩
    · rw [get?_append, hpending, ← get?_append]
    · obtain ⟨entries, hentries⟩ := hdir.above
      rw [hnone] at hentries
      cases hentries
  · rw [get?_append, hsame.running, ← get?_append]

/-- Publishing a batch of records that can be read. -/
theorem published (h : IsSound p here w torn before)
    (hpublishes : Publishes p here w before after) {template : String} {header : List String}
    {scenarios : List Scenario} (hnamed : ScenarioTable.isBlankHeader header = false)
    (hscenarios : ∀ scenario ∈ scenarios, scenario.names = header ∧ scenario.names.Nodup)
    (hbatch : before.get? (stagingPlace w) = some (.dir (batchFrom template header 1 scenarios)))
    (htests : before.HoldsTests (stagingPlace w) (batchFrom template header 1 scenarios).names) :
    IsSound p here w torn after := by
  have hpending : after.get? (Root.pending.place w)
      = some (.dir (batchFrom template header 1 scenarios)) := hpublishes.pending.trans hbatch
  refine ⟨hpublishes.leads, fun r => ?_, fun name hdir => ?_, fun name hdir => ?_⟩
  · by_cases hr : r = .pending
    · subst hr
      exact ⟨_, htests.of_get? hpublishes.pending⟩
    · obtain ⟨names, hholds⟩ := h.holds r
      exact ⟨names, hholds.of_get? (hpublishes.others r hr)⟩
  · obtain ⟨entries, hentries⟩ := hdir
    refine ⟨entries, hentries, ?_⟩
    have htest := (htests.of_get? hpublishes.pending).isTest hentries
    rw [get?_snoc hpending] at hentries
    obtain ⟨number, scenario, -, hmem, hentry⟩ := mem_batchFrom (Named.mem_of_lookup hentries)
    obtain ⟨hnames, hnodup⟩ := hscenarios scenario hmem
    obtain ⟨rfl, hnode⟩ := Prod.mk.inj hentry
    cases hnode
    exact .of_testEntries htest hnames hnodup hnamed
  · have hsame := hpublishes.others .running (by decide)
    obtain ⟨entries, hentries⟩ := hdir
    have hthere : after.get? (Root.running.place w ++ [name])
        = before.get? (Root.running.place w ++ [name]) := by
      rw [get?_append, hsame, ← get?_append]
    obtain ⟨hintact, hbound⟩ := h.running name ⟨entries, hthere.symm.trans hentries⟩
    exact ⟨hintact.of_get? hthere id, hbound⟩

end IsSound

end Node

end BootTrial
