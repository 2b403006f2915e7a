import BootTrial.Proofs.Binding
import BootTrial.Proofs.Calls
import BootTrial.Proofs.Changes
import BootTrial.Proofs.Claiming

/-!
# The boot that a test is bound to

A test is bound to the boot in which it was claimed for as long as its directory is in the running
root: the file that holds the boot id may be lost or spoilt, but the id is in the name of the
directory as well. So every run of the test that loads it finds this boot, and leaves it in the file
(`Trial.load_binds`), whichever boot the machine is in, and captures its kernel log and no other
(`Workspace.claim_keeps_boot`).

`Workspace.Later` says what may happen to the test between its claim and a run: other runs, each of
them complete or cut off at any time, and changes of the file by somebody else.
-/

namespace BootTrial

open Text (Bytes)

namespace Node

/-- The directory at a place is bound to a boot as far as its file for the boot id goes: this is
missing, or it holds a text of which no other boot id is read. -/
def IsBoundTo (root : Node) (d : Place) (boot : BootId) : Prop :=
  ∀ node, root.get? (d ++ [bootIdName]) = some node → ∃ text runnable,
    node = .file (Text.encode text) runnable
      ∧ (BootId.parse? text = none ∨ BootId.parse? text = some boot)

/-- Somebody else has changed at most the file for the boot id in the directory at a place: it is as
it was, or missing, or it holds a text of which no other boot id is read. -/
structure Meddled (d : Place) (boot : BootId) (before after : Node) : Prop where
  /-- All else is the same. -/
  others : ∀ other ≠ bootIdName, after.get? (d ++ [other]) = before.get? (d ++ [other])
  /-- The file. -/
  sidecar : after.get? (d ++ [bootIdName]) = before.get? (d ++ [bootIdName]) ∨ after.IsBoundTo d boot

/-- What is left under a name when something has been erased below a directory is what was there, or
both are directories. -/
theorem get?_erase_below {root node : Node} {d below : Place} {other : String} (hdir : root.HasDir d)
    (hbelow : below ≠ []) (hnode : (root.erase (d ++ below)).get? (d ++ [other]) = some node) :
    ∃ old, root.get? (d ++ [other]) = some old
      ∧ (node = old ∨ old.isDir = true ∧ node.isDir = true) := by
  obtain ⟨entries, hentries⟩ := hdir
  obtain ⟨entries', herase, -⟩ := erase_dir entries hbelow
  rw [erase_append hentries hbelow, herase, get?_snoc (get?_put hentries _)] at hnode
  rw [get?_snoc hentries]
  obtain ⟨first, rest, rfl⟩ := List.exists_cons_of_ne_nil hbelow
  cases rest with
  | nil =>
    cases herase
    by_cases hname : other = first
    · rw [hname, Named.lookup_erase_self] at hnode
      cases hnode
    · rw [Named.lookup_erase_of_ne hname] at hnode
      exact ⟨node, hnode, .inl rfl⟩
  | cons second more =>
    cases hlookup : entries.lookup first with
    | none =>
      obtain rfl : entries = entries' := by simpa [Node.erase, hlookup] using herase
      exact ⟨node, hnode, .inl rfl⟩
    | some child =>
      rw [erase_cons hlookup (by simp)] at herase
      cases herase
      by_cases hname : other = first
      · subst hname
        rw [Named.lookup_set_self] at hnode
        cases hnode
        refine ⟨child, hlookup, ?_⟩
        cases child with
        | file content runnable => exact .inl rfl
        | dir own =>
          obtain ⟨own', hown, -⟩ := erase_dir own (List.cons_ne_nil second more)
          exact .inr ⟨rfl, by rw [hown]; rfl⟩
      · rw [Named.lookup_set_of_ne hname] at hnode
        exact ⟨node, hnode, .inl rfl⟩

variable {w : Place} {name : String} {doomed : Prop} {before after : Node} {boot : BootId}
  {d : Place}

/-- What stands under a name that a run reads, the scenario file apart, when the run has touched the
directory of its test: what was there, or what is written down of the boot id. -/
theorem Touch.entry (h : Touch w name doomed before after) {other : String} {node : Node}
    (hvital : IsVital other) (hsheet : other ≠ scenarioName)
    (hnode : after.get? (Root.running.place w ++ [name] ++ [other]) = some node) :
    (∃ old, before.get? (Root.running.place w ++ [name] ++ [other]) = some old
        ∧ (node = old ∨ old.isDir = true ∧ node.isDir = true))
      ∨ other = bootIdName ∧ ∃ text runnable, node = .file (Text.encode text) runnable
        ∧ (text = "" ∨ ∃ boot, bootOfName? name = some boot ∧ text = boot.text) := by
  have hapart : ∀ {first}, first ≠ other → Place.Apart (Root.running.place w ++ [name] ++ [first])
      (Root.running.place w ++ [name] ++ [other]) := fun hne =>
    (Place.Apart.of_ne hne [] []).append_left _
  cases h with
  | aside h =>
    rw [h.get?_kept hvital] at hnode
    exact .inl ⟨node, hnode, .inl rfl⟩
  | @bound text runnable hdir htext =>
    by_cases hname : bootIdName = other
    · subst hname
      obtain ⟨entries, hentries⟩ := hdir
      rw [get?_put_self hentries] at hnode
      exact .inr ⟨rfl, text, runnable, (Option.some.inj hnode).symm, htext⟩
    · rw [get?_put_of_apart (hapart hname)] at hnode
      exact .inl ⟨node, hnode, .inl rfl⟩
  | written =>
    have hdraft : Scenario.draftName scenarioName ≠ other := by
      rintro rfl
      rcases hvital with h | h | h <;> exact absurd h (by decide)
    rw [get?_put_of_apart (hapart (Ne.symm hsheet)), get?_erase_of_apart (hapart hdraft)] at hnode
    exact .inl ⟨node, hnode, .inl rfl⟩
  | taken _ hdir hbelow => exact .inl (get?_erase_below hdir hbelow hnode)

/-- A run that touches the directory of its test leaves it bound to the boot in its name. -/
theorem Touch.isBoundTo (h : Touch w name doomed before after)
    (hname : bootOfName? name = some boot)
    (hbound : before.IsBoundTo (Root.running.place w ++ [name]) boot) :
    after.IsBoundTo (Root.running.place w ++ [name]) boot := by
  intro node hnode
  rcases h.entry (.inl rfl) (by decide) hnode with ⟨old, hold, hsame⟩ |
    ⟨-, text, runnable, rfl, htext⟩
  · obtain ⟨text, runnable, rfl, htext⟩ := hbound old hold
    rcases hsame with rfl | ⟨hdir, -⟩
    · exact ⟨text, runnable, rfl, htext⟩
    · cases hdir
  · refine ⟨text, runnable, rfl, ?_⟩
    rcases htext with rfl | ⟨own, hown, rfl⟩
    · exact .inl (by decide)
    · obtain rfl : own = boot := by simpa [hname] using hown.symm
      exact .inr own.parse?_text

/-- A run that touches the directory of its test leaves the front of the names of its logs plain. -/
theorem Touch.hasPlainFront (h : Touch w name doomed before after)
    (hfront : before.HasPlainFront (Root.running.place w ++ [name])) :
    after.HasPlainFront (Root.running.place w ++ [name]) := by
  intro content runnable text hnode htext
  rcases h.entry (.inr (.inl rfl)) (by decide) hnode with ⟨old, hold, rfl | ⟨-, hdir⟩⟩ | ⟨hname, -⟩
  · exact hfront content runnable text hold htext
  · cases hdir
  · exact absurd hname (by decide)

/-- In a workspace a test, if it is in the running root, is bound to a boot. -/
structure Binds (p : Path) (here w : Place) (name : String) (boot : BootId) (files : Node) : Prop where
  /-- The path of the workspace leads there. -/
  leads : p.Leads files here w
  /-- The file for the boot id is missing or spoilt at most. -/
  bound : files.IsBoundTo (Root.running.place w ++ [name]) boot
  /-- The front of the names of the logs is plain. -/
  front : files.HasPlainFront (Root.running.place w ++ [name])

namespace Binds

variable {p : Path} {here : Place}

/-- A test that is not in the running root is bound to any boot. -/
theorem of_gone (hleads : p.Leads after here w)
    (hgone : after.get? (Root.running.place w ++ [name]) = none) :
    Binds p here w name boot after := by
  have hnone : ∀ other, after.get? (Root.running.place w ++ [name] ++ [other]) = none := fun other => by
    rw [get?_append, hgone]
    rfl
  refine ⟨hleads, fun node hnode => ?_, fun content runnable text hnode => ?_⟩
  · rw [hnone] at hnode
    cases hnode
  · rw [hnone] at hnode
    cases hnode

/-- A test is bound as it was where nothing of its directory has changed. -/
theorem of_get? (h : Binds p here w name boot before) (hleads : p.Leads after here w)
    (hsame : after.get? (Root.running.place w ++ [name])
      = before.get? (Root.running.place w ++ [name])) : Binds p here w name boot after := by
  refine ⟨hleads, fun node hnode => h.bound node ?_, fun content runnable text hnode =>
    h.front content runnable text ?_⟩
  all_goals rwa [get?_append, ← hsame, ← get?_append]

/-- One step of a run of the test. -/
theorem changed (h : Binds p here w name boot before) (hname : bootOfName? name = some boot)
    (hchange : Change w name doomed before after) : Binds p here w name boot after := by
  cases hchange with
  | touched htouch =>
    refine ⟨?_, htouch.isBoundTo hname h.bound, htouch.hasPlainFront h.front⟩
    obtain ⟨entries, entries', hentries, rfl, -⟩ := htouch.inside
    exact h.leads.put_in .running [name] (.dir entries')
  | deleted _ hdir => exact .of_gone (h.leads.erase_in .running [name]) (get?_erase name hdir.above)
  | made hdir hnone =>
    have hroots := Root.place_apart (by decide : Root.results ≠ .running) w
    refine h.of_get? ?_ (get?_put_of_apart (hroots.append_right [name]) _ _)
    simpa using h.leads.put_in .results [] .emptyDir
  | @completed entries hnode =>
    have hdir : before.HasDir (Root.running.place w ++ [name]) := ⟨entries, hnode⟩
    refine .of_gone ((h.leads.erase_in .running [name]).put_in .results [name] (.dir entries)) ?_
    rw [get?_put_of_apart (Root.place_apart_entries (by decide : Root.results ≠ .running) w name name)]
    exact get?_erase name hdir.above

/-- The steps of a run of the test. -/
theorem changes (h : Binds p here w name boot before) (hname : bootOfName? name = some boot)
    (hchanges : Changes w name doomed before after) : Binds p here w name boot after := by
  induction hchanges with
  | refl => exact h
  | tail _ hlast ih => exact ih.changed hname hlast

/-- Somebody else meddles with the file for the boot id. -/
theorem meddled {here' : Place} (h : Binds p here w name boot before) (hleads : p.Leads after here' w)
    (hmeddled : Meddled (Root.running.place w ++ [name]) boot before after) :
    Binds p here' w name boot after := by
  refine ⟨hleads, fun node hnode => ?_, fun content runnable text hnode => ?_⟩
  · rcases hmeddled.sidecar with hsame | hbound
    · exact h.bound node (hsame ▸ hnode)
    · exact hbound node hnode
  · rw [hmeddled.others prefixName (by decide)] at hnode
    exact h.front content runnable text hnode

end Binds

end Node

section Reading

variable {p q : Path} {d w : Place} {name : String} {bench after : Bench} {boot : BootId}

/-- What is read of a text file depends on the files and on the working directory. -/
theorem Bench.textAt_congr (hfiles : after.files = bench.files) (hhere : after.here = bench.here)
    (path : Path) : after.textAt path = bench.textAt path := by
  simp only [textAt, bytesAt, nodeAt, hfiles, hhere]

/-- Reading the file for the boot id changes nothing. -/
theorem storedBoot_reads (p : Path) (bench : Bench) : (bench.perform (storedBoot p)).2 = bench := by
  rw [perform_storedBoot]
  split <;> rfl

/-- What is read of the file for the boot id depends on the files and on the working directory. -/
theorem storedBoot_congr (hfiles : after.files = bench.files) (hhere : after.here = bench.here)
    (p : Path) : (after.perform (storedBoot p)).1 = (bench.perform (storedBoot p)).1 := by
  rw [perform_storedBoot, perform_storedBoot, Bench.textAt_congr hfiles hhere]
  split <;> rfl

/-- The boot id is read of its file that holds it. -/
theorem storedBoot_written (hp : p.Leads bench.files bench.here d)
    (hfault : p.joinFault? bootIdName = none) {runnable : Bool}
    (hfile : bench.files.get? (d ++ [bootIdName])
      = some (.file (Text.encode boot.text) runnable)) :
    bench.perform (storedBoot p) = (.ok (some boot), bench) := by
  obtain ⟨entries, hentries⟩ := hp.dir
  have hnode : bench.nodeAt (p.join bootIdName) = .ok (.file (Text.encode boot.text) runnable) := by
    rw [Bench.nodeAt, Path.node_join bootIdName_isPlain hp.passThrough hentries, hfault,
      ← Node.get?_snoc hentries, hfile]
  rw [perform_storedBoot]
  simp only [Bench.textAt, Bench.bytesAt, hnode, Text.decode?_encode, boot.parse?_text]

/-- The boot id that has been written down is read again. -/
theorem bindTo_binds (hp : p.Leads bench.files bench.here d)
    (h : bench.perform (bindTo p boot) = (.ok (), after)) :
    (after.perform (storedBoot p)).1 = .ok (some boot) ∧ ∃ runnable,
      after.files.get? (d ++ [bootIdName]) = some (.file (Text.encode boot.text) runnable) := by
  have hstays : Keeps (Bench.StaysIn p d (fun _ => False) fun _ => True) (bindTo p boot) :=
    bindTo_staysIn id trivial boot
  have hcreates : Keeps (Bench.StaysIn p d (fun _ => False) fun _ => True)
      (FileWork.take (FileStep.createFile (p.join bootIdName))) :=
    FileWork.createFile_staysIn bootIdName_isPlain id trivial
  have hwhole := hstays bench hp
  have hfirst := hcreates bench hp
  obtain ⟨_, created, hcreate, hfill⟩ := Bench.perform_bind_inv (Bench.perform_reportedAs_inv h)
  rw [h] at hwhole
  rw [hcreate] at hfirst
  -- The file is there when it is filled.
  have hp' := hfirst.leads hp
  obtain ⟨entries, hentries⟩ := hp'.dir
  rw [Bench.perform_take, FileStep.fillFile_join bootIdName_isPlain hp'.passThrough hentries] at hfill
  cases hfault : p.joinFault? bootIdName with
  | some fault => simp [hfault] at hfill
  | none =>
    rcases hlookup : entries.lookup bootIdName with _ | ⟨content, runnable⟩ | own
    all_goals simp only [hfault, hlookup] at hfill
    · cases hfill
    · cases hfill
      have hfile := Node.get?_put_self hentries (.file (Text.encode boot.text) runnable) bootIdName
      exact ⟨by rw [storedBoot_written (hwhole.leads hp) hfault hfile], runnable, hfile⟩
    · cases hfill

/-- The boot that is found for a test is the one in the name of its directory, and it is read of its
file then. -/
theorem boundBoot_binds {own : BootId} (hname : IsPlain name)
    (hp : (q.join name).Leads bench.files bench.here d) (hbound : bench.files.IsBoundTo d boot)
    (hown : bootOfName? name = some boot)
    (h : bench.perform (boundBoot (q.join name)) = (.ok own, after)) :
    own = boot ∧ (after.perform (storedBoot (q.join name))).1 = .ok (some boot) := by
  obtain ⟨stored, read, hstored, h⟩ := Bench.perform_bind_inv h
  obtain rfl : read = bench := by
    have hread := storedBoot_reads (q.join name) bench
    rw [hstored] at hread
    exact hread
  cases stored with
  | some found =>
    obtain ⟨rfl, rfl⟩ : found = own ∧ read = after := by simpa using h
    suffices hsame : found = boot by
      subst hsame
      exact ⟨rfl, by rw [hstored]⟩
    obtain ⟨entries, hentries⟩ := hp.dir
    rw [perform_storedBoot] at hstored
    cases htext : read.textAt ((q.join name).join bootIdName) with
    | error fault => cases fault <;> simp [htext] at hstored
    | ok raw =>
      obtain ⟨content, runnable, hnode, hdecode⟩ :=
        Bench.textAt_join_ok bootIdName_isPlain hp.passThrough hentries htext
      obtain ⟨text, runnable', hfile, hread⟩ := hbound _ (by rw [Node.get?_snoc hentries, hnode])
      obtain rfl : raw = text := by
        cases hfile
        rw [Text.decode?_encode] at hdecode
        exact (Option.some.inj hdecode).symm
      simp only [htext, Prod.mk.injEq, Except.ok.injEq, and_true] at hstored
      simpa [hstored] using hread
  | none =>
    simp only [directoryName_join _ hname] at h
    obtain ⟨_, named, hnamed, h⟩ := Bench.perform_bind_inv h
    obtain ⟨rfl, rfl⟩ : name = _ ∧ read = named := by simpa using hnamed
    simp only [hown] at h
    obtain ⟨_, bound, hbind, h⟩ := Bench.perform_bind_inv h
    obtain ⟨rfl, rfl⟩ : boot = own ∧ bound = after := by simpa using h
    exact ⟨rfl, (bindTo_binds hp hbind).1⟩

/-- A directory is passed through if a path is that goes on. -/
theorem passThrough_of_join {root : Node} {here goal : Place} (hname : IsPlain name)
    (h : passThrough root ((p.join name).start here) (p.join name).components = .ok goal) :
    ∃ d, passThrough root (p.start here) p.components = .ok d := by
  rw [p.start_join hname, p.components_join hname, passThrough_append] at h
  cases hpass : passThrough root (p.start here) p.components with
  | error fault => simp [hpass, Except.bind] at h
  | ok d => exact ⟨d, rfl⟩

/-- Where a directory of the running root is passed through it stands there. -/
theorem Workspace.hasDir_of_passThrough {workspace : Workspace} {root : Node} {here goal : Place}
    (hw : workspace.root.Leads root here w) (hname : IsPlain name)
    (h : passThrough root ((workspace.running.join name).start here)
      (workspace.running.join name).components = .ok goal) :
    root.HasDir (Root.running.place w ++ [name]) := by
  obtain ⟨running, hrunning⟩ := passThrough_of_join hname h
  obtain ⟨runtime, hruntime⟩ := passThrough_of_join runningName_isPlain hrunning
  obtain ⟨rfl, -⟩ := passThrough_join_ok runtimeName_isPlain hw.passThrough hruntime
  obtain ⟨rfl, -⟩ := passThrough_join_ok runningName_isPlain hruntime hrunning
  obtain ⟨rfl, hdir⟩ := passThrough_join_ok hname hrunning h
  exact hdir

/-- Where a directory is not passed through no boot is found for it, and nothing is written. -/
theorem boundBoot_blocked {fault : FileFault}
    (h : passThrough bench.files (p.start bench.here) p.components = .error fault) :
    ∃ failure, bench.perform (boundBoot p) = (.error failure, bench) := by
  have happroach := Path.approach_join_blocked bootIdName_isPlain h
  have htext : bench.textAt (p.join bootIdName)
      = .error ((p.join bootIdName).refusal?.getD fault) := by
    simp only [Bench.textAt, Bench.bytesAt, Bench.nodeAt, Path.node, happroach]
    rfl
  generalize (p.join bootIdName).refusal?.getD fault = refused at happroach htext
  have hbind : ∀ boot, ∃ failure, bench.perform (bindTo p boot) = (.error failure, bench) := by
    intro boot
    have hcreate : bench.perform (FileWork.take (FileStep.createFile (p.join bootIdName)))
        = (.error refused, bench) := by
      rw [Bench.perform_take, FileStep.createFile, happroach]
      rfl
    exact ⟨_, Bench.perform_reportedAs_error (Bench.perform_bind_error hcreate _) _⟩
  have hstored := perform_storedBoot p bench
  rw [htext] at hstored
  unfold boundBoot
  cases refused
  case notFound =>
    rw [Bench.perform_bind_ok hstored]
    cases hown : directoryName p with
    | error failure => exact ⟨failure, Bench.perform_bind_error (Bench.perform_ofExcept bench _) _⟩
    | ok own =>
      simp only [Bench.perform_bind_ok (Bench.perform_ofExcept bench (Except.ok own))]
      cases bootOfName? own with
      | none => exact ⟨_, rfl⟩
      | some boot =>
        obtain ⟨failure, hfailure⟩ := hbind boot
        exact ⟨failure, Bench.perform_bind_error hfailure _⟩
  all_goals exact ⟨_, Bench.perform_bind_error hstored _⟩

/-- A test whose directory is not there cannot be loaded, and nothing happens. -/
theorem Trial.load_gone {workspace : Workspace} (hw : workspace.root.Leads bench.files bench.here w)
    (hname : IsPlain name) (hgone : ¬ bench.files.HasDir (Root.running.place w ++ [name]))
    (settings : Settings) (machine : Machine) :
    ∃ failure, bench.perform (load settings machine (workspace.running.join name))
      = (.error failure, bench) := by
  cases hpass : passThrough bench.files ((workspace.running.join name).start bench.here)
      (workspace.running.join name).components with
  | ok goal => exact absurd (Workspace.hasDir_of_passThrough hw hname hpass) hgone
  | error fault =>
    obtain ⟨failure, hfailure⟩ := boundBoot_blocked hpass
    exact ⟨failure, Bench.perform_bind_error hfailure _⟩

end Reading

/-- A trial that has been loaded from the running root is bound to the boot in the name of the
directory, and this is read of the file for it then. The other boot that the trial knows is the one
that the machine has named. -/
theorem Trial.load_binds {workspace : Workspace} {settings : Settings} {machine : Machine} {w : Place}
    {name : String} {boot : BootId} {bench after : Bench} {trial : Trial}
    (hmachine : machine.WritesOnlyLogs) (hname : IsPlain name) (hshort : name.utf8ByteSize ≤ nameLimit)
    (hown : bootOfName? name = some boot) (hw : workspace.root.Leads bench.files bench.here w)
    (hholds : bench.files.IsBoundTo (Root.running.place w ++ [name]) boot)
    (h : bench.perform (load settings machine (workspace.running.join name)) = (.ok trial, after)) :
    trial.boot = boot
      ∧ (after.perform (storedBoot (workspace.running.join name))).1 = .ok (some boot)
      ∧ bench.Replied machine .currentBoot trial.currentBoot after := by
  have hdir : bench.files.HasDir (Root.running.place w ++ [name]) := by
    apply Classical.byContradiction
    intro hgone
    obtain ⟨failure, hload⟩ := load_gone hw hname hgone settings machine
    rw [hload] at h
    cases h
  obtain ⟨own, bound, hbound, h⟩ := Bench.perform_bind_inv h
  obtain ⟨currentBoot, asked, hcurrent, h⟩ := Bench.perform_bind_inv h
  obtain ⟨front, fronted, hfront, h⟩ := Bench.perform_bind_inv h
  obtain ⟨scenario, last, hscenario, h⟩ := Bench.perform_bind_inv h
  obtain ⟨hloaded, rfl⟩ : _ ∧ last = after := Prod.mk.inj h
  have hruns : workspace.Runs w name bench := ⟨hw, hname, hshort, hdir⟩
  obtain ⟨rfl, hstored⟩ := boundBoot_binds hname hruns.leads hholds hown hbound
  -- What follows leaves the files alone.
  have hask : Keeps (Bench.Quiet fun _ => True) (machine.ask .currentBoot) :=
    hmachine.ask_quiet rfl trivial trivial
  have hasked := hask bound
  have hfronted := logFrontOf_keeps (R := Bench.Unmoved) (workspace.running.join name) asked
  have hread := Scenario.read_unmoved ((workspace.running.join name).join scenarioName) false fronted
  rw [hcurrent] at hasked
  rw [hfront] at hfronted
  rw [hscenario] at hread
  have hgrows : bench.history <:+ bound.history := by
    have hstep : ∀ (bench : Bench) (files : Node), bench.Only (fun _ => True) (bench.stepTo files) :=
      Bench.Only.stepTo trivial
    have honly := boundBoot_keeps hstep (workspace.running.join name) bench
    rw [hbound] at honly
    exact honly.grows
  have hsame : last.history = asked.history := hread.history.trans hfronted.history
  refine ⟨by rw [← Except.ok.inj hloaded], ?_, bound, hgrows, ?_, ?_⟩
  · rw [storedBoot_congr (hread.files.trans (hfronted.files.trans hasked.files))
      (hread.here.trans (hfronted.here.trans hasked.here)), hstored]
  · rw [hcurrent, ← Except.ok.inj hloaded]
  · simp only [hcurrent, hsame, List.suffix_rfl]

/-- What may come of a test in the running root later: it is run, and the run may be cut off at any
time; and somebody else may change anything but its directory, and the file for the boot id there. -/
inductive Workspace.Later (workspace : Workspace) (w : Place) (name : String) (boot : BootId)
    (first : Bench) : Bench → Prop
  /-- Nothing has happened yet. -/
  | now : Later workspace w name boot first first
  /-- Somebody else changes something. -/
  | meddled {bench after : Bench} (h : Later workspace w name boot first bench)
      (hleads : workspace.root.Leads after.files after.here w)
      (hmeddled : Node.Meddled (Root.running.place w ++ [name]) boot bench.files after.files) :
      Later workspace w name boot first after
  /-- The test is resumed. -/
  | resumed {bench after : Bench} {settings : Settings} {machine : Machine} {operator : Operator}
      (h : Later workspace w name boot first bench) (hsettings : settings.workspace = workspace)
      (hmachine : machine.WritesOnlyLogs) (hoperator : operator.OnlyChooses)
      (hstood : bench.Stood (bench.perform (Trial.runAt settings machine operator
        (workspace.running.join name))).2 after.files)
      (hhere : after.here = bench.here) : Later workspace w name boot first after

/-- A test that is bound to a boot is bound to it later. -/
theorem Workspace.Later.binds {workspace : Workspace} {w : Place} {name : String} {boot : BootId}
    {first bench : Bench} (hname : IsPlain name) (hshort : name.utf8ByteSize ≤ nameLimit)
    (hown : bootOfName? name = some boot)
    (hbinds : Node.Binds workspace.root first.here w name boot first.files)
    (h : workspace.Later w name boot first bench) :
    Node.Binds workspace.root bench.here w name boot bench.files := by
  induction h with
  | now => exact hbinds
  | meddled _ hleads hmeddled ih => exact ih.meddled hleads hmeddled
  | @resumed bench after settings machine operator _ hsettings hmachine hoperator hstood hhere ih =>
    subst hsettings
    rw [hhere]
    by_cases hdir : bench.files.HasDir (Root.running.place w ++ [name])
    · have hruns : settings.workspace.Runs w name bench := ⟨ih.leads, hname, hshort, hdir⟩
      -- Whether the operator deletes the test is of no account here.
      have hchanges : bench.Changes w name True (bench.perform (Trial.runAt settings machine operator
          (settings.workspace.running.join name))).2 :=
        Trial.runAt_changes hmachine hoperator hruns ih.front fun _ _ _ => trivial
      exact ih.changes hown (hchanges.stood .refl hstood)
    · obtain ⟨failure, hload⟩ := Trial.load_gone ih.leads hname hdir settings machine
      have hprepare : bench.perform (Trial.prepare settings machine
          (settings.workspace.running.join name)) = (.error failure, bench) :=
        Bench.perform_bind_error hload _
      rw [Trial.perform_runAt, hprepare] at hstood
      have hsame : after.files = bench.files := by
        rcases hstood with hsame | hsame | ⟨moments, hmoments, moment, hmem, -⟩
        · exact hsame
        · exact hsame
        · rw [List.self_eq_append_left.mp hmoments] at hmem
          cases hmem
      rwa [hsame]

/-- A test that has been claimed is bound to the boot of the claim, and all else in its directory is as
it was. -/
theorem Workspace.claim_bound {workspace : Workspace} {w : Place} {bench after : Bench} {boot : BootId}
    {directory : Path} (hw : workspace.root.Leads bench.files bench.here w)
    (hpending : bench.files.IsListing (Root.pending.place w))
    (h : bench.perform (workspace.claim boot) = (.ok directory, after)) :
    ∃ name, bench.files.HasDir (Root.pending.place w ++ [name]) ∧ IsPlain name
      ∧ directory = workspace.running.join (runningName name boot)
      ∧ workspace.Runs w (runningName name boot) after
      ∧ after.files.IsBoundTo (Root.running.place w ++ [runningName name boot]) boot
      ∧ ∀ other ≠ bootIdName,
        after.files.get? (Root.running.place w ++ [runningName name boot] ++ [other])
          = bench.files.get? (Root.pending.place w ++ [name] ++ [other]) := by
  rcases claim_steps_first hw hpending boot with ⟨failure, last, hclaim, -⟩ |
    ⟨waiting, name, rest, made, entries, hwaiting, hfirst, hmade, hnode, hrunning, hshort, hclaim⟩
  · rw [hclaim] at h
    cases h
  have hname : name ∈ testNames waiting := hfirst ▸ List.mem_cons_self
  have hplain : IsPlain name :=
    hpending.plain name (by rw [Node.namesAt_dir hwaiting]; exact mem_testNames hname)
  have hruns := runs_moved (hmade.spared hw).root hplain hrunning hshort entries
  have harrived := get?_moved hrunning name (runningName name boot) entries
  rw [hclaim] at h
  generalize (made.files.erase (Root.pending.place w ++ [name])).put (.dir entries)
    (Root.running.place w ++ [runningName name boot]) = files at h hruns harrived
  obtain ⟨_, bound, hbind, h⟩ := Bench.perform_bind_inv h
  obtain ⟨rfl, rfl⟩ : workspace.running.join (runningName name boot) = directory ∧ bound = after := by
    simpa using h
  -- Writing the boot id leaves everything else in the directory alone.
  have hstays : Keeps (Bench.StaysIn (workspace.running.join (runningName name boot))
      (Root.running.place w ++ [runningName name boot]) (· ≠ bootIdName) fun _ => True)
      (bindTo (workspace.running.join (runningName name boot)) boot) :=
    bindTo_staysIn (by simp) trivial boot
  have hinside := hstays (made.stepTo files) hruns.leads
  rw [hbind] at hinside
  obtain ⟨-, runnable, hfile⟩ := bindTo_binds hruns.leads hbind
  refine ⟨name, hpending.hasDir hwaiting hname, hplain, rfl, hruns.inside hinside,
    fun node hnode => ?_, fun other hother => ?_⟩
  · rw [hfile] at hnode
    exact ⟨boot.text, runnable, (Option.some.inj hnode).symm, .inr boot.parse?_text⟩
  · have hwas : bench.files.get? (Root.pending.place w ++ [name]) = some (.dir entries) := by
      rw [← hmade.get?_other (by decide), hnode]
    exact (hinside.files.get?_kept hother).trans
      ((Node.get?_snoc harrived other).trans (Node.get?_snoc hwas other).symm)

/-- Such a test, where the pending root holds nothing else, stays bound to the boot. -/
theorem Workspace.claim_binds {workspace : Workspace} {w : Place} {bench after : Bench}
    {names : List String} {boot : BootId} {directory : Path}
    (hw : workspace.root.Leads bench.files bench.here w)
    (hpending : bench.files.HoldsTests (Root.pending.place w) names)
    (h : bench.perform (workspace.claim boot) = (.ok directory, after)) :
    ∃ name ∈ names, IsPlain name
      ∧ (runningName name boot).utf8ByteSize ≤ nameLimit
      ∧ directory = workspace.running.join (runningName name boot)
      ∧ Node.Binds workspace.root after.here w (runningName name boot) boot after.files := by
  obtain ⟨name, hdir, hplain, hdirectory, hruns, hbound, hothers⟩ :=
    claim_bound hw hpending.isListing h
  have hname := hpending.mem_of_hasDir hdir
  refine ⟨name, hname, hplain, hruns.short, hdirectory, hruns.root, hbound,
    fun content runnable text hfile => ?_⟩
  rw [hothers prefixName (by decide)] at hfile
  exact hpending.front hname content runnable text hfile

/-- A run keeps to a boot. If its test is loaded the trial is bound to this boot, the boot is read of
the file for it then, and the other boot that the trial knows is the one that the machine has named.
And what the run asks is the script of such a trial, as far as it goes, unless nothing is asked but
the boot that the machine is in. -/
structure Trial.KeepsTo (settings : Settings) (machine : Machine) (operator : Operator)
    (directory : Path) (boot : BootId) (bench : Bench) : Prop where
  /-- The test is bound to the boot when it is loaded. -/
  loads : ∀ trial after, bench.perform (load settings machine directory) = (.ok trial, after) →
    trial.boot = boot ∧ (after.perform (storedBoot directory)).1 = .ok (some boot)
      ∧ bench.Replied machine .currentBoot trial.currentBoot after
  /-- The test is conducted as one that is bound to the boot. -/
  conducts :
    (∃ calls, bench.Calls (bench.perform (runAt settings machine operator directory)).2 calls
        ∧ calls <+: [.asked .currentBoot])
      ∨ ∃ trial loaded menu front rest, trial.boot = boot
        ∧ bench.perform (load settings machine directory) = (.ok trial, loaded)
        ∧ Conduct machine trial settings.notify.message menu bench
          (bench.perform (runAt settings machine operator directory)).2 front rest

/-- A test that has been enrolled and then claimed in a boot is bound to this boot for good: whatever
comes of it and of its file for the boot id, and whichever boot the machine is in, a run of the test
keeps to this boot. -/
theorem Workspace.claim_keeps_boot {workspace : Workspace} {w : Place} {template : String}
    {header : List String} {rows : List (Except Error Scenario)} {directories : List Path}
    {start enrolled waiting claimed : Bench} {batch entries : List (String × Node)} {boot : BootId}
    {directory : Path} (hstart : workspace.root.Leads start.files start.here w)
    (henroll : start.perform (workspace.enrollRows template header rows)
      = (.ok directories, enrolled))
    (hbatch : enrolled.files.get? (Root.pending.place w) = some (.dir batch))
    (hwaiting : workspace.root.Leads waiting.files waiting.here w)
    (hentries : waiting.files.get? (Root.pending.place w) = some (.dir entries))
    (hleft : entries.Sublist batch)
    (hclaim : waiting.perform (workspace.claim boot) = (.ok directory, claimed)) :
    ∃ name, IsPlain name ∧ workspace.pending.join name ∈ directories
      ∧ directory = workspace.running.join (runningName name boot)
      ∧ ∀ bench, workspace.Later w (runningName name boot) boot claimed bench →
        ∀ (settings : Settings) (machine : Machine) (operator : Operator),
          machine.WritesOnlyLogs → operator.OnlyChooses →
          Trial.KeepsTo settings machine operator directory boot bench := by
  rcases enrollRows_cases hstart template header rows with ⟨failure, after, henrolled, -⟩ |
    ⟨scenarios, middle, files, -, -, henrolled, -, -, hpublishes, -, htests, -⟩
  all_goals
    rw [henrolled] at henroll
    cases henroll
  -- The pending root holds tests of the batch when the claim is made.
  have hbatched := htests.of_get? hpublishes.pending
  obtain ⟨hnames, -⟩ := hbatched.entries hbatch
  have hpending := hbatched.of_sublist hbatch hentries hleft
  obtain ⟨name, hname, hplain, hshort, rfl, hbinds⟩ := claim_binds hwaiting hpending hclaim
  refine ⟨name, hplain, List.mem_map.mpr ⟨name, hnames ▸ (hleft.map _).subset hname, rfl⟩, rfl,
    fun bench hlater settings machine operator hmachine hoperator => ?_⟩
  have hplain' := isPlain_runningName hplain boot
  have hown := bootOfName?_runningName name boot
  have hbound := hlater.binds hplain' hshort hown hbinds
  have hloads : ∀ trial after, bench.perform (Trial.load settings machine
      (workspace.running.join (runningName name boot))) = (.ok trial, after) → _ :=
    fun _ _ hload => Trial.load_binds hmachine hplain' hshort hown hbound.leads hbound.bound hload
  refine ⟨hloads, ?_⟩
  rcases Trial.runAt_conduct hmachine hoperator settings
    (workspace.running.join (runningName name boot)) bench with hnone |
    ⟨trial, loaded, menu, -, front, rest, hload, -, hconduct⟩
  · exact .inl hnone
  · exact .inr ⟨trial, loaded, menu, front, rest, (hloads trial loaded hload).1, hload, hconduct⟩

/-- A workspace without tests, with a template, and an operator who will press one key. -/
def idleBench : Bench where
  files := .dir [("templates", .dir [("power", .dir [
    ("quick-responses.csv",
      .file (Text.encode "description,action,params\nLater [l],quit,\n") false)])])]
  here := []
  home := .ofText "/"
  searchPath := []
  color := false
  answers := ["l"]

/-- A batch of one test for the template. -/
def idleRows : List (Except Error Scenario) := [.ok ⟨[("mode", "deep")]⟩]

/-- The bench when the batch has been enrolled. -/
def batchedBench : Bench :=
  (idleBench.perform ((Settings.workspace {}).enrollRows "power" ["mode"] idleRows)).2

/-- The boot of the claim. -/
def claimBoot : BootId := ⟨"c1a1", by decide⟩

/-- A boot of the machine after the claim. -/
def laterBoot : BootId := ⟨"1a7e", by decide⟩

/-- The bench when the test has been claimed. -/
def claimedBench : Bench := (batchedBench.perform ((Settings.workspace {}).claim claimBoot)).2

/-- The name of the test then. -/
def claimedName : String := runningName "1-power--mode-deep" claimBoot

/-- The directory of the test then. -/
def claimedPath : Path := (Settings.workspace {}).running.join claimedName

/-- The bench when the file for the boot id has been emptied. -/
def emptiedBench : Bench :=
  { claimedBench with
    files := claimedBench.files.put (.file (Text.encode "") false)
      (Root.running.place [] ++ [claimedName] ++ [bootIdName]) }

/-- The bench when the test has been run in the later boot, and put off. -/
def putOffBench : Bench :=
  (emptiedBench.perform (Trial.runAt {} (.scripted laterBoot []) .scripted claimedPath)).2

set_option maxRecDepth 100000 in
/-- Between the two benches the file has been emptied, and the test has been run. -/
theorem putOffBench_later :
    (Settings.workspace {}).Later [] claimedName claimBoot claimedBench putOffBench := by
  have hfacts : (claimedBench.files.get? (Root.running.place [] ++ [claimedName])).any Node.isDir = true
      ∧ claimedBench.here = [] ∧ putOffBench.here = [] := by decide +kernel
  obtain ⟨hrunning, hclaimed, hputOff⟩ := hfacts
  obtain ⟨entries, hentries⟩ := Node.hasDir_of_any hrunning
  have hfiles : emptiedBench.files = claimedBench.files.put (.file (Text.encode "") false)
      (Root.running.place [] ++ [claimedName] ++ [bootIdName]) := by
    rw [emptiedBench]
  have hhere : emptiedBench.here = [] := by rw [emptiedBench, hclaimed]
  have hemptied : (Settings.workspace {}).Later [] claimedName claimBoot claimedBench emptiedBench := by
    refine .meddled .now ?_ ⟨?_, .inr ?_⟩
    · have hroot : claimedBench.files.HasDir [] := Node.HasDir.above ⟨entries, hentries⟩
      rw [hfiles, hhere]
      exact Path.leads_dot (hroot.put (by simp) _)
    · intro other hother
      rw [hfiles]
      exact Node.get?_put_of_apart ((Place.Apart.of_ne (Ne.symm hother) [] []).append_left _) _ _
    · intro node hnode
      rw [hfiles, Node.get?_put_self hentries] at hnode
      exact ⟨"", false, (Option.some.inj hnode).symm, .inl (by decide)⟩
  have hstood : emptiedBench.Stood (emptiedBench.perform
      (Trial.runAt {} (.scripted laterBoot []) .scripted claimedPath)).2 putOffBench.files := by
    rw [putOffBench]
    exact .inr (.inl rfl)
  exact .resumed hemptied rfl (Machine.scripted_writesOnlyLogs laterBoot [])
    Operator.scripted_onlyChooses hstood (hputOff.trans hhere.symm)

set_option maxRecDepth 100000 in
/-- A test is enrolled and claimed, its file for the boot id is emptied, and it is run in another boot
and put off. The next run loads it, and keeps to the boot of the claim. -/
theorem Workspace.claim_keeps_boot_emptied :
    (∃ trial after, putOffBench.perform (Trial.load {} (.scripted laterBoot []) claimedPath)
        = (.ok trial, after)
      ∧ trial.boot = claimBoot ∧ trial.currentBoot = laterBoot)
      ∧ Trial.KeepsTo {} (.scripted laterBoot []) .scripted claimedPath claimBoot putOffBench := by
  have hfacts : (idleBench.perform ((Settings.workspace {}).enrollRows "power" ["mode"] idleRows)).1
        = .ok [(Settings.workspace {}).pending.join "1-power--mode-deep"]
      ∧ (batchedBench.perform ((Settings.workspace {}).claim claimBoot)).1 = .ok claimedPath
      ∧ (batchedBench.files.get? (Root.pending.place [])).any Node.isDir = true
      ∧ batchedBench.here = []
      ∧ (putOffBench.perform (Trial.load {} (.scripted laterBoot []) claimedPath)).1.toOption.map
          (fun trial => (trial.boot, trial.currentBoot)) = some (claimBoot, laterBoot) := by
    decide +kernel
  obtain ⟨henroll, hclaim, hpending, hhere, hloads⟩ := hfacts
  obtain ⟨batch, hbatch⟩ := Node.hasDir_of_any hpending
  have hidle : (Settings.workspace {}).root.Leads idleBench.files idleBench.here [] :=
    Path.leads_dot ⟨_, rfl⟩
  have hbatched : (Settings.workspace {}).root.Leads batchedBench.files batchedBench.here [] := by
    rw [hhere]
    exact Path.leads_dot (Node.HasDir.above ⟨batch, hbatch⟩)
  have henrolled : idleBench.perform ((Settings.workspace {}).enrollRows "power" ["mode"] idleRows)
      = (.ok [(Settings.workspace {}).pending.join "1-power--mode-deep"], batchedBench) := by
    rw [batchedBench]
    exact Bench.perform_eq henroll
  have hclaimed : batchedBench.perform ((Settings.workspace {}).claim claimBoot)
      = (.ok claimedPath, claimedBench) := by
    rw [claimedBench]
    exact Bench.perform_eq hclaim
  obtain ⟨name, hplain, -, hdirectory, hkeeps⟩ := claim_keeps_boot hidle henrolled hbatch hbatched
    hbatch (List.Sublist.refl batch) hclaimed
  have hname : claimedName = runningName name claimBoot :=
    Path.join_inj (isPlain_of_length (by decide) (by decide)) (isPlain_runningName hplain _) hdirectory
  rw [← hname] at hkeeps
  refine ⟨?_, hkeeps putOffBench putOffBench_later {} _ _
    (Machine.scripted_writesOnlyLogs laterBoot []) Operator.scripted_onlyChooses⟩
  rcases hload : putOffBench.perform (Trial.load {} (.scripted laterBoot []) claimedPath) with
    ⟨failure | trial, after⟩
  all_goals rw [hload] at hloads
  · cases hloads
  · obtain ⟨hboot, hcurrent⟩ := Prod.mk.inj (Option.some.inj hloads)
    exact ⟨trial, after, rfl, hboot, hcurrent⟩

end BootTrial
