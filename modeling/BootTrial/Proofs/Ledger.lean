import BootTrial.Proofs.Claiming
import BootTrial.Proofs.Ending
import Mathlib.Logic.Relation

/-!
# The ledger of tests

A ledger lists the tests that have been enrolled, each with how far it has come. It accounts for
files (`Accounts`) if each of the three roots holds the directories of those tests that the ledger
has there, each of them once and nothing else. A ledger changes by one test at a time
(`Ledger.Step`), and a chronicle tells, moment by moment, how the ledgers follow each other that
account for the files.

Between two calls the files agree with the ledger (`Agrees`): the directories are then those of tests
that can be run. While a directory is being deleted it is still accounted for, but is no such test.
-/

namespace BootTrial

/-- How far a test has come. -/
inductive Stage where
  /-- It waits. -/
  | pending
  /-- It has been claimed in a boot. -/
  | running (boot : BootId)
  /-- It has been claimed in a boot and completed. -/
  | completed (boot : BootId)
  /-- It has been claimed in a boot and deleted. -/
  | discarded (boot : BootId)
  deriving DecidableEq, Repr

/-- A test that has been enrolled. -/
structure Test where
  /-- The name that it was enrolled under. -/
  name : String
  /-- How far it has come. -/
  stage : Stage
  deriving DecidableEq, Repr

/-- The name of the directory of a test in a root, if the test is there: a test lies in one root, or
in none if it has been deleted. -/
def Test.nameIn? : Root → Test → Option String
  | .pending, ⟨name, .pending⟩ => some name
  | .running, ⟨name, .running boot⟩ => some (runningName name boot)
  | .results, ⟨name, .completed boot⟩ => some (runningName name boot)
  | _, _ => none

/-- A test is in one root at most. -/
theorem Test.nameIn?_eq_none {test : Test} {r r' : Root} {name : String}
    (h : test.nameIn? r = some name) (hr : r' ≠ r) : test.nameIn? r' = none := by
  obtain ⟨own, stage⟩ := test
  cases stage <;> cases r <;> cases r' <;> simp_all [nameIn?]

/-- A test in the running root has been claimed in a boot. -/
theorem Test.eq_of_nameIn?_running {test : Test} {name : String}
    (h : test.nameIn? .running = some name) :
    ∃ own boot, test = ⟨own, .running boot⟩ ∧ name = runningName own boot := by
  obtain ⟨own, stage⟩ := test
  cases stage with
  | running boot => exact ⟨own, boot, rfl, (Option.some.inj h).symm⟩
  | pending => cases h
  | completed boot => cases h
  | discarded boot => cases h

/-- A test in the pending root waits. -/
theorem Test.eq_of_nameIn?_pending {test : Test} {name : String}
    (h : test.nameIn? .pending = some name) : test = ⟨name, .pending⟩ := by
  obtain ⟨own, stage⟩ := test
  cases stage with
  | pending => rw [Option.some.inj h]
  | running boot => cases h
  | completed boot => cases h
  | discarded boot => cases h

/-- The tests that have been enrolled, in the order of their enrollment. -/
abbrev Ledger := List Test

namespace Ledger

/-- The names of the directories that a root holds after a ledger. -/
def namesIn (r : Root) (ledger : Ledger) : List String :=
  ledger.filterMap (Test.nameIn? r)

/-- The names of the directories of a ledger in parts. -/
theorem namesIn_append (r : Root) (front back : Ledger) :
    namesIn r (front ++ back) = namesIn r front ++ namesIn r back :=
  List.filterMap_append

/-- A test that is in a root has its name there. -/
theorem namesIn_cons {r : Root} {test : Test} {name : String} (h : test.nameIn? r = some name)
    (rest : Ledger) : namesIn r (test :: rest) = name :: namesIn r rest :=
  List.filterMap_cons_some h

/-- A test that is not in a root has no name there. -/
theorem namesIn_cons_of_none {r : Root} {test : Test} (h : test.nameIn? r = none) (rest : Ledger) :
    namesIn r (test :: rest) = namesIn r rest :=
  List.filterMap_cons_none h

/-- The test that has a name in a root. -/
theorem exists_test {r : Root} {ledger : Ledger} {name : String} (h : name ∈ ledger.namesIn r) :
    ∃ front test back, ledger = front ++ test :: back ∧ test.nameIn? r = some name := by
  obtain ⟨test, htest, hname⟩ := List.mem_filterMap.mp h
  obtain ⟨front, back, hsplit⟩ := List.append_of_mem htest
  exact ⟨front, test, back, hsplit, hname⟩

/-- Without a test a root has no more names. -/
theorem length_namesIn_le {r : Root} {front back : Ledger} {test test' : Test}
    (h : test'.nameIn? r = none) :
    (namesIn r (front ++ test' :: back)).length ≤ (namesIn r (front ++ test :: back)).length := by
  simp only [namesIn_append, namesIn_cons_of_none h, List.length_append]
  refine Nat.add_le_add_left ?_ _
  cases hname : test.nameIn? r with
  | none => exact Nat.le_of_eq (congrArg List.length (namesIn_cons_of_none hname back).symm)
  | some name => simp only [namesIn_cons hname, List.length_cons, Nat.le_succ]

/-- What one test may do: it is claimed in a boot, it is completed, or it is deleted. -/
inductive Step (claims : BootId → Prop) (discards : String → Prop) : Ledger → Ledger → Prop
  /-- A test that waits is claimed. -/
  | claim {boot : BootId} (h : claims boot) (front : Ledger) (name : String) (back : Ledger) :
    Step claims discards (front ++ ⟨name, .pending⟩ :: back) (front ++ ⟨name, .running boot⟩ :: back)
  /-- A test that runs is completed. -/
  | complete (front : Ledger) (name : String) (boot : BootId) (back : Ledger) :
    Step claims discards (front ++ ⟨name, .running boot⟩ :: back)
      (front ++ ⟨name, .completed boot⟩ :: back)
  /-- A test that runs is deleted. -/
  | discard {name : String} {boot : BootId} (h : discards (runningName name boot)) (front : Ledger)
    (back : Ledger) :
    Step claims discards (front ++ ⟨name, .running boot⟩ :: back)
      (front ++ ⟨name, .discarded boot⟩ :: back)

end Ledger

/-- A ledger accounts for files: each root holds the directories of the tests that the ledger has
there, no directory twice and nothing else, and one test at most is running. -/
structure Accounts (w : Place) (files : Node) (ledger : Ledger) : Prop where
  /-- The directories in each root. -/
  holds : ∀ r : Root, ∃ names, files.HoldsDirs (r.place w) names ∧ names.Perm (ledger.namesIn r)
  /-- The tests that run. -/
  single : (ledger.namesIn .running).length ≤ 1

/-- Files agree with a ledger: it accounts for them, and the directories in the roots are those of
tests that can be run. -/
structure Agrees (w : Place) (files : Node) (ledger : Ledger) : Prop where
  /-- The directories in each root. -/
  holds : ∀ r : Root, ∃ names, files.HoldsTests (r.place w) names ∧ names.Perm (ledger.namesIn r)
  /-- The tests that run. -/
  single : (ledger.namesIn .running).length ≤ 1

namespace Agrees

variable {w : Place} {before after : Node} {ledger front back : Ledger} {test test' : Test}
  {source goal : Root} {name name' : String}

/-- A ledger that files agree with accounts for them. -/
theorem accounts (h : Agrees w before ledger) : Accounts w before ledger := by
  refine ⟨fun r => ?_, h.single⟩
  obtain ⟨names, hholds, hnames⟩ := h.holds r
  exact ⟨names, hholds.dirs, hnames⟩

/-- It accounts for them still when the directory of a test has changed. -/
theorem accounts_inside {keep : String → Prop} (h : Agrees w before ledger) (source : Root)
    (hinside : Node.Inside (source.place w ++ [name]) keep before after) :
    Accounts w after ledger := by
  refine ⟨fun r => ?_, h.single⟩
  obtain ⟨names, hholds, hnames⟩ := h.holds r
  by_cases hr : r = source
  · subst hr
    exact ⟨names, hholds.dirs_inside hinside, hnames⟩
  · have hsame := hinside.get?_of_apart ((Root.place_apart hr w).append_right [name]).symm
    exact ⟨names, (hholds.of_get? hsame).dirs, hnames⟩

/-- Files agree with a ledger as long as the roots are spared. -/
theorem spares (h : Agrees w before ledger) (hspares : Node.Spares w before after) :
    Agrees w after ledger := by
  refine ⟨fun r => ?_, h.single⟩
  obtain ⟨names, hholds, hnames⟩ := h.holds r
  exact ⟨names, hspares r names hholds, hnames⟩

/-- A directory in a root is that of a test of the ledger. -/
theorem exists_test (h : Agrees w before ledger) (source : Root)
    (hdir : before.HasDir (source.place w ++ [name])) :
    ∃ front test back, ledger = front ++ test :: back ∧ test.nameIn? source = some name := by
  obtain ⟨names, hholds, hnames⟩ := h.holds source
  exact Ledger.exists_test (hnames.mem_iff.mp (hholds.mem_of_hasDir hdir))

/-- Without one of them the names that are left are those of the other tests. -/
theorem perm_filter {names front back : List String} (h : names.Perm (front ++ name :: back))
    (hnodup : names.Nodup) : (names.filter (· ≠ name)).Perm (front ++ back) := by
  have hothers := (List.perm_middle.nodup_iff.mp (h.nodup_iff.mp hnodup))
  rw [List.nodup_cons] at hothers
  have hkept : (front ++ back).filter (· ≠ name) = front ++ back :=
    List.filter_eq_self.mpr fun other hother => by
      simpa using fun heq : other = name => hothers.1 (heq ▸ hother)
  have hfilter := (h.trans List.perm_middle).filter (· ≠ name)
  rwa [List.filter_cons_of_neg (by simp), hkept] at hfilter

/-- With one more name they are those of one more test. -/
theorem perm_concat {names front back : List String} (h : names.Perm (front ++ back))
    (name : String) : (names ++ [name]).Perm (front ++ name :: back) :=
  ((List.perm_append_singleton name names).trans (h.cons name)).trans List.perm_middle.symm

/-- The ledger in which one test has moved to another root. -/
theorem moved (h : Agrees w before (front ++ test :: back)) (hroots : source ≠ goal)
    (hmoved : Node.Moved w source name goal name' before after)
    (hname : test.nameIn? source = some name) (hname' : test'.nameIn? goal = some name')
    (hsingle : ((front ++ test' :: back).namesIn .running).length ≤ 1) :
    Agrees w after (front ++ test' :: back) := by
  refine ⟨fun r => ?_, hsingle⟩
  obtain ⟨names, hholds, hnames⟩ := h.holds r
  rw [Ledger.namesIn_append] at hnames ⊢
  by_cases hsource : r = source
  · subst hsource
    rw [Ledger.namesIn_cons hname] at hnames
    rw [Ledger.namesIn_cons_of_none (Test.nameIn?_eq_none hname' hroots)]
    obtain ⟨-, -, -, hnodup, -⟩ := id hholds
    exact ⟨_, (hmoved.left names hholds).2, perm_filter hnames hnodup⟩
  rw [Ledger.namesIn_cons_of_none (Test.nameIn?_eq_none hname hsource)] at hnames
  by_cases hgoal : r = goal
  · subst hgoal
    rw [Ledger.namesIn_cons hname']
    exact ⟨_, hmoved.arrived names hholds, perm_concat hnames name'⟩
  · rw [Ledger.namesIn_cons_of_none (Test.nameIn?_eq_none hname' hgoal)]
    exact ⟨names, hmoved.others r hsource hgoal names hholds, hnames⟩

/-- The ledger in which one test is in no root any more. -/
theorem lost (h : Agrees w before (front ++ test :: back))
    (hlost : Node.Lost w source name before after) (hname : test.nameIn? source = some name)
    (hnone : ∀ r, test'.nameIn? r = none) : Agrees w after (front ++ test' :: back) := by
  refine ⟨fun r => ?_, ?_⟩
  · obtain ⟨names, hholds, hnames⟩ := h.holds r
    rw [Ledger.namesIn_append] at hnames ⊢
    rw [Ledger.namesIn_cons_of_none (hnone r)]
    by_cases hsource : r = source
    · subst hsource
      rw [Ledger.namesIn_cons hname] at hnames
      obtain ⟨-, -, -, hnodup, -⟩ := id hholds
      exact ⟨_, (hlost.left names hholds).2, perm_filter hnames hnodup⟩
    · rw [Ledger.namesIn_cons_of_none (Test.nameIn?_eq_none hname hsource)] at hnames
      exact ⟨names, hlost.others r hsource names hholds, hnames⟩
  · exact Nat.le_trans (Ledger.length_namesIn_le (hnone .running)) h.single

end Agrees

/-- The tests of a batch, all of which wait. -/
def Ledger.ofBatch (names : List String) : Ledger :=
  names.map fun name => ⟨name, .pending⟩

/-- The tests of a batch are in the pending root. -/
theorem Ledger.namesIn_ofBatch (r : Root) (names : List String) :
    (ofBatch names).namesIn r = if r = .pending then names else [] := by
  rw [namesIn, ofBatch, List.filterMap_map]
  cases r with
  | pending => exact (List.filterMap_some (l := names))
  | running => exact List.filterMap_eq_nil_iff.mpr fun _ _ => rfl
  | results => exact List.filterMap_eq_nil_iff.mpr fun _ _ => rfl

/-- A chronicle of ledgers: the ledger accounts for the files at every moment, and from one moment to
the next it stays or takes a step. The latest moment stands first. -/
inductive Chronicle (w : Place) (step : Ledger → Ledger → Prop) :
    Ledger → List Moment → Ledger → Prop
  /-- Nothing has happened. -/
  | nil (ledger : Ledger) : Chronicle w step ledger [] ledger
  /-- The ledger has stayed. -/
  | stay {first last : Ledger} {moments : List Moment} {moment : Moment}
      (h : Chronicle w step first moments last) (haccounts : Accounts w moment.files last) :
      Chronicle w step first (moment :: moments) last
  /-- The ledger has taken a step. -/
  | go {first middle last : Ledger} {moments : List Moment} {moment : Moment}
      (h : Chronicle w step first moments middle) (hstep : step middle last)
      (haccounts : Accounts w moment.files last) : Chronicle w step first (moment :: moments) last

namespace Chronicle

variable {w : Place} {step : Ledger → Ledger → Prop} {first middle last : Ledger}
  {moments later : List Moment}

/-- Two chronicles, one after the other. -/
theorem append (h : Chronicle w step first moments middle)
    (h' : Chronicle w step middle later last) : Chronicle w step first (later ++ moments) last := by
  induction h' with
  | nil => exact h
  | stay _ haccounts ih => exact .stay ih haccounts
  | go _ hstep haccounts ih => exact .go ih hstep haccounts

/-- The ledger at any moment of a chronicle has come from the first one by steps, and so has the
last. -/
theorem reaches (h : Chronicle w step first moments last) :
    Relation.ReflTransGen step first last ∧ ∀ moment ∈ moments, ∃ ledger,
      Relation.ReflTransGen step first ledger ∧ Accounts w moment.files ledger := by
  induction h with
  | nil => exact ⟨.refl, by simp⟩
  | stay _ haccounts ih =>
    refine ⟨ih.1, fun moment hmem => ?_⟩
    rcases List.mem_cons.mp hmem with rfl | hmem
    · exact ⟨_, ih.1, haccounts⟩
    · exact ih.2 moment hmem
  | go _ hstep haccounts ih =>
    refine ⟨ih.1.tail hstep, fun moment hmem => ?_⟩
    rcases List.mem_cons.mp hmem with rfl | hmem
    · exact ⟨_, ih.1.tail hstep, haccounts⟩
    · exact ih.2 moment hmem

/-- Moments at which one ledger accounts for the files. -/
theorem still {ledger : Ledger} (h : ∀ moment ∈ moments, Accounts w moment.files ledger) :
    Chronicle w step ledger moments ledger := by
  induction moments with
  | nil => exact .nil ledger
  | cons moment rest ih =>
    exact .stay (ih fun other hother => h other (List.mem_cons_of_mem _ hother))
      (h moment List.mem_cons_self)

end Chronicle

namespace Bench

/-- Between two benches the ledger has gone from one to another. It has accounted for the files at
every moment, and they agree with it in the end. -/
structure Tells (workspace : Workspace) (w : Place) (step : Ledger → Ledger → Prop) (first : Ledger)
    (before : Bench) (last : Ledger) (after : Bench) : Prop where
  /-- The path of the workspace leads there still. -/
  root : workspace.root.Leads after.files after.here w
  /-- The files agree with the ledger in the end. -/
  agrees : Agrees w after.files last
  /-- The ledgers at every moment. -/
  history : ∃ moments, after.history = moments ++ before.history
    ∧ Chronicle w step first moments last

variable {workspace : Workspace} {w : Place} {step : Ledger → Ledger → Prop}
  {first middle last ledger : Ledger} {before between after base bench : Bench} {name : String}

/-- What is told in two parts is told as a whole. -/
theorem Tells.trans (h : Tells workspace w step first before middle between)
    (h' : Tells workspace w step middle between last after) :
    Tells workspace w step first before last after := by
  obtain ⟨moments, hmoments, hchronicle⟩ := h.history
  obtain ⟨later, hlater, hchronicle'⟩ := h'.history
  refine ⟨h'.root, h'.agrees, later ++ moments, ?_, hchronicle.append hchronicle'⟩
  rw [hlater, hmoments, List.append_assoc]

/-- Some ledger accounts for the files at any time that is told of, and has come from the first one
by steps. -/
theorem Tells.stood (h : Tells workspace w step first before last after)
    (haccounts : Accounts w before.files first) {files : Node} (hstood : before.Stood after files) :
    ∃ ledger, Relation.ReflTransGen step first ledger ∧ Accounts w files ledger := by
  obtain ⟨moments, hmoments, hchronicle⟩ := h.history
  obtain ⟨hlast, hmem⟩ := hchronicle.reaches
  rcases hstood with rfl | rfl | ⟨own, hown, moment, hmoment, rfl⟩
  · exact ⟨first, .refl, haccounts⟩
  · exact ⟨last, hlast, h.agrees.accounts⟩
  · obtain rfl : own = moments := List.append_cancel_right (hown.symm.trans hmoments)
    exact hmem moment hmoment

/-- Of work that spares the roots there is nothing to tell. -/
theorem Spared.tells (h : Spared workspace w before after) (hagrees : Agrees w before.files ledger) :
    Tells workspace w step ledger before ledger after := by
  obtain ⟨moments, hmoments, hmem⟩ := h.history
  exact ⟨h.root, hagrees.spares h.files, moments, hmoments,
    .still fun moment hmoment => (hagrees.spares (hmem moment hmoment)).accounts⟩

/-- One step of the files with which the ledger takes a step. -/
theorem Tells.stepTo {files : Node} (hroot : workspace.root.Leads files before.here w)
    (hagrees : Agrees w files last) (hstep : step first last) :
    Tells workspace w step first before last (before.stepTo files) :=
  ⟨hroot, hagrees, [⟨.changed, files⟩], rfl, .go (.nil first) hstep hagrees.accounts⟩

/-- A batch that has been published is in the ledger. -/
theorem Published.tells {names : List String} (h : Published workspace w names before after)
    (hagrees : Agrees w before.files ledger) :
    Tells workspace w (fun first last => first = ledger ∧ last = ledger ++ .ofBatch names) ledger
      before (ledger ++ .ofBatch names) after := by
  obtain ⟨ready, files, hspared, rfl, hroot, hempty, hpending, hothers⟩ := h
  have hready := hagrees.spares hspared.files
  refine (hspared.tells hagrees).trans (.stepTo hroot ⟨fun r => ?_, ?_⟩ ⟨rfl, rfl⟩)
  · obtain ⟨held, hholds, hheld⟩ := hready.holds r
    rw [Ledger.namesIn_append, Ledger.namesIn_ofBatch]
    by_cases hr : r = .pending
    · subst hr
      obtain rfl := hholds.unique hempty
      rw [List.nil_perm.mp hheld, if_pos rfl]
      exact ⟨names, hpending, .refl names⟩
    · rw [if_neg hr, List.append_nil]
      exact ⟨held, hholds.of_get? (hothers r hr), hheld⟩
  · rw [Ledger.namesIn_append, Ledger.namesIn_ofBatch]
    simpa using hready.single

variable {claims : BootId → Prop} {discards : String → Prop}

/-- What happens in the directory of a test that runs spares the roots. -/
theorem Inside.tells {keep : String → Prop} {kind : Event → Prop}
    (h : Inside (Root.running.place w ++ [name]) keep kind base bench) (hkeep : keep prefixName)
    (hruns : workspace.Runs w name base) (hagrees : Agrees w base.files ledger) :
    Tells workspace w step ledger base ledger bench :=
  (Spared.of_inside_running hruns h hkeep).tells hagrees

/-- What does not change the files spares the roots. -/
theorem Quiet.tells {kind : Event → Prop} (h : Quiet kind before after)
    (hw : workspace.root.Leads before.files before.here w) (hagrees : Agrees w before.files ledger) :
    Tells workspace w step ledger before ledger after :=
  (Spares.of_quiet before after h hw).tells hagrees

/-- A test that has been deleted is deleted in the ledger. -/
theorem Removed.tells (h : Removed (Root.running.place w ++ [name]) base bench)
    (hruns : workspace.Runs w name base) (hagrees : Agrees w base.files ledger)
    (hdiscards : discards name) :
    ∃ last, Tells workspace w (Ledger.Step claims discards) ledger base last bench := by
  obtain ⟨ready, hinside, hquiet⟩ := h
  obtain ⟨front, test, back, rfl, hname⟩ := hagrees.exists_test .running hruns.dir
  obtain ⟨own, boot, rfl, hown⟩ := Test.eq_of_nameIn?_running hname
  refine ⟨front ++ ⟨own, .discarded boot⟩ :: back, ?_⟩
  -- While the directory is taken down the ledger stays; the last step deletes the test.
  have hagrees' : Agrees w (base.files.erase (Root.running.place w ++ [name]))
      (front ++ ⟨own, .discarded boot⟩ :: back) :=
    hagrees.lost (Node.lost_erase hruns.dir) hname fun r => by cases r <;> rfl
  obtain ⟨moments, hmoments, hmem⟩ := hinside.history
  have hroot : workspace.root.Leads (base.files.erase (Root.running.place w ++ [name]))
      ready.here w := by
    rw [hinside.here]
    exact hruns.root.erase_in .running [name]
  have hdeleted : Tells workspace w (Ledger.Step claims discards)
      (front ++ ⟨own, .running boot⟩ :: back) base (front ++ ⟨own, .discarded boot⟩ :: back)
      (ready.stepTo (base.files.erase (Root.running.place w ++ [name]))) := by
    refine ⟨hroot, hagrees', ⟨.changed, base.files.erase (Root.running.place w ++ [name])⟩ :: moments,
      ?_, ?_⟩
    · rw [stepTo, hmoments]
      rfl
    · refine .go (.still fun moment hmoment => ?_) (.discard (hown ▸ hdiscards) front back)
        hagrees'.accounts
      exact hagrees.accounts_inside .running (hmem moment hmoment).2
  exact hdeleted.trans (hquiet.tells hroot hagrees')

/-- Making a results root that is missing spares the roots. -/
theorem ResultsMade.spared (h : ResultsMade w before after)
    (hw : workspace.root.Leads before.files before.here w) : Spared workspace w before after := by
  rcases h with rfl | ⟨hnone, rfl⟩
  · exact refl_of (Spares workspace w) after hw
  · refine .stepTo ?_ (.of_made (r := .results) rfl hw.dir hnone)
    simpa [Root.place] using hw.put_in .results [] .emptyDir

/-- The results could take a test when they have been made, if they could before. -/
theorem ResultsMade.isFree (h : ResultsMade w before after)
    (hw : workspace.root.Leads before.files before.here w)
    (hfree : before.files.IsFree (Root.results.place w) name) :
    after.files.IsFree (Root.results.place w) name := by
  rcases h with rfl | ⟨-, rfl⟩
  · exact hfree
  · obtain ⟨entries, hentries⟩ := hw.dir
    exact (Node.isFree_dir (Node.get?_put_self hentries .emptyDir "results")).mpr rfl

/-- A test that has been completed is completed in the ledger. -/
theorem Completed.tells (h : Completed w name base bench)
    (hfree : base.files.IsFree (Root.results.place w) name) (hruns : workspace.Runs w name base)
    (hagrees : Agrees w base.files ledger) :
    ∃ last, Tells workspace w (Ledger.Step claims discards) ledger base last bench := by
  obtain ⟨last, ready, own, hinside, hmade, hown, hresults, hquiet⟩ := h
  have hlast : Tells workspace w (Ledger.Step claims discards) ledger base ledger last :=
    hinside.tells rfl hruns hagrees
  have hready := hlast.trans ((hmade.spared hlast.root).tells hlast.agrees)
  have hdir : ready.files.HasDir (Root.running.place w ++ [name]) := ⟨own, hown⟩
  obtain ⟨front, test, back, rfl, hname⟩ := hready.agrees.exists_test .running hdir
  obtain ⟨enrolled, boot, rfl, hrunning⟩ := Test.eq_of_nameIn?_running hname
  refine ⟨front ++ ⟨enrolled, .completed boot⟩ :: back, ?_⟩
  have hfree' : ready.files.get? (Root.results.place w ++ [name]) = none := by
    refine (hmade.isFree hlast.root ?_).1
    refine (hinside.files.isFree ?_ name).mpr hfree
    exact ((Root.place_apart (by decide) w).append_right [name]).symm
  obtain ⟨names, hholds, -⟩ := hready.agrees.holds .running
  obtain ⟨entries, node, hentries, hnode, htest⟩ := hholds.get?_dir (hholds.mem_of_hasDir hdir)
  obtain rfl : node = .dir own := by
    rw [Node.get?_snoc hentries, hnode] at hown
    exact Option.some.inj hown
  -- The last step moves the test.
  have hmoved := Node.moved_erase_put (by decide : Root.running ≠ .results) hdir
    hresults hfree' htest
  have hagrees' : Agrees w _ (front ++ ⟨enrolled, .completed boot⟩ :: back) :=
    hready.agrees.moved (by decide) hmoved hname (hrunning ▸ rfl)
      (Nat.le_trans (Ledger.length_namesIn_le rfl) hready.agrees.single)
  have hroot := (hready.root.erase_in .running [name]).put_in .results [name] (.dir own)
  have hcompleted := hready.trans (.stepTo hroot hagrees' (.complete front enrolled boot back))
  exact hcompleted.trans (hquiet.tells hroot hagrees')

end Bench

end BootTrial
