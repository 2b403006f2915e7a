import BootTrial.Proofs.Holding
import BootTrial.Proofs.Making
import BootTrial.Proofs.Outside

/-!
# Every moment between two benches

A relation between file trees that stands between the files of a bench and those of every moment
from there to another bench is passed from the one to the other (`Bench.Passes`). One such relation
is that the roots of a workspace have not been disturbed (`Node.Undisturbed`): they hold what they
held, but that a root of waiting tests without entries may have gone. Outside the tests nothing has
changed. It is what an enrollment keeps up to its last step.
-/

namespace BootTrial

namespace Bench

/-- A relation stands between the files of the first of two benches and those of the second, and so
it does for the files at every moment between them. -/
structure Passes (R : Node → Node → Prop) (before after : Bench) : Prop where
  /-- The working directory is the same. -/
  here : after.here = before.here
  /-- The relation stands between the files. -/
  files : R before.files after.files
  /-- So it does at every moment. -/
  history : ∃ moments, after.history = moments ++ before.history
    ∧ ∀ moment ∈ moments, R before.files moment.files

/-- The files have stood like this at some time from one bench to another. -/
def Stood (before after : Bench) (files : Node) : Prop :=
  files = before.files ∨ files = after.files
    ∨ ∃ moments, after.history = moments ++ before.history
      ∧ ∃ moment ∈ moments, files = moment.files

namespace Passes

variable {R : Node → Node → Prop} {before middle after : Bench}

/-- Nothing is passed where nothing happens. -/
theorem refl {bench : Bench} (h : R bench.files bench.files) : bench.Passes R bench :=
  ⟨rfl, h, [], rfl, by simp⟩

/-- What is passed in both parts is passed on the whole. -/
theorem trans (htrans : ∀ {first second third : Node}, R first second → R second third →
      R first third) (h : before.Passes R middle) (h' : middle.Passes R after) :
    before.Passes R after := by
  obtain ⟨first, hfirst, hmoments⟩ := h.history
  obtain ⟨second, hsecond, hmoments'⟩ := h'.history
  refine ⟨h'.here.trans h.here, htrans h.files h'.files, second ++ first, ?_, fun moment hmem => ?_⟩
  · rw [hsecond, hfirst, List.append_assoc]
  · rcases List.mem_append.mp hmem with hmem | hmem
    · exact htrans h.files (hmoments' moment hmem)
    · exact hmoments moment hmem

/-- What follows from a relation is passed with it. -/
theorem imp {R' : Node → Node → Prop} (h : before.Passes R after)
    (himp : ∀ {files}, R before.files files → R' before.files files) : before.Passes R' after := by
  obtain ⟨moments, hmoments, hmem⟩ := h.history
  exact ⟨h.here, himp h.files, moments, hmoments, fun moment hin => himp (hmem moment hin)⟩

/-- One step. -/
theorem stepTo {files : Node} (h : R before.files files) : before.Passes R (before.stepTo files) :=
  ⟨rfl, h, [⟨.changed, files⟩], rfl, by simpa using h⟩

/-- Where nothing moves nothing is passed. -/
theorem of_unmoved (h : Unmoved before after) (hsame : R before.files before.files) :
    before.Passes R after :=
  ⟨h.here, by rwa [h.files], [], h.history, by simp⟩

/-- The relation stands between the files of the first bench and any that have stood. -/
theorem stood (h : before.Passes R after) (hsame : R before.files before.files) {files : Node}
    (hstood : before.Stood after files) : R before.files files := by
  rcases hstood with rfl | rfl | ⟨moments, hmoments, moment, hmem, rfl⟩
  · exact hsame
  · exact h.files
  · obtain ⟨own, hown, hrelated⟩ := h.history
    obtain rfl : moments = own := List.append_cancel_right (hmoments.symm.trans hown)
    exact hrelated moment hmem

end Passes

/-- What has stood up to a last step, and right behind it. -/
theorem Stood.of_stepTo {before middle : Bench} {files stood : Node}
    (hhistory : ∃ moments, middle.history = moments ++ before.history)
    (h : before.Stood (middle.stepTo files) stood) :
    stood = files ∨ before.Stood middle stood := by
  rcases h with rfl | rfl | ⟨moments, hmoments, moment, hmem, rfl⟩
  · exact .inr (.inl rfl)
  · exact .inl rfl
  · obtain ⟨own, hown⟩ := hhistory
    have hsplit : moments = ⟨.changed, files⟩ :: own := by
      have hhistory : moments ++ before.history
          = (⟨.changed, files⟩ :: own) ++ before.history := by
        rw [← hmoments, stepTo, hown, List.cons_append]
      exact List.append_cancel_right hhistory
    rw [hsplit] at hmem
    rcases List.mem_cons.mp hmem with rfl | hmem
    · exact .inl rfl
    · exact .inr (.inr (.inr ⟨own, hown, moment, hmem, rfl⟩))

end Bench

namespace Node

/-- The pending root holds the tests that it held: it is the same, or it had no entries and is gone.
-/
def KeepsPending (w : Place) (before after : Node) : Prop :=
  after.get? (Root.pending.place w) = before.get? (Root.pending.place w)
    ∨ before.get? (Root.pending.place w) = some .emptyDir ∧ after.get? (Root.pending.place w) = none

/-- The pending root is missing or has no entries. -/
def IsIdle (w : Place) (files : Node) : Prop :=
  files.get? (Root.pending.place w) = none ∨ files.get? (Root.pending.place w) = some .emptyDir

/-- Between two trees the roots of a workspace are as they were, but that an empty root of waiting
tests may have gone, no file has come up where a batch is put together, and outside the tests nothing
has changed. -/
structure Undisturbed (p : Path) (here w : Place) (before after : Node) : Prop where
  /-- The path of the workspace leads there still. -/
  leads : p.Leads after here w
  /-- The tests that have been begun. -/
  running : after.get? (Root.running.place w) = before.get? (Root.running.place w)
  /-- The tests that are completed. -/
  results : after.get? (Root.results.place w) = before.get? (Root.results.place w)
  /-- The tests that wait. -/
  pending : before.KeepsPending w after
  /-- There is no file in the place of the directory of the tests that are not completed. -/
  runtime : before.NoFile (w ++ ["runtime"]) → after.NoFile (w ++ ["runtime"])
  /-- There is no file in the place of the staging directory. -/
  staging : before.NoFile (stagingPlace w) → after.NoFile (stagingPlace w)
  /-- Outside the tests everything is the same. -/
  outside : SameOutside w before after

namespace Undisturbed

variable {p : Path} {here w : Place} {before middle after : Node}

/-- Nothing is disturbed by what does not happen. -/
theorem refl (h : p.Leads before here w) : Undisturbed p here w before before :=
  ⟨h, rfl, rfl, .inl rfl, id, id, .refl w before⟩

/-- What is not disturbed in each part is not disturbed as a whole. -/
theorem trans (h : Undisturbed p here w before middle) (h' : Undisturbed p here w middle after) :
    Undisturbed p here w before after := by
  refine ⟨h'.leads, h'.running.trans h.running, h'.results.trans h.results, ?_,
    h'.runtime ∘ h.runtime, h'.staging ∘ h.staging, h.outside.trans h'.outside⟩
  rcases h'.pending with hsame | ⟨hempty, hnone⟩
  · rcases h.pending with hsame' | ⟨hempty', hnone'⟩
    · exact .inl (hsame.trans hsame')
    · exact .inr ⟨hempty', hsame.trans hnone'⟩
  · rcases h.pending with hsame' | ⟨-, hnone'⟩
    · exact .inr ⟨hsame'.symm.trans hempty, hnone⟩
    · rw [hempty] at hnone'
      cases hnone'

/-- What leaves the roots alone. -/
theorem of_get? (hp : p.Leads after here w)
    (h : ∀ r : Root, after.get? (r.place w) = before.get? (r.place w))
    (hruntime : before.NoFile (w ++ ["runtime"]) → after.NoFile (w ++ ["runtime"]))
    (hstaging : before.NoFile (stagingPlace w) → after.NoFile (stagingPlace w))
    (houtside : SameOutside w before after) : Undisturbed p here w before after :=
  ⟨hp, h .running, h .results, .inl (h .pending), hruntime, hstaging, houtside⟩

/-- The roots hold the tests that they held. -/
theorem spares (h : Undisturbed p here w before after) : Spares w before after := by
  intro r names hholds
  cases r with
  | running => exact hholds.of_get? h.running
  | results => exact hholds.of_get? h.results
  | pending =>
    rcases h.pending with hsame | ⟨hempty, hnone⟩
    · exact hholds.of_get? hsame
    · obtain rfl := hholds.unique (.of_empty hempty)
      exact .of_none hnone

/-- A root of waiting tests that is missing or without entries is so afterwards. -/
theorem idle (h : Undisturbed p here w before after) (hidle : before.IsIdle w) :
    after.IsIdle w := by
  rcases h.pending with hsame | ⟨-, hnone⟩
  · rwa [IsIdle, hsame]
  · exact .inl hnone

/-- Changes in the staging directory. -/
theorem of_inside_staging {keep : String → Prop} (hp : p.Leads before here w)
    (h : Inside (stagingPlace w) keep before after) : Undisturbed p here w before after := by
  refine .of_get? ?_ (fun r => h.get?_of_apart (stagingPlace_apart r w)) (fun _ => ?_) (fun _ => ?_)
    (.of_inside (.of_staging w) h)
  · obtain ⟨entries, entries', hentries, hafter, -⟩ := h
    rw [hafter, stagingPlace, List.append_assoc]
    exact hp.put_below (by simp) _
  · exact h.hasDir.above.noFile
  · exact h.hasDir.noFile

/-- Making the staging directory. -/
theorem of_staging_made (hp : p.Leads before here w) (hruntime : before.HasDir (w ++ ["runtime"])) :
    Undisturbed p here w before (before.put .emptyDir (stagingPlace w)) := by
  obtain ⟨entries, hentries⟩ := hruntime
  have hmade := get?_put_self hentries .emptyDir ".staging"
  refine .of_get? ?_ (fun r => get?_put_of_apart (stagingPlace_apart r w) _ _) (fun _ => ?_)
    (fun _ => HasDir.noFile ⟨[], hmade⟩) (.put (.of_staging w) ⟨entries, hentries⟩ _)
  · rw [stagingPlace, List.append_assoc]
    exact hp.put_below (by simp) _
  · exact (HasDir.above ⟨[], hmade⟩ : HasDir _ _).noFile

/-- Making the directory above the staging directory. -/
theorem of_runtime_made (hp : p.Leads before here w) (hnone : before.get? (w ++ ["runtime"]) = none) :
    Undisturbed p here w before (before.put .emptyDir (w ++ ["runtime"])) := by
  obtain ⟨entries, hentries⟩ := hp.dir
  have hmade := get?_put_self hentries .emptyDir "runtime"
  have hbelow : ∀ name : String, (before.put .emptyDir (w ++ ["runtime"])).get?
      (w ++ ["runtime"] ++ [name]) = none ∧ before.get? (w ++ ["runtime"] ++ [name]) = none := by
    intro name
    rw [get?_append, hmade, get?_append, hnone]
    exact ⟨rfl, rfl⟩
  refine .of_get? (hp.put_below (by simp) _) (fun r => ?_) (fun _ => HasDir.noFile ⟨[], hmade⟩)
    (fun _ => noFile_of_none (hbelow _).1) (.put (.inl List.prefix_rfl) hp.dir _)
  cases r with
  | pending => exact (hbelow _).1.trans (hbelow _).2.symm
  | running => exact (hbelow _).1.trans (hbelow _).2.symm
  | results =>
    exact get?_put_of_apart ((Place.Apart.of_ne (by decide) [] []).append_left w) _ _

/-- Taking the staging directory down. -/
theorem of_staging_erased (hp : p.Leads before here w)
    (hruntime : before.HasDir (w ++ ["runtime"])) :
    Undisturbed p here w before (before.erase (stagingPlace w)) := by
  refine .of_get? ?_ (fun r => get?_erase_of_apart (stagingPlace_apart r w) _) (fun _ => ?_)
    (fun _ => noFile_of_none (get?_erase ".staging" hruntime)) (.erase (.of_staging w) hruntime)
  · rw [stagingPlace, List.append_assoc]
    exact hp.erase_below (by simp)
  · refine (hruntime.erase ?_).noFile
    simp [stagingPlace, List.prefix_append_right_inj]

/-- Removing a root of waiting tests that has no entries. -/
theorem of_pending_erased (hp : p.Leads before here w)
    (hempty : before.get? (Root.pending.place w) = some .emptyDir) :
    Undisturbed p here w before (before.erase (Root.pending.place w)) := by
  have hruntime : before.HasDir (w ++ ["runtime"]) := HasDir.above ⟨[], hempty⟩
  have hapart : ∀ {r : Root}, r ≠ .pending →
      (before.erase (Root.pending.place w)).get? (r.place w) = before.get? (r.place w) :=
    fun hr => get?_erase_of_apart (Root.place_apart (Ne.symm hr) w) before
  refine ⟨?_, hapart (by decide), hapart (by decide), .inr ⟨hempty, get?_erase "pending" hruntime⟩,
    fun _ => ?_, fun hstaging => ?_, .erase (.of_root .pending w) hruntime⟩
  · simpa using hp.erase_in .pending []
  · refine (hruntime.erase ?_).noFile
    simp [Root.place, List.prefix_append_right_inj]
  · intro content runnable hfile
    rw [get?_erase_of_apart (stagingPlace_apart .pending w).symm] at hfile
    exact hstaging content runnable hfile

end Undisturbed

end Node

namespace Bench

/-- From one bench to another the roots of a workspace have not been disturbed. -/
abbrev Undisturbed (workspace : Workspace) (w : Place) (before after : Bench) : Prop :=
  before.Passes (Node.Undisturbed workspace.root before.here w) after

namespace Undisturbed

variable {workspace : Workspace} {w : Place} {before middle after : Bench}

/-- Nothing is disturbed by what does not happen. -/
theorem refl {bench : Bench} (hw : workspace.root.Leads bench.files bench.here w) :
    bench.Undisturbed workspace w bench :=
  Passes.refl (.refl hw)

/-- What is not disturbed in each part is not disturbed as a whole. -/
theorem trans (h : before.Undisturbed workspace w middle)
    (h' : middle.Undisturbed workspace w after) : before.Undisturbed workspace w after := by
  rw [Undisturbed, h.here] at h'
  exact Passes.trans Node.Undisturbed.trans h h'

/-- The path of the workspace leads there still. -/
theorem root (h : before.Undisturbed workspace w after) :
    workspace.root.Leads after.files after.here w :=
  h.here ▸ h.files.leads

/-- The roots have been spared. -/
theorem spared (h : before.Undisturbed workspace w after) : before.Spared workspace w after := by
  obtain ⟨moments, hmoments, hmem⟩ := h.history
  exact ⟨h.root, h.files.spares, moments, hmoments, fun moment hin => (hmem moment hin).spares⟩

/-- What only reads disturbs nothing. -/
theorem of_unmoved (hw : workspace.root.Leads before.files before.here w)
    (h : Unmoved before after) : before.Undisturbed workspace w after :=
  Passes.of_unmoved h (.refl hw)

/-- Changes in the staging directory. -/
theorem of_inside_staging {keep : String → Prop} {kind : Event → Prop}
    (hw : workspace.root.Leads before.files before.here w)
    (h : Inside (stagingPlace w) keep kind before after) :
    before.Undisturbed workspace w after := by
  obtain ⟨moments, hmoments, hmem⟩ := h.history
  exact ⟨h.here, .of_inside_staging hw h.files, moments, hmoments,
    fun moment hin => .of_inside_staging hw (hmem moment hin).2⟩

end Undisturbed

end Bench

end BootTrial
