import BootTrial.Proofs.Soundness

/-!
# What lies in the results

The results root only grows: what lies there stays there, the same in every file
(`Node.KeepsResults`). This holds of each step by which the program gets on. A run moves its test
there under a name that is free, and every other step happens elsewhere.
-/

namespace BootTrial

namespace Node

/-- What lies in the results root of one tree lies there in another, too, and has not changed. -/
def KeepsResults (w : Place) (before after : Node) : Prop :=
  ∀ name node, before.get? (Root.results.place w ++ [name]) = some node →
    after.get? (Root.results.place w ++ [name]) = some node

namespace KeepsResults

variable {w : Place} {name name' : String} {doomed : Prop} {before middle after node : Node}

/-- What happens first and then keeps the results in both parts keeps them. -/
theorem trans (h : KeepsResults w before middle) (h' : KeepsResults w middle after) :
    KeepsResults w before after :=
  fun name node hnode => h' name node (h name node hnode)

/-- The results are kept where the whole root stays. -/
theorem of_get? (h : after.get? (Root.results.place w) = before.get? (Root.results.place w)) :
    KeepsResults w before after := by
  intro name node hnode
  rw [get?_append, h, ← get?_append]
  exact hnode

/-- Making a root that is missing. -/
theorem made {r : Root} (hnone : before.get? (r.place w) = none) :
    KeepsResults w before (before.put .emptyDir (r.place w)) := by
  by_cases hr : r = .results
  · -- A root that is missing holds nothing.
    subst hr
    intro name node hnode
    rw [get?_append, hnone] at hnode
    cases hnode
  · exact .of_get? (get?_put_of_apart (Root.place_apart hr w) _ _)

/-- Claiming a test. -/
theorem claimed (before node : Node) (name name' : String) :
    KeepsResults w before ((before.erase (Root.pending.place w ++ [name])).put node
      (Root.running.place w ++ [name'])) :=
  .of_get? (get?_move_of_apart (Root.place_apart (by decide) w) (Root.place_apart (by decide) w) node)

/-- Completing a test, under a name that is free. -/
theorem completed (hfree : before.get? (Root.results.place w ++ [name]) = none) :
    KeepsResults w before ((before.erase (Root.running.place w ++ [name])).put node
      (Root.results.place w ++ [name])) := by
  intro other found hfound
  have hne : name ≠ other := by
    rintro rfl
    rw [hfree] at hfound
    cases hfound
  rw [get?_put_of_apart (Root.entries_apart hne .results w),
    get?_erase_of_apart (Root.place_apart_entries (by decide) w name other), hfound]

/-- A step of a run. -/
theorem changed (h : Change w name doomed before after) : KeepsResults w before after := by
  have hapart : Place.Apart (Root.running.place w ++ [name]) (Root.results.place w) :=
    ((Root.place_apart (by decide) w).append_right [name]).symm
  cases h with
  | touched htouch => exact .of_get? (htouch.inside.get?_of_apart hapart)
  | deleted => exact .of_get? (get?_erase_of_apart hapart before)
  | made _ hnone => exact made (r := .results) hnone
  | completed _ _ hfree => exact completed hfree

/-- The steps of a run. -/
theorem changes (h : Changes w name doomed before after) : KeepsResults w before after := by
  induction h with
  | refl => exact fun _ _ hnode => hnode
  | tail _ hlast ih => exact ih.trans (changed hlast)

/-- What does not disturb the roots. -/
theorem undisturbed {p : Path} {here : Place} (h : Undisturbed p here w before after) :
    KeepsResults w before after :=
  .of_get? h.results

/-- Publishing a batch. -/
theorem published {p : Path} {here : Place} (h : Publishes p here w before after) :
    KeepsResults w before after :=
  .of_get? (h.others .results (by decide))

end KeepsResults

end Node

end BootTrial
