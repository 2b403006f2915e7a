import BootTrial.Proofs.Naming

/-!
# The boot in the name of a test

The name of a test that runs ends in the id of the boot in which it was claimed, and the id can be
read off the name again (`bootOfName?_runningName`), since there is no hyphen in it.
-/

namespace BootTrial

/-- Without a hyphen there is no separator. -/
theorem afterSeparator?_eq_none {cs : List Char} (h : '-' ∉ cs) : afterSeparator? cs = none := by
  induction cs with
  | nil => rfl
  | cons c rest ih =>
    rw [List.mem_cons, not_or] at h
    simp only [afterSeparator?, ih h.2]
    split
    · exact absurd rfl h.1
    · rfl

/-- What stands behind the last separator. -/
theorem afterSeparator?_append (front : List Char) {tail : List Char} (h : '-' ∉ tail) :
    afterSeparator? (front ++ '-' :: '-' :: tail) = some tail := by
  induction front with
  | nil =>
    have hlast : afterSeparator? ('-' :: tail) = none := by
      simp only [afterSeparator?, afterSeparator?_eq_none h]
      split
      · rename_i heq
        rw [heq] at h
        exact absurd List.mem_cons_self h
      · rfl
    unfold afterSeparator?
    simp only [List.nil_append, hlast]
  | cons c rest ih => simp only [List.cons_append, afterSeparator?, ih]

/-- A character of a boot id is neither a hyphen nor white space. -/
theorem isBootIdChar_plain {c : Char} (h : isBootIdChar c = true) :
    c ≠ '-' ∧ Text.isBlank c = false := by
  have hrange : 48 ≤ c.toNat ∧ c.toNat ≤ 57 ∨ 65 ≤ c.toNat ∧ c.toNat ≤ 90
      ∨ 97 ≤ c.toNat ∧ c.toNat ≤ 122 := by
    simp only [isBootIdChar, Bool.or_eq_true, Bool.and_eq_true, decide_eq_true_eq, or_assoc] at h
    exact h
  constructor
  · rintro rfl
    simp at hrange
  · simp only [Text.isBlank, Text.blankRanges, Text.CodeRanges.holds]
    grind

/-- Trimming leaves a text alone that has no white space at its ends. -/
theorem trim_eq_self {s : String} (hfirst : ∀ c ∈ s.toList.head?, Text.isBlank c = false)
    (hlast : ∀ c ∈ s.toList.getLast?, Text.isBlank c = false) : Text.trim s = s := by
  have hdrop : ∀ cs : List Char, (∀ c ∈ cs.head?, Text.isBlank c = false) →
      cs.dropWhile Text.isBlank = cs := by
    intro cs hcs
    cases cs with
    | nil => rfl
    | cons c rest => exact List.dropWhile_cons_of_neg (by simp [hcs c rfl])
  rw [Text.trim, Text.dropTrailing, Text.dropLeading, hdrop _ hfirst, String.toList_ofList, hdrop,
    List.reverse_reverse, String.ofList_toList]
  rwa [List.head?_reverse]

/-- A boot id is read back as it is written. -/
theorem BootId.parse?_text (boot : BootId) : BootId.parse? boot.text = some boot := by
  have hplain : ∀ c ∈ boot.text.toList, c ≠ '-' ∧ Text.isBlank c = false := fun c hc =>
    isBootIdChar_plain (List.all_eq_true.mp boot.isId.2 c hc)
  have hkept : (Text.trim boot.text).toList.filter (· ≠ '-') = boot.text.toList := by
    rw [trim_eq_self (fun c hc => (hplain c (List.mem_of_mem_head? hc)).2)
      fun c hc => (hplain c (List.mem_of_getLast? hc)).2]
    exact List.filter_eq_self.mpr fun c hc => decide_eq_true (hplain c hc).1
  simp only [parse?, hkept, String.ofList_toList]
  rw [dif_pos boot.isId]

/-- The name of a test that runs ends in the boot id of its claim. -/
theorem bootOfName?_runningName (name : String) (boot : BootId) :
    bootOfName? (runningName name boot) = some boot := by
  have hsplit : (runningName name boot).toList = name.toList ++ '-' :: '-' :: boot.text.toList := by
    simp [runningName, separator]
  have hhyphen : '-' ∉ boot.text.toList := fun hmem =>
    (isBootIdChar_plain (List.all_eq_true.mp boot.isId.2 _ hmem)).1 rfl
  rw [bootOfName?, hsplit, afterSeparator?_append _ hhyphen, Option.bind_some,
    String.ofList_toList, boot.parse?_text]

/-- Tests that run have different names if they had different names while they were waiting. -/
theorem runningName_inj {name name' : String} {boot boot' : BootId}
    (h : runningName name boot = runningName name' boot') : name = name' ∧ boot = boot' := by
  obtain rfl : boot = boot' := by
    have hboot := bootOfName?_runningName name boot
    rw [h, bootOfName?_runningName] at hboot
    exact (Option.some.inj hboot).symm
  refine ⟨?_, rfl⟩
  rw [← String.toList_inj] at h ⊢
  simpa [runningName] using h

end BootTrial
