import Mathlib.Data.List.Chain
import BootTrial.Proofs.Folding

/-!
# Names in normal form

A text is in normal form if it is made of letters and digits that are their own lower case and of
underscores, no two of which stand side by side (`IsNormalName`). Such a text is its own normal form
(`normalName_eq_self`). The lower case of a letter is a letter, with one exception: the dotted
capital `İ` becomes an `i` and a combining dot, and the dot is no letter. As the characters that are
no letters are replaced before the letters become small, the dot stays. So a normal form is in
normal form itself exactly if there is no dotted capital in the text, and the normal form of a
normal form always is (`normalName_settles`).
-/

namespace BootTrial

namespace Text

/-! ## Ranges -/

/-- Whether one of the ascending ranges holds all code points from `first` to `last`. -/
def CodeRanges.spans : CodeRanges → Nat → Nat → Bool
  | [], _, _ => false
  | (low, high) :: rest, first, last =>
    bif Nat.blt first low then false
    else bif Nat.ble last high then true
    else bif Nat.blt high first then CodeRanges.spans rest first last
    else false

/-- Whether the ascending ranges hold none of the code points from `first` to `last`. -/
def CodeRanges.avoids : CodeRanges → Nat → Nat → Bool
  | [], _, _ => true
  | (low, high) :: rest, first, last =>
    bif Nat.blt last low then true
    else bif Nat.blt high first then CodeRanges.avoids rest first last
    else false

/-- What is spanned is held. -/
theorem CodeRanges.holds_of_spans {ranges : CodeRanges} {first last n : Nat}
    (h : ranges.spans first last = true) (hfirst : first ≤ n) (hlast : n ≤ last) :
    ranges.holds n = true := by
  induction ranges with
  | nil => cases h
  | cons range rest ih =>
    obtain ⟨low, high⟩ := range
    simp only [spans, cond_eq_ite, Nat.blt_eq, Nat.ble_eq] at h
    rw [holds]
    split at h
    · cases h
    · rw [if_neg (by omega)]
      split at h
      · rw [if_pos (by omega)]
      · split at h
        · rw [if_neg (by omega), ih h]
        · cases h

/-- What is avoided is not held. -/
theorem CodeRanges.not_holds_of_avoids {ranges : CodeRanges} {first last n : Nat}
    (h : ranges.avoids first last = true) (hfirst : first ≤ n) (hlast : n ≤ last) :
    ranges.holds n = false := by
  induction ranges with
  | nil => rfl
  | cons range rest ih =>
    obtain ⟨low, high⟩ := range
    simp only [avoids, cond_eq_ite, Nat.blt_eq] at h
    rw [holds]
    split
    · rfl
    · rw [if_neg (by omega)] at h
      split at h
      · rw [if_neg (by omega), ih h]
      · cases h

/-! ## Letters in lower case -/

/-- Whether the lower-case form of each letter of a run is a letter, or the letter itself is none.
-/
def CaseRun.keepsLetters (run : CaseRun) : Bool :=
  let length := run.last - run.first
  decimalDigitRanges.avoids run.first (run.first + length)
    && (alphabeticRanges.spans run.target (run.target + length)
      || (List.range (length + 1)).all fun i => i % run.step != 0
        || alphabeticRanges.avoids (run.first + i) (run.first + i)
        || alphabeticRanges.spans (run.target + i) (run.target + i))

set_option maxRecDepth 100000 in
/-- All runs keep letters. -/
theorem keepsLetters_of_mem : ∀ run ∈ caseRuns, run.keepsLetters = true := by
  have hall : (caseRuns.all CaseRun.keepsLetters) = true := by decide +kernel
  simpa only [List.all_eq_true] using hall

end Text

/-- The lower-case form of a letter or digit is one, unless the letter is the dotted capital `İ`. -/
theorem isNameChar_of_mem_lowerChar {c form : Char} (hc : isNameChar c = true) (hdotted : c ≠ 'İ')
    (h : form ∈ Text.lowerChar c) : isNameChar form = true := by
  rw [Text.lowerChar, if_neg hdotted, List.mem_singleton] at h
  obtain hsame | ⟨run, hrun, i, hi, hstep, hletter, htarget⟩ :=
    Text.lowerBy_cases Text.caseRuns c.toNat
  · rw [h, hsame, Char.ofNat_toNat]
    exact hc
  have hcode : form.toNat = run.target + i := by rw [h, Text.toNat_lowerBy, htarget]
  have hkeeps := Text.keepsLetters_of_mem run hrun
  simp only [Text.CaseRun.keepsLetters, Bool.and_eq_true, Bool.or_eq_true] at hkeeps
  obtain ⟨hnoDigit, hletters⟩ := hkeeps
  have halphabetic : Text.isAlphabetic c = true := by
    have hdigit : Text.isDecimalDigit c = false :=
      Text.CodeRanges.not_holds_of_avoids hnoDigit (by omega) (by omega)
    rwa [isNameChar, hdigit, Bool.or_false] at hc
  have hform : Text.isAlphabetic form = true := by
    rw [Text.isAlphabetic, hcode]
    rcases hletters with hspanned | heach
    · exact Text.CodeRanges.holds_of_spans hspanned (by omega) (by omega)
    · have hthis := List.all_eq_true.mp heach i (List.mem_range.mpr (by omega))
      simp only [hstep, bne_self_eq_false, Bool.false_or, Bool.or_eq_true] at hthis
      rcases hthis with hnone | hspanned
      · have hnot := Text.CodeRanges.not_holds_of_avoids hnone (Nat.le_refl _) (Nat.le_refl _)
        rw [← hletter] at hnot
        exact absurd halphabetic (by rw [Text.isAlphabetic, hnot]; simp)
      · exact Text.CodeRanges.holds_of_spans hspanned (Nat.le_refl _) (Nat.le_refl _)
  rw [isNameChar, hform, Bool.true_or]

/-- The underscore is no letter and no digit. -/
theorem isNameChar_underscore : isNameChar '_' = false := by decide +kernel

/-! ## Runs of other characters -/

/-- Two characters that are not both underscores. -/
def NotBothUnderscores (c other : Char) : Prop :=
  c = '_' → other ≠ '_'

/-- Where runs of other characters are replaced, letters and digits of the text are left, and
underscores. -/
theorem mem_collapseFrom {c : Char} {inRun : Bool} {cs : List Char}
    (h : c ∈ collapseFrom inRun cs) : c = '_' ∨ isNameChar c = true ∧ c ∈ cs := by
  fun_induction collapseFrom inRun cs with
  | case1 => cases h
  | case2 inRun first rest hname ih =>
    rcases List.mem_cons.mp h with rfl | hrest
    · exact .inr ⟨hname, List.mem_cons_self⟩
    · exact (ih hrest).imp_right fun ⟨hc, hmem⟩ => ⟨hc, List.mem_cons_of_mem _ hmem⟩
  | case3 first rest _ ih =>
    exact (ih h).imp_right fun ⟨hc, hmem⟩ => ⟨hc, List.mem_cons_of_mem _ hmem⟩
  | case4 inRun first rest _ _ ih =>
    rcases List.mem_cons.mp h with rfl | hrest
    · exact .inl rfl
    · exact (ih hrest).imp_right fun ⟨hc, hmem⟩ => ⟨hc, List.mem_cons_of_mem _ hmem⟩

/-- All letters and digits are left. -/
theorem mem_collapseFrom_of_isNameChar {c : Char} {cs : List Char} (hc : isNameChar c = true)
    (h : c ∈ cs) (inRun : Bool) : c ∈ collapseFrom inRun cs := by
  fun_induction collapseFrom inRun cs with
  | case1 => cases h
  | case2 inRun first rest _ ih =>
    rcases List.mem_cons.mp h with rfl | hrest
    · exact List.mem_cons_self
    · exact List.mem_cons_of_mem _ (ih hrest)
  | case3 first rest hother ih =>
    rcases List.mem_cons.mp h with rfl | hrest
    · exact absurd hc hother
    · exact ih hrest
  | case4 inRun first rest hother _ ih =>
    rcases List.mem_cons.mp h with rfl | hrest
    · exact absurd hc hother
    · exact List.mem_cons_of_mem _ (ih hrest)

/-- No two underscores are left side by side, and none at the start within a run. -/
theorem isChain_collapseFrom (inRun : Bool) (cs : List Char) :
    (collapseFrom inRun cs).IsChain NotBothUnderscores
      ∧ (inRun = true → (collapseFrom inRun cs).head? ≠ some '_') := by
  fun_induction collapseFrom inRun cs with
  | case1 => simp
  | case2 inRun first rest hname ih =>
    have hfirst : first ≠ '_' := by
      rintro rfl
      rw [isNameChar_underscore] at hname
      cases hname
    exact ⟨List.isChain_cons.mpr ⟨fun _ _ h => absurd h hfirst, ih.1⟩,
      fun _ => by simpa using hfirst⟩
  | case3 first rest _ ih => exact ih
  | case4 inRun first rest _ hrun ih =>
    refine ⟨List.isChain_cons.mpr ⟨fun other hother _ hunderscore => ?_, ih.1⟩,
      fun h => absurd h hrun⟩
    exact ih.2 rfl (hunderscore ▸ hother)

/-- Nothing is replaced where no two underscores stand side by side among letters and digits. -/
theorem collapseFrom_eq {inRun : Bool} {cs : List Char}
    (hchars : ∀ c ∈ cs, c = '_' ∨ isNameChar c = true) (hchain : cs.IsChain NotBothUnderscores)
    (hhead : inRun = true → cs.head? ≠ some '_') : collapseFrom inRun cs = cs := by
  induction cs generalizing inRun with
  | nil => rfl
  | cons c rest ih =>
    obtain ⟨hc, hrest⟩ := List.forall_mem_cons.mp hchars
    obtain ⟨hnext, hothers⟩ := List.isChain_cons.mp hchain
    rw [collapseFrom]
    rcases hc with rfl | hname
    · -- No run is open, and the next character is no underscore.
      have hopen : inRun = false := by
        cases inRun with
        | false => rfl
        | true => exact absurd rfl (hhead rfl)
      rw [isNameChar_underscore, hopen]
      simp only [Bool.false_eq_true, if_false]
      rw [ih hrest hothers fun _ hunderscore => hnext '_' hunderscore rfl rfl]
    · have hsame : collapseFrom false rest = rest := ih hrest hothers (by simp)
      rw [if_pos hname, hsame]

/-! ## Lower case -/

namespace Text

/-- The lower-case form of a character between two texts, the first of which is given last character
first. -/
def lowerHere (before : List Char) (c : Char) (rest : List Char) : List Char :=
  if c = 'Σ' then [if continuesWord before && !continuesWord rest then 'ς' else 'σ']
  else lowerChar c

/-- A text is lowered character by character. -/
theorem lowerAfter_cons (before : List Char) (c : Char) (rest : List Char) :
    lowerAfter before (c :: rest) = lowerHere before c rest ++ lowerAfter (c :: before) rest := rfl

/-- The underscore has no other lower-case form. -/
theorem lowerHere_underscore (before rest : List Char) : lowerHere before '_' rest = ['_'] := by
  rw [lowerHere, if_neg (by decide)]
  decide +kernel

/-- A character has a lower-case form. -/
theorem lowerHere_ne_nil (before : List Char) (c : Char) (rest : List Char) :
    lowerHere before c rest ≠ [] := by
  unfold lowerHere lowerChar
  split_ifs <;> simp

/-- Letters and digits stay letters and digits in lower case, but for the dot of a dotted capital.
-/
theorem isNameChar_of_mem_lowerHere {c form : Char} {before rest : List Char}
    (hc : isNameChar c = true) (h : form ∈ lowerHere before c rest) :
    isNameChar form = true ∨ form = '\u0307' ∧ c = 'İ' := by
  unfold lowerHere at h
  split at h
  · have hsigma : form = 'ς' ∨ form = 'σ' := by
      rw [List.mem_singleton] at h
      split at h
      · exact .inl h
      · exact .inr h
    rcases hsigma with rfl | rfl <;> exact .inl (by decide +kernel)
  · by_cases hdotted : c = 'İ'
    · subst hdotted
      rw [lowerChar, if_pos rfl, List.mem_cons, List.mem_singleton] at h
      rcases h with rfl | rfl
      · exact .inl (by decide +kernel)
      · exact .inr ⟨rfl, rfl⟩
    · exact .inl (isNameChar_of_mem_lowerChar hc hdotted h)

/-- Letters and digits have no underscore in lower case. -/
theorem underscore_not_mem_lowerHere {c : Char} {before rest : List Char}
    (hc : isNameChar c = true) : '_' ∉ lowerHere before c rest := by
  intro h
  rcases isNameChar_of_mem_lowerHere hc h with hname | ⟨hdot, -⟩
  · rw [isNameChar_underscore] at hname
    cases hname
  · cases hdot

/-- Underscores, letters and digits stay such in lower case, but for the dot of a dotted capital. -/
theorem isNameChar_of_mem_lowerAfter {form : Char} {cs before : List Char}
    (hchars : ∀ c ∈ cs, c = '_' ∨ isNameChar c = true) (h : form ∈ lowerAfter before cs) :
    form = '_' ∨ isNameChar form = true ∨ form = '\u0307' ∧ 'İ' ∈ cs := by
  induction cs generalizing before with
  | nil => cases h
  | cons c rest ih =>
    obtain ⟨hc, hrest⟩ := List.forall_mem_cons.mp hchars
    rw [lowerAfter_cons, List.mem_append] at h
    rcases h with hhere | hthere
    · rcases hc with rfl | hname
      · rw [lowerHere_underscore, List.mem_singleton] at hhere
        exact .inl hhere
      · rcases isNameChar_of_mem_lowerHere hname hhere with hform | ⟨hdot, rfl⟩
        · exact .inr (.inl hform)
        · exact .inr (.inr ⟨hdot, List.mem_cons_self⟩)
    · exact (ih hrest hthere).imp_right
        (Or.imp_right fun ⟨hdot, hmem⟩ => ⟨hdot, List.mem_cons_of_mem _ hmem⟩)

/-- A text begins with an underscore in lower case only if it begins with one. -/
theorem head?_lowerAfter {cs before : List Char} (hchars : ∀ c ∈ cs, c = '_' ∨ isNameChar c = true)
    (h : (lowerAfter before cs).head? = some '_') : cs.head? = some '_' := by
  cases cs with
  | nil => cases h
  | cons c rest =>
    rcases hchars c List.mem_cons_self with rfl | hname
    · rfl
    · rw [lowerAfter_cons, List.head?_append_of_ne_nil _ (lowerHere_ne_nil before c rest)] at h
      exact absurd (List.mem_of_mem_head? h) (underscore_not_mem_lowerHere hname)

/-- In lower case no two underscores come to stand side by side. -/
theorem isChain_lowerAfter {cs before : List Char}
    (hchars : ∀ c ∈ cs, c = '_' ∨ isNameChar c = true) (h : cs.IsChain NotBothUnderscores) :
    (lowerAfter before cs).IsChain NotBothUnderscores := by
  induction cs generalizing before with
  | nil => exact .nil
  | cons c rest ih =>
    obtain ⟨hc, hrest⟩ := List.forall_mem_cons.mp hchars
    obtain ⟨hnext, hchain⟩ := List.isChain_cons.mp h
    rw [lowerAfter_cons]
    rcases hc with rfl | hname
    · rw [lowerHere_underscore, List.singleton_append]
      refine (ih hrest hchain).cons fun other hother _ hunderscore => ?_
      subst hunderscore
      exact hnext '_' (head?_lowerAfter hrest hother) rfl rfl
    · have hnone : '_' ∉ lowerHere before c rest := underscore_not_mem_lowerHere hname
      refine List.IsChain.append (List.Pairwise.isChain ?_) (ih hrest hchain) ?_
      · exact List.pairwise_of_forall_mem_list fun a ha _ _ hunderscore =>
          absurd (hunderscore ▸ ha) hnone
      · exact fun last hlast _ _ hunderscore =>
          absurd (List.mem_of_getLast? (hunderscore ▸ hlast)) hnone

/-- Text that is its own lower case character by character is so as a whole. -/
theorem lowerAfter_eq {cs : List Char} (h : ∀ c ∈ cs, lowerChar c = [c]) (before : List Char) :
    lowerAfter before cs = cs := by
  induction cs generalizing before with
  | nil => rfl
  | cons c rest ih =>
    obtain ⟨hc, hrest⟩ := List.forall_mem_cons.mp h
    have hsigma : c ≠ 'Σ' := by
      rintro rfl
      revert hc
      decide +kernel
    rw [lowerAfter_cons, lowerHere, if_neg hsigma, hc, ih hrest, List.singleton_append]

end Text

/-! ## Normal forms -/

/-- A text in normal form. -/
structure IsNormalName (s : String) : Prop where
  /-- It is made of underscores, letters and digits. -/
  chars : ∀ c ∈ s.toList, c = '_' ∨ isNameChar c = true
  /-- All of them are their own lower case. -/
  lower : ∀ c ∈ s.toList, Text.lowerChar c = [c]
  /-- No two underscores stand side by side. -/
  single : s.toList.IsChain NotBothUnderscores

/-- A text in normal form is its own normal form. -/
theorem normalName_eq_self {s : String} (h : IsNormalName s) : normalName s = s := by
  have hsame : collapseFrom false s.toList = s.toList :=
    collapseFrom_eq h.chars h.single (by simp)
  rw [normalName, hsame, Text.lowerCase, Text.lowerAfter_eq h.lower, String.ofList_toList]

/-- What is left of a text for a normal form are underscores, letters and digits. -/
theorem chars_collapse (s : String) :
    ∀ c ∈ collapseFrom false s.toList, c = '_' ∨ isNameChar c = true :=
  fun _ hc => (mem_collapseFrom hc).imp_right And.left

/-- The characters of a normal form are their own lower case. -/
theorem lowerChar_of_mem_normalName {s : String} {c : Char} (h : c ∈ (normalName s).toList) :
    Text.lowerChar c = [c] := by
  rw [normalName, String.toList_ofList] at h
  exact Text.lowerChar_of_mem_lowerAfter h

/-- No two underscores stand side by side in a normal form. -/
theorem isChain_normalName (s : String) : (normalName s).toList.IsChain NotBothUnderscores := by
  rw [normalName, String.toList_ofList]
  exact Text.isChain_lowerAfter (chars_collapse s) (isChain_collapseFrom false s.toList).1

/-- A dotted capital leaves its dot behind. -/
theorem dot_mem_normalName {s : String} (h : 'İ' ∈ s.toList) :
    '\u0307' ∈ (normalName s).toList := by
  rw [normalName, String.toList_ofList]
  exact Text.mem_lowerAfter (mem_collapseFrom_of_isNameChar (by decide +kernel) h false)
    (by decide) (by decide +kernel) []

/-- The characters of a normal form are underscores, letters and digits, but for the dots of dotted
capitals. -/
theorem mem_normalName {s : String} {c : Char} (h : c ∈ (normalName s).toList) :
    c = '_' ∨ isNameChar c = true ∨ c = '\u0307' ∧ 'İ' ∈ s.toList := by
  rw [normalName, String.toList_ofList] at h
  refine (Text.isNameChar_of_mem_lowerAfter (chars_collapse s) h).imp_right
    (Or.imp_right fun hdotted => ⟨hdotted.1, ?_⟩)
  exact ((mem_collapseFrom hdotted.2).resolve_left (by decide)).2

/-- A normal form is made of underscores, letters and digits exactly if there is no dotted capital
in the text. -/
theorem chars_normalName_iff (s : String) :
    (∀ c ∈ (normalName s).toList, c = '_' ∨ isNameChar c = true) ↔ 'İ' ∉ s.toList := by
  constructor
  · intro hchars hdotted
    have hdot := hchars '\u0307' (dot_mem_normalName hdotted)
    revert hdot
    decide +kernel
  · exact fun hnone c hc =>
      (mem_normalName hc).imp_right (Or.resolve_right · fun hdotted => hnone hdotted.2)

/-- A text has a normal form in which no two underscores stand side by side. It is made of
underscores, letters and digits, and is its own normal form, exactly if there is no dotted capital
`İ` in the text; the normal form of a normal form always is. -/
theorem normalName_settles (s : String) :
    ¬ ['_', '_'] <:+: (normalName s).toList
      ∧ ((∀ c ∈ (normalName s).toList, c = '_' ∨ isNameChar c = true) ↔ 'İ' ∉ s.toList)
      ∧ (normalName (normalName s) = normalName s ↔ 'İ' ∉ s.toList)
      ∧ normalName (normalName (normalName s)) = normalName (normalName s) := by
  have hsettled : ∀ t : String, 'İ' ∉ t.toList → normalName (normalName t) = normalName t :=
    fun t ht => normalName_eq_self ⟨(chars_normalName_iff t).mpr ht,
      fun _ => lowerChar_of_mem_normalName, isChain_normalName t⟩
  -- A normal form has no capitals, and so no dotted one.
  have hnone : 'İ' ∉ (normalName s).toList := fun h => by
    have hlower := lowerChar_of_mem_normalName h
    revert hlower
    decide +kernel
  refine ⟨?_, chars_normalName_iff s, ⟨fun hfixed => ?_, hsettled s⟩, hsettled _ hnone⟩
  · rintro ⟨front, back, hsplit⟩
    have hsame : (normalName s).toList = front ++ '_' :: '_' :: back := by simp [← hsplit]
    exact List.isChain_iff_forall_rel_of_append_cons_cons.mp (isChain_normalName s) hsame rfl rfl
  · rw [← chars_normalName_iff, ← hfixed, chars_normalName_iff]
    exact hnone

end BootTrial
