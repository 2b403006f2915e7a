import Mathlib.Data.List.TakeWhile
import BootTrial.Operator.Highlight
import BootTrial.Proofs.Compiling
import BootTrial.Proofs.Naming

/-!
# Hotkeys in either case

The hotkeys of a description are bound in lower case, the text of all its markers at once, while the
key that an operator types is looked up by the lower-case form of this one character. The two forms
are the same but for the capital sigma: where it ends a word it is bound as `ς`, and it is always
looked up as `σ`.

So every character that a description shows in a marker stands for this description, whatever its
case, except for a capital sigma if each capital sigma in the markers ends a word and no small one
stands there (`Menu.ofResponses_selects`).
-/

namespace BootTrial

/-! ## Lower case -/

namespace Text

/-- No lower-case form of a run is a letter of another: the forms lie in front of the letters or
behind them, or each between two of them. -/
def CaseRun.misses (run other : CaseRun) : Bool :=
  Nat.blt (run.target + (run.last - run.first)) other.first
    || Nat.blt (other.first + (other.last - other.first)) run.target
    || (Nat.beq other.step 2 && (Nat.beq run.step 2 || Nat.beq (run.last - run.first) 0)
      && Nat.beq ((run.target + other.first) % 2) 1)

set_option maxRecDepth 100000 in
/-- No lower-case form is a letter that has another. -/
theorem misses_of_mem : ∀ run ∈ caseRuns, ∀ other ∈ caseRuns, run.misses other = true := by
  have hall : (caseRuns.all fun run => caseRuns.all run.misses) = true := by decide +kernel
  simpa only [List.all_eq_true] using hall

/-- What a run takes a letter to is its own lower-case form. -/
theorem lowerBy_target {run : CaseRun} (hrun : run ∈ caseRuns) {i : Nat}
    (hi : i ≤ run.last - run.first) (hstep : i % run.step = 0) :
    lowerBy caseRuns (run.target + i) = run.target + i := by
  obtain hsame | ⟨other, hother, j, hj, hstep', hcode, -⟩ :=
    lowerBy_cases caseRuns (run.target + i)
  · exact hsame
  have hmisses := misses_of_mem run hrun other hother
  simp only [CaseRun.misses, Bool.or_eq_true, Bool.and_eq_true, Nat.blt_eq, Nat.beq_eq] at hmisses
  obtain (hfront | hbehind) | ⟨⟨htwo, hthis⟩, hodd⟩ := hmisses
  · omega
  · omega
  · -- The letters of the other run are at even distances, and so are the forms of this one.
    rw [htwo] at hstep'
    have heven : i % 2 = 0 := by
      rcases hthis with hthis | hsingle
      · rwa [hthis] at hstep
      · omega
    omega

set_option maxRecDepth 4000 in
/-- The dotted capital `İ` is no lower-case form. -/
theorem dotted_not_target : ∀ run ∈ caseRuns,
    run.target + (run.last - run.first) < 'İ'.toNat ∨ 'İ'.toNat < run.target := by decide

set_option maxRecDepth 4000 in
/-- The small sigma is the lower-case form of the capital one and of no other letter. -/
theorem first_of_target_sigma : ∀ run ∈ caseRuns, run.target ≤ 'σ'.toNat →
    'σ'.toNat ≤ run.target + (run.last - run.first) →
    run.first + 'σ'.toNat = run.target + 'Σ'.toNat := by decide

/-- A lower-case form is its own lower-case form. -/
theorem lowerChar_of_mem_lowerChar {c form : Char} (h : form ∈ lowerChar c) :
    lowerChar form = [form] := by
  unfold lowerChar at h
  split at h
  · simp only [List.mem_cons, List.not_mem_nil, or_false] at h
    obtain rfl | rfl := h <;> decide +kernel
  next hdotted =>
  have hform := List.mem_singleton.mp h
  obtain hsame | ⟨run, hrun, i, hi, hstep, -, htarget⟩ := lowerBy_cases caseRuns c.toNat
  · rw [hsame, Char.ofNat_toNat] at hform
    rw [hform, lowerChar, if_neg hdotted, hsame, Char.ofNat_toNat]
  · have hcode : form.toNat = run.target + i := by rw [hform, toNat_lowerBy, htarget]
    have hplain : form ≠ 'İ' := by
      rintro rfl
      have hnone := dotted_not_target run hrun
      omega
    rw [lowerChar, if_neg hplain, hcode, lowerBy_target hrun hi hstep, ← hcode, Char.ofNat_toNat]

/-- Of the characters other than the capital sigma only the small sigma has it as its lower-case
form. -/
theorem sigma_mem_lowerChar {c : Char} (hc : c ≠ 'Σ') : 'σ' ∈ lowerChar c ↔ c = 'σ' := by
  constructor
  · intro h
    unfold lowerChar at h
    split at h
    · exact absurd h (by decide)
    have hform : 'σ'.toNat = lowerBy caseRuns c.toNat := by
      rw [List.mem_singleton.mp h, toNat_lowerBy]
    obtain hsame | ⟨run, hrun, i, hi, -, hfirst, htarget⟩ := lowerBy_cases caseRuns c.toNat
    · exact Char.toNat_inj.mp (hsame.symm.trans hform.symm)
    · have hsigma := first_of_target_sigma run hrun (by omega) (by omega)
      exact absurd (Char.toNat_inj.mp (by omega)) hc
  · rintro rfl
    decide +kernel

/-- A capital sigma between two texts, the first of which is given last character first, ends a
word. -/
def EndsWord (before rest : List Char) : Prop :=
  continuesWord before = true ∧ continuesWord rest = false

/-- The lower-case form of a text has the lower-case forms of its characters. -/
theorem mem_lowerAfter {c form : Char} {cs : List Char} (h : c ∈ cs) (hc : c ≠ 'Σ')
    (hform : form ∈ lowerChar c) (before : List Char) : form ∈ lowerAfter before cs := by
  induction cs generalizing before with
  | nil => exact absurd h List.not_mem_nil
  | cons d rest ih =>
    rw [lowerAfter, List.mem_append]
    rcases List.mem_cons.mp h with rfl | hrest
    · rw [if_neg hc]
      exact .inl hform
    · exact .inr (ih hrest (d :: before))

/-- Every character of a text in lower case is its own lower-case form. -/
theorem lowerChar_of_mem_lowerAfter {form : Char} {cs before : List Char}
    (h : form ∈ lowerAfter before cs) : lowerChar form = [form] := by
  induction cs generalizing before with
  | nil => exact absurd h List.not_mem_nil
  | cons c rest ih =>
    rw [lowerAfter, List.mem_append] at h
    rcases h with hhere | hrest
    · split at hhere
      · have hsigma : form = 'ς' ∨ form = 'σ' := by
          have hform := List.mem_singleton.mp hhere
          split at hform
          · exact .inl hform
          · exact .inr hform
        rcases hsigma with rfl | rfl <;> decide +kernel
      · exact lowerChar_of_mem_lowerChar hhere
    · exact ih hrest

/-- A text has a small sigma in lower case if it has one itself, or a capital one that does not end a
word. -/
theorem sigma_mem_lowerAfter (before cs : List Char) : 'σ' ∈ lowerAfter before cs
    ↔ 'σ' ∈ cs ∨ ∃ front back, cs = front ++ 'Σ' :: back
      ∧ ¬ EndsWord (front.reverse ++ before) back := by
  induction cs generalizing before with
  | nil => simp [lowerAfter]
  | cons c rest ih =>
    -- A capital sigma of the text comes first, or is one of the rest.
    have hsplit : (∃ front back, c :: rest = front ++ 'Σ' :: back
          ∧ ¬ EndsWord (front.reverse ++ before) back)
        ↔ (c = 'Σ' ∧ ¬ EndsWord before rest) ∨ ∃ front back, rest = front ++ 'Σ' :: back
          ∧ ¬ EndsWord (front.reverse ++ c :: before) back := by
      constructor
      · rintro ⟨front, back, hcs, hends⟩
        cases front with
        | nil =>
          obtain ⟨rfl, rfl⟩ := List.cons.inj hcs
          exact .inl ⟨rfl, hends⟩
        | cons d front =>
          obtain ⟨rfl, rfl⟩ := List.cons.inj hcs
          exact .inr ⟨front, back, rfl, by simpa using hends⟩
      · rintro (⟨rfl, hends⟩ | ⟨front, back, rfl, hends⟩)
        · exact ⟨[], rest, rfl, hends⟩
        · exact ⟨c :: front, back, rfl, by simpa using hends⟩
    have hhere : 'σ' ∈ (if c = 'Σ' then
          [if continuesWord before && !continuesWord rest then 'ς' else 'σ'] else lowerChar c)
        ↔ c = 'σ' ∨ c = 'Σ' ∧ ¬ EndsWord before rest := by
      by_cases hc : c = 'Σ'
      · subst hc
        rw [if_pos rfl, List.mem_singleton, EndsWord]
        cases continuesWord before <;> cases continuesWord rest <;> simp
      · rw [if_neg hc, sigma_mem_lowerChar hc]
        simp [hc]
    rw [lowerAfter, List.mem_append, ih, hsplit, List.mem_cons, hhere, @eq_comm _ 'σ' c]
    exact or_or_or_comm

end Text

/-! ## Markers -/

/-- The characters between the brackets of a marker. -/
def Segment.inside : Segment → List Char
  | .plain _ => []
  | .marker text => text.tail.dropLast

/-- The characters that a description shows in its markers. -/
def shownKeys (description : String) : List Char :=
  (segments description.toList).flatMap Segment.inside

/-- A text is what stands in front of its first `b`, this character, and what follows it. -/
theorem dropWhile_ne_eq_cons {b c : Char} {cs rest : List Char}
    (h : cs.dropWhile (· ≠ b) = c :: rest) :
    c = b ∧ b ∉ cs.takeWhile (· ≠ b) ∧ cs = cs.takeWhile (· ≠ b) ++ b :: rest := by
  have hsplit := List.takeWhile_append_dropWhile (p := (· ≠ b)) (l := cs)
  have hfails := List.head?_dropWhile_not (· ≠ b) cs
  rw [h] at hsplit hfails
  obtain rfl : c = b := by simpa using hfails
  refine ⟨rfl, fun hmem => ?_, hsplit.symm⟩
  simpa using List.mem_takeWhile_imp hmem

/-- Where passing over other characters leaves nothing of a text, `b` is not in it. -/
theorem not_mem_of_dropWhile_ne {b : Char} {cs : List Char} (h : cs.dropWhile (· ≠ b) = []) :
    b ∉ cs := by
  intro hmem
  simpa using List.dropWhile_eq_nil_iff.mp h b hmem

/-- Nothing is marked in front of the first opening bracket. -/
theorem markedFrom_outside {front : List Char} (h : '[' ∉ front) (rest : List Char) :
    markedFrom none (front ++ rest) = markedFrom none rest := by
  induction front with
  | nil => rfl
  | cons c front ih =>
    rw [List.mem_cons, not_or] at h
    obtain ⟨hc, hfront⟩ := h
    rw [List.cons_append, markedFrom, if_neg (Ne.symm hc)]
    exact ih hfront

/-- A marker that is open takes in all characters up to its closing bracket. -/
theorem markedFrom_inside {inside : List Char} (h : ']' ∉ inside) (mark rest : List Char) :
    markedFrom (some mark) (inside ++ rest) = markedFrom (some (inside.reverse ++ mark)) rest := by
  induction inside generalizing mark with
  | nil => rfl
  | cons c inside ih =>
    rw [List.mem_cons, not_or] at h
    obtain ⟨hc, hinside⟩ := h
    rw [List.cons_append, markedFrom, if_neg (Ne.symm hc), ih hinside, List.reverse_cons,
      List.append_assoc, List.singleton_append]

/-- What is marked in a text is what stands in its markers. -/
theorem markedFrom_eq_flatMap (cs : List Char) :
    markedFrom none cs = (segments cs).flatMap Segment.inside := by
  fun_induction segments cs with
  | case1 cs hopen =>
    -- There is no opening bracket.
    have hnone := markedFrom_outside (not_mem_of_dropWhile_ne hopen) []
    rw [List.append_nil] at hnone
    rw [hnone]
    rfl
  | case2 cs opening inside hopen hclose =>
    -- The first opening bracket is never closed.
    obtain ⟨rfl, hfront, hcs⟩ := dropWhile_ne_eq_cons hopen
    have hrest := markedFrom_inside (not_mem_of_dropWhile_ne hclose) [] []
    rw [List.append_nil] at hrest
    calc markedFrom none cs
        = markedFrom none (cs.takeWhile (· ≠ '[') ++ '[' :: inside) := by rw [← hcs]
      _ = markedFrom (some []) inside := by rw [markedFrom_outside hfront]; rfl
      _ = [] := hrest
  | case3 cs opening inside hopen closing after hclose ih =>
    obtain ⟨rfl, hfront, hcs⟩ := dropWhile_ne_eq_cons hopen
    obtain ⟨rfl, hinside, hrest⟩ := dropWhile_ne_eq_cons hclose
    generalize inside.takeWhile (· ≠ ']') = marked at hinside hrest
    calc markedFrom none cs
        = markedFrom none (cs.takeWhile (· ≠ '[') ++ '[' :: inside) := by rw [← hcs]
      _ = markedFrom (some []) inside := by rw [markedFrom_outside hfront]; rfl
      _ = markedFrom (some marked.reverse) (']' :: after) := by
        rw [hrest, markedFrom_inside hinside, List.append_nil]
      _ = marked ++ markedFrom none after := by
        rw [markedFrom, if_pos rfl, List.reverse_reverse]
      _ = _ := by rw [ih]; simp [Segment.inside]

/-- The hotkeys of a description are what it shows in its markers, in lower case. -/
theorem hotkeys_eq (description : String) :
    hotkeys description = Text.lowerCase (shownKeys description) := by
  rw [hotkeys, markedFrom_eq_flatMap, shownKeys]

/-- An operator's key is looked up by a lower-case form of it. -/
theorem exists_foldKey (key : Char) : ∃ form ∈ Text.lowerChar key, foldKey key = some form := by
  unfold foldKey Text.lowerChar
  split
  · exact ⟨'i', List.mem_cons_self, rfl⟩
  · exact ⟨_, List.mem_cons_self, rfl⟩

/-- A hotkey is looked up as it is bound. -/
theorem foldKey_of_mem_hotkeys {key : Char} {description : String} (h : key ∈ hotkeys description) :
    foldKey key = some key := by
  rw [foldKey, Text.lowerChar_of_mem_lowerAfter h]
  rfl

/-! ## The menu -/

namespace Menu

variable {menu : Menu} {conditions : Conditions} {rows : List Response} {description : String}

/-- Every character in a marker but the capital sigma stands for its description. -/
theorem Holds.selects (h : menu.Holds conditions rows) (hlisted : description ∈ menu.descriptions)
    {key : Char} (hkey : key ∈ shownKeys description) (hsigma : key ≠ 'Σ') :
    menu.descriptionOfKey? key = some description := by
  obtain ⟨form, hform, hfold⟩ := exists_foldKey key
  have hbound : form ∈ BootTrial.hotkeys description := by
    rw [hotkeys_eq]
    exact Text.mem_lowerAfter hkey hsigma hform []
  rw [descriptionOfKey?, hfold, Option.bind_some]
  exact (h.lookup_iff form description).mpr ⟨hlisted, hbound⟩

/-- The capital sigma stands for a description with a sigma in a marker, a small one or a capital one
that does not end a word. -/
theorem Holds.selects_sigma (h : menu.Holds conditions rows)
    (hlisted : description ∈ menu.descriptions) :
    menu.descriptionOfKey? 'Σ' = some description
      ↔ 'σ' ∈ shownKeys description ∨ ∃ front back, shownKeys description = front ++ 'Σ' :: back
        ∧ ¬ Text.EndsWord front.reverse back := by
  have hfold : foldKey 'Σ' = some 'σ' := by decide +kernel
  rw [descriptionOfKey?, hfold, Option.bind_some, h.lookup_iff, hotkeys_eq, Text.lowerCase,
    Text.sigma_mem_lowerAfter]
  simp only [hlisted, true_and, List.append_nil]

/-- On a menu that has been compiled every character that a description shows in a marker stands for
this description, in either case, unless it is a capital sigma, each capital sigma in the markers
ends a word, and no small one stands there. -/
theorem ofResponses_selects {bench : Bench} {schema : Path}
    (h : (bench.perform (ofResponses rows conditions schema)).1 = .ok menu)
    (hlisted : description ∈ menu.descriptions) {key : Char} (hkey : key ∈ shownKeys description) :
    menu.descriptionOfKey? key = some description
      ↔ (key = 'Σ' → 'σ' ∈ shownKeys description
        ∨ ∃ front back, shownKeys description = front ++ 'Σ' :: back
          ∧ ¬ Text.EndsWord front.reverse back) := by
  have hholds := holds_of_ofResponses h
  by_cases hsigma : key = 'Σ'
  · subst hsigma
    rw [hholds.selects_sigma hlisted]
    simp only [forall_true_left]
  · exact iff_of_true (hholds.selects hlisted hkey hsigma) fun h => absurd h hsigma

end Menu

/-- Responses with a dotted capital `İ`, a word in Greek capitals and a small sigma as hotkeys. -/
def greekResponses : List Response :=
  [⟨"Wait [İ]", "", "quit", ""⟩, ⟨"Stop [ΑΣ]", "", "quit", ""⟩, ⟨"Drop [σ]", "", "discard", ""⟩]

/-- The dotted capital stands for its description, and so does the first letter of the word, but not
the sigma at its end. -/
theorem Menu.ofResponses_selects_greek : ∃ menu,
    (tableBench.perform (ofResponses greekResponses {} (.ofText "scenarios.csv"))).1 = .ok menu
      ∧ shownKeys "Stop [ΑΣ]" = ['Α', 'Σ']
      ∧ menu.descriptionOfKey? 'İ' = some "Wait [İ]"
      ∧ menu.descriptionOfKey? 'Α' = some "Stop [ΑΣ]"
      ∧ menu.descriptionOfKey? 'Σ' ≠ some "Stop [ΑΣ]" := by
  have hdotted : shownKeys "Wait [İ]" = ['İ'] := by
    rw [shownKeys, ← markedFrom_eq_flatMap]
    decide +kernel
  have hword : shownKeys "Stop [ΑΣ]" = ['Α', 'Σ'] := by
    rw [shownKeys, ← markedFrom_eq_flatMap]
    decide +kernel
  have hdescriptions : (tableBench.perform
      (ofResponses greekResponses {} (.ofText "scenarios.csv"))).1.map descriptions
        = .ok ["Wait [İ]", "Stop [ΑΣ]", "Drop [σ]"] := by
    decide +kernel
  rcases hmenu : (tableBench.perform
      (ofResponses greekResponses {} (.ofText "scenarios.csv"))).1 with failure | menu
  · rw [hmenu] at hdescriptions
    cases hdescriptions
  rw [hmenu] at hdescriptions
  have hlisted : menu.descriptions = ["Wait [İ]", "Stop [ΑΣ]", "Drop [σ]"] :=
    Except.ok.inj hdescriptions
  refine ⟨menu, rfl, hword, ?_, ?_, fun hselects => ?_⟩
  · exact (ofResponses_selects hmenu (by simp [hlisted]) (by simp [hdotted])).mpr (by simp)
  · exact (ofResponses_selects hmenu (by simp [hlisted]) (by simp [hword])).mpr (by simp)
  · -- The one capital sigma ends the word, and there is no small one.
    rcases (ofResponses_selects hmenu (by simp [hlisted]) (by simp [hword])).mp hselects rfl with
      hsmall | ⟨front, back, hsplit, hends⟩
    · simp [hword] at hsmall
    · have hfinal : Text.EndsWord ['Α'] [] := by
        rw [Text.EndsWord]
        decide +kernel
      rw [hword] at hsplit
      obtain ⟨rfl, rfl⟩ : front = ['Α'] ∧ back = [] := by
        match front with
        | [] => simp at hsplit
        | [c] => simpa [eq_comm] using hsplit
        | c :: d :: more => simp at hsplit
      exact hends hfinal

end BootTrial
