import BootTrial.Proofs.Layout

/-!
# The names of tests

The name of a test directory is the name of one entry (`isPlain_pendingName`,
`isPlain_runningName`): the concrete fields of a scenario show in it in normal form, in which there
are no slashes, and the id of a boot has none either. Only the template is free to hold one. Then
the name spells a path through a directory, and in a staging directory without entries this path
leads nowhere (`FileStep.makeDir_slashed`).
-/

namespace BootTrial

namespace Text

/-- The lower-case form of a code point is the code point, or stands as far from the first form of
some run as the code point from its first letter. -/
theorem lowerBy_cases (runs : List CaseRun) (n : Nat) : lowerBy runs n = n ∨
    ∃ run ∈ runs, ∃ i ≤ run.last - run.first, i % run.step = 0
      ∧ n = run.first + i ∧ lowerBy runs n = run.target + i := by
  induction runs with
  | nil => exact .inl rfl
  | cons run rest ih =>
    rw [lowerBy]
    by_cases hbelow : n < run.first
    · rw [if_pos hbelow]
      exact .inl rfl
    rw [if_neg hbelow]
    split
    · rename_i hwithin
      obtain ⟨hlast, hstep⟩ : n ≤ run.last ∧ (n - run.first) % run.step = 0 := by
        simpa only [Bool.and_eq_true, decide_eq_true_eq] using hwithin
      exact .inr ⟨run, List.mem_cons_self, n - run.first, by omega, hstep, by omega, rfl⟩
    · obtain hsame | ⟨run', hrun', hform⟩ := ih
      · exact .inl hsame
      · exact .inr ⟨run', List.mem_cons_of_mem _ hrun', hform⟩

set_option maxRecDepth 4000 in
/-- All lower-case forms are characters, and come behind the digits. -/
theorem digits_lt_target : ∀ run ∈ caseRuns, '9'.toNat < run.target ∧
    (run.target + (run.last - run.first) < 0xd800
      ∨ 0xdfff < run.target ∧ run.target + (run.last - run.first) < 0x110000) := by decide

/-- The lower-case form of a character is a character. -/
theorem toNat_lowerBy (c : Char) :
    (Char.ofNat (lowerBy caseRuns c.toNat)).toNat = lowerBy caseRuns c.toNat := by
  obtain hsame | ⟨run, hrun, i, hi, -, -, hform⟩ := lowerBy_cases caseRuns c.toNat
  · rw [hsame, Char.ofNat_toNat]
  · obtain ⟨-, hrange⟩ := digits_lt_target run hrun
    have hvalid : (lowerBy caseRuns c.toNat).isValidChar := by
      rw [Nat.isValidChar]
      omega
    have hofNat : Char.ofNat (lowerBy caseRuns c.toNat) = Char.ofNatAux _ hvalid :=
      dif_pos hvalid
    rw [hofNat]
    rfl

/-- No other character has one in front of the digits as its lower-case form. -/
theorem low_not_mem_lowerChar {low c : Char} (hlow : low < '0') (h : c ≠ low) :
    low ∉ lowerChar c := by
  have hcode : low.toNat < '0'.toNat := hlow
  unfold lowerChar
  split
  · intro hmem
    simp only [List.mem_cons, List.not_mem_nil, or_false] at hmem
    obtain rfl | rfl := hmem <;> revert hcode <;> decide
  · intro hmem
    have hform := List.mem_singleton.mp hmem
    have htoNat : low.toNat = lowerBy caseRuns c.toNat := by rw [hform, toNat_lowerBy]
    obtain hsame | ⟨run, hrun, i, hi, -, -, htarget⟩ := lowerBy_cases caseRuns c.toNat
    · rw [hsame, Char.ofNat_toNat] at hform
      exact h hform.symm
    · obtain ⟨hdigits, -⟩ := digits_lt_target run hrun
      have horder : '0'.toNat < '9'.toNat := by decide
      omega

/-- A text without a character that comes in front of the digits has none in lower case. -/
theorem low_not_mem_lowerAfter {low : Char} (hlow : low < '0') (before : List Char)
    {cs : List Char} (h : low ∉ cs) : low ∉ lowerAfter before cs := by
  have hcode : low.toNat < '0'.toNat := hlow
  induction cs generalizing before with
  | nil => simp [lowerAfter]
  | cons c rest ih =>
    rw [List.mem_cons, not_or] at h
    obtain ⟨hc, hrest⟩ := h
    rw [lowerAfter, List.mem_append, not_or]
    refine ⟨?_, ih (c :: before) hrest⟩
    split
    · intro hsigma
      have hne : low ≠ 'ς' ∧ low ≠ 'σ' := by
        constructor <;> rintro rfl <;> revert hcode <;> decide
      split at hsigma
      · exact hne.1 (List.mem_singleton.mp hsigma)
      · exact hne.2 (List.mem_singleton.mp hsigma)
    · exact low_not_mem_lowerChar hlow (Ne.symm hc)

/-- No code point in front of the first range is in one of the ranges. -/
theorem CodeRanges.holds_of_lt {first last n : Nat} (rest : CodeRanges) (h : n < first) :
    CodeRanges.holds ((first, last) :: rest) n = false := by
  rw [CodeRanges.holds, if_pos h]

end Text

/-- No character in front of the digits stands for itself in a normal name. -/
theorem isNameChar_low {low : Char} (hlow : low < '0') : isNameChar low = false := by
  have hcode : low.toNat < '0'.toNat := hlow
  have hletter : Text.isAlphabetic low = false :=
    Text.CodeRanges.holds_of_lt _ (Nat.lt_trans hcode (by decide))
  have hdigit : Text.isDecimalDigit low = false := Text.CodeRanges.holds_of_lt _ hcode
  rw [isNameChar, hletter, hdigit, Bool.or_false]

/-- No character in front of the digits is left where runs of other characters are replaced. -/
theorem low_not_mem_collapseFrom {low : Char} (hlow : low < '0') (inRun : Bool)
    (cs : List Char) : low ∉ collapseFrom inRun cs := by
  induction cs generalizing inRun with
  | nil => simp [collapseFrom]
  | cons c rest ih =>
    rw [collapseFrom]
    split
    · rename_i hname
      rw [List.mem_cons, not_or]
      refine ⟨?_, ih false⟩
      rintro rfl
      rw [isNameChar_low hlow] at hname
      cases hname
    · split
      · exact ih true
      · rw [List.mem_cons, not_or]
        refine ⟨?_, ih true⟩
        rintro rfl
        revert hlow
        decide

/-- There is no character in front of the digits in a normal name. -/
theorem low_not_mem_normalName {low : Char} (hlow : low < '0') (s : String) :
    low ∉ (normalName s).toList := by
  rw [normalName, String.toList_ofList, Text.lowerCase]
  exact Text.low_not_mem_lowerAfter hlow [] (low_not_mem_collapseFrom hlow false s.toList)

/-- A character of some texts with a separator between them is one of a text or of the separator. -/
theorem mem_intercalate {separator : String} {texts : List String} {c : Char}
    (h : c ∈ (separator.intercalate texts).toList) :
    c ∈ separator.toList ∨ ∃ text ∈ texts, c ∈ text.toList := by
  induction texts with
  | nil => simp at h
  | cons first rest ih =>
    cases rest with
    | nil => exact .inr ⟨first, List.mem_cons_self, by simpa using h⟩
    | cons second more =>
      simp only [String.intercalate_cons_cons, String.toList_append, List.mem_append] at h
      obtain (h | h) | h := h
      · exact .inr ⟨first, List.mem_cons_self, h⟩
      · exact .inl h
      · exact (ih h).imp id fun ⟨text, htext, hc⟩ => ⟨text, List.mem_cons_of_mem _ htext, hc⟩

/-- Of the characters in front of the digits only the hyphen is in the fragment of a scenario. -/
theorem low_not_mem_fragment {low : Char} (hlow : low < '0') (hhyphen : low ≠ '-')
    (scenario : Scenario) : low ∉ scenario.fragment.toList := by
  intro h
  obtain h | ⟨text, htext, h⟩ := mem_intercalate h
  · obtain rfl : low = '_' := by simpa using h
    revert hlow
    decide
  · obtain ⟨field, -, rfl⟩ := List.mem_map.mp htext
    simp only [String.toList_append, List.mem_append] at h
    obtain (h | h) | h := h
    · exact low_not_mem_normalName hlow _ h
    · exact hhyphen (by simpa using h)
    · exact low_not_mem_normalName hlow _ h

/-- A decimal numeral consists of digits. -/
theorem isDigit_of_mem_toString {n : Nat} {c : Char} (h : c ∈ (toString n).toList) :
    c.isDigit = true := by
  rw [show toString n = n.repr from rfl, Nat.toList_repr] at h
  exact Nat.isDigit_of_mem_toDigits (by decide) (by decide) h

/-- A number can be read off its digits. -/
theorem toString_inj {m n : Nat} (h : toString m = toString n) : m = n := by
  have hdigits : Nat.toDigits 10 m = Nat.toDigits 10 n := by
    rw [← Nat.toList_repr, ← Nat.toList_repr]
    exact congrArg String.toList h
  have hread := congrArg (fun digits => Nat.ofDigitChars 10 digits 0) hdigits
  simpa only [Nat.ofDigitChars_toDigits (by decide : 1 < 10) (by decide : 10 ≤ 10)] using hread

/-- The front of the names that belong to a test begins with a digit. -/
theorem logPrefix_eq_cons (ordinal : Nat) (template : String) : ∃ digit rest,
    digit.isDigit = true ∧ (logPrefix ordinal template).toList = digit :: rest := by
  have hdigits : ∀ c ∈ (toString ordinal).toList, c.isDigit = true :=
    fun _ => isDigit_of_mem_toString
  have hne : (toString ordinal).toList ≠ [] := by
    rw [show toString ordinal = ordinal.repr from rfl, Nat.toList_repr]
    exact Nat.toDigits_ne_nil
  obtain ⟨digit, rest, hcons⟩ := List.exists_cons_of_ne_nil hne
  refine ⟨digit, rest ++ '-' :: template.toList, hdigits digit ?_, ?_⟩
  · rw [hcons]
    exact List.mem_cons_self
  · simp only [logPrefix, String.toList_append, hcons]
    simp

/-- There is a slash in front of the fragment only if there is one in the template. -/
theorem slash_not_mem_logPrefix {template : String} (h : '/' ∉ template.toList) (ordinal : Nat) :
    '/' ∉ (logPrefix ordinal template).toList := by
  simp only [logPrefix, String.toList_append, List.mem_append, not_or]
  refine ⟨⟨fun hdigit => ?_, by decide⟩, h⟩
  exact absurd (isDigit_of_mem_toString hdigit) (by decide)

/-- The name of a test that waits is that of one entry if there is no slash in the template. -/
theorem isPlain_pendingName {template : String} (h : '/' ∉ template.toList) (ordinal : Nat)
    (scenario : Scenario) : IsPlain (pendingName ordinal template scenario) := by
  obtain ⟨digit, rest, hdigit, hcons⟩ := logPrefix_eq_cons ordinal template
  have hname : (pendingName ordinal template scenario).toList
      = digit :: (rest ++ separator.toList ++ scenario.fragment.toList) := by
    simp [pendingName, hcons]
  refine isPlain_of_cons hname ?_ ?_
  · rintro rfl
    exact absurd hdigit (by decide)
  · simp only [pendingName, String.toList_append, List.mem_append, not_or]
    exact ⟨⟨slash_not_mem_logPrefix h ordinal, by decide⟩,
      low_not_mem_fragment (by decide) (by decide) scenario⟩

/-- There is no slash in the id of a boot. -/
theorem BootId.slash_not_mem (boot : BootId) : '/' ∉ boot.text.toList := by
  intro h
  exact absurd (List.all_eq_true.mp boot.isId.2 _ h) (by decide)

/-- The name of a test that runs is that of one entry. -/
theorem isPlain_runningName {name : String} (h : IsPlain name) (boot : BootId) :
    IsPlain (runningName name boot) := by
  have hlength : 0 < boot.text.toList.length := List.length_pos_iff.mpr boot.isId.1
  have hseparator : separator.toList.length = 2 := by decide
  refine isPlain_of_length ?_ ?_
  · simp only [runningName, String.toList_append, List.length_append]
    omega
  · simp only [runningName, String.toList_append, List.mem_append, not_or]
    exact ⟨⟨h.noSlash, by decide⟩, boot.slash_not_mem⟩

section Slashes

/-- A text is split at its first slash. -/
theorem splitSlashes_append {front : List Char} (h : '/' ∉ front) (rest : List Char) :
    splitSlashes (front ++ '/' :: rest) = front :: splitSlashes rest := by
  induction front with
  | nil => rfl
  | cons c front ih =>
    rw [List.mem_cons, not_or] at h
    rw [List.cons_append, splitSlashes, if_neg (Ne.symm h.1), ih h.2]

/-- What stands between slashes stands in some part. -/
theorem exists_part {cs : List Char} {c : Char} (h : c ∈ cs) (hc : c ≠ '/') :
    ∃ part ∈ splitSlashes cs, c ∈ part := by
  induction cs with
  | nil => cases h
  | cons first rest ih =>
    rw [splitSlashes]
    by_cases hfirst : first = '/'
    · rw [if_pos hfirst]
      obtain rfl | hrest := List.mem_cons.mp h
      · exact absurd hfirst hc
      · obtain ⟨part, hpart, hmem⟩ := ih hrest
        exact ⟨part, List.mem_cons_of_mem _ hpart, hmem⟩
    · rw [if_neg hfirst]
      obtain ⟨part, parts, hparts⟩ := List.exists_cons_of_ne_nil (splitSlashes_ne_nil rest)
      rw [hparts] at ih ⊢
      obtain rfl | hrest := List.mem_cons.mp h
      · exact ⟨c :: part, List.mem_cons_self, List.mem_cons_self⟩
      · obtain ⟨other, hother, hmem⟩ := ih hrest
        obtain rfl | hother := List.mem_cons.mp hother
        · exact ⟨first :: other, List.mem_cons_self, List.mem_cons_of_mem _ hmem⟩
        · exact ⟨other, List.mem_cons_of_mem _ hother, hmem⟩

/-- Components are not followed through a name that is not there. -/
theorem passThrough_missing {root : Node} {d : Place} {entries : List (String × Node)}
    {name : String} (hname : IsPlain name) (hd : root.get? d = some (.dir entries))
    (hentry : entries.lookup name = none) (rest : List String) :
    ∃ fault, passThrough root d (name :: rest) = .error fault := by
  have hlookUp : ∀ place own, lookUp root d name ≠ .ok (.taken place (.dir own)) := by
    intro place own
    rw [lookUp_of_get? hd, hentry]
    split <;> simp
  rw [passThrough, if_neg hname.ne_dot, if_neg hname.ne_dotDot]
  split
  · rename_i htaken
    exact absurd htaken (hlookUp _ _)
  · exact ⟨_, rfl⟩
  · exact ⟨_, rfl⟩
  · exact ⟨_, rfl⟩

/-- A path is not followed behind which a text is joined that goes through a directory that is not
there. -/
theorem Path.approach_join_slashed {p : Path} {root : Node} {here d : Place}
    {entries : List (String × Node)} {name : String} {front rest : List Char} {c : Char}
    (hname : name.toList = front ++ '/' :: rest) (hfront : IsPlain (String.ofList front))
    (hc : c ∈ rest) (hslash : c ≠ '/')
    (hp : passThrough root (p.start here) p.components = .ok d)
    (hd : root.get? d = some (.dir entries)) (hentry : entries.lookup (String.ofList front) = none) :
    ∃ fault, (p.join name).approach root here = .error fault := by
  obtain ⟨part, hpart, hcpart⟩ := exists_part hc hslash
  have hnoSlash : '/' ∉ front := by simpa using hfront.noSlash
  -- The first of the components is missing, and another one follows.
  have hofText : ofText name
      = ⟨String.ofList front :: (splitSlashes rest).map String.ofList⟩ := by
    rw [ofText, hname, splitSlashes_append hnoSlash, List.map_cons]
  have hsegments : (p.join name).segments
      = p.front ++ String.ofList front :: (splitSlashes rest).map String.ofList := by
    rw [join, hofText, p.segments_append (isAbsolute_cons hfront.ne_empty _)]
  have hcomponents : (p.join name).segments.filter (· ≠ "") = p.components ++
      String.ofList front :: ((splitSlashes rest).map String.ofList).filter (· ≠ "") := by
    rw [hsegments, List.filter_append, p.filter_front,
      List.filter_cons_of_pos (by simpa using hfront.ne_empty)]
  have hmore : ((splitSlashes rest).map String.ofList).filter (· ≠ "") ≠ [] := by
    refine List.ne_nil_of_mem (a := String.ofList part) (List.mem_filter.mpr ⟨?_, ?_⟩)
    · exact List.mem_map_of_mem hpart
    · have hne : part ≠ [] := List.ne_nil_of_mem hcpart
      simpa using hne
  have habsolute : (p.join name).isAbsolute = p.isAbsolute := by
    rw [← p.isAbsolute_front_append hfront.ne_empty _, ← hsegments]
  have hstart : (if (p.join name).isAbsolute then [] else here) = p.start here := by
    rw [habsolute, start]
  obtain ⟨fault, hmissing⟩ := passThrough_missing hfront hd hentry
    (((splitSlashes rest).map String.ofList).filter (· ≠ "")).dropLast
  have hpass : passThrough root (p.start here) (p.components ++
      String.ofList front :: ((splitSlashes rest).map String.ofList).filter (· ≠ "")).dropLast
        = .error fault := by
    rw [List.dropLast_append_of_ne_nil (by simp), List.dropLast_cons_of_ne_nil hmore,
      passThrough_append, hp]
    exact hmissing
  have hwalk : ∃ fault, (p.join name).walk root here = .error fault := by
    unfold walk
    split
    · exact ⟨_, rfl⟩
    · split
      · exact ⟨_, rfl⟩
      · simp only [hcomponents, hstart, hpass]
        exact ⟨fault, rfl⟩
  unfold approach
  split
  · exact ⟨_, rfl⟩
  · exact hwalk

end Slashes

end BootTrial
