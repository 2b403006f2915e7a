import Mathlib.Data.List.Chain
import BootTrial.Proofs.Boots

/-!
# What is read of the name of a test

The name of a test directory is put together without any quoting: the ordinal, the template, the
concrete fields of the scenario and the boot id, with hyphens between them. Each part that the
program wants back is split off in a way of its own: the ordinal up to the first hyphen, the front
of the names of the logs up to the first two hyphens in a row, the boot id behind the last two.

No two hyphens in a row are in the fragment of a scenario (`not_infix_fragment`), so for a template
that is told apart (`IsTold`) every part is read as it was written (`names_decode`). The file for
the front of the names of the logs and the name of the directory then say the same.
-/

namespace BootTrial

/-! ## Ordinals -/

/-- Digits are read one after the other. -/
theorem Text.digitsValue?_of_isDigit {digits : List Char} (h : ∀ c ∈ digits, c.isDigit = true)
    (n : Nat) : digitsValue? n digits = some (Nat.ofDigitChars 10 digits n) := by
  induction digits generalizing n with
  | nil => rfl
  | cons c rest ih =>
    have hc : '0' ≤ c ∧ c ≤ '9' := by
      have hdigit := h c List.mem_cons_self
      simp only [Char.isDigit, Bool.and_eq_true, decide_eq_true_eq] at hdigit
      exact hdigit
    rw [digitsValue?, digitValue?, if_pos hc, Option.bind_some,
      ih fun other hother => h other (List.mem_cons_of_mem _ hother)]
    rfl

/-- A count is read of its decimal numeral. -/
theorem Text.count?_toString {n : Nat} (h : n < countLimit) : count? (toString n) = some n := by
  have hdigits : ∀ c ∈ (toString n).toList, c.isDigit = true := fun _ => isDigit_of_mem_toString
  have hlist : (toString n).toList = Nat.toDigits 10 n := by
    rw [show toString n = n.repr from rfl, Nat.toList_repr]
  have hvalue : digitsValue? 0 (toString n).toList = some n := by
    rw [digitsValue?_of_isDigit hdigits, hlist,
      Nat.ofDigitChars_toDigits (by decide) (by decide)]
  obtain ⟨digit, rest, hcons⟩ := List.exists_cons_of_ne_nil (hlist ▸ Nat.toDigits_ne_nil)
  have hplus : digit ≠ '+' := by
    rintro rfl
    exact absurd (hdigits '+' (hcons ▸ List.mem_cons_self)) (by decide)
  rw [hcons] at hvalue
  simp only [count?, hcons]
  split
  · rename_i hsign
    exact absurd (List.cons.inj hsign).1 hplus
  · simp [hvalue, h]

/-- The ordinal of a test is read of any name that begins with the front of the names of its logs. -/
theorem ordinal?_of_logPrefix {n : Nat} (h : n < Text.countLimit) (template : String)
    (rest : List Char) {name : String}
    (hname : name.toList = (logPrefix n template).toList ++ rest) : ordinal? name = some n := by
  have hfront : name.toList = (toString n).toList ++ '-' :: (template.toList ++ rest) := by
    rw [hname]
    simp [logPrefix]
  have hhyphen : ∀ c ∈ (toString n).toList, decide (c ≠ '-') = true := by
    intro c hc
    refine decide_eq_true ?_
    rintro rfl
    exact absurd (isDigit_of_mem_toString hc) (by decide)
  have hcontains : name.toList.contains '-' = true := by
    rw [hfront]
    simp
  have htake : name.toList.takeWhile (· ≠ '-') = (toString n).toList := by
    rw [hfront, List.takeWhile_append_of_pos hhyphen]
    simp
  rw [ordinal?, if_pos hcontains, htake, String.ofList_toList, Text.count?_toString h]

/-! ## Hyphens -/

/-- Two characters that are not both hyphens. -/
def NotBothHyphens (c other : Char) : Prop :=
  c = '-' → other ≠ '-'

/-- There are no two hyphens in a row if no separator is in a text. -/
theorem isChain_iff_notBoth {cs : List Char} :
    cs.IsChain NotBothHyphens ↔ ¬ separator.toList <:+: cs := by
  rw [List.isChain_iff_forall_rel_of_append_cons_cons]
  constructor
  · rintro h ⟨before, behind, rfl⟩
    have hsplit : before ++ separator.toList ++ behind = before ++ '-' :: '-' :: behind := by
      simp [separator]
    exact h hsplit rfl rfl
  · rintro h a b before behind rfl rfl rfl
    exact h ⟨before, behind, by simp [separator]⟩

/-- There are no two hyphens in a row where there is none. -/
theorem isChain_of_not_mem {cs : List Char} (h : '-' ∉ cs) : cs.IsChain NotBothHyphens := by
  rw [isChain_iff_notBoth]
  exact fun hpart => h (hpart.subset (by decide))

/-- What stands in front of the first separator. -/
theorem beforeSeparator_append {front : List Char} (h : front.IsChain NotBothHyphens)
    (hlast : ∀ c ∈ front.getLast?, c ≠ '-') (rest : List Char) :
    beforeSeparator (front ++ separator.toList ++ rest) = front := by
  induction front with
  | nil => rfl
  | cons c front ih =>
    have hrest : beforeSeparator (front ++ separator.toList ++ rest) = front := by
      refine ih h.tail fun last hmem => hlast last ?_
      rw [List.getLast?_cons, Option.mem_def.mp hmem]
      rfl
    -- The separator does not begin here: either this is no hyphen or the next is none.
    have hnot : ∀ tail, c = '-' → front ++ separator.toList ++ rest ≠ '-' :: tail := by
      rintro tail rfl heq
      cases front with
      | nil => exact hlast '-' (by simp) rfl
      | cons next front =>
        rw [List.cons_append, List.cons_append, List.cons.injEq] at heq
        exact (List.isChain_cons_cons.mp h).1 rfl heq.1
    rw [List.cons_append, List.cons_append, beforeSeparator.eq_2 _ _ fun tail hc => hnot tail hc,
      hrest]

/-- A field shows in a fragment with one hyphen, between its name and its value. -/
theorem isChain_field (name value : String) :
    (normalName name ++ "-" ++ normalName value).toList.IsChain NotBothHyphens := by
  have hnone : ∀ s : String, '-' ∉ (normalName s).toList := low_not_mem_normalName (by decide)
  rw [String.toList_append, String.toList_append]
  refine List.IsChain.append (List.IsChain.append (isChain_of_not_mem (hnone name))
    (.singleton _) ?_) (isChain_of_not_mem (hnone value)) ?_
  · intro c hc other hother hhyphen
    subst hhyphen
    exact absurd (List.mem_of_getLast? hc) (hnone name)
  · intro c hc other hother hhyphen heq
    subst heq
    exact hnone value (List.mem_of_mem_head? hother)

/-- Texts without two hyphens in a row have none with underscores between them, either. -/
theorem isChain_intercalate {texts : List String}
    (h : ∀ text ∈ texts, text.toList.IsChain NotBothHyphens) :
    ("__".intercalate texts).toList.IsChain NotBothHyphens := by
  induction texts with
  | nil => exact .nil
  | cons first rest ih =>
    have hfirst := h first List.mem_cons_self
    cases rest with
    | nil => simpa using hfirst
    | cons second more =>
      have hmore := ih fun text htext => h text (List.mem_cons_of_mem _ htext)
      have hunderscores : "__".toList.IsChain NotBothHyphens := isChain_of_not_mem (by decide)
      rw [String.intercalate_cons_cons, String.toList_append, String.toList_append]
      refine (hfirst.append hunderscores ?_).append hmore ?_
      · intro c _ other hother _
        obtain rfl : '_' = other := by simpa using hother
        decide
      · intro c hc other _ hhyphen
        subst hhyphen
        simp at hc

/-- No separator is in the fragment of a scenario. -/
theorem not_infix_fragment (scenario : Scenario) :
    ¬ separator.toList <:+: scenario.fragment.toList := by
  rw [← isChain_iff_notBoth]
  refine isChain_intercalate fun text htext => ?_
  obtain ⟨field, -, rfl⟩ := List.mem_map.mp htext
  exact isChain_field field.1 field.2

/-! ## Templates -/

/-- A template is told apart in the name of a test from what stands beside it. -/
structure IsTold (template : String) : Prop where
  /-- It has a name. -/
  ne_empty : template ≠ ""
  /-- It is no path. -/
  noSlash : '/' ∉ template.toList
  /-- It can be part of a path. -/
  noNul : '\x00' ∉ template.toList
  /-- It holds no separator. -/
  noSeparator : ¬ separator.toList <:+: template.toList
  /-- The hyphen in front of it is not the first of two. -/
  first_ne : ∀ c ∈ template.toList.head?, c ≠ '-'
  /-- The separator behind it begins behind it. -/
  last_ne : ∀ c ∈ template.toList.getLast?, c ≠ '-'
  /-- Nothing of it is trimmed away. -/
  last_not_blank : ∀ c ∈ template.toList.getLast?, Text.isBlank c = false

section Front

variable {template : String} (h : IsTold template) (n : Nat)

include h

/-- The front of the names of the logs ends as the template does. -/
theorem IsTold.getLast?_logPrefix :
    (logPrefix n template).toList.getLast? = template.toList.getLast? := by
  have hne : template.toList ≠ [] := by simpa using h.ne_empty
  rw [logPrefix, String.toList_append, List.getLast?_append_of_ne_nil _ hne]

/-- There are no two hyphens in a row in the front of the names of the logs. -/
theorem IsTold.isChain_logPrefix : (logPrefix n template).toList.IsChain NotBothHyphens := by
  have hdigits : '-' ∉ (toString n).toList := fun hmem =>
    absurd (isDigit_of_mem_toString hmem) (by decide)
  have hfront : (toString n ++ "-").toList.IsChain NotBothHyphens := by
    rw [String.toList_append]
    refine (isChain_of_not_mem hdigits).append (.singleton _) fun c hc other _ hhyphen => ?_
    subst hhyphen
    exact absurd (List.mem_of_getLast? hc) hdigits
  rw [logPrefix, String.toList_append]
  exact hfront.append (isChain_iff_notBoth.mpr h.noSeparator) fun _ _ other hother _ =>
    h.first_ne other hother

/-- The front of the names of the logs is read of any name that begins with it and a separator. -/
theorem IsTold.beforeSeparator_logPrefix (rest : List Char) :
    String.ofList (beforeSeparator ((logPrefix n template).toList ++ separator.toList ++ rest))
      = logPrefix n template := by
  rw [beforeSeparator_append (h.isChain_logPrefix n) (h.getLast?_logPrefix n ▸ h.last_ne),
    String.ofList_toList]

/-- Trimming leaves the front of the names of the logs alone. -/
theorem IsTold.trim_logPrefix : Text.trim (logPrefix n template) = logPrefix n template := by
  obtain ⟨digit, rest, hdigit, hcons⟩ := logPrefix_eq_cons n template
  refine trim_eq_self (fun c hc => ?_) (h.getLast?_logPrefix n ▸ h.last_not_blank)
  obtain rfl : digit = c := by simpa [hcons] using hc
  have hid : isBootIdChar digit = true := by
    simp only [Char.isDigit, Bool.and_eq_true, decide_eq_true_eq] at hdigit
    simp only [isBootIdChar, Bool.or_eq_true, Bool.and_eq_true, decide_eq_true_eq]
    exact .inl (.inl hdigit)
  exact (isBootIdChar_plain hid).2

end Front

/-! ## Names of tests that run -/

/-- The directory of a test still says what the front of the names of its logs is, or nothing that
contradicts it: its file holds this front, or is missing, or blank. -/
def Bench.KeepsFront (bench : Bench) (directory : Path) (front : String) : Prop :=
  bench.bytesAt (directory.join prefixName) = .ok (Text.encode front)
    ∨ bench.bytesAt (directory.join prefixName) = .error .notFound
    ∨ ∃ raw, bench.textAt (directory.join prefixName) = .ok raw ∧ Text.trim raw = ""

section Running

variable {template : String} {n : Nat} {scenario : Scenario} {boot : BootId}

/-- The name of a test that runs, from the front of the names of its logs on. -/
theorem toList_runningName (n : Nat) (template : String) (scenario : Scenario) (boot : BootId) :
    (runningName (pendingName n template scenario) boot).toList
      = (logPrefix n template).toList ++ separator.toList
        ++ (scenario.fragment ++ separator ++ boot.text).toList := by
  simp [runningName, pendingName]

/-- There is no NUL in the name of a test. -/
theorem nul_not_mem_runningName (h : '\x00' ∉ template.toList) :
    '\x00' ∉ (runningName (pendingName n template scenario) boot).toList := by
  have hdigits : '\x00' ∉ (toString n).toList := fun hmem =>
    absurd (isDigit_of_mem_toString hmem) (by decide)
  have hfragment : '\x00' ∉ scenario.fragment.toList :=
    low_not_mem_fragment (by decide) (by decide) scenario
  have hboot : '\x00' ∉ boot.text.toList := fun hmem =>
    absurd (List.all_eq_true.mp boot.isId.2 _ hmem) (by decide)
  have hhyphens : '\x00' ∉ "-".toList ∧ '\x00' ∉ separator.toList := by decide
  simp only [runningName, pendingName, logPrefix, String.toList_append, List.mem_append, not_or]
  exact ⟨⟨⟨⟨⟨⟨hdigits, hhyphens.1⟩, h⟩, hhyphens.2⟩, hfragment⟩, hhyphens.2⟩, hboot⟩

/-- A boot that has to be taken from the name of a directory is written back. -/
theorem perform_boundBoot_lost {q : Path} {name : String} {bench : Bench} (hname : IsPlain name)
    (hboot : bootOfName? name = some boot)
    (hlost : bench.perform (storedBoot (q.join name)) = (.ok none, bench)) :
    bench.perform (boundBoot (q.join name))
      = bench.perform (do bindTo (q.join name) boot; return boot) := by
  rw [boundBoot, Bench.perform_bind_ok hlost]
  simp only [directoryName_join q hname]
  rw [Bench.perform_bind_ok (Bench.perform_ofExcept bench _)]
  simp only [hboot]

/-- The front of the names of the logs is found whether it is written down or not. -/
theorem IsTold.perform_logFrontOf (h : IsTold template) {q : Path} {bench : Bench}
    (hkeeps : bench.KeepsFront (q.join (runningName (pendingName n template scenario) boot))
      (logPrefix n template)) :
    bench.perform (logFrontOf (q.join (runningName (pendingName n template scenario) boot)))
      = (.ok (logPrefix n template), bench) := by
  have hplain := isPlain_runningName (isPlain_pendingName h.noSlash n scenario) boot
  have hne : logPrefix n template ≠ "" := by
    obtain ⟨digit, rest, -, hcons⟩ := logPrefix_eq_cons n template
    rintro hempty
    simp [hempty] at hcons
  -- Where nothing is stored, the front is taken from the name.
  have hnamed : bench.perform (storedFront
        (q.join (runningName (pendingName n template scenario) boot))) = (.ok none, bench) →
      bench.perform (logFrontOf (q.join (runningName (pendingName n template scenario) boot)))
        = (.ok (logPrefix n template), bench) := by
    intro hnone
    rw [logFrontOf, Bench.perform_bind_ok hnone]
    simp only [directoryName_join q hplain]
    rw [Bench.perform_bind_ok (Bench.perform_ofExcept bench _), toList_runningName,
      h.beforeSeparator_logPrefix]
    rfl
  rcases hkeeps with hwritten | hmissing | ⟨raw, hraw, hblank⟩
  · have hstored : bench.perform (storedFront
        (q.join (runningName (pendingName n template scenario) boot)))
          = (.ok (some (logPrefix n template)), bench) := by
      rw [perform_storedFront, Bench.textAt, hwritten]
      simp only [Text.decode?_encode, h.trim_logPrefix, if_neg hne]
    rw [logFrontOf, Bench.perform_bind_ok hstored]
    rfl
  · refine hnamed ?_
    rw [perform_storedFront, Bench.textAt, hmissing]
  · refine hnamed ?_
    rw [perform_storedFront, hraw]
    simp only [hblank, if_true]

/-- The name of a test that runs is that of one entry, and the ordinal, the boot id and the front of
the names of the logs are read of it as they were written into it. -/
theorem names_decode (h : IsTold template) (hn : n < Text.countLimit) (scenario : Scenario)
    (boot : BootId) :
    let name := runningName (pendingName n template scenario) boot
    (IsPlain name ∧ '\x00' ∉ name.toList ∧ Path.ofText name = ⟨[name]⟩
      ∧ (∀ c ∈ ['/', '\x00', '.'], c ∉ scenario.fragment.toList)
      ∧ ¬ separator.toList <:+: scenario.fragment.toList)
    ∧ ordinal? name = some n
    ∧ (bootOfName? name = some boot ∧ ∀ (q : Path) (bench : Bench),
      bench.perform (storedBoot (q.join name)) = (.ok none, bench) →
      bench.perform (boundBoot (q.join name))
        = bench.perform (do bindTo (q.join name) boot; return boot))
    ∧ ∀ (q : Path) (bench : Bench), bench.KeepsFront (q.join name) (logPrefix n template) →
      bench.perform (logFrontOf (q.join name)) = (.ok (logPrefix n template), bench) := by
  intro name
  have hplain : IsPlain name := isPlain_runningName (isPlain_pendingName h.noSlash n scenario) boot
  have hboot : bootOfName? name = some boot := bootOfName?_runningName _ boot
  have hfragment : ∀ c ∈ ['/', '\x00', '.'], c ∉ scenario.fragment.toList := by
    intro c hc
    have hlow : c < '0' ∧ c ≠ '-' := by
      simp only [List.mem_cons, List.not_mem_nil, or_false] at hc
      rcases hc with rfl | rfl | rfl <;> decide
    exact low_not_mem_fragment hlow.1 hlow.2 scenario
  have hordinal : ordinal? name = some n := by
    refine ordinal?_of_logPrefix hn template
      (separator.toList ++ (scenario.fragment ++ separator ++ boot.text).toList) ?_
    rw [toList_runningName, List.append_assoc]
  exact ⟨⟨hplain, nul_not_mem_runningName h.noNul, Path.ofText_of_not_mem hplain.noSlash,
      hfragment, not_infix_fragment scenario⟩, hordinal,
    ⟨hboot, fun q bench => perform_boundBoot_lost hplain hboot⟩,
    fun q bench => h.perform_logFrontOf⟩

end Running

/-- A scenario with a column that has neither a name nor a value. -/
def unnamedScenario : Scenario := ⟨[("", ""), ("Mode.x", "S2/--idle")]⟩

/-- The name of a test with this scenario that runs, with the largest ordinal. -/
def unnamedName : String := "18446744073709551615-s2.x---__mode_x-s2_idle--b00t"

/-- A bench with the directory of the test, in which the front of the names of its logs is lost. -/
def blankBench : Bench where
  files := .dir [("running", .dir [(unnamedName, .dir [
    (prefixName, .file (Text.encode "\n") false)])])]
  here := []
  home := .ofText "/"
  searchPath := []
  color := false

set_option maxRecDepth 100000 in
/-- Three hyphens follow the template, and the ordinal is the largest that can be read. -/
theorem names_decode_unnamed :
    IsTold "s2.x" ∧ 18446744073709551615 < Text.countLimit
    ∧ runningName (pendingName 18446744073709551615 "s2.x" unnamedScenario) ⟨"b00t", by decide⟩
      = unnamedName
    ∧ ordinal? unnamedName = some 18446744073709551615
    ∧ bootOfName? unnamedName = some ⟨"b00t", by decide⟩
    ∧ blankBench.perform (logFrontOf ((Path.ofText "running").join unnamedName))
      = (.ok "18446744073709551615-s2.x", blankBench) := by
  have hfirst : "s2.x".toList.head? = some 's' := by decide +kernel
  have hlast : "s2.x".toList.getLast? = some 'x' := by decide +kernel
  have htold : IsTold "s2.x" := by
    refine ⟨by decide, by decide, by decide, by decide, ?_, ?_, ?_⟩
    · rw [hfirst]
      rintro c ⟨⟩
      decide
    · rw [hlast]
      rintro c ⟨⟩
      decide
    · rw [hlast]
      rintro c ⟨⟩
      decide
  have hlimit : 18446744073709551615 < Text.countLimit := by decide
  have hname : runningName (pendingName 18446744073709551615 "s2.x" unnamedScenario)
      ⟨"b00t", by decide⟩ = unnamedName := by decide +kernel
  have hfront : logPrefix 18446744073709551615 "s2.x" = "18446744073709551615-s2.x" := by
    decide +kernel
  have hdecode := names_decode htold hlimit unnamedScenario ⟨"b00t", by decide⟩
  simp only [hname, hfront] at hdecode
  obtain ⟨-, hordinal, ⟨hboot, -⟩, hlogs⟩ := hdecode
  refine ⟨htold, hlimit, hname, hordinal, hboot, hlogs _ _ (.inr (.inr ⟨"\n", ?_, ?_⟩))⟩
  · decide +kernel
  · decide +kernel

end BootTrial
