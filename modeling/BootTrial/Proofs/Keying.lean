import BootTrial.Proofs.Binding
import BootTrial.Proofs.Conversing
import BootTrial.Proofs.Folding

/-!
# Hotkeys at the terminal

A hotkey of a compiled menu is resolved to the entry for which it stands, and an operator whose
answers are written down chooses this entry with it. An operator at a terminal types it on a line of
its own, and there two things can come in between. White space at the ends of a line is left out, so
that nothing is left of a hotkey that is white space, and the number of an entry is no hotkey. A
hotkey that meets with one of them is shadowed (`Menu.Shadowed`); the line of any other chooses what
the hotkey stands for (`Menu.ofResponses_keyed`).
-/

namespace BootTrial

open Text (Bytes)

/-! ## The line of a key -/

/-- An octet of a character is its code point, or has its high bit set. -/
theorem Text.toNat_of_mem_utf8EncodeChar {c : Char} {b : UInt8}
    (h : b ∈ String.utf8EncodeChar c) : b.toNat = c.toNat ∨ 128 ≤ b.toNat := by
  obtain ⟨hmax, -⟩ := toNat_bounds c
  change b.toNat = c.val.toNat ∨ _
  unfold String.utf8EncodeChar at h
  simp only at h
  generalize c.val.toNat = v at hmax h ⊢
  have hoctet : ∀ n, n < 256 → (UInt8.ofNat n).toNat = n := fun n hn => by
    rw [UInt8.toNat_ofNat', Nat.mod_eq_of_lt hn]
  split_ifs at h <;> simp only [List.mem_cons, List.not_mem_nil, or_false] at h
  · exact .inl (by rw [h, hoctet v (by omega)])
  -- Each octet of a longer encoding is a remainder with at least 128 added to it.
  · rcases h with rfl | rfl <;> exact .inr (by rw [hoctet _ (by omega)]; omega)
  · rcases h with rfl | rfl | rfl <;> exact .inr (by rw [hoctet _ (by omega)]; omega)
  · rcases h with rfl | rfl | rfl | rfl <;> exact .inr (by rw [hoctet _ (by omega)]; omega)

/-- Among the octets of a character there is a line feed only if the character is one. -/
theorem Text.eq_newline_of_lineFeed_mem {c : Char} (h : Table.lineFeed ∈ String.utf8EncodeChar c) :
    c = '\n' := by
  have hvalue : c.toNat = 10 := by
    rcases toNat_of_mem_utf8EncodeChar h with hsame | hhigh
    · exact hsame.symm
    · exact absurd hhigh (by decide)
  rw [← Char.ofNat_toNat c, hvalue]

/-- The octets of a line that consists of a character. -/
def keyLine (key : Char) : Bytes :=
  Text.encode (String.singleton key ++ "\n")

/-- They are those of the character and the line feed behind it. -/
theorem keyLine_eq (key : Char) : keyLine key = String.utf8EncodeChar key ++ [Table.lineFeed] := by
  rw [keyLine, Text.encode, String.toList_append, String.toList_singleton, List.flatMap_append,
    List.flatMap_singleton]
  rfl

/-- The line of a character that is no line feed is the first to be read. -/
theorem inputLines_keyLine {key : Char} (h : key ≠ '\n') (more : Bytes) :
    inputLines (keyLine key ++ more) = keyLine key :: inputLines more := by
  have hfree : Table.lineFeed ∉ String.utf8EncodeChar key := fun hmem =>
    h (Text.eq_newline_of_lineFeed_mem hmem)
  rw [keyLine_eq, List.append_assoc, List.singleton_append, inputLines_append hfree]

/-- The line of a character says the character, or nothing if this is white space. -/
theorem lineText?_keyLine (key : Char) : lineText? (keyLine key)
    = some (if Text.isBlank key = true then "" else String.singleton key) := by
  have hnewline : Text.isBlank '\n' = true := by decide
  have htext : (String.singleton key ++ "\n").toList = [key, '\n'] := by
    rw [String.toList_append, String.toList_singleton]
    rfl
  rw [lineText?, keyLine, Text.decode?_encode, Option.map_some, Text.trim, Text.dropLeading, htext]
  split
  · next hblank => simp [Text.dropTrailing, hblank, hnewline]
  · next hblank => simp [Text.dropTrailing, hblank, hnewline]

/-- The line of a character that is white space is read as blank lines. -/
theorem inputLines_blank {key : Char} (h : Text.isBlank key = true) (more : Bytes) :
    ∃ front, inputLines (keyLine key ++ more) = front ++ inputLines more
      ∧ ∀ line ∈ front, lineText? line = some "" := by
  by_cases hnewline : key = '\n'
  · -- A line feed ends a line in front of the one that it stands on.
    subst hnewline
    have hempty : lineText? [Table.lineFeed] = some "" := by decide +kernel
    exact ⟨[[Table.lineFeed], [Table.lineFeed]], rfl, by simp [hempty]⟩
  · refine ⟨[keyLine key], inputLines_keyLine hnewline more, ?_⟩
    simp only [List.mem_singleton, forall_eq, lineText?_keyLine, if_pos h]

/-! ## What a key chooses -/

namespace Menu

variable {menu : Menu} {key : Char} {description : String}

/-- The line of a hotkey that stands for a description is taken for something else. -/
inductive Shadowed (menu : Menu) (key : Char) (description : String) : Prop
  /-- It is a blank line. -/
  | blank (hblank : Text.isBlank key = true)
  /-- It is the number of an entry with another description. -/
  | number {n : Nat} {entry : Menu.Entry} (hspells : Text.Spells (String.singleton key) (n + 1))
      (hentry : menu.entries[n]? = some entry) (hother : entry.description ≠ description)

/-- A hotkey is resolved to the entry of the description for which it stands. -/
theorem Holds.choice?_key {conditions : Conditions} {rows : List Response}
    (h : menu.Holds conditions rows) (hkey : (key, description) ∈ menu.hotkeys) :
    ∃ entry, menu.choice? (String.singleton key) = some entry
      ∧ entry.description = description := by
  have hlookup := (h.sorted.lookup_eq_some key description).mpr hkey
  obtain ⟨hlisted, hmarked⟩ := (h.lookup_iff key description).mp hlookup
  obtain ⟨entry, hentry, hdescription⟩ := List.mem_map.mp hlisted
  have hchoice : menu.choice? (String.singleton key) = menu.entryFor? description := by
    rw [choice?, String.toList_singleton]
    simp only [descriptionOfKey?, foldKey_of_mem_hotkeys hmarked, Option.bind_some, hlookup,
      Option.getD_some]
  rw [hchoice]
  cases hfound : menu.entryFor? description with
  | some found => exact ⟨found, rfl, of_decide_eq_true (List.find?_some hfound :)⟩
  | none => exact absurd (decide_eq_true hdescription) (List.find?_eq_none.mp hfound entry hentry)

/-- A hotkey that is not shadowed means an entry with the description for which it stands. -/
theorem means_of_not_shadowed {entry : Menu.Entry}
    (hchoice : menu.choice? (String.singleton key) = some entry)
    (hdescription : entry.description = description) (h : ¬ menu.Shadowed key description) :
    ∃ meant, menu.Means (String.singleton key) meant ∧ meant.description = description := by
  by_cases hnumber : ∃ n numbered, Text.Spells (String.singleton key) (n + 1)
    ∧ menu.entries[n]? = some numbered
  · obtain ⟨n, numbered, hspells, hentry⟩ := hnumber
    exact ⟨numbered, .number hspells hentry,
      by_contra fun hother => h (.number hspells hentry hother)⟩
  · refine ⟨entry, .choice (fun n hspells => ?_) hchoice, hdescription⟩
    by_contra hlt
    exact hnumber ⟨n, _, hspells, List.getElem?_eq_getElem (Nat.not_le.mp hlt)⟩

end Menu

namespace Operator

variable {menu : Menu} {bench : Bench} {more : Bytes}

/-- An operator whose answers are written down chooses the entry to which the next one is resolved.
-/
theorem perform_scripted {answer : String} {answers : List String} {entry : Menu.Entry}
    (title : String) (hanswers : bench.answers = answer :: answers)
    (hchoice : menu.choice? answer = some entry) :
    bench.perform (scripted.choose title menu)
      = (.ok (some entry.description), { bench with answers := answers }) := by
  have htaken : bench.perform (liftM Bench.takeAnswer : Work (Option String))
      = (.ok (some answer), { bench with answers := answers }) := by
    rw [Bench.perform_lift, Bench.takeAnswer, StateT.run_bind, StateT.run_get, pure_bind, hanswers]
    rfl
  unfold scripted
  simp only
  rw [Bench.perform_bind_ok htaken]
  simp only [hchoice]
  rfl

/-- The line of a character that means an entry chooses it, and what follows is not read. -/
theorem prompt_chooses {key : Char} {entry : Menu.Entry} (title : String)
    (hreadable : bench.readable = keyLine key ++ more) (hblank : Text.isBlank key = false)
    (hmeans : menu.Means (String.singleton key) entry) :
    ∃ after, bench.perform (prompt.choose title menu) = (.ok (some entry.description), after)
      ∧ after.readable = more := by
  have hnewline : key ≠ '\n' := by
    rintro rfl
    cases hblank
  have hlines : inputLines bench.readable = [] ++ (keyLine key :: inputLines more) := by
    rw [hreadable, inputLines_keyLine hnewline, List.nil_append]
  have hline : lineText? (keyLine key) = some (String.singleton key) := by
    rw [lineText?_keyLine, hblank]
    rfl
  obtain ⟨after, hconverses⟩ := converses_of_decides title hlines (by simp)
    (.chosen hline (by simp [← String.toList_inj]) hmeans)
  exact ⟨after, hconverses.outcome, hconverses.readable.trans (flatten_inputLines more)⟩

/-- What is chosen in front of some octets is chosen by a line in front of them that says something.
-/
theorem not_chosen_of_blank {front : List Bytes} {chosen : String} {after : Bench} (title : String)
    (hlines : inputLines bench.readable = front ++ inputLines more)
    (hfront : ∀ line ∈ front, lineText? line = some "")
    (hperform : bench.perform (prompt.choose title menu) = (.ok (some chosen), after)) :
    after.readable ≠ more := by
  intro hmore
  obtain ⟨passed, left, rest, choice, last, hconverses⟩ := exists_converses menu title bench
  have hsame := hconverses.outcome.symm.trans hperform
  obtain ⟨hchoice, rfl⟩ := Prod.mk.inj hsame
  obtain ⟨bodies, tail, hsplit, hread⟩ := hconverses.lines
  rw [← hsplit.inputLines_eq, hlines] at hread
  have hrest := hconverses.readable.symm.trans hmore
  cases hconverses.decides with
  | ended => cases hchoice
  | unreadable => cases hchoice
  | @chosen line _ text _ hline htext hmeans =>
    have hsays : lineText? line ≠ some "" := fun hblank =>
      htext (Option.some.inj (hline.symm.trans hblank))
    -- A line behind those in front would be read from the octets that have not been read.
    have hbehind : ∀ between, inputLines more ≠ between ++ line :: rest := by
      intro between hmoreLines
      have hoctets := congrArg (List.length ∘ List.flatten) hmoreLines
      simp only [Function.comp_apply, List.flatten_append, List.flatten_cons, List.length_append,
        flatten_inputLines, hrest] at hoctets
      have hnothing : line = [] := List.length_eq_zero_iff.mp (by omega)
      exact hsays (hnothing ▸ by decide)
    rcases List.append_eq_append_iff.mp hread with ⟨between, -, hmoreLines⟩ | ⟨own, hfrontLines, hown⟩
    · exact hbehind between hmoreLines
    · cases own with
      | nil => exact hbehind [] hown.symm
      | cons first others =>
        obtain ⟨rfl, -⟩ := List.cons.inj hown
        exact hsays (hfront line (by simp [hfrontLines]))

end Operator

/-- Every hotkey of a menu that has been compiled is resolved to the entry for which it stands, and
an operator whose answers are written down chooses it. At a terminal the line of the hotkey chooses
it, and no more than this line is read, unless the hotkey is white space or the number of another
entry. -/
theorem Menu.ofResponses_keyed {compiled : Bench} {rows : List Response} {conditions : Conditions}
    {schema : Path} {menu : Menu}
    (h : (compiled.perform (ofResponses rows conditions schema)).1 = .ok menu) {key : Char}
    {description : String} (hkey : (key, description) ∈ menu.hotkeys) :
    ∃ entry, menu.choice? (String.singleton key) = some entry ∧ entry.description = description
      ∧ (∀ title (bench : Bench) answers, bench.answers = String.singleton key :: answers →
        (bench.perform (Operator.scripted.choose title menu)).1 = .ok (some description))
      ∧ ∀ title (bench : Bench) more, bench.readable = keyLine key ++ more →
        ((∃ after, bench.perform (Operator.prompt.choose title menu) = (.ok (some description), after)
          ∧ after.readable = more) ↔ ¬ menu.Shadowed key description) := by
  obtain ⟨entry, hchoice, hdescription⟩ := (holds_of_ofResponses h).choice?_key hkey
  refine ⟨entry, hchoice, hdescription, fun title bench answers hanswers => ?_,
    fun title bench more hreadable => ⟨?_, fun hclear => ?_⟩⟩
  · rw [Operator.perform_scripted title hanswers hchoice, hdescription]
  · rintro ⟨after, hperform, hmore⟩ hshadowed
    by_cases hblank : Text.isBlank key = true
    · obtain ⟨front, hlines, hfront⟩ := inputLines_blank hblank more
      rw [← hreadable] at hlines
      exact Operator.not_chosen_of_blank title hlines hfront hperform hmore
    · cases hshadowed with
      | blank hshadowed => exact hblank hshadowed
      | number hspells hentry hother =>
        obtain ⟨last, hchosen, -⟩ := Operator.prompt_chooses title hreadable
          (Bool.eq_false_iff.mpr hblank) (.number hspells hentry)
        have hsame := congrArg Prod.fst (hchosen.symm.trans hperform)
        exact hother (Option.some.inj (Except.ok.inj hsame))
  · have hblank : Text.isBlank key = false :=
      Bool.eq_false_iff.mpr fun hblank => hclear (.blank hblank)
    obtain ⟨meant, hmeans, rfl⟩ := means_of_not_shadowed hchoice hdescription hclear
    exact Operator.prompt_chooses title hreadable hblank hmeans

/-- A bench at whose terminal a line is typed. -/
def keyedBench (key : Char) : Bench :=
  { tableBench with input := keyLine key }

/-- A letter chooses its description, and a digit does not if another entry has the number. -/
theorem Menu.ofResponses_keyed_digit :
    (∃ after, (keyedBench 'd').perform (Operator.prompt.choose "Done?" digitMenu)
        = (.ok (some "Drop [d]"), after) ∧ after.readable = [])
      ∧ (∃ entry, digitMenu.choice? "2" = some entry ∧ entry.description = "Twice [2]")
      ∧ ¬ ∃ after, (keyedBench '2').perform (Operator.prompt.choose "Done?" digitMenu)
        = (.ok (some "Twice [2]"), after) ∧ after.readable = [] := by
  have hletter : ('d', "Drop [d]") ∈ digitMenu.hotkeys := by decide
  have hdigit : ('2', "Twice [2]") ∈ digitMenu.hotkeys := by decide
  have hreadable : ∀ key, (keyedBench key).readable = keyLine key ++ [] := fun key =>
    (List.append_nil _).symm
  obtain ⟨-, -, -, -, hchosen⟩ := ofResponses_keyed ofResponses_digitResponses hletter
  obtain ⟨entry, hchoice, hdescription, -, hmissed⟩ :=
    ofResponses_keyed ofResponses_digitResponses hdigit
  refine ⟨(hchosen "Done?" _ [] (hreadable 'd')).mpr fun hshadowed => ?_,
    ⟨entry, hchoice, hdescription⟩, fun hreached => ?_⟩
  · cases hshadowed with
    | blank hblank => cases hblank
    | number hspells =>
      have hnone : Text.count? "d" = none := by decide +kernel
      rw [show String.singleton 'd' = "d" from rfl, ← Text.count?_eq_some_iff, hnone] at hspells
      cases hspells
  · refine (hmissed "Done?" _ [] (hreadable '2')).mp hreached (.number (n := 1) ?_ rfl (by decide))
    exact Text.count?_eq_some_iff.mp (by decide +kernel)

end BootTrial
