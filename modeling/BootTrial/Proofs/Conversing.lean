import BootTrial.Operator.Prompt
import BootTrial.Proofs.Compiling
import BootTrial.Proofs.Decoding
import BootTrial.Proofs.Parties

/-!
# Conversations at the terminal

What comes of a menu that is put in front of an operator at a terminal, for every row of octets that
the terminal delivers. The octets are split into lines (`IsSplit`); each line is passed over, or it
decides what is chosen (`Menu.PassesOver`, `Menu.Decides`). The first line that decides is the last
that is read, and the operator has been asked once for every line that has been read, or for the end
of the input, and has been told of every line that meant nothing (`Operator.prompt_converses`).

What a line means is said without the reader of numbers: a decimal spelling of the number of an
entry means this entry, and any other text means what the menu resolves it to (`Menu.Means`).
-/

namespace BootTrial

open Text (Bytes)

/-! ## Numbers -/

namespace Text

/-- A row of digits has a value that is a count. -/
structure IsNumeral (digits : List Char) (n : Nat) : Prop where
  /-- There are digits. -/
  nonempty : digits ≠ []
  /-- There is nothing else. -/
  isDigit : ∀ c ∈ digits, c.isDigit = true
  /-- Their value is this. -/
  value : Nat.ofDigitChars 10 digits 0 = n
  /-- The value is below the limit. -/
  lt : n < countLimit

/-- A text spells a count: a numeral, with at most one plus sign in front. -/
def Spells (text : String) (n : Nat) : Prop :=
  ∃ digits, IsNumeral digits n ∧ (text.toList = digits ∨ text.toList = '+' :: digits)

/-- What is read as a row of digits is one. -/
theorem isDigit_of_digitsValue? {digits : List Char} {n value : Nat}
    (h : digitsValue? n digits = some value) : ∀ c ∈ digits, c.isDigit = true := by
  induction digits generalizing n with
  | nil => simp
  | cons c rest ih =>
    obtain ⟨d, hd, hrest⟩ := Option.bind_eq_some_iff.mp h
    have hdigit : '0' ≤ c ∧ c ≤ '9' := by
      by_contra hc
      rw [digitValue?, if_neg hc] at hd
      cases hd
    refine List.forall_mem_cons.mpr ⟨?_, ih hrest⟩
    rw [Char.isDigit, Bool.and_eq_true, decide_eq_true_eq, decide_eq_true_eq]
    exact hdigit

/-- The digits that are read to the end, if they have a value that is a count. -/
theorem readDigits_eq_some_iff {digits : List Char} {n : Nat} :
    (if digits.isEmpty then none else (digitsValue? 0 digits).filter (· < countLimit)) = some n
      ↔ IsNumeral digits n := by
  constructor
  · intro h
    split at h
    · cases h
    next hsome =>
    obtain ⟨hvalue, hlt⟩ := Option.filter_eq_some_iff.mp h
    have hdigits := isDigit_of_digitsValue? hvalue
    rw [digitsValue?_of_isDigit hdigits] at hvalue
    exact ⟨by simpa using hsome, hdigits, Option.some.inj hvalue, of_decide_eq_true hlt⟩
  · rintro ⟨hsome, hdigits, rfl, hlt⟩
    rw [if_neg (by simpa using hsome), digitsValue?_of_isDigit hdigits]
    simp [hlt]

/-- A count is read of exactly the texts that spell it. -/
theorem count?_eq_some_iff {text : String} {n : Nat} : count? text = some n ↔ Spells text n := by
  -- A plus sign is no digit, so there is one way only to take the text apart.
  have hplus : ∀ rest, ¬ IsNumeral ('+' :: rest) n := fun rest h =>
    absurd (h.isDigit '+' List.mem_cons_self) (by decide)
  unfold count? Spells
  simp only [readDigits_eq_some_iff]
  split
  · next rest htext =>
    rw [htext]
    constructor
    · exact fun h => ⟨rest, h, .inr rfl⟩
    · rintro ⟨digits, hnumeral, hdigits | hdigits⟩
      · exact absurd (hdigits ▸ hnumeral) (hplus rest)
      · exact (List.cons.inj hdigits).2 ▸ hnumeral
  · next hother =>
    constructor
    · exact fun h => ⟨_, h, .inl rfl⟩
    · rintro ⟨digits, hnumeral, hdigits | hdigits⟩
      · exact hdigits ▸ hnumeral
      · exact absurd hdigits (hother digits)

/-- The decimal numeral of a count spells it. -/
theorem spells_toString {n : Nat} (h : n < countLimit) : Spells (toString n) n :=
  count?_eq_some_iff.mp (count?_toString h)

/-- A text spells one count at most. -/
theorem Spells.unique {text : String} {n m : Nat} (h : Spells text n) (h' : Spells text m) :
    n = m :=
  Option.some.inj ((count?_eq_some_iff.mpr h).symm.trans (count?_eq_some_iff.mpr h'))

end Text

/-! ## What a text means on a menu -/

namespace Menu

variable {menu : Menu} {text : String} {entry : Menu.Entry}

/-- What a text from the operator means on a menu. -/
inductive Means (menu : Menu) (text : String) (entry : Menu.Entry) : Prop
  /-- It spells the number of an entry, counted from 1. -/
  | number {n : Nat} (hspells : Text.Spells text (n + 1)) (hentry : menu.entries[n]? = some entry)
  /-- It spells the number of no entry, and is a hotkey or a description. -/
  | choice (hnone : ∀ n, Text.Spells text (n + 1) → menu.entries.length ≤ n)
      (hchoice : menu.choice? text = some entry)

/-- The entry with a number is found by a spelling of this number. -/
theorem numbered?_eq_some_iff : menu.numbered? text = some entry
    ↔ ∃ n, Text.Spells text (n + 1) ∧ menu.entries[n]? = some entry := by
  unfold numbered?
  constructor
  · intro h
    split at h
    · next n hcount => exact ⟨n, Text.count?_eq_some_iff.mp hcount, h⟩
    · cases h
  · rintro ⟨n, hspells, hentry⟩
    rw [Text.count?_eq_some_iff.mpr hspells]
    exact hentry

/-- The entry that is picked for a text is what the text means. -/
theorem pick?_eq_some_iff : menu.pick? text = some entry ↔ menu.Means text entry := by
  rw [pick?, Option.or_eq_some_iff]
  constructor
  · rintro (hnumber | ⟨hnone, hchoice⟩)
    · obtain ⟨n, hspells, hentry⟩ := numbered?_eq_some_iff.mp hnumber
      exact .number hspells hentry
    · refine .choice (fun n hspells => ?_) hchoice
      by_contra hlt
      rw [numbered?_eq_some_iff.mpr
        ⟨n, hspells, List.getElem?_eq_getElem (Nat.not_le.mp hlt)⟩] at hnone
      cases hnone
  · rintro (⟨hspells, hentry⟩ | ⟨hnone, hchoice⟩)
    · exact .inl (numbered?_eq_some_iff.mpr ⟨_, hspells, hentry⟩)
    · refine .inr ⟨Option.eq_none_iff_forall_not_mem.mpr fun other hother => ?_, hchoice⟩
      obtain ⟨n, hspells, hentry⟩ := numbered?_eq_some_iff.mp hother
      obtain ⟨hlt, -⟩ := List.getElem?_eq_some_iff.mp hentry
      exact absurd (hnone n hspells) (Nat.not_le.mpr hlt)

/-- A text means one entry at most. -/
theorem Means.unique {other : Menu.Entry} (h : menu.Means text entry) (h' : menu.Means text other) :
    entry = other :=
  Option.some.inj ((pick?_eq_some_iff.mpr h).symm.trans (pick?_eq_some_iff.mpr h'))

/-- What a text means is on the menu. -/
theorem Means.mem_entries (h : menu.Means text entry) : entry ∈ menu.entries := by
  cases h with
  | number _ hentry => exact List.mem_of_getElem? hentry
  | choice _ hchoice => exact List.mem_of_find?_eq_some hchoice

/-- The number of an entry means the entry. -/
theorem means_number {n : Nat} (hentry : menu.entries[n]? = some entry)
    (hn : n + 1 < Text.countLimit) : menu.Means (toString (n + 1)) entry :=
  .number (Text.spells_toString hn) hentry

end Menu

/-! ## Lines -/

/-- Octets are split into lines that are ended by a line feed each and hold no other, and a rest that
holds none. -/
structure IsSplit (octets : Bytes) (bodies : List Bytes) (tail : Bytes) : Prop where
  /-- Together they are the octets. -/
  octets_eq : octets = bodies.flatMap (· ++ [Table.lineFeed]) ++ tail
  /-- There is no line feed in a line. -/
  bodies : ∀ body ∈ bodies, Table.lineFeed ∉ body
  /-- There is no line feed in the rest. -/
  tail : Table.lineFeed ∉ tail

/-- The lines of octets that are split, with what ends them. A rest without anything is no line. -/
def linesOf (bodies : List Bytes) (tail : Bytes) : List Bytes :=
  bodies.map (· ++ [Table.lineFeed]) ++ if tail = [] then [] else [tail]

/-- The first line ends with the first line feed. -/
theorem inputLines_append {body : Bytes} (h : Table.lineFeed ∉ body) (rest : Bytes) :
    inputLines (body ++ Table.lineFeed :: rest)
      = (body ++ [Table.lineFeed]) :: inputLines rest := by
  induction body with
  | nil => rw [List.nil_append, inputLines, if_pos rfl, List.nil_append]
  | cons b body ih =>
    rw [List.mem_cons, not_or] at h
    obtain ⟨hb, hbody⟩ := h
    rw [List.cons_append, inputLines, if_neg (Ne.symm hb), ih hbody, List.cons_append]

/-- Octets without a line feed are one line, if there are any. -/
theorem inputLines_tail {tail : Bytes} (h : Table.lineFeed ∉ tail) :
    inputLines tail = if tail = [] then [] else [tail] := by
  induction tail with
  | nil => rfl
  | cons b tail ih =>
    rw [List.mem_cons, not_or] at h
    obtain ⟨hb, htail⟩ := h
    rw [inputLines, if_neg (Ne.symm hb), ih htail, if_neg (List.cons_ne_nil b tail)]
    cases tail with
    | nil => rfl
    | cons b' tail => rfl

/-- Octets are read by the lines into which they are split. -/
theorem IsSplit.inputLines_eq {octets : Bytes} {bodies : List Bytes} {tail : Bytes}
    (h : IsSplit octets bodies tail) : inputLines octets = linesOf bodies tail := by
  obtain ⟨rfl, hbodies, htail⟩ := h
  induction bodies with
  | nil => exact inputLines_tail htail
  | cons body rest ih =>
    obtain ⟨hbody, hrest⟩ := List.forall_mem_cons.mp hbodies
    calc inputLines ((body :: rest).flatMap (· ++ [Table.lineFeed]) ++ tail)
        = inputLines (body ++ Table.lineFeed :: (rest.flatMap (· ++ [Table.lineFeed]) ++ tail)) := by
          simp
      _ = (body ++ [Table.lineFeed]) :: linesOf rest tail := by
          rw [inputLines_append hbody, ih hrest]
      _ = linesOf (body :: rest) tail := rfl

/-- All octets can be split. -/
theorem exists_isSplit (octets : Bytes) : ∃ bodies tail, IsSplit octets bodies tail := by
  induction octets with
  | nil => exact ⟨[], [], rfl, by simp, by simp⟩
  | cons b rest ih =>
    obtain ⟨bodies, tail, rfl, hbodies, htail⟩ := ih
    by_cases hb : b = Table.lineFeed
    · -- An empty line comes first.
      exact ⟨[] :: bodies, tail, by simp [hb], by simpa using hbodies, htail⟩
    · cases bodies with
      | nil => exact ⟨[], b :: tail, rfl, by simp, by simp [Ne.symm hb, htail]⟩
      | cons body bodies =>
        obtain ⟨hbody, hrest⟩ := List.forall_mem_cons.mp hbodies
        refine ⟨(b :: body) :: bodies, tail, by simp, ?_, htail⟩
        exact List.forall_mem_cons.mpr ⟨by simp [Ne.symm hb, hbody], hrest⟩

/-- The lines are the octets. -/
theorem flatten_inputLines (octets : Bytes) : (inputLines octets).flatten = octets := by
  obtain ⟨bodies, tail, hsplit⟩ := exists_isSplit octets
  rw [hsplit.inputLines_eq, linesOf, List.flatten_append, ← List.flatMap_def, hsplit.octets_eq]
  split
  · next hnone => rw [hnone, List.flatten_nil]
  · rw [List.flatten_singleton]

/-! ## A conversation -/

/-- What a line says, without the white space at its ends, if it is text. -/
def lineText? (line : Bytes) : Option String :=
  (Text.decode? line).map Text.trim

namespace Menu

/-- A line is passed over: it is blank, or it means nothing. -/
def PassesOver (menu : Menu) (line : Bytes) : Prop :=
  ∃ text, lineText? line = some text ∧ (text = "" ∨ ∀ entry, ¬ menu.Means text entry)

/-- What lines that begin with none to pass over come to, and which of them are left. -/
inductive Decides (menu : Menu) : List Bytes → Except FileFault (Option String) → List Bytes → Prop
  /-- There are no lines: nothing is chosen. -/
  | ended : Decides menu [] (.ok none) []
  /-- The first line is not text. -/
  | unreadable {line : Bytes} {rest : List Bytes} (hline : lineText? line = none) :
      Decides menu (line :: rest) (.error .notText) rest
  /-- The first line means an entry, which is chosen. -/
  | chosen {line : Bytes} {rest : List Bytes} {text : String} {entry : Menu.Entry}
      (hline : lineText? line = some text) (htext : text ≠ "") (hmeans : menu.Means text entry) :
      Decides menu (line :: rest) (.ok (some entry.description)) rest

end Menu

/-- What the operator is told of a line that is passed over: nothing of a blank one, and of another
that it is not known. -/
def replyTo (color : Bool) (line : Bytes) : String :=
  match lineText? line with
  | some text => if text = "" then "" else complaint color text
  | none => ""

/-- What is written while some lines are passed over, up to the question behind them. -/
def questions (color : Bool) (passed : List Bytes) : String :=
  String.join (passed.map fun line => promptText color ++ replyTo color line) ++ promptText color

/-- Behind a line that is passed over the conversation begins anew. -/
theorem converse_passed {menu : Menu} {line : Bytes} (color : Bool) (h : menu.PassesOver line)
    (rest : List Bytes) : converse color menu (line :: rest)
      = (converse color menu rest).after (promptText color ++ replyTo color line) := by
  obtain ⟨text, hline, hpassed⟩ := h
  obtain ⟨raw, hraw, rfl⟩ := Option.map_eq_some_iff.mp hline
  rw [converse.eq_def, replyTo, hline]
  simp only [hraw]
  by_cases hblank : Text.trim raw = ""
  · rw [if_pos hblank, if_pos hblank, String.append_empty]
  · have hnone : menu.pick? (Text.trim raw) = none := by
      refine Option.eq_none_iff_forall_not_mem.mpr fun entry hentry => ?_
      exact (hpassed.resolve_left hblank) entry (Menu.pick?_eq_some_iff.mp hentry)
    rw [if_neg hblank, if_neg hblank, hnone]

/-- A line that is not passed over ends the conversation, and so does the end of the input. -/
theorem converse_decided {menu : Menu} {lines rest : List Bytes}
    {choice : Except FileFault (Option String)} (color : Bool) (h : menu.Decides lines choice rest) :
    converse color menu lines = ⟨promptText color, choice, rest⟩ := by
  cases h with
  | ended => rfl
  | unreadable hline =>
    rw [converse.eq_def]
    simp only [Option.map_eq_none_iff.mp hline]
  | chosen hline htext hmeans =>
    obtain ⟨raw, hraw, rfl⟩ := Option.map_eq_some_iff.mp hline
    rw [converse.eq_def]
    simp only [hraw]
    rw [if_neg htext, Menu.pick?_eq_some_iff.mpr hmeans]

/-- Lines are passed over up to one that decides, or up to the end of the input. -/
theorem exists_decides (menu : Menu) (lines : List Bytes) : ∃ passed left choice rest,
    lines = passed ++ left ∧ (∀ line ∈ passed, menu.PassesOver line)
      ∧ menu.Decides left choice rest := by
  induction lines with
  | nil => exact ⟨[], [], .ok none, [], rfl, by simp, .ended⟩
  | cons line lines ih =>
    by_cases hpassed : menu.PassesOver line
    · obtain ⟨passed, left, choice, rest, rfl, hall, hdecides⟩ := ih
      exact ⟨line :: passed, left, choice, rest, rfl, List.forall_mem_cons.mpr ⟨hpassed, hall⟩,
        hdecides⟩
    refine ⟨[], line :: lines, ?_⟩
    cases hline : lineText? line with
    | none => exact ⟨_, _, rfl, by simp, .unreadable hline⟩
    | some text =>
      -- The text is not blank, and it means something.
      have htext : text ≠ "" := fun hblank => hpassed ⟨text, hline, .inl hblank⟩
      obtain ⟨entry, hmeans⟩ : ∃ entry, menu.Means text entry := by
        by_contra hnone
        exact hpassed ⟨text, hline, .inr fun entry hmeans => hnone ⟨entry, hmeans⟩⟩
      exact ⟨_, _, rfl, by simp, .chosen hline htext hmeans⟩

/-- What a conversation comes to, and what is written in it. -/
theorem converse_eq {menu : Menu} {passed left rest : List Bytes}
    {choice : Except FileFault (Option String)} (color : Bool)
    (hpassed : ∀ line ∈ passed, menu.PassesOver line) (hdecides : menu.Decides left choice rest) :
    converse color menu (passed ++ left) = ⟨questions color passed, choice, rest⟩ := by
  induction passed with
  | nil =>
    rw [List.nil_append, converse_decided color hdecides]
    simp [questions]
  | cons line passed ih =>
    obtain ⟨hline, hrest⟩ := List.forall_mem_cons.mp hpassed
    rw [List.cons_append, converse_passed color hline, ih hrest, Exchange.after]
    simp [questions, String.append_assoc]

/-- How a conversation goes that is held on a bench: some lines are passed over, and what comes
behind them decides. -/
structure Bench.Converses (menu : Menu) (title : String) (passed left rest : List Bytes)
    (choice : Except FileFault (Option String)) (bench after : Bench) : Prop where
  /-- The octets that can be read are split into these lines. -/
  lines : ∃ bodies tail, IsSplit bench.readable bodies tail ∧ linesOf bodies tail = passed ++ left
  /-- The first are passed over. -/
  passesOver : ∀ line ∈ passed, menu.PassesOver line
  /-- What comes behind them decides. -/
  decides : menu.Decides left choice rest
  /-- This is what comes of it. -/
  outcome : bench.perform (Operator.prompt.choose title menu) = (choice.mapError .ofFault, after)
  /-- The menu has been written, the question once for each line, and what is to be said of it. -/
  transcript : after.transcript = bench.transcript
    ++ [(.menu, Text.encode (menu.shown bench.color title ++ questions bench.color passed))]
  /-- The lines that are left can still be read. -/
  readable : after.readable = rest.flatten
  /-- Nothing else has happened. -/
  unmoved : Bench.Unmoved bench after

/-- The lines behind the one that decides are the end of the lines. -/
theorem Menu.Decides.exists_read {menu : Menu} {left rest : List Bytes}
    {choice : Except FileFault (Option String)} (h : menu.Decides left choice rest) :
    ∃ read, left = read ++ rest := by
  cases h with
  | ended => exact ⟨[], rfl⟩
  | unreadable => exact ⟨[_], rfl⟩
  | chosen => exact ⟨[_], rfl⟩

/-- Two descriptions, of which the first marks a digit. -/
def digitResponses : List Response :=
  [⟨"Twice [2]", "", "quit", ""⟩, ⟨"Drop [d]", "", "discard", ""⟩]

/-- The menu of these descriptions. -/
def digitMenu : Menu where
  entries := [⟨"Twice [2]", [.quit]⟩, ⟨"Drop [d]", [.discard]⟩]
  hotkeys := [('2', "Twice [2]"), ('d', "Drop [d]")]

/-- It is what they are compiled to. -/
theorem ofResponses_digitResponses : (tableBench.perform
    (Menu.ofResponses digitResponses {} (.ofText "scenarios.csv"))).1 = .ok digitMenu := by
  have hmenu : (tableBench.perform
      (Menu.ofResponses digitResponses {} (.ofText "scenarios.csv"))).1.toOption
        = some digitMenu := by
    decide +kernel
  cases hresult : (tableBench.perform
      (Menu.ofResponses digitResponses {} (.ofText "scenarios.csv"))).1 with
  | error failure => simp [hresult, Except.toOption] at hmenu
  | ok menu =>
    rw [hresult] at hmenu
    exact congrArg Except.ok (Option.some.inj hmenu)

namespace Operator

/-- What is done at the terminal: a conversation is held, its lines are used up, and the menu is
written with what has been said. -/
theorem perform_prompt (title : String) (menu : Menu) {bench : Bench} {exchange : Exchange}
    (h : converse bench.color menu (inputLines bench.readable) = exchange) :
    bench.perform (prompt.choose title menu) = (exchange.choice.mapError .ofFault,
      ((Bench.write .menu (menu.shown bench.color title ++ exchange.output)).run
        ((Bench.useInput (bench.readable.length - exchange.rest.flatten.length)).run bench).2).2) := by
  unfold prompt
  simp only [Bench.perform_bind_ok (Bench.perform_get bench), h]
  obtain ⟨output, choice, rest⟩ := exchange
  cases choice <;> rfl

/-- What is written to a bench is the last that has been written. -/
theorem transcript_write (voice : Voice) (text : String) (bench : Bench) :
    ((Bench.write voice text).run bench).2.transcript
      = bench.transcript ++ [(voice, Text.encode text)] := rfl

/-- An operator at a terminal only chooses. -/
theorem prompt_onlyChooses : prompt.OnlyChooses := by
  refine ⟨fun title menu bench => ?_⟩
  rw [perform_prompt title menu rfl]
  exact ⟨rfl, rfl, rfl, refl_of Bench.Remembers bench⟩

/-- A conversation is held over the lines that can be read, up to the first that decides. -/
theorem converses_of_decides {menu : Menu} {bench : Bench} {passed left rest : List Bytes}
    {choice : Except FileFault (Option String)} (title : String)
    (hlines : inputLines bench.readable = passed ++ left)
    (hpassed : ∀ line ∈ passed, menu.PassesOver line) (hdecides : menu.Decides left choice rest) :
    ∃ after, bench.Converses menu title passed left rest choice after := by
  obtain ⟨bodies, tail, hsplit⟩ := exists_isSplit bench.readable
  have hconverse : converse bench.color menu (inputLines bench.readable)
      = ⟨questions bench.color passed, choice, rest⟩ := by
    rw [hlines, converse_eq bench.color hpassed hdecides]
  -- The octets of the lines that have been read are those in front of what is left.
  obtain ⟨read, hread⟩ := hdecides.exists_read
  have hreadable : bench.readable = (passed ++ read).flatten ++ rest.flatten := by
    rw [← flatten_inputLines bench.readable, hlines, hread]
    simp only [List.flatten_append, List.append_assoc]
  have hused : ((Bench.useInput (bench.readable.length - rest.flatten.length)).run bench).2.readable
      = rest.flatten := by
    rw [Bench.readable_useInput, hreadable, List.length_append, Nat.add_sub_cancel, List.drop_left]
  have hperform := perform_prompt title menu hconverse
  have hunmoved := prompt_onlyChooses.unmoved title menu bench
  rw [hperform] at hunmoved
  exact ⟨_, {
    lines := ⟨bodies, tail, hsplit, hsplit.inputLines_eq.symm.trans hlines⟩
    passesOver := hpassed
    decides := hdecides
    outcome := hperform
    transcript := transcript_write .menu _ _
    readable := hused
    unmoved := hunmoved }⟩

/-- A conversation goes on up to the first line that decides. -/
theorem exists_converses (menu : Menu) (title : String) (bench : Bench) :
    ∃ passed left rest choice after, bench.Converses menu title passed left rest choice after := by
  obtain ⟨passed, left, choice, rest, hlines, hpassed, hdecides⟩ :=
    exists_decides menu (inputLines bench.readable)
  obtain ⟨after, hconverses⟩ := converses_of_decides title hlines hpassed hdecides
  exact ⟨passed, left, rest, choice, after, hconverses⟩

/-- A menu that has been compiled is put in front of an operator at a terminal, who types any octets.
The first line that means an entry chooses it, unless a line comes first that is not text, or the
input ends; what is chosen is on the menu with its actions, and each entry can be chosen by its
number, as long as the number is a count. -/
theorem prompt_converses {compiled : Bench} {rows : List Response} {conditions : Conditions}
    {schema : Path} {menu : Menu}
    (h : (compiled.perform (Menu.ofResponses rows conditions schema)).1 = .ok menu) (title : String)
    (bench : Bench) :
    (∃ passed left rest choice after,
      bench.Converses menu title passed left rest choice after
        ∧ ∀ description, choice = .ok (some description) →
          ∃ entry ∈ menu.entries, entry.description = description ∧ entry.actions ≠ [])
      ∧ ∀ n entry, menu.entries[n]? = some entry → n + 1 < Text.countLimit →
        menu.Means (toString (n + 1)) entry := by
  obtain ⟨passed, left, rest, choice, after, hconverses⟩ := exists_converses menu title bench
  refine ⟨⟨passed, left, rest, choice, after, hconverses, ?_⟩, fun n entry => Menu.means_number⟩
  rintro description rfl
  cases hconverses.decides with
  | chosen _ _ hmeans =>
    exact ⟨_, hmeans.mem_entries, rfl, Menu.actions_ne_nil h hmeans.mem_entries⟩

/-- A bench with a blank line, two lines that mean nothing, a number, and more. -/
def typedBench : Bench :=
  { tableBench with input := Text.encode "\n z \n0\n+02\nrest" }

/-- The number chooses the second entry, however it is spelled. -/
theorem prompt_converses_typed :
    (∃ passed left rest after,
      typedBench.Converses digitMenu "Done?" passed left rest (.ok (some "Drop [d]")) after)
      ∧ digitMenu.Means "1" ⟨"Twice [2]", [.quit]⟩ := by
  obtain ⟨⟨passed, left, rest, choice, after, hconverses, -⟩, hnumber⟩ :=
    prompt_converses ofResponses_digitResponses "Done?" typedBench
  refine ⟨⟨passed, left, rest, after, ?_⟩, hnumber 0 _ rfl (by decide)⟩
  have hchosen : (typedBench.perform (prompt.choose "Done?" digitMenu)).1.toOption
      = some (some "Drop [d]") := by
    decide +kernel
  rw [hconverses.outcome] at hchosen
  cases choice with
  | error fault => cases hchosen
  | ok chosen => rwa [Option.some.inj hchosen] at hconverses

end Operator

end BootTrial
