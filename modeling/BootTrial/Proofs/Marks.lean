import BootTrial.Proofs.Tables

/-!
# Byte order marks

The reader of a table passes over a byte order mark at the start of the file. So a header whose
first name begins with this character loses it when the table is written and read, unless the name
is written between quotes (`Table.losesMark`). Any other table of two records is read as it was
written (`Table.records_write`).
-/

namespace BootTrial

open Text (Bytes)

namespace Table

/-- Whether a header loses the byte order mark that its first name begins with when it is written
and read: no quote is written in front of this name. -/
def losesMark : List String → Bool
  | [] => false
  | name :: _ => name.toList.head? = some '\uFEFF' && !(Text.encode name).any needsQuotes

/-- A header whose first name does not begin with a byte order mark loses none. -/
theorem losesMark_eq_false {names : List String}
    (h : ∀ name, names.head? = some name → name.toList.head? ≠ some '\uFEFF') :
    losesMark names = false := by
  cases names with
  | nil => rfl
  | cons name others => simp [losesMark, h name rfl]

/-- The character whose octets are those of a byte order mark. -/
theorem eq_mark_of_utf8EncodeChar {c : Char} {behind rest : Bytes}
    (h : String.utf8EncodeChar c ++ behind = 0xEF :: 0xBB :: 0xBF :: rest) : c = '\uFEFF' := by
  have hoctet : ∀ {n : Nat} {b : UInt8}, n < 256 → UInt8.ofNat n = b → n = b.toNat := by
    intro n b hn hb
    rw [← hb, UInt8.toNat_ofNat', Nat.mod_eq_of_lt (by omega)]
  have hmax := (Text.toNat_bounds c).1
  have hchar : Char.ofNat c.val.toNat = c := Char.ofNat_toNat c
  unfold String.utf8EncodeChar at h
  simp only at h
  generalize hv : c.val.toNat = v at h hmax hchar
  -- Of the encodings in one, two, three and four octets only those in three can begin like this.
  by_cases hone : v ≤ 0x7f
  · rw [if_pos hone, List.singleton_append, List.cons.injEq] at h
    have hfirst : v = 0xEF := hoctet (by omega) h.1
    omega
  rw [if_neg hone] at h
  by_cases htwo : v ≤ 0x7ff
  · simp only [if_pos htwo, List.cons_append, List.cons.injEq] at h
    have hfirst : v / 64 % 0x20 + 0xc0 = 0xEF := hoctet (by omega) h.1
    omega
  rw [if_neg htwo] at h
  by_cases hthree : v ≤ 0xffff
  · simp only [if_pos hthree, List.cons_append, List.cons.injEq] at h
    obtain ⟨hfirst, hsecond, hthird, -⟩ := h
    have hfirst := hoctet (by omega) hfirst
    have hsecond := hoctet (by omega) hsecond
    have hthird := hoctet (by omega) hthird
    simp only [UInt8.reduceToNat] at hfirst hsecond hthird
    rw [← hchar, show v = 0xFEFF by omega]
  · simp only [if_neg hthree, List.cons_append, List.cons.injEq] at h
    have hfirst : v / 262144 % 0x08 + 0xf0 = 0xEF := hoctet (by omega) h.1
    omega

/-- A text whose octets begin with a byte order mark begins with this character. -/
theorem head?_of_encode {text : String} {rest : Bytes}
    (h : Text.encode text = 0xEF :: 0xBB :: 0xBF :: rest) : text.toList.head? = some '\uFEFF' := by
  unfold Text.encode at h
  cases hchars : text.toList with
  | nil => simp [hchars] at h
  | cons c cs =>
    rw [hchars, List.flatMap_cons] at h
    rw [eq_mark_of_utf8EncodeChar h]
    rfl

/-- What a text is behind the byte order mark that it begins with. -/
theorem encode_of_head? {text : String} (h : text.toList.head? = some '\uFEFF') :
    ∃ bare, Text.encode text = 0xEF :: 0xBB :: 0xBF :: Text.encode bare ∧ bare ≠ text := by
  obtain ⟨rest, hrest⟩ : ∃ rest, text.toList = '\uFEFF' :: rest := by
    cases hchars : text.toList with
    | nil => simp [hchars] at h
    | cons c rest =>
      rw [hchars, List.head?_cons, Option.some.injEq] at h
      exact ⟨rest, by rw [h]⟩
  have hoctets : String.utf8EncodeChar '\uFEFF' = [0xEF, 0xBB, 0xBF] := by decide
  refine ⟨String.ofList rest, ?_, fun hsame => ?_⟩
  · rw [Text.encode, hrest, List.flatMap_cons, hoctets, Text.encode, String.toList_ofList]
    rfl
  · rw [← hsame, String.toList_ofList] at hrest
    simpa using congrArg List.length hrest

/-- What is written of a record begins with a byte order mark only if its first field does, and
stands there without quotes. -/
theorem mark_of_writeRecord {field : Bytes} {others : List Bytes} {behind rest : Bytes}
    (h : writeRecord (field :: others) ++ behind = 0xEF :: 0xBB :: 0xBF :: rest) :
    (∃ more, field = 0xEF :: 0xBB :: 0xBF :: more) ∧ field.any needsQuotes = false := by
  have hsplit : ∃ b tail, EndsField b
      ∧ writeRecord (field :: others) ++ behind = writeField field ++ b :: tail
      ∨ writeRecord (field :: others) ++ behind = quote :: tail := by
    unfold writeRecord
    cases hline : writeFields (field :: others) with
    | nil => exact ⟨comma, _, .inr rfl⟩
    | cons b line =>
      rw [← hline]
      simp only [hline, List.isEmpty_cons, Bool.false_eq_true, if_false]
      rw [← hline]
      cases others with
      | nil => exact ⟨lineFeed, behind, .inl ⟨.inr rfl, by simp [writeFields]⟩⟩
      | cons second others =>
        exact ⟨comma, writeFields (second :: others) ++ [lineFeed] ++ behind,
          .inl ⟨.inl rfl, by simp [writeFields]⟩⟩
  obtain ⟨b, tail, ⟨hb, hsplit⟩ | hsplit⟩ := hsplit
  · rw [hsplit] at h
    unfold writeField at h
    cases hquotes : field.any needsQuotes with
    | true =>
      rw [hquotes, if_pos rfl, List.cons_append, List.cons_append, List.cons.injEq] at h
      exact absurd h.1 (by decide)
    | false =>
      rw [hquotes, if_neg (by simp)] at h
      have hcomma : ∀ b' : UInt8, b' = 0xEF ∨ b' = 0xBB ∨ b' = 0xBF → b ≠ b' := by
        rintro b' (rfl | rfl | rfl) rfl <;> rcases hb with hb | hb <;> exact absurd hb (by decide)
      rcases field with _ | ⟨b₁, _ | ⟨b₂, _ | ⟨b₃, more⟩⟩⟩
      · simp only [List.nil_append, List.cons.injEq] at h
        exact absurd h.1 (hcomma _ (by simp))
      · simp only [List.cons_append, List.nil_append, List.cons.injEq] at h
        exact absurd h.2.1 (hcomma _ (by simp))
      · simp only [List.cons_append, List.nil_append, List.cons.injEq] at h
        exact absurd h.2.2.1 (hcomma _ (by simp))
      · simp only [List.cons_append, List.cons.injEq] at h
        exact ⟨⟨more, by rw [h.1, h.2.1, h.2.2.1]⟩, rfl⟩
  · rw [hsplit, List.cons.injEq] at h
    exact absurd h.1 (by decide)

/-- A table of two records is read as it was written, unless its header loses a byte order mark. -/
theorem records_write {names texts : List String} (hnames : names ≠ []) (htexts : texts ≠ [])
    (hkept : losesMark names = false) :
    ∃ start next, records (write [names, texts])
      = [⟨start, names.map Text.encode⟩, ⟨next, texts.map Text.encode⟩] := by
  have hwrite : write [names, texts] = writeRecord (names.map Text.encode)
      ++ (writeRecord (texts.map Text.encode) ++ []) := by
    simp [write]
  have hplain : ∀ rest, write [names, texts] ≠ 0xEF :: 0xBB :: 0xBF :: rest := by
    intro rest hrest
    obtain ⟨name, others, rfl⟩ := List.exists_cons_of_ne_nil hnames
    rw [hwrite, List.map_cons] at hrest
    obtain ⟨⟨more, hmore⟩, hquotes⟩ := mark_of_writeRecord hrest
    simp [losesMark, head?_of_encode hmore, hquotes] at hkept
  have hrecords : records (write [names, texts])
      = scan .between [] [] ⟨0, 1, 0⟩ ⟨0, 1, 0⟩ (write [names, texts]) := by
    unfold records
    split
    · rename_i rest hrest
      exact absurd hrest (hplain rest)
    · rfl
  have hnames' : names.map Text.encode ≠ [] := by simpa using hnames
  have htexts' : texts.map Text.encode ≠ [] := by simpa using htexts
  obtain ⟨next, hfirst⟩ := scan_writeRecord hnames' ⟨0, 1, 0⟩ ⟨0, 1, 0⟩
    (writeRecord (texts.map Text.encode) ++ [])
  obtain ⟨last, hsecond⟩ := scan_writeRecord htexts' next next []
  refine ⟨⟨0, 1, 0⟩, next, ?_⟩
  rw [hrecords, hwrite, hfirst, hsecond]
  rfl

/-- Fields of which the first begins with a byte order mark and stands without quotes are written as
those without the mark, behind the mark. -/
theorem writeFields_mark {field bare : Bytes} (hfield : field = 0xEF :: 0xBB :: 0xBF :: bare)
    (hquotes : field.any needsQuotes = false) (others : List Bytes) :
    writeFields (field :: others) = 0xEF :: 0xBB :: 0xBF :: writeFields (bare :: others) := by
  have hbare : bare.any needsQuotes = false := by
    rw [hfield] at hquotes
    simp only [List.any_cons, Bool.or_eq_false_iff] at hquotes
    exact hquotes.2.2.2
  have hwrite : writeField field = 0xEF :: 0xBB :: 0xBF :: writeField bare := by
    rw [writeField, writeField, hquotes, hbare, hfield]
    rfl
  cases others with
  | nil => simpa [writeFields] using hwrite
  | cons second others => simp [writeFields, hwrite]

/-- In a table of two records whose header loses a byte order mark the first name is read without
it. If nothing is left of the header then, the second record is read in its place. -/
theorem records_write_lost {names texts : List String} (hlost : losesMark names = true)
    (htexts : texts ≠ []) :
    (∃ name bare others start next, names = name :: others ∧ bare ≠ name
        ∧ records (write [names, texts])
          = [⟨start, (bare :: others).map Text.encode⟩, ⟨next, texts.map Text.encode⟩])
      ∨ ∃ start, records (write [names, texts]) = [⟨start, texts.map Text.encode⟩] := by
  cases names with
  | nil => cases hlost
  | cons name others =>
    simp only [losesMark, Bool.and_eq_true, decide_eq_true_eq, Bool.not_eq_true'] at hlost
    obtain ⟨bare, hencode, hbare⟩ := encode_of_head? hlost.1
    have hfields := writeFields_mark hencode hlost.2 (others.map Text.encode)
    have htexts' : texts.map Text.encode ≠ [] := by simpa using htexts
    have hrecords : records (write [name :: others, texts])
        = scan .between [] [] ⟨0, 1, 0⟩ ⟨0, 1, 3⟩
          (writeFields (Text.encode bare :: others.map Text.encode) ++ lineFeed
            :: (writeRecord (texts.map Text.encode) ++ [])) := by
      have hwrite : write [name :: others, texts] = 0xEF :: 0xBB :: 0xBF
          :: (writeFields (Text.encode bare :: others.map Text.encode) ++ lineFeed
            :: (writeRecord (texts.map Text.encode) ++ [])) := by
        simp [write, writeRecord, hfields]
      rw [hwrite]
      rfl
    cases hline : writeFields (Text.encode bare :: others.map Text.encode) with
    | nil =>
      -- What stands behind the mark is an empty line.
      obtain ⟨next, hscan⟩ :=
        scan_writeRecord htexts' ⟨0, 1, 0⟩ (Position.past ⟨0, 1, 3⟩ lineFeed) []
      refine .inr ⟨⟨0, 1, 0⟩, ?_⟩
      rw [hrecords, hline, List.nil_append, scan]
      simp only [isBreak, decide_true, Bool.true_or, if_true]
      rw [hscan]
      rfl
    | cons b more =>
      have hline' : writeRecord (Text.encode bare :: others.map Text.encode)
          = writeFields (Text.encode bare :: others.map Text.encode) ++ [lineFeed] := by
        simp [writeRecord, hline]
      obtain ⟨next, hfirst⟩ := scan_writeRecord (List.cons_ne_nil _ _) ⟨0, 1, 0⟩ ⟨0, 1, 3⟩
        (writeRecord (texts.map Text.encode) ++ [])
      obtain ⟨last, hsecond⟩ := scan_writeRecord htexts' next next []
      refine .inl ⟨name, bare, others, ⟨0, 1, 0⟩, next, rfl, hbare, ?_⟩
      rw [hline', List.append_assoc, List.singleton_append] at hfirst
      rw [hrecords, hfirst, hsecond]
      rfl

example : (records (write [["\uFEFF"], ["s2idle"]])).map (·.fields) = [[Text.encode "s2idle"]] := by
  decide +kernel

end Table

end BootTrial
