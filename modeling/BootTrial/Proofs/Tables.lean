import BootTrial.Scenario.Table
import BootTrial.Table.Writer

/-!
# Tables are read as they were written

Text that is encoded is decoded again (`Text.decode_encode`), and the records of a table are read
back as they were written (`Table.scan_writeRecord`), whatever octets their fields are made of. A
table must not begin with a byte order mark, which the reader passes over; the header of a table
does so only if its first name begins with that character.
-/

namespace BootTrial

namespace Text

/-- The character that an octet behind the first of a character stands for. -/
theorem payload?_ofNat {n : Nat} (h : n < 64) : payload? (UInt8.ofNat (n + 0x80)) = some n := by
  have hn : (UInt8.ofNat (n + 0x80)).toNat = n + 0x80 := by
    rw [UInt8.toNat_ofNat', Nat.mod_eq_of_lt (by omega)]
  rw [payload?, hn, if_pos (by omega)]
  simp

/-- The code points of characters. -/
theorem toNat_bounds (c : Char) :
    c.val.toNat < 0x110000 ∧ ¬ (0xD800 ≤ c.val.toNat ∧ c.val.toNat < 0xE000) := by
  have h := c.valid
  simp only [UInt32.isValidChar, Nat.isValidChar] at h
  omega

/-- The octets of a character are decoded to it. -/
theorem decodeFrom_utf8EncodeChar (start : Nat) (c : Char) (rest : Bytes) :
    ∃ next, decodeFrom start (String.utf8EncodeChar c ++ rest)
      = (decodeFrom next rest).map (c :: ·) := by
  obtain ⟨hmax, hsurrogate⟩ := toNat_bounds c
  have hchar : Char.ofNat c.val.toNat = c := Char.ofNat_toNat c
  unfold String.utf8EncodeChar
  simp only
  generalize hv : c.val.toNat = v at hmax hsurrogate hchar
  have hoctet : ∀ n, n < 256 → (UInt8.ofNat n).toNat = n := fun n hn => by
    rw [UInt8.toNat_ofNat', Nat.mod_eq_of_lt (by omega)]
  by_cases hone : v ≤ 0x7f
  · refine ⟨start + 1, ?_⟩
    rw [if_pos hone, List.singleton_append, decodeFrom.eq_def]
    simp only [hoctet v (by omega), hchar]
    rw [if_pos (by omega)]
  rw [if_neg hone]
  by_cases htwo : v ≤ 0x7ff
  · refine ⟨start + 2, ?_⟩
    have hpair : pair? (UInt8.ofNat (v / 64 % 0x20 + 0xc0)) (UInt8.ofNat (v % 0x40 + 0x80))
        = some c := by
      rw [pair?, hoctet _ (by omega), if_pos (by omega), payload?_ofNat (by omega),
        Option.map_some, ← hchar]
      congr 2
      omega
    rw [if_pos htwo]
    simp only [List.cons_append, List.nil_append]
    rw [decodeFrom.eq_def]
    simp only
    rw [hoctet _ (by omega), if_neg (by omega)]
    simp only [hpair]
  rw [if_neg htwo]
  by_cases hthree : v ≤ 0xffff
  · refine ⟨start + 3, ?_⟩
    have hpair : ∀ b, pair? (UInt8.ofNat (v / 4096 % 0x10 + 0xe0)) b = none := by
      intro b
      rw [pair?, hoctet _ (by omega), if_neg (by omega)]
    have htriple : triple? (UInt8.ofNat (v / 4096 % 0x10 + 0xe0))
        (UInt8.ofNat (v / 64 % 0x40 + 0x80)) (UInt8.ofNat (v % 0x40 + 0x80)) = some c := by
      have hn : ((v / 4096 % 0x10 + 0xe0 - 0xe0) * 64 + v / 64 % 0x40) * 64 + v % 0x40 = v := by
        omega
      rw [triple?, hoctet _ (by omega), if_pos (by omega), payload?_ofNat (by omega),
        payload?_ofNat (by omega)]
      simp only [Option.bind_some, hn]
      rw [if_pos (by omega), hchar]
    rw [if_pos hthree]
    simp only [List.cons_append, List.nil_append]
    rw [decodeFrom.eq_def]
    simp only
    rw [hoctet _ (by omega), if_neg (by omega)]
    simp only [hpair, htriple]
  · refine ⟨start + 4, ?_⟩
    have hpair : ∀ b, pair? (UInt8.ofNat (v / 262144 % 0x08 + 0xf0)) b = none := by
      intro b
      rw [pair?, hoctet _ (by omega), if_neg (by omega)]
    have htriple : ∀ b b', triple? (UInt8.ofNat (v / 262144 % 0x08 + 0xf0)) b b' = none := by
      intro b b'
      rw [triple?, hoctet _ (by omega), if_neg (by omega)]
    have hquadruple : quadruple? (UInt8.ofNat (v / 262144 % 0x08 + 0xf0))
        (UInt8.ofNat (v / 4096 % 0x40 + 0x80)) (UInt8.ofNat (v / 64 % 0x40 + 0x80))
        (UInt8.ofNat (v % 0x40 + 0x80)) = some c := by
      have hn : (((v / 262144 % 0x08 + 0xf0 - 0xf0) * 64 + v / 4096 % 0x40) * 64
          + v / 64 % 0x40) * 64 + v % 0x40 = v := by
        omega
      rw [quadruple?, hoctet _ (by omega), if_pos (by omega), payload?_ofNat (by omega),
        payload?_ofNat (by omega), payload?_ofNat (by omega)]
      simp only [Option.bind_some, hn]
      rw [if_pos (by omega), hchar]
    rw [if_neg hthree]
    simp only [List.cons_append, List.nil_append]
    rw [decodeFrom.eq_def]
    simp only
    rw [hoctet _ (by omega), if_neg (by omega)]
    simp only [hpair, htriple, hquadruple]

/-- The octets of some characters are decoded to them. -/
theorem decodeFrom_flatMap (start : Nat) (cs : List Char) :
    decodeFrom start (cs.flatMap String.utf8EncodeChar) = .ok cs := by
  induction cs generalizing start with
  | nil => rfl
  | cons c rest ih =>
    obtain ⟨next, hnext⟩ := decodeFrom_utf8EncodeChar start c (rest.flatMap String.utf8EncodeChar)
    rw [List.flatMap_cons, hnext, ih next]
    rfl

/-- A text that is encoded is decoded again. -/
theorem decode_encode (s : String) : decode (encode s) = .ok s := by
  rw [decode, encode, decodeFrom_flatMap]
  simp [Except.map]

/-- A text that is encoded is a text. -/
theorem decode?_encode (s : String) : decode? (encode s) = some s := by
  rw [decode?, decode_encode]
  rfl

end Text

namespace Table

open Text (Bytes)

/-- Octets outside of quotes that mean themselves are read as part of the field. -/
theorem scan_bare {octets : Bytes} (h : octets.any needsQuotes = false) (field : Bytes)
    (fields : List Bytes) (start here : Position) (rest : Bytes) :
    ∃ next, scan .bare field fields start here (octets ++ rest)
      = scan .bare (octets.reverse ++ field) fields start next rest := by
  induction octets generalizing field here with
  | nil => exact ⟨here, rfl⟩
  | cons b more ih =>
    simp only [List.any_cons, Bool.or_eq_false_iff, needsQuotes] at h
    obtain ⟨⟨⟨hcomma, -⟩, hbreak⟩, hmore⟩ := h
    obtain ⟨next, hnext⟩ := ih (by simpa [needsQuotes] using hmore) (b :: field) (here.past b)
    refine ⟨next, ?_⟩
    rw [List.cons_append, scan]
    simp only [hbreak, of_decide_eq_false hcomma, if_false, Bool.false_eq_true]
    rw [hnext]
    simp

/-- Octets between quotes are read as part of the field, up to the quote that closes them. -/
theorem scan_quoted (octets field : Bytes) (fields : List Bytes) (start here : Position)
    (rest : Bytes) :
    ∃ next, scan .quoted field fields start here (doubleQuotes octets ++ quote :: rest)
      = scan .closing (octets.reverse ++ field) fields start next rest := by
  induction octets generalizing field here with
  | nil => exact ⟨here.past quote, by simp [doubleQuotes, scan]⟩
  | cons b more ih =>
    by_cases hquote : b = quote
    · -- The first of the two quotes seems to close, and the second shows that it does not.
      obtain ⟨next, hnext⟩ := ih (quote :: field) ((here.past quote).past quote)
      refine ⟨next, ?_⟩
      have hbreak : isBreak quote = false := by decide
      rw [doubleQuotes, if_pos hquote, List.cons_append, List.cons_append, scan]
      simp only [if_true]
      rw [scan]
      simp only [hbreak, if_true, Bool.false_eq_true, if_false]
      rw [hnext, hquote]
      simp
    · obtain ⟨next, hnext⟩ := ih (b :: field) (here.past b)
      refine ⟨next, ?_⟩
      rw [doubleQuotes, if_neg hquote, List.cons_append, scan]
      simp only [if_neg hquote]
      rw [hnext]
      simp

/-- What stands behind a written field: it ends the field. -/
def EndsField (b : UInt8) : Prop :=
  b = comma ∨ b = lineFeed

/-- What is read once a field has come to its end. -/
def afterField (field : Bytes) (fields : List Bytes) (start next : Position) (b : UInt8)
    (rest : Bytes) : List Record :=
  if b = comma then scan .fresh [] (field :: fields) start next rest
  else ⟨start, (field :: fields).reverse⟩ ::
    scan .between [] [] next.nextRecord next.nextRecord rest

/-- A field comes to its end outside of quotes. -/
theorem scan_bare_end {b : UInt8} (hb : EndsField b) (field : Bytes) (fields : List Bytes)
    (start here : Position) (rest : Bytes) :
    scan .bare field fields start here (b :: rest)
      = afterField field.reverse fields start (here.past b) b rest := by
  rcases hb with rfl | rfl <;> rfl

/-- A field comes to its end behind a quote. -/
theorem scan_closing_end {b : UInt8} (hb : EndsField b) (field : Bytes) (fields : List Bytes)
    (start here : Position) (rest : Bytes) :
    scan .closing field fields start here (b :: rest)
      = afterField field.reverse fields start (here.past b) b rest := by
  rcases hb with rfl | rfl <;> rfl

/-- A written field is read to its end. -/
theorem scan_fresh_writeField {b : UInt8} (hb : EndsField b) (field : Bytes) (fields : List Bytes)
    (start here : Position) (rest : Bytes) :
    ∃ next, scan .fresh [] fields start here (writeField field ++ b :: rest)
      = afterField field fields start next b rest := by
  unfold writeField
  cases hquotes : field.any needsQuotes with
  | true =>
    obtain ⟨next, hnext⟩ := scan_quoted field [] fields start (here.past quote) (b :: rest)
    have hbreak : isBreak quote = false := by decide
    refine ⟨next.past b, ?_⟩
    rw [if_pos rfl, List.cons_append, List.cons_append, scan]
    simp only [hbreak, Bool.false_eq_true, if_false, if_true, List.append_assoc,
      List.singleton_append]
    rw [hnext, scan_closing_end hb]
    simp
  | false =>
    rw [if_neg (by simp)]
    cases field with
    | nil =>
      refine ⟨here.past b, ?_⟩
      rcases hb with rfl | rfl <;> rfl
    | cons first more =>
      simp only [List.any_cons, Bool.or_eq_false_iff, needsQuotes] at hquotes
      obtain ⟨⟨⟨hcomma, hquote⟩, hbreak⟩, hmore⟩ := hquotes
      have hbare : more.any needsQuotes = false := by simpa [needsQuotes] using hmore
      obtain ⟨next, hnext⟩ := scan_bare hbare [first] fields start (here.past first) (b :: rest)
      refine ⟨next.past b, ?_⟩
      rw [List.cons_append, scan]
      simp only [hbreak, of_decide_eq_false hcomma, of_decide_eq_false hquote,
        Bool.false_eq_true, if_false]
      rw [hnext, scan_bare_end hb]
      simp

/-- Written fields are read to the end of their record. -/
theorem scan_fresh_writeFields {fields : List Bytes} (h : fields ≠ []) (front : List Bytes)
    (start here : Position) (rest : Bytes) :
    ∃ next, scan .fresh [] front start here (writeFields fields ++ lineFeed :: rest)
      = ⟨start, front.reverse ++ fields⟩ :: scan .between [] [] next next rest := by
  induction fields generalizing front here with
  | nil => exact absurd rfl h
  | cons field more ih =>
    cases more with
    | nil =>
      obtain ⟨next, hnext⟩ := scan_fresh_writeField (.inr rfl) field front start here rest
      refine ⟨next.nextRecord, ?_⟩
      rw [writeFields, hnext, afterField, if_neg (by decide)]
      simp
    | cons second others =>
      obtain ⟨middle, hmiddle⟩ := scan_fresh_writeField (.inl rfl) field front start here
        (writeFields (second :: others) ++ lineFeed :: rest)
      obtain ⟨next, hnext⟩ := ih (by simp) (field :: front) middle
      refine ⟨next, ?_⟩
      rw [writeFields, List.append_assoc, List.cons_append, hmiddle, afterField, if_pos rfl, hnext]
      · simp
      · simp

/-- Between two records a written record is read as at the start of a field, unless nothing is
written. -/
theorem scan_between_eq_fresh {b : UInt8} (h : isBreak b = false) (start here : Position)
    (rest : Bytes) :
    scan .between [] [] start here (b :: rest) = scan .fresh [] [] start here (b :: rest) := by
  rw [scan, scan]
  simp only [h, Bool.false_eq_true, if_false]

/-- What is written of a field begins with no line break. -/
theorem isBreak_head_writeField {field : Bytes} {b : UInt8} {more : Bytes}
    (h : writeField field = b :: more) : isBreak b = false := by
  unfold writeField at h
  cases hquotes : field.any needsQuotes with
  | true =>
    rw [hquotes, if_pos rfl] at h
    cases h
    decide
  | false =>
    rw [hquotes, if_neg (by simp)] at h
    subst h
    simp only [List.any_cons, Bool.or_eq_false_iff, needsQuotes] at hquotes
    exact hquotes.1.2

/-- What is written of a record begins with no line break. -/
theorem isBreak_head_writeFields {fields : List Bytes} {b : UInt8} {more : Bytes}
    (h : writeFields fields = b :: more) : isBreak b = false := by
  cases fields with
  | nil => cases h
  | cons field others =>
    have hsplit : ∃ behind, writeFields (field :: others) = writeField field ++ behind
        ∧ (behind = [] ∨ behind.head? = some comma) := by
      cases others with
      | nil => exact ⟨[], by simp [writeFields], .inl rfl⟩
      | cons second others => exact ⟨_, rfl, .inr rfl⟩
    obtain ⟨behind, hbehind, hhead⟩ := hsplit
    rw [hbehind] at h
    cases hfield : writeField field with
    | cons first octets =>
      rw [hfield] at h
      cases h
      exact isBreak_head_writeField hfield
    | nil =>
      rw [hfield, List.nil_append] at h
      rw [h] at hhead
      simp only [reduceCtorEq, List.head?_cons, Option.some.injEq, false_or] at hhead
      rw [hhead]
      decide

/-- A written record is read as it was. -/
theorem scan_writeRecord {fields : List Bytes} (h : fields ≠ []) (start here : Position)
    (rest : Bytes) :
    ∃ next, scan .between [] [] start here (writeRecord fields ++ rest)
      = ⟨start, fields⟩ :: scan .between [] [] next next rest := by
  unfold writeRecord
  cases hline : writeFields fields with
  | nil =>
    -- Only a single empty field is written as nothing.
    have hfields : fields = [[]] := by
      cases fields with
      | nil => exact absurd rfl h
      | cons field others =>
        cases others with
        | nil =>
          have hquotes : field.any needsQuotes = false := by
            cases hquotes : field.any needsQuotes with
            | false => rfl
            | true => simp [writeFields, writeField, hquotes] at hline
          rw [writeFields, writeField, hquotes, if_neg (by simp)] at hline
          rw [hline]
        | cons second others => simp [writeFields] at hline
    subst hfields
    exact ⟨_, rfl⟩
  | cons b more =>
    obtain ⟨next, hnext⟩ := scan_fresh_writeFields h [] start here rest
    refine ⟨next, ?_⟩
    rw [hline] at hnext
    simp only [List.isEmpty_cons, Bool.false_eq_true, if_false, List.append_assoc,
      List.cons_append, List.nil_append] at hnext ⊢
    rw [scan_between_eq_fresh (isBreak_head_writeFields hline), hnext]
    simp

end Table

end BootTrial
