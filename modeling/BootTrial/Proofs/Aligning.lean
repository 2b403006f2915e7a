import BootTrial.Proofs.Tabulating
import Mathlib

/-!
# The columns of a report

The lines of a report stand below each other: all have the same length, and the bars between the
columns stand at the same places in each (`Report.IsAligned`). A column takes the longest of its
texts, but three characters at least, and the texts stand in it as they are. The table is written
if no text that is shown is longer than a text can be padded to, and breaks off otherwise
(`Report.aligned_or_broken`).

The place of a border is a sum over the columns in front of it (`Report.border`). It does not depend
on the line, since the pieces between the bars fit their columns in all of them (`Report.Fits`).
-/

namespace BootTrial

namespace Report

open Markdown (barred)

/-! ## What it means to stand below each other -/

/-- Where the border in front of a column stands in a line. A column takes two blanks and a bar more
than its width. -/
def border (widths : List Nat) (index : Nat) : Nat :=
  ((widths.take index).map (· + 3)).sum

/-- What stands between the borders of a column. -/
def slot (widths : List Nat) (index : Nat) (line : List Char) : List Char :=
  line.extract (border widths index + 1) (border widths (index + 1))

/-- The lengths that a column has to be wide enough for: three, and those of its texts. -/
def lengths (report : Report) (index : Nat) : Set Nat :=
  { length | length = 3 ∨ ∃ row ∈ report.headers :: report.rows, ∃ text,
    row[index]? = some text ∧ text.length = length }

/-- A line has the texts of a row in its columns, each in full, with blanks around it. -/
def Carries (widths : List Nat) (row : List String) (line : List Char) : Prop :=
  ∀ index width, widths[index]? = some width →
    slot widths index line
      = ' ' :: (row.getD index "").toList
        ++ List.replicate (width - (row.getD index "").length + 1) ' '

/-- The lines of a table stand below each other: those of its header, of the rule and of its
rows. -/
structure IsAligned (report : Report) (header rule : List Char) (body : List (List Char)) :
    Prop where
  /-- There is a width for each column. -/
  columns : report.widths.length = report.headers.length
  /-- A column is as wide as it needs to be, and no wider. -/
  needed : ∀ index width, report.widths[index]? = some width →
    IsGreatest (report.lengths index) width
  /-- All lines have the same length. -/
  length : ∀ line ∈ header :: rule :: body,
    line.length = border report.widths report.headers.length + 1
  /-- The borders stand at the same places in all lines. -/
  border : ∀ cs ∈ header :: rule :: body, ∀ index ≤ report.headers.length,
    cs[border report.widths index]? = some '|'
  /-- The first line has the names of the columns. -/
  header : Carries report.widths report.headers header
  /-- The second line has nothing but the marks of the alignment. -/
  rule : ∀ index width, report.widths[index]? = some width →
    slot report.widths index rule = ':' :: List.replicate (width + 1) '-'
  /-- The other lines are those of the rows. -/
  rows : report.rows.Forall₂ (Carries report.widths) body

/-- No text that is shown is longer than a text can be padded to. -/
def IsNarrow (report : Report) : Prop :=
  ∀ row ∈ report.headers :: report.rows, ∀ text ∈ report.shownTexts row, text.length ≤ widthLimit

instance (report : Report) : Decidable report.IsNarrow :=
  inferInstanceAs (Decidable (∀ row ∈ report.headers :: report.rows,
    ∀ text ∈ report.shownTexts row, text.length ≤ widthLimit))

/-! ## Widths -/

variable {report : Report} {row : List String} {index width : Nat}

/-- The largest of some numbers. -/
theorem isGreatest_atLeast (least : Nat) (numbers : List Nat) :
    IsGreatest { number | number ∈ least :: numbers } (atLeast least numbers) := by
  induction numbers generalizing least with
  | nil => exact ⟨List.mem_cons_self, fun number h => (List.mem_singleton.mp h).le⟩
  | cons first numbers ih =>
    obtain ⟨hmem, hle⟩ := ih (max least first)
    constructor
    · -- The larger of the first two is one of them.
      rcases List.mem_cons.mp hmem with heq | hmem
      · rcases max_choice least first with hmax | hmax
        · exact List.mem_cons.mpr (.inl (heq.trans hmax))
        · exact List.mem_cons_of_mem _ (List.mem_cons.mpr (.inl (heq.trans hmax)))
      · exact List.mem_cons_of_mem _ (List.mem_cons_of_mem _ hmem)
    · have hfirst : max least first ≤ atLeast least (first :: numbers) := hle List.mem_cons_self
      rintro number hnumber
      rcases List.mem_cons.mp hnumber with rfl | hnumber
      · exact (le_max_left _ _).trans hfirst
      · rcases List.mem_cons.mp hnumber with rfl | hnumber
        · exact (le_max_right _ _).trans hfirst
        · exact hle (List.mem_cons_of_mem _ hnumber)

/-- A column is as wide as it needs to be. -/
theorem isGreatest_width (h : report.widths[index]? = some width) :
    IsGreatest (report.lengths index) width := by
  rw [widths, List.getElem?_mapIdx, Option.map_eq_some_iff] at h
  obtain ⟨name, hname, rfl⟩ := h
  obtain ⟨hmem, hle⟩ := isGreatest_atLeast (max 3 name.length)
    (report.rows.filterMap fun row => row[index]?.map String.length)
  have hcell : ∀ {length}, length ∈ report.rows.filterMap (fun row => row[index]?.map String.length)
      ↔ ∃ row ∈ report.rows, ∃ text, row[index]? = some text ∧ text.length = length := by
    simp [List.mem_filterMap, Option.map_eq_some_iff]
  have hown : name.length ∈ report.lengths index :=
    .inr ⟨report.headers, List.mem_cons_self, name, hname, rfl⟩
  constructor
  · rcases List.mem_cons.mp hmem with heq | hmem
    · rw [widthOf, heq]
      rcases max_choice 3 name.length with hmax | hmax
      · exact .inl hmax
      · rw [hmax]
        exact hown
    · obtain ⟨row, hrow, hlength⟩ := hcell.mp hmem
      exact .inr ⟨row, List.mem_cons_of_mem _ hrow, hlength⟩
  · have hfirst : max 3 name.length ≤ widthOf report.rows index name := hle List.mem_cons_self
    rintro length (rfl | ⟨row, hrow, text, htext, hlength⟩)
    · exact (le_max_left _ _).trans hfirst
    · rcases List.mem_cons.mp hrow with rfl | hrow
      · obtain rfl : name = text := Option.some.inj (hname.symm.trans htext)
        exact hlength ▸ (le_max_right _ _).trans hfirst
      · exact hle (List.mem_cons_of_mem _ (hcell.mpr ⟨row, hrow, text, htext, hlength⟩))

/-- There is room for the texts of a row. -/
theorem length_getD_le (hrow : row ∈ report.headers :: report.rows)
    (h : report.widths[index]? = some width) : (row.getD index "").length ≤ width := by
  rw [List.getD_eq_getElem?_getD]
  cases htext : row[index]? with
  | none => exact Nat.zero_le _
  | some text => exact (isGreatest_width h).2 (.inr ⟨row, hrow, text, htext, rfl⟩)

/-- The texts of a row that are shown are those below the names of columns. -/
theorem mem_shownTexts {text : String} :
    text ∈ report.shownTexts row ↔ ∃ index < report.headers.length, row.getD index "" = text := by
  rw [shownTexts]
  generalize report.headers.length = count
  induction count generalizing row with
  | zero => simp
  | succ count ih =>
    rw [List.takeD_succ, List.mem_cons, ih]
    constructor
    · rintro (rfl | ⟨index, hlt, rfl⟩)
      · exact ⟨0, Nat.succ_pos _, by cases row <;> rfl⟩
      · exact ⟨index + 1, Nat.succ_lt_succ hlt, by cases row <;> rfl⟩
    · rintro ⟨index, hlt, rfl⟩
      cases index with
      | zero => exact .inl (by cases row <;> rfl)
      | succ index => exact .inr ⟨index, Nat.lt_of_succ_lt_succ hlt, by cases row <;> rfl⟩

/-- A table is written to its end just if no text is too long. -/
theorem widths_le_iff (report : Report) :
    report.widths.all (· ≤ widthLimit) = true ↔ report.IsNarrow := by
  rw [List.all_eq_true]
  constructor
  · intro h row hrow text htext
    obtain ⟨index, hlt, rfl⟩ := mem_shownTexts.mp htext
    rw [← length_widths] at hlt
    exact (length_getD_le hrow (List.getElem?_eq_getElem hlt)).trans
      (of_decide_eq_true (h _ (List.getElem_mem hlt)))
  · intro h width hwidth
    obtain ⟨index, hindex⟩ := List.mem_iff_getElem?.mp hwidth
    have hlt : index < report.headers.length := by
      rw [← length_widths]
      exact (List.getElem?_eq_some_iff.mp hindex).1
    apply decide_eq_true
    rcases (isGreatest_width hindex).1 with rfl | ⟨row, hrow, text, htext, rfl⟩
    · decide
    · exact h row hrow text (mem_shownTexts.mpr ⟨index, hlt, by simp [htext]⟩)

/-! ## Pieces that fit -/

/-- Each piece takes its column with the two blanks. -/
def Fits (widths : List Nat) (pieces : List (List Char)) : Prop :=
  pieces.map List.length = widths.map (· + 2)

section Fits

variable {widths : List Nat} {pieces : List (List Char)} {piece : List Char}

/-- The first pieces fit the first columns. -/
theorem Fits.take (h : Fits widths pieces) (index : Nat) :
    Fits (widths.take index) (pieces.take index) := by
  rw [Fits, List.map_take, h, List.map_take]

/-- The borders of the first columns stand where they stand in the whole line. -/
theorem border_take (widths : List Nat) (index : Nat) :
    border (widths.take index) (widths.take index).length = border widths index := by
  rw [border, border, List.take_length]

/-- A line ends with its last border. -/
theorem Fits.length_barred (h : Fits widths pieces) :
    (barred pieces).length = border widths widths.length + 1 := by
  have hpiece : (pieces.map fun piece => (piece ++ ['|']).length)
      = (pieces.map List.length).map (· + 1) := by
    rw [List.map_map]
    exact List.map_congr_left fun piece _ => List.length_append
  calc (barred pieces).length
      = (pieces.map fun piece => (piece ++ ['|']).length).sum + 1 := by
        rw [barred, List.length_cons, List.length_flatMap]
    _ = ((widths.map (· + 2)).map (· + 1)).sum + 1 := by rw [hpiece, h]
    _ = border widths widths.length + 1 := by
        rw [border, List.take_length, List.map_map]
        rfl

/-- A line is what stands up to a border, and the rest. -/
theorem barred_split (pieces : List (List Char)) (index : Nat) :
    barred pieces
      = barred (pieces.take index) ++ (pieces.drop index).flatMap (· ++ ['|']) := by
  rw [barred, barred, List.cons_append, ← List.flatMap_append, List.take_append_drop]

/-- There is a bar at each border. -/
theorem Fits.getElem?_border (h : Fits widths pieces) (index : Nat) :
    (barred pieces)[border widths index]? = some '|' := by
  have hlength := (h.take index).length_barred
  rw [border_take] at hlength
  have hlast := Markdown.getLast?_barred (pieces.take index)
  rw [List.getLast?_eq_getElem?, hlength, Nat.add_sub_cancel] at hlast
  rw [barred_split pieces index, List.getElem?_append_left (by omega), hlast]

/-- A piece stands between the borders of its column. -/
theorem Fits.slot_barred (h : Fits widths pieces) (hpiece : pieces[index]? = some piece) :
    slot widths index (barred pieces) = piece := by
  obtain ⟨hlt, rfl⟩ := List.getElem?_eq_some_iff.mp hpiece
  have hfront := (h.take index).length_barred
  have hbehind := (h.take (index + 1)).length_barred
  rw [border_take] at hfront hbehind
  -- One piece and its bar lie between the two borders.
  have hnext : barred (pieces.take (index + 1))
      = barred (pieces.take index) ++ (pieces[index] ++ ['|']) := by
    rw [barred, barred, List.take_succ_eq_append_getElem hlt, List.flatMap_append,
      List.flatMap_singleton, List.cons_append]
  have hdistance : border widths (index + 1) - (border widths index + 1)
      = pieces[index].length := by
    rw [hnext, List.length_append, hfront, List.length_append, List.length_singleton] at hbehind
    omega
  rw [slot, List.extract_eq_take_drop, hdistance, barred_split pieces index, ← hfront,
    List.drop_left, List.drop_eq_getElem_cons hlt, List.flatMap_cons, List.append_assoc,
    List.take_left]

end Fits

/-! ## The lines of a report -/

/-- The piece of a row in a column. -/
theorem getElem?_rowPieces (widths : List Nat) (row : List String) (index : Nat) :
    (rowPieces widths row)[index]?
      = widths[index]?.map fun width => piece width (row.getD index "") := by
  induction widths generalizing row index with
  | nil => rfl
  | cons width widths ih =>
    cases index with
    | zero => cases row <;> rfl
    | succ index => cases row <;> exact ih _ index

/-- A text takes its column if there is room for it. -/
theorem length_piece {cell : String} (h : cell.length ≤ width) :
    (piece width cell).length = width + 2 := by
  simp only [piece, padded, String.toList_ofList, List.length_cons, List.length_append,
    List.length_replicate, String.length_toList, List.length_nil]
  omega

/-- The texts of a row fit the columns. -/
theorem fits_rowPieces (hrow : row ∈ report.headers :: report.rows) :
    Fits report.widths (rowPieces report.widths row) := by
  refine List.ext_getElem? fun index => ?_
  rw [List.getElem?_map, List.getElem?_map, getElem?_rowPieces, Option.map_map]
  refine Option.map_congr fun width hwidth => ?_
  exact length_piece (length_getD_le hrow hwidth)

/-- The marks of the alignment fit the columns. -/
theorem fits_rule (widths : List Nat) : Fits widths (widths.map rulePiece) := by
  simp [Fits, rulePiece]

/-- The line of a row has its texts. -/
theorem carries_rowPieces (hrow : row ∈ report.headers :: report.rows) :
    Carries report.widths row (barred (rowPieces report.widths row)) := by
  intro index width hwidth
  have hpiece : (rowPieces report.widths row)[index]? = some (piece width (row.getD index "")) := by
    rw [getElem?_rowPieces, hwidth, Option.map_some]
  rw [(fits_rowPieces hrow).slot_barred hpiece, piece, padded, String.toList_ofList,
    List.replicate_succ', List.cons_append, List.append_assoc]
  rfl

/-- The pieces of each line of a report fit its columns. -/
theorem exists_fits {line : List Char} (h : line ∈ report.lineTexts) :
    ∃ pieces, Fits report.widths pieces ∧ line = barred pieces := by
  rcases List.mem_cons.mp h with rfl | h
  · exact ⟨_, fits_rowPieces List.mem_cons_self, rfl⟩
  rcases List.mem_cons.mp h with rfl | h
  · exact ⟨_, fits_rule _, rfl⟩
  · obtain ⟨row, hrow, rfl⟩ := List.mem_map.mp h
    exact ⟨_, fits_rowPieces (List.mem_cons_of_mem _ hrow), rfl⟩

/-- The lines of a report stand below each other. -/
theorem isAligned_lineTexts (report : Report) :
    report.IsAligned (barred (rowPieces report.widths report.headers))
      (barred (report.widths.map rulePiece))
      (report.rows.map fun row => barred (rowPieces report.widths row)) where
  columns := length_widths report
  needed := fun _ _ => isGreatest_width
  length := by
    intro line hline
    obtain ⟨pieces, hfits, rfl⟩ := exists_fits hline
    rw [hfits.length_barred, length_widths]
  border := by
    intro line hline index _
    obtain ⟨pieces, hfits, rfl⟩ := exists_fits hline
    exact hfits.getElem?_border index
  header := carries_rowPieces List.mem_cons_self
  rule := by
    intro index width hwidth
    exact (fits_rule _).slot_barred (by rw [List.getElem?_map, hwidth, Option.map_some, rulePiece])
  rows := by
    rw [List.forall₂_map_right_iff, List.forall₂_same]
    exact fun row hrow => carries_rowPieces (List.mem_cons_of_mem _ hrow)

/-- A report in which no line ends within a text is written with its columns below each other, if no
text is too long. If one is, the writing breaks off. -/
theorem aligned_or_broken (report : Report)
    (h : ∀ row ∈ report.headers :: report.rows, ∀ text ∈ report.shownTexts row,
      ∀ c ∈ text.toList, Markdown.isLineEnd c = false) :
    (report.IsNarrow → ∃ text header rule body, report.markdown? = some text
      ∧ Markdown.lines text.toList = header :: rule :: body ∧ report.IsAligned header rule body)
    ∧ (¬ report.IsNarrow → report.markdown? = none) := by
  rw [← widths_le_iff]
  refine ⟨fun hnarrow => ?_, fun hwide => if_neg hwide⟩
  have hlines : Markdown.lines report.markdown.toList = report.lineTexts := by
    rw [toList_markdown, Markdown.lines_ended (report.lineEnd_lineTexts_iff.mpr h)]
  exact ⟨report.markdown, _, _, _, if_pos hnarrow, hlines, report.isAligned_lineTexts⟩

/-- A missing cell leaves its column blank. -/
example : markdown? ⟨["mode", "result"], [["süß"]]⟩
    = some "| mode | result |\n|:-----|:-------|\n| süß  |        |\n" := by
  decide +kernel

/-- A report with a row that is too short and one that is too long. -/
def ragged : Report :=
  ⟨["mode", "result"], [["s2idle"], ["süß", "pass|warm", "beyond"]]⟩

/-- A report whose only column has a name that is one character too long. -/
def overlong : Report :=
  ⟨[String.ofList (List.replicate (widthLimit + 1) 'x')], []⟩

/-- Rows of any length stand below each other, but a name of 65536 characters is not written. -/
theorem aligned_ragged_broken_overlong :
    (∃ text header rule body, ragged.markdown? = some text
      ∧ Markdown.lines text.toList = header :: rule :: body ∧ ragged.IsAligned header rule body)
    ∧ overlong.markdown? = none := by
  have hplain : ∀ row ∈ ragged.headers :: ragged.rows, ∀ text ∈ ragged.shownTexts row,
      text.toList.all (!Markdown.isLineEnd ·) = true := by
    decide +kernel
  have hname : ∀ row ∈ overlong.headers :: overlong.rows, ∀ text ∈ overlong.shownTexts row,
      text = String.ofList (List.replicate (widthLimit + 1) 'x') := by
    intro row hrow text htext
    rw [List.mem_singleton.mp hrow, shownTexts_headers] at htext
    exact List.mem_singleton.mp htext
  refine ⟨(aligned_or_broken ragged ?_).1 (by decide +kernel),
    (aligned_or_broken overlong ?_).2 ?_⟩
  · intro row hrow text htext c hc
    simpa using List.all_eq_true.mp (hplain row hrow text htext) c hc
  · intro row hrow text htext c hc
    rw [hname row hrow text htext, String.toList_ofList] at hc
    rw [List.eq_of_mem_replicate hc]
    rfl
  · intro hnarrow
    have hlong := hnarrow overlong.headers List.mem_cons_self _
      (by rw [shownTexts_headers]; exact List.mem_cons_self)
    rw [String.length_ofList, List.length_replicate] at hlong
    exact Nat.not_succ_le_self _ hlong

end Report

end BootTrial
