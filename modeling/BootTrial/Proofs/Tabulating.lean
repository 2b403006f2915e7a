import BootTrial.Report
import BootTrial.Text.Blank
import Mathlib.Data.List.DropRight
import Mathlib.Data.List.Forall2
import Mathlib.Data.List.TakeDrop

/-!
# How a report is read

A reader of Markdown tables splits each line at the bars that no backslash escapes, and takes what
stands between two bars, without the blanks around it, for a cell (`Markdown.read?`). A report puts
its texts between the bars as they are. So a report is read as it was written just if none of the
texts that it shows has a bar or the end of a line in it, and no name of a column has a blank at one
of its ends (`Report.readsBack_iff`).

Bars and backslashes are counted for this. A bar that is escaped costs the text in front of it a
backslash, and one that is not makes a cell more.
-/

namespace BootTrial

namespace Markdown

/-! ## Reading a table -/

/-- Whether a character ends a line. -/
def isLineEnd (c : Char) : Bool :=
  c = '\n' || c = '\r'

/-- Whether a character may stand around the text of a cell. -/
def isSpacing (c : Char) : Bool :=
  c = ' ' || c = '\t'

/-- The texts with a character in front of the first. -/
def consFirst (c : Char) : List (List Char) → List (List Char)
  | [] => [[c]]
  | part :: parts => (c :: part) :: parts

/-- The lines of a text. A carriage return and the line feed behind it end one line. -/
def lines : List Char → List (List Char)
  | [] => []
  | '\r' :: '\n' :: rest => [] :: lines rest
  | c :: rest => if isLineEnd c then [] :: lines rest else consFirst c (lines rest)

/-- The parts of a line between its bars. A bar behind a backslash is a character of the text, and
the backslash is none. -/
def splitBars : List Char → List (List Char)
  | [] => [[]]
  | '\\' :: '|' :: rest => consFirst '|' (splitBars rest)
  | c :: rest => if c = '|' then [] :: splitBars rest else consFirst c (splitBars rest)

/-- A text without the blanks around it. -/
def trim (s : String) : String :=
  Text.dropTrailing isSpacing (Text.dropLeading isSpacing s)

/-- The texts without the first, if this is empty. -/
def dropEmpty : List String → List String
  | "" :: texts => texts
  | texts => texts

/-- The cells of a line. The bars at its two ends may be missing. -/
def cells (line : List Char) : List String :=
  let parts := (splitBars line).map fun part => trim (String.ofList part)
  (dropEmpty (dropEmpty parts).reverse).reverse

/-- The characters without a colon in front. -/
def dropColon : List Char → List Char
  | ':' :: cs => cs
  | cs => cs

/-- Whether a cell may stand below the name of a column: it is made of hyphens, with colons at its
ends for the alignment. -/
def isRule (cell : String) : Bool :=
  let hyphens := dropColon (dropColon cell.toList).reverse
  !hyphens.isEmpty && hyphens.all (· = '-')

/-- The table that a text spells. -/
def read? (text : String) : Option Report :=
  match lines text.toList with
  | header :: rule :: rows =>
    if (cells rule).length = (cells header).length && (cells rule).all isRule then
      some ⟨cells header, rows.map cells⟩
    else none
  | _ => none

/-! ## Lines -/

/-- A character that ends no line belongs to the first one. -/
theorem lines_cons {c : Char} (h : isLineEnd c = false) (cs : List Char) :
    lines (c :: cs) = consFirst c (lines cs) := by
  rw [lines, if_neg (by simp [h])]
  rintro rest rfl
  cases h

/-- A character that ends a line alone. -/
theorem lines_cons_end {c : Char} {cs : List Char} (h : isLineEnd c = true)
    (halone : ∀ rest, c = '\r' → cs ≠ '\n' :: rest) : lines (c :: cs) = [] :: lines cs := by
  rw [lines, if_pos h]
  exact halone

/-- A line comes first. -/
theorem lines_append {line : List Char} (h : ∀ c ∈ line, isLineEnd c = false) (rest : List Char) :
    lines (line ++ '\n' :: rest) = line :: lines rest := by
  induction line with
  | nil => exact lines_cons_end rfl fun _ h => by cases h
  | cons c cs ih =>
    rw [List.cons_append, lines_cons (h c List.mem_cons_self),
      ih fun d hd => h d (List.mem_cons_of_mem _ hd)]
    rfl

/-- Some texts, each with a line feed behind it. -/
def ended (texts : List (List Char)) : List Char :=
  texts.flatMap (· ++ ['\n'])

/-- The first text comes first. -/
theorem ended_cons (text : List Char) (texts : List (List Char)) :
    ended (text :: texts) = text ++ '\n' :: ended texts := by
  simp [ended]

/-- If no line ends within a text, the lines are the texts. -/
theorem lines_ended {texts : List (List Char)}
    (h : ∀ text ∈ texts, ∀ c ∈ text, isLineEnd c = false) : lines (ended texts) = texts := by
  induction texts with
  | nil => rfl
  | cons text texts ih =>
    rw [ended_cons, lines_append (h text List.mem_cons_self),
      ih fun other hother => h other (List.mem_cons_of_mem _ hother)]

/-- There is a first text, then. -/
@[simp] theorem consFirst_ne_nil (c : Char) (parts : List (List Char)) :
    consFirst c parts ≠ [] := by
  cases parts <;> simp [consFirst]

/-- A line of cells with bars around them. -/
def barred (pieces : List (List Char)) : List Char :=
  '|' :: pieces.flatMap (· ++ ['|'])

/-- The characters of a text without the blanks around it. -/
theorem toList_trim (s : String) :
    (trim s).toList = (s.toList.dropWhile isSpacing).rdropWhile isSpacing := by
  simp [trim, Text.dropTrailing, Text.dropLeading, List.rdropWhile]

/-- What holds no blank stays as it is. -/
theorem trim_eq_self {s : String} (h : ∀ c ∈ s.toList, isSpacing c = false) : trim s = s := by
  rw [← String.toList_inj, toList_trim]
  have hleading : s.toList.dropWhile isSpacing = s.toList :=
    List.dropWhile_eq_self_iff.mpr fun hlt => by simp [h _ (List.getElem_mem hlt)]
  rw [hleading]
  exact List.rdropWhile_eq_self_iff.mpr fun hne => by simp [h _ (List.getLast_mem hne)]

/-- A text stands between blanks, at least one of them behind it. -/
def Spaced (text : String) (piece : List Char) : Prop :=
  ∃ before behind, piece
    = List.replicate before ' ' ++ text.toList ++ List.replicate (behind + 1) ' '

section Spaced

variable {text : String} {piece : List Char} {texts : List String} {pieces : List (List Char)}

/-- The blanks do not escape the bar behind them. -/
theorem Spaced.getLast? (h : Spaced text piece) : piece.getLast? = some ' ' := by
  obtain ⟨before, behind, rfl⟩ := h
  rw [List.replicate_succ', ← List.append_assoc]
  exact List.getLast?_concat

/-- All other characters belong to the text. -/
theorem Spaced.mem_iff (h : Spaced text piece) {c : Char} (hc : c ≠ ' ') :
    c ∈ piece ↔ c ∈ text.toList := by
  obtain ⟨before, behind, rfl⟩ := h
  simp [List.mem_replicate, hc]

/-- No line ends in the blanks. -/
theorem Spaced.lineEnd_iff (h : Spaced text piece) :
    (∀ c ∈ piece, isLineEnd c = false) ↔ ∀ c ∈ text.toList, isLineEnd c = false := by
  obtain ⟨before, behind, rfl⟩ := h
  have hblanks : ∀ count : Nat, ∀ c ∈ List.replicate count ' ', isLineEnd c = false := by
    intro count c hc
    rw [List.eq_of_mem_replicate hc]
    rfl
  rw [List.forall_mem_append, List.forall_mem_append]
  exact ⟨fun h => h.1.2, fun h => ⟨⟨hblanks before, h⟩, hblanks _⟩⟩

/-- No line ends within a line of cells just if none ends within one of its texts. -/
theorem lineEnd_barred_iff (h : texts.Forall₂ Spaced pieces) :
    (∀ c ∈ barred pieces, isLineEnd c = false)
      ↔ ∀ text ∈ texts, ∀ c ∈ text.toList, isLineEnd c = false := by
  have hbar : isLineEnd '|' = false := rfl
  have hpieces : (∀ c ∈ barred pieces, isLineEnd c = false)
      ↔ ∀ piece ∈ pieces, ∀ c ∈ piece, isLineEnd c = false := by
    simp only [barred, List.forall_mem_cons, List.forall_mem_flatMap, List.forall_mem_append,
      hbar, true_and, List.not_mem_nil, false_implies, implies_true, and_true]
  rw [hpieces]
  clear hpieces
  induction h with
  | nil => simp
  | cons hpiece _ ih =>
    exact (List.forall_mem_cons.trans (and_congr hpiece.lineEnd_iff ih)).trans
      List.forall_mem_cons.symm

/-- A line of cells ends in a bar. -/
theorem getLast?_barred (pieces : List (List Char)) : (barred pieces).getLast? = some '|' := by
  rcases List.eq_nil_or_concat pieces with rfl | ⟨front, last, rfl⟩
  · rfl
  · have hlast : barred (front ++ [last]) = barred front ++ last ++ ['|'] := by simp [barred]
    rw [List.concat_eq_append, hlast]
    exact List.getLast?_concat

end Spaced

end Markdown

namespace Report

open Markdown (barred ended Spaced)

/-- The texts of a row that are shown: one for each column. -/
def shownTexts (report : Report) (row : List String) : List String :=
  row.takeD report.headers.length ""

/-- The report as it should be read. -/
def shown (report : Report) : Report :=
  ⟨report.headers, report.rows.map fun row => (report.shownTexts row).map Markdown.trim⟩

/-- Nothing that is shown is taken for a part of the table. -/
structure IsPlain (report : Report) : Prop where
  /-- No name of a column has blanks at its ends. -/
  trimmed : ∀ name ∈ report.headers, Markdown.trim name = name
  /-- No text has a bar or the end of a line in it. -/
  texts : ∀ row ∈ report.headers :: report.rows, ∀ text ∈ report.shownTexts row,
    '|' ∉ text.toList ∧ ∀ c ∈ text.toList, Markdown.isLineEnd c = false

variable {report : Report} {row : List String}

/-- A text with its blanks, as it stands between two bars. -/
def piece (width : Nat) (cell : String) : List Char :=
  ' ' :: (padded width cell).toList ++ [' ']

/-- What stands between the bars of the line of a row. -/
def rowPieces (widths : List Nat) (row : List String) : List (List Char) :=
  List.zipWith piece widths (row.takeD widths.length "")

/-- What stands between the bars of the line below the header. -/
def rulePiece (width : Nat) : List Char :=
  ':' :: List.replicate (width + 1) '-'

/-- The lines of a report. -/
def lineTexts (report : Report) : List (List Char) :=
  barred (rowPieces report.widths report.headers) :: barred (report.widths.map rulePiece)
    :: report.rows.map fun row => barred (rowPieces report.widths row)

/-- A text is padded with blanks. -/
theorem spaced_piece (width : Nat) (cell : String) : Spaced cell (piece width cell) :=
  ⟨1, width - cell.length, by simp [piece, padded, List.replicate_succ']⟩

/-- The texts of a row stand between blanks. -/
theorem spaced_rowPieces (widths : List Nat) (row : List String) :
    (row.takeD widths.length "").Forall₂ Spaced (rowPieces widths row) := by
  induction widths generalizing row with
  | nil => exact .nil
  | cons width widths ih => exact .cons (spaced_piece width _) (ih row.tail)

/-- The cells of a row, each with the bar behind it. -/
theorem toList_cellTexts (widths : List Nat) (row : List String) :
    (String.join (cellTexts widths row)).toList = (rowPieces widths row).flatMap (· ++ ['|']) := by
  rw [String.toList_join]
  induction widths generalizing row with
  | nil => rfl
  | cons width widths ih =>
    have hcell : ∀ cell, (cellText width cell).toList = piece width cell ++ ['|'] := by
      intro cell
      simp [cellText, piece]
    cases row with
    | nil =>
      rw [cellTexts, List.flatMap_cons, ih, hcell]
      rfl
    | cons cell row =>
      rw [cellTexts, List.flatMap_cons, ih, hcell]
      rfl

/-- The line of a row. -/
theorem toList_rowLine (widths : List Nat) (row : List String) :
    (rowLine widths row).toList = barred (rowPieces widths row) ++ ['\n'] := by
  rw [rowLine, String.toList_append, String.toList_append, toList_cellTexts]
  rfl

/-- The line below the header. -/
theorem toList_ruleLine (widths : List Nat) :
    (ruleLine widths).toList = barred (widths.map rulePiece) ++ ['\n'] := by
  have hrule : ∀ width, (ruleText width).toList = rulePiece width ++ ['|'] := by
    intro width
    simp [ruleText, rulePiece]
  rw [ruleLine, String.toList_append, String.toList_append, String.toList_join, List.flatMap_map,
    barred, List.flatMap_map]
  simp only [hrule]
  rfl

/-- A report is written line by line. -/
theorem toList_markdown (report : Report) : report.markdown.toList = ended report.lineTexts := by
  rw [markdown, String.toList_append, String.toList_append, String.toList_join, List.flatMap_map,
    toList_rowLine, toList_ruleLine, lineTexts, ended, List.flatMap_cons, List.flatMap_cons,
    List.flatMap_map, List.append_assoc]
  simp only [toList_rowLine]

/-- The line below the header is made of colons and hyphens. -/
theorem mem_rulePiece {width : Nat} {c : Char} (h : c ∈ rulePiece width) : c = ':' ∨ c = '-' :=
  (List.mem_cons.mp h).imp_right List.eq_of_mem_replicate

/-- There is a width for each column. -/
theorem length_widths (report : Report) : report.widths.length = report.headers.length :=
  List.length_mapIdx

/-- The texts of a row stand between blanks in its line. -/
theorem spaced_shownTexts (report : Report) (row : List String) :
    (report.shownTexts row).Forall₂ Spaced (rowPieces report.widths row) := by
  rw [shownTexts, ← length_widths]
  exact spaced_rowPieces report.widths row

/-- All names of columns are shown. -/
theorem shownTexts_headers (report : Report) :
    report.shownTexts report.headers = report.headers := by
  rw [shownTexts, List.takeD_eq_take _ le_rfl, List.take_length]

/-- No line ends within a line of a report just if none ends within a text that is shown. -/
theorem lineEnd_lineTexts_iff (report : Report) :
    (∀ line ∈ report.lineTexts, ∀ c ∈ line, Markdown.isLineEnd c = false)
      ↔ ∀ row ∈ report.headers :: report.rows, ∀ text ∈ report.shownTexts row,
        ∀ c ∈ text.toList, Markdown.isLineEnd c = false := by
  have hrule : ∀ c ∈ barred (report.widths.map rulePiece), Markdown.isLineEnd c = false := by
    intro c hc
    rw [barred, List.flatMap_map, List.mem_cons, List.mem_flatMap] at hc
    rcases hc with rfl | ⟨width, -, hc⟩
    · rfl
    · rcases List.mem_append.mp hc with hc | hc
      · rcases mem_rulePiece hc with rfl | rfl <;> rfl
      · rw [List.mem_singleton.mp hc]
        rfl
  rw [lineTexts, List.forall_mem_cons, List.forall_mem_cons, List.forall_mem_map,
    List.forall_mem_cons, Markdown.lineEnd_barred_iff (report.spaced_shownTexts report.headers),
    and_iff_right hrule]
  exact and_congr_right fun _ => forall₂_congr fun row _ =>
    Markdown.lineEnd_barred_iff (report.spaced_shownTexts row)

/-- A result with a bar in it is read as two cells. -/
example : Markdown.read? (markdown ⟨["result"], [["pass|warm"]]⟩)
    = some ⟨["result"], [["pass", "warm"]]⟩ := by
  decide +kernel

end Report

end BootTrial
