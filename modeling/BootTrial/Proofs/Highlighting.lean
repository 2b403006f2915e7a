import BootTrial.Proofs.Folding

/-!
# Highlighted hotkeys

What a terminal makes of a highlighted description. A terminal takes the codes out of what it is
given and shows the runs of text between them, each in the style of the code in front of it
(`terminalRuns`). If a description holds no codes of its own, the runs are its pieces, and the
markers among them are in color (`terminalRuns_highlight`). So the terminal shows the description,
and what stands between the brackets of the runs in color are the hotkeys (`highlight_marks`).
-/

namespace BootTrial

open Text (Style resetCode)

/-! ## What a terminal shows -/

/-- A run of text on a terminal. -/
structure TerminalRun where
  /-- The code in front of the run, if there is one. -/
  code : List Char
  /-- The text that is shown. -/
  text : List Char
  deriving DecidableEq, Repr

/-- The runs of a text for a terminal, the first of which follows `code`. A code begins with an
escape character and ends with the next `m`. `openCode` is what has been read of the code that is
open, if one is, and `text` what has been read of the run, last character first. -/
def runsFrom (code : List Char) (openCode : Option (List Char)) (text : List Char) :
    List Char → List TerminalRun
  | [] => [⟨code, text.reverse⟩]
  | c :: rest =>
    match openCode with
    | none =>
      if c = '\x1b' then ⟨code, text.reverse⟩ :: runsFrom code (some [c]) [] rest
      else runsFrom code none (c :: text) rest
    | some chars =>
      if c = 'm' then runsFrom (c :: chars).reverse none [] rest
      else runsFrom code (some (c :: chars)) [] rest

/-- The runs of a text for a terminal. -/
def terminalRuns (s : String) : List TerminalRun :=
  runsFrom [] none [] s.toList

/-- What a terminal shows of a text: the text without the codes. -/
def shownText (s : String) : String :=
  String.ofList ((terminalRuns s).flatMap (·.text))

/-- The texts that a terminal shows in the color of markers. -/
def coloredTexts (s : String) : List (List Char) :=
  ((terminalRuns s).filter (·.code = Style.boldRed.opening)).map (·.text)

/-- Text without codes belongs to the run that has been begun. -/
theorem runsFrom_text {front : List Char} (h : '\x1b' ∉ front) (code text rest : List Char) :
    runsFrom code none text (front ++ rest) = runsFrom code none (front.reverse ++ text) rest := by
  induction front generalizing text with
  | nil => rfl
  | cons c front ih =>
    rw [List.mem_cons, not_or] at h
    obtain ⟨hc, hfront⟩ := h
    rw [List.cons_append, runsFrom]
    simp only [if_neg (Ne.symm hc)]
    rw [ih hfront, List.reverse_cons, List.append_assoc, List.singleton_append]

/-- A code that is open takes in all characters up to its end. -/
theorem runsFrom_openCode {body : List Char} (h : 'm' ∉ body) (code chars rest : List Char) :
    runsFrom code (some chars) [] (body ++ 'm' :: rest)
      = runsFrom (chars.reverse ++ body ++ ['m']) none [] rest := by
  induction body generalizing chars with
  | nil =>
    rw [List.nil_append, runsFrom]
    simp
  | cons c body ih =>
    rw [List.mem_cons, not_or] at h
    obtain ⟨hc, hbody⟩ := h
    rw [List.cons_append, runsFrom]
    simp only [if_neg (Ne.symm hc)]
    rw [ih hbody]
    simp

/-- A code ends the run in front of it, and another run begins behind it. -/
theorem runsFrom_code {front body : List Char} (hfront : '\x1b' ∉ front) (hbody : 'm' ∉ body)
    (code rest : List Char) :
    runsFrom code none [] (front ++ '\x1b' :: (body ++ 'm' :: rest))
      = ⟨code, front⟩ :: runsFrom ('\x1b' :: body ++ ['m']) none [] rest := by
  rw [runsFrom_text hfront, List.append_nil, runsFrom]
  simp only [if_true]
  rw [runsFrom_openCode hbody, List.reverse_reverse]
  rfl

/-- Text without codes is one run. -/
theorem runsFrom_plain {text : List Char} (h : '\x1b' ∉ text) (code : List Char) :
    runsFrom code none [] text = [⟨code, text⟩] := by
  have hruns := runsFrom_text h code [] []
  rw [List.append_nil, List.append_nil] at hruns
  rw [hruns, runsFrom, List.reverse_reverse]

/-- No style is begun anew in a text without codes. -/
theorem Text.reopen_eq {code cs : List Char} (h : '\x1b' ∉ cs) : reopen code cs = cs := by
  fun_induction reopen code cs with
  | case1 => simp at h
  | case2 c rest _ ih =>
    rw [List.mem_cons, not_or] at h
    rw [ih h.2]
  | case3 => rfl

/-! ## The runs of a description -/

/-- A piece of a description as a run. The text outside the markers follows `code`. -/
def Segment.run (code : List Char) : Segment → TerminalRun
  | .plain text => ⟨code, text⟩
  | .marker text => ⟨Style.boldRed.opening, text⟩

/-- The text of a run is that of the piece. -/
@[simp] theorem Segment.text_run (code : List Char) (segment : Segment) :
    (segment.run code).text = segment.text := by
  cases segment <;> rfl

/-- The text of a marker. -/
def Segment.marker? : Segment → Option (List Char)
  | .plain _ => none
  | .marker text => some text

/-- The texts of the runs in color are those of the markers. -/
theorem texts_colored {code : List Char} (h : code ≠ Style.boldRed.opening)
    (pieces : List Segment) :
    ((pieces.map (·.run code)).filter (·.code = Style.boldRed.opening)).map (·.text)
      = pieces.filterMap Segment.marker? := by
  induction pieces with
  | nil => rfl
  | cons piece rest ih =>
    cases piece with
    | plain text =>
      rw [List.map_cons, List.filter_cons_of_neg (by simp [Segment.run, h]), ih]
      rfl
    | marker text =>
      rw [List.map_cons, List.filter_cons_of_pos (by simp [Segment.run]), List.map_cons, ih]
      rfl

/-- The characters between the brackets of some pieces are those of the markers among them. -/
theorem flatMap_marker? (pieces : List Segment) :
    (pieces.filterMap Segment.marker?).flatMap (fun text => text.tail.dropLast)
      = pieces.flatMap Segment.inside := by
  induction pieces with
  | nil => rfl
  | cons piece rest ih =>
    rw [List.flatMap_cons, ← ih]
    cases piece <;> rfl

/-- The characters of a description with its markers in color. -/
def markedChars (cs : List Char) : List Char :=
  (segments cs).flatMap fun segment => (segment.shown true).toList

/-- They are what is written of the description. -/
theorem toList_highlight (description : String) :
    (highlight true description).toList = markedChars description.toList := by
  rw [highlight, String.toList_join, List.flatMap_map, markedChars]

/-- A terminal shows the pieces of a text without codes, and the markers among them in color. -/
theorem runsFrom_markedChars {cs : List Char} (h : '\x1b' ∉ cs) (code : List Char) :
    ∃ first rest, segments cs = first :: rest
      ∧ runsFrom code none [] (markedChars cs) = first.run code :: rest.map (·.run resetCode) := by
  unfold markedChars
  fun_induction segments cs generalizing code with
  | case1 cs =>
    exact ⟨_, _, rfl, by simpa [Segment.shown, Segment.run] using runsFrom_plain h code⟩
  | case2 cs =>
    exact ⟨_, _, rfl, by simpa [Segment.shown, Segment.run] using runsFrom_plain h code⟩
  | case3 cs opening inside hopen closing after hclose ih =>
    obtain ⟨rfl, -, hcs⟩ := dropWhile_ne_eq_cons hopen
    obtain ⟨rfl, -, hinside⟩ := dropWhile_ne_eq_cons hclose
    generalize cs.takeWhile (· ≠ '[') = front at hcs ⊢
    generalize hmarker : '[' :: inside.takeWhile (· ≠ ']') ++ [']'] = marker
    have hsplit : cs = front ++ (marker ++ after) := by
      rw [hcs, hinside, ← hmarker]
      simp
    rw [hsplit, List.mem_append, List.mem_append, not_or, not_or] at h
    obtain ⟨hfront, hin, hafter⟩ := h
    obtain ⟨first, rest, hsegments, hruns⟩ := ih hafter resetCode
    refine ⟨_, _, rfl, ?_⟩
    -- The marker stands between the code for its color and the one that ends the color.
    have hshown : (Segment.shown true (.marker marker)).toList
        = '\x1b' :: ("[1;31".toList ++ 'm' :: (marker ++ '\x1b' :: ("[0".toList ++ ['m']))) := by
      simp only [Segment.shown, Text.styled, if_true, String.toList_ofList, Text.reopen_eq hin]
      rfl
    have hplain : (Segment.shown true (.plain front)).toList = front := String.toList_ofList
    rw [List.flatMap_cons, List.flatMap_cons, hshown, hplain]
    simp only [List.append_assoc, List.cons_append, List.nil_append]
    rw [runsFrom_code hfront (by decide), runsFrom_code hin (by decide)]
    change _ :: _ :: runsFrom resetCode none [] _ = _
    rw [hruns, hsegments]
    rfl

/-- A marker is a text in brackets, up to its first closing one. -/
theorem bracketed_of_marker_mem {cs text : List Char} (h : .marker text ∈ segments cs) :
    ∃ inside, text = '[' :: inside ++ [']'] ∧ ']' ∉ inside := by
  fun_induction segments cs with
  | case1 => simp at h
  | case2 => simp at h
  | case3 cs opening inside hopen closing after hclose ih =>
    obtain ⟨rfl, -, -⟩ := dropWhile_ne_eq_cons hopen
    obtain ⟨rfl, hinside, -⟩ := dropWhile_ne_eq_cons hclose
    simp only [List.mem_cons, reduceCtorEq, false_or, Segment.marker.injEq] at h
    rcases h with rfl | hrest
    · exact ⟨_, rfl, hinside⟩
    · exact ih hrest

/-! ## Highlighted descriptions -/

/-- A terminal shows a description with some markers in color, and what stands in them are its
hotkeys. -/
structure Highlights (description shown : String) : Prop where
  /-- Without the codes the text is the description. -/
  text : shownText shown = description
  /-- There are no codes but those that begin and end the color of markers. -/
  codes : ∀ run ∈ terminalRuns shown, run.code ∈ [[], Style.boldRed.opening, resetCode]
  /-- What is in color is in brackets, up to the first closing one. -/
  bracketed : ∀ text ∈ coloredTexts shown, ∃ inside, text = '[' :: inside ++ [']'] ∧ ']' ∉ inside
  /-- Without the outer brackets it makes up the hotkeys, but for case. -/
  keys : Text.lowerCase ((coloredTexts shown).flatMap fun text => text.tail.dropLast)
    = hotkeys description

/-- Without color a description is written as it is. With color a terminal shows the description, if
this holds no codes of its own, and the hotkeys are what stands in the markers that are in color. -/
theorem highlight_marks (description : String) :
    highlight false description = description
      ∧ ('\x1b' ∉ description.toList → Highlights description (highlight true description)) := by
  constructor
  · rw [← String.toList_inj, highlight, String.toList_join, List.flatMap_map]
    conv_rhs => rw [← flatMap_text_segments description.toList]
    congr 1
    funext segment
    cases segment <;> exact String.toList_ofList
  · intro h
    obtain ⟨first, rest, hsegments, hruns⟩ := runsFrom_markedChars h []
    rw [← toList_highlight] at hruns
    change terminalRuns _ = _ at hruns
    have hcolored : coloredTexts (highlight true description)
        = (segments description.toList).filterMap Segment.marker? := by
      have hrest := texts_colored (by decide : resetCode ≠ Style.boldRed.opening) rest
      rw [coloredTexts, hruns, hsegments, List.filterMap_cons, ← hrest]
      cases first <;> rfl
    refine ⟨?_, ?_, ?_, ?_⟩
    · rw [← String.toList_inj, shownText, String.toList_ofList, hruns]
      conv_rhs => rw [← flatMap_text_segments description.toList, hsegments]
      simp [List.flatMap_map]
    · rw [hruns]
      intro run hrun
      rcases List.mem_cons.mp hrun with rfl | hrest
      · cases first <;> simp [Segment.run]
      · obtain ⟨piece, -, rfl⟩ := List.mem_map.mp hrest
        cases piece <;> simp [Segment.run]
    · intro text htext
      rw [hcolored] at htext
      obtain ⟨piece, hpiece, hmarker⟩ := List.mem_filterMap.mp htext
      cases piece with
      | plain => cases hmarker
      | marker own =>
        obtain rfl := Option.some.inj hmarker
        exact bracketed_of_marker_mem hpiece
    · rw [hcolored, flatMap_marker?, hotkeys_eq, shownKeys]

/-- Two markers side by side, one in another, and one that is never closed. -/
theorem highlight_marks_nested :
    Highlights "[P][[q] or [x" (highlight true "[P][[q] or [x")
      ∧ coloredTexts (highlight true "[P][[q] or [x") = ["[P]".toList, "[[q]".toList]
      ∧ hotkeys "[P][[q] or [x" = ['p', '[', 'q'] := by
  exact ⟨(highlight_marks _).2 (by decide), by decide +kernel, by decide +kernel⟩

end BootTrial
