import BootTrial.Text.Style

/-!
# Highlighted descriptions

A description as the operator sees it, with its hotkey markers in color. The text is taken apart
into the markers, brackets included, and what lies between them; `flatMap_text_segments` says that
these pieces make up the text again.
-/

namespace BootTrial

/-- A piece of a description. -/
inductive Segment where
  /-- Text outside the markers. -/
  | plain (text : List Char)
  /-- A marker with its brackets. -/
  | marker (text : List Char)
  deriving DecidableEq, Repr

/-- The pieces of a text, in order. A marker runs from an opening bracket to the next closing one.
-/
def segments (cs : List Char) : List Segment :=
  match _ : cs.dropWhile (· ≠ '[') with
  | [] => [.plain cs]
  | opening :: inside =>
    match _ : inside.dropWhile (· ≠ ']') with
    | [] => [.plain cs]
    | closing :: after =>
      .plain (cs.takeWhile (· ≠ '['))
        :: .marker (opening :: inside.takeWhile (· ≠ ']') ++ [closing])
        :: segments after
termination_by cs.length
decreasing_by
  have h₁ := (List.dropWhile_sublist (· ≠ '[') (l := cs)).length_le
  have h₂ := (List.dropWhile_sublist (· ≠ ']') (l := inside)).length_le
  simp_all
  omega

/-- The text of a piece. -/
def Segment.text : Segment → List Char
  | .plain text | .marker text => text

/-- The pieces of a text make it up. -/
theorem flatMap_text_segments (cs : List Char) : (segments cs).flatMap Segment.text = cs := by
  fun_induction segments cs with
  | case1 => simp [Segment.text]
  | case2 => simp [Segment.text]
  | case3 cs opening inside hopen closing after hclose ih =>
    have h₁ := List.takeWhile_append_dropWhile (p := (· ≠ '[')) (l := cs)
    have h₂ := List.takeWhile_append_dropWhile (p := (· ≠ ']')) (l := inside)
    simp_all [Segment.text]

/-- A piece as it is shown. -/
def Segment.shown (color : Bool) : Segment → String
  | .plain text => String.ofList text
  | .marker text => Text.styled color .boldRed (String.ofList text)

/-- A description with its markers in color. -/
def highlight (color : Bool) (description : String) : String :=
  String.join ((segments description.toList).map (·.shown color))

end BootTrial
