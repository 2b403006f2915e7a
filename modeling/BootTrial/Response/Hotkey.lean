import BootTrial.Text.LowerCase

/-!
# Hotkeys

A description marks its hotkeys with square brackets: in `Fail [f] / [X]` they are `f` and `x`. A
marker runs from an opening bracket to the next closing one, an opening bracket that is never closed
marks nothing, and case does not matter.
-/

namespace BootTrial

/-- The characters inside the markers of a text. `mark` is what has been read of the marker that is
open, if one is, last character first. -/
def markedFrom (mark : Option (List Char)) : List Char → List Char
  | [] => []
  | c :: rest =>
    match mark with
    | none => markedFrom (if c = '[' then some [] else none) rest
    | some chars =>
      if c = ']' then chars.reverse ++ markedFrom none rest
      else markedFrom (some (c :: chars)) rest

/-- The hotkeys that a description marks, in lower case. -/
def hotkeys (description : String) : List Char :=
  Text.lowerCase (markedFrom none description.toList)

/-- The key under which an operator's key is looked up: the first character of its lower-case
form. -/
def foldKey (key : Char) : Option Char :=
  (Text.lowerChar key).head?

end BootTrial
