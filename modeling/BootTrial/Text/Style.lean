/-!
# Styled text

Text in color for a terminal: the code of the style, the text, and the code that ends it. Where the
text itself ends a style, the outer one is begun anew behind it. Without color a style changes
nothing.
-/

namespace BootTrial.Text

/-- The styles in use. -/
inductive Style where
  | bold
  | cyan
  | red
  | boldRed
  | boldWhite

/-- The parameters of the terminal code that begins a style. -/
def Style.parameters : Style → String
  | .bold => "1"
  | .cyan => "36"
  | .red => "31"
  | .boldRed => "1;31"
  | .boldWhite => "1;37"

/-- The terminal code that begins a style. -/
def Style.opening (style : Style) : List Char :=
  '\x1b' :: '[' :: style.parameters.toList ++ ['m']

/-- The terminal code that ends every style. -/
def resetCode : List Char :=
  ['\x1b', '[', '0', 'm']

/-- The text with the opening code repeated behind every reset in it. -/
def reopen (code : List Char) : List Char → List Char
  | '\x1b' :: '[' :: '0' :: 'm' :: rest => resetCode ++ code ++ reopen code rest
  | c :: rest => c :: reopen code rest
  | [] => []

/-- A text in a style, if the terminal shows colors. -/
def styled (color : Bool) (style : Style) (s : String) : String :=
  if color then
    String.ofList (style.opening ++ reopen style.opening s.toList ++ resetCode)
  else s

end BootTrial.Text
