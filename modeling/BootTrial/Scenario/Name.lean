import BootTrial.Text.Alphabetic
import BootTrial.Text.DecimalDigit
import BootTrial.Text.LowerCase

/-!
# Names in normal form

Column names and values as they appear in the name of a test directory: in lower case, with every
run of characters that are neither letters nor decimal digits replaced by one underscore.
-/

namespace BootTrial

/-- Whether a character may stand in a normal name for itself. -/
def isNameChar (c : Char) : Bool :=
  Text.isAlphabetic c || Text.isDecimalDigit c

/-- The text with every run of other characters replaced by one underscore. `inRun` says that the
character in front belongs to such a run. -/
def collapseFrom (inRun : Bool) : List Char → List Char
  | [] => []
  | c :: rest =>
    if isNameChar c then c :: collapseFrom false rest
    else if inRun then collapseFrom true rest
    else '_' :: collapseFrom true rest

/-- The normal form of a column name or a value. -/
def normalName (s : String) : String :=
  String.ofList (Text.lowerCase (collapseFrom false s.toList))

end BootTrial
