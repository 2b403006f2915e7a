import BootTrial.Error
import BootTrial.Text.Blank

/-!
# Conditions

Named facts about a test in progress. A response may depend on one of them; a response without a
condition always applies.
-/

namespace BootTrial

/-- The conditions known for a test, the latest setting of a name first. -/
structure Conditions where
  /-- Names and whether they hold. -/
  known : List (String × Bool) := []
  deriving DecidableEq, Repr

namespace Conditions

/-- The condition that holds while the machine is still in the boot in which the test was claimed.
-/
def sameBoot : String := "is_current_boot"

/-- The conditions with a name set. -/
def set (conditions : Conditions) (name : String) (holds : Bool) : Conditions :=
  ⟨(name, holds) :: conditions.known⟩

/-- The conditions known for a test. -/
def ofBoot (isSame : Bool) : Conditions :=
  Conditions.set {} sameBoot isSame

/-- Whether a condition holds. The empty condition always does. -/
def holds (conditions : Conditions) (raw : String) : Except Error Bool :=
  let name := Text.trim raw
  if name = "" then .ok true
  else
    match conditions.known.lookup name with
    | some value => .ok value
    | none => .error (.unknownCondition name)

end Conditions

end BootTrial
