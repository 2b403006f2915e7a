import BootTrial.Operator.Basic

/-!
# A scripted operator

An operator whose answers are written down beforehand. Each menu takes the next of them, and once
there are none left no choice is made.
-/

namespace BootTrial

/-- Takes the next of the answers that are written down. -/
def Bench.takeAnswer : StateM Bench (Option String) := do
  let bench ← get
  match bench.answers with
  | [] => return none
  | answer :: rest =>
    set { bench with answers := rest }
    return some answer

/-- The operator who gives the answers that are written down. -/
def Operator.scripted : Operator where
  choose _ menu := do
    match ← Bench.takeAnswer with
    | none => return none
    | some answer =>
      match menu.choice? answer with
      | some entry => return some entry.description
      | none => throw (.internal ("Scripted answer '" ++ answer ++ "' is not on the menu"))

end BootTrial
