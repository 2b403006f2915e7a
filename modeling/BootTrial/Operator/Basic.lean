import BootTrial.Response.Menu

/-!
# The operator

Whoever chooses from a menu. Each menu enters the history of the bench before it is answered.
-/

namespace BootTrial

/-- An operator, as the choices made. -/
structure Operator where
  /-- Chooses from a menu under a title: a description, or nothing. -/
  choose : (title : String) → (menu : Menu) → Work (Option String)

/-- Puts a menu in front of the operator. -/
def Operator.ask (operator : Operator) (title : String) (menu : Menu) : Work (Option String) := do
  Bench.record (.presented title menu.descriptions)
  operator.choose title menu

end BootTrial
