/-!
# How tools end
-/

namespace BootTrial.Tool

/-- How a tool ended. -/
inductive Exit where
  /-- By itself, with a code. -/
  | code (n : Nat)
  /-- By a signal, given by its number. -/
  | signal (n : Nat)
  deriving DecidableEq, Repr

/-- Whether a tool has succeeded. -/
def Exit.isSuccess (exit : Exit) : Bool :=
  exit = .code 0

/-- The way a tool ended, in words. -/
def Exit.words : Exit → String
  | .code n => "exited with code " ++ toString n
  | .signal _ => "terminated by signal"

/-- The code by which a script knows how a tool ended. -/
def Exit.status : Exit → Nat
  | .code n => n
  | .signal n => 128 + n

end BootTrial.Tool
