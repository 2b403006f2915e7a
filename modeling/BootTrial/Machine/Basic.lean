import BootTrial.Bench.Basic

/-!
# The machine under test

Whatever touches the machine itself goes through one function that answers requests. Each request
enters the history of the bench before it is answered.
-/

namespace BootTrial

/-- A machine, as the answers that it gives. -/
structure Machine where
  /-- Does what is asked, and replies. -/
  answer : (request : Request) → Work request.Reply

/-- Asks the machine. -/
def Machine.ask (machine : Machine) (request : Request) : Work request.Reply := do
  Bench.record (.asked request)
  machine.answer request

end BootTrial
