import BootTrial.Bench.Basic

/-!
# What the terminal delivers

The program takes what the terminal delivers in large pieces and keeps what it has not used yet; a
tool that reads from the terminal gets what the program has not taken.
-/

namespace BootTrial.Bench

/-- The most octets that the terminal delivers to the program at a time. -/
def deliverySize : Nat := 8192

/-- What the program can still read. -/
def readable (bench : Bench) : Text.Bytes :=
  bench.held ++ bench.input

/-- The number of octets that are delivered for the program to have `n` more. -/
def deliveryFor (n : Nat) : Nat :=
  (n + deliverySize - 1) / deliverySize * deliverySize

/-- Uses up octets that the program has read. -/
def useInput (n : Nat) : StateM Bench Unit :=
  modify fun bench =>
    let missing := n - bench.held.length
    let delivered := deliveryFor missing
    { bench with
      held := (bench.held ++ bench.input.take delivered).drop n
      input := bench.input.drop delivered }

/-- A delivery is at least as much as is asked for. -/
theorem le_deliveryFor (n : Nat) : n ≤ deliveryFor n := by
  simp only [deliveryFor, deliverySize]
  omega

/-- What is taken from the front of a list and dropped from it again is dropped from the list. -/
theorem drop_take_append_drop {α : Type} {m d : Nat} (h : m ≤ d) (l : List α) :
    (l.take d).drop m ++ l.drop d = l.drop m := by
  have : l.drop d = (l.drop m).drop (d - m) := by rw [List.drop_drop, Nat.add_sub_cancel' h]
  rw [List.drop_take, this, List.take_append_drop]

/-- Using up octets leaves the program all that stands behind them. -/
theorem readable_useInput (n : Nat) (bench : Bench) :
    ((useInput n).run bench).2.readable = bench.readable.drop n := by
  have h := le_deliveryFor (n - bench.held.length)
  show (bench.held ++ bench.input.take (deliveryFor (n - bench.held.length))).drop n
      ++ bench.input.drop (deliveryFor (n - bench.held.length))
    = (bench.held ++ bench.input).drop n
  simp only [List.drop_append, List.append_assoc, drop_take_append_drop h]

end BootTrial.Bench
