import BootTrial.Proofs.Closing
import BootTrial.Proofs.Sheet

/-!
# The actions of a choice

`Action.deeds` lists the actions that are carried out, each with the bench on which it was begun and
with what came of it: they are those of the choice, in order, up to the first that fails.

The first of them that is a `quit`, a `discard` or a restart whose flush of the disk has succeeded
decides what becomes of the test (`Deed.fate?`). `Trial.Reached` says what this means for the trial
and for the files, and `Trial.IsOpen.act_runAll` that it is so after the actions, whichever they are
and wherever they fail. Up to the decision the scenario file holds the scenario with the results
that have been written; after it the files do not change any more.
-/

namespace BootTrial

/-- What becomes of a test in its run. -/
inductive Fate where
  /-- It is left where it is. -/
  | left
  /-- It is deleted. -/
  | discarded
  /-- It goes to the results. -/
  | completed
  deriving DecidableEq, Repr

/-- An action that has been carried out. -/
structure Deed where
  /-- The action. -/
  action : Action
  /-- The bench on which it was begun. -/
  before : Bench
  /-- What came of it. -/
  outcome : Except Error Unit

namespace Deed

/-- What a deed decides about the test, if it decides. A restart does so once the disk has been
flushed. -/
def fate? (machine : Machine) (deed : Deed) : Option Fate :=
  match deed.action with
  | .quit => some .left
  | .discard => some .discarded
  | .reboot => if (deed.before.perform (machine.ask .sync)).1.isOk then some .completed else none
  | .writeResult _ _ => none

/-- The scenario with what a deed has written into it. -/
def write (scenario : Scenario) (deed : Deed) : Scenario :=
  match deed.action, deed.outcome with
  | .writeResult column result, .ok () => scenario.set column result
  | _, _ => scenario

/-- What came of some deeds: the first failure, if there is one. -/
def outcomeOf (deeds : List Deed) : Except Error Unit :=
  forM deeds (·.outcome)

/-- What came of a deed and others behind it. -/
theorem outcomeOf_cons_ok {deed : Deed} (h : deed.outcome = .ok ()) (rest : List Deed) :
    outcomeOf (deed :: rest) = outcomeOf rest := by
  rw [outcomeOf, List.forM_cons, h]
  rfl

/-- What came of a single deed. -/
theorem outcomeOf_singleton (deed : Deed) : outcomeOf [deed] = deed.outcome := by
  rw [outcomeOf, List.forM_cons]
  cases deed.outcome <;> rfl

end Deed

namespace Action

/-- The actions that are carried out, up to the first that fails. -/
def deeds (machine : Machine) : List Action → Trial → Bench → List Deed
  | [], _, _ => []
  | action :: rest, trial, bench =>
    match bench.act trial (action.run machine) with
    | (.ok (), trial', after) => ⟨action, bench, .ok ()⟩ :: deeds machine rest trial' after
    | (.error failure, _, _) => [⟨action, bench, .error failure⟩]

variable {machine : Machine} {action : Action} {trial trial' : Trial} {bench after : Bench}

/-- The deeds of an action that succeeds and of others. -/
theorem deeds_cons_ok (h : bench.act trial (action.run machine) = (.ok (), trial', after))
    (rest : List Action) :
    deeds machine (action :: rest) trial bench
      = ⟨action, bench, .ok ()⟩ :: deeds machine rest trial' after := by
  rw [deeds, h]

/-- The deeds of an action that fails. -/
theorem deeds_cons_error {failure : Error}
    (h : bench.act trial (action.run machine) = (.error failure, trial', after))
    (rest : List Action) :
    deeds machine (action :: rest) trial bench = [⟨action, bench, .error failure⟩] := by
  rw [deeds, h]

/-- The actions are carried out in order, up to and with the first that fails. -/
theorem deeds_spec (machine : Machine) (actions : List Action) (trial : Trial) (bench : Bench) :
    (deeds machine actions trial bench).map (·.action) <+: actions
      ∧ (∀ deed ∈ (deeds machine actions trial bench).dropLast, deed.outcome = .ok ())
      ∧ (Deed.outcomeOf (deeds machine actions trial bench) = .ok () →
        (deeds machine actions trial bench).map (·.action) = actions) := by
  induction actions generalizing trial bench with
  | nil => exact ⟨List.nil_prefix, by simp [deeds], fun _ => rfl⟩
  | cons action rest ih =>
    rcases h : bench.act trial (action.run machine) with ⟨failure | _, trial', after⟩
    · rw [deeds_cons_error h, Deed.outcomeOf_singleton]
      exact ⟨⟨rest, rfl⟩, by simp, fun h => by cases h⟩
    · obtain ⟨hbegins, hok, hall⟩ := ih trial' after
      rw [deeds_cons_ok h, Deed.outcomeOf_cons_ok rfl]
      refine ⟨?_, fun deed hmem => ?_, fun houtcome => ?_⟩
      · rw [List.map_cons, List.cons_prefix_cons]
        exact ⟨rfl, hbegins⟩
      · cases hdeeds : deeds machine rest trial' after with
        | nil => simp [hdeeds] at hmem
        | cons second others =>
          rw [hdeeds, List.dropLast_cons_cons] at hmem
          rcases List.mem_cons.mp hmem with rfl | hmem
          · rfl
          · exact hok deed (by rwa [hdeeds])
      · rw [List.map_cons, hall houtcome]

end Action

namespace Scenario

/-- Whether the first name begins with a byte order mark, which the reader of a table passes over. -/
def IsMarked (scenario : Scenario) : Prop :=
  ∃ name, scenario.names.head? = some name ∧ name.toList.head? = some '\uFEFF'

/-- A header does not lose a byte order mark if there is none. -/
theorem losesMark_of_not_isMarked {scenario : Scenario} (h : ¬ scenario.IsMarked) :
    Table.losesMark scenario.names = false :=
  Table.losesMark_eq_false fun name hfirst hmark => h ⟨name, hfirst, hmark⟩

/-- A scenario stands in the scenario file of a test. One whose first name begins with a byte order
mark is not read as it was written, but no name stands twice in it either. -/
structure StandsIn (scenario : Scenario) (header : List String) (d : Place) (files : Node) :
    Prop where
  /-- No name stands twice. -/
  nodup : scenario.names.Nodup
  /-- The header names a column. -/
  named : ScenarioTable.isBlankHeader header = false
  /-- The file. -/
  file : ∃ content runnable, files.get? (d ++ [scenarioName]) = some (.file content runnable)
    ∧ (¬ scenario.IsMarked → IsRead content header scenario)

/-- The scenario file of a test holds the table of a scenario, octet for octet. -/
def IsIn (scenario : Scenario) (d : Place) (files : Node) : Prop :=
  ∃ runnable, files.get? (d ++ [scenarioName])
    = some (.file (scenario.tableBytes scenario.names) runnable)

variable {scenario : Scenario} {header : List String} {d e : Place} {before after : Node}

/-- A scenario stands where its file stands. -/
theorem StandsIn.of_get? (h : scenario.StandsIn header d before)
    (hfile : after.get? (e ++ [scenarioName]) = before.get? (d ++ [scenarioName])) :
    scenario.StandsIn header e after := by
  obtain ⟨content, runnable, hget, hread⟩ := h.file
  exact ⟨h.nodup, h.named, content, runnable, hfile.trans hget, hread⟩

/-- A scenario that has been written in the place of another stands in the file. -/
theorem StandsIn.written {other : Scenario} (h : scenario.StandsIn header d before)
    (hnodup : other.names.Nodup) (hnames : other.names = header) {runnable : Bool}
    (hfile : after.get? (d ++ [scenarioName])
      = some (.file (other.tableBytes header) runnable)) :
    other.StandsIn header d after := by
  refine ⟨hnodup, h.named, _, runnable, hfile, fun hmark => ?_⟩
  subst hnames
  exact isRead_tableBytes hnodup h.named (losesMark_of_not_isMarked hmark)

/-- Setting a field of a scenario that has one keeps the first name. -/
theorem head?_names_set (h : scenario.names ≠ []) (column result : String) :
    (scenario.set column result).names.head? = scenario.names.head? := by
  rw [names_set]
  split
  · rfl
  · obtain ⟨first, rest, hcons⟩ := List.exists_cons_of_ne_nil h
    rw [hcons]
    rfl

/-- What deeds write keeps the first name. -/
theorem head?_names_written (h : scenario.names ≠ []) (deeds : List Deed) :
    (deeds.foldl Deed.write scenario).names.head? = scenario.names.head? := by
  induction deeds generalizing scenario with
  | nil => rfl
  | cons deed rest ih =>
    have hfirst : (Deed.write scenario deed).names.head? = scenario.names.head? := by
      unfold Deed.write
      split
      · exact head?_names_set h _ _
      · rfl
    have hne : (Deed.write scenario deed).names ≠ [] := by
      intro hnil
      rw [hnil, List.head?_nil, eq_comm, List.head?_eq_none_iff] at hfirst
      exact h hfirst
    rw [List.foldl_cons, ih hne, hfirst]

end Scenario

end BootTrial
