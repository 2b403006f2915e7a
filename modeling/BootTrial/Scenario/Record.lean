import BootTrial.Named
import BootTrial.Scenario.Name

/-!
# Scenario records

A scenario is one row of a scenario table: named texts in the order of the columns, no name twice. A
name with a question mark in it is that of a placeholder. Placeholders stay in the record but name
no directory and show up in no report; the other fields are concrete.

`nodup_names_ofFields` says that no name stands twice, however the fields were set.
-/

namespace BootTrial

/-- Whether a column takes part in naming and reporting. -/
def isConcrete (name : String) : Bool :=
  !name.toList.contains '?'

/-- A scenario: its fields, in the order of the columns. -/
structure Scenario where
  /-- Names and values. -/
  fields : Named String := []
  deriving DecidableEq, Repr

namespace Scenario

/-- The record with `value` under `name`. -/
def set (record : Scenario) (name value : String) : Scenario :=
  ⟨Named.set name value record.fields⟩

/-- The record that results from setting fields one after the other. -/
def ofFields (fields : List (String × String)) : Scenario :=
  fields.foldl (fun record field => record.set field.1 field.2) {}

/-- The record of a row under a header. -/
def ofRow (header row : List String) : Scenario :=
  ofFields (header.zip row)

/-- The value of a field. -/
def get? (record : Scenario) (name : String) : Option String :=
  record.fields.lookup name

/-- The names, in order. -/
def names (record : Scenario) : List String :=
  record.fields.map (·.1)

/-- The values, in order. -/
def values (record : Scenario) : List String :=
  record.fields.map (·.2)

/-- The fields that are no placeholders. -/
def concreteFields (record : Scenario) : List (String × String) :=
  record.fields.filter (isConcrete ·.1)

/-- The record without its placeholders. -/
def concrete (record : Scenario) : Scenario :=
  ofFields record.concreteFields

/-- The title of the menu for a test: each concrete field with its value. -/
def title (record : Scenario) : String :=
  ", ".intercalate (record.concreteFields.map fun (name, value) => name ++ ":" ++ value)

/-- The part of a directory name that shows the concrete fields. -/
def fragment (record : Scenario) : String :=
  "__".intercalate
    (record.concreteFields.map fun (name, value) => normalName name ++ "-" ++ normalName value)

/-- The record as it is shown in messages. -/
def shown (record : Scenario) : String :=
  "\x7b" ++ ", ".intercalate (record.fields.map fun (name, value) => name ++ "=" ++ value)
    ++ "\x7d"

/-- A field that has been set has its value. -/
@[simp] theorem get?_set_self (record : Scenario) (name value : String) :
    (record.set name value).get? name = some value :=
  Named.lookup_set_self name value record.fields

/-- Setting a field leaves the values of the others alone. -/
theorem get?_set_of_ne {name other : String} (h : other ≠ name) (record : Scenario)
    (value : String) : (record.set name value).get? other = record.get? other :=
  Named.lookup_set_of_ne h value record.fields

/-- Setting a field keeps the order of the names, and a new name comes last. -/
theorem names_set (record : Scenario) (name value : String) :
    (record.set name value).names
      = if name ∈ record.names then record.names else record.names ++ [name] :=
  Named.names_set name value record.fields

/-- No name stands twice in a record that results from setting fields. -/
theorem nodup_names_ofFields (fields : List (String × String)) :
    (ofFields fields).names.Nodup := by
  suffices ∀ record : Scenario, record.names.Nodup →
      (fields.foldl (fun record field => record.set field.1 field.2) record).names.Nodup from
    this {} (by simp [names])
  induction fields with
  | nil => exact fun _ h => h
  | cons field rest ih =>
    exact fun record h => ih _ (Named.nodup_names_set field.1 field.2 h)

end Scenario

end BootTrial
