import BootTrial.Named

/-!
# Values of a settings file

A settings file is a table of named values. Numbers and dates are kept without their content, since
no setting takes one. A table remembers how it came to be, because that decides what may still be
added to it.
-/

namespace BootTrial.Toml

/-- How a table came to be. -/
inductive Origin where
  /-- A header of its own opened it. -/
  | header
  /-- A header named it on the way to another table. -/
  | passage
  /-- A dotted key named it on the way to a value. -/
  | dotted
  /-- It was written in one piece between braces. -/
  | braces
  deriving DecidableEq, Repr

/-- A value. -/
inductive Value where
  /-- A text. -/
  | string (text : String)
  /-- A truth value. -/
  | boolean (value : Bool)
  /-- A number with or without a fraction. -/
  | number
  /-- A date, a time, or both. -/
  | moment
  /-- Values between square brackets. -/
  | array (items : List Value)
  /-- Tables that repeated headers have opened, one after the other. -/
  | tables (items : List (List (String × Value)))
  /-- A table. -/
  | table (origin : Origin) (entries : List (String × Value))

/-- The entries of a table. -/
abbrev Entries := Named Value

/-- The entries with a new name, which must not be there yet. -/
def Entries.insertNew (name : String) (value : Value) (entries : Entries) : Option Entries :=
  match entries.lookup name with
  | some _ => none
  | none => some (entries ++ [(name, value)])

/-- Follows names from table to table and changes the entries of the last one. A missing table on
the way is made. Values and tables between braces are no way; by dotted keys, neither is a table
with a header. Of tables under one repeated header the latest is meant. -/
def within (isDotted : Bool) (change : Origin → Entries → Option Entries) :
    List String → Origin → Entries → Option Entries
  | [], origin, entries => change origin entries
  | name :: rest, _, entries =>
    match entries.lookup name with
    | none =>
      let origin : Origin := if isDotted then .dotted else .passage
      (within isDotted change rest origin []).map fun inner =>
        entries ++ [(name, .table origin inner)]
    | some (.table origin inner) =>
      if origin = .braces || (isDotted && origin = .header) then none
      else
        (within isDotted change rest origin inner).map fun inner =>
          Named.set name (.table origin inner) entries
    | some (.tables items) =>
      match items.reverse with
      | [] => none
      | latest :: before =>
        (within isDotted change rest .header latest).map fun inner =>
          Named.set name (.tables (inner :: before).reverse) entries
    | some _ => none

/-- The entries of a table with a value under a dotted key. What a dotted key leads to must have
been made by dotted keys, and the last name must be new. -/
def Entries.insertAt (path : List String) (name : String) (value : Value) (entries : Entries) :
    Option Entries :=
  within true (fun origin inner =>
    if path.isEmpty || origin = .dotted then inner.insertNew name value else none)
    path .header entries

/-- The entries with a table opened by its header. A table that was named only on the way to another
may still be opened, any other that is there already may not. -/
def Entries.openTable (path : List String) (name : String) (entries : Entries) : Option Entries :=
  within false (fun _ inner =>
    match inner.lookup name with
    | none => some (inner ++ [(name, .table .header [])])
    | some (.table .passage known) => some (Named.set name (.table .header known) inner)
    | some _ => none)
    path .header entries

/-- The entries with one more table under a repeated header. -/
def Entries.openNext (path : List String) (name : String) (entries : Entries) : Option Entries :=
  within false (fun _ inner =>
    match inner.lookup name with
    | none => some (inner ++ [(name, .tables [[]])])
    | some (.tables items) => some (Named.set name (.tables (items ++ [[]])) inner)
    | some _ => none)
    path .header entries

end BootTrial.Toml
