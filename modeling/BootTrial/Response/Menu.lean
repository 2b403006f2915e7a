import BootTrial.Response.Action
import BootTrial.Response.Condition
import BootTrial.Response.Hotkey
import BootTrial.Response.Basic
import BootTrial.Scenario.Table
import BootTrial.Text.ShellWords

/-!
# The menu

The response rows of a template, compiled into the menu that an operator chooses from. Every row is
checked, whether or not its condition holds: its action, its parameters and the columns they name,
and its condition. Only rows whose condition holds reach the menu. Rows with one description form
one entry, whose actions run in the order of the rows, and no hotkey may stand for two descriptions.
-/

namespace BootTrial

/-- An entry of the menu. -/
structure Menu.Entry where
  /-- What the operator reads. -/
  description : String
  /-- What its choice does, in order. -/
  actions : List Action
  deriving DecidableEq, Repr

/-- A compiled menu. -/
structure Menu where
  /-- The entries, in the order in which their descriptions first appear. -/
  entries : List Menu.Entry := []
  /-- What each hotkey stands for, by code point. -/
  hotkeys : List (Char × String) := []
  deriving DecidableEq, Repr

namespace Menu

/-- The descriptions, in order. -/
def descriptions (menu : Menu) : List String :=
  menu.entries.map (·.description)

/-- Whether there is nothing to choose. -/
def isEmpty (menu : Menu) : Bool :=
  menu.entries.isEmpty

/-- The entry with a description. -/
def entryFor? (menu : Menu) (description : String) : Option Menu.Entry :=
  menu.entries.find? (·.description = description)

/-- The actions of a description, none if it is not on the menu. -/
def actionsOf (menu : Menu) (description : String) : List Action :=
  (menu.entryFor? description).elim [] (·.actions)

/-- What a hotkey stands for, in either case. -/
def descriptionOfKey? (menu : Menu) (key : Char) : Option String :=
  (foldKey key).bind fun folded => menu.hotkeys.lookup folded

/-- The entry that an operator's input means: that of a single hotkey, or of a whole description. -/
def choice? (menu : Menu) (input : String) : Option Menu.Entry :=
  let byKey :=
    match input.toList with
    | [key] => menu.descriptionOfKey? key
    | _ => none
  menu.entryFor? (byKey.getD input)

/-- The bindings with `key` bound, in order of code points. -/
def insertKey (key : Char) (description : String) : List (Char × String) → List (Char × String)
  | [] => [(key, description)]
  | (other, bound) :: rest =>
    if key.toNat < other.toNat then (key, description) :: (other, bound) :: rest
    else (other, bound) :: insertKey key description rest

/-- The bindings with every key of `keys` bound to a description. The first key that stands for
another description already is a failure. -/
def bindKeys (description : String) (bindings : List (Char × String)) :
    List Char → Except Error (List (Char × String))
  | [] => .ok bindings
  | key :: rest =>
    match bindings.lookup key with
    | none => bindKeys description (insertKey key description bindings) rest
    | some existing =>
      if existing = description then bindKeys description bindings rest
      else .error (.hotkeyCollision key existing description)

/-- The entries with an action added to a description, which becomes the last entry if it is new. -/
def addAction (description : String) (action : Action) : List Menu.Entry → List Menu.Entry
  | [] => [⟨description, [action]⟩]
  | entry :: rest =>
    if entry.description = description then
      { entry with actions := entry.actions ++ [action] } :: rest
    else entry :: addAction description action rest

/-- The menu with an action added to a description and the hotkeys of the description bound. -/
def add (menu : Menu) (description : String) (action : Action) : Except Error Menu :=
  match bindKeys description menu.hotkeys (BootTrial.hotkeys description) with
  | .ok bindings => .ok ⟨addAction description action menu.entries, bindings⟩
  | .error failure => .error failure

end Menu

/-- The action of a row: its kind by name, its parameters by word. -/
def Response.prepare (row : Response) : Except Error Action :=
  match ActionKind.named? (Text.trim row.action) with
  | none => .error (.unknownAction row.action)
  | some kind =>
    match Text.shellWords? row.params with
    | none => kind.refuse ("cannot tokenize '" ++ row.params ++ "'")
    | some params => kind.prepare params

/-- Checks that the scenario table at `schema` has the column that an action writes. -/
def Action.verify (action : Action) (schema : Path) : Work Unit :=
  match action.column? with
  | some column => ScenarioTable.requireColumn schema column
  | none => pure ()

namespace Menu

/-- The menu with a row added, if its condition holds. -/
def addRow (conditions : Conditions) (schema : Path) (menu : Menu) (row : Response) :
    Work Menu := do
  let action ← Work.ofExcept row.prepare
  action.verify schema
  if ← Work.ofExcept (conditions.holds row.condition) then
    Work.ofExcept (menu.add row.description action)
  else return menu

/-- The menu of a list of rows, for tests of the scenario table at `schema`. -/
def ofResponses (rows : List Response) (conditions : Conditions) (schema : Path) : Work Menu :=
  rows.foldlM (addRow conditions schema) {}

/-- The menu of the response file at `path`. -/
def ofFile (path : Path) (conditions : Conditions) (schema : Path) : Work Menu := do
  ofResponses (← Response.readAll path) conditions schema

end Menu

end BootTrial
