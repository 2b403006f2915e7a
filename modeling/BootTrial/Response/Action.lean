import BootTrial.Error
import BootTrial.Text.Blank
import BootTrial.Text.Quoted

/-!
# Actions

What the choice of a response does to a test. The set of actions is closed: each has a kind with a
name, under which response files refer to it, and the kind knows which parameters it takes.
-/

namespace BootTrial

/-- The kinds of action. -/
inductive ActionKind where
  | reboot
  | discard
  | writeResult
  | quit
  deriving DecidableEq, Repr

/-- An action with its parameters. -/
inductive Action where
  /-- Flush the disk, close the test, then restart the machine. -/
  | reboot
  /-- Delete the test without keeping a result. -/
  | discard
  /-- Write the operator's verdict into a column of the scenario. -/
  | writeResult (column result : String)
  /-- End the run and leave the test open. -/
  | quit
  deriving DecidableEq, Repr

namespace ActionKind

/-- Every kind, in the order in which they are listed. -/
def all : List ActionKind :=
  [.reboot, .discard, .writeResult, .quit]

/-- The name of a kind. -/
def name : ActionKind → String
  | .reboot => "reboot"
  | .discard => "discard"
  | .writeResult => "write_result"
  | .quit => "quit"

/-- The parameters that a kind takes. -/
def synopsis : ActionKind → String
  | .writeResult => "<column> <result>"
  | .reboot | .discard | .quit => ""

/-- What a kind is for. -/
def summary : ActionKind → String
  | .reboot => "Sync, finalize the test and reboot"
  | .discard => "Delete the running test without keeping a result"
  | .writeResult => "Write a result into a scenario column"
  | .quit => "Finish this run without writing a result"

/-- The kind of a name. -/
def named? (text : String) : Option ActionKind :=
  all.find? (·.name = text)

/-- The parameters of an action of this kind do not fit it. -/
def refuse {α : Type} (kind : ActionKind) (details : String) : Except Error α :=
  .error (.invalidParameters kind.name details)

/-- An action that takes no parameters. -/
def withoutParameters (kind : ActionKind) (action : Action) (params : List String) :
    Except Error Action :=
  if params.isEmpty then .ok action
  else kind.refuse ("takes no parameters, got " ++ Text.quotedList params)

/-- The column in a first parameter, which may have a comma behind it, as in `result, pass`. -/
def columnOf (param : String) : String :=
  Text.dropTrailing Text.isBlank (Text.dropTrailing (· = ',') (Text.trim param))

/-- The action of a kind with the given parameters. -/
def prepare (kind : ActionKind) (params : List String) : Except Error Action :=
  match kind with
  | .reboot => kind.withoutParameters .reboot params
  | .discard => kind.withoutParameters .discard params
  | .quit => kind.withoutParameters .quit params
  | .writeResult =>
    match params with
    | [column, result] =>
      if columnOf column = "" then kind.refuse "column must not be empty"
      else .ok (.writeResult (columnOf column) result)
    | _ => kind.refuse ("expected " ++ kind.synopsis ++ ", got " ++ Text.quotedList params)

end ActionKind

namespace Action

/-- The kind of an action. -/
def kind : Action → ActionKind
  | .reboot => .reboot
  | .discard => .discard
  | .writeResult _ _ => .writeResult
  | .quit => .quit

/-- The action as it is shown. -/
def shown : Action → String
  | .writeResult column result =>
    ActionKind.writeResult.name ++ "(" ++ column ++ "=" ++ result ++ ")"
  | action => action.kind.name

/-- The column that an action writes, if it writes one. -/
def column? : Action → Option String
  | .writeResult column _ => some column
  | .reboot | .discard | .quit => none

end Action

end BootTrial
