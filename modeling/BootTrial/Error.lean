import BootTrial.File.Fault
import BootTrial.File.Path

/-!
# Errors

The ways in which work on a test can fail, their classes and their wording. A message is shown to
the operator as it is, so it names the file or the row at fault.
-/

namespace BootTrial

/-- A failure, with what the operator has to know of it. -/
inductive Error where
  /-- The fields of a record do not fit the header of a file. -/
  | schema (path : Path) (details : String)
  /-- A column is none of those of the scenario table. -/
  | unknownColumn (column : String) (file : Path)
  /-- A scenario file cannot be read as one. -/
  | malformedScenario (path : Path) (details : String)
  /-- A file that should hold one scenario holds more. -/
  | multipleScenarios (path : Path)
  /-- A response names no action. -/
  | unknownAction (name : String)
  /-- A response names no condition. -/
  | unknownCondition (name : String)
  /-- An action cannot take its parameters. -/
  | invalidParameters (action details : String)
  /-- One hotkey stands for two descriptions. -/
  | hotkeyCollision (key : Char) (existing conflicting : String)
  /-- A response file cannot be read as one. -/
  | malformedResponses (path : Path) (details : String)
  /-- A setting that cannot be used. -/
  | settings (details : String)
  /-- A settings file that cannot be read as one. -/
  | malformedSettings
  /-- The template is missing. -/
  | missingTemplate (name : String) (path : Path)
  /-- Tests are waiting, so no others may be enrolled. -/
  | pendingTests (path : Path)
  /-- No test is waiting. -/
  | noPendingTests (path : Path)
  /-- A test is bound to no boot. -/
  | missingBootId (path : Path)
  /-- A test is closed and may no longer be changed. -/
  | alreadyClosed (path : Path)
  /-- A command cannot be found. -/
  | commandNotFound (command details : String)
  /-- A command has failed. -/
  | commandFailed (command details : String)
  /-- An operation on a file has failed. -/
  | io (details : String)
  /-- A file cannot be read. -/
  | fileRead (path details : String)
  /-- A table cannot be read or written. -/
  | table (details : String)
  /-- Something that should not happen. -/
  | internal (details : String)
  deriving DecidableEq, Repr

namespace Error

/-- The class of a failure. -/
def code : Error → String
  | .schema .. | .unknownColumn .. => "SCHEMA_ERROR"
  | .malformedScenario .. => "MALFORMED_SCENARIO_FILE"
  | .multipleScenarios .. => "MULTIPLE_SCENARIO_ROWS"
  | .unknownAction .. | .unknownCondition .. | .invalidParameters .. | .hotkeyCollision ..
  | .malformedResponses .. | .settings .. | .malformedSettings => "CONFIGURATION_ERROR"
  | .missingTemplate .. => "MISSING_TEMPLATE"
  | .pendingTests .. => "PENDING_TESTS_EXIST"
  | .noPendingTests .. | .missingBootId .. | .alreadyClosed .. => "LIFECYCLE_ERROR"
  | .commandNotFound .. | .commandFailed .. => "COMMAND_FAILED"
  | .io .. | .fileRead .. | .table .. => "IO_ERROR"
  | .internal .. => "INTERNAL_ERROR"

/-- The wording of a failure. -/
def message : Error → String
  | .schema path details => "Scenario schema mismatch in '" ++ path.text ++ "': " ++ details
  | .unknownColumn column file =>
    "Unknown scenario column '" ++ column ++ "' (not a header of '" ++ file.text ++ "')"
  | .malformedScenario path details =>
    "Malformed scenario file '" ++ path.text ++ "': " ++ details
  | .multipleScenarios path =>
    "Expected a single row in '" ++ path.text ++ "', but found more than one"
  | .unknownAction name => "Unknown action '" ++ name ++ "' in response definitions"
  | .unknownCondition name => "Unknown condition '" ++ name ++ "' in response definitions"
  | .invalidParameters action details =>
    "Invalid parameters for action '" ++ action ++ "': " ++ details
  | .hotkeyCollision key existing conflicting =>
    "Hotkey '" ++ key.toString ++ "' is used for multiple descriptions: '" ++ existing
      ++ "' and '" ++ conflicting ++ "'"
  | .malformedResponses path details =>
    "Invalid response file '" ++ path.text ++ "': " ++ details
  | .settings details => "Configuration error: " ++ details
  | .malformedSettings => "Invalid configuration file"
  | .missingTemplate name path =>
    "Template directory not found: '" ++ name ++ "' (looked in '" ++ path.text ++ "')"
  | .pendingTests path =>
    "There are pending tests in '" ++ path.text ++ "'. Run them before enrolling new tests"
  | .noPendingTests path => "No pending tests in '" ++ path.text ++ "'"
  | .missingBootId path =>
    "Test directory '" ++ path.text ++ "' has no boot id and none can be recovered from its name"
  | .alreadyClosed path =>
    "Test '" ++ path.text ++ "' is already finalized and can no longer be changed"
  | .commandNotFound command details => "Command '" ++ command ++ "' not found: " ++ details
  | .commandFailed command details => "Command '" ++ command ++ "' failed: " ++ details
  | .io details => "IO error: " ++ details
  | .fileRead path details => "Failed to read file '" ++ path ++ "': " ++ details
  | .table details => "CSV error: " ++ details
  | .internal details => "Internal error: " ++ details

/-- The failure of an operation on a file. -/
def ofFault (fault : FileFault) : Error :=
  .io fault.message

/-- The failure to read the file at `path`. -/
def unreadable (path : Path) (fault : FileFault) : Error :=
  .fileRead path.text fault.message

/-- The failure to open, read or create a table. -/
def ofTableFault (fault : FileFault) : Error :=
  .table fault.message

end Error

end BootTrial
