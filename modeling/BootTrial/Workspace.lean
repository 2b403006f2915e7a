import BootTrial.Settings

/-!
# The workspace

Where everything lies below the root of a workspace:

    templates/<template>/scenarios.csv
    templates/<template>/quick-responses.csv
    runtime/pending/<n>-<template>--<fields>/
    runtime/running/<n>-<template>--<fields>--<boot id>/
    results/<n>-<template>--<fields>--<boot id>/

The directory of a test is its state: a test is pending, running or completed as its directory lies
in one of the three roots. A batch is put together in a staging directory beside them.
-/

namespace BootTrial

/-- The layout of a workspace below its root. -/
structure Workspace where
  /-- The directory that everything lies in. -/
  root : Path
  deriving DecidableEq, Repr

/-- The name of the file that holds the scenario of a test. -/
def scenarioName : String := "scenario.csv"

/-- The name of the file that binds a test to a boot. -/
def bootIdName : String := "boot_id"

/-- The name of the file that holds the front of the names of a test's logs. -/
def prefixName : String := "prefix"

namespace Workspace

/-- The directory of all templates. -/
def templates (workspace : Workspace) : Path :=
  workspace.root.join "templates"

/-- The directory of a template. -/
def template (workspace : Workspace) (name : String) : Path :=
  workspace.templates.join name

/-- The scenario table of a template. -/
def scenarios (workspace : Workspace) (name : String) : Path :=
  (workspace.template name).join "scenarios.csv"

/-- The response file of a template. -/
def responses (workspace : Workspace) (name : String) : Path :=
  (workspace.template name).join "quick-responses.csv"

/-- The directory of all tests that are not completed. -/
def runtime (workspace : Workspace) : Path :=
  workspace.root.join "runtime"

/-- The root of the tests that wait. -/
def pending (workspace : Workspace) : Path :=
  workspace.runtime.join "pending"

/-- The root of the tests that have been begun. -/
def running (workspace : Workspace) : Path :=
  workspace.runtime.join "running"

/-- Where a batch is put together. -/
def staging (workspace : Workspace) : Path :=
  workspace.runtime.join ".staging"

/-- The root of the tests that are completed. -/
def results (workspace : Workspace) : Path :=
  workspace.root.join "results"

/-- The name of the log of the program. -/
def logName : String := "bootrun.log"

/-- The log of the program. -/
def log (workspace : Workspace) : Path :=
  workspace.runtime.join logName

end Workspace

namespace Settings

/-- The workspace that the settings name. -/
def workspace (settings : Settings) : Workspace :=
  ⟨settings.root⟩

/-- Checks that the template is there. -/
def requireTemplate (settings : Settings) : Work Unit := do
  let dir := settings.workspace.template settings.template
  if settings.template = "" then throw (.settings "template name must not be empty")
  else if (← get).hasDir dir then pure ()
  else throw (.missingTemplate settings.template dir)

end Settings

end BootTrial
