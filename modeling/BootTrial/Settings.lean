import BootTrial.Bench.Files
import BootTrial.Toml.Document

/-!
# Settings

What an operator can set: the template at work, where the workspace lies, the columns that a report
adds, and the tools of the machine. Every setting has a default, and what a settings file does not
name keeps it. Unknown names are passed over.

A section is usually a table. It may also be a list, whose items are the settings in the order in
which the section declares them.
-/

namespace BootTrial

/-- How the machine names the boot it is in. -/
structure BootSettings where
  /-- The file that holds the boot id. -/
  idPath : Path := .ofText "/proc/sys/kernel/random/boot_id"

/-- How the kernel log is captured. -/
structure JournalSettings where
  /-- The tool that prints the log. -/
  command : String := "journalctl"

/-- How the machine is put to sleep. -/
structure SleepSettings where
  /-- Whether it is at all. -/
  enabled : Bool := true
  /-- The tool that does it. -/
  command : Path := .ofText "~/bin/amd_s2idle.py"
  /-- The parameters of the tool behind its log file. -/
  args : List String := ["--wait", "10"]
  /-- Whether the tool runs through `sudo`. -/
  usesSudo : Bool := true

/-- How the operator is called. -/
structure NotifySettings where
  /-- Whether a tool speaks the message. -/
  enabled : Bool := true
  /-- The tool that speaks. -/
  command : String := "spd-say"
  /-- The message. -/
  message : String := "Ready"

/-- How the machine is restarted. -/
structure RebootSettings where
  /-- Whether it is at all. -/
  enabled : Bool := true
  /-- The tool and its parameters. -/
  command : List String := ["sudo", "reboot", "now"]

/-- The settings of a workspace. -/
structure Settings where
  /-- The template to enroll and run. -/
  template : String := "power"
  /-- The directory that everything lies in. -/
  root : Path := .ofText "."
  /-- Columns that the report shows beside those of the scenarios. -/
  reportHeaders : List String := ["amd_s2idle", "kernel_log"]
  /-- The boot. -/
  boot : BootSettings := {}
  /-- The kernel log. -/
  journal : JournalSettings := {}
  /-- The sleep. -/
  sleep : SleepSettings := {}
  /-- The call to the operator. -/
  notify : NotifySettings := {}
  /-- The restart. -/
  reboot : RebootSettings := {}

namespace Toml

/-- The text that a value is. -/
def Value.text? : Value → Option String
  | .string s => some s
  | _ => none

/-- The path that a value spells. -/
def Value.path? (value : Value) : Option Path :=
  value.text?.map Path.ofText

/-- The truth value that a value is. -/
def Value.flag? : Value → Option Bool
  | .boolean value => some value
  | _ => none

/-- The texts that a value lists. -/
def Value.texts? : Value → Option (List String)
  | .array items => items.mapM Value.text?
  | _ => none

/-- The entries of a section that declares the settings `names`. A date counts as a section without
entries. -/
def Value.section? (names : List String) : Value → Option Entries
  | .table _ entries => some entries
  | .array items => some (names.zip items)
  | .tables items => some (names.zip (items.map (.table .header)))
  | .moment => some []
  | .string _ | .boolean _ | .number => none

/-- The setting under a name, or its default if it is not there. A value of another kind has no
reading. -/
def Entries.setting {α : Type} (entries : Entries) (name : String) (read : Value → Option α)
    (default : α) : Option α :=
  match entries.lookup name with
  | none => some default
  | some value => read value

end Toml

/-- The settings of the boot in a value. -/
def BootSettings.ofValue? (value : Toml.Value) : Option BootSettings := do
  let default : BootSettings := {}
  let entries ← value.section? ["id_path"]
  return { idPath := ← entries.setting "id_path" (·.path?) default.idPath }

/-- The settings of the kernel log in a value. -/
def JournalSettings.ofValue? (value : Toml.Value) : Option JournalSettings := do
  let default : JournalSettings := {}
  let entries ← value.section? ["command"]
  return { command := ← entries.setting "command" (·.text?) default.command }

/-- The settings of the sleep in a value. -/
def SleepSettings.ofValue? (value : Toml.Value) : Option SleepSettings := do
  let default : SleepSettings := {}
  let entries ← value.section? ["enabled", "command", "args", "sudo"]
  return {
    enabled := ← entries.setting "enabled" (·.flag?) default.enabled
    command := ← entries.setting "command" (·.path?) default.command
    args := ← entries.setting "args" (·.texts?) default.args
    usesSudo := ← entries.setting "sudo" (·.flag?) default.usesSudo }

/-- The settings of the call to the operator in a value. -/
def NotifySettings.ofValue? (value : Toml.Value) : Option NotifySettings := do
  let default : NotifySettings := {}
  let entries ← value.section? ["enabled", "command", "message"]
  return {
    enabled := ← entries.setting "enabled" (·.flag?) default.enabled
    command := ← entries.setting "command" (·.text?) default.command
    message := ← entries.setting "message" (·.text?) default.message }

/-- The settings of the restart in a value. -/
def RebootSettings.ofValue? (value : Toml.Value) : Option RebootSettings := do
  let default : RebootSettings := {}
  let entries ← value.section? ["enabled", "command"]
  return {
    enabled := ← entries.setting "enabled" (·.flag?) default.enabled
    command := ← entries.setting "command" (·.texts?) default.command }

namespace Settings

/-- The settings in the entries of a settings file. -/
def ofEntries? (entries : Toml.Entries) : Option Settings := do
  let default : Settings := {}
  return {
    template := ← entries.setting "template" (·.text?) default.template
    root := ← entries.setting "root" (·.path?) default.root
    reportHeaders := ← entries.setting "report_headers" (·.texts?) default.reportHeaders
    boot := ← entries.setting "boot" BootSettings.ofValue? default.boot
    journal := ← entries.setting "journal" JournalSettings.ofValue? default.journal
    sleep := ← entries.setting "sleep" SleepSettings.ofValue? default.sleep
    notify := ← entries.setting "notify" NotifySettings.ofValue? default.notify
    reboot := ← entries.setting "reboot" RebootSettings.ofValue? default.reboot }

/-- The settings that a text describes. -/
def ofText (s : String) : Except Error Settings :=
  match (Toml.read? s).bind ofEntries? with
  | some settings => .ok settings
  | none => .error .malformedSettings

/-- The settings with another template, if one is given. -/
def choosing (settings : Settings) (template : Option String) : Settings :=
  { settings with template := template.getD settings.template }

/-- Reads the settings file at `path`. -/
def read (path : Path) : Work Settings := do
  let content ← (FileWork.look (·.textAt path)).reportedAs (.unreadable path)
  Work.ofExcept (ofText content)

/-- The settings file in the working directory. -/
def localPath : Path := .ofText "bootrun.toml"

/-- The settings file of a user with the given home directory. -/
def userPath (home : Path) : Path :=
  ((home.join ".config").join "bootrun").join "config.toml"

/-- Reads the first settings file that is there, the local one before that of the user. Without one
every setting keeps its default. -/
def find : Work Settings := do
  let bench ← get
  if bench.hasEntry localPath then read localPath
  else if bench.hasEntry (userPath bench.home) then read (userPath bench.home)
  else return {}

end Settings

/-- The path with a leading `~` replaced by the home directory. -/
def Path.fromHome (p home : Path) : Path :=
  match p.behind? "~" with
  | some rest => home.append rest
  | none => p

end BootTrial
