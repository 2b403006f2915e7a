import BootTrial.Machine.Basic
import BootTrial.Settings
import BootTrial.Text.Style
import BootTrial.Tool.Run

/-!
# The machine at hand

The machine as the settings describe it: its tools are found, run, and judged by how they end. A
tool that is missing fails the request; one that ends badly fails it only where the restart is
concerned.
-/

namespace BootTrial

namespace Machine

/-- The tool that a command means. -/
def findTool (command : String) : Work Path := do
  match Tool.find? command (← get) with
  | some path => return path
  | none => throw (.commandNotFound command "cannot find binary path")

/-- Whether a parameter cannot be handed over, since it holds a NUL. -/
def hasNul (param : String) : Bool :=
  param.toList.contains '\x00'

/-- Runs a tool: the way it ended, or in words why it cannot be run. -/
def tryTool (tool : Path) (params : List String) (input output : Shell.Channel) :
    StateM Bench (Except String Tool.Exit) := do
  if params.any hasNul then return .error "nul byte found in provided data"
  match ← Tool.run tool params input output with
  | .ok exit => return .ok exit
  | .error fault => return .error fault.message

/-- Runs a tool on behalf of a command. -/
def runTool (command : String) (tool : Path) (params : List String)
    (input output : Shell.Channel) : Work Tool.Exit := do
  match ← (tryTool tool params input output : StateM Bench _) with
  | .ok exit => return exit
  | .error details => throw (.commandFailed command details)

/-- Reads the boot id from its file. -/
def readCurrentBoot (settings : BootSettings) : Work BootId := do
  let path := settings.idPath
  let raw ← (FileWork.look (·.textAt path)).reportedAs (.unreadable path)
  match BootId.parse? raw with
  | some boot => return boot
  | none => throw (.settings ("'" ++ path.text ++ "' does not hold a boot id"))

/-- Writes what the kernel log tool prints about a boot into a file. -/
def captureLog (settings : JournalSettings) (boot : BootId) (log : Path) : Work Unit := do
  let tool ← findTool settings.command
  (FileWork.take (FileStep.createFile log)).reportedAs .ofFault
  let place ← (FileWork.look (·.placeAt log)).reportedAs .ofFault
  let _ ← runTool settings.command tool ["-b", boot.text, "-k"] .nowhere
    (.file place 0 false false true)

/-- Runs the sleep tool, through `sudo` if the settings say so, and shows the command. -/
def sleepOnce (settings : SleepSettings) (log : Path) : Work Unit := do
  if !settings.enabled then return
  let bench ← get
  let command := (settings.command.fromHome bench.home).text
  let tool ← findTool command
  let front ← if settings.usesSudo then (do return [← findTool "sudo"]) else pure []
  let params := ["--log", log.text] ++ settings.args
  let line := (front ++ [tool]).map Path.text ++ params
  Bench.write .program
    (Text.styled bench.color .boldWhite (" ".intercalate line) ++ "\n")
  let _ ←
    match front with
    | [] => runTool command tool params .keyboard (.terminal .program)
    | wrapper :: _ => runTool command wrapper (tool.text :: params) .keyboard (.terminal .program)

/-- Shows a message to the operator, and speaks it if the settings say so and a tool can. -/
def call (settings : NotifySettings) (message : String) : Work Unit := do
  let bench ← get
  Bench.write .program (Text.styled bench.color .bold message ++ "\n")
  if !settings.enabled then return
  match Tool.find? settings.command (← get) with
  | none => return
  | some tool =>
    let _ ← (tryTool tool [message] .nowhere (.terminal .program) : StateM Bench _)

/-- Runs the restart tool. -/
def restart (settings : RebootSettings) : Work Unit := do
  if !settings.enabled then return
  match settings.command with
  | [] => throw (.settings "reboot.command must not be empty")
  | command :: params =>
    let tool ← findTool command
    let exit ← runTool command tool params .keyboard (.terminal .program)
    if !exit.isSuccess then throw (.commandFailed command exit.words)

/-- The machine that the settings describe. -/
def host (settings : Settings) : Machine where
  answer
    | .currentBoot => readCurrentBoot settings.boot
    | .captureKernelLog boot log => captureLog settings.journal boot log
    | .sleepCycle log => sleepOnce settings.sleep log
    | .announce message => call settings.notify message
    | .sync => pure ()
    | .reboot => restart settings.reboot

end Machine

end BootTrial
