import BootTrial.Bench.Files
import BootTrial.Machine.Basic

/-!
# A scripted machine

A machine that runs no tools. It keeps a record of the requests that it serves, writes short
stand-ins for the logs, and refuses the requests that it is told to refuse.
-/

namespace BootTrial

/-- The name of a kind of request. -/
def Request.name : Request → String
  | .currentBoot => "boot_id"
  | .captureKernelLog _ _ => "journal"
  | .sleepCycle _ => "sleep"
  | .announce _ => "announce"
  | .sync => "sync"
  | .reboot => "reboot"

/-- A request as a record shows it. -/
def Request.shown : Request → String
  | .captureKernelLog boot _ => "journal " ++ boot.text
  | .announce message => "announce " ++ message
  | request => request.name

namespace Machine

/-- Puts a request on record. -/
def note (request : Request) : Work Unit :=
  modify fun bench => { bench with calls := bench.calls ++ [request] }

/-- Writes the stand-in for a log. -/
def standIn (log : Path) (text : String) : Work Unit :=
  (FileWork.writeFile log (Text.encode text)).reportedAs .ofFault

/-- Refuses a request that is on the list, before it is put on record. -/
def refuse (refused : List String) (request : Request) : Work Unit :=
  if refused.contains request.name then throw (.commandFailed request.name "made to fail")
  else pure ()

/-- Refuses a request that is on the list, once it is on record, as a tool that has failed. -/
def failAs (refused : List String) (request : Request) (tool : String) : Work Unit :=
  if refused.contains request.name then throw (.commandFailed tool "exited with code 1")
  else pure ()

/-- The machine that is in a given boot and refuses the requests with the given names. -/
def scripted (boot : BootId) (refused : List String) : Machine where
  answer
    | .currentBoot => do
      refuse refused .currentBoot
      return boot
    | .captureKernelLog of log => do
      refuse refused (.captureKernelLog of log)
      note (.captureKernelLog of log)
      standIn log ("kernel log for boot " ++ of.text ++ "\n")
    | .sleepCycle log => do
      note (.sleepCycle log)
      failAs refused (.sleepCycle log) "amd_s2idle.py"
      standIn log "suspend/resume cycle ok\n"
    | .announce message => do
      refuse refused (.announce message)
      note (.announce message)
    | .sync => do
      refuse refused .sync
      note .sync
    | .reboot => do
      note .reboot
      failAs refused .reboot "reboot"

end Machine

end BootTrial
