import BootTrial.Trial.Enrollment

/-!
# Claiming

The test at the head of the queue is claimed by moving its directory into the running root, under a
name that binds it to the boot. The move is the point of no return; the file with the boot id comes
after it, since the name holds the id as well.
-/

namespace BootTrial

/-- The name of the directory of a test that runs. -/
def runningName (name : String) (boot : BootId) : String :=
  name ++ separator ++ boot.text

namespace Workspace

/-- Moves the first waiting test into the running root, bound to a boot, and gives its directory. -/
def claim (workspace : Workspace) (boot : BootId) : Work Path := do
  match ← testsIn workspace.pending with
  | [] => throw (.noPendingTests workspace.pending)
  | next :: _ =>
    let name ← Work.ofExcept (directoryName next)
    (FileWork.makeDirs workspace.running).reportedAs .ofFault
    let directory := workspace.running.join (runningName name boot)
    (FileWork.rename next directory).reportedAs .ofFault
    bindTo directory boot
    return directory

end Workspace

end BootTrial
