import BootTrial.Proofs.Unasked

/-!
# The meaning of a choice

What a run comes to once the operator has chosen an entry of the menu, for every sequence of actions
that the entry may have and wherever one of them fails. The first deed that is a `quit`, a `discard`
or a restart behind a flushed disk decides where the test lies afterwards, and the scenario that is
read there is the one that was loaded with just those results in it that have been written.
-/

namespace BootTrial

namespace Scenario

/-- A scenario is not marked if none of its names begins with a byte order mark. -/
theorem not_isMarked {scenario : Scenario}
    (h : ∀ column ∈ scenario.names, column.toList.head? ≠ some '\uFEFF') : ¬ scenario.IsMarked := by
  rintro ⟨name, hname, hmark⟩
  exact h name (List.mem_of_mem_head? hname) hmark

/-- A scenario is as much marked as one with the same first name. -/
theorem not_isMarked_of_head? {scenario other : Scenario} (h : ¬ scenario.IsMarked)
    (hhead : other.names.head? = scenario.names.head?) : ¬ other.IsMarked := by
  rintro ⟨name, hname, hmark⟩
  exact h ⟨name, hhead ▸ hname, hmark⟩

end Scenario

namespace Trial

end Trial

/-- The responses of a template. Their only entry writes a result, restarts the machine, and then
tries to write another result. -/
def restartResponses : String :=
  "description,action,params\n"
    ++ "Done [d],write_result,\"result, pass\"\n"
    ++ "Done [d],reboot,\n"
    ++ "Done [d],write_result,\"result, late\"\n"

/-- The test in progress, once it has been loaded. -/
def restartTrial : Trial where
  template := "power"
  scenario := ⟨[("mode", "s2idle"), ("result", "")]⟩
  directory := begunPath
  results := (Settings.workspace {}).results
  boot := begunBoot
  currentBoot := begunBoot
  logFront := "1-power"

/-- The menu of the responses. -/
def restartMenu : Menu where
  entries := [⟨"Done [d]",
    [.writeResult "result" "pass", .reboot, .writeResult "result" "late"]⟩]
  hotkeys := [('d', "Done [d]")]

end BootTrial
