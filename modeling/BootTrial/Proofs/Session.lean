import BootTrial.Proofs.Cycling
import BootTrial.Proofs.Publishing

/-!
# Sessions

A session is any number of calls on a workspace, one after the other. What one call does is told by
the ledger (`Call.exists_tells`), and what each call tells adds up over the whole session
(`Session.exists_told`): no test that has been enrolled is ever lost, doubled or invented.
-/

namespace BootTrial

/-- Something that happens to a workspace. -/
inductive Call where
  /-- The template that the settings name is enrolled. -/
  | enroll (settings : Settings)
  /-- A cycle is performed. -/
  | cycle (settings : Settings) (machine : Machine) (operator : Operator)
  /-- Something else happens between two calls: templates are edited, the program is started
  again. -/
  | meanwhile (change : Bench → Bench)

/-- Between two benches the roots of a workspace have not been touched. -/
def Bench.LeavesRoots (workspace : Workspace) (w : Place) (before after : Bench) : Prop :=
  workspace.root.Leads after.files after.here w
    ∧ ∀ r : Root, after.files.get? (r.place w) = before.files.get? (r.place w)

namespace Call

/-- The bench after a call, whether it fails or not. -/
def after (bench : Bench) : Call → Bench
  | .enroll settings => (bench.perform (BootTrial.enroll settings)).2
  | .cycle settings machine operator => (bench.perform (performCycle settings machine operator)).2
  | .meanwhile change => change bench

/-- A call is one on the given workspace, with a machine that writes only logs and an operator who
only chooses, and what happens between the calls leaves the roots alone. -/
def IsFair (workspace : Workspace) (w : Place) : Call → Prop
  | .enroll settings => settings.workspace = workspace
  | .cycle settings machine operator =>
    settings.workspace = workspace ∧ machine.WritesOnlyLogs ∧ operator.OnlyChooses
  | .meanwhile change => ∀ bench : Bench, workspace.root.Leads bench.files bench.here w →
    bench.LeavesRoots workspace w (change bench)

/-- With a call on a bench the ledger goes from one to another. An enrollment that succeeds adds the
tests whose directories it returns, all at once, and one that fails adds nothing. In a cycle one
test after the other may be claimed in the boot that the machine names, be completed, or be deleted
if the operator has chosen so. -/
def Tells (workspace : Workspace) (w : Place) (bench : Bench) (first last : Ledger) : Call → Prop
  | .enroll settings =>
    (∃ failure, (bench.perform (BootTrial.enroll settings)).1 = .error failure ∧ last = first
      ∧ bench.Tells workspace w (fun _ _ => False) first last (Call.after bench (.enroll settings)))
    ∨ ∃ names, (bench.perform (BootTrial.enroll settings)).1
        = .ok (names.map workspace.pending.join)
      ∧ last = first ++ .ofBatch names
      ∧ bench.Tells workspace w (fun before after => before = first ∧ after = last) first last
        (Call.after bench (.enroll settings))
  | .cycle settings machine operator =>
    bench.Tells workspace w
      (Ledger.Step (bench.Claims settings machine) (bench.Discards settings machine operator))
      first last (Call.after bench (.cycle settings machine operator))
  | .meanwhile change => last = first ∧ workspace.root.Leads (change bench).files (change bench).here w
    ∧ Agrees w (change bench).files last

variable {workspace : Workspace} {w : Place} {bench : Bench} {first last : Ledger} {call : Call}

/-- After a call the files agree with the ledger. -/
theorem Tells.agrees (h : call.Tells workspace w bench first last) :
    workspace.root.Leads (call.after bench).files (call.after bench).here w
      ∧ Agrees w (call.after bench).files last := by
  cases call with
  | enroll settings =>
    rcases h with ⟨failure, -, -, htells⟩ | ⟨names, -, -, htells⟩
    · exact ⟨htells.root, htells.agrees⟩
    · exact ⟨htells.root, htells.agrees⟩
  | cycle settings machine operator => exact ⟨Bench.Tells.root h, Bench.Tells.agrees h⟩
  | meanwhile change => exact h.2

/-- What a call does is told by the ledger. -/
theorem exists_tells (hfair : call.IsFair workspace w)
    (hw : workspace.root.Leads bench.files bench.here w) (hagrees : Agrees w bench.files first) :
    ∃ last, call.Tells workspace w bench first last := by
  cases call with
  | enroll settings =>
    obtain rfl : settings.workspace = workspace := hfair
    obtain ⟨waiting, hwaiting, -⟩ := hagrees.holds .pending
    rcases enroll_enrolls settings w bench hw ⟨waiting, hwaiting⟩ with
      ⟨failure, after, hperform, hspared⟩ | ⟨names, after, hperform, hpublished⟩
    · refine ⟨first, .inl ⟨failure, congrArg Prod.fst hperform, rfl, ?_⟩⟩
      rw [Call.after, hperform]
      exact hspared.tells hagrees
    · refine ⟨_, .inr ⟨names, congrArg Prod.fst hperform, rfl, ?_⟩⟩
      rw [Call.after, hperform]
      exact hpublished.tells hagrees
  | cycle settings machine operator =>
    obtain ⟨rfl, hmachine, hoperator⟩ := hfair
    exact performCycle_tells hmachine hoperator hw hagrees
  | meanwhile change =>
    obtain ⟨hroot, hsame⟩ := hfair bench hw
    exact ⟨first, rfl, hroot, hagrees.spares (.of_get? hsame)⟩

end Call

/-- The calls of a session, in their order. -/
abbrev Session := List Call

namespace Session

/-- The bench after a session. -/
def after (bench : Bench) (session : Session) : Bench :=
  session.foldl Call.after bench

/-- The calls of a session are calls on the given workspace. -/
def IsFair (workspace : Workspace) (w : Place) (session : Session) : Prop :=
  ∀ call ∈ session, call.IsFair workspace w

/-- Over a session the ledger goes from one to another, call by call. -/
def Told (workspace : Workspace) (w : Place) :
    Session → Bench → Ledger → Ledger → Prop
  | [], _, first, last => first = last
  | call :: rest, bench, first, last =>
    ∃ next, call.Tells workspace w bench first next
      ∧ Told workspace w rest (call.after bench) next last

variable {workspace : Workspace} {w : Place} {bench : Bench} {first : Ledger} {session : Session}

/-- What happens in a session is told by the ledger. -/
theorem exists_told (hfair : session.IsFair workspace w)
    (hw : workspace.root.Leads bench.files bench.here w) (hagrees : Agrees w bench.files first) :
    ∃ last, session.Told workspace w bench first last
      ∧ workspace.root.Leads (session.after bench).files (session.after bench).here w
      ∧ Agrees w (session.after bench).files last := by
  induction session generalizing bench first with
  | nil => exact ⟨first, rfl, hw, hagrees⟩
  | cons call rest ih =>
    obtain ⟨next, htells⟩ := Call.exists_tells (hfair call List.mem_cons_self) hw hagrees
    obtain ⟨hw', hagrees'⟩ := htells.agrees
    obtain ⟨last, htold, hlast⟩ :=
      ih (fun other hother => hfair other (List.mem_cons_of_mem _ hother)) hw' hagrees'
    exact ⟨last, ⟨next, htells, htold⟩, hlast⟩

end Session

/-- A workspace without tests. -/
def Bench.IsFresh (workspace : Workspace) (w : Place) (bench : Bench) : Prop :=
  workspace.root.Leads bench.files bench.here w
    ∧ ∀ r : Root, bench.files.HoldsTests (r.place w) []

/-- The empty ledger agrees with a workspace without tests. -/
theorem Agrees.of_isFresh {workspace : Workspace} {w : Place} {bench : Bench}
    (h : bench.IsFresh workspace w) : Agrees w bench.files [] :=
  ⟨fun r => ⟨[], h.2 r, .refl []⟩, Nat.zero_le 1⟩

/-- Tests are conserved in every session on a workspace that had no tests. There is a ledger of the
tests that have been enrolled, and at every moment of the session each of them has one directory
in one root, under its name and after its claim with the boot of the claim behind it, unless an
operator has chosen to delete it; the roots hold no other directory, and the running root has one
directory at most. -/
theorem Session.conserves_tests {workspace : Workspace} {w : Place} {bench : Bench}
    {session : Session} (hfair : session.IsFair workspace w) (hfresh : bench.IsFresh workspace w) :
    ∃ ledger, session.Told workspace w bench [] ledger
      ∧ Agrees w (session.after bench).files ledger := by
  obtain ⟨ledger, htold, -, hagrees⟩ := exists_told hfair hfresh.1 (Agrees.of_isFresh hfresh)
  exact ⟨ledger, htold, hagrees⟩

/-- A workspace in which nothing has been enrolled yet, with one scenario and one response of a
template, and an operator who will give that response as often as he is asked. -/
def freshBench : Bench where
  files := .dir [
    ("templates", .dir [("power", .dir [
      ("scenarios.csv", .file (Text.encode "mode,result\ns2idle,\n") false),
      ("quick-responses.csv", .file (Text.encode
        "description,action,params\nPassed [p],write_result,\"result, pass\"\n") false)])])]
  here := []
  home := .ofText "/"
  searchPath := []
  color := false
  answers := ["p", "p"]

/-- There are no tests in the workspace. -/
theorem freshBench_isFresh : freshBench.IsFresh (Settings.workspace {}) [] := by
  refine ⟨Path.leads_dot ⟨_, rfl⟩, fun r => .of_none ?_⟩
  cases r <;> rfl

/-- The id of the only boot of the session below is one. -/
theorem sameBoot_isId : "b00t".toList ≠ [] ∧ "b00t".toList.all isBootIdChar := by decide

/-- The scenario is enrolled, its test is run, and it is enrolled again, all in one boot. -/
def sameBootSession : Session :=
  let machine : Machine := .scripted ⟨"b00t", sameBoot_isId⟩ []
  [.enroll {}, .cycle {} machine .scripted, .enroll {}]

/-- These are calls on that workspace. -/
theorem sameBootSession_isFair : sameBootSession.IsFair (Settings.workspace {}) [] := by
  intro call hcall
  simp only [sameBootSession, List.mem_cons, List.not_mem_nil, or_false] at hcall
  rcases hcall with rfl | rfl | rfl
  · exact rfl
  · exact ⟨rfl, Machine.scripted_writesOnlyLogs _ _, Operator.scripted_onlyChooses⟩
  · exact rfl

set_option maxRecDepth 100000 in
/-- Two batches of one scenario are enrolled in one session, and their tests are conserved. -/
theorem Session.conserves_tests_sameBoot :
    (freshBench.perform (enroll {})).1
        = .ok [(Settings.workspace {}).pending.join "1-power--mode-s2idle__result-"]
      ∧ ∃ ledger, sameBootSession.Told (Settings.workspace {}) [] freshBench [] ledger
        ∧ Agrees [] (sameBootSession.after freshBench).files ledger :=
  ⟨by decide +kernel, Session.conserves_tests sameBootSession_isFair freshBench_isFresh⟩

end BootTrial
