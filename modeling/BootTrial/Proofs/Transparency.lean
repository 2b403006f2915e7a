import BootTrial.Proofs.Session
import BootTrial.Proofs.Twins

/-!
# What is remembered makes no difference

The calls on a template may be made by one program, which remembers the headers it has seen from
call to call, or each by a program that has just been started and remembers none
(`TemplateCall.serve`). Both come to the same answers and leave the same bench, but for the headers
(`TemplateCall.serve_transparent`). Batch after batch may be staged, run and completed under the
names of earlier ones, and what is still remembered of those is never held against them.

Each call keeps the workspace as it has to be for this (`Bench.IsOfTemplate`): all tests have the
header of the template, whose files stay as they are.
-/

namespace BootTrial

/-- A call of the program. -/
inductive TemplateCall where
  /-- The template that the settings name is enrolled. -/
  | enroll (settings : Settings)
  /-- A cycle is performed. -/
  | cycle (settings : Settings) (machine : Machine) (operator : Operator)
  /-- The completed tests are reported. -/
  | report (settings : Settings)

namespace TemplateCall

/-- What comes of a call. -/
inductive Answer where
  /-- The directories of the tests that have been enrolled, or why they have not. -/
  | enrolled (result : Except Error (List Path))
  /-- What a cycle did, or why it failed. -/
  | cycled (result : Except Error CycleResult)
  /-- The report, or why there is none. -/
  | reported (result : Except Error Report)
  deriving DecidableEq

/-- Makes a call on a bench: its answer, and the bench that it leaves. -/
def perform (bench : Bench) : TemplateCall → Answer × Bench
  | enroll settings =>
    let (result, after) := bench.perform (BootTrial.enroll settings)
    (.enrolled result, after)
  | cycle settings machine operator =>
    let (result, after) := bench.perform (performCycle settings machine operator)
    (.cycled result, after)
  | report settings =>
    let (result, after) := bench.perform (Report.ofResults settings)
    (.reported result, after)

/-- Makes some calls, one after the other, on the bench as `start` makes it before each of them. -/
def serve (start : Bench → Bench) : List TemplateCall → Bench → List Answer × Bench
  | [], bench => ([], bench)
  | call :: rest, bench =>
    let (answer, after) := call.perform (start bench)
    let (answers, last) := serve start rest after
    (answer :: answers, last)

/-- A call is one on a template of a workspace, with a machine that writes only logs and an operator
who only chooses, neither of which has access to what the program remembers. -/
def IsOn (workspace : Workspace) (template : String) : TemplateCall → Prop
  | enroll settings | report settings =>
    settings.workspace = workspace ∧ settings.template = template
  | cycle settings machine operator =>
    (settings.workspace = workspace ∧ settings.template = template)
      ∧ (machine.WritesOnlyLogs ∧ machine.IsOblivious) ∧ operator.OnlyChooses ∧ operator.IsOblivious

end TemplateCall

/-- All tests of a workspace are of one template, whose columns are those of a header. -/
structure Bench.IsOfTemplate (workspace : Workspace) (template : String) (w : Place)
    (header : List String) (bench : Bench) : Prop where
  /-- The path of the workspace leads to it. -/
  root : workspace.root.Leads bench.files bench.here w
  /-- The roots hold tests, of which one at most has been begun. -/
  agrees : ∃ ledger, Agrees w bench.files ledger
  /-- The template does not lie among the tests. -/
  avoids : (workspace.template template).Avoids bench.here w
  /-- The scenario table of the template has the header, as far as it is one. -/
  table : ∀ content, bench.bytesAt (workspace.scenarios template) = .ok content →
    ScenarioTable.IsHeaded header content
  /-- The scenario files of the tests have it. -/
  tests : bench.files.AllHeaded w header

namespace Bench.IsOfTemplate

variable {workspace : Workspace} {template : String} {w : Place} {header : List String}
  {bench after : Bench}

/-- A workspace without tests. -/
theorem of_isFresh (h : bench.IsFresh workspace w) (htemplate : IsPlain template)
    (htable : ∀ content, bench.bytesAt (workspace.scenarios template) = .ok content →
      ScenarioTable.IsHeaded header content) :
    bench.IsOfTemplate workspace template w header := by
  refine ⟨h.1, ⟨[], .of_isFresh h⟩, Workspace.avoids_of_isPlain h.1 htemplate, htable, ?_⟩
  intro r name test htest
  obtain ⟨entries, hentries, hnames, -⟩ := h.2 r
  obtain rfl : entries = [] := by simpa [Named.names] using hnames
  rw [Node.get?_append] at htest
  rcases hentries with hdir | ⟨hnone, -⟩
  · rw [hdir] at htest
    cases htest
  · rw [hnone] at htest
    cases htest

/-- What keeps the template and its tests leaves the table where it is. -/
theorem offers {found : Prop} (h : bench.IsOfTemplate workspace template w header)
    (hkeeps : bench.KeepsTemplate w header after)
    (hoffers : bench.Offers (workspace.scenarios template) header found) :
    after.Offers (workspace.scenarios template) header found :=
  Offers.keeps hoffers hkeeps h.avoids

/-- What keeps the template and its tests, and what the roots hold. -/
theorem keeps (h : bench.IsOfTemplate workspace template w header)
    (hkeeps : bench.KeepsTemplate w header after)
    (hroot : workspace.root.Leads after.files after.here w)
    (hagrees : ∃ ledger, Agrees w after.files ledger) :
    after.IsOfTemplate workspace template w header := by
  have hoffers : bench.Offers (workspace.scenarios template) header _ := ⟨h.table, Iff.rfl⟩
  refine ⟨hroot, hagrees, ?_, (h.offers hkeeps hoffers).headed, hkeeps.headed h.tests⟩
  rw [hkeeps.here]
  exact h.avoids

end Bench.IsOfTemplate

namespace TemplateCall

variable {workspace : Workspace} {template : String} {w : Place} {header : List String}
  {found : Prop} {a b bench : Bench} {call : TemplateCall}

/-- A call keeps the template and its tests. -/
theorem perform_keepsTemplate (hcall : call.IsOn workspace template)
    (h : bench.IsOfTemplate workspace template w header)
    (hmark : ∀ column ∈ header, column.toList.head? ≠ some '\uFEFF') :
    bench.KeepsTemplate w header (call.perform bench).2 := by
  cases call with
  | enroll settings =>
    obtain ⟨rfl, rfl⟩ := hcall
    rw [perform]
    exact enroll_keepsTemplate h.root hmark h.table
  | cycle settings machine operator =>
    obtain ⟨⟨rfl, rfl⟩, ⟨hmachine, -⟩, hoperator, -⟩ := hcall
    obtain ⟨ledger, hagrees⟩ := h.agrees
    rw [perform]
    exact performCycle_keepsTemplate hmachine hoperator h.root hagrees hmark
  | report settings =>
    rw [perform]
    exact .of_unmoved _ _ (Report.ofResults_unmoved settings bench)

/-- After a call all tests are of the template still. -/
theorem perform_isOfTemplate (hcall : call.IsOn workspace template)
    (h : bench.IsOfTemplate workspace template w header)
    (hmark : ∀ column ∈ header, column.toList.head? ≠ some '\uFEFF') :
    (call.perform bench).2.IsOfTemplate workspace template w header := by
  have hkeeps := perform_keepsTemplate hcall h hmark
  obtain ⟨ledger, hagrees⟩ := h.agrees
  cases call with
  | enroll settings =>
    have hfair : (Call.enroll settings).IsFair workspace w := hcall.1
    obtain ⟨last, htells⟩ := Call.exists_tells hfair h.root hagrees
    exact h.keeps hkeeps htells.agrees.1 ⟨last, htells.agrees.2⟩
  | cycle settings machine operator =>
    have hfair : (Call.cycle settings machine operator).IsFair workspace w :=
      ⟨hcall.1.1, hcall.2.1.1, hcall.2.2.1⟩
    obtain ⟨last, htells⟩ := Call.exists_tells hfair h.root hagrees
    exact h.keeps hkeeps htells.agrees.1 ⟨last, htells.agrees.2⟩
  | report settings =>
    have hunmoved := Report.ofResults_unmoved settings bench
    refine h.keeps hkeeps ?_ ⟨ledger, ?_⟩
    all_goals simp only [perform, hunmoved.files, hunmoved.here]
    · exact h.root
    · exact hagrees

/-- A call on twins has the same answer on both, and leaves twins. -/
theorem perform_alike (hcall : call.IsOn workspace template)
    (h : a.IsOfTemplate workspace template w header)
    (hmark : ∀ column ∈ header, column.toList.head? ≠ some '\uFEFF')
    (hoffers : a.Offers (workspace.scenarios template) header found)
    (htwins : a.Twins header found b) :
    (call.perform b).1 = (call.perform a).1
      ∧ (call.perform a).2.Twins header found (call.perform b).2 := by
  obtain ⟨ledger, hagrees⟩ := h.agrees
  cases call with
  | enroll settings =>
    obtain ⟨rfl, rfl⟩ := hcall
    have halike := enroll_alike htwins hoffers
    simp only [perform, halike.result, true_and]
    exact halike.twins
  | cycle settings machine operator =>
    obtain ⟨⟨rfl, rfl⟩, ⟨hmachine, hobeys⟩, hoperator, hchooses⟩ := hcall
    have halike := performCycle_alike hmachine hobeys hoperator hchooses htwins hoffers h.avoids
      h.root hagrees h.tests hmark
    simp only [perform, halike.result, true_and]
    exact halike.twins
  | report settings =>
    obtain ⟨rfl, rfl⟩ := hcall
    obtain ⟨names, hholds, -⟩ := hagrees.holds .results
    have halike := Report.ofResults_alike htwins hoffers h.root hholds h.tests
    simp only [perform, halike.result, true_and]
    exact halike.twins

/-- Calls on twins, one of which forgets everything before each call. -/
theorem serve_alike {calls : List TemplateCall}
    (hcalls : ∀ call ∈ calls, call.IsOn workspace template)
    (h : a.IsOfTemplate workspace template w header)
    (hmark : ∀ column ∈ header, column.toList.head? ≠ some '\uFEFF')
    (hoffers : a.Offers (workspace.scenarios template) header found)
    (htwins : a.Twins header found b) :
    (serve (·.remembering []) calls b).1 = (serve id calls a).1
      ∧ (serve id calls a).2.Twins header found (serve (·.remembering []) calls b).2 := by
  induction calls generalizing a b with
  | nil => exact ⟨rfl, htwins⟩
  | cons call rest ih =>
    obtain ⟨hcall, hrest⟩ := List.forall_mem_cons.mp hcalls
    obtain ⟨hanswer, htwins'⟩ := perform_alike hcall h hmark hoffers htwins.forget
    have hkeeps := perform_keepsTemplate hcall h hmark
    obtain ⟨hanswers, hlast⟩ := ih hrest (perform_isOfTemplate hcall h hmark)
      (h.offers hkeeps hoffers) htwins'
    simp only [serve, id]
    exact ⟨by rw [hanswer, hanswers], hlast⟩

/-- The calls on a template come to the same answers whether one program makes them all or each is
made by a program that has just been started, and they leave the same bench, but for what is
remembered. -/
theorem serve_transparent {calls : List TemplateCall}
    (hcalls : ∀ call ∈ calls, call.IsOn workspace template)
    (h : bench.IsOfTemplate workspace template w header)
    (hmark : ∀ column ∈ header, column.toList.head? ≠ some '\uFEFF')
    (hstarted : bench.headers = []) :
    (serve id calls bench).1 = (serve (·.remembering []) calls bench).1
      ∧ (serve id calls bench).2.remembering []
        = (serve (·.remembering []) calls bench).2.remembering [] := by
  have hoffers : bench.Offers (workspace.scenarios template) header
      (∃ table : ScenarioTable, table.LiesAt (workspace.scenarios template) bench) :=
    ⟨h.table, Iff.rfl⟩
  have hvouches : ∀ found, bench.headers.Vouches header found := by
    rw [hstarted]
    exact HeaderCache.vouches_nil header
  obtain ⟨hanswers, hlast⟩ := serve_alike hcalls h hmark hoffers ⟨rfl, hvouches _, hvouches _⟩
  refine ⟨hanswers.symm, ?_⟩
  rw [hlast.same]
  rfl

/-- The scenario of `freshBench` is enrolled, its test is run, and the same once more in the same
boot, so that both batches have the same directories. Then the results are reported. -/
def rebatched : List TemplateCall :=
  let machine : Machine := .scripted ⟨"b00t", sameBoot_isId⟩ []
  [enroll {}, cycle {} machine .scripted, enroll {}, cycle {} machine .scripted, report {}]

/-- These are calls on one template. -/
theorem rebatched_isOn : ∀ call ∈ rebatched, call.IsOn (Settings.workspace {}) "power" := by
  intro call hcall
  simp only [rebatched, List.mem_cons, List.not_mem_nil, or_false] at hcall
  rcases hcall with rfl | rfl | rfl | rfl | rfl
  all_goals first
    | exact ⟨rfl, rfl⟩
    | exact ⟨⟨rfl, rfl⟩, ⟨Machine.scripted_writesOnlyLogs _ _, Machine.scripted_isOblivious _ _⟩,
        Operator.scripted_onlyChooses, Operator.scripted_isOblivious⟩

set_option maxRecDepth 100000 in
/-- The template has two columns. -/
theorem freshBench_isOfTemplate :
    freshBench.IsOfTemplate (Settings.workspace {}) "power" [] ["mode", "result"] := by
  refine .of_isFresh freshBench_isFresh (isPlain_of_length (by decide) (by decide))
    fun content hcontent => ?_
  have hstands : freshBench.bytesAt ((Settings.workspace {}).scenarios "power")
      = .ok (Text.encode "mode,result\ns2idle,\n") := by decide +kernel
  rw [hstands] at hcontent
  cases hcontent
  exact .of_header (by decide +kernel)

set_option maxRecDepth 100000 in
/-- Before the second batch is enrolled a header is remembered for each file that it will have. -/
theorem serve_transparent_rebatched :
    (serve id (rebatched.take 2) freshBench).2.headers.length = 3
      ∧ (serve id rebatched freshBench).1 = (serve (·.remembering []) rebatched freshBench).1
      ∧ (serve id rebatched freshBench).2.remembering []
        = (serve (·.remembering []) rebatched freshBench).2.remembering [] :=
  ⟨by decide +kernel, serve_transparent rebatched_isOn freshBench_isOfTemplate (by decide) rfl⟩

end TemplateCall

end BootTrial
