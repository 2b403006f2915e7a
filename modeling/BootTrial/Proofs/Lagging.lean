import BootTrial.Proofs.Handling
import BootTrial.Proofs.Writing

/-!
# The record in mind and the record in the file

A trial has its scenario in mind and in a file. A result that is written enters the mind first, and
stays there if the file system or the header of the file refuses it. So the mind holds every result
that was tried (`Trial.scenario_handle`), the file only the record that was written last
(`Trial.InPlace.handle`); and where a column was tried that the header does not have, no later write
succeeds (`Trial.InPlace.attempt_ok_iff`).

`Trial.inStep_iff` says for a test that has been loaded and handled in any ways when the two agree.
-/

namespace BootTrial

open Text (Bytes)

/-! ## What handlings try -/

/-- A handling that has been carried out. -/
structure Handled where
  /-- The handling. -/
  handling : Handling
  /-- The trial on which it was begun. -/
  trial : Trial
  /-- The bench on which it was begun. -/
  before : Bench
  /-- What came of it. -/
  outcome : Except Error Unit

namespace Handled

/-- The column and the result that a handling tries to write. Nothing is tried on a closed trial. -/
def attempt? (deed : Handled) : Option (String × String) :=
  match deed.handling with
  | .perform (.writeResult column result) =>
    if deed.trial.isClosed then none else some (column, result)
  | .perform .reboot | .perform .discard | .perform .quit | .close => none

/-- The record that a handling has written, if it has written one. -/
def written? (deed : Handled) : Option Scenario :=
  match deed.outcome with
  | .ok () => deed.attempt?.map fun write => deed.trial.scenario.set write.1 write.2
  | .error _ => none

/-- What some handlings try to write, in order. -/
def attempts (deeds : List Handled) : List (String × String) :=
  deeds.filterMap attempt?

/-- The record that some handlings have written last. -/
def lastWritten? (deeds : List Handled) : Option Scenario :=
  (deeds.filterMap written?).getLast?

/-- What some handlings have tried to write, and in vain, since one of them has written last. -/
def unwritten : List Handled → List (String × String)
  | [] => []
  | deed :: rest =>
    match (lastWritten? rest).or deed.written? with
    | none => attempts [deed] ++ unwritten rest
    | some _ => unwritten rest

/-- What a handling and others behind it have written last. -/
theorem lastWritten?_cons (deed : Handled) (rest : List Handled) :
    lastWritten? (deed :: rest) = (lastWritten? rest).or deed.written? := by
  unfold lastWritten?
  rw [List.filterMap_cons]
  cases deed.written? with
  | none => rw [Option.or_none]
  | some record =>
    rw [List.getLast?_cons]
    cases (rest.filterMap written?).getLast? <;> rfl

/-- On a closed trial nothing is tried. -/
theorem attempt?_closed {deed : Handled} (h : deed.trial.isClosed = true) : deed.attempt? = none := by
  unfold attempt?
  split <;> simp [h]

/-- What is tried is to write a result, and the trial is open. -/
theorem attempt?_inv {deed : Handled} {write : String × String} (h : deed.attempt? = some write) :
    deed.handling = .perform (.writeResult write.1 write.2) ∧ deed.trial.isClosed = false := by
  unfold attempt? at h
  split at h
  · rename_i column result hhandling
    cases hclosed : deed.trial.isClosed with
    | true => simp [hclosed] at h
    | false =>
      simp only [hclosed, Bool.false_eq_true, if_false, Option.some.injEq] at h
      rw [← h]
      exact ⟨hhandling, rfl⟩
  all_goals cases h

/-- A record that has been written has been tried, and this has succeeded. -/
theorem written?_inv {deed : Handled} {record : Scenario} (h : deed.written? = some record) :
    deed.outcome = .ok () ∧ ∃ write, deed.attempt? = some write
      ∧ record = deed.trial.scenario.set write.1 write.2 := by
  unfold written? at h
  split at h
  · rename_i houtcome
    obtain ⟨write, hattempt, rfl⟩ := Option.map_eq_some_iff.mp h
    exact ⟨houtcome, write, hattempt, rfl⟩
  · cases h

/-- The record that has been written last has been written by one of the handlings. -/
theorem exists_of_lastWritten? {deeds : List Handled} {record : Scenario}
    (h : lastWritten? deeds = some record) :
    ∃ front deed back, deeds = front ++ deed :: back ∧ deed.written? = some record := by
  obtain ⟨deed, hmem, hwritten⟩ := List.mem_filterMap.mp (List.mem_of_getLast? h)
  obtain ⟨front, back, rfl⟩ := List.append_of_mem hmem
  exact ⟨front, deed, back, rfl, hwritten⟩

end Handled

namespace Trial

/-- Handles a trial in several ways, one after the other, and says of each what came of it. -/
def handled (machine : Machine) : List Handling → Trial → Bench → List Handled
  | [], _, _ => []
  | handling :: rest, trial, bench =>
    match bench.act trial (handling.run machine) with
    | (outcome, trial', after) =>
      ⟨handling, trial, bench, outcome⟩ :: handled machine rest trial' after

section Handlings

variable {machine : Machine} {trial : Trial} {bench : Bench} {handlings : List Handling}

/-- Each handling is begun on what those in front of it have left. -/
theorem handled_eq_append {front back : List Handled} {deed : Handled}
    (h : handled machine handlings trial bench = front ++ deed :: back) :
    ∃ earlier later, handlings = earlier ++ deed.handling :: later
      ∧ handled machine earlier trial bench = front
      ∧ handle machine earlier trial bench = (deed.trial, deed.before)
      ∧ (deed.before.act deed.trial (deed.handling.run machine)).1 = deed.outcome := by
  induction handlings generalizing trial bench front with
  | nil => simp [handled] at h
  | cons handling rest ih =>
    rcases hact : bench.act trial (handling.run machine) with ⟨outcome, trial', after⟩
    simp only [handled, hact] at h
    cases front with
    | nil =>
      rw [List.nil_append, List.cons.injEq] at h
      obtain ⟨rfl, -⟩ := h
      exact ⟨[], rest, rfl, rfl, rfl, congrArg (·.1) hact⟩
    | cons first others =>
      rw [List.cons_append, List.cons.injEq] at h
      obtain ⟨rfl, hrest⟩ := h
      obtain ⟨earlier, later, rfl, hothers, hhandle, houtcome⟩ := ih hrest
      refine ⟨handling :: earlier, later, rfl, ?_, ?_, houtcome⟩
      · simp only [handled, hact, hothers]
      · simp only [handle, hact, hhandle]

/-- Closing a trial leaves what it has in mind. -/
theorem scenario_act_close (trial : Trial) (bench : Bench) :
    (bench.act trial close).2.1.scenario = trial.scenario := by
  unfold close
  rw [Bench.act_bind_ok (Bench.act_getTrial bench trial)]
  split
  · rfl
  · rw [Bench.act_bind_ok (Bench.act_getBench bench trial)]
    split
    · rfl
    · rw [Bench.act_bind, Bench.act_lift]
      rcases bench.perform (moveToResults trial.directory trial.results) with ⟨_ | _, _⟩ <;> rfl

/-- Of all handlings only the attempt to write a result touches what the trial has in mind, and it
does so whatever comes of it. -/
theorem scenario_act_handling (machine : Machine) (trial : Trial) (bench : Bench)
    (handling : Handling) (outcome : Except Error Unit) :
    (bench.act trial (handling.run machine)).2.1.scenario
      = trial.scenario.withWrites (Handled.attempts [⟨handling, trial, bench, outcome⟩]) := by
  cases handling with
  | close =>
    rw [Handling.run, Bench.act_bind]
    have hclose := scenario_act_close trial bench
    rcases hact : bench.act trial close with ⟨_ | _, trial', after⟩
    all_goals rw [hact] at hclose; exact hclose
  | perform action =>
    cases action with
    | quit => rfl
    | discard =>
      simp only [Handling.run, Action.run, Action.runDiscard]
      rw [Bench.act_bind_ok (Bench.act_getTrial bench trial), Bench.act_bind, Bench.act_lift]
      rcases bench.perform (Work.ofExcept trial.requireOpen) with ⟨_ | _, middle⟩
      · rfl
      · simp only
        rw [Bench.act_bind, Bench.act_lift]
        rcases middle.perform ((FileWork.removeTree trial.directory).reportedAs .ofFault) with
          ⟨_ | _, _⟩ <;> rfl
    | reboot =>
      obtain ⟨_, trial', after, hact, hrebooting⟩ := Action.act_runReboot machine trial bench
      rw [Handling.run, Action.run, hact]
      cases hrebooting with
      | unflushed hflush => rfl
      | @unclosed _ _ flushed _ hflush hclose =>
        have hkept := scenario_act_close trial flushed
        rwa [hclose] at hkept
      | @asked _ _ _ flushed _ _ hflush hclose hask =>
        have hkept := scenario_act_close trial flushed
        rwa [hclose] at hkept
    | writeResult column result =>
      simp only [Handling.run, Action.run, Action.runWriteResult]
      rw [Bench.act_bind_ok (Bench.act_getTrial bench trial), Bench.act_bind, Bench.act_lift,
        Bench.perform_ofExcept]
      cases hclosed : trial.isClosed with
      | true =>
        simp [requireOpen, hclosed, Handled.attempts, Handled.attempt?, Scenario.withWrites]
      | false =>
        simp only [requireOpen, hclosed, Bool.false_eq_true, if_false]
        -- The result is set before the header is looked up, so that every failure comes too late.
        rw [Bench.act_bind_ok (Bench.act_modifyTrial bench trial _), Bench.act_bind, Bench.act_lift]
        have hset : trial.scenario.withWrites (Handled.attempts
            [⟨.perform (.writeResult column result), trial, bench, outcome⟩])
            = trial.scenario.set column result := by
          simp [Handled.attempts, Handled.attempt?, hclosed, Scenario.withWrites]
        rw [hset]
        rcases bench.perform (ScenarioTable.headerAt trial.scenarioFile) with ⟨_ | _, _⟩ <;> rfl

/-- The trial has every result in mind that was tried. -/
theorem scenario_handle (machine : Machine) (handlings : List Handling) (trial : Trial)
    (bench : Bench) :
    (handle machine handlings trial bench).1.scenario
      = trial.scenario.withWrites
        (Handled.attempts (handled machine handlings trial bench)) := by
  induction handlings generalizing trial bench with
  | nil => rfl
  | cons handling rest ih =>
    rcases hact : bench.act trial (handling.run machine) with ⟨outcome, trial', after⟩
    have hfirst := scenario_act_handling machine trial bench handling outcome
    rw [hact] at hfirst
    simp only [handle, handled, hact]
    rw [ih, hfirst, Scenario.withWrites, Scenario.withWrites, Scenario.withWrites,
      ← List.foldl_append, Handled.attempts, Handled.attempts, Handled.attempts,
      ← List.filterMap_append, List.singleton_append]

/-- Beside what was written last the trial has in mind what was tried in vain since. -/
theorem scenario_handle_unwritten (machine : Machine) (handlings : List Handling) (trial : Trial)
    (bench : Bench) :
    (handle machine handlings trial bench).1.scenario
      = ((Handled.lastWritten? (handled machine handlings trial bench)).getD
        trial.scenario).withWrites (Handled.unwritten (handled machine handlings trial bench)) := by
  induction handlings generalizing trial bench with
  | nil => rfl
  | cons handling rest ih =>
    rcases hact : bench.act trial (handling.run machine) with ⟨outcome, trial', after⟩
    have hfirst := scenario_act_handling machine trial bench handling outcome
    rw [hact] at hfirst
    simp only [handle, handled, hact]
    rw [ih, Handled.lastWritten?_cons, Handled.unwritten]
    cases hlast : Handled.lastWritten? (handled machine rest trial' after) with
    | some record => rfl
    | none =>
      rw [Option.none_or, Option.getD_none, hfirst]
      cases hwritten : Handled.written? ⟨handling, trial, bench, outcome⟩ with
      | none => exact (List.foldl_append ..).symm
      | some record =>
        obtain ⟨-, write, hattempt, rfl⟩ := Handled.written?_inv hwritten
        simp only [Handled.attempts, List.filterMap_cons, hattempt]
        rfl

end Handlings

end Trial

/-! ## The names in mind -/

namespace Scenario

variable {record : Scenario} {header : List String} {content : Bytes}

/-- No name stands twice in a record when fields are set. -/
theorem nodup_names_withWrites (h : record.names.Nodup) (writes : List (String × String)) :
    (record.withWrites writes).names.Nodup := by
  induction writes generalizing record with
  | nil => exact h
  | cons write rest ih => exact ih (Named.nodup_names_set write.1 write.2 h)

/-- The last of some fields is set last. -/
theorem withWrites_concat (record : Scenario) (writes : List (String × String))
    (write : String × String) :
    record.withWrites (writes ++ [write]) = (record.withWrites writes).set write.1 write.2 := by
  rw [withWrites, List.foldl_append]
  rfl

/-- The names of a record that has been read are those of the header, whatever has been set since, if
and only if the header has no name twice and what has been set are columns of it. -/
theorem IsRead.names_withWrites (h : record.IsRead content header)
    (writes : List (String × String)) :
    (record.withWrites writes).names = header
      ↔ header.Nodup ∧ ∀ write ∈ writes, write.1 ∈ header := by
  constructor
  · rintro rfl
    refine ⟨nodup_names_withWrites h.names_nodup writes, fun write hwrite => ?_⟩
    exact mem_names_foldl_set.mpr (.inr (List.mem_map_of_mem hwrite))
  · rintro ⟨hnodup, hcolumns⟩
    have hnames := h.names_eq hnodup
    clear h
    induction writes generalizing record with
    | nil => exact hnames
    | cons write rest ih =>
      obtain ⟨hcolumn, hrest⟩ := List.forall_mem_cons.mp hcolumns
      exact ih hrest ((names_set_of_mem (hnames ▸ hcolumn) write.2).trans hnames)

end Scenario

/-! ## The scenario file -/

namespace Trial

/-- The directory of a test is in place, and its scenario file holds `content`. The trial of the test
could go on if it were open, and no name stands twice in what it has in mind. -/
structure InPlace (workspace : Workspace) (w : Place) (name : String) (base : Bench)
    (header : List String) (content : Bytes) (trial : Trial) (bench : Bench) : Prop where
  /-- The trial could go on. -/
  resumable : ∃ scenario,
    IsOpen workspace w name base header scenario { trial with isClosed := false } bench
  /-- No name stands twice. -/
  nodup : trial.scenario.names.Nodup
  /-- The scenario file. -/
  file : ∃ runnable, bench.files.get? (Root.running.place w ++ [name] ++ [scenarioName])
    = some (.file content runnable)

/-- A trial is closed, and the directory of its test has gone. -/
def IsGone (w : Place) (name : String) (trial : Trial) (bench : Bench) : Prop :=
  trial.isClosed = true ∧ bench.files.get? (Root.running.place w ++ [name]) = none

variable {settings : Settings} {machine : Machine} {workspace : Workspace} {w : Place}
  {name : String} {base bench loaded after : Bench} {header : List String} {content : Bytes}
  {trial last : Trial} {handlings : List Handling}

/-- The directory of the test of an open trial is in place, also when the trial is closed there. -/
theorem IsOpen.inPlace {scenario : Scenario}
    (h : IsOpen workspace w name base header scenario trial bench)
    (hnodup : trial.scenario.names.Nodup)
    (hfile : ∃ runnable, bench.files.get? (Root.running.place w ++ [name] ++ [scenarioName])
      = some (.file content runnable)) (isClosed : Bool) :
    InPlace workspace w name base header content { trial with isClosed } bench :=
  ⟨⟨scenario, h.runs, h.accepted, h.directory, h.results, rfl, h.inside, h.stands, h.known⟩, hnodup,
    hfile⟩

namespace InPlace

variable (h : InPlace workspace w name base header content trial bench)
include h

/-- A trial that is open goes on with the test. -/
theorem isOpen (hopen : trial.isClosed = false) :
    ∃ scenario, IsOpen workspace w name base header scenario trial bench := by
  obtain ⟨scenario, hresumable⟩ := h.resumable
  have hsame : ({ trial with isClosed := false } : Trial) = trial := by rw [← hopen]
  exact ⟨scenario, hsame ▸ hresumable⟩

/-- The scenario file stays where the files do not change. -/
theorem quiet (hquiet : Bench.Quiet (fun _ => True) bench after) :
    InPlace workspace w name base header content trial after := by
  obtain ⟨scenario, hresumable⟩ := h.resumable
  exact ⟨⟨scenario, hresumable.quiet hquiet⟩, h.nodup, by rw [hquiet.files]; exact h.file⟩

/-- The path of the scenario file. -/
theorem scenarioFile : trial.scenarioFile = (workspace.running.join name).join scenarioName := by
  obtain ⟨scenario, hresumable⟩ := h.resumable
  exact congrArg (·.join scenarioName) hresumable.directory

/-- The path of the directory leads there, whatever headers are remembered. -/
theorem leads (headers : HeaderCache) : (workspace.running.join name).Leads
    { bench with headers }.files { bench with headers }.here (Root.running.place w ++ [name]) := by
  obtain ⟨scenario, hresumable⟩ := h.resumable
  exact hresumable.runs_now.leads

/-- The octets of the scenario file. -/
theorem bytesAt (hrefusal : ((workspace.running.join name).join scenarioName).refusal? = none) :
    bench.bytesAt trial.scenarioFile = .ok content := by
  obtain ⟨runnable, hfile⟩ := h.file
  obtain ⟨entries, hentries⟩ := (h.leads bench.headers).dir
  rw [Node.get?_snoc hentries] at hfile
  rw [h.scenarioFile]
  exact Bench.bytesAt_join scenarioName_isPlain (h.leads bench.headers).passThrough hentries
    (Path.joinFault?_eq_none.mpr ⟨hrefusal, by decide⟩) hfile

/-- What a new program reads from the scenario file. -/
theorem read (hrefusal : ((workspace.running.join name).join scenarioName).refusal? = none)
    {scenario : Scenario} {names : List String} (hread : scenario.IsRead content names) :
    (Bench.perform { bench with headers := [] } (Scenario.read trial.scenarioFile false)).1
      = .ok scenario := by
  obtain ⟨runnable, hfile⟩ := h.file
  rw [h.scenarioFile]
  exact Scenario.read_of_isRead (h.leads []) (Path.joinFault?_eq_none.mpr ⟨hrefusal, by decide⟩)
    hfile hread rfl false

/-- A record that has all names of the one that was written is read from the scenario file only if the
header has not lost a byte order mark. -/
theorem losesMark_of_read
    (hrefusal : ((workspace.running.join name).join scenarioName).refusal? = none)
    {record other : Scenario} (hcontent : content = record.tableBytes record.names)
    (hnodup : record.names.Nodup) (hother : record.names ⊆ other.names)
    (hread : (Bench.perform { bench with headers := [] }
      (Scenario.read trial.scenarioFile false)).1 = .ok other) :
    Table.losesMark record.names = false := by
  obtain ⟨runnable, hfile⟩ := h.file
  rw [h.scenarioFile] at hread
  rw [hcontent] at hfile
  exact Scenario.losesMark_of_read (h.leads []) (Path.joinFault?_eq_none.mpr ⟨hrefusal, by decide⟩)
    hfile hnodup hother rfl hread

/-- Writing a result on an open trial: the file is as it was, or the write has succeeded and the file
holds what the trial has in mind. -/
theorem act_writeResult (hopen : trial.isClosed = false) (column result : String) :
    ∃ outcome trial' after,
      bench.act trial (Action.runWriteResult column result) = (outcome, trial', after)
        ∧ InPlace workspace w name base header
          ((Handled.written? ⟨.perform (.writeResult column result), trial, bench, outcome⟩).elim
            content (·.tableBytes header)) trial' after := by
  obtain ⟨scenario, hisOpen⟩ := h.isOpen hopen
  have hnodup : (trial.scenario.set column result).names.Nodup :=
    Named.nodup_names_set column result h.nodup
  rcases hisOpen.writeResult_cases h.nodup column result with
    ⟨failure, after, hact, hopen', hfile⟩ | ⟨after, hact, hopen', hnames, runnable, hfile⟩
  · refine ⟨_, _, after, hact, hopen'.inPlace hnodup ?_ _⟩
    rw [hfile]
    exact h.file
  · refine ⟨_, _, after, hact, hopen'.inPlace hnodup ⟨runnable, ?_⟩ _⟩
    rw [hfile]
    simp [Handled.written?, Handled.attempt?, hopen, hnames]

/-- Handling a trial: the directory stays in place, and its scenario file holds what has been written
if something has been written; or the directory goes and the trial is closed. -/
theorem act_handling (hmachine : machine.WritesOnlyLogs) (handling : Handling) :
    ∃ outcome trial' after, bench.act trial (handling.run machine) = (outcome, trial', after)
      ∧ (InPlace workspace w name base header
          ((Handled.written? ⟨handling, trial, bench, outcome⟩).elim content (·.tableBytes header))
          trial' after
        ∨ IsGone w name trial' after) := by
  cases hopen : trial.isClosed with
  | true =>
    obtain ⟨outcome, after, hact, hquiet⟩ := act_handling_closed hmachine hopen bench handling
    refine ⟨outcome, trial, after, hact, .inl ?_⟩
    have hwritten : Handled.written? ⟨handling, trial, bench, outcome⟩ = none := by
      cases outcome with
      | error failure => rfl
      | ok _ => rw [Handled.written?, Handled.attempt?_closed hopen]; rfl
    rw [hwritten]
    exact h.quiet hquiet
  | false =>
  obtain ⟨scenario, hisOpen⟩ := h.isOpen hopen
  cases handling with
  | close =>
    rw [Handling.run]
    rcases hisOpen.act_close with ⟨-, after, hact, hcompleted, -⟩ | ⟨-, failure, hact⟩
    · rw [Bench.act_bind_ok hact]
      exact ⟨.ok (), _, after, rfl, .inr ⟨rfl, (hcompleted.moved hisOpen.runs).1⟩⟩
    · rw [Bench.act_bind_error hact]
      exact ⟨.error failure, trial, bench, rfl, .inl h⟩
  | perform action =>
    cases action with
    | quit => exact ⟨.ok (), _, bench, rfl, .inl (hisOpen.inPlace h.nodup h.file true)⟩
    | discard =>
      obtain ⟨after, hact, hremoved⟩ := hisOpen.act_discard
      exact ⟨.ok (), _, after, hact, .inr ⟨rfl, hremoved.gone hisOpen.runs⟩⟩
    | writeResult column result =>
      obtain ⟨outcome, trial', after, hact, hplace⟩ := h.act_writeResult hopen column result
      exact ⟨outcome, trial', after, hact, .inl hplace⟩
    | reboot =>
      rcases hisOpen.reboot_cases hmachine with
        ⟨failure, after, hact, hquiet, -⟩ | ⟨outcome, after, hact, -, -, hcompleted, -⟩
      · exact ⟨.error failure, trial, after, hact, .inl (h.quiet hquiet)⟩
      · exact ⟨outcome, _, after, hact, .inr ⟨rfl, (hcompleted.moved hisOpen.runs).1⟩⟩

end InPlace

/-- Handling a trial in several ways: while the directory of its test is in place its scenario file
holds what has been written last. -/
theorem InPlace.handle (hmachine : machine.WritesOnlyLogs)
    (h : InPlace workspace w name base header content trial bench) (handlings : List Handling) :
    InPlace workspace w name base header
        ((Handled.lastWritten? (handled machine handlings trial bench)).elim content
          (·.tableBytes header))
        (handle machine handlings trial bench).1 (handle machine handlings trial bench).2
      ∨ IsGone w name (handle machine handlings trial bench).1
        (handle machine handlings trial bench).2 := by
  -- The content is generalized, since what is written by the first handling is found by the rest.
  induction handlings generalizing trial bench content with
  | nil => exact .inl h
  | cons handling rest ih =>
    obtain ⟨outcome, trial', after, hact, hplace | hgone⟩ := h.act_handling hmachine handling
    · simp only [Trial.handle, handled, hact]
      rw [Handled.lastWritten?_cons]
      have hrest := ih hplace
      cases hlast : Handled.lastWritten? (handled machine rest trial' after) with
      | none => rwa [hlast] at hrest
      | some record => rwa [hlast] at hrest
    · -- The directory has gone for good.
      obtain ⟨hsame, hquiet⟩ := handle_closed hmachine hgone.1 rest after
      simp only [Trial.handle, hact]
      exact .inr ⟨by rw [hsame]; exact hgone.1, by rw [hquiet.files]; exact hgone.2⟩

/-- An attempt to write a result succeeds if and only if what the trial then has in mind has the names
of the header and a draft can be created. The trial has all in mind that was tried before. -/
theorem InPlace.attempt_ok_iff (hmachine : machine.WritesOnlyLogs)
    (h : InPlace workspace w name base header content trial bench)
    (hrefusal : ((workspace.running.join name).join scenarioName).refusal? = none)
    {front back : List Handled} {deed : Handled} {write : String × String}
    (hdeeds : handled machine handlings trial bench = front ++ deed :: back)
    (hattempt : deed.attempt? = some write) :
    deed.trial.scenario = trial.scenario.withWrites (Handled.attempts front)
      ∧ (deed.outcome = .ok () ↔ (deed.trial.scenario.set write.1 write.2).names = header
        ∧ workspace.TakesDraft w name deed.before) := by
  obtain ⟨earlier, later, -, rfl, hhandle, houtcome⟩ := handled_eq_append hdeeds
  obtain ⟨hhandling, hopen⟩ := Handled.attempt?_inv hattempt
  have hscenario := scenario_handle machine earlier trial bench
  have hcases := h.handle hmachine earlier
  rw [hhandle] at hscenario hcases
  refine ⟨hscenario, ?_⟩
  -- The trial was open, so the directory was in place.
  rcases hcases with hplace | hgone
  · obtain ⟨scenario, hisOpen⟩ := hplace.isOpen hopen
    rw [← houtcome, hhandling]
    exact hisOpen.writeResult_ok_iff hplace.nodup hrefusal write.1 write.2
  · rw [hgone.1] at hopen
    cases hopen

/-- The record that has been written last has the names of the header, and it is what was read with
some results set. -/
theorem InPlace.names_lastWritten (hmachine : machine.WritesOnlyLogs)
    (h : InPlace workspace w name base header content trial bench)
    (hrefusal : ((workspace.running.join name).join scenarioName).refusal? = none)
    {record : Scenario}
    (hlast : Handled.lastWritten? (handled machine handlings trial bench) = some record) :
    record.names = header ∧ ∃ writes, record = trial.scenario.withWrites writes := by
  obtain ⟨front, deed, back, hdeeds, hwritten⟩ := Handled.exists_of_lastWritten? hlast
  obtain ⟨houtcome, write, hattempt, rfl⟩ := Handled.written?_inv hwritten
  obtain ⟨hscenario, hok⟩ := h.attempt_ok_iff hmachine hrefusal hdeeds hattempt
  refine ⟨(hok.mp houtcome).1, Handled.attempts front ++ [write], ?_⟩
  rw [hscenario, Scenario.withWrites_concat]

/-- The directory of a test that has been loaded is in place, and the trial has in mind what its
scenario file holds. -/
theorem load_inPlace (hmachine : machine.WritesOnlyLogs)
    (hruns : settings.workspace.Runs w name bench)
    (hload : bench.perform (load settings machine (settings.workspace.running.join name))
      = (.ok trial, loaded)) :
    ∃ content header, trial.scenario.IsRead content header
      ∧ InPlace settings.workspace w name bench header content trial loaded
      ∧ ((settings.workspace.running.join name).join scenarioName).refusal? = none := by
  obtain ⟨content, runnable, header, hstood, hisRead, hopen, hrefusal⟩ :=
    load_opens hmachine hruns hload
  have hinside := load_staysIn settings hmachine bench hruns.leads
  rw [hload] at hinside
  refine ⟨content, header, hisRead, hopen.inPlace hisRead.names_nodup ⟨runnable, ?_⟩ _, hrefusal⟩
  rw [hinside.files.get?_kept (.inl rfl), hstood]

/-- A program that has just been started reads from the scenario file of a trial what the trial has in
mind. -/
def InStep (trial : Trial) (bench : Bench) : Prop :=
  (Bench.perform { bench with headers := [] } (Scenario.read trial.scenarioFile false)).1
    = .ok trial.scenario

/-- A test in the running root has been loaded and then handled in any ways, whatever came of each.
What the trial has in mind is the record that was written last, or that was loaded, with every result
that was tried in vain since. An attempt succeeds if and only if the header of the scenario file has
no name twice, it has the columns of all attempts so far, and a draft can be created. While the
directory of the test is in place its scenario file holds what was written last, or what it held when
it was loaded; and a new program reads from it what the trial has in mind if and only if this is the
record that was written last, or that was loaded, and the header has not lost a byte order mark in
being written. -/
theorem inStep_iff {deeds : List Handled} (hmachine : machine.WritesOnlyLogs)
    (hruns : settings.workspace.Runs w name bench)
    (hload : bench.perform (load settings machine (settings.workspace.running.join name))
      = (.ok trial, loaded))
    (hhandle : handle machine handlings trial loaded = (last, after))
    (hdeeds : handled machine handlings trial loaded = deeds) :
    ∃ content header, loaded.bytesAt trial.scenarioFile = .ok content
      ∧ Table.header content = .ok header
      ∧ last.scenario = ((Handled.lastWritten? deeds).getD trial.scenario).withWrites
          (Handled.unwritten deeds)
      ∧ (∀ front deed back write, deeds = front ++ deed :: back → deed.attempt? = some write →
        (deed.outcome = .ok () ↔ header.Nodup
          ∧ (∀ tried ∈ Handled.attempts front ++ [write], tried.1 ∈ header)
          ∧ settings.workspace.TakesDraft w name deed.before))
      ∧ (after.files.HasDir (Root.running.place w ++ [name]) →
        after.bytesAt trial.scenarioFile
            = .ok ((Handled.lastWritten? deeds).elim content (·.tableBytes header))
          ∧ (last.InStep after ↔
            last.scenario = (Handled.lastWritten? deeds).getD trial.scenario
              ∧ (Table.losesMark header = true → Handled.lastWritten? deeds = none))) := by
  subst hdeeds
  obtain ⟨content, header, hisRead, hplace, hrefusal⟩ := load_inPlace hmachine hruns hload
  have hscenario := scenario_handle machine handlings trial loaded
  have hunwritten := scenario_handle_unwritten machine handlings trial loaded
  have hcases := hplace.handle hmachine handlings
  rw [hhandle] at hscenario hunwritten hcases
  refine ⟨content, header, hplace.bytesAt hrefusal, hisRead.names, hunwritten, ?_, fun hdir => ?_⟩
  · intro front deed back write hdeeds hattempt
    obtain ⟨hmind, hok⟩ := hplace.attempt_ok_iff hmachine hrefusal hdeeds hattempt
    rw [hok, hmind, ← Scenario.withWrites_concat, hisRead.names_withWrites, and_assoc]
  rcases hcases with hplace' | ⟨-, hgone⟩
  · have hfile : last.scenarioFile = trial.scenarioFile :=
      hplace'.scenarioFile.trans hplace.scenarioFile.symm
    refine ⟨hfile ▸ hplace'.bytesAt hrefusal, ?_⟩
    cases hlast : Handled.lastWritten? (handled machine handlings trial loaded) with
    | none =>
      rw [hlast] at hplace'
      rw [InStep, hplace'.read hrefusal hisRead, Except.ok.injEq, eq_comm]
      exact ⟨fun hsame => ⟨hsame, fun _ => rfl⟩, And.left⟩
    | some record =>
      rw [hlast] at hplace'
      obtain ⟨rfl, writes, hrecord⟩ := hplace.names_lastWritten hmachine hrefusal hlast
      -- A write that succeeds shows that the header has no name twice, so it was read as it is.
      obtain ⟨hnodup, -⟩ := (hisRead.names_withWrites writes).mp (by rw [← hrecord])
      have hnames := hisRead.names_eq hnodup
      cases hmark : Table.losesMark record.names with
      | false =>
        have hkept := Scenario.isRead_tableBytes hnodup hisRead.named hmark
        rw [InStep, hplace'.read hrefusal hkept, Except.ok.injEq, eq_comm]
        exact ⟨fun hsame => ⟨hsame, fun hlost => by cases hlost⟩, And.left⟩
      | true =>
        -- What the trial has in mind has the name that loses its mark.
        refine ⟨fun hstep => ?_, fun h => by cases h.2 rfl⟩
        have hall : record.names ⊆ last.scenario.names := fun column hcolumn => by
          rw [hscenario]
          exact Scenario.mem_names_foldl_set.mpr (.inl (hnames ▸ hcolumn))
        have hkept := hplace'.losesMark_of_read hrefusal rfl hnodup hall hstep
        rw [hmark] at hkept
        cases hkept
  · obtain ⟨own, hown⟩ := hdir
    rw [hown] at hgone
    cases hgone

/-- Two results that an operator writes: one into a column that the scenario file does not have, one
into a column that it has. -/
def mistakenHandlings : List Handling :=
  [.perform (.writeResult "nope" "x"), .perform (.writeResult "result" "pass")]

set_option maxRecDepth 100000 in
/-- Both are refused, the second on account of the first. The scenario file is as it was, and the trial
has both in mind. -/
theorem inStep_iff_mistaken :
    (begunBench restartResponses).perform (load {} (.scripted begunBoot []) begunPath)
        = (.ok restartTrial, loadedBench)
      ∧ ∃ first second last after,
        handled (.scripted begunBoot []) mistakenHandlings restartTrial loadedBench = [first, second]
        ∧ handle (.scripted begunBoot []) mistakenHandlings restartTrial loadedBench = (last, after)
        ∧ first.attempt? = some ("nope", "x") ∧ first.outcome ≠ .ok ()
        ∧ second.attempt? = some ("result", "pass") ∧ second.outcome ≠ .ok ()
        ∧ last.scenario = ⟨[("mode", "s2idle"), ("result", "pass"), ("nope", "x")]⟩
        ∧ after.bytesAt restartTrial.scenarioFile = .ok (Text.encode "mode,result\ns2idle,\n")
        ∧ ¬ last.InStep after := by
  have hfacts : ((begunBench restartResponses).perform
          (load {} (.scripted begunBoot []) begunPath)).1 = .ok restartTrial
      ∧ loadedBench.bytesAt restartTrial.scenarioFile = .ok (Text.encode "mode,result\ns2idle,\n")
      ∧ Table.header (Text.encode "mode,result\ns2idle,\n") = .ok ["mode", "result"]
      ∧ (handled (.scripted begunBoot []) mistakenHandlings restartTrial loadedBench).map
          Handled.attempt? = [some ("nope", "x"), some ("result", "pass")]
      ∧ Handled.lastWritten?
          (handled (.scripted begunBoot []) mistakenHandlings restartTrial loadedBench) = none
      ∧ Handled.unwritten
          (handled (.scripted begunBoot []) mistakenHandlings restartTrial loadedBench)
        = [("nope", "x"), ("result", "pass")]
      ∧ ((handle (.scripted begunBoot []) mistakenHandlings restartTrial loadedBench).2.files.get?
          (Root.running.place [] ++ [begunName])).any Node.isDir = true := by
    decide +kernel
  obtain ⟨hload, hstood, hnames, hattempts, hlast, hunwritten, hdir⟩ := hfacts
  have hload' : (begunBench restartResponses).perform (load {} (.scripted begunBoot []) begunPath)
      = (.ok restartTrial, loadedBench) := Bench.perform_eq hload
  rcases hhandle : handle (.scripted begunBoot []) mistakenHandlings restartTrial loadedBench
    with ⟨last, after⟩
  generalize hdeeds : handled (.scripted begunBoot []) mistakenHandlings restartTrial loadedBench
    = deeds at hattempts hlast hunwritten
  rw [hhandle] at hdir
  obtain ⟨content, header, hcontent, hheader, hmind, houtcome, hfile⟩ :=
    inStep_iff (Machine.scripted_writesOnlyLogs begunBoot []) (begunBench_runs restartResponses)
      hload' hhandle hdeeds
  obtain rfl := Except.ok.inj (hstood.symm.trans hcontent)
  obtain rfl := Except.ok.inj (hnames.symm.trans hheader)
  obtain ⟨hbytes, hstep⟩ := hfile (Node.hasDir_of_any hdir)
  obtain ⟨first, _, rfl, hfirst, hattempts⟩ := List.map_eq_cons_iff.mp hattempts
  obtain ⟨second, _, rfl, hsecond, hattempts⟩ := List.map_eq_cons_iff.mp hattempts
  obtain rfl := List.map_eq_nil_iff.mp hattempts
  rw [hlast, hunwritten] at hmind
  rw [hlast] at hbytes hstep
  have hnope : ∀ front deed back write, [first, second] = front ++ deed :: back →
      deed.attempt? = some write → ("nope", "x") ∈ Handled.attempts front ++ [write] →
      deed.outcome ≠ .ok () := by
    intro front deed back write hdeeds hattempt hmem hok
    obtain ⟨-, hcolumns, -⟩ := (houtcome front deed back write hdeeds hattempt).mp hok
    exact absurd (hcolumns _ hmem) (by decide)
  refine ⟨hload', first, second, last, after, rfl, rfl, hfirst, ?_, hsecond, ?_, hmind, hbytes,
    ?_⟩
  · exact hnope [] first [second] _ rfl hfirst (by simp)
  · exact hnope [first] second [] _ rfl hsecond (by simp [Handled.attempts, hfirst])
  · rw [hstep, hmind]
    rintro ⟨hsame, -⟩
    exact absurd hsame (by decide)

end Trial

end BootTrial
