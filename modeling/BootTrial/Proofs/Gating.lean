import Mathlib.Data.List.Basic
import BootTrial.Proofs.Compiling

/-!
# Menus under fewer conditions

Every row of a response file is checked whether or not its condition holds, so the checks of a row
do not depend on which conditions hold, only on which are known (`Response.Passes.sameNames`). What
does depend on it is which rows reach the menu, and with them which hotkeys could clash. If fewer
conditions hold the menu is a part of what it was (`Menu.IsPartOf`): rows are missing, which may
change the order of the entries but not the order of the actions of one. If other conditions hold,
all that can go wrong is that two descriptions claim one hotkey.
-/

namespace BootTrial

/-! ## Conditions -/

namespace Conditions

variable {conditions other : Conditions}

/-- Two sets of conditions know the same names. -/
def SameNames (conditions other : Conditions) : Prop :=
  ∀ name, (conditions.known.lookup name).isSome = (other.known.lookup name).isSome

/-- What holds in one set of conditions holds in the other. -/
def Implies (conditions other : Conditions) : Prop :=
  ∀ name, conditions.known.lookup name = some true → other.known.lookup name = some true

/-- A name that is known in one set is known in the other. -/
theorem SameNames.lookup (h : conditions.SameNames other) {name : String} {holds : Bool}
    (hknown : other.known.lookup name = some holds) :
    ∃ holds, conditions.known.lookup name = some holds := by
  apply Option.isSome_iff_exists.mp
  rw [h name, hknown]
  rfl

/-- A condition that holds in the one set holds in the other. -/
theorem Implies.holds (h : conditions.Implies other) {raw : String}
    (hholds : conditions.holds raw = .ok true) : other.holds raw = .ok true := by
  unfold Conditions.holds at hholds ⊢
  by_cases hempty : Text.trim raw = ""
  · exact if_pos hempty
  · simp only [if_neg hempty] at hholds ⊢
    cases hlookup : conditions.known.lookup (Text.trim raw) with
    | none => simp [hlookup] at hholds
    | some value =>
      obtain rfl : value = true := by simpa [hlookup] using hholds
      rw [h _ hlookup]

/-- One condition is known of a test, and it holds in the boot of the claim. -/
theorem lookup_ofBoot (isSame : Bool) (name : String) :
    (ofBoot isSame).known.lookup name = if name = sameBoot then some isSame else none := by
  rw [ofBoot, set, List.lookup_cons]
  by_cases h : name = sameBoot
  · simp [h]
  · rw [beq_false_of_ne h, if_neg h]
    rfl

/-- Whichever boot the machine is in, the same conditions are known. -/
theorem sameNames_ofBoot (isSame isSame' : Bool) :
    (ofBoot isSame).SameNames (ofBoot isSame') := by
  intro name
  rw [lookup_ofBoot, lookup_ofBoot]
  split <;> rfl

/-- What holds in some boot holds in the boot of the claim. -/
theorem ofBoot_implies (isSame : Bool) : (ofBoot isSame).Implies (ofBoot true) := by
  intro name h
  rw [lookup_ofBoot] at h ⊢
  by_cases hname : name = sameBoot
  · exact if_pos hname
  · rw [if_neg hname] at h
    cases h

end Conditions

/-! ## Rows -/

section Rows

variable {conditions other : Conditions} {header : Except Error (List String)}
  {rows : List Response} {row : Response}

/-- Which conditions hold does not matter for the checks of a row. -/
theorem Response.Passes.sameNames (h : row.Passes other header)
    (hnames : conditions.SameNames other) : row.Passes conditions header :=
  ⟨h.prepared, h.condition.imp id fun ⟨_, hknown⟩ => hnames.lookup hknown⟩

/-- A row that reaches the menu still does if more conditions hold. -/
theorem Response.isActive_mono (himplies : conditions.Implies other)
    (h : row.isActive conditions = true) : row.isActive other = true :=
  isActive_iff.mpr (himplies.holds (isActive_iff.mp h))

namespace Menu

/-- A hotkey that stands for a description still does if more conditions hold. -/
theorem Binds.mono {key : Char} {description : String} (himplies : conditions.Implies other)
    (h : Binds conditions rows key description) : Binds other rows key description := by
  obtain ⟨row, hrow, hactive, hkey⟩ := h
  exact ⟨row, hrow, Response.isActive_mono himplies hactive, hkey⟩

/-- Hotkeys that stand apart do so if fewer conditions hold. -/
theorem KeysApart.anti (himplies : conditions.Implies other) (h : KeysApart other rows) :
    KeysApart conditions rows :=
  fun key description description' hbinds hbinds' =>
    h key description description' (hbinds.mono himplies) (hbinds'.mono himplies)

/-- A description that is listed still is if more conditions hold. -/
theorem listed_mono {description : String} (himplies : conditions.Implies other)
    (h : description ∈ listed conditions rows) : description ∈ listed other rows := by
  obtain ⟨row, hrow, hactive, hdescription⟩ := mem_listed.mp h
  exact mem_listed.mpr ⟨row, hrow, Response.isActive_mono himplies hactive, hdescription⟩

/-- The actions of a description stay, in their order, if more conditions hold. -/
theorem actionsFor_sublist (himplies : conditions.Implies other) (description : String) :
    (actionsFor conditions rows description).Sublist (actionsFor other rows description) := by
  refine List.Sublist.filterMap _ (List.monotone_filter_right rows fun row hrow => ?_)
  obtain ⟨hactive, hdescription⟩ := Bool.and_eq_true_iff.mp hrow
  exact Bool.and_eq_true_iff.mpr ⟨Response.isActive_mono himplies hactive, hdescription⟩

end Menu

end Rows

/-! ## Menus -/

namespace Menu

section Parts

variable {conditions other : Conditions} {rows : List Response} {menu menu' : Menu}

/-- A menu is a part of another. -/
structure IsPartOf (menu menu' : Menu) : Prop where
  /-- Its hotkeys stand for the same there. -/
  hotkeys : ∀ binding ∈ menu.hotkeys, binding ∈ menu'.hotkeys
  /-- Its descriptions stand there. -/
  descriptions : ∀ description ∈ menu.descriptions, description ∈ menu'.descriptions
  /-- The actions of a description are some of those there, in the same order. -/
  actions : ∀ description, (menu.actionsOf description).Sublist (menu'.actionsOf description)

/-- The actions of a description are those of its rows. -/
theorem Holds.actionsOf_eq (h : menu.Holds conditions rows) (description : String) :
    menu.actionsOf description = actionsFor conditions rows description := by
  have hentry : menu.entryFor? description
      = ((listed conditions rows).find? (· = description)).map fun text =>
        ⟨text, actionsFor conditions rows text⟩ := by
    rw [entryFor?, h.entries, entriesFor, List.find?_map]
    rfl
  rw [actionsOf, hentry]
  cases hfind : (listed conditions rows).find? (· = description) with
  | some text =>
    obtain rfl : text = description := by simpa using List.find?_some hfind
    rfl
  | none =>
    -- Without a row there is neither an entry nor an action.
    have hnone : (rows.filter fun row =>
        row.isActive conditions && row.description = description) = [] := by
      refine List.filter_eq_nil_iff.mpr fun row hrow hboth => ?_
      obtain ⟨hactive, hdescription⟩ := Bool.and_eq_true_iff.mp hboth
      have hlisted := mem_listed.mpr ⟨row, hrow, hactive, of_decide_eq_true hdescription⟩
      simpa using List.find?_eq_none.mp hfind _ hlisted
    rw [actionsFor, hnone]
    rfl

/-- The menu is a part of the one under more conditions. -/
theorem Holds.isPartOf (himplies : conditions.Implies other) (h : menu.Holds conditions rows)
    (h' : menu'.Holds other rows) : menu.IsPartOf menu' := by
  constructor
  · rintro ⟨key, description⟩ hbinding
    have hbinds := (h.hotkeys key description).mp ((h.sorted.lookup_eq_some _ _).mpr hbinding)
    exact (h'.sorted.lookup_eq_some _ _).mp ((h'.hotkeys _ _).mpr (hbinds.mono himplies))
  · intro description hmem
    rw [h.descriptions_eq] at hmem
    rw [h'.descriptions_eq]
    exact listed_mono himplies hmem
  · intro description
    rw [h.actionsOf_eq, h'.actionsOf_eq]
    exact actionsFor_sublist himplies description

end Parts

end Menu

/-- What is read of a response file depends on what it holds. -/
theorem Response.perform_readAll (path : Path) (bench : Bench) :
    bench.perform (readAll path) = (match bench.bytesAt path with
      | .ok content => (ofBytes content).mapError (.malformedResponses path)
      | .error fault => .error (.malformedResponses path fault.message), bench) := by
  unfold readAll
  have hread : bench.perform ((FileWork.look (·.bytesAt path)).reportedAs fun fault =>
      .malformedResponses path fault.message) = ((bench.bytesAt path).mapError fun fault =>
        .malformedResponses path fault.message, bench) := by
    rw [Bench.perform_reportedAs, Bench.perform_look]
  rw [Bench.perform_bind, hread]
  cases bench.bytesAt path with
  | error fault => rfl
  | ok content =>
    simp only [Except.mapError]
    cases ofBytes content <;> rfl

namespace Menu

variable {bench later : Bench} {schema : Path} {conditions other : Conditions}
  {rows : List Response} {menu : Menu}

/-- Every row passes if the rows give a menu, whichever of the conditions hold. -/
theorem passes_of_ofResponses (hnames : conditions.SameNames other)
    (hmenu : (bench.perform (ofResponses rows other schema)).1 = .ok menu) :
    ∀ row ∈ rows, row.Passes conditions (bench.perform (ScenarioTable.headerAt schema)).1 := by
  intro row hrow
  obtain ⟨hpasses, -⟩ := (compiles_of_finds rfl other rows).accepts.mp ⟨menu, hmenu⟩
  exact (hpasses row hrow).sameNames hnames

/-- Rows that give a menu give a part of it if fewer conditions hold. -/
theorem ofResponses_narrow
    (hheader : later.Finds schema (bench.perform (ScenarioTable.headerAt schema)).1)
    (hnames : conditions.SameNames other) (himplies : conditions.Implies other)
    (hmenu : (bench.perform (ofResponses rows other schema)).1 = .ok menu) :
    ∃ menu', (later.perform (ofResponses rows conditions schema)).1 = .ok menu'
      ∧ menu'.IsPartOf menu := by
  have hcompiles := compiles_of_finds (rfl : bench.Finds schema _) other rows
  have hnarrow := compiles_of_finds hheader conditions rows
  obtain ⟨-, hkeys⟩ := hcompiles.accepts.mp ⟨menu, hmenu⟩
  obtain ⟨menu', hmenu'⟩ :=
    hnarrow.accepts.mpr ⟨passes_of_ofResponses hnames hmenu, hkeys.anti himplies⟩
  exact ⟨menu', hmenu', (hnarrow.holds menu' hmenu').isPartOf himplies (hcompiles.holds menu hmenu)⟩

/-- Rows that give a menu fail under other conditions only for a hotkey. -/
theorem ofResponses_collides
    (hheader : later.Finds schema (bench.perform (ScenarioTable.headerAt schema)).1)
    (hnames : conditions.SameNames other)
    (hmenu : (bench.perform (ofResponses rows other schema)).1 = .ok menu) {failure : Error}
    (hfails : (later.perform (ofResponses rows conditions schema)).1 = .error failure) :
    ∃ key existing description, failure = .hotkeyCollision key existing description := by
  obtain ⟨front, row, back, rfl, -, -, hrow⟩ :=
    (compiles_of_finds hheader conditions rows).rejects failure hfails
  obtain ⟨key, existing, rfl, -⟩ := hrow.clash (passes_of_ofResponses hnames hmenu row (by simp))
  exact ⟨key, existing, _, rfl⟩

/-- The menu depends monotonically on the conditions. The rows are compiled for one scenario table,
with the header that is found in it: if they give a menu under some conditions, they give a part of
it if fewer of these hold, and under any conditions with the same names they fail only for a hotkey.
So a response file that compiles in the boot of the claim compiles in every boot. -/
theorem ofResponses_monotone {bench later : Bench} {schema : Path}
    (hheader : later.Finds schema (bench.perform (ScenarioTable.headerAt schema)).1) :
    (∀ (rows : List Response) (conditions other : Conditions) (menu : Menu),
        conditions.SameNames other →
        (bench.perform (ofResponses rows other schema)).1 = .ok menu →
        (conditions.Implies other →
            ∃ menu', (later.perform (ofResponses rows conditions schema)).1 = .ok menu'
              ∧ menu'.IsPartOf menu)
          ∧ ∀ failure, (later.perform (ofResponses rows conditions schema)).1 = .error failure →
            ∃ key existing description, failure = .hotkeyCollision key existing description)
      ∧ ∀ (path : Path) (isSame : Bool) (menu : Menu),
        later.bytesAt path = bench.bytesAt path →
        (bench.perform (ofFile path (.ofBoot true) schema)).1 = .ok menu →
        ∃ menu', (later.perform (ofFile path (.ofBoot isSame) schema)).1 = .ok menu'
          ∧ menu'.IsPartOf menu := by
  refine ⟨fun rows conditions other menu hnames hmenu => ⟨fun himplies => ?_, fun failure hfails => ?_⟩,
    fun path isSame menu hbytes hmenu => ?_⟩
  · exact ofResponses_narrow hheader hnames himplies hmenu
  · exact ofResponses_collides hheader hnames hmenu hfails
  · -- The file is read as it was, and its rows give a part of the menu.
    obtain ⟨rows, read, hread, hrows⟩ := Bench.perform_bind_inv (Prod.ext hmenu rfl)
    have hunmoved : read = bench := by
      rw [Response.perform_readAll] at hread
      exact (congrArg Prod.snd hread).symm
    subst hunmoved
    have hlater : later.perform (Response.readAll path) = (.ok rows, later) := by
      rw [Response.perform_readAll] at hread ⊢
      rw [hbytes, (Prod.mk.inj hread).1]
    rw [ofFile, Bench.perform_bind_ok hlater]
    exact ofResponses_narrow hheader (Conditions.sameNames_ofBoot isSame true)
      (Conditions.ofBoot_implies isSame) (congrArg Prod.fst hrows)

/-- A scenario table, and a response file of which one description and one action are for the boot of
the claim only. -/
def gatedBench : Bench where
  files := .dir [("scenarios.csv", .file (Text.encode "mode,result\ns2idle,\n") false),
    ("quick-responses.csv", .file (Text.encode ("description,condition,action,params\n"
      ++ "Done [d],,write_result,result pass\nDone [d],is_current_boot,reboot,\n"
      ++ "Keep [k],is_current_boot,quit,\n")) false)]
  here := []
  home := .ofText "/"
  searchPath := []
  color := false

/-- The menu of that file in a later boot is the rest of the one in the boot of the claim. Rows that
give a menu in a later boot may still clash in the boot of the claim. -/
theorem ofResponses_monotone_gated :
    (∃ menu menu', (gatedBench.perform (ofFile (.ofText "quick-responses.csv") (.ofBoot true)
          (.ofText "scenarios.csv"))).1 = .ok menu
        ∧ (gatedBench.perform (ofFile (.ofText "quick-responses.csv") (.ofBoot false)
          (.ofText "scenarios.csv"))).1 = .ok menu'
        ∧ menu'.IsPartOf menu ∧ menu'.descriptions = ["Done [d]"]
        ∧ menu.descriptions = ["Done [d]", "Keep [k]"])
      ∧ ∃ key existing description, (gatedBench.perform (ofResponses resumableResponses
          (.ofBoot true) (.ofText "scenarios.csv"))).1 = .error (.hotkeyCollision key existing description) := by
  have hheader : gatedBench.Finds (.ofText "scenarios.csv")
      (gatedBench.perform (ScenarioTable.headerAt (.ofText "scenarios.csv"))).1 := rfl
  obtain ⟨hrows, hfiles⟩ := ofResponses_monotone hheader
  constructor
  · have hmenu : (gatedBench.perform (ofFile (.ofText "quick-responses.csv") (.ofBoot true)
        (.ofText "scenarios.csv"))).1 = .ok ⟨[⟨"Done [d]", [.writeResult "result" "pass", .reboot]⟩,
          ⟨"Keep [k]", [.quit]⟩], [('d', "Done [d]"), ('k', "Keep [k]")]⟩ := by
      decide +kernel
    obtain ⟨menu', hmenu', hpart⟩ := hfiles _ false _ rfl hmenu
    have hrest : (gatedBench.perform (ofFile (.ofText "quick-responses.csv") (.ofBoot false)
        (.ofText "scenarios.csv"))).1 = .ok ⟨[⟨"Done [d]", [.writeResult "result" "pass"]⟩],
          [('d', "Done [d]")]⟩ := by
      decide +kernel
    obtain rfl := Except.ok.inj (hmenu'.symm.trans hrest)
    exact ⟨_, _, hmenu, hmenu', hpart, rfl, rfl⟩
  · have hmenu : (gatedBench.perform (ofResponses resumableResponses (.ofBoot false)
        (.ofText "scenarios.csv"))).1 = .ok ⟨[⟨"Put off [p]", [.quit]⟩], [('p', "Put off [p]")]⟩ := by
      decide +kernel
    have hclash : (gatedBench.perform (ofResponses resumableResponses (.ofBoot true)
        (.ofText "scenarios.csv"))).1.isOk = false := by
      decide +kernel
    obtain ⟨-, hcollides⟩ := hrows _ _ _ _ (Conditions.sameNames_ofBoot true false) hmenu
    rcases hresult : (gatedBench.perform (ofResponses resumableResponses (.ofBoot true)
        (.ofText "scenarios.csv"))).1 with failure | menu
    · obtain ⟨key, existing, description, rfl⟩ := hcollides failure hresult
      exact ⟨key, existing, description, rfl⟩
    · rw [hresult] at hclash
      cases hclash

end Menu

end BootTrial
