import Mathlib.Data.List.Induction
import BootTrial.Proofs.Reading
import BootTrial.Proofs.Steps

/-!
# What the compilation of a menu gives

The rows of a response file are compiled one after the other. What has to come of them can be said
of all rows at once (`Menu.Compiles`): they give a menu if and only if every row passes its checks
(`Response.Passes`) and no hotkey stands for two descriptions (`Menu.KeysApart`). The entries of the
menu are the descriptions of the rows whose condition holds, each where it appears first, with the
actions of its rows (`Menu.entriesFor`), and the hotkeys are those that these descriptions mark.
Otherwise the failure is that of the first row at fault, and of the first check that it fails
(`Response.Fails`).
-/

namespace BootTrial

/-! ## Hotkeys and entries -/

namespace Menu

/-- Bindings in the order of code points, with no key bound twice. -/
def IsSorted (bindings : List (Char × String)) : Prop :=
  bindings.Pairwise fun first second => first.1.toNat < second.1.toNat

/-- In such an order a key stands for what is listed with it. -/
theorem IsSorted.lookup_eq_some {bindings : List (Char × String)} (h : IsSorted bindings)
    (key : Char) (description : String) :
    bindings.lookup key = some description ↔ (key, description) ∈ bindings := by
  induction bindings with
  | nil => simp
  | cons binding rest ih =>
    obtain ⟨first, bound⟩ := binding
    obtain ⟨hfirst, hrest⟩ := List.pairwise_cons.mp h
    rw [List.lookup_cons, List.mem_cons]
    by_cases hkey : key = first
    · subst hkey
      have hmem : (key, description) ∉ rest := fun hmem =>
        Nat.lt_irrefl _ (hfirst (key, description) hmem)
      simp [hmem, eq_comm]
    · simp [beq_false_of_ne hkey, hkey, ih hrest]

/-- Bindings in such an order are given by what they bind. -/
theorem IsSorted.ext {bindings bindings' : List (Char × String)} (h : IsSorted bindings)
    (h' : IsSorted bindings') (hsame : ∀ key description,
      bindings.lookup key = some description ↔ bindings'.lookup key = some description) :
    bindings = bindings' := by
  have hnodup : ∀ own : List (Char × String), IsSorted own → own.Nodup := by
    intro own hown
    refine List.Pairwise.imp (fun hlt => ?_) hown
    rintro rfl
    exact Nat.lt_irrefl _ hlt
  have hperm : bindings.Perm bindings' :=
    (List.perm_ext_iff_of_nodup (hnodup _ h) (hnodup _ h')).mpr fun ⟨key, description⟩ => by
      rw [← h.lookup_eq_some, ← h'.lookup_eq_some, hsame]
  exact hperm.eq_of_pairwise (fun _ _ _ _ hlt hgt => absurd hlt (Nat.lt_asymm hgt)) h h'

/-- What is bound after a key has been bound that was not. -/
theorem lookup_insertKey {key : Char} {bindings : List (Char × String)}
    (h : bindings.lookup key = none) (description : String) (other : Char) :
    (insertKey key description bindings).lookup other
      = if other = key then some description else bindings.lookup other := by
  induction bindings with
  | nil =>
    by_cases hother : other = key
    · simp [insertKey, hother]
    · simp [insertKey, List.lookup_cons, beq_false_of_ne hother, hother]
  | cons binding rest ih =>
    obtain ⟨first, bound⟩ := binding
    have hfirst : key ≠ first := by
      rintro rfl
      simp at h
    rw [List.lookup_cons, beq_false_of_ne hfirst] at h
    rw [insertKey]
    split
    · by_cases hother : other = key
      · simp [hother]
      · rw [List.lookup_cons, beq_false_of_ne hother, if_neg hother]
    · rw [List.lookup_cons, List.lookup_cons]
      by_cases hother : other = first
      · simp [hother, Ne.symm hfirst]
      · rw [beq_false_of_ne hother]
        exact ih h

/-- The bindings are those that there were and the new one. -/
theorem mem_insertKey {key : Char} {description : String} {bindings : List (Char × String)}
    {binding : Char × String} (h : binding ∈ insertKey key description bindings) :
    binding = (key, description) ∨ binding ∈ bindings := by
  induction bindings with
  | nil => exact .inl (List.mem_singleton.mp h)
  | cons first rest ih =>
    rw [insertKey] at h
    split at h
    · exact List.mem_cons.mp h
    · rcases List.mem_cons.mp h with rfl | h
      · exact .inr List.mem_cons_self
      · exact (ih h).imp id (List.mem_cons_of_mem _)

/-- The bindings stay in order when a key is bound that was not. -/
theorem sorted_insertKey {key : Char} {bindings : List (Char × String)} (h : IsSorted bindings)
    (hnone : bindings.lookup key = none) (description : String) :
    IsSorted (insertKey key description bindings) := by
  induction bindings with
  | nil => exact List.pairwise_singleton _ _
  | cons binding rest ih =>
    obtain ⟨first, bound⟩ := binding
    obtain ⟨hfirst, hrest⟩ := List.pairwise_cons.mp h
    have hne : key ≠ first := by
      rintro rfl
      simp at hnone
    rw [List.lookup_cons, beq_false_of_ne hne] at hnone
    rw [insertKey]
    split
    · next hlt =>
      refine List.pairwise_cons.mpr ⟨fun other hother => ?_, h⟩
      rcases List.mem_cons.mp hother with rfl | hother
      · exact hlt
      · exact Nat.lt_trans hlt (hfirst other hother)
    · next hle =>
      refine List.pairwise_cons.mpr ⟨fun other hother => ?_, ih hrest hnone⟩
      rcases mem_insertKey hother with rfl | hother
      · have hkeys : first.toNat ≠ key.toNat := fun heq =>
          hne (Char.ext (UInt32.toNat.inj heq.symm))
        exact Nat.lt_of_le_of_ne (Nat.not_lt.mp hle) hkeys
      · exact hfirst other hother

/-- Keys are bound to a description unless one of them stands for another description already. The
first of these is reported. -/
theorem bindKeys_cases (description : String) (bindings : List (Char × String)) (keys : List Char) :
    (∃ bindings', bindKeys description bindings keys = .ok bindings'
        ∧ (∀ key ∈ keys, ∀ other, bindings.lookup key = some other → other = description)
        ∧ (∀ key other, bindings'.lookup key = some other
          ↔ bindings.lookup key = some other ∨ key ∈ keys ∧ other = description)
        ∧ (IsSorted bindings → IsSorted bindings'))
      ∨ ∃ before key behind existing, keys = before ++ key :: behind
        ∧ (∀ key ∈ before, ∀ other, bindings.lookup key = some other → other = description)
        ∧ bindings.lookup key = some existing ∧ existing ≠ description
        ∧ bindKeys description bindings keys
          = .error (.hotkeyCollision key existing description) := by
  induction keys generalizing bindings with
  | nil => exact .inl ⟨bindings, rfl, by simp, by simp, id⟩
  | cons key rest ih =>
    rw [bindKeys]
    cases hlookup : bindings.lookup key with
    | none =>
      -- A key that is bound now stands for this description, and for no other.
      have hothers : ∀ other known, bindings.lookup other = some known →
          (insertKey key description bindings).lookup other = some known := by
        intro other known hknown
        have hne : other ≠ key := by
          rintro rfl
          rw [hlookup] at hknown
          cases hknown
        rw [lookup_insertKey hlookup, if_neg hne, hknown]
      simp only
      rcases ih (insertKey key description bindings) with ⟨bindings', hbind, hfits, hbound, hsorted⟩ |
        ⟨before, clash, behind, existing, rfl, hbefore, hclash, hother, hbind⟩
      · refine .inl ⟨bindings', hbind, fun other hmem known hknown => ?_, fun other known => ?_,
          fun h => hsorted (sorted_insertKey h hlookup description)⟩
        · rcases List.mem_cons.mp hmem with rfl | hmem
          · rw [hlookup] at hknown
            cases hknown
          · exact hfits other hmem known (hothers other known hknown)
        · rw [hbound, lookup_insertKey hlookup]
          by_cases hkey : other = key
          · simp [hkey, hlookup, eq_comm]
          · simp [hkey]
      · have hne : clash ≠ key := by
          rintro rfl
          rw [lookup_insertKey hlookup, if_pos rfl] at hclash
          exact hother (Option.some.inj hclash).symm
        rw [lookup_insertKey hlookup, if_neg hne] at hclash
        refine .inr ⟨key :: before, clash, behind, existing, rfl, fun other hmem known hknown => ?_,
          hclash, hother, hbind⟩
        rcases List.mem_cons.mp hmem with rfl | hmem
        · rw [hlookup] at hknown
          cases hknown
        · exact hbefore other hmem known (hothers other known hknown)
    | some existing =>
      simp only
      by_cases hsame : existing = description
      · subst hsame
        rw [if_pos rfl]
        have hkey : ∀ other, bindings.lookup key = some other → other = existing := fun other h =>
          Option.some.inj (h.symm.trans hlookup)
        rcases ih bindings with ⟨bindings', hbind, hfits, hbound, hsorted⟩ |
          ⟨before, clash, behind, known, rfl, hbefore, hclash⟩
        · refine .inl ⟨bindings', hbind, List.forall_mem_cons.mpr ⟨hkey, hfits⟩, fun other known => ?_,
            hsorted⟩
          rw [hbound, List.mem_cons]
          constructor
          · exact fun h => h.imp id fun ⟨hmem, heq⟩ => ⟨.inr hmem, heq⟩
          · rintro (h | ⟨rfl | hmem, rfl⟩)
            · exact .inl h
            · exact .inl hlookup
            · exact .inr ⟨hmem, rfl⟩
        · exact .inr ⟨key :: before, clash, behind, known, rfl,
            List.forall_mem_cons.mpr ⟨hkey, hbefore⟩, hclash⟩
      · rw [if_neg hsame]
        exact .inr ⟨[], key, rest, existing, rfl, by simp, hlookup, hsame, rfl⟩

/-- The entries for some descriptions, no description twice, when an action is added to one. -/
theorem addAction_map {descriptions : List String} (hnodup : descriptions.Nodup)
    (actions : String → List Action) {description : String} (action : Action)
    (hnew : description ∉ descriptions → actions description = []) :
    addAction description action (descriptions.map fun text => ⟨text, actions text⟩)
      = (if description ∈ descriptions then descriptions else descriptions ++ [description]).map
        fun text => ⟨text, if text = description then actions text ++ [action] else actions text⟩ := by
  induction descriptions with
  | nil => simp [addAction, hnew]
  | cons first rest ih =>
    obtain ⟨hfirst, hrest⟩ := List.nodup_cons.mp hnodup
    rw [List.map_cons, addAction]
    by_cases hsame : first = description
    · subst hsame
      have hkept : ∀ text ∈ rest, (⟨text, actions text⟩ : Menu.Entry)
          = ⟨text, if text = first then actions text ++ [action] else actions text⟩ := by
        intro text htext
        have hne : text ≠ first := fun heq => hfirst (heq ▸ htext)
        rw [if_neg hne]
      rw [if_pos rfl, if_pos List.mem_cons_self, List.map_cons, if_pos rfl, List.map_congr_left hkept]
    · rw [if_neg hsame, ih hrest fun hmem => hnew (by simp [Ne.symm hsame, hmem])]
      by_cases hmem : description ∈ rest
      · rw [if_pos hmem, if_pos (List.mem_cons_of_mem _ hmem), List.map_cons, if_neg hsame]
      · rw [if_neg hmem, if_neg (by simp [Ne.symm hsame, hmem]), List.cons_append, List.map_cons,
          if_neg hsame]

end Menu

/-! ## What the rows have to give -/

namespace Response

/-- Whether the condition of a row holds, so that it reaches the menu. -/
def isActive (conditions : Conditions) (row : Response) : Bool :=
  decide (conditions.holds row.condition = .ok true)

/-- A row reaches the menu exactly if its condition holds. -/
theorem isActive_iff {conditions : Conditions} {row : Response} :
    row.isActive conditions = true ↔ conditions.holds row.condition = .ok true := by
  simp [isActive]

/-- The action of a row, if it has one. -/
def action? (row : Response) : Option Action :=
  row.prepare.toOption

/-- A row passes all checks of its own, where `header` is what is found when the header of the
scenario table is looked for. -/
structure Passes (conditions : Conditions) (header : Except Error (List String)) (row : Response) :
    Prop where
  /-- The action is that of a kind, which can take the words of the parameters, and the column that
  it writes is in the header. -/
  prepared : ∃ kind words action, ActionKind.named? (Text.trim row.action) = some kind
    ∧ Text.shellWords? row.params = some words ∧ kind.prepare words = .ok action
    ∧ ∀ column, action.column? = some column → ∃ names, header = .ok names ∧ column ∈ names
  /-- The condition is empty or known. -/
  condition : Text.trim row.condition = ""
    ∨ ∃ holds, conditions.known.lookup (Text.trim row.condition) = some holds

/-- A row has the action that its kind makes of its words. -/
theorem prepare_ok {row : Response} {kind : ActionKind} {words : List String} {action : Action}
    (hkind : ActionKind.named? (Text.trim row.action) = some kind)
    (hwords : Text.shellWords? row.params = some words) (haction : kind.prepare words = .ok action) :
    row.prepare = .ok action := by
  rw [prepare, hkind]
  simp only [hwords]
  exact haction

end Response

namespace Menu

/-- A hotkey stands for a description: a row with this description reaches the menu. -/
def Binds (conditions : Conditions) (rows : List Response) (key : Char) (description : String) :
    Prop :=
  ∃ row ∈ rows, row.isActive conditions = true ∧ row.description = description
    ∧ key ∈ BootTrial.hotkeys description

/-- No hotkey stands for two descriptions. -/
def KeysApart (conditions : Conditions) (rows : List Response) : Prop :=
  ∀ key description other, Binds conditions rows key description → Binds conditions rows key other →
    description = other

/-- The descriptions of the rows that reach the menu, each where it appears first. -/
def listed (conditions : Conditions) (rows : List Response) : List String :=
  ((rows.filter (·.isActive conditions)).map (·.description)).eraseDups

/-- The actions of the rows with a description that reach the menu, in the order of the rows. -/
def actionsFor (conditions : Conditions) (rows : List Response) (description : String) :
    List Action :=
  (rows.filter fun row => row.isActive conditions && row.description = description).filterMap
    Response.action?

/-- The entries of the menu of some rows. -/
def entriesFor (conditions : Conditions) (rows : List Response) : List Menu.Entry :=
  (listed conditions rows).map fun description =>
    ⟨description, actionsFor conditions rows description⟩

end Menu

/-- A failure is that of the first check which a row fails behind others. -/
inductive Response.Fails (conditions : Conditions) (schema : Path)
    (header : Except Error (List String)) (front : List Response) (row : Response) : Error → Prop
  /-- There is no action of its name. -/
  | action (hkind : ActionKind.named? (Text.trim row.action) = none) :
      Fails conditions schema header front row (.unknownAction row.action)
  /-- The parameters cannot be taken apart into words. -/
  | words {kind : ActionKind} (hkind : ActionKind.named? (Text.trim row.action) = some kind)
      (hwords : Text.shellWords? row.params = none) :
      Fails conditions schema header front row
        (.invalidParameters kind.name ("cannot tokenize '" ++ row.params ++ "'"))
  /-- The action cannot take the words. -/
  | params {kind : ActionKind} {words : List String} {failure : Error}
      (hkind : ActionKind.named? (Text.trim row.action) = some kind)
      (hwords : Text.shellWords? row.params = some words)
      (haction : kind.prepare words = .error failure) :
      Fails conditions schema header front row failure
  /-- The header that the column should be in cannot be had. -/
  | header {action : Action} {column : String} {failure : Error}
      (haction : row.prepare = .ok action)
      (hcolumn : action.column? = some column) (hheader : header = .error failure) :
      Fails conditions schema header front row failure
  /-- The column is not in the header. -/
  | column {action : Action} {column : String} {names : List String}
      (haction : row.prepare = .ok action) (hcolumn : action.column? = some column)
      (hheader : header = .ok names) (hmissing : column ∉ names) :
      Fails conditions schema header front row (.unknownColumn column schema)
  /-- The condition is not known. -/
  | condition {action : Action} (haction : row.prepare = .ok action)
      (hcolumn : ∀ column, action.column? = some column → ∃ names, header = .ok names ∧ column ∈ names)
      (hnamed : Text.trim row.condition ≠ "")
      (hunknown : conditions.known.lookup (Text.trim row.condition) = none) :
      Fails conditions schema header front row (.unknownCondition (Text.trim row.condition))
  /-- A hotkey stands for another description in front. -/
  | hotkey {before behind : List Char} {key : Char} {existing : String}
      (hpasses : row.Passes conditions header) (hactive : row.isActive conditions = true)
      (hkeys : BootTrial.hotkeys row.description = before ++ key :: behind)
      (hbefore : ∀ other ∈ before, ∀ description, Menu.Binds conditions front other description →
        description = row.description)
      (hbound : Menu.Binds conditions front key existing) (hother : existing ≠ row.description) :
      Fails conditions schema header front row (.hotkeyCollision key existing row.description)

/-- A menu holds what some rows give. -/
structure Menu.Holds (conditions : Conditions) (rows : List Response) (menu : Menu) : Prop where
  /-- The entries are the descriptions, each where it appears first, with their actions. -/
  entries : menu.entries = entriesFor conditions rows
  /-- The hotkeys are those of the descriptions. -/
  hotkeys : ∀ key description,
    menu.hotkeys.lookup key = some description ↔ Binds conditions rows key description
  /-- They are listed by code point. -/
  sorted : IsSorted menu.hotkeys

/-- A result is what the compilation of some rows has to give. -/
structure Menu.Compiles (conditions : Conditions) (schema : Path)
    (header : Except Error (List String)) (rows : List Response) (result : Except Error Menu) :
    Prop where
  /-- There is a menu if and only if every row passes and no hotkey stands for two descriptions. -/
  accepts : (∃ menu, result = .ok menu)
    ↔ (∀ row ∈ rows, row.Passes conditions header) ∧ KeysApart conditions rows
  /-- The menu holds what the rows give. -/
  holds : ∀ menu, result = .ok menu → menu.Holds conditions rows
  /-- A failure is that of the first row at fault. -/
  rejects : ∀ failure, result = .error failure → ∃ front row back, rows = front ++ row :: back
    ∧ (∀ other ∈ front, other.Passes conditions header) ∧ KeysApart conditions front
    ∧ row.Fails conditions schema header front failure

/-! ## One row more -/

/-- A text is listed behind others unless it stands among them already. -/
theorem eraseDups_concat (texts : List String) (text : String) :
    (texts ++ [text]).eraseDups
      = if text ∈ texts.eraseDups then texts.eraseDups else texts.eraseDups ++ [text] := by
  rw [List.eraseDups_append, List.removeAll]
  by_cases h : text ∈ texts <;> simp [h, List.mem_eraseDups, List.eraseDups_cons]

/-- No text is listed twice. -/
theorem nodup_eraseDups (texts : List String) : texts.eraseDups.Nodup := by
  induction texts using List.reverseRecOn with
  | nil => simp
  | append_singleton texts text ih =>
    rw [eraseDups_concat]
    split
    · exact ih
    · next h => exact List.nodup_append.mpr ⟨ih, by simp, by grind⟩

namespace Menu

variable {conditions : Conditions} {front : List Response} {row : Response} {description : String}

/-- A hotkey of some rows and one more is one of these rows or one of that row. -/
theorem binds_concat {key : Char} : Binds conditions (front ++ [row]) key description
    ↔ Binds conditions front key description ∨ row.isActive conditions = true
      ∧ row.description = description ∧ key ∈ BootTrial.hotkeys description := by
  simp only [Binds, List.mem_append, List.mem_singleton, or_and_right, exists_or, exists_eq_left]

/-- A description is listed if a row with it reaches the menu. -/
theorem mem_listed : description ∈ listed conditions front
    ↔ ∃ row ∈ front, row.isActive conditions = true ∧ row.description = description := by
  simp [listed, List.mem_eraseDups, and_assoc]

/-- A row that does not reach the menu adds nothing. -/
theorem entriesFor_concat_of_inactive (h : row.isActive conditions = false) :
    entriesFor conditions (front ++ [row]) = entriesFor conditions front := by
  simp [entriesFor, listed, actionsFor, List.filter_append, h]

/-- A row that reaches the menu adds its action to its description. -/
theorem entriesFor_concat {action : Action} (h : row.isActive conditions = true)
    (haction : row.prepare = .ok action) :
    entriesFor conditions (front ++ [row])
      = addAction row.description action (entriesFor conditions front) := by
  have hnew : row.description ∉ listed conditions front →
      actionsFor conditions front row.description = [] := by
    intro hmem
    have hnone : (front.filter fun other =>
        other.isActive conditions && other.description = row.description) = [] := by
      refine List.filter_eq_nil_iff.mpr fun other hother hboth => hmem (mem_listed.mpr ?_)
      simp only [Bool.and_eq_true, decide_eq_true_eq] at hboth
      exact ⟨other, hother, hboth⟩
    rw [actionsFor, hnone, List.filterMap_nil]
  have hlisted : listed conditions (front ++ [row])
      = if row.description ∈ listed conditions front then listed conditions front
        else listed conditions front ++ [row.description] := by
    rw [listed, List.filter_append, List.filter_cons_of_pos h, List.filter_nil, List.map_append,
      List.map_singleton, eraseDups_concat]
    rfl
  have hactions : ∀ text, actionsFor conditions (front ++ [row]) text
      = if text = row.description then actionsFor conditions front text ++ [action]
        else actionsFor conditions front text := by
    intro text
    have haction' : row.action? = some action := by rw [Response.action?, haction]; rfl
    rw [actionsFor, List.filter_append, List.filterMap_append]
    by_cases hsame : text = row.description
    · simp [hsame, h, haction', actionsFor]
    · simp [hsame, Ne.symm hsame, actionsFor]
  have hnodup : (listed conditions front).Nodup := nodup_eraseDups _
  rw [entriesFor, entriesFor, addAction_map hnodup _ _ hnew, hlisted]
  simp only [hactions]

/-- An empty menu holds what no rows give. -/
theorem Holds.empty (conditions : Conditions) : ({} : Menu).Holds conditions [] :=
  ⟨rfl, fun key description => by simp [Binds], .nil⟩

/-- No hotkey stands for two descriptions where a menu holds them. -/
theorem Holds.keysApart {menu : Menu} (h : menu.Holds conditions front) :
    KeysApart conditions front := by
  intro key description other hbinds hbinds'
  have hlookup := (h.hotkeys key description).mpr hbinds
  exact Option.some.inj (hlookup.symm.trans ((h.hotkeys key other).mpr hbinds'))

/-- Rows give one menu. -/
theorem Holds.unique {menu menu' : Menu} (h : menu.Holds conditions front)
    (h' : menu'.Holds conditions front) : menu = menu' := by
  have hhotkeys : menu.hotkeys = menu'.hotkeys :=
    h.sorted.ext h'.sorted fun key description => by rw [h.hotkeys, h'.hotkeys]
  obtain ⟨entries, hotkeys⟩ := menu
  obtain ⟨entries', hotkeys'⟩ := menu'
  obtain rfl : hotkeys = hotkeys' := hhotkeys
  rw [show entries = entries' from h.entries.trans h'.entries.symm]

/-- A row that does not reach the menu leaves it as it is. -/
theorem Holds.inactive {menu : Menu} (h : menu.Holds conditions front)
    (hrow : row.isActive conditions = false) : menu.Holds conditions (front ++ [row]) := by
  refine ⟨by rw [entriesFor_concat_of_inactive hrow, h.entries], fun key description => ?_, h.sorted⟩
  rw [binds_concat, h.hotkeys]
  simp [hrow]

/-- A row that reaches the menu is added to it, unless one of its hotkeys stands for another
description. -/
theorem Holds.add_cases {menu : Menu} {action : Action} (h : menu.Holds conditions front)
    (hrow : row.isActive conditions = true) (haction : row.prepare = .ok action) :
    (∃ menu', menu.add row.description action = .ok menu' ∧ menu'.Holds conditions (front ++ [row]))
      ∨ ∃ before key behind existing, BootTrial.hotkeys row.description = before ++ key :: behind
        ∧ (∀ other ∈ before, ∀ description, Binds conditions front other description →
          description = row.description)
        ∧ Binds conditions front key existing ∧ existing ≠ row.description
        ∧ menu.add row.description action
          = .error (.hotkeyCollision key existing row.description) := by
  rw [add]
  rcases bindKeys_cases row.description menu.hotkeys (BootTrial.hotkeys row.description) with
    ⟨bindings, hbind, -, hbound, hsorted⟩ |
    ⟨before, key, behind, existing, hkeys, hbefore, hclash, hother, hbind⟩
  all_goals rw [hbind]
  · refine .inl ⟨_, rfl, ?_, fun key description => ?_, hsorted h.sorted⟩
    · rw [entriesFor_concat hrow haction, h.entries]
    · rw [binds_concat, hbound, h.hotkeys]
      constructor
      · exact fun hbinds => hbinds.imp id fun ⟨hmem, heq⟩ => ⟨hrow, heq.symm, heq ▸ hmem⟩
      · exact fun hbinds => hbinds.imp id fun ⟨_, heq, hmem⟩ => ⟨heq ▸ hmem, heq.symm⟩
  · exact .inr ⟨before, key, behind, existing, hkeys,
      fun other hmem description hbinds => hbefore other hmem description ((h.hotkeys _ _).mpr hbinds),
      (h.hotkeys _ _).mp hclash, hother, rfl⟩

end Menu

/-! ## The header of the scenario table -/

namespace Bench

variable {schema : Path} {header : Except Error (List String)} {names : List String}
  {bench after : Bench}

/-- When the header of a scenario table is looked for, this is what is found. -/
def Finds (schema : Path) (header : Except Error (List String)) (bench : Bench) : Prop :=
  (bench.perform (ScenarioTable.headerAt schema)).1 = header

/-- The header of a scenario table is remembered. -/
def Caches (schema : Path) (names : List String) (bench : Bench) : Prop :=
  ∃ place, bench.placeAt schema = .ok place ∧ bench.headers.get? place = some names

/-- A header that is remembered is found, and nothing happens. -/
theorem Caches.perform_headerAt (h : bench.Caches schema names) :
    bench.perform (ScenarioTable.headerAt schema) = (.ok names, bench) := by
  obtain ⟨place, hplace, hnames⟩ := h
  have hread : bench.perform ((FileWork.look (·.placeAt schema)).reportedAs (.unreadable schema))
      = (.ok place, bench) := by
    rw [perform_reportedAs, perform_look, hplace]
    rfl
  rw [ScenarioTable.headerAt, perform_bind_ok hread, perform_bind_ok (perform_get bench), hnames]
  rfl

/-- A header that is remembered is remembered while the path of its table leads where it led. -/
theorem Caches.mono (h : bench.Caches schema names)
    (hplace : after.placeAt schema = bench.placeAt schema)
    (hheaders : Remembers bench after) : after.Caches schema names := by
  obtain ⟨place, hat, hnames⟩ := h
  exact ⟨place, hplace.trans hat, hheaders place names hnames⟩

/-- A header that is remembered is remembered while nothing moves. -/
theorem Caches.unmoved (h : bench.Caches schema names) (hunmoved : Unmoved bench after) :
    after.Caches schema names :=
  h.mono (by rw [placeAt, placeAt, hunmoved.files, hunmoved.here]) hunmoved.headers

/-- A header that has been found is remembered. -/
theorem caches_of_headerAt
    (h : bench.perform (ScenarioTable.headerAt schema) = (.ok names, after)) :
    after.Caches schema names := by
  obtain ⟨place, read, hplace, h⟩ := perform_bind_inv h
  obtain ⟨hat, rfl⟩ := Prod.mk.inj (perform_reportedAs_inv hplace)
  rw [perform_bind_ok (perform_get bench)] at h
  cases hknown : bench.headers.get? place with
  | some known =>
    rw [hknown] at h
    cases h
    exact ⟨place, hat, hknown⟩
  | none =>
    -- The table is read, which remembers its header.
    rw [hknown] at h
    obtain ⟨table, last, hread, h⟩ := perform_bind_inv h
    cases h
    obtain ⟨-, content, -, hcontent, htable, -⟩ := ScenarioTable.read_inv hread
    rw [ScenarioTable.perform_read_unknown hat hcontent hknown, htable] at hread
    cases hread
    exact ⟨place, hat, HeaderCache.get?_insert_self bench.headers place _⟩

/-- What is found once is found again. -/
theorem Finds.headerAt (h : bench.Finds schema header) :
    ∃ after, bench.perform (ScenarioTable.headerAt schema) = (header, after)
      ∧ (∀ names, header = .ok names → after.Caches schema names) := by
  rcases hperform : bench.perform (ScenarioTable.headerAt schema) with ⟨found, after⟩
  obtain rfl : found = header := (congrArg Prod.fst hperform).symm.trans h
  exact ⟨after, rfl, fun names hnames => caches_of_headerAt (hnames ▸ hperform)⟩

/-- In a table that can be read the header is found by a program that remembers none. -/
theorem finds_of_bytesAt {content : Text.Bytes} (hcontent : bench.bytesAt schema = .ok content)
    (hheader : Table.header content = .ok names)
    (hnamed : ScenarioTable.isBlankHeader names = false)
    (hheaders : bench.headers = []) : bench.Finds schema (.ok names) := by
  obtain ⟨runnable, hnode⟩ := nodeAt_of_bytesAt hcontent
  obtain ⟨place, hplace, -⟩ := Path.exists_place hnode
  have hunknown : bench.headers.get? place = none := by
    rw [hheaders]
    rfl
  have hplace' : bench.perform ((FileWork.look (·.placeAt schema)).reportedAs (.unreadable schema))
      = (.ok place, bench) := by
    rw [perform_reportedAs, perform_look, placeAt, hplace]
    rfl
  have htable : ∃ table,
      ScenarioTable.ofBytes schema content = .ok table ∧ table.header = names := by
    unfold ScenarioTable.ofBytes
    simp only [hheader, hnamed]
    exact ⟨_, rfl, rfl⟩
  obtain ⟨table, htable, rfl⟩ := htable
  have hread := ScenarioTable.perform_read_unknown hplace hcontent hunknown
  rw [htable] at hread
  rw [Finds, ScenarioTable.headerAt, perform_bind_ok hplace', perform_bind_ok (perform_get bench),
    hunknown]
  simp only
  rw [perform_bind_ok hread]
  rfl

end Bench

/-! ## The compilation -/

section Compilation

variable {conditions : Conditions} {schema : Path} {header : Except Error (List String)}
  {front rows : List Response} {row : Response} {menu : Menu} {bench : Bench}

/-- A row with a column to write. -/
def Response.Writes (row : Response) : Prop :=
  ∃ action column, row.prepare = .ok action ∧ action.column? = some column

/-- A row has the action of a kind that can take its words, or fails for this. -/
theorem Response.prepare_cases (conditions : Conditions) (schema : Path)
    (header : Except Error (List String)) (front : List Response) (row : Response) :
    (∃ kind words action, ActionKind.named? (Text.trim row.action) = some kind
        ∧ Text.shellWords? row.params = some words ∧ kind.prepare words = .ok action
        ∧ row.prepare = .ok action)
      ∨ ∃ failure, row.prepare = .error failure ∧ row.Fails conditions schema header front failure := by
  unfold prepare
  cases hkind : ActionKind.named? (Text.trim row.action) with
  | none => exact .inr ⟨_, rfl, .action hkind⟩
  | some kind =>
    cases hwords : Text.shellWords? row.params with
    | none => exact .inr ⟨_, rfl, .words hkind hwords⟩
    | some words =>
      cases haction : kind.prepare words with
      | error failure => exact .inr ⟨failure, haction, .params hkind hwords haction⟩
      | ok action => exact .inl ⟨kind, words, action, rfl, rfl, haction, haction⟩

/-- The column that an action writes is found in the header, or its row fails for this. -/
theorem Action.verify_cases (hfinds : bench.Finds schema header) {action : Action}
    (haction : row.prepare = .ok action) (conditions : Conditions) (front : List Response) :
    (∃ after, bench.perform (action.verify schema) = (.ok (), after)
        ∧ (∀ column, action.column? = some column → ∃ names, header = .ok names ∧ column ∈ names)
        ∧ (after = bench ∨ ∃ names, header = .ok names ∧ after.Caches schema names)
        ∧ ∀ column, action.column? = some column → ∃ names, header = .ok names ∧ after.Caches schema names)
      ∨ ∃ failure after, bench.perform (action.verify schema) = (.error failure, after)
        ∧ row.Fails conditions schema header front failure := by
  unfold verify
  cases hcolumn : action.column? with
  | none => exact .inl ⟨bench, rfl, by simp, .inl rfl, by simp⟩
  | some column =>
    obtain ⟨after, hheader, hcaches⟩ := hfinds.headerAt
    cases header with
    | error failure =>
      exact .inr ⟨failure, after, Bench.perform_bind_error hheader _, .header haction hcolumn rfl⟩
    | ok names =>
      have hrequire : bench.perform (ScenarioTable.requireColumn schema column) = after.perform
          (if names.contains column then pure () else throw (.unknownColumn column schema)) :=
        Bench.perform_bind_ok hheader _
      by_cases hmem : column ∈ names
      · rw [if_pos (by simpa using hmem)] at hrequire
        refine .inl ⟨after, hrequire, ?_, .inr ⟨names, rfl, hcaches names rfl⟩, ?_⟩
        · rintro _ ⟨⟩
          exact ⟨names, rfl, hmem⟩
        · exact fun _ _ => ⟨names, rfl, hcaches names rfl⟩
      · rw [if_neg (by simpa using hmem)] at hrequire
        exact .inr ⟨_, after, hrequire, .column haction hcolumn rfl hmem⟩

/-- A condition is empty or known, or it is not known. -/
theorem Conditions.holds_cases (conditions : Conditions) (raw : String) :
    (∃ holds, conditions.holds raw = .ok holds
        ∧ (Text.trim raw = "" ∨ ∃ holds, conditions.known.lookup (Text.trim raw) = some holds))
      ∨ conditions.holds raw = .error (.unknownCondition (Text.trim raw))
        ∧ Text.trim raw ≠ "" ∧ conditions.known.lookup (Text.trim raw) = none := by
  unfold holds
  by_cases hempty : Text.trim raw = ""
  · exact .inl ⟨true, by simp [hempty], .inl hempty⟩
  · cases hlookup : conditions.known.lookup (Text.trim raw) with
    | none => exact .inr ⟨by simp [hempty, hlookup], hempty, rfl⟩
    | some value => exact .inl ⟨value, by simp [hempty, hlookup], .inr ⟨value, rfl⟩⟩

/-- A row is added to a menu, or fails behind the rows of the menu. If it writes a column the header
of the scenario table is remembered. -/
theorem Menu.addRow_cases (hfinds : bench.Finds schema header) (hmenu : menu.Holds conditions front)
    (row : Response) :
    (∃ menu' after, bench.perform (addRow conditions schema menu row) = (.ok menu', after)
        ∧ row.Passes conditions header ∧ menu'.Holds conditions (front ++ [row])
        ∧ (after = bench ∨ ∃ names, header = .ok names ∧ after.Caches schema names)
        ∧ (row.Writes → ∃ names, header = .ok names ∧ after.Caches schema names))
      ∨ ∃ failure after, bench.perform (addRow conditions schema menu row) = (.error failure, after)
        ∧ row.Fails conditions schema header front failure := by
  rcases Response.prepare_cases conditions schema header front row with
    ⟨kind, words, action, hkind, hwords, hprepare, haction⟩ | ⟨failure, haction, hfails⟩
  · have hprepared : bench.perform (Work.ofExcept row.prepare) = (.ok action, bench) := by
      rw [Bench.perform_ofExcept, haction]
    rw [addRow, Bench.perform_bind_ok hprepared]
    rcases Action.verify_cases hfinds haction conditions front with
      ⟨after, hverify, hcolumn, hsame, hcaches⟩ | ⟨failure, after, hverify, hfails⟩
    · have hwrites : row.Writes → ∃ names, header = .ok names ∧ after.Caches schema names := by
        rintro ⟨action', column, haction', hcolumn'⟩
        obtain rfl : action = action' := Except.ok.inj (haction.symm.trans haction')
        exact hcaches column hcolumn'
      rw [Bench.perform_bind_ok hverify]
      rcases conditions.holds_cases row.condition with ⟨holds, hholds, hknown⟩ | ⟨hholds, hnamed, hunknown⟩
      · have hpasses : row.Passes conditions header :=
          ⟨⟨kind, words, action, hkind, hwords, hprepare, hcolumn⟩, hknown⟩
        have hheld : after.perform (Work.ofExcept (conditions.holds row.condition))
            = (.ok holds, after) := by rw [Bench.perform_ofExcept, hholds]
        rw [Bench.perform_bind_ok hheld]
        cases holds with
        | false =>
          have hinactive : row.isActive conditions = false := by simp [Response.isActive, hholds]
          exact .inl ⟨menu, after, rfl, hpasses, hmenu.inactive hinactive, hsame, hwrites⟩
        | true =>
          have hactive : row.isActive conditions = true := Response.isActive_iff.mpr hholds
          rw [if_pos rfl, Bench.perform_ofExcept]
          rcases hmenu.add_cases hactive haction with ⟨menu', hadd, hmenu'⟩ |
            ⟨before, key, behind, existing, hkeys, hbefore, hbound, hother, hadd⟩
          · exact .inl ⟨menu', after, by rw [hadd], hpasses, hmenu', hsame, hwrites⟩
          · exact .inr ⟨_, after, by rw [hadd],
              .hotkey hpasses hactive hkeys hbefore hbound hother⟩
      · have hheld : after.perform (Work.ofExcept (conditions.holds row.condition))
            = (.error (.unknownCondition (Text.trim row.condition)), after) := by
          rw [Bench.perform_ofExcept, hholds]
        exact .inr ⟨_, after, Bench.perform_bind_error hheld _,
          .condition haction hcolumn hnamed hunknown⟩
    · exact .inr ⟨failure, after, Bench.perform_bind_error hverify _, hfails⟩
  · have hprepared : bench.perform (Work.ofExcept row.prepare) = (.error failure, bench) := by
      rw [Bench.perform_ofExcept, haction]
    exact .inr ⟨failure, bench, Bench.perform_bind_error hprepared _, hfails⟩

/-- The header is found behind a row as it was in front of it. -/
theorem Bench.Finds.next {after : Bench} (h : bench.Finds schema header)
    (hafter : after = bench ∨ ∃ names, header = .ok names ∧ after.Caches schema names) :
    after.Finds schema header := by
  rcases hafter with rfl | ⟨names, rfl, hcaches⟩
  · exact h
  · rw [Finds, hcaches.perform_headerAt]

/-- Rows are added to a menu, or one of them fails behind those in front. -/
theorem Menu.addRows_cases (hfinds : bench.Finds schema header)
    (hmenu : menu.Holds conditions front)
    (rows : List Response) :
    (∃ menu' after, bench.perform (rows.foldlM (addRow conditions schema) menu) = (.ok menu', after)
        ∧ (∀ row ∈ rows, row.Passes conditions header) ∧ menu'.Holds conditions (front ++ rows)
        ∧ ∀ row ∈ rows, row.Writes → ∃ names, header = .ok names ∧ after.Caches schema names)
      ∨ ∃ before row behind failure after, rows = before ++ row :: behind
        ∧ bench.perform (rows.foldlM (addRow conditions schema) menu) = (.error failure, after)
        ∧ (∀ other ∈ before, other.Passes conditions header) ∧ KeysApart conditions (front ++ before)
        ∧ row.Fails conditions schema header (front ++ before) failure := by
  induction rows generalizing front menu bench with
  | nil => exact .inl ⟨menu, bench, rfl, by simp, by simpa using hmenu, by simp⟩
  | cons row rest ih =>
    rw [List.foldlM_cons]
    rcases addRow_cases hfinds hmenu row with
      ⟨menu', middle, hadd, hpasses, hmenu', hsame, hwrites⟩ | ⟨failure, after, hadd, hfails⟩
    · rw [Bench.perform_bind_ok hadd]
      rcases ih (hfinds.next hsame) hmenu' with ⟨menu'', after, hrest, hall, hmenu'', hcaches⟩ |
        ⟨before, bad, behind, failure, after, rfl, hrest, hall, happart, hfails⟩
      · -- A header that one row has looked for is remembered behind all rows.
        have hunmoved : Bench.Unmoved middle after := by
          have hkeeps :=
            foldlM_addRow_keeps (ScenarioTable.read_unmoved schema) conditions rest menu'
            middle
          rwa [hrest] at hkeeps
        refine .inl ⟨menu'', after, hrest, List.forall_mem_cons.mpr ⟨hpasses, hall⟩,
          by simpa using hmenu'', List.forall_mem_cons.mpr ⟨fun hrow => ?_, hcaches⟩⟩
        obtain ⟨names, hnames, hmiddle⟩ := hwrites hrow
        exact ⟨names, hnames, hmiddle.unmoved hunmoved⟩
      · rw [List.append_assoc, List.singleton_append] at happart hfails
        exact .inr ⟨row :: before, bad, behind, failure, after, rfl, hrest,
          List.forall_mem_cons.mpr ⟨hpasses, hall⟩, happart, hfails⟩
    · exact .inr ⟨[], row, rest, failure, after, rfl, Bench.perform_bind_error hadd _, by simp,
        by simpa using hmenu.keysApart, by simpa using hfails⟩

/-- A row that passes its checks and fails has a hotkey that stands for another description in front.
-/
theorem Response.Fails.clash {failure : Error} (h : row.Fails conditions schema header front failure)
    (hpasses : row.Passes conditions header) :
    ∃ key existing, failure = .hotkeyCollision key existing row.description
      ∧ row.isActive conditions = true ∧ key ∈ BootTrial.hotkeys row.description
      ∧ Menu.Binds conditions front key existing ∧ existing ≠ row.description := by
  obtain ⟨⟨kind, words, action, hkind, hwords, haction, hcolumn⟩, hcondition⟩ := hpasses
  have hprepare : row.prepare = .ok action := prepare_ok hkind hwords haction
  cases h with
  | action hnone => simp [hkind] at hnone
  | words _ hnone => simp [hwords] at hnone
  | params hkind' hwords' hfailed =>
    obtain rfl := Option.some.inj (hkind.symm.trans hkind')
    obtain rfl := Option.some.inj (hwords.symm.trans hwords')
    simp [haction] at hfailed
  | header haction' hcolumn' hheader =>
    obtain rfl := Except.ok.inj (hprepare.symm.trans haction')
    obtain ⟨names, hnames, -⟩ := hcolumn _ hcolumn'
    simp [hheader] at hnames
  | column haction' hcolumn' hheader hmissing =>
    obtain rfl := Except.ok.inj (hprepare.symm.trans haction')
    obtain ⟨names, hnames, hmem⟩ := hcolumn _ hcolumn'
    obtain rfl := Except.ok.inj (hheader.symm.trans hnames)
    exact absurd hmem hmissing
  | condition _ _ hnamed hunknown =>
    rcases hcondition with hempty | ⟨holds, hknown⟩
    · exact absurd hempty hnamed
    · simp [hunknown] at hknown
  | @hotkey _ _ key existing _ hactive hkeys _ hbound hother =>
    exact ⟨key, existing, rfl, hactive, by simp [hkeys], hbound, hother⟩

/-- A row that fails does not pass, or one of its hotkeys stands for another description in front.
-/
theorem Response.Fails.not_accepted {failure : Error}
    (h : row.Fails conditions schema header front failure)
    (hpasses : row.Passes conditions header) :
    ¬ Menu.KeysApart conditions (front ++ [row]) := by
  obtain ⟨key, existing, -, hactive, hkey, hbound, hother⟩ := h.clash hpasses
  intro hapart
  exact hother (hapart key existing row.description (Menu.binds_concat.mpr (.inl hbound))
    (Menu.binds_concat.mpr (.inr ⟨hactive, rfl, hkey⟩)))

/-- Hotkeys that stand apart do so among the rows in front. -/
theorem Menu.KeysApart.of_append {back : List Response} (h : KeysApart conditions (front ++ back)) :
    KeysApart conditions front := by
  have hmem : ∀ {key description}, Binds conditions front key description →
      Binds conditions (front ++ back) key description := fun ⟨row, hrow, hbinds⟩ =>
    ⟨row, List.mem_append_left back hrow, hbinds⟩
  exact fun key description other hbinds hbinds' =>
    h key description other (hmem hbinds) (hmem hbinds')

/-- The compilation of rows gives what it has to give where the header is found. -/
theorem Menu.compiles_of_finds (hfinds : bench.Finds schema header) (conditions : Conditions)
    (rows : List Response) :
    Compiles conditions schema header rows (bench.perform (ofResponses rows conditions schema)).1 := by
  rcases addRows_cases hfinds (Holds.empty conditions) rows with
    ⟨menu, after, hadd, hall, hmenu, -⟩ |
    ⟨before, row, behind, failure, after, rfl, hadd, hall, happart, hfails⟩
  all_goals rw [ofResponses, hadd]; rw [List.nil_append] at *
  · refine ⟨⟨fun _ => ⟨hall, hmenu.keysApart⟩, fun _ => ⟨menu, rfl⟩⟩, ?_, by simp⟩
    rintro _ ⟨⟩
    exact hmenu
  · refine ⟨⟨by simp, fun ⟨hpasses, hkeys⟩ => ?_⟩, by simp, ?_⟩
    · rw [← List.singleton_append, ← List.append_assoc] at hkeys
      exact absurd hkeys.of_append (hfails.not_accepted (hpasses row (by simp)))
    · rintro _ ⟨⟩
      exact ⟨before, row, behind, rfl, hall, happart, hfails⟩

/-- A menu that the compilation of rows gives holds what they give. -/
theorem Menu.holds_of_ofResponses
    (h : (bench.perform (ofResponses rows conditions schema)).1 = .ok menu) :
    menu.Holds conditions rows :=
  (compiles_of_finds rfl conditions rows).holds menu h

/-- The descriptions of a menu are those that its rows list. -/
theorem Menu.Holds.descriptions_eq (h : menu.Holds conditions rows) :
    menu.descriptions = listed conditions rows := by
  rw [descriptions, h.entries, entriesFor, List.map_map]
  exact List.map_id _

/-- Every entry of a menu that the compilation of rows gives has an action. -/
theorem Menu.actions_ne_nil (h : (bench.perform (ofResponses rows conditions schema)).1 = .ok menu)
    {entry : Menu.Entry} (hentry : entry ∈ menu.entries) : entry.actions ≠ [] := by
  have hcompiles := compiles_of_finds (rfl : bench.Finds schema _) conditions rows
  rw [(hcompiles.holds menu h).entries] at hentry
  obtain ⟨description, hlisted, rfl⟩ := List.mem_map.mp hentry
  obtain ⟨row, hrow, hactive, hsame⟩ := mem_listed.mp hlisted
  obtain ⟨hpasses, -⟩ := hcompiles.accepts.mp ⟨menu, h⟩
  obtain ⟨kind, words, action, hkind, hwords, hkindAction, -⟩ := (hpasses row hrow).prepared
  have haction : row.prepare = .ok action := Response.prepare_ok hkind hwords hkindAction
  refine List.ne_nil_of_mem (a := action) (List.mem_filterMap.mpr ⟨row, ?_, ?_⟩)
  · exact List.mem_filter.mpr ⟨hrow, by simp [hactive, hsame]⟩
  · rw [Response.action?, haction]
    rfl

/-- A hotkey stands for a description if this is on the menu and marks it. -/
theorem Menu.Holds.lookup_iff (h : menu.Holds conditions rows) (key : Char) (description : String) :
    menu.hotkeys.lookup key = some description
      ↔ description ∈ menu.descriptions ∧ key ∈ BootTrial.hotkeys description := by
  rw [h.hotkeys, h.descriptions_eq, mem_listed, Binds]
  constructor
  · rintro ⟨row, hrow, hactive, hsame, hkey⟩
    exact ⟨⟨row, hrow, hactive, hsame⟩, hkey⟩
  · rintro ⟨⟨row, hrow, hactive, hsame⟩, hkey⟩
    exact ⟨row, hrow, hactive, hsame, hkey⟩

end Compilation

/-- Whatever the rows and the conditions are, a program that remembers no header compiles them to
what they have to give, for tests of a scenario table with a valid header. -/
theorem Menu.ofResponses_compiles {bench : Bench} {schema : Path} {content : Text.Bytes}
    {header : List String} (hheaders : bench.headers = [])
    (hcontent : bench.bytesAt schema = .ok content)
    (hheader : Table.header content = .ok header)
    (hnamed : ScenarioTable.isBlankHeader header = false)
    (rows : List Response) (conditions : Conditions) :
    Compiles conditions schema (.ok header) rows
      (bench.perform (ofResponses rows conditions schema)).1 :=
  compiles_of_finds (Bench.finds_of_bytesAt hcontent hheader hnamed hheaders) conditions rows

/-- A scenario table, and nothing else. -/
def tableBench : Bench where
  files := .dir [("scenarios.csv", .file (Text.encode "mode,result\ns2idle,\n") false)]
  here := []
  home := .ofText "/"
  searchPath := []
  color := false

/-- Two descriptions with one hotkey, of which one reaches the menu only in the boot of the test. -/
def resumableResponses : List Response :=
  [⟨"Passed [p]", "is_current_boot", "write_result", "result pass"⟩,
    ⟨"Put off [p]", "", "quit", ""⟩]

/-- They give a menu in another boot, with the description that is left. -/
theorem Menu.ofResponses_compiles_resumed :
    ∃ menu, (tableBench.perform
          (ofResponses resumableResponses (.ofBoot false) (.ofText "scenarios.csv"))).1 = .ok menu
      ∧ menu.entries = [⟨"Put off [p]", [.quit]⟩] := by
  have hcontent : tableBench.bytesAt (.ofText "scenarios.csv")
      = .ok (Text.encode "mode,result\ns2idle,\n") := by decide +kernel
  have hcompiles : Compiles (.ofBoot false) (.ofText "scenarios.csv") (.ok ["mode", "result"])
      resumableResponses (tableBench.perform
        (ofResponses resumableResponses (.ofBoot false) (.ofText "scenarios.csv"))).1 :=
    ofResponses_compiles rfl hcontent (by decide +kernel) (by decide +kernel) _ _
  have hok : (tableBench.perform
      (ofResponses resumableResponses (.ofBoot false) (.ofText "scenarios.csv"))).1.isOk = true := by
    decide +kernel
  rcases hmenu : (tableBench.perform
      (ofResponses resumableResponses (.ofBoot false) (.ofText "scenarios.csv"))).1 with failure | menu
  · rw [hmenu] at hok
    cases hok
  · exact ⟨menu, rfl, (hcompiles.holds menu hmenu).entries.trans (by decide +kernel)⟩

end BootTrial
