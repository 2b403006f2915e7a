/-!
# Named values

Values under names, listed in the order in which the names first came up. Setting a name that is
there already keeps its place. `lookup_set_self` and `lookup_set_of_ne` say what setting a name does
to the value of each name, and `names_set` what it does to the list of the names.
-/

namespace BootTrial

/-- Values under names, in order. -/
abbrev Named (α : Type) := List (String × α)

namespace Named

variable {α : Type}

/-- The names, in order. -/
def names (values : Named α) : List String :=
  values.map (·.1)

/-- The values with `value` under `name`, in the place of what stood there or at the end. -/
def set (name : String) (value : α) : Named α → Named α
  | [] => [(name, value)]
  | (other, old) :: rest =>
    if other = name then (name, value) :: rest else (other, old) :: set name value rest

/-- The values without the one under `name`. -/
def erase (name : String) (values : Named α) : Named α :=
  values.filter (·.1 ≠ name)

/-- A name that has been set has its value. -/
@[simp] theorem lookup_set_self (name : String) (value : α) (values : Named α) :
    (set name value values).lookup name = some value := by
  induction values with
  | nil => simp [set]
  | cons entry rest ih =>
    obtain ⟨first, old⟩ := entry
    by_cases h : first = name
    · simp [set, h]
    · rw [set, if_neg h, List.lookup_cons, beq_false_of_ne (Ne.symm h), ih]

/-- Setting a name leaves the values of the others alone. -/
theorem lookup_set_of_ne {name other : String} (h : other ≠ name) (value : α)
    (values : Named α) : (set name value values).lookup other = values.lookup other := by
  have hb : (other == name) = false := beq_false_of_ne h
  induction values with
  | nil => rw [set, List.lookup_cons, hb]
  | cons entry rest ih =>
    obtain ⟨first, old⟩ := entry
    by_cases h' : first = name
    · rw [set, if_pos h', h', List.lookup_cons, List.lookup_cons, hb]
    · rw [set, if_neg h', List.lookup_cons, List.lookup_cons, ih]

/-- Of two values set under one name the later one counts. -/
theorem set_set (name : String) (first second : α) (values : Named α) :
    set name second (set name first values) = set name second values := by
  induction values with
  | nil => simp [set]
  | cons entry rest ih =>
    obtain ⟨other, old⟩ := entry
    by_cases h : other = name
    · simp [set, h]
    · simp [set, h, ih]

/-- Setting a name to the value that it has changes nothing. -/
theorem set_lookup {name : String} {value : α} {values : Named α}
    (h : values.lookup name = some value) : set name value values = values := by
  induction values with
  | nil => simp at h
  | cons entry rest ih =>
    obtain ⟨other, old⟩ := entry
    by_cases h' : other = name
    · subst h'
      rw [List.lookup_cons_self] at h
      rw [set, if_pos rfl, Option.some.inj h]
    · rw [List.lookup_cons, beq_false_of_ne (Ne.symm h')] at h
      rw [set, if_neg h', ih h]

/-- An erased name has no value. -/
@[simp] theorem lookup_erase_self (name : String) (values : Named α) :
    (erase name values).lookup name = none := by
  rw [List.lookup_eq_none_iff]
  intro entry hentry
  have h := (List.mem_filter.mp hentry).2
  exact bne_iff_ne.mpr (Ne.symm (of_decide_eq_true h))

/-- Erasing a name leaves the values of the others alone. -/
theorem lookup_erase_of_ne {name other : String} (h : other ≠ name) (values : Named α) :
    (erase name values).lookup other = values.lookup other := by
  induction values with
  | nil => rfl
  | cons entry rest ih =>
    obtain ⟨first, old⟩ := entry
    simp only [erase] at ih ⊢
    by_cases h' : first = name
    · have hb : (other == first) = false := beq_false_of_ne (h' ▸ h)
      rw [List.filter_cons_of_neg (by simp [h']), ih, List.lookup_cons, hb]
    · rw [List.filter_cons_of_pos (by simp [h']), List.lookup_cons, List.lookup_cons, ih]

/-- Setting a name keeps the order of the names, and a new name comes last. -/
theorem names_set (name : String) (value : α) (values : Named α) :
    (set name value values).names
      = if name ∈ values.names then values.names else values.names ++ [name] := by
  induction values with
  | nil => simp [set, names]
  | cons entry rest ih =>
    obtain ⟨first, old⟩ := entry
    simp only [names] at ih
    by_cases h : first = name
    · simp [set, names, h]
    · have h' : ¬ name = first := fun e => h e.symm
      by_cases hm : name ∈ rest.map (·.1) <;> simp_all [set, names]

/-- A name that is new is set at the end. -/
theorem set_of_not_mem {name : String} {values : Named α} (h : name ∉ values.names) (value : α) :
    set name value values = values ++ [(name, value)] := by
  induction values with
  | nil => rfl
  | cons entry rest ih =>
    obtain ⟨other, old⟩ := entry
    obtain ⟨hother, hrest⟩ := not_or.mp (mt List.mem_cons.mpr h)
    rw [set, if_neg (Ne.symm hother), ih hrest, List.cons_append]

/-- A name that is there once is set in its place, and nothing else changes. -/
theorem set_of_mem {name : String} {values : Named α} (hnodup : values.names.Nodup)
    (h : name ∈ values.names) (value : α) :
    set name value values
      = values.map fun entry => if entry.1 = name then (name, value) else entry := by
  induction values with
  | nil => cases h
  | cons entry rest ih =>
    obtain ⟨other, old⟩ := entry
    obtain ⟨hother, hrest⟩ := List.nodup_cons.mp hnodup
    rw [set, List.map_cons]
    by_cases hsame : other = name
    · -- The name does not come up again.
      have hkept : rest.map (fun entry => if entry.1 = name then (name, value) else entry) = rest := by
        refine (List.map_congr_left fun entry hentry => if_neg ?_).trans (List.map_id' rest)
        rintro rfl
        exact hother (List.mem_map.mpr ⟨entry, hentry, hsame.symm⟩)
      rw [if_pos hsame, if_pos hsame, hkept]
    · rw [if_neg hsame, if_neg hsame, ih hrest ((List.mem_cons.mp h).resolve_left (Ne.symm hsame))]

/-- No name stands twice after one is set, if none did before. -/
theorem nodup_names_set {values : Named α} (name : String) (value : α) (h : values.names.Nodup) :
    (set name value values).names.Nodup := by
  rw [names_set]
  split
  · exact h
  · rename_i hm
    exact List.nodup_append.mpr ⟨h, by simp, by grind⟩

end Named

end BootTrial
