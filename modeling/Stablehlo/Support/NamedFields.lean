import Mathlib.Data.List.Nodup

/-! Records as lists of named values, in a fixed order of the names. -/

universe u v

namespace NamedFields

variable {κ ν : Type u}

/-- Collect a value for each of the names; all of them have to have one. -/
def collect : List κ → (κ → Option ν) → Option (List (κ × ν))
  | [], _ => some []
  | name :: names, value => do
    let found ← value name
    let fields ← collect names value
    return (name, found) :: fields

/-- Collecting for one more name. -/
theorem collect_cons_eq_some {name : κ} {names : List κ} {value : κ → Option ν}
    {fields : List (κ × ν)} : collect (name :: names) value = some fields ↔
      ∃ found rest, value name = some found ∧ collect names value = some rest ∧
        (name, found) :: rest = fields := by
  -- Both steps have to succeed.
  simp [collect, Option.bind_eq_some_iff]

/-- The names of what was collected are the names it was collected for. -/
theorem keys_of_collect {names : List κ} {value : κ → Option ν} {fields : List (κ × ν)}
    (collected : collect names value = some fields) : fields.map Prod.fst = names := by
  induction names generalizing fields with
  | nil =>
    cases collected
    rfl
  | cons name names ih =>
    obtain ⟨found, rest, _, others, rfl⟩ := collect_cons_eq_some.mp collected
    rw [List.map_cons, ih others]

/-- Nothing is collected when one of the names has no value. -/
theorem collect_eq_none {names : List κ} {value : κ → Option ν} {name : κ} (listed : name ∈ names)
    (missing : value name = none) : collect names value = none := by
  cases collected : collect names value with
  | none => rfl
  | some fields =>
    induction names generalizing fields with
    | nil => cases listed
    | cons first names ih =>
      obtain ⟨found, rest, own, others, _⟩ := collect_cons_eq_some.mp collected
      rcases List.mem_cons.mp listed with rfl | later
      · rw [missing] at own
        cases own
      · exact absurd (ih later rest others) nofun

/-- Collecting what every field is to be changed to changes the fields. -/
theorem collect_map {fields : List (κ × ν)} {value : κ → Option ν} {change : κ × ν → ν}
    (changed : ∀ field ∈ fields, value field.1 = some (change field)) :
    collect (fields.map Prod.fst) value = some (fields.map fun field => (field.1, change field)) := by
  induction fields with
  | nil => rfl
  | cons field fields ih =>
    rw [List.forall_mem_cons] at changed
    rw [List.map_cons, collect_cons_eq_some]
    exact ⟨change field, _, changed.1, ih changed.2, rfl⟩

/-- Only the values under the names matter. -/
theorem collect_congr {names : List κ} {value other : κ → Option ν}
    (same : ∀ name ∈ names, value name = other name) :
    collect names value = collect names other := by
  induction names with
  | nil => rfl
  | cons name names ih =>
    rw [List.forall_mem_cons] at same
    rw [collect, collect, same.1, ih same.2]

/-- Of steps that each answer for one key, the one for a key answers. -/
theorem findSome?_of_nodup {α : Type v} {steps : List α} {key : α → κ} {answer : α → Option ν}
    (distinct : (steps.map key).Nodup) {asked : κ}
    (silent : ∀ step ∈ steps, key step ≠ asked → answer step = none) {step : α}
    (listed : step ∈ steps) (its : key step = asked) :
    steps.findSome? answer = answer step := by
  induction steps with
  | nil => cases listed
  | cons first steps ih =>
    rw [List.map_cons, List.nodup_cons] at distinct
    rw [List.forall_mem_cons] at silent
    rcases List.mem_cons.mp listed with rfl | later
    · -- The other steps have other keys.
      have rest : steps.findSome? answer = none := by
        rw [List.findSome?_eq_none_iff]
        intro other inSteps
        apply silent.2 other inSteps
        intro same
        exact distinct.1 (List.mem_map.mpr ⟨other, inSteps, same.trans its.symm⟩)
      rw [List.findSome?_cons, rest]
      cases answer step <;> rfl
    · have unlike : key first ≠ asked := fun same =>
        distinct.1 (List.mem_map.mpr ⟨step, later, its.trans same.symm⟩)
      rw [List.findSome?_cons, silent.1 unlike]
      exact ih distinct.2 silent.2 later

variable [DecidableEq κ]

/-- The value under one of the names is the one that was collected for it. -/
theorem lookup_of_collect {names : List κ} {value : κ → Option ν} {fields : List (κ × ν)}
    (collected : collect names value = some fields) {name : κ} (listed : name ∈ names) :
    fields.lookup name = value name := by
  induction names generalizing fields with
  | nil => cases listed
  | cons first names ih =>
    obtain ⟨found, rest, own, others, rfl⟩ := collect_cons_eq_some.mp collected
    rw [List.lookup_cons]
    by_cases same : name = first
    · -- A name that is listed twice has the same value both times.
      rw [same, beq_self_eq_true, own]
    · rw [beq_false_of_ne same]
      exact ih others ((List.mem_cons.mp listed).resolve_left same)

/-- A name has no value when it is not listed. -/
theorem lookup_eq_none {fields : List (κ × ν)} {name : κ} :
    fields.lookup name = none ↔ name ∉ fields.map Prod.fst := by
  simp only [List.lookup_eq_none_iff, bne_iff_ne, List.mem_map, not_exists, not_and]
  exact forall₂_congr fun field _ => ne_comm

/-- A value that is found is listed. -/
theorem mem_of_lookup {fields : List (κ × ν)} {name : κ} {value : ν}
    (found : fields.lookup name = some value) : (name, value) ∈ fields := by
  obtain ⟨before, after, rfl, _⟩ := List.lookup_eq_some_iff.mp found
  simp

/-- A name that is listed once has the value that is listed with it. -/
theorem lookup_of_mem {fields : List (κ × ν)} (distinct : (fields.map Prod.fst).Nodup)
    {field : κ × ν} (listed : field ∈ fields) : fields.lookup field.1 = some field.2 := by
  induction fields with
  | nil => cases listed
  | cons first fields ih =>
    rw [List.map_cons, List.nodup_cons] at distinct
    rw [List.lookup_cons]
    rcases List.mem_cons.mp listed with rfl | later
    · rw [beq_self_eq_true]
    · have other : field.1 ≠ first.1 := fun same =>
        distinct.1 (same ▸ List.mem_map_of_mem later)
      rw [beq_false_of_ne other]
      exact ih distinct.2 later

end NamedFields
