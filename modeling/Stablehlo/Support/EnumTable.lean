import Mathlib.Algebra.Group.Nat.Defs
import Mathlib.Data.List.Basic

/-! Enumerations whose cases have names and numbers. -/

/-- An enumeration whose cases have a name and a number each. -/
class EnumTable (α : Type) where
  /-- The cases. -/
  all : List α
  /-- The name of a case. -/
  name : α → String
  /-- The number of a case. -/
  number : α → Nat
  /-- Numbers have 32 bits. -/
  number_lt : ∀ value, number value < 2 ^ 32
  /-- Each case is the first one with its name. -/
  find?_name : ∀ value, all.find? (fun candidate => name candidate == name value) = some value
  /-- Each case is the first one with its number. -/
  find?_number :
    ∀ value, all.find? (fun candidate => number candidate == number value) = some value

namespace EnumTable

variable {α β : Type} [EnumTable α] [EnumTable β]

/-- The name of a case. -/
def stringify (value : α) : String :=
  name value

/-- The case with a name. -/
def symbolizeName (text : String) : Option α :=
  all.find? fun candidate => name candidate == text

/-- The case with a number. -/
def symbolizeNumber (code : Nat) : Option α :=
  all.find? fun candidate => number candidate == code

/-- A case is found by its name. -/
@[simp] theorem symbolizeName_stringify (value : α) :
    symbolizeName (stringify value) = some value := by
  exact find?_name value

/-- A case is found by its number. -/
@[simp] theorem symbolizeNumber_number (value : α) : symbolizeNumber (number value) = some value := by
  exact find?_number value

/-- The case of another enumeration with the name of a case. -/
def byName (value : α) : Option β :=
  symbolizeName (stringify value)

/-- What has the name of a case has the case as what has its name. -/
theorem byName_symm {value : α} {other : β} (named : byName value = some other) :
    byName other = some value := by
  -- The two have the same name.
  have same := List.find?_some (p := fun candidate => name candidate == stringify value) named
  rw [beq_iff_eq] at same
  show symbolizeName (name other) = some value
  rw [same, symbolizeName_stringify]

end EnumTable
