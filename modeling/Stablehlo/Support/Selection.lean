import Mathlib.Data.List.Find
import Mathlib.Data.List.Induction
import Stablehlo.Support.Fallible

/-! Selections of the best of several items by a loop that compares each with the best so far. -/

universe u v w

namespace Selection

variable {ι : Type u} {keeps : ι → ι → Bool}

/-- Every two items can be compared, and the comparisons agree. -/
structure Ranks (keeps : ι → ι → Bool) : Prop where
  total : ∀ first second, keeps first second = true ∨ keeps second first = true
  trans : ∀ first second third, keeps first second = true → keeps second third = true →
    keeps first third = true

/-- Replace the item that was selected before, unless it is kept. -/
def choose (keeps : ι → ι → Bool) (selected : Option ι) (item : ι) : Option ι :=
  let before := selected.getD item
  some (if keeps before item then before else item)

/-- An item is kept against itself. -/
theorem Ranks.refl (ranks : Ranks keeps) (item : ι) : keeps item item = true :=
  (ranks.total item item).elim id id

end Selection
