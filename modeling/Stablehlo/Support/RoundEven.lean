import Mathlib.Algebra.Order.Floor.Ring
import Mathlib.Algebra.Order.Field.Basic
import Mathlib.Tactic.Linarith

/-! Rounding to the nearest integer, where a tie goes to the even one. -/

section Rounding

variable {α : Type*} [Field α] [LinearOrder α] [IsStrictOrderedRing α] [FloorRing α]

/-- The integer that is nearest to a number, the even one of two at a tie. -/
def roundEven (number : α) : Int :=
  if 2 * (number - ⌊number⌋) < 1 ∨ 2 * (number - ⌊number⌋) = 1 ∧ ⌊number⌋ % 2 = 0 then ⌊number⌋
  else ⌊number⌋ + 1

/-- An integer stays. -/
@[simp] theorem roundEven_intCast (number : Int) : roundEven (number : α) = number := by
  rw [roundEven, Int.floor_intCast, if_pos]
  left
  simp

omit [IsStrictOrderedRing α] in
/-- Rounding goes to one of the integers around a number. -/
theorem roundEven_cases (number : α) :
    roundEven number = ⌊number⌋ ∨ roundEven number = ⌊number⌋ + 1 := by
  unfold roundEven
  split_ifs
  · exact .inl rfl
  · exact .inr rfl

/-- Rounding keeps the order. -/
theorem roundEven_mono {number other : α} (less : number ≤ other) :
    roundEven number ≤ roundEven other := by
  rcases lt_or_eq_of_le (Int.floor_le_floor less) with below | same
  · -- An integer is between the numbers.
    have upper := roundEven_cases number
    have lower := roundEven_cases other
    omega
  · unfold roundEven
    rw [same]
    have distance : 2 * (number - ⌊other⌋) ≤ 2 * (other - ⌊other⌋) := by linarith
    split_ifs with down stays stays
    · exact le_refl _
    · omega
    · -- What is rounded down is not below what is rounded up.
      exfalso
      rcases stays with half | ⟨half, even⟩
      · exact down (.inl (distance.trans_lt half))
      · rcases lt_or_eq_of_le (distance.trans_eq half) with less | equal
        · exact down (.inl less)
        · exact down (.inr ⟨equal, even⟩)
    · exact le_refl _

/-- Rounding does not pass an integer above a number. -/
theorem roundEven_le {number : α} {bound : Int} (below : number ≤ bound) :
    roundEven number ≤ bound := by
  have rounded := roundEven_mono below
  rwa [roundEven_intCast] at rounded

/-- Rounding does not pass an integer below a number. -/
theorem le_roundEven {number : α} {bound : Int} (above : bound ≤ number) :
    bound ≤ roundEven number := by
  have rounded := roundEven_mono above
  rwa [roundEven_intCast] at rounded

end Rounding
