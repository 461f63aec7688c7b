import Mathlib.Data.List.Forall2

/-! Lists that consist of blocks of the same length, and lists of counterparts. -/

namespace Blocks

variable {α β : Type}

/-- Items that all have a counterpart have a list of counterparts, each of which is one. -/
theorem exists_forall₂ {R : α → β → Prop} {items : List α}
    (each : ∀ item ∈ items, ∃ other, R item other) :
    ∃ others, List.Forall₂ R items others ∧ ∀ other ∈ others, ∃ item ∈ items, R item other := by
  induction items with
  | nil => exact ⟨[], .nil, by simp⟩
  | cons item items ih =>
    obtain ⟨other, own⟩ := each item (by simp)
    obtain ⟨others, rest, back⟩ := ih fun member listed => each member (by simp [listed])
    refine ⟨other :: others, .cons own rest, ?_⟩
    intro member listed
    rcases List.mem_cons.mp listed with rfl | later
    · exact ⟨item, by simp, own⟩
    · obtain ⟨source, present, related⟩ := back member later
      exact ⟨source, by simp [present], related⟩

/-- A list with the length of so many blocks consists of them. -/
theorem exists_blocks {items : List α} {number size : Nat}
    (length : items.length = number * size) :
    ∃ blocks : List (List α), items = blocks.flatten ∧ blocks.length = number ∧
      ∀ block ∈ blocks, block.length = size := by
  induction number generalizing items with
  | zero =>
    rw [Nat.zero_mul, List.length_eq_zero_iff] at length
    exact ⟨[], length, rfl, by simp⟩
  | succ number ih =>
    rw [Nat.succ_mul] at length
    obtain ⟨blocks, flat, counted, sizes⟩ := @ih (items.drop size) (by rw [List.length_drop]; omega)
    refine ⟨items.take size :: blocks, ?_, by simp [counted], ?_⟩
    · rw [List.flatten_cons, ← flat, List.take_append_drop]
    · simp only [List.forall_mem_cons, List.length_take]
      exact ⟨by omega, sizes⟩

/-- Blocks of the same size are as long as their number times the size. -/
theorem length_flatten_blocks {blocks : List (List α)} {size : Nat}
    (sizes : ∀ block ∈ blocks, block.length = size) :
    blocks.flatten.length = blocks.length * size := by
  induction blocks with
  | nil => simp
  | cons block blocks ih =>
    rw [List.flatten_cons, List.length_append, sizes block (by simp),
      ih fun other listed => sizes other (by simp [listed]), List.length_cons, Nat.succ_mul,
      Nat.add_comm]

end Blocks
