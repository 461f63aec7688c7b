import Mathlib.Algebra.BigOperators.Ring.List
import Mathlib.Algebra.Order.Ring.Nat
import Stablehlo.Support.MixedRadix

/-! Numerals of which only some digits are kept, and how many have the same kept digits. -/

universe u

namespace MixedRadix

section Select

variable {α : Type u} {kept : Nat → Bool} {start : Nat}

/-- The items at the places, counted from a start, that are kept. -/
def select (kept : Nat → Bool) (start : Nat) (items : List α) : List α :=
  ((items.zipIdx start).filter fun (_, place) => kept place).map Prod.fst

/-- The first item is kept or not. -/
theorem select_cons (item : α) (items : List α) :
    select kept start (item :: items) =
      if kept start then item :: select kept (start + 1) items
      else select kept (start + 1) items := by
  -- The other items are counted from the next place on.
  cases keeps : kept start <;> simp [select, List.zipIdx_cons, keeps]

/-- All items are kept when no place is left out. -/
theorem select_of_forall (all : ∀ place, kept place = true) (items : List α) :
    select kept start items = items := by
  induction items generalizing start with
  | nil => rfl
  | cons item items ih => rw [select_cons, if_pos (all start), ih]

end Select

section Count

variable {kept : Nat → Bool} {start : Nat} {radices digits : List Nat}

/-- The kept digits are below their radices. -/
theorem within_select (within : Within radices digits) :
    Within (select kept start radices) (select kept start digits) := by
  induction within generalizing start with
  | nil => exact .nil
  | cons below _ ih =>
    rw [select_cons, select_cons]
    cases kept start with
    | true => exact .cons below ih
    | false => exact ih

/-- There is one numeral with given kept digits for each choice of the others. -/
theorem length_filter_select (within : Within (select kept start radices) digits) :
    ((all radices).filter fun other => decide (select kept start other = digits)).length =
      (select (fun place => !kept place) start radices).prod := by
  -- The numerals with one leading digit are counted at a time.
  induction radices generalizing start digits with
  | nil =>
    cases within
    rfl
  | cons radix radices ih =>
    have blocks (leading : Nat) :
        (((all radices).map (leading :: ·)).filter fun other =>
          decide (select kept start other = digits)).length =
        ((all radices).filter fun other =>
          decide (select kept start (leading :: other) = digits)).length := by
      rw [List.filter_map, List.length_map]
      rfl
    rw [all, List.filter_flatMap, List.length_flatMap]
    simp only [blocks, select_cons]
    rw [select_cons] at within
    cases keeps : kept start with
    | true =>
      rw [keeps, if_pos rfl] at within
      cases within with
      | @cons digit _ digits _ below rest =>
        -- Only the numerals with the same leading digit are counted.
        have only (leading : Nat) : ((all radices).filter fun other =>
            decide (leading :: select kept (start + 1) other = digit :: digits)).length =
            if leading = digit then (select (fun place => !kept place) (start + 1) radices).prod
            else 0 := by
          by_cases same : leading = digit
          · rw [if_pos same, ← ih rest]
            simp [same]
          · rw [if_neg same]
            simp [same]
        simp only [if_true, only, Bool.not_true, Bool.false_eq_true, if_false]
        rw [List.sum_map_eq_nsmul_single digit]
        · rw [List.count_eq_one_of_mem List.nodup_range (List.mem_range.2 below), if_pos rfl,
            one_nsmul]
        · intro leading differs _
          rw [if_neg differs]
    | false =>
      rw [keeps, if_neg Bool.false_ne_true] at within
      simp only [Bool.false_eq_true, if_false, ih within, Bool.not_false, if_true]
      rw [List.map_const', List.sum_replicate_nat, List.length_range, List.prod_cons]

/-- Some numeral has the kept digits, unless there is none at all. -/
theorem exists_select_eq (within : Within (select kept start radices) digits)
    (occupied : 0 ∉ radices) :
    ∃ other, Within radices other ∧ select kept start other = digits := by
  have count := length_filter_select within
  have some : (select (fun place => !kept place) start radices).prod ≠ 0 := by
    intro none
    rw [List.prod_eq_zero_iff] at none
    obtain ⟨⟨radix, place⟩, listed, rfl⟩ := List.mem_map.1 none
    exact occupied (List.fst_mem_of_mem_zipIdx (List.mem_filter.1 listed).1)
  rw [← count, Ne, List.length_eq_zero_iff, List.filter_eq_nil_iff] at some
  simp only [Classical.not_forall, not_not, decide_eq_true_eq] at some
  obtain ⟨other, listed, same⟩ := some
  exact ⟨other, mem_all.1 listed, same⟩

end Count

end MixedRadix
