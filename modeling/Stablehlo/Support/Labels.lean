import Mathlib.Data.List.GetD
import Mathlib.Logic.Function.Basic
import Stablehlo.Support.MixedRadix

/-! Labels for the digits of numerals, and the values that they are given. -/

universe u

namespace Labels

variable {L : Type u} [DecidableEq L]

section Sets

/-- Add an item to a set that keeps the order of insertion. -/
def insertBack (set : List L) (item : L) : List L := if item ∈ set then set else set ++ [item]

/-- Add items one after the other. -/
def insertAll (set items : List L) : List L := items.foldl insertBack set

/-- The items of a set are those it had and those that were added. -/
@[simp] theorem mem_insertAll {set items : List L} {item : L} :
    item ∈ insertAll set items ↔ item ∈ set ∨ item ∈ items := by
  induction items generalizing set with
  | nil => simp [insertAll]
  | cons first items ih =>
    rw [insertAll, List.foldl_cons, ← insertAll, ih, insertBack]
    -- The first item is there already, or it comes last.
    split
    · next listed =>
      rw [List.mem_cons]
      constructor
      · tauto
      · rintro (before | rfl | later)
        · exact .inl before
        · exact .inl listed
        · exact .inr later
    · simp [or_assoc]

/-- No item is added twice. -/
theorem nodup_insertAll {set items : List L} (distinct : set.Nodup) :
    (insertAll set items).Nodup := by
  induction items generalizing set with
  | nil => exact distinct
  | cons first items ih =>
    rw [insertAll, List.foldl_cons, ← insertAll]
    apply ih
    rw [insertBack]
    split
    · exact distinct
    · next fresh => exact List.nodup_append.2 ⟨distinct, List.nodup_singleton first, by
        rintro item listed _ last rfl
        exact fresh (List.mem_singleton.1 last ▸ listed)⟩

end Sets

section Assignments

/-- All values of labels below their sizes, in lexicographic order. Other labels are zero. -/
def assignments (size : L → Nat) : List L → List (L → Nat)
  | [] => [fun _ => 0]
  | label :: labels => (List.range (size label)).flatMap fun value =>
      (assignments size labels).map fun values => Function.update values label value

/-- The values of labels that digits give. -/
def valuation (labels : List L) (digits : List Nat) (label : L) : Nat :=
  digits.getD (labels.idxOf label) 0

/-- The first digit is for the first label. -/
theorem valuation_cons (label : L) (labels : List L) (digit : Nat) (digits : List Nat) :
    valuation (label :: labels) (digit :: digits) =
      Function.update (valuation labels digits) label digit := by
  funext other
  rw [valuation]
  by_cases same : other = label
  · rw [same, List.idxOf_cons_self, List.getD_cons_zero, Function.update_self]
  · rw [List.idxOf_cons_ne _ (Ne.symm same), List.getD_cons_succ, Function.update_of_ne same]
    rfl

/-- The numerals over the sizes of labels give all their values. -/
theorem map_valuation_all (size : L → Nat) (labels : List L) :
    (MixedRadix.all (labels.map size)).map (valuation labels) = assignments size labels := by
  induction labels with
  | nil => rfl
  | cons label labels ih =>
    rw [List.map_cons, MixedRadix.all, assignments, List.map_flatMap, ← ih]
    -- The numerals with one leading digit are those where the first label has this value.
    simp only [List.map_map]
    congr
    funext digit
    apply List.map_congr_left
    intro digits _
    exact valuation_cons label labels digit digits

/-- The labels have the values that the digits are. -/
theorem map_valuation {labels : List L} (distinct : labels.Nodup) {digits : List Nat}
    (long : digits.length = labels.length) : labels.map (valuation labels digits) = digits := by
  apply List.ext_getElem (by rw [List.length_map, long])
  intro place inside below
  rw [List.getElem_map, valuation, distinct.idxOf_getElem, List.getD_eq_getElem _ _ below]

/-- A listed label has the value that its digit is. -/
theorem valuation_map {labels : List L} (value : L → Nat) {label : L} (listed : label ∈ labels) :
    valuation labels (labels.map value) label = value label := by
  have inside : labels.idxOf label < labels.length := List.idxOf_lt_length_iff.2 listed
  rw [valuation, List.getD_eq_getElem _ _ (by rw [List.length_map]; exact inside),
    List.getElem_map, List.getElem_idxOf]

/-- Digits within the sizes of labels give a label a value below its size. -/
theorem valuation_lt {size : L → Nat} {labels : List L} {digits : List Nat}
    (within : MixedRadix.Within (labels.map size) digits) {label : L} (listed : label ∈ labels) :
    valuation labels digits label < size label := by
  have inside : labels.idxOf label < labels.length := List.idxOf_lt_length_iff.2 listed
  have there : (labels.map size)[labels.idxOf label]? = some (size label) := by
    rw [List.getElem?_map, List.getElem?_eq_getElem inside, List.getElem_idxOf]
    rfl
  obtain ⟨digit, found, below⟩ := MixedRadix.exists_digit within there
  rwa [valuation, List.getD_eq_getElem?_getD, found]

/-- Listed labels have values within their sizes. -/
theorem within_map_valuation {size : L → Nat} {labels others : List L} {digits : List Nat}
    (within : MixedRadix.Within (labels.map size) digits)
    (listed : ∀ label ∈ others, label ∈ labels) :
    MixedRadix.Within (others.map size) (others.map (valuation labels digits)) := by
  rw [MixedRadix.Within, List.forall₂_map_left_iff, List.forall₂_map_right_iff]
  exact List.forall₂_same.2 fun label other => valuation_lt within (listed label other)

end Assignments

end Labels
