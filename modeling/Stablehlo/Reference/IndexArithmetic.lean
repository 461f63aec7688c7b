import Stablehlo.Reference.Tensor

/-! Arithmetic of the interpreter on indices, whose coordinates are numbers of 64 bits. -/

namespace Stablehlo

/-- The number is one of those of 64 bits. -/
def IsInt64 (value : Int) : Prop := -2 ^ 63 ≤ value ∧ value < 2 ^ 63

instance (value : Int) : Decidable (IsInt64 value) := inferInstanceAs (Decidable (_ ∧ _))

/-- Add coordinates, whose sum is undefined if it is not a number of 64 bits. -/
def addCoordinates (first second : Int) : Except Failure Int :=
  if IsInt64 (first + second) then .ok (first + second) else .error .undefinedBehavior

/-- Add indices, coordinate by coordinate. -/
def addIndices (x y : List Int) : Except Failure (List Int) :=
  if x.length ≠ y.length then
    .error (.fatalError "expected same size")
  else
    (x.zip y).mapM fun (first, second) => addCoordinates first second

/-- Combine the coordinates of two indices by an operation on numbers of 64 bits. -/
def combineIndices (operation : Int → Int → Int) (x y : List Int) :
    Except Failure (List Int) :=
  if x.length ≠ y.length then
    .error (.fatalError "expected same size")
  else
    (x.zip y).mapM fun (first, second) =>
      if IsInt64 (operation first second) then .ok (operation first second)
      else .error .undefinedBehavior

/-- Subtract indices, coordinate by coordinate. -/
def subtractIndices : List Int → List Int → Except Failure (List Int) := combineIndices (· - ·)

/-- Multiply indices, coordinate by coordinate. -/
def multiplyIndices : List Int → List Int → Except Failure (List Int) := combineIndices (· * ·)

/-- Move the coordinates of an index between bounds, of which the upper one has precedence. -/
def clampIndices (lower x upper : List Int) : Except Failure (List Int) :=
  if lower.length ≠ x.length ∨ x.length ≠ upper.length then
    .error (.fatalError "expected same size")
  else
    .ok (List.zipWith min (List.zipWith max x lower) upper)

/-- The coordinates are those of an index of the shape. -/
def inBoundsOf (shape : Sizes) (index : List Int) : Bool :=
  index.length == shape.length &&
    (index.zip shape).all fun (coordinate, size) => 0 ≤ coordinate && coordinate < (size : Int)

section Combined

variable {operation : Int → Int → Int} {x y results : List Int}

/-- A loop of checks of numbers has the numbers for its results, when each of them passes. -/
theorem mapM_isInt64_eq_ok_iff {ι : Type} {items : List ι} {value : ι → Int} :
    (items.mapM fun item => if IsInt64 (value item) then .ok (value item)
      else (.error .undefinedBehavior : Except Failure Int)) = .ok results ↔
      results = items.map value ∧ ∀ result ∈ results, IsInt64 result := by
  rw [Fallible.mapM_eq_ok_iff]
  constructor
  · intro passed
    induction passed with
    | nil => simp
    | @cons item result items results first _ ih =>
      split at first
      · next small =>
        cases first
        exact ⟨by rw [List.map_cons, ← ih.1], List.forall_mem_cons.mpr ⟨small, ih.2⟩⟩
      · cases first
  · rintro ⟨rfl, small⟩
    -- Each number is passed on as it is.
    rw [List.forall₂_map_right_iff]
    refine List.forall₂_same.mpr fun item listed => ?_
    rw [if_pos (small _ (List.mem_map_of_mem listed))]

/-- Indices are combined when they have as many coordinates, and the results are numbers of 64
bits. -/
theorem combineIndices_eq_ok_iff :
    combineIndices operation x y = .ok results ↔ x.length = y.length ∧
      results = List.zipWith operation x y ∧ ∀ result ∈ results, IsInt64 result := by
  rw [combineIndices]
  by_cases same : x.length = y.length
  · rw [if_neg (not_not.mpr same), mapM_isInt64_eq_ok_iff, List.map_zip_eq_zipWith]
    exact (and_iff_right same).symm
  · rw [if_pos same]
    simp [same]

/-- The sum of indices is the combination by addition. -/
theorem addIndices_eq_combineIndices : addIndices x y = combineIndices (· + ·) x y := rfl

end Combined

section InBounds

variable {shape : Sizes}

/-- Coordinates that are natural numbers are those of the index. -/
theorem map_toNat_map_natCast (place : Index) :
    (place.map (Nat.cast : Nat → Int)).map Int.toNat = place := by
  rw [List.map_map]
  exact List.map_id'' Int.toNat_natCast place

/-- Coordinates are in bounds when they are those of an index of the shape. -/
theorem inBoundsOf_iff {coordinates : List Int} :
    inBoundsOf shape coordinates = true ↔
      ∃ place : Index, place.map Nat.cast = coordinates ∧ MixedRadix.Within shape place := by
  rw [inBoundsOf]
  induction shape generalizing coordinates with
  | nil =>
    cases coordinates with
    | nil => exact iff_of_true rfl ⟨[], rfl, .nil⟩
    | cons _ _ => exact iff_of_false (by simp) fun ⟨place, same, within⟩ => by cases within; cases same
  | cons size shape ih =>
    cases coordinates with
    | nil => exact iff_of_false (by simp) fun ⟨place, same, within⟩ => by cases within; cases same
    | cons coordinate coordinates =>
      have rest := @ih coordinates
      simp only [List.length_cons, List.zip_cons_cons, List.all_cons, Bool.and_eq_true, beq_iff_eq,
        Nat.add_right_cancel_iff, decide_eq_true_eq] at rest ⊢
      constructor
      · rintro ⟨length, ⟨nonneg, below⟩, all⟩
        obtain ⟨place, same, within⟩ := rest.mp ⟨length, all⟩
        refine ⟨coordinate.toNat :: place, ?_, .cons (by omega) within⟩
        rw [List.map_cons, same]
        congr 1
        omega
      · rintro ⟨place, same, within⟩
        cases within with
        | @cons digit _ place _ below within =>
          cases same
          obtain ⟨length, all⟩ := rest.mpr ⟨place, rfl, within⟩
          exact ⟨length, ⟨by omega, by exact_mod_cast below⟩, all⟩

end InBounds

end Stablehlo
