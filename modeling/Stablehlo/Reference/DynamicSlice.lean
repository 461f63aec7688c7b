import Stablehlo.Dialect.DynamicSlice
import Stablehlo.Reference.IndexArithmetic
import Stablehlo.Reference.Slice
import Stablehlo.Reference.StaticShapes

/-! Slices that begin at indices which are computed, and updates of such slices. -/

namespace Stablehlo

/-- The numbers that scalars hold, sign-extended whatever their type is. -/
def evalScalars (scalars : List (Tensor Element)) : Except Failure (List Int) :=
  scalars.mapM fun scalar => do
    let element ← scalar.get []
    let value ← element.getIntegerValue
    .ok value.bits.toInt

/-- The start indices, moved so that the slice lies within the operand. -/
def adjustedStartIndices (operandShape : Sizes) (sliceSizes : List Int)
    (startIndices : List (Tensor Element)) : Except Failure (List Int) := do
  let index ← evalScalars startIndices
  let upper ← subtractIndices (operandShape.map Nat.cast) sliceSizes
  clampIndices (List.replicate index.length 0) index upper

section Operations

variable {α : Type}

/-- The slice of the operand that begins at the start indices. -/
def dynamicSliceOp (operand : Tensor α) (startIndices : List (Tensor Element))
    (sliceSizes : List Int) (resultShape : Sizes) : Except Failure (Tensor α) := do
  let adjusted ← adjustedStartIndices operand.shape sliceSizes startIndices
  Tensor.build resultShape fun resultIndex => do
    let operandIndex ← addIndices adjusted (resultIndex.map Nat.cast)
    operand.getAt operandIndex

/-- Replace the slice of the operand that begins at the start indices. -/
def dynamicUpdateSliceOp (operand update : Tensor α) (startIndices : List (Tensor Element))
    (resultShape : Sizes) : Except Failure (Tensor α) := do
  let adjusted ← adjustedStartIndices operand.shape (update.shape.map Nat.cast) startIndices
  Tensor.build resultShape fun resultIndex => do
    let updateIndex ← subtractIndices (resultIndex.map Nat.cast) adjusted
    if inBoundsOf update.shape updateIndex then update.getAt updateIndex
    else operand.get resultIndex

end Operations

section Specification

/-- The start of a slice in each dimension, moved so that the slice lies within the dimension. -/
def clampedStarts : Sizes → Sizes → List Int → Index
  | size :: shape, sliceSize :: sliceSizes, start :: starts =>
    (max 0 (min start (size - sliceSize))).toNat :: clampedStarts shape sliceSizes starts
  | _, _, _ => []

/-- The index that is so far behind another one. -/
def shift (start index : Index) : Index := List.zipWith (· + ·) start index

/-- The number that a scalar holds, given how elements are read. -/
def TypedTensor.scalar (read : Element → Int) (tensor : TypedTensor) : Int :=
  match tensor.elements.get [] with
  | .ok element => read element
  | .error _ => 0

/-- The slice of the tensor at the start is the other tensor. -/
def HoldsSlice {α : Type} (tensor slice : Tensor α) (start : Index) : Prop :=
  ∀ index, MixedRadix.Within slice.shape index →
    MixedRadix.Within tensor.shape (shift start index) ∧
      slice.get index = tensor.get (shift start index)

/-- Slices of operands of the type begin at the values of the start indices, as far as they lie
within the operand, and updates of operands replace these slices only. -/
def SlicesMeetSpec (operandType : ShapedType) (sliceSizes : Sizes)
    (startIndices : List TypedTensor) : Prop :=
  ∀ operand : TypedTensor, operand.type = operandType →
    (∃ slice, dynamicSliceOp operand.elements (startIndices.map TypedTensor.elements)
        (sliceSizes.map Nat.cast) sliceSizes = .ok slice ∧ slice.shape = sliceSizes ∧
      HoldsSlice operand.elements slice (clampedStarts operandType.shape sliceSizes
        (startIndices.map (TypedTensor.scalar Element.integer)))) ∧
    ∀ update : TypedTensor, update.type = ⟨sliceSizes, operandType.elementType⟩ →
      ∃ updated, dynamicUpdateSliceOp operand.elements update.elements
          (startIndices.map TypedTensor.elements) operandType.shape = .ok updated ∧
        updated.shape = operandType.shape ∧
        HoldsSlice updated update.elements (clampedStarts operandType.shape sliceSizes
          (startIndices.map (TypedTensor.scalar Element.integer))) ∧
        (∀ index, MixedRadix.Within operandType.shape index →
          (∀ inner, MixedRadix.Within sliceSizes inner → shift (clampedStarts operandType.shape
            sliceSizes (startIndices.map (TypedTensor.scalar Element.integer))) inner ≠ index) →
          updated.get index = operand.elements.get index) ∧
        dynamicSliceOp updated (startIndices.map TypedTensor.elements)
          (sliceSizes.map Nat.cast) sliceSizes = .ok update.elements

/-- Sign extension leaves a start index as it is, unless the slice has all of the dimension. -/
def StartsAlike (operandShape sliceSizes : Sizes) (startIndices : List TypedTensor) : Prop :=
  ∀ (d : Nat) (tensor : TypedTensor), startIndices[d]? = some tensor →
    tensor.scalar Element.signExtended = tensor.scalar Element.integer ∨
      sliceSizes[d]? = operandShape[d]?

end Specification

section Starts

variable {operandShape sliceSizes : Sizes} {starts : List Int}

attribute [local simp] clampedStarts

/-- As many slice sizes and starts as dimensions have a start within each dimension. -/
theorem clampedStarts_eq (fits : List.Forall₂ (· ≤ ·) sliceSizes operandShape)
    (count : starts.length = operandShape.length) :
    List.zipWith min (List.zipWith max starts (List.replicate starts.length 0))
        (List.zipWith (· - ·) (operandShape.map (Nat.cast : Nat → Int))
          (sliceSizes.map (Nat.cast : Nat → Int))) =
      (clampedStarts operandShape sliceSizes starts).map Nat.cast := by
  induction fits generalizing starts with
  | nil =>
    rw [List.length_nil, List.length_eq_zero_iff] at count
    rw [count]
    rfl
  | @cons sliceSize size sliceSizes operandShape most _ ih =>
    cases starts with
    | nil => cases count
    | cons start starts =>
      rw [List.length_cons, List.length_cons, Nat.add_right_cancel_iff] at count
      have rest := ih count
      simp only [clampedStarts, List.length_cons, List.replicate_succ, List.map_cons,
        List.zipWith_cons_cons, List.cons.injEq]
      -- The bounds are in order, so that it does not matter which has precedence.
      exact ⟨by omega, rest⟩

/-- There is a start for each dimension. -/
theorem length_clampedStarts (fits : List.Forall₂ (· ≤ ·) sliceSizes operandShape)
    (count : starts.length = operandShape.length) :
    (clampedStarts operandShape sliceSizes starts).length = operandShape.length := by
  induction fits generalizing starts with
  | nil => rfl
  | @cons sliceSize size sliceSizes operandShape _ _ ih =>
    cases starts with
    | nil => cases count
    | cons start starts =>
      rw [List.length_cons, List.length_cons, Nat.add_right_cancel_iff] at count
      rw [clampedStarts, List.length_cons, List.length_cons, ih count]

/-- No start is behind the end of its dimension. -/
theorem clampedStarts_le (fits : List.Forall₂ (· ≤ ·) sliceSizes operandShape)
    (count : starts.length = operandShape.length) :
    List.Forall₂ (· ≤ ·) (clampedStarts operandShape sliceSizes starts) operandShape := by
  induction fits generalizing starts with
  | nil => exact .nil
  | @cons sliceSize size sliceSizes operandShape _ _ ih =>
    cases starts with
    | nil => cases count
    | cons start starts =>
      rw [List.length_cons, List.length_cons, Nat.add_right_cancel_iff] at count
      refine .cons ?_ (ih count)
      show (max 0 (min start (size - sliceSize : Int))).toNat ≤ size
      omega

/-- Indices of a slice are indices of the operand, when they are shifted to the start. -/
theorem shift_within (fits : List.Forall₂ (· ≤ ·) sliceSizes operandShape)
    (count : starts.length = operandShape.length) {index : Index}
    (within : MixedRadix.Within sliceSizes index) :
    MixedRadix.Within operandShape (shift (clampedStarts operandShape sliceSizes starts) index) := by
  induction fits generalizing starts index with
  | nil => exact .nil
  | @cons sliceSize size sliceSizes operandShape most _ ih =>
    cases starts with
    | nil => cases count
    | cons start starts =>
      rw [List.length_cons, List.length_cons, Nat.add_right_cancel_iff] at count
      cases within with
      | @cons coordinate _ index _ below within =>
        -- The start leaves room for the slice.
        refine .cons ?_ (ih count within)
        show (max 0 (min start (size - sliceSize : Int))).toNat + coordinate < size
        omega

/-- The starts are the same when each of them is, or the slice has all of the dimension, given that
one start is negative where they differ and the other one positive. -/
theorem clampedStarts_eq_iff {others : List Int}
    (fits : List.Forall₂ (· ≤ ·) sliceSizes operandShape)
    (count : starts.length = operandShape.length)
    (related : List.Forall₂ (fun start other => start = other ∨ (start < 0 ∧ 0 < other)) starts
      others) :
    clampedStarts operandShape sliceSizes starts = clampedStarts operandShape sliceSizes others ↔
      ∀ (d : Nat) (start other : Int), starts[d]? = some start → others[d]? = some other →
        start = other ∨ sliceSizes[d]? = operandShape[d]? := by
  induction fits generalizing starts others with
  | nil =>
    rw [List.length_nil, List.length_eq_zero_iff] at count
    subst count
    simp [clampedStarts]
  | @cons sliceSize size sliceSizes operandShape most _ ih =>
    cases related with
    | nil => cases count
    | @cons start other starts others first related =>
      rw [List.length_cons, List.length_cons, Nat.add_right_cancel_iff] at count
      rw [clampedStarts, clampedStarts, List.cons.injEq, ih count related]
      constructor
      · rintro ⟨same, rest⟩ d start' other' found otherFound
        cases d with
        | zero =>
          cases found
          cases otherFound
          rw [List.getElem?_cons_zero, List.getElem?_cons_zero, Option.some.injEq]
          omega
        | succ d => exact rest d start' other' found otherFound
      · intro all
        refine ⟨?_, fun d start' other' found otherFound => all (d + 1) start' other' found
          otherFound⟩
        have here := all 0 start other rfl rfl
        rw [List.getElem?_cons_zero, List.getElem?_cons_zero, Option.some.injEq] at here
        rcases here with same | whole
        · rw [same]
        · omega

end Starts

/-- Coordinates of an index are below what all sizes are below. -/
theorem lt_of_within {shape index : List Nat} {bound : Nat}
    (within : MixedRadix.Within shape index) (small : ∀ size ∈ shape, size < bound) :
    ∀ coordinate ∈ index, coordinate < bound := by
  induction within with
  | nil => simp
  | cons below _ ih =>
    obtain ⟨here, small⟩ := List.forall_mem_cons.mp small
    exact List.forall_mem_cons.mpr ⟨Nat.lt_trans below here, ih small⟩

section Operations

variable {α : Type} {operandShape sliceSizes : Sizes} {startIndices : List TypedTensor}

/-- Scalars of integer types hold the numbers that are read. -/
theorem evalScalars_eq (scalars : ∀ tensor ∈ startIndices, tensor.elements.shape = [])
    (integers : ∀ tensor ∈ startIndices, isSupportedIntegerType tensor.elementType = true) :
    evalScalars (startIndices.map TypedTensor.elements) =
      .ok (startIndices.map (TypedTensor.scalar Element.signExtended)) := by
  rw [evalScalars, List.mapM_map]
  refine Fallible.mapM_eq_ok_map fun tensor listed => ?_
  have within : MixedRadix.Within tensor.elements.shape [] := by
    rw [scalars tensor listed]
    exact .nil
  obtain ⟨element, got, read⟩ :=
    getIntegerValue_of_get (integerElements (integers tensor listed)) within
  rw [TypedTensor.scalar, got]
  show (tensor.elements.get [] >>= _) = _
  rw [got]
  exact read

/-- The scalars are as many integers as the operand has dimensions. -/
structure StartScalars (operandShape : Sizes) (startIndices : List TypedTensor) : Prop where
  count : startIndices.length = operandShape.length
  scalars : ∀ tensor ∈ startIndices, tensor.elements.shape = []
  integers : ∀ tensor ∈ startIndices, isSupportedIntegerType tensor.elementType = true
  small : ∀ size ∈ operandShape, size < 2 ^ 63

/-- Differences of numbers within sizes are numbers of 64 bits. -/
theorem isInt64_of_sub {first second : List Nat}
    (firstMost : List.Forall₂ (· ≤ ·) first operandShape)
    (secondMost : List.Forall₂ (· ≤ ·) second operandShape)
    (small : ∀ size ∈ operandShape, size < 2 ^ 63) :
    ∀ difference ∈ List.zipWith (· - ·) (first.map (Nat.cast : Nat → Int))
      (second.map (Nat.cast : Nat → Int)), IsInt64 difference := by
  induction firstMost generalizing second with
  | nil => simp
  | @cons number size first operandShape most _ ih =>
    cases secondMost with
    | @cons other _ second _ otherMost secondMost =>
      obtain ⟨here, small⟩ := List.forall_mem_cons.mp small
      rw [List.map_cons, List.map_cons, List.zipWith_cons_cons, List.forall_mem_cons]
      exact ⟨by constructor <;> omega, ih secondMost small⟩

/-- The adjusted start indices are those of the slice, for the numbers that are read. -/
theorem StartScalars.adjustedStartIndices_eq (starts : StartScalars operandShape startIndices)
    (fits : List.Forall₂ (· ≤ ·) sliceSizes operandShape) :
    adjustedStartIndices operandShape (sliceSizes.map Nat.cast)
        (startIndices.map TypedTensor.elements) =
      .ok ((clampedStarts operandShape sliceSizes
        (startIndices.map (TypedTensor.scalar Element.signExtended))).map Nat.cast) := by
  have length := fits.length_eq
  have subtracted : subtractIndices (operandShape.map Nat.cast) (sliceSizes.map Nat.cast) =
      .ok (List.zipWith (· - ·) (operandShape.map (Nat.cast : Nat → Int))
        (sliceSizes.map (Nat.cast : Nat → Int))) := by
    exact combineIndices_eq_ok_iff.mpr ⟨by simp [length], rfl,
      isInt64_of_sub (List.forall₂_same.mpr fun _ _ => Nat.le_refl _) fits starts.small⟩
  rw [adjustedStartIndices, evalScalars_eq starts.scalars starts.integers, Fallible.ok_bind,
    subtracted, Fallible.ok_bind, clampIndices, if_neg ?enough]
  · have count := starts.count
    rw [clampedStarts_eq fits (by rw [List.length_map, count])]
  · have count := starts.count
    simp [length, count]

/-- The sum of a start and an index of a slice is the shifted index. -/
theorem addIndices_shift (fits : List.Forall₂ (· ≤ ·) sliceSizes operandShape)
    (small : ∀ size ∈ operandShape, size < 2 ^ 63) {starts : List Int}
    (count : starts.length = operandShape.length) {index : Index}
    (within : MixedRadix.Within sliceSizes index) :
    addIndices ((clampedStarts operandShape sliceSizes starts).map Nat.cast)
        (index.map Nat.cast) =
      .ok ((shift (clampedStarts operandShape sliceSizes starts) index).map Nat.cast) := by
  have inside := shift_within fits count within
  have length := length_clampedStarts fits count
  have same : List.zipWith (· + ·)
      ((clampedStarts operandShape sliceSizes starts).map (Nat.cast : Nat → Int))
        (index.map (Nat.cast : Nat → Int)) =
      (shift (clampedStarts operandShape sliceSizes starts) index).map Nat.cast := by
    rw [shift, List.map_zipWith, List.zipWith_map]
    simp only [Nat.cast_add]
  rw [addIndices_eq_combineIndices]
  refine combineIndices_eq_ok_iff.mpr ⟨?_, same.symm, fun sum listed => ?_⟩
  · rw [List.length_map, List.length_map, length, within.length_eq, fits.length_eq]
  · -- A coordinate of the operand is a number of 64 bits.
    obtain ⟨coordinate, member, rfl⟩ := List.mem_map.mp listed
    have bound := lt_of_within inside small coordinate member
    constructor <;> omega

/-- A dynamic slice is that at the starts for the numbers that are read. -/
theorem StartScalars.dynamicSliceOp_eq (starts : StartScalars operandShape startIndices)
    (fits : List.Forall₂ (· ≤ ·) sliceSizes operandShape) {operand : Tensor α}
    (shape : operand.shape = operandShape) :
    ∃ slice, dynamicSliceOp operand (startIndices.map TypedTensor.elements)
        (sliceSizes.map Nat.cast) sliceSizes = .ok slice ∧ slice.shape = sliceSizes ∧
      HoldsSlice operand slice (clampedStarts operandShape sliceSizes
        (startIndices.map (TypedTensor.scalar Element.signExtended))) := by
  subst shape
  have count : (startIndices.map (TypedTensor.scalar Element.signExtended)).length =
      operand.shape.length := by rw [List.length_map, starts.count]
  rw [dynamicSliceOp, starts.adjustedStartIndices_eq fits, Fallible.ok_bind]
  have read : ∀ index, MixedRadix.Within sliceSizes index → (do
      let operandIndex ← addIndices ((clampedStarts operand.shape sliceSizes
        (startIndices.map (TypedTensor.scalar Element.signExtended))).map Nat.cast)
          (index.map Nat.cast)
      operand.getAt operandIndex) = operand.get (shift (clampedStarts operand.shape sliceSizes
        (startIndices.map (TypedTensor.scalar Element.signExtended))) index) := by
    intro index within
    rw [addIndices_shift fits starts.small count within, Fallible.ok_bind,
      Tensor.getAt_map_natCast]
  obtain ⟨slice, built⟩ := Tensor.build_eq_ok fun index within => by
    obtain ⟨element, got, -⟩ := Tensor.get_eq (shift_within fits count within)
    exact ⟨element, (read index within).trans got⟩
  obtain ⟨shape, elements⟩ := Tensor.build_spec built
  refine ⟨slice, built, shape, fun index within => ?_⟩
  rw [shape] at within
  exact ⟨shift_within fits count within, (elements index within).trans (read index within)⟩

/-- Coordinates that are subtracted from those of an index are the coordinates of an index of the
slice when that is shifted to the index. -/
theorem zipWith_sub_eq_iff {start index place : Index} (count : start.length = index.length)
    (length : place.length = index.length) :
    place.map Nat.cast = List.zipWith (· - ·) (index.map (Nat.cast : Nat → Int))
        (start.map (Nat.cast : Nat → Int)) ↔ shift start place = index := by
  induction index generalizing start place with
  | nil =>
    rw [List.length_nil, List.length_eq_zero_iff] at count length
    simp [count, length, shift]
  | cons coordinate index ih =>
    cases start with
    | nil => cases count
    | cons first start =>
      cases place with
      | nil => cases length
      | cons digit place =>
        simp only [List.length_cons, Nat.add_right_cancel_iff] at count length
        have rest := ih count length
        simp only [shift, List.map_cons, List.zipWith_cons_cons, List.cons.injEq] at rest ⊢
        rw [rest]
        refine and_congr_left fun _ => ?_
        omega

/-- An updated tensor has the update at the starts for the numbers that are read, and is the operand
elsewhere. -/
theorem StartScalars.dynamicUpdateSliceOp_eq (starts : StartScalars operandShape startIndices)
    {operand update : Tensor α} (fits : List.Forall₂ (· ≤ ·) update.shape operandShape)
    (shape : operand.shape = operandShape) :
    ∃ updated, dynamicUpdateSliceOp operand update (startIndices.map TypedTensor.elements)
        operandShape = .ok updated ∧ updated.shape = operandShape ∧
      HoldsSlice updated update (clampedStarts operandShape update.shape
        (startIndices.map (TypedTensor.scalar Element.signExtended))) ∧
      ∀ index, MixedRadix.Within operandShape index →
        (∀ inner, MixedRadix.Within update.shape inner → shift (clampedStarts operandShape
          update.shape (startIndices.map (TypedTensor.scalar Element.signExtended))) inner ≠
            index) →
        updated.get index = operand.get index := by
  subst shape
  have count : (startIndices.map (TypedTensor.scalar Element.signExtended)).length =
      operand.shape.length := by rw [List.length_map, starts.count]
  have startLength := length_clampedStarts fits count
  have startMost := clampedStarts_le fits count
  rw [dynamicUpdateSliceOp, starts.adjustedStartIndices_eq fits, Fallible.ok_bind]
  generalize startEq : clampedStarts operand.shape update.shape
    (startIndices.map (TypedTensor.scalar Element.signExtended)) = start at startLength startMost
  -- At each index, there is an element of the update or that of the operand.
  have subtracted : ∀ index, MixedRadix.Within operand.shape index →
      subtractIndices (index.map Nat.cast) (start.map Nat.cast) =
        .ok (List.zipWith (· - ·) (index.map (Nat.cast : Nat → Int))
          (start.map (Nat.cast : Nat → Int))) := fun index within =>
    combineIndices_eq_ok_iff.mpr ⟨by simp [within.length_eq, startLength], rfl,
      isInt64_of_sub (within.imp fun _ _ => Nat.le_of_lt) startMost starts.small⟩
  have inner : ∀ index, MixedRadix.Within operand.shape index → ∀ place,
      MixedRadix.Within update.shape place → shift start place = index → (do
        let updateIndex ← subtractIndices (index.map Nat.cast) (start.map Nat.cast)
        if inBoundsOf update.shape updateIndex then update.getAt updateIndex
        else operand.get index) = update.get place := by
    intro index within place placeWithin same
    have coordinates := (zipWith_sub_eq_iff (startLength.trans within.length_eq.symm)
      (by rw [placeWithin.length_eq, within.length_eq, fits.length_eq])).mpr same
    rw [subtracted index within, Fallible.ok_bind, ← coordinates,
      if_pos (inBoundsOf_iff.mpr ⟨place, rfl, placeWithin⟩), Tensor.getAt_map_natCast]
  have outer : ∀ index, MixedRadix.Within operand.shape index →
      (∀ place, MixedRadix.Within update.shape place → shift start place ≠ index) → (do
        let updateIndex ← subtractIndices (index.map Nat.cast) (start.map Nat.cast)
        if inBoundsOf update.shape updateIndex then update.getAt updateIndex
        else operand.get index) = operand.get index := by
    intro index within outside
    rw [subtracted index within, Fallible.ok_bind, if_neg fun inside => ?_]
    obtain ⟨place, coordinates, placeWithin⟩ := inBoundsOf_iff.mp inside
    refine outside place placeWithin ((zipWith_sub_eq_iff (startLength.trans within.length_eq.symm)
      ?_).mp coordinates)
    rw [placeWithin.length_eq, within.length_eq, fits.length_eq]
  obtain ⟨updated, built⟩ := Tensor.build_eq_ok fun index within => by
    by_cases inside : ∃ place, MixedRadix.Within update.shape place ∧ shift start place = index
    · obtain ⟨place, placeWithin, same⟩ := inside
      obtain ⟨element, got, -⟩ := Tensor.get_eq placeWithin
      exact ⟨element, (inner index within place placeWithin same).trans got⟩
    · obtain ⟨element, got, -⟩ := Tensor.get_eq within
      exact ⟨element, (outer index within fun place placeWithin same =>
        inside ⟨place, placeWithin, same⟩).trans got⟩
  obtain ⟨shape, elements⟩ := Tensor.build_spec built
  refine ⟨updated, built, shape, fun index within => ?_, fun index within outside => ?_⟩
  · have inside := startEq ▸ shift_within fits count within
    rw [shape]
    exact ⟨inside, ((elements _ inside).trans (inner _ inside index within rfl)).symm⟩
  · exact (elements index within).trans (outer index within outside)

end Operations

section Meets

variable {operandType : ShapedType} {sliceSizes : Sizes} {startIndices : List TypedTensor}

/-- Starts from which an index is shifted to the same index are the same. -/
theorem shift_right_cancel {first second index : Index} (firstLength : first.length = index.length)
    (secondLength : second.length = index.length) (same : shift first index = shift second index) :
    first = second := by
  induction index generalizing first second with
  | nil =>
    rw [List.length_nil, List.length_eq_zero_iff] at firstLength secondLength
    rw [firstLength, secondLength]
  | cons coordinate index ih =>
    cases first with
    | nil => cases firstLength
    | cons start first =>
      cases second with
      | nil => cases secondLength
      | cons other second =>
        rw [List.length_cons, List.length_cons, Nat.add_right_cancel_iff] at firstLength
        rw [List.length_cons, List.length_cons, Nat.add_right_cancel_iff] at secondLength
        rw [shift, shift, List.zipWith_cons_cons, List.zipWith_cons_cons, List.cons.injEq] at same
        rw [ih firstLength secondLength same.2, Nat.add_right_cancel same.1]

/-- A slice is determined by its tensor, its sizes and its start. -/
theorem eq_of_holdsSlice {α : Type} {tensor first second : Tensor α} {start : Index}
    (sameShape : first.shape = second.shape) (firstHeld : HoldsSlice tensor first start)
    (secondHeld : HoldsSlice tensor second start) : first = second := by
  refine Tensor.ext_get sameShape fun index within => ?_
  rw [(firstHeld index within).2, (secondHeld index (sameShape ▸ within)).2]

/-- Slices are those of the specification when the start indices are as they should be. -/
theorem StartScalars.meetsSpec (starts : StartScalars operandType.shape startIndices)
    (fits : List.Forall₂ (· ≤ ·) sliceSizes operandType.shape)
    (alike : 0 < sliceSizes.prod → clampedStarts operandType.shape sliceSizes
        (startIndices.map (TypedTensor.scalar Element.signExtended)) =
      clampedStarts operandType.shape sliceSizes
        (startIndices.map (TypedTensor.scalar Element.integer))) :
    SlicesMeetSpec operandType sliceSizes startIndices := by
  -- Nothing is read or replaced at the start of a slice without elements.
  have same : ∀ index, MixedRadix.Within sliceSizes index →
      clampedStarts operandType.shape sliceSizes
          (startIndices.map (TypedTensor.scalar Element.signExtended)) =
        clampedStarts operandType.shape sliceSizes
          (startIndices.map (TypedTensor.scalar Element.integer)) := fun index within =>
    alike (Nat.lt_of_le_of_lt (Nat.zero_le _) (MixedRadix.encode_lt within))
  intro operand own
  have operandShape : operand.elements.shape = operandType.shape := congrArg ShapedType.shape own
  refine ⟨?_, fun update updateOwn => ?_⟩
  · obtain ⟨slice, sliced, shape, held⟩ := starts.dynamicSliceOp_eq fits operandShape
    refine ⟨slice, sliced, shape, fun index within => ?_⟩
    have here := held index within
    rwa [same index (shape ▸ within)] at here
  · have updateShape : update.elements.shape = sliceSizes := congrArg ShapedType.shape updateOwn
    subst updateShape
    obtain ⟨updated, done, shape, held, others⟩ :=
      starts.dynamicUpdateSliceOp_eq fits operandShape
    refine ⟨updated, done, shape, fun index within => ?_, fun index within outside => ?_, ?_⟩
    · have here := held index within
      rwa [same index within] at here
    · refine others index within fun inner innerWithin => ?_
      rw [same inner innerWithin]
      exact outside inner innerWithin
    · -- The slice of the updated tensor and the update are both at the start.
      obtain ⟨slice, sliced, sliceShape, sliceHeld⟩ := starts.dynamicSliceOp_eq fits shape
      rw [sliced, eq_of_holdsSlice sliceShape sliceHeld held]

/-- The starts of slices that are those of the specification are as they should be. -/
theorem StartScalars.starts_of_meetsSpec (starts : StartScalars operandType.shape startIndices)
    (fits : List.Forall₂ (· ≤ ·) sliceSizes operandType.shape)
    (supported : isSupportedType operandType.elementType = true)
    (meets : SlicesMeetSpec operandType sliceSizes startIndices) (positive : 0 < sliceSizes.prod) :
    clampedStarts operandType.shape sliceSizes
        (startIndices.map (TypedTensor.scalar Element.signExtended)) =
      clampedStarts operandType.shape sliceSizes
        (startIndices.map (TypedTensor.scalar Element.integer)) := by
  have within := MixedRadix.decode_within positive
  generalize MixedRadix.decode sliceSizes 0 = index at within
  have count : ∀ read : Element → Int,
      (startIndices.map (TypedTensor.scalar read)).length = operandType.shape.length := fun read =>
    (List.length_map _).trans starts.count
  -- The operand shows which of its elements is read.
  obtain ⟨operand, own, marked⟩ := exists_marked supported (shift (clampedStarts operandType.shape
    sliceSizes (startIndices.map (TypedTensor.scalar Element.integer))) index)
  have operandShape : operand.elements.shape = operandType.shape := congrArg ShapedType.shape own
  obtain ⟨⟨slice, sliced, shape, held⟩, -⟩ := meets operand own
  obtain ⟨other, again, -, otherHeld⟩ := starts.dynamicSliceOp_eq fits operandShape
  rw [sliced, Except.ok.injEq] at again
  subst again
  obtain ⟨inside, read⟩ := held index (shape ▸ within)
  obtain ⟨otherInside, otherRead⟩ := otherHeld index (shape ▸ within)
  rw [operandShape] at inside otherInside
  have same := marked _ inside otherInside (read.symm.trans otherRead)
  refine shift_right_cancel ?_ ?_ same
  · rw [length_clampedStarts fits (count _), within.length_eq, fits.length_eq]
  · rw [length_clampedStarts fits (count _), within.length_eq, fits.length_eq]

/-- The slice of an accepted dynamic slice fits the operand. -/
theorem fits_of_inferDynamicSliceOp {operandRanked : RankedTensorType}
    {startIndicesRanked : List RankedTensorType} {sizes : List Int64}
    {components : ShapedTypeComponents} (operandStatic : operandRanked.IsStatic operandType)
    (sizesSame : sizes.map Int64.toInt = sliceSizes.map Nat.cast)
    (accepted : inferDynamicSliceOp operandRanked startIndicesRanked sizes = .ok components) :
    startIndicesRanked.length = operandType.shape.length ∧
      List.Forall₂ (· ≤ ·) sliceSizes operandType.shape := by
  obtain ⟨count, length, inside, -⟩ := inferDynamicSliceOp_spec accepted
  have rank := length_of_known operandStatic.1
  have sizesLength := length_of_known sizesSame
  refine ⟨by omega, List.forall₂_iff_get.mpr ⟨by omega, fun d sliceBelow below => ?_⟩⟩
  -- The size was compared with that of the dimension, which is known.
  have found := List.getElem?_eq_getElem (show d < sizes.length by omega)
  obtain ⟨size, sizeFound, value⟩ := getElem?_of_known sizesSame found
  obtain ⟨-, dim, dimFound, most⟩ := inside d _ found
  obtain ⟨known, knownFound, knownValue⟩ := getElem?_of_known operandStatic.1 dimFound
  obtain ⟨_, same⟩ := List.getElem?_eq_some_iff.mp sizeFound
  obtain ⟨_, knownSame⟩ := List.getElem?_eq_some_iff.mp knownFound
  rw [isDynamicDimSize_of_natCast knownValue] at most
  rcases most with dynamic | most
  · cases dynamic
  · rw [List.get_eq_getElem, List.get_eq_getElem, same, knownSame]
    omega

/-- The update of an accepted dynamic update fits the operand. -/
theorem fits_of_inferDynamicUpdateSliceOp {operandRanked updateRanked : RankedTensorType}
    {startIndicesRanked : List RankedTensorType} {components : ShapedTypeComponents}
    (operandStatic : operandRanked.IsStatic operandType)
    (updateStatic : updateRanked.IsStatic ⟨sliceSizes, operandType.elementType⟩)
    (accepted : inferDynamicUpdateSliceOp operandRanked updateRanked startIndicesRanked =
      .ok components) :
    startIndicesRanked.length = operandType.shape.length ∧
      List.Forall₂ (· ≤ ·) sliceSizes operandType.shape := by
  obtain ⟨count, length, inside, -⟩ := inferDynamicUpdateSliceOp_spec accepted
  have rank := length_of_known operandStatic.1
  have sizesLength : updateRanked.shape.length = sliceSizes.length :=
    length_of_known updateStatic.1
  refine ⟨by omega, List.forall₂_iff_get.mpr ⟨by omega, fun d sliceBelow below => ?_⟩⟩
  -- Both sizes are known, so that they were compared.
  have found := List.getElem?_eq_getElem (show d < updateRanked.shape.length by omega)
  have dimFound := List.getElem?_eq_getElem (show d < operandRanked.shape.length by omega)
  obtain ⟨size, sizeFound, value⟩ := getElem?_of_known updateStatic.1 found
  obtain ⟨known, knownFound, knownValue⟩ := getElem?_of_known operandStatic.1 dimFound
  obtain ⟨_, same⟩ := List.getElem?_eq_some_iff.mp sizeFound
  obtain ⟨_, knownSame⟩ := List.getElem?_eq_some_iff.mp knownFound
  have most := inside d _ _ dimFound found
  rw [isDynamicDimSize_of_natCast knownValue, isDynamicDimSize_of_natCast value] at most
  rw [List.get_eq_getElem, List.get_eq_getElem]
  dsimp only at same
  rw [same, knownSame]
  rcases most with dynamic | ⟨-, dynamic | most⟩
  · cases dynamic
  · cases dynamic
  · omega

/-- Sign extension leaves the clamped starts as they are when it does so with each start, or the
slice has all of the dimension. -/
theorem clampedStarts_alike_iff (fits : List.Forall₂ (· ≤ ·) sliceSizes operandType.shape)
    (count : startIndices.length = operandType.shape.length) :
    clampedStarts operandType.shape sliceSizes
          (startIndices.map (TypedTensor.scalar Element.signExtended)) =
        clampedStarts operandType.shape sliceSizes
          (startIndices.map (TypedTensor.scalar Element.integer)) ↔
      StartsAlike operandType.shape sliceSizes startIndices := by
  rw [clampedStarts_eq_iff fits (by rw [List.length_map, count])]
  · constructor
    · intro alike d tensor found
      exact alike d _ _ (by rw [List.getElem?_map, found]; rfl)
        (by rw [List.getElem?_map, found]; rfl)
    · intro alike d start other found otherFound
      rw [List.getElem?_map, Option.map_eq_some_iff] at found otherFound
      obtain ⟨tensor, found, rfl⟩ := found
      obtain ⟨again, otherFound, rfl⟩ := otherFound
      rw [found, Option.some.injEq] at otherFound
      exact otherFound ▸ alike d tensor found
  · -- Sign extension makes negative numbers of positive ones.
    rw [List.forall₂_map_left_iff, List.forall₂_map_right_iff]
    refine List.forall₂_same.mpr fun tensor _ => ?_
    rw [TypedTensor.scalar, TypedTensor.scalar]
    cases tensor.elements.get [] with
    | error _ => exact .inl rfl
    | ok element => exact element.signExtended_or

/-- Dynamic slices and updates that are accepted are those of the specification exactly when sign
extension leaves the starts as they are, or the slices have no elements. -/
theorem slicesMeetSpec_iff {operandRanked updateRanked : RankedTensorType}
    {startIndicesRanked : List RankedTensorType} {sizes : List Int64}
    (operandStatic : operandRanked.IsStatic operandType)
    (updateStatic : updateRanked.IsStatic ⟨sliceSizes, operandType.elementType⟩)
    (sizesSame : sizes.map Int64.toInt = sliceSizes.map Nat.cast)
    (startIndicesStatic : List.Forall₂ RankedTensorType.IsStatic startIndicesRanked
      (startIndices.map TypedTensor.type))
    (scalars : ∀ tensor ∈ startIndices, tensor.elements.shape = [])
    (integers : ∀ tensor ∈ startIndices, isSupportedIntegerType tensor.elementType = true)
    (supported : isSupportedType operandType.elementType = true)
    (accepted : (∃ components, inferDynamicSliceOp operandRanked startIndicesRanked sizes =
        .ok components) ∨
      ∃ components, inferDynamicUpdateSliceOp operandRanked updateRanked startIndicesRanked =
        .ok components) :
    SlicesMeetSpec operandType sliceSizes startIndices ↔
      (0 < sliceSizes.prod → StartsAlike operandType.shape sliceSizes startIndices) := by
  have verified : startIndicesRanked.length = operandType.shape.length ∧
      List.Forall₂ (· ≤ ·) sliceSizes operandType.shape := by
    rcases accepted with ⟨_, sliced⟩ | ⟨_, updated⟩
    · exact fits_of_inferDynamicSliceOp operandStatic sizesSame sliced
    · exact fits_of_inferDynamicUpdateSliceOp operandStatic updateStatic updated
  obtain ⟨rankedCount, fits⟩ := verified
  have count : startIndices.length = operandType.shape.length := by
    rw [← rankedCount, startIndicesStatic.length_eq, List.length_map]
  have starts : StartScalars operandType.shape startIndices := {
    count, scalars, integers
    small := fun size listed => by
      obtain ⟨d, found⟩ := List.mem_iff_getElem?.mp listed
      have small := lt_of_known operandStatic.1 d
      rwa [List.getD_eq_getElem?_getD, found] at small }
  rw [← clampedStarts_alike_iff fits count]
  exact ⟨starts.starts_of_meetsSpec fits supported, starts.meetsSpec fits⟩

end Meets

/-- A start of a slice with two of four elements. -/
theorem slicesMeetSpec_iff_vector :
    SlicesMeetSpec ⟨[4], .integer .signless 32⟩ [2] [integerTensor [] .unsigned ⟨8, 200⟩ rfl] ↔
      (0 < [2].prod → StartsAlike [4] [2] [integerTensor [] .unsigned ⟨8, 200⟩ rfl]) :=
  @slicesMeetSpec_iff ⟨[4], .integer .signless 32⟩ [2] [integerTensor [] .unsigned ⟨8, 200⟩ rfl]
    ⟨[4], .integer .signless 32, none⟩ ⟨[2], .integer .signless 32, none⟩
    [⟨[], .integer .unsigned 8, none⟩] [2] ⟨rfl, rfl⟩ ⟨rfl, rfl⟩ rfl (.cons ⟨rfl, rfl⟩ .nil)
    (by decide) (by decide) rfl (.inl ⟨_, rfl⟩)

/-- An unsigned start index is read as a negative number, although the slice is accepted. -/
theorem slice_not_met :
    inferDynamicSliceOp ⟨[4], .integer .signless 32, none⟩ [⟨[], .integer .unsigned 8, none⟩]
        [2] = .ok ⟨[2], some (.integer .signless 32), none⟩ ∧
      ¬ SlicesMeetSpec ⟨[4], .integer .signless 32⟩ [2]
        [integerTensor [] .unsigned ⟨8, 200⟩ rfl] := by
  refine ⟨rfl, fun meets => ?_⟩
  have starts : StartScalars [4] [integerTensor [] .unsigned ⟨8, 200⟩ rfl] :=
    ⟨rfl, by decide, by decide, by decide⟩
  -- The start is moved to the beginning of the operand and not to its end.
  exact absurd (starts.starts_of_meetsSpec (.cons (by decide) .nil) rfl meets (by decide))
    (by decide)

end Stablehlo
