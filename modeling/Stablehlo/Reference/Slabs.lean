import Stablehlo.Reference.DynamicSlice
import Stablehlo.Reference.Reshape

/-! Slices at one position along a dimension, which the dimension is left out of. -/

namespace Stablehlo

/-- The scalar of 64 bits that counts or addresses something. -/
def indexScalar (value : BitVec 64) : TypedTensor := integerTensor [] .signless ⟨64, value⟩ rfl

/-- The start indices of a slice at a position along a dimension. -/
def startScalars (rank dimension : Nat) (position : BitVec 64) : List TypedTensor :=
  (List.replicate rank (indexScalar 0)).set dimension (indexScalar position)

section Positions

variable {shape index : List Nat} {dimension size position : Nat}

/-- A coordinate at the place of the dimension makes an index of the shape. -/
theorem within_insertIdx (found : shape[dimension]? = some size) (below : position < size)
    (within : MixedRadix.Within (shape.eraseIdx dimension) index) :
    MixedRadix.Within shape (index.insertIdx dimension position) := by
  -- Down to the dimension, the index has the coordinates that it had.
  induction dimension generalizing shape index with
  | zero =>
    cases shape with
    | nil => cases found
    | cons first shape =>
      cases found
      exact .cons below within
  | succ dimension ih =>
    cases shape with
    | nil => cases found
    | cons first shape =>
      rw [List.eraseIdx_cons_succ] at within
      cases within with
      | cons here within => exact .cons here (ih found within)

/-- Every index of the shape has a coordinate for the dimension, and others. -/
theorem exists_insertIdx (found : shape[dimension]? = some size)
    (within : MixedRadix.Within shape index) : ∃ position others, position < size ∧
      MixedRadix.Within (shape.eraseIdx dimension) others ∧
        index = others.insertIdx dimension position := by
  induction dimension generalizing shape index with
  | zero =>
    cases within with
    | nil => cases found
    | @cons coordinate _ index _ below within =>
      cases found
      exact ⟨coordinate, index, below, within, rfl⟩
  | succ dimension ih =>
    cases within with
    | nil => cases found
    | @cons coordinate _ index _ below within =>
      obtain ⟨position, others, inside, rest, rfl⟩ := ih found within
      exact ⟨position, coordinate :: others, inside, .cons below rest, rfl⟩

/-- A dimension of a single position adds nothing to the number of elements. -/
theorem prod_set_one (found : shape[dimension]? = some size) :
    (shape.set dimension 1).prod = (shape.eraseIdx dimension).prod := by
  induction dimension generalizing shape with
  | zero =>
    cases shape with
    | nil => cases found
    | cons first shape =>
      rw [List.set_cons_zero, List.prod_cons, Nat.one_mul, List.eraseIdx_cons_zero]
  | succ dimension ih =>
    cases shape with
    | nil => cases found
    | cons first shape =>
      rw [List.set_cons_succ, List.eraseIdx_cons_succ, List.prod_cons, List.prod_cons, ih found]

/-- A dimension of a single position leaves the places of elements as they are. -/
theorem encode_insertIdx (found : shape[dimension]? = some size)
    (within : MixedRadix.Within (shape.eraseIdx dimension) index) :
    MixedRadix.encode (shape.set dimension 1) (index.insertIdx dimension 0) =
      MixedRadix.encode (shape.eraseIdx dimension) index := by
  induction dimension generalizing shape index with
  | zero =>
    cases shape with
    | nil => cases found
    | cons first shape =>
      rw [List.set_cons_zero, List.insertIdx_zero, MixedRadix.encode, Nat.zero_mul, Nat.zero_add,
        List.eraseIdx_cons_zero]
  | succ dimension ih =>
    cases shape with
    | nil => cases found
    | cons first shape =>
      rw [List.eraseIdx_cons_succ] at within ⊢
      cases within with
      | cons here within =>
        rw [List.set_cons_succ, List.insertIdx_succ_cons, MixedRadix.encode, MixedRadix.encode,
          ih found within, prod_set_one (show shape[dimension]? = some size from found)]

/-- An index without the dimension has one coordinate less. -/
theorem length_of_within_eraseIdx (inside : dimension < shape.length)
    (within : MixedRadix.Within (shape.eraseIdx dimension) index) :
    index.length + 1 = shape.length := by
  have length := within.length_eq
  rw [List.length_eraseIdx_of_lt inside] at length
  omega

/-- Shifting along the dimension moves the coordinate of the dimension only. -/
theorem shift_insertIdx {rank coordinate : Nat} (length : index.length + 1 = rank)
    (below : dimension < rank) :
    shift ((List.replicate rank 0).set dimension position) (index.insertIdx dimension coordinate) =
      index.insertIdx dimension (position + coordinate) := by
  have same : ∀ others : List Nat, List.zipWith (· + ·) (List.replicate others.length 0) others =
      others := by
    intro others
    induction others with
    | nil => rfl
    | cons first others ih =>
      rw [List.length_cons, List.replicate_succ, List.zipWith_cons_cons, ih, Nat.zero_add]
  subst length
  rw [shift]
  induction dimension generalizing index with
  | zero =>
    rw [List.insertIdx_zero, List.insertIdx_zero, List.replicate_succ, List.set_cons_zero,
      List.zipWith_cons_cons, same]
  | succ dimension ih =>
    cases index with
    | nil =>
      rw [List.length_nil] at below
      omega
    | cons first index =>
      rw [List.insertIdx_succ_cons, List.insertIdx_succ_cons, List.length_cons,
        List.replicate_succ, List.set_cons_succ, List.zipWith_cons_cons, Nat.zero_add,
        ih (by rw [List.length_cons] at below; omega)]

/-- A slice at a position of the dimension begins there, and at the beginning of the others. -/
theorem clampedStarts_set (found : shape[dimension]? = some size) (below : position < size) :
    clampedStarts shape (shape.set dimension 1)
        ((List.replicate shape.length 0).set dimension (position : Int)) =
      (List.replicate shape.length 0).set dimension position := by
  -- A slice with all of each dimension begins at its beginning.
  have whole : ∀ others : List Nat, clampedStarts others others (List.replicate others.length 0) =
      List.replicate others.length 0 := by
    intro others
    induction others with
    | nil => rfl
    | cons first others ih =>
      rw [List.length_cons, List.replicate_succ, List.replicate_succ, clampedStarts, ih,
        List.cons.injEq]
      exact ⟨by omega, rfl⟩
  induction dimension generalizing shape with
  | zero =>
    cases shape with
    | nil => cases found
    | cons first shape =>
      cases found
      rw [List.length_cons, List.replicate_succ, List.replicate_succ, List.set_cons_zero,
        List.set_cons_zero, List.set_cons_zero, clampedStarts, whole, List.cons.injEq]
      exact ⟨by omega, rfl⟩
  | succ dimension ih =>
    cases shape with
    | nil => cases found
    | cons first shape =>
      rw [List.length_cons, List.replicate_succ, List.replicate_succ, List.set_cons_succ,
        List.set_cons_succ, List.set_cons_succ, clampedStarts, ih found, List.cons.injEq]
      exact ⟨by omega, rfl⟩

/-- A slice with one position of a dimension that has any fits. -/
theorem fits_set_one (found : shape[dimension]? = some size) (positive : 0 < size) :
    List.Forall₂ (· ≤ ·) (shape.set dimension 1) shape := by
  have whole : ∀ others : List Nat, List.Forall₂ (· ≤ ·) others others :=
    fun others => List.forall₂_same.mpr fun _ _ => Nat.le_refl _
  induction dimension generalizing shape with
  | zero =>
    cases shape with
    | nil => cases found
    | cons first shape =>
      cases found
      exact .cons positive (whole shape)
  | succ dimension ih =>
    cases shape with
    | nil => cases found
    | cons first shape => exact .cons (Nat.le_refl _) (ih found)

end Positions

section Scalars

variable {shape : Sizes} {dimension : Nat} {position : BitVec 64}

/-- A scalar holds the number that it was made of. -/
theorem scalar_indexScalar (value : BitVec 64) :
    (indexScalar value).scalar Element.signExtended = value.toInt := by
  rfl

/-- The start indices of a slice are scalars. -/
theorem startScalars_startScalars (small : ∀ size ∈ shape, size < 2 ^ 63) :
    StartScalars shape (startScalars shape.length dimension position) := by
  have scalar : ∀ tensor ∈ startScalars shape.length dimension position,
      ∃ value, tensor = indexScalar value := by
    intro tensor listed
    rcases List.mem_or_eq_of_mem_set listed with replicated | rfl
    · exact ⟨0, (List.mem_replicate.mp replicated).2⟩
    · exact ⟨position, rfl⟩
  refine ⟨by rw [startScalars, List.length_set, List.length_replicate], fun tensor listed => ?_,
    fun tensor listed => ?_, small⟩
  · obtain ⟨value, rfl⟩ := scalar tensor listed
    rfl
  · obtain ⟨value, rfl⟩ := scalar tensor listed
    rfl

/-- The start indices of a slice hold the position, and zeros. -/
theorem startScalars_values {rank : Nat} :
    (startScalars rank dimension position).map (TypedTensor.scalar Element.signExtended) =
      (List.replicate rank 0).set dimension position.toInt := by
  rw [startScalars, List.map_set, List.map_replicate, scalar_indexScalar, scalar_indexScalar]
  rfl

end Scalars

namespace Tensor

variable {α : Type} {tensor update : Tensor α} {dimension size position : Nat} {start : BitVec 64}

/-- The slice of the tensor at a position along a dimension, without the dimension. -/
def slab (tensor : Tensor α) (dimension position : Nat) : Except Failure (Tensor α) :=
  build (tensor.shape.eraseIdx dimension) fun index =>
    tensor.get (index.insertIdx dimension position)

/-- There is a slice at each position of the dimension. -/
theorem slab_eq (found : tensor.shape[dimension]? = some size) (below : position < size) :
    ∃ slab, tensor.slab dimension position = .ok slab ∧
      slab.shape = tensor.shape.eraseIdx dimension ∧
      ∀ index, MixedRadix.Within (tensor.shape.eraseIdx dimension) index →
        slab.get index = tensor.get (index.insertIdx dimension position) := by
  obtain ⟨slab, built⟩ := build_eq_ok fun index within => by
    obtain ⟨element, got, -⟩ := get_eq (within_insertIdx found below within)
    exact ⟨element, got⟩
  exact ⟨slab, built, build_spec built⟩

/-- The slice at a position is the tensor that has its elements. -/
theorem slab_eq_iff (found : tensor.shape[dimension]? = some size) (below : position < size)
    {slab : Tensor α} (shape : slab.shape = tensor.shape.eraseIdx dimension) :
    tensor.slab dimension position = .ok slab ↔
      ∀ index, MixedRadix.Within (tensor.shape.eraseIdx dimension) index →
        slab.get index = tensor.get (index.insertIdx dimension position) := by
  obtain ⟨own, taken, ownShape, elements⟩ := slab_eq found below
  rw [taken, Except.ok.injEq]
  constructor
  · rintro rfl
    exact elements
  · intro same
    refine ext_get (ownShape.trans shape.symm) fun index within => ?_
    rw [ownShape] at within
    rw [elements index within, same index within]

/-- The slice of one position that a dynamic slice takes, reshaped, is the slice without the
dimension. -/
theorem dynamicSliceOp_slab (small : ∀ size ∈ tensor.shape, size < 2 ^ 63)
    (found : tensor.shape[dimension]? = some size) (below : position < size)
    (same : start.toInt = position) :
    ∃ slice slab, Stablehlo.dynamicSliceOp tensor
        ((startScalars tensor.shape.length dimension start).map TypedTensor.elements)
        ((tensor.shape.set dimension 1).map Nat.cast) (tensor.shape.set dimension 1) = .ok slice ∧
      slice.reshapeOp (tensor.shape.eraseIdx dimension) = .ok slab ∧
      tensor.slab dimension position = .ok slab ∧
      slab.shape = tensor.shape.eraseIdx dimension := by
  obtain ⟨slice, sliced, sliceShape, holds⟩ := (startScalars_startScalars small).dynamicSliceOp_eq
    (fits_set_one found (Nat.lt_of_le_of_lt (Nat.zero_le _) below)) rfl
  rw [startScalars_values, same, clampedStarts_set found below] at holds
  have count : slice.shape.prod = (tensor.shape.eraseIdx dimension).prod := by
    rw [sliceShape, prod_set_one found]
  have reshaped := reshapeOp_eq slice count
  have within_one : ∀ index, MixedRadix.Within (tensor.shape.eraseIdx dimension) index →
      MixedRadix.Within slice.shape (index.insertIdx dimension 0) := by
    intro index within
    rw [sliceShape]
    obtain ⟨inside, _⟩ := List.getElem?_eq_some_iff.mp found
    refine within_insertIdx (List.getElem?_set_self inside) Nat.one_pos ?_
    rwa [List.eraseIdx_set_eq]
  refine ⟨slice, _, sliced, reshaped, (slab_eq_iff found below rfl).mpr fun index within => ?_, rfl⟩
  rw [get_reshapeOp count reshaped within (within_one index within)
    (by rw [sliceShape, encode_insertIdx found within]), (holds _ (within_one index within)).2]
  obtain ⟨inside, _⟩ := List.getElem?_eq_some_iff.mp found
  -- The only position of the slice is shifted to the one it was taken at.
  rw [shift_insertIdx (length_of_within_eraseIdx inside within) inside, Nat.add_zero]

/-- An update at one position replaces the slice there, and leaves the others as they are. -/
theorem dynamicUpdateSliceOp_slab (small : ∀ size ∈ tensor.shape, size < 2 ^ 63)
    (found : tensor.shape[dimension]? = some size) (below : position < size)
    (same : start.toInt = position) (updateShape : update.shape = tensor.shape.eraseIdx dimension) :
    ∃ reshaped updated, update.reshapeOp (tensor.shape.set dimension 1) = .ok reshaped ∧
      dynamicUpdateSliceOp tensor reshaped
        ((startScalars tensor.shape.length dimension start).map TypedTensor.elements) tensor.shape =
          .ok updated ∧
      updated.shape = tensor.shape ∧ updated.slab dimension position = .ok update ∧
      ∀ other, other < size → other ≠ position →
        updated.slab dimension other = tensor.slab dimension other := by
  have count : update.shape.prod = (tensor.shape.set dimension 1).prod := by
    rw [updateShape, prod_set_one found]
  obtain ⟨inside, _⟩ := List.getElem?_eq_some_iff.mp found
  have unit := List.getElem?_set_self (a := 1) inside
  obtain ⟨reshaped, reshapes, reshapedShape⟩ : ∃ reshaped,
      update.reshapeOp (tensor.shape.set dimension 1) = .ok reshaped ∧
        reshaped.shape = tensor.shape.set dimension 1 := ⟨_, reshapeOp_eq update count, rfl⟩
  have fits : List.Forall₂ (· ≤ ·) reshaped.shape tensor.shape :=
    reshapedShape ▸ fits_set_one found (Nat.lt_of_le_of_lt (Nat.zero_le _) below)
  obtain ⟨updated, updates, updatedShape, holds, others⟩ :=
    (@startScalars_startScalars tensor.shape dimension start small).dynamicUpdateSliceOp_eq fits
      (show tensor.shape = tensor.shape from rfl)
  rw [reshapedShape, startScalars_values, same, clampedStarts_set found below] at holds others
  have updatedFound : updated.shape[dimension]? = some size := by rw [updatedShape, found]
  -- The only coordinate that the update has along the dimension.
  have only : ∀ index, MixedRadix.Within (tensor.shape.eraseIdx dimension) index →
      MixedRadix.Within reshaped.shape (index.insertIdx dimension 0) := by
    intro index within
    rw [reshapedShape]
    exact within_insertIdx unit Nat.one_pos (by rwa [List.eraseIdx_set_eq])
  refine ⟨reshaped, updated, reshapes, updates, updatedShape, ?_, fun other otherBelow apart => ?_⟩
  · refine (slab_eq_iff updatedFound below (by rw [updateShape, updatedShape])).mpr
      fun index within => ?_
    rw [updatedShape] at within
    have inner := holds (index.insertIdx dimension 0) (only index within)
    rw [shift_insertIdx (length_of_within_eraseIdx inside within) inside, Nat.add_zero] at inner
    rw [← inner.2]
    refine (get_reshapeOp count reshapes (reshapedShape ▸ only index within)
      (updateShape ▸ within) ?_).symm
    rw [updateShape, encode_insertIdx found within]
  · obtain ⟨own, taken, ownShape, elements⟩ := slab_eq found otherBelow
    rw [taken]
    refine (slab_eq_iff updatedFound otherBelow (by rw [ownShape, updatedShape])).mpr
      fun index within => ?_
    rw [updatedShape] at within
    rw [elements index within]
    refine (others _ (within_insertIdx found otherBelow within)
      fun inner innerWithin meets => ?_).symm
    -- An index of the update is shifted to the position of the update.
    obtain ⟨coordinate, rest, first, restWithin, rfl⟩ := exists_insertIdx unit innerWithin
    rw [List.eraseIdx_set_eq] at restWithin
    have restLength := length_of_within_eraseIdx inside restWithin
    have length := length_of_within_eraseIdx inside within
    rw [shift_insertIdx restLength inside] at meets
    have coordinates := congrArg (·[dimension]?) meets
    simp only [List.getElem?_insertIdx_self] at coordinates
    rw [if_pos (by omega), if_pos (by omega), Option.some.injEq] at coordinates
    omega

end Tensor

end Stablehlo
