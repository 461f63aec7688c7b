import Mathlib.Algebra.BigOperators.Group.List.Lemmas
import Mathlib.Algebra.BigOperators.Ring.List
import Mathlib.Algebra.Order.GroupWithZero.Basic
import Mathlib.Algebra.Order.Ring.Nat
import Mathlib.Data.List.GetD
import Stablehlo.Reference.Reshape
import Stablehlo.Reference.Ops
import Stablehlo.Reference.TriangularSolve
import Stablehlo.Support.Transposition

/-! Broadcasts and transposes: which element of the operand each element of the result is. -/

namespace Stablehlo

/-- The dimensions of the operand are different ones of the result, and those of more than one
position keep their sizes. -/
structure BroadcastFits (shape : Sizes) (broadcastDimensions : List Nat) (resultShape : Sizes) :
    Prop where
  unique : broadcastDimensions.Nodup
  sizes : List.Forall₂ (fun size dimension => dimension < resultShape.length ∧
    (size = 1 ∨ size = resultShape.getD dimension 1)) shape broadcastDimensions

/-- Every dimension of the operand is one of the result. -/
theorem BroadcastFits.inside {shape resultShape : Sizes} {broadcastDimensions : List Nat}
    (fits : BroadcastFits shape broadcastDimensions resultShape) :
    ∀ dimension ∈ broadcastDimensions, dimension < resultShape.length := by
  intro dimension listed
  obtain ⟨rank, sizes⟩ := List.forall₂_iff_get.mp fits.sizes
  obtain ⟨place, below, rfl⟩ := List.mem_iff_getElem.mp listed
  exact (sizes place (by omega) below).1

/-- The index of the operand that an index of the result is read at. -/
def broadcastIndex (shape : Sizes) (broadcastDimensions : List Nat) (resultIndex : Index) : Index :=
  List.zipWith (fun size dimension => if size = 1 then 0 else resultIndex.getD dimension 0) shape
    broadcastDimensions

section Broadcasts

variable {shape resultShape : Sizes} {broadcastDimensions : List Nat}

/-- A result index is read within the operand. -/
theorem BroadcastFits.broadcastIndex_within
    (fits : BroadcastFits shape broadcastDimensions resultShape) {resultIndex : Index}
    (within : MixedRadix.Within resultShape resultIndex) :
    MixedRadix.Within shape (broadcastIndex shape broadcastDimensions resultIndex) := by
  obtain ⟨-, sizes⟩ := fits
  unfold broadcastIndex
  induction sizes with
  | nil => exact .nil
  | @cons size dimension shape dimensions here _ ih =>
    refine .cons ?_ ih
    show (if size = 1 then 0 else resultIndex.getD dimension 0) < size
    obtain ⟨inside, unit | same⟩ := here
    · -- The only position of a dimension of size one.
      rw [if_pos unit]
      omega
    · have below := MixedRadix.getD_lt within inside
      split <;> omega

/-- Every element of the result is the one of the operand at the index that is read. -/
theorem Tensor.broadcastInDimOp_spec {α : Type} {operand : Tensor α}
    (fits : BroadcastFits operand.shape broadcastDimensions resultShape) :
    ∃ result, operand.broadcastInDimOp broadcastDimensions resultShape = .ok result ∧
      result.shape = resultShape ∧
      ∀ resultIndex, MixedRadix.Within resultShape resultIndex → result.get resultIndex =
        operand.get (broadcastIndex operand.shape broadcastDimensions resultIndex) := by
  -- The loop over the dimensions of the operand computes the index.
  have each {resultIndex : Index} (within : MixedRadix.Within resultShape resultIndex) :
      List.Forall₂ (fun dimension coordinate =>
        if operand.shape[dimension]? = some 1 then coordinate = 0
        else broadcastDimensions[dimension]?.bind (resultIndex[·]?) = some coordinate)
          (List.range operand.shape.length)
          (broadcastIndex operand.shape broadcastDimensions resultIndex) := by
    obtain ⟨count, sizes⟩ := List.forall₂_iff_get.mp fits.sizes
    rw [List.forall₂_iff_get]
    refine ⟨by simp [broadcastIndex, ← count], fun place below other => ?_⟩
    have inside : place < operand.shape.length := by simpa using below
    obtain ⟨dimension, -⟩ := sizes place inside (by omega)
    simp only [List.get_eq_getElem, List.getElem_range, broadcastIndex, List.getElem_zipWith,
      List.getElem?_eq_getElem inside, Option.some.injEq] at dimension ⊢
    split
    · rfl
    · have rank := within.length_eq
      rw [List.getElem?_eq_getElem (show place < broadcastDimensions.length by omega),
        Option.bind_some, List.getElem?_eq_getElem (by omega)]
      simp [List.getD_eq_getElem?_getD, List.getElem?_eq_getElem (show
        broadcastDimensions[place] < resultIndex.length by omega)]
  have computable : ∃ result,
      operand.broadcastInDimOp broadcastDimensions resultShape = .ok result := by
    apply build_eq_ok
    intro resultIndex within
    obtain ⟨element, got, -⟩ := get_eq (fits.broadcastIndex_within within)
    exact ⟨element, (congrArg (· >>= operand.get) (mapM_operandIndex (each within))).trans got⟩
  obtain ⟨result, built⟩ := computable
  obtain ⟨resultShaped, elements⟩ := build_spec built
  refine ⟨result, built, resultShaped, fun resultIndex within => ?_⟩
  rw [elements resultIndex within]
  exact congrArg (· >>= operand.get) (mapM_operandIndex (each within))

/-- Sizes up to others with the same product, which is not zero, are the same. -/
theorem eq_of_prod_eq {sizes bounds : List Nat} (below : List.Forall₂ (· ≤ ·) sizes bounds)
    (positive : 0 < sizes.prod) (same : sizes.prod = bounds.prod) : sizes = bounds := by
  induction below with
  | nil => rfl
  | @cons size bound sizes bounds le rest ih =>
    rw [List.prod_cons, List.prod_cons] at same
    rw [List.prod_cons] at positive
    have product : sizes.prod ≤ bounds.prod := rest.prod_le_prod'
    have first : 0 < size := Nat.pos_of_mul_pos_right positive
    have others : 0 < sizes.prod := Nat.pos_of_mul_pos_left positive
    obtain ⟨head, tail⟩ :=
      (mul_eq_mul_iff_eq_and_eq_of_pos le product first (by omega)).mp same
    rw [head, ih others tail]

/-- As many elements, and at least one: the dimensions of the operand keep their sizes, and the
others have one position. -/
theorem BroadcastFits.sizes_eq (fits : BroadcastFits shape broadcastDimensions resultShape)
    (count : shape.prod = resultShape.prod) (positive : 0 < shape.prod) :
    shape = broadcastDimensions.map (resultShape.getD · 1) ∧
      ∀ dimension < resultShape.length, dimension ∉ broadcastDimensions →
        resultShape.getD dimension 1 = 1 := by
  have inside := fits.inside
  obtain ⟨unique, sizes⟩ := fits
  have rank := sizes.length_eq
  -- The dimensions of the result, those of the operand first.
  let others := (List.range resultShape.length).filter (· ∉ broadcastDimensions)
  have split : (broadcastDimensions ++ others).Perm (List.range resultShape.length) := by
    refine (List.perm_ext_iff_of_nodup ?_ List.nodup_range).mpr fun dimension => ?_
    · refine unique.append (List.nodup_range.filter _) ?_
      intro dimension listed other
      simpa [listed] using List.of_mem_filter other
    · simp only [others, List.mem_append, List.mem_filter, List.mem_range, decide_eq_true_eq]
      refine ⟨fun listed => ?_, fun below => ?_⟩
      · rcases listed with listed | ⟨below, -⟩
        · exact inside dimension listed
        · exact below
      · by_cases listed : dimension ∈ broadcastDimensions
        · exact .inl listed
        · exact .inr ⟨below, listed⟩
  have product : (broadcastDimensions.map (resultShape.getD · 1)).prod *
      (others.map (resultShape.getD · 1)).prod = shape.prod := by
    rw [← List.prod_append, ← List.map_append, (split.map _).prod_eq, MixedRadix.map_getD_range, count]
  have otherPositive : 0 < (others.map (resultShape.getD · 1)).prod :=
    Nat.pos_of_mul_pos_left (product ▸ positive)
  -- No size of the operand is above that of its dimension.
  have below : List.Forall₂ (· ≤ ·) shape (broadcastDimensions.map (resultShape.getD · 1)) := by
    rw [List.forall₂_map_right_iff]
    have sizePositive : ∀ dimension ∈ broadcastDimensions, 0 < resultShape.getD dimension 1 := by
      intro dimension listed
      refine Nat.pos_of_ne_zero fun zero => ?_
      have empty : (0 : Nat) ∈ broadcastDimensions.map (resultShape.getD · 1) :=
        List.mem_map.mpr ⟨dimension, listed, zero⟩
      rw [← product, List.prod_eq_zero empty, Nat.zero_mul] at positive
      omega
    refine List.forall₂_iff_get.mpr ⟨rank, fun place first second => ?_⟩
    have size := ((List.forall₂_iff_get.mp sizes).2 place first second).2
    have dimension := sizePositive _ (List.get_mem broadcastDimensions ⟨place, second⟩)
    omega
  have atMost := below.prod_le_prod'
  have one : (others.map (resultShape.getD · 1)).prod = 1 := by
    have most := Nat.le_of_mul_le_mul_left (show
      (broadcastDimensions.map (resultShape.getD · 1)).prod *
        (others.map (resultShape.getD · 1)).prod ≤
      (broadcastDimensions.map (resultShape.getD · 1)).prod * 1 by omega) (by omega)
    omega
  rw [one, Nat.mul_one] at product
  refine ⟨eq_of_prod_eq below positive product.symm, fun dimension bound missing => ?_⟩
  -- A size divides the product, which is one.
  have listed : dimension ∈ others :=
    List.mem_filter.mpr ⟨List.mem_range.mpr bound, by simpa using missing⟩
  have divides : resultShape.getD dimension 1 ∣ (others.map (resultShape.getD · 1)).prod :=
    List.dvd_prod (List.mem_map.mpr ⟨dimension, listed, rfl⟩)
  rw [one] at divides
  exact Nat.dvd_one.mp divides

/-- Where the dimensions keep their sizes, an index is read at its coordinates along them. -/
theorem broadcastIndex_eq (same : shape = broadcastDimensions.map (resultShape.getD · 1))
    (inside : ∀ dimension ∈ broadcastDimensions, dimension < resultShape.length)
    {resultIndex : Index} (within : MixedRadix.Within resultShape resultIndex) :
    broadcastIndex shape broadcastDimensions resultIndex =
      broadcastDimensions.map (resultIndex.getD · 0) := by
  subst same
  rw [broadcastIndex, List.zipWith_map_left, List.zipWith_self]
  refine List.map_congr_left fun dimension listed => ?_
  have below := MixedRadix.getD_lt within (inside dimension listed)
  split <;> omega

/-- Sorted dimensions that keep all elements: the broadcast is a reshape. -/
theorem Tensor.broadcastInDimOp_eq_reshapeOp {α : Type} {operand : Tensor α}
    (fits : BroadcastFits operand.shape broadcastDimensions resultShape)
    (sorted : broadcastDimensions.Pairwise (· ≤ ·)) (count : operand.shape.prod = resultShape.prod) :
    ∃ result, operand.broadcastInDimOp broadcastDimensions resultShape = .ok result ∧
      operand.reshapeOp resultShape = .ok result := by
  obtain ⟨result, broadcast, shape, elements⟩ := Tensor.broadcastInDimOp_spec fits
  refine ⟨result, broadcast, ?_⟩
  have reshaped := Tensor.reshapeOp_eq operand count
  rw [reshaped]
  congr 1
  refine Tensor.ext_get shape.symm fun index within => ?_
  rw [elements index within]
  have operandWithin := fits.broadcastIndex_within within
  apply Tensor.get_reshapeOp count reshaped within operandWithin
  -- There is an index, so that the sizes are those of the result.
  have positive : 0 < resultShape.prod := Nat.zero_lt_of_lt (MixedRadix.encode_lt within)
  obtain ⟨same, unit⟩ := fits.sizes_eq count (by omega)
  rw [broadcastIndex_eq same fits.inside within]
  have rank := within.length_eq
  have inOrder : broadcastDimensions.filter (resultShape.getD · 1 != 1) =
      (List.range resultShape.length).filter (resultShape.getD · 1 != 1) := by
    refine List.Perm.eq_of_pairwise' (sorted.filter _) (List.pairwise_le_range.filter _) ?_
    refine (List.perm_ext_iff_of_nodup (fits.unique.filter _) (List.nodup_range.filter _)).mpr
      fun dimension => ?_
    simp only [List.mem_filter, List.mem_range]
    refine and_congr_left fun several => ⟨fits.inside dimension, fun below => ?_⟩
    -- A dimension that is not one of the operand has one position.
    by_contra missing
    rw [unit dimension below missing] at several
    cases several
  have encoded := MixedRadix.encode_eq_of_filter_eq
    (fun dimension listed => MixedRadix.getD_lt within (fits.inside dimension listed))
    (fun dimension listed => MixedRadix.getD_lt within (List.mem_range.mp listed)) inOrder
  rw [MixedRadix.map_getD_range, ← rank, MixedRadix.map_getD_range, ← same] at encoded
  exact encoded

/-- A broadcast of a broadcast looks the dimensions up in both lists. -/
theorem BroadcastFits.trans {middle : Sizes} {outer : List Nat}
    (first : BroadcastFits shape broadcastDimensions middle)
    (second : BroadcastFits middle outer resultShape) :
    BroadcastFits shape (broadcastDimensions.map (outer.getD · 0)) resultShape := by
  have rank := second.sizes.length_eq
  constructor
  · refine (List.nodup_map_iff_inj_on first.unique).mpr fun one listed other otherListed same => ?_
    have below := first.inside one listed
    have otherBelow := first.inside other otherListed
    rw [List.getD_eq_getElem _ _ (by omega), List.getD_eq_getElem _ _ (by omega)] at same
    exact (List.Nodup.getElem_inj_iff second.unique).mp same
  · rw [List.forall₂_map_right_iff]
    refine first.sizes.imp fun size dimension here => ?_
    obtain ⟨below, sizes⟩ := here
    obtain ⟨inside, kept⟩ := (List.forall₂_iff_get.mp second.sizes).2 dimension below (by omega)
    rw [List.getD_eq_getElem _ _ (by omega)]
    rw [List.getD_eq_getElem _ _ below] at sizes
    simp only [List.get_eq_getElem] at inside kept
    -- A size that is neither one nor kept by the first broadcast is kept by none.
    refine ⟨inside, ?_⟩
    omega

/-- The index that both broadcasts read is that of the merged one. -/
theorem broadcastIndex_trans {middle : Sizes} {outer : List Nat}
    (first : BroadcastFits shape broadcastDimensions middle)
    (second : BroadcastFits middle outer resultShape) (index : Index) :
    broadcastIndex shape (broadcastDimensions.map (outer.getD · 0)) index =
      broadcastIndex shape broadcastDimensions (broadcastIndex middle outer index) := by
  have rank := second.sizes.length_eq
  obtain ⟨count, sizes⟩ := List.forall₂_iff_get.mp first.sizes
  unfold broadcastIndex
  apply List.ext_getElem (by simp)
  intro place below other
  have inside : place < shape.length := by
    rw [List.length_zipWith] at other
    omega
  obtain ⟨dimension, kept⟩ := sizes place inside (by omega)
  simp only [List.get_eq_getElem, List.getElem_zipWith, List.getElem_map] at dimension kept ⊢
  by_cases unit : shape[place] = 1
  · rw [if_pos unit, if_pos unit]
  · -- The dimension of the result of the first broadcast has the same size.
    rw [List.getD_eq_getElem _ _ dimension] at kept
    rw [if_neg unit, if_neg unit, List.getD_eq_getElem (List.zipWith _ middle outer) _ (by
      rw [List.length_zipWith]; omega), List.getElem_zipWith, if_neg (by omega),
      List.getD_eq_getElem outer _ (by omega)]

/-- A broadcast of a broadcast is one broadcast. -/
theorem Tensor.broadcastInDimOp_broadcastInDimOp {α : Type} {operand : Tensor α} {middle : Sizes}
    {outer : List Nat} (first : BroadcastFits operand.shape broadcastDimensions middle)
    (second : BroadcastFits middle outer resultShape) :
    ∃ result, (do
        let broadcast ← operand.broadcastInDimOp broadcastDimensions middle
        broadcast.broadcastInDimOp outer resultShape) = .ok result ∧
      operand.broadcastInDimOp (broadcastDimensions.map (outer.getD · 0)) resultShape =
        .ok result := by
  obtain ⟨broadcast, inner, rfl, innerElements⟩ := Tensor.broadcastInDimOp_spec first
  obtain ⟨result, twice, shape, elements⟩ := Tensor.broadcastInDimOp_spec second
  obtain ⟨merged, once, mergedShape, mergedElements⟩ :=
    Tensor.broadcastInDimOp_spec (first.trans second)
  refine ⟨result, by rw [inner, Fallible.ok_bind, twice], ?_⟩
  rw [once]
  congr 1
  refine Tensor.ext_get (mergedShape.trans shape.symm) fun index within => ?_
  rw [mergedShape] at within
  rw [mergedElements index within, elements index within,
    innerElements _ (second.broadcastIndex_within within), broadcastIndex_trans first second]

end Broadcasts

/-- What is looked up in a mapped list is mapped after it was looked up. -/
theorem map_getD_map {items places : List Nat} (inside : ∀ place ∈ places, place < items.length)
    (value : Nat → Nat) (default : Nat) :
    places.map ((items.map value).getD · default) = (places.map (items.getD · 0)).map value := by
  rw [List.map_map]
  refine List.map_congr_left fun place listed => ?_
  simp [inside place listed]

section Transposes

/-- A transposed tensor has the element of an index at the index in the order of the permutation. -/
theorem Tensor.transposeOp_spec {α : Type} (storage : Storage α) {operand : Tensor α} {permutation : List Nat}
    (permuted : permutation.Perm (List.range operand.shape.length)) :
    ∃ result, transposeOp storage operand permutation
        (MixedRadix.reorder operand.shape permutation) = .ok result ∧
      result.shape = MixedRadix.reorder operand.shape permutation ∧
      ∀ operandIndex, MixedRadix.Within operand.shape operandIndex →
        result.get (permutation.map fun axis => operandIndex.getD axis 0) =
          operand.get operandIndex := by
  have allocated := storage.shape_allocate (MixedRadix.reorder operand.shape permutation)
  -- Each index of the operand has a place of its own in the result.
  obtain ⟨result, run, shape, elements, -⟩ := @Tensor.foldlM_set _ _ (fun result operandIndex => do
      let element ← operand.get operandIndex
      result.set (permutation.map fun axis => operandIndex.getD axis 0) element)
    (indexSpace operand.shape) (fun operandIndex => permutation.map fun axis =>
      operandIndex.getD axis 0) operand.get
    (storage.allocate (MixedRadix.reorder operand.shape permutation))
    (fun operandIndex listed => by
      have within := MixedRadix.mem_all.mp listed
      obtain ⟨element, got, -⟩ := get_eq within
      refine ⟨?_, element, got, fun state => ?_⟩
      · rw [allocated]
        exact MixedRadix.reorder_within permuted within
      · rw [got, Fallible.ok_bind])
    (fun operandIndex listed other otherListed same =>
      MixedRadix.map_getD_injective permuted (MixedRadix.mem_all.mp listed).length_eq
        (MixedRadix.mem_all.mp otherListed).length_eq same)
  refine ⟨result, run, shape.trans allocated, fun operandIndex within => ?_⟩
  exact elements operandIndex (MixedRadix.mem_all.mpr within)

/-- Without moving dimensions of more than one position past each other, a transpose is a reshape. -/
theorem Tensor.transposeOp_eq_reshapeOp {α : Type} (storage : Storage α) {operand : Tensor α}
    {permutation : List Nat} (permuted : permutation.Perm (List.range operand.shape.length))
    (inOrder : permutation.filter (operand.shape.getD · 1 != 1) =
      (List.range operand.shape.length).filter (operand.shape.getD · 1 != 1)) :
    ∃ result, transposeOp storage operand permutation
        (MixedRadix.reorder operand.shape permutation) = .ok result ∧
      operand.reshapeOp (MixedRadix.reorder operand.shape permutation) = .ok result := by
  have count : operand.shape.prod = (MixedRadix.reorder operand.shape permutation).prod :=
    (MixedRadix.prod_reorder permuted).symm
  obtain ⟨result, transposed, shape, elements⟩ := Tensor.transposeOp_spec storage permuted
  refine ⟨result, transposed, ?_⟩
  have reshaped := Tensor.reshapeOp_eq operand count
  rw [reshaped]
  congr 1
  refine Tensor.ext_get shape.symm fun resultIndex within => ?_
  -- The index comes from one of the operand with the same place.
  obtain ⟨operandIndex, operandWithin, rfl⟩ := MixedRadix.exists_reordered permuted within
  have rank := operandWithin.length_eq
  rw [elements operandIndex operandWithin]
  refine Tensor.get_reshapeOp count reshaped within operandWithin ?_
  have below : ∀ axis < operand.shape.length,
      operandIndex.getD axis 0 < operand.shape.getD axis 1 :=
    fun axis inside => MixedRadix.getD_lt operandWithin inside
  have same := MixedRadix.encode_eq_of_filter_eq
    (fun axis listed => below axis (List.mem_range.mp (permuted.mem_iff.mp listed)))
    (fun axis listed => below axis (List.mem_range.mp listed)) inOrder
  rw [MixedRadix.map_getD_range, ← rank, MixedRadix.map_getD_range] at same
  exact same.symm

/-- A transpose of a transpose looks the dimensions up in both permutations. -/
theorem Tensor.transposeOp_transposeOp {α : Type} (storage : Storage α) {operand : Tensor α}
    {first second : List Nat} (firstPermuted : first.Perm (List.range operand.shape.length))
    (secondPermuted : second.Perm (List.range operand.shape.length)) :
    ∃ result, (do
        let transposed ← transposeOp storage operand first (MixedRadix.reorder operand.shape first)
        transposeOp storage transposed second
          (MixedRadix.reorder (MixedRadix.reorder operand.shape first) second)) = .ok result ∧
      transposeOp storage operand (second.map (first.getD · 0))
        (MixedRadix.reorder (MixedRadix.reorder operand.shape first) second) = .ok result := by
  have rank : first.length = operand.shape.length := by simpa using firstPermuted.length_eq
  have inside : ∀ place ∈ second, place < first.length := by
    intro place listed
    rw [rank]
    exact List.mem_range.mp (secondPermuted.mem_iff.mp listed)
  -- Both permutations together are one, and the sizes are in its order.
  have permuted := MixedRadix.perm_map_getD firstPermuted secondPermuted
  have sizes : MixedRadix.reorder (MixedRadix.reorder operand.shape first) second =
      MixedRadix.reorder operand.shape (second.map (first.getD · 0)) :=
    map_getD_map inside _ 1
  obtain ⟨middle, transposed, middleShape, middleElements⟩ :=
    Tensor.transposeOp_spec storage firstPermuted
  have again : second.Perm (List.range middle.shape.length) := by
    rw [middleShape, MixedRadix.length_reorder, rank]
    exact secondPermuted
  obtain ⟨result, twice, shape, elements⟩ := Tensor.transposeOp_spec storage again
  obtain ⟨merged, once, mergedShape, mergedElements⟩ := Tensor.transposeOp_spec storage permuted
  rw [middleShape] at twice shape
  rw [← sizes] at once mergedShape
  refine ⟨result, by rw [transposed, Fallible.ok_bind, twice], ?_⟩
  rw [once]
  congr 1
  refine Tensor.ext_get (mergedShape.trans shape.symm) fun index within => ?_
  rw [mergedShape, sizes] at within
  -- The index is that of an element of the operand, moved twice.
  obtain ⟨operandIndex, operandWithin, rfl⟩ := MixedRadix.exists_reordered permuted within
  rw [mergedElements operandIndex operandWithin, ← map_getD_map inside _ 0]
  have moved : MixedRadix.Within middle.shape (first.map (operandIndex.getD · 0)) := by
    rw [middleShape]
    exact MixedRadix.reorder_within firstPermuted operandWithin
  rw [elements _ moved, middleElements operandIndex operandWithin]

/-- In the order of the inverse of the dimensions, the sizes along them are those of the result. -/
theorem reorder_inverse {broadcastDimensions permutation : List Nat} {resultShape : Sizes}
    (inside : ∀ place ∈ permutation, place < broadcastDimensions.length)
    (inverse : permutation.map (broadcastDimensions.getD · 0) = List.range resultShape.length) :
    MixedRadix.reorder (broadcastDimensions.map (resultShape.getD · 1)) permutation =
      resultShape := by
  rw [MixedRadix.reorder, map_getD_map inside, inverse, MixedRadix.map_getD_range]

/-- A broadcast that only orders the dimensions anew is a transpose. -/
theorem Tensor.broadcastInDimOp_eq_transposeOp {α : Type} (storage : Storage α)
    {operand : Tensor α} {broadcastDimensions permutation : List Nat} {resultShape : Sizes}
    (fits : BroadcastFits operand.shape broadcastDimensions resultShape)
    (same : operand.shape = broadcastDimensions.map (resultShape.getD · 1))
    (permuted : permutation.Perm (List.range operand.shape.length))
    (inverse : permutation.map (broadcastDimensions.getD · 0) = List.range resultShape.length) :
    ∃ result, operand.broadcastInDimOp broadcastDimensions resultShape = .ok result ∧
      transposeOp storage operand permutation resultShape = .ok result := by
  have inside : ∀ place ∈ permutation, place < broadcastDimensions.length := by
    intro place listed
    rw [← fits.sizes.length_eq]
    exact List.mem_range.mp (permuted.mem_iff.mp listed)
  -- In the order of the permutation, the sizes are those of the result.
  have sizes : MixedRadix.reorder operand.shape permutation = resultShape := by
    rw [same]
    exact reorder_inverse inside inverse
  obtain ⟨result, broadcast, shape, elements⟩ := Tensor.broadcastInDimOp_spec fits
  obtain ⟨moved, transposed, movedShape, movedElements⟩ := Tensor.transposeOp_spec storage permuted
  rw [sizes] at transposed movedShape
  refine ⟨result, broadcast, ?_⟩
  rw [transposed]
  congr 1
  refine Tensor.ext_get (movedShape.trans shape.symm) fun index within => ?_
  rw [movedShape] at within
  have operandWithin := fits.broadcastIndex_within within
  have read := broadcastIndex_eq same fits.inside within
  have rank := within.length_eq
  have place := movedElements _ operandWithin
  rw [read, map_getD_map inside, inverse, ← rank, MixedRadix.map_getD_range] at place
  rw [place, elements index within, read]

end Transposes

end Stablehlo
