import Stablehlo.Dialect.Gather
import Stablehlo.Dialect.ReducerShape

/-! The shapes of dynamic slices and of their updates. -/

namespace Stablehlo

/-- All tensors have the element type of the first one, but for the precision of floats. -/
def allHaveSameElType : List RankedTensorType → Bool
  | [] => true
  | first :: others => others.all fun other =>
    tensorsHaveSameElType first.toType other.toType true

/-- Check the size of a dynamic slice along a dimension of the operand. -/
def checkDynamicSliceSize (operandShape : List Int64) (sliceSize : Int64) (i : Nat) :
    Except InferenceFailure Unit := do
  require (decide (0 ≤ sliceSize.toInt)) s!"has negative size index to dynamic slice: {sliceSize}"
  let dimSize ← readEntry operandShape i
  require (isDynamicDimSize dimSize || decide (sliceSize.toInt ≤ dimSize.toInt))
    s!"has slice size {sliceSize} greater than dimension size {dimSize} in dimension {i} of operand"

/-- Infer the type of a dynamic slice. -/
def inferDynamicSliceOp (operandType : RankedTensorType)
    (startIndicesTypes : List RankedTensorType) (sliceSizes : List Int64) :
    Except InferenceFailure ShapedTypeComponents := do
  let numSliceSizes := sliceSizes.length
  let numStartIndices := startIndicesTypes.length
  require (numStartIndices == numSliceSizes)
    (s!"has mismatched number of slice sizes ({numSliceSizes}) and number of start indices " ++
      s!"({numStartIndices})")
  require (operandType.rank == numStartIndices)
    (s!"has mismatched number of start indices ({numStartIndices}) and the rank of operand " ++
      s!"({operandType.rank})")
  require (allHaveSameElType startIndicesTypes) "start indices must have same element type"
  sliceSizes.zipIdx.forM fun (sliceSize, i) => checkDynamicSliceSize operandType.shape sliceSize i
  .ok { dims := sliceSizes, elementType := some operandType.elementType, encoding := none }

/-- Check the size of an update along a dimension of the operand. -/
def checkUpdateDim (operandDim updateDim : Int64) (index : Nat) : Except InferenceFailure Unit :=
  if isDynamicDimSize updateDim then
    .ok ()
  else if !isDynamicDimSize operandDim then
    require (!(decide (updateDim.toInt < 0) || decide (updateDim.toInt > operandDim.toInt)))
      (s!"expects size at dimension {index} of update to be in range [0, {operandDim}]. Got: " ++
        s!"{updateDim}.")
  else
    require (!decide (updateDim.toInt < 0))
      s!"expects size at dimension {index} of update to be non-negative. Got: {updateDim}."

/-- Infer the type of a tensor whose slice is updated. -/
def inferDynamicUpdateSliceOp (operandType updateType : RankedTensorType)
    (startIndicesTypes : List RankedTensorType) : Except InferenceFailure ShapedTypeComponents := do
  require (updateType.rank == operandType.rank)
    (s!"update rank does not match operand rank: {updateType.rank} vs {operandType.rank}.")
  require (startIndicesTypes.length == operandType.rank)
    (s!"expects number of start_indices to match operand rank: {startIndicesTypes.length} vs " ++
      s!"{operandType.rank}.")
  require (allHaveSameElType startIndicesTypes) "start indices must have same element type"
  (operandType.shape.zip updateType.shape).zipIdx.forM fun ((operandDim, updateDim), index) =>
    checkUpdateDim operandDim updateDim index
  .ok { dims := operandType.shape, elementType := some operandType.elementType,
        encoding := operandType.encoding }

section Accepted

variable {operandType updateType : RankedTensorType} {startIndicesTypes : List RankedTensorType}
  {sliceSizes : List Int64} {components : ShapedTypeComponents}

/-- What is made sure of by inferring the type of a dynamic slice. -/
theorem inferDynamicSliceOp_spec
    (inferred : inferDynamicSliceOp operandType startIndicesTypes sliceSizes = .ok components) :
    startIndicesTypes.length = operandType.shape.length ∧
      sliceSizes.length = operandType.shape.length ∧
      (∀ (i : Nat) (size : Int64), sliceSizes[i]? = some size → 0 ≤ size.toInt ∧
        ∃ dim, operandType.shape[i]? = some dim ∧
          (isDynamicDimSize dim = true ∨ size.toInt ≤ dim.toInt)) ∧
      components.dims = sliceSizes := by
  unfold inferDynamicSliceOp at inferred
  simp only [Fallible.check_bind_eq_ok, require_eq_ok, Fallible.forM_eq_ok_iff, beq_iff_eq,
    RankedTensorType.rank] at inferred
  obtain ⟨count, rank, -, sizes, same⟩ := inferred
  cases same
  refine ⟨rank.symm, by omega, fun i size found => ?_, rfl⟩
  have checked := sizes (size, i) (List.mem_zipIdx_iff_getElem?.mpr found)
  unfold checkDynamicSliceSize at checked
  obtain ⟨nonneg, rest⟩ := Fallible.check_bind_eq_ok.mp checked
  obtain ⟨dim, read, most⟩ := Fallible.bind_eq_ok.mp rest
  rw [require_eq_ok, decide_eq_true_eq] at nonneg
  rw [require_eq_ok, Bool.or_eq_true, decide_eq_true_eq] at most
  exact ⟨nonneg, dim, readEntry_eq_ok.mp read, most⟩

/-- The type of a dynamic slice that fits is inferred. -/
theorem inferDynamicSliceOp_eq_ok (count : startIndicesTypes.length = operandType.shape.length)
    (length : sliceSizes.length = operandType.shape.length)
    (same : allHaveSameElType startIndicesTypes = true)
    (sizes : ∀ (i : Nat) (size : Int64), sliceSizes[i]? = some size → 0 ≤ size.toInt ∧
      ∃ dim, operandType.shape[i]? = some dim ∧
        (isDynamicDimSize dim = true ∨ size.toInt ≤ dim.toInt)) :
    inferDynamicSliceOp operandType startIndicesTypes sliceSizes =
      .ok { dims := sliceSizes, elementType := some operandType.elementType, encoding := none } := by
  unfold inferDynamicSliceOp
  simp only [Fallible.check_bind_eq_ok, require_eq_ok, Fallible.forM_eq_ok_iff, beq_iff_eq,
    RankedTensorType.rank]
  refine ⟨by omega, by omega, same, fun item listed => ?_, trivial⟩
  obtain ⟨nonneg, dim, found, most⟩ := sizes item.2 item.1 (List.mem_zipIdx_iff_getElem?.mp listed)
  unfold checkDynamicSliceSize
  refine Fallible.check_bind_eq_ok.mpr ⟨require_eq_ok.mpr (by simpa using nonneg), ?_⟩
  refine Fallible.bind_eq_ok.mpr ⟨dim, readEntry_eq_ok.mpr found, require_eq_ok.mpr ?_⟩
  simpa using most

/-- What is made sure of by inferring the type of a tensor whose slice is updated. -/
theorem inferDynamicUpdateSliceOp_spec
    (inferred : inferDynamicUpdateSliceOp operandType updateType startIndicesTypes =
      .ok components) :
    startIndicesTypes.length = operandType.shape.length ∧
      updateType.shape.length = operandType.shape.length ∧
      (∀ (i : Nat) (operandDim updateDim : Int64), operandType.shape[i]? = some operandDim →
        updateType.shape[i]? = some updateDim → isDynamicDimSize updateDim = true ∨
          0 ≤ updateDim.toInt ∧
            (isDynamicDimSize operandDim = true ∨ updateDim.toInt ≤ operandDim.toInt)) ∧
      components.dims = operandType.shape := by
  unfold inferDynamicUpdateSliceOp at inferred
  simp only [Fallible.check_bind_eq_ok, require_eq_ok, Fallible.forM_eq_ok_iff, beq_iff_eq,
    RankedTensorType.rank] at inferred
  obtain ⟨updateRank, rank, -, sizes, same⟩ := inferred
  cases same
  refine ⟨rank, updateRank, fun i operandDim updateDim operandFound updateFound => ?_, rfl⟩
  have pair : (operandType.shape.zip updateType.shape)[i]? = some (operandDim, updateDim) :=
    List.getElem?_zip_eq_some.mpr ⟨operandFound, updateFound⟩
  have checked := sizes (_, i) (List.mem_zipIdx_iff_getElem?.mpr pair)
  unfold checkUpdateDim at checked
  -- A dynamic update fits; another one is compared with the operand if that is static.
  split at checked
  · next dynamic => exact .inl dynamic
  · right
    split at checked
    · rw [require_eq_ok, Bool.not_eq_true', Bool.or_eq_false_iff, decide_eq_false_iff_not,
        decide_eq_false_iff_not] at checked
      dsimp only at checked
      omega
    · next dynamic =>
      rw [require_eq_ok, Bool.not_eq_true', decide_eq_false_iff_not] at checked
      dsimp only at checked
      exact ⟨by omega, .inl (by simpa using dynamic)⟩

/-- The type of a tensor is inferred when its slice is updated by one that fits. -/
theorem inferDynamicUpdateSliceOp_eq_ok
    (count : startIndicesTypes.length = operandType.shape.length)
    (length : updateType.shape.length = operandType.shape.length)
    (same : allHaveSameElType startIndicesTypes = true)
    (sizes : ∀ (i : Nat) (operandDim updateDim : Int64), operandType.shape[i]? = some operandDim →
      updateType.shape[i]? = some updateDim → isDynamicDimSize operandDim = false ∧
        0 ≤ updateDim.toInt ∧ updateDim.toInt ≤ operandDim.toInt) :
    inferDynamicUpdateSliceOp operandType updateType startIndicesTypes =
      .ok { dims := operandType.shape, elementType := some operandType.elementType,
            encoding := operandType.encoding } := by
  unfold inferDynamicUpdateSliceOp
  simp only [Fallible.check_bind_eq_ok, require_eq_ok, Fallible.forM_eq_ok_iff, beq_iff_eq,
    RankedTensorType.rank]
  refine ⟨by omega, by omega, same, ?_, trivial⟩
  rintro ⟨⟨operandDim, updateDim⟩, index⟩ listed
  obtain ⟨operandFound, updateFound⟩ :=
    List.getElem?_zip_eq_some.mp (List.mem_zipIdx_iff_getElem?.mp listed)
  obtain ⟨static, nonneg, most⟩ := sizes index operandDim updateDim operandFound updateFound
  unfold checkUpdateDim
  split
  · rfl
  · rw [if_pos (by simp [static]), require_eq_ok, Bool.not_eq_true', Bool.or_eq_false_iff,
      decide_eq_false_iff_not, decide_eq_false_iff_not]
    exact ⟨Int.not_lt.mpr nonneg, Int.not_lt.mpr most⟩

end Accepted

end Stablehlo
