import Stablehlo.Dialect.Gather
import Stablehlo.Dialect.ReducerShape

/-! The verifier of a scatter. -/

namespace Stablehlo

/-- Verify the dimension numbers of a scatter, for one of its inputs. -/
def validateScatterDimensionNumbers (operandShape scatterIndicesShape updateShape : List Int64)
    (dims : ScatterDimensionNumbers) : Except InferenceFailure Unit := do
  let operandRank := operandShape.length
  let windowSize := dims.updateWindowDims.length + dims.insertedWindowDims.length +
    dims.inputBatchingDims.length
  require (operandRank == windowSize)
    (s!"Expects rank-of operand to match size-of('update_window_dims') + " ++
      s!"size-of('inserted_window_dims') + size-of('input_batching_dims') i.e. {windowSize} " ++
      s!"but got {operandRank}.")
  require (isSorted dims.updateWindowDims)
    s!"Expects update_window_dims to be sorted; got: [{interleaveComma dims.updateWindowDims}]."
  require (isUnique dims.updateWindowDims)
    s!"Expects update_window_dims to not repeat; got: [{interleaveComma dims.updateWindowDims}]."
  checkDimsInBounds dims.updateWindowDims updateShape.length "update_window_dims"
    "rank-of('updates')"
  checkDimsDistinct dims.insertedWindowDims dims.inputBatchingDims "inserted_window_dims"
    "input_batching_dims"
  require (isSorted dims.insertedWindowDims)
    (s!"Expects inserted_window_dims to be sorted; got: " ++
      s!"[{interleaveComma dims.insertedWindowDims}].")
  checkDimsInBounds dims.insertedWindowDims operandRank "inserted_window_dims" "rank-of('operand')"
  require (isSorted dims.inputBatchingDims)
    (s!"Expects input_batching_dims to be sorted; got: " ++
      s!"[{interleaveComma dims.inputBatchingDims}].")
  checkDimsInBounds dims.inputBatchingDims operandRank "input_batching_dims" "rank-of('operand')"
  require (isUnique dims.scatterIndicesBatchingDims)
    (s!"Expects scatter_indices_batching_dims to not repeat; got: " ++
      s!"[{interleaveComma dims.scatterIndicesBatchingDims}].")
  checkDimsInBounds dims.scatterIndicesBatchingDims scatterIndicesShape.length
    "scatter_indices_batching_dims" "rank-of('scatter_indices')"
  require (!dims.scatterIndicesBatchingDims.contains dims.indexVectorDim)
    (s!"expects scatter_indices_batching_dims not to include index_vector_dim " ++
      s!"{dims.indexVectorDim}.")
  require (dims.inputBatchingDims.length == dims.scatterIndicesBatchingDims.length)
    "input_batching_dims and scatter_indices_batching_dims should have the same size."
  verifyBatchingDimSizes operandShape scatterIndicesShape dims.inputBatchingDims
    dims.scatterIndicesBatchingDims "input_batching_dims" "scatter_indices_batching_dims" "."
  let mapSize := dims.scatterDimsToOperandDims.length
  require (!(dims.indexVectorDim.toInt == scatterIndicesShape.length && mapSize != 1))
    (s!"Scatter op has {mapSize} elements in scatter_dims_to_operand_dims and the bound of " ++
      s!"dimension index_vector_dim={dims.indexVectorDim} of scatter_indices is 1. These two " ++
      s!"numbers must be equal.")
  let bound ← readEntry scatterIndicesShape dims.indexVectorDim.toNatClampNeg
  require (isDynamicDimSize bound || bound.toInt == mapSize)
    (s!"Scatter op has {mapSize} elements in scatter_dims_to_operand_dims and the bound of " ++
      s!"dimension index_vector_dim={dims.indexVectorDim} of scatter_indices is {bound}. These " ++
      s!"two numbers must be equal.")
  checkDimsDistinct dims.scatterDimsToOperandDims dims.inputBatchingDims
    "scatter_dims_to_operand_dims" "input_batching_dims"
  checkDimsInBounds dims.scatterDimsToOperandDims operandRank "scatter_dims_to_operand_dims"
    "rank-of('operand')"

/-- The sizes of the dimensions that slices have, from the dimension with the number on. -/
def maxUpdateSliceSizes : Nat → List Int64 → List Int64 → List Int64 → List Int64
  | _, _, _, [] => []
  | i, inserted, batching, size :: operandShape =>
    -- Both lists are sorted, so that only their next dimension is compared.
    if inserted.head?.any fun dim => dim.toInt == (i : Int) then
      maxUpdateSliceSizes (i + 1) inserted.tail batching operandShape
    else if batching.head?.any fun dim => dim.toInt == (i : Int) then
      maxUpdateSliceSizes (i + 1) inserted batching.tail operandShape
    else
      size :: maxUpdateSliceSizes (i + 1) inserted batching operandShape

/-- Verify that a dimension of the windows does not exceed that of the operand. -/
def checkUpdateWindowDim (updatesShape maxSizes : List Int64) (updateWindowDim : Int64) (i : Nat) :
    Except InferenceFailure Unit := do
  let size ← readEntry updatesShape updateWindowDim.toNatClampNeg
  let maxSize ← readEntry maxSizes i
  require (isDynamicDimSize size || isDynamicDimSize maxSize || !decide (size > maxSize))
    (s!"expects bounds of the window dimensions of updates to not exceed the bounds of the " ++
      s!"corresponding dimensions of operand. For dimension {updateWindowDim}, updates bound is " ++
      s!"{size}, operand bound is {maxSize}.")

/-- Verify that the dimensions of the updates that are not those of windows have the sizes of the
dimensions of the scatter indices, one after the other. -/
def checkUpdateScatterDims (updatesShape scatterIndicesShape updateWindowDims : List Int64)
    (indexVectorDim : Int64) : Nat → List Nat → Except InferenceFailure Unit
  | _, [] => .ok ()
  | scatterDimsSeen, i :: dims =>
    if updateWindowDims.any fun dim => dim.toInt == (i : Int) then
      checkUpdateScatterDims updatesShape scatterIndicesShape updateWindowDims indexVectorDim
        scatterDimsSeen dims
    else do
      let seen := if (scatterDimsSeen : Int) = indexVectorDim.toInt then scatterDimsSeen + 1
        else scatterDimsSeen
      let size ← readEntry updatesShape i
      let bound ← readEntry scatterIndicesShape seen
      require (verifyCompatibleDims size bound)
        (s!"expects bounds of the scatter dimensions of updates to be same as the bounds of the " ++
          s!"corresponding dimensions of scatter indices. For scatter dimension {i}, updates " ++
          s!"bound is {size} , scatter_indices bound is {bound}.")
      checkUpdateScatterDims updatesShape scatterIndicesShape updateWindowDims indexVectorDim
        (seen + 1) dims

/-- Verify the sizes of the updates of one of the inputs. -/
def checkUpdateSizes (operandShape scatterIndicesShape updatesShape : List Int64)
    (dims : ScatterDimensionNumbers) : Except InferenceFailure Unit := do
  let maxSizes := maxUpdateSliceSizes 0 dims.insertedWindowDims dims.inputBatchingDims operandShape
  dims.updateWindowDims.zipIdx.forM fun (updateWindowDim, i) =>
    checkUpdateWindowDim updatesShape maxSizes updateWindowDim i
  checkUpdateScatterDims updatesShape scatterIndicesShape dims.updateWindowDims
    dims.indexVectorDim 0 (List.range updatesShape.length)

/-- The shape of the scatter indices, with the dimension of the index vectors. -/
def expandedScatterIndicesShape (scatterIndicesShape : List Int64) (indexVectorDim : Int64) :
    List Int64 :=
  if indexVectorDim.toInt = scatterIndicesShape.length then scatterIndicesShape ++ [1]
  else scatterIndicesShape

section Verified

variable {operandShape scatterIndicesShape updateShape : List Int64}
  {dims : ScatterDimensionNumbers}

/-- What the verifier requires of the dimension numbers of a scatter. -/
structure ScatterDimensionNumbers.Verified (dims : ScatterDimensionNumbers)
    (operandShape scatterIndicesShape updateShape : List Int64) : Prop where
  rank : operandShape.length = dims.updateWindowDims.length + dims.insertedWindowDims.length +
    dims.inputBatchingDims.length
  windowUnique : dims.updateWindowDims.Nodup
  windowBound : ∀ dim ∈ dims.updateWindowDims, isDimInBounds updateShape.length dim = true
  skippedUnique : (dims.insertedWindowDims ++ dims.inputBatchingDims).Nodup
  skippedBound : ∀ dim ∈ dims.insertedWindowDims ++ dims.inputBatchingDims,
    isDimInBounds operandShape.length dim = true
  indicesBatchingBound : ∀ dim ∈ dims.scatterIndicesBatchingDims,
    isDimInBounds scatterIndicesShape.length dim = true
  notVector : dims.indexVectorDim ∉ dims.scatterIndicesBatchingDims
  paired : dims.inputBatchingDims.length = dims.scatterIndicesBatchingDims.length
  pairedSizes : mismatchedBatchingDims operandShape scatterIndicesShape dims.inputBatchingDims
    dims.scatterIndicesBatchingDims = none
  vectorSize : ∃ bound, scatterIndicesShape[dims.indexVectorDim.toNatClampNeg]? = some bound ∧
    (isDynamicDimSize bound = true ∨ bound.toInt = dims.scatterDimsToOperandDims.length)
  mapUnique : (dims.scatterDimsToOperandDims ++ dims.inputBatchingDims).Nodup
  mapBound : ∀ dim ∈ dims.scatterDimsToOperandDims,
    isDimInBounds operandShape.length dim = true

/-- Scatters that are verified have dimension numbers that fit. -/
theorem validateScatterDimensionNumbers_verified
    (verified : validateScatterDimensionNumbers operandShape scatterIndicesShape updateShape dims =
      .ok ()) : dims.Verified operandShape scatterIndicesShape updateShape := by
  unfold validateScatterDimensionNumbers at verified
  -- The checks are made one after the other, and each of them succeeded.
  simp only [Fallible.check_bind_eq_ok, require_eq_ok, checkDimsDistinct_eq_ok,
    checkDimsInBounds_eq_ok, verifyBatchingDimSizes_eq_ok, beq_iff_eq, isUnique_iff,
    Bool.not_eq_true', List.contains_eq_mem, decide_eq_false_iff_not] at verified
  obtain ⟨rank, -, windowUnique, windowBound, skippedUnique, -, insertedBound, -, batchingBound,
    -, indicesBatchingBound, notVector, paired, pairedSizes, -, rest⟩ := verified
  obtain ⟨bound, found, rest⟩ := Fallible.bind_eq_ok.mp rest
  simp only [Fallible.check_bind_eq_ok, require_eq_ok, checkDimsDistinct_eq_ok,
    checkDimsInBounds_eq_ok, Bool.or_eq_true, beq_iff_eq] at rest
  obtain ⟨size, mapUnique, mapBound⟩ := rest
  refine {
    rank, windowUnique, windowBound, skippedUnique, indicesBatchingBound, notVector, paired,
    pairedSizes, mapUnique, mapBound
    vectorSize := ⟨bound, readEntry_eq_ok.mp found, size⟩
    skippedBound := fun dim listed => ?_ }
  rcases List.mem_append.mp listed with inserted | batching
  · exact insertedBound dim inserted
  · exact batchingBound dim batching

/-- The dimension of the scatter indices for the scatter dimension at a place. -/
def scatterIndicesDim (indexVectorDim : Int64) (scatterDimsSeen place : Nat) : Nat :=
  if (scatterDimsSeen : Int) ≤ indexVectorDim.toInt ∧
      indexVectorDim.toInt ≤ (scatterDimsSeen + place : Nat) then scatterDimsSeen + place + 1
  else scatterDimsSeen + place

/-- The dimensions of the updates that are not those of windows have the sizes of those of the
scatter indices. -/
theorem checkUpdateScatterDims_eq_ok {listed : List Nat} {scatterDimsSeen : Nat}
    (checked : checkUpdateScatterDims updateShape scatterIndicesShape dims.updateWindowDims
      dims.indexVectorDim scatterDimsSeen listed = .ok ()) {place b : Nat}
    (found : (listed.filter fun (i : Nat) =>
      !dims.updateWindowDims.any fun dim => dim.toInt == (i : Int))[place]? = some b) :
    ∃ size bound, updateShape[b]? = some size ∧ scatterIndicesShape[
        scatterIndicesDim dims.indexVectorDim scatterDimsSeen place]? = some bound ∧
      verifyCompatibleDims size bound = true := by
  induction listed generalizing scatterDimsSeen place with
  | nil => cases found
  | cons i listed ih =>
    unfold checkUpdateScatterDims at checked
    split at checked
    · next window =>
      -- A dimension of the windows is passed over.
      rw [List.filter_cons_of_neg (by simpa using window)] at found
      exact ih checked found
    · next scatter =>
      rw [List.filter_cons_of_pos (by simpa using scatter)] at found
      obtain ⟨size, sizeRead, rest⟩ := Fallible.bind_eq_ok.mp checked
      obtain ⟨bound, boundRead, rest⟩ := Fallible.bind_eq_ok.mp rest
      obtain ⟨compatible, rest⟩ := Fallible.check_bind_eq_ok.mp rest
      rw [require_eq_ok] at compatible
      rw [readEntry_eq_ok] at sizeRead boundRead
      cases place with
      | zero =>
        cases found
        refine ⟨size, bound, sizeRead, ?_, compatible⟩
        rw [← boundRead, scatterIndicesDim]
        split <;> split <;> first | rfl | omega
      | succ place =>
        obtain ⟨size, bound, sizeRead, boundRead, compatible⟩ := ih rest found
        refine ⟨size, bound, sizeRead, ?_, compatible⟩
        -- The dimension of the index vectors is before the rest, within it, or behind it.
        rw [← boundRead, scatterIndicesDim, scatterIndicesDim]
        congr 1
        split <;> split <;> split <;> omega

end Verified

section Verifier

variable [TypePrinter]

/-- Verify a scatter, which has as many updates as inputs. -/
def verifyScatterOp (operandTypes : List RankedTensorType) (scatterIndicesType : RankedTensorType)
    (updatesTypes : List RankedTensorType) (dims : ScatterDimensionNumbers)
    (updateComputation : ReducerBlock) : Except InferenceFailure Unit := do
  require (operandTypes.head?.all fun first => operandTypes.all (verifyCompatibleShape first))
    "Not all inputs have compatible shapes."
  require (updatesTypes.head?.all fun first => updatesTypes.all (verifyCompatibleShape first))
    "Not all updates have compatible shapes."
  checkDimInBounds dims.indexVectorDim scatterIndicesType.rank "index_vector_dim"
    "rank-of('scatter_indices')" true
  let initValueTypes := updatesTypes.map fun type =>
    StablehloType.rankedTensor [] type.elementType none
  verifyReducerShape updateComputation (operandTypes.map RankedTensorType.toType) initValueTypes []
  let expandedShape := expandedScatterIndicesShape scatterIndicesType.shape dims.indexVectorDim
  let expectedUpdatesRank := expandedShape.length - 1 + dims.updateWindowDims.length
  updatesTypes.forM fun type =>
    require (type.rank == expectedUpdatesRank)
      (s!"expects updates tensor must be of rank {expectedUpdatesRank} ( == " ++
        s!"rank-of('scatter_indices') - 1 + size-of('update_window_dims'), where " ++
        s!"'scatter_indices' is expanded by a trailing 1 dimension if 'index_vector_dim' == " ++
        s!"rank-of('scatter_indices')), but got {type.rank}.")
  (operandTypes.zip updatesTypes).forM fun (operandType, updatesType) =>
    validateScatterDimensionNumbers operandType.shape expandedShape updatesType.shape dims
  (operandTypes.zip updatesTypes).forM fun (operandType, updatesType) =>
    checkUpdateSizes operandType.shape expandedShape updatesType.shape dims

/-- What is made sure of by verifying a scatter. -/
theorem verifyScatterOp_spec {operandTypes updatesTypes : List RankedTensorType}
    {scatterIndicesType : RankedTensorType} {dims : ScatterDimensionNumbers}
    {block : ReducerBlock}
    (verified : verifyScatterOp operandTypes scatterIndicesType updatesTypes dims block = .ok ()) :
    (∀ first ∈ operandTypes.head?, ∀ type ∈ operandTypes,
      verifyCompatibleShape first type = true) ∧
    (∀ first ∈ updatesTypes.head?, ∀ type ∈ updatesTypes,
      verifyCompatibleShape first type = true) ∧
    (0 ≤ dims.indexVectorDim.toInt ∧ dims.indexVectorDim.toInt ≤ scatterIndicesType.rank) ∧
    verifyReducerShape block (operandTypes.map RankedTensorType.toType)
      (updatesTypes.map fun type => .rankedTensor [] type.elementType none) [] = .ok () ∧
    (∀ type ∈ updatesTypes, type.rank = (expandedScatterIndicesShape scatterIndicesType.shape
      dims.indexVectorDim).length - 1 + dims.updateWindowDims.length) ∧
    ∀ operandType updatesType, (operandType, updatesType) ∈ operandTypes.zip updatesTypes →
      dims.Verified operandType.shape (expandedScatterIndicesShape scatterIndicesType.shape
        dims.indexVectorDim) updatesType.shape ∧
      checkUpdateScatterDims updatesType.shape (expandedScatterIndicesShape
        scatterIndicesType.shape dims.indexVectorDim) dims.updateWindowDims dims.indexVectorDim 0
        (List.range updatesType.shape.length) = .ok () := by
  unfold verifyScatterOp at verified
  simp only [Fallible.check_bind_eq_ok, require_eq_ok, Fallible.forM_eq_ok_iff, beq_iff_eq,
    Option.all_eq_true, List.all_eq_true] at verified
  obtain ⟨operands, updates, vectorDim, computation, rank, numbers, sizes⟩ := verified
  refine ⟨operands, updates, checkDimInBounds_inclusive vectorDim, computation, rank, ?_⟩
  intro operandType updatesType listed
  refine ⟨validateScatterDimensionNumbers_verified (numbers _ listed), ?_⟩
  -- The dimensions of windows were verified before the others.
  exact (Fallible.check_bind_eq_ok.mp (sizes _ listed)).2

end Verifier

end Stablehlo
