import Stablehlo.Dialect.Attrs
import Stablehlo.Dialect.DimensionChecks
import Stablehlo.Support.AxisMap

/-! The verifier and the inferred type of a gather. -/

namespace Stablehlo

/-- The size of a dimension of a shape, or of the dimension of size one that is implied behind
it. -/
def indexVectorSize (shape : List Int64) (indexVectorDim : Int64) : Int64 :=
  if indexVectorDim.toInt = shape.length then 1
  else shape.getD indexVectorDim.toNatClampNeg kDynamic

/-- The first pair of batching dimensions with sizes that differ for sure. -/
def mismatchedBatchingDims (operandShape startIndicesShape : List Int64)
    (operandBatchingDims startIndicesBatchingDims : List Int64) : Option (Nat × Int64 × Int64) :=
  (operandBatchingDims.zip startIndicesBatchingDims).zipIdx.findSome? fun (dims, index) =>
    let operandDimSize := operandShape.getD dims.1.toNatClampNeg kDynamic
    let startIndicesDimSize := startIndicesShape.getD dims.2.toNatClampNeg kDynamic
    if verifyCompatibleDims operandDimSize startIndicesDimSize then none
    else some (index, operandDimSize, startIndicesDimSize)

/-- The requirement that batching dimensions come in pairs of the same size. -/
def verifyBatchingDimSizes (operandShape startIndicesShape : List Int64)
    (operandBatchingDims startIndicesBatchingDims : List Int64)
    (operandName startIndicesName rest : String) : Except InferenceFailure Unit :=
  match mismatchedBatchingDims operandShape startIndicesShape operandBatchingDims
      startIndicesBatchingDims with
  | none => .ok ()
  | some (index, operandDimSize, startIndicesDimSize) =>
    .error (.error (s!"{operandName}[{index}] and {startIndicesName}[{index}] must have " ++
      s!"compatible sizes, but got {operandDimSize} and {startIndicesDimSize}{rest}"))

/-- Verify the dimension numbers of a gather. -/
def verifyGather (operandShape startIndicesShape sliceSizesShape : List Int64)
    (dims : GatherDimensionNumbers) : Except InferenceFailure Unit := do
  let operandRank := operandShape.length
  let startIndicesRank := startIndicesShape.length
  require (operandRank == dims.offsetDims.length + dims.collapsedSliceDims.length +
      dims.operandBatchingDims.length)
    (s!"offset_dims size ({dims.offsetDims.length}) plus collapse_slice_dims size " ++
      s!"({dims.collapsedSliceDims.length}) plus operand_batching_dims size " ++
      s!"({dims.operandBatchingDims.length}) is not equal to operand rank ({operandRank})")
  checkDimInBounds dims.indexVectorDim startIndicesRank "index_vector_dim"
    "rank-of('start_indices')" true
  let effectiveDimSize := indexVectorSize startIndicesShape dims.indexVectorDim
  -- Nothing is required of an index dimension that is dynamic.
  require (isDynamicDimSize effectiveDimSize ||
      effectiveDimSize.toInt == dims.startIndexMap.length)
    (s!"start_index_map size ({dims.startIndexMap.length}) is not equal to size of index " ++
      s!"dimension ({dims.indexVectorDim}) of start_indices ({effectiveDimSize})")
  require (isSorted dims.offsetDims)
    s!"expects offset_dims to be sorted, got: [{interleaveComma dims.offsetDims}]"
  require (isUnique dims.offsetDims)
    s!"expects offset_dims to not repeat, got: [{interleaveComma dims.offsetDims}]"
  checkDimsDistinct dims.collapsedSliceDims dims.operandBatchingDims "collapsed_slice_dims"
    "operand_batching_dims"
  require (isSorted dims.collapsedSliceDims)
    (s!"expects collapsed_slice_dims to be sorted, got: " ++
      s!"[{interleaveComma dims.collapsedSliceDims}]")
  checkDimsInBounds dims.collapsedSliceDims operandRank "collapsed_slice_dims" "rank-of('operand')"
  require (isSorted dims.operandBatchingDims)
    (s!"expects operand_batching_dims to be sorted, got: " ++
      s!"[{interleaveComma dims.operandBatchingDims}]")
  checkDimsInBounds dims.operandBatchingDims operandRank "operand_batching_dims"
    "rank-of('operand')"
  require (isUnique dims.startIndicesBatchingDims)
    (s!"expects start_indices_batching_dims to not repeat, got: " ++
      s!"[{interleaveComma dims.startIndicesBatchingDims}]")
  checkDimsInBounds dims.startIndicesBatchingDims startIndicesRank "start_indices_batching_dims"
    "rank-of('start_indices')"
  require (!dims.startIndicesBatchingDims.contains dims.indexVectorDim)
    (s!"expects start_indices_batching_dims not to include index_vector_dim " ++
      s!"{dims.indexVectorDim}")
  require (dims.operandBatchingDims.length == dims.startIndicesBatchingDims.length)
    "operand_batching_dims and start_indices_batching_dims should have the same size"
  verifyBatchingDimSizes operandShape startIndicesShape dims.operandBatchingDims
    dims.startIndicesBatchingDims "operand_batching_dims" "start_indices_batching_dims" ""
  checkDimsDistinct dims.startIndexMap dims.operandBatchingDims "start_index_map"
    "operand_batching_dims"
  checkDimsInBounds dims.startIndexMap operandRank "start_index_map" "rank-of('operand')"
  require (sliceSizesShape.length == 1) s!"slice_sizes.rank != 1 (got {sliceSizesShape.length})"
  let sliceSize := (sliceSizesShape.map Int64.toInt).prod
  require (sliceSize == operandRank)
    s!"slice_sizes size ({sliceSize}) not equal to operand rank ({operandRank})"

/-- The entry of a list, which the source reads without a check. -/
def readEntry (entries : List Int64) (i : Nat) : Except InferenceFailure Int64 :=
  match entries[i]? with
  | some entry => .ok entry
  | none => .error .undefinedBehavior

/-- The sizes of the leading dimensions of a slice that remain in the result: those up to the last
of the dimensions that do not. -/
def adjustedSliceSizePrefix (sliceSizes collapsedAndBatchDims : List Int64) :
    Except InferenceFailure (List Int64) :=
  let maxOperandDim := (collapsedAndBatchDims.map Int64.toInt).foldl max (-1)
  let remaining := (List.range (maxOperandDim + 1).toNat).filter fun (dimIndex : Nat) =>
    !collapsedAndBatchDims.any fun dim => dim.toInt == (dimIndex : Int)
  remaining.mapM (readEntry sliceSizes)

/-- The size of a dimension of the result. -/
def inferGatherDim (startIndicesShape sliceSizes adjustedPrefix : List Int64)
    (dims : GatherDimensionNumbers) (batchDims : List Nat) (i : Nat) :
    Except InferenceFailure Int64 :=
  match dims.offsetDims.findIdx? fun dim => dim.toInt == (i : Int) with
  | some index =>
    if index < adjustedPrefix.length then
      readEntry adjustedPrefix index
    else
      -- Behind the last dimension without a counterpart, dimensions are shifted by their number.
      readEntry sliceSizes
        (index + dims.collapsedSliceDims.length + dims.operandBatchingDims.length)
  | none =>
    match batchDims.idxOf? i with
    | some index =>
      -- The dimension of the index vectors is skipped.
      readEntry startIndicesShape
        (if (index : Int) ≥ dims.indexVectorDim.toInt then index + 1 else index)
    | none => .error .undefinedBehavior

/-- The sizes of the dimensions of the result. -/
def inferGatherShape (resultRank : Nat) (startIndicesShape sliceSizes : List Int64)
    (dims : GatherDimensionNumbers) : Except InferenceFailure (List Int64) := do
  let adjustedPrefix ← adjustedSliceSizePrefix sliceSizes
    (dims.collapsedSliceDims ++ dims.operandBatchingDims)
  let batchDims := (List.range resultRank).filter fun (dim : Nat) =>
    !dims.offsetDims.any fun offsetDim => offsetDim.toInt == (dim : Int)
  (List.range resultRank).mapM
    (inferGatherDim startIndicesShape sliceSizes adjustedPrefix dims batchDims)

/-- The bounds of the dimensions of the result that come from the start indices. -/
def inferGatherBounds (startIndicesBounds : List Int64) (dims : GatherDimensionNumbers) :
    Nat → List Nat → Except InferenceFailure (List Int64)
  | _, [] => .ok []
  | startIndicesDim, resultDim :: resultDims => do
    if dims.offsetDims.any fun offsetDim => offsetDim.toInt == (resultDim : Int) then do
      let rest ← inferGatherBounds startIndicesBounds dims startIndicesDim resultDims
      .ok (kDynamic :: rest)
    else do
      let startIndicesDim :=
        if (startIndicesDim : Int) = dims.indexVectorDim.toInt then startIndicesDim + 1
        else startIndicesDim
      let bound ← readEntry startIndicesBounds startIndicesDim
      let rest ← inferGatherBounds startIndicesBounds dims (startIndicesDim + 1) resultDims
      .ok (bound :: rest)

/-- The bounds of the dimensions of the result. -/
def inferGatherResultBounds (startIndicesBounds : List Int64) (dims : GatherDimensionNumbers)
    (resultRank : Nat) : Except InferenceFailure (List Int64) :=
  if startIndicesBounds.isEmpty then .ok (List.replicate resultRank kDynamic)
  else inferGatherBounds startIndicesBounds dims 0 (List.range resultRank)

/-- Infer the type of the result of a gather, from the sizes of its slices. -/
def inferGatherReturnTypeComponents (operandType startIndicesType : RankedTensorType)
    (sliceSizes : List Int64) (dims : GatherDimensionNumbers) :
    Except InferenceFailure ShapedTypeComponents := do
  let startIndicesRank := startIndicesType.rank
  let impliedTrailingDim := dims.indexVectorDim.toInt = startIndicesRank
  let resultRank := dims.offsetDims.length +
    (if impliedTrailingDim then startIndicesRank + 1 else startIndicesRank) - 1
  checkDimsInBounds dims.offsetDims resultRank "offset_dims" "implied-result-rank"
  let shape ← inferGatherShape resultRank startIndicesType.shape sliceSizes dims
  let inferredBounds ←
    inferGatherResultBounds (encodingToBounds startIndicesType.encoding) dims resultRank
  let encoding ← boundsToEncoding startIndicesType.encoding inferredBounds
  .ok { dims := shape, elementType := some operandType.elementType, encoding }

/-- The requirement that slices have at most one position along dimensions without a
counterpart in the result. -/
def checkSliceSizesOne (sliceSizes : List Int64) (name : String) :
    List Int64 → Except InferenceFailure Unit
  | [] => .ok ()
  | dim :: dims => do
    let sliceDimSize ← readEntry sliceSizes dim.toNatClampNeg
    require (sliceDimSize ≤ 1) (s!"Expects that for each dim in {name}, slice_sizes[dim] should " ++
      s!"be <= 1, but got {sliceDimSize}")
    checkSliceSizesOne sliceSizes name dims

/-- The requirement that the slice lies within the operand. -/
def checkSliceSize (operandShape : List Int64) (size : Int64) (index : Nat) :
    Except InferenceFailure Unit := do
  let dimSize ← readEntry operandShape index
  require (!(size < 0 || (!isDynamicDimSize dimSize && size > dimSize)))
    (s!"slice size ({size}) is out of bounds for operand dimension ({dimSize}) at index {index}")

/-- Infer the type of the result of a gather. -/
def inferGatherOp (operandType startIndicesType : RankedTensorType)
    (dims : GatherDimensionNumbers) (sliceSizes : List Int64) :
    Except InferenceFailure ShapedTypeComponents := do
  verifyGather operandType.shape startIndicesType.shape [.ofNat sliceSizes.length] dims
  checkSliceSizesOne sliceSizes "collapsed_slice_dims" dims.collapsedSliceDims
  checkSliceSizesOne sliceSizes "operand_batching_dims" dims.operandBatchingDims
  sliceSizes.zipIdx.forM fun (size, index) => checkSliceSize operandType.shape size index
  inferGatherReturnTypeComponents operandType startIndicesType sliceSizes dims

section Verified

variable {operandShape startIndicesShape : List Int64} {dims : GatherDimensionNumbers}

/-- What the verifier requires of the dimension numbers of a gather. -/
structure GatherDimensionNumbers.Verified (dims : GatherDimensionNumbers)
    (operandShape startIndicesShape : List Int64) : Prop where
  rank : operandShape.length = dims.offsetDims.length + dims.collapsedSliceDims.length +
    dims.operandBatchingDims.length
  vectorDim : 0 ≤ dims.indexVectorDim.toInt ∧
    dims.indexVectorDim.toInt ≤ startIndicesShape.length
  vectorSize : isDynamicDimSize (indexVectorSize startIndicesShape dims.indexVectorDim) = true ∨
    (indexVectorSize startIndicesShape dims.indexVectorDim).toInt = dims.startIndexMap.length
  offsetUnique : dims.offsetDims.Nodup
  skippedUnique : (dims.collapsedSliceDims ++ dims.operandBatchingDims).Nodup
  skippedBound : ∀ dim ∈ dims.collapsedSliceDims ++ dims.operandBatchingDims,
    isDimInBounds operandShape.length dim = true
  startBatchingUnique : dims.startIndicesBatchingDims.Nodup
  startBatchingBound : ∀ dim ∈ dims.startIndicesBatchingDims,
    isDimInBounds startIndicesShape.length dim = true
  notVector : dims.indexVectorDim ∉ dims.startIndicesBatchingDims
  paired : dims.operandBatchingDims.length = dims.startIndicesBatchingDims.length
  pairedSizes : mismatchedBatchingDims operandShape startIndicesShape dims.operandBatchingDims
    dims.startIndicesBatchingDims = none
  mapUnique : (dims.startIndexMap ++ dims.operandBatchingDims).Nodup
  mapBound : ∀ dim ∈ dims.startIndexMap, isDimInBounds operandShape.length dim = true

/-- The verifier of batching dimensions finds no mismatch. -/
theorem verifyBatchingDimSizes_eq_ok {operandBatchingDims startIndicesBatchingDims : List Int64}
    {operandName startIndicesName rest : String} :
    verifyBatchingDimSizes operandShape startIndicesShape operandBatchingDims
        startIndicesBatchingDims operandName startIndicesName rest = .ok () ↔
      mismatchedBatchingDims operandShape startIndicesShape operandBatchingDims
        startIndicesBatchingDims = none := by
  unfold verifyBatchingDimSizes
  split <;> simp_all

/-- Gathers that are verified have dimension numbers that fit. -/
theorem verifyGather_verified {sliceSizesShape : List Int64}
    (verified : verifyGather operandShape startIndicesShape sliceSizesShape dims = .ok ()) :
    dims.Verified operandShape startIndicesShape ∧
      (sliceSizesShape.map Int64.toInt).prod = operandShape.length := by
  unfold verifyGather at verified
  -- The checks are made one after the other, and each of them succeeded.
  simp only [Fallible.check_bind_eq_ok, require_eq_ok, checkDimsDistinct_eq_ok,
    checkDimsInBounds_eq_ok, verifyBatchingDimSizes_eq_ok, Bool.or_eq_true, beq_iff_eq,
    isUnique_iff, Bool.not_eq_true', List.contains_eq_mem, decide_eq_false_iff_not] at verified
  obtain ⟨rank, vectorDim, vectorSize, -, offsetUnique, skippedUnique, -, collapsedBound, -,
    batchingBound, startBatchingUnique, startBatchingBound, notVector, paired, pairedSizes,
    mapUnique, mapBound, -, sizes⟩ := verified
  refine ⟨{
    rank, vectorDim := checkDimInBounds_inclusive vectorDim, vectorSize, offsetUnique,
    skippedUnique, startBatchingUnique, startBatchingBound, notVector, paired, pairedSizes,
    mapUnique, mapBound
    skippedBound := fun dim listed => ?_ }, sizes⟩
  rcases List.mem_append.mp listed with collapsed | batching
  · exact collapsedBound dim collapsed
  · exact batchingBound dim batching

/-- A verified gather has sorted offset dimensions. -/
theorem isSorted_of_verifyGather {sliceSizesShape : List Int64}
    (verified : verifyGather operandShape startIndicesShape sliceSizesShape dims = .ok ()) :
    isSorted dims.offsetDims = true := by
  unfold verifyGather at verified
  simp only [Fallible.check_bind_eq_ok, require_eq_ok] at verified
  exact verified.2.2.2.1

end Verified

section Shape

/-- A fold of the maximum is the start or one of the items, and none of them is larger. -/
theorem foldl_max_spec {items : List Int} {start : Int} :
    start ≤ items.foldl max start ∧ (∀ item ∈ items, item ≤ items.foldl max start) ∧
      (items.foldl max start = start ∨ items.foldl max start ∈ items) := by
  induction items generalizing start with
  | nil => simp
  | cons item items ih =>
    obtain ⟨atLeast, above, attained⟩ := @ih (max start item)
    rw [List.foldl_cons]
    refine ⟨by omega, ?_, ?_⟩
    · intro other listed
      rcases List.mem_cons.mp listed with rfl | later
      · omega
      · exact above other later
    · rcases attained with same | member
      · -- The maximum of the first two is one of them.
        rcases Int.le_total start item with less | more
        · rw [max_eq_right less] at same ⊢
          exact .inr (by simp [same])
        · rw [max_eq_left more] at same ⊢
          exact .inl same
      · exact .inr (List.mem_cons_of_mem _ member)

variable {listed : List Int64}

/-- An entry that can be read is in the list. -/
theorem readEntry_eq_ok {entries : List Int64} {place : Nat} {entry : Int64} :
    readEntry entries place = .ok entry ↔ entries[place]? = some entry := by
  unfold readEntry
  split <;> simp_all

/-- The bound of the dimensions that slices do not have. -/
def skippedBound (skipped : List Int64) : Nat :=
  ((skipped.map Int64.toInt).foldl max (-1) + 1).toNat

/-- All axes that are skipped are below the bound, which is at most the rank. -/
theorem skippedBound_spec {rank : Nat}
    (inBounds : ∀ dim ∈ listed, isDimInBounds rank dim = true) :
    (∀ axis ∈ axes listed, axis < skippedBound listed) ∧ skippedBound listed ≤ rank := by
  obtain ⟨atLeast, above, attained⟩ := @foldl_max_spec (listed.map Int64.toInt) (-1)
  unfold skippedBound
  constructor
  · intro axis member
    obtain ⟨dim, present, rfl⟩ := List.mem_map.mp member
    have below := above dim.toInt (List.mem_map_of_mem present)
    have same := (toInt_of_isDimInBounds (inBounds dim present)).1
    omega
  · rcases attained with none | last
    · omega
    · obtain ⟨dim, present, same⟩ := List.mem_map.mp last
      obtain ⟨value, below⟩ := toInt_of_isDimInBounds (inBounds dim present)
      omega

/-- The leading sizes of a slice are those of the axes that remain below the bound. -/
theorem adjustedSliceSizePrefix_eq_ok {rank : Nat} {sliceSizes adjusted : List Int64}
    (inBounds : ∀ dim ∈ listed, isDimInBounds rank dim = true)
    (read : adjustedSliceSizePrefix sliceSizes listed = .ok adjusted) :
    List.Forall₂ (fun axis size => sliceSizes[axis]? = some size)
      (AxisMap.rest (axes listed) (skippedBound listed)) adjusted := by
  unfold adjustedSliceSizePrefix at read
  simp only [any_toInt_beq inBounds] at read
  exact (Fallible.mapM_eq_ok_iff.mp read).imp fun axis size entry => readEntry_eq_ok.mp entry

/-- The sizes of the dimensions of the result are those of the dimensions of the slices, and of
the batch of index vectors. -/
theorem inferGatherShape_spec {operandRank resultRank : Nat}
    {startIndicesShape sliceSizes shape : List Int64} {dims : GatherDimensionNumbers}
    (skippedInBounds : ∀ dim ∈ dims.collapsedSliceDims ++ dims.operandBatchingDims,
      isDimInBounds operandRank dim = true)
    (skippedUnique : (dims.collapsedSliceDims ++ dims.operandBatchingDims).Nodup)
    (rank : dims.offsetDims.length + (dims.collapsedSliceDims ++ dims.operandBatchingDims).length =
      operandRank)
    (offsetInBounds : ∀ dim ∈ dims.offsetDims, isDimInBounds resultRank dim = true)
    (offsetUnique : dims.offsetDims.Nodup)
    (inferred : inferGatherShape resultRank startIndicesShape sliceSizes dims = .ok shape) :
    shape.length = resultRank ∧
    (∀ place window d : Nat, (axes dims.offsetDims)[place]? = some window →
      (AxisMap.rest (axes (dims.collapsedSliceDims ++ dims.operandBatchingDims))
        operandRank)[place]? = some d → shape[window]? = sliceSizes[d]? ∧ d < sliceSizes.length) ∧
    (∀ place batch : Nat, (AxisMap.rest (axes dims.offsetDims) resultRank)[place]? = some batch →
      ∃ size, shape[batch]? = some size ∧ startIndicesShape[
        if (place : Int) ≥ dims.indexVectorDim.toInt then place + 1 else place]? = some size) := by
  obtain ⟨adjusted, leading, looped⟩ := Fallible.bind_eq_ok.mp inferred
  have entries := adjustedSliceSizePrefix_eq_ok skippedInBounds leading
  obtain ⟨below, least⟩ := skippedBound_spec skippedInBounds
  have unique := nodup_axes skippedUnique skippedInBounds
  have count := AxisMap.length_rest unique below
  -- The size of a dimension is found in its own pass.
  have pass : ∀ i < resultRank, ∃ size, shape[i]? = some size ∧
      inferGatherDim startIndicesShape sliceSizes adjusted dims
        (AxisMap.rest (axes dims.offsetDims) resultRank) i = .ok size := by
    intro i small
    have place : (List.range resultRank)[i]? = some i := by
      rw [List.getElem?_range small]
    obtain ⟨size, stored, found⟩ := Fallible.getElem?_of_mapM looped place
    simp only [any_toInt_beq offsetInBounds] at found
    exact ⟨size, stored, found⟩
  refine ⟨?_, ?_, ?_⟩
  · rw [Fallible.length_of_mapM looped, List.length_range]
  · intro place window d offset slice
    have small := axes_lt offsetInBounds (List.mem_of_getElem? offset)
    obtain ⟨size, stored, found⟩ := pass window small
    have located := AxisMap.idxOf?_of_getElem? (nodup_axes offsetUnique offsetInBounds) offset
    rw [inferGatherDim, findIdx?_toInt_beq offsetInBounds, located] at found
    dsimp only at found
    have short : place < dims.offsetDims.length := by
      rw [← length_axes]
      exact (List.getElem?_eq_some_iff.mp offset).1
    have entry : sliceSizes[d]? = some size := by
      split at found
      · next early =>
        -- The axis is before the last of those that are skipped.
        rw [← entries.length_eq] at early
        rw [AxisMap.getElem?_rest_before below least early] at slice
        rw [readEntry_eq_ok] at found
        obtain ⟨_, own⟩ := List.getElem?_eq_some_iff.mp slice
        obtain ⟨inside, entry⟩ := List.getElem?_eq_some_iff.mp found
        have related := (List.forall₂_iff_get.mp entries).2 place early inside
        rw [List.get_eq_getElem, List.get_eq_getElem, own, entry] at related
        exact related
      · next late =>
        rw [← entries.length_eq, Nat.not_lt] at late
        rw [length_axes, List.length_append] at count
        rw [List.length_append] at rank
        rw [AxisMap.getElem?_rest_behind unique below least late
          (by rw [length_axes, List.length_append]; omega)] at slice
        rw [readEntry_eq_ok] at found
        rw [length_axes, List.length_append, Option.some.injEq] at slice
        rw [← slice, ← Nat.add_assoc]
        exact found
    exact ⟨stored.trans entry.symm, (List.getElem?_eq_some_iff.mp entry).1⟩
  · intro place batch remains
    have member := List.mem_of_getElem? remains
    obtain ⟨small, other⟩ := AxisMap.mem_rest.mp member
    obtain ⟨size, stored, found⟩ := pass batch small
    have located := AxisMap.idxOf?_of_getElem? (AxisMap.nodup_rest _ _) remains
    rw [inferGatherDim, findIdx?_toInt_beq offsetInBounds, AxisMap.idxOf?_eq_none other] at found
    dsimp only at found
    rw [located] at found
    exact ⟨size, stored, readEntry_eq_ok.mp found⟩

/-- Slices have at most one position along each of the dimensions. -/
theorem checkSliceSizesOne_eq_ok {sliceSizes listed : List Int64} {name : String} :
    checkSliceSizesOne sliceSizes name listed = .ok () ↔
      ∀ dim ∈ listed, ∃ size, readEntry sliceSizes dim.toNatClampNeg = .ok size ∧
        size.toInt ≤ 1 := by
  induction listed with
  | nil => simp [checkSliceSizesOne]
  | cons dim listed ih =>
    rw [checkSliceSizesOne, List.forall_mem_cons, ← ih, Fallible.bind_eq_ok]
    constructor
    · rintro ⟨size, read, checked⟩
      obtain ⟨small, rest⟩ := Fallible.check_bind_eq_ok.mp checked
      rw [require_eq_ok, decide_eq_true_eq, Int64.le_iff_toInt_le] at small
      exact ⟨⟨size, read, small⟩, rest⟩
    · rintro ⟨⟨size, read, small⟩, rest⟩
      refine ⟨size, read, Fallible.check_bind_eq_ok.mpr ⟨?_, rest⟩⟩
      rw [require_eq_ok, decide_eq_true_eq, Int64.le_iff_toInt_le]
      exact small

/-- A slice that is checked is within the dimension. -/
theorem checkSliceSize_eq_ok {operandShape : List Int64} {size : Int64} {index : Nat}
    (checked : checkSliceSize operandShape size index = .ok ()) :
    ∃ dim, operandShape[index]? = some dim ∧ 0 ≤ size.toInt ∧
      (isDynamicDimSize dim = true ∨ size.toInt ≤ dim.toInt) := by
  obtain ⟨dim, read, required⟩ := Fallible.bind_eq_ok.mp checked
  have found : operandShape[index]? = some dim := by
    unfold readEntry at read
    split at read <;> simp_all
  refine ⟨dim, found, ?_⟩
  -- The requirement excludes sizes below zero and above the dimension.
  rw [require_eq_ok] at required
  simp only [Bool.not_or, Bool.not_and, Bool.and_eq_true, Bool.or_eq_true, Bool.not_eq_true',
    Bool.not_not, decide_eq_false_iff_not, Int64.lt_iff_toInt_lt, Int.not_lt] at required
  exact required

/-- What a gather whose type can be inferred is made sure of. -/
theorem inferGatherOp_spec {operandType startIndicesType : RankedTensorType}
    {dims : GatherDimensionNumbers} {sliceSizes : List Int64} {components : ShapedTypeComponents}
    (inferred : inferGatherOp operandType startIndicesType dims sliceSizes = .ok components) :
    ∃ resultRank : Nat,
      resultRank + 1 = dims.offsetDims.length +
        (if dims.indexVectorDim.toInt = startIndicesType.rank then startIndicesType.rank + 1
          else startIndicesType.rank) ∧
      verifyGather operandType.shape startIndicesType.shape [.ofNat sliceSizes.length] dims =
        .ok () ∧
      (∀ dim ∈ dims.collapsedSliceDims ++ dims.operandBatchingDims, ∃ size,
        readEntry sliceSizes dim.toNatClampNeg = .ok size ∧ size.toInt ≤ 1) ∧
      (∀ (index : Nat) (size : Int64), sliceSizes[index]? = some size → ∃ dim,
        operandType.shape[index]? = some dim ∧ 0 ≤ size.toInt ∧
          (isDynamicDimSize dim = true ∨ size.toInt ≤ dim.toInt)) ∧
      (∀ dim ∈ dims.offsetDims, isDimInBounds resultRank dim = true) ∧
      inferGatherShape resultRank startIndicesType.shape sliceSizes dims = .ok components.dims := by
  obtain ⟨verified, rest⟩ := Fallible.check_bind_eq_ok.mp inferred
  obtain ⟨collapsedOne, rest⟩ := Fallible.check_bind_eq_ok.mp rest
  obtain ⟨batchingOne, rest⟩ := Fallible.check_bind_eq_ok.mp rest
  obtain ⟨inside, rest⟩ := Fallible.check_bind_eq_ok.mp rest
  obtain ⟨offsetBounds, rest⟩ := Fallible.check_bind_eq_ok.mp rest
  obtain ⟨shape, shapeInferred, rest⟩ := Fallible.bind_eq_ok.mp rest
  obtain ⟨bounds, -, rest⟩ := Fallible.bind_eq_ok.mp rest
  obtain ⟨encoding, -, same⟩ := Fallible.bind_eq_ok.mp rest
  cases same
  rw [checkSliceSizesOne_eq_ok] at collapsedOne batchingOne
  rw [checkDimsInBounds_eq_ok] at offsetBounds
  refine ⟨_, ?_, verified, ?_, ?_, offsetBounds, shapeInferred⟩
  · -- There is a dimension for the index vectors, or one is implied.
    have vectorDim := (verifyGather_verified verified).1.vectorDim
    rw [RankedTensorType.rank] at *
    split <;> omega
  · intro dim listed
    rcases List.mem_append.mp listed with collapsed | batching
    · exact collapsedOne dim collapsed
    · exact batchingOne dim batching
  · intro index size listed
    have member : (size, index) ∈ sliceSizes.zipIdx := List.mem_zipIdx_iff_getElem?.mpr listed
    exact checkSliceSize_eq_ok (Fallible.forM_eq_ok_iff.mp inside (size, index) member)

end Shape

end Stablehlo
