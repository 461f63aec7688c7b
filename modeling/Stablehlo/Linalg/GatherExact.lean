import Stablehlo.Linalg.Gather

/-! Where the conversion of gathers reads the elements that the interpreter gathers. -/

namespace Stablehlo

namespace Linalg

variable {axes : IndexAxes} {operandShape indicesShape resultShape : Sizes}
  {sliceSizes : List Int} {resultIndex : Index}

section Numbers

/-- Numbers of 64 bits are indices. -/
theorem wrapIndex_eq {value : Int} (small : IsInt64 value) : wrapIndex value = value := by
  rw [IsInt64] at small
  rw [wrapIndex]
  apply Int.bmod_eq_of_le_mul_two <;> omega

/-- An integer is cast to the number it stands for, as far as 64 bits can hold it. -/
theorem indexCast_eq {element : Element} {value : APInt}
    (integer : element.value = .integer value) :
    indexCast element = .ok (wrapIndex element.integer) := by
  obtain ⟨type, held, fits⟩ := element
  cases integer
  cases type with
  | integer signedness width => cases signedness <;> rfl
  | _ => rfl

/-- A cast gives what sign extension does, or a positive number where that is negative. -/
theorem wrapIndex_integer_or (element : Element) :
    element.signExtended = wrapIndex element.integer ∨
      (element.signExtended < 0 ∧ 0 < wrapIndex element.integer) := by
  have small := element.isInt64_signExtended
  obtain ⟨type, value, fits⟩ := element
  cases ElementValue.of_fits fits with
  | @integer signedness value supported =>
    have most := (width_of_supported supported).2
    cases signedness with
    | unsigned =>
      change IsInt64 value.bits.toInt at small
      show value.bits.toInt = wrapIndex value.bits.toNat ∨
        (value.bits.toInt < 0 ∧ 0 < wrapIndex value.bits.toNat)
      rcases Nat.lt_or_ge value.width 64 with narrow | wide
      · -- The number has a zero in front of its bits.
        have bound : value.bits.toNat < 2 ^ 63 :=
          lt_of_lt_of_le value.bits.isLt (Nat.pow_le_pow_right Nat.two_pos (by omega))
        rw [wrapIndex_eq (by rw [IsInt64]; omega), BitVec.toInt_eq_toNat_cond]
        split
        · exact .inl rfl
        · have below := value.bits.isLt
          right
          omega
      · -- All bits are kept, and the first is the sign.
        have full : value.width = 64 := by omega
        left
        rw [BitVec.toInt_eq_toNat_bmod, wrapIndex]
        generalize value.bits.toNat = number
        rw [full]
    | _ => exact .inl (wrapIndex_eq small).symm
  | _ => exact .inl rfl

end Numbers

section Conversion

/-- The loops that the coordinates of an index vector are those of. -/
def gatherIndex (axes : IndexAxes) (resultRank : Nat) : List LoopValue :=
  (axes.batchDims resultRank).map .index

/-- The loop that is taken for a dimension of the indices. -/
def batchingPlace (axes : IndexAxes) (indicesDim : Nat) : Nat :=
  indicesDim + if indicesDim < axes.indexVectorDim then 0 else 1

/-- The computation that is built when there is a loop for each batching dimension. -/
def gatherBody (axes : IndexAxes) (operandRank startIndicesRank : Nat) (resultShape : Sizes) :
    GatherBody where
  tensorIndices := (List.range axes.indexMap.length).map fun i =>
    if axes.indexVectorDim < startIndicesRank then
      (gatherIndex axes resultShape.length).insertIdx axes.indexVectorDim (.constant i)
    else
      gatherIndex axes resultShape.length
  remappedIndexFromIndices := (List.range operandRank).map axes.indexMap.idxOf?
  outputDimSizes := (List.range operandRank).map
    (AxisMap.placed (axes.sliceDims operandRank) (axes.windowDims.map (resultShape.getD · 0)) 1)
  indexFromBatching := (List.range operandRank).map (AxisMap.placed axes.batchingDims
    (axes.indicesBatchingDims.map fun s =>
      (gatherIndex axes resultShape.length).getD (batchingPlace axes s) (.constant 0))
    (.constant 0))
  indexFromOffset := (List.range operandRank).map
    (AxisMap.placed (axes.sliceDims operandRank) (axes.windowDims.map .index) (.constant 0))

/-- Index vectors have as many indices as there are loops for them. -/
theorem length_gatherIndex (valid : axes.Valid operandShape indicesShape resultShape) :
    (gatherIndex axes resultShape.length).length = (axes.batchShape indicesShape).length := by
  have lengths := congrArg List.length valid.outerBatch
  rw [List.length_map] at lengths
  rw [gatherIndex, List.length_map, lengths]

/-- The place of an axis among distinct ones is the value that stands there. -/
theorem placed_range {listed : List Nat} (d : Nat) :
    AxisMap.placed listed ((List.range listed.length).map some) none d = listed.idxOf? d := by
  rw [AxisMap.placed]
  cases found : listed.idxOf? d with
  | none => rfl
  | some place =>
    obtain ⟨below, -⟩ := List.getElem?_eq_some_iff.1 (AxisMap.idxOf?_eq_some found)
    simp [List.getD_eq_getElem?_getD, below]

/-- The conversion builds the computation when there is a loop for each batching dimension. -/
theorem gatherConversion_eq (valid : axes.Valid operandShape indicesShape resultShape)
    (inside : ∀ s ∈ axes.indicesBatchingDims,
      batchingPlace axes s < (gatherIndex axes resultShape.length).length) :
    gatherConversion axes operandShape.length indicesShape.length resultShape =
      .ok (gatherBody axes operandShape.length indicesShape.length resultShape) := by
  have lengths := length_gatherIndex valid
  have slices := AxisMap.length_rest valid.skippedUnique valid.skippedBound
  have rank := valid.rank
  have mapUnique := (List.nodup_append.1 valid.mapUnique).1
  have batchingUnique := (List.nodup_append.1 valid.mapUnique).2.1
  have vectorDim := valid.vectorDim
  have entries : (List.range axes.indexMap.length).mapM
      (gCombine (gatherIndex axes resultShape.length) axes.indexVectorDim indicesShape.length) =
        .ok (gatherBody axes operandShape.length indicesShape.length
          resultShape).tensorIndices := by
    refine Fallible.mapM_eq_ok_map fun i _ => ?_
    rw [gCombine]
    rw [IndexAxes.batchShape] at lengths
    by_cases explicit : axes.indexVectorDim < indicesShape.length
    · rw [if_pos explicit, List.length_eraseIdx_of_lt explicit] at lengths
      rw [if_pos (by omega), if_pos (by omega), if_pos explicit]
    · rw [if_neg (by omega), if_neg explicit]
  have loops : axes.indicesBatchingDims.mapM
      (batchingIndex (gatherIndex axes resultShape.length) axes.indexVectorDim) =
        .ok (axes.indicesBatchingDims.map fun s =>
          (gatherIndex axes resultShape.length).getD (batchingPlace axes s) (.constant 0)) := by
    refine Fallible.mapM_eq_ok_map fun s listed => ?_
    obtain ⟨loop, found⟩ : ∃ loop, (gatherIndex axes resultShape.length)[batchingPlace axes s]? =
      some loop := ⟨_, List.getElem?_eq_getElem (inside s listed)⟩
    rw [List.getD_eq_getElem?_getD, found]
    rw [batchingPlace] at found
    rw [batchingIndex, found]
    rfl
  have sizes := @AxisMap.spread_eq _ (axes.skippedDims ++ axes.batchingDims) 1
    (List.range operandShape.length) (axes.windowDims.map (resultShape.getD · 0))
    List.nodup_range (by
      show (AxisMap.rest _ _).length ≤ _
      rw [List.length_map]
      omega)
  have offsets := @AxisMap.assign_replicate _ (AxisMap.rest (axes.skippedDims ++ axes.batchingDims)
    operandShape.length) (axes.windowDims.map .index) (LoopValue.constant 0) operandShape.length
    (AxisMap.nodup_rest _ _) (by rw [List.length_map]; omega)
  rw [AxisMap.rest] at offsets
  rw [gatherConversion]
  change ((List.range axes.indexMap.length).mapM (gCombine (gatherIndex axes resultShape.length)
    axes.indexVectorDim indicesShape.length) >>= fun _ => _) = _
  rw [entries, Fallible.ok_bind]
  change (axes.indicesBatchingDims.mapM (batchingIndex (gatherIndex axes resultShape.length)
    axes.indexVectorDim) >>= fun _ => _) = _
  rw [loops, Fallible.ok_bind]
  dsimp only
  rw [sizes]
  rw [offsets, AxisMap.assign_replicate mapUnique (by simp), AxisMap.assign_replicate batchingUnique
    (by simp [valid.paired]), List.map_congr_left fun d _ => placed_range d]
  rfl

/-- The conversion fails when there is no loop for a batching dimension. -/
theorem inside_of_gatherConversion {operandRank startIndicesRank : Nat} {body : GatherBody}
    (built : gatherConversion axes operandRank startIndicesRank resultShape = .ok body) :
    ∀ s ∈ axes.indicesBatchingDims,
      batchingPlace axes s < (gatherIndex axes resultShape.length).length := by
  rw [gatherConversion] at built
  obtain ⟨_, -, built⟩ := Fallible.bind_eq_ok.1 built
  obtain ⟨loops, looked, -⟩ := Fallible.bind_eq_ok.1 built
  intro s listed
  obtain ⟨place, here⟩ := List.mem_iff_getElem?.1 listed
  obtain ⟨loop, -, found⟩ := Fallible.getElem?_of_mapM looked here
  rw [batchingIndex] at found
  split at found
  · next index known =>
    exact (List.getElem?_eq_some_iff.1 known).1
  · cases found

end Conversion

section Coordinates

/-- The number of positions along a dimension that the conversion leaves room for. -/
def outputDimSize (axes : IndexAxes) (sliceSizes : List Int) (d : Nat) : Int :=
  if d ∈ axes.skippedDims then 1 else sliceSizes.getD d 0

/-- Where a slice is moved to along a dimension. -/
def loweredStart (axes : IndexAxes) (operandShape : Sizes) (sliceSizes : List Int) (d : Nat)
    (start : Int) : Int :=
  min (max 0 (wrapIndex start)) (operandShape.getD d 0 - outputDimSize axes sliceSizes d)

/-- The coordinate of a batch index that is taken along a dimension. -/
def loweredBatching (axes : IndexAxes) (batchIndex : Index) (d : Nat) : Int :=
  match axes.batchingDims.idxOf? d with
  | some iBatching =>
    (batchIndex.getD (batchingPlace axes (axes.indicesBatchingDims.getD iBatching 0)) 0 : Nat)
  | none => 0

/-- The coordinate along a dimension that is read. -/
def loweredCoordinate (axes : IndexAxes) (operandShape : Sizes) (sliceSizes exact : List Int)
    (resultIndex : Index) (d : Nat) : Int :=
  axes.startCoordinate (loweredStart axes operandShape sliceSizes) exact d +
    loweredBatching axes (axes.batchIndex resultIndex) d +
    axes.windowCoordinate operandShape.length (axes.windowIndex resultIndex) d

/-- The loops are at the batch index. -/
theorem eval_gatherIndex (within : MixedRadix.Within resultShape resultIndex) :
    (gatherIndex axes resultShape.length).map (fun value => value.eval resultIndex) =
      axes.batchIndex resultIndex := by
  rw [gatherIndex, IndexAxes.batchIndex, within.length_eq, List.map_map]
  rfl

/-- The entries of the index vector are extracted. -/
theorem extractions_eq {startIndices : Tensor Element}
    (valid : axes.Valid operandShape startIndices.shape resultShape)
    (integers : IntegerElements startIndices) (within : MixedRadix.Within resultShape resultIndex)
    {exact : List Int}
    (vector : axes.startVector Element.integer startIndices (axes.batchIndex resultIndex) =
      .ok exact) :
    (gatherBody axes operandShape.length startIndices.shape.length resultShape).tensorIndices.mapM
        (fun tensorIndex => extractIndexFromTensor startIndices
          (tensorIndex.map fun value => value.eval resultIndex)) =
      .ok (exact.map wrapIndex) := by
  obtain ⟨elements, -, -, vectors⟩ := valid.exists_startVector (valid.batchIndex_within within)
  rw [vectors, Except.ok.injEq] at vector
  subst vector
  have same := vectors fun element => wrapIndex element.integer
  have size := valid.vectorSize
  -- Every element that is extracted is an integer.
  have cast : ∀ place, extractIndexFromTensor startIndices place = (do
      let element ← startIndices.get place
      .ok (wrapIndex element.integer)) := by
    intro place
    rw [extractIndexFromTensor]
    cases got : startIndices.get place with
    | error failure => rfl
    | ok element =>
      obtain ⟨other, again, stored⟩ := Tensor.get_eq (Tensor.within_of_get got)
      rw [got, Except.ok.injEq] at again
      obtain ⟨value, integer⟩ := integers element (again ▸ List.mem_of_getElem? stored)
      exact indexCast_eq integer
  rw [gatherBody, List.mapM_map, List.map_map]
  rw [IndexAxes.startVector] at same
  by_cases explicit : axes.indexVectorDim < startIndices.shape.length
  · simp only [if_pos explicit] at same size ⊢
    rw [size]
    refine Eq.trans (Fallible.mapM_congr fun entry _ => ?_) same
    rw [Function.comp_apply, cast, List.map_insertIdx, eval_gatherIndex within]
    rfl
  · simp only [if_neg explicit] at same size ⊢
    rw [size, List.range_one, List.mapM_cons, List.mapM_nil, Function.comp_apply, cast,
      eval_gatherIndex within]
    -- There is a single entry.
    obtain ⟨element, got, only⟩ := Fallible.bind_eq_ok.1 same
    rw [got]
    exact only

/-- An entry for each number below a bound is found at the number. -/
theorem getD_map_range {α : Type} {rank d : Nat} (below : d < rank) (entry : Nat → α)
    (default : α) : ((List.range rank).map entry).getD d default = entry d := by
  simp [List.getD_eq_getElem?_getD, below]

/-- Other dimensions than the batching ones have coordinates like those of the interpreter, from
another start. -/
theorem loweredCoordinate_of_notMem {exact : List Int} {d : Nat} (other : d ∉ axes.batchingDims) :
    loweredCoordinate axes operandShape sliceSizes exact resultIndex d =
      axes.coordinate operandShape.length (loweredStart axes operandShape sliceSizes) exact
        resultIndex d := by
  rw [loweredCoordinate, IndexAxes.coordinate, loweredBatching, IndexAxes.batchingCoordinate,
    AxisMap.idxOf?_eq_none other]

/-- Batching dimensions have no start. -/
theorem startCoordinate_batching (valid : axes.Valid operandShape indicesShape resultShape)
    {adjusted : Nat → Int → Int} {start : List Int} {d : Nat} (batching : d ∈ axes.batchingDims) :
    axes.startCoordinate adjusted start d = 0 := by
  have notMapped : d ∉ axes.indexMap := fun mapped =>
    List.disjoint_of_nodup_append valid.mapUnique mapped batching
  rw [IndexAxes.startCoordinate, AxisMap.idxOf?_eq_none notMapped]

/-- Batching dimensions have no window. -/
theorem windowCoordinate_batching {rank d : Nat} (batching : d ∈ axes.batchingDims) :
    axes.windowCoordinate rank (axes.windowIndex resultIndex) d = 0 := by
  have notSlice : d ∉ axes.sliceDims rank := fun remains =>
    (AxisMap.mem_rest.mp remains).2 (List.mem_append_right _ batching)
  rw [IndexAxes.windowCoordinate, AxisMap.placed, AxisMap.idxOf?_eq_none notSlice]

/-- Along a dimension with a start, there is room for the sizes of the slices in the result. -/
theorem outputDimSizes_eq
    (fits : GatherFits axes operandShape indicesShape resultShape sliceSizes) {d : Nat}
    (below : d < operandShape.length) (other : d ∉ axes.batchingDims) :
    ((gatherBody axes operandShape.length indicesShape.length resultShape).outputDimSizes.getD d 1 :
      Int) = outputDimSize axes sliceSizes d := by
  rw [gatherBody, getD_map_range below, outputDimSize, AxisMap.placed]
  by_cases skipped : d ∈ axes.skippedDims
  · have notSlice : d ∉ axes.sliceDims operandShape.length := fun remains =>
      (AxisMap.mem_rest.mp remains).2 (List.mem_append_left _ skipped)
    rw [if_pos skipped, AxisMap.idxOf?_eq_none notSlice]
    rfl
  · have remains : d ∈ axes.sliceDims operandShape.length := by
      rw [IndexAxes.sliceDims, AxisMap.mem_rest, List.mem_append]
      exact ⟨below, by tauto⟩
    obtain ⟨place, found, listed⟩ := AxisMap.exists_place remains
    rw [if_neg skipped, found]
    -- There are as many dimensions of slices in the result as in the operand.
    have count := AxisMap.length_rest fits.valid.skippedUnique fits.valid.skippedBound
    have rank := fits.valid.rank
    have short : place < axes.windowDims.length := by
      have inside := (List.getElem?_eq_some_iff.mp listed).1
      rw [IndexAxes.sliceDims] at inside
      omega
    have window := List.getElem?_eq_getElem short
    rw [← fits.window place _ d window listed]
    simp [List.getD_eq_getElem?_getD, window]

/-- A start is moved so that it has at most one position too few before it. -/
theorem loweredStart_bounds
    (fits : GatherFits axes operandShape indicesShape resultShape sliceSizes) {d : Nat}
    (below : d < operandShape.length) (start : Int) :
    -1 ≤ loweredStart axes operandShape sliceSizes d start ∧
      loweredStart axes operandShape sliceSizes d start + outputDimSize axes sliceSizes d ≤
        operandShape.getD d 0 ∧
      (d ∉ axes.skippedDims → 0 ≤ loweredStart axes operandShape sliceSizes d start) := by
  obtain ⟨nonneg, most⟩ := fits.sizes d below
  rw [loweredStart, outputDimSize]
  split
  · next skipped =>
    exact ⟨by omega, by omega, fun other => absurd skipped other⟩
  · exact ⟨by omega, by omega, fun _ => by omega⟩

/-- Coordinates of batch indices are sizes of the result, which are numbers of 64 bits. -/
theorem loweredBatching_bounds (small : ∀ size ∈ resultShape, size < 2 ^ 63)
    (within : MixedRadix.Within resultShape resultIndex) (d : Nat) :
    0 ≤ loweredBatching axes (axes.batchIndex resultIndex) d ∧
      loweredBatching axes (axes.batchIndex resultIndex) d < 2 ^ 63 := by
  have coordinates : ∀ coordinate ∈ resultIndex, coordinate < 2 ^ 63 := by
    intro coordinate listed
    obtain ⟨place, inside, rfl⟩ := List.mem_iff_getElem.1 listed
    have length := within.length_eq
    have under := (List.forall₂_iff_get.1 within).2 place inside (by omega)
    have size := small _ (List.getElem_mem (show place < resultShape.length by omega))
    simp only [List.get_eq_getElem] at under
    omega
  have each (place : Nat) : (axes.batchIndex resultIndex).getD place 0 < 2 ^ 63 := by
    rw [List.getD_eq_getElem?_getD, IndexAxes.batchIndex, List.getElem?_map]
    cases (axes.batchDims resultIndex.length)[place]? with
    | none => exact Nat.two_pow_pos 63
    | some dim =>
      simp only [Option.map_some, Option.getD_some, List.getD_eq_getElem?_getD]
      cases found : resultIndex[dim]? with
      | none => exact Nat.two_pow_pos 63
      | some coordinate => exact coordinates coordinate (List.mem_of_getElem? found)
  rw [loweredBatching]
  split
  · next iBatching _ =>
    have bound := each (batchingPlace axes (axes.indicesBatchingDims.getD iBatching 0))
    omega
  · omega

/-- No sum exceeds 64 bits. -/
theorem isInt64_loweredCoordinate
    (fits : GatherFits axes operandShape indicesShape resultShape sliceSizes)
    (small : ∀ size ∈ resultShape, size < 2 ^ 63)
    (within : MixedRadix.Within resultShape resultIndex) (exact : List Int) {d : Nat}
    (below : d < operandShape.length) :
    IsInt64 (axes.startCoordinate (loweredStart axes operandShape sliceSizes) exact d +
        loweredBatching axes (axes.batchIndex resultIndex) d) ∧
      IsInt64 (loweredCoordinate axes operandShape sliceSizes exact resultIndex d) := by
  have size := fits.small d below
  have batch := @loweredBatching_bounds axes _ _ small within d
  rw [IsInt64, IsInt64]
  by_cases batching : d ∈ axes.batchingDims
  · -- The sum has one part, which is the index of a loop.
    rw [loweredCoordinate, startCoordinate_batching fits.valid batching,
      windowCoordinate_batching batching]
    omega
  rw [loweredCoordinate_of_notMem batching, loweredBatching, AxisMap.idxOf?_eq_none batching]
  have start : -1 ≤ axes.startCoordinate (loweredStart axes operandShape sliceSizes) exact d ∧
      axes.startCoordinate (loweredStart axes operandShape sliceSizes) exact d ≤
        operandShape.getD d 0 ∧
      (d ∉ axes.skippedDims →
        axes.startCoordinate (loweredStart axes operandShape sliceSizes) exact d +
          sliceSizes.getD d 0 ≤ operandShape.getD d 0) := by
    obtain ⟨nonneg, most⟩ := fits.sizes d below
    rw [IndexAxes.startCoordinate]
    split
    · next entry _ =>
      have bounds := loweredStart_bounds fits below (exact.getD entry 0)
      rw [outputDimSize] at bounds
      split at bounds
      · next skipped =>
        exact ⟨by omega, by omega, fun other => absurd skipped other⟩
      · exact ⟨by omega, by omega, fun _ => by omega⟩
    · exact ⟨by omega, by omega, fun _ => by omega⟩
  by_cases skipped : d ∈ axes.skippedDims
  · rw [fits.valid.coordinate_skipped skipped]
    dsimp only
    omega
  · -- The window ends within the operand.
    have remains : d ∈ axes.sliceDims operandShape.length := by
      rw [IndexAxes.sliceDims, AxisMap.mem_rest, List.mem_append]
      exact ⟨below, by tauto⟩
    obtain ⟨place, found⟩ := List.mem_iff_getElem?.mp remains
    obtain ⟨window, listed, under, same⟩ := fits.valid.coordinate_slice within found
    have width := fits.window place window d listed found
    have most := start.2.2 skipped
    rw [same]
    dsimp only
    omega

/-- The coordinates that the loops compute do not wrap. -/
theorem combine_eq (fits : GatherFits axes operandShape indicesShape resultShape sliceSizes)
    (small : ∀ size ∈ resultShape, size < 2 ^ 63)
    (within : MixedRadix.Within resultShape resultIndex) {exact : List Int}
    (count : exact.length = axes.indexMap.length) {d : Nat} (below : d < operandShape.length) :
    (gatherBody axes operandShape.length indicesShape.length resultShape).combine operandShape
        (exact.map wrapIndex) resultIndex d =
      loweredCoordinate axes operandShape sliceSizes exact resultIndex d := by
  have size := fits.small d below
  have start : (gatherBody axes operandShape.length indicesShape.length resultShape).start
      operandShape (exact.map wrapIndex) d =
        axes.startCoordinate (loweredStart axes operandShape sliceSizes) exact d := by
    rw [GatherBody.start, IndexAxes.startCoordinate, show
      (gatherBody axes operandShape.length indicesShape.length
        resultShape).remappedIndexFromIndices.getD d none = axes.indexMap.idxOf? d from
      getD_map_range below _ _]
    cases found : axes.indexMap.idxOf? d with
    | none => rfl
    | some entry =>
      have listed := AxisMap.idxOf?_eq_some found
      obtain ⟨short, -⟩ := List.getElem?_eq_some_iff.1 listed
      have other : d ∉ axes.batchingDims := fun batching =>
        List.disjoint_of_nodup_append fits.valid.mapUnique (List.mem_of_getElem? listed) batching
      obtain ⟨nonneg, most⟩ := fits.sizes d below
      dsimp only
      rw [clampIndex, loweredStart, outputDimSizes_eq fits below other, wrapIndex_eq (by
        rw [IsInt64, outputDimSize]
        split <;> omega)]
      simp [List.getD_eq_getElem?_getD, show entry < exact.length by omega]
  have batching : (((gatherBody axes operandShape.length indicesShape.length
      resultShape).indexFromBatching.getD d (.constant 0)).eval resultIndex : Int) =
        loweredBatching axes (axes.batchIndex resultIndex) d := by
    rw [gatherBody, getD_map_range below, loweredBatching, AxisMap.placed]
    cases found : axes.batchingDims.idxOf? d with
    | none => rfl
    | some iBatching =>
      have short : iBatching < axes.indicesBatchingDims.length := by
        rw [← fits.valid.paired]
        exact (List.getElem?_eq_some_iff.1 (AxisMap.idxOf?_eq_some found)).1
      dsimp only
      rw [← eval_gatherIndex within]
      simp only [List.getD_eq_getElem?_getD, List.getElem?_map, List.getElem?_eq_getElem short,
        Option.map_some, Option.getD_some]
      cases (gatherIndex axes resultShape.length)[batchingPlace axes
        axes.indicesBatchingDims[iBatching]]? <;> rfl
  have offset : (((gatherBody axes operandShape.length indicesShape.length
      resultShape).indexFromOffset.getD d (.constant 0)).eval resultIndex : Int) =
        axes.windowCoordinate operandShape.length (axes.windowIndex resultIndex) d := by
    rw [gatherBody, getD_map_range below, IndexAxes.windowCoordinate, IndexAxes.windowIndex]
    refine (AxisMap.map_placed (fun value : LoopValue => (value.eval resultIndex : Int)) d).trans ?_
    rw [List.map_map, List.map_map]
    rfl
  rw [GatherBody.combine, start, batching, offset]
  obtain ⟨smallStart, smallSum⟩ := isInt64_loweredCoordinate fits small within exact below
  rw [wrapIndex_eq smallStart]
  exact wrapIndex_eq smallSum

end Coordinates

section Alike

/-- The entries of an index vector lead both to the same elements, given what sign extension makes
of them and their values. -/
structure LoweredStarts (axes : IndexAxes) (operandShape : Sizes) (sliceSizes : List Int)
    (signed exact : List Int) : Prop where
  /-- A cast gives what sign extension does, or the slice cannot be moved. -/
  alike : ∀ dStart d : Nat, axes.indexMap[dStart]? = some d →
    signed.getD dStart 0 = wrapIndex (exact.getD dStart 0) ∨
      (operandShape.getD d 0 : Int) = outputDimSize axes sliceSizes d
  /-- A dimension that slices of size zero have, but the result does not, has some position. -/
  occupied : ∀ d ∈ axes.skippedDims, sliceSizes.getD d 0 = 0 → 0 < operandShape.getD d 0
  /-- The entry for such a dimension is below its size. -/
  inside : ∀ dStart d : Nat, axes.indexMap[dStart]? = some d → d ∈ axes.skippedDims →
    sliceSizes.getD d 0 = 0 → signed.getD dStart 0 < operandShape.getD d 0

/-- Both starts along a dimension are the same, and leave room for a position that is not in the
result. -/
theorem start_alike_iff (fits : GatherFits axes operandShape indicesShape resultShape sliceSizes)
    {d : Nat} (below : d < operandShape.length) (element : Element) :
    (clampedStart operandShape sliceSizes d element.signExtended =
        loweredStart axes operandShape sliceSizes d element.integer ∧
      (d ∈ axes.skippedDims → clampedStart operandShape sliceSizes d element.signExtended <
        operandShape.getD d 0)) ↔
    (element.signExtended = wrapIndex element.integer ∨
        (operandShape.getD d 0 : Int) = outputDimSize axes sliceSizes d) ∧
      (d ∈ axes.skippedDims → sliceSizes.getD d 0 = 0 →
        0 < operandShape.getD d 0 ∧ element.signExtended < operandShape.getD d 0) := by
  obtain ⟨nonneg, most⟩ := fits.sizes d below
  have numbers := wrapIndex_integer_or element
  rw [clampedStart, loweredStart, outputDimSize]
  by_cases skipped : d ∈ axes.skippedDims
  · -- The conversion leaves room for one position, also where slices have none.
    have one := fits.collapsed d skipped
    simp only [skipped, if_true, true_implies]
    constructor
    · rintro ⟨same, under⟩
      omega
    · rintro ⟨alike, inside⟩
      omega
  · simp only [skipped, if_false, false_implies, and_true]
    omega

/-- Along a dimension with a start, both coordinates are the same when the starts are. -/
theorem coordinate_eq_iff (fits : GatherFits axes operandShape indicesShape resultShape sliceSizes)
    {elements : List Element} {dStart d : Nat} (short : dStart < elements.length)
    (listed : axes.indexMap[dStart]? = some d) :
    axes.coordinate operandShape.length (clampedStart operandShape sliceSizes)
          (elements.map Element.signExtended) resultIndex d =
        loweredCoordinate axes operandShape sliceSizes (elements.map Element.integer) resultIndex
          d ↔
      clampedStart operandShape sliceSizes d elements[dStart].signExtended =
        loweredStart axes operandShape sliceSizes d elements[dStart].integer := by
  have other : d ∉ axes.batchingDims := fun batching =>
    List.disjoint_of_nodup_append fits.valid.mapUnique (List.mem_of_getElem? listed) batching
  have mapUnique := (List.nodup_append.1 fits.valid.mapUnique).1
  rw [loweredCoordinate_of_notMem other, IndexAxes.coordinate, IndexAxes.coordinate,
    Int.add_left_inj, Int.add_left_inj, IndexAxes.startCoordinate, IndexAxes.startCoordinate,
    AxisMap.idxOf?_of_getElem? mapUnique listed]
  simp [List.getD_eq_getElem?_getD, short]

/-- Both read the same element of the operand exactly when the starts lead there, and the batching
dimensions have the same coordinates. -/
theorem coordinates_alike_iff
    (fits : GatherFits axes operandShape indicesShape resultShape sliceSizes)
    (within : MixedRadix.Within resultShape resultIndex) {elements : List Element}
    (entries : elements.length = axes.indexMap.length) :
    (∀ d < operandShape.length,
      axes.coordinate operandShape.length (clampedStart operandShape sliceSizes)
          (elements.map Element.signExtended) resultIndex d =
        loweredCoordinate axes operandShape sliceSizes (elements.map Element.integer) resultIndex
          d ∧
      axes.coordinate operandShape.length (clampedStart operandShape sliceSizes)
          (elements.map Element.signExtended) resultIndex d < operandShape.getD d 0) ↔
    LoweredStarts axes operandShape sliceSizes (elements.map Element.signExtended)
        (elements.map Element.integer) ∧
      ∀ d ∈ axes.batchingDims, axes.batchingCoordinate (axes.batchIndex resultIndex) d =
        loweredBatching axes (axes.batchIndex resultIndex) d := by
  have skippedBelow : ∀ d ∈ axes.skippedDims, d < operandShape.length := fun d skipped =>
    fits.valid.skippedBound d (List.mem_append_left _ skipped)
  -- What is said of an entry is said of its element.
  have entry {dStart d : Nat} (listed : axes.indexMap[dStart]? = some d) :
      ∃ short : dStart < elements.length, d < operandShape.length ∧
        (elements.map Element.signExtended).getD dStart 0 = elements[dStart].signExtended ∧
        (elements.map Element.integer).getD dStart 0 = elements[dStart].integer := by
    obtain ⟨short, -⟩ := List.getElem?_eq_some_iff.1 listed
    have inside : dStart < elements.length := by omega
    refine ⟨inside, fits.valid.mapBound d (List.mem_of_getElem? listed), ?_, ?_⟩ <;>
      simp [List.getD_eq_getElem?_getD, inside]
  have skippedStart {dStart d : Nat} (listed : axes.indexMap[dStart]? = some d)
      (short : dStart < elements.length) (skipped : d ∈ axes.skippedDims) :
      axes.coordinate operandShape.length (clampedStart operandShape sliceSizes)
          (elements.map Element.signExtended) resultIndex d =
        clampedStart operandShape sliceSizes d elements[dStart].signExtended := by
    have mapUnique := (List.nodup_append.1 fits.valid.mapUnique).1
    rw [fits.valid.coordinate_skipped skipped, IndexAxes.startCoordinate,
      AxisMap.idxOf?_of_getElem? mapUnique listed]
    simp [List.getD_eq_getElem?_getD, short]
  constructor
  · intro each
    have starts {dStart d : Nat} (listed : axes.indexMap[dStart]? = some d)
        (short : dStart < elements.length) (below : d < operandShape.length) :=
      (start_alike_iff fits below elements[dStart]).1
        ⟨(coordinate_eq_iff fits short listed).1 (each d below).1, fun skipped => by
          rw [← skippedStart listed short skipped]
          exact (each d below).2⟩
    refine ⟨⟨fun dStart d listed => ?_, fun d skipped empty => ?_,
      fun dStart d listed skipped empty => ?_⟩, fun d batching => ?_⟩
    · obtain ⟨short, below, signed, exact⟩ := entry listed
      rw [signed, exact]
      exact (starts listed short below).1
    · have below := skippedBelow d skipped
      have bounds := fits.coordinate_bounds within (elements.map Element.signExtended) below
      have under := (each d below).2
      omega
    · obtain ⟨short, below, signed, -⟩ := entry listed
      rw [signed]
      exact ((starts listed short below).2 skipped empty).2
    · have below := fits.valid.skippedBound d (List.mem_append_right _ batching)
      have same := (each d below).1
      rw [IndexAxes.coordinate, loweredCoordinate, startCoordinate_batching fits.valid batching,
        startCoordinate_batching fits.valid batching] at same
      omega
  · rintro ⟨starts, batches⟩ d below
    by_cases batching : d ∈ axes.batchingDims
    · obtain ⟨coordinate, same, under⟩ := @IndexAxes.Valid.coordinate_batching _ _ _ _ _ fits.valid
        within (clampedStart operandShape sliceSizes) (elements.map Element.signExtended) d batching
      refine ⟨?_, by rw [same]; exact_mod_cast under⟩
      rw [IndexAxes.coordinate, loweredCoordinate, batches d batching,
        startCoordinate_batching fits.valid batching, startCoordinate_batching fits.valid batching]
    by_cases mapped : d ∈ axes.indexMap
    · obtain ⟨dStart, -, listed⟩ := AxisMap.exists_place mapped
      obtain ⟨short, -, signed, exact⟩ := entry listed
      have alike := starts.alike dStart d listed
      have inside := starts.inside dStart d listed
      rw [signed] at alike inside
      rw [exact] at alike
      obtain ⟨same, under⟩ := (start_alike_iff fits below elements[dStart]).2
        ⟨alike, fun skipped empty => ⟨starts.occupied d skipped empty, inside skipped empty⟩⟩
      refine ⟨(coordinate_eq_iff fits short listed).2 same, ?_⟩
      by_cases skipped : d ∈ axes.skippedDims
      · rw [skippedStart listed short skipped]
        exact under skipped
      · exact (fits.coordinate_bounds within _ below).2.2.2 skipped
    · -- Both begin at zero.
      have missing := AxisMap.idxOf?_eq_none mapped
      refine ⟨?_, ?_⟩
      · rw [loweredCoordinate_of_notMem batching, IndexAxes.coordinate, IndexAxes.coordinate,
          IndexAxes.startCoordinate, IndexAxes.startCoordinate, missing]
      · by_cases skipped : d ∈ axes.skippedDims
        · have occupied := starts.occupied d skipped
          obtain ⟨nonneg, most⟩ := fits.sizes d below
          rw [fits.valid.coordinate_skipped skipped, IndexAxes.startCoordinate, missing]
          dsimp only
          omega
        · exact (fits.coordinate_bounds within _ below).2.2.2 skipped

end Alike

section Batching

/-- A result with elements has one at the last position along a dimension, and the first along all
others. -/
theorem exists_last_position {d : Nat} (occupied : 0 ∉ resultShape)
    (below : d < resultShape.length) :
    ∃ index, MixedRadix.Within resultShape index ∧ index.getD d 0 = resultShape.getD d 0 - 1 ∧
      ∀ other, other ≠ d → index.getD other 0 = 0 := by
  have positive : ∀ size ∈ resultShape, 0 < size := fun size listed =>
    Nat.pos_of_ne_zero fun zero => occupied (zero ▸ listed)
  refine ⟨(List.replicate resultShape.length 0).set d (resultShape.getD d 0 - 1), ?_, ?_, ?_⟩
  · refine List.forall₂_iff_get.2 ⟨by simp, fun place _ inside => ?_⟩
    have size := positive _ (List.getElem_mem inside)
    simp only [List.get_eq_getElem, List.getElem_set, List.getElem_replicate]
    split
    · next same =>
      subst same
      rw [List.getD_eq_getElem?_getD, List.getElem?_eq_getElem inside, Option.getD_some]
      omega
    · exact size
  · simp [List.getD_eq_getElem?_getD, below]
  · intro other apart
    rw [List.getD_eq_getElem?_getD, List.getElem?_set_ne (Ne.symm apart), List.getElem?_replicate]
    split <;> rfl

/-- A batch dimension of the result is as large as the dimension of the indices it comes from. -/
theorem size_batchDims (valid : axes.Valid operandShape indicesShape resultShape) {place dim : Nat}
    (found : (axes.batchDims resultShape.length)[place]? = some dim) :
    resultShape.getD dim 0 =
      indicesShape.getD (if place < axes.indexVectorDim then place else place + 1) 0 := by
  have sizes := congrArg (·[place]?) valid.outerBatch
  simp only [List.getElem?_map, found, Option.map_some] at sizes
  have below := (List.getElem?_eq_some_iff.1 sizes.symm).1
  rw [IndexAxes.getElem?_batchShape below] at sizes
  rw [@List.getD_eq_getElem?_getD _ indicesShape, ← sizes, Option.getD_some]

/-- A coordinate of a batch index is the one of the result along its dimension. -/
theorem getD_batchIndex (within : MixedRadix.Within resultShape resultIndex) {place dim : Nat}
    (found : (axes.batchDims resultShape.length)[place]? = some dim) :
    (axes.batchIndex resultIndex).getD place 0 = resultIndex.getD dim 0 := by
  rw [List.getD_eq_getElem?_getD, IndexAxes.batchIndex, within.length_eq, List.getElem?_map, found]
  rfl

/-- Coordinates along two batch dimensions agree for all indices exactly when neither varies. -/
theorem batchIndex_agree_iff (valid : axes.Valid operandShape indicesShape resultShape)
    {place other : Nat} (apart : place ≠ other)
    (below : place < (axes.batchDims resultShape.length).length)
    (otherBelow : other < (axes.batchDims resultShape.length).length) :
    (∀ resultIndex, MixedRadix.Within resultShape resultIndex →
      (axes.batchIndex resultIndex).getD place 0 = (axes.batchIndex resultIndex).getD other 0) ↔
    0 ∈ resultShape ∨
      indicesShape.getD (if place < axes.indexVectorDim then place else place + 1) 0 = 1 ∧
      indicesShape.getD (if other < axes.indexVectorDim then other else other + 1) 0 = 1 := by
  have found := List.getElem?_eq_getElem below
  have otherFound := List.getElem?_eq_getElem otherBelow
  have inside := (AxisMap.mem_rest.1 (List.getElem_mem below)).1
  have otherInside := (AxisMap.mem_rest.1 (List.getElem_mem otherBelow)).1
  have dims : (axes.batchDims resultShape.length)[place] ≠
      (axes.batchDims resultShape.length)[other] := fun same =>
    apart ((List.Nodup.getElem_inj_iff (AxisMap.nodup_rest _ _)).1 same)
  rw [← size_batchDims valid found, ← size_batchDims valid otherFound]
  generalize (axes.batchDims resultShape.length)[place] = dim at *
  generalize (axes.batchDims resultShape.length)[other] = otherDim at *
  constructor
  · intro agree
    by_cases empty : 0 ∈ resultShape
    · exact .inl empty
    · -- At the end of one dimension, the coordinate along the other is zero.
      obtain ⟨last, lastWithin, lastHere, lastOther⟩ := exists_last_position empty inside
      obtain ⟨final, finalWithin, finalHere, finalOther⟩ := exists_last_position empty otherInside
      have first := agree last lastWithin
      have second := agree final finalWithin
      rw [getD_batchIndex lastWithin found, getD_batchIndex lastWithin otherFound, lastHere,
        lastOther _ (Ne.symm dims)] at first
      rw [getD_batchIndex finalWithin found, getD_batchIndex finalWithin otherFound, finalHere,
        finalOther _ dims] at second
      have positive : ∀ d, d < resultShape.length → 0 < resultShape.getD d 0 := by
        intro d short
        rw [List.getD_eq_getElem?_getD, List.getElem?_eq_getElem short, Option.getD_some]
        exact Nat.pos_of_ne_zero fun zero => empty (zero ▸ List.getElem_mem short)
      have size := positive dim inside
      have otherSize := positive otherDim otherInside
      right
      omega
  · rintro (empty | ⟨one, otherOne⟩) resultIndex within
    · -- There is no index.
      obtain ⟨d, short, zero⟩ := List.mem_iff_getElem.1 empty
      have length := within.length_eq
      have under := (List.forall₂_iff_get.1 within).2 d (by omega) short
      simp only [List.get_eq_getElem] at under
      omega
    · have coordinate : ∀ d, d < resultShape.length → resultShape.getD d 0 = 1 →
          resultIndex.getD d 0 = 0 := by
        intro d short single
        have length := within.length_eq
        have under := (List.forall₂_iff_get.1 within).2 d (by omega) short
        rw [List.getD_eq_getElem?_getD, List.getElem?_eq_getElem short, Option.getD_some] at single
        rw [List.getD_eq_getElem?_getD, List.getElem?_eq_getElem (by omega), Option.getD_some]
        simp only [List.get_eq_getElem] at under
        omega
      rw [getD_batchIndex within found, getD_batchIndex within otherFound,
        coordinate dim inside one, coordinate otherDim otherInside otherOne]

/-- What is read along the batching dimensions is right: each is before the dimension of the index
vectors, or neither it nor the dimension two places behind it varies. -/
def BatchingAlike (axes : IndexAxes) (indicesShape resultShape : Sizes) : Prop :=
  ∀ s ∈ axes.indicesBatchingDims, axes.indexVectorDim < s →
    s + 2 < indicesShape.length ∧
      (0 ∈ resultShape ∨ indicesShape.getD s 0 = 1 ∧ indicesShape.getD (s + 2) 0 = 1)

/-- There is a loop for each batching dimension, and it is the one of the interpreter, exactly when
what is read along them is right. -/
theorem batchingAlike_iff (valid : axes.Valid operandShape indicesShape resultShape) :
    BatchingAlike axes indicesShape resultShape ↔
      (∀ s ∈ axes.indicesBatchingDims,
        batchingPlace axes s < (gatherIndex axes resultShape.length).length) ∧
      ∀ resultIndex, MixedRadix.Within resultShape resultIndex → ∀ d ∈ axes.batchingDims,
        axes.batchingCoordinate (axes.batchIndex resultIndex) d =
          loweredBatching axes (axes.batchIndex resultIndex) d := by
  have lengths := length_gatherIndex valid
  have count : (gatherIndex axes resultShape.length).length =
      (axes.batchDims resultShape.length).length := List.length_map _
  have batchLength : axes.indexVectorDim < indicesShape.length →
      (axes.batchShape indicesShape).length = indicesShape.length - 1 := by
    intro explicit
    rw [IndexAxes.batchShape, if_pos explicit, List.length_eraseIdx_of_lt explicit]
  have batchingUnique := (List.nodup_append.1 valid.mapUnique).2.1
  -- The places of a dimension behind that of the index vectors, and of the one that is taken.
  have behind (s : Nat) (later : axes.indexVectorDim < s) :
      batchingPlace axes s = s + 1 ∧
        (if s - 1 < axes.indexVectorDim then s - 1 else s - 1 + 1) = s ∧
        (if s + 1 < axes.indexVectorDim then s + 1 else s + 1 + 1) = s + 2 := by
    rw [batchingPlace, if_neg (by omega), if_neg (by omega), if_neg (by omega)]
    omega
  have coordinates {i d s : Nat} (listed : axes.batchingDims[i]? = some d)
      (paired : axes.indicesBatchingDims[i]? = some s) (batchIndex : Index) :
      axes.batchingCoordinate batchIndex d =
          (batchIndex.getD (s - if s < axes.indexVectorDim then 0 else 1) 0 : Nat) ∧
        loweredBatching axes batchIndex d = (batchIndex.getD (batchingPlace axes s) 0 : Nat) := by
    rw [IndexAxes.batchingCoordinate, loweredBatching,
      AxisMap.idxOf?_of_getElem? batchingUnique listed]
    simp [List.getD_eq_getElem?_getD, paired]
  constructor
  · intro alike
    refine ⟨fun s listed => ?_, fun resultIndex within d batching => ?_⟩
    · have bound := valid.indicesBound s listed
      have apart : s ≠ axes.indexVectorDim := fun same => valid.notVector (same ▸ listed)
      rcases Nat.lt_or_gt_of_ne apart with before | later
      · rw [batchingPlace, if_pos before, lengths]
        by_cases explicit : axes.indexVectorDim < indicesShape.length
        · rw [batchLength explicit]
          omega
        · rw [IndexAxes.batchShape, if_neg explicit]
          omega
      · have inRange := (alike s listed later).1
        rw [(behind s later).1, lengths, batchLength (by omega)]
        omega
    · obtain ⟨i, -, listed⟩ := AxisMap.exists_place batching
      obtain ⟨s, paired⟩ : ∃ s, axes.indicesBatchingDims[i]? = some s :=
        ⟨_, List.getElem?_eq_getElem (by
          rw [← valid.paired]
          exact (List.getElem?_eq_some_iff.1 listed).1)⟩
      have member := List.mem_of_getElem? paired
      have apart : s ≠ axes.indexVectorDim := fun same => valid.notVector (same ▸ member)
      rw [(coordinates listed paired _).1, (coordinates listed paired _).2]
      rcases Nat.lt_or_gt_of_ne apart with before | later
      · rw [batchingPlace, if_pos before]
        rfl
      · obtain ⟨inRange, varies⟩ := alike s member later
        obtain ⟨taken, here, there⟩ := behind s later
        have agree := (@batchIndex_agree_iff _ _ _ _ valid (s - 1) (s + 1) (by omega)
          (by rw [← count, lengths, batchLength (by omega)]; omega)
          (by rw [← count, lengths, batchLength (by omega)]; omega)).2
            (by rw [here, there]; exact varies) resultIndex within
        rw [taken, if_neg (by omega), agree]
  · rintro ⟨inRange, agree⟩ s listed later
    obtain ⟨taken, here, there⟩ := behind s later
    have bound := valid.indicesBound s listed
    have short := inRange s listed
    rw [taken, lengths, batchLength (by omega)] at short
    refine ⟨by omega, ?_⟩
    obtain ⟨i, paired⟩ := List.mem_iff_getElem?.1 listed
    obtain ⟨d, dimListed⟩ : ∃ d, axes.batchingDims[i]? = some d :=
      ⟨_, List.getElem?_eq_getElem (by
        rw [valid.paired]
        exact (List.getElem?_eq_some_iff.1 paired).1)⟩
    have varies := (@batchIndex_agree_iff _ _ _ _ valid (s - 1) (s + 1) (by omega)
      (by rw [← count, lengths, batchLength (by omega)]; omega)
      (by rw [← count, lengths, batchLength (by omega)]; omega)).1 fun resultIndex within => by
        have same := agree resultIndex within d (List.mem_of_getElem? dimListed)
        rw [(coordinates dimListed paired _).1, (coordinates dimListed paired _).2, taken,
          if_neg (by omega)] at same
        exact_mod_cast same
    rwa [here, there] at varies

end Batching

section Result

/-- The loops have the bounds of the result, and give a result when they read its elements. -/
theorem run_toGeneric_iff {α : Type} (storage : Storage α) {operand result : Tensor α}
    {startIndices : Tensor Element} {body : GatherBody} (same : result.shape = resultShape) :
    (body.toGeneric operand startIndices resultShape.length).run [] [storage.allocate resultShape] =
        .ok [result] ↔
      ∀ index, MixedRadix.Within resultShape index →
        body.element operand startIndices index = result.get index := by
  have allocated := storage.shape_allocate resultShape
  have coordinates : ((body.toGeneric operand startIndices resultShape.length).maps
      [resultShape].length).flatten.zip ([] ++ [resultShape]).flatten =
        (AffineMap.ofDims (List.range resultShape.length)).zip resultShape := by
    simp [GenericOp.maps, GatherBody.toGeneric]
  have found : (body.toGeneric operand startIndices resultShape.length).loopRanges []
      [resultShape] = some resultShape := by
    apply GenericOp.loopRanges_eq rfl
    · intro position size listed
      rw [coordinates, GenericOp.mem_zip_ofDims_range rfl] at listed
      obtain ⟨loop, own, there⟩ := listed
      cases own
      exact there
    · intro position inside
      refine ⟨resultShape.get ⟨position, inside⟩, ?_⟩
      rw [coordinates, GenericOp.mem_zip_ofDims_range rfl]
      exact ⟨position, rfl, List.getElem?_eq_getElem inside⟩
  rw [GenericOp.run_parallel_iff (same.trans allocated.symm) rfl, allocated]
  · rw [allocated]
    simp [GenericOp.ranksMatch, GenericOp.maps, GatherBody.toGeneric, AffineMap.ofDims]
  · rw [allocated]
    exact found
  · intro dims args values next computed
    obtain ⟨element, -, one⟩ := Fallible.bind_eq_ok.1 computed
    cases one
    rfl
  · intro index within value
    rw [GenericOp.update, GenericOp.read]
    show (do let element ← body.element operand startIndices index; .ok [element]) = _
    cases body.element operand startIndices index <;> rfl

/-- An element that is its own index is read there. -/
theorem getAt_tabulate_own {shape : Sizes} {coordinates : List Int} {index : Index}
    (got : (Tensor.tabulate shape fun own => own).getAt coordinates = .ok index) :
    index.map Nat.cast = coordinates ∧ MixedRadix.Within shape index := by
  obtain ⟨place, same, within, element⟩ := Tensor.getAt_eq_ok got
  change MixedRadix.Within shape place at within
  rw [Tensor.get_tabulate within, Except.ok.injEq] at element
  subst element
  exact ⟨same, within⟩

/-- For every operand of the shape, the loops that a gather is converted to have the result of the
interpreter, every element of which is read in bounds. -/
def GatherLoweredCorrectly (axes : IndexAxes) (operandShape : Sizes) (startIndices : Tensor Element)
    (sliceSizes : List Int) (resultShape : Sizes) : Prop :=
  ∀ {α : Type} (storage : Storage α) (operand : Tensor α), operand.shape = operandShape →
    ∃ result, gatherOp operand startIndices axes sliceSizes resultShape = .ok result ∧
      runGather axes storage operand startIndices resultShape = .ok [result]

/-- Both read the same elements along the batching dimensions, and begin at the same positions. -/
structure GatherReadAlike (axes : IndexAxes) (operandShape : Sizes) (startIndices : Tensor Element)
    (sliceSizes : List Int) (resultShape : Sizes) : Prop where
  batching : BatchingAlike axes startIndices.shape resultShape
  starts : ∀ resultIndex, MixedRadix.Within resultShape resultIndex → ∀ signed exact,
    axes.startVector Element.signExtended startIndices (axes.batchIndex resultIndex) = .ok signed →
    axes.startVector Element.integer startIndices (axes.batchIndex resultIndex) = .ok exact →
    LoweredStarts axes operandShape sliceSizes signed exact

/-- The loops of a gather whose indices fit have the result of the interpreter exactly when both
read the same elements. -/
theorem loweredCorrectly_of_fits {startIndices : Tensor Element}
    (fits : GatherFits axes operandShape startIndices.shape resultShape sliceSizes)
    (integers : IntegerElements startIndices) (small : ∀ size ∈ resultShape, size < 2 ^ 63) :
    GatherLoweredCorrectly axes operandShape startIndices sliceSizes resultShape ↔
      GatherReadAlike axes operandShape startIndices sliceSizes resultShape := by
  -- What both sides read for an index.
  have reads {α : Type} {operand : Tensor α} (shape : operand.shape = operandShape)
      {elements : List Element} (entries : elements.length = axes.indexMap.length)
      {index : Index} (within : MixedRadix.Within resultShape index)
      (vectors : ∀ read, axes.startVector read startIndices (axes.batchIndex index) =
        .ok (elements.map read)) :
      (do
        let operandIndex ← fullIndexOf axes operand.shape.length startIndices
          (clampStart operand.shape sliceSizes) index
        operand.getAt operandIndex) =
          operand.getAt ((List.range operandShape.length).map (axes.coordinate operandShape.length
            (clampedStart operandShape sliceSizes) (elements.map Element.signExtended) index)) ∧
      (gatherBody axes operandShape.length startIndices.shape.length resultShape).element operand
          startIndices index =
        operand.getAt ((List.range operandShape.length).map (loweredCoordinate axes operandShape
          sliceSizes (elements.map Element.integer) index)) := by
    constructor
    · rw [shape, fits.fullIndexOf_eq integers within (vectors _), Fallible.ok_bind]
    · rw [GatherBody.element, GatherBody.combinedIndex, shape,
        extractions_eq fits.valid integers within (vectors _), Fallible.ok_bind, Fallible.ok_bind]
      congr 1
      refine List.map_congr_left fun d listed => ?_
      exact combine_eq fits small within (by rw [List.length_map, entries])
        (List.mem_range.1 listed)
  have vectors {index : Index} (within : MixedRadix.Within resultShape index) :=
    fits.valid.exists_startVector (fits.valid.batchIndex_within within)
  constructor
  · intro correct
    -- The elements of this operand are their own indices.
    obtain ⟨result, gathered, ran⟩ := correct
      ⟨fun shape => .tabulate shape fun _ => [], fun _ => rfl⟩
      (.tabulate operandShape fun index => index) rfl
    obtain ⟨shape, elements⟩ := Tensor.build_spec gathered
    obtain ⟨body, built, ran⟩ := Fallible.bind_eq_ok.1 ran
    have inside := inside_of_gatherConversion built
    rw [show (Tensor.tabulate operandShape fun index : Index => index).shape =
      operandShape from rfl, gatherConversion_eq fits.valid inside, Except.ok.injEq] at built
    subst built
    have loops := (run_toGeneric_iff _ shape).1 ran
    have alike : ∀ index, MixedRadix.Within resultShape index → ∀ entries : List Element,
        entries.length = axes.indexMap.length →
        (∀ read, axes.startVector read startIndices (axes.batchIndex index) =
          .ok (entries.map read)) →
        LoweredStarts axes operandShape sliceSizes (entries.map Element.signExtended)
            (entries.map Element.integer) ∧
          ∀ d ∈ axes.batchingDims, axes.batchingCoordinate (axes.batchIndex index) d =
            loweredBatching axes (axes.batchIndex index) d := by
      intro index within entries count found
      obtain ⟨interpreted, lowered⟩ := @reads _ (.tabulate operandShape fun index => index) rfl _
        count _ within found
      obtain ⟨value, got, -⟩ := Tensor.get_eq (shape.symm ▸ within :
        MixedRadix.Within result.shape index)
      have first := (interpreted.symm.trans (elements index within).symm).trans got
      have second := (lowered.symm.trans (loops index within)).trans got
      obtain ⟨signedCoordinates, placeWithin⟩ := getAt_tabulate_own first
      obtain ⟨exactCoordinates, -⟩ := getAt_tabulate_own second
      have same := List.map_inj_left.1 (signedCoordinates.symm.trans exactCoordinates)
      refine (coordinates_alike_iff fits within count).1 fun d below =>
        ⟨same d (List.mem_range.2 below), ?_⟩
      -- The index that is read is within the operand.
      have entry := congrArg (·[d]?) signedCoordinates
      have length := placeWithin.length_eq
      have under := (List.forall₂_iff_get.1 placeWithin).2 d (by omega) below
      simp only [List.getElem?_map, List.getElem?_range below, Option.map_some,
        List.getElem?_eq_getElem (show d < value.length by omega), Option.some.injEq] at entry
      rw [← entry, List.getD_eq_getElem?_getD, List.getElem?_eq_getElem below]
      exact_mod_cast under
    refine ⟨(batchingAlike_iff fits.valid).2 ⟨inside, fun index within => ?_⟩,
      fun index within signed exact signedVector exactVector => ?_⟩
    · obtain ⟨entries, count, -, found⟩ := vectors within
      exact (alike index within entries count found).2
    · obtain ⟨entries, count, -, found⟩ := vectors within
      rw [found, Except.ok.injEq] at signedVector exactVector
      subst signedVector exactVector
      exact (alike index within entries count found).1
  · intro alike α storage operand shape
    obtain ⟨inside, batches⟩ := (batchingAlike_iff fits.valid).1 alike.batching
    -- Each index leads both to one place of the operand.
    have places : ∀ index, MixedRadix.Within resultShape index → ∃ place,
        MixedRadix.Within operandShape place ∧
        (do
          let operandIndex ← fullIndexOf axes operand.shape.length startIndices
            (clampStart operand.shape sliceSizes) index
          operand.getAt operandIndex) = operand.get place ∧
        (gatherBody axes operandShape.length startIndices.shape.length resultShape).element operand
          startIndices index = operand.get place := by
      intro index within
      obtain ⟨entries, count, -, found⟩ := vectors within
      obtain ⟨interpreted, lowered⟩ := reads shape count within found
      have each := (coordinates_alike_iff fits within count).2
        ⟨alike.starts index within _ _ (found _) (found _), batches index within⟩
      obtain ⟨place, coordinates, placeWithin⟩ := exists_index fun d below =>
        ⟨(fits.coordinate_bounds within (entries.map Element.signExtended) below).1.trans
          (fits.coordinate_bounds within (entries.map Element.signExtended) below).2.1,
          (each d below).2⟩
      have same : (List.range operandShape.length).map (loweredCoordinate axes operandShape
          sliceSizes (entries.map Element.integer) index) = place.map Nat.cast := by
        rw [coordinates]
        exact List.map_congr_left fun d listed => ((each d (List.mem_range.1 listed)).1).symm
      refine ⟨place, placeWithin, ?_, ?_⟩
      · rw [interpreted, ← coordinates, Tensor.getAt_map_natCast]
      · rw [lowered, same, Tensor.getAt_map_natCast]
    obtain ⟨result, gathered⟩ := Tensor.build_eq_ok fun index within => by
      obtain ⟨place, placeWithin, interpreted, -⟩ := places index within
      obtain ⟨value, got, -⟩ := Tensor.get_eq (shape.symm ▸ placeWithin :
        MixedRadix.Within operand.shape place)
      exact ⟨value, interpreted.trans got⟩
    obtain ⟨resultSizes, elements⟩ := Tensor.build_spec gathered
    refine ⟨result, gathered, ?_⟩
    rw [runGather, shape, gatherConversion_eq fits.valid inside, Fallible.ok_bind,
      run_toGeneric_iff storage resultSizes]
    intro index within
    obtain ⟨place, -, interpreted, lowered⟩ := places index within
    rw [elements index within, lowered, interpreted]

/-- The loops that an accepted gather is converted to have the result of the interpreter exactly
when both read the same elements. -/
theorem gatherLoweredCorrectly_iff {operandType : ShapedType} {startIndices : TypedTensor}
    {operandRanked startIndicesRanked : RankedTensorType} {dims : GatherDimensionNumbers}
    {sizes : List Int64} {components : ShapedTypeComponents}
    (operandStatic : operandRanked.IsStatic operandType)
    (startIndicesStatic : startIndicesRanked.IsStatic startIndices.type)
    (startIndicesInteger : isSupportedIntegerType startIndices.elementType = true)
    (accepted : inferGatherOp operandRanked startIndicesRanked dims sizes = .ok components) :
    GatherLoweredCorrectly dims.indexAxes operandType.shape startIndices.elements
        (sizes.map Int64.toInt) components.sizes ↔
      GatherReadAlike dims.indexAxes operandType.shape startIndices.elements
        (sizes.map Int64.toInt) components.sizes := by
  refine loweredCorrectly_of_fits (fits_of_inferred operandStatic startIndicesStatic accepted)
    (integerElements startIndicesInteger) fun size listed => ?_
  -- The sizes of the result are numbers of 64 bits.
  obtain ⟨dim, -, rfl⟩ := List.mem_map.1 listed
  have bound := Int64.toInt_lt dim
  rw [Int64.toNatClampNeg]
  omega

end Result

section Points

/-- The second element of a vector is read. -/
theorem gatherLoweredCorrectly_point :
    GatherLoweredCorrectly (pointDims 0).indexAxes [4]
      (integerTensor [1] .unsigned ⟨8, 1⟩ rfl).elements [1] [] :=
  (@gatherLoweredCorrectly_iff ⟨[4], .integer .signless 32⟩ (integerTensor [1] .unsigned ⟨8, 1⟩ rfl)
    ⟨[4], .integer .signless 32, none⟩ ⟨[1], .integer .unsigned 8, none⟩ (pointDims 0) [1]
    ⟨[], some (.integer .signless 32), none⟩ ⟨rfl, rfl⟩ ⟨rfl, rfl⟩ rfl rfl).2 {
      batching := fun s listed => by cases listed
      starts := by
        intro resultIndex within signed exact signedVector exactVector
        cases within
        cases signedVector
        cases exactVector
        refine ⟨fun dStart d listed => ?_, fun d skipped empty => ?_,
          fun dStart d listed skipped empty => ?_⟩
        · obtain ⟨short, -⟩ := List.getElem?_eq_some_iff.1 listed
          have first : dStart = 0 := Nat.lt_one_iff.1 short
          subst first
          exact .inl (wrapIndex_eq (by decide)).symm
        all_goals
          have only : d = 0 := List.mem_singleton.1 skipped
          subst only
          cases empty }

/-- The numbers of a gather of points along one dimension, with a batch of the other. -/
abbrev batchedPointDims : GatherDimensionNumbers where
  offsetDims := []
  collapsedSliceDims := [1]
  operandBatchingDims := [0]
  startIndicesBatchingDims := [1]
  startIndexMap := [1]
  indexVectorDim := 0

/-- A batching dimension behind that of the index vectors has no loop, an unsigned start is cast to
another number than the one it is extended to, and a slice without a position is moved to the last
element, although all of these gathers are accepted. -/
theorem gather_not_lowered :
    (inferGatherOp ⟨[2, 3], .integer .signless 8, none⟩ ⟨[1, 2], .integer .signless 8, none⟩
        batchedPointDims [1, 1] = .ok ⟨[2], some (.integer .signless 8), none⟩ ∧
      ¬ GatherLoweredCorrectly batchedPointDims.indexAxes [2, 3]
        (integerTensor [1, 2] .signless ⟨8, 0⟩ rfl).elements [1, 1] [2]) ∧
    (inferGatherOp ⟨[4], .integer .signless 8, none⟩ ⟨[1], .integer .unsigned 2, none⟩
        (pointDims 0) [1] = .ok ⟨[], some (.integer .signless 8), none⟩ ∧
      ¬ GatherLoweredCorrectly (pointDims 0).indexAxes [4]
        (integerTensor [1] .unsigned ⟨2, 3⟩ rfl).elements [1] []) ∧
    (inferGatherOp ⟨[3], .integer .signless 8, none⟩ ⟨[1], .integer .signless 8, none⟩
        (pointDims 0) [0] = .ok ⟨[], some (.integer .signless 8), none⟩ ∧
      ¬ GatherLoweredCorrectly (pointDims 0).indexAxes [3]
        (integerTensor [1] .signless ⟨8, 3⟩ rfl).elements [0] []) := by
  refine ⟨⟨rfl, fun correct => ?_⟩, ⟨rfl, fun correct => ?_⟩, rfl, fun correct => ?_⟩
  · have fits : GatherFits batchedPointDims.indexAxes [2, 3] [1, 2] [2] [1, 1] :=
      @fits_of_inferred ⟨[2, 3], .integer .signless 8⟩ (integerTensor [1, 2] .signless ⟨8, 0⟩ rfl)
        ⟨[2, 3], .integer .signless 8, none⟩ ⟨[1, 2], .integer .signless 8, none⟩
        batchedPointDims [1, 1] ⟨[2], some (.integer .signless 8), none⟩ ⟨rfl, rfl⟩ ⟨rfl, rfl⟩ rfl
    have alike := (loweredCorrectly_of_fits fits (integerElements rfl) (by decide)).1 correct
    exact absurd (alike.batching 1 (by decide) (by decide)).1 (by decide)
  · have fits : GatherFits (pointDims 0).indexAxes [4] [1] [] [1] :=
      @fits_of_inferred ⟨[4], .integer .signless 8⟩ (integerTensor [1] .unsigned ⟨2, 3⟩ rfl)
        ⟨[4], .integer .signless 8, none⟩ ⟨[1], .integer .unsigned 2, none⟩ (pointDims 0) [1]
        ⟨[], some (.integer .signless 8), none⟩ ⟨rfl, rfl⟩ ⟨rfl, rfl⟩ rfl
    have alike := (loweredCorrectly_of_fits fits (integerElements rfl) (by decide)).1 correct
    -- The entry is three, and its sign extension is minus one.
    exact absurd ((alike.starts [] .nil _ _ rfl rfl).alike 0 0 rfl) (by decide)
  · have fits : GatherFits (pointDims 0).indexAxes [3] [1] [] [0] :=
      @fits_of_inferred ⟨[3], .integer .signless 8⟩ (integerTensor [1] .signless ⟨8, 3⟩ rfl)
        ⟨[3], .integer .signless 8, none⟩ ⟨[1], .integer .signless 8, none⟩ (pointDims 0) [0]
        ⟨[], some (.integer .signless 8), none⟩ ⟨rfl, rfl⟩ ⟨rfl, rfl⟩ rfl
    have alike := (loweredCorrectly_of_fits fits (integerElements rfl) (by decide)).1 correct
    exact absurd ((alike.starts [] .nil _ _ rfl rfl).inside 0 0 rfl (by decide) rfl) (by decide)

end Points

end Linalg
end Stablehlo
