import Stablehlo.Transforms.StaticSlices

/-! Gathers with a single index vector: where their slice begins, and what it holds. -/

namespace Stablehlo

/-- With a single index vector, the axes of the result are those of the slice in order. -/
structure SingleSlice (axes : IndexAxes) (operandRank resultRank : Nat) : Prop where
  batching : axes.batchingDims = []
  window : axes.windowDims = List.range resultRank
  rank : (axes.sliceDims operandRank).length = resultRank

section Single

variable {axes : IndexAxes} {operandShape indicesShape resultShape : Sizes} {sliceSizes : List Int}

/-- An accepted gather with a single index vector has a single slice. -/
theorem SingleSlice.of_inferred {operandType startIndicesType : RankedTensorType}
    {dims : GatherDimensionNumbers} {sliceSizes : List Int64} {components : ShapedTypeComponents}
    (operandKnown : operandType.shape.map Int64.toInt = operandShape.map Nat.cast)
    (indicesKnown : startIndicesType.shape.map Int64.toInt = indicesShape.map Nat.cast)
    (inferred : inferGatherOp operandType startIndicesType dims sliceSizes = .ok components)
    (zero : dims.indexVectorDim = 0) (single : indicesShape.length ≤ 1) :
    SingleSlice dims.indexAxes operandShape.length components.sizes.length := by
  obtain ⟨valid, -⟩ := valid_of_inferred operandKnown indicesKnown inferred
  obtain ⟨resultRank, resultRankEq, verified, -, -, offsetBound, shape⟩ :=
    inferGatherOp_spec inferred
  obtain ⟨fits, -⟩ := verifyGather_verified verified
  have operandRank := length_of_known operandKnown
  have indicesRank := length_of_known indicesKnown
  have vectorDim : dims.indexVectorDim.toInt = 0 := by rw [zero]; rfl
  -- There is no dimension of the indices but that of the vector.
  have unpaired : dims.startIndicesBatchingDims = [] := by
    rw [List.eq_nil_iff_forall_not_mem]
    intro dim listed
    obtain ⟨value, below⟩ := toInt_of_isDimInBounds (fits.startBatchingBound dim listed)
    have same : dim = dims.indexVectorDim := by
      apply Int64.toInt_inj.mp
      omega
    exact fits.notVector (same ▸ listed)
  have batching : dims.operandBatchingDims = [] := by
    rw [← List.length_eq_zero_iff, fits.paired, unpaired, List.length_nil]
  have length : components.dims.length = resultRank := by
    have rankEq := fits.rank
    exact (inferGatherShape_spec fits.skippedBound fits.skippedUnique
      (by rw [List.length_append]; omega) offsetBound fits.offsetUnique shape).1
  have sizesLength : components.sizes.length = resultRank := by
    rw [ShapedTypeComponents.sizes, List.length_map, length]
  have offsets : dims.offsetDims.length = resultRank := by
    rw [vectorDim, RankedTensorType.rank] at resultRankEq
    split at resultRankEq <;> omega
  refine ⟨?_, ?_, ?_⟩
  · show Stablehlo.axes dims.operandBatchingDims = []
    rw [batching]
    rfl
  · rw [sizesLength]
    exact axes_eq_range (isSorted_of_verifyGather verified)
      (nodup_axes fits.offsetUnique offsetBound) offsetBound offsets
  · have count := AxisMap.length_rest valid.skippedUnique valid.skippedBound
    have together := valid.rank
    have windows : dims.indexAxes.windowDims.length = dims.offsetDims.length := length_axes _
    rw [IndexAxes.sliceDims]
    omega

/-- The whole index of the result is one within the slice, and none of it one of the indices. -/
theorem SingleSlice.coordinate_eq {operandRank : Nat} {resultIndex : Index}
    (single : SingleSlice axes operandRank resultIndex.length) (adjusted : Nat → Int → Int)
    (startIndex : List Int) (d : Nat) :
    axes.coordinate operandRank adjusted startIndex resultIndex d =
      axes.startCoordinate adjusted startIndex d +
        AxisMap.placed (axes.sliceDims operandRank) (resultIndex.map Nat.cast) 0 d := by
  have own : axes.windowIndex resultIndex = resultIndex := by
    rw [IndexAxes.windowIndex, single.window]
    refine List.ext_getElem (by simp) fun place below _ => ?_
    rw [List.length_map, List.length_range] at below
    rw [List.getElem_map, List.getElem_range, List.getD_eq_getElem?_getD,
      List.getElem?_eq_getElem below]
    rfl
  rw [IndexAxes.coordinate, IndexAxes.batchingCoordinate, single.batching,
    IndexAxes.windowCoordinate, own]
  show axes.startCoordinate adjusted startIndex d + 0 + _ = _
  rw [Int.add_zero]

end Single

section Ends

/-- Move the ends of a slice along a dimension by an index of a gather. -/
def moveSlice (operandShape : List Int64) (ends : List Int × List Int)
    (mapped : Int64 × APInt) : Except Failure (List Int × List Int) :=
  let (sliceStart, sliceEnd) := ends
  let (mapIndex, value) := mapped
  match operandShape[mapIndex.toNatClampNeg]?, sliceEnd[mapIndex.toNatClampNeg]? with
  | some dimSize, some size => do
    let offset ← clamp value.bits.toInt 0 (dimSize.toInt - size)
    .ok (sliceStart.modify mapIndex.toNatClampNeg (· + offset),
      sliceEnd.modify mapIndex.toNatClampNeg (· + offset))
  | _, _ => .error .undefinedBehavior

/-- Moving a start moves the end that belongs to it. -/
theorem zipWith_modify_add {starts sizes : List Int} (d : Nat) (offset : Int) :
    List.zipWith (· + ·) (starts.modify d (· + offset)) sizes =
      (List.zipWith (· + ·) starts sizes).modify d (· + offset) := by
  induction starts generalizing d sizes with
  | nil => simp
  | cons start starts ih =>
    cases sizes with
    | nil => simp
    | cons size sizes =>
      cases d with
      | zero =>
        simp only [List.modify_zero_cons, List.zipWith_cons_cons, List.cons.injEq, and_true]
        omega
      | succ d =>
        rw [List.modify_succ_cons, List.zipWith_cons_cons, List.zipWith_cons_cons, ih,
          List.modify_succ_cons]

/-- A start that is zero is moved to the offset. -/
theorem modify_zero_eq_set {starts : List Int} {d : Nat} (fresh : starts[d]? = some 0)
    (offset : Int) : starts.modify d (· + offset) = starts.set d offset := by
  obtain ⟨below, zero⟩ := List.getElem?_eq_some_iff.mp fresh
  rw [List.modify_eq_set_getElem?, fresh]
  simp

variable {operandShape : Sizes} {operandDims : List Int64} {sizes : List Int}

/-- The ends of the slice are moved by the clamped entries of the index vector. -/
theorem foldlM_moveSlice
    (known : operandDims.map Int64.toInt = operandShape.map Nat.cast)
    (count : sizes.length = operandShape.length)
    (fits : ∀ d < operandShape.length, sizes.getD d 0 ≤ operandShape.getD d 0)
    {mapped : List Int64} {signed : List Int} {values : List APInt}
    {starts : List Int} (signs : values.map (fun value => value.bits.toInt) = signed)
    (paired : values.length = mapped.length) (rank : starts.length = operandShape.length)
    (unique : (axes mapped).Nodup)
    (inside : ∀ d ∈ axes mapped, d < operandShape.length)
    (fresh : ∀ d ∈ axes mapped, starts[d]? = some 0) :
    (mapped.zip values).foldlM (moveSlice operandDims) (starts, List.zipWith (· + ·) starts sizes) =
      .ok (AxisMap.assign starts (axes mapped)
          (List.zipWith (clampedStart operandShape sizes) (axes mapped) signed),
        List.zipWith (· + ·) (AxisMap.assign starts (axes mapped)
          (List.zipWith (clampedStart operandShape sizes) (axes mapped) signed)) sizes) := by
  -- Entries are for different dimensions, so that each finds the size in its end.
  subst signs
  induction mapped generalizing starts values with
  | nil => rfl
  | cons mapIndex mapped ih =>
    cases values with
    | nil => cases paired
    | cons value values =>
      obtain ⟨other, unique⟩ := List.nodup_cons.mp unique
      obtain ⟨below, inside⟩ := List.forall_mem_cons.mp inside
      obtain ⟨here, fresh⟩ := List.forall_mem_cons.mp fresh
      have sizeFound : sizes[mapIndex.toNatClampNeg]? =
          some (sizes.getD mapIndex.toNatClampNeg 0) := by
        rw [List.getD_eq_getElem?_getD, List.getElem?_eq_getElem (by omega)]
        rfl
      have endFound : (List.zipWith (· + ·) starts sizes)[mapIndex.toNatClampNeg]? =
          some (sizes.getD mapIndex.toNatClampNeg 0) := by
        rw [List.getElem?_zipWith, here, sizeFound]
        simp
      have length := length_of_known known
      have dimFound := List.getElem?_eq_getElem (show mapIndex.toNatClampNeg < operandDims.length by
        omega)
      obtain ⟨size, shapeFound, dimEq⟩ := getElem?_of_known known dimFound
      have sizeEq : operandShape.getD mapIndex.toNatClampNeg 0 = size := by
        rw [List.getD_eq_getElem?_getD, shapeFound]
        rfl
      have most := fits _ below
      rw [sizeEq] at most
      have offset : clamp value.bits.toInt 0 (operandDims[mapIndex.toNatClampNeg].toInt -
          sizes.getD mapIndex.toNatClampNeg 0) =
            .ok (clampedStart operandShape sizes mapIndex.toNatClampNeg value.bits.toInt) := by
        rw [clamp, if_neg (by omega), clampedStart, sizeEq, dimEq]
        congr 1
        split
        · omega
        · split <;> omega
      rw [List.zip_cons_cons, List.foldlM_cons]
      have moved : moveSlice operandDims (starts, List.zipWith (· + ·) starts sizes)
          (mapIndex, value) = .ok (starts.set mapIndex.toNatClampNeg
            (clampedStart operandShape sizes mapIndex.toNatClampNeg value.bits.toInt),
            List.zipWith (· + ·) (starts.set mapIndex.toNatClampNeg
              (clampedStart operandShape sizes mapIndex.toNatClampNeg value.bits.toInt))
              sizes) := by
        unfold moveSlice
        dsimp only
        rw [dimFound, endFound]
        dsimp only
        rw [offset, Fallible.ok_bind, ← zipWith_modify_add, modify_zero_eq_set here]
      rw [moved, Fallible.ok_bind]
      refine ih (by simpa using paired) (by rwa [List.length_set]) unique inside fun d listed => ?_
      rw [List.getElem?_set_ne ?_]
      · exact fresh d listed
      · rintro rfl
        exact other listed

/-- What is placed among the axes of the index vectors is where the slice starts. -/
theorem placed_eq_startCoordinate {axes : IndexAxes} {adjusted : Nat → Int → Int}
    {startIndex : List Int} (count : startIndex.length = axes.indexMap.length) (d : Nat) :
    AxisMap.placed axes.indexMap (List.zipWith adjusted axes.indexMap startIndex) 0 d =
      axes.startCoordinate adjusted startIndex d := by
  rw [AxisMap.placed, IndexAxes.startCoordinate]
  rcases found : axes.indexMap.idxOf? d with _ | place
  · rfl
  · -- The place of the axis is that of its entry.
    have listed := AxisMap.idxOf?_eq_some found
    obtain ⟨below, -⟩ := List.getElem?_eq_some_iff.mp listed
    have entry := List.getElem?_eq_getElem (show place < startIndex.length by omega)
    dsimp only
    rw [List.getD_eq_getElem?_getD, List.getD_eq_getElem?_getD, List.getElem?_zipWith, listed,
      entry]
    rfl

end Ends

section Values

variable {axes : IndexAxes} {operandShape indicesShape resultShape sizes : Sizes}

/-- Where the slice of a gather begins along each dimension. -/
def IndexAxes.sliceStart (axes : IndexAxes) (operandShape : Sizes)
    (sliceSizes startIndex : List Int) : Index :=
  (List.range operandShape.length).map fun d =>
    (axes.startCoordinate (clampedStart operandShape sliceSizes) startIndex d).toNat

/-- A slice of a gather begins within the operand and ends there. -/
theorem GatherFits.startCoordinate_bounds {sliceSizes : List Int}
    (fits : GatherFits axes operandShape indicesShape resultShape sliceSizes)
    (startIndex : List Int) {d : Nat} (below : d < operandShape.length) :
    0 ≤ axes.startCoordinate (clampedStart operandShape sliceSizes) startIndex d ∧
      axes.startCoordinate (clampedStart operandShape sliceSizes) startIndex d +
        sliceSizes.getD d 0 ≤ operandShape.getD d 0 := by
  obtain ⟨nonneg, most⟩ := fits.sizes d below
  rw [IndexAxes.startCoordinate]
  cases axes.indexMap.idxOf? d with
  | none =>
    dsimp only
    omega
  | some dStart => exact clampedStart_bounds most _

/-- Slices that fit along each dimension fit. -/
theorem sliceFits_of_forall {start : Nat → Nat} {shape : Sizes}
    (count : sizes.length = shape.length) (inside : ∀ d < shape.length, start d + sizes.getD d 0 ≤ shape.getD d 0) :
    SliceFits shape ((List.range shape.length).map start) sizes := by
  induction shape generalizing sizes start with
  | nil =>
    rw [List.length_nil, List.length_eq_zero_iff] at count
    subst count
    exact .nil
  | cons dimSize shape ih =>
    cases sizes with
    | nil => cases count
    | cons size sizes =>
      rw [List.length_cons, List.range_succ_eq_map, List.map_cons, List.map_map]
      refine .cons (inside 0 (Nat.succ_pos _)) (ih (by simpa using count) fun d below => ?_)
      exact inside (d + 1) (Nat.succ_lt_succ below)

/-- Sizes as numbers that may be negative are the sizes. -/
theorem getD_map_natCast (items : List Nat) (d : Nat) :
    (items.map (Nat.cast : Nat → Int)).getD d 0 = (items.getD d 0 : Nat) := by
  rw [List.getD_eq_getElem?_getD, List.getD_eq_getElem?_getD, List.getElem?_map]
  cases items[d]? <;> rfl

/-- The slice of a gather fits. -/
theorem GatherFits.sliceFits
    (fits : GatherFits axes operandShape indicesShape resultShape (sizes.map Nat.cast))
    (startIndex : List Int) :
    SliceFits operandShape (axes.sliceStart operandShape (sizes.map Nat.cast) startIndex)
      sizes := by
  have count := fits.length
  rw [List.length_map] at count
  refine sliceFits_of_forall count fun d below => ?_
  obtain ⟨nonneg, most⟩ := fits.startCoordinate_bounds startIndex below
  rw [getD_map_natCast] at most
  omega

/-- The starts that the fold ends with are those of the slice. -/
theorem GatherFits.assign_starts {sliceSizes : List Int}
    (fits : GatherFits axes operandShape indicesShape resultShape sliceSizes)
    {startIndex : List Int} (count : startIndex.length = axes.indexMap.length) :
    AxisMap.assign (List.replicate operandShape.length (0 : Int)) axes.indexMap
        (List.zipWith (clampedStart operandShape sliceSizes) axes.indexMap startIndex) =
      (axes.sliceStart operandShape sliceSizes startIndex).map Nat.cast := by
  have unique := (List.nodup_append.mp fits.valid.mapUnique).1
  rw [AxisMap.assign_replicate unique (by rw [List.length_zipWith, count, Nat.min_self]),
    IndexAxes.sliceStart, List.map_map]
  refine List.map_congr_left fun d listed => ?_
  obtain ⟨nonneg, -⟩ := fits.startCoordinate_bounds startIndex (List.mem_range.mp listed)
  rw [placed_eq_startCoordinate count]
  show _ = ((Int.toNat _ : Nat) : Int)
  omega

/-- The index within the slice of what is at an index of the result. -/
def IndexAxes.sliceIndex (axes : IndexAxes) (operandRank : Nat) (resultIndex : Index) : Index :=
  (List.range operandRank).map (AxisMap.placed (axes.sliceDims operandRank) resultIndex 0)

/-- The shape of the result is the shape of the slice without the dimensions that are collapsed. -/
theorem GatherFits.resultShape_eq
    (fits : GatherFits axes operandShape indicesShape resultShape (sizes.map Nat.cast))
    (single : SingleSlice axes operandShape.length resultShape.length) :
    resultShape = (axes.sliceDims operandShape.length).map (sizes.getD · 0) := by
  refine List.ext_getElem (by rw [List.length_map, single.rank]) fun place below _ => ?_
  have dim := List.getElem?_eq_getElem (show place < (axes.sliceDims operandShape.length).length by
    rw [single.rank]
    exact below)
  have window : axes.windowDims[place]? = some place := by
    rw [single.window, List.getElem?_range below]
  have size := fits.window place place _ window dim
  rw [getD_map_natCast, List.getD_eq_getElem?_getD, List.getElem?_eq_getElem below,
    Option.getD_some] at size
  rw [List.getElem_map]
  exact_mod_cast size

variable (fits : GatherFits axes operandShape indicesShape resultShape (sizes.map Nat.cast))
  (single : SingleSlice axes operandShape.length resultShape.length)
  (occupied : ∀ d ∈ axes.skippedDims, sizes.getD d 0 ≠ 0)

include fits single occupied

/-- A dimension that is collapsed has one position. -/
theorem GatherFits.unit : ∀ d ∈ List.range operandShape.length,
    d ∈ axes.skippedDims ++ axes.batchingDims → sizes.getD d 0 = 1 := by
  intro d _ skipped
  rw [single.batching, List.append_nil] at skipped
  have one := fits.collapsed d skipped
  have some := occupied d skipped
  rw [getD_map_natCast] at one
  omega

/-- The slice has as many elements as the result. -/
theorem GatherFits.prod_eq : sizes.prod = resultShape.prod := by
  have count := fits.length
  rw [List.length_map] at count
  have filtered := prod_filter_unit (fits.unit single occupied)
  rw [← count, MixedRadix.map_getD_range sizes 0, count] at filtered
  rw [fits.resultShape_eq single, ← filtered]
  rfl

/-- The index within the slice has the place of the one in the result. -/
theorem GatherFits.sliceIndex_spec {resultIndex : Index}
    (within : MixedRadix.Within resultShape resultIndex) :
    MixedRadix.Within sizes (axes.sliceIndex operandShape.length resultIndex) ∧
      MixedRadix.encode sizes (axes.sliceIndex operandShape.length resultIndex) =
        MixedRadix.encode resultShape resultIndex := by
  have count := fits.length
  rw [List.length_map] at count
  have length := within.length_eq
  have shape := fits.resultShape_eq single
  constructor
  · rw [← MixedRadix.map_getD_range sizes 0, count, IndexAxes.sliceIndex, MixedRadix.Within,
      List.forall₂_map_left_iff, List.forall₂_map_right_iff, List.forall₂_same]
    intro d below
    rw [AxisMap.placed]
    by_cases kept : d ∈ axes.sliceDims operandShape.length
    · -- The coordinate is below the size of its dimension of the result.
      obtain ⟨place, found, listed⟩ := AxisMap.exists_place kept
      obtain ⟨short, -⟩ := List.getElem?_eq_some_iff.mp listed
      rw [single.rank] at short
      have related := (List.forall₂_iff_get.mp within).2 place (by omega) short
      have size := congrArg (·[place]?) shape
      simp only [List.getElem?_map, listed, Option.map_some, List.getElem?_eq_getElem short,
        Option.some.injEq] at size
      rw [found]
      dsimp only
      rw [← size, List.getD_eq_getElem?_getD, List.getElem?_eq_getElem (by omega)]
      exact related
    · rw [AxisMap.idxOf?_eq_none kept]
      have skipped : d ∈ axes.skippedDims ++ axes.batchingDims := by
        by_contra other
        exact kept (AxisMap.mem_rest.mpr ⟨List.mem_range.mp below, other⟩)
      rw [fits.unit single occupied d below skipped]
      exact Nat.one_pos
  · have enough : ((List.range operandShape.length).filter fun d =>
        !(axes.skippedDims ++ axes.batchingDims).contains d).length ≤ resultIndex.length := by
      have rank := single.rank
      rw [IndexAxes.sliceDims, AxisMap.rest] at rank
      omega
    have spread := @AxisMap.spread_eq Nat (axes.skippedDims ++ axes.batchingDims) 0
      (List.range operandShape.length) resultIndex List.nodup_range enough
    have encoded := encode_spread (fits.unit single occupied) spread
    rw [← count, MixedRadix.map_getD_range sizes 0, count] at encoded
    rw [IndexAxes.sliceIndex, IndexAxes.sliceDims, AxisMap.rest, encoded, shape]
    rfl

/-- The slice of an operand, reshaped, has the elements at the coordinates of the gather. -/
theorem GatherFits.exists_value (startIndex : List Int) {α : Type} {operand : Tensor α}
    (own : operand.shape = operandShape) :
    ∃ slice value, (SliceOp.between (axes.sliceStart operandShape (sizes.map Nat.cast) startIndex)
        sizes).eval operand = .ok slice ∧ slice.shape = sizes ∧
      slice.reshapeOp resultShape = .ok value ∧ value.shape = resultShape ∧
      ∀ resultIndex, MixedRadix.Within resultShape resultIndex → ∃ operandIndex,
        operandIndex.map Nat.cast = (List.range operandShape.length).map
          (axes.coordinate operandShape.length (clampedStart operandShape (sizes.map Nat.cast))
            startIndex resultIndex) ∧
        MixedRadix.Within operandShape operandIndex ∧
        value.get resultIndex = operand.get operandIndex := by
  have small : ∀ size ∈ operandShape, size < 2 ^ 63 := by
    intro size listed
    obtain ⟨d, found⟩ := List.mem_iff_getElem?.mp listed
    obtain ⟨below, same⟩ := List.getElem?_eq_some_iff.mp found
    have bound := fits.small d below
    rwa [List.getD_eq_getElem?_getD, found] at bound
  obtain ⟨slice, sliced, sliceShape, held⟩ := (fits.sliceFits startIndex).eval_between small own
  have prods := fits.prod_eq single occupied
  have count : slice.shape.prod = resultShape.prod := by rw [sliceShape, prods]
  have reshaped := slice.reshapeOp_eq count
  refine ⟨slice, _, sliced, sliceShape, reshaped, rfl, fun resultIndex within => ?_⟩
  obtain ⟨sliceWithin, same⟩ := fits.sliceIndex_spec single occupied within
  rw [← sliceShape] at sliceWithin same
  obtain ⟨inside, element⟩ := held _ sliceWithin
  rw [own] at inside
  refine ⟨_, ?_, inside,
    (Tensor.get_reshapeOp count reshaped within sliceWithin same).trans element⟩
  -- Along each dimension, the coordinates of the start and of the slice are added.
  have length := within.length_eq
  rw [← length] at single
  rw [shift, IndexAxes.sliceStart, IndexAxes.sliceIndex, List.zipWith_map, List.zipWith_self,
    List.map_map]
  refine List.map_congr_left fun d listed => ?_
  obtain ⟨nonneg, -⟩ := fits.startCoordinate_bounds startIndex (List.mem_range.mp listed)
  have placedCast : AxisMap.placed (axes.sliceDims operandShape.length)
      (resultIndex.map (Nat.cast : Nat → Int)) 0 d =
        (AxisMap.placed (axes.sliceDims operandShape.length) resultIndex 0 d : Nat) := by
    rw [AxisMap.placed, AxisMap.placed]
    cases (axes.sliceDims operandShape.length).idxOf? d with
    | none => rfl
    | some place => exact getD_map_natCast _ _
  rw [single.coordinate_eq, placedCast]
  show ((_ + _ : Nat) : Int) = _
  omega

end Values

section Vectors

variable {axes : IndexAxes}

/-- The only index vector has all elements. -/
theorem startVector_single {startIndices : Tensor Element} (zero : axes.indexVectorDim = 0)
    (single : startIndices.shape.length ≤ 1) (read : Element → Int) :
    axes.startVector read startIndices [] = .ok (startIndices.data.map read) := by
  obtain ⟨shape, data, complete⟩ := startIndices
  rw [IndexAxes.startVector, zero]
  rcases shape with _ | ⟨count, rest⟩
  · -- The vector is a scalar.
    obtain ⟨element, rfl⟩ := List.length_eq_one_iff.mp complete
    rfl
  · obtain rfl : rest = [] := List.length_eq_zero_iff.mp (by
      rw [List.length_cons] at single
      omega)
    have length : data.length = count := by rw [complete, List.prod_singleton]
    rw [if_pos (by simp)]
    simp only [List.getD_cons_zero, List.insertIdx_zero]
    rw [Fallible.mapM_eq_ok_iff, List.forall₂_iff_get]
    refine ⟨by simp [length], fun place below other => ?_⟩
    rw [List.length_range] at below
    have within : MixedRadix.Within [count] [place] := .cons below .nil
    simp only [List.get_eq_getElem, List.getElem_range, List.getElem_map]
    rw [Tensor.get, flattenIndex_eq within]
    simp [MixedRadix.encode, length, below]

/-- There is no coordinate of an index vector in the indices of the result. -/
theorem SingleSlice.batchIndex_eq {operandRank : Nat} {resultIndex : Index}
    (single : SingleSlice axes operandRank resultIndex.length) :
    axes.batchIndex resultIndex = [] := by
  rw [IndexAxes.batchIndex, IndexAxes.batchDims, List.map_eq_nil_iff,
    List.eq_nil_iff_forall_not_mem]
  intro d listed
  obtain ⟨below, other⟩ := AxisMap.mem_rest.mp listed
  rw [single.window] at other
  exact other (List.mem_range.mpr below)

end Vectors

end Stablehlo
