import Stablehlo.Transforms.SingleSlice

/-! The simplification of gathers at a constant index vector to static slices. -/

namespace Stablehlo

section Patterns

/-- A slice, perhaps with a reshape of it, and the types of both results. -/
structure SliceAndReshape where
  slice : SliceOp
  sliceType : RankedTensorType
  reshapeType : Option RankedTensorType

/-- Replace a gather at one constant index vector by a slice, and a reshape where dimensions of the
slice are not those of the result. -/
def gatherOpCanon (operandType : RankedTensorType) (index : Option TypedTensor)
    (dims : GatherDimensionNumbers) (sliceSizes : List Int64) (resultType : RankedTensorType) :
    Except Failure (Option SliceAndReshape) :=
  match index with
  | none => .ok none
  | some index =>
    if dims.indexVectorDim ≠ 0 ∨ 1 < index.elements.shape.length then .ok none
    else if index.elements.data.length ≠ dims.startIndexMap.length then .ok none
    else if !operandType.hasStaticShape then .ok none
    else do
      let values ← index.elements.data.mapM Element.getIntegerValue
      let sizes := sliceSizes.map Int64.toInt
      let (sliceStart, sliceEnd) ← (dims.startIndexMap.zip values).foldlM
        (moveSlice operandType.shape) (List.replicate sizes.length 0, sizes)
      let slice : SliceOp := {
        startIndices := sliceStart.map Int64.ofInt
        limitIndices := sliceEnd.map Int64.ofInt
        strides := List.replicate sizes.length 1 }
      let sliceShape := List.zipWith (fun endElem startElem => Int64.ofInt (endElem - startElem))
        sliceEnd sliceStart
      if dims.collapsedSliceDims.isEmpty then
        .ok (some { slice, sliceType := resultType, reshapeType := none })
      else
        -- The type the reshape is made with gives way to that of the gather.
        .ok (some {
          slice, sliceType := ⟨sliceShape, resultType.elementType, none⟩
          reshapeType := some resultType })

end Patterns

section Gathers

/-- A gather, with its start indices when they are constant. -/
structure Gather where
  operandType : RankedTensorType
  startIndicesType : RankedTensorType
  startIndices : Option TypedTensor
  dimensionNumbers : GatherDimensionNumbers
  sliceSizes : List Int64
  resultType : RankedTensorType

/-- The sizes of the slices of a gather. -/
def Gather.sizes (op : Gather) : Sizes := op.sliceSizes.map Int64.toNatClampNeg

/-- The type of a gather as it is inferred. -/
def Gather.inferred (op : Gather) : Except InferenceFailure ShapedTypeComponents :=
  inferGatherOp op.operandType op.startIndicesType op.dimensionNumbers op.sliceSizes

/-- The sizes of the result of a gather. -/
def Gather.resultSizes (op : Gather) : Sizes :=
  match op.inferred with
  | .ok components => components.sizes
  | .error _ => []

/-- The verifiers accept the gather, whose start indices are integers. -/
structure Gather.Accepted (op : Gather) : Prop where
  valid : op.operandType.Valid
  inferred : ∃ components, op.inferred = .ok components ∧
    isCompatibleForHloTypeInference
      ⟨components.dims, op.operandType.elementType, components.encoding⟩ op.resultType = true
  elementType : op.operandType.elementType = op.resultType.elementType
  constant : ∀ tensor, op.startIndices = some tensor → op.startIndicesType.IsStatic tensor.type ∧
    isSupportedIntegerType tensor.elementType = true

/-- The tensor is the gather of the operand as it is specified. -/
def Gather.Specifies (op : Gather) (startIndices : TypedTensor) {α : Type}
    (operand value : Tensor α) : Prop :=
  value.shape = op.resultSizes ∧
    ∀ resultIndex, MixedRadix.Within op.resultSizes resultIndex → ∃ startIndex operandIndex,
      op.dimensionNumbers.indexAxes.startVector Element.integer startIndices.elements
        (op.dimensionNumbers.indexAxes.batchIndex resultIndex) = .ok startIndex ∧
      operandIndex.map Nat.cast = (List.range op.operandType.sizes.length).map
        (op.dimensionNumbers.indexAxes.coordinate op.operandType.sizes.length
          (clampedStart op.operandType.sizes (op.sliceSizes.map Int64.toInt)) startIndex
          resultIndex) ∧
      MixedRadix.Within op.operandType.sizes operandIndex ∧
      value.get resultIndex = operand.get operandIndex

/-- The value of a slice that may be reshaped. -/
def SliceAndReshape.eval {α : Type} (made : SliceAndReshape) (resultSizes : Sizes)
    (operand : Tensor α) : Except Failure (Tensor α) := do
  let slice ← made.slice.eval operand
  match made.reshapeType with
  | none => .ok slice
  | some _ => slice.reshapeOp resultSizes

/-- The verifiers accept a slice that may be reshaped, and its type. -/
def SliceAndReshape.Verified (made : SliceAndReshape) (operandType resultType : RankedTensorType) :
    Prop :=
  made.slice.Verified operandType made.sliceType ∧
    match made.reshapeType with
    | none => made.sliceType = resultType
    | some reshapeType => ReshapeVerified made.sliceType reshapeType ∧ reshapeType = resultType

/-- The gather stays as it is or becomes a slice, which may be reshaped, of its type with the value
that is specified. -/
def Gather.SimplifiesExactly (op : Gather) : Prop :=
  ∃ outcome, gatherOpCanon op.operandType op.startIndices op.dimensionNumbers op.sliceSizes
      op.resultType = .ok outcome ∧
    ∀ made startIndices, outcome = some made → op.startIndices = some startIndices →
      made.Verified op.operandType op.resultType ∧
      ∀ (α : Type) (operand : Tensor α), operand.shape = op.operandType.sizes →
        ∃ value, made.eval op.resultSizes operand = .ok value ∧
          op.Specifies startIndices operand value

/-- With one constant index vector and an operand of known sizes, the type of the reshaped slice is
one that a reshape can have, and for a result with elements, dimensions that are collapsed have a
position in the slice and sign extension leaves the start indices as they are, but for those that
are clamped to zero anyway. -/
def Gather.Exact (op : Gather) : Prop :=
  op.operandType.hasStaticShape = true → ∀ startIndices, op.startIndices = some startIndices →
    op.dimensionNumbers.indexVectorDim = 0 → startIndices.elements.shape.length ≤ 1 →
    (op.dimensionNumbers.collapsedSliceDims ≠ [] →
      op.resultType.hasStaticShape = true ∨ op.resultType.hasSingleBoundedDimension = true) ∧
    (0 < op.resultSizes.prod →
      (∀ d ∈ axes op.dimensionNumbers.collapsedSliceDims, op.sizes.getD d 0 ≠ 0) ∧
      ∀ (place d : Nat) (element : Element),
        (axes op.dimensionNumbers.startIndexMap)[place]? = some d →
        startIndices.elements.data[place]? = some element →
        element.signExtended = element.integer ∨ op.operandType.sizes.getD d 0 = op.sizes.getD d 0)

/-- Types of known sizes are compatible when their sizes are the same. -/
theorem shape_eq_of_compatible {first second : RankedTensorType}
    (firstStatic : first.hasStaticShape = true) (secondStatic : second.hasStaticShape = true)
    (compatible : verifyCompatibleShape first second = true) : first.shape = second.shape := by
  unfold verifyCompatibleShape RankedTensorType.rank at compatible
  rw [Bool.and_eq_true, beq_iff_eq, List.all_eq_true] at compatible
  obtain ⟨rank, dims⟩ := compatible
  refine List.ext_getElem rank fun place below other => ?_
  have pair := dims (first.shape[place], second.shape[place])
    (List.mem_iff_getElem?.mpr ⟨place, by simp [below, other]⟩)
  have firstKnown := List.all_eq_true.mp firstStatic _ (List.getElem_mem below)
  have secondKnown := List.all_eq_true.mp secondStatic _ (List.getElem_mem other)
  simp only [Bool.not_eq_true'] at firstKnown secondKnown
  simpa [verifyCompatibleDims, firstKnown, secondKnown] using pair

/-- The sizes of the slices of an accepted gather are known. -/
theorem Gather.known_sizes {op : Gather} {components : ShapedTypeComponents}
    (inferred : op.inferred = .ok components) :
    op.sliceSizes.map Int64.toInt = op.sizes.map Nat.cast := by
  obtain ⟨-, -, -, -, inside, -, -⟩ := inferGatherOp_spec inferred
  rw [Gather.sizes, List.map_map]
  refine List.map_congr_left fun size listed => ?_
  obtain ⟨d, found⟩ := List.mem_iff_getElem?.mp listed
  obtain ⟨-, -, nonneg, -⟩ := inside d size found
  show size.toInt = ((size.toNatClampNeg : Nat) : Int)
  rw [Int64.toNatClampNeg]
  omega

/-- What is known of a gather with a single index vector and an operand of known sizes. -/
structure Gather.Single (op : Gather) (startIndices : TypedTensor)
    (components : ShapedTypeComponents) : Prop where
  fits : GatherFits op.dimensionNumbers.indexAxes op.operandType.sizes
    startIndices.elements.shape op.resultSizes (op.sizes.map Nat.cast)
  single : SingleSlice op.dimensionNumbers.indexAxes op.operandType.sizes.length
    op.resultSizes.length
  dims : components.dims = (op.dimensionNumbers.indexAxes.sliceDims op.operandType.sizes.length).map
    (op.sliceSizes.getD · 0)
  integers : IntegerElements startIndices.elements
  count : startIndices.elements.data.length = op.dimensionNumbers.startIndexMap.length

/-- An accepted gather has a single slice when it has a single index vector. -/
theorem Gather.Accepted.single {op : Gather} {startIndices : TypedTensor}
    {components : ShapedTypeComponents} (accepted : op.Accepted)
    (static : op.operandType.hasStaticShape = true) (constant : op.startIndices = some startIndices)
    (inferred : op.inferred = .ok components)
    (zero : op.dimensionNumbers.indexVectorDim = 0)
    (one : startIndices.elements.shape.length ≤ 1) : op.Single startIndices components := by
  obtain ⟨indicesStatic, integer⟩ := accepted.constant startIndices constant
  have known := accepted.valid.known static
  have sizesKnown := known_sizes inferred
  have sizesEq : op.resultSizes = components.sizes := by rw [resultSizes, inferred]
  have fits := @fits_of_inferred ⟨op.operandType.sizes, op.operandType.elementType⟩ startIndices
    op.operandType op.startIndicesType op.dimensionNumbers op.sliceSizes components ⟨known, rfl⟩
    indicesStatic inferred
  have single := SingleSlice.of_inferred known indicesStatic.1 inferred zero one
  rw [sizesKnown] at fits
  have vectorDim : op.dimensionNumbers.indexAxes.indexVectorDim = 0 := by
    show op.dimensionNumbers.indexVectorDim.toNatClampNeg = 0
    rw [zero]
    rfl
  refine ⟨by rw [sizesEq]; exact fits, by rw [sizesEq]; exact single, ?_,
    integerElements integer, ?_⟩
  · -- The size of a dimension of the result is that of the slice.
    obtain ⟨resultRank, -, verified, -, -, offsetBound, shape⟩ := inferGatherOp_spec inferred
    obtain ⟨verified, -⟩ := verifyGather_verified verified
    have rank := verified.rank
    have operandRank := length_of_known known
    obtain ⟨length, sliceDim, -⟩ := inferGatherShape_spec verified.skippedBound
      verified.skippedUnique (by rw [List.length_append]; omega) offsetBound verified.offsetUnique
      shape
    have dimsLength : components.sizes.length = components.dims.length := List.length_map _
    refine List.ext_getElem (by rw [List.length_map, single.rank, dimsLength])
      fun place below _ => ?_
    have dim := List.getElem?_eq_getElem (show place <
        (op.dimensionNumbers.indexAxes.sliceDims op.operandType.sizes.length).length by
      rw [single.rank, dimsLength]
      exact below)
    have window : (axes op.dimensionNumbers.offsetDims)[place]? = some place := by
      have all : axes op.dimensionNumbers.offsetDims = List.range components.sizes.length :=
        single.window
      rw [all, List.getElem?_range (by omega)]
    obtain ⟨same, short⟩ := sliceDim place place _ window (by
      rw [axes_append, operandRank]
      exact dim)
    rw [List.getElem?_eq_getElem below, List.getElem?_eq_getElem short, Option.some.injEq] at same
    rw [List.getElem_map, List.getD_eq_getElem?_getD, List.getElem?_eq_getElem short, same]
    rfl
  · -- The vector has an entry for each of the dimensions that are mapped.
    have size := fits.valid.vectorSize
    rw [vectorDim] at size
    have length : op.dimensionNumbers.indexAxes.indexMap.length =
        op.dimensionNumbers.startIndexMap.length := length_axes _
    have complete := startIndices.elements.complete
    rw [← length, size, complete]
    match startIndices.elements.shape, one with
    | [], _ => rfl
    | [entries], _ => simp

/-- Constant integers are read with sign extension. -/
theorem mapM_getIntegerValue {elements : List Element}
    (integers : ∀ element ∈ elements, ∃ value, element.value = .integer value) :
    ∃ values, elements.mapM Element.getIntegerValue = .ok values ∧
      (values.map fun value => value.bits.toInt) = elements.map Element.signExtended := by
  induction elements with
  | nil => exact ⟨[], rfl, rfl⟩
  | cons element elements ih =>
    obtain ⟨⟨value, holds⟩, integers⟩ := List.forall_mem_cons.mp integers
    obtain ⟨values, read, signs⟩ := ih integers
    refine ⟨value :: values, ?_, List.cons_eq_cons.mpr ⟨?_, signs⟩⟩
    · rw [List.mapM_cons, read, Element.getIntegerValue, holds]
      rfl
    · rw [Element.signExtended, holds]

/-- A limit and its start are as far apart as the size says. -/
theorem zipWith_limits {starts : Index} {sizes : Sizes} (count : starts.length = sizes.length)
    {sliceSizes : List Int64} (known : sliceSizes.map Int64.toInt = sizes.map Nat.cast) :
    List.zipWith (fun endElem startElem => Int64.ofInt (endElem - startElem))
      (List.zipWith (· + ·) (starts.map (Nat.cast : Nat → Int)) (sizes.map Nat.cast))
      (starts.map Nat.cast) = sliceSizes := by
  induction starts generalizing sizes sliceSizes with
  | nil =>
    cases sizes with
    | nil => exact (List.map_eq_nil_iff.mp known).symm
    | cons size sizes => cases count
  | cons start starts ih =>
    cases sizes with
    | nil => cases count
    | cons size sizes =>
      cases sliceSizes with
      | nil => cases known
      | cons sliceSize sliceSizes =>
        obtain ⟨here, known⟩ := List.cons_eq_cons.mp known
        refine List.cons_eq_cons.mpr ⟨?_, ih (by simpa using count) known⟩
        show Int64.ofInt ((start + size : Int) - start) = sliceSize
        rw [add_sub_cancel_left, ← here, Int64.ofInt_toInt]

/-- A slice is made of its starts and its limits. -/
theorem between_eq (starts : Index) (sizes : Sizes) :
    ({ startIndices := (starts.map (Nat.cast : Nat → Int)).map Int64.ofInt
       limitIndices := (List.zipWith (· + ·) (starts.map (Nat.cast : Nat → Int))
        (sizes.map (Nat.cast : Nat → Int))).map Int64.ofInt
       strides := List.replicate starts.length 1 } : SliceOp) = .between starts sizes := by
  rw [SliceOp.between, List.map_map, List.zipWith_map, List.map_zipWith]
  rfl

/-- The slice that a gather with a single index vector becomes. -/
theorem Gather.Single.gatherOpCanon_eq {op : Gather} {startIndices : TypedTensor}
    {components : ShapedTypeComponents} (one : op.Single startIndices components)
    (valid : op.operandType.Valid) (static : op.operandType.hasStaticShape = true)
    (inferred : op.inferred = .ok components) (zero : op.dimensionNumbers.indexVectorDim = 0)
    (scalars : startIndices.elements.shape.length ≤ 1) :
    gatherOpCanon op.operandType (some startIndices) op.dimensionNumbers op.sliceSizes
        op.resultType =
      .ok (some {
        slice := .between (op.dimensionNumbers.indexAxes.sliceStart op.operandType.sizes
          (op.sizes.map Nat.cast) (startIndices.elements.data.map Element.signExtended)) op.sizes
        sliceType := if op.dimensionNumbers.collapsedSliceDims.isEmpty then op.resultType
          else ⟨op.sliceSizes, op.resultType.elementType, none⟩
        reshapeType := if op.dimensionNumbers.collapsedSliceDims.isEmpty then none
          else some op.resultType }) := by
  have known := valid.known static
  have sizesKnown := known_sizes inferred
  obtain ⟨values, read, signs⟩ := mapM_getIntegerValue one.integers
  have valuesLength : values.length = op.dimensionNumbers.startIndexMap.length := by
    have length := congrArg List.length signs
    rw [List.length_map, List.length_map] at length
    rw [length, one.count]
  have rank := one.fits.length
  have mapUnique := (List.nodup_append.mp one.fits.valid.mapUnique).1
  -- All slices begin at zero before their starts are moved.
  have start : (List.replicate (op.sizes.map (Nat.cast : Nat → Int)).length (0 : Int),
      op.sizes.map (Nat.cast : Nat → Int)) =
      (List.replicate op.operandType.sizes.length 0, List.zipWith (· + ·)
        (List.replicate op.operandType.sizes.length 0) (op.sizes.map (Nat.cast : Nat → Int))) := by
    rw [rank, Prod.mk.injEq]
    refine ⟨rfl, List.ext_getElem (by simp at rank; simp [rank]) fun d _ _ => by simp⟩
  have fold := @foldlM_moveSlice op.operandType.sizes op.operandType.shape
    (op.sizes.map Nat.cast) known rank (fun d below => (one.fits.sizes d below).2)
    op.dimensionNumbers.startIndexMap _ values (List.replicate op.operandType.sizes.length 0) signs
    valuesLength List.length_replicate mapUnique one.fits.valid.mapBound fun d listed => by
      rw [List.getElem?_replicate_of_lt (one.fits.valid.mapBound d listed)]
  have length : (startIndices.elements.data.map Element.signExtended).length =
      op.dimensionNumbers.indexAxes.indexMap.length := by
    rw [List.length_map, one.count]
    exact (length_axes _).symm
  have starts := one.fits.assign_starts length
  change AxisMap.assign (List.replicate op.operandType.sizes.length (0 : Int))
    (axes op.dimensionNumbers.startIndexMap) (List.zipWith
      (clampedStart op.operandType.sizes (op.sizes.map Nat.cast))
      (axes op.dimensionNumbers.startIndexMap) _) = _ at starts
  have sliceLength : (op.dimensionNumbers.indexAxes.sliceStart op.operandType.sizes
      (op.sizes.map Nat.cast) (startIndices.elements.data.map Element.signExtended)).length =
        op.sizes.length := by
    rw [IndexAxes.sliceStart, List.length_map, List.length_range, ← rank, List.length_map]
  unfold gatherOpCanon
  dsimp only
  rw [if_neg (show ¬ (op.dimensionNumbers.indexVectorDim ≠ 0 ∨
      1 < startIndices.elements.shape.length) from
        not_or.mpr ⟨not_not.mpr zero, Nat.not_lt.mpr scalars⟩),
    if_neg (not_not.mpr one.count), static]
  simp only [Bool.not_true, Bool.false_eq_true, if_false]
  rw [read, Fallible.ok_bind, sizesKnown, start, fold, Fallible.ok_bind]
  dsimp only
  rw [starts, zipWith_limits sliceLength sizesKnown]
  rw [List.length_map, ← sliceLength, between_eq]
  -- Both results are made of the same slice.
  split
  · next empty => rfl
  · next other => rfl

section Outcome

variable {op : Gather} {startIndices : TypedTensor} {components : ShapedTypeComponents}

/-- The slice that a gather becomes, given the entries of the index vector. -/
def Gather.sliceAt (op : Gather) (startIndex : List Int) : SliceOp :=
  .between (op.dimensionNumbers.indexAxes.sliceStart op.operandType.sizes
    (op.sizes.map Nat.cast) startIndex) op.sizes

/-- A result without elements comes from a slice without elements. -/
theorem Gather.Single.prod_eq_zero (one : op.Single startIndices components)
    (empty : op.resultSizes.prod = 0) : op.sizes.prod = 0 := by
  have count := one.fits.length
  rw [List.length_map] at count
  rw [one.fits.resultShape_eq one.single, List.prod_eq_zero_iff, List.mem_map] at empty
  obtain ⟨d, kept, zero⟩ := empty
  have below := (AxisMap.mem_rest.mp kept).1
  rw [List.getD_eq_getElem?_getD, List.getElem?_eq_getElem (by omega), Option.getD_some] at zero
  exact List.prod_eq_zero (zero ▸ List.getElem_mem _)

/-- The slices of operands, reshaped, are the gathers of the specification exactly when dimensions
that are collapsed have a position, and sign extension leaves the starts alone. -/
theorem Gather.Single.specifies_iff (one : op.Single startIndices components)
    (known : op.sliceSizes.map Int64.toInt = op.sizes.map Nat.cast)
    (zero : op.dimensionNumbers.indexVectorDim = 0)
    (scalars : startIndices.elements.shape.length ≤ 1) :
    (∀ (α : Type) (operand : Tensor α), operand.shape = op.operandType.sizes →
        ∃ value, ((op.sliceAt (startIndices.elements.data.map Element.signExtended)).eval operand
          >>= (·.reshapeOp op.resultSizes)) = .ok value ∧
            op.Specifies startIndices operand value) ↔
      (0 < op.resultSizes.prod →
        (∀ d ∈ axes op.dimensionNumbers.collapsedSliceDims, op.sizes.getD d 0 ≠ 0) ∧
        ∀ (place d : Nat) (element : Element),
          (axes op.dimensionNumbers.startIndexMap)[place]? = some d →
          startIndices.elements.data[place]? = some element →
          element.signExtended = element.integer ∨
            op.operandType.sizes.getD d 0 = op.sizes.getD d 0) := by
  have count := one.fits.length
  rw [List.length_map] at count
  have mapUnique := (List.nodup_append.mp one.fits.valid.mapUnique).1
  have vectorDim : op.dimensionNumbers.indexAxes.indexVectorDim = 0 := by
    show op.dimensionNumbers.indexVectorDim.toNatClampNeg = 0
    rw [zero]
    rfl
  have small : ∀ size ∈ op.operandType.sizes, size < 2 ^ 63 := by
    intro size listed
    obtain ⟨dim, -, rfl⟩ := List.mem_map.mp listed
    have upper := dim.toInt_lt
    rw [Int64.toNatClampNeg]
    omega
  have vector {resultIndex : Index} (within : MixedRadix.Within op.resultSizes resultIndex)
      (read : Element → Int) : op.dimensionNumbers.indexAxes.startVector read startIndices.elements
        (op.dimensionNumbers.indexAxes.batchIndex resultIndex) =
          .ok (startIndices.elements.data.map read) := by
    have single := one.single
    rw [← within.length_eq] at single
    rw [single.batchIndex_eq, startVector_single vectorDim scalars]
  -- The coordinates of a start are read off the entry that is for its dimension.
  have starts (place d : Nat) (element : Element)
      (mapped : (axes op.dimensionNumbers.startIndexMap)[place]? = some d)
      (stored : startIndices.elements.data[place]? = some element) (read : Element → Int) :
      op.dimensionNumbers.indexAxes.startCoordinate
        (clampedStart op.operandType.sizes (op.sizes.map Nat.cast))
        (startIndices.elements.data.map read) d =
          clampedStart op.operandType.sizes (op.sizes.map Nat.cast) d (read element) := by
    rw [IndexAxes.startCoordinate, AxisMap.idxOf?_of_getElem? mapUnique mapped]
    dsimp only
    rw [List.getD_eq_getElem?_getD, List.getElem?_map, stored]
    rfl
  constructor
  · intro specified positive
    have occupied : ∀ d ∈ axes op.dimensionNumbers.collapsedSliceDims, op.sizes.getD d 0 ≠ 0 := by
      intro d collapsed none
      -- A slice without elements is no reshaped result.
      have below := one.fits.valid.skippedBound d (List.mem_append_left _ collapsed)
      rw [List.getD_eq_getElem?_getD, List.getElem?_eq_getElem (by omega), Option.getD_some] at none
      have empty : op.sizes.prod = 0 := List.prod_eq_zero (none ▸ List.getElem_mem _)
      obtain ⟨value, evaluated, -⟩ := specified Unit
        (.tabulate op.operandType.sizes fun _ => ()) rfl
      obtain ⟨slice, sliced, reshaped⟩ := Fallible.bind_eq_ok.mp evaluated
      obtain ⟨other, again, otherShape, -⟩ := (one.fits.sliceFits
        (startIndices.elements.data.map Element.signExtended)).eval_between small
        (show (Tensor.tabulate op.operandType.sizes fun _ => ()).shape = _ from rfl)
      rw [sliceAt, again, Except.ok.injEq] at sliced
      subst sliced
      exact Tensor.reshapeOp_ne_ok _ _ (by rw [otherShape, empty]; exact positive) reshaped
    refine ⟨occupied, fun place d element mapped stored => ?_⟩
    -- A tensor of its own indices shows where its elements are read.
    obtain ⟨value, evaluated, -, elements⟩ := specified Index
      (.tabulate op.operandType.sizes id) rfl
    obtain ⟨slice, own, sliced, -, reshaped, -, reads⟩ := one.fits.exists_value one.single occupied
      (startIndices.elements.data.map Element.signExtended)
      (show (Tensor.tabulate op.operandType.sizes id).shape = _ from rfl)
    rw [sliceAt, sliced, Fallible.ok_bind, reshaped, Except.ok.injEq] at evaluated
    subst evaluated
    have within := MixedRadix.decode_within positive
    obtain ⟨startIndex, exactIndex, exactVector, exactCoordinates, exactInside, exactRead⟩ :=
      elements _ within
    obtain ⟨signedIndex, signedCoordinates, signedInside, signedRead⟩ := reads _ within
    rw [vector within, Except.ok.injEq] at exactVector
    subst exactVector
    have exactGot := @Tensor.get_tabulate _ op.operandType.sizes id _ exactInside
    have signedGot := @Tensor.get_tabulate _ op.operandType.sizes id _ signedInside
    rw [exactRead, exactGot, signedGot, Except.ok.injEq, id_eq, id_eq] at signedRead
    rw [← signedRead, exactCoordinates, known] at signedCoordinates
    have below := one.fits.valid.mapBound d (List.mem_of_getElem? mapped)
    have same := List.map_inj_left.mp signedCoordinates d (List.mem_range.mpr below)
    rw [IndexAxes.coordinate, IndexAxes.coordinate, Int.add_left_inj, Int.add_left_inj,
      starts place d element mapped stored, starts place d element mapped stored] at same
    have alike := (clampedStart_eq_iff (one.fits.sizes d below).2).mp same.symm
    rw [getD_map_natCast] at alike
    exact alike.imp_right fun equal => by exact_mod_cast equal
  · intro fine α operand own
    rcases Nat.eq_zero_or_pos op.resultSizes.prod with empty | positive
    · -- There is no index of the result.
      obtain ⟨slice, sliced, sliceShape, -⟩ := (one.fits.sliceFits
        (startIndices.elements.data.map Element.signExtended)).eval_between small own
      have prods : slice.shape.prod = op.resultSizes.prod := by
        rw [sliceShape, one.prod_eq_zero empty, empty]
      refine ⟨_, by rw [sliceAt, sliced, Fallible.ok_bind, slice.reshapeOp_eq prods], rfl, ?_⟩
      intro resultIndex within
      have below := MixedRadix.encode_lt within
      omega
    · obtain ⟨occupied, alike⟩ := fine positive
      obtain ⟨slice, value, sliced, -, reshaped, shape, reads⟩ := one.fits.exists_value one.single
        occupied (startIndices.elements.data.map Element.signExtended) own
      refine ⟨value, by rw [sliceAt, sliced, Fallible.ok_bind, reshaped], shape, ?_⟩
      intro resultIndex within
      obtain ⟨operandIndex, coordinates, inside, got⟩ := reads resultIndex within
      refine ⟨_, operandIndex, vector within Element.integer, ?_, inside, got⟩
      rw [coordinates, known]
      refine List.map_congr_left fun d listed => ?_
      rw [IndexAxes.coordinate, IndexAxes.coordinate]
      congr 2
      by_cases mapped : d ∈ op.dimensionNumbers.indexAxes.indexMap
      · obtain ⟨place, found⟩ := List.mem_iff_getElem?.mp mapped
        obtain ⟨short, -⟩ := List.getElem?_eq_some_iff.mp found
        have length : op.dimensionNumbers.indexAxes.indexMap.length =
          op.dimensionNumbers.startIndexMap.length := length_axes _
        have stored := List.getElem?_eq_getElem (show place < startIndices.elements.data.length by
          rw [one.count]
          omega)
        rw [starts place d _ found stored, starts place d _ found stored]
        refine (clampedStart_eq_iff (one.fits.sizes d (List.mem_range.mp listed)).2).mpr ?_
        rw [getD_map_natCast]
        exact (alike place d _ found stored).imp_right fun equal => by exact_mod_cast equal
      · -- Nothing moves the slice along the dimension.
        rw [IndexAxes.startCoordinate, IndexAxes.startCoordinate, AxisMap.idxOf?_eq_none mapped]

/-- A slice has the type that is made for it. -/
theorem Gather.Single.verified_slice (one : op.Single startIndices components)
    (accepted : op.Accepted) (static : op.operandType.hasStaticShape = true)
    (known : op.sliceSizes.map Int64.toInt = op.sizes.map Nat.cast) (startIndex : List Int)
    {sliceType : RankedTensorType}
    (elementType : op.operandType.elementType = sliceType.elementType)
    {inferred : RankedTensorType} (shape : inferred.shape = op.sliceSizes)
    (sameElementType : inferred.elementType = op.operandType.elementType)
    (compatible : isCompatibleForHloTypeInference inferred sliceType = true) :
    (op.sliceAt startIndex).Verified op.operandType sliceType := by
  have fits := one.fits.sliceFits startIndex
  have typed := fits.inferSliceOp_eq (accepted.valid.known static) accepted.valid.bounds
  have sizes : op.sizes.map (fun (size : Nat) => Int64.ofInt size) = op.sliceSizes := by
    have again := congrArg (List.map Int64.ofInt) known
    rw [List.map_map, List.map_map] at again
    rw [← List.map_id op.sliceSizes, ← show Int64.ofInt ∘ Int64.toInt = id from
      funext Int64.ofInt_toInt, again]
    rfl
  refine ⟨?_, ?_, elementType, _, typed, ?_⟩
  · simp [sliceAt, SliceOp.between, fits.lengths]
  · simp [sliceAt, SliceOp.between]
  · exact isCompatible_of_shape (sizes.trans shape.symm) sameElementType.symm
      (encodingToBounds_sliced _) compatible

/-- The sizes of the result are those that were inferred for it. -/
theorem Gather.Single.known_result (one : op.Single startIndices components)
    (inferred : op.inferred = .ok components) :
    components.dims.map Int64.toInt = op.resultSizes.map Nat.cast := by
  have known := known_sizes inferred
  have count := one.fits.length
  rw [List.length_map] at count
  have sizesEq : op.resultSizes = components.sizes := by rw [resultSizes, inferred]
  rw [sizesEq, ShapedTypeComponents.sizes, List.map_map, one.dims, List.map_map, List.map_map]
  refine List.map_congr_left fun d listed => ?_
  have below := (AxisMap.mem_rest.mp listed).1
  have length := length_of_known known
  have found := List.getElem?_eq_getElem (show d < op.sliceSizes.length by omega)
  obtain ⟨size, -, value⟩ := getElem?_of_known known found
  show Int64.toInt (op.sliceSizes.getD d 0) = ((op.sliceSizes.getD d 0).toNatClampNeg : Nat)
  rw [List.getD_eq_getElem?_getD, found, Option.getD_some, Int64.toNatClampNeg]
  omega

/-- When dimensions are collapsed, the verifiers accept the reshaped slice exactly when its type is
one that a reshape can have, as far as both have as many elements. -/
theorem Gather.Single.reshapeVerified (one : op.Single startIndices components)
    (inferred : op.inferred = .ok components)
    (compatible : isCompatibleForHloTypeInference
      ⟨components.dims, op.operandType.elementType, components.encoding⟩ op.resultType = true)
    (count : op.sizes.prod = op.resultSizes.prod)
    (reshapable : op.resultType.hasStaticShape = true ∨
      op.resultType.hasSingleBoundedDimension = true) :
    ReshapeVerified ⟨op.sliceSizes, op.resultType.elementType, none⟩ op.resultType := by
  refine ⟨rfl, reshapable, fun _ static => ?_⟩
  have known := one.known_result inferred
  have sizesKnown := known_sizes inferred
  have inferredStatic : RankedTensorType.hasStaticShape
      ⟨components.dims, op.operandType.elementType, components.encoding⟩ = true := by
    refine List.all_eq_true.mpr fun dim listed => ?_
    obtain ⟨place, found⟩ := List.mem_iff_getElem?.mp listed
    obtain ⟨size, -, value⟩ := getElem?_of_known known found
    rw [isDynamicDimSize_of_natCast value]
    rfl
  unfold isCompatibleForHloTypeInference at compatible
  simp only [Bool.and_eq_true] at compatible
  have shape := shape_eq_of_compatible inferredStatic static compatible.1.1.1
  show (op.resultType.shape.map Int64.toInt).prod = (op.sliceSizes.map Int64.toInt).prod
  have cast (items : List Nat) : (items.map (Nat.cast : Nat → Int)).prod = (items.prod : Nat) :=
    (map_list_prod (Nat.castRingHom Int) items).symm
  rw [← shape, known, sizesKnown, cast, cast, count]

/-- What a gather with a single index vector becomes has its type and the specified value exactly
when the conditions on the type and on the start indices hold. -/
theorem Gather.Single.made_iff (one : op.Single startIndices components)
    (accepted : op.Accepted) (static : op.operandType.hasStaticShape = true)
    (inferred : op.inferred = .ok components)
    (compatible : isCompatibleForHloTypeInference
      ⟨components.dims, op.operandType.elementType, components.encoding⟩ op.resultType = true)
    (zero : op.dimensionNumbers.indexVectorDim = 0)
    (scalars : startIndices.elements.shape.length ≤ 1) {made : SliceAndReshape}
    (slice : made.slice = op.sliceAt (startIndices.elements.data.map Element.signExtended))
    (sliceType : made.sliceType = if op.dimensionNumbers.collapsedSliceDims.isEmpty then
      op.resultType else ⟨op.sliceSizes, op.resultType.elementType, none⟩)
    (reshapeType : made.reshapeType = if op.dimensionNumbers.collapsedSliceDims.isEmpty then none
      else some op.resultType) :
    (made.Verified op.operandType op.resultType ∧
      ∀ (α : Type) (operand : Tensor α), operand.shape = op.operandType.sizes →
        ∃ value, made.eval op.resultSizes operand = .ok value ∧
          op.Specifies startIndices operand value) ↔
    (op.dimensionNumbers.collapsedSliceDims ≠ [] →
      op.resultType.hasStaticShape = true ∨ op.resultType.hasSingleBoundedDimension = true) ∧
    (0 < op.resultSizes.prod →
      (∀ d ∈ axes op.dimensionNumbers.collapsedSliceDims, op.sizes.getD d 0 ≠ 0) ∧
      ∀ (place d : Nat) (element : Element),
        (axes op.dimensionNumbers.startIndexMap)[place]? = some d →
        startIndices.elements.data[place]? = some element →
        element.signExtended = element.integer ∨
          op.operandType.sizes.getD d 0 = op.sizes.getD d 0) := by
  have known := known_sizes inferred
  rw [← one.specifies_iff known zero scalars]
  obtain ⟨madeSlice, madeType, madeReshape⟩ := made
  dsimp only at slice sliceType reshapeType
  subst slice sliceType reshapeType
  rcases empty : op.dimensionNumbers.collapsedSliceDims with _ | ⟨dim, others⟩
  · -- The slice has the shape of the result, so that a reshape leaves it as it is.
    have sliceDims : op.dimensionNumbers.indexAxes.sliceDims op.operandType.sizes.length =
        List.range op.operandType.sizes.length := by
      rw [IndexAxes.sliceDims, one.single.batching, List.append_nil]
      show AxisMap.rest (axes op.dimensionNumbers.collapsedSliceDims) _ = _
      rw [empty]
      exact List.filter_eq_self.mpr fun _ _ => rfl
    have count := one.fits.length
    rw [List.length_map] at count
    have resultSizes : op.resultSizes = op.sizes := by
      rw [one.fits.resultShape_eq one.single, sliceDims, ← count,
        MixedRadix.map_getD_range]
    have dims : components.dims = op.sliceSizes := by
      have length := length_of_known known
      rw [one.dims, sliceDims, ← count, ← length]
      refine List.ext_getElem (by simp) fun place below _ => ?_
      rw [List.length_map, List.length_range] at below
      rw [List.getElem_map, List.getElem_range, List.getD_eq_getElem?_getD,
        List.getElem?_eq_getElem below]
      rfl
    have verified := @verified_slice _ _ _ one accepted static known
      (startIndices.elements.data.map Element.signExtended) op.resultType accepted.elementType
      ⟨components.dims, op.operandType.elementType, components.encoding⟩ dims rfl compatible
    have small : ∀ size ∈ op.operandType.sizes, size < 2 ^ 63 := by
      intro size listed
      obtain ⟨dim, -, rfl⟩ := List.mem_map.mp listed
      have upper := dim.toInt_lt
      rw [Int64.toNatClampNeg]
      omega
    have evaluated (α : Type) (operand : Tensor α) (own : operand.shape = op.operandType.sizes) :
        ((op.sliceAt (startIndices.elements.data.map Element.signExtended)).eval operand >>=
          (·.reshapeOp op.resultSizes)) =
            (op.sliceAt (startIndices.elements.data.map Element.signExtended)).eval operand := by
      obtain ⟨value, sliced, shape, -⟩ := (one.fits.sliceFits
        (startIndices.elements.data.map Element.signExtended)).eval_between small own
      have prods : value.shape.prod = op.resultSizes.prod := by rw [shape, resultSizes]
      rw [sliceAt, sliced, Fallible.ok_bind, value.reshapeOp_eq prods]
      congr 1
      obtain ⟨valueShape, data, complete⟩ := value
      dsimp only at shape
      subst shape
      simp [resultSizes]
    simp only [List.isEmpty_nil, if_true, SliceAndReshape.Verified, SliceAndReshape.eval]
    constructor
    · rintro ⟨-, values⟩
      refine ⟨fun other => absurd rfl other, fun α operand own => ?_⟩
      obtain ⟨value, sliced, specified⟩ := values α operand own
      obtain ⟨slice, sliced, same⟩ := Fallible.bind_eq_ok.mp sliced
      cases same
      exact ⟨value, by rw [evaluated α operand own, sliced], specified⟩
    · rintro ⟨-, values⟩
      refine ⟨⟨verified, trivial⟩, fun α operand own => ?_⟩
      obtain ⟨value, sliced, specified⟩ := values α operand own
      rw [evaluated α operand own] at sliced
      exact ⟨value, by rw [sliced]; rfl, specified⟩
  · -- The slice loses dimensions, and gets the type of the gather with the reshape.
    have verified := @verified_slice _ _ _ one accepted static known
      (startIndices.elements.data.map Element.signExtended)
      ⟨op.sliceSizes, op.resultType.elementType, none⟩ accepted.elementType
      ⟨op.sliceSizes, op.resultType.elementType, none⟩ rfl accepted.elementType.symm
      (isCompatible_self rfl)
    simp only [List.isEmpty_cons, Bool.false_eq_true, if_false, SliceAndReshape.Verified,
      SliceAndReshape.eval]
    constructor
    · rintro ⟨⟨-, reshaped, -⟩, values⟩
      exact ⟨fun _ => reshaped.2.1, values⟩
    · rintro ⟨reshapable, values⟩
      refine ⟨⟨verified, ?_, trivial⟩, values⟩
      refine one.reshapeVerified inferred compatible ?_ (reshapable (List.cons_ne_nil _ _))
      rcases Nat.eq_zero_or_pos op.resultSizes.prod with none | positive
      · rw [none, one.prod_eq_zero none]
      · obtain ⟨occupied, -⟩ := (one.specifies_iff known zero scalars).mp values positive
        exact one.fits.prod_eq one.single occupied

/-- A gather becomes a slice of its type with the specified value exactly when the conditions on
its type and on its start indices hold. -/
theorem Gather.simplifiesExactly_iff (accepted : op.Accepted) :
    op.SimplifiesExactly ↔ op.Exact := by
  obtain ⟨components, inferred, compatible⟩ := accepted.inferred
  rcases constant : op.startIndices with _ | startIndices
  · -- Start indices that are not constant leave the gather alone.
    unfold SimplifiesExactly Exact
    rw [constant]
    exact iff_of_true ⟨none, rfl, nofun⟩ nofun
  by_cases guards : op.operandType.hasStaticShape = true ∧
      op.dimensionNumbers.indexVectorDim = 0 ∧ startIndices.elements.shape.length ≤ 1
  · obtain ⟨static, zero, scalars⟩ := guards
    have one := accepted.single static constant inferred zero scalars
    have made (outcome : SliceAndReshape) := @Single.made_iff _ _ _ one accepted static inferred
      compatible zero scalars outcome
    unfold SimplifiesExactly Exact
    rw [constant, one.gatherOpCanon_eq accepted.valid static inferred zero scalars]
    constructor
    · rintro ⟨_, ⟨⟩, exactly⟩ - others same - -
      cases same
      exact (made _ rfl rfl rfl).mp (exactly _ startIndices rfl rfl)
    · intro conditions
      refine ⟨_, rfl, ?_⟩
      rintro _ _ ⟨⟩ ⟨⟩
      exact (made _ rfl rfl rfl).mpr (conditions static startIndices rfl zero scalars)
  · -- One of the guards fails.
    have untouched : gatherOpCanon op.operandType (some startIndices) op.dimensionNumbers
        op.sliceSizes op.resultType = .ok none := by
      unfold gatherOpCanon
      dsimp only
      split
      · rfl
      · next single =>
        rw [not_or, not_not, Nat.not_lt] at single
        have dynamic : op.operandType.hasStaticShape = false := by
          by_contra static
          exact guards ⟨by simpa using static, single⟩
        rw [dynamic]
        split <;> rfl
    unfold SimplifiesExactly Exact
    rw [constant, untouched]
    refine iff_of_true ⟨none, rfl, nofun⟩ fun static others same zero scalars => ?_
    cases same
    exact (guards ⟨static, zero, scalars⟩).elim

end Outcome

end Gathers

section SlicingOps

/-- An operation that may become a static slice. -/
inductive SlicingOp where
  | dynamicSlice (op : DynamicSlice)
  | gather (op : Gather)

/-- The verifiers accept the operation. -/
def SlicingOp.Accepted : SlicingOp → Prop
  | .dynamicSlice op => op.Accepted
  | .gather op => op.Accepted

/-- The operation stays as it is, or what replaces it is accepted, of its type and has the value
that is specified for it. -/
def SlicingOp.SimplifiesExactly : SlicingOp → Prop
  | .dynamicSlice op => op.SimplifiesExactly
  | .gather op => op.SimplifiesExactly

/-- The conditions on the type of the operation and on its start indices. -/
def SlicingOp.Exact : SlicingOp → Prop
  | .dynamicSlice op => op.Exact
  | .gather op => op.Exact

/-- An accepted operation is replaced by static slices of its type with its value exactly when the
conditions on its type and on its start indices hold. -/
theorem staticSlices_iff {op : SlicingOp} (accepted : op.Accepted) :
    op.SimplifiesExactly ↔ op.Exact := by
  cases op with
  | dynamicSlice op => exact op.simplifiesExactly_iff accepted
  | gather op => exact op.simplifiesExactly_iff accepted

end SlicingOps

/-- A slice of two of four elements, from an unsigned start on. -/
def unsignedSlice : DynamicSlice where
  operandType := ⟨[4], .integer .signless 32, none⟩
  startIndicesTypes := [⟨[], .integer .unsigned 8, none⟩]
  startIndices := [some (integerTensor [] .unsigned ⟨8, 200⟩ rfl)]
  sliceSizes := [2]
  resultType := ⟨[2], .integer .signless 32, none⟩

/-- The slice is accepted. -/
theorem unsignedSlice_accepted : unsignedSlice.Accepted where
  valid := ⟨List.forall_mem_singleton.mpr (by decide), .inl rfl⟩
  inferred := ⟨_, rfl, rfl⟩
  elementType := rfl
  count := rfl
  constants := by
    intro tensor listed
    rw [unsignedSlice, List.mem_singleton, Option.some.injEq] at listed
    rw [listed]
    exact ⟨rfl, rfl⟩

/-- The slice with an unsigned start. -/
theorem staticSlices_iff_unsigned : SlicingOp.SimplifiesExactly (.dynamicSlice unsignedSlice) ↔
    SlicingOp.Exact (.dynamicSlice unsignedSlice) :=
  staticSlices_iff (show SlicingOp.Accepted (.dynamicSlice unsignedSlice) from
    unsignedSlice_accepted)

/-- The start is read as a negative number, so that the slice begins at the front, although it is
to begin as far behind as possible. -/
theorem unsignedSlice_not_exact : SlicingOp.Accepted (.dynamicSlice unsignedSlice) ∧
    ¬ SlicingOp.SimplifiesExactly (.dynamicSlice unsignedSlice) := by
  refine ⟨unsignedSlice_accepted, fun simplified => ?_⟩
  have exact' := (unsignedSlice.simplifiesExactly_iff unsignedSlice_accepted).mp simplified
  obtain ⟨-, alike⟩ := exact' rfl _ (show unsignedSlice.startIndices =
    [integerTensor [] .unsigned ⟨8, 200⟩ rfl].map some from rfl)
  exact absurd (alike (by decide) 0 _ rfl) (by decide)

end Stablehlo
