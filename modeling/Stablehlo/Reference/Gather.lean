import Stablehlo.Dialect.Gather
import Stablehlo.Reference.IndexVectors
import Stablehlo.Reference.StaticShapes

/-! The gather of the interpreter, and the gathers it evaluates as the specification has it. -/

namespace Stablehlo

/-- The axes that verified dimension numbers stand for. -/
def GatherDimensionNumbers.indexAxes (dims : GatherDimensionNumbers) : IndexAxes where
  windowDims := axes dims.offsetDims
  skippedDims := axes dims.collapsedSliceDims
  batchingDims := axes dims.operandBatchingDims
  indicesBatchingDims := axes dims.startIndicesBatchingDims
  indexMap := axes dims.startIndexMap
  indexVectorDim := dims.indexVectorDim.toNatClampNeg

/-- The standard library's `clamp`, which is undefined unless the bounds are in order. -/
def clamp (value low high : Int) : Except Failure Int :=
  if high < low then .error .undefinedBehavior
  else .ok (if value < low then low else if high < value then high else value)

/-- Move the start of a slice so that the slice lies within the operand. -/
def clampStart (operandShape : Sizes) (sliceSizes : List Int) (d : Nat) (start : Int) :
    Except Failure Int :=
  match operandShape[d]?, sliceSizes[d]? with
  | some size, some sliceSize => clamp start 0 (size - sliceSize)
  | _, _ => .error .undefinedBehavior

/-- Gather slices of the operand. -/
def gatherOp {α : Type} (operand : Tensor α) (startIndices : Tensor Element) (axes : IndexAxes)
    (sliceSizes : List Int) (resultShape : Sizes) : Except Failure (Tensor α) :=
  Tensor.build resultShape fun resultIndex => do
    let operandIndex ← fullIndexOf axes operand.shape.length startIndices
      (clampStart operand.shape sliceSizes) resultIndex
    operand.getAt operandIndex

/-- The sizes of a type that is inferred, which are known when those of the operands are. -/
def ShapedTypeComponents.sizes (components : ShapedTypeComponents) : Sizes :=
  components.dims.map Int64.toNatClampNeg

/-- The start of a slice that lies within the operand. -/
def clampedStart (operandShape : Sizes) (sliceSizes : List Int) (d : Nat) (start : Int) : Int :=
  max 0 (min start (operandShape.getD d 0 - sliceSizes.getD d 0))

section Accepted

variable {operandType startIndicesType : RankedTensorType} {dims : GatherDimensionNumbers}
  {sliceSizes : List Int64} {components : ShapedTypeComponents} {operandShape indicesShape : Sizes}

/-- An accepted gather has as many slice sizes as the operand has dimensions. -/
theorem length_sliceSizes_of_inferred
    (inferred : inferGatherOp operandType startIndicesType dims sliceSizes = .ok components) :
    sliceSizes.length = operandType.shape.length := by
  obtain ⟨resultRank, -, verified, -, inside, -, -⟩ := inferGatherOp_spec inferred
  obtain ⟨-, count⟩ := verifyGather_verified verified
  -- There are at most as many sizes as dimensions, so their number is the one that was checked.
  have few : sliceSizes.length ≤ operandType.shape.length := by
    by_contra more
    obtain ⟨dim, found, -⟩ := inside operandType.shape.length
      sliceSizes[operandType.shape.length] (List.getElem?_eq_getElem (by omega))
    simp at found
  rw [List.map_singleton, List.prod_singleton] at count
  have upper := Int64.toInt_lt (Int64.ofNat sliceSizes.length)
  rw [Int64.toInt_ofNat_of_lt (by omega)] at count
  omega

/-- The slices of an accepted gather are within the operand. -/
theorem sliceSizes_of_inferred
    (operandKnown : operandType.shape.map Int64.toInt = operandShape.map Nat.cast)
    (inferred : inferGatherOp operandType startIndicesType dims sliceSizes = .ok components)
    {d : Nat} (below : d < operandShape.length) :
    ∃ size : Int64, sliceSizes[d]? = some size ∧ 0 ≤ size.toInt ∧
      size.toInt ≤ operandShape.getD d 0 := by
  obtain ⟨resultRank, -, verified, -, inside, -, -⟩ := inferGatherOp_spec inferred
  have rank := length_of_known operandKnown
  have length := length_sliceSizes_of_inferred inferred
  have entry := List.getElem?_eq_getElem (show d < sliceSizes.length by omega)
  obtain ⟨dim, found, nonneg, most⟩ := inside d _ entry
  obtain ⟨size, known, value⟩ := getElem?_of_known operandKnown found
  refine ⟨_, entry, nonneg, ?_⟩
  rw [isDynamicDimSize_of_natCast value, value] at most
  rw [List.getD_eq_getElem?_getD, known]
  simpa using most

/-- Batching dimensions that are not mismatched have the same size. -/
theorem same_of_mismatchedBatchingDims {operand indices listed paired : List Int64}
    (operandKnown : operand.map Int64.toInt = operandShape.map Nat.cast)
    (indicesKnown : indices.map Int64.toInt = indicesShape.map Nat.cast)
    (listedBound : ∀ dim ∈ listed, isDimInBounds operand.length dim = true)
    (pairedBound : ∀ dim ∈ paired, isDimInBounds indices.length dim = true)
    (matched : mismatchedBatchingDims operand indices listed paired = none) {i d s : Nat}
    (first : (axes listed)[i]? = some d) (second : (axes paired)[i]? = some s) :
    operandShape[d]? = indicesShape[s]? := by
  rw [axes, List.getElem?_map, Option.map_eq_some_iff] at first second
  obtain ⟨dim, dimListed, rfl⟩ := first
  obtain ⟨other, otherListed, rfl⟩ := second
  have member : ((dim, other), i) ∈ (listed.zip paired).zipIdx := by
    rw [List.mem_zipIdx_iff_getElem?, List.getElem?_zip_eq_some]
    exact ⟨dimListed, otherListed⟩
  -- The sizes are known, so that compatible ones are equal.
  have compatible := List.findSome?_eq_none_iff.mp matched _ member
  have dimBelow := (toInt_of_isDimInBounds (listedBound dim (List.mem_of_getElem? dimListed))).2
  have otherBelow :=
    (toInt_of_isDimInBounds (pairedBound other (List.mem_of_getElem? otherListed))).2
  have dimFound := List.getElem?_eq_getElem dimBelow
  have otherFound := List.getElem?_eq_getElem otherBelow
  obtain ⟨size, sizeFound, value⟩ := getElem?_of_known operandKnown dimFound
  obtain ⟨otherSize, otherSizeFound, otherValue⟩ := getElem?_of_known indicesKnown otherFound
  simp only [List.getD_eq_getElem?_getD, dimFound, otherFound, Option.getD_some] at compatible
  split at compatible
  · next same => rw [sizeFound, otherSizeFound, eq_of_verifyCompatibleDims value otherValue same]
  · cases compatible

/-- An index vector has an entry for each number that is listed. -/
theorem length_of_indexVectorSize {indices : List Int64} {indexVectorDim : Int64} {length : Nat}
    (indicesKnown : indices.map Int64.toInt = indicesShape.map Nat.cast)
    (bounds : 0 ≤ indexVectorDim.toInt ∧ indexVectorDim.toInt ≤ indices.length)
    (size : isDynamicDimSize (indexVectorSize indices indexVectorDim) = true ∨
      (indexVectorSize indices indexVectorDim).toInt = length) :
    length = if indexVectorDim.toNatClampNeg < indicesShape.length then
      indicesShape.getD indexVectorDim.toNatClampNeg 0 else 1 := by
  have rank := length_of_known indicesKnown
  have nonneg : indexVectorDim.toInt = indexVectorDim.toNatClampNeg := by
    rw [Int64.toNatClampNeg]
    omega
  rw [indexVectorSize, nonneg, rank] at size
  by_cases explicit : indexVectorDim.toNatClampNeg < indicesShape.length
  · rw [if_neg (by omega)] at size
    rw [if_pos explicit]
    have found := List.getElem?_eq_getElem (show indexVectorDim.toNatClampNeg <
      indices.length by omega)
    obtain ⟨known, sizeFound, value⟩ := getElem?_of_known indicesKnown found
    rw [List.getD_eq_getElem?_getD, found, Option.getD_some, value,
      isDynamicDimSize_of_natCast value] at size
    rw [List.getD_eq_getElem?_getD, sizeFound, Option.getD_some]
    rcases size with dynamic | same
    · cases dynamic
    · omega
  · -- A dimension of size one is implied.
    rw [if_pos (by omega)] at size
    rw [if_neg explicit]
    rcases size with dynamic | same
    · exact absurd dynamic (by decide)
    · have one : Int64.toInt 1 = 1 := by decide
      omega

/-- A dimension that is not listed stands for an axis that is not listed. -/
theorem not_mem_axes {listed : List Int64} {bound : Nat} {dim : Int64}
    (inBounds : ∀ other ∈ listed, isDimInBounds bound other = true) (nonneg : 0 ≤ dim.toInt)
    (missing : dim ∉ listed) : dim.toNatClampNeg ∉ axes listed := by
  intro member
  obtain ⟨other, present, same⟩ := List.mem_map.mp member
  have value := (toInt_of_isDimInBounds (inBounds other present)).1
  have own : dim.toInt = dim.toNatClampNeg := by
    rw [Int64.toNatClampNeg]
    omega
  have equal : other = dim := by
    apply Int64.toInt_inj.mp
    omega
  exact missing (equal ▸ present)

/-- The dimension numbers of an accepted gather fit the shapes, and its slices have the sizes that
were given for them. -/
theorem valid_of_inferred
    (operandKnown : operandType.shape.map Int64.toInt = operandShape.map Nat.cast)
    (indicesKnown : startIndicesType.shape.map Int64.toInt = indicesShape.map Nat.cast)
    (inferred : inferGatherOp operandType startIndicesType dims sliceSizes = .ok components) :
    dims.indexAxes.Valid operandShape indicesShape components.sizes ∧
      ∀ place window d : Nat, dims.indexAxes.windowDims[place]? = some window →
        (dims.indexAxes.sliceDims operandShape.length)[place]? = some d →
        (components.sizes.getD window 0 : Int) = (sliceSizes.map Int64.toInt).getD d 0 := by
  obtain ⟨resultRank, resultRankEq, verified, -, inside, offsetBound, shape⟩ :=
    inferGatherOp_spec inferred
  obtain ⟨fits, -⟩ := verifyGather_verified verified
  have operandRank := length_of_known operandKnown
  have indicesRank := length_of_known indicesKnown
  have rankEq := fits.rank
  obtain ⟨length, sliceDim, batchDim⟩ := inferGatherShape_spec fits.skippedBound fits.skippedUnique
    (by rw [List.length_append]; omega) offsetBound fits.offsetUnique shape
  have vectorNonneg : dims.indexVectorDim.toInt = dims.indexVectorDim.toNatClampNeg := by
    have bounds := fits.vectorDim
    rw [Int64.toNatClampNeg]
    omega
  have sizesLength : components.sizes.length = resultRank := by
    rw [ShapedTypeComponents.sizes, List.length_map, length]
  have skipped : axes dims.collapsedSliceDims ++ axes dims.operandBatchingDims =
      axes (dims.collapsedSliceDims ++ dims.operandBatchingDims) := (axes_append _ _).symm
  have windowUnique := nodup_axes fits.offsetUnique offsetBound
  have windowBound : ∀ d ∈ axes dims.offsetDims, d < resultRank :=
    fun d listed => axes_lt offsetBound listed
  have vectorBound := fits.vectorDim.2
  rw [vectorNonneg, indicesRank] at vectorBound
  refine ⟨{
    vectorDim := by exact_mod_cast vectorBound
    vectorSize := ?vectorSize
    windowUnique := windowUnique
    windowBound := fun d listed => by rw [sizesLength]; exact windowBound d listed
    skippedUnique := by
      show (axes _ ++ axes _).Nodup
      rw [skipped]
      exact nodup_axes fits.skippedUnique fits.skippedBound
    skippedBound := by
      show ∀ d ∈ axes _ ++ axes _, _
      rw [skipped, ← operandRank]
      exact fun d listed => axes_lt fits.skippedBound listed
    rank := by
      show (axes _).length + (axes _ ++ axes _).length = _
      rw [List.length_append, length_axes, length_axes, length_axes]
      omega
    indicesBound := fun d listed => by
      rw [← indicesRank]
      exact axes_lt fits.startBatchingBound listed
    notVector := ?notVector
    paired := by
      show (axes _).length = (axes _).length
      rw [length_axes, length_axes, fits.paired]
    pairedSizes := fun i d s first second =>
      same_of_mismatchedBatchingDims operandKnown indicesKnown
        (fun dim listed => fits.skippedBound dim (List.mem_append_right _ listed))
        fits.startBatchingBound fits.pairedSizes first second
    mapUnique := ?mapUnique
    mapBound := fun d listed => by
      rw [← operandRank]
      exact axes_lt fits.mapBound listed
    outerBatch := ?outerBatch }, ?sizes⟩
  case vectorSize =>
    have size := length_of_indexVectorSize indicesKnown fits.vectorDim fits.vectorSize
    rwa [← length_axes] at size
  case notVector =>
    exact not_mem_axes fits.startBatchingBound fits.vectorDim.1 fits.notVector
  case mapUnique =>
    show (axes _ ++ axes _).Nodup
    rw [← axes_append]
    refine @nodup_axes _ operandType.shape.length fits.mapUnique fun dim listed => ?_
    rcases List.mem_append.mp listed with mapped | batching
    · exact fits.mapBound dim mapped
    · exact fits.skippedBound dim (List.mem_append_right _ batching)
  case outerBatch =>
    show (AxisMap.rest (axes dims.offsetDims) components.sizes.length).map
      (components.sizes.getD · 0) = dims.indexAxes.batchShape indicesShape
    have count := AxisMap.length_rest windowUnique windowBound
    rw [length_axes] at count
    rw [sizesLength]
    have batchLength : (dims.indexAxes.batchShape indicesShape).length =
        (AxisMap.rest (axes dims.offsetDims) resultRank).length := by
      rw [RankedTensorType.rank, vectorNonneg, indicesRank] at resultRankEq
      rw [IndexAxes.batchShape]
      by_cases explicit : dims.indexAxes.indexVectorDim < indicesShape.length
      · rw [if_pos explicit, List.length_eraseIdx_of_lt explicit]
        have other : dims.indexVectorDim.toNatClampNeg < indicesShape.length := explicit
        rw [if_neg (by omega)] at resultRankEq
        omega
      · rw [if_neg explicit]
        have same : ¬ dims.indexVectorDim.toNatClampNeg < indicesShape.length := explicit
        rw [if_pos (by omega)] at resultRankEq
        omega
    refine List.ext_getElem (by rw [List.length_map, batchLength]) fun k below _ => ?_
    rw [List.length_map] at below
    obtain ⟨size, stored, source⟩ := batchDim k _ (List.getElem?_eq_getElem below)
    obtain ⟨known, sizeFound, value⟩ := getElem?_of_known indicesKnown source
    have entry : components.sizes.getD
        (AxisMap.rest (axes dims.offsetDims) resultRank)[k] 0 = known := by
      rw [List.getD_eq_getElem?_getD, ShapedTypeComponents.sizes, List.getElem?_map, stored]
      simp only [Option.map_some, Option.getD_some, Int64.toNatClampNeg]
      omega
    have batch : (dims.indexAxes.batchShape indicesShape)[k]? = some known := by
      rw [IndexAxes.getElem?_batchShape (by omega), ← sizeFound, vectorNonneg]
      congr 1
      show (if k < dims.indexVectorDim.toNatClampNeg then _ else _) = _
      split
      · rw [if_neg (by omega)]
      · rw [if_pos (by omega)]
    rw [List.getElem_map, entry]
    obtain ⟨_, same⟩ := List.getElem?_eq_some_iff.mp batch
    exact same.symm
  case sizes =>
    intro place window d offset slice
    have slice' : (AxisMap.rest (axes (dims.collapsedSliceDims ++ dims.operandBatchingDims))
        operandType.shape.length)[place]? = some d := by
      rw [← skipped, operandRank]
      exact slice
    obtain ⟨same, -⟩ := sliceDim place window d offset slice'
    have below := (AxisMap.mem_rest.mp (List.mem_of_getElem? slice)).1
    obtain ⟨size, found, nonneg, -⟩ := sliceSizes_of_inferred operandKnown inferred below
    rw [List.getD_eq_getElem?_getD, List.getD_eq_getElem?_getD, ShapedTypeComponents.sizes,
      List.getElem?_map, List.getElem?_map, same, found]
    simp only [Option.map_some, Option.getD_some, Int64.toNatClampNeg]
    omega

end Accepted

section Specification

variable {axes : IndexAxes} {operandType : ShapedType} {startIndices : TypedTensor}
  {sliceSizes : List Int} {resultShape : Sizes} {resultIndex : Index}

/-- The gather of every operand of the type is the one of the specification: each element of the
result is that of the operand at its index, which is in bounds. -/
def GatherMeetsSpec (axes : IndexAxes) (operandType : ShapedType) (startIndices : TypedTensor)
    (sliceSizes : List Int) (resultShape : Sizes) : Prop :=
  ∀ operand : TypedTensor, operand.type = operandType →
    ∃ result, gatherOp operand.elements startIndices.elements axes sliceSizes resultShape =
        .ok result ∧ result.shape = resultShape ∧
      ∀ resultIndex, MixedRadix.Within resultShape resultIndex → ∃ startIndex operandIndex,
        axes.startVector Element.integer startIndices.elements (axes.batchIndex resultIndex) =
          .ok startIndex ∧
        operandIndex.map Nat.cast = (List.range operandType.shape.length).map
          (axes.coordinate operandType.shape.length
            (clampedStart operandType.shape sliceSizes) startIndex resultIndex) ∧
        MixedRadix.Within operandType.shape operandIndex ∧
        result.get resultIndex = operand.elements.get operandIndex

/-- The entries of an index vector are fit for the operand, given their values and what sign
extension makes of them. -/
structure SliceStarts (axes : IndexAxes) (operandShape : Sizes) (sliceSizes : List Int)
    (signed exact : List Int) : Prop where
  /-- Sign extension changes entries only for dimensions along which slices cannot move. -/
  alike : ∀ dStart d : Nat, axes.indexMap[dStart]? = some d →
    signed.getD dStart 0 = exact.getD dStart 0 ∨
      (operandShape.getD d 0 : Int) = sliceSizes.getD d 0
  /-- A dimension that slices of size zero have, but the result does not, has some position. -/
  occupied : ∀ d ∈ axes.skippedDims, sliceSizes.getD d 0 = 0 → 0 < operandShape.getD d 0
  /-- The entry for such a dimension is below its size. -/
  inside : ∀ dStart d : Nat, axes.indexMap[dStart]? = some d → d ∈ axes.skippedDims →
    sliceSizes.getD d 0 = 0 → exact.getD dStart 0 < operandShape.getD d 0

/-- The starts along a dimension are the same unless the entries differ and the slice can move. -/
theorem clampedStart_eq_iff {operandShape : Sizes} {d : Nat} {element : Element}
    (fits : sliceSizes.getD d 0 ≤ operandShape.getD d 0) :
    clampedStart operandShape sliceSizes d element.signExtended =
        clampedStart operandShape sliceSizes d element.integer ↔
      element.signExtended = element.integer ∨
        (operandShape.getD d 0 : Int) = sliceSizes.getD d 0 := by
  rw [clampedStart, clampedStart]
  rcases element.signExtended_or with same | ⟨negative, positive⟩
  · simp [same]
  · omega

/-- The starts of a slice within the operand are clamped without a failure. -/
theorem clampStart_eq {operandShape : Sizes} {d : Nat} (below : d < operandShape.length)
    (length : sliceSizes.length = operandShape.length)
    (fits : sliceSizes.getD d 0 ≤ operandShape.getD d 0) (start : Int) :
    clampStart operandShape sliceSizes d start =
      .ok (clampedStart operandShape sliceSizes d start) := by
  have size := List.getElem?_eq_getElem below
  have sliceSize := List.getElem?_eq_getElem (show d < sliceSizes.length by omega)
  rw [List.getD_eq_getElem?_getD, List.getD_eq_getElem?_getD, size, sliceSize] at fits
  simp only [Option.getD_some] at fits
  rw [clampStart, clampedStart, List.getD_eq_getElem?_getD, List.getD_eq_getElem?_getD, size,
    sliceSize]
  dsimp only
  rw [clamp, if_neg (by omega)]
  congr 1
  simp only [Option.getD_some]
  split
  · omega
  · split <;> omega

/-- The indices of a gather fit its operands, and so do the sizes of its slices. -/
structure GatherFits (axes : IndexAxes) (operandShape indicesShape resultShape : Sizes)
    (sliceSizes : List Int) : Prop where
  valid : axes.Valid operandShape indicesShape resultShape
  length : sliceSizes.length = operandShape.length
  sizes : ∀ d < operandShape.length, 0 ≤ sliceSizes.getD d 0 ∧
    sliceSizes.getD d 0 ≤ operandShape.getD d 0
  small : ∀ d < operandShape.length, operandShape.getD d 0 < 2 ^ 63
  collapsed : ∀ d ∈ axes.skippedDims, sliceSizes.getD d 0 ≤ 1
  window : ∀ place window d : Nat, axes.windowDims[place]? = some window →
    (axes.sliceDims operandShape.length)[place]? = some d →
    (resultShape.getD window 0 : Int) = sliceSizes.getD d 0

variable {operandShape : Sizes}

/-- A start that is clamped lies between zero and the last place for the slice. -/
theorem clampedStart_bounds {d : Nat} (sizes : sliceSizes.getD d 0 ≤ operandShape.getD d 0)
    (start : Int) : 0 ≤ clampedStart operandShape sliceSizes d start ∧
      clampedStart operandShape sliceSizes d start + sliceSizes.getD d 0 ≤
        operandShape.getD d 0 := by
  rw [clampedStart]
  omega

/-- Coordinates of elements that are read are at most the sizes of the operand, and below them
except for dimensions that slices do not have. -/
theorem GatherFits.coordinate_bounds {indicesShape : Sizes}
    (fits : GatherFits axes operandShape indicesShape resultShape sliceSizes)
    (within : MixedRadix.Within resultShape resultIndex) (startIndex : List Int) {d : Nat}
    (below : d < operandShape.length) :
    0 ≤ axes.sliceCoordinate (clampedStart operandShape sliceSizes) startIndex resultIndex d ∧
    axes.sliceCoordinate (clampedStart operandShape sliceSizes) startIndex resultIndex d ≤
      axes.coordinate operandShape.length (clampedStart operandShape sliceSizes) startIndex
        resultIndex d ∧
    axes.coordinate operandShape.length (clampedStart operandShape sliceSizes) startIndex
        resultIndex d ≤ operandShape.getD d 0 ∧
    (d ∉ axes.skippedDims →
      axes.coordinate operandShape.length (clampedStart operandShape sliceSizes) startIndex
        resultIndex d < operandShape.getD d 0) := by
  obtain ⟨sizeNonneg, sizeMost⟩ := fits.sizes d below
  have start : 0 ≤ axes.startCoordinate (clampedStart operandShape sliceSizes) startIndex d ∧
      axes.startCoordinate (clampedStart operandShape sliceSizes) startIndex d +
        sliceSizes.getD d 0 ≤ operandShape.getD d 0 := by
    rw [IndexAxes.startCoordinate]
    cases axes.indexMap.idxOf? d with
    | none =>
      dsimp only
      omega
    | some dStart => exact clampedStart_bounds sizeMost _
  have batch := axes.batchingCoordinate_nonneg (axes.batchIndex resultIndex) d
  have window := axes.windowCoordinate_nonneg operandShape.length (axes.windowIndex resultIndex) d
  refine ⟨by rw [IndexAxes.sliceCoordinate]; omega,
    by rw [IndexAxes.sliceCoordinate, IndexAxes.coordinate]; omega, ?_⟩
  by_cases batching : d ∈ axes.batchingDims
  · obtain ⟨coordinate, same, small⟩ := fits.valid.coordinate_batching within batching
    rw [same]
    omega
  by_cases skipped : d ∈ axes.skippedDims
  · rw [fits.valid.coordinate_skipped skipped]
    exact ⟨by omega, fun other => absurd skipped other⟩
  · -- Along a dimension of the slices, the window ends within the operand.
    have remains : d ∈ axes.sliceDims operandShape.length := by
      rw [IndexAxes.sliceDims, AxisMap.mem_rest, List.mem_append]
      exact ⟨below, by tauto⟩
    obtain ⟨place, found⟩ := List.mem_iff_getElem?.mp remains
    obtain ⟨window, listed, small, same⟩ := fits.valid.coordinate_slice within found
    have size := fits.window place window d listed found
    rw [same]
    omega

/-- The index that is read has the coordinates for the entries that sign extension makes. -/
theorem GatherFits.fullIndexOf_eq {indices : Tensor Element}
    (fits : GatherFits axes operandShape indices.shape resultShape sliceSizes)
    (integers : IntegerElements indices) (within : MixedRadix.Within resultShape resultIndex)
    {signed : List Int}
    (vector : axes.startVector Element.signExtended indices (axes.batchIndex resultIndex) =
      .ok signed) :
    fullIndexOf axes operandShape.length indices (clampStart operandShape sliceSizes)
        resultIndex =
      .ok ((List.range operandShape.length).map (axes.coordinate operandShape.length
        (clampedStart operandShape sliceSizes) signed resultIndex)) := by
  refine fits.valid.fullIndexOf_eq integers within
    (fun d below start => clampStart_eq below fits.length (fits.sizes d below).2 start) vector
    (fun d below => ?_) fun d below => ?_
  all_goals
    -- All coordinates lie between zero and the size of the operand.
    obtain ⟨startNonneg, startMost, most, -⟩ := fits.coordinate_bounds within signed below
    have size := fits.small d below
    rw [IsInt64]
    omega

/-- Every coordinate is in bounds when the entries of the index vector are fit for the operand. -/
theorem GatherFits.coordinate_inside {indicesShape : Sizes}
    (fits : GatherFits axes operandShape indicesShape resultShape sliceSizes)
    (within : MixedRadix.Within resultShape resultIndex) {signed exact : List Int}
    (starts : SliceStarts axes operandShape sliceSizes signed exact) {d : Nat}
    (below : d < operandShape.length) :
    0 ≤ axes.coordinate operandShape.length (clampedStart operandShape sliceSizes) exact
        resultIndex d ∧
      axes.coordinate operandShape.length (clampedStart operandShape sliceSizes) exact
        resultIndex d < operandShape.getD d 0 := by
  obtain ⟨startNonneg, startMost, most, inside⟩ := fits.coordinate_bounds within exact below
  refine ⟨by omega, ?_⟩
  by_cases skipped : d ∈ axes.skippedDims
  · obtain ⟨sizeNonneg, sizeMost⟩ := fits.sizes d below
    rw [fits.valid.coordinate_skipped skipped, IndexAxes.startCoordinate]
    have one := fits.collapsed d skipped
    have occupied := starts.occupied d skipped
    by_cases mapped : d ∈ axes.indexMap
    · -- The slice has one position, or the entry is below the size.
      obtain ⟨dStart, found, listed⟩ := AxisMap.exists_place mapped
      have inside := starts.inside dStart d listed skipped
      rw [found]
      dsimp only
      have bounds := clampedStart_bounds sizeMost (exact.getD dStart 0)
      rw [clampedStart] at bounds ⊢
      omega
    · rw [AxisMap.idxOf?_eq_none mapped]
      dsimp only
      omega
  · exact inside skipped

/-- The coordinates are the same when the entries of the index vector are fit for the operand. -/
theorem GatherFits.coordinate_alike {indicesShape : Sizes}
    (fits : GatherFits axes operandShape indicesShape resultShape sliceSizes)
    {elements : List Element} (entries : elements.length = axes.indexMap.length)
    (starts : SliceStarts axes operandShape sliceSizes (elements.map Element.signExtended)
      (elements.map Element.integer)) {d : Nat} (below : d < operandShape.length) :
    axes.coordinate operandShape.length (clampedStart operandShape sliceSizes)
        (elements.map Element.signExtended) resultIndex d =
      axes.coordinate operandShape.length (clampedStart operandShape sliceSizes)
        (elements.map Element.integer) resultIndex d := by
  rw [IndexAxes.coordinate, IndexAxes.coordinate, IndexAxes.startCoordinate,
    IndexAxes.startCoordinate]
  cases found : axes.indexMap.idxOf? d with
  | none => rfl
  | some dStart =>
    have listed := AxisMap.idxOf?_eq_some found
    have alike := starts.alike dStart d listed
    obtain ⟨short, -⟩ := List.getElem?_eq_some_iff.mp listed
    have entry := List.getElem?_eq_getElem (show dStart < elements.length by omega)
    simp only [List.getD_eq_getElem?_getD, List.getElem?_map, entry, Option.map_some,
      Option.getD_some] at alike ⊢
    simp only [← List.getD_eq_getElem?_getD] at alike
    rw [(clampedStart_eq_iff (fits.sizes d below).2).mpr alike]

/-- A gather of operands is the one of the specification when every index vector is fit. -/
theorem GatherFits.meetsSpec
    (fits : GatherFits axes operandType.shape startIndices.elements.shape resultShape sliceSizes)
    (integers : IntegerElements startIndices.elements)
    (starts : ∀ resultIndex, MixedRadix.Within resultShape resultIndex → ∀ signed exact,
      axes.startVector Element.signExtended startIndices.elements (axes.batchIndex resultIndex) =
        .ok signed →
      axes.startVector Element.integer startIndices.elements (axes.batchIndex resultIndex) =
        .ok exact →
      SliceStarts axes operandType.shape sliceSizes signed exact) :
    GatherMeetsSpec axes operandType startIndices sliceSizes resultShape := by
  rintro operand rfl
  have fits : GatherFits axes operand.elements.shape startIndices.elements.shape resultShape
    sliceSizes := fits
  -- Each result element is read where the specification has it.
  have read : ∀ resultIndex, MixedRadix.Within resultShape resultIndex →
      ∃ startIndex operandIndex,
        axes.startVector Element.integer startIndices.elements (axes.batchIndex resultIndex) =
          .ok startIndex ∧
        operandIndex.map Nat.cast = (List.range operand.elements.shape.length).map
          (axes.coordinate operand.elements.shape.length
            (clampedStart operand.elements.shape sliceSizes) startIndex resultIndex) ∧
        MixedRadix.Within operand.elements.shape operandIndex ∧
        (do
          let operandIndex ← fullIndexOf axes operand.elements.shape.length startIndices.elements
            (clampStart operand.elements.shape sliceSizes) resultIndex
          operand.elements.getAt operandIndex) = operand.elements.get operandIndex := by
    intro resultIndex within
    obtain ⟨elements, entries, -, vectors⟩ :=
      fits.valid.exists_startVector (fits.valid.batchIndex_within within)
    have fit := starts resultIndex within _ _ (vectors _) (vectors _)
    obtain ⟨operandIndex, coordinates, inside⟩ := exists_index fun d below =>
      fits.coordinate_inside within fit below
    refine ⟨_, operandIndex, vectors _, coordinates, inside, ?_⟩
    rw [fits.fullIndexOf_eq integers within (vectors _), Fallible.ok_bind]
    have same : (List.range operand.elements.shape.length).map
        (axes.coordinate operand.elements.shape.length
          (clampedStart operand.elements.shape sliceSizes) (elements.map Element.signExtended)
          resultIndex) = operandIndex.map Nat.cast := by
      rw [coordinates]
      refine List.map_congr_left fun d listed => ?_
      exact fits.coordinate_alike entries fit (List.mem_range.mp listed)
    rw [same, Tensor.getAt_map_natCast]
  obtain ⟨result, built⟩ := Tensor.build_eq_ok fun resultIndex within => by
    obtain ⟨-, operandIndex, -, -, inside, same⟩ := read resultIndex within
    obtain ⟨element, got, -⟩ := Tensor.get_eq inside
    exact ⟨element, same.trans got⟩
  obtain ⟨shape, elements⟩ := Tensor.build_spec built
  refine ⟨result, built, shape, fun resultIndex within => ?_⟩
  obtain ⟨startIndex, operandIndex, vector, coordinates, inside, same⟩ := read resultIndex within
  exact ⟨startIndex, operandIndex, vector, coordinates, inside,
    (elements resultIndex within).trans same⟩

/-- A gather that is the one of the specification reads each element at the index of the
specification. -/
theorem GatherFits.index_of_meetsSpec
    (fits : GatherFits axes operandType.shape startIndices.elements.shape resultShape sliceSizes)
    (integers : IntegerElements startIndices.elements)
    (supported : isSupportedType operandType.elementType = true)
    (meets : GatherMeetsSpec axes operandType startIndices sliceSizes resultShape)
    (within : MixedRadix.Within resultShape resultIndex) {signed exact : List Int}
    (signedVector : axes.startVector Element.signExtended startIndices.elements
      (axes.batchIndex resultIndex) = .ok signed)
    (exactVector : axes.startVector Element.integer startIndices.elements
      (axes.batchIndex resultIndex) = .ok exact) :
    ∃ operandIndex, MixedRadix.Within operandType.shape operandIndex ∧
      operandIndex.map Nat.cast = (List.range operandType.shape.length).map
        (axes.coordinate operandType.shape.length
          (clampedStart operandType.shape sliceSizes) exact resultIndex) ∧
      operandIndex.map Nat.cast = (List.range operandType.shape.length).map
        (axes.coordinate operandType.shape.length
          (clampedStart operandType.shape sliceSizes) signed resultIndex) := by
  obtain ⟨zero, one, zeroType, oneType, different⟩ := exists_two_elements supported
  -- Some operand shows which index the specification has.
  let plain : TypedTensor := {
    elementType := operandType.elementType
    elements := .tabulate operandType.shape fun _ => zero
    typed := fun element listed => by
      obtain ⟨_, -, rfl⟩ := List.mem_map.mp listed
      exact zeroType }
  obtain ⟨_, -, -, reads⟩ := meets plain rfl
  obtain ⟨start, operandIndex, vector, coordinates, inside, -⟩ := reads resultIndex within
  rw [exactVector, Except.ok.injEq] at vector
  subst vector
  refine ⟨operandIndex, inside, coordinates, ?_⟩
  -- In another operand, only the element at that index is one.
  let marked : TypedTensor := {
    elementType := operandType.elementType
    elements := .tabulate operandType.shape fun index => if index = operandIndex then one else zero
    typed := fun element listed => by
      obtain ⟨_, -, rfl⟩ := List.mem_map.mp listed
      split
      · exact oneType
      · exact zeroType }
  obtain ⟨result, gathered, -, reads⟩ := meets marked rfl
  obtain ⟨start, again, vector, sameCoordinates, -, got⟩ := reads resultIndex within
  rw [exactVector, Except.ok.injEq] at vector
  subst vector
  rw [← coordinates] at sameCoordinates
  have same : again = operandIndex := List.map_injective_iff.mpr Nat.cast_injective sameCoordinates
  subst same
  rw [show marked.elements.get again = .ok one by
    rw [Tensor.get_tabulate inside, if_pos rfl]] at got
  rw [(Tensor.build_spec gathered).2 resultIndex within,
    show marked.elements.shape = operandType.shape from rfl,
    fits.fullIndexOf_eq integers within signedVector, Fallible.ok_bind] at got
  obtain ⟨place, signedCoordinates, placeInside, element⟩ := Tensor.getAt_eq_ok got
  rw [show marked.elements.get place = .ok (if place = again then one else zero) from
    Tensor.get_tabulate placeInside, Except.ok.injEq] at element
  split at element
  · next same => rw [← signedCoordinates, same]
  · exact absurd element different

/-- The index vectors of a gather that is the one of the specification are fit. -/
theorem GatherFits.starts_of_meetsSpec
    (fits : GatherFits axes operandType.shape startIndices.elements.shape resultShape sliceSizes)
    (integers : IntegerElements startIndices.elements)
    (supported : isSupportedType operandType.elementType = true)
    (meets : GatherMeetsSpec axes operandType startIndices sliceSizes resultShape)
    (within : MixedRadix.Within resultShape resultIndex) {signed exact : List Int}
    (signedVector : axes.startVector Element.signExtended startIndices.elements
      (axes.batchIndex resultIndex) = .ok signed)
    (exactVector : axes.startVector Element.integer startIndices.elements
      (axes.batchIndex resultIndex) = .ok exact) :
    SliceStarts axes operandType.shape sliceSizes signed exact := by
  obtain ⟨operandIndex, inside, exactCoordinates, signedCoordinates⟩ :=
    fits.index_of_meetsSpec integers supported meets within signedVector exactVector
  obtain ⟨elements, entries, -, vectors⟩ :=
    fits.valid.exists_startVector (fits.valid.batchIndex_within within)
  rw [vectors, Except.ok.injEq] at signedVector exactVector
  subst signedVector exactVector
  -- The coordinates of the index are below the sizes of the operand.
  have bounded : ∀ d < operandType.shape.length, axes.coordinate operandType.shape.length
      (clampedStart operandType.shape sliceSizes) (elements.map Element.integer) resultIndex d <
        operandType.shape.getD d 0 := by
    intro d below
    have length := inside.length_eq
    have related := (List.forall₂_iff_get.mp inside).2 d (by omega) below
    have coordinate := congrArg (·[d]?) exactCoordinates
    simp only [List.getElem?_map, List.getElem?_range below, Option.map_some,
      List.getElem?_eq_getElem (show d < operandIndex.length by omega), Option.some.injEq]
      at coordinate
    rw [← coordinate, List.getD_eq_getElem?_getD, List.getElem?_eq_getElem below]
    exact_mod_cast related
  have skippedBelow : ∀ d ∈ axes.skippedDims, d < operandType.shape.length := fun d skipped =>
    fits.valid.skippedBound d (List.mem_append_left _ skipped)
  constructor
  · intro dStart d listed
    have below := fits.valid.mapBound d (List.mem_of_getElem? listed)
    have same := List.map_inj_left.mp (signedCoordinates.symm.trans exactCoordinates) d
      (List.mem_range.mpr below)
    have mapUnique := (List.nodup_append.mp fits.valid.mapUnique).1
    -- The other parts of both coordinates are the same.
    rw [IndexAxes.coordinate, IndexAxes.coordinate, Int.add_left_inj, Int.add_left_inj,
      IndexAxes.startCoordinate, IndexAxes.startCoordinate,
      AxisMap.idxOf?_of_getElem? mapUnique listed] at same
    obtain ⟨short, -⟩ := List.getElem?_eq_some_iff.mp listed
    have entry := List.getElem?_eq_getElem (show dStart < elements.length by omega)
    simp only [List.getD_eq_getElem?_getD, List.getElem?_map, entry, Option.map_some,
      Option.getD_some] at same ⊢
    have alike := (clampedStart_eq_iff (fits.sizes d below).2).mp same
    simpa only [List.getD_eq_getElem?_getD] using alike
  · intro d skipped zero
    have below := skippedBelow d skipped
    have small := bounded d below
    rw [fits.valid.coordinate_skipped skipped, IndexAxes.startCoordinate] at small
    split at small
    · next dStart _ =>
      have bounds := clampedStart_bounds (fits.sizes d below).2
        ((elements.map Element.integer).getD dStart 0)
      omega
    · omega
  · intro dStart d listed skipped zero
    have below := skippedBelow d skipped
    have small := bounded d below
    have mapUnique := (List.nodup_append.mp fits.valid.mapUnique).1
    rw [fits.valid.coordinate_skipped skipped, IndexAxes.startCoordinate,
      AxisMap.idxOf?_of_getElem? mapUnique listed] at small
    dsimp only at small
    rw [clampedStart] at small
    omega

/-- Whether a gather of operands is the one of the specification depends on its index vectors. -/
theorem GatherFits.meetsSpec_iff
    (fits : GatherFits axes operandType.shape startIndices.elements.shape resultShape sliceSizes)
    (integers : IntegerElements startIndices.elements)
    (supported : isSupportedType operandType.elementType = true) :
    GatherMeetsSpec axes operandType startIndices sliceSizes resultShape ↔
      ∀ resultIndex, MixedRadix.Within resultShape resultIndex → ∀ signed exact,
        axes.startVector Element.signExtended startIndices.elements
          (axes.batchIndex resultIndex) = .ok signed →
        axes.startVector Element.integer startIndices.elements
          (axes.batchIndex resultIndex) = .ok exact →
        SliceStarts axes operandType.shape sliceSizes signed exact :=
  ⟨fun meets _ within _ _ signedVector exactVector =>
    fits.starts_of_meetsSpec integers supported meets within signedVector exactVector,
    fun starts => fits.meetsSpec integers starts⟩

/-- An accepted gather has indices that fit. -/
theorem fits_of_inferred {operandRanked startIndicesRanked : RankedTensorType}
    {dims : GatherDimensionNumbers} {sizes : List Int64} {components : ShapedTypeComponents}
    (operandStatic : operandRanked.IsStatic operandType)
    (startIndicesStatic : startIndicesRanked.IsStatic startIndices.type)
    (accepted : inferGatherOp operandRanked startIndicesRanked dims sizes = .ok components) :
    GatherFits dims.indexAxes operandType.shape startIndices.elements.shape components.sizes
      (sizes.map Int64.toInt) := by
  obtain ⟨valid, window⟩ := valid_of_inferred operandStatic.1 startIndicesStatic.1 accepted
  obtain ⟨resultRank, -, verified, one, -, -, -⟩ := inferGatherOp_spec accepted
  refine ⟨valid, ?_, fun d below => ?_, fun d below => ?_, fun d skipped => ?_, window⟩
  · rw [List.length_map, length_sliceSizes_of_inferred accepted, length_of_known operandStatic.1]
  · obtain ⟨size, found, nonneg, most⟩ := sliceSizes_of_inferred operandStatic.1 accepted below
    rw [List.getD_eq_getElem?_getD, List.getElem?_map, found]
    exact ⟨nonneg, most⟩
  · exact lt_of_known operandStatic.1 d
  · -- The size was checked when the type was inferred.
    obtain ⟨dim, listed, rfl⟩ := List.mem_map.mp skipped
    obtain ⟨size, read, small⟩ := one dim (List.mem_append_left _ listed)
    rw [List.getD_eq_getElem?_getD, List.getElem?_map, readEntry_eq_ok.mp read]
    exact small

/-- An accepted gather is the one of the specification exactly when sign extension leaves the
starts of its slices where they are, and slices without a position do not begin at the end. -/
theorem gatherMeetsSpec_iff {operandRanked startIndicesRanked : RankedTensorType}
    {dims : GatherDimensionNumbers} {sizes : List Int64} {components : ShapedTypeComponents}
    (operandStatic : operandRanked.IsStatic operandType)
    (startIndicesStatic : startIndicesRanked.IsStatic startIndices.type)
    (operandSupported : isSupportedType operandType.elementType = true)
    (startIndicesInteger : isSupportedIntegerType startIndices.elementType = true)
    (accepted : inferGatherOp operandRanked startIndicesRanked dims sizes = .ok components) :
    GatherMeetsSpec dims.indexAxes operandType startIndices (sizes.map Int64.toInt)
        components.sizes ↔
      ∀ resultIndex, MixedRadix.Within components.sizes resultIndex → ∀ signed exact,
        dims.indexAxes.startVector Element.signExtended startIndices.elements
          (dims.indexAxes.batchIndex resultIndex) = .ok signed →
        dims.indexAxes.startVector Element.integer startIndices.elements
          (dims.indexAxes.batchIndex resultIndex) = .ok exact →
        SliceStarts dims.indexAxes operandType.shape (sizes.map Int64.toInt) signed exact :=
  (fits_of_inferred operandStatic startIndicesStatic accepted).meetsSpec_iff
    (integerElements startIndicesInteger) operandSupported

end Specification

/-- The numbers of a gather of points of a vector. -/
abbrev pointDims (indexVectorDim : Int64) : GatherDimensionNumbers where
  offsetDims := []
  collapsedSliceDims := [0]
  operandBatchingDims := []
  startIndicesBatchingDims := []
  startIndexMap := [0]
  indexVectorDim

/-- Two slices of a single element are read from a vector of three elements. -/
theorem gatherMeetsSpec_iff_points :
    GatherMeetsSpec (pointDims 1).indexAxes
        ⟨[3], .integer .signless 32⟩ (integerTensor [2, 1] .unsigned ⟨8, 2⟩ rfl) [1] [2] ↔
      ∀ resultIndex, MixedRadix.Within [2] resultIndex → ∀ signed exact,
        (pointDims 1).indexAxes.startVector
            Element.signExtended (integerTensor [2, 1] .unsigned ⟨8, 2⟩ rfl).elements
            ((pointDims 1).indexAxes.batchIndex resultIndex) = .ok signed →
        (pointDims 1).indexAxes.startVector
            Element.integer (integerTensor [2, 1] .unsigned ⟨8, 2⟩ rfl).elements
            ((pointDims 1).indexAxes.batchIndex resultIndex) = .ok exact →
        SliceStarts (pointDims 1).indexAxes [3] [1] signed
          exact :=
  @gatherMeetsSpec_iff ⟨[3], .integer .signless 32⟩ (integerTensor [2, 1] .unsigned ⟨8, 2⟩ rfl)
    ⟨[3], .integer .signless 32, none⟩ ⟨[2, 1], .integer .unsigned 8, none⟩
    (pointDims 1) [1] ⟨[2], some (.integer .signless 32), none⟩ ⟨rfl, rfl⟩ ⟨rfl, rfl⟩
    rfl rfl rfl

/-- An unsigned start is read as a negative number, and a slice without a position begins behind
the last element, although both gathers are accepted. -/
theorem starts_not_met :
    (inferGatherOp ⟨[4], .integer .signless 8, none⟩ ⟨[1], .integer .unsigned 2, none⟩
        (pointDims 0) [1] = .ok ⟨[], some (.integer .signless 8), none⟩ ∧
      ¬ GatherMeetsSpec (pointDims 0).indexAxes
        ⟨[4], .integer .signless 8⟩ (integerTensor [1] .unsigned ⟨2, 3⟩ rfl) [1] []) ∧
    (inferGatherOp ⟨[3], .integer .signless 8, none⟩ ⟨[1], .integer .signless 8, none⟩
        (pointDims 0) [0] = .ok ⟨[], some (.integer .signless 8), none⟩ ∧
      ¬ GatherMeetsSpec (pointDims 0).indexAxes
        ⟨[3], .integer .signless 8⟩ (integerTensor [1] .signless ⟨8, 3⟩ rfl) [0] []) := by
  refine ⟨⟨rfl, fun meets => ?_⟩, rfl, fun meets => ?_⟩
  · have fits : GatherFits (pointDims 0).indexAxes [4] [1] []
        [1] := @fits_of_inferred ⟨[4], .integer .signless 8⟩
      (integerTensor [1] .unsigned ⟨2, 3⟩ rfl) ⟨[4], .integer .signless 8, none⟩
      ⟨[1], .integer .unsigned 2, none⟩ (pointDims 0) [1]
      ⟨[], some (.integer .signless 8), none⟩ ⟨rfl, rfl⟩ ⟨rfl, rfl⟩ rfl
    have starts := fits.starts_of_meetsSpec (integerElements rfl) rfl meets .nil rfl rfl
    -- The entry is three, and its sign extension is minus one.
    exact absurd (starts.alike 0 0 rfl) (by decide)
  · have fits : GatherFits (pointDims 0).indexAxes [3] [1] []
        [0] := @fits_of_inferred ⟨[3], .integer .signless 8⟩
      (integerTensor [1] .signless ⟨8, 3⟩ rfl) ⟨[3], .integer .signless 8, none⟩
      ⟨[1], .integer .signless 8, none⟩ (pointDims 0) [0]
      ⟨[], some (.integer .signless 8), none⟩ ⟨rfl, rfl⟩ ⟨rfl, rfl⟩ rfl
    have starts := fits.starts_of_meetsSpec (integerElements rfl) rfl meets .nil rfl rfl
    exact absurd (starts.inside 0 0 rfl (by decide) rfl) (by decide)

end Stablehlo
