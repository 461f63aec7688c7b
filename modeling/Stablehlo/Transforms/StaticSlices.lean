import Stablehlo.Dialect.BoundedDynamism
import Stablehlo.Dialect.Slice
import Stablehlo.Reference.DynamicSlice
import Stablehlo.Reference.Gather
import Stablehlo.Reference.Reshape
import Stablehlo.Reference.StridedSlice

/-! The simplification of dynamic slices at constant indices to static slices. -/

namespace Stablehlo

section Verifiers

/-- Whether element types are as compatible as inferred types and actual ones have to be. -/
def isCompatibleElementTypeForHloTypeInference (tp1 tp2 : StablehloType) : Bool :=
  match tp1, tp2 with
  | .uniformQuantized _ storage expressed _ _ least most,
    .uniformQuantized _ storage' expressed' _ _ least' most' =>
    decide (storage = storage') && least == least' && most == most' &&
      decide (expressed = expressed')
  | .uniformQuantizedPerAxis _ storage expressed _ _ _ least most,
    .uniformQuantizedPerAxis _ storage' expressed' _ _ _ least' most' =>
    decide (storage = storage') && least == least' && most == most' &&
      decide (expressed = expressed')
  | _, _ => decide (tp1 = tp2)

/-- No size is above its bound. -/
def isWithinBounds (shape : List Int64) (encoding : Option Encoding) : Bool :=
  (shape.zip (encodingToBounds encoding)).all fun (dimSize, bound) =>
    isDynamicDimSize bound || !decide (bound.toInt < dimSize.toInt)

/-- Whether two types are as compatible as an inferred type and an actual one have to be. -/
def isCompatibleForHloTypeInference (tp1 tp2 : RankedTensorType) : Bool :=
  verifyCompatibleShape tp1 tp2 && isWithinBounds tp1.shape tp2.encoding &&
    isWithinBounds tp2.shape tp1.encoding &&
    isCompatibleElementTypeForHloTypeInference tp1.elementType tp2.elementType

/-- All sizes of the type are known. -/
def RankedTensorType.hasStaticShape (type : RankedTensorType) : Bool :=
  type.shape.all fun dimSize => !isDynamicDimSize dimSize

/-- The type has one dynamic dimension, and a bound for a single dimension. -/
def RankedTensorType.hasSingleBoundedDimension (type : RankedTensorType) : Bool :=
  ((encodingToBounds type.encoding).filter (!isDynamicDimSize ·)).length == 1 &&
    (type.shape.filter isDynamicDimSize).length == 1

/-- The number of elements of a type whose sizes are known. -/
def RankedTensorType.getNumElements (type : RankedTensorType) : Int :=
  (type.shape.map Int64.toInt).prod

/-- A slice, with its attributes. -/
structure SliceOp where
  startIndices : List Int64
  limitIndices : List Int64
  strides : List Int64

/-- The verifiers accept the slice. -/
def SliceOp.Verified (op : SliceOp) (operandType resultType : RankedTensorType) : Prop :=
  op.startIndices.length = op.limitIndices.length ∧
    op.startIndices.length = op.strides.length ∧
    operandType.elementType = resultType.elementType ∧
    ∃ inferred, inferSliceOp operandType op.startIndices op.limitIndices op.strides =
        .ok inferred ∧
      isCompatibleForHloTypeInference inferred resultType = true

/-- The verifiers accept a reshape, whose element types are the same. -/
def ReshapeVerified (operandType resultType : RankedTensorType) : Prop :=
  operandType.elementType = resultType.elementType ∧
    (resultType.hasStaticShape = true ∨ resultType.hasSingleBoundedDimension = true) ∧
    (operandType.hasStaticShape = true → resultType.hasStaticShape = true →
      resultType.getNumElements = operandType.getNumElements)

end Verifiers

section Patterns

/-- The start indices of a dynamic slice as far as they are constants, moved into the operand. -/
def constantStarts (inputShape sliceSizes : List Int64) :
    Nat → List (Option APInt) → Except Failure (Option (List Int))
  | _, [] => .ok (some [])
  -- The start index is not a constant.
  | _, none :: _ => .ok none
  | index, some val :: startIndices =>
    match inputShape[index]?, sliceSizes[index]? with
    | some dimSize, some sliceSize => do
      let clampedStart ← clamp val.bits.toInt 0 (dimSize.toInt - sliceSize.toInt)
      let rest ← constantStarts inputShape sliceSizes (index + 1) startIndices
      .ok (rest.map (clampedStart :: ·))
    | _, _ => .error .undefinedBehavior

/-- Replace a dynamic slice at constant indices by a slice. -/
def dynamicSliceOpToSlice (inputType : RankedTensorType) (startIndices : List (Option APInt))
    (sliceSizes : List Int64) : Except Failure (Option SliceOp) :=
  if !inputType.hasStaticShape then
    .ok none
  else do
    let tempStartIndices ← constantStarts inputType.shape sliceSizes 0 startIndices
    .ok (tempStartIndices.map fun starts => {
      startIndices := starts.map Int64.ofInt
      limitIndices := List.zipWith (fun start (size : Int64) => Int64.ofInt (start + size.toInt))
        starts sliceSizes
      strides := List.replicate inputType.rank 1 })

end Patterns

section Slices

/-- A slice of the sizes that begins at the starts lies within the shape. -/
inductive SliceFits : Sizes → Index → Sizes → Prop
  | nil : SliceFits [] [] []
  | cons {dimSize start size : Nat} {shape starts sizes : Sizes} (inside : start + size ≤ dimSize)
    (fits : SliceFits shape starts sizes) :
    SliceFits (dimSize :: shape) (start :: starts) (size :: sizes)

/-- The slice of the sizes that begins at the starts. -/
def SliceOp.between (starts : Index) (sizes : Sizes) : SliceOp where
  startIndices := starts.map fun (start : Nat) => Int64.ofInt start
  limitIndices := List.zipWith (fun (start size : Nat) => Int64.ofInt (start + size)) starts sizes
  strides := List.replicate starts.length 1

/-- The slice of a tensor. -/
def SliceOp.eval {α : Type} (op : SliceOp) (operand : Tensor α) : Except Failure (Tensor α) :=
  operand.sliceOp (op.startIndices.map Int64.toInt) (op.limitIndices.map Int64.toInt)
    (op.strides.map Int64.toInt)

variable {shape starts sizes : Sizes}

/-- A slice has a start and a size for each dimension. -/
theorem SliceFits.lengths (fits : SliceFits shape starts sizes) :
    starts.length = shape.length ∧ sizes.length = shape.length := by
  induction fits with
  | nil => exact ⟨rfl, rfl⟩
  | cons _ _ ih => exact ⟨congrArg (· + 1) ih.1, congrArg (· + 1) ih.2⟩

/-- Numbers up to a known size are numbers of 64 bits. -/
theorem toInt_ofInt_of_le_size {number size : Nat} (most : number ≤ size) (small : size < 2 ^ 63) :
    (Int64.ofInt number).toInt = number :=
  Int64.toInt_ofInt_of_le (by omega) (by omega)

/-- The attributes of a slice are its starts and its limits. -/
theorem SliceFits.between_toInt (fits : SliceFits shape starts sizes)
    (small : ∀ size ∈ shape, size < 2 ^ 63) :
    (SliceOp.between starts sizes).startIndices.map Int64.toInt = starts.map Nat.cast ∧
    (SliceOp.between starts sizes).limitIndices.map Int64.toInt =
      (List.zipWith (· + ·) starts sizes).map Nat.cast ∧
    (SliceOp.between starts sizes).strides.map Int64.toInt = List.replicate starts.length 1 := by
  refine ⟨?_, ?_, by simp [SliceOp.between]⟩
  · induction fits with
    | nil => rfl
    | cons inside _ ih =>
      obtain ⟨here, small⟩ := List.forall_mem_cons.mp small
      exact List.cons_eq_cons.mpr ⟨toInt_ofInt_of_le_size (by omega) here, ih small⟩
  · induction fits with
    | nil => rfl
    | @cons dimSize start size _ _ _ inside _ ih =>
      obtain ⟨here, small⟩ := List.forall_mem_cons.mp small
      refine List.cons_eq_cons.mpr ⟨?_, ih small⟩
      have limit := toInt_ofInt_of_le_size inside here
      rwa [Int.natCast_add] at limit

/-- The shape of a slice is that of its sizes. -/
theorem SliceFits.inferSliceShape_eq (fits : SliceFits shape starts sizes) :
    inferSliceShape shape (starts.map Nat.cast) ((List.zipWith (· + ·) starts sizes).map Nat.cast)
      (List.replicate starts.length 1) = some sizes := by
  induction fits with
  | nil => rfl
  | @cons dimSize start size shape starts sizes inside _ ih =>
    refine inferSliceShape_cons.mpr ⟨size, sizes, rfl, ?_, ih⟩
    show inferSliceDim dimSize (start : Nat) ((start + size : Nat) : Int) 1 = some size
    rw [inferSliceDim, if_neg (by omega)]
    congr 1
    omega

/-- With steps of one, a position in the slice is the index moved to the start. -/
theorem SliceFits.shift_eq (fits : SliceFits shape starts sizes) {index : Index}
    (within : MixedRadix.Within sizes index) :
    MixedRadix.Within shape (shift starts index) ∧
      (shift starts index).map (Nat.cast : Nat → Int) =
        List.zipWith (fun (start step : Int) => start + step) (starts.map Nat.cast)
          (List.zipWith (fun (coordinate : Nat) (stride : Int) => coordinate * stride) index
            (List.replicate starts.length 1)) := by
  induction fits generalizing index with
  | nil =>
    cases within
    exact ⟨.nil, rfl⟩
  | @cons dimSize start size shape starts sizes inside _ ih =>
    cases within with
    | @cons coordinate _ index _ below within =>
      obtain ⟨rest, same⟩ := ih within
      refine ⟨.cons (show start + coordinate < dimSize by omega) rest, ?_⟩
      show ((start + coordinate : Nat) : Int) :: (shift starts index).map Nat.cast = _
      rw [same]
      simp [List.replicate_succ]

/-- A slice holds the elements from its start on. -/
theorem SliceFits.eval_between (fits : SliceFits shape starts sizes)
    (small : ∀ size ∈ shape, size < 2 ^ 63) {α : Type} {operand : Tensor α}
    (own : operand.shape = shape) :
    ∃ value, (SliceOp.between starts sizes).eval operand = .ok value ∧ value.shape = sizes ∧
      HoldsSlice operand value starts := by
  subst own
  obtain ⟨first, second, third⟩ := fits.between_toInt small
  obtain ⟨value, sliced, valueShape, elements⟩ := Tensor.sliceOp_spec fits.inferSliceShape_eq
  refine ⟨value, by rw [SliceOp.eval, first, second, third, sliced], valueShape,
    fun index within => ?_⟩
  rw [valueShape] at within
  obtain ⟨inside, position⟩ := fits.shift_eq within
  exact ⟨inside, elements index within _ position⟩

/-- The encoding of a slice of a tensor. -/
def RankedTensorType.slicedEncoding (type : RankedTensorType) : Option Encoding :=
  match encodingToBounds type.encoding with
  | [] => type.encoding
  | _ :: _ => none

/-- The inferred sizes are those of the slice. -/
theorem SliceFits.inferSlicedDims_eq (fits : SliceFits shape starts sizes)
    {dims : List Int64} (known : dims.map Int64.toInt = shape.map Nat.cast) {bounds : List Int64}
    (count : bounds.length = dims.length) (i : Nat) :
    inferSlicedDims i (dims.zip bounds) (SliceOp.between starts sizes).startIndices
        (SliceOp.between starts sizes).limitIndices (SliceOp.between starts sizes).strides =
      .ok (sizes.map fun (size : Nat) => Int64.ofInt size) := by
  induction fits generalizing dims bounds i with
  | nil =>
    cases dims with
    | nil => rfl
    | cons dim dims => cases known
  | @cons dimSize start size shape starts sizes inside _ ih =>
    match dims, bounds, count with
    | dim :: dims, bound :: bounds, count =>
      obtain ⟨here, known⟩ := List.cons_eq_cons.mp known
      have small : dimSize < 2 ^ 63 := by
        have upper := dim.toInt_lt
        omega
      have startEq := toInt_ofInt_of_le_size (show start ≤ dimSize by omega) small
      have limitEq := toInt_ofInt_of_le_size inside small
      have sizeEq := toInt_ofInt_of_le_size (show size ≤ dimSize by omega) small
      rw [Int.natCast_add] at limitEq
      have one : (1 : Int64).toInt = 1 := by decide
      obtain ⟨sliced, inferred, value⟩ := @inferSlicedDim_eq dimSize dim (Int64.ofInt start)
        (Int64.ofInt (start + size)) 1 i bound (isDynamicDimSize_of_natCast here) here (by omega)
        (by omega) (by omega) (by omega)
      -- The number of positions between the limits is the size.
      have same : sliced = Int64.ofInt size := by
        apply Int64.toInt_inj.mp
        rw [value, sizeEq, startEq, limitEq, one]
        omega
      have rest := @ih dims known bounds (by simpa using count) (i + 1)
      show (inferSlicedDim i (dim, bound) (Int64.ofInt start) (Int64.ofInt (start + size)) 1
        >>= _) = _
      rw [inferred, Fallible.ok_bind, same]
      show (inferSlicedDims (i + 1) (dims.zip bounds) (SliceOp.between starts sizes).startIndices
        (SliceOp.between starts sizes).limitIndices (SliceOp.between starts sizes).strides
        >>= _) = _
      rw [rest]
      rfl

/-- A slice within a static operand has a type with the sizes of the slice. -/
theorem SliceFits.inferSliceOp_eq (fits : SliceFits shape starts sizes) {type : RankedTensorType}
    (known : type.shape.map Int64.toInt = shape.map Nat.cast)
    (bounded : encodingToBounds type.encoding = [] ∨
      (encodingToBounds type.encoding).length = type.shape.length) :
    inferSliceOp type (SliceOp.between starts sizes).startIndices
        (SliceOp.between starts sizes).limitIndices (SliceOp.between starts sizes).strides =
      .ok ⟨sizes.map fun (size : Nat) => Int64.ofInt size, type.elementType,
        type.slicedEncoding⟩ := by
  have rank := length_of_known known
  have count : (SliceOp.between starts sizes).startIndices.length = type.shape.length := by
    rw [SliceOp.between, List.length_map, fits.lengths.1, rank]
  unfold inferSliceOp
  rw [Fallible.check_bind_eq_ok, require_eq_ok]
  refine ⟨by simp [RankedTensorType.rank, count], ?_⟩
  unfold RankedTensorType.dimsAndBounds RankedTensorType.slicedEncoding
  rcases bounds : encodingToBounds type.encoding with _ | ⟨bound, others⟩
  · -- Without bounds, the encoding stays as it is.
    have dims := fits.inferSlicedDims_eq known
      (show (List.replicate type.rank kDynamic).length = _ from List.length_replicate) 0
    simp only [List.isEmpty_nil, if_true]
    rw [dims]
    rfl
  · have rankBounds : (bound :: others).length = type.shape.length := by
      rw [bounds] at bounded
      exact bounded.resolve_left (by simp)
    have dims := fits.inferSlicedDims_eq known rankBounds 0
    simp only [List.isEmpty_cons, Bool.false_eq_true, if_false]
    rw [dims, Fallible.ok_bind]
    have dynamic : (List.map (fun _ => kDynamic) (bound :: others)).all isDynamicDimSize =
        true := by
      rw [List.all_eq_true]
      intro size listed
      obtain ⟨_, -, rfl⟩ := List.mem_map.mp listed
      rfl
    unfold boundsToEncoding
    rw [if_neg (by simp), if_pos dynamic]
    rfl

end Slices

section Starts

variable {shape sizes : Sizes}

/-- A start is clamped without a failure when the slice fits. -/
theorem clamp_eq {dimSize size : Nat} (most : size ≤ dimSize) (start : Int) :
    clamp start 0 (dimSize - size) =
      .ok (((max 0 (min start (dimSize - size))).toNat : Nat) : Int) := by
  rw [clamp, if_neg (by omega)]
  congr 1
  split
  · omega
  · split <;> omega

/-- Clamped starts leave room for the slice. -/
theorem sliceFits_clampedStarts (fits : List.Forall₂ (· ≤ ·) sizes shape) {starts : List Int}
    (count : starts.length = shape.length) :
    SliceFits shape (clampedStarts shape sizes starts) sizes := by
  induction fits generalizing starts with
  | nil => exact .nil
  | @cons size dimSize sizes shape most _ ih =>
    cases starts with
    | nil => cases count
    | cons start starts =>
      refine .cons ?_ (ih (by simpa using count))
      show (max 0 (min start (dimSize - size : Int))).toNat + size ≤ dimSize
      omega

/-- Start indices that are all constant are the clamped starts of the slice. -/
theorem constantStarts_eq (fits : List.Forall₂ (· ≤ ·) sizes shape) {inputShape : List Int64}
    {sliceSizes : List Int64} {index : Nat}
    (inputKnown : (inputShape.drop index).map Int64.toInt = shape.map Nat.cast)
    (sizesKnown : (sliceSizes.drop index).map Int64.toInt = sizes.map Nat.cast)
    {values : List (Option APInt)} (count : values.length = shape.length) :
    constantStarts inputShape sliceSizes index values =
      .ok ((values.mapM id).map fun values =>
        (clampedStarts shape sizes (values.map fun value => value.bits.toInt)).map Nat.cast) := by
  induction fits generalizing index values with
  | nil =>
    rw [List.length_nil, List.length_eq_zero_iff] at count
    rw [count]
    rfl
  | @cons size dimSize sizes shape most _ ih =>
    cases values with
    | nil => cases count
    | cons value values =>
      cases value with
      | none => rw [constantStarts, List.mapM_cons]; rfl
      | some value =>
        -- The sizes at the position are known, and so are those behind it.
        have head {dims : List Int64} {known : Nat} {rest : Sizes}
            (same : (dims.drop index).map Int64.toInt = (known :: rest).map Nat.cast) :
            ∃ dim, dims[index]? = some dim ∧ dim.toInt = known ∧
              (dims.drop (index + 1)).map Int64.toInt = rest.map Nat.cast := by
          rcases split : dims.drop index with _ | ⟨dim, others⟩
          · rw [split] at same
            cases same
          · rw [split] at same
            obtain ⟨first, behind⟩ := List.cons_eq_cons.mp same
            have found : dims[index]? = some dim := by
              rw [← List.head?_drop, split]
              rfl
            refine ⟨dim, found, first, ?_⟩
            rw [← behind, ← List.drop_drop, split]
            rfl
        obtain ⟨dim, dimFound, dimEq, inputRest⟩ := head inputKnown
        obtain ⟨sliceSize, sizeFound, sizeEq, sizesRest⟩ := head sizesKnown
        have rest := @ih (index + 1) inputRest sizesRest values (by simpa using count)
        rw [constantStarts, dimFound, sizeFound]
        dsimp only
        rw [dimEq, sizeEq, clamp_eq most, Fallible.ok_bind, rest, Fallible.ok_bind, List.mapM_cons]
        cases values.mapM id <;> rfl

end Starts

section DynamicSlices

/-- The verifiers accept the type: its bounds are those of dynamic dimensions, and other sizes are
no less than zero. -/
structure RankedTensorType.Valid (type : RankedTensorType) : Prop where
  nonneg : ∀ dimSize ∈ type.shape, isDynamicDimSize dimSize = true ∨ 0 ≤ dimSize.toInt
  wellFormed : type.WellFormed

/-- A type has no bounds, or a bound for each dimension. -/
theorem RankedTensorType.Valid.bounds {type : RankedTensorType} (valid : type.Valid) :
    encodingToBounds type.encoding = [] ∨
      (encodingToBounds type.encoding).length = type.shape.length := by
  rcases valid.wellFormed with none | verified
  · exact .inl (List.isEmpty_iff.mp none)
  · simp only [verifyBounds, Bool.and_eq_true, beq_iff_eq] at verified
    exact .inr verified.1

/-- The sizes of a static type are known. -/
theorem RankedTensorType.Valid.known {type : RankedTensorType} (valid : type.Valid)
    (static : type.hasStaticShape = true) :
    type.shape.map Int64.toInt = type.sizes.map Nat.cast := by
  rw [RankedTensorType.sizes, List.map_map]
  refine List.map_congr_left fun dimSize listed => ?_
  have known := List.all_eq_true.mp static dimSize listed
  rcases valid.nonneg dimSize listed with dynamic | nonneg
  · rw [dynamic] at known
    cases known
  · show dimSize.toInt = ((dimSize.toNatClampNeg : Nat) : Int)
    rw [Int64.toNatClampNeg]
    omega

/-- The number in a constant scalar. -/
def constantInt (tensor : TypedTensor) : Option APInt :=
  match tensor.elements.get [] with
  | .ok element =>
    match element.value with
    | .integer value => some value
    | _ => none
  | .error _ => none

/-- A dynamic slice, with its start indices as far as they are constants. -/
structure DynamicSlice where
  operandType : RankedTensorType
  startIndicesTypes : List RankedTensorType
  startIndices : List (Option TypedTensor)
  sliceSizes : List Int64
  resultType : RankedTensorType

/-- The sizes of a dynamic slice. -/
def DynamicSlice.sizes (op : DynamicSlice) : Sizes := op.sliceSizes.map Int64.toNatClampNeg

/-- The numbers of the start indices. -/
def DynamicSlice.starts (op : DynamicSlice) : List Int :=
  op.startIndices.map fun tensor => (tensor.map (TypedTensor.scalar Element.integer)).getD 0

/-- The verifiers accept the dynamic slice, whose start indices are scalars of integer types. -/
structure DynamicSlice.Accepted (op : DynamicSlice) : Prop where
  valid : op.operandType.Valid
  inferred : ∃ components, inferDynamicSliceOp op.operandType op.startIndicesTypes op.sliceSizes =
      .ok components ∧
    isCompatibleForHloTypeInference ⟨components.dims, op.operandType.elementType, none⟩
      op.resultType = true
  elementType : op.operandType.elementType = op.resultType.elementType
  count : op.startIndices.length = op.startIndicesTypes.length
  constants : ∀ tensor, some tensor ∈ op.startIndices → tensor.elements.shape = [] ∧
    isSupportedIntegerType tensor.elementType = true

/-- The dynamic slice stays as it is or becomes a slice of its type with the value that is
specified: the slice of any operand from the numbers of the start indices on, as far as they lie
within the operand. -/
def DynamicSlice.SimplifiesExactly (op : DynamicSlice) : Prop :=
  ∃ outcome, dynamicSliceOpToSlice op.operandType (op.startIndices.map (·.bind constantInt))
      op.sliceSizes = .ok outcome ∧
    ∀ slice, outcome = some slice →
      inferSliceOp op.operandType slice.startIndices slice.limitIndices slice.strides =
        .ok op.resultType ∧
      slice.Verified op.operandType op.resultType ∧
      ∀ (α : Type) (operand : Tensor α), operand.shape = op.operandType.sizes →
        ∃ value, slice.eval operand = .ok value ∧ value.shape = op.sizes ∧
          HoldsSlice operand value (clampedStarts op.operandType.sizes op.sizes op.starts)

/-- The result has the type of the slice, and sign extension leaves the start indices as they are
or the slice has no elements. -/
def DynamicSlice.Exact (op : DynamicSlice) : Prop :=
  op.operandType.hasStaticShape = true → ∀ constants, op.startIndices = constants.map some →
    op.resultType = ⟨op.sliceSizes, op.operandType.elementType, op.operandType.slicedEncoding⟩ ∧
      (0 < op.sizes.prod → StartsAlike op.operandType.sizes op.sizes constants)

/-- A constant start index is read with sign extension. -/
theorem constantInt_eq {tensor : TypedTensor} (scalar : tensor.elements.shape = [])
    (integer : isSupportedIntegerType tensor.elementType = true) :
    ∃ value, constantInt tensor = some value ∧
      value.bits.toInt = tensor.scalar Element.signExtended := by
  have within : MixedRadix.Within tensor.elements.shape [] := by
    rw [scalar]
    exact .nil
  obtain ⟨element, got, stored⟩ := Tensor.get_eq within
  obtain ⟨value, holds⟩ := integerElements integer element (List.mem_of_getElem? stored)
  refine ⟨value, by rw [constantInt, got]; simp [holds], ?_⟩
  simp only [TypedTensor.scalar, got, Element.signExtended, holds]

/-- The slices of two starts are the same for every tensor when the starts are, or there are no
elements. -/
theorem holdsSlice_alike_iff {shape sizes first second : Sizes} (fits : SliceFits shape first sizes)
    (others : SliceFits shape second sizes) :
    (∀ (α : Type) (operand value : Tensor α), operand.shape = shape → value.shape = sizes →
        HoldsSlice operand value first → HoldsSlice operand value second) ↔
      (0 < sizes.prod → first = second) := by
  constructor
  · intro alike positive
    have within := MixedRadix.decode_within positive
    generalize MixedRadix.decode sizes 0 = index at within
    -- A tensor of its own indices shows where its elements are read.
    have held : HoldsSlice (Tensor.tabulate shape id) (Tensor.tabulate sizes (shift first))
        first := by
      intro index within
      have inside := (fits.shift_eq within).1
      exact ⟨inside, (Tensor.get_tabulate within).trans
        (@Tensor.get_tabulate _ shape id _ inside).symm⟩
    obtain ⟨inside, read⟩ := alike _ _ _ rfl rfl held index within
    have firstRead := @Tensor.get_tabulate _ sizes (shift first) _ within
    have secondRead := @Tensor.get_tabulate _ shape id _ inside
    rw [read, secondRead, Except.ok.injEq, id_eq] at firstRead
    have length := within.length_eq
    refine shift_right_cancel ?_ ?_ firstRead.symm
    · rw [fits.lengths.1, ← fits.lengths.2, length]
    · rw [others.lengths.1, ← others.lengths.2, length]
  · intro same α operand value operandShape valueShape held index within
    have positive : 0 < sizes.prod := by
      rw [valueShape] at within
      exact Nat.lt_of_le_of_lt (Nat.zero_le _) (MixedRadix.encode_lt within)
    rw [← same positive]
    exact held index within

/-- Constants are given where all of them are. -/
theorem mapM_id_eq_some {α : Type} {values : List (Option α)} {constants : List α} :
    values.mapM id = some constants ↔ values = constants.map some := by
  induction values generalizing constants with
  | nil => cases constants <;> simp
  | cons value values ih =>
    rw [List.mapM_cons]
    cases value with
    | none => cases constants <;> simp
    | some value =>
      show ((values.mapM id).bind fun others => some (value :: others)) = some constants ↔ _
      rw [Option.bind_eq_some_iff]
      constructor
      · rintro ⟨others, found, same⟩
        cases same
        rw [ih.mp found, List.map_cons]
      · intro same
        cases constants with
        | nil => cases same
        | cons constant constants =>
          obtain ⟨first, rest⟩ := List.cons_eq_cons.mp same
          cases first
          exact ⟨constants, ih.mpr rest, rfl⟩

/-- Constant start indices are read with sign extension. -/
theorem mapM_constantInt {tensors : List TypedTensor} (constants : ∀ tensor ∈ tensors,
    tensor.elements.shape = [] ∧ isSupportedIntegerType tensor.elementType = true) :
    ∃ values, ((tensors.map some).map (·.bind constantInt)).mapM id = some values ∧
      (values.map fun value => value.bits.toInt) =
        tensors.map (TypedTensor.scalar Element.signExtended) := by
  induction tensors with
  | nil => exact ⟨[], rfl, rfl⟩
  | cons tensor tensors ih =>
    obtain ⟨⟨scalar, integer⟩, constants⟩ := List.forall_mem_cons.mp constants
    obtain ⟨value, read, sign⟩ := constantInt_eq scalar integer
    obtain ⟨values, others, signs⟩ := ih constants
    refine ⟨value :: values, ?_, List.cons_eq_cons.mpr ⟨sign, signs⟩⟩
    rw [mapM_id_eq_some] at others ⊢
    exact List.cons_eq_cons.mpr ⟨read, others⟩

/-- What gives constants is constant itself. -/
theorem exists_of_map_bind {α β : Type} {read : α → Option β} {items : List (Option α)}
    {values : List β} (given : items.map (·.bind read) = values.map some) :
    ∃ own : List α, items = own.map some := by
  induction items generalizing values with
  | nil => exact ⟨[], rfl⟩
  | cons item items ih =>
    cases values with
    | nil => cases given
    | cons value values =>
      obtain ⟨first, rest⟩ := List.cons_eq_cons.mp given
      obtain ⟨own, rfl⟩ := ih rest
      cases item with
      | none => cases first
      | some item => exact ⟨item :: own, rfl⟩

/-- The attributes of a slice are made of its starts and sizes. -/
theorem slice_eq_between (starts : Index) {sliceSizes : List Int64} {sizes : Sizes}
    (known : sliceSizes.map Int64.toInt = sizes.map Nat.cast) :
    ({ startIndices := (starts.map (Nat.cast : Nat → Int)).map Int64.ofInt
       limitIndices := List.zipWith (fun start (size : Int64) => Int64.ofInt (start + size.toInt))
         (starts.map (Nat.cast : Nat → Int)) sliceSizes
       strides := List.replicate starts.length 1 } : SliceOp) = .between starts sizes := by
  have limits : List.zipWith (fun start (size : Int64) => Int64.ofInt (start + size.toInt))
      (starts.map (Nat.cast : Nat → Int)) sliceSizes =
      List.zipWith (fun start size => Int64.ofInt (start + size))
        (starts.map (Nat.cast : Nat → Int)) (sliceSizes.map Int64.toInt) := by
    rw [List.zipWith_map_right]
  rw [SliceOp.between, limits, known, List.map_map, List.zipWith_map]
  rfl

/-- A type without bounds is as compatible with another one as a type of the same shape. -/
theorem isCompatible_of_shape {first second actual : RankedTensorType}
    (shape : first.shape = second.shape) (elementType : first.elementType = second.elementType)
    (unbounded : encodingToBounds first.encoding = [])
    (compatible : isCompatibleForHloTypeInference second actual = true) :
    isCompatibleForHloTypeInference first actual = true := by
  unfold isCompatibleForHloTypeInference verifyCompatibleShape RankedTensorType.rank at *
  rw [shape, elementType, isWithinBounds.eq_def actual.shape, unbounded]
  simp only [Bool.and_eq_true] at compatible ⊢
  exact ⟨⟨compatible.1.1, by simp⟩, compatible.2⟩

/-- A type without bounds is compatible with itself. -/
theorem isCompatible_self {type : RankedTensorType}
    (unbounded : encodingToBounds type.encoding = []) :
    isCompatibleForHloTypeInference type type = true := by
  have dims : (type.shape.zip type.shape).all (fun (dimSize1, dimSize2) =>
      verifyCompatibleDims dimSize1 dimSize2) = true := by
    rw [List.all_eq_true]
    intro pair listed
    obtain ⟨place, found⟩ := List.mem_iff_getElem?.mp listed
    obtain ⟨first, second⟩ := List.getElem?_zip_eq_some.mp found
    rw [first, Option.some.injEq] at second
    simp [second, verifyCompatibleDims]
  have element : isCompatibleElementTypeForHloTypeInference type.elementType type.elementType =
      true := by
    unfold isCompatibleElementTypeForHloTypeInference
    split <;> simp_all
  unfold isCompatibleForHloTypeInference verifyCompatibleShape isWithinBounds
  rw [dims, element, unbounded]
  simp

/-- A slice has no bounds. -/
theorem encodingToBounds_sliced (type : RankedTensorType) :
    encodingToBounds type.slicedEncoding = [] := by
  unfold RankedTensorType.slicedEncoding
  split
  · assumption
  · rfl

/-- What holds of an outcome holds of what it is. -/
theorem exists_outcome_iff {ε α : Type} {made : α} {Holds : α → Prop} :
    (∃ outcome, (.ok (some made) : Except ε (Option α)) = .ok outcome ∧
      ∀ item, outcome = some item → Holds item) ↔ Holds made := by
  constructor
  · rintro ⟨_, ⟨⟩, holds⟩
    exact holds made rfl
  · intro holds
    refine ⟨_, rfl, ?_⟩
    rintro _ ⟨⟩
    exact holds

/-- A dynamic slice becomes a slice of its type with the specified value exactly when its type is
that of the slice and sign extension leaves its start indices as they are. -/
theorem DynamicSlice.simplifiesExactly_iff {op : DynamicSlice} (accepted : op.Accepted) :
    op.SimplifiesExactly ↔ op.Exact := by
  obtain ⟨valid, ⟨components, inferred, -⟩, elementType, count, constants⟩ := accepted
  unfold DynamicSlice.SimplifiesExactly DynamicSlice.Exact dynamicSliceOpToSlice
  by_cases static : op.operandType.hasStaticShape = true
  · have known := valid.known static
    obtain ⟨typesCount, sizesCount, inside, -⟩ := inferDynamicSliceOp_spec inferred
    have sizesKnown : op.sliceSizes.map Int64.toInt = op.sizes.map Nat.cast := by
      rw [DynamicSlice.sizes, List.map_map]
      refine List.map_congr_left fun size listed => ?_
      obtain ⟨i, found⟩ := List.mem_iff_getElem?.mp listed
      have nonneg := (inside i size found).1
      show size.toInt = ((size.toNatClampNeg : Nat) : Int)
      rw [Int64.toNatClampNeg]
      omega
    have fits : List.Forall₂ (· ≤ ·) op.sizes op.operandType.sizes :=
      (@fits_of_inferDynamicSliceOp ⟨op.operandType.sizes, op.operandType.elementType⟩ _ _ _ _ _
        ⟨known, rfl⟩ sizesKnown inferred).2
    have small : ∀ size ∈ op.operandType.sizes, size < 2 ^ 63 := by
      intro size listed
      obtain ⟨dim, -, rfl⟩ := List.mem_map.mp listed
      have upper := dim.toInt_lt
      rw [Int64.toNatClampNeg]
      omega
    have rank : op.operandType.sizes.length = op.operandType.shape.length := List.length_map _
    have starts := @constantStarts_eq _ _ fits op.operandType.shape op.sliceSizes 0 known sizesKnown
      (op.startIndices.map (·.bind constantInt)) (by rw [List.length_map]; omega)
    rw [static, starts]
    simp only [Bool.not_true, Bool.false_eq_true, if_false, Fallible.ok_bind]
    by_cases all : ∃ tensors : List TypedTensor, op.startIndices = tensors.map some
    · obtain ⟨tensors, allConstant⟩ := all
      obtain ⟨values, read, signs⟩ := @mapM_constantInt tensors fun tensor listed =>
        constants tensor (by rw [allConstant]; exact List.mem_map_of_mem listed)
      have startsCount : tensors.length = op.operandType.sizes.length := by
        have length := congrArg List.length allConstant
        rw [List.length_map] at length
        omega
      have slices (readings : List Int) (length : readings.length = tensors.length) :
          SliceFits op.operandType.sizes (clampedStarts op.operandType.sizes op.sizes readings)
            op.sizes :=
        sliceFits_clampedStarts fits (by omega)
      have signed := slices (tensors.map (TypedTensor.scalar Element.signExtended))
        (List.length_map _)
      have exact' := slices (tensors.map (TypedTensor.scalar Element.integer)) (List.length_map _)
      have integers : op.starts = tensors.map (TypedTensor.scalar Element.integer) := by
        rw [DynamicSlice.starts, allConstant, List.map_map]
        rfl
      have slice_eq := slice_eq_between (clampedStarts op.operandType.sizes op.sizes
        (tensors.map (TypedTensor.scalar Element.signExtended))) sizesKnown
      have typed := signed.inferSliceOp_eq known valid.bounds
      have sizesSame : op.sizes.map (fun (size : Nat) => Int64.ofInt size) = op.sliceSizes := by
        have again := congrArg (List.map Int64.ofInt) sizesKnown
        rw [List.map_map, List.map_map] at again
        rw [← List.map_id op.sliceSizes, ← show Int64.ofInt ∘ Int64.toInt = id from
          funext Int64.ofInt_toInt, again]
        rfl
      rw [allConstant, read, Option.map_some, Option.map_some, signs]
      rw [signed.lengths.1, rank] at slice_eq
      rw [RankedTensorType.rank, slice_eq]
      have same (others : List TypedTensor) (equal : tensors.map some = others.map some) :
          tensors = others := List.map_injective_iff.mpr (Option.some_injective _) equal
      have alike := @clampedStarts_alike_iff ⟨op.operandType.sizes, op.operandType.elementType⟩
        op.sizes tensors fits startsCount
      rw [integers]
      rw [exists_outcome_iff, typed, sizesSame]
      constructor
      · rintro ⟨type, -, value⟩ - others allOthers
        obtain rfl := same others allOthers
        refine ⟨(Except.ok.inj type).symm, ?_⟩
        rw [← alike]
        refine (holdsSlice_alike_iff signed exact').mp fun α operand slice own sliceShape held => ?_
        -- There is only one slice from the starts that were read on.
        obtain ⟨specified, evaluated, specifiedShape, exactHeld⟩ := value α operand own
        obtain ⟨again, sliced, againShape, signedHeld⟩ := signed.eval_between small own
        rw [sliced, Except.ok.injEq] at evaluated
        rwa [eq_of_holdsSlice (sliceShape.trans againShape.symm) held signedHeld, evaluated]
      · intro specified
        obtain ⟨type, starts⟩ := specified trivial tensors rfl
        rw [← alike] at starts
        rw [type]
        refine ⟨rfl, ?_, fun α operand own => ?_⟩
        · refine ⟨?_, ?_, rfl, _, ?_, isCompatible_self (encodingToBounds_sliced _)⟩
          · simp [SliceOp.between, signed.lengths]
          · simp [SliceOp.between]
          · rw [typed, sizesSame]
        · obtain ⟨slice, sliced, sliceShape, held⟩ := signed.eval_between small own
          exact ⟨slice, sliced, sliceShape,
            (holdsSlice_alike_iff signed exact').mpr starts α operand slice own sliceShape held⟩
    · -- A start index that is not constant leaves the dynamic slice alone.
      have missing : (op.startIndices.map (·.bind constantInt)).mapM id = none := by
        rw [Option.eq_none_iff_forall_ne_some]
        intro values given
        rw [mapM_id_eq_some] at given
        exact all (exists_of_map_bind given)
      rw [missing]
      exact iff_of_true ⟨none, rfl, fun _ same => by cases same⟩
        fun _ tensors allConstant => (all ⟨tensors, allConstant⟩).elim
  · -- Operands of unknown sizes are left alone.
    have dynamic : op.operandType.hasStaticShape = false := by simpa using static
    rw [dynamic]
    exact iff_of_true ⟨none, rfl, fun _ same => by cases same⟩ fun same => by cases same

end DynamicSlices

end Stablehlo
