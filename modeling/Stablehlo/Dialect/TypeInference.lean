import Stablehlo.Dialect.Base
import Stablehlo.Dialect.ReplicaGroups

/-! The inferred types of operations whose results keep track of bounds. -/

namespace Stablehlo

/-- A type that was inferred, where the operation may have to provide the element type. -/
structure ShapedTypeComponents where
  dims : List Int64
  elementType : Option StablehloType
  encoding : Option Encoding

/-- The type with the components, and with the element type when they have none. -/
def ShapedTypeComponents.type (components : ShapedTypeComponents) (elementType : StablehloType) :
    RankedTensorType :=
  { shape := components.dims, elementType := components.elementType.getD elementType,
    encoding := components.encoding }

/-- A signed 64-bit number, whose overflow is undefined behavior. -/
def checkedInt64 (value : Int) : Except InferenceFailure Int64 :=
  if -2 ^ 63 ≤ value ∧ value < 2 ^ 63 then .ok (.ofInt value) else .error .undefinedBehavior

/-- A checked number is the number. -/
theorem checkedInt64_eq_ok {value : Int} {result : Int64} :
    checkedInt64 value = .ok result ↔ result.toInt = value := by
  unfold checkedInt64
  constructor
  · intro checked
    split at checked
    · next fits =>
      cases checked
      exact Int64.toInt_ofInt_of_le fits.1 fits.2
    · cases checked
  · rintro rfl
    rw [if_pos ⟨result.le_toInt, result.toInt_lt⟩, Int64.ofInt_toInt]

/-- Numbers, as a diagnostic prints them. -/
def interleaveComma (values : List Int64) : String :=
  ", ".intercalate (values.map toString)

/-- Verify that two dimensions may be the same. -/
def verifyCompatibleDims (dimSize1 dimSize2 : Int64) : Bool :=
  isDynamicDimSize dimSize1 || isDynamicDimSize dimSize2 || dimSize1 == dimSize2

/-- Verify that two shapes may be the same. -/
def verifyCompatibleShape (type1 type2 : RankedTensorType) : Bool :=
  type1.rank == type2.rank &&
    (type1.shape.zip type2.shape).all fun (dimSize1, dimSize2) =>
      verifyCompatibleDims dimSize1 dimSize2

/-- Read the size and the bound of a dimension of a type. -/
def RankedTensorType.dimAndBound (type : RankedTensorType) (dim : Nat) :
    Except InferenceFailure DimAndBound :=
  match type.dimsAndBounds[dim]? with
  | some dimAndBound => .ok dimAndBound
  | none => .error .undefinedBehavior

section Concatenate

/-- Concatenate the sizes and bounds of a dimension. -/
def inferConcatenatedDimAndBound (leftSize rightSize leftBound rightBound : Int64) :
    Except InferenceFailure DimAndBound :=
  let isLeftStaticDim := !isDynamicDimSize leftSize
  let isRightStaticDim := !isDynamicDimSize rightSize
  if isLeftStaticDim && isRightStaticDim then do
    let inferredSize ← checkedInt64 (leftSize.toInt + rightSize.toInt)
    .ok (inferredSize, kDynamic)
  else
    let leftSizeOrBound := if isLeftStaticDim then leftSize else leftBound
    let rightSizeOrBound := if isRightStaticDim then rightSize else rightBound
    if !isDynamicDimSize leftSizeOrBound && !isDynamicDimSize rightSizeOrBound then do
      let inferredBound ← checkedInt64 (leftSizeOrBound.toInt + rightSizeOrBound.toInt)
      .ok (kDynamic, inferredBound)
    else
      .ok (kDynamic, kDynamic)

/-- Verify the inputs of a concatenation against the first of them. -/
def verifyConcatenateInputs (witnessType : RankedTensorType) (dimension : Nat) :
    Nat → List RankedTensorType → Except InferenceFailure Unit
  | _, [] => .ok ()
  | i, type :: inputTypes =>
    if type.rank != witnessType.rank then
      .error (.error s!"operands (0) and ({i}) do not match rank")
    else
      let mismatch := (List.range type.rank).find? fun d =>
        d != dimension &&
          !verifyCompatibleDims (witnessType.shape.getD d kDynamic) (type.shape.getD d kDynamic)
      match mismatch with
      | some d =>
        .error (.error (s!"shapes of operand (0) and ({i}) are not compatible at " ++
          s!"non-concat index {d}: ({interleaveComma witnessType.shape}) != " ++
          s!"({interleaveComma type.shape})"))
      | none => verifyConcatenateInputs witnessType dimension (i + 1) inputTypes

/-- Merge the sizes and bounds of a dimension, or concatenate them. -/
def inferConcatenateDimAndBound (dimension dim : Nat)
    (leftSize rightSize leftBound rightBound : Int64) : Except InferenceFailure DimAndBound :=
  if dim = dimension then
    inferConcatenatedDimAndBound leftSize rightSize leftBound rightBound
  else
    inferMostSpecificDimAndBound dim leftSize rightSize leftBound rightBound

/-- Infer the type of a concatenation. -/
def inferConcatenateOp (inputTypes : List RankedTensorType) (dimension : Nat) :
    Except InferenceFailure RankedTensorType :=
  match inputTypes with
  | [] => .error .undefinedBehavior
  | witnessType :: _ =>
    let rank := witnessType.rank
    if rank = 0 then
      .error (.error "rank-0 values cannot be concatenated")
    else if dimension ≥ rank then
      .error (.error s!"dimension {dimension} is out-of-bounds for input rank {rank}")
    else do
      verifyConcatenateInputs witnessType dimension 0 inputTypes
      -- The size of nothing along the dimension is zero, and of the others nothing is known.
      let start : List DimAndBound :=
        (List.replicate rank (kDynamic, kDynamic)).set dimension (0, kDynamic)
      let anyInputHaveBounds := inputTypes.any fun type =>
        !(encodingToBounds type.encoding).isEmpty
      let inferred ← inputTypes.foldlM
        (fun inferred type =>
          inferDimsAndBounds (inferConcatenateDimAndBound dimension) 0 inferred type.dimsAndBounds)
        start
      let witnessEncoding := inputTypes.findSome? RankedTensorType.encoding
      let encoding ← boundsToEncoding witnessEncoding
        (if anyInputHaveBounds then inferred.map Prod.snd else [])
      .ok { shape := inferred.map Prod.fst, elementType := witnessType.elementType, encoding }

end Concatenate

section Dot

/-- Verify that a precision configuration has at most two elements. -/
def verifyPrecisionConfig (precisionConfig : Option Nat) : Except InferenceFailure Unit :=
  match precisionConfig with
  | none => .ok ()
  | some size =>
    if size ≤ 2 then .ok ()
    else .error (.error s!"expects precision config to be empty or have <= 2 elements, got {size}")

/-- Infer the dimensions of a product of vectors and matrices. -/
def inferDotDims (lhsType rhsType : RankedTensorType) :
    Except InferenceFailure (List DimAndBound) :=
  let mismatch := .error (.error "expected both lhs/rhs ranks to be either 1 or 2")
  match lhsType.shape, rhsType.shape with
  -- vector dot vector
  | [lhs0], [rhs0] => if verifyCompatibleDims lhs0 rhs0 then .ok [] else mismatch
  -- matrix dot vector
  | [_, lhs1], [rhs0] =>
    if verifyCompatibleDims lhs1 rhs0 then do
      let first ← lhsType.dimAndBound 0
      .ok [first]
    else mismatch
  -- vector dot matrix
  | [lhs0], [rhs0, _] =>
    if verifyCompatibleDims lhs0 rhs0 then do
      let second ← rhsType.dimAndBound 1
      .ok [second]
    else mismatch
  -- matrix dot matrix
  | [_, lhs1], [rhs0, _] =>
    if verifyCompatibleDims lhs1 rhs0 then do
      let first ← lhsType.dimAndBound 0
      let second ← rhsType.dimAndBound 1
      .ok [first, second]
    else mismatch
  | _, _ => mismatch

/-- Infer the type of a product of vectors and matrices. -/
def inferDotOp (lhsType rhsType : RankedTensorType) (precisionConfig : Option Nat) :
    Except InferenceFailure ShapedTypeComponents := do
  verifyPrecisionConfig precisionConfig
  let inferred ← inferDotDims lhsType rhsType
  let encoding := lhsType.encoding.or rhsType.encoding
  let boundsAttr ← boundsToEncoding encoding (inferred.map Prod.snd)
  .ok { dims := inferred.map Prod.fst, elementType := none, encoding := boundsAttr }

/-- The first of the dimensions that is there for the second time. -/
def firstDuplicate (seen : List Int64) : List Int64 → Option Int64
  | [] => none
  | dim :: dims => if seen.contains dim then some dim else firstDuplicate (dim :: seen) dims

/-- Check that dimensions are distinct. -/
def checkDimsDistinct (lhsDims rhsDims : List Int64) (lhs rhs : String) :
    Except InferenceFailure Unit :=
  match firstDuplicate [] (lhsDims ++ rhsDims) with
  | none => .ok ()
  | some dim => .error (.error s!"has duplicated dimension from {lhs} and {rhs}: {dim}")

/-- Check that dimensions are those of a tensor of the rank. -/
def checkDimsInRange (rank : Nat) (dims : List Int64) (dimName : String) :
    Except InferenceFailure Unit :=
  match dims.find? fun dim => !(0 ≤ dim.toInt && dim.toInt < (rank : Int)) with
  | none => .ok ()
  | some dim => .error (.error s!"{dimName} value: {dim} is out of range: [0, {rank})")

/-- The size of the dimension. -/
def RankedTensorType.dimSize (type : RankedTensorType) (dim : Int64) : Int64 :=
  type.shape.getD dim.toNatClampNeg kDynamic

/-- Check the operands and dimensions of a general product. -/
def checkDotGeneralConstraints (lhsType rhsType : RankedTensorType)
    (lhsBatchingDimensions rhsBatchingDimensions lhsContractingDimensions
      rhsContractingDimensions : List Int64) (precisionConfig : Option Nat) :
    Except InferenceFailure Unit := do
  verifyPrecisionConfig precisionConfig
  if lhsBatchingDimensions.length != rhsBatchingDimensions.length then
    .error (.error "lhs and rhs should have the same number of batching dimensions")
  else if lhsContractingDimensions.length != rhsContractingDimensions.length then
    .error (.error "lhs and rhs should have the same number of contracting dimensions")
  else do
    checkDimsDistinct lhsBatchingDimensions lhsContractingDimensions "lhs_batching_dimensions"
      "lhs_contracting_dimensions"
    checkDimsDistinct rhsBatchingDimensions rhsContractingDimensions "rhs_batching_dimensions"
      "rhs_contracting_dimensions"
    checkDimsInRange lhsType.rank lhsBatchingDimensions "lhs_batching_dimensions"
    checkDimsInRange lhsType.rank lhsContractingDimensions "lhs_contracting_dimensions"
    checkDimsInRange rhsType.rank rhsBatchingDimensions "rhs_batching_dimensions"
    checkDimsInRange rhsType.rank rhsContractingDimensions "rhs_contracting_dimensions"
    let compatible := fun (dims : Int64 × Int64) =>
      verifyCompatibleDims (lhsType.dimSize dims.1) (rhsType.dimSize dims.2)
    if !(lhsBatchingDimensions.zip rhsBatchingDimensions).all compatible then
      .error (.error "batching dimension sizes must match for lhs/rhs")
    else if !(lhsContractingDimensions.zip rhsContractingDimensions).all compatible then
      .error (.error "contracting dimension sizes must match for lhs/rhs")
    else
      .ok ()

/-- The dimensions of a tensor of the rank that are neither batching nor contracting. -/
def resultDims (rank : Nat) (batchingDimensions contractingDimensions : List Int64) : List Nat :=
  (List.range rank).filter fun i =>
    !batchingDimensions.any (fun dim => dim.toInt == (i : Int)) &&
      !contractingDimensions.any (fun dim => dim.toInt == (i : Int))

/-- Infer the batching dimensions of a general product. -/
def inferBatchingDims (lhsType rhsType : RankedTensorType) :
    Nat → List Int64 → List Int64 → Except InferenceFailure (List DimAndBound)
  | i, lhsDim :: lhsDims, rhsDim :: rhsDims => do
    let lhs ← lhsType.dimAndBound lhsDim.toNatClampNeg
    let rhs ← rhsType.dimAndBound rhsDim.toNatClampNeg
    let inferredDimAndBound ← inferMostSpecificDimAndBound i lhs.1 rhs.1 lhs.2 rhs.2
    let rest ← inferBatchingDims lhsType rhsType (i + 1) lhsDims rhsDims
    .ok (inferredDimAndBound :: rest)
  | _, _, _ => .ok []

/-- Infer the type of a general product. -/
def inferDotGeneralOp (lhsType rhsType : RankedTensorType)
    (lhsBatchingDimensions rhsBatchingDimensions lhsContractingDimensions
      rhsContractingDimensions : List Int64) (precisionConfig : Option Nat) :
    Except InferenceFailure ShapedTypeComponents := do
  checkDotGeneralConstraints lhsType rhsType lhsBatchingDimensions rhsBatchingDimensions
    lhsContractingDimensions rhsContractingDimensions precisionConfig
  let batching ← inferBatchingDims lhsType rhsType 0 lhsBatchingDimensions rhsBatchingDimensions
  let lhs ← (resultDims lhsType.rank lhsBatchingDimensions lhsContractingDimensions).mapM
    lhsType.dimAndBound
  let rhs ← (resultDims rhsType.rank rhsBatchingDimensions rhsContractingDimensions).mapM
    rhsType.dimAndBound
  let inferred := batching ++ lhs ++ rhs
  let outputEncoding := lhsType.encoding.or rhsType.encoding
  let boundsAttr ← boundsToEncoding outputEncoding (inferred.map Prod.snd)
  .ok { dims := inferred.map Prod.fst, elementType := none, encoding := boundsAttr }

end Dot

section Pad

/-- The size or the bound with its padding. -/
def paddedSizeOrBound (operandSizeOrBound paddingLowVal paddingHighVal paddingInteriorVal : Int64) :
    Except InferenceFailure Int64 := do
  let padded ← checkedInt64 (operandSizeOrBound.toInt + paddingLowVal.toInt)
  let padded ← checkedInt64 (padded.toInt + paddingHighVal.toInt)
  let gaps ← checkedInt64 (operandSizeOrBound.toInt - 1)
  let interior ← checkedInt64 (max gaps.toInt 0 * paddingInteriorVal.toInt)
  checkedInt64 (padded.toInt + interior.toInt)

/-- Pad the size or the bound of a dimension. -/
def inferPaddedDimAndBound (i : Nat) (dim : DimAndBound)
    (paddingLowVal paddingHighVal paddingInteriorVal : Int64) :
    Except InferenceFailure DimAndBound :=
  if paddingInteriorVal < 0 then
    .error (.error s!"Interior padding cannot be negative: {paddingInteriorVal}")
  else
    let isStaticDim := !isDynamicDimSize dim.1
    let isStaticBound := !isDynamicDimSize dim.2
    if isStaticDim || isStaticBound then do
      let operandSizeOrBound := if isStaticDim then dim.1 else dim.2
      let resultSizeOrBound ← paddedSizeOrBound operandSizeOrBound paddingLowVal paddingHighVal
        paddingInteriorVal
      if resultSizeOrBound < 0 then
        let sizeOrBound := if isStaticDim then "size" else "bound"
        .error (.error s!"Padding result in negative {sizeOrBound} for dimension {i}")
      else
        .ok (if isStaticDim then (resultSizeOrBound, kDynamic) else (kDynamic, resultSizeOrBound))
    else
      .ok (kDynamic, kDynamic)

/-- Pad each dimension of a type. -/
def inferPaddedDims : Nat → List DimAndBound → List Int64 → List Int64 → List Int64 →
    Except InferenceFailure (List DimAndBound)
  | _, [], _, _, _ => .ok []
  | i, dim :: dims, paddingLowVal :: lows, paddingHighVal :: highs, paddingInteriorVal :: interiors => do
    let padded ← inferPaddedDimAndBound i dim paddingLowVal paddingHighVal paddingInteriorVal
    let rest ← inferPaddedDims (i + 1) dims lows highs interiors
    .ok (padded :: rest)
  -- The lengths of the other two paddings are not checked here.
  | _, _ :: _, _, _, _ => .error .undefinedBehavior

/-- Infer the type of a padded tensor. -/
def inferPadOp (inputType : RankedTensorType)
    (edgePaddingLow edgePaddingHigh interiorPadding : List Int64) :
    Except InferenceFailure RankedTensorType :=
  if edgePaddingLow.length != inputType.rank then
    .error (.error (s!"edge_padding_low length ({edgePaddingLow.length}) must match operand " ++
      s!"rank ({inputType.rank})"))
  else do
    let inferred ← inferPaddedDims 0 inputType.dimsAndBounds edgePaddingLow edgePaddingHigh
      interiorPadding
    let resultBounds :=
      if (encodingToBounds inputType.encoding).isEmpty then [] else inferred.map Prod.snd
    let encoding ← boundsToEncoding inputType.encoding resultBounds
    .ok { shape := inferred.map Prod.fst, elementType := inputType.elementType, encoding }

end Pad

/-- Infer the type of a transposed tensor. -/
def inferTransposeOp (rankedTy : RankedTensorType) (permutation : List Int64) :
    Except InferenceFailure RankedTensorType :=
  let rank := rankedTy.rank
  let range := (List.range rank).map Int64.ofNat
  if permutation.length != rank then
    .error (.error (s!"TransposeOp operand rank {rank} does not match permutation size " ++
      s!"{permutation.length}"))
  else if !range.isPerm permutation then
    .error (.error (s!"attribute permutation must be a permutation of [{interleaveComma range}] " ++
      s!"but got {interleaveComma permutation}"))
  else do
    let inferred ← permutation.mapM fun dim => rankedTy.dimAndBound dim.toNatClampNeg
    let resultBounds :=
      if (encodingToBounds rankedTy.encoding).isEmpty then [] else inferred.map Prod.snd
    let encoding ← boundsToEncoding rankedTy.encoding resultBounds
    .ok { shape := inferred.map Prod.fst, elementType := rankedTy.elementType, encoding }

section Window

/-- A dimension of a window. -/
structure WindowDimension where
  size : Int64
  stride : Int64
  paddingLow : Int64
  paddingHigh : Int64
  windowDilation : Int64
  baseDilation : Int64
  windowReversal : Bool

/-- The pairs of numbers of a list. -/
def pairs : List Int → List (Int64 × Int64)
  | first :: second :: rest => (.ofInt first, .ofInt second) :: pairs rest
  | _ => []

/-- Convert a padding attribute to a list of pairs. -/
def convertPaddingAttribute (optionalAttr : Option DenseIntElementsAttr) :
    Except InferenceFailure (List (Int64 × Int64)) :=
  match optionalAttr with
  | none => .ok []
  | some attr =>
    match attr.shape with
    | [_, 2] => .ok (pairs attr.values)
    | shape =>
      let printed := ", ".intercalate (shape.map toString)
      .error (.error (s!"expects the shape of padding-attribute to be \x7bN, 2\x7d, but got " ++
        s!"\x7b{printed}\x7d."))

/-- The size of a dimension after its elements have been spread out. -/
def dilatedBound (bound dilation : Int64) : Except InferenceFailure Int64 :=
  if bound == 0 then
    .ok 0
  else do
    let steps ← checkedInt64 (bound.toInt - 1)
    let spread ← checkedInt64 (steps.toInt * dilation.toInt)
    checkedInt64 (spread.toInt + 1)

/-- The number of positions of a window. The assertions that both sizes are not negative are
those of a debug build. -/
def stridedBound (bound windowSize stride : Int64) : Except InferenceFailure Int64 :=
  if bound == 0 || windowSize > bound then
    .ok 0
  else do
    let free ← checkedInt64 (bound.toInt - windowSize.toInt)
    checkedInt64 (free.toInt.tdiv stride.toInt + 1)

/-- Verify that an attribute has an entry for each dimension of the window, or none at all. -/
def verifySize (windowDimensions attrSize : Nat) (attrName : String) :
    Except InferenceFailure Unit :=
  if attrSize = 0 || attrSize = windowDimensions then
    .ok ()
  else
    .error (.error (s!"expects {attrName} to have same dimension-size as size of window " ++
      s!"dimensions ({windowDimensions}), but got: {attrSize}."))

/-- Verify that a parameter of a dimension of the window is positive. -/
def verifyPositive (value : Int64) (name : String) (i : Nat) : Except InferenceFailure Unit :=
  if value ≤ 0 then
    .error (.error
      s!"expects window to have positive {name} for {i}-th window dimension, but got {value}.")
  else .ok ()

/-- The entry of an attribute, which is read when the attribute has any. -/
def entryOr {α : Type} (entries : List α) (i : Nat) (default : α) : Except InferenceFailure α :=
  if entries.isEmpty then
    .ok default
  else
    match entries[i]? with
    | some entry => .ok entry
    | none => .error .undefinedBehavior

/-- Verify that the size of a dimension of the window is positive or not known. -/
def verifyWindowSize (size : Int64) (i : Nat) : Except InferenceFailure Unit :=
  if isDynamicDimSize size then .ok () else verifyPositive size "value" i

/-- Verify and collect the parameters of a dimension of a window. -/
def inferWindowDimension (windowStrides : List Int64) (padding : List (Int64 × Int64))
    (lhsDilation rhsDilation : List Int64) (size : Int64) (i : Nat) :
    Except InferenceFailure WindowDimension := do
  verifyWindowSize size i
  let stride ← entryOr windowStrides i 1
  verifyPositive stride "stride" i
  let baseDilation ← entryOr lhsDilation i 1
  verifyPositive baseDilation "base dilation factor" i
  let windowDilation ← entryOr rhsDilation i 1
  verifyPositive windowDilation "window dilation factor" i
  let (paddingLow, paddingHigh) ← entryOr padding i (0, 0)
  .ok { size, stride, paddingLow, paddingHigh, windowDilation, baseDilation,
        -- The reversal is checked, and not collected.
        windowReversal := false }

/-- Verify and collect the parameters of the dimensions of a window. -/
def verifyWindowAttributesAndInferWindowDimensions (windowDimensions windowStrides : List Int64)
    (padding : List (Int64 × Int64)) (lhsDilation rhsDilation : List Int64)
    (windowReversal : List Bool) : Except InferenceFailure (List WindowDimension) := do
  let size := windowDimensions.length
  verifySize size windowStrides.length "window-strides"
  verifySize size lhsDilation.length "base-dilation factors"
  verifySize size rhsDilation.length "window-dilation factors"
  verifySize size padding.length "padding-entries"
  verifySize size windowReversal.length "window-reversal"
  windowDimensions.zipIdx.mapM fun (size, i) =>
    inferWindowDimension windowStrides padding lhsDilation rhsDilation size i

/-- The number of positions of a window along a dimension. -/
def inferWindowOutputSize (baseSize : Int64) (dim : WindowDimension) :
    Except InferenceFailure Int64 :=
  if isDynamicDimSize baseSize || isDynamicDimSize dim.size then
    .ok kDynamic
  else do
    let dilatedBase ← dilatedBound baseSize dim.baseDilation
    let padded ← checkedInt64 (dim.paddingLow.toInt + dilatedBase.toInt)
    let paddedDilatedBase ← checkedInt64 (padded.toInt + dim.paddingHigh.toInt)
    let dilatedWindow ← dilatedBound dim.size dim.windowDilation
    stridedBound paddedDilatedBase dilatedWindow dim.stride

/-- The numbers of positions of a window. -/
def inferWindowOutputShape : List Int64 → List WindowDimension →
    Except InferenceFailure (List Int64)
  | _, [] => .ok []
  | baseSize :: baseShape, dim :: window => do
    let size ← inferWindowOutputSize baseSize dim
    let rest ← inferWindowOutputShape baseShape window
    .ok (size :: rest)
  | [], _ :: _ => .error .undefinedBehavior

/-- Verify the inputs of a windowed reduction, and collect its window. -/
def verifyReduceWindowOpInputsAndInferWindow (inputTypes : List RankedTensorType)
    (windowDimensions : List Int64) (windowStrides baseDilations windowDilations : Option (List Int64))
    (padding : Option DenseIntElementsAttr) : Except InferenceFailure (List WindowDimension) :=
  match inputTypes with
  | [] => .error (.error "requires at least 1 input value")
  | witnessType :: others =>
    match others.findIdx? fun type => !verifyCompatibleShape witnessType type with
    | some i =>
      .error (.error (s!"expects all inputs to have compatible shapes. Shape at input-index " ++
        s!"{i + 1} is not compatible with shape at input-index 0"))
    | none => do
      let padding ← convertPaddingAttribute padding
      match inputTypes.find? fun type => type.rank != windowDimensions.length with
      | some type =>
        .error (.error (s!"expects window-dimensions size == input rank, but got " ++
          s!"window-dimensions size: {windowDimensions.length} and input: " ++
          s!"{interleaveComma type.shape} with rank = {type.rank}."))
      | none =>
        verifyWindowAttributesAndInferWindowDimensions windowDimensions (windowStrides.getD [])
          padding (baseDilations.getD []) (windowDilations.getD []) []

/-- Infer the type of one result of a windowed reduction. -/
def inferReduceWindowResult (inferredWindow : List WindowDimension)
    (inputType : RankedTensorType) (accumulatorType : StablehloType) :
    Except InferenceFailure ShapedTypeComponents := do
  let resultShape ← inferWindowOutputShape inputType.shape inferredWindow
  let inputBounds := encodingToBounds inputType.encoding
  if inputBounds.isEmpty then
    .ok { dims := resultShape, elementType := some accumulatorType, encoding := none }
  else
    let resultBounds ← inferWindowOutputShape inputBounds inferredWindow
    let encoding ← boundsToEncoding inputType.encoding resultBounds
    .ok { dims := resultShape, elementType := some accumulatorType, encoding }

/-- Infer the types of the results of a windowed reduction, from the element types that its
body has for them. -/
def inferReduceWindowOp (inputTypes : List RankedTensorType) (windowDimensions : List Int64)
    (windowStrides baseDilations windowDilations : Option (List Int64))
    (padding : Option DenseIntElementsAttr) (accumulatorTypes : List StablehloType) :
    Except InferenceFailure (List ShapedTypeComponents) := do
  let inferredWindow ← verifyReduceWindowOpInputsAndInferWindow inputTypes windowDimensions
    windowStrides baseDilations windowDilations padding
  inputTypes.zipIdx.mapM fun (inputType, i) =>
    match accumulatorTypes[i]? with
    | some accumulatorType => inferReduceWindowResult inferredWindow inputType accumulatorType
    | none => .error .undefinedBehavior

end Window

section SetDimensionSize

/-- The dimension after it was set: bounded by what it was, or the constant when that is its
bound. -/
def setDimAndBound (dim : DimAndBound) (sizeAttr : Option Int32) : DimAndBound :=
  let bound := if isDynamicDimSize dim.1 then dim.2 else dim.1
  match sizeAttr with
  | some splat => if splat.toInt64 == bound then (splat.toInt64, kDynamic) else (kDynamic, bound)
  | none => (kDynamic, bound)

/-- Infer the type of a tensor with a dimension set to a size, which may be a constant. -/
def inferSetDimensionSizeOp (inputType sizeType : RankedTensorType) (sizeAttr : Option Int32)
    (dimension : Int64) : Except InferenceFailure ShapedTypeComponents :=
  if sizeType.rank ≠ 0 then
    .error (.error "size operand should be of rank-0")
  else if dimension < 0 then
    .error (.error s!"requires non-negative dimension attribute; found ({dimension})")
  else if dimension.toInt ≥ inputType.rank then
    .error (.error
      s!"requires dimension attribute in range [0, {inputType.rank}); found ({dimension})")
  else
    match inputType.dimsAndBounds[dimension.toNatClampNeg]? with
    | none => .error .undefinedBehavior
    | some dim =>
      let inferred :=
        inputType.dimsAndBounds.set dimension.toNatClampNeg (setDimAndBound dim sizeAttr)
      let bounds := inferred.map Prod.snd
      .ok {
        dims := inferred.map Prod.fst
        elementType := some inputType.elementType
        encoding :=
          if bounds.all isDynamicDimSize then none else some (.typeExtensions bounds)
      }

end SetDimensionSize

end Stablehlo
