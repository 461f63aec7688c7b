import Stablehlo.Dialect.Types
import Stablehlo.Support.Extent
import Stablehlo.Support.Fallible
import Mathlib.Algebra.Order.Ring.Int

/-! Shape functions with bounded dynamism: how the sizes and bounds of types are merged. -/

namespace Stablehlo

/-- How type inference stops before its end. -/
inductive InferenceFailure where
  /-- The source emits an error at the location, when there is one, and fails. -/
  | error (message : String)
  /-- The source reports a fatal error. -/
  | fatalError (message : String)
  /-- The source runs into undefined behavior of its language. -/
  | undefinedBehavior
  deriving DecidableEq, Repr

/-- The size of a dimension whose size is not known, and the bound of one without a bound. -/
def kDynamic : Int64 := Int64.minValue

/-- The size of a dimension, or its bound, is not known. -/
def isDynamicDimSize (val : Int64) : Bool := val == kDynamic

/-- A type of ranked tensors. -/
structure RankedTensorType where
  shape : List Int64
  elementType : StablehloType
  encoding : Option Encoding

namespace RankedTensorType

/-- The type, among all types. -/
def toType (type : RankedTensorType) : StablehloType :=
  .rankedTensor type.shape type.elementType type.encoding

/-- The number of dimensions. -/
def rank (type : RankedTensorType) : Nat := type.shape.length

end RankedTensorType

/-- The ranked tensor type that a type is. -/
def StablehloType.asRankedTensor : StablehloType → Option RankedTensorType
  | .rankedTensor shape elementType encoding => some { shape, elementType, encoding }
  | _ => none

/-- The types of the tuple type that a type is. -/
def StablehloType.asTuple : StablehloType → Option (List StablehloType)
  | .tuple types => some types
  | _ => none

/-- The bounds an encoding carries. -/
def encodingToBounds : Option Encoding → List Int64
  | some (.typeExtensions bounds) => bounds
  | _ => []

/-- The encoding that carries the bounds, in the dialect of the prototype. -/
def boundsToEncoding (prototype : Option Encoding) (bounds : List Int64) :
    Except InferenceFailure (Option Encoding) :=
  if bounds.isEmpty then
    .ok prototype
  else if bounds.all isDynamicDimSize then
    .ok none
  else
    match prototype with
    | none => .error (.fatalError ("Expect an prototype attribute to obtain the underlying " ++
        "dialect but got none"))
    | some (.typeExtensions _) => .ok (some (.typeExtensions bounds))
    -- The cast of the dialect to one with type extensions is not checked.
    | some (.vhlo _) | some (.other _) => .error .undefinedBehavior

/-- Verify the bounds of an encoding against the type: a slot for each dimension, and a bound
for dynamic dimensions only. -/
def verifyBounds (bounds : List Int64) (type : RankedTensorType) : Bool :=
  bounds.length == type.rank &&
    (bounds.zip type.shape).all fun (bound, dimSize) =>
      isDynamicDimSize bound || isDynamicDimSize dimSize

/-- The size and the bound of a dimension. -/
abbrev DimAndBound := Int64 × Int64

/-- The size and the bound of each dimension of a type. -/
def RankedTensorType.dimsAndBounds (type : RankedTensorType) : List DimAndBound :=
  let bounds := encodingToBounds type.encoding
  type.shape.zip (if bounds.isEmpty then List.replicate type.rank kDynamic else bounds)

/-- Merge the sizes and bounds of a dimension to all that follows from them. -/
def inferMostSpecificDimAndBound (dim : Nat) (leftSize rightSize leftBound rightBound : Int64) :
    Except InferenceFailure DimAndBound :=
  let isLeftStaticDim := !isDynamicDimSize leftSize
  let isRightStaticDim := !isDynamicDimSize rightSize
  let isLeftStaticBound := !isDynamicDimSize leftBound
  let isRightStaticBound := !isDynamicDimSize rightBound
  if isLeftStaticDim || isRightStaticDim then
    if isLeftStaticDim && isRightStaticDim && leftSize != rightSize then
      .error (.error
        s!"Mismatched dimension sizes {leftSize} and {rightSize} in dimension {dim}")
    else
      let inferredSize := if isLeftStaticDim then leftSize else rightSize
      let check_bound := if isLeftStaticBound then leftBound else rightBound
      if (isLeftStaticBound || isRightStaticBound) && inferredSize > check_bound then
        .error (.error
          s!"Mismatched dimension size {inferredSize} and bound {check_bound} in dimension {dim}")
      else
        .ok (inferredSize, kDynamic)
  else if isLeftStaticBound && isRightStaticBound then
    .ok (kDynamic, min leftBound rightBound)
  else
    .ok (kDynamic, if isLeftStaticBound then leftBound else rightBound)

/-- Merge the sizes and bounds of a dimension to all that both of them say. -/
def inferLeastSpecificDimAndBound (dim : Nat) (leftSize rightSize leftBound rightBound : Int64) :
    Except InferenceFailure DimAndBound :=
  let isLeftStaticDim := !isDynamicDimSize leftSize
  let isRightStaticDim := !isDynamicDimSize rightSize
  let isLeftStaticBound := !isDynamicDimSize leftBound
  let isRightStaticBound := !isDynamicDimSize rightBound
  if isLeftStaticDim || isRightStaticDim then
    if isLeftStaticDim && isRightStaticDim then
      if leftSize != rightSize then
        .error (.error
          s!"Mismatched dimension sizes {leftSize} and {rightSize} in dimension {dim}")
      else
        .ok (leftSize, kDynamic)
    else if isLeftStaticBound || isRightStaticBound then
      .ok (kDynamic, if isLeftStaticDim then max leftSize rightBound else max rightSize leftBound)
    else
      .ok (kDynamic, kDynamic)
  else if isLeftStaticBound && isRightStaticBound then
    .ok (kDynamic, max leftBound rightBound)
  else
    .ok (kDynamic, kDynamic)

/-- Merge each dimension of a type into what has been inferred. -/
def inferDimsAndBounds
    (inferDimAndBoundFn : Nat → Int64 → Int64 → Int64 → Int64 → Except InferenceFailure DimAndBound) :
    Nat → List DimAndBound → List DimAndBound → Except InferenceFailure (List DimAndBound)
  | _, [], [] => .ok []
  | dim, (leftSize, leftBound) :: lefts, (rightSize, rightBound) :: rights => do
    let inferredDimAndBound ← inferDimAndBoundFn dim leftSize rightSize leftBound rightBound
    let rest ← inferDimsAndBounds inferDimAndBoundFn (dim + 1) lefts rights
    .ok (inferredDimAndBound :: rest)
  -- Some dimension has no size or no bound slot to read.
  | _, _, _ => .error .undefinedBehavior

/-- Merge types into one, dimension by dimension. -/
def inferTypeWithCustomFn (rankedTypes : List RankedTensorType)
    (inferDimAndBoundFn : Nat → Int64 → Int64 → Int64 → Int64 → Except InferenceFailure DimAndBound) :
    Except InferenceFailure RankedTensorType :=
  match rankedTypes with
  | [] => .error .undefinedBehavior
  | first :: rest =>
    match rankedTypes.find? fun type => type.rank != first.rank with
    | some type => .error (.error s!"Mismatched ranks of types{first.rank} vs {type.rank}")
    | none => do
      let anyInputHaveBounds := !(encodingToBounds first.encoding).isEmpty
      let inferred ← rest.foldlM
        (fun inferred type =>
          inferDimsAndBounds inferDimAndBoundFn 0 inferred type.dimsAndBounds)
        first.dimsAndBounds
      let encoding ← boundsToEncoding first.encoding
        -- Without bounds, the encoding of the first type is that of the result.
        (if anyInputHaveBounds then inferred.map Prod.snd else [])
      .ok { shape := inferred.map Prod.fst, elementType := first.elementType, encoding }

/-- Merge types to all that each of them says. -/
def inferLeastSpecificShapedType (inputTypes : List StablehloType) :
    Except InferenceFailure StablehloType :=
  match inputTypes.find? fun inputType => inputType.asRankedTensor.isNone with
  | some inputType => .ok inputType
  | none =>
    RankedTensorType.toType <$>
      inferTypeWithCustomFn (inputTypes.filterMap StablehloType.asRankedTensor)
        inferLeastSpecificDimAndBound

/-- Merge types to all that follows from them. -/
def inferMostSpecificShapedType (inputTypes : List StablehloType) :
    Except InferenceFailure StablehloType :=
  let rankedTypes := inputTypes.filterMap StablehloType.asRankedTensor
  if rankedTypes.isEmpty then
    match inputTypes with
    | [] => .error .undefinedBehavior
    | inputType :: _ => .ok inputType
  else
    RankedTensorType.toType <$> inferTypeWithCustomFn rankedTypes inferMostSpecificDimAndBound

/-- Apply the function to the types or, when they are tuples, to their elements. -/
def mapOverTupleElements (inputTypes : List StablehloType)
    (fn : List StablehloType → Except InferenceFailure StablehloType) :
    Except InferenceFailure StablehloType :=
  match inputTypes.filterMap StablehloType.asTuple with
  | [] => fn inputTypes
  | first :: rest =>
    let tupleTypes := first :: rest
    if tupleTypes.length != inputTypes.length then
      .error (.error
        "Mismatched type kinds: either all types must be tuples, or no types must be tuples")
    else if tupleTypes.any fun tupleType => tupleType.length != first.length then
      .error (.error "Mismatched tuple sizes: all tuple sizes must be the same")
    else do
      let results ← (List.range first.length).mapM fun i =>
        fn (tupleTypes.filterMap fun tupleType => tupleType[i]?)
      .ok (.tuple results)

/-- The least specific of types. -/
def inferLeastSpecificType (inputTypes : List StablehloType) :
    Except InferenceFailure StablehloType :=
  mapOverTupleElements inputTypes inferLeastSpecificShapedType

/-- The most specific of types. -/
def inferMostSpecificType (inputTypes : List StablehloType) :
    Except InferenceFailure StablehloType :=
  mapOverTupleElements inputTypes inferMostSpecificShapedType

end Stablehlo
