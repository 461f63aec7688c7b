import Stablehlo.Reference.Rearrangements

/-! Operands with static and bounded dimensions are broadcast to a common type. -/

namespace Stablehlo.BroadcastLowering

section Types

/-- A dimension of a type: its size, or a bound of its size. -/
inductive Dim where
  | static (size : Nat)
  | bounded (bound : Nat)
  deriving DecidableEq, Repr

/-- The size of a dimension that has as much room as it can have. -/
def Dim.size : Dim → Nat
  | .static size => size
  | .bounded bound => bound

/-- The size of a dimension is only known when the program runs. -/
def Dim.isBounded : Dim → Bool
  | .static _ => false
  | .bounded _ => true

/-- What broadcasts depend on of the type of elements. -/
inductive ElementType where
  /-- Numbers, which may be quantized with a single scale. -/
  | plain
  /-- Numbers that are quantized with a scale for each position along a dimension. -/
  | perAxis (numScales quantizedDimension : Nat)
  deriving DecidableEq, Repr

/-- A type of ranked tensors, whose dimensions are static or bounded. -/
structure TensorType where
  dims : List Dim
  elementType : ElementType
  /-- The encoding has a slot for the bound of each dimension. -/
  carriesBounds : Bool
  bounds : dims.any Dim.isBounded = true → carriesBounds = true
  deriving DecidableEq, Repr

/-- The number of dimensions. -/
def TensorType.rank (type : TensorType) : Nat := type.dims.length

/-- The type whose encoding has no slots that it does not need. -/
def TensorType.ofDims (dims : List Dim) (elementType : ElementType) : TensorType where
  dims
  elementType
  carriesBounds := dims.any Dim.isBounded
  bounds := id

/-- A value: an operand of the broadcast, or the result of an operation. -/
inductive Value where
  | operand (number : Nat) (type : TensorType)
  /-- `stablehlo.broadcast_in_dim`. -/
  | broadcastInDim (type : TensorType) (input : Value) (broadcastDimensions : List Int)
  /-- `stablehlo.set_dimension_size`, to the `stablehlo.get_dimension_size` of a value. -/
  | setDimensionSize (input boundOp : Value) (boundOpDim dimension : Nat)

/-- The type of a value. A dimension that is set to a size is bounded by what it was. -/
def Value.type : Value → TensorType
  | .operand _ type => type
  | .broadcastInDim type _ _ => type
  | .setDimensionSize input _ _ dimension =>
    .ofDims (input.type.dims.modify dimension fun dim => .bounded dim.size) input.type.elementType

/-- The size of a dimension, and the value and its dimension that have the size at run time. -/
structure DimensionInfo where
  size : Nat
  boundOp : Option (Value × Nat)

/-- The size and the bound of each dimension. -/
abbrev Dimensions := List DimensionInfo

/-- Why operands are not broadcast, and what the message tells of them. -/
inductive BroadcastError where
  /-- Requires at least one operand to broadcast. -/
  | noOperands
  /-- Incompatible shapes for broadcasting. -/
  | incompatibleShapes (size1 size2 : Nat)
  /-- Cannot mix bounded and static dimensions in broadcast. -/
  | mixedDimensions
  /-- Input rank must be at most the output rank. -/
  | inputRank (inputRank outputRank : Nat)
  /-- The number of broadcast dimensions must match the input rank. -/
  | broadcastDimensionsSize (size inputRank : Nat)
  /-- An index of the broadcast dimensions is out of bounds. -/
  | broadcastDimensionsIndex (resultIdx : Int) (outputRank : Nat)
  /-- Cannot broadcast the input to the target shape. -/
  | cannotBroadcast (inputType : TensorType) (shape : List Dim)
  /-- The dimension of the input is bounded, but that of the target is static. -/
  | boundedInput (dimension : Nat) (resultIdx : Int)
  deriving DecidableEq

end Types

section Broadcasting

/-- The dimension of the type of a value, as one that others are broadcast to. -/
def getDimensionInfo (op : Value) (dimAndIndex : Dim × Nat) : DimensionInfo :=
  match dimAndIndex with
  | (.static size, _) => ⟨size, none⟩
  | (.bounded bound, dim) => ⟨bound, some (op, dim)⟩

/-- The dimensions of a value. -/
def getDimensions (op : Value) : Dimensions := op.type.dims.zipIdx.map (getDimensionInfo op)

/-- The dimension at a distance from the last one, or one of size one in front of all of them. -/
def fromRight (dims : Dimensions) (i : Nat) : DimensionInfo := dims.reverse.getD i ⟨1, none⟩

/-- The dimension that two aligned ones are broadcast to. -/
def broadcastDim (dimA dimB : DimensionInfo) : Except BroadcastError DimensionInfo :=
  if dimA.size = 1 then .ok dimB
  else if dimB.size = 1 then .ok dimA
  else if dimA.size ≠ dimB.size then .error (.incompatibleShapes dimA.size dimB.size)
  else if dimA.boundOp.isSome ≠ dimB.boundOp.isSome then .error .mixedDimensions
  else .ok dimA

/-- The shape that two shapes are broadcast to, from right to left. -/
def getNumpyBroadcastShapeWithBounds (a b : Dimensions) : Except BroadcastError Dimensions := do
  let result ← (List.range (max a.length b.length)).mapM fun i =>
    broadcastDim (fromRight a i) (fromRight b i)
  .ok result.reverse

/-- The dimension of a type. -/
def DimensionInfo.dim (info : DimensionInfo) : Dim :=
  match info.boundOp with
  | some _ => .bounded info.size
  | none => .static info.size

/-- The type with the dimensions. -/
def getRankedTensorType (dims : Dimensions) (elementType : ElementType) : TensorType :=
  .ofDims (dims.map DimensionInfo.dim) elementType

/-- The shape that values are broadcast to, one after the other. -/
def getNumpyBroadcastShape : List Value → Except BroadcastError Dimensions
  | [] => .error .noOperands
  | first :: ops => ops.foldlM (fun bcastShape currOp =>
      getNumpyBroadcastShapeWithBounds bcastShape (getDimensions currOp)) (getDimensions first)

/-- Map a dimension of a value to one of the shape. Where the value is static and the shape is not,
the dimension is the padded one. -/
def mapDimension (input : Value) (shape bcastShape : Dimensions)
    (entry : (DimensionInfo × Int) × Nat) : Except BroadcastError Dimensions :=
  let ((inputDim, resultIdx), i) := entry
  match if resultIdx < 0 then none else shape[resultIdx.toNat]? with
  | none => .error (.broadcastDimensionsIndex resultIdx shape.length)
  | some resultDim =>
    if inputDim.size ≠ 1 ∧ inputDim.size ≠ resultDim.size then
      .error (.cannotBroadcast input.type (shape.map DimensionInfo.dim))
    else if inputDim.boundOp.isSome ∧ resultDim.boundOp.isNone then
      .error (.boundedInput i resultIdx)
    else if inputDim.boundOp.isNone ∧ resultDim.boundOp.isSome then
      .ok (bcastShape.set resultIdx.toNat ⟨resultDim.size, none⟩)
    else
      .ok bcastShape

/-- Make a dimension dynamic that is padded in the broadcast, but bounded in the shape. -/
def markDynamic (bcastOp : Value) (entry : (DimensionInfo × DimensionInfo) × Nat) : Value :=
  let ((bcastDim, dim), i) := entry
  match bcastDim.boundOp, dim.boundOp with
  | none, some (boundOp, boundOpDim) => .setDimensionSize bcastOp boundOp boundOpDim i
  | _, _ => bcastOp

/-- Broadcast a value to a shape, when it does not have the type yet. -/
def broadcastIfNeeded (input : Value) (shape : Dimensions) (broadcastDimensions : List Int) :
    Except BroadcastError Value :=
  let outputType := getRankedTensorType shape input.type.elementType
  if input.type = outputType then .ok input
  else if input.type.rank > outputType.rank then
    .error (.inputRank input.type.rank outputType.rank)
  else if broadcastDimensions.length ≠ input.type.rank then
    .error (.broadcastDimensionsSize broadcastDimensions.length input.type.rank)
  else do
    let bcastShape ← ((getDimensions input).zip broadcastDimensions).zipIdx.foldlM
      (mapDimension input shape) shape
    -- Dimensions that are not mapped are padded, too.
    let bcastShape := (bcastShape.zip shape).zipIdx.map fun ((bcastDim, dim), i) =>
      if (i : Int) ∈ broadcastDimensions then bcastDim else ⟨dim.size, none⟩
    let bcastType := getRankedTensorType bcastShape input.type.elementType
    let bcastOp := Value.broadcastInDim bcastType input broadcastDimensions
    if bcastType = outputType then .ok bcastOp
    else .ok ((bcastShape.zip shape).zipIdx.foldl markDynamic bcastOp)

/-- Broadcast a value to a shape, whose last dimensions are those of the value. -/
def numpyBroadcastIfNeeded (input : Value) (shape : Dimensions) : Except BroadcastError Value :=
  let inputRank := input.type.rank
  let outputRank := shape.length
  if inputRank > outputRank then .error (.inputRank inputRank outputRank)
  else broadcastIfNeeded input shape
    ((List.range inputRank).map fun i => ((outputRank - inputRank + i : Nat) : Int))

/-- Broadcast values to the shape that they have together. -/
def numpyBroadcastAllIfNeeded (operands : List Value) : Except BroadcastError (List Value) := do
  let bcastShape ← getNumpyBroadcastShape operands
  operands.mapM fun operand => numpyBroadcastIfNeeded operand bcastShape

end Broadcasting

section Verifiers

/-- The quantized dimension is one of the type, with as many positions as there are scales. -/
def isValidQuantizedDimension (type : TensorType) : Prop :=
  match type.elementType with
  | .plain => True
  | .perAxis numScales quantizedDimension =>
    match type.dims[quantizedDimension]? with
    | none => False
    | some (.static size) => numScales = size
    | some (.bounded _) => True

/-- The type has a static shape, or a single bounded dimension. -/
def hasStaticOrSingleBoundedShape (type : TensorType) : Prop :=
  type.dims.countP Dim.isBounded ≤ 1

/-- The quantized dimension keeps its place, and a single scale is not read at other positions. -/
def verifyBroadcastInDimOpQuantConstraints (operandType : TensorType)
    (broadcastDimensions : List Int) (resultType : TensorType) : Prop :=
  match operandType.elementType with
  | .plain => True
  | .perAxis _ quantizedDimension =>
    broadcastDimensions[quantizedDimension]? = some (quantizedDimension : Int) ∧
      (operandType.dims[quantizedDimension]? = some (.static 1) →
        resultType.dims[quantizedDimension]? = some (.static 1))

/-- A broadcast is verified. -/
structure VerifyBroadcastInDimOp (operandType : TensorType) (broadcastDimensions : List Int)
    (resultType : TensorType) : Prop where
  operand : isValidQuantizedDimension operandType
  result : isValidQuantizedDimension resultType
  shape : hasStaticOrSingleBoundedShape resultType
  elements : operandType.elementType = resultType.elementType
  count : broadcastDimensions.length = operandType.rank
  unique : broadcastDimensions.Nodup
  inBounds : ∀ dimIndex ∈ broadcastDimensions, 0 ≤ dimIndex ∧ dimIndex < resultType.rank
  sizes : ∀ (i size : Nat) (dimIndex : Int), operandType.dims[i]? = some (.static size) →
    broadcastDimensions[i]? = some dimIndex →
      size = 1 ∨ resultType.dims[dimIndex.toNat]? = some (.static size)
  quantization : verifyBroadcastInDimOpQuantConstraints operandType broadcastDimensions resultType

/-- The operations that a value is computed by are verified. -/
def Value.Verified : Value → Prop
  | .operand _ _ => True
  | .broadcastInDim type input broadcastDimensions =>
    VerifyBroadcastInDimOp input.type broadcastDimensions type ∧ input.Verified
  | .setDimensionSize input boundOp boundOpDim dimension =>
    (isValidQuantizedDimension boundOp.type ∧ boundOpDim < boundOp.type.rank) ∧
      (input.type.elementType = .plain ∧ dimension < input.type.rank) ∧
        input.Verified ∧ boundOp.Verified

end Verifiers

section Runs

variable {α : Type}

/-- A tensor at run time: there is room for its bounds, and its sizes are at most those. -/
structure RuntimeTensor (α : Type) where
  buffer : Tensor α
  sizes : Sizes

/-- A dimension has a size at run time. -/
def Dim.Has : Dim → Nat → Prop
  | .static size, runtimeSize => runtimeSize = size
  | .bounded bound, runtimeSize => runtimeSize ≤ bound

/-- A tensor at run time is one of the type. -/
structure RuntimeTensor.Fits (tensor : RuntimeTensor α) (type : TensorType) : Prop where
  buffer : tensor.buffer.shape = type.dims.map Dim.size
  sizes : List.Forall₂ Dim.Has type.dims tensor.sizes

/-- The sizes of a broadcast at run time: those of the dynamic dimensions of its operand, up to the
bounds. -/
def broadcastSizes (type : TensorType) (sizes : Sizes) (broadcastDimensions : List Int) : Sizes :=
  type.dims.zipIdx.map fun (dim, i) =>
    match dim with
    | .static size => size
    | .bounded bound => min bound (sizes.getD (broadcastDimensions.idxOf (i : Int)) bound)

/-- Compute a value. -/
def Value.eval (operands : Nat → RuntimeTensor α) : Value → Except Failure (RuntimeTensor α)
  | .operand number _ => .ok (operands number)
  | .broadcastInDim type source broadcastDimensions => do
    let input ← source.eval operands
    let buffer ← input.buffer.broadcastInDimOp (broadcastDimensions.map Int.toNat)
      (type.dims.map Dim.size)
    .ok ⟨buffer, broadcastSizes type input.sizes broadcastDimensions⟩
  | .setDimensionSize source boundOp boundOpDim dimension => do
    let input ← source.eval operands
    let bound ← boundOp.eval operands
    match bound.sizes[boundOpDim]? with
    | some size => .ok ⟨input.buffer, input.sizes.set dimension size⟩
    | none => .error .undefinedBehavior

end Runs

section Specification

/-- An operand of a broadcast, whose type is a valid one. -/
structure Operand where
  number : Nat
  type : TensorType
  valid : isValidQuantizedDimension type

/-- The value that is broadcast. -/
def Operand.value (operand : Operand) : Value := .operand operand.number operand.type

/-- The dimension of an operand at a distance from the last one, or one of size one in front. -/
def Operand.dimAt (operand : Operand) (i : Nat) : Dim :=
  operand.type.dims.reverse.getD i (.static 1)

/-- The dimensions of operands that are aligned at a distance from the last ones. -/
def column (operands : List Operand) (i : Nat) : List Dim :=
  operands.map fun operand => operand.dimAt i

/-- The dimension that aligned ones are broadcast to. -/
def joint (dims : List Dim) : Dim :=
  match dims.find? fun dim => dim.size != 1 with
  | some dim => dim
  | none => (dims.find? Dim.isBounded).getD (.static 1)

/-- The largest number of dimensions. -/
def maxRank (operands : List Operand) : Nat :=
  (operands.map fun operand => operand.type.rank).foldr max 0

/-- The dimensions that operands are broadcast to. -/
def commonDims (operands : List Operand) : List Dim :=
  ((List.range (maxRank operands)).map fun i => joint (column operands i)).reverse

/-- An operand that does not have the common type has at most one bounded dimension. When it has a
scale for each position along a dimension, there are no new dimensions, that dimension is not
expanded, and no static one becomes bounded. -/
def Verifiable (operands : List Operand) : Prop :=
  ∀ operand ∈ operands,
    operand.type ≠ .ofDims (commonDims operands) operand.type.elementType →
      hasStaticOrSingleBoundedShape operand.type ∧
      ∀ numScales axis, operand.type.elementType = .perAxis numScales axis →
        operand.type.rank = maxRank operands ∧
        (∀ size, operand.type.dims[axis]? = some (.static size) →
          (commonDims operands)[axis]? = some (.static size)) ∧
        ∀ i, (joint (column operands i)).isBounded = true → (operand.dimAt i).isBounded = true

end Specification

end Stablehlo.BroadcastLowering
