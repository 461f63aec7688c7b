import Stablehlo.Linalg.Generic
import Stablehlo.Reference.Gather
import Stablehlo.Reference.Rearrangements

/-! The conversion of gathers to loops over the result, each of which reads one element. -/

namespace Stablehlo

namespace Linalg

section Conversion

/-- A number of the index type, which has 64 bits. -/
def wrapIndex (value : Int) : Int := value.bmod (2 ^ 64)

/-- Cast an integer to an index. An unsigned one is extended by zeros. -/
def indexCast (element : Element) : Except Failure Int :=
  match element.value, element.type with
  | .integer value, .integer .unsigned _ => .ok (wrapIndex value.bits.toNat)
  | .integer value, _ => .ok (wrapIndex value.bits.toInt)
  | _, _ => .error .undefinedBehavior

/-- Extract an element of a tensor as an index. -/
def extractIndexFromTensor (tensor : Tensor Element) (tensorIndex : Index) : Except Failure Int := do
  let extracted ← tensor.get tensorIndex
  indexCast extracted

/-- An index that is known before the loops run, or that of a loop. -/
inductive LoopValue where
  | constant (value : Nat)
  | index (loop : Nat)
  deriving DecidableEq, Repr

/-- The index in an iteration. -/
def LoopValue.eval (dims : Index) : LoopValue → Nat
  | constant value => value
  | index loop => dims.getD loop 0

/-- What is computed in an iteration, with an entry for each dimension of the operand. -/
structure GatherBody where
  /-- Where the entries of the index vector are extracted. -/
  tensorIndices : List (List LoopValue)
  /-- The entry that a dimension begins at. Without one, it begins at a constant zero. -/
  remappedIndexFromIndices : List (Option Nat)
  outputDimSizes : List Nat
  indexFromBatching : List LoopValue
  indexFromOffset : List LoopValue
  deriving DecidableEq, Repr

/-- The index of an entry of the index vector. -/
def gCombine (gatherIndex : List LoopValue) (indexVectorDim rank i : Nat) :
    Except Failure (List LoopValue) :=
  if indexVectorDim ≠ rank then
    -- Nothing can be inserted behind the end.
    if indexVectorDim ≤ gatherIndex.length then
      .ok (gatherIndex.insertIdx indexVectorDim (.constant i))
    else
      .error .undefinedBehavior
  else
    -- A vector with a single entry needs no dimension.
    .ok gatherIndex

/-- The index along a batching dimension. -/
def batchingIndex (gatherIndex : List LoopValue) (indexVectorDim indicesDim : Nat) :
    Except Failure LoopValue :=
  match gatherIndex[indicesDim + if indicesDim < indexVectorDim then 0 else 1]? with
  | some index => .ok index
  | none => .error .undefinedBehavior

/-- Build the computation of a gather. -/
def gatherConversion (axes : IndexAxes) (operandRank startIndicesRank : Nat)
    (resultShape : Sizes) : Except Failure GatherBody := do
  let batchDims := (List.range resultShape.length).filter fun dim => !axes.windowDims.contains dim
  let gatherIndex := batchDims.map .index
  let tensorIndices ← (List.range axes.indexMap.length).mapM
    (gCombine gatherIndex axes.indexVectorDim startIndicesRank)
  let batching ← axes.indicesBatchingDims.mapM (batchingIndex gatherIndex axes.indexVectorDim)
  let collapsedOrBatching := axes.skippedDims ++ axes.batchingDims
  let remappedOffsetDims := (List.range operandRank).filter fun dim =>
    !collapsedOrBatching.contains dim
  -- The sizes of the result along the offset dimensions, which are taken one after the other.
  match AxisMap.spread collapsedOrBatching 1 (List.range operandRank)
      (axes.windowDims.map (resultShape.getD · 0)) with
  | none => .error .undefinedBehavior
  | some outputDimSizes =>
    .ok {
      tensorIndices
      remappedIndexFromIndices := AxisMap.assign (List.replicate operandRank none) axes.indexMap
        ((List.range axes.indexMap.length).map some)
      outputDimSizes
      indexFromBatching := AxisMap.assign (List.replicate operandRank (.constant 0))
        axes.batchingDims batching
      indexFromOffset := AxisMap.assign (List.replicate operandRank (.constant 0))
        remappedOffsetDims (axes.windowDims.map .index) }

/-- Clamp an index so that as many positions as the result has lie within the operand. -/
def clampIndex (operandDimSize outputDimSize : Nat) (index : Int) : Int :=
  let largestValidIndex := wrapIndex (operandDimSize - outputDimSize)
  min (max 0 index) largestValidIndex

end Conversion

section Run

variable {α : Type}

/-- Where a dimension of the operand begins. -/
def GatherBody.start (body : GatherBody) (operandShape : Sizes) (indexFromStartIndices : List Int)
    (d : Nat) : Int :=
  match body.remappedIndexFromIndices.getD d none with
  | some entry =>
    clampIndex (operandShape.getD d 0) (body.outputDimSizes.getD d 1)
      (indexFromStartIndices.getD entry 0)
  | none => 0

/-- The sum of the three parts of a coordinate. -/
def GatherBody.combine (body : GatherBody) (operandShape : Sizes) (indexFromStartIndices : List Int)
    (dims : Index) (d : Nat) : Int :=
  wrapIndex (wrapIndex (body.start operandShape indexFromStartIndices d +
      (body.indexFromBatching.getD d (.constant 0)).eval dims) +
    (body.indexFromOffset.getD d (.constant 0)).eval dims)

/-- The index in the operand for an iteration. -/
def GatherBody.combinedIndex (body : GatherBody) (operandShape : Sizes)
    (startIndices : Tensor Element) (dims : Index) : Except Failure (List Int) := do
  let indexFromStartIndices ← body.tensorIndices.mapM fun tensorIndex =>
    extractIndexFromTensor startIndices (tensorIndex.map fun value => value.eval dims)
  .ok ((List.range operandShape.length).map
    (body.combine operandShape indexFromStartIndices dims))

/-- The element of the operand for an iteration. -/
def GatherBody.element (body : GatherBody) (operand : Tensor α) (startIndices : Tensor Element)
    (dims : Index) : Except Failure α := do
  let combinedIndex ← body.combinedIndex operand.shape startIndices dims
  operand.getAt combinedIndex

/-- The loops over the result, which have no inputs. -/
def GatherBody.toGeneric (body : GatherBody) (operand : Tensor α) (startIndices : Tensor Element)
    (resultRank : Nat) : GenericOp α α where
  numLoops := resultRank
  inputMaps := []
  outputDims := List.range resultRank
  body dims _ _ := do
    let element ← body.element operand startIndices dims
    .ok [element]

/-- What a gather is converted to, and its run on an empty tensor. -/
def runGather (axes : IndexAxes) (storage : Storage α) (operand : Tensor α)
    (startIndices : Tensor Element) (resultShape : Sizes) : Except Failure (List (Tensor α)) := do
  let body ← gatherConversion axes operand.shape.length startIndices.shape.length resultShape
  (body.toGeneric operand startIndices resultShape.length).run [] [storage.allocate resultShape]

end Run

end Linalg

end Stablehlo
