import Stablehlo.Reference.Ops
import Stablehlo.Reference.Slabs
import Stablehlo.Support.WhileLoop
import Stablehlo.Transforms.StaticSlices

/-! Scans along a dimension, and the loops they are lowered to. -/

namespace Stablehlo.Chlo

section Source

/-- A scan, with the types of its operands and of what its body takes and returns. -/
structure ScanOp where
  inputs : List RankedTensorType
  inits : List RankedTensorType
  dimension : Nat
  scanDimSize : Option Int64
  isReverse : Bool
  /-- The types of the arguments of the body. -/
  bodyArguments : List RankedTensorType
  /-- The types of what the body returns: elements of the outputs, and then the carries. -/
  bodyResults : List RankedTensorType
  /-- The types of the outputs, and then those of the carries. -/
  results : List RankedTensorType

namespace ScanOp

variable (op : ScanOp)

/-- The number of values that are handed on from step to step. -/
def numCarries : Nat := op.inits.length

/-- The number of results that gather what the steps return. -/
def numScanOutputs : Nat := op.results.length - op.numCarries

/-- The types of the outputs. -/
def outputs : List RankedTensorType := op.results.take op.numScanOutputs

/-- The type without the scan dimension. -/
def sliceType (type : RankedTensorType) : RankedTensorType :=
  { type with shape := type.shape.eraseIdx op.dimension }

/-- The size of the scan dimension, as far as it is known, for types without bounds. -/
def inferDimSize : Except InferenceFailure Int64 :=
  op.inputs.zipIdx.foldlM (fun dimSize (inputType, i) => do
    require (decide (op.dimension < inputType.rank))
      s!"scan dimension of operand {i} is out of bounds"
    if isDynamicDimSize dimSize then readEntry inputType.shape op.dimension else .ok dimSize)
    (op.scanDimSize.getD kDynamic)

/-- Infer the types of the results, for types without bounds. -/
def inferReturnTypeComponents : Except InferenceFailure (List RankedTensorType) := do
  require (decide (op.numCarries ≤ op.bodyResults.length))
    s!"ScanOp body must return at least {op.numCarries} values (carries)"
  let numOutputs := op.bodyResults.length - op.numCarries
  let dimSize ← op.inferDimSize
  op.bodyResults.zipIdx.mapM fun (resultType, i) =>
    if i < numOutputs then
      -- The scan dimension is inserted again, which has to be no later than behind the others.
      if op.dimension ≤ resultType.rank then
        .ok { resultType with shape := resultType.shape.insertIdx op.dimension dimSize }
      else .error .undefinedBehavior
    else .ok resultType

/-- Check that all inputs have the same size of the scan dimension. -/
def verifyDimSizes : Except InferenceFailure (Option Int64) :=
  op.inputs.zipIdx.foldlM (fun dimSize (inputType, i) => do
    require (decide (op.dimension < inputType.rank))
      s!"scan dimension of operand {i} is out of bounds"
    let currentDimSize ← readEntry inputType.shape op.dimension
    if isDynamicDimSize currentDimSize then .ok dimSize
    else do
      require (dimSize.all (· == currentDimSize)) s!"invalid scan dimension size of operand {i}"
      .ok (some currentDimSize)) op.scanDimSize

/-- Check the operands and the arguments of the body. -/
def verify : Except InferenceFailure Unit := do
  require (!(op.inputs.isEmpty && op.outputs.isEmpty))
    "at least one of inputs or outputs must be present"
  let _ ← op.verifyDimSizes
  let operands := op.inputs.map op.sliceType ++ op.inits
  require (op.bodyArguments.length == operands.length)
    (s!"expects {operands.length} arguments in the body, but got " ++
      s!"{op.bodyArguments.length}")
  (operands.zip op.bodyArguments).zipIdx.forM fun ((argType, argument), i) =>
    require (isCompatibleForHloTypeInference argType argument)
      s!"operand and body argument {i} are incompatible"

/-- The verifiers accept the scan. Only the shapes of the results are compared with those that are
inferred. -/
structure Verified : Prop where
  scanDimSize : ∀ size, op.scanDimSize = some size → 0 ≤ size.toInt
  results : ∃ inferred, op.inferReturnTypeComponents = .ok inferred ∧
    inferred.length = op.results.length ∧
      ∀ pair ∈ inferred.zip op.results, verifyCompatibleShape pair.1 pair.2 = true
  verified : op.verify = .ok ()

/-- All sizes are known, so that there are no bounds. -/
def HasStaticShapes : Prop :=
  ∀ type ∈ op.inputs ++ op.inits ++ op.bodyArguments ++ op.bodyResults ++ op.results,
    (∀ dim ∈ type.shape, 0 ≤ dim.toInt) ∧ type.encoding = none

instance : Decidable op.HasStaticShapes :=
  decidable_of_iff ((op.inputs ++ op.inits ++ op.bodyArguments ++ op.bodyResults ++
    op.results).all fun type =>
      type.shape.all (fun dim => 0 ≤ dim.toInt) && decide (type.encoding = none)) (by
    simp only [HasStaticShapes, List.all_eq_true, Bool.and_eq_true, decide_eq_true_eq])

end ScanOp

end Source

section Target

/-- The type of the counter. -/
def indexType : RankedTensorType :=
  { shape := [], elementType := .integer .signless 64, encoding := none }

/-- The number that a scalar of 64 bits holds. -/
def readIndex (scalar : Tensor Element) : Option (BitVec 64) := do
  let element ← (scalar.get []).toOption
  let value ← element.getIntegerValue.toOption
  some (value.bits.setWidth 64)

/-- The slice of an input that a turn reads: a dynamic slice, and a reshape. -/
structure InputSlice where
  input : RankedTensorType
  slice : RankedTensorType
  reshaped : RankedTensorType

/-- The verifiers accept the operations that read a slice, which are not for types that are
quantized along an axis. -/
structure InputSlice.Verifies (step : InputSlice) : Prop where
  operand : ∀ flags storage expressed scales zeroPoints axis least most, step.input.elementType ≠
    .uniformQuantizedPerAxis flags storage expressed scales zeroPoints axis least most
  elementType : step.input.elementType = step.slice.elementType
  sliced : ∃ inferred, inferDynamicSliceOp step.input (List.replicate step.input.rank indexType)
      step.slice.shape = .ok inferred ∧
    isCompatibleForHloTypeInference (inferred.type step.input.elementType) step.slice = true
  reshaped : ReshapeVerified step.slice step.reshaped

/-- The slice of the input at the position. -/
def InputSlice.eval (step : InputSlice) (dimension : Nat) (position : BitVec 64)
    (input : Tensor Element) : Option (Tensor Element) := do
  let slice ← (dynamicSliceOp input
    ((startScalars step.input.rank dimension position).map TypedTensor.elements)
    (step.slice.shape.map Int64.toInt) step.slice.sizes).toOption
  (slice.reshapeOp step.reshaped.sizes).toOption

/-- How a turn writes to an output: a reshape, and a dynamic update. -/
structure OutputUpdate where
  output : RankedTensorType
  element : RankedTensorType
  reshaped : RankedTensorType

/-- The verifiers accept the operations that write to an output. -/
structure OutputUpdate.Verifies (step : OutputUpdate) : Prop where
  reshaped : ReshapeVerified step.element step.reshaped
  elementType : step.output.elementType = step.reshaped.elementType
  updated : ∃ inferred, inferDynamicUpdateSliceOp step.output step.reshaped
      (List.replicate step.output.rank indexType) = .ok inferred ∧
    isCompatibleForHloTypeInference (inferred.type step.output.elementType) step.output = true

/-- The output with the element at the position. -/
def OutputUpdate.eval (step : OutputUpdate) (dimension : Nat) (position : BitVec 64)
    (current element : Tensor Element) : Option (Tensor Element) := do
  let reshaped ← (element.reshapeOp step.reshaped.sizes).toOption
  (dynamicUpdateSliceOp current reshaped
    ((startScalars step.output.rank dimension position).map TypedTensor.elements)
    step.output.sizes).toOption

/-- The loop that a scan is lowered to. -/
structure ScanLoop where
  dimension : Nat
  isReverse : Bool
  /-- The size of the scan dimension, as the loop has it. -/
  scanDimSize : BitVec 64
  inits : List RankedTensorType
  outputs : List RankedTensorType
  /-- What the outputs are filled with. -/
  zeros : List Element
  slices : List InputSlice
  updates : List OutputUpdate
  /-- The types of the arguments that the body was made for. -/
  bodyArguments : List RankedTensorType
  /-- The types of the carries that a turn returns. -/
  newAccs : List RankedTensorType

namespace ScanLoop

variable (loop : ScanLoop)

/-- The types of the counter, of the carries and of the outputs. -/
def whileTypes : List RankedTensorType := indexType :: loop.inits ++ loop.outputs

/-- The types of what a turn returns. -/
def yieldTypes : List RankedTensorType :=
  indexType :: loop.newAccs ++ loop.updates.map OutputUpdate.output

/-- The verifiers accept the loop, and the body gets values of the types it was made for. -/
structure Verifies : Prop where
  slices : ∀ step ∈ loop.slices, step.Verifies
  updates : ∀ step ∈ loop.updates, step.Verifies
  arguments : loop.slices.map InputSlice.reshaped ++ loop.inits = loop.bodyArguments
  returned : loop.whileTypes.length = loop.yieldTypes.length ∧
    ∀ pair ∈ loop.whileTypes.zip loop.yieldTypes,
      isCompatibleForHloTypeInference pair.1 pair.2 = true

/-- The position that a turn reads from and writes to. -/
def posIndex (index : BitVec 64) : BitVec 64 :=
  if loop.isReverse then loop.scanDimSize - 1 - index else index

/-- The counter, the carries and the outputs before the first turn. -/
def initialValues (inits : List (Tensor Element)) : Option (List (Tensor Element)) := do
  let outputs ← (loop.outputs.zip loop.zeros).mapM fun (type, zero) =>
    ((Tensor.constant zero).broadcastInDimOp [] type.sizes).toOption
  some ((indexScalar 0).elements :: inits ++ outputs)

/-- Whether there is another turn. -/
def cond (state : List (Tensor Element)) : Option Bool := do
  let index ← state.head?.bind readIndex
  some (index.slt loop.scanDimSize)

/-- Take a turn. -/
def turn (body : List (Tensor Element) → Option (List (Tensor Element)))
    (inputs state : List (Tensor Element)) : Option (List (Tensor Element)) := do
  let index ← state.head?.bind readIndex
  let position := loop.posIndex index
  let argAccs := (state.drop 1).take loop.inits.length
  let argOutputs := (state.drop (1 + loop.inits.length)).take loop.outputs.length
  let slicedInputs ← (loop.slices.zip inputs).mapM fun (step, input) =>
    step.eval loop.dimension position input
  let bodyResults ← body (slicedInputs ++ argAccs)
  let newOutputElements := bodyResults.take loop.outputs.length
  let newAccs := bodyResults.drop (bodyResults.length - loop.inits.length)
  let updatedOutputs ← (loop.updates.zip (argOutputs.zip newOutputElements)).mapM
    fun (step, current, element) => step.eval loop.dimension position current element
  some ((indexScalar (index + 1)).elements :: newAccs ++ updatedOutputs)

/-- The number of turns, the outputs and the carries. -/
def eval (body : List (Tensor Element) → Option (List (Tensor Element)))
    (inputs inits : List (Tensor Element)) (fuel : Nat) :
    Option (Nat × List (Tensor Element) × List (Tensor Element)) := do
  let start ← loop.initialValues inits
  let (turns, results) ← WhileLoop.run loop.cond (loop.turn body inputs) fuel start
  let outputsStart := 1 + loop.inits.length
  some (turns, (results.drop outputsStart).take loop.outputs.length,
    (results.drop 1).take loop.inits.length)

end ScanLoop

end Target

section Lowering

namespace ScanOp

variable (op : ScanOp)

/-- The size of the scan dimension, as a number of 32 bits. -/
def getScanDimensionSize : Option (BitVec 32) :=
  match op.inputs, op.results with
  | input :: _, _ => input.shape[op.dimension]?.map fun size => BitVec.ofInt 32 size.toInt
  | [], result :: _ => result.shape[op.dimension]?.bind fun size =>
    if isDynamicDimSize size then none else some (BitVec.ofInt 32 size.toInt)
  | [], [] => none

/-- The type with one position of the scan dimension. -/
def unitType (type : RankedTensorType) : RankedTensorType :=
  { type with shape := type.shape.set op.dimension 1 }

/-- The slices of the inputs. -/
def sliceInputs : List InputSlice :=
  op.inputs.map fun input =>
    { input, slice := op.unitType input, reshaped := op.sliceType input }

/-- The updates of the outputs. -/
def updateOutputs : List OutputUpdate :=
  (op.outputs.zip op.bodyResults).map fun (output, element) =>
    { output, element, reshaped := op.unitType output }

/-- Lower a scan with static shapes to a loop, given the zeros of the element types. -/
def matchAndRewrite (getZeroAttr : StablehloType → Option Element) : Option ScanLoop := do
  let size ← op.getScanDimensionSize
  let zeros ← op.outputs.mapM fun type => getZeroAttr type.elementType
  some {
    dimension := op.dimension
    isReverse := op.isReverse
    scanDimSize := size.signExtend 64
    inits := op.inits
    outputs := op.outputs
    zeros
    slices := op.sliceInputs
    updates := op.updateOutputs
    bodyArguments := op.bodyArguments
    newAccs := op.bodyResults.drop (op.bodyResults.length - op.numCarries) }

end ScanOp

end Lowering

section Specification

/-- The tensors have the shapes of the types. -/
def HaveShapes (types : List RankedTensorType) (tensors : List (Tensor Element)) : Prop :=
  tensors.map Tensor.shape = types.map RankedTensorType.sizes

/-- What a body computes, if it does. -/
structure ScanBody (op : ScanOp) where
  run : List (Tensor Element) → Option (List (Tensor Element))
  /-- The body returns tensors of the shapes that it says. -/
  shaped : ∀ arguments results, HaveShapes op.bodyArguments arguments →
    run arguments = some results → HaveShapes op.bodyResults results

namespace ScanOp

variable (op : ScanOp)

/-- The size of the scan dimension, which is that of the first input, or of the first output. -/
def scanSize : Nat :=
  match op.inputs, op.results with
  | input :: _, _ => input.sizes.getD op.dimension 0
  | [], result :: _ => result.sizes.getD op.dimension 0
  | [], [] => 0

/-- The positions along the scan dimension, in scan order. -/
def positions : List Nat :=
  if op.isReverse then (List.range op.scanSize).reverse else List.range op.scanSize

/-- The elements of the outputs that the steps at the positions return, and the carries after
them. -/
def scanFrom (body : List (Tensor Element) → Option (List (Tensor Element)))
    (inputs : List (Tensor Element)) : List Nat → List (Tensor Element) →
    Option (List (List (Tensor Element)) × List (Tensor Element))
  | [], carries => some ([], carries)
  | position :: positions, carries => do
    let slices ← inputs.mapM fun input => (input.slab op.dimension position).toOption
    let results ← body (slices ++ carries)
    let (outputs, last) ← scanFrom body inputs positions (results.drop op.numScanOutputs)
    some (results.take op.numScanOutputs :: outputs, last)

/-- The loop runs a turn for each position, hands on the carries, and fills the outputs with what
the body returns at the position, unless the body fails. -/
def RunsCorrectly (loop : ScanLoop) : Prop :=
  ∀ (body : ScanBody op) (inputs inits : List (Tensor Element)), HaveShapes op.inputs inputs →
    HaveShapes op.inits inits →
    match op.scanFrom body.run inputs op.positions inits with
    | none => ∀ fuel, loop.eval body.run inputs inits fuel = none
    | some (steps, carries) => ∀ fuel, op.scanSize < fuel →
      ∃ outputs, loop.eval body.run inputs inits fuel = some (op.scanSize, outputs, carries) ∧
        HaveShapes op.outputs outputs ∧
        ∀ (i : Nat) (output : Tensor Element), outputs[i]? = some output →
          output.shape[op.dimension]? = some op.scanSize ∧
          ∀ (step position : Nat), op.positions[step]? = some position →
            ∃ element, steps[step]?.bind (·[i]?) = some element ∧
              output.slab op.dimension position = .ok element

/-- The loop is a valid program, and does what the scan says. -/
def LowersCorrectly (loop : ScanLoop) : Prop := loop.Verifies ∧ op.RunsCorrectly loop

/-- The types that the verifier of scans does not compare are the same, and no input is quantized
along an axis. -/
structure TypesKept : Prop where
  inputs : ∀ input ∈ op.inputs, ∀ flags storage expressed scales zeroPoints axis least most,
    input.elementType ≠
      .uniformQuantizedPerAxis flags storage expressed scales zeroPoints axis least most
  arguments : op.bodyArguments = op.inputs.map op.sliceType ++ op.inits
  outputs : (op.bodyResults.take op.numScanOutputs).map RankedTensorType.elementType =
    op.outputs.map RankedTensorType.elementType
  carries : ∀ pair ∈ op.inits.zip (op.bodyResults.drop op.numScanOutputs),
    isCompatibleForHloTypeInference pair.1 pair.2 = true

/-- All outputs have the size of the scan dimension, which is known to the verifier only when there
are inputs or the size is given. -/
def OutputsAlike : Prop :=
  ∀ output ∈ op.outputs, output.sizes[op.dimension]? = some op.scanSize

instance : Decidable op.OutputsAlike :=
  inferInstanceAs (Decidable (∀ output ∈ op.outputs,
    output.sizes[op.dimension]? = some op.scanSize))

end ScanOp

end Specification

end Stablehlo.Chlo
