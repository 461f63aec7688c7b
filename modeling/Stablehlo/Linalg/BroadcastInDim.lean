import Stablehlo.Linalg.Generic
import Stablehlo.Transforms.ShapeRewrites

/-! The conversions of broadcast_in_dim: to a structured operation, and to a broadcast with a
collapse and a transpose in front of it. -/

namespace Stablehlo

namespace Linalg

section Operations

variable {α : Type}

/-- Yield the first block argument. -/
def yieldFirst (args outs : List α) : Except Failure (List α) :=
  match args ++ outs with
  | first :: _ => .ok [first]
  | [] => .error .undefinedBehavior

/-- An operation that moves data: its map is that of the input, and the loops are along the result. -/
def dataMovement (numLoops : Nat) (inputMap : AffineMap) : GenericOp α α where
  numLoops
  inputMaps := [inputMap]
  outputDims := List.range numLoops
  body _ args outs := yieldFirst args outs

/-- A collapse of groups of dimensions. -/
structure CollapseShapeOp where
  reassociation : List (List Nat)
  resultShape : Sizes
  deriving DecidableEq, Repr

/-- The groups are those of all dimensions in order, with as many elements as the dimension of the
result. All dimensions that are collapsed into none have size one. -/
def CollapseShapeOp.WellFormed (op : CollapseShapeOp) (operandShape : Sizes) : Prop :=
  op.resultShape.length < operandShape.length ∧
    if op.resultShape = [] then
      op.reassociation = [] ∧ ∀ size ∈ operandShape, size = 1
    else
      op.reassociation.flatten = List.range operandShape.length ∧
        List.Forall₂ (fun group size => group ≠ [] ∧
          (group.map (operandShape.getD · 0)).prod = size) op.reassociation op.resultShape

/-- Collapsed dimensions leave the elements in their order. -/
def CollapseShapeOp.run (op : CollapseShapeOp) (operand : Tensor α) : Except Failure (Tensor α) :=
  operand.reshapeOp op.resultShape

/-- A broadcast along dimensions that are added. -/
structure BroadcastOp where
  dimensions : List Nat
  resultShape : Sizes
  deriving DecidableEq, Repr

/-- The dimensions of the result that are those of the input. -/
def BroadcastOp.inputDims (op : BroadcastOp) : List Nat :=
  (List.range op.resultShape.length).filter fun dim => !op.dimensions.contains dim

/-- The ranks add up, and the dimensions of the input have their sizes in the result. -/
def BroadcastOp.WellFormed (op : BroadcastOp) (inputShape : Sizes) : Prop :=
  inputShape.length + op.dimensions.length = op.resultShape.length ∧
    (∀ dim ∈ op.dimensions, dim < op.resultShape.length) ∧
      inputShape = op.inputDims.map (op.resultShape.getD · 0)

/-- Every element is the one of the input at the index without the added dimensions. -/
def BroadcastOp.run (op : BroadcastOp) (storage : Storage α) (input : Tensor α) :
    Except Failure (List (Tensor α)) :=
  (dataMovement op.resultShape.length (.ofDims op.inputDims)).run [input]
    [storage.allocate op.resultShape]

end Operations

section Converters

/-- The map of the operand: dimensions of size one that are expanded are read at zero. -/
def getIndexingMap (operandShape : Sizes) (broadcastDimensions : List Nat) (resultShape : Sizes) :
    AffineMap :=
  if operandShape.length = 0 then
    []
  else
    broadcastDimensions.zipIdx.map fun (broadcastDim, idx) =>
      if operandShape.getD idx 0 = 1 ∧ resultShape.getD broadcastDim 0 ≠ 1 then .constant 0
      else .dim broadcastDim

/-- The structured operation that a broadcast is converted to. -/
def hloBroadcastInDimConverter {α : Type} (operandShape : Sizes) (broadcastDimensions : List Nat)
    (resultShape : Sizes) : GenericOp α α :=
  dataMovement resultShape.length (getIndexingMap operandShape broadcastDimensions resultShape)

/-- What a broadcast is converted to: a collapse and a transpose where they are needed, and a
broadcast along added dimensions. -/
structure BroadcastProgram where
  collapse : Option CollapseShapeOp
  permutation : Option (List Nat)
  broadcast : BroadcastOp
  deriving DecidableEq, Repr

end Converters

section Programs

variable {α : Type}

/-- The shape after the collapse. -/
def BroadcastProgram.collapsedShape (program : BroadcastProgram) (operandShape : Sizes) : Sizes :=
  match program.collapse with
  | some op => op.resultShape
  | none => operandShape

/-- The shape after the transpose. -/
def BroadcastProgram.transposedShape (program : BroadcastProgram) (operandShape : Sizes) : Sizes :=
  match program.permutation with
  | some permutation => MixedRadix.reorder (program.collapsedShape operandShape) permutation
  | none => program.collapsedShape operandShape

/-- All operations of a program are accepted by their verifiers. -/
structure BroadcastProgram.WellFormed (program : BroadcastProgram) (operandShape : Sizes) :
    Prop where
  collapse : ∀ op, program.collapse = some op → op.WellFormed operandShape
  transpose : ∀ permutation, program.permutation = some permutation →
    permutation.Perm (List.range (program.collapsedShape operandShape).length)
  broadcast : program.broadcast.WellFormed (program.transposedShape operandShape)

/-- Run the collapse, if there is one. -/
def BroadcastProgram.runCollapse (program : BroadcastProgram) (operand : Tensor α) :
    Except Failure (Tensor α) :=
  match program.collapse with
  | some op => op.run operand
  | none => .ok operand

/-- Run the transpose, if there is one. -/
def BroadcastProgram.runTranspose (program : BroadcastProgram) (storage : Storage α)
    (operand : Tensor α) : Except Failure (Tensor α) :=
  match program.permutation with
  | some permutation =>
    transposeOp storage operand permutation (MixedRadix.reorder operand.shape permutation)
  | none => .ok operand

/-- Run the operations of a program on an operand. -/
def BroadcastProgram.run (program : BroadcastProgram) (storage : Storage α) (operand : Tensor α) :
    Except Failure (List (Tensor α)) := do
  let collapsed ← program.runCollapse operand
  let transposed ← program.runTranspose storage collapsed
  program.broadcast.run storage transposed

end Programs

end Linalg

end Stablehlo
