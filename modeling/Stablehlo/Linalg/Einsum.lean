import Mathlib.Algebra.Ring.Int.Defs
import Stablehlo.Dialect.Types
import Stablehlo.Linalg.Generic
import Stablehlo.Support.Labels
import Stablehlo.Transforms.ReduceFolds

/-! The conversion of einsum to a structured operation: its config, its checks, what it builds. -/

namespace Stablehlo

namespace Linalg

/-- How a conversion of an operation ends. -/
inductive Conversion (α : Type) where
  /-- The operation is rejected. -/
  | matchFailure (message : String)
  /-- The conversion runs into undefined behavior of its language. -/
  | undefinedBehavior
  | replacedBy (program : α)

section Texts

/-- A number as a `size_t`. -/
def sizeT (value : Int) : Nat := (value % 2 ^ 64).toNat

/-- A number as a signed integer of the width. -/
def signedInt (width : Nat) (value : Int) : Int := value.bmod (2 ^ width)

/-- The position of the first occurrence of a pattern in a text. -/
def find (pattern : List Char) : List Char → Option Nat
  | [] => if pattern.isEmpty then some 0 else none
  | char :: text =>
    if pattern.isPrefixOf (char :: text) then some 0 else (find pattern text).map (· + 1)

/-- The position that stands for no occurrence. -/
def npos : Nat := 2 ^ 64 - 1

/-- The part of a text that starts at a position, as long as there are characters for it. -/
def substr (text : List Char) (start count : Nat) : List Char := (text.drop start).take count

def kArrow : List Char := ['-', '>']

def kComma : List Char := [',']

def kEllipsis : List Char := ['.', '.', '.']

/-- The parts of a config for the operands and the result. -/
structure ConfigParts where
  lhsLoop : List Char
  rhsLoop : List Char
  outLoop : List Char
  deriving DecidableEq, Repr

/-- Dissect a config at its first comma and its first arrow. -/
def splitConfig (einsumConfig : List Char) : ConfigParts :=
  let posArrow := (find kArrow einsumConfig).getD npos
  let posComma := (find kComma einsumConfig).getD npos
  { lhsLoop := substr einsumConfig 0 posComma
    rhsLoop := substr einsumConfig (sizeT (posComma + kComma.length))
      (sizeT (posArrow - (posComma + kComma.length)))
    outLoop := substr einsumConfig (sizeT (posArrow + kArrow.length)) npos }

/-- The characters at the positions from one up to another, each on its own. -/
def charsBetween (loop : List Char) (start stop : Int) : List String :=
  (List.range (stop - start).toNat).map fun turn : Nat =>
    String.ofList (substr loop (sizeT (start + turn)) 1)

/-- The labels of an operand of the rank: those of batch dimensions are numbers. -/
def getEinsumConfigAsVector (loop : List Char) (operandRank : Nat) : List String :=
  match find kEllipsis loop with
  | none => charsBetween loop 0 (signedInt 64 loop.length)
  | some preElip =>
    let nonBatchRank : Int := loop.length - kEllipsis.length
    let batchRank := operandRank - nonBatchRank
    let postElip := signedInt 32 (preElip + kEllipsis.length)
    charsBetween loop 0 (signedInt 64 preElip) ++
      (List.range (signedInt 64 batchRank).toNat).map toString ++
        charsBetween loop postElip (signedInt 64 loop.length)

/-- The rank that the check of the ellipses takes into account for an operand. -/
def countedBatchRank (rank : Nat) (loop : List Char) : Option Int :=
  if rank ≠ loop.length then some (signedInt 32 (rank - (loop.length - kEllipsis.length)))
  else none

/-- Whether the batch ranks that are taken into account are equal. -/
def checkBatchHasEqualRank (lhsRank : Nat) (lhsLoop : List Char) (rhsRank : Nat)
    (rhsLoop : List Char) (outRank : Nat) (outLoop : List Char) : Bool :=
  let batchRankVec := [countedBatchRank lhsRank lhsLoop, countedBatchRank rhsRank rhsLoop,
    countedBatchRank outRank outLoop].filterMap id
  if batchRankVec.length < 2 then true
  else batchRankVec.all fun batchRank => some batchRank == batchRankVec.head?

end Texts

section Conversion

/-- An einsum. A string and a shape fit into memory. -/
structure EinsumOp where
  config : List Char
  lhsType : TensorType StablehloType
  rhsType : TensorType StablehloType
  resultType : TensorType StablehloType
  config_small : config.length < 2 ^ 63
  lhs_small : lhsType.shape.length < 2 ^ 63
  rhs_small : rhsType.shape.length < 2 ^ 63
  result_small : resultType.shape.length < 2 ^ 63

/-- The type of elements in the converted program, where integers have no sign. -/
def removeSign : StablehloType → StablehloType
  | .integer _ width => .integer .signless width
  | type => type

/-- Whether a type is a signless integer or a float. -/
def isSignlessIntOrFloat : StablehloType → Bool
  | .integer .signless _ | .float _ => true
  | _ => false

/-- Whether a type is a float. -/
def isFloat : StablehloType → Bool
  | .float _ => true
  | _ => false

/-- Find the labels that are missing from the output. -/
def findSummationAxes (inputSet outputSet : List String) : List String :=
  inputSet.filter fun ind => !outputSet.contains ind

/-- Ask for the size of a dimension when it is not known. Shapes are not read out of bounds. -/
def askSize (operand : Nat) (shape : List (Option Nat)) (dimIndPos : Nat) :
    Except Failure (Option (Nat × Nat)) :=
  match shape[dimIndPos]? with
  | none => .error .undefinedBehavior
  | some (some _) => .ok none
  | some none => .ok (some (operand, dimIndPos))

/-- The dimensions, of the first or the second operand, whose sizes are asked for. -/
def extractDynamicEinsumSizes (lhsShape rhsShape : List (Option Nat))
    (lhsLoopVec rhsLoopVec outputLoopVec : List String) : Except Failure (List (Nat × Nat)) := do
  let dynSizes ← outputLoopVec.mapM fun dimInd =>
    if dimInd ∈ lhsLoopVec then askSize 0 lhsShape (lhsLoopVec.idxOf dimInd)
    else askSize 1 rhsShape (rhsLoopVec.idxOf dimInd)
  .ok (dynSizes.filterMap id)

/-- The loops of labels. A label that has none is looked up all the same, and has no expression. -/
def getExprFromConfig (inputInd loopDims : List String) : Except Failure (List Nat) :=
  loopDims.mapM fun dim =>
    if dim ∈ inputInd then .ok (inputInd.idxOf dim) else .error .undefinedBehavior

/-- What is built for an einsum: an empty tensor, which may be filled with zeros, and a structured
operation that multiplies and, if it was filled, adds. -/
structure EinsumProgram where
  lhsType : TensorType StablehloType
  rhsType : TensorType StablehloType
  resultType : TensorType StablehloType
  dynSizes : List (Nat × Nat)
  accumulates : Bool
  numLoops : Nat
  lhsMap : List Nat
  rhsMap : List Nat
  outMap : List Nat

/-- A type of the converted program. -/
def convertType (type : TensorType StablehloType) : TensorType StablehloType :=
  ⟨type.shape, removeSign type.elementType⟩

/-- Build the operations for labels. -/
def EinsumOp.build (op : EinsumOp) (lhsEin rhsEin outEin : List String) :
    Except Failure EinsumProgram := do
  let inputInd := Labels.insertAll (Labels.insertAll [] lhsEin) rhsEin
  let outputInd := Labels.insertAll [] outEin
  let reductionAxe := findSummationAxes inputInd outputInd
  let dynSizes ←
    extractDynamicEinsumSizes op.lhsType.shape op.rhsType.shape lhsEin rhsEin outEin
  let lhsMap ← getExprFromConfig inputInd lhsEin
  let rhsMap ← getExprFromConfig inputInd rhsEin
  let outMap ← getExprFromConfig inputInd outEin
  .ok {
    lhsType := convertType op.lhsType
    rhsType := convertType op.rhsType
    resultType := convertType op.resultType
    dynSizes
    accumulates := !reductionAxe.isEmpty
    numLoops := inputInd.length
    lhsMap, rhsMap, outMap
  }

/-- Convert an einsum. -/
def EinsumOp.matchAndRewrite (op : EinsumOp) : Conversion EinsumProgram :=
  let parts := splitConfig op.config
  if (find kComma parts.rhsLoop).isSome || (find kComma parts.outLoop).isSome ||
      (find kArrow parts.outLoop).isSome then
    .matchFailure "Invalid einsum config!"
  else if !isSignlessIntOrFloat (removeSign op.resultType.elementType) then
    .matchFailure "Invalid result type"
  else
    let lhsEin := getEinsumConfigAsVector parts.lhsLoop op.lhsType.shape.length
    let rhsEin := getEinsumConfigAsVector parts.rhsLoop op.rhsType.shape.length
    let outEin := getEinsumConfigAsVector parts.outLoop op.resultType.shape.length
    if !checkBatchHasEqualRank lhsEin.length parts.lhsLoop rhsEin.length parts.rhsLoop
        outEin.length parts.outLoop then
      .matchFailure "Invalid elipsis('...') within einsum config!"
    else
      match op.build lhsEin rhsEin outEin with
      | .ok program => .replacedBy program
      | .error _ => .undefinedBehavior

end Conversion

section Run

variable {R : Type}

/-- The shape of an empty tensor of a type, with the sizes of its dynamic dimensions. -/
def emptyShape : List (Option Nat) → List Nat → Option Sizes
  | [], [] => some []
  | some size :: shape, sizes => (emptyShape shape sizes).map (size :: ·)
  | none :: shape, size :: sizes => (emptyShape shape sizes).map (size :: ·)
  | _, _ => none

/-- The structured operation. An element that was never written is none. -/
def EinsumProgram.generic [Add R] [Mul R] (program : EinsumProgram) :
    GenericOp R (Option R) where
  numLoops := program.numLoops
  inputMaps := [.ofDims program.lhsMap, .ofDims program.rhsMap]
  outputDims := program.outMap
  body _ args outs :=
    match args, outs with
    | [lhs, rhs], [out] =>
      if program.accumulates then
        match out with
        | some sum => .ok [some (sum + lhs * rhs)]
        | none => .error .undefinedBehavior
      else
        .ok [some (lhs * rhs)]
    | _, _ => .error .undefinedBehavior

/-- Run the operations on operands. -/
def EinsumProgram.run [Zero R] [Add R] [Mul R] (program : EinsumProgram) (lhs rhs : Tensor R) :
    Except Failure (List (Tensor (Option R))) :=
  let shapes := [lhs.shape, rhs.shape]
  let sizes := program.dynSizes.map fun (operand, position) =>
    (shapes.getD operand []).getD position 0
  match emptyShape program.resultType.shape sizes with
  | some shape => program.generic.run [lhs, rhs]
      [.tabulate shape fun _ => if program.accumulates then some 0 else none]
  | none => .error .undefinedBehavior

/-- What the verifiers of the operations require of types, ranks and numbers of sizes. -/
structure EinsumProgram.WellFormed (program : EinsumProgram) : Prop where
  sizes : program.dynSizes.length = program.resultType.shape.count none
  lhs_rank : program.lhsMap.length = program.lhsType.shape.length
  rhs_rank : program.rhsMap.length = program.rhsType.shape.length
  out_rank : program.outMap.length = program.resultType.shape.length
  /-- Factors are floats of one type. -/
  factors : isFloat program.lhsType.elementType = true ∧
    program.lhsType.elementType = program.rhsType.elementType
  /-- The result has the type of the product. -/
  yielded : program.lhsType.elementType = program.resultType.elementType

end Run

end Linalg

end Stablehlo
