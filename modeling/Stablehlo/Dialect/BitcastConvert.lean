import Stablehlo.Dialect.TypeInference

/-! The verifier of conversions that keep the bits of a tensor. -/

namespace Stablehlo

open TypePrinter

/-- The number of bits of the elements of a type. -/
def getBitWidth : StablehloType → Except InferenceFailure Nat
  | .complex elementType => do
    let width ← getBitWidth elementType
    .ok (2 * width)
  | .uniformQuantized _ storageType .. => getBitWidth storageType
  | .uniformQuantizedPerAxis _ storageType .. => getBitWidth storageType
  | type =>
    match type.getIntOrFloatBitWidth with
    | some width => .ok width
    | none => .error .undefinedBehavior

/-- The type is a complex one. -/
def StablehloType.isComplex : StablehloType → Bool
  | .complex _ => true
  | _ => false

section Verifier

variable [TypePrinter]

/-- Two types, as the diagnostics of the verifier print them. -/
def printBoth (operandType targetType : RankedTensorType) : String :=
  s!"{debugString operandType.toType} and {debugString targetType.toType}"

/-- The dimensions of the smaller elements that are to match all those of the bigger ones. -/
def verifyInnermostDimension (operandType targetType : RankedTensorType)
    (smallerEltShape biggerEltShape : List Int64) (smallerEltBitWidth biggerEltBitWidth : Nat) :
    Except InferenceFailure (List Int64) :=
  if smallerEltShape.length ≠ biggerEltShape.length + 1 then
    .error (.error (s!"rank of smaller element type ({smallerEltShape.length}) should be 1 more " ++
      s!"than rank of larger element type ({biggerEltShape.length}), but " ++
      s!"{smallerEltShape.length} != {biggerEltShape.length} + 1."))
  else
    match smallerEltShape.getLast? with
    | none => .error .undefinedBehavior
    | some back =>
      -- Nothing is known of a dynamic dimension.
      if isDynamicDimSize back then .ok smallerEltShape.dropLast
      else do
        let width ← checkedInt64 (back.toInt * smallerEltBitWidth)
        if width.toInt ≠ biggerEltBitWidth then
          .error (.error (s!"requires compatible bit widths. Got: " ++
            s!"{printBoth operandType targetType}, but {smallerEltBitWidth} * {back} != " ++
            s!"{biggerEltBitWidth}."))
        else
          .ok smallerEltShape.dropLast

/-- Verify the types of the operand and of the result. -/
def verifyBitcastConvertOp (operandType targetType : RankedTensorType) :
    Except InferenceFailure Unit :=
  let targetElt := targetType.elementType
  let operandElt := operandType.elementType
  if targetElt.isComplex != operandElt.isComplex then
    .error (.error (s!"cannot convert between real and complex types, but got: " ++
      printBoth operandType targetType))
  else do
    let targetEltBitWidth ← getBitWidth targetElt
    let operandEltBitWidth ← getBitWidth operandElt
    let smaller := operandEltBitWidth < targetEltBitWidth
    let smallerEltShape := if smaller then operandType.shape else targetType.shape
    let biggerEltShape := if smaller then targetType.shape else operandType.shape
    let smallerEltPrefix ←
      if operandEltBitWidth ≠ targetEltBitWidth then
        verifyInnermostDimension operandType targetType smallerEltShape biggerEltShape
          (min targetEltBitWidth operandEltBitWidth) (max targetEltBitWidth operandEltBitWidth)
      else
        .ok smallerEltShape
    -- Dimensions that only one of the lists has are not compared.
    if (smallerEltPrefix.zip biggerEltShape).all fun (targetDim, operandDim) =>
        verifyCompatibleDims targetDim operandDim then
      .ok ()
    else
      .error (.error (s!"operand and result shapes must match except for the innermost " ++
        s!"dimension of the shape with the smaller element type. Got: {printBoth operandType targetType}."))

end Verifier

end Stablehlo
