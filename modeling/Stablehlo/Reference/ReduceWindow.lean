import Stablehlo.Reference.Reduce
import Stablehlo.Reference.WindowPlaces

/-! Windowed reductions: folds over the positions of a window that slides over padded tensors. -/

namespace Stablehlo

section Operation

variable {α : Type}

/-- Surround the elements of the operand, in a tensor of the shape that is inferred for it. -/
def inferAndPadOp (elementType : StablehloType) (operand paddingValue : Tensor α)
    (edgePaddingLow edgePaddingHigh interiorPadding : List Int64) : Except Failure (Tensor α) :=
  match inferPadOp ⟨operand.shape.map Int64.ofNat, elementType, none⟩ edgePaddingLow
    edgePaddingHigh interiorPadding with
  | .ok padded =>
    padOp operand paddingValue (edgePaddingLow.map Int64.toInt) (interiorPadding.map Int64.toInt)
      padded.sizes
  | .error .undefinedBehavior => .error .undefinedBehavior
  | .error _ => .error (.fatalError "Could not infer PadOp's return type")

end Operation

section Specification

variable {α : Type}

end Specification

section Padded

variable {α : Type} {window : List WindowDimension} {shape resultShape : Sizes} {index : Index}

end Padded

section Run

variable {α : Type} {window : List WindowDimension} {shape resultShape : Sizes}
  {inputs initValues paddedInputs : List (Tensor α)} {start : List α}

variable {index : Index}

end Run

section Collected

variable {inputTypes : List RankedTensorType} {windowDimensions : List Int64}
  {windowStrides baseDilations windowDilations : Option (List Int64)}
  {padding : Option DenseIntElementsAttr} {window : List WindowDimension}

end Collected

section Necessary

variable {α : Type}

end Necessary

section Attributes

variable {windowDimensions : List Int64}
  {windowStrides baseDilations windowDilations : Option (List Int64)}
  {padding : Option DenseIntElementsAttr} {window : List WindowDimension}

variable {α : Type} {inputs initValues : List (Tensor α)} {shape resultShape : Sizes}

end Attributes

section Accepted

variable [TypePrinter]

end Accepted

end Stablehlo
