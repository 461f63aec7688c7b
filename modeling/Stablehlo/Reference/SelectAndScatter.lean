import Mathlib.Data.List.Perm.Basic
import Stablehlo.Reference.ReduceWindow
import Stablehlo.Support.Selection

/-! Scatters of source elements to the operand elements that are selected from their windows. -/

namespace Stablehlo

section Operation

variable {α : Type}

/-- The index of the operand that a position of the window of a source element is on. -/
def windowIndex (windowStrides paddingLow : List Int) (sourceIndex position : Index) :
    Except Failure (List Int) := do
  let start ← multiplyIndices (sourceIndex.map Nat.cast) windowStrides
  let place ← addIndices start (position.map Nat.cast)
  subtractIndices place paddingLow

end Operation

section Specification

variable {α : Type}

end Specification


section Windows

variable {window : List WindowDimension} {shape sourceShape : Sizes} {sourceIndex position : Index}

end Windows


section Run

variable {α : Type} {window : List WindowDimension} {shape sourceShape : Sizes}
  {operand source initValue : Tensor α} {value : α} {keeps : α → α → Bool}
  {select : α → α → Except Failure Bool} {combine : α → α → α} {scatter : Reducer α 1}
  {sourceIndex : Index}

end Run

section Accepted

variable {windowDimensions windowStrides : Option (List Int64)}
  {padding : Option DenseIntElementsAttr} {window : List WindowDimension}
  {shape sourceShape : Sizes}

variable [TypePrinter]

end Accepted

end Stablehlo
