import Stablehlo.Linalg.ReduceWindow

/-! When windowed reductions are converted to loops that have the value of the interpreter. -/

namespace Stablehlo

namespace Linalg

section Positions

variable {dim : WindowDimension} {window : List WindowDimension}

end Positions

section Expressions

variable {window : List WindowDimension}

end Expressions

section Loops

variable {window : List WindowDimension} {shape resultShape : Sizes}

variable {α : Type} {count : Nat} {body : Reducer α count} {padding : Option WindowPadding}

end Loops

section Entries

variable {window : List WindowDimension} {β : Type} {entries : List β} {default : β}
  {field : WindowDimension → β}

end Entries

section Padding

variable {α : Type} {window : List WindowDimension} {shape resultShape : Sizes}

variable {windowDimensions : List Int64}
  {windowStrides baseDilations windowDilations : Option (List Int64)}
  {padding : Option DenseIntElementsAttr} {paddings : List (Int64 × Int64)}

end Padding

section Run

variable {α : Type} {count : Nat} {window : List WindowDimension} {shape resultShape : Sizes}
  {inputs initValues paddedInputs : List (Tensor α)} {start : List α} {body : Reducer α count}
  {used : Option WindowPadding}

end Run

section Specification

variable {α : Type} {count : Nat}

end Specification

section Converted

variable {windowDimensions : List Int64}
  {windowStrides baseDilations windowDilations : Option (List Int64)}
  {padding : Option DenseIntElementsAttr} {paddings : List (Int64 × Int64)}
  {window : List WindowDimension} {shape resultShape : Sizes}

end Converted

section Main

variable {windowDimensions : List Int64}
  {windowStrides baseDilations windowDilations : Option (List Int64)}
  {padding : Option DenseIntElementsAttr} {paddings : List (Int64 × Int64)}
  {window : List WindowDimension} {shape resultShape : Sizes}
  {used : Option WindowPadding}

variable [TypePrinter]

end Main

end Linalg

end Stablehlo
