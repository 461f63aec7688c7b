import Stablehlo.Dialect.TypeInferenceSound
import Stablehlo.Dialect.Windows
import Stablehlo.Reference.IndexArithmetic
import Stablehlo.Reference.StaticShapes

/-! The numbers of positions of windows that slide over static types. -/

namespace Stablehlo

/-- The size of a dimension that the window slides over, with its elements spread out and padded. -/
def WindowDimension.paddedSize (dim : WindowDimension) (size : Int) : Int :=
  dim.paddingLow.toInt + dilatedSize size dim.baseDilation.toInt + dim.paddingHigh.toInt

/-- The size of the window with its elements spread out. -/
def WindowDimension.span (dim : WindowDimension) : Int :=
  dilatedSize dim.size.toInt dim.windowDilation.toInt

/-- A verified dimension of a window, the size it slides over and the number of its positions, all
of which were computed without overflow. -/
structure WindowFits (dim : WindowDimension) (size result : Nat) : Prop where
  verified : dim.Verified
  positive : 0 < dim.size.toInt
  known : size < 2 ^ 63
  dilated : IsInt64 (dilatedSize size dim.baseDilation.toInt)
  low : IsInt64 (dim.paddingLow.toInt + dilatedSize size dim.baseDilation.toInt)
  padded : IsInt64 (dim.paddedSize size)
  span : IsInt64 dim.span
  count : (result : Int) = windowCount dim size

/-- The dimensions of a window, the sizes it slides over and the numbers of its positions. -/
inductive WindowsFit : List WindowDimension → Sizes → Sizes → Prop where
  | nil : WindowsFit [] [] []
  | cons {dim : WindowDimension} {size result : Nat} {window : List WindowDimension}
      {shape resultShape : Sizes} (fits : WindowFits dim size result)
      (rest : WindowsFit window shape resultShape) :
      WindowsFit (dim :: window) (size :: shape) (result :: resultShape)

section Sizes

end Sizes


section Collected

end Collected

end Stablehlo
