import Stablehlo.Reference.Pad
import Stablehlo.Reference.WindowShapes

/-! The places of windows in tensors that are padded and spread out. -/

namespace Stablehlo

section Arithmetic

variable {dim : WindowDimension} {size result coordinate : Nat}

/-- A window at a position of the result lies within the padded dimension. -/
theorem WindowFits.inside (fits : WindowFits dim size result) (below : coordinate < result) :
    0 ≤ (coordinate : Int) * dim.stride.toInt ∧
      (coordinate : Int) * dim.stride.toInt + dim.span ≤ dim.paddedSize size := by
  have count := fits.count
  have stride := fits.verified.stride
  rw [windowCount] at count
  change (result : Int) = if dim.paddedSize size = 0 ∨ dim.paddedSize size < dim.span then 0
    else (dim.paddedSize size - dim.span) / dim.stride.toInt + 1 at count
  split at count
  · omega
  · -- The coordinate is at most the number of strides that fit.
    have most : (coordinate : Int) ≤ (dim.paddedSize size - dim.span) / dim.stride.toInt := by omega
    have last := Int.mul_le_of_le_ediv stride most
    exact ⟨Int.mul_nonneg (Int.natCast_nonneg _) stride.le, by omega⟩

/-- Elements of a dimension that is spread out are at most its last one. -/
theorem WindowFits.offset (fits : WindowFits dim size result) {place : Nat} (below : place < size) :
    0 ≤ (place : Int) * dim.baseDilation.toInt ∧
      (place : Int) * dim.baseDilation.toInt < dilatedSize size dim.baseDilation.toInt := by
  have dilation := fits.verified.baseDilation
  have last := Int.mul_le_mul_of_nonneg_right (show (place : Int) ≤ size - 1 by omega) dilation.le
  rw [dilatedSize, if_neg (by omega)]
  exact ⟨Int.mul_nonneg (Int.natCast_nonneg _) dilation.le, by omega⟩

/-- A dimension and the gaps between its elements are what it is with its elements spread out. -/
theorem WindowFits.gaps (fits : WindowFits dim size result) :
    (size : Int) + max ((size : Int) - 1) 0 * (dim.baseDilation.toInt - 1) =
        dilatedSize size dim.baseDilation.toInt ∧
      0 ≤ max ((size : Int) - 1) 0 * (dim.baseDilation.toInt - 1) := by
  have dilation := fits.verified.baseDilation
  refine ⟨?_, Int.mul_nonneg (by omega) (by omega)⟩
  rw [dilatedSize]
  split
  · next empty =>
    rw [empty]
    simp
  · rw [max_eq_left (by omega), Int.mul_sub, Int.mul_one]
    omega

end Arithmetic

section Padding

variable {window : List WindowDimension} {shape resultShape : Sizes}

/-- There is a dimension of the window for each dimension. -/
theorem WindowsFit.lengths (fits : WindowsFit window shape resultShape) :
    window.length = shape.length ∧ resultShape.length = shape.length := by
  induction fits with
  | nil => exact ⟨rfl, rfl⟩
  | cons _ _ ih => exact ⟨congrArg Nat.succ ih.1, congrArg Nat.succ ih.2⟩

end Padding

section Windows

variable {window : List WindowDimension} {shape resultShape : Sizes} {index : Index}

end Windows

end Stablehlo
