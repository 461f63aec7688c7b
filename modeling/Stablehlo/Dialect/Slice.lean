import Stablehlo.Dialect.Gather

/-! The types of slices. -/

namespace Stablehlo

/-- Infer the size of a slice along a dimension of the operand. -/
def inferSlicedDim (i : Nat) (dim : DimAndBound) (startIndex limitIndex stride : Int64) :
    Except InferenceFailure Int64 := do
  require (!decide (startIndex.toInt < 0)) s!"negative start index {startIndex} in dimension {i}"
  let isStaticDim := !isDynamicDimSize dim.1
  let isStaticBound := !isDynamicDimSize dim.2
  let operandSizeOrBound := if isStaticDim then dim.1 else dim.2
  let sizeOrBound := if isStaticDim then "size" else "bound"
  require (!((isStaticDim || isStaticBound) &&
      decide (limitIndex.toInt > operandSizeOrBound.toInt)))
    (s!"limit index {limitIndex} is larger than dimension {sizeOrBound} {operandSizeOrBound} in " ++
      s!"dimension {i}")
  require (!decide (startIndex.toInt > limitIndex.toInt))
    s!"start index {startIndex} is larger than limit index {limitIndex} in dimension {i}"
  require (!decide (stride.toInt ≤ 0)) s!"stride must be positive but got {stride} in dimension {i}"
  let length ← checkedInt64 (limitIndex.toInt - startIndex.toInt)
  -- The quotient of the unsigned numbers, rounded up.
  checkedInt64 ((length.toInt + stride.toInt - 1) / stride.toInt)

/-- Infer the size of a slice along each dimension. -/
def inferSlicedDims : Nat → List DimAndBound → List Int64 → List Int64 → List Int64 →
    Except InferenceFailure (List Int64)
  | _, [], _, _, _ => .ok []
  | i, dim :: dims, startIndex :: starts, limitIndex :: limits, stride :: strides => do
    let size ← inferSlicedDim i dim startIndex limitIndex stride
    let rest ← inferSlicedDims (i + 1) dims starts limits strides
    .ok (size :: rest)
  -- The numbers of limits and strides are not checked here.
  | _, _ :: _, _, _, _ => .error .undefinedBehavior

/-- Infer the type of a slice. -/
def inferSliceOp (rankedTy : RankedTensorType) (startIndices limitIndices strides : List Int64) :
    Except InferenceFailure RankedTensorType := do
  require (startIndices.length == rankedTy.rank)
    (s!"the number of elements in start_indices ({startIndices.length}) does not match the rank " ++
      s!"of the operand ({rankedTy.rank})")
  let shape ← inferSlicedDims 0 rankedTy.dimsAndBounds startIndices limitIndices strides
  -- A slice has no bounds, even when its operand has some.
  let resultBounds := (encodingToBounds rankedTy.encoding).map fun _ => kDynamic
  let encoding ← boundsToEncoding rankedTy.encoding resultBounds
  .ok { shape, elementType := rankedTy.elementType, encoding }

section Static

variable {size : Nat} {dim startIndex limitIndex stride : Int64} {i : Nat}

/-- The size of a slice of a static dimension is the number of its steps. -/
theorem inferSlicedDim_eq {bound : Int64} (static : isDynamicDimSize dim = false)
    (known : dim.toInt = size) (nonneg : 0 ≤ startIndex.toInt)
    (inside : limitIndex.toInt ≤ size) (ordered : startIndex.toInt ≤ limitIndex.toInt)
    (positive : 0 < stride.toInt) :
    ∃ sliced, inferSlicedDim i (dim, bound) startIndex limitIndex stride = .ok sliced ∧
      sliced.toInt = (limitIndex.toInt - startIndex.toInt + stride.toInt - 1) / stride.toInt := by
  have upper := limitIndex.toInt_lt
  have small : -2 ^ 63 ≤ limitIndex.toInt - startIndex.toInt ∧
      limitIndex.toInt - startIndex.toInt < 2 ^ 63 := by omega
  have length := Int64.toInt_ofInt_of_le small.1 small.2
  -- There are at most as many steps as there are positions.
  have steps : (limitIndex.toInt - startIndex.toInt + stride.toInt - 1) / stride.toInt ≤
      limitIndex.toInt - startIndex.toInt := by
    have wide := Int.mul_le_mul_of_nonneg_left (show 1 ≤ stride.toInt by omega)
      (show 0 ≤ limitIndex.toInt - startIndex.toInt by omega)
    have below : (limitIndex.toInt - startIndex.toInt + stride.toInt - 1) / stride.toInt <
        limitIndex.toInt - startIndex.toInt + 1 := by
      apply Int.ediv_lt_of_lt_mul positive
      rw [Int.add_mul]
      omega
    omega
  have least : 0 ≤ (limitIndex.toInt - startIndex.toInt + stride.toInt - 1) / stride.toInt :=
    Int.ediv_nonneg (by omega) (by omega)
  refine ⟨.ofInt ((limitIndex.toInt - startIndex.toInt + stride.toInt - 1) / stride.toInt), ?_,
    Int64.toInt_ofInt_of_le (by omega) (by omega)⟩
  unfold inferSlicedDim
  simp only [static, Bool.not_false, if_true, Bool.true_or, Bool.true_and]
  -- All checks are passed.
  rw [Fallible.check_bind_eq_ok, Fallible.check_bind_eq_ok, Fallible.check_bind_eq_ok,
    Fallible.check_bind_eq_ok, require_eq_ok, require_eq_ok, require_eq_ok, require_eq_ok]
  simp only [Bool.not_eq_true', decide_eq_false_iff_not, Int.not_lt]
  refine ⟨by omega, by omega, by omega, by omega, ?_⟩
  rw [show checkedInt64 (limitIndex.toInt - startIndex.toInt) = _ from
    checkedInt64_eq_ok.mpr length, Fallible.ok_bind, length]
  exact checkedInt64_eq_ok.mpr (Int64.toInt_ofInt_of_le (by omega) (by omega))

end Static

end Stablehlo
