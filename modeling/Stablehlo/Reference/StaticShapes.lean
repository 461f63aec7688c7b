import Stablehlo.Dialect.TypeInference
import Stablehlo.Reference.Element

/-! Types whose sizes are all known, as those of the interpreter's tensors are. -/

namespace Stablehlo

/-- All sizes of the type are known, and they are those of the shape. -/
def RankedTensorType.IsStatic (type : RankedTensorType) (shaped : ShapedType) : Prop :=
  type.shape.map Int64.toInt = shaped.shape.map Nat.cast ∧ type.elementType = shaped.elementType

/-- The sizes of a type, which are known when it is static. -/
def RankedTensorType.sizes (type : RankedTensorType) : Sizes :=
  type.shape.map Int64.toNatClampNeg

/-- A dimension whose size is a natural number is not dynamic. -/
theorem isDynamicDimSize_of_natCast {dim : Int64} {size : Nat} (known : dim.toInt = size) :
    isDynamicDimSize dim = false := by
  rw [isDynamicDimSize, beq_eq_false_iff_ne]
  rintro rfl
  have negative : kDynamic.toInt < 0 := by decide
  omega

/-- Known dimensions that are compatible have the same size. -/
theorem eq_of_verifyCompatibleDims {first second : Int64} {firstSize secondSize : Nat}
    (firstKnown : first.toInt = firstSize) (secondKnown : second.toInt = secondSize)
    (compatible : verifyCompatibleDims first second = true) : firstSize = secondSize := by
  simp only [verifyCompatibleDims, isDynamicDimSize_of_natCast firstKnown,
    isDynamicDimSize_of_natCast secondKnown, Bool.false_or, beq_iff_eq] at compatible
  rw [compatible] at firstKnown
  omega

/-- Sizes that are known are natural numbers. -/
theorem getElem?_of_known {shape : List Int64} {sizes : Sizes}
    (known : shape.map Int64.toInt = sizes.map Nat.cast) {i : Nat} {dim : Int64}
    (found : shape[i]? = some dim) : ∃ size, sizes[i]? = some size ∧ dim.toInt = size := by
  -- Both lists are mapped to the same numbers.
  have same : (shape.map Int64.toInt)[i]? = (sizes.map (Nat.cast : Nat → Int))[i]? := by rw [known]
  rw [List.getElem?_map, List.getElem?_map, found] at same
  cases size : sizes[i]? with
  | none => simp [size] at same
  | some size' =>
    rw [size] at same
    exact ⟨size', rfl, Option.some.inj same⟩

/-- There is a size for each dimension. -/
theorem length_of_known {shape : List Int64} {sizes : Sizes}
    (known : shape.map Int64.toInt = sizes.map Nat.cast) : shape.length = sizes.length := by
  rw [← List.length_map Int64.toInt, known, List.length_map]

/-- Sizes that are known are numbers of 64 bits. -/
theorem lt_of_known {shape : List Int64} {sizes : Sizes}
    (known : shape.map Int64.toInt = sizes.map Nat.cast) (d : Nat) : sizes.getD d 0 < 2 ^ 63 := by
  rcases Nat.lt_or_ge d shape.length with below | beyond
  · obtain ⟨size, found, value⟩ := getElem?_of_known known (List.getElem?_eq_getElem below)
    have upper := Int64.toInt_lt shape[d]
    rw [List.getD_eq_getElem?_getD, found, Option.getD_some]
    omega
  · -- There is no size at the place.
    rw [length_of_known known] at beyond
    rw [List.getD_eq_getElem?_getD, List.getElem?_eq_none beyond]
    decide

/-- Static types with compatible shapes have the same shape. -/
theorem eq_of_verifyCompatibleShape {firstType secondType : RankedTensorType}
    {first second : ShapedType} (firstStatic : firstType.IsStatic first)
    (secondStatic : secondType.IsStatic second)
    (compatible : verifyCompatibleShape firstType secondType = true) :
    first.shape = second.shape := by
  rw [verifyCompatibleShape, Bool.and_eq_true, beq_iff_eq, List.all_eq_true] at compatible
  obtain ⟨rank, dims⟩ := compatible
  rw [RankedTensorType.rank, RankedTensorType.rank] at rank
  have firstRank := length_of_known firstStatic.1
  have secondRank := length_of_known secondStatic.1
  refine List.ext_getElem (by omega) fun d firstBelow secondBelow => ?_
  -- Each dimension of the first type is compatible with the one of the second type.
  have firstFound := List.getElem?_eq_getElem (show d < firstType.shape.length by omega)
  have secondFound := List.getElem?_eq_getElem (show d < secondType.shape.length by omega)
  obtain ⟨firstSize, firstStored, firstValue⟩ := getElem?_of_known firstStatic.1 firstFound
  obtain ⟨secondSize, secondStored, secondValue⟩ := getElem?_of_known secondStatic.1 secondFound
  have pair : (firstType.shape.zip secondType.shape)[d]? = some (_, _) :=
    List.getElem?_zip_eq_some.mpr ⟨firstFound, secondFound⟩
  have alike := dims _ (List.mem_of_getElem? pair)
  rw [List.getElem?_eq_getElem firstBelow, Option.some.injEq] at firstStored
  rw [List.getElem?_eq_getElem secondBelow, Option.some.injEq] at secondStored
  rw [firstStored, secondStored]
  exact eq_of_verifyCompatibleDims firstValue secondValue alike

end Stablehlo
