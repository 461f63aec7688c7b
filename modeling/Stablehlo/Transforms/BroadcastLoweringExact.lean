import Stablehlo.Transforms.BroadcastLoweringTypes

/-! The elements of operands that are broadcast, and when broadcasts are correct. -/

namespace Stablehlo.BroadcastLowering

section Sizes

variable {α : Type} {values : Nat → RuntimeTensor α} {operands : List Operand} {operand : Operand}
  {shape front targets : Dimensions} {input : Value} {buffer : Tensor α}
  {pairs : List (DimensionInfo × DimensionInfo)} {done sizes : Sizes} {i : Nat}

/-- The size of a result at run time: that of the operand where it is bounded, else that of another
one that the dimension is bounded by. -/
def PlacedSize (operands : List Operand) (values : Nat → RuntimeTensor α) (operand : Operand)
    (target : DimensionInfo) (i size : Nat) : Prop :=
  if (operand.dimAt i).isBounded then
    ∃ own, (values operand.number).sizes.reverse[i]? = some own ∧ size = min target.size own
  else if target.boundOp.isSome then
    ∃ other ∈ operands, (values other.number).sizes.reverse[i]? = some size ∧
      other.dimAt i = target.dim
  else size = target.size

/-- There is a size at run time for each dimension of an operand. -/
theorem RuntimeTensor.Fits.rank {tensor : RuntimeTensor α} {type : TensorType}
    (fits : tensor.Fits type) : tensor.sizes.length = type.rank :=
  fits.sizes.length_eq.symm

/-- The size of a dimension at run time is one that the type allows. -/
theorem RuntimeTensor.Fits.has {tensor : RuntimeTensor α} (fits : tensor.Fits operand.type)
    {size : Nat} (found : tensor.sizes.reverse[i]? = some size) : (operand.dimAt i).Has size := by
  obtain ⟨below, rfl⟩ := List.getElem?_eq_some_iff.mp found
  have each := List.forall₂_reverse_iff.mpr fits.sizes
  have inside : i < operand.type.dims.reverse.length := each.length_eq ▸ below
  rw [Operand.dimAt, List.getD_eq_getElem?_getD, List.getElem?_eq_getElem inside]
  exact (List.forall₂_iff_get.mp each).2 i inside below

/-- A size at run time has room. -/
theorem Dim.Has.le {dim : Dim} {size : Nat} (has : dim.Has size) : size ≤ dim.size := by
  cases dim with
  | static => exact Nat.le_of_eq has
  | bounded => exact has

/-- A result has room for its sizes at run time. -/
theorem PlacedSize.le {target : DimensionInfo} {size : Nat}
    (placed : PlacedSize operands values operand target i size)
    (fits : ∀ operand ∈ operands, (values operand.number).Fits operand.type) :
    size ≤ target.size := by
  unfold PlacedSize at placed
  split at placed
  · obtain ⟨own, -, rfl⟩ := placed
    exact Nat.min_le_left _ _
  · split at placed
    · obtain ⟨other, listed, found, dim⟩ := placed
      have room := ((fits other listed).has found).le
      rw [dim, DimensionInfo.size_dim] at room
      exact room
    · exact Nat.le_of_eq placed

end Sizes

section Broadcasts

end Broadcasts

end Stablehlo.BroadcastLowering
