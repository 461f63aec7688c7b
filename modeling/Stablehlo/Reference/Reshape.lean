import Stablehlo.Reference.Tensor
import Stablehlo.Support.AxisMap

/-! Reshaping: elements keep their order, and dimensions with one position come and go. -/

namespace Stablehlo

namespace Tensor

variable {α : Type}

/-- Fill a tensor of the shape with the elements of the operand, in order. -/
def reshapeOp (operand : Tensor α) (resultShape : Sizes) : Except Failure (Tensor α) :=
  build resultShape fun resultIndex =>
    -- The iterators of both index spaces have made the same number of steps.
    match (indexSpace operand.shape)[MixedRadix.encode resultShape resultIndex]? with
    | some operandIndex => operand.get operandIndex
    | none => .error .undefinedBehavior

/-- A reshaped tensor has the elements of the operand at the same places in order. -/
theorem reshapeOp_eq (operand : Tensor α) {resultShape : Sizes}
    (count : operand.shape.prod = resultShape.prod) :
    operand.reshapeOp resultShape =
      .ok ⟨resultShape, operand.data, by rw [operand.complete, count]⟩ := by
  -- The place of an index of the result is one of the operand.
  have read : ∀ resultIndex, MixedRadix.Within resultShape resultIndex → ∃ element,
      (match (indexSpace operand.shape)[MixedRadix.encode resultShape resultIndex]? with
        | some operandIndex => operand.get operandIndex
        | none => .error .undefinedBehavior) = .ok element ∧
      operand.data[MixedRadix.encode resultShape resultIndex]? = some element := by
    intro resultIndex within
    have below := MixedRadix.encode_lt within
    rw [← count] at below
    obtain ⟨element, got, stored⟩ := get_eq (MixedRadix.decode_within below)
    rw [MixedRadix.encode_decode below] at stored
    refine ⟨element, ?_, stored⟩
    rw [indexSpace, MixedRadix.getElem?_all below]
    exact got
  obtain ⟨result, built⟩ := build_eq_ok fun resultIndex within => by
    obtain ⟨element, got, -⟩ := read resultIndex within
    exact ⟨element, got⟩
  obtain ⟨shape, elements⟩ := build_spec built
  rw [reshapeOp, built]
  congr 1
  refine ext_get shape fun resultIndex within => ?_
  rw [shape] at within
  obtain ⟨element, got, stored⟩ := read resultIndex within
  rw [elements resultIndex within, got, Tensor.get, flattenIndex_eq within, Fallible.ok_bind,
    stored]

/-- Without as many elements as the result has, there is no reshaped tensor. -/
theorem reshapeOp_ne_ok (operand result : Tensor α) {resultShape : Sizes}
    (few : operand.shape.prod < resultShape.prod) :
    operand.reshapeOp resultShape ≠ .ok result := by
  intro built
  obtain ⟨shape, elements⟩ := build_spec built
  have within := MixedRadix.decode_within few
  have element := elements _ within
  rw [MixedRadix.encode_decode few, indexSpace,
    List.getElem?_eq_none (by rw [MixedRadix.length_all])] at element
  -- The result has an element at the place behind the last one of the operand.
  subst shape
  obtain ⟨value, got, -⟩ := get_eq within
  rw [got] at element
  cases element

/-- A reshaped tensor has an element at an index where the operand has it at the index with the same
place. -/
theorem get_reshapeOp {operand result : Tensor α} {resultShape : Sizes}
    (count : operand.shape.prod = resultShape.prod)
    (reshaped : operand.reshapeOp resultShape = .ok result) {resultIndex operandIndex : Index}
    (within : MixedRadix.Within resultShape resultIndex)
    (operandWithin : MixedRadix.Within operand.shape operandIndex)
    (same : MixedRadix.encode operand.shape operandIndex =
      MixedRadix.encode resultShape resultIndex) :
    result.get resultIndex = operand.get operandIndex := by
  rw [reshapeOp_eq operand count, Except.ok.injEq] at reshaped
  subst reshaped
  rw [Tensor.get, Tensor.get, flattenIndex_eq within, flattenIndex_eq operandWithin, same]

end Tensor

section Unit

variable {size : Nat → Nat} {skipped : List Nat}

/-- Dimensions with a single position leave the number of elements as it is. -/
theorem prod_filter_unit {dims : List Nat} (unit : ∀ d ∈ dims, d ∈ skipped → size d = 1) :
    ((dims.filter fun d => !skipped.contains d).map size).prod = (dims.map size).prod := by
  induction dims with
  | nil => rfl
  | cons d dims ih =>
    obtain ⟨here, unit⟩ := List.forall_mem_cons.mp unit
    by_cases skip : d ∈ skipped
    · rw [List.filter_cons_of_neg (by simpa using skip), ih unit, List.map_cons, List.prod_cons,
        here skip, Nat.one_mul]
    · rw [List.filter_cons_of_pos (by simpa using skip), List.map_cons, List.map_cons,
        List.prod_cons, List.prod_cons, ih unit]

/-- Dimensions with a single position leave the places of indices as they are. -/
theorem encode_spread {dims : List Nat} {index : Index} {spread : Index}
    (unit : ∀ d ∈ dims, d ∈ skipped → size d = 1)
    (spreads : AxisMap.spread skipped 0 dims index = some spread) :
    MixedRadix.encode (dims.map size) spread =
      MixedRadix.encode ((dims.filter fun d => !skipped.contains d).map size) index := by
  induction dims generalizing index spread with
  | nil =>
    cases spreads
    rfl
  | cons d dims ih =>
    obtain ⟨here, unit⟩ := List.forall_mem_cons.mp unit
    unfold AxisMap.spread at spreads
    split at spreads
    · next skip =>
      -- The only position adds nothing.
      obtain ⟨rest, others, rfl⟩ := Option.map_eq_some_iff.mp spreads
      rw [List.filter_cons_of_neg (by simpa using skip), List.map_cons, MixedRadix.encode,
        Nat.zero_mul, Nat.zero_add, ih unit others]
    · next kept =>
      cases index with
      | nil => cases spreads
      | cons coordinate index =>
        obtain ⟨rest, others, rfl⟩ := Option.map_eq_some_iff.mp spreads
        rw [List.filter_cons_of_pos (by simpa using kept), List.map_cons, List.map_cons,
          MixedRadix.encode, MixedRadix.encode, ih unit others, prod_filter_unit unit]

end Unit

end Stablehlo
