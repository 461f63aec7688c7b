import Stablehlo.Reference.Tensor

/-! Operations of the interpreter that make tensors from tensors. -/

namespace Stablehlo.Tensor

variable {α : Type}

/-- The tensor without dimensions that holds the value. -/
def constant (value : α) : Tensor α := ⟨[], [value], rfl⟩

/-- The tensor of the shape that holds the value at every index. -/
def makeSplat (shape : Sizes) (value : α) : Tensor α where
  shape
  data := (indexSpace shape).map fun _ => value
  complete := by simp [indexSpace]

/-- Repeat the operand along new dimensions and along dimensions of size one. -/
def broadcastInDimOp (operand : Tensor α) (broadcastDimensions : List Nat) (resultShape : Sizes) :
    Except Failure (Tensor α) :=
  build resultShape fun resultIndex => do
    let operandIndex ← (List.range operand.shape.length).mapM fun dimension =>
      if operand.shape[dimension]? = some 1 then
        -- A dimension of size one is read at its only coordinate.
        .ok 0
      else
        match broadcastDimensions[dimension]?.bind (resultIndex[·]?) with
        | some coordinate => .ok coordinate
        | none => .error .undefinedBehavior
    operand.get operandIndex

/-- Clamp start indices so that slices of the sizes lie within the shape. -/
def adjustedStartIndices (startIndices : List Int) (shape sliceSizes : Sizes) : List Int :=
  let limits := List.zipWith (fun (size sliceSize : Nat) => (size : Int) - sliceSize) shape
    sliceSizes
  List.zipWith (fun (startIndex limit : Int) => min (max startIndex 0) limit) startIndices limits

/-- Cut out the slice of the sizes at the start indices. -/
def dynamicSliceOp (operand : Tensor α) (startIndices : List Int) (sliceSizes : Sizes) :
    Except Failure (Tensor α) :=
  if operand.shape.length ≠ sliceSizes.length ∨ startIndices.length ≠ sliceSizes.length then
    .error (.fatalError "expected same size")
  else
    let adjusted := adjustedStartIndices startIndices operand.shape sliceSizes
    build sliceSizes fun resultIndex =>
      operand.getAt (List.zipWith (fun (start coordinate : Int) => start + coordinate) adjusted
        (resultIndex.map Nat.cast))

/-- Cut a tensor along an axis into the given number of parts of equal size. -/
def split (x : Tensor α) (numResults axis : Nat) : Except Failure (List (Tensor α)) :=
  match x.shape[axis]? with
  | none => .error .undefinedBehavior
  | some size =>
    if numResults = 0 then
      .error .undefinedBehavior
    else if size % numResults ≠ 0 then
      .error (.fatalError s!"input dimension at axis ({axis}) should be divisible by numResults ({numResults}), but got: {size}")
    else
      let resultShape := x.shape.set axis (size / numResults)
      (List.range numResults).mapM fun part =>
        let inputStartIndices := (List.replicate x.shape.length (0 : Int)).set axis
          (part * (size / numResults) : Nat)
        dynamicSliceOp x inputStartIndices resultShape

/-- Put tensors one after the other along a dimension of a result with some content. -/
def concatenateOp (content : α) (inputs : List (Tensor α)) (dimension : Nat)
    (resultShape : Sizes) : Except Failure (Tensor α) := do
  let (result, _) ← inputs.foldlM (fun (result, dimensionOffset) input => do
    let filled ← (indexSpace input.shape).foldlM (fun result inputIndex => do
      let element ← input.get inputIndex
      result.set (inputIndex.modify dimension (dimensionOffset + ·)) element) result
    match input.shape[dimension]? with
    | some size => .ok (filled, dimensionOffset + size)
    | none => .error .undefinedBehavior) (makeSplat resultShape content, 0)
  .ok result

/-- An index of the operand is computed when each dimension is read at its only coordinate, or at
the one of the dimension of the result. -/
theorem mapM_operandIndex {shape : Sizes} {broadcastDimensions : List Nat}
    {resultIndex operandIndex : Index}
    (each : List.Forall₂ (fun dimension coordinate =>
      if shape[dimension]? = some 1 then coordinate = 0
      else broadcastDimensions[dimension]?.bind (resultIndex[·]?) = some coordinate)
        (List.range shape.length) operandIndex) :
    (List.range shape.length).mapM (fun dimension =>
      if shape[dimension]? = some 1 then (.ok 0 : Except Failure Nat)
      else
        match broadcastDimensions[dimension]?.bind (resultIndex[·]?) with
        | some coordinate => .ok coordinate
        | none => .error .undefinedBehavior) = .ok operandIndex := by
  rw [Fallible.mapM_eq_ok_iff]
  refine each.imp fun dimension coordinate same => ?_
  split at same
  · rw [if_pos (by assumption), same]
  · rw [if_neg (by assumption), same]

/-- Broadcasting a value without dimensions fills the result with it. -/
theorem broadcastInDimOp_constant (value : α) (broadcastDimensions : List Nat)
    (resultShape : Sizes) :
    broadcastInDimOp (constant value) broadcastDimensions resultShape =
      .ok (makeSplat resultShape value) := by
  -- Every pass of the loop reads the only element, whatever the result index is.
  have filled : (indexSpace resultShape).mapM (fun _ => (constant value).get []) =
      (.ok ((indexSpace resultShape).map fun _ => value) : Except Failure (List α)) :=
    Fallible.mapM_eq_ok_map fun _ _ => rfl
  have pass : (fun resultIndex : Index => do
      let operandIndex ← (List.range (constant value).shape.length).mapM fun dimension =>
        if (constant value).shape[dimension]? = some 1 then .ok 0
        else
          match broadcastDimensions[dimension]?.bind (resultIndex[·]?) with
          | some coordinate => .ok coordinate
          | none => .error Failure.undefinedBehavior
      (constant value).get operandIndex) = fun _ => (constant value).get [] := by
    funext resultIndex
    rfl
  unfold broadcastInDimOp
  rw [pass]
  unfold build
  split
  · rename_i failure failed
    rw [filled] at failed
    cases failed
  · rename_i data built
    rw [filled, Except.ok.injEq] at built
    subst built
    rfl

/-- An index within a part is within the whole after moving it along the axis. -/
theorem within_modify {shape : Sizes} {axis size partSize offset : Nat} {index : Index}
    (found : shape[axis]? = some size) (fits : offset + partSize ≤ size)
    (within : MixedRadix.Within (shape.set axis partSize) index) :
    MixedRadix.Within shape (index.modify axis (offset + ·)) := by
  obtain ⟨rank, below⟩ := List.forall₂_iff_get.mp within
  rw [List.length_set] at rank
  refine List.forall₂_iff_get.mpr ⟨by rw [List.length_modify, rank], fun place first second => ?_⟩
  rw [List.length_modify] at first
  have bound := below place first (by rw [List.length_set]; exact second)
  simp only [List.get_eq_getElem, List.getElem_set, List.getElem_modify] at bound ⊢
  by_cases here : axis = place
  · subst here
    rw [if_pos rfl] at bound ⊢
    rw [List.getElem?_eq_getElem second, Option.some.injEq] at found
    omega
  · rw [if_neg here] at bound ⊢
    exact bound

end Stablehlo.Tensor
