import Stablehlo.Reference.Element

/-! Slices of tensors, and the index vectors that are read from slices. -/

namespace Stablehlo

/-- A coordinate that stands for a whole dimension. -/
def kColon : Int := -1

/-- The size of a dimension of a slice, when the limits are those of a slice. -/
def inferSliceDim (size : Nat) (start limit stride : Int) : Option Nat :=
  if start < 0 ∨ limit > size ∨ start > limit ∨ stride ≤ 0 then none
  else some ((limit - start + stride - 1) / stride).toNat

/-- The shape of a slice of a tensor with known sizes. -/
def inferSliceShape : Sizes → List Int → List Int → List Int → Option Sizes
  | [], [], _, _ => some []
  | size :: shape, start :: starts, limit :: limits, stride :: strides => do
    let inferred ← inferSliceDim size start limit stride
    let rest ← inferSliceShape shape starts limits strides
    some (inferred :: rest)
  | _, _, _, _ => none

namespace Tensor

variable {α : Type}

/-- The slice of a tensor from the start indices to the limit indices. -/
def sliceOp (operand : Tensor α) (startIndices limitIndices strides : List Int) :
    Except Failure (Tensor α) :=
  match inferSliceShape operand.shape startIndices limitIndices strides with
  | none => .error (.fatalError "Could not infer SliceOp's return type")
  | some resultShape =>
    build resultShape fun resultIndex =>
      -- The start and the steps of each dimension are added up.
      operand.getAt (List.zipWith (fun (start step : Int) => start + step) startIndices
        (List.zipWith (fun (coordinate : Nat) (stride : Int) => coordinate * stride) resultIndex
          strides))

/-- The slice of a tensor at an index, which may have whole dimensions for coordinates. -/
def sliceAt (operand : Tensor α) (index : List Int) : Except Failure (Tensor α) :=
  if index.length < operand.shape.length then
    .error .undefinedBehavior
  else
    let start := List.zipWith (fun coordinate (_ : Nat) =>
      if coordinate = kColon then 0 else coordinate) index operand.shape
    let limit := List.zipWith (fun coordinate (size : Nat) =>
      if coordinate = kColon then (size : Int) else coordinate + 1) index operand.shape
    operand.sliceOp start limit (List.replicate operand.shape.length 1)

end Tensor

/-- The numbers a tensor holds, sign-extended whatever their type is. -/
def evalIndex (tensor : Tensor Element) : Except Failure (List Int) :=
  (indexSpace tensor.shape).mapM fun index => do
    let element ← tensor.get index
    let value ← element.getIntegerValue
    .ok value.bits.toInt

/-- The number an element of an integer type stands for in the type. -/
def Element.integer (element : Element) : Int :=
  match element.value, element.type with
  | .integer value, .integer .unsigned _ => value.bits.toNat
  | .integer value, _ => value.bits.toInt
  | _, _ => 0

/-- The number that sign extension makes of an element of an integer type. -/
def Element.signExtended (element : Element) : Int :=
  match element.value with
  | .integer value => value.bits.toInt
  | _ => 0

/-- Sign extension changes a number only from a positive to a negative one. -/
theorem Element.signExtended_or (element : Element) :
    element.signExtended = element.integer ∨ (element.signExtended < 0 ∧ 0 < element.integer) := by
  obtain ⟨type, value, fits⟩ := element
  cases value with
  | integer value =>
    cases type with
    | integer signedness width =>
      cases signedness with
      | unsigned =>
        -- The sign bit of an unsigned number is a digit like the others.
        show value.bits.toInt = value.bits.toNat ∨ (value.bits.toInt < 0 ∧ (0 : Int) <
          value.bits.toNat)
        rw [BitVec.toInt_eq_toNat_cond]
        have small := value.bits.isLt
        split
        · exact .inl rfl
        · right
          omega
      | _ => exact .inl rfl
    | _ => exact .inl rfl
  | _ => exact .inl rfl

/-- The elements are of an integer type. -/
def IntegerElements (tensor : Tensor Element) : Prop :=
  ∀ element ∈ tensor.data, ∃ value, element.value = .integer value

/-- The elements of a tensor of an integer type are integers. -/
theorem integerElements {tensor : TypedTensor}
    (integer : isSupportedIntegerType tensor.elementType = true) :
    IntegerElements tensor.elements := by
  intro element listed
  rw [← tensor.typed element listed] at integer
  obtain ⟨type, value, fits⟩ := element
  cases ElementValue.of_fits fits with
  | integer => exact ⟨_, rfl⟩
  | boolean | float | complex => cases integer

/-- An element of an index tensor is read as its sign extension. -/
theorem getIntegerValue_of_get {tensor : Tensor Element} (integers : IntegerElements tensor)
    {index : Index} (within : MixedRadix.Within tensor.shape index) :
    ∃ element, tensor.get index = .ok element ∧ (do
      let value ← element.getIntegerValue
      .ok value.bits.toInt : Except Failure Int) = .ok element.signExtended := by
  obtain ⟨element, got, stored⟩ := Tensor.get_eq within
  obtain ⟨value, holds⟩ := integers element (List.mem_of_getElem? stored)
  refine ⟨element, got, ?_⟩
  rw [Element.getIntegerValue, Element.signExtended, holds]
  rfl

section Selection

/-- A coordinate for some dimensions, and nothing for those of which everything is taken. -/
abbrev Selection := List (Option Nat)

namespace Selection

/-- The coordinates are those of a shape. -/
def Fits (selection : Selection) (shape : Sizes) : Prop :=
  List.Forall₂ (fun coordinate size => ∀ chosen ∈ coordinate, chosen < size) selection shape

/-- The index that is written for a selection. -/
def toIndex (selection : Selection) : List Int :=
  selection.map fun coordinate => (coordinate.map (Nat.cast : Nat → Int)).getD kColon

/-- The shape of what is selected. -/
def sliceShape : Selection → Sizes → Sizes
  | none :: selection, size :: shape => size :: sliceShape selection shape
  | some _ :: selection, _ :: shape => 1 :: sliceShape selection shape
  | _, _ => []

/-- The index of an element that is selected, from its index in the slice. -/
def fill : Selection → Index → Index
  | none :: selection, coordinate :: index => coordinate :: fill selection index
  | some chosen :: selection, _ :: index => chosen :: fill selection index
  | _, _ => []

/-- A selection has the slice of its shape. -/
theorem inferSliceShape_toIndex {selection : Selection} {shape : Sizes}
    (fits : selection.Fits shape) :
    inferSliceShape shape
      (List.zipWith (fun coordinate (_ : Nat) => if coordinate = kColon then 0 else coordinate)
        selection.toIndex shape)
      (List.zipWith (fun coordinate (size : Nat) =>
        if coordinate = kColon then (size : Int) else coordinate + 1) selection.toIndex shape)
      (List.replicate shape.length 1) = some (selection.sliceShape shape) := by
  -- The induction goes through the dimensions, each of which has a start and a limit.
  induction fits with
  | nil => rfl
  | @cons coordinate size selection shape below _ ih =>
    simp only [toIndex, List.map_cons, List.zipWith_cons_cons, List.length_cons,
      List.replicate_succ, inferSliceShape] at ih ⊢
    rw [ih]
    cases coordinate with
    | none =>
      have whole : inferSliceDim size 0 size 1 = some size := by
        rw [inferSliceDim, if_neg (by omega)]
        congr 1
        omega
      simp [whole, sliceShape]
    | some chosen =>
      have inside : chosen < size := below chosen rfl
      have notColon : (chosen : Int) ≠ kColon := by
        rw [kColon]
        omega
      have point : inferSliceDim size chosen (chosen + 1) 1 = some 1 := by
        rw [inferSliceDim, if_neg (by omega)]
        congr 1
        omega
      simp [notColon, point, sliceShape]

/-- Steps of one from the start lead to the elements that are selected. -/
theorem fill_eq {selection : Selection} {shape : Sizes} (fits : selection.Fits shape)
    {index : Index} (within : MixedRadix.Within (selection.sliceShape shape) index) :
    List.zipWith (fun (start step : Int) => start + step)
        (List.zipWith (fun coordinate (_ : Nat) => if coordinate = kColon then 0 else coordinate)
          selection.toIndex shape)
        (List.zipWith (fun (coordinate : Nat) (stride : Int) => coordinate * stride) index
          (List.replicate shape.length 1)) =
      (selection.fill index).map Nat.cast ∧ MixedRadix.Within shape (selection.fill index) := by
  induction fits generalizing index with
  | nil =>
    cases within
    exact ⟨rfl, .nil⟩
  | @cons coordinate size selection shape below _ ih =>
    cases coordinate with
    | none =>
      cases within with
      | @cons step _ index _ inside within =>
        obtain ⟨same, rest⟩ := ih within
        refine ⟨?_, .cons inside rest⟩
        simp only [toIndex] at same
        simp [toIndex, fill, List.replicate_succ, same]
    | some chosen =>
      cases within with
      | @cons step _ index _ inside within =>
        obtain ⟨same, rest⟩ := ih within
        have start : step = 0 := by omega
        have notColon : (chosen : Int) ≠ kColon := by
          rw [kColon]
          omega
        refine ⟨?_, .cons (below chosen rfl) rest⟩
        simp only [toIndex] at same
        simp [toIndex, fill, List.replicate_succ, same, notColon, start]

/-- A slice without elements is one of a tensor without elements. -/
theorem prod_eq_zero {selection : Selection} {shape : Sizes}
    (fits : selection.Fits shape) (empty : (selection.sliceShape shape).prod = 0) :
    shape.prod = 0 := by
  induction fits with
  | nil => exact empty
  | @cons coordinate size selection shape _ _ ih =>
    rw [List.prod_cons]
    cases coordinate with
    | none =>
      rw [sliceShape, List.prod_cons] at empty
      rcases Nat.mul_eq_zero.mp empty with size | rest
      · rw [size, Nat.zero_mul]
      · rw [ih rest, Nat.mul_zero]
    | some chosen =>
      -- The dimension has one position in the slice.
      rw [sliceShape, List.prod_cons, Nat.one_mul] at empty
      rw [ih empty, Nat.mul_zero]

end Selection

variable {α : Type}

/-- The slice at the index of a selection holds what is selected. -/
theorem sliceAt_toIndex {operand : Tensor α} {selection : Selection}
    (fits : selection.Fits operand.shape) :
    ∃ slice, operand.sliceAt selection.toIndex = .ok slice ∧
      slice.shape = selection.sliceShape operand.shape ∧
      ∀ index, MixedRadix.Within slice.shape index →
        slice.get index = operand.get (selection.fill index) := by
  have enough : ¬ selection.toIndex.length < operand.shape.length := by
    rw [Selection.toIndex, List.length_map, fits.length_eq]
    omega
  have read : ∀ index, MixedRadix.Within (selection.sliceShape operand.shape) index →
      operand.getAt (List.zipWith (fun (start step : Int) => start + step)
        (List.zipWith (fun coordinate (_ : Nat) => if coordinate = kColon then 0 else coordinate)
          selection.toIndex operand.shape)
        (List.zipWith (fun (coordinate : Nat) (stride : Int) => coordinate * stride) index
          (List.replicate operand.shape.length 1))) = operand.get (selection.fill index) := by
    intro index within
    rw [(Selection.fill_eq fits within).1, Tensor.getAt_map_natCast]
  -- Every index of the slice leads to an element of the operand.
  have computable : ∀ index, MixedRadix.Within (selection.sliceShape operand.shape) index →
      ∃ element, operand.getAt (List.zipWith (fun (start step : Int) => start + step)
        (List.zipWith (fun coordinate (_ : Nat) => if coordinate = kColon then 0 else coordinate)
          selection.toIndex operand.shape)
        (List.zipWith (fun (coordinate : Nat) (stride : Int) => coordinate * stride) index
          (List.replicate operand.shape.length 1))) = .ok element := by
    intro index within
    obtain ⟨element, got, -⟩ := Tensor.get_eq (Selection.fill_eq fits within).2
    exact ⟨element, by rw [read index within, got]⟩
  obtain ⟨slice, built⟩ := Tensor.build_eq_ok computable
  obtain ⟨shape, elements⟩ := Tensor.build_spec built
  refine ⟨slice, ?_, shape, fun index within => ?_⟩
  · rw [Tensor.sliceAt, if_neg enough]
    dsimp only
    rw [Tensor.sliceOp, Selection.inferSliceShape_toIndex fits]
    exact built
  · rw [shape] at within
    rw [elements index within, read index within]

end Selection

/-- The only index of a shape whose dimensions have a single position. -/
theorem indexSpace_point (count : Nat) :
    indexSpace (List.replicate count 1) = [List.replicate count 0] := by
  rw [indexSpace]
  induction count with
  | zero => rfl
  | succ count ih =>
    -- The dimension adds a zero to the only index of the others.
    rw [List.replicate_succ, MixedRadix.all, ih, List.replicate_succ]
    rfl

/-- The indices of a shape whose dimensions but one have a single position. -/
theorem indexSpace_line (before after size : Nat) :
    indexSpace (List.replicate before 1 ++ size :: List.replicate after 1) =
      (List.range size).map fun place =>
        List.replicate before 0 ++ place :: List.replicate after 0 := by
  have point : MixedRadix.all (List.replicate after 1) = _ := indexSpace_point after
  rw [indexSpace]
  induction before with
  | zero =>
    rw [List.replicate_zero, List.nil_append, MixedRadix.all, point, List.map_eq_flatMap]
    rfl
  | succ before ih =>
    -- Again, a dimension with one position only adds a zero.
    rw [List.replicate_succ, List.cons_append, MixedRadix.all, ih]
    simp [List.replicate_succ]

end Stablehlo
