import Stablehlo.Dialect.TypeInferenceSound

/-! Operations that keep track of bounds, as one family: their inferred types and the shapes of
their results. -/

namespace Stablehlo

/-- An operation whose inferred type keeps track of bounds. -/
inductive BoundedOp where
  | dotGeneral (lhs rhs : RankedTensorType) (lhsBatchingDimensions rhsBatchingDimensions
      lhsContractingDimensions rhsContractingDimensions : List Int64) (precisionConfig : Option Nat)
  | dot (lhs rhs : RankedTensorType) (precisionConfig : Option Nat)
  | concatenate (inputs : List RankedTensorType) (dimension : Nat)
  | pad (operand : RankedTensorType) (edgePaddingLow edgePaddingHigh interiorPadding : List Int64)
  | transpose (operand : RankedTensorType) (permutation : List Int64)
  | reduceWindow (inputs : List RankedTensorType) (windowDimensions : List Int64)
      (windowStrides baseDilations windowDilations : Option (List Int64))
      (padding : Option DenseIntElementsAttr) (accumulatorTypes : List StablehloType)
  | setDimensionSize (operand sizeType : RankedTensorType) (sizeAttr : Option Int32)
      (dimension : Int64)

namespace BoundedOp

/-- The types of the operands whose shapes decide the shape of the result. -/
def operands : BoundedOp → List RankedTensorType
  | .dotGeneral lhs rhs .. | .dot lhs rhs _ => [lhs, rhs]
  | .concatenate inputs _ | .reduceWindow inputs .. => inputs
  | .pad operand .. | .transpose operand _ | .setDimensionSize operand .. => [operand]

/-- The inferred types of the results. -/
def infer : BoundedOp → Except InferenceFailure (List ShapedTypeComponents)
  | .dotGeneral lhs rhs lhsBatching rhsBatching lhsContracting rhsContracting precisionConfig => do
    let result ← inferDotGeneralOp lhs rhs lhsBatching rhsBatching lhsContracting rhsContracting
      precisionConfig
    .ok [result]
  | .dot lhs rhs precisionConfig => do
    let result ← inferDotOp lhs rhs precisionConfig
    .ok [result]
  | .concatenate inputs dimension => do
    let result ← inferConcatenateOp inputs dimension
    .ok [result.components]
  | .pad operand edgePaddingLow edgePaddingHigh interiorPadding => do
    let result ← inferPadOp operand edgePaddingLow edgePaddingHigh interiorPadding
    .ok [result.components]
  | .transpose operand permutation => do
    let result ← inferTransposeOp operand permutation
    .ok [result.components]
  | .reduceWindow inputs windowDimensions windowStrides baseDilations windowDilations padding
      accumulatorTypes =>
    inferReduceWindowOp inputs windowDimensions windowStrides baseDilations windowDilations padding
      accumulatorTypes
  | .setDimensionSize operand sizeType sizeAttr dimension => do
    let result ← inferSetDimensionSizeOp operand sizeType sizeAttr dimension
    .ok [result]

/-- The shapes of the results, from those of the operands. -/
def Computes : BoundedOp → List (List Nat) → List (List Nat) → Prop
  | .dotGeneral _ _ lhsBatching rhsBatching lhsContracting rhsContracting _, shapes, results =>
    ∃ lhs rhs result, shapes = [lhs, rhs] ∧ results = [result] ∧
      DotGeneralShapes lhsBatching rhsBatching lhsContracting rhsContracting lhs rhs result
  | .dot .., shapes, results =>
    ∃ lhs rhs result, shapes = [lhs, rhs] ∧ results = [result] ∧ DotShapes lhs rhs result
  | .concatenate _ dimension, shapes, results =>
    ∃ result, results = [result] ∧ ConcatenateShapes dimension shapes result
  | .pad _ edgePaddingLow edgePaddingHigh interiorPadding, shapes, results =>
    ∃ shape result, shapes = [shape] ∧ results = [result] ∧
      result.map Int.ofNat = paddedShape shape edgePaddingLow edgePaddingHigh interiorPadding
  | .transpose _ permutation, shapes, results =>
    ∃ shape, shapes = [shape] ∧
      results = [permutation.map fun dim => sizeAt shape dim.toNatClampNeg]
  | .reduceWindow inputs windowDimensions windowStrides baseDilations windowDilations padding _,
      shapes, results =>
    ∃ window, verifyReduceWindowOpInputsAndInferWindow inputs windowDimensions windowStrides
        baseDilations windowDilations padding = .ok window ∧
      List.Forall₂ (fun shape result => result.map Int.ofNat = windowedShape window shape) shapes
        results
  | .setDimensionSize operand _ sizeAttr dimension, shapes, results =>
    ∃ shape size, shapes = [shape] ∧ results = [shape.set dimension.toNatClampNeg size] ∧
      -- The size is the constant, when it is one, and the dimension has room for it.
      (∀ splat ∈ sizeAttr, (size : Int) = splat.toInt) ∧
      ∀ extent ∈ operand.extents[dimension.toNatClampNeg]?, HasRoom extent (size : Int)

/-- The result is a number, and takes its encoding from an operand that carries bounds. -/
def LeavesBounds : BoundedOp → Prop
  | .dotGeneral lhs rhs lhsBatching rhsBatching lhsContracting rhsContracting _ =>
    (lhsBatching = [] ∧ resultDims lhs.rank lhsBatching lhsContracting = [] ∧
        resultDims rhs.rank rhsBatching rhsContracting = []) ∧
      encodingToBounds (lhs.encoding.or rhs.encoding) ≠ []
  | .dot lhs rhs _ =>
    (lhs.rank = 1 ∧ rhs.rank = 1) ∧ encodingToBounds (lhs.encoding.or rhs.encoding) ≠ []
  | _ => False

/-- The results of the operation have the dimensions, whose sizes admit what it computes. -/
def Sound (op : BoundedOp) (results : List ShapedTypeComponents) : Prop :=
  (∀ result ∈ results, ∀ elementType, (result.type elementType).WellBounded) ∧
    ∀ shapes computed : List (List Nat), List.Forall₂ RankedTensorType.Conforms op.operands shapes →
      op.Computes shapes computed →
        List.Forall₂ (fun result shape => ∀ elementType, (result.type elementType).Conforms shape)
          results computed

variable {op : BoundedOp} {results : List ShapedTypeComponents}

/-- An operation with one result is sound when the result tracks its dimensions. -/
theorem sound_of_tracks {dims : List DimAndBound} {result : ShapedTypeComponents}
    (tracks : Tracks dims result)
    (admits : ∀ shapes computed, List.Forall₂ RankedTensorType.Conforms op.operands shapes →
      op.Computes shapes computed → ∃ shape, computed = [shape] ∧ Admit dims shape) :
    op.Sound [result] := by
  constructor
  · intro other listed elementType
    rw [List.mem_singleton.mp listed]
    exact tracks.wellBounded elementType
  · intro shapes computed conforms computes
    obtain ⟨shape, rfl, admitted⟩ := admits shapes computed conforms computes
    exact .cons (fun elementType => tracks.conforms elementType admitted) .nil

/-- A product is sound unless bounds are left over. -/
theorem sound_product {lhs rhs : RankedTensorType} {dims : List DimAndBound}
    {result : ShapedTypeComponents} (product : ProductOf lhs rhs dims result)
    (admits : ∀ shapes computed, List.Forall₂ RankedTensorType.Conforms op.operands shapes →
      op.Computes shapes computed → ∃ shape, computed = [shape] ∧ Admit dims shape) :
    op.Sound [result] ↔ ¬ (dims = [] ∧ encodingToBounds (lhs.encoding.or rhs.encoding) ≠ []) := by
  constructor
  · rintro sound ⟨rfl, bounds⟩
    exact product.not_wellFormed bounds .noneType (sound.1 result (by simp) .noneType).1
  · intro none
    refine sound_of_tracks (product.tracks ?_) admits
    by_cases empty : dims = []
    · exact .inr (Classical.not_not.mp fun bounds => none ⟨empty, bounds⟩)
    · exact .inl empty

/-- The window of a reduction has been verified, and has a dimension for each of an input. -/
theorem verifyReduceWindow_eq_ok {inputs : List RankedTensorType} {windowDimensions : List Int64}
    {windowStrides baseDilations windowDilations : Option (List Int64)}
    {padding : Option DenseIntElementsAttr} {window : List WindowDimension}
    (inferred : verifyReduceWindowOpInputsAndInferWindow inputs windowDimensions windowStrides
      baseDilations windowDilations padding = .ok window) :
    (∀ dim ∈ window, dim.Verified) ∧ ∀ type ∈ inputs, type.rank = window.length := by
  unfold verifyReduceWindowOpInputsAndInferWindow at inferred
  split at inferred
  · cases inferred
  split at inferred
  · cases inferred
  obtain ⟨pads, -, inferred⟩ := Fallible.bind_eq_ok.mp inferred
  split at inferred
  · cases inferred
  · next ranks =>
    -- The attributes have entries for the window, or none.
    obtain ⟨_, -, inferred⟩ := Fallible.bind_eq_ok.mp inferred
    obtain ⟨_, -, inferred⟩ := Fallible.bind_eq_ok.mp inferred
    obtain ⟨_, -, inferred⟩ := Fallible.bind_eq_ok.mp inferred
    obtain ⟨_, -, inferred⟩ := Fallible.bind_eq_ok.mp inferred
    obtain ⟨_, -, inferred⟩ := Fallible.bind_eq_ok.mp inferred
    have long := Fallible.length_of_mapM inferred
    rw [List.length_zipIdx] at long
    constructor
    · intro dim listed
      obtain ⟨place, short, rfl⟩ := List.mem_iff_getElem.mp listed
      have each := List.forall₂_iff_get.mp (Fallible.mapM_eq_ok_iff.mp inferred)
      exact verified_of_inferWindowDimension (each.2 place (each.1 ▸ short) short)
    · intro type listed
      rw [long]
      simpa using List.find?_eq_none.mp ranks type listed

/-- The results of a windowed reduction track the dimensions of its inputs. -/
theorem sound_reduceWindow {inputs : List RankedTensorType} {windowDimensions : List Int64}
    {windowStrides baseDilations windowDilations : Option (List Int64)}
    {padding : Option DenseIntElementsAttr} {accumulatorTypes : List StablehloType}
    (wellFormed : ∀ type ∈ inputs, type.WellFormed)
    (accepted : inferReduceWindowOp inputs windowDimensions windowStrides baseDilations
      windowDilations padding accumulatorTypes = .ok results) :
    (reduceWindow inputs windowDimensions windowStrides baseDilations windowDilations padding
      accumulatorTypes).Sound results := by
  obtain ⟨window, inferred, accepted⟩ := Fallible.bind_eq_ok.mp accepted
  obtain ⟨verified, ranks⟩ := verifyReduceWindow_eq_ok inferred
  have each := List.forall₂_iff_get.mp (Fallible.mapM_eq_ok_iff.mp accepted)
  have long : inputs.length = results.length := by
    rw [← each.1, List.length_zipIdx]
  -- Each result is that of the input at its place.
  have tracked : ∀ place (short : place < inputs.length), ∃ dims,
      Tracks dims (results.get ⟨place, long ▸ short⟩) ∧ ∀ sizes shape : List Nat,
        inputs[place].Conforms sizes → shape.map Int.ofNat = windowedShape window sizes →
          Admit dims shape := by
    intro place short
    have result := each.2 place (by simpa using short) (long ▸ short)
    simp only [List.get_eq_getElem, List.getElem_zipIdx] at result
    have listed : inputs[place] ∈ inputs := List.getElem_mem short
    split at result
    · exact inferReduceWindowResult_sound (wellFormed _ listed) verified (ranks _ listed) result
    · cases result
  constructor
  · intro result listed elementType
    obtain ⟨place, short, rfl⟩ := List.mem_iff_getElem.mp listed
    obtain ⟨dims, tracks, -⟩ := tracked place (long ▸ short)
    exact tracks.wellBounded elementType
  · rintro shapes computed conforms ⟨other, inferred', windowed⟩
    rw [inferred] at inferred'
    cases inferred'
    refine List.forall₂_iff_get.mpr ⟨?_, fun place short short' elementType => ?_⟩
    · rw [← long, ← windowed.length_eq, ← conforms.length_eq]
      rfl
    · have inputShort : place < inputs.length := long ▸ short
      have shapeShort : place < shapes.length := conforms.length_eq ▸ inputShort
      obtain ⟨dims, tracks, admits⟩ := tracked place inputShort
      refine tracks.conforms elementType (admits _ _
        ((List.forall₂_iff_get.mp conforms).2 place inputShort shapeShort) ?_)
      exact (List.forall₂_iff_get.mp windowed).2 place shapeShort short'

/-- The inferred types have well-formed bounds, and the shapes of the results conform to them,
exactly when no number keeps the bounds of an operand. -/
theorem sound_iff_not_leavesBounds (wellFormed : ∀ type ∈ op.operands, type.WellFormed)
    (accepted : op.infer = .ok results) : op.Sound results ↔ ¬ op.LeavesBounds := by
  cases op with
  | dotGeneral lhs rhs lhsBatching rhsBatching lhsContracting rhsContracting precisionConfig =>
    obtain ⟨result, inferred, rfl⟩ := bind_ok_eq_ok accepted
    obtain ⟨dims, product, number, sound⟩ := inferDotGeneralOp_sound
      (wellFormed lhs (by simp [operands])) (wellFormed rhs (by simp [operands])) inferred
    rw [LeavesBounds, ← number]
    refine sound_product product ?_
    rintro shapes computed conforms ⟨left, right, shape, rfl, rfl, computes⟩
    cases conforms with
    | cons first rest =>
      cases rest with
      | cons second _ => exact ⟨shape, rfl, sound left right shape first second computes⟩
  | dot lhs rhs precisionConfig =>
    obtain ⟨result, inferred, rfl⟩ := bind_ok_eq_ok accepted
    obtain ⟨dims, product, number, sound⟩ := inferDotOp_sound
      (wellFormed lhs (by simp [operands])) (wellFormed rhs (by simp [operands])) inferred
    rw [LeavesBounds, ← number]
    refine sound_product product ?_
    rintro shapes computed conforms ⟨left, right, shape, rfl, rfl, computes⟩
    cases conforms with
    | cons first rest =>
      cases rest with
      | cons second _ => exact ⟨shape, rfl, sound left right shape first second computes⟩
  | concatenate inputs dimension =>
    obtain ⟨result, inferred, rfl⟩ := bind_ok_eq_ok accepted
    obtain ⟨dims, tracks, sound⟩ := inferConcatenateOp_sound wellFormed inferred
    refine iff_of_true (sound_of_tracks tracks ?_) id
    rintro shapes computed conforms ⟨shape, rfl, computes⟩
    exact ⟨shape, rfl, sound shapes shape conforms computes⟩
  | pad operand edgePaddingLow edgePaddingHigh interiorPadding =>
    obtain ⟨result, inferred, rfl⟩ := bind_ok_eq_ok accepted
    obtain ⟨dims, tracks, sound⟩ := inferPadOp_sound (wellFormed operand (by simp [operands])) inferred
    refine iff_of_true (sound_of_tracks tracks ?_) id
    rintro shapes computed conforms ⟨sizes, shape, rfl, rfl, computes⟩
    cases conforms with
    | cons first _ => exact ⟨shape, rfl, sound sizes shape first computes⟩
  | transpose operand permutation =>
    obtain ⟨result, inferred, rfl⟩ := bind_ok_eq_ok accepted
    obtain ⟨dims, tracks, sound⟩ :=
      inferTransposeOp_sound (wellFormed operand (by simp [operands])) inferred
    refine iff_of_true (sound_of_tracks tracks ?_) id
    rintro shapes computed conforms ⟨sizes, rfl, rfl⟩
    cases conforms with
    | cons first _ => exact ⟨_, rfl, sound sizes first⟩
  | reduceWindow inputs windowDimensions windowStrides baseDilations windowDilations padding
      accumulatorTypes =>
    exact iff_of_true (sound_reduceWindow wellFormed accepted) id
  | setDimensionSize operand sizeType sizeAttr dimension =>
    obtain ⟨result, inferred, rfl⟩ := bind_ok_eq_ok accepted
    obtain ⟨dims, tracks, sound⟩ :=
      inferSetDimensionSizeOp_sound (wellFormed operand (by simp [operands])) inferred
    refine iff_of_true (sound_of_tracks tracks ?_) id
    rintro shapes computed conforms ⟨sizes, size, rfl, rfl, constant, room⟩
    cases conforms with
    | cons first _ => exact ⟨_, rfl, sound sizes size first constant room⟩

/-- The product of two bounded vectors. -/
def boundedProduct : BoundedOp :=
  .dotGeneral boundedVector boundedVector [] [] [0] [0] none

/-- What is inferred for the product of two bounded vectors. -/
def boundedNumber : ShapedTypeComponents :=
  { dims := [], elementType := none, encoding := some (.typeExtensions [4]) }

/-- Two bounded vectors. -/
theorem sound_iff_not_leavesBounds_vectors :
    boundedProduct.Sound [boundedNumber] ↔ ¬ boundedProduct.LeavesBounds :=
  sound_iff_not_leavesBounds (by decide) (by rfl)

/-- The number that is the product of two bounded vectors has their bound. -/
theorem boundedProduct_not_sound :
    boundedProduct.infer = .ok [boundedNumber] ∧
      (∀ type ∈ boundedProduct.operands, type.WellFormed) ∧
      ¬ boundedProduct.Sound [boundedNumber] := by
  refine ⟨by rfl, by decide, fun sound => ?_⟩
  have formed := (sound.1 boundedNumber (by simp) (.float .ieeeSingle)).1
  exact absurd formed (by decide)

end BoundedOp

end Stablehlo
