import Stablehlo.Quant.Types
import Stablehlo.Support.Fallible

/-! Operations that keep the scales and zero points of their operand. -/

namespace Stablehlo.Quant

section Types

/-- A tensor type has a scale for each index of the dimension that it is quantized along, if the
size of that dimension is known. -/
def isValidQuantizedDimension (shape : List (Option Nat)) (elementType : Option QuantType) : Bool :=
  match elementType with
  | some (.perAxis type) =>
    match shape[type.quantizedDimension]? with
    | none => false
    | some none => true
    | some (some size) => type.getScales.length == size
  | _ => true

/-- A ranked tensor type, with `none` for a dimension of an unknown size and for elements that are
not quantized. -/
structure QuantizedTensorType where
  shape : List (Option Nat)
  elementType : Option QuantType
  valid : isValidQuantizedDimension shape elementType = true

/-- All sizes are known. -/
def QuantizedTensorType.hasStaticShape (type : QuantizedTensorType) : Bool :=
  type.shape.all Option.isSome

/-- The size of a dimension, if it is known. -/
def QuantizedTensorType.dimSize (type : QuantizedTensorType) (dim : Nat) : Option Nat :=
  type.shape.getD dim none

/-- Why a verifier refuses an operation. -/
inductive VerifyFailure where
  /-- "expect same quantization scale and zero_point but got ..." -/
  | scaleAndZeroPoint (type other : QuantizedTensorType)
  /-- "expect same quantization scales and zero_points but got ..." -/
  | scalesAndZeroPoints (type other : QuantizedTensorType)
  /-- "operand quantization_dimension ... is not same as permutation[...] = ..." -/
  | permutedDimension (operandQDim resultQDim : Nat) (permuted : Int)
  /-- "expect same quantization dimension size for operand and result ..." -/
  | quantizationDimensionSize (operand result : QuantizedTensorType)
  /-- "product of dimensions before quantization dimension must match between operand and result" -/
  | productBefore (operandProd resultProd : UInt64)
  /-- "number of output elements ... doesn't match expected number of elements ..." -/
  | numElements (result operand : Nat)
  /-- An element type is cast to one that it is not, or a list is read out of its bounds. -/
  | undefinedBehavior

end Types

section Verifiers

/-- Both types have the same scales and zero points. -/
def isSameQuantPerAxisScaleZeroPoint (ty1 ty2 : QuantizedTensorType) : Bool :=
  match ty1.elementType, ty2.elementType with
  | some (.perAxis qty1), some (.perAxis qty2) =>
    -- The number of scales of the first type is compared with itself.
    if qty1.getScales.length ≠ qty1.getScales.length then false
    else if (qty1.getScales.zip qty2.getScales).any fun (lhs, rhs) => lhs ≠ rhs then false
    else if (qty1.getZeroPoints.zip qty2.getZeroPoints).any fun (lhs, rhs) => lhs ≠ rhs then false
    else true
  | _, _ => false

/-- Two types that are quantized with a single scale have the same one. -/
def verifyQPerTensorScaleAndZeroPointConstraints (ty1 ty2 : QuantizedTensorType) :
    Except VerifyFailure Unit :=
  match ty1.elementType, ty2.elementType with
  | some (.perTensor type), some (.perTensor other) =>
    if type ≠ other then .error (.scaleAndZeroPoint ty1 ty2) else .ok ()
  | _, _ => .ok ()

/-- Two types that are quantized along a dimension have the same scales and zero points. -/
def verifyQPerAxisScaleAndZeroPointConstraints (ty1 ty2 : QuantizedTensorType) :
    Except VerifyFailure Unit :=
  match ty1.elementType, ty2.elementType with
  | some (.perAxis _), some (.perAxis _) =>
    if isSameQuantPerAxisScaleZeroPoint ty1 ty2 then .ok ()
    else .error (.scalesAndZeroPoints ty1 ty2)
  | _, _ => .ok ()

/-- Verify a transpose. -/
def verifyTransposeOp (operandType : QuantizedTensorType) (permutation : List Int)
    (resultType : QuantizedTensorType) : Except VerifyFailure Unit := do
  verifyQPerTensorScaleAndZeroPointConstraints operandType resultType
  verifyQPerAxisScaleAndZeroPointConstraints operandType resultType
  match resultType.elementType with
  | some (.perAxis resultQType) =>
    let resultQDim := resultQType.quantizedDimension
    match operandType.elementType, permutation[resultQDim]? with
    | some (.perAxis operandQType), some permuted =>
      let operandQDim := operandQType.quantizedDimension
      if operandQDim ≠ permuted then .error (.permutedDimension operandQDim resultQDim permuted)
      else .ok ()
    | _, _ => .error .undefinedBehavior
  | _ => .ok ()

/-- The product of sizes, each of which is read with 32 bits. -/
def dimsProduct (sizes : List (Option Nat)) : UInt64 :=
  sizes.foldl (fun prod size => prod * (Int32.ofNat (size.getD 0)).toInt64.toUInt64) 1

/-- Verify the quantized types of a reshape. -/
def verifyReshapeOpQuantizationConstraints (operandTy resultTy : QuantizedTensorType) :
    Except VerifyFailure Unit := do
  verifyQPerTensorScaleAndZeroPointConstraints operandTy resultTy
  verifyQPerAxisScaleAndZeroPointConstraints operandTy resultTy
  match operandTy.elementType, resultTy.elementType with
  | some (.perAxis operandQType), some (.perAxis resultQType) =>
    let operandQDim := operandQType.quantizedDimension
    let resultQDim := resultQType.quantizedDimension
    if (operandTy.dimSize operandQDim).isSome ∧ (resultTy.dimSize resultQDim).isSome ∧
        operandTy.dimSize operandQDim ≠ resultTy.dimSize resultQDim then
      .error (.quantizationDimensionSize operandTy resultTy)
    else if operandTy.hasStaticShape ∧ resultTy.hasStaticShape then
      let operandProd := dimsProduct (operandTy.shape.take operandQDim)
      let resultProd := dimsProduct (resultTy.shape.take resultQDim)
      if operandProd ≠ resultProd then .error (.productBefore operandProd resultProd) else .ok ()
    else
      .ok ()
  | _, _ => .ok ()

/-- The number of elements of a type whose sizes are known, which is one of 64 bits. -/
def QuantizedTensorType.getNumElements (type : QuantizedTensorType) : Except VerifyFailure Nat :=
  let number := (type.shape.map (·.getD 0)).prod
  if number < 2 ^ 63 then .ok number else .error .undefinedBehavior

/-- Verify a reshape. -/
def verifyReshapeOp (operandTy resultTy : QuantizedTensorType) : Except VerifyFailure Unit :=
  -- If the operand type is dynamically shaped there is nothing to verify.
  if !operandTy.hasStaticShape ∨ !resultTy.hasStaticShape then .ok ()
  else do
    let numResultElements ← resultTy.getNumElements
    let numOperandElements ← operandTy.getNumElements
    if numResultElements ≠ numOperandElements then
      .error (.numElements numResultElements numOperandElements)
    else if operandTy.elementType.isSome ∨ resultTy.elementType.isSome then
      verifyReshapeOpQuantizationConstraints operandTy resultTy
    else
      .ok ()

end Verifiers

section Specification

/-- A type of tensors that are quantized along a dimension. -/
structure PerAxisTensorType where
  shape : List (Option Nat)
  element : UniformQuantizedPerAxisType
  valid : isValidQuantizedDimension shape (some (.perAxis element)) = true

/-- The type, among all tensor types. -/
def PerAxisTensorType.toType (type : PerAxisTensorType) : QuantizedTensorType where
  shape := type.shape
  elementType := some (.perAxis type.element)
  valid := type.valid

/-- A type carries the scales and the zero points of another one. -/
def PerAxisTensorType.Carries (type other : PerAxisTensorType) : Prop :=
  type.element.getScales = other.element.getScales ∧
    type.element.getZeroPoints = other.element.getZeroPoints

/-- The comparison of types is exact, and verifiers accept only results that carry the scales and
zero points of the operand. -/
structure PerAxisTensorType.KeepsQuantization (operand result : PerAxisTensorType) : Prop where
  same : isSameQuantPerAxisScaleZeroPoint operand.toType result.toType = true ↔
    operand.Carries result
  transpose : ∀ permutation,
    verifyTransposeOp operand.toType permutation result.toType = .ok () → operand.Carries result
  reshape : verifyReshapeOp operand.toType result.toType = .ok () → operand.Carries result

/-- Both types have a scale and a zero point at some place, and these are different. -/
def PerAxisTensorType.DifferSomewhere (type other : PerAxisTensorType) : Prop :=
  ∃ (place : Nat) (params otherParams : Params), type.element.params[place]? = some params ∧
    other.element.params[place]? = some otherParams ∧ params ≠ otherParams

end Specification

section Exactness

variable {operand result : PerAxisTensorType}

/-- Pairs of neighbors do not differ when they are the same at each common place. -/
theorem any_zip_ne {α : Type} [DecidableEq α] {first second : List α} :
    ((first.zip second).any fun (lhs, rhs) => lhs ≠ rhs) = false ↔
      ∀ (place : Nat) (lhs rhs : α), first[place]? = some lhs → second[place]? = some rhs →
        lhs = rhs := by
  rw [List.any_eq_false]
  constructor
  · intro same place lhs rhs here there
    have listed : (first.zip second)[place]? = some (lhs, rhs) :=
      List.getElem?_zip_eq_some.mpr ⟨here, there⟩
    simpa using same (lhs, rhs) (List.mem_of_getElem? listed)
  · rintro same ⟨lhs, rhs⟩ listed
    obtain ⟨place, found⟩ := List.mem_iff_getElem?.mp listed
    obtain ⟨here, there⟩ := List.getElem?_zip_eq_some.mp found
    simpa using same place lhs rhs here there

/-- Types carry the same scales and zero points when they have the same lists of both. -/
theorem carries_iff : operand.Carries result ↔ operand.element.params = result.element.params := by
  constructor
  · rintro ⟨scales, zeroPoints⟩
    refine List.ext_getElem? fun place => ?_
    have scale := congrArg (·[place]?) scales
    have zeroPoint := congrArg (·[place]?) zeroPoints
    simp only [UniformQuantizedPerAxisType.getScales, UniformQuantizedPerAxisType.getZeroPoints,
      List.getElem?_map] at scale zeroPoint
    cases first : operand.element.params[place]? <;>
      cases second : result.element.params[place]? <;> simp_all
    -- Both parts of a pair are the same.
    exact congrArg₂ Params.mk scale zeroPoint
  · intro same
    exact ⟨congrArg (List.map Params.scale) same, congrArg (List.map Params.zeroPoint) same⟩

/-- What is compared are the scales and zero points at all common places. -/
theorem isSame_iff :
    isSameQuantPerAxisScaleZeroPoint operand.toType result.toType = true ↔
      ¬ operand.DifferSomewhere result := by
  have compared : isSameQuantPerAxisScaleZeroPoint operand.toType result.toType = true ↔
      ((operand.element.getScales.zip result.element.getScales).any
          fun (lhs, rhs) => lhs ≠ rhs) = false ∧
        ((operand.element.getZeroPoints.zip result.element.getZeroPoints).any
          fun (lhs, rhs) => lhs ≠ rhs) = false := by
    show (if _ then _ else if _ then _ else if _ then _ else _) = true ↔ _
    -- The first of the comparisons never fails.
    rw [if_neg (fun differ => differ rfl)]
    cases (operand.element.getScales.zip result.element.getScales).any
        fun (lhs, rhs) => lhs ≠ rhs <;>
      cases (operand.element.getZeroPoints.zip result.element.getZeroPoints).any
        fun (lhs, rhs) => lhs ≠ rhs <;>
      simp
  rw [compared, any_zip_ne, any_zip_ne]
  simp only [UniformQuantizedPerAxisType.getScales, UniformQuantizedPerAxisType.getZeroPoints,
    List.getElem?_map, Option.map_eq_some_iff]
  constructor
  · rintro ⟨scales, zeroPoints⟩ ⟨place, params, otherParams, here, there, differ⟩
    apply differ
    have scale := scales place _ _ ⟨params, here, rfl⟩ ⟨otherParams, there, rfl⟩
    have zeroPoint := zeroPoints place _ _ ⟨params, here, rfl⟩ ⟨otherParams, there, rfl⟩
    obtain ⟨number, integer⟩ := params
    exact congrArg₂ Params.mk scale zeroPoint
  · intro nowhere
    have same : ∀ (place : Nat) (params otherParams : Params),
        operand.element.params[place]? = some params →
        result.element.params[place]? = some otherParams → params = otherParams := by
      intro place params otherParams here there
      by_contra differ
      exact nowhere ⟨place, params, otherParams, here, there, differ⟩
    refine ⟨?_, ?_⟩
    all_goals
      rintro place _ _ ⟨params, here, rfl⟩ ⟨otherParams, there, rfl⟩
      rw [same place params otherParams here there]

/-- With as many scales, types that differ nowhere carry the same ones. -/
theorem carries_of_not_differSomewhere
    (count : operand.element.params.length = result.element.params.length)
    (nowhere : ¬ operand.DifferSomewhere result) : operand.Carries result := by
  rw [carries_iff]
  refine List.ext_getElem count fun place inside otherInside => ?_
  by_contra differ
  exact nowhere ⟨place, _, _, List.getElem?_eq_getElem inside,
    List.getElem?_eq_getElem otherInside, differ⟩

/-- A type that carries what another one does differs from it nowhere. -/
theorem not_differSomewhere_of_carries (carries : operand.Carries result) :
    ¬ operand.DifferSomewhere result := by
  rintro ⟨place, params, otherParams, here, there, differ⟩
  rw [carries_iff.mp carries, there, Option.some.injEq] at here
  exact differ here.symm

/-- The scales and zero points are verified when nothing is found that differs. -/
theorem not_differSomewhere_of_verified
    (verified : verifyQPerAxisScaleAndZeroPointConstraints operand.toType result.toType = .ok ()) :
    ¬ operand.DifferSomewhere result := by
  rw [← isSame_iff]
  by_contra different
  have refused : verifyQPerAxisScaleAndZeroPointConstraints operand.toType result.toType =
      .error (.scalesAndZeroPoints operand.toType result.toType) := if_neg different
  cases verified.symm.trans refused

/-- A transpose is accepted only when no scales or zero points differ. -/
theorem not_differSomewhere_of_transpose {permutation : List Int}
    (accepted : verifyTransposeOp operand.toType permutation result.toType = .ok ()) :
    ¬ operand.DifferSomewhere result := by
  obtain ⟨_, -, accepted⟩ := Fallible.bind_eq_ok.mp accepted
  obtain ⟨_, verified, -⟩ := Fallible.bind_eq_ok.mp accepted
  exact not_differSomewhere_of_verified verified

/-- The size of the quantized dimension is the number of scales, if it is known. -/
theorem dimSize_eq (type : PerAxisTensorType) (static : type.toType.hasStaticShape = true) :
    type.toType.dimSize type.element.quantizedDimension = some type.element.params.length := by
  have valid := type.valid
  unfold isValidQuantizedDimension at valid
  dsimp only at valid
  unfold QuantizedTensorType.dimSize
  rw [List.getD_eq_getElem?_getD]
  show (type.shape[type.element.quantizedDimension]?).getD none = _
  split at valid
  · cases valid
  · next unknown =>
    -- A static shape has no dimension of an unknown size.
    have known := List.all_eq_true.mp static _ (List.mem_of_getElem? unknown)
    cases known
  · next size found =>
    rw [beq_iff_eq, UniformQuantizedPerAxisType.getScales, List.length_map] at valid
    rw [found, valid, Option.getD_some]

/-- A reshape of known sizes is accepted only when the scales and zero points are the same. -/
theorem carries_of_reshape (static : operand.toType.hasStaticShape = true)
    (resultStatic : result.toType.hasStaticShape = true)
    (accepted : verifyReshapeOp operand.toType result.toType = .ok ()) :
    operand.Carries result := by
  unfold verifyReshapeOp at accepted
  rw [if_neg (by simp [static, resultStatic])] at accepted
  obtain ⟨numResultElements, -, accepted⟩ := Fallible.bind_eq_ok.mp accepted
  obtain ⟨numOperandElements, -, accepted⟩ := Fallible.bind_eq_ok.mp accepted
  split at accepted
  · cases accepted
  rw [if_pos (.inl rfl)] at accepted
  obtain ⟨_, -, accepted⟩ := Fallible.bind_eq_ok.mp accepted
  obtain ⟨_, verified, accepted⟩ := Fallible.bind_eq_ok.mp accepted
  refine carries_of_not_differSomewhere ?_ (not_differSomewhere_of_verified verified)
  -- The quantized dimensions are of the same size, which both numbers of scales are.
  have sizes : operand.toType.dimSize operand.element.quantizedDimension =
      result.toType.dimSize result.element.quantizedDimension := by
    by_contra differ
    have known : (operand.toType.dimSize operand.element.quantizedDimension).isSome := by
      rw [dimSize_eq operand static]
      rfl
    have resultKnown : (result.toType.dimSize result.element.quantizedDimension).isSome := by
      rw [dimSize_eq result resultStatic]
      rfl
    change (if (operand.toType.dimSize operand.element.quantizedDimension).isSome ∧
      (result.toType.dimSize result.element.quantizedDimension).isSome ∧ _ then _ else _) =
        Except.ok () at accepted
    rw [if_pos ⟨known, resultKnown, differ⟩] at accepted
    cases accepted
  rw [dimSize_eq operand static, dimSize_eq result resultStatic] at sizes
  exact Option.some.inj sizes

end Exactness

/-- Scales and zero points are kept exactly when types with different numbers of scales differ at a
common place, and a reshape without known sizes has the same ones. -/
theorem keepsQuantization_iff (operand result : PerAxisTensorType) :
    operand.KeepsQuantization result ↔
      (operand.element.params.length = result.element.params.length ∨
        operand.DifferSomewhere result) ∧
      ((operand.toType.hasStaticShape = true ∧ result.toType.hasStaticShape = true) ∨
        operand.Carries result) := by
  constructor
  · rintro ⟨same, -, reshape⟩
    refine ⟨?_, ?_⟩
    · by_contra neither
      rw [not_or] at neither
      obtain ⟨count, nowhere⟩ := neither
      -- The types are taken to be the same.
      exact count (congrArg List.length (carries_iff.mp (same.mp (isSame_iff.mpr nowhere))))
    · rw [or_iff_not_imp_left]
      intro dynamic
      refine reshape (if_pos ?_)
      rw [not_and_or, Bool.not_eq_true, Bool.not_eq_true] at dynamic
      simpa using dynamic
  · rintro ⟨compared, known⟩
    have carries : ¬ operand.DifferSomewhere result → operand.Carries result := by
      intro nowhere
      exact carries_of_not_differSomewhere (compared.resolve_right nowhere) nowhere
    refine ⟨?_, ?_, ?_⟩
    · rw [isSame_iff]
      exact ⟨carries, not_differSomewhere_of_carries⟩
    · intro permutation accepted
      exact carries (not_differSomewhere_of_transpose accepted)
    · intro accepted
      rcases known with ⟨static, resultStatic⟩ | carried
      · exact carries_of_reshape static resultStatic accepted
      · exact carried

section Examples

/-- The bounds of bytes with a sign are in order. -/
theorem byte_ordered : (-128 : Int) < 127 := by decide

/-- Bytes with a sign hold their bounds. -/
theorem byte_fits : (-2 : Int) ^ (8 - 1) ≤ -128 ∧ (127 : Int) < 2 ^ (8 - 1) := by decide

/-- A vector of bytes of an unknown size, with a scale for each of its elements. -/
def scaledVector (scales : List Params) (positive : ∀ channel ∈ scales, 0 < channel.scale)
    (zeroPoints : ∀ channel ∈ scales, channel.zeroPoint = 0) : PerAxisTensorType where
  shape := [none]
  element := {
    storage := ⟨8, true, -128, 127, byte_ordered, byte_fits⟩
    params := scales
    quantizedDimension := 0
    positive
    zeroPoints channel listed := by
      rw [zeroPoints channel listed]
      exact ⟨by decide, by decide⟩ }
  valid := rfl

/-- A transpose of a vector may drop a scale. -/
theorem not_keepsQuantization_prefix :
    ¬ (scaledVector [⟨1, 0⟩, ⟨2, 0⟩] (by decide) (by decide)).KeepsQuantization
      (scaledVector [⟨1, 0⟩] (by decide) (by decide)) := by
  intro keeps
  have carried := keeps.transpose [0] rfl
  exact absurd carried.1 (by decide)

end Examples

end Stablehlo.Quant
