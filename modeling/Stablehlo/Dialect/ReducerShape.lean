import Stablehlo.Dialect.BitcastConvert
import Stablehlo.Dialect.DimensionChecks

/-! The verifier of the computations that reductions and scatters evaluate. -/

namespace Stablehlo

open TypePrinter

namespace StablehloType

/-- The shape, if it is ranked, and the element type of a shaped type. -/
def shaped : StablehloType → Option (Option (List Int64) × StablehloType)
  | .rankedTensor shape elementType _ => some (some shape, elementType)
  | .memRef shape elementType _ _ => some (some shape, elementType)
  | .unrankedTensor elementType => some (none, elementType)
  | _ => none

/-- The type that numbers of a quantized type stand for. -/
def expressedType : StablehloType → Option StablehloType
  | .uniformQuantized _ _ expressedType .. => some expressedType
  | .uniformQuantizedPerAxis _ _ expressedType .. => some expressedType
  | _ => none

/-- The type is one of floats. -/
def isFloat : StablehloType → Bool
  | .float _ => true
  | _ => false

/-- The element type of a shaped type, or the type itself. -/
def getElementTypeOrSelf (type : StablehloType) : StablehloType :=
  match type.shaped with
  | some (_, elementType) => elementType
  | none => type

end StablehloType

/-- The framework's check that two types may have the same shape. -/
def compatibleShape (type1 type2 : StablehloType) : Bool :=
  match type1.shaped, type2.shaped with
  | none, none => true
  | some (some shape1, _), some (some shape2, _) =>
    shape1.length == shape2.length && (shape1.zip shape2).all fun (dimSize1, dimSize2) =>
      verifyCompatibleDims dimSize1 dimSize2
  | some _, some _ => true
  | _, _ => false

/-- The two shaped types have the same element type, or floats of any precision. -/
def tensorsHaveSameElType (type1 type2 : StablehloType) (ignoreFpPrecision : Bool) : Bool :=
  match type1.shaped, type2.shaped with
  | some (_, tensorEl1), some (_, tensorEl2) =>
    (ignoreFpPrecision && tensorEl1.isFloat && tensorEl2.isFloat) || decide (tensorEl1 = tensorEl2)
  | _, _ => false

/-- The types may have the same shape, and have the same element type. -/
def compatibleShapeAndElementType (type1 type2 : StablehloType) (ignoreFpPrecision : Bool) :
    Bool :=
  compatibleShape type1 type2 && tensorsHaveSameElType type1 type2 ignoreFpPrecision

/-- The two element types are of the same kind. -/
def matchesType (tensorEl1 tensorEl2 : StablehloType) : Bool :=
  match tensorEl1, tensorEl2 with
  | .integer .., .integer .. => true
  | .float _, .float _ => true
  | .complex _, .complex _ => true
  | _, _ =>
    -- Quantized types are of one kind when they stand for numbers of the same type.
    match tensorEl1.expressedType, tensorEl2.expressedType with
    | some expressedType1, some expressedType2 => decide (expressedType1 = expressedType2)
    | _, _ => false

/-- The element type of the first type can be promoted to that of the second one. -/
def isPromotableElementType (type1 type2 : StablehloType) (ignoreFpPrecision : Bool) :
    Except InferenceFailure Bool :=
  match type1.shaped, type2.shaped with
  | some (_, tensorEl1), some (_, tensorEl2) =>
    if !matchesType tensorEl1 tensorEl2 then .ok false
    else if ignoreFpPrecision && tensorEl1.isFloat then .ok true
    else do
      let width1 ← getBitWidth tensorEl1
      let width2 ← getBitWidth tensorEl2
      .ok (width1 ≤ width2)
  | _, _ => .ok false

/-- The computation of a reduction: the types of its parameters, and of what it returns if it has
a terminator. -/
structure ReducerBlock where
  parameterTypes : List StablehloType
  returnTypes : Option (List StablehloType)

/-- How many of the dimensions of an argument are found among the allowed ones, in order. -/
def matchedDims : List Int64 → List Int64 → Nat
  | allowed :: allowedDimensions, dim :: dims =>
    if verifyCompatibleDims allowed dim then matchedDims allowedDimensions dims + 1
    else matchedDims allowedDimensions (dim :: dims)
  | _, _ => 0

/-- The type of a value the source reads without a check. -/
def getType (types : List StablehloType) (i : Nat) : Except InferenceFailure StablehloType :=
  match types[i]? with
  | some type => .ok type
  | none => .error .undefinedBehavior

/-- Both types are shaped, with the same element type. -/
def SameElementType (type1 type2 : StablehloType) : Prop :=
  ∃ shape1 shape2 elementType, type1.shaped = some (shape1, elementType) ∧
    type2.shaped = some (shape2, elementType)

/-- Types that are compared with the precision of floats have the same element type. -/
theorem sameElementType_of_compatible {type1 type2 : StablehloType}
    (compatible : compatibleShapeAndElementType type1 type2 false = true) :
    SameElementType type1 type2 := by
  rw [compatibleShapeAndElementType, Bool.and_eq_true] at compatible
  obtain ⟨-, elementTypes⟩ := compatible
  unfold tensorsHaveSameElType at elementTypes
  split at elementTypes
  · next shape1 elementType shape2 other first second =>
    simp only [Bool.false_and, Bool.false_or, decide_eq_true_eq] at elementTypes
    exact ⟨shape1, shape2, elementType, first, elementTypes ▸ second⟩
  · cases elementTypes

section Verifier

variable [TypePrinter]

/-- Verify the dimensions of the argument that stands for the elements of an input. -/
def verifyReducerArgument (blockArgType : StablehloType) (argIdx inputIdx : Nat)
    (allowedDimensions : List Int64) : Except InferenceFailure Unit :=
  match blockArgType with
  | .rankedTensor argShape _ _ => do
    require (argShape.length ≤ allowedDimensions.length)
      (s!"The rank of reduction-region's argument at index {argIdx} is expected to be <= " ++
        s!"{allowedDimensions.length}, got {argShape.length}")
    require (matchedDims allowedDimensions argShape == argShape.length)
      (s!"The shape of reduction-region's argument at index {argIdx} is not compatible with " ++
        s!"that of reduce-op's input-parameter at index {inputIdx}")
  -- The source asserts that the type is ranked.
  | _ => .error .undefinedBehavior

/-- Verify what a computation does with one of the inputs. -/
def verifyReducerInput (parameterTypes : List StablehloType) (numInputs : Nat)
    (allowedDimensions : List Int64) (inputIdx : Nat)
    (accumulatorSubShape inputType initValueType : StablehloType) :
    Except InferenceFailure Unit := do
  let argIdx := numInputs + inputIdx
  let accumulatorArgType ← getType parameterTypes inputIdx
  let blockArgType ← getType parameterTypes argIdx
  require (compatibleShapeAndElementType accumulatorSubShape accumulatorArgType false)
    (s!"The type of reduction-region's parameter at index {inputIdx} is different than the " ++
      s!"corresponding result type: {debugString accumulatorArgType} vs " ++
      s!"{debugString accumulatorSubShape}")
  require (compatibleShapeAndElementType accumulatorSubShape blockArgType true)
    (s!"The type of reduction-region's parameter at index {argIdx} is different than the " ++
      s!"corresponding result type: {debugString blockArgType} vs " ++
      s!"{debugString accumulatorSubShape}")
  require (compatibleShape initValueType accumulatorSubShape)
    (s!"The shape of reduction-region's result type at index {inputIdx} differs from the op's " ++
      s!"corresponding init-value type: {debugString accumulatorSubShape} vs " ++
      s!"{debugString initValueType}")
  let initValuePromotable ← isPromotableElementType initValueType accumulatorSubShape true
  require initValuePromotable
    (s!"The element-type of reduction-region's result type at index {inputIdx} is expected to " ++
      s!"be promotable from the op's corresponding init-value element-type: " ++
      s!"{debugString accumulatorSubShape} vs {debugString initValueType}")
  let inputPromotable ← isPromotableElementType inputType blockArgType true
  require inputPromotable
    (s!"The element-type of reduction-region's argument at index {argIdx} is expected to be " ++
      s!"promotable from {debugString inputType.getElementTypeOrSelf}, but got " ++
      s!"{debugString blockArgType.getElementTypeOrSelf}")
  verifyReducerArgument blockArgType argIdx inputIdx allowedDimensions

/-- Verify what a computation does with each of the inputs. -/
def verifyReducerInputs (parameterTypes : List StablehloType) (numInputs : Nat)
    (allowedDimensions : List Int64) :
    Nat → List StablehloType → List StablehloType → List StablehloType →
      Except InferenceFailure Unit
  | inputIdx, accumulatorSubShape :: accumulatorSubShapes, inputType :: inputTypes,
    initValueType :: initValueTypes => do
    verifyReducerInput parameterTypes numInputs allowedDimensions inputIdx accumulatorSubShape
      inputType initValueType
    verifyReducerInputs parameterTypes numInputs allowedDimensions (inputIdx + 1)
      accumulatorSubShapes inputTypes initValueTypes
  | _, _, [], _ => .ok ()
  -- The source reads a result or an init value that does not exist.
  | _, _, _, _ => .error .undefinedBehavior

/-- Verify the computation of a reduction of inputs. -/
def verifyReducerShape (block : ReducerBlock) (inputTypes initValueTypes : List StablehloType)
    (allowedDimensions : List Int64) : Except InferenceFailure Unit := do
  let numInputs := inputTypes.length
  require (block.parameterTypes.length == numInputs * 2)
    (s!"Reduction-region must take {numInputs * 2} parameters, but takes " ++
      s!"{block.parameterTypes.length} parameter(s)")
  match block.returnTypes with
  | none => .error (.error "The reduction-region expected to have a terminator")
  | some returnTypes =>
    require (!returnTypes.isEmpty) "The reduction-region expected to return some value(s)"
    require (returnTypes.length == numInputs)
      (s!"Reduction-region here must produce {numInputs} tensors, but produces " ++
        s!"{returnTypes.length} instead")
    match returnTypes.find? fun type => type.shaped.isNone with
    | some type =>
      .error (.error (s!"Reduction-region here must produce tensor-typed result(s), but " ++
        s!"produces {debugString type} instead"))
    | none =>
      verifyReducerInputs block.parameterTypes numInputs allowedDimensions 0 returnTypes inputTypes
        initValueTypes

variable {parameterTypes : List StablehloType} {allowedDimensions : List Int64}

/-- What is returned for an input has the element type of the parameter for it. -/
theorem verifyReducerInputs_spec {numInputs start : Nat}
    {accumulatorSubShapes inputTypes initValueTypes : List StablehloType}
    (verified : verifyReducerInputs parameterTypes numInputs allowedDimensions start
      accumulatorSubShapes inputTypes initValueTypes = .ok ()) {i : Nat}
    (below : i < inputTypes.length) :
    ∃ returnType parameterType, accumulatorSubShapes[i]? = some returnType ∧
      parameterTypes[start + i]? = some parameterType ∧
      SameElementType returnType parameterType := by
  induction inputTypes generalizing start accumulatorSubShapes initValueTypes i with
  | nil => cases below
  | cons inputType inputTypes ih =>
    -- There is a result and an init value for the input, or they would not have been read.
    cases accumulatorSubShapes with
    | nil => simp [verifyReducerInputs] at verified
    | cons returnType accumulatorSubShapes =>
      cases initValueTypes with
      | nil => simp [verifyReducerInputs] at verified
      | cons initValueType initValueTypes =>
        obtain ⟨first, rest⟩ := Fallible.check_bind_eq_ok.mp verified
        cases i with
        | zero =>
          obtain ⟨parameterType, read, checked⟩ := Fallible.bind_eq_ok.mp first
          obtain ⟨_, -, checked⟩ := Fallible.bind_eq_ok.mp checked
          obtain ⟨compatible, -⟩ := Fallible.check_bind_eq_ok.mp checked
          rw [require_eq_ok] at compatible
          refine ⟨returnType, parameterType, rfl, ?_, sameElementType_of_compatible compatible⟩
          unfold getType at read
          split at read
          · next found =>
            cases read
            exact found
          · cases read
        | succ i =>
          have found := ih rest (by simpa using below)
          rwa [Nat.add_right_comm] at found

/-- A computation that is verified is one for at least one input, and takes and returns as many
values as it should. -/
theorem verifyReducerShape_spec {block : ReducerBlock}
    {inputTypes initValueTypes : List StablehloType}
    (verified : verifyReducerShape block inputTypes initValueTypes allowedDimensions = .ok ()) :
    inputTypes ≠ [] ∧ block.parameterTypes.length = inputTypes.length * 2 ∧
    ∃ returnTypes, block.returnTypes = some returnTypes ∧
      returnTypes.length = inputTypes.length ∧
      ∀ i < inputTypes.length, ∃ returnType parameterType, returnTypes[i]? = some returnType ∧
        block.parameterTypes[i]? = some parameterType ∧
        SameElementType returnType parameterType := by
  obtain ⟨parameters, rest⟩ := Fallible.check_bind_eq_ok.mp verified
  rw [require_eq_ok, beq_iff_eq] at parameters
  split at rest
  · cases rest
  · next returnTypes terminated =>
    obtain ⟨some, rest⟩ := Fallible.check_bind_eq_ok.mp rest
    obtain ⟨count, rest⟩ := Fallible.check_bind_eq_ok.mp rest
    rw [require_eq_ok] at some count
    rw [beq_iff_eq] at count
    refine ⟨?_, parameters, returnTypes, terminated, count, fun i below => ?_⟩
    · -- Something is returned, and as much as there are inputs.
      rintro rfl
      rw [List.length_nil, List.length_eq_zero_iff] at count
      rw [count] at some
      cases some
    · split at rest
      · cases rest
      · have found := verifyReducerInputs_spec rest below
        rwa [Nat.zero_add] at found

end Verifier

end Stablehlo
