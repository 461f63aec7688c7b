import Stablehlo.Vhlo.Version

/-! Types and attributes of the VHLO dialect. -/

namespace Stablehlo

/-- The floating point formats. -/
inductive FloatSemantics where
  | bFloat
  | ieeeHalf
  | ieeeSingle
  | ieeeDouble
  | float4E2M1FN
  | float6E2M3FN
  | float6E3M2FN
  | float8E3M4
  | float8E4M3
  | float8E4M3FN
  | float8E5M2
  | float8E4M3FNUZ
  | float8E4M3B11FNUZ
  | float8E5M2FNUZ
  | float8E8M0FNU
  | floatTF32
  deriving DecidableEq, Repr

/-- The number of bits of a format. -/
def FloatSemantics.sizeInBits : FloatSemantics → Nat
  | .float4E2M1FN => 4
  | .float6E2M3FN | .float6E3M2FN => 6
  | .float8E3M4 | .float8E4M3 | .float8E4M3FN | .float8E5M2 | .float8E4M3FNUZ
  | .float8E4M3B11FNUZ | .float8E5M2FNUZ | .float8E8M0FNU => 8
  | .bFloat | .ieeeHalf => 16
  | .floatTF32 => 19
  | .ieeeSingle => 32
  | .ieeeDouble => 64

/-- A number in one of the formats. -/
structure APFloat where
  /-- The format. -/
  semantics : FloatSemantics
  /-- The number, as the bits of its format. -/
  bits : BitVec semantics.sizeInBits
  deriving DecidableEq

/-- Whether a number is zero, of either sign. -/
def APFloat.isZero (value : APFloat) : Bool :=
  match value.semantics with
  -- This format has no zero.
  | .float8E8M0FNU => false
  -- These formats have one zero; with the sign it is not a number.
  | .float8E4M3FNUZ | .float8E4M3B11FNUZ | .float8E5M2FNUZ => value.bits.toNat == 0
  | semantics => value.bits.toNat % 2 ^ (semantics.sizeInBits - 1) == 0

/-- An integer of any width. -/
structure APInt where
  /-- The number of bits. -/
  width : Nat
  /-- The bits. -/
  bits : BitVec width
  deriving DecidableEq

/-- Whether an integer type says how its values are signed. -/
inductive Signedness where
  | signless
  | signed
  | unsigned
  deriving DecidableEq, Repr

/-- The element types of dense elements. -/
inductive DenseElementType where
  /-- An integer type. -/
  | integer (signedness : Signedness) (width : Nat)
  /-- A floating point type. -/
  | float (semantics : FloatSemantics)
  /-- The index type. -/
  | index
  /-- A complex type. -/
  | complex (elementType : DenseElementType)
  deriving DecidableEq, Repr

/-- Elements of a tensor of a static shape, as they are stored. -/
structure DenseElementsAttr where
  /-- The sizes of the dimensions. -/
  shape : List Int64
  /-- The type of the elements. -/
  elementType : DenseElementType
  /-- The bytes of the elements, or of the only one for a splat. -/
  rawData : List UInt8
  deriving DecidableEq

/-- The types that have no parameters. -/
inductive VhloScalarType where
  | booleanV1
  | floatBF16V1
  | floatF16V1
  | floatF32V1
  | floatF64V1
  | floatF4E2M1FNV1
  | floatF6E2M3FNV1
  | floatF6E3M2FNV1
  | floatF8E3M4V1
  | floatF8E4M3V1
  | floatF8E4M3FNV1
  | floatF8E5M2V1
  | floatF8E4M3FNUZV1
  | floatF8E4M3B11FNUZV1
  | floatF8E5M2FNUZV1
  | floatF8E8M0FNUV1
  | floatTF32V1
  | indexV1
  | integerSI2V1
  | integerSI4V1
  | integerSI8V1
  | integerSI16V1
  | integerSI32V1
  | integerSI64V1
  | integerUI2V1
  | integerUI4V1
  | integerUI8V1
  | integerUI16V1
  | integerUI32V1
  | integerUI64V1
  | noneV1
  | tokenV1
  | witnessV1
  deriving DecidableEq, Repr

/-- VHLO `comparison_direction_v1`. -/
inductive ComparisonDirectionV1 where
  | eq
  | ne
  | ge
  | gt
  | le
  | lt
  deriving DecidableEq, Repr

/-- VHLO `comparison_type_v1`. -/
inductive ComparisonTypeV1 where
  | noType
  | float
  | totalOrder
  | signed
  | unsigned
  deriving DecidableEq, Repr

/-- VHLO `api_version_v1`. -/
inductive CustomCallApiVersionV1 where
  | unspecified
  | original
  | statusReturning
  | statusReturningUnified
  | typedFfi
  deriving DecidableEq, Repr

/-- VHLO `fft_type_v1`. -/
inductive FftTypeV1 where
  | fft
  | ifft
  | rfft
  | irfft
  deriving DecidableEq, Repr

/-- VHLO `precision_v1`. -/
inductive PrecisionV1 where
  | default
  | high
  | highest
  deriving DecidableEq, Repr

/-- VHLO `rng_algorithm_v1`. -/
inductive RngAlgorithmV1 where
  | default
  | threeFry
  | philox
  deriving DecidableEq, Repr

/-- VHLO `rng_distribution_v1`. -/
inductive RngDistributionV1 where
  | uniform
  | normal
  deriving DecidableEq, Repr

/-- VHLO `transpose_v1`. -/
inductive TransposeV1 where
  | transposeInvalid
  | noTranspose
  | transpose
  | adjoint
  deriving DecidableEq, Repr

/-- VHLO `result_accuracy_mode_v1`. -/
inductive ResultAccuracyModeV1 where
  | default
  | highest
  | tolerance
  deriving DecidableEq, Repr

/-- The attributes that are a value of an enumeration. -/
inductive VhloEnumAttr where
  | comparisonDirectionV1 (value : ComparisonDirectionV1)
  | comparisonTypeV1 (value : ComparisonTypeV1)
  | customCallApiVersionV1 (value : CustomCallApiVersionV1)
  | fftTypeV1 (value : FftTypeV1)
  | precisionV1 (value : PrecisionV1)
  | rngAlgorithmV1 (value : RngAlgorithmV1)
  | rngDistributionV1 (value : RngDistributionV1)
  | transposeV1 (value : TransposeV1)
  | resultAccuracyModeV1 (value : ResultAccuracyModeV1)
  deriving DecidableEq, Repr

mutual

/-- A VHLO type. -/
inductive VhloType where
  | scalar (kind : VhloScalarType)
  | complexV1 (elementType : VhloType)
  | functionV1 (inputs outputs : List VhloType)
  | rankedTensorV1 (shape : List Int64) (elementType : VhloType) (encoding : Option VhloAttr)
  | futureV1 (types : List VhloType)
  | tupleV1 (types : List VhloType)
  | uniformQuantizedV1 (flags : UInt32) (storageType expressedType : VhloType) (scale : APFloat)
      (zeroPoint storageTypeMin storageTypeMax : Int64)
  | uniformQuantizedPerAxisV1 (flags : UInt32) (storageType expressedType : VhloType)
      (quantizedDimension : Int32) (scales : List APFloat) (zeroPoints : List Int64)
      (storageTypeMin storageTypeMax : Int64)
  | unrankedTensorV1 (elementType : VhloType)
  | rankedBufferV1 (shape : List Int64) (elementType : VhloType)

/-- A VHLO attribute. -/
inductive VhloAttr where
  | arrayV1 (value : List VhloAttr)
  | booleanV1 (value : Bool)
  | dictionaryV1 (value : List (VhloAttr × VhloAttr))
  | floatV1 (type : VhloType) (value : APFloat)
  | integerV1 (type : VhloType) (value : APInt)
  | outputOperandAliasV1 (outputTupleIndices : List Int64) (operandIndex : Int64)
      (operandTupleIndices : List Int64)
  | stringV1 (value : String)
  | tensorV1 (type : VhloType) (data : DenseElementsAttr)
  | typeV1 (value : VhloType)
  | typeExtensionsV1 (bounds : List Int64)
  | enumV1 (value : VhloEnumAttr)
  | resultAccuracyV1 (atol rtol : APFloat) (ulps : Int64) (mode : VhloAttr)
  | subAxisInfoV1 (preSize size : Int64)
  | axisRefV1 (name : VhloAttr) (subAxisInfo : Option VhloAttr)
  | replicaGroupMeshAxesV1 (mesh axes : VhloAttr)
  | meshAxisV1 (name : VhloAttr) (size : Int64)
  | meshV1 (axes : VhloAttr) (deviceIds : Option VhloAttr)

end

/-- The versions that have a type without parameters. -/
def VhloScalarType.versions : VhloScalarType → VersionRange
  | .floatF4E2M1FNV1 | .floatF6E2M3FNV1 | .floatF6E3M2FNV1 | .floatF8E8M0FNUV1 => .since ⟨1, 8, 0⟩
  | .floatF8E3M4V1 | .floatF8E4M3V1 => .since ⟨1, 7, 0⟩
  | .floatTF32V1 | .noneV1 => .since ⟨1, 6, 0⟩
  | .integerSI2V1 | .integerUI2V1 => .since ⟨1, 2, 0⟩
  | .floatF8E4M3B11FNUZV1 => .since ⟨0, 11, 0⟩
  | .floatF8E4M3FNUZV1 | .floatF8E5M2FNUZV1 => .since ⟨0, 10, 0⟩
  | .booleanV1 | .floatBF16V1 | .floatF16V1 | .floatF32V1 | .floatF64V1 | .floatF8E4M3FNV1
  | .floatF8E5M2V1 | .indexV1 | .integerSI4V1 | .integerSI8V1 | .integerSI16V1 | .integerSI32V1
  | .integerSI64V1 | .integerUI4V1 | .integerUI8V1 | .integerUI16V1 | .integerUI32V1
  | .integerUI64V1 | .tokenV1 | .witnessV1 => .since ⟨0, 9, 0⟩

/-- The versions that have a type, whatever its parameters are. -/
def VhloType.versions : VhloType → VersionRange
  | .scalar kind => kind.versions
  | .complexV1 .. | .functionV1 .. | .rankedTensorV1 .. | .tupleV1 .. | .uniformQuantizedV1 ..
  | .unrankedTensorV1 .. => .since ⟨0, 9, 0⟩
  | .futureV1 .. => .since ⟨1, 15, 0⟩
  | .uniformQuantizedPerAxisV1 .. => .since ⟨0, 18, 0⟩
  | .rankedBufferV1 .. => .since ⟨1, 13, 0⟩

/-- The versions that have an attribute, whatever its parameters are. -/
def VhloAttr.versions : VhloAttr → VersionRange
  | .enumV1 (.resultAccuracyModeV1 _) | .resultAccuracyV1 .. => .since ⟨1, 9, 0⟩
  | .subAxisInfoV1 .. | .axisRefV1 .. | .replicaGroupMeshAxesV1 .. | .meshAxisV1 ..
  | .meshV1 .. => .since ⟨1, 16, 0⟩
  | .arrayV1 .. | .booleanV1 .. | .dictionaryV1 .. | .floatV1 .. | .integerV1 ..
  | .outputOperandAliasV1 .. | .stringV1 .. | .tensorV1 .. | .typeV1 .. | .typeExtensionsV1 ..
  | .enumV1 _ => .since ⟨0, 9, 0⟩

/-- A type or an attribute. -/
inductive VhloNode where
  | type (value : VhloType)
  | attr (value : VhloAttr)

namespace VhloNode

/-- The versions that have a type or an attribute. -/
def versions : VhloNode → VersionRange
  | .type value => value.versions
  | .attr value => value.versions

/-- The types and attributes directly inside a type or an attribute. -/
def members : VhloNode → List VhloNode
  | .type value =>
    match value with
    | .scalar _ => []
    | .complexV1 elementType | .unrankedTensorV1 elementType
    | .rankedBufferV1 _ elementType => [.type elementType]
    | .functionV1 inputs outputs => (inputs ++ outputs).map .type
    | .rankedTensorV1 _ elementType encoding => .type elementType :: encoding.toList.map .attr
    | .futureV1 types | .tupleV1 types => types.map .type
    | .uniformQuantizedV1 _ storageType expressedType ..
    | .uniformQuantizedPerAxisV1 _ storageType expressedType .. =>
      [.type storageType, .type expressedType]
  | .attr value =>
    match value with
    | .booleanV1 _ | .outputOperandAliasV1 .. | .stringV1 _ | .typeExtensionsV1 _ | .enumV1 _
    | .subAxisInfoV1 .. => []
    | .arrayV1 elements => elements.map .attr
    | .dictionaryV1 entries => entries.flatMap fun entry => [.attr entry.1, .attr entry.2]
    | .floatV1 ofType _ | .integerV1 ofType _ | .tensorV1 ofType _ | .typeV1 ofType =>
      [.type ofType]
    | .resultAccuracyV1 _ _ _ mode => [.attr mode]
    | .axisRefV1 name subAxisInfo => .attr name :: subAxisInfo.toList.map .attr
    | .replicaGroupMeshAxesV1 mesh axes => [.attr mesh, .attr axes]
    | .meshAxisV1 name _ => [.attr name]
    | .meshV1 axes deviceIds => .attr axes :: deviceIds.toList.map .attr

/-- Members are smaller. -/
theorem sizeOf_lt_of_mem {node member : VhloNode} (listed : member ∈ node.members) :
    sizeOf member < sizeOf node := by
  have types : ∀ {items : List VhloType}, member ∈ items.map VhloNode.type →
      sizeOf member ≤ sizeOf items := by
    intro items inItems
    obtain ⟨item, itemListed, rfl⟩ := List.mem_map.mp inItems
    have := List.sizeOf_lt_of_mem itemListed
    simp only [type.sizeOf_spec]
    omega
  have attrs : ∀ {items : List VhloAttr}, member ∈ items.map VhloNode.attr →
      sizeOf member ≤ sizeOf items := by
    intro items inItems
    obtain ⟨item, itemListed, rfl⟩ := List.mem_map.mp inItems
    have := List.sizeOf_lt_of_mem itemListed
    simp only [attr.sizeOf_spec]
    omega
  have option : ∀ {item : Option VhloAttr}, member ∈ item.toList.map VhloNode.attr →
      sizeOf member ≤ sizeOf item := by
    intro item inItem
    cases item with
    | none => simp at inItem
    | some item =>
      simp only [Option.toList_some, List.map_singleton, List.mem_singleton] at inItem
      simp only [inItem, attr.sizeOf_spec, Option.some.sizeOf_spec]
      omega
  cases node with
  | type value =>
    cases value with
    | functionV1 inputs outputs =>
      simp only [members, List.map_append, List.mem_append] at listed
      simp only [type.sizeOf_spec, VhloType.functionV1.sizeOf_spec]
      rcases listed with input | output
      · have := types input
        omega
      · have := types output
        omega
    | rankedTensorV1 shape elementType encoding =>
      simp only [members, List.mem_cons] at listed
      simp only [type.sizeOf_spec, VhloType.rankedTensorV1.sizeOf_spec]
      rcases listed with rfl | inEncoding
      · simp only [type.sizeOf_spec]
        omega
      · have := option inEncoding
        omega
    | futureV1 items | tupleV1 items =>
      have := types listed
      simp only [type.sizeOf_spec, VhloType.futureV1.sizeOf_spec, VhloType.tupleV1.sizeOf_spec]
      omega
    | scalar kind => cases listed
    | complexV1 | unrankedTensorV1 | rankedBufferV1 | uniformQuantizedV1
    | uniformQuantizedPerAxisV1 =>
      simp only [members, List.mem_cons, List.not_mem_nil, or_false] at listed
      rcases listed with rfl | rfl <;> simp <;> omega
  | attr value =>
    cases value with
    | booleanV1 | outputOperandAliasV1 | stringV1 | typeExtensionsV1 | enumV1 | subAxisInfoV1 =>
      cases listed
    | arrayV1 elements =>
      have := attrs listed
      simp only [attr.sizeOf_spec, VhloAttr.arrayV1.sizeOf_spec]
      omega
    | dictionaryV1 entries =>
      obtain ⟨⟨key, entry⟩, inEntries, inEntry⟩ := List.mem_flatMap.mp listed
      have := List.sizeOf_lt_of_mem inEntries
      simp only [Prod.mk.sizeOf_spec] at this
      simp only [List.mem_cons, List.not_mem_nil, or_false] at inEntry
      rcases inEntry with rfl | rfl <;>
        simp only [attr.sizeOf_spec, VhloAttr.dictionaryV1.sizeOf_spec] <;> omega
    | axisRefV1 name subAxisInfo =>
      simp only [members, List.mem_cons] at listed
      simp only [attr.sizeOf_spec, VhloAttr.axisRefV1.sizeOf_spec]
      rcases listed with rfl | inSubAxis
      · simp only [attr.sizeOf_spec]
        omega
      · have := option inSubAxis
        omega
    | meshV1 axes deviceIds =>
      simp only [members, List.mem_cons] at listed
      simp only [attr.sizeOf_spec, VhloAttr.meshV1.sizeOf_spec]
      rcases listed with rfl | inDeviceIds
      · simp only [attr.sizeOf_spec]
        omega
      · have := option inDeviceIds
        omega
    | floatV1 | integerV1 | tensorV1 | typeV1 | resultAccuracyV1 | replicaGroupMeshAxesV1
    | meshAxisV1 =>
      simp only [members, List.mem_cons, List.not_mem_nil, or_false] at listed
      rcases listed with rfl | rfl <;> simp <;> omega

/-- What holds of a type or an attribute when it does of its members holds of all of them. -/
theorem induction {P : VhloNode → Prop}
    (step : ∀ node : VhloNode, (∀ member ∈ node.members, P member) → P node) (node : VhloNode) :
    P node := by
  induction measured : sizeOf node using Nat.strongRecOn generalizing node with
  | _ size ih =>
    exact step node fun member listed =>
      ih (sizeOf member) (measured ▸ sizeOf_lt_of_mem listed) member rfl

end VhloNode

-- Two types or attributes are compared part by part.
mutual

/-- Whether two types are the same. -/
def VhloType.same : VhloType → VhloType → Bool
  | .scalar kind, .scalar kind' => kind == kind'
  | .complexV1 elementType, .complexV1 elementType'
  | .unrankedTensorV1 elementType, .unrankedTensorV1 elementType' => elementType.same elementType'
  | .functionV1 inputs outputs, .functionV1 inputs' outputs' =>
    VhloType.allSame inputs inputs' && VhloType.allSame outputs outputs'
  | .rankedTensorV1 shape elementType encoding, .rankedTensorV1 shape' elementType' encoding' =>
    shape == shape' && elementType.same elementType' && VhloAttr.optionSame encoding encoding'
  | .futureV1 types, .futureV1 types' | .tupleV1 types, .tupleV1 types' =>
    VhloType.allSame types types'
  | .uniformQuantizedV1 flags storageType expressedType scale zeroPoint min max,
    .uniformQuantizedV1 flags' storageType' expressedType' scale' zeroPoint' min' max' =>
    storageType.same storageType' && expressedType.same expressedType' &&
      (flags, scale, zeroPoint, min, max) == (flags', scale', zeroPoint', min', max')
  | .uniformQuantizedPerAxisV1 flags storageType expressedType dimension scales zeroPoints min max,
    .uniformQuantizedPerAxisV1 flags' storageType' expressedType' dimension' scales' zeroPoints'
      min' max' =>
    storageType.same storageType' && expressedType.same expressedType' &&
      (flags, dimension, scales, zeroPoints, min, max) ==
        (flags', dimension', scales', zeroPoints', min', max')
  | .rankedBufferV1 shape elementType, .rankedBufferV1 shape' elementType' =>
    shape == shape' && elementType.same elementType'
  | _, _ => false
termination_by structural first => first

/-- Whether two attributes are the same. -/
def VhloAttr.same : VhloAttr → VhloAttr → Bool
  | .arrayV1 value, .arrayV1 value' => VhloAttr.allSame value value'
  | .booleanV1 value, .booleanV1 value' => value == value'
  | .dictionaryV1 value, .dictionaryV1 value' => VhloAttr.entriesSame value value'
  | .floatV1 type value, .floatV1 type' value' => type.same type' && value == value'
  | .integerV1 type value, .integerV1 type' value' => type.same type' && value == value'
  | .outputOperandAliasV1 outputs operand operands,
    .outputOperandAliasV1 outputs' operand' operands' =>
    (outputs, operand, operands) == (outputs', operand', operands')
  | .stringV1 value, .stringV1 value' => value == value'
  | .tensorV1 type data, .tensorV1 type' data' => type.same type' && data == data'
  | .typeV1 value, .typeV1 value' => value.same value'
  | .typeExtensionsV1 bounds, .typeExtensionsV1 bounds' => bounds == bounds'
  | .enumV1 value, .enumV1 value' => value == value'
  | .resultAccuracyV1 atol rtol ulps mode, .resultAccuracyV1 atol' rtol' ulps' mode' =>
    (atol, rtol, ulps) == (atol', rtol', ulps') && mode.same mode'
  | .subAxisInfoV1 preSize size, .subAxisInfoV1 preSize' size' =>
    (preSize, size) == (preSize', size')
  | .axisRefV1 name subAxisInfo, .axisRefV1 name' subAxisInfo' =>
    name.same name' && VhloAttr.optionSame subAxisInfo subAxisInfo'
  | .replicaGroupMeshAxesV1 mesh axes, .replicaGroupMeshAxesV1 mesh' axes' =>
    mesh.same mesh' && axes.same axes'
  | .meshAxisV1 name size, .meshAxisV1 name' size' => name.same name' && size == size'
  | .meshV1 axes deviceIds, .meshV1 axes' deviceIds' =>
    axes.same axes' && VhloAttr.optionSame deviceIds deviceIds'
  | _, _ => false
termination_by structural first => first

/-- Whether two lists of types are the same. -/
def VhloType.allSame : List VhloType → List VhloType → Bool
  | [], [] => true
  | type :: types, type' :: types' => type.same type' && VhloType.allSame types types'
  | _, _ => false
termination_by structural first => first

/-- Whether two lists of attributes are the same. -/
def VhloAttr.allSame : List VhloAttr → List VhloAttr → Bool
  | [], [] => true
  | attr :: attrs, attr' :: attrs' => attr.same attr' && VhloAttr.allSame attrs attrs'
  | _, _ => false
termination_by structural first => first

/-- Whether two optional attributes are the same. -/
def VhloAttr.optionSame : Option VhloAttr → Option VhloAttr → Bool
  | none, none => true
  | some attr, some attr' => attr.same attr'
  | _, _ => false
termination_by structural first => first

/-- Whether two dictionaries are the same. -/
def VhloAttr.entriesSame : List (VhloAttr × VhloAttr) → List (VhloAttr × VhloAttr) → Bool
  | [], [] => true
  | (key, value) :: entries, (key', value') :: entries' =>
    key.same key' && value.same value' && VhloAttr.entriesSame entries entries'
  | _, _ => false
termination_by structural first => first

end

namespace VhloNode

/-- Whether two types or attributes are the same. -/
def same : VhloNode → VhloNode → Bool
  | .type value, .type other => value.same other
  | .attr value, .attr other => value.same other
  | _, _ => false

/-- What is compared element by element is the same when its elements compare as the same. -/
theorem allSame_iff :
    (∀ types others : List VhloType,
      (∀ node ∈ types.map VhloNode.type, ∀ other, node.same other = true ↔ node = other) →
      (VhloType.allSame types others = true ↔ types = others)) ∧
    (∀ attrs others : List VhloAttr,
      (∀ node ∈ attrs.map VhloNode.attr, ∀ other, node.same other = true ↔ node = other) →
      (VhloAttr.allSame attrs others = true ↔ attrs = others)) ∧
    (∀ attr others : Option VhloAttr,
      (∀ node ∈ attr.toList.map VhloNode.attr, ∀ other, node.same other = true ↔ node = other) →
      (VhloAttr.optionSame attr others = true ↔ attr = others)) ∧
    ∀ entries others : List (VhloAttr × VhloAttr),
      (∀ node ∈ entries.flatMap fun entry => [VhloNode.attr entry.1, VhloNode.attr entry.2],
        ∀ other, node.same other = true ↔ node = other) →
      (VhloAttr.entriesSame entries others = true ↔ entries = others) := by
  refine ⟨fun types => ?_, fun attrs => ?_, fun attr => ?_, fun entries => ?_⟩
  · induction types with
    | nil => intro others _; cases others <;> simp [VhloType.allSame]
    | cons type types ih =>
      intro others compared
      cases others with
      | nil => simp [VhloType.allSame]
      | cons other others =>
        rw [List.map_cons, List.forall_mem_cons] at compared
        have first := compared.1 (.type other)
        rw [same, VhloNode.type.injEq] at first
        rw [VhloType.allSame, Bool.and_eq_true, first, ih others compared.2, List.cons.injEq]
  · induction attrs with
    | nil => intro others _; cases others <;> simp [VhloAttr.allSame]
    | cons attr attrs ih =>
      intro others compared
      cases others with
      | nil => simp [VhloAttr.allSame]
      | cons other others =>
        rw [List.map_cons, List.forall_mem_cons] at compared
        have first := compared.1 (.attr other)
        rw [same, VhloNode.attr.injEq] at first
        rw [VhloAttr.allSame, Bool.and_eq_true, first, ih others compared.2, List.cons.injEq]
  · intro others compared
    cases attr <;> cases others
    case some.some attr other =>
      have first := compared (.attr attr) (by simp) (.attr other)
      rw [same, VhloNode.attr.injEq] at first
      rw [VhloAttr.optionSame, first, Option.some.injEq]
    all_goals simp [VhloAttr.optionSame]
  · induction entries with
    | nil => intro others _; cases others <;> simp [VhloAttr.entriesSame]
    | cons entry entries ih =>
      intro others compared
      cases others with
      | nil => simp [VhloAttr.entriesSame]
      | cons other others =>
        rw [List.flatMap_cons, List.forall_mem_append] at compared
        have key := compared.1 (.attr entry.1) (by simp) (.attr other.1)
        have value := compared.1 (.attr entry.2) (by simp) (.attr other.2)
        rw [same, VhloNode.attr.injEq] at key value
        rw [VhloAttr.entriesSame, Bool.and_eq_true, Bool.and_eq_true, key, value,
          ih others compared.2, List.cons.injEq, Prod.ext_iff]

/-- A type or an attribute compares as the same when its members do. -/
theorem same_iff_of_members (node : VhloNode)
    (compared : ∀ member ∈ node.members, ∀ other, member.same other = true ↔ member = other)
    (other : VhloNode) : node.same other = true ↔ node = other := by
  obtain ⟨types, attributes, optional, entries⟩ := allSame_iff
  have typeMember : ∀ inner, VhloNode.type inner ∈ node.members → ∀ otherInner,
      inner.same otherInner = true ↔ inner = otherInner := by
    intro inner listed otherInner
    have := compared _ listed (.type otherInner)
    rwa [same, VhloNode.type.injEq] at this
  have attrMember : ∀ inner, VhloNode.attr inner ∈ node.members → ∀ otherInner,
      inner.same otherInner = true ↔ inner = otherInner := by
    intro inner listed otherInner
    have := compared _ listed (.attr otherInner)
    rwa [same, VhloNode.attr.injEq] at this
  cases node with
  | type value =>
    cases other with
    | attr => simp [same]
    | type other =>
      rw [same, VhloNode.type.injEq]
      cases value with
      | functionV1 inputs outputs =>
        rw [members, List.map_append, List.forall_mem_append] at compared
        cases other <;> simp [VhloType.same, types inputs _ compared.1, types outputs _ compared.2]
      | rankedTensorV1 shape elementType encoding =>
        rw [members, List.forall_mem_cons] at compared
        have element := typeMember elementType (by simp [members])
        cases other <;>
          simp [VhloType.same, element, optional encoding _ compared.2, and_assoc]
      | futureV1 items | tupleV1 items =>
        cases other <;> simp [VhloType.same, types items _ compared]
      | uniformQuantizedV1 _ storageType expressedType
      | uniformQuantizedPerAxisV1 _ storageType expressedType =>
        have storage := typeMember storageType (by simp [members])
        have expressed := typeMember expressedType (by simp [members])
        cases other <;>
          simp [VhloType.same, storage, expressed, and_assoc, and_comm, and_left_comm]
      | complexV1 elementType | unrankedTensorV1 elementType | rankedBufferV1 _ elementType =>
        have element := typeMember elementType (by simp [members])
        cases other <;> simp [VhloType.same, element]
      | scalar kind => cases other <;> simp [VhloType.same]
  | attr value =>
    cases other with
    | type => simp [same]
    | attr other =>
      rw [same, VhloNode.attr.injEq]
      cases value with
      | arrayV1 items => cases other <;> simp [VhloAttr.same, attributes items _ compared]
      | dictionaryV1 items => cases other <;> simp [VhloAttr.same, entries items _ compared]
      | axisRefV1 name rest | meshV1 name rest =>
        rw [members, List.forall_mem_cons] at compared
        have first := attrMember name (by simp [members])
        cases other <;> simp [VhloAttr.same, first, optional rest _ compared.2]
      | floatV1 ofType | integerV1 ofType | tensorV1 ofType | typeV1 ofType =>
        have first := typeMember ofType (by simp [members])
        cases other <;> simp [VhloAttr.same, first]
      | resultAccuracyV1 _ _ _ inner | meshAxisV1 inner =>
        have first := attrMember inner (by simp [members])
        cases other <;> simp [VhloAttr.same, first, and_assoc]
      | replicaGroupMeshAxesV1 mesh axes =>
        have first := attrMember mesh (by simp [members])
        have second := attrMember axes (by simp [members])
        cases other <;> simp [VhloAttr.same, first, second]
      | booleanV1 | outputOperandAliasV1 | stringV1 | typeExtensionsV1 | enumV1
      | subAxisInfoV1 => cases other <;> simp [VhloAttr.same]

/-- Types and attributes that compare as the same are. -/
theorem same_iff (node other : VhloNode) : node.same other = true ↔ node = other := by
  induction node using VhloNode.induction generalizing other with
  | step node ih => exact same_iff_of_members node ih other

end VhloNode

instance : DecidableEq VhloType := fun type other =>
  decidable_of_iff (type.same other = true) <| by
    have := VhloNode.same_iff (.type type) (.type other)
    rwa [VhloNode.same, VhloNode.type.injEq] at this

instance : DecidableEq VhloAttr := fun attr other =>
  decidable_of_iff (attr.same other = true) <| by
    have := VhloNode.same_iff (.attr attr) (.attr other)
    rwa [VhloNode.same, VhloNode.attr.injEq] at this

end Stablehlo
