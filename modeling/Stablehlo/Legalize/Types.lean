import Stablehlo.Dialect.Types

/-! The conversions between the types of StableHLO programs and those of VHLO. -/

namespace Stablehlo

/-- What the conversion of a type comes to. -/
inductive Conversion (α : Type) where
  /-- There is no result. -/
  | failed
  /-- There is a result, with a component without a value. -/
  | incomplete
  /-- There is a result. -/
  | converted (value : α)
  deriving DecidableEq

namespace Conversion

variable {α β : Type}

/-- Build a value around the result of a conversion that has been checked. -/
def map (build : α → β) : Conversion α → Conversion β
  | .failed => .failed
  | .incomplete => .incomplete
  | .converted value => .converted (build value)

/-- Build a value around the result of a conversion that has not been checked. -/
def mapUnchecked (build : α → β) : Conversion α → Conversion β
  -- The value is built around nothing.
  | .failed => .incomplete
  | .incomplete => .incomplete
  | .converted value => .converted (build value)

/-- Two conversions, which fail when one of them does. -/
def both : Conversion α → Conversion β → Conversion (α × β)
  | .failed, _ => .failed
  | _, .failed => .failed
  | .incomplete, _ => .incomplete
  | _, .incomplete => .incomplete
  | .converted first, .converted second => .converted (first, second)

@[simp] theorem map_ne_failed (build : α → β) (result : Conversion α) :
    result.map build ≠ .failed ↔ result ≠ .failed := by
  cases result <;> simp [map]

/-- What is known of the result of a checked conversion. -/
theorem exists_map (build : α → β) (result : Conversion α) (P : β → Prop) :
    (∃ value, result.map build = .converted value ∧ P value) ↔
      ∃ inner, result = .converted inner ∧ P (build inner) := by
  cases result <;> simp [map]

@[simp] theorem mapUnchecked_ne_failed (build : α → β) (result : Conversion α) :
    result.mapUnchecked build ≠ .failed := by
  cases result <;> simp [mapUnchecked]

/-- What is known of the result of a conversion that is not checked. -/
theorem exists_mapUnchecked (build : α → β) (result : Conversion α) (P : β → Prop) :
    (∃ value, result.mapUnchecked build = .converted value ∧ P value) ↔
      ∃ inner, result = .converted inner ∧ P (build inner) := by
  cases result <;> simp [mapUnchecked]

@[simp] theorem both_ne_failed (first : Conversion α) (second : Conversion β) :
    first.both second ≠ .failed ↔ first ≠ .failed ∧ second ≠ .failed := by
  cases first <;> cases second <;> simp [both]

/-- A value that is built from two results has both. -/
theorem both_map_eq_converted {γ : Type} {first : Conversion α} {second : Conversion β}
    {build : α × β → γ} {value : γ}
    (known : (first.both second).map build = .converted value) :
    ∃ a b, first = .converted a ∧ second = .converted b ∧ value = build (a, b) := by
  cases first <;> cases second <;> simp_all [both, map]

/-- What is known of the results of two conversions. -/
theorem exists_both (first : Conversion α) (second : Conversion β) (P : α → Prop)
    (Q : β → Prop) :
    (∃ values, first.both second = .converted values ∧ P values.1 ∧ Q values.2) ↔
      (∃ value, first = .converted value ∧ P value) ∧
        ∃ value, second = .converted value ∧ Q value := by
  cases first <;> cases second <;> simp [both]

end Conversion

/-- A double as a number of its format. -/
def APFloat.ofDouble (value : BitVec 64) : APFloat :=
  ⟨.ieeeDouble, value⟩

/-- The VHLO type of a builtin integer type. -/
def convertBuiltinIntegerType : Signedness → Nat → Option VhloScalarType
  | .signed, _ => none
  -- A predicate.
  | .signless, 1 => some .booleanV1
  | .signless, 2 => some .integerSI2V1
  | .unsigned, 2 => some .integerUI2V1
  | .signless, 4 => some .integerSI4V1
  | .unsigned, 4 => some .integerUI4V1
  | .signless, 8 => some .integerSI8V1
  | .unsigned, 8 => some .integerUI8V1
  | .signless, 16 => some .integerSI16V1
  | .unsigned, 16 => some .integerUI16V1
  | .signless, 32 => some .integerSI32V1
  | .unsigned, 32 => some .integerUI32V1
  | .signless, 64 => some .integerSI64V1
  | .unsigned, 64 => some .integerUI64V1
  | _, _ => none

/-- The VHLO type of a builtin floating point type. -/
def convertBuiltinFloatType : FloatSemantics → VhloScalarType
  | .bFloat => .floatBF16V1
  | .ieeeHalf => .floatF16V1
  | .ieeeSingle => .floatF32V1
  | .ieeeDouble => .floatF64V1
  | .float4E2M1FN => .floatF4E2M1FNV1
  | .float6E2M3FN => .floatF6E2M3FNV1
  | .float6E3M2FN => .floatF6E3M2FNV1
  | .float8E3M4 => .floatF8E3M4V1
  | .float8E4M3 => .floatF8E4M3V1
  | .float8E4M3FN => .floatF8E4M3FNV1
  | .float8E5M2 => .floatF8E5M2V1
  | .float8E4M3FNUZ => .floatF8E4M3FNUZV1
  | .float8E4M3B11FNUZ => .floatF8E4M3B11FNUZV1
  | .float8E5M2FNUZ => .floatF8E5M2FNUZV1
  | .float8E8M0FNU => .floatF8E8M0FNUV1
  | .floatTF32 => .floatTF32V1

namespace StablehloToVhlo

/-- The VHLO attribute of an encoding, which is one already or has one. -/
def convertEncoding : Encoding → Option VhloAttr
  | .vhlo value => some value
  | .typeExtensions bounds => some (.typeExtensionsV1 bounds)
  | .other _ => none

mutual

/-- Convert a type to VHLO, with no types of other dialects allowed. -/
def convertType : StablehloType → Conversion VhloType
  | .integer signedness width =>
    match convertBuiltinIntegerType signedness width with
    | some kind => .converted (.scalar kind)
    | none => .failed
  | .float semantics => .converted (.scalar (convertBuiltinFloatType semantics))
  | .index => .converted (.scalar .indexV1)
  | .noneType => .converted (.scalar .noneV1)
  -- The element type is not checked.
  | .complex elementType => (convertType elementType).mapUnchecked .complexV1
  | .function inputs results =>
    ((convertTypes inputs).both (convertTypes results)).map
      fun (inputs, outputs) => .functionV1 inputs outputs
  | .tuple types => (convertTypes types).map .tupleV1
  | .rankedTensor shape elementType none =>
    (convertType elementType).map (.rankedTensorV1 shape · none)
  | .rankedTensor shape elementType (some encoding) =>
    match convertEncoding encoding with
    | none => .failed
    | some encoding => (convertType elementType).map (.rankedTensorV1 shape · (some encoding))
  | .unrankedTensor elementType => (convertType elementType).map .unrankedTensorV1
  -- The layout and the memory space are not looked at.
  | .memRef shape elementType _ _ => (convertType elementType).map (.rankedBufferV1 shape)
  | .uniformQuantized flags storageType expressedType scale zeroPoint storageTypeMin
      storageTypeMax =>
    ((convertType storageType).both (convertType expressedType)).map
      fun (storageType, expressedType) =>
        .uniformQuantizedV1 flags storageType expressedType (.ofDouble scale) zeroPoint
          storageTypeMin storageTypeMax
  | .uniformQuantizedPerAxis flags storageType expressedType scales zeroPoints
      quantizedDimension storageTypeMin storageTypeMax =>
    ((convertType storageType).both (convertType expressedType)).map
      fun (storageType, expressedType) =>
        .uniformQuantizedPerAxisV1 flags storageType expressedType quantizedDimension
          (scales.map .ofDouble) zeroPoints storageTypeMin storageTypeMax
  | .witness => .converted (.scalar .witnessV1)
  | .token => .converted (.scalar .tokenV1)
  | .future types => (convertTypes types).map .futureV1
  | .vhlo value => .converted value
  | .other _ => .failed

/-- Convert a list of types to VHLO. -/
def convertTypes : List StablehloType → Conversion (List VhloType)
  | [] => .converted []
  | type :: types =>
    ((convertType type).both (convertTypes types)).map fun (type, types) => type :: types

end

end StablehloToVhlo

namespace VhloToStablehlo

/-- The encoding of a VHLO attribute. -/
def convertEncoding : VhloAttr → Encoding
  | .typeExtensionsV1 bounds => .typeExtensions bounds
  -- All encodings are supported in StableHLO.
  | attr => .vhlo attr

/-- The type of a VHLO type without parameters. -/
def convertScalarType : VhloScalarType → StablehloType
  | .booleanV1 => .integer .signless 1
  | .floatBF16V1 => .float .bFloat
  | .floatF16V1 => .float .ieeeHalf
  | .floatF32V1 => .float .ieeeSingle
  | .floatF64V1 => .float .ieeeDouble
  | .floatF4E2M1FNV1 => .float .float4E2M1FN
  | .floatF6E2M3FNV1 => .float .float6E2M3FN
  | .floatF6E3M2FNV1 => .float .float6E3M2FN
  | .floatF8E3M4V1 => .float .float8E3M4
  | .floatF8E4M3V1 => .float .float8E4M3
  | .floatF8E4M3FNV1 => .float .float8E4M3FN
  | .floatF8E5M2V1 => .float .float8E5M2
  | .floatF8E4M3FNUZV1 => .float .float8E4M3FNUZ
  | .floatF8E4M3B11FNUZV1 => .float .float8E4M3B11FNUZ
  | .floatF8E5M2FNUZV1 => .float .float8E5M2FNUZ
  | .floatF8E8M0FNUV1 => .float .float8E8M0FNU
  | .floatTF32V1 => .float .floatTF32
  | .indexV1 => .index
  | .integerSI2V1 => .integer .signless 2
  | .integerSI4V1 => .integer .signless 4
  | .integerSI8V1 => .integer .signless 8
  | .integerSI16V1 => .integer .signless 16
  | .integerSI32V1 => .integer .signless 32
  | .integerSI64V1 => .integer .signless 64
  | .integerUI2V1 => .integer .unsigned 2
  | .integerUI4V1 => .integer .unsigned 4
  | .integerUI8V1 => .integer .unsigned 8
  | .integerUI16V1 => .integer .unsigned 16
  | .integerUI32V1 => .integer .unsigned 32
  | .integerUI64V1 => .integer .unsigned 64
  | .noneV1 => .noneType
  | .tokenV1 => .token
  | .witnessV1 => .witness

-- Every VHLO type has a counterpart, so no component is ever without one.
mutual

/-- Convert a VHLO type back, where a scale becomes a double by `convertToDouble`. -/
def convertType (convertToDouble : APFloat → BitVec 64) : VhloType → StablehloType
  | .scalar kind => convertScalarType kind
  | .complexV1 elementType => .complex (convertType convertToDouble elementType)
  | .functionV1 inputs outputs =>
    .function (convertTypes convertToDouble inputs) (convertTypes convertToDouble outputs)
  | .rankedTensorV1 shape elementType encoding =>
    .rankedTensor shape (convertType convertToDouble elementType) (encoding.map convertEncoding)
  | .futureV1 types => .future (convertTypes convertToDouble types)
  | .tupleV1 types => .tuple (convertTypes convertToDouble types)
  | .uniformQuantizedV1 flags storageType expressedType scale zeroPoint storageTypeMin
      storageTypeMax =>
    .uniformQuantized flags (convertType convertToDouble storageType)
      (convertType convertToDouble expressedType) (convertToDouble scale) zeroPoint
      storageTypeMin storageTypeMax
  | .uniformQuantizedPerAxisV1 flags storageType expressedType quantizedDimension scales
      zeroPoints storageTypeMin storageTypeMax =>
    .uniformQuantizedPerAxis flags (convertType convertToDouble storageType)
      (convertType convertToDouble expressedType) (scales.map convertToDouble) zeroPoints
      quantizedDimension storageTypeMin storageTypeMax
  | .unrankedTensorV1 elementType => .unrankedTensor (convertType convertToDouble elementType)
  | .rankedBufferV1 shape elementType =>
    .memRef shape (convertType convertToDouble elementType) .identity none

/-- Convert a list of VHLO types back. -/
def convertTypes (convertToDouble : APFloat → BitVec 64) : List VhloType → List StablehloType
  | [] => []
  | type :: types => convertType convertToDouble type :: convertTypes convertToDouble types

end

end VhloToStablehlo

namespace StablehloType

/-- Whether a type has a counterpart in VHLO as soon as its members have. -/
def supported : StablehloType → Bool
  | .integer signedness width => (convertBuiltinIntegerType signedness width).isSome
  | .rankedTensor _ _ (some (.other _)) | .other _ => false
  | _ => true

/-- Whether a type is one of StableHLO's own that VHLO can express in full. -/
def expressible : StablehloType → Bool
  | .memRef _ _ layout memorySpace => layout == .identity && memorySpace.isNone
  | .rankedTensor _ _ (some (.vhlo (.typeExtensionsV1 _))) | .vhlo _ => false
  | _ => true

/-- The members whose conversion is checked. -/
def checkedMembers : StablehloType → List StablehloType
  | .complex _ => []
  | type => type.members

/-- A type inside another one, with no complex type around it. -/
def Reached : StablehloType → StablehloType → Prop :=
  Nesting.Nested checkedMembers

/-- A member whose conversion is checked is a member. -/
theorem mem_members (type member : StablehloType) (listed : member ∈ type.checkedMembers) :
    member ∈ type.members := by
  unfold checkedMembers at listed
  split at listed
  · cases listed
  · exact listed

/-- A list of types is converted unless one of them fails. -/
theorem convertTypes_ne_failed (types : List StablehloType) :
    StablehloToVhlo.convertTypes types ≠ .failed ↔
      ∀ type ∈ types, StablehloToVhlo.convertType type ≠ .failed := by
  induction types with
  | nil => simp [StablehloToVhlo.convertTypes]
  | cons type types ih =>
    rw [StablehloToVhlo.convertTypes, Conversion.map_ne_failed, Conversion.both_ne_failed, ih,
      List.forall_mem_cons]

/-- A type is converted unless it has no counterpart or a checked member fails. -/
theorem convertType_ne_failed (type : StablehloType) :
    StablehloToVhlo.convertType type ≠ .failed ↔ type.supported = true ∧
      ∀ member ∈ type.checkedMembers, StablehloToVhlo.convertType member ≠ .failed := by
  cases type with
  | integer signedness width =>
    rw [StablehloToVhlo.convertType]
    cases known : convertBuiltinIntegerType signedness width <;>
      simp [supported, known, checkedMembers, members]
  | rankedTensor shape elementType encoding =>
    rcases encoding with _ | _ | _ | _ <;>
      simp [StablehloToVhlo.convertType, StablehloToVhlo.convertEncoding, supported,
        checkedMembers, members]
  | function inputs results =>
    simp only [StablehloToVhlo.convertType, Conversion.map_ne_failed, Conversion.both_ne_failed,
      convertTypes_ne_failed, supported, checkedMembers, members, List.forall_mem_append,
      true_and]
  | tuple types | future types =>
    simp [StablehloToVhlo.convertType, convertTypes_ne_failed, supported, checkedMembers, members]
  | _ => simp [StablehloToVhlo.convertType, supported, checkedMembers, members]

/-- A type is converted exactly when everything that is reached has a counterpart. -/
theorem convertType_ne_failed_iff_reached (type : StablehloType) :
    StablehloToVhlo.convertType type ≠ .failed ↔
      ∀ inner : StablehloType, inner.Reached type → inner.supported = true := by
  have smaller : ∀ type : StablehloType, ∀ member ∈ type.checkedMembers,
      sizeOf member < sizeOf type := by
    intro type member listed
    exact sizeOf_lt_of_mem type member (mem_members type member listed)
  exact Nesting.iff_forall_nested sizeOf smaller convertType_ne_failed type

section Returns

variable {convertToDouble : APFloat → BitVec 64}

/-- A type has a VHLO type without missing components, and comes back from it. -/
def Returns (convertToDouble : APFloat → BitVec 64) (type : StablehloType) : Prop :=
  ∃ converted : VhloType, StablehloToVhlo.convertType type = .converted converted ∧
    VhloToStablehlo.convertType convertToDouble converted = type

/-- A list of types comes back when each of its types does. -/
theorem convertTypes_returns (types : List StablehloType) :
    (∃ converted : List VhloType, StablehloToVhlo.convertTypes types = .converted converted ∧
      VhloToStablehlo.convertTypes convertToDouble converted = types) ↔
      ∀ type ∈ types, type.Returns convertToDouble := by
  induction types with
  | nil => simp [StablehloToVhlo.convertTypes, VhloToStablehlo.convertTypes]
  | cons type types ih =>
    rw [List.forall_mem_cons, ← ih, StablehloToVhlo.convertTypes, Conversion.exists_map]
    simp only [VhloToStablehlo.convertTypes, List.cons.injEq]
    exact Conversion.exists_both _ _ (VhloToStablehlo.convertType convertToDouble · = type)
      (VhloToStablehlo.convertTypes convertToDouble · = types)

/-- Integer types come back unless they have no counterpart. -/
theorem convertScalarType_integer (signedness : Signedness) (width : Nat)
    (kind : VhloScalarType) (known : convertBuiltinIntegerType signedness width = some kind) :
    VhloToStablehlo.convertScalarType kind = .integer signedness width := by
  unfold convertBuiltinIntegerType at known
  split at known <;> cases known <;> rfl

/-- Floating point types come back. -/
theorem convertScalarType_float (semantics : FloatSemantics) :
    VhloToStablehlo.convertScalarType (convertBuiltinFloatType semantics) = .float semantics := by
  cases semantics <;> rfl

/-- A type comes back when VHLO can express it and its members come back. -/
theorem returns_iff (exact : ∀ value, convertToDouble (.ofDouble value) = value)
    (type : StablehloType) :
    type.Returns convertToDouble ↔ (type.supported = true ∧ type.expressible = true) ∧
      ∀ member ∈ type.members, member.Returns convertToDouble := by
  cases type with
  | integer signedness width =>
    simp only [Returns, StablehloToVhlo.convertType, supported, expressible, members]
    cases known : convertBuiltinIntegerType signedness width with
    | none => simp
    | some kind =>
      simp [VhloToStablehlo.convertType, convertScalarType_integer signedness width kind known]
  | float semantics =>
    simp [Returns, StablehloToVhlo.convertType, VhloToStablehlo.convertType,
      convertScalarType_float, supported, expressible, members]
  | complex elementType =>
    simp [Returns, StablehloToVhlo.convertType, VhloToStablehlo.convertType, supported,
      expressible, members, Conversion.exists_mapUnchecked]
  | unrankedTensor elementType =>
    simp [Returns, StablehloToVhlo.convertType, VhloToStablehlo.convertType, supported,
      expressible, members, Conversion.exists_map]
  | memRef shape elementType layout space =>
    -- What comes back has the identity as its layout, and no memory space.
    simp only [Returns, StablehloToVhlo.convertType, VhloToStablehlo.convertType, supported,
      expressible, members, Conversion.exists_map, memRef.injEq, Bool.and_eq_true, beq_iff_eq,
      Option.isNone_iff_eq_none, List.mem_singleton, forall_eq, true_and]
    constructor
    · rintro ⟨inner, known, back, rfl, rfl⟩
      exact ⟨⟨rfl, rfl⟩, inner, known, back⟩
    · rintro ⟨⟨rfl, rfl⟩, inner, known, back⟩
      exact ⟨inner, known, back, rfl, rfl⟩
  | function inputs results =>
    simp only [members, List.forall_mem_append, supported, expressible, ← convertTypes_returns]
    simp only [Returns, StablehloToVhlo.convertType, Conversion.exists_map,
      VhloToStablehlo.convertType, function.injEq, true_and]
    exact Conversion.exists_both _ _ (VhloToStablehlo.convertTypes convertToDouble · = inputs)
      (VhloToStablehlo.convertTypes convertToDouble · = results)
  | tuple types | future types =>
    simp only [members, supported, expressible, ← convertTypes_returns]
    simp [Returns, StablehloToVhlo.convertType, VhloToStablehlo.convertType,
      Conversion.exists_map]
  | rankedTensor shape elementType encoding =>
    rcases encoding with _ | _ | attr | _
    · simp [Returns, StablehloToVhlo.convertType, VhloToStablehlo.convertType, supported,
        expressible, members, Conversion.exists_map]
    · simp [Returns, StablehloToVhlo.convertType, StablehloToVhlo.convertEncoding,
        VhloToStablehlo.convertType, VhloToStablehlo.convertEncoding, supported, expressible,
        members, Conversion.exists_map]
    · cases attr <;>
        simp [Returns, StablehloToVhlo.convertType, StablehloToVhlo.convertEncoding,
          VhloToStablehlo.convertType, VhloToStablehlo.convertEncoding, supported, expressible,
          members, Conversion.exists_map]
    · simp [Returns, StablehloToVhlo.convertType, StablehloToVhlo.convertEncoding, supported]
  | uniformQuantized _ storageType expressedType
  | uniformQuantizedPerAxis _ storageType expressedType =>
    have both := Conversion.exists_both (StablehloToVhlo.convertType storageType)
      (StablehloToVhlo.convertType expressedType)
      (VhloToStablehlo.convertType convertToDouble · = storageType)
      (VhloToStablehlo.convertType convertToDouble · = expressedType)
    simpa [Returns, StablehloToVhlo.convertType, VhloToStablehlo.convertType, exact,
      Conversion.exists_map, members, supported, expressible, Function.comp_def] using both
  | vhlo value =>
    -- What comes back is not a type of the VHLO dialect.
    rcases value with kind | _ | _ | _ | _ | _ | _ | _ | _ | _
    case scalar =>
      cases kind <;> simp [Returns, StablehloToVhlo.convertType, VhloToStablehlo.convertType,
        VhloToStablehlo.convertScalarType, expressible]
    all_goals
      simp [Returns, StablehloToVhlo.convertType, VhloToStablehlo.convertType, expressible]
  | _ =>
    simp [Returns, StablehloToVhlo.convertType, VhloToStablehlo.convertType,
      VhloToStablehlo.convertScalarType, supported, expressible, members]

/-- A type comes back exactly when VHLO can express everything inside it. -/
theorem returns_iff_inside (exact : ∀ value, convertToDouble (.ofDouble value) = value)
    (type : StablehloType) :
    type.Returns convertToDouble ↔ ∀ inner : StablehloType, inner.Inside type →
      inner.supported = true ∧ inner.expressible = true :=
  Nesting.iff_forall_nested sizeOf sizeOf_lt_of_mem (returns_iff exact) type

end Returns

end StablehloType

/-- A type is converted to one that comes back as it was, or its conversion fails. -/
def ConvertsBack (convertToDouble : APFloat → BitVec 64) (type : StablehloType) : Prop :=
  match StablehloToVhlo.convertType type with
  | .failed => True
  | .incomplete => False
  | .converted converted => VhloToStablehlo.convertType convertToDouble converted = type

/-- A conversion that does not fail has to return. -/
theorem convertsBack_iff_returns (convertToDouble : APFloat → BitVec 64) (type : StablehloType) :
    ConvertsBack convertToDouble type ↔
      StablehloToVhlo.convertType type = .failed ∨ type.Returns convertToDouble := by
  unfold ConvertsBack StablehloType.Returns
  cases StablehloToVhlo.convertType type <;> simp

/--
The conversion to VHLO fails as a whole or can be undone, under a condition.

A type without a counterpart fails the conversion when no complex type is around it.
Else every type inside has a counterpart, and no memref among them has a layout or a memory space.
-/
theorem convertsBack_iff (convertToDouble : APFloat → BitVec 64)
    (exact : ∀ value, convertToDouble (.ofDouble value) = value) (type : StablehloType) :
    ConvertsBack convertToDouble type ↔
      (∃ inner : StablehloType, inner.Reached type ∧ inner.supported = false) ∨
      ∀ inner : StablehloType, inner.Inside type →
        inner.supported = true ∧ inner.expressible = true := by
  rw [convertsBack_iff_returns, StablehloType.returns_iff_inside exact]
  apply or_congr_left
  have reached := StablehloType.convertType_ne_failed_iff_reached type
  constructor
  · intro failed
    have missing := mt reached.mpr (not_not_intro failed)
    simpa using missing
  · rintro ⟨inner, innerReached, unsupported⟩
    apply Classical.byContradiction
    intro succeeds
    simp [reached.mp succeeds inner innerReached] at unsupported

/-- The double that a number in double precision is. -/
def storedDouble : APFloat → BitVec 64
  | ⟨.ieeeDouble, value⟩ => value
  | _ => 0

/-- A quantized type comes back with its scale. -/
theorem convertsBack_iff_quantized :
    ConvertsBack storedDouble (.uniformQuantized 1 (.integer .signless 8) (.float .ieeeSingle)
      0x3FE0000000000000 0 (-128) 127) := by
  refine (convertsBack_iff storedDouble (fun _ => rfl) _).mpr (.inr ?_)
  rw [← @StablehloType.returns_iff_inside storedDouble fun _ => rfl]
  exact ⟨_, rfl, rfl⟩

/-- A memref in memory space 1, in a tuple. -/
def memRefInMemorySpace : StablehloType :=
  .tuple [.memRef [2] (.float .ieeeSingle) .identity (some "1 : i64")]

/-- A memref loses its memory space, and a complex type is left without an element type. -/
theorem convertsBack_misses :
    ¬ConvertsBack storedDouble memRefInMemorySpace ∧
      ¬ConvertsBack storedDouble (.complex (.other "f80")) := by
  simp [ConvertsBack, memRefInMemorySpace, StablehloToVhlo.convertType,
    StablehloToVhlo.convertTypes, convertBuiltinFloatType, VhloToStablehlo.convertType,
    VhloToStablehlo.convertTypes, Conversion.map, Conversion.mapUnchecked, Conversion.both]

end Stablehlo
