import Stablehlo.Dialect.Attrs
import Stablehlo.Legalize.Types
import Stablehlo.Vhlo.Enums

/-! The conversions between the attributes of StableHLO programs and those of VHLO. -/

namespace Stablehlo

open EnumTable

/-- Whether a number is a signaling NaN. -/
def APFloat.isSignaling (value : APFloat) : Bool :=
  let fractionBits? := match value.semantics with
    | .bFloat => some 7
    | .ieeeHalf | .floatTF32 => some 10
    | .ieeeSingle => some 23
    | .ieeeDouble => some 52
    | .float8E3M4 => some 4
    | .float8E4M3 => some 3
    | .float8E5M2 => some 2
    -- The other formats have at most one NaN for each sign, which is quiet.
    | _ => none
  match fractionBits? with
  | none => false
  | some fractionBits =>
    let magnitude := value.bits.toNat % 2 ^ (value.semantics.sizeInBits - 1)
    let infinity := 2 ^ (value.semantics.sizeInBits - 1) - 2 ^ fractionBits
    decide (infinity < magnitude ∧ magnitude < infinity + 2 ^ (fractionBits - 1))

/-- The conversions of numbers to double precision and from it. -/
structure DoubleConversions where
  /-- The double that is closest to a number. -/
  convertToDouble : APFloat → BitVec 64
  /-- The number of a format that is closest to a double. -/
  convertFromDouble (semantics : FloatSemantics) : BitVec 64 → BitVec semantics.sizeInBits
  /-- Doubles are themselves. -/
  convertToDouble_ofDouble : ∀ value, convertToDouble (.ofDouble value) = value
  /-- Doubles stay themselves. -/
  convertFromDouble_double : ∀ value, convertFromDouble .ieeeDouble value = value
  /-- Double precision has every number, and a conversion only makes signaling numbers quiet. -/
  convertFromDouble_convertToDouble : ∀ value : APFloat, value.isSignaling = false →
    convertFromDouble value.semantics (convertToDouble value) = value.bits

/-- The type of dense elements. -/
def DenseElementType.toType : DenseElementType → StablehloType
  | .integer signedness width => .integer signedness width
  | .float semantics => .float semantics
  | .index => .index
  | .complex elementType => .complex elementType.toType

/-- The type of a dense elements attribute. -/
def DenseElementsAttr.type (attr : DenseElementsAttr) : StablehloType :=
  .rankedTensor attr.shape attr.elementType.toType none

/-- Dense elements of a list of numbers. -/
def DenseElementsAttr.ofInt64s (data : List Int64) : DenseElementsAttr where
  shape := [.ofNat data.length]
  elementType := .integer .signless 64
  -- A list of equal numbers is kept as the only one.
  rawData :=
    let stored := if data.all (· == data.headD 0) then data.take 1 else data
    stored.flatMap fun value =>
      (List.range 8).map fun byte => (value.toUInt64 >>> UInt64.ofNat (8 * byte)).toUInt8

/-- Dense elements of a list of booleans. -/
def DenseElementsAttr.ofBools (data : List Bool) : DenseElementsAttr where
  shape := [.ofNat data.length]
  elementType := .integer .signless 1
  rawData :=
    let stored := if data.all (· == data.headD false) then data.take 1 else data
    stored.map fun value => if value then 1 else 0

namespace StablehloToVhlo

/-- Convert a value of an enumeration. -/
def convertEnum : StablehloEnumAttr → Option VhloEnumAttr
  | .comparisonDirection value => (byName value).map .comparisonDirectionV1
  | .comparisonType value => (byName value).map .comparisonTypeV1
  | .fftType value => (byName value).map .fftTypeV1
  | .precision value => (byName value).map .precisionV1
  | .rngAlgorithm value => (byName value).map .rngAlgorithmV1
  | .rngDistribution value => (byName value).map .rngDistributionV1
  | .transpose value => (byName value).map .transposeV1
  | .resultAccuracyMode value => (byName value).map .resultAccuracyModeV1
  -- The API version is converted where it is an attribute of `custom_call`.
  | .customCallApiVersion _ => none

/-- The outcome of a conversion that leaves no component out. -/
def ofOption {α : Type} : Option α → Conversion α
  | none => .failed
  | some value => .converted value

/-- Convert dense elements. -/
def convertDenseElements (attr : DenseElementsAttr) : Conversion VhloAttr :=
  (convertType attr.type).map fun type => .tensorV1 type attr

/-- Convert dense elements that may be absent. -/
def convertDeviceIds : Option DenseElementsAttr → Conversion (Option VhloAttr)
  | none => .converted none
  -- Ids that cannot be converted are left out.
  | some deviceIds =>
    match convertDenseElements deviceIds with
    | .failed => .converted none
    | .incomplete => .incomplete
    | .converted deviceIds => .converted (some deviceIds)

mutual

/-- Convert an attribute to VHLO, where there is a counterpart. -/
def convertGeneric : StablehloAttr → Conversion VhloAttr
  | .enum value => (ofOption (convertEnum value)).map .enumV1
  | .outputOperandAlias outputTupleIndices operandIndex operandTupleIndices =>
    .converted (.outputOperandAliasV1 outputTupleIndices operandIndex operandTupleIndices)
  | .resultAccuracy atol rtol ulps mode =>
    (ofOption (convertEnum (.resultAccuracyMode mode))).map
      fun mode => .resultAccuracyV1 atol rtol ulps (.enumV1 mode)
  | .subAxisInfo preSize size => .converted (.subAxisInfoV1 preSize size)
  | .axisRef name subAxisInfo =>
    .converted (.axisRefV1 (.stringV1 name)
      (subAxisInfo.map fun (preSize, size) => .subAxisInfoV1 preSize size))
  | .meshAxis name size => .converted (.meshAxisV1 (.stringV1 name) size)
  | .mesh axes deviceIds =>
    (convertDeviceIds deviceIds).map fun deviceIds =>
      .meshV1 (.arrayV1 (axes.map fun (name, size) => .meshAxisV1 (.stringV1 name) size)) deviceIds
  | .replicaGroupMeshAxes (.flatSymbolRef name) axes =>
    (convertGenerics axes).map fun axes =>
      .replicaGroupMeshAxesV1 (.stringV1 name) (.arrayV1 axes)
  | .replicaGroupMeshAxes mesh axes =>
    ((convertGeneric mesh).both (convertGenerics axes)).map fun (mesh, axes) =>
      .replicaGroupMeshAxesV1 mesh (.arrayV1 axes)
  -- The attributes of StableHLO that are left have no counterpart.
  | .scatterDimensionNumbers _ | .gatherDimensionNumbers _ | .dotDimensionNumbers _
  | .convDimensionNumbers _ | .dotAlgorithm _ | .channelHandle _ | .typeExtensions _ => .failed
  | .array value => (convertGenerics value).map .arrayV1
  | .denseElements value => convertDenseElements value
  | .denseI64Array value => convertDenseElements (.ofInt64s value)
  | .denseBoolArray value => convertDenseElements (.ofBools value)
  | .dictionary value => (convertEntries value).map .dictionaryV1
  | .float value =>
    (convertType (.float value.semantics)).map fun type => .floatV1 type value
  | .integer .signless 1 value => .converted (.booleanV1 (value == 1#1))
  | .integer signedness width value =>
    (convertType (.integer signedness width)).map fun type => .integerV1 type ⟨width, value⟩
  | .index value => (convertType .index).map fun type => .integerV1 type ⟨64, value⟩
  | .flatSymbolRef value => .converted (.stringV1 value)
  | .string value .noneType => .converted (.stringV1 value)
  -- Strings with a type are not supported.
  | .string _ _ => .failed
  | .type value => (convertType value).map .typeV1
  | .other _ => .failed

/-- Convert a list of attributes. -/
def convertGenerics : List StablehloAttr → Conversion (List VhloAttr)
  | [] => .converted []
  | attr :: attrs =>
    ((convertGeneric attr).both (convertGenerics attrs)).map fun (attr, attrs) => attr :: attrs

/-- Convert the entries of a dictionary. -/
def convertEntries : List (String × StablehloAttr) → Conversion (List (VhloAttr × VhloAttr))
  | [] => .converted []
  | (name, value) :: entries =>
    ((convertGeneric value).both (convertEntries entries)).map
      fun (value, entries) => (.stringV1 name, value) :: entries

end

end StablehloToVhlo

namespace VhloToStablehlo

/-- Convert a value of an enumeration back. -/
def convertEnum : VhloEnumAttr → Option StablehloEnumAttr
  | .comparisonDirectionV1 value => (byName value).map .comparisonDirection
  | .comparisonTypeV1 value => (byName value).map .comparisonType
  | .customCallApiVersionV1 value => (byName value).map .customCallApiVersion
  | .fftTypeV1 value => (byName value).map .fftType
  | .precisionV1 value => (byName value).map .precision
  | .rngAlgorithmV1 value => (byName value).map .rngAlgorithm
  | .rngDistributionV1 value => (byName value).map .rngDistribution
  | .transposeV1 value => (byName value).map .transpose
  | .resultAccuracyModeV1 value => (byName value).map .resultAccuracyMode

/-- A floating point attribute of a type, from a double. -/
def floatAttr (conversions : DoubleConversions) (type : StablehloType) (value : BitVec 64) :
    Option StablehloAttr :=
  match type with
  | .float semantics => some (.float ⟨semantics, conversions.convertFromDouble semantics value⟩)
  | _ => none

/-- An integer attribute of a type, whose values have as many bits as the type. -/
def integerAttr (type : StablehloType) (value : APInt) : Option StablehloAttr :=
  match type with
  | .integer signedness width =>
    if same : value.width = width then some (.integer signedness width (value.bits.cast same))
    else none
  | .index => if same : value.width = 64 then some (.index (value.bits.cast same)) else none
  | _ => none

/-- Whether a type has a shape. -/
def isShaped : StablehloType → Bool
  | .rankedTensor .. | .unrankedTensor _ | .memRef .. => true
  | _ => false

/-- A dictionary of entries, which are sorted by name. -/
def dictionaryAttr (entries : List (String × StablehloAttr)) : StablehloAttr :=
  .dictionary (entries.mergeSort fun entry other => decide (entry.1 ≤ other.1))

/-- The name and the size of a mesh axis. -/
def meshAxis? : StablehloAttr → Option (String × Int64)
  | .meshAxis name size => some (name, size)
  | _ => none

/-- Dense elements that are integers. -/
def denseInts? : StablehloAttr → Option DenseElementsAttr
  | .denseElements attr =>
    match attr.elementType with
    | .integer .. | .index => some attr
    | _ => none
  | _ => none

mutual

/-- Convert a VHLO attribute back. A cast that fails is an error as well. -/
def convertGeneric (conversions : DoubleConversions) : VhloAttr → Option StablehloAttr
  | .arrayV1 value => (convertGenerics conversions value).map .array
  | .booleanV1 value => some (.bool value)
  | .dictionaryV1 value => (convertEntries conversions value).map dictionaryAttr
  | .floatV1 type value =>
    floatAttr conversions (convertType conversions.convertToDouble type)
      (conversions.convertToDouble value)
  | .integerV1 type value => integerAttr (convertType conversions.convertToDouble type) value
  | .outputOperandAliasV1 outputTupleIndices operandIndex operandTupleIndices =>
    some (.outputOperandAlias outputTupleIndices operandIndex operandTupleIndices)
  | .stringV1 value => some (.string value .noneType)
  | .tensorV1 type data =>
    if isShaped (convertType conversions.convertToDouble type) then some (.denseElements data)
    else none
  | .typeV1 value => some (.type (convertType conversions.convertToDouble value))
  -- These are only encodings, which are converted with their types.
  | .typeExtensionsV1 _ => none
  | .enumV1 value => (convertEnum value).map .enum
  | .resultAccuracyV1 atol rtol ulps mode =>
    match convertGeneric conversions mode with
    | some (.enum (.resultAccuracyMode mode)) => some (.resultAccuracy atol rtol ulps mode)
    | _ => none
  | .subAxisInfoV1 preSize size => some (.subAxisInfo preSize size)
  | .axisRefV1 name subAxisInfo =>
    match convertGeneric conversions name, subAxisInfo.isSome,
      convertOptional conversions subAxisInfo with
    | some (.string name _), false, _ => some (.axisRef name none)
    | some (.string name _), true, some (.subAxisInfo preSize size) =>
      some (.axisRef name (some (preSize, size)))
    | _, _, _ => none
  | .replicaGroupMeshAxesV1 (.stringV1 mesh) axes =>
    match convertGeneric conversions axes with
    | some (.array axes) => some (.replicaGroupMeshAxes (.flatSymbolRef mesh) axes)
    | _ => none
  | .replicaGroupMeshAxesV1 mesh axes =>
    match convertGeneric conversions mesh, convertGeneric conversions axes with
    | some mesh, some (.array axes) => some (.replicaGroupMeshAxes mesh axes)
    | _, _ => none
  | .meshAxisV1 name size =>
    match convertGeneric conversions name with
    | some (.string name _) => some (.meshAxis name size)
    | _ => none
  | .meshV1 axes deviceIds =>
    match convertGeneric conversions axes with
    | some (.array axes) =>
      -- Ids that are not integers are left out.
      (axes.mapM meshAxis?).map (.mesh · ((convertOptional conversions deviceIds).bind denseInts?))
    | _ => none

/-- Convert an attribute that may be absent. -/
def convertOptional (conversions : DoubleConversions) : Option VhloAttr → Option StablehloAttr
  | none => none
  | some attr => convertGeneric conversions attr

/-- Convert a list of attributes back. -/
def convertGenerics (conversions : DoubleConversions) :
    List VhloAttr → Option (List StablehloAttr)
  | [] => some []
  | attr :: attrs =>
    match convertGeneric conversions attr, convertGenerics conversions attrs with
    | some attr, some attrs => some (attr :: attrs)
    | _, _ => none

/-- Convert the entries of a dictionary back, whose names have to be strings. -/
def convertEntries (conversions : DoubleConversions) :
    List (VhloAttr × VhloAttr) → Option (List (String × StablehloAttr))
  | [] => some []
  | (name, value) :: entries =>
    match convertGeneric conversions name, convertGeneric conversions value,
      convertEntries conversions entries with
    | some (.string name _), some value, some entries => some ((name, value) :: entries)
    | _, _, _ => none

end

end VhloToStablehlo

end Stablehlo
