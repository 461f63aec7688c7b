import Stablehlo.Legalize.Types
import Stablehlo.Support.ByteReader
import Stablehlo.Vhlo.Enums
import Stablehlo.Vhlo.Legality

/-! How types and attributes of the VHLO dialect are written to bytecode and read from it. -/

namespace Stablehlo

open ByteReader

/-- The value with a code, among all the values of an enumeration. -/
def symbolize {α : Type} (all : List α) (value : α → Nat) (code : Nat) : Option α :=
  all.find? fun candidate => value candidate == code

/-- The codes of the attributes. -/
inductive AttributeCode where
  | arrayV1
  | booleanV1
  | comparisonDirectionV1
  | comparisonTypeV1
  | customCallApiVersionV1
  | dictionaryV1
  | fftTypeV1
  | floatV1
  | integerV1
  | outputOperandAliasV1
  | precisionV1
  | rngAlgorithmV1
  | rngDistributionV1
  | stringV1
  | tensorV1
  | transposeV1
  | typeV1
  | typeExtensionsV1
  | resultAccuracyModeV1
  | resultAccuracyV1
  | subAxisInfoV1
  | axisRefV1
  | replicaGroupMeshAxesV1
  | meshAxisV1
  | meshV1
  deriving DecidableEq, Repr

namespace AttributeCode

/-- All the codes. -/
def all : List AttributeCode :=
  [.arrayV1, .booleanV1, .comparisonDirectionV1, .comparisonTypeV1, .customCallApiVersionV1,
    .dictionaryV1, .fftTypeV1, .floatV1, .integerV1, .outputOperandAliasV1, .precisionV1,
    .rngAlgorithmV1, .rngDistributionV1, .stringV1, .tensorV1, .transposeV1, .typeV1,
    .typeExtensionsV1, .resultAccuracyModeV1, .resultAccuracyV1, .subAxisInfoV1, .axisRefV1,
    .replicaGroupMeshAxesV1, .meshAxisV1, .meshV1]

/-- The number of a code. Zero is no longer used. -/
def value : AttributeCode → Nat
  | .arrayV1 => 1
  | .booleanV1 => 2
  | .comparisonDirectionV1 => 3
  | .comparisonTypeV1 => 4
  | .customCallApiVersionV1 => 5
  | .dictionaryV1 => 6
  | .fftTypeV1 => 7
  | .floatV1 => 8
  | .integerV1 => 9
  | .outputOperandAliasV1 => 10
  | .precisionV1 => 11
  | .rngAlgorithmV1 => 12
  | .rngDistributionV1 => 13
  | .stringV1 => 14
  | .tensorV1 => 15
  | .transposeV1 => 16
  | .typeV1 => 17
  | .typeExtensionsV1 => 18
  | .resultAccuracyModeV1 => 19
  | .resultAccuracyV1 => 20
  | .subAxisInfoV1 => 21
  | .axisRefV1 => 22
  | .replicaGroupMeshAxesV1 => 23
  | .meshAxisV1 => 24
  | .meshV1 => 25

/-- A code is found by its number. -/
@[simp] theorem symbolize_value (code : AttributeCode) :
    symbolize all value code.value = some code := by
  cases code <;> rfl

end AttributeCode

/-- The codes of the types. -/
inductive TypeCode where
  | scalar (kind : VhloScalarType)
  | complexV1
  | functionV1
  | rankedTensorV1
  | rankedTensorV1WithEncoding
  | tupleV1
  | uniformQuantizedV1
  | unrankedTensorV1
  | uniformQuantizedPerAxisV1
  | rankedBufferV1
  | futureV1
  deriving DecidableEq, Repr

namespace TypeCode

/-- All the codes. -/
def all : List TypeCode :=
  [.scalar .booleanV1, .complexV1, .scalar .floatBF16V1, .scalar .floatF16V1,
    .scalar .floatF32V1, .scalar .floatF64V1, .scalar .floatF8E4M3FNV1, .scalar .floatF8E5M2V1,
    .functionV1, .scalar .indexV1, .scalar .integerSI4V1, .scalar .integerSI8V1,
    .scalar .integerSI16V1, .scalar .integerSI32V1, .scalar .integerSI64V1,
    .scalar .integerUI4V1, .scalar .integerUI8V1, .scalar .integerUI16V1,
    .scalar .integerUI32V1, .scalar .integerUI64V1, .rankedTensorV1,
    .rankedTensorV1WithEncoding, .scalar .tokenV1, .tupleV1, .uniformQuantizedV1,
    .unrankedTensorV1, .scalar .witnessV1, .scalar .floatF8E4M3FNUZV1,
    .scalar .floatF8E5M2FNUZV1, .scalar .floatF8E4M3B11FNUZV1, .uniformQuantizedPerAxisV1,
    .scalar .integerSI2V1, .scalar .integerUI2V1, .scalar .noneV1, .scalar .floatTF32V1,
    .scalar .floatF8E4M3V1, .scalar .floatF8E3M4V1, .scalar .floatF4E2M1FNV1,
    .scalar .floatF6E2M3FNV1, .scalar .floatF6E3M2FNV1, .scalar .floatF8E8M0FNUV1,
    .rankedBufferV1, .futureV1]

/-- The number of a code. -/
def value : TypeCode → Nat
  | .scalar .booleanV1 => 0
  | .complexV1 => 1
  | .scalar .floatBF16V1 => 2
  | .scalar .floatF16V1 => 3
  | .scalar .floatF32V1 => 4
  | .scalar .floatF64V1 => 5
  | .scalar .floatF8E4M3FNV1 => 6
  | .scalar .floatF8E5M2V1 => 7
  | .functionV1 => 8
  | .scalar .indexV1 => 9
  | .scalar .integerSI4V1 => 10
  | .scalar .integerSI8V1 => 11
  | .scalar .integerSI16V1 => 12
  | .scalar .integerSI32V1 => 13
  | .scalar .integerSI64V1 => 14
  | .scalar .integerUI4V1 => 15
  | .scalar .integerUI8V1 => 16
  | .scalar .integerUI16V1 => 17
  | .scalar .integerUI32V1 => 18
  | .scalar .integerUI64V1 => 19
  | .rankedTensorV1 => 20
  | .rankedTensorV1WithEncoding => 21
  | .scalar .tokenV1 => 22
  | .tupleV1 => 23
  | .uniformQuantizedV1 => 24
  | .unrankedTensorV1 => 25
  | .scalar .witnessV1 => 26
  | .scalar .floatF8E4M3FNUZV1 => 27
  | .scalar .floatF8E5M2FNUZV1 => 28
  | .scalar .floatF8E4M3B11FNUZV1 => 29
  | .uniformQuantizedPerAxisV1 => 30
  | .scalar .integerSI2V1 => 31
  | .scalar .integerUI2V1 => 32
  | .scalar .noneV1 => 33
  | .scalar .floatTF32V1 => 34
  | .scalar .floatF8E4M3V1 => 35
  | .scalar .floatF8E3M4V1 => 36
  | .scalar .floatF4E2M1FNV1 => 37
  | .scalar .floatF6E2M3FNV1 => 38
  | .scalar .floatF6E3M2FNV1 => 39
  | .scalar .floatF8E8M0FNUV1 => 40
  | .rankedBufferV1 => 41
  | .futureV1 => 42

/-- A code is found by its number. -/
@[simp] theorem symbolize_value (code : TypeCode) : symbolize all value code.value = some code := by
  rcases code with kind | _ | _ | _ | _ | _ | _ | _ | _ | _ | _
  case scalar => cases kind <;> rfl
  all_goals rfl

end TypeCode

/-- What MLIR itself writes and reads. -/
structure Primitives where
  /-- An unsigned number, in as many bytes as it needs. -/
  varInt : Codec Nat
  /-- A signed number, in as many bytes as it needs. -/
  signedVarInt : Codec Int64
  /-- The number of an attribute that may be absent. -/
  optional : Codec (Option Nat)
  /-- A string. -/
  string : Codec String
  /-- Bytes with their number. -/
  blob : Codec (List UInt8)
  /-- An integer of a width that is known. -/
  apInt (width : Nat) : Codec (BitVec width)
  /-- A number in a format that is known. -/
  apFloat (semantics : FloatSemantics) : Codec (BitVec semantics.sizeInBits)

/-- The floating point format of a type. There is a fatal error for other types. -/
def getFloatSemantics : VhloType → Option FloatSemantics
  | .scalar .floatBF16V1 => some .bFloat
  | .scalar .floatF16V1 => some .ieeeHalf
  | .scalar .floatF32V1 => some .ieeeSingle
  | .scalar .floatF4E2M1FNV1 => some .float4E2M1FN
  | .scalar .floatF64V1 => some .ieeeDouble
  | .scalar .floatF6E2M3FNV1 => some .float6E2M3FN
  | .scalar .floatF6E3M2FNV1 => some .float6E3M2FN
  | .scalar .floatF8E3M4V1 => some .float8E3M4
  | .scalar .floatF8E4M3FNUZV1 => some .float8E4M3FNUZ
  | .scalar .floatF8E4M3B11FNUZV1 => some .float8E4M3B11FNUZ
  | .scalar .floatF8E4M3FNV1 => some .float8E4M3FN
  | .scalar .floatF8E4M3V1 => some .float8E4M3
  | .scalar .floatF8E5M2FNUZV1 => some .float8E5M2FNUZ
  | .scalar .floatF8E5M2V1 => some .float8E5M2
  | .scalar .floatF8E8M0FNUV1 => some .float8E8M0FNU
  | .scalar .floatTF32V1 => some .floatTF32
  | _ => none

/-- The width of an integer type. There is a fatal error for other types. -/
def getBitWidthForIntegerType : VhloType → Option Nat
  | .scalar .integerSI4V1 | .scalar .integerUI4V1 => some 4
  | .scalar .integerSI8V1 | .scalar .integerUI8V1 => some 8
  | .scalar .integerSI16V1 | .scalar .integerUI16V1 => some 16
  | .scalar .integerSI32V1 | .scalar .integerUI32V1 => some 32
  | .scalar .integerSI64V1 | .scalar .integerUI64V1 => some 64
  | _ => none

/-- The width in which the values of an index or integer type are stored. -/
def getStorageWidth : VhloType → Option Nat
  | .scalar .indexV1 => some 64
  | type => getBitWidthForIntegerType type

/-- The number of elements of a tensor of booleans, and nothing for other types. -/
def booleanElements : VhloType → Option Nat
  | .rankedTensorV1 shape (.scalar .booleanV1) _ =>
    some (shape.foldl (fun count size => count * size) 1).toNatClampNeg
  | _ => none

/-- The elements of dense elements with a VHLO element type. -/
def denseElementType : VhloType → Option DenseElementType
  | .scalar kind =>
    match VhloToStablehlo.convertScalarType kind with
    | .integer signedness width => some (.integer signedness width)
    | .float semantics => some (.float semantics)
    | .index => some .index
    | _ => none
  | .complexV1 elementType => (denseElementType elementType).map .complex
  | _ => none

/-- Dense elements of a ranked tensor type from their bytes. -/
def getFromRawBuffer (type : VhloType) (rawData : List UInt8) : Option DenseElementsAttr :=
  match type with
  | .rankedTensorV1 shape elementType _ =>
    (denseElementType elementType).map fun elementType => ⟨shape, elementType, rawData⟩
  | _ => none

/-- The byte of eight booleans, of which the first one is the lowest bit. -/
def packByte (booleans : List UInt8) : UInt8 :=
  booleans.foldr (fun boolean byte => 2 * byte + if boolean = 0 then 0 else 1) 0

/-- The bytes that are written for the elements of a tensor. -/
def writeVhloTensorV1Attr (type : VhloType) (rawData : List UInt8) : List UInt8 :=
  match booleanElements type with
  | none => rawData
  | some numElements =>
    -- A splat is written as a byte that no packed elements have.
    if rawData.length = 1 ∧ 1 < numElements then
      [if rawData.getD 0 0 = 0 then 0x00 else 0xFF]
    else
      (List.range ((numElements + 7) / 8)).map fun byte =>
        packByte (((rawData.take numElements).drop (8 * byte)).take 8)

/-- The elements of a tensor from the bytes that were written for them. -/
def readVhloTensorV1Attr (type : VhloType) (blob : List UInt8) : List UInt8 :=
  match booleanElements type with
  | none => blob
  | some numElements =>
    if blob = [0xFF] then
      [0x01]
    else if blob.length = (numElements + 7) / 8 ∧ blob.length ≠ numElements then
      (List.range numElements).map fun element =>
        if (blob.getD (element / 8) 0).toNat.testBit (element % 8) then 1 else 0
    else
      blob

section Writer

variable (mlir : Primitives) (number : VhloNode → Nat)

/-- A type inside an attribute or another type is written as its number. -/
def writeTypeNumber (type : VhloType) : List UInt8 :=
  mlir.varInt.write (number (.type type))

/-- An attribute inside a type or another attribute is written as its number. -/
def writeAttributeNumber (attr : VhloAttr) : List UInt8 :=
  mlir.varInt.write (number (.attr attr))

/-- A list of types. -/
def writeTypes (types : List VhloType) : List UInt8 :=
  writeList mlir.varInt (writeTypeNumber mlir number) types

/-- A list of attributes. -/
def writeAttributes (attrs : List VhloAttr) : List UInt8 :=
  writeList mlir.varInt (writeAttributeNumber mlir number) attrs

/-- A list of signed numbers. -/
def writeSignedVarInts (values : List Int64) : List UInt8 :=
  writeList mlir.varInt mlir.signedVarInt.write values

/-- A number in a format that the reader knows. -/
def writeAPFloatWithKnownSemantics (value : APFloat) : List UInt8 :=
  (mlir.apFloat value.semantics).write value.bits

/-- A value of an enumeration. -/
def writeEnumAttribute {α : Type} [EnumTable α] (value : α) : List UInt8 :=
  mlir.varInt.write (EnumTable.number value)

/-- The bytes of an attribute. -/
def writeAttribute : VhloAttr → List UInt8
  | .arrayV1 value =>
    mlir.varInt.write AttributeCode.arrayV1.value ++ writeAttributes mlir number value
  | .booleanV1 value =>
    mlir.varInt.write AttributeCode.booleanV1.value ++ mlir.varInt.write (if value then 1 else 0)
  | .enumV1 (.comparisonDirectionV1 value) =>
    mlir.varInt.write AttributeCode.comparisonDirectionV1.value ++ writeEnumAttribute mlir value
  | .enumV1 (.comparisonTypeV1 value) =>
    mlir.varInt.write AttributeCode.comparisonTypeV1.value ++ writeEnumAttribute mlir value
  | .enumV1 (.customCallApiVersionV1 value) =>
    mlir.varInt.write AttributeCode.customCallApiVersionV1.value ++ writeEnumAttribute mlir value
  | .dictionaryV1 value =>
    mlir.varInt.write AttributeCode.dictionaryV1.value ++
      writeList mlir.varInt
        (fun entry =>
          writeAttributeNumber mlir number entry.1 ++ writeAttributeNumber mlir number entry.2)
        value
  | .enumV1 (.fftTypeV1 value) =>
    mlir.varInt.write AttributeCode.fftTypeV1.value ++ writeEnumAttribute mlir value
  | .floatV1 type value =>
    mlir.varInt.write AttributeCode.floatV1.value ++ writeTypeNumber mlir number type ++
      writeAPFloatWithKnownSemantics mlir value
  | .integerV1 type value =>
    mlir.varInt.write AttributeCode.integerV1.value ++ writeTypeNumber mlir number type ++
      (mlir.apInt value.width).write value.bits
  | .outputOperandAliasV1 outputTupleIndices operandIndex operandTupleIndices =>
    mlir.varInt.write AttributeCode.outputOperandAliasV1.value ++
      writeSignedVarInts mlir outputTupleIndices ++ mlir.signedVarInt.write operandIndex ++
      writeSignedVarInts mlir operandTupleIndices
  | .enumV1 (.precisionV1 value) =>
    mlir.varInt.write AttributeCode.precisionV1.value ++ writeEnumAttribute mlir value
  | .enumV1 (.rngAlgorithmV1 value) =>
    mlir.varInt.write AttributeCode.rngAlgorithmV1.value ++ writeEnumAttribute mlir value
  | .enumV1 (.rngDistributionV1 value) =>
    mlir.varInt.write AttributeCode.rngDistributionV1.value ++ writeEnumAttribute mlir value
  | .stringV1 value =>
    mlir.varInt.write AttributeCode.stringV1.value ++ mlir.string.write value
  | .tensorV1 type data =>
    mlir.varInt.write AttributeCode.tensorV1.value ++ writeTypeNumber mlir number type ++
      mlir.blob.write (writeVhloTensorV1Attr type data.rawData)
  | .enumV1 (.transposeV1 value) =>
    mlir.varInt.write AttributeCode.transposeV1.value ++ writeEnumAttribute mlir value
  | .typeV1 value =>
    mlir.varInt.write AttributeCode.typeV1.value ++ writeTypeNumber mlir number value
  | .typeExtensionsV1 bounds =>
    mlir.varInt.write AttributeCode.typeExtensionsV1.value ++ writeSignedVarInts mlir bounds
  | .enumV1 (.resultAccuracyModeV1 value) =>
    mlir.varInt.write AttributeCode.resultAccuracyModeV1.value ++ writeEnumAttribute mlir value
  | .resultAccuracyV1 atol rtol ulps mode =>
    mlir.varInt.write AttributeCode.resultAccuracyV1.value ++
      writeAPFloatWithKnownSemantics mlir atol ++ writeAPFloatWithKnownSemantics mlir rtol ++
      mlir.signedVarInt.write ulps ++ writeAttributeNumber mlir number mode
  | .subAxisInfoV1 preSize size =>
    mlir.varInt.write AttributeCode.subAxisInfoV1.value ++ mlir.signedVarInt.write preSize ++
      mlir.signedVarInt.write size
  | .axisRefV1 name subAxisInfo =>
    mlir.varInt.write AttributeCode.axisRefV1.value ++ writeAttributeNumber mlir number name ++
      match subAxisInfo with
      | some subAxisInfo => mlir.varInt.write 1 ++ writeAttributeNumber mlir number subAxisInfo
      | none => mlir.varInt.write 0
  | .replicaGroupMeshAxesV1 mesh axes =>
    mlir.varInt.write AttributeCode.replicaGroupMeshAxesV1.value ++
      writeAttributeNumber mlir number mesh ++ writeAttributeNumber mlir number axes
  | .meshAxisV1 name size =>
    mlir.varInt.write AttributeCode.meshAxisV1.value ++ writeAttributeNumber mlir number name ++
      mlir.signedVarInt.write size
  | .meshV1 axes deviceIds =>
    mlir.varInt.write AttributeCode.meshV1.value ++ writeAttributeNumber mlir number axes ++
      mlir.optional.write (deviceIds.map fun attr => number (.attr attr))

/-- The bytes of a type. -/
def writeType : VhloType → List UInt8
  | .scalar kind => mlir.varInt.write (TypeCode.scalar kind).value
  | .complexV1 elementType =>
    mlir.varInt.write TypeCode.complexV1.value ++ writeTypeNumber mlir number elementType
  | .functionV1 inputs outputs =>
    mlir.varInt.write TypeCode.functionV1.value ++ writeTypes mlir number inputs ++
      writeTypes mlir number outputs
  | .rankedTensorV1 shape elementType (some encoding) =>
    mlir.varInt.write TypeCode.rankedTensorV1WithEncoding.value ++
      writeAttributeNumber mlir number encoding ++ writeSignedVarInts mlir shape ++
      writeTypeNumber mlir number elementType
  | .rankedTensorV1 shape elementType none =>
    mlir.varInt.write TypeCode.rankedTensorV1.value ++ writeSignedVarInts mlir shape ++
      writeTypeNumber mlir number elementType
  | .futureV1 types =>
    mlir.varInt.write TypeCode.futureV1.value ++ writeTypes mlir number types
  | .tupleV1 types =>
    mlir.varInt.write TypeCode.tupleV1.value ++ writeTypes mlir number types
  | .uniformQuantizedPerAxisV1 flags storageType expressedType quantizedDimension scales
      zeroPoints storageTypeMin storageTypeMax =>
    mlir.varInt.write TypeCode.uniformQuantizedPerAxisV1.value ++
      mlir.varInt.write flags.toNat ++ writeTypeNumber mlir number storageType ++
      writeTypeNumber mlir number expressedType ++
      -- A signed number that is written as one without a sign.
      mlir.varInt.write quantizedDimension.toInt64.toUInt64.toNat ++
      mlir.signedVarInt.write storageTypeMin ++ mlir.signedVarInt.write storageTypeMax ++
      writeList mlir.varInt (writeAPFloatWithKnownSemantics mlir) scales ++
      writeSignedVarInts mlir zeroPoints
  | .uniformQuantizedV1 flags storageType expressedType scale zeroPoint storageTypeMin
      storageTypeMax =>
    mlir.varInt.write TypeCode.uniformQuantizedV1.value ++ mlir.varInt.write flags.toNat ++
      writeTypeNumber mlir number storageType ++ writeTypeNumber mlir number expressedType ++
      writeAPFloatWithKnownSemantics mlir scale ++ mlir.signedVarInt.write zeroPoint ++
      mlir.signedVarInt.write storageTypeMin ++ mlir.signedVarInt.write storageTypeMax
  | .unrankedTensorV1 elementType =>
    mlir.varInt.write TypeCode.unrankedTensorV1.value ++ writeTypeNumber mlir number elementType
  | .rankedBufferV1 shape elementType =>
    mlir.varInt.write TypeCode.rankedBufferV1.value ++ writeSignedVarInts mlir shape ++
      writeTypeNumber mlir number elementType

/-- The bytes of a type or an attribute. -/
def writeNode : VhloNode → List UInt8
  | .type type => writeType mlir number type
  | .attr attr => writeAttribute mlir number attr

end Writer

/-- The types and attributes that numbers stand for while others are read. -/
structure Resolver where
  /-- The type with a number. -/
  type : Nat → Option VhloType
  /-- The attribute with a number. -/
  attr : Nat → Option VhloAttr

section Reader

variable (mlir : Primitives) (resolver : Resolver)

/-- A type inside an attribute or another type. -/
def readTypeNumber : Reader VhloType := do
  let number ← mlir.varInt.read
  ofOption (resolver.type number)

/-- An attribute inside a type or another attribute. -/
def readAttributeNumber : Reader VhloAttr := do
  let number ← mlir.varInt.read
  ofOption (resolver.attr number)

/-- An attribute that may be absent. -/
def readOptionalAttribute : Reader (Option VhloAttr) := do
  let number ← mlir.optional.read
  match number with
  | none => pure none
  | some number => do
    let attr ← ofOption (resolver.attr number)
    pure (some attr)

/-- A list of types. -/
def readTypes : Reader (List VhloType) :=
  readList mlir.varInt (readTypeNumber mlir resolver)

/-- A list of attributes. -/
def readAttributes : Reader (List VhloAttr) :=
  readList mlir.varInt (readAttributeNumber mlir resolver)

/-- A list of signed numbers. -/
def readSignedVarInts : Reader (List Int64) :=
  readList mlir.varInt mlir.signedVarInt.read

/-- A number in a known format. -/
def readAPFloatWithKnownSemantics (semantics : FloatSemantics) : Reader APFloat := do
  let bits ← (mlir.apFloat semantics).read
  pure ⟨semantics, bits⟩

/-- A value of an enumeration, whose number has 32 bits. -/
def readEnumAttribute {α : Type} [EnumTable α] : Reader α := do
  let code ← mlir.varInt.read
  ofOption (EnumTable.symbolizeNumber (code % 2 ^ 32))

def readArrayV1Attr : Reader VhloAttr := do
  let elements ← readAttributes mlir resolver
  pure (.arrayV1 elements)

def readBooleanV1Attr : Reader VhloAttr := do
  let value ← mlir.varInt.read
  if value ≠ 0 ∧ value ≠ 1 then ofOption none else pure (.booleanV1 (value == 1))

def readDictionaryV1Attr : Reader VhloAttr := do
  let readNamedAttr := do
    let name ← readAttributeNumber mlir resolver
    let value ← readAttributeNumber mlir resolver
    pure (name, value)
  let entries ← readList mlir.varInt readNamedAttr
  pure (.dictionaryV1 entries)

def readFloatV1Attr : Reader VhloAttr := do
  let type ← readTypeNumber mlir resolver
  let semantics ← ofOption (getFloatSemantics type)
  let value ← readAPFloatWithKnownSemantics mlir semantics
  pure (.floatV1 type value)

def readIntegerV1Attr : Reader VhloAttr := do
  let type ← readTypeNumber mlir resolver
  let bitWidth ← ofOption (getStorageWidth type)
  let bits ← (mlir.apInt bitWidth).read
  pure (.integerV1 type ⟨bitWidth, bits⟩)

def readOutputOperandAliasV1Attr : Reader VhloAttr := do
  let outputTupleIndices ← readSignedVarInts mlir
  let operandIndex ← mlir.signedVarInt.read
  let operandTupleIndices ← readSignedVarInts mlir
  pure (.outputOperandAliasV1 outputTupleIndices operandIndex operandTupleIndices)

def readStringV1Attr : Reader VhloAttr := do
  let value ← mlir.string.read
  pure (.stringV1 value)

def readTensorV1Attr : Reader VhloAttr := do
  let type ← readTypeNumber mlir resolver
  let blob ← mlir.blob.read
  let data ← ofOption (getFromRawBuffer type (readVhloTensorV1Attr type blob))
  pure (.tensorV1 type data)

def readTypeV1Attr : Reader VhloAttr := do
  let type ← readTypeNumber mlir resolver
  pure (.typeV1 type)

def readTypeExtensionsV1Attr : Reader VhloAttr := do
  let bounds ← readSignedVarInts mlir
  pure (.typeExtensionsV1 bounds)

def readResultAccuracyV1Attr : Reader VhloAttr := do
  let atol ← readAPFloatWithKnownSemantics mlir .ieeeDouble
  let rtol ← readAPFloatWithKnownSemantics mlir .ieeeDouble
  let ulps ← mlir.signedVarInt.read
  let mode ← readAttributeNumber mlir resolver
  match mode with
  | .enumV1 (.resultAccuracyModeV1 _) => pure (.resultAccuracyV1 atol rtol ulps mode)
  | _ => ofOption none

def readSubAxisInfoV1Attr : Reader VhloAttr := do
  let preSize ← mlir.signedVarInt.read
  let size ← mlir.signedVarInt.read
  pure (.subAxisInfoV1 preSize size)

def readAxisRefV1Attr : Reader VhloAttr := do
  let name ← readAttributeNumber mlir resolver
  let hasSubAxisInfo ← mlir.varInt.read
  if hasSubAxisInfo ≠ 0 then do
    let subAxisInfo ← readAttributeNumber mlir resolver
    pure (.axisRefV1 name (some subAxisInfo))
  else pure (.axisRefV1 name none)

def readReplicaGroupMeshAxesV1Attr : Reader VhloAttr := do
  let mesh ← readAttributeNumber mlir resolver
  let axes ← readAttributeNumber mlir resolver
  pure (.replicaGroupMeshAxesV1 mesh axes)

def readMeshAxisV1Attr : Reader VhloAttr := do
  let name ← readAttributeNumber mlir resolver
  let size ← mlir.signedVarInt.read
  pure (.meshAxisV1 name size)

def readMeshV1Attr : Reader VhloAttr := do
  let axes ← readAttributeNumber mlir resolver
  let deviceIds ← readOptionalAttribute mlir resolver
  pure (.meshV1 axes deviceIds)

/-- An attribute of an enumeration. -/
def readEnumV1Attr {α : Type} [EnumTable α] (build : α → VhloEnumAttr) : Reader VhloAttr := do
  let value ← readEnumAttribute mlir
  pure (.enumV1 (build value))

/-- Read an attribute, by its code. -/
def readAttribute : Reader VhloAttr := do
  let code ← mlir.varInt.read
  match symbolize AttributeCode.all AttributeCode.value code with
  | some .arrayV1 => readArrayV1Attr mlir resolver
  | some .booleanV1 => readBooleanV1Attr mlir
  | some .comparisonDirectionV1 => readEnumV1Attr mlir .comparisonDirectionV1
  | some .comparisonTypeV1 => readEnumV1Attr mlir .comparisonTypeV1
  | some .customCallApiVersionV1 => readEnumV1Attr mlir .customCallApiVersionV1
  | some .dictionaryV1 => readDictionaryV1Attr mlir resolver
  | some .fftTypeV1 => readEnumV1Attr mlir .fftTypeV1
  | some .floatV1 => readFloatV1Attr mlir resolver
  | some .integerV1 => readIntegerV1Attr mlir resolver
  | some .outputOperandAliasV1 => readOutputOperandAliasV1Attr mlir
  | some .precisionV1 => readEnumV1Attr mlir .precisionV1
  | some .rngAlgorithmV1 => readEnumV1Attr mlir .rngAlgorithmV1
  | some .rngDistributionV1 => readEnumV1Attr mlir .rngDistributionV1
  | some .stringV1 => readStringV1Attr mlir
  | some .tensorV1 => readTensorV1Attr mlir resolver
  | some .transposeV1 => readEnumV1Attr mlir .transposeV1
  | some .typeV1 => readTypeV1Attr mlir resolver
  | some .typeExtensionsV1 => readTypeExtensionsV1Attr mlir
  | some .resultAccuracyModeV1 => readEnumV1Attr mlir .resultAccuracyModeV1
  | some .resultAccuracyV1 => readResultAccuracyV1Attr mlir resolver
  | some .subAxisInfoV1 => readSubAxisInfoV1Attr mlir
  | some .axisRefV1 => readAxisRefV1Attr mlir resolver
  | some .replicaGroupMeshAxesV1 => readReplicaGroupMeshAxesV1Attr mlir resolver
  | some .meshAxisV1 => readMeshAxisV1Attr mlir resolver
  | some .meshV1 => readMeshV1Attr mlir resolver
  -- An unknown attribute code.
  | none => ofOption none

def readComplexV1Type : Reader VhloType := do
  let elementType ← readTypeNumber mlir resolver
  pure (.complexV1 elementType)

def readFunctionV1Type : Reader VhloType := do
  let inputs ← readTypes mlir resolver
  let outputs ← readTypes mlir resolver
  pure (.functionV1 inputs outputs)

/-- The encoding of a ranked tensor type that has one. -/
def readEncoding (hasEncoding : Bool) : Reader (Option VhloAttr) :=
  if hasEncoding then do
    let encoding ← readAttributeNumber mlir resolver
    pure (some encoding)
  else pure none

def readRankedTensorV1Type (hasEncoding : Bool) : Reader VhloType := do
  let encoding ← readEncoding mlir resolver hasEncoding
  let shape ← readSignedVarInts mlir
  let elementType ← readTypeNumber mlir resolver
  pure (.rankedTensorV1 shape elementType encoding)

def readFutureV1Type : Reader VhloType := do
  let types ← readTypes mlir resolver
  pure (.futureV1 types)

def readTupleV1Type : Reader VhloType := do
  let elements ← readTypes mlir resolver
  pure (.tupleV1 elements)

def readUniformQuantizedPerAxisV1Type : Reader VhloType := do
  let flags ← mlir.varInt.read
  let storageType ← readTypeNumber mlir resolver
  let expressedType ← readTypeNumber mlir resolver
  let quantizedDimension ← mlir.varInt.read
  let storageTypeMin ← mlir.signedVarInt.read
  let storageTypeMax ← mlir.signedVarInt.read
  let scales ← readList mlir.varInt (readAPFloatWithKnownSemantics mlir .ieeeDouble)
  let zeroPoints ← readSignedVarInts mlir
  pure (.uniformQuantizedPerAxisV1 (.ofNat flags) storageType expressedType
    (.ofNat quantizedDimension) scales zeroPoints storageTypeMin storageTypeMax)

def readUniformQuantizedV1Type : Reader VhloType := do
  let flags ← mlir.varInt.read
  let storageType ← readTypeNumber mlir resolver
  let expressedType ← readTypeNumber mlir resolver
  let scale ← readAPFloatWithKnownSemantics mlir .ieeeDouble
  let zeroPoint ← mlir.signedVarInt.read
  let storageTypeMin ← mlir.signedVarInt.read
  let storageTypeMax ← mlir.signedVarInt.read
  pure (.uniformQuantizedV1 (.ofNat flags) storageType expressedType scale zeroPoint
    storageTypeMin storageTypeMax)

def readUnrankedTensorV1Type : Reader VhloType := do
  let elementType ← readTypeNumber mlir resolver
  pure (.unrankedTensorV1 elementType)

def readRankedBufferV1Type : Reader VhloType := do
  let shape ← readSignedVarInts mlir
  let elementType ← readTypeNumber mlir resolver
  pure (.rankedBufferV1 shape elementType)

/-- Read a type, by its code. -/
def readType : Reader VhloType := do
  let code ← mlir.varInt.read
  match symbolize TypeCode.all TypeCode.value code with
  | some (.scalar kind) => pure (.scalar kind)
  | some .complexV1 => readComplexV1Type mlir resolver
  | some .functionV1 => readFunctionV1Type mlir resolver
  | some .rankedTensorV1 => readRankedTensorV1Type mlir resolver false
  | some .rankedTensorV1WithEncoding => readRankedTensorV1Type mlir resolver true
  | some .futureV1 => readFutureV1Type mlir resolver
  | some .tupleV1 => readTupleV1Type mlir resolver
  | some .uniformQuantizedPerAxisV1 => readUniformQuantizedPerAxisV1Type mlir resolver
  | some .uniformQuantizedV1 => readUniformQuantizedV1Type mlir resolver
  | some .unrankedTensorV1 => readUnrankedTensorV1Type mlir resolver
  | some .rankedBufferV1 => readRankedBufferV1Type mlir resolver
  -- An unknown type code.
  | none => ofOption none

end Reader

end Stablehlo
