import Stablehlo.Dialect.Enums
import Stablehlo.Dialect.Types

/-! The attributes of StableHLO programs. -/

namespace Stablehlo

/-- The dimension information for scatter. -/
structure ScatterDimensionNumbers where
  updateWindowDims : List Int64
  insertedWindowDims : List Int64
  inputBatchingDims : List Int64
  scatterIndicesBatchingDims : List Int64
  scatterDimsToOperandDims : List Int64
  indexVectorDim : Int64
  deriving DecidableEq

/-- The dimension information for gather. -/
structure GatherDimensionNumbers where
  offsetDims : List Int64
  collapsedSliceDims : List Int64
  operandBatchingDims : List Int64
  startIndicesBatchingDims : List Int64
  startIndexMap : List Int64
  indexVectorDim : Int64
  deriving DecidableEq

/-- The dimension information for dot. -/
structure DotDimensionNumbers where
  lhsBatchingDimensions : List Int64
  rhsBatchingDimensions : List Int64
  lhsContractingDimensions : List Int64
  rhsContractingDimensions : List Int64
  deriving DecidableEq

/-- The dimension information for convolution. -/
structure ConvDimensionNumbers where
  inputBatchDimension : Int64
  inputFeatureDimension : Int64
  inputSpatialDimensions : List Int64
  kernelInputFeatureDimension : Int64
  kernelOutputFeatureDimension : Int64
  kernelSpatialDimensions : List Int64
  outputBatchDimension : Int64
  outputFeatureDimension : Int64
  outputSpatialDimensions : List Int64
  deriving DecidableEq

/-- The algorithm constraints to use for computing dot. -/
structure DotAlgorithm where
  lhsPrecisionType : StablehloType
  rhsPrecisionType : StablehloType
  accumulationType : StablehloType
  lhsComponentCount : Int64
  rhsComponentCount : Int64
  numPrimitiveOperations : Int64
  allowImpreciseAccumulation : Bool

/-- A channel that processes communicate over. -/
structure ChannelHandle where
  handle : Int64
  type : Int64
  deriving DecidableEq

/-- The attributes that are a value of an enumeration of StableHLO. -/
inductive StablehloEnumAttr where
  | comparisonDirection (value : ComparisonDirection)
  | comparisonType (value : ComparisonType)
  | customCallApiVersion (value : CustomCallApiVersion)
  | fftType (value : FftType)
  | precision (value : Precision)
  | rngAlgorithm (value : RngAlgorithm)
  | rngDistribution (value : RngDistribution)
  | transpose (value : Transpose)
  | resultAccuracyMode (value : ResultAccuracyMode)
  deriving DecidableEq

/-- An attribute of a StableHLO program. -/
inductive StablehloAttr where
  | enum (value : StablehloEnumAttr)
  | outputOperandAlias (outputTupleIndices : List Int64) (operandIndex : Int64)
      (operandTupleIndices : List Int64)
  | resultAccuracy (atol rtol : APFloat) (ulps : Int64) (mode : ResultAccuracyMode)
  | subAxisInfo (preSize size : Int64)
  /-- The sub-axis is given by its `pre_size` and its size. -/
  | axisRef (name : String) (subAxisInfo : Option (Int64 × Int64))
  | meshAxis (name : String) (size : Int64)
  /-- The axes are given by their names and sizes. -/
  | mesh (axes : List (String × Int64)) (deviceIds : Option DenseElementsAttr)
  | replicaGroupMeshAxes (mesh : StablehloAttr) (axes : List StablehloAttr)
  | scatterDimensionNumbers (value : ScatterDimensionNumbers)
  | gatherDimensionNumbers (value : GatherDimensionNumbers)
  | dotDimensionNumbers (value : DotDimensionNumbers)
  | convDimensionNumbers (value : ConvDimensionNumbers)
  | dotAlgorithm (value : DotAlgorithm)
  | channelHandle (value : ChannelHandle)
  | typeExtensions (bounds : List Int64)
  | array (value : List StablehloAttr)
  | denseElements (value : DenseElementsAttr)
  | denseI64Array (value : List Int64)
  | denseBoolArray (value : List Bool)
  /-- The entries are sorted by name. -/
  | dictionary (value : List (String × StablehloAttr))
  /-- The type is that of the format of the value. -/
  | float (value : APFloat)
  /-- One bit without a sign is a `BoolAttr`. -/
  | integer (signedness : Signedness) (width : Nat) (value : BitVec width)
  /-- An integer of the index type. -/
  | index (value : BitVec 64)
  | flatSymbolRef (value : String)
  /-- Strings without a type have the none type. -/
  | string (value : String) (type : StablehloType)
  | type (value : StablehloType)
  /-- An attribute that has no counterpart in VHLO, such as a unit or one of another dialect. -/
  | other (name : String)

namespace StablehloAttr

/-- A boolean attribute. -/
def bool (value : Bool) : StablehloAttr :=
  .integer .signless 1 (BitVec.ofBool value)

/-- The attributes directly inside an attribute. -/
def members : StablehloAttr → List StablehloAttr
  | .replicaGroupMeshAxes ofMesh axes => ofMesh :: axes
  | .array value => value
  | .dictionary value => value.map Prod.snd
  | _ => []

/-- Members are smaller. -/
theorem sizeOf_lt_of_mem (attr member : StablehloAttr) (listed : member ∈ attr.members) :
    sizeOf member < sizeOf attr := by
  cases attr with
  | replicaGroupMeshAxes mesh axes =>
    simp only [members, List.mem_cons] at listed
    simp only [replicaGroupMeshAxes.sizeOf_spec]
    rcases listed with rfl | inAxes
    · omega
    · have := List.sizeOf_lt_of_mem inAxes
      omega
  | array value =>
    have : sizeOf member < sizeOf value := List.sizeOf_lt_of_mem listed
    simp only [array.sizeOf_spec]
    omega
  | dictionary value =>
    obtain ⟨⟨name, entry⟩, inValue, rfl⟩ := List.mem_map.mp listed
    have := List.sizeOf_lt_of_mem inValue
    simp only [Prod.mk.sizeOf_spec] at this
    simp only [dictionary.sizeOf_spec]
    omega
  | _ => cases listed

/-- An attribute that is itself, or is nested anywhere in, another one. -/
def Inside : StablehloAttr → StablehloAttr → Prop :=
  Nesting.Nested members

end StablehloAttr

end Stablehlo
