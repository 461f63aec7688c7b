import Stablehlo.Support.Nesting
import Stablehlo.Vhlo.Types

/-! The types of StableHLO programs. -/

namespace Stablehlo

/-- The encoding of a ranked tensor type. -/
inductive Encoding where
  /-- StableHLO's `type_extensions`, with a bound for each dimension. -/
  | typeExtensions (bounds : List Int64)
  /-- An attribute of the VHLO dialect. -/
  | vhlo (value : VhloAttr)
  /-- An attribute of another dialect. -/
  | other (name : String)
  deriving DecidableEq

/-- The layout of a memref. -/
inductive MemRefLayout where
  | identity
  | other (map : String)
  deriving DecidableEq, Repr

/-- A type of a StableHLO program. -/
inductive StablehloType where
  | integer (signedness : Signedness) (width : Nat)
  | float (semantics : FloatSemantics)
  | index
  | noneType
  | complex (elementType : StablehloType)
  | function (inputs results : List StablehloType)
  | tuple (types : List StablehloType)
  | rankedTensor (shape : List Int64) (elementType : StablehloType) (encoding : Option Encoding)
  | unrankedTensor (elementType : StablehloType)
  | memRef (shape : List Int64) (elementType : StablehloType) (layout : MemRefLayout)
      (memorySpace : Option String)
  /-- The scale is a double. -/
  | uniformQuantized (flags : UInt32) (storageType expressedType : StablehloType)
      (scale : BitVec 64) (zeroPoint storageTypeMin storageTypeMax : Int64)
  /-- The scales are doubles. -/
  | uniformQuantizedPerAxis (flags : UInt32) (storageType expressedType : StablehloType)
      (scales : List (BitVec 64)) (zeroPoints : List Int64) (quantizedDimension : Int32)
      (storageTypeMin storageTypeMax : Int64)
  | witness
  | token
  | future (types : List StablehloType)
  /-- A type of the VHLO dialect. -/
  | vhlo (value : VhloType)
  /-- A type of another dialect, or a builtin type that has no counterpart in VHLO. -/
  | other (name : String)

/-- How the framework prints types in diagnostics. -/
class TypePrinter where
  debugString : StablehloType → String

/-- A printer that tells no types apart. -/
abbrev plainPrinter : TypePrinter := ⟨fun _ => "type"⟩

namespace StablehloType

/-- The types directly inside a type. -/
def members : StablehloType → List StablehloType
  | .integer .. | .float _ | .index | .noneType | .witness | .token | .vhlo _ | .other _ => []
  | .complex elementType | .rankedTensor _ elementType _ | .unrankedTensor elementType
  | .memRef _ elementType _ _ => [elementType]
  | .function inputs results => inputs ++ results
  | .tuple types | .future types => types
  | .uniformQuantized _ storageType expressedType ..
  | .uniformQuantizedPerAxis _ storageType expressedType .. => [storageType, expressedType]

/-- Members are smaller. -/
theorem sizeOf_lt_of_mem (type member : StablehloType) (listed : member ∈ type.members) :
    sizeOf member < sizeOf type := by
  cases type with
  | function inputs results =>
    simp only [members, List.mem_append] at listed
    simp only [function.sizeOf_spec]
    rcases listed with input | result
    · have := List.sizeOf_lt_of_mem input
      omega
    · have := List.sizeOf_lt_of_mem result
      omega
  | tuple types | future types =>
    have : sizeOf member < sizeOf types := List.sizeOf_lt_of_mem listed
    simp only [tuple.sizeOf_spec, future.sizeOf_spec]
    omega
  | complex | rankedTensor | unrankedTensor | memRef | uniformQuantized
  | uniformQuantizedPerAxis =>
    simp only [members, List.mem_cons, List.not_mem_nil, or_false] at listed
    rcases listed with rfl | rfl <;> simp <;> omega
  | integer | float | index | noneType | witness | token | vhlo | other => cases listed

/-- A type that is itself, or is nested anywhere in, another one. -/
def Inside : StablehloType → StablehloType → Prop :=
  Nesting.Nested members

/-- The number of bits of an integer or a float; other types fail an assertion of the source. -/
def getIntOrFloatBitWidth : StablehloType → Option Nat
  | .integer _ width => some width
  | .float semantics => some semantics.sizeInBits
  | _ => none

end StablehloType

mutual

/-- Whether two lists of types are the same. -/
def StablehloType.allSame : List StablehloType → List StablehloType → Bool
  | [], [] => true
  | type :: types, second :: others => type.same second && StablehloType.allSame types others
  | _, _ => false
termination_by structural first => first

/-- Whether two types are the same. -/
def StablehloType.same : StablehloType → StablehloType → Bool
  | .integer signedness width, .integer signedness' width' =>
    signedness == signedness' && width == width'
  | .float semantics, .float semantics' => semantics == semantics'
  | .index, .index | .noneType, .noneType | .witness, .witness | .token, .token => true
  | .complex elementType, .complex elementType' => elementType.same elementType'
  | .function inputs results, .function inputs' results' =>
    StablehloType.allSame inputs inputs' && StablehloType.allSame results results'
  | .tuple types, .tuple types' | .future types, .future types' =>
    StablehloType.allSame types types'
  | .rankedTensor shape elementType encoding, .rankedTensor shape' elementType' encoding' =>
    shape == shape' && elementType.same elementType' && encoding == encoding'
  | .unrankedTensor elementType, .unrankedTensor elementType' => elementType.same elementType'
  | .memRef shape elementType layout memorySpace, .memRef shape' elementType' layout' memorySpace' =>
    shape == shape' && elementType.same elementType' && layout == layout' &&
      memorySpace == memorySpace'
  | .uniformQuantized flags storageType expressedType scale zeroPoint min max,
    .uniformQuantized flags' storageType' expressedType' scale' zeroPoint' min' max' =>
    storageType.same storageType' && expressedType.same expressedType' &&
      (flags, scale, zeroPoint, min, max) == (flags', scale', zeroPoint', min', max')
  | .uniformQuantizedPerAxis flags storageType expressedType scales zeroPoints dimension min max,
    .uniformQuantizedPerAxis flags' storageType' expressedType' scales' zeroPoints' dimension'
      min' max' =>
    storageType.same storageType' && expressedType.same expressedType' &&
      (flags, scales, zeroPoints, dimension, min, max) ==
        (flags', scales', zeroPoints', dimension', min', max')
  | .vhlo value, .vhlo value' => value == value'
  | .other name, .other name' => name == name'
  | _, _ => false
termination_by structural first => first

end

namespace StablehloType

/-- Lists whose members are compared correctly are. -/
theorem allSame_iff {types : List StablehloType}
    (compared : ∀ member ∈ types, ∀ other, member.same other = true ↔ member = other)
    (others : List StablehloType) : allSame types others = true ↔ types = others := by
  induction types generalizing others with
  | nil => cases others <;> simp [allSame]
  | cons type types ih =>
    -- The first types are compared, and then the rest of the lists.
    cases others with
    | nil => simp [allSame]
    | cons other others =>
      rw [allSame, Bool.and_eq_true, compared type (by simp),
        ih (fun member listed => compared member (by simp [listed])), List.cons.injEq]

/-- A type is compared correctly when its members are. -/
theorem same_iff_of_members (type : StablehloType)
    (compared : ∀ member ∈ type.members, ∀ other, member.same other = true ↔ member = other)
    (other : StablehloType) : type.same other = true ↔ type = other := by
  cases type with
  | function inputs results =>
    rw [members, List.forall_mem_append] at compared
    cases other <;> simp [same, allSame_iff compared.1, allSame_iff compared.2]
  | tuple types | future types =>
    rw [members] at compared
    cases other <;> simp [same, allSame_iff compared]
  | complex elementType | unrankedTensor elementType =>
    have element := compared elementType (by simp [members])
    cases other <;> simp [same, element]
  | rankedTensor _ elementType | memRef _ elementType =>
    have element := compared elementType (by simp [members])
    cases other <;> simp [same, element, and_assoc]
  | uniformQuantized _ storageType expressedType
  | uniformQuantizedPerAxis _ storageType expressedType =>
    have storage := compared storageType (by simp [members])
    have expressed := compared expressedType (by simp [members])
    cases other <;> simp [same, storage, expressed, and_assoc, and_comm, and_left_comm]
  | integer | float | index | noneType | witness | token | vhlo | other =>
    cases other <;> simp [same]

/-- Types that compare as the same are. -/
theorem same_iff (type other : StablehloType) : type.same other = true ↔ type = other := by
  -- The members of a type are smaller than the type.
  induction bound : sizeOf type using Nat.strongRecOn generalizing type other with
  | ind size ih =>
    refine same_iff_of_members type (fun member listed inner => ?_) other
    have smaller := sizeOf_lt_of_mem type member listed
    exact ih (sizeOf member) (by omega) member inner rfl

end StablehloType

instance : DecidableEq StablehloType := fun type other =>
  decidable_of_iff (type.same other = true) (StablehloType.same_iff type other)

end Stablehlo
