import Stablehlo.Dialect.Types
import Stablehlo.Reference.Tensor
import Stablehlo.Support.BitBlocks

/-! Elements of the interpreter's tensors, and the bits they consist of. -/

namespace Stablehlo

open TypePrinter

section Types

/-- The widths of the integer types the interpreter supports. -/
def supportedIntegerWidths : List Nat := [2, 4, 8, 16, 32, 64]

/-- The unsigned integer types the interpreter supports. -/
def isSupportedUnsignedIntegerType : StablehloType → Bool
  | .integer .unsigned width => supportedIntegerWidths.contains width
  | _ => false

/-- The signed integer types the interpreter supports, which are signless ones. -/
def isSupportedSignedIntegerType : StablehloType → Bool
  | .integer .signless width => supportedIntegerWidths.contains width
  | _ => false

/-- The boolean type. -/
def isSupportedBooleanType : StablehloType → Bool
  | .integer .signless width => width == 1
  | _ => false

/-- The integer types the interpreter supports. -/
def isSupportedIntegerType (type : StablehloType) : Bool :=
  isSupportedUnsignedIntegerType type || isSupportedSignedIntegerType type

/-- The float types the interpreter supports. -/
def isSupportedFloatType : StablehloType → Bool
  | .float semantics => semantics != .floatTF32
  | _ => false

/-- The complex types the interpreter supports. -/
def isSupportedComplexType : StablehloType → Bool
  | .complex (.float semantics) => semantics == .ieeeSingle || semantics == .ieeeDouble
  | _ => false

/-- The element types of the interpreter's tensors. -/
def isSupportedType (type : StablehloType) : Bool :=
  isSupportedBooleanType type || isSupportedIntegerType type || isSupportedFloatType type ||
    isSupportedComplexType type

/-- The number of bits of the elements of a type. -/
def numBits : StablehloType → Except Failure Nat
  | .complex elementType =>
    if isSupportedComplexType (.complex elementType) then do
      let width ← numBits elementType
      .ok (width * 2)
    else
      .error .undefinedBehavior
  | type =>
    match type.getIntOrFloatBitWidth with
    | some width => .ok width
    | none => .error .undefinedBehavior

end Types

/-- What an element may hold. -/
inductive ElementValue where
  | integer (value : APInt)
  | boolean (value : Bool)
  | float (value : APFloat)
  | complex (real imag : APFloat)
  deriving DecidableEq

/-- The value is one of the type. -/
def ElementValue.fits : ElementValue → StablehloType → Bool
  | .integer value, type =>
    isSupportedIntegerType type && type.getIntOrFloatBitWidth == some value.width
  | .boolean _, type => isSupportedBooleanType type
  | .float value, .float semantics =>
    isSupportedFloatType (.float semantics) && value.semantics == semantics
  | .complex real imag, .complex (.float semantics) =>
    isSupportedComplexType (.complex (.float semantics)) && real.semantics == semantics &&
      imag.semantics == semantics
  | _, _ => false

/-- An element of a tensor: a value of a supported type. -/
structure Element where
  type : StablehloType
  value : ElementValue
  /-- The value is one of the type. -/
  fits : value.fits type = true

/-- A type of tensors with known sizes. -/
structure ShapedType where
  shape : Sizes
  elementType : StablehloType

/-- A tensor with the type of its elements. -/
structure TypedTensor where
  elementType : StablehloType
  elements : Tensor Element
  /-- The elements are of the type. -/
  typed : ∀ element ∈ elements.data, element.type = elementType

/-- The type of a tensor. -/
def TypedTensor.type (tensor : TypedTensor) : ShapedType :=
  { shape := tensor.elements.shape, elementType := tensor.elementType }

/-- Extract bits, the lowest of which is at the position. The source asserts that they exist. -/
def APInt.extractBits (value : APInt) (numBits bitPosition : Nat) : APInt :=
  ⟨numBits, value.bits.extractLsb' bitPosition numBits⟩

namespace Element

variable [TypePrinter]

/-- The failure of a constructor that is not for the type. -/
def unsupported (type : StablehloType) : Failure :=
  .fatalError s!"Unsupported element type: {debugString type}"

/-- An element of an integer type. -/
def ofInteger (type : StablehloType) (value : APInt) : Except Failure Element :=
  if supported : isSupportedIntegerType type = true then
    if same : type.getIntOrFloatBitWidth = some value.width then
      .ok { type, value := .integer value, fits := by simp [ElementValue.fits, supported, same] }
    else
      .error (.fatalError (s!"Bit width mismatch. Type: {type.getIntOrFloatBitWidth.getD 0}, " ++
        s!"Value: {value.width}"))
  else
    .error (unsupported type)

/-- An element of the boolean type. -/
def ofBoolean (type : StablehloType) (value : Bool) : Except Failure Element :=
  if supported : isSupportedBooleanType type = true then
    .ok { type, value := .boolean value, fits := supported }
  else
    .error (unsupported type)

/-- An element of a float type. -/
def ofFloat (type : StablehloType) (value : APFloat) : Except Failure Element :=
  if isSupportedFloatType type then
    if fits : (ElementValue.float value).fits type = true then
      .ok { type, value := .float value, fits }
    else
      .error (.fatalError "Semantics mismatch between provided type and float value")
  else
    .error (unsupported type)

/-- An element of a complex type. -/
def ofComplex (type : StablehloType) (real imag : APFloat) : Except Failure Element :=
  if isSupportedComplexType type then
    if fits : (ElementValue.complex real imag).fits type = true then
      .ok { type, value := .complex real imag, fits }
    else
      .error (.fatalError "Semantics mismatch between provided type and complex value")
  else
    .error (unsupported type)

/-- The integer an element holds. -/
def getIntegerValue (element : Element) : Except Failure APInt :=
  match element.value with
  | .integer value => .ok value
  | _ => .error (.fatalError "Element is not an integer")

/-- The float an element holds. -/
def getFloatValue (element : Element) : Except Failure APFloat :=
  match element.value with
  | .float value => .ok value
  | _ => .error (.fatalError "Element is not a floating-point")

/-- The bits of an element. -/
def toBits (element : Element) : APInt :=
  match element.value with
  | .boolean value => ⟨1, if value then 1 else 0⟩
  | .integer value => value
  | .float value => ⟨value.semantics.sizeInBits, value.bits⟩
  | .complex real imag =>
    -- The real part is in the low half of the bits, the imaginary part in the high half.
    let numBits := real.semantics.sizeInBits * 2
    ⟨numBits, imag.bits.setWidth numBits <<< (numBits / 2) + real.bits.setWidth numBits⟩

/-- The element of the type that consists of the bits. -/
def fromBits : StablehloType → APInt → Except Failure Element
  | .complex elementType, value => do
    let width ← numBits (.complex elementType)
    if width ≠ value.width then
      .error (.fatalError "numBits(type) != bits.getBitWidth()")
    else if isSupportedComplexType (.complex elementType) then do
      let realElement ← fromBits elementType (value.extractBits (width / 2) 0)
      let imagElement ← fromBits elementType (value.extractBits (width / 2) (width / 2))
      let real ← realElement.getFloatValue
      let imag ← imagElement.getFloatValue
      ofComplex (.complex elementType) real imag
    else
      .error (unsupported (.complex elementType))
  | type, value => do
    let width ← numBits type
    if width ≠ value.width then
      .error (.fatalError "numBits(type) != bits.getBitWidth()")
    else if isSupportedBooleanType type then
      ofBoolean type (value.bits.toNat != 0)
    else if isSupportedIntegerType type then
      ofInteger type value
    else
      match type with
      | .float semantics =>
        if isSupportedFloatType type then
          ofFloat type ⟨semantics, value.bits.setWidth semantics.sizeInBits⟩
        else
          .error (unsupported type)
      | _ => .error (unsupported type)

end Element

/-- An integer is given by its number of bits and its number. -/
theorem APInt.eq_ofNat {value : APInt} {width : Nat} (same : value.width = width) :
    value = ⟨width, BitVec.ofNat width value.bits.toNat⟩ := by
  obtain ⟨_, bits⟩ := value
  cases same
  simp

/-- Extracted bits are digits of the number. -/
theorem APInt.extractBits_eq (value : APInt) (width position : Nat) :
    value.extractBits width position =
      ⟨width, BitVec.ofNat width (value.bits.toNat / 2 ^ position % 2 ^ width)⟩ := by
  rw [extractBits]
  congr 1
  apply BitVec.eq_of_toNat_eq
  rw [BitVec.extractLsb'_toNat, BitVec.toNat_ofNat, Nat.shiftRight_eq_div_pow, Nat.mod_mod]

/-- Every format has bits. -/
theorem sizeInBits_pos (semantics : FloatSemantics) : 0 < semantics.sizeInBits := by
  cases semantics <;> decide

/-- A supported complex type has parts of a supported float type. -/
theorem complex_of_supported {elementType : StablehloType}
    (supported : isSupportedType (.complex elementType) = true) :
    isSupportedComplexType (.complex elementType) = true := by
  simpa [isSupportedType, isSupportedBooleanType, isSupportedIntegerType,
    isSupportedUnsignedIntegerType, isSupportedSignedIntegerType, isSupportedFloatType]
    using supported

/-- The elements of a supported type have some number of bits. -/
theorem numBits_of_supported {type : StablehloType} (supported : isSupportedType type = true) :
    ∃ width, 0 < width ∧ numBits type = .ok width := by
  cases type with
  | integer signedness width =>
    refine ⟨width, ?_, rfl⟩
    -- No supported width is zero.
    rcases Nat.eq_zero_or_pos width with rfl | positive
    · cases signedness <;> cases supported
    · exact positive
  | float semantics => exact ⟨semantics.sizeInBits, sizeInBits_pos semantics, rfl⟩
  | complex elementType =>
    have pair := complex_of_supported supported
    cases elementType with
    | float semantics =>
      have positive := sizeInBits_pos semantics
      refine ⟨semantics.sizeInBits * 2, by omega, ?_⟩
      rw [numBits, if_pos pair]
      rfl
    | _ => cases pair
  | _ => cases supported

/-- The widths of integer types. -/
theorem width_of_supported {signedness : Signedness} {width : Nat}
    (supported : isSupportedIntegerType (.integer signedness width) = true) :
    2 ≤ width ∧ width ≤ 64 := by
  have listed : width ∈ supportedIntegerWidths := by
    cases signedness with
    | signed => cases supported
    | _ =>
      simpa [isSupportedIntegerType, isSupportedUnsignedIntegerType,
        isSupportedSignedIntegerType] using supported
  simp only [supportedIntegerWidths, List.mem_cons, List.not_mem_nil, or_false] at listed
  omega

namespace ElementValue

/-- What the values of each type are. -/
inductive Of : StablehloType → ElementValue → Prop
  | integer {signedness : Signedness} {value : APInt}
    (supported : isSupportedIntegerType (.integer signedness value.width) = true) :
    Of (.integer signedness value.width) (.integer value)
  | boolean (value : Bool) : Of (.integer .signless 1) (.boolean value)
  | float {value : APFloat} (supported : isSupportedFloatType (.float value.semantics) = true) :
    Of (.float value.semantics) (.float value)
  | complex {semantics : FloatSemantics} (real imag : BitVec semantics.sizeInBits)
    (supported : isSupportedComplexType (.complex (.float semantics)) = true) :
    Of (.complex (.float semantics)) (.complex ⟨semantics, real⟩ ⟨semantics, imag⟩)

/-- A value that fits a type is one of its values. -/
theorem of_fits {value : ElementValue} {type : StablehloType} (fits : value.fits type = true) :
    Of type value := by
  cases value with
  | integer value =>
    simp only [ElementValue.fits, Bool.and_eq_true, beq_iff_eq] at fits
    cases type with
    | integer signedness width =>
      obtain ⟨supported, same⟩ := fits
      cases same
      exact .integer supported
    | float semantics => cases fits.1
    | _ => cases fits.2
  | boolean value =>
    cases type with
    | integer signedness width =>
      cases signedness with
      | signless =>
        have one : width = 1 := by simpa [ElementValue.fits, isSupportedBooleanType] using fits
        rw [one]
        exact .boolean value
      | _ => cases fits
    | _ => cases fits
  | float value =>
    cases type with
    | float semantics =>
      simp only [ElementValue.fits, Bool.and_eq_true, beq_iff_eq] at fits
      obtain ⟨supported, same⟩ := fits
      cases same
      exact .float supported
    | _ => cases fits
  | complex real imag =>
    cases type with
    | complex elementType =>
      cases elementType with
      | float semantics =>
        simp only [ElementValue.fits, Bool.and_eq_true, beq_iff_eq] at fits
        obtain ⟨realSemantics, real⟩ := real
        obtain ⟨imagSemantics, imag⟩ := imag
        obtain ⟨⟨supported, rfl⟩, same⟩ := fits
        cases same
        exact .complex real imag supported
      | _ => cases fits
    | _ => cases fits

end ElementValue

namespace Element

/-- An element has the bits of its type. -/
theorem numBits_type (element : Element) : numBits element.type = .ok element.toBits.width := by
  obtain ⟨type, value, fits⟩ := element
  cases ElementValue.of_fits fits with
  | integer | float | boolean => rfl
  | complex real imag supported =>
    show numBits (.complex _) = _
    rw [numBits, if_pos supported]
    rfl

/-- Elements are equal when their types and values are. -/
theorem ext_value {first second : Element} (sameType : first.type = second.type)
    (sameValue : first.value = second.value) : first = second := by
  cases first
  cases second
  simp_all

/-- The two parts of a complex number are the two halves of its bits. -/
theorem toNat_pair {width : Nat} (positive : 0 < width) (real imag : BitVec width) :
    (imag.setWidth (width * 2) <<< (width * 2 / 2) + real.setWidth (width * 2)).toNat =
      Nat.ofDigits (2 ^ width) [real.toNat, imag.toNat] := by
  have half : width * 2 / 2 = width := by omega
  have small : ∀ block ∈ [real.toNat, imag.toNat], block < 2 ^ width := by
    simp [real.isLt, imag.isLt]
  rw [← @BitBlocks.toNat_join (width * 2) width _ positive small (by simp)]
  simp [BitBlocks.join, half]

/-- The halves of the bits of a complex number are its two parts. -/
theorem split_pair {width : Nat} (real imag : BitVec width) :
    BitBlocks.split (2 ^ width) 2 (Nat.ofDigits (2 ^ width) [real.toNat, imag.toNat]) =
      [real.toNat, imag.toNat] :=
  @BitBlocks.split_ofDigits _ [real.toNat, imag.toNat] (by simp [real.isLt, imag.isLt])

/-- There is an element with any bits. -/
theorem exists_toBits {type : StablehloType} (supported : isSupportedType type = true)
    {bits : APInt} (width : numBits type = .ok bits.width) :
    ∃ element : Element, element.type = type ∧ element.toBits = bits := by
  obtain ⟨width', bits⟩ := bits
  cases type with
  | integer signedness width' =>
    cases width
    by_cases boolean : isSupportedBooleanType (.integer signedness width') = true
    · refine ⟨⟨_, .boolean (bits != 0), boolean⟩, rfl, ?_⟩
      cases signedness with
      | signless =>
        have one : width' = 1 := by simpa [isSupportedBooleanType] using boolean
        subst one
        -- A single bit is zero or one.
        have cases : ∀ bit : BitVec 1, (if bit != 0 then 1 else 0) = bit := by decide
        show (⟨1, if bits != 0 then 1 else 0⟩ : APInt) = ⟨1, bits⟩
        rw [cases bits]
      | _ => cases boolean
    · have integer : isSupportedIntegerType (.integer signedness width') = true := by
        simpa [isSupportedType, boolean, isSupportedFloatType, isSupportedComplexType]
          using supported
      refine ⟨⟨_, .integer ⟨width', bits⟩, ?_⟩, rfl, rfl⟩
      simp [ElementValue.fits, integer, StablehloType.getIntOrFloatBitWidth]
  | float semantics =>
    cases width
    refine ⟨⟨_, .float ⟨semantics, bits⟩, ?_⟩, rfl, rfl⟩
    simpa [ElementValue.fits, isSupportedType, isSupportedBooleanType, isSupportedIntegerType,
      isSupportedUnsignedIntegerType, isSupportedSignedIntegerType, isSupportedComplexType]
      using supported
  | complex elementType =>
    have pair := complex_of_supported supported
    cases elementType with
    | float semantics =>
      rw [numBits, if_pos pair] at width
      have same : semantics.sizeInBits * 2 = width' := Except.ok.inj width
      subst same
      have positive := sizeInBits_pos semantics
      refine ⟨⟨_, .complex ⟨semantics, BitVec.ofNat _ bits.toNat⟩
        ⟨semantics, BitVec.ofNat _ (bits.toNat / 2 ^ semantics.sizeInBits)⟩, ?_⟩,
        rfl, ?_⟩
      · simp [ElementValue.fits, pair]
      · show APInt.mk (semantics.sizeInBits * 2) _ = ⟨semantics.sizeInBits * 2, bits⟩
        congr 1
        apply BitVec.eq_of_toNat_eq
        have below : bits.toNat < 2 ^ semantics.sizeInBits * 2 ^ semantics.sizeInBits := by
          rw [← Nat.pow_add, ← Nat.mul_two]
          exact bits.isLt
        rw [toNat_pair positive]
        -- Both halves are digits of the number, and there are no more digits.
        simp only [BitVec.toNat_ofNat, Nat.ofDigits_cons, Nat.ofDigits_nil, Nat.mul_zero,
          Nat.add_zero]
        rw [Nat.mod_eq_of_lt (Nat.div_lt_of_lt_mul below)]
        exact Nat.mod_add_div _ _
    | _ => cases pair
  | _ => cases supported

variable [TypePrinter]

/-- An element is found again from its bits. -/
theorem fromBits_toBits (element : Element) :
    fromBits element.type element.toBits = .ok element := by
  obtain ⟨type, value, fits⟩ := element
  cases ElementValue.of_fits fits with
  | @integer signedness value supported =>
    -- One bit is that of a boolean, and of no supported integer.
    have notBoolean : isSupportedBooleanType (.integer signedness value.width) = false := by
      by_contra boolean
      cases signedness with
      | signless =>
        have one : value.width = 1 := by simpa [isSupportedBooleanType] using boolean
        rw [one] at supported
        cases supported
      | _ => simp [isSupportedBooleanType] at boolean
    simp [fromBits, numBits, toBits, StablehloType.getIntOrFloatBitWidth, ofInteger, notBoolean,
      supported]
  | boolean value => cases value <;> rfl
  | @float value supported =>
    simp [fromBits, numBits, toBits, StablehloType.getIntOrFloatBitWidth, ofFloat,
      isSupportedBooleanType, supported, isSupportedIntegerType, isSupportedUnsignedIntegerType,
      isSupportedSignedIntegerType, fits]
  | @complex semantics real imag supported =>
    rw [fromBits, numBits, if_pos supported]
    have positive := sizeInBits_pos semantics
    have split := split_pair real imag
    rw [← toNat_pair positive real imag, BitBlocks.split_eq_map] at split
    simp only [List.range_succ, List.range_zero, List.nil_append, List.cons_append,
      List.map_cons, List.map_nil, List.cons.injEq, and_true] at split
    obtain ⟨low, high⟩ := split
    have isFloat : isSupportedFloatType (.float semantics) = true := by
      cases semantics <;> first | rfl | cases supported
    simp [supported, toBits, numBits, StablehloType.getIntOrFloatBitWidth, APInt.extractBits_eq,
      fromBits, isSupportedBooleanType, isSupportedIntegerType, isSupportedUnsignedIntegerType,
      isSupportedSignedIntegerType, isFloat, ofFloat, ElementValue.fits, getFloatValue, ofComplex]
    -- The extracted halves are the two digits.
    have half : semantics.sizeInBits * 2 / 2 = semantics.sizeInBits := by omega
    generalize imag.setWidth (semantics.sizeInBits * 2) <<< (semantics.sizeInBits * 2 / 2) +
      real.setWidth (semantics.sizeInBits * 2) = pair at low high ⊢
    rw [pow_zero, Nat.div_one] at low
    rw [pow_one] at high
    constructor
    · apply BitVec.eq_of_toNat_eq
      simp only [APInt.extractBits, BitVec.toNat_setWidth, BitVec.extractLsb'_toNat,
        Nat.shiftRight_zero]
      rw [half, Nat.mod_mod, low]
    · apply BitVec.eq_of_toNat_eq
      simp only [APInt.extractBits, BitVec.toNat_setWidth, BitVec.extractLsb'_toNat,
        Nat.shiftRight_eq_div_pow]
      rw [half, Nat.mod_mod, high]

end Element

/-- There are two elements of every supported type. -/
theorem exists_two_elements {type : StablehloType} (supported : isSupportedType type = true) :
    ∃ zero one : Element, zero.type = type ∧ one.type = type ∧ zero ≠ one := by
  obtain ⟨width, positive, wide⟩ := numBits_of_supported supported
  obtain ⟨zero, zeroType, zeroBits⟩ := @Element.exists_toBits type supported ⟨width, 0⟩ wide
  obtain ⟨one, oneType, oneBits⟩ := @Element.exists_toBits type supported ⟨width, 1⟩ wide
  refine ⟨zero, one, zeroType, oneType, ?_⟩
  rintro rfl
  rw [zeroBits] at oneBits
  -- The bits of zero and one are different.
  simp only [APInt.mk.injEq, heq_eq_eq, true_and] at oneBits
  have none := (BitVec.zero_eq_one_iff width).mp oneBits
  omega

/-- A tensor of an integer type whose elements are all the same number. -/
def integerTensor (shape : Sizes) (signedness : Signedness) (value : APInt)
    (fits : (ElementValue.integer value).fits (.integer signedness value.width) = true) :
    TypedTensor where
  elementType := .integer signedness value.width
  elements := .tabulate shape fun _ => ⟨.integer signedness value.width, .integer value, fits⟩
  typed element listed := by
    obtain ⟨_, -, rfl⟩ := List.mem_map.mp listed
    rfl

/-- There is a tensor of the type whose element at the index is different from all others. -/
theorem exists_marked {type : ShapedType} (supported : isSupportedType type.elementType = true)
    (index : Index) : ∃ tensor : TypedTensor, tensor.type = type ∧
      ∀ other, MixedRadix.Within type.shape index → MixedRadix.Within type.shape other →
        tensor.elements.get index = tensor.elements.get other → other = index := by
  obtain ⟨zero, one, zeroType, oneType, different⟩ := exists_two_elements supported
  let tensor : TypedTensor := {
    elementType := type.elementType
    elements := .tabulate type.shape fun other => if other = index then one else zero
    typed := fun element listed => by
      obtain ⟨_, -, rfl⟩ := List.mem_map.mp listed
      split
      · exact oneType
      · exact zeroType }
  refine ⟨tensor, rfl, fun other within otherWithin same => ?_⟩
  rw [show tensor.elements.get index = .ok (if index = index then one else zero) from
      Tensor.get_tabulate within, if_pos rfl,
    show tensor.elements.get other = .ok (if other = index then one else zero) from
      Tensor.get_tabulate otherWithin, Except.ok.injEq] at same
  split at same
  · next here => exact here
  · exact absurd same.symm different

end Stablehlo
