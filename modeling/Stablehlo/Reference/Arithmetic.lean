import Mathlib.Data.BitVec
import Mathlib.Data.Int.ModEq
import Stablehlo.Reference.Slice

/-! Conversions and arithmetic of elements, as far as they are integers. -/

namespace Stablehlo

open TypePrinter

/-- What the interpreter makes of floats and complex numbers, on which integers do not depend. -/
class FloatArithmetic where
  /-- Convert an element to a type, where the element or the type is one of floats. -/
  convert : StablehloType → Element → Except Failure Element
  zero : StablehloType → Except Failure Element
  add : Element → Element → Except Failure Element
  multiply : Element → Element → Except Failure Element
  power : Element → Element → Except Failure Element

/-- An interpreter that supports no floats. -/
abbrev integersOnly : FloatArithmetic where
  convert _ _ := .error .undefinedBehavior
  zero _ := .error .undefinedBehavior
  add _ _ := .error .undefinedBehavior
  multiply _ _ := .error .undefinedBehavior
  power _ _ := .error .undefinedBehavior

/-- An integer with its own signedness. -/
structure APSInt where
  value : APInt
  isSigned : Bool

/-- Extend the number to more bits, or truncate it to fewer. -/
def APSInt.extOrTrunc (number : APSInt) (width : Nat) : APInt :=
  ⟨width, if number.isSigned then number.value.bits.signExtend width
    else number.value.bits.setWidth width⟩

section Operations

variable [TypePrinter] [FloatArithmetic]

/-- Convert a number to a type of integers or booleans. -/
def convertNumber (type : StablehloType) (number : APSInt)
    (otherwise : Except Failure Element) : Except Failure Element :=
  if isSupportedBooleanType type then
    Element.ofBoolean type (number.value.bits.toNat != 0)
  else if isSupportedIntegerType type then
    match type.getIntOrFloatBitWidth with
    | some width => Element.ofInteger type (number.extOrTrunc width)
    | none => .error .undefinedBehavior
  else
    otherwise

/-- Convert an element to a type. -/
def convert (type : StablehloType) (el : Element) : Except Failure Element :=
  match el.value with
  | .boolean value =>
    if isSupportedBooleanType type then Element.ofBoolean type value
    else convertNumber type ⟨⟨64, if value then 1 else 0⟩, false⟩ (FloatArithmetic.convert type el)
  | .integer value =>
    -- The number is one of the 64 bits of a machine integer.
    let number : APSInt := if isSupportedSignedIntegerType el.type
      then ⟨⟨64, value.bits.signExtend 64⟩, true⟩
      else ⟨⟨64, value.bits.setWidth 64⟩, false⟩
    convertNumber type number (FloatArithmetic.convert type el)
  | .float _ | .complex .. => FloatArithmetic.convert type el

/-- The zero of a type. -/
def getZeroValueOfType (type : StablehloType) : Except Failure Element :=
  if isSupportedBooleanType type then Element.ofBoolean type false
  else
    convertNumber type ⟨⟨64, 0⟩, isSupportedSignedIntegerType type⟩ (FloatArithmetic.zero type)

/-- Combine two elements of one type, by the operation for what they hold. -/
def mapElements (integerFn : {width : Nat} → BitVec width → BitVec width → BitVec width)
    (boolFn : Bool → Bool → Bool) (floatFn : Element → Element → Except Failure Element)
    (lhs rhs : Element) : Except Failure Element :=
  if lhs.type ≠ rhs.type then
    .error (.fatalError
      s!"Element types don't match: {debugString lhs.type} vs {debugString rhs.type}")
  else
    match lhs.value, rhs.value with
    | .integer intLhs, .integer intRhs =>
      if same : intRhs.width = intLhs.width then
        Element.ofInteger lhs.type ⟨intLhs.width, integerFn intLhs.bits (intRhs.bits.cast same)⟩
      else
        .error .undefinedBehavior
    | .boolean boolLhs, .boolean boolRhs => Element.ofBoolean lhs.type (boolFn boolLhs boolRhs)
    | _, _ => floatFn lhs rhs

/-- The product of two elements. -/
def Element.multiply : Element → Element → Except Failure Element :=
  mapElements (fun lhs rhs => lhs * rhs) (· && ·) FloatArithmetic.multiply

/-- The sum of two elements. -/
def Element.add : Element → Element → Except Failure Element :=
  mapElements (fun lhs rhs => lhs + rhs) (· || ·) FloatArithmetic.add

end Operations

section Integers

variable {signedness : Signedness} {width : Nat}

/-- The element of an integer type that holds the bits. -/
def Element.ofBitVec (supported : isSupportedIntegerType (.integer signedness width) = true)
    (bits : BitVec width) : Element where
  type := .integer signedness width
  value := .integer ⟨width, bits⟩
  fits := by simp [ElementValue.fits, supported, StablehloType.getIntOrFloatBitWidth]

variable {supported : isSupportedIntegerType (.integer signedness width) = true}

/-- An element of an integer type is one with some bits. -/
theorem Element.exists_ofBitVec (supported : isSupportedIntegerType (.integer signedness width) =
      true) {element : Element} (own : element.type = .integer signedness width) :
    ∃ bits, element = ofBitVec supported bits := by
  obtain ⟨type, value, fits⟩ := element
  subst own
  cases ElementValue.of_fits fits with
  | @integer _ value _ => exact ⟨value.bits, rfl⟩
  | boolean value =>
    -- The width of booleans is not that of an integer type.
    cases supported

/-- An integer type is not the one of booleans, and has a width. -/
theorem isSupportedBooleanType_eq_false
    (supported : isSupportedIntegerType (.integer signedness width) = true) :
    isSupportedBooleanType (.integer signedness width) = false := by
  cases signedness with
  | signless =>
    -- No integer type has a single bit.
    rw [isSupportedBooleanType, beq_eq_false_iff_ne]
    rintro rfl
    cases supported
  | _ => rfl

/-- The number of bits of a type with a sign, or of one without. -/
theorem Element.integer_ofBitVec (bits : BitVec width) :
    (ofBitVec supported bits).integer =
      if signedness = .unsigned then (bits.toNat : Int) else bits.toInt := by
  cases signedness <;> rfl

/-- The number an element holds is the one of its bits, up to a multiple of the modulus. -/
@[simp] theorem Element.ofInt_integer (bits : BitVec width) :
    BitVec.ofInt width (ofBitVec supported bits).integer = bits := by
  rw [integer_ofBitVec]
  split
  · rw [BitVec.ofInt_natCast, BitVec.ofNat_toNat, BitVec.setWidth_eq]
  · exact BitVec.ofInt_toInt

/-- The number of some bits is the one they are of, up to a multiple of the modulus. -/
theorem Element.integer_ofInt_modEq (number : Int) :
    (ofBitVec supported (BitVec.ofInt width number)).integer ≡ number [ZMOD 2 ^ width] := by
  have modulus : ((2 ^ width : Nat) : Int) = 2 ^ width := by norm_num
  rw [integer_ofBitVec]
  split
  · have positive : 0 ≤ number % (2 ^ width : Nat) := Int.emod_nonneg _ (by positivity)
    rw [BitVec.toNat_ofInt, Int.toNat_of_nonneg positive, modulus]
    exact Int.mod_modEq number _
  · rw [BitVec.toInt_ofInt, ← modulus]
    exact Int.bmod_emod

variable [TypePrinter]

/-- The element of an integer type with the bits is constructed. -/
theorem Element.ofInteger_ofBitVec
    (supported : isSupportedIntegerType (.integer signedness width) = true) (bits : BitVec width) :
    ofInteger (.integer signedness width) ⟨width, bits⟩ = .ok (ofBitVec supported bits) := by
  have same : (StablehloType.integer signedness width).getIntOrFloatBitWidth = some width := rfl
  rw [ofInteger, dif_pos supported]
  exact dif_pos same

/-- Integers are combined by their bits. -/
theorem mapElements_ofBitVec
    {integerFn : {width : Nat} → BitVec width → BitVec width → BitVec width}
    {boolFn : Bool → Bool → Bool} {floatFn : Element → Element → Except Failure Element}
    (lhs rhs : BitVec width) :
    mapElements integerFn boolFn floatFn (.ofBitVec supported lhs) (.ofBitVec supported rhs) =
      .ok (.ofBitVec supported (integerFn lhs rhs)) := by
  have same : (Element.ofBitVec supported lhs).type = (Element.ofBitVec supported rhs).type := rfl
  rw [mapElements, if_neg (not_not.mpr same)]
  -- Both have the width of the type.
  exact (dif_pos rfl).trans (Element.ofInteger_ofBitVec supported (integerFn lhs rhs))

/-- A number is converted to an integer type by its lowest bits. -/
theorem convertNumber_ofBitVec
    (supported : isSupportedIntegerType (.integer signedness width) = true)
    (number : APSInt) (otherwise : Except Failure Element) :
    convertNumber (.integer signedness width) number otherwise =
      .ok (.ofBitVec supported (number.extOrTrunc width).bits) := by
  rw [convertNumber, isSupportedBooleanType_eq_false supported, if_neg Bool.false_ne_true,
    if_pos supported]
  exact Element.ofInteger_ofBitVec supported (number.extOrTrunc width).bits

variable [FloatArithmetic]

@[simp] theorem Element.multiply_ofBitVec (lhs rhs : BitVec width) :
    (ofBitVec supported lhs).multiply (ofBitVec supported rhs) =
      .ok (ofBitVec supported (lhs * rhs)) :=
  mapElements_ofBitVec lhs rhs

@[simp] theorem Element.add_ofBitVec (lhs rhs : BitVec width) :
    (ofBitVec supported lhs).add (ofBitVec supported rhs) = .ok (ofBitVec supported (lhs + rhs)) :=
  mapElements_ofBitVec lhs rhs

/-- The zero of an integer type has no bit set. -/
theorem getZeroValueOfType_ofBitVec
    (supported : isSupportedIntegerType (.integer signedness width) = true) :
    getZeroValueOfType (.integer signedness width) = .ok (.ofBitVec supported 0) := by
  rw [getZeroValueOfType, isSupportedBooleanType_eq_false supported, if_neg Bool.false_ne_true,
    convertNumber_ofBitVec supported]
  congr 2
  -- Neither extension of zero has a bit set.
  show (if _ then BitVec.ofInt width (0 : BitVec 64).toInt else _) = _
  split <;> simp

/-- An integer is converted to an integer type by the number it holds. -/
theorem convert_ofBitVec
    (supported : isSupportedIntegerType (.integer signedness width) = true) {element : Element}
    (integer : isSupportedIntegerType element.type = true) :
    convert (.integer signedness width) element =
      .ok (.ofBitVec supported (BitVec.ofInt width element.integer)) := by
  obtain ⟨type, value, fits⟩ := element
  cases ElementValue.of_fits fits with
  | @integer sign value own =>
    have narrow := (width_of_supported own).2
    have most := (width_of_supported supported).2
    rw [convert]
    dsimp only
    rw [convertNumber_ofBitVec supported]
    congr 2
    cases sign with
    | signless =>
      -- The sign is extended to the machine integer, and truncated again.
      have signed : isSupportedSignedIntegerType (.integer .signless value.width) = true := by
        simpa [isSupportedIntegerType, isSupportedUnsignedIntegerType] using own
      rw [if_pos signed]
      show BitVec.ofInt width (value.bits.signExtend 64).toInt =
        BitVec.ofInt width value.bits.toInt
      rw [BitVec.toInt_signExtend_of_le narrow]
    | unsigned =>
      -- The machine integer holds the number, of which it is truncated to the lowest bits.
      show (value.bits.setWidth 64).setWidth width =
        BitVec.ofInt width (value.bits.toNat : Int)
      have bound : value.bits.toNat < 2 ^ 64 :=
        lt_of_lt_of_le value.bits.isLt (Nat.pow_le_pow_right Nat.two_pos narrow)
      apply BitVec.eq_of_toNat_eq
      rw [BitVec.ofInt_natCast, BitVec.toNat_setWidth, BitVec.toNat_setWidth, BitVec.toNat_ofNat,
        Nat.mod_eq_of_lt bound]
    | signed => cases own
  | boolean | float | complex => cases integer

end Integers

end Stablehlo
