import Mathlib.Algebra.Order.Ring.Abs
import Mathlib.Tactic.Linarith
import Stablehlo.Reference.ElementOperations
import Stablehlo.Support.WideProduct

/-! The upper half of a product of integers, by operations on integers of at most 64 bits. -/

namespace Stablehlo

namespace Chlo

section Decomposition

variable [TypePrinter]

/-- A constant of the type of an element. -/
def getConstantLike (constant : Int) (val : Element) : Except Failure Element :=
  match val.type with
  | .integer signedness width =>
    Element.ofInteger (.integer signedness width) ⟨width, .ofInt width constant⟩
  | _ => .error .undefinedBehavior

/-- The number of bits of an element's type, as a constant of the type of another one. -/
def getShiftAmountConstant (operand val : Element) : Except Failure Element :=
  match operand.type with
  | .integer _ width => getConstantLike width val
  | _ => .error .undefinedBehavior

/-- The type is one of integers that are signed as said, with fewer bits. -/
def isIntegerLessThanNBits (type : StablehloType) (isSigned : Bool) (nBits : Nat) : Bool :=
  match type with
  | .integer signedness width => (signedness == .unsigned) == !isSigned && decide (width < nBits)
  | _ => false

/-- The type is one of integers that are signed as said, with so many bits. -/
def isIntegerWithNBits (type : StablehloType) (isSigned : Bool) (nBits : Nat) : Bool :=
  match type with
  | .integer signedness width => (signedness == .unsigned) == !isSigned && width == nBits
  | _ => false

variable [FloatArithmetic]

/-- An element, with twice the bits. -/
def getConvertOpUpcast (val : Element) : Except Failure Element :=
  match val.type with
  | .integer signedness width => convert (.integer signedness (width * 2)) val
  | _ => .error .undefinedBehavior

/-- An element, as one without a sign. -/
def getConvertToUnsigned (val : Element) : Except Failure Element :=
  match val.type with
  | .integer _ width => convert (.integer .unsigned width) val
  | _ => .error .undefinedBehavior

/-- The upper half of a product that has enough bits, moved down and converted back. -/
def mulhiUpcast (shiftRight : Element → Element → Except Failure Element) (lhs rhs : Element) :
    Except Failure Element := do
  let wideLhs ← getConvertOpUpcast lhs
  let wideRhs ← getConvertOpUpcast rhs
  let wideMul ← wideLhs.multiply wideRhs
  let amount ← getShiftAmountConstant lhs wideMul
  let shifted ← shiftRight wideMul amount
  convert lhs.type shifted

/-- What is computed on the way to the upper half of a product without signs. -/
structure PartialProducts where
  aHi : Element
  bHi : Element
  aLo : Element
  bLo : Element
  p0 : Element
  p1 : Element
  p2 : Element
  p3 : Element
  carryP0 : Element
  mid1 : Element
  lowMid1 : Element
  mid2 : Element
  carryMid1 : Element
  carryMid2 : Element
  /-- The sum with the first of the carries. -/
  high : Element
  /-- The sum with both carries. -/
  result : Element

/-- The parts of a product of 128 bits, from the halves of its factors. -/
def mulhiU64 (lhs rhs : Element) : Except Failure PartialProducts := do
  let lhsHalf ← getConstantLike 32 lhs
  let rhsHalf ← getConstantLike 32 rhs
  let lhsMask ← getConstantLike 0xFFFFFFFF lhs
  let rhsMask ← getConstantLike 0xFFFFFFFF rhs
  let aHi ← lhs.shiftRightLogical lhsHalf
  let bHi ← rhs.shiftRightLogical rhsHalf
  let p3 ← aHi.multiply bHi
  let aLo ← lhs.and lhsMask
  let p1 ← aLo.multiply bHi
  let bLo ← rhs.and rhsMask
  let p0 ← aLo.multiply bLo
  let carryP0 ← p0.shiftRightLogical lhsHalf
  let mid1 ← p1.add carryP0
  let carryMid1 ← mid1.shiftRightLogical lhsHalf
  let high ← p3.add carryMid1
  let p2 ← aHi.multiply bLo
  let lowMid1 ← mid1.and lhsMask
  let mid2 ← p2.add lowMid1
  let carryMid2 ← mid2.shiftRightLogical lhsHalf
  let result ← high.add carryMid2
  .ok { aHi, bHi, aLo, bLo, p0, p1, p2, p3, carryP0, mid1, lowMid1, mid2, carryMid1, carryMid2,
        high, result }

variable [FloatOperations]

/-- What is subtracted for a factor: the other one, if the factor is negative. -/
def signCorrection (factor other : Element) : Except Failure Element := do
  let zero ← getConstantLike 0 factor
  let isNegative ← factor.compareBy .lt zero
  let unsignedOther ← getConvertToUnsigned other
  let unsignedZero ← getConstantLike 0 unsignedOther
  isNegative.select unsignedOther unsignedZero

/-- The upper half of a product with signs, from the one without. -/
def mulhiS64 (lhs rhs : Element) : Except Failure Element := do
  let unsignedLhs ← getConvertToUnsigned lhs
  let unsignedRhs ← getConvertToUnsigned rhs
  -- The operation that is emitted for these is decomposed in turn.
  let products ← mulhiU64 unsignedLhs unsignedRhs
  let lhsCorrection ← signCorrection lhs rhs
  let difference ← products.result.subtract lhsCorrection
  let rhsCorrection ← signCorrection rhs lhs
  let corrected ← difference.subtract rhsCorrection
  convert lhs.type corrected

/-- What the operations that `chlo.mulhi` is decomposed into compute for two elements. -/
def decomposeMulhi (lhs rhs : Element) : Except Failure Element :=
  if isIntegerLessThanNBits lhs.type true 64 then
    mulhiUpcast Element.shiftRightArithmetic lhs rhs
  else if isIntegerLessThanNBits lhs.type false 64 then
    mulhiUpcast Element.shiftRightLogical lhs rhs
  else if isIntegerWithNBits lhs.type false 64 then do
    let products ← mulhiU64 lhs rhs
    .ok products.result
  else if isIntegerWithNBits lhs.type true 64 then
    mulhiS64 lhs rhs
  else
    .error .undefinedBehavior

end Decomposition

section Specification

/-- An element is the upper half of the product of two others, which all have so many bits. -/
structure IsUpperHalf (width : Nat) (lhs rhs result : Element) : Prop where
  type : result.type = lhs.type
  half : result.integer = lhs.integer * rhs.integer / 2 ^ width

/-- All products and sums on the way are the ones of numbers. -/
structure PartialProducts.Exact (products : PartialProducts) : Prop where
  p0 : products.p0.integer = products.aLo.integer * products.bLo.integer
  p1 : products.p1.integer = products.aLo.integer * products.bHi.integer
  p2 : products.p2.integer = products.aHi.integer * products.bLo.integer
  p3 : products.p3.integer = products.aHi.integer * products.bHi.integer
  mid1 : products.mid1.integer = products.p1.integer + products.carryP0.integer
  mid2 : products.mid2.integer = products.p2.integer + products.lowMid1.integer
  high : products.high.integer = products.p3.integer + products.carryMid1.integer
  result : products.result.integer = products.high.integer + products.carryMid2.integer

end Specification

section Bounds

variable {signedness : Signedness} {width : Nat}

/-- A type of so many bits holds the number. -/
def Holds (signedness : Signedness) (width : Nat) (number : Int) : Prop :=
  if signedness = .unsigned then 0 ≤ number ∧ number < 2 ^ width
  else -2 ^ (width - 1) ≤ number ∧ number < 2 ^ (width - 1)

/-- The product of two numbers has twice their bits, and its upper half has as many as they. -/
theorem Holds.product {x y : Int} (positive : 0 < width) (first : Holds signedness width x)
    (second : Holds signedness width y) :
    Holds signedness (width * 2) (x * y) ∧ Holds signedness width (x * y / 2 ^ width) := by
  have square : (2 : Int) ^ (width * 2) = 2 ^ width * 2 ^ width := by
    rw [← pow_add]
    congr 1
    omega
  unfold Holds at *
  split_ifs at *
  · have nonneg : 0 ≤ x * y := Int.mul_nonneg first.1 second.1
    have below : x * y < 2 ^ width * 2 ^ width :=
      mul_lt_mul'' first.2 second.2 first.1 second.1
    refine ⟨⟨nonneg, by rwa [square]⟩, Int.ediv_nonneg nonneg (by positivity), ?_⟩
    exact Int.ediv_lt_of_lt_mul (by positivity) below
  · -- Both factors are at most half of what the bits can count.
    have double : (2 : Int) ^ width = 2 * 2 ^ (width - 1) := by
      rw [← pow_succ']
      congr 1
      omega
    have wide : (2 : Int) ^ (width * 2 - 1) = 2 ^ width * 2 ^ (width - 1) := by
      rw [← pow_add]
      congr 1
      omega
    have halfPositive : (0 : Int) < 2 ^ (width - 1) := by positivity
    generalize (2 : Int) ^ (width - 1) = half at *
    have most : |x * y| ≤ half * half := by
      rw [abs_mul]
      exact mul_le_mul (abs_le.mpr ⟨first.1, first.2.le⟩) (abs_le.mpr ⟨second.1, second.2.le⟩)
        (abs_nonneg y) halfPositive.le
    obtain ⟨lower, upper⟩ := abs_le.mp most
    have squarePositive : 0 < half * half := Int.mul_pos halfPositive halfPositive
    rw [wide, double, Int.mul_assoc]
    refine ⟨⟨by omega, by omega⟩, ?_, ?_⟩
    · rw [Int.le_ediv_iff_mul_le (by omega)]
      linarith [Int.mul_assoc 2 half half, Int.mul_comm half (2 * half)]
    · rw [Int.ediv_lt_iff_lt_mul (by omega)]
      linarith [Int.mul_assoc 2 half half, Int.mul_comm half (2 * half)]

variable {supported : isSupportedIntegerType (.integer signedness width) = true}

/-- A type holds the numbers of its elements. -/
theorem holds_integer (bits : BitVec width) :
    Holds signedness width (Element.ofBitVec supported bits).integer := by
  rw [Element.integer_ofBitVec, Holds]
  split_ifs
  · exact ⟨by omega, by exact_mod_cast bits.isLt⟩
  · have positive := (width_of_supported supported).1
    exact ⟨BitVec.le_toInt bits, BitVec.toInt_lt⟩

/-- A number that a type holds is the one of its bits. -/
theorem Holds.integer_ofInt {number : Int} (bounds : Holds signedness width number) :
    (Element.ofBitVec supported (.ofInt width number)).integer = number := by
  rw [Element.integer_ofBitVec]
  unfold Holds at bounds
  split_ifs at bounds ⊢
  · have modulus : ((2 ^ width : Nat) : Int) = 2 ^ width := by norm_num
    rw [BitVec.toNat_ofInt, modulus, Int.emod_eq_of_lt bounds.1 bounds.2,
      Int.toNat_of_nonneg bounds.1]
  · have positive := (width_of_supported supported).1
    exact BitVec.toInt_ofInt_eq_self (by omega) bounds.1 bounds.2

/-- The bits of the upper half of a product are its upper half. -/
theorem isUpperHalf_ofInt (x y : BitVec width) :
    IsUpperHalf width (.ofBitVec supported x) (.ofBitVec supported y)
      (.ofBitVec supported (.ofInt width ((Element.ofBitVec supported x).integer *
        (Element.ofBitVec supported y).integer / 2 ^ width))) where
  type := rfl
  half := by
    have positive := (width_of_supported supported).1
    exact ((holds_integer x).product (by omega) (holds_integer y)).2.integer_ofInt

/-- A type of narrow integers has one with twice the bits. -/
theorem isSupportedIntegerType_double
    (supported : isSupportedIntegerType (.integer signedness width) = true) (narrow : width < 64) :
    isSupportedIntegerType (.integer signedness (width * 2)) = true := by
  have listed : width ∈ supportedIntegerWidths := by
    cases signedness with
    | signed => cases supported
    | _ =>
      simpa [isSupportedIntegerType, isSupportedUnsignedIntegerType,
        isSupportedSignedIntegerType] using supported
  simp only [supportedIntegerWidths, List.mem_cons, List.not_mem_nil, or_false] at listed
  obtain rfl | rfl | rfl | rfl | rfl | rfl := listed <;> cases signedness <;>
    first | rfl | omega | cases supported

/-- The number of bits is one that twice the bits can count. -/
theorem toNat_shiftAmount (width : Nat) :
    (BitVec.ofInt (width * 2) (width : Int)).toNat = width := by
  rw [BitVec.ofInt_natCast, BitVec.toNat_ofNat, Nat.mod_eq_of_lt]
  exact lt_of_le_of_lt (by omega) (Nat.lt_two_pow_self (n := width * 2))

end Bounds

section Evaluation

variable [TypePrinter] {signedness : Signedness} {width : Nat}
  {supported : isSupportedIntegerType (.integer signedness width) = true}

theorem getConstantLike_ofBitVec (constant : Int) (bits : BitVec width) :
    getConstantLike constant (.ofBitVec supported bits) =
      .ok (.ofBitVec supported (.ofInt width constant)) :=
  Element.ofInteger_ofBitVec supported _

theorem getShiftAmountConstant_ofBitVec {otherSignedness : Signedness} {otherWidth : Nat}
    {wide : isSupportedIntegerType (.integer otherSignedness otherWidth) = true}
    (bits : BitVec width) (other : BitVec otherWidth) :
    getShiftAmountConstant (.ofBitVec supported bits) (.ofBitVec wide other) =
      .ok (.ofBitVec wide (.ofInt otherWidth width)) :=
  getConstantLike_ofBitVec width other

/-- Below a sign, moving the bits down divides the number. -/
theorem shiftRightArithmetic_integer (signed : signedness ≠ .unsigned) {number : Int}
    (bounds : Holds signedness width number) (amount : BitVec width) :
    ∃ shifted, Element.shiftRightArithmetic (.ofBitVec supported (.ofInt _ number))
        (.ofBitVec supported amount) = .ok (.ofBitVec supported shifted) ∧
      (Element.ofBitVec supported shifted).integer = number / 2 ^ amount.toNat := by
  have value := @Holds.integer_ofInt _ _ supported _ bounds
  refine ⟨_, Element.shiftRightArithmetic_ofBitVec supported _ _, ?_⟩
  rw [Element.integer_ofBitVec, if_neg signed] at value ⊢
  rw [BitVec.toInt_sshiftRight, value, Int.shiftRight_eq_div_pow]
  norm_cast

/-- Without a sign, moving the bits down divides the number. -/
theorem shiftRightLogical_integer (unsigned : signedness = .unsigned) {number : Int}
    (bounds : Holds signedness width number) (amount : BitVec width) :
    ∃ shifted, Element.shiftRightLogical (.ofBitVec supported (.ofInt _ number))
        (.ofBitVec supported amount) = .ok (.ofBitVec supported shifted) ∧
      (Element.ofBitVec supported shifted).integer = number / 2 ^ amount.toNat := by
  have value := @Holds.integer_ofInt _ _ supported _ bounds
  refine ⟨_, Element.shiftRightLogical_ofBitVec supported _ _, ?_⟩
  rw [Element.integer_ofBitVec, if_pos unsigned] at value ⊢
  rw [BitVec.toNat_ushiftRight, Nat.shiftRight_eq_div_pow, Int.natCast_ediv, value]
  norm_cast

variable [FloatArithmetic]

/-- An element of integers is converted by the number it holds. -/
theorem convert_integer_ofBitVec {newSignedness : Signedness} {newWidth : Nat}
    (newSupported : isSupportedIntegerType (.integer newSignedness newWidth) = true)
    (bits : BitVec width) :
    convert (.integer newSignedness newWidth) (.ofBitVec supported bits) =
      .ok (.ofBitVec newSupported (.ofInt newWidth (Element.ofBitVec supported bits).integer)) :=
  convert_ofBitVec newSupported
    (show isSupportedIntegerType (Element.ofBitVec supported bits).type = true from supported)

/-- Only the sign of the type is lost. -/
theorem getConvertToUnsigned_ofBitVec
    (unsigned : isSupportedIntegerType (.integer .unsigned width) = true) (bits : BitVec width) :
    getConvertToUnsigned (.ofBitVec supported bits) = .ok (.ofBitVec unsigned bits) := by
  refine (convert_integer_ofBitVec unsigned bits).trans ?_
  rw [Element.ofInt_integer]

/-- Through twice the bits, the upper half of the product is computed. -/
theorem mulhiUpcast_ofBitVec {shiftRight : Element → Element → Except Failure Element}
    (narrow : width < 64)
    (shifts : ∀ wide : isSupportedIntegerType (.integer signedness (width * 2)) = true,
      ∀ number : Int, Holds signedness (width * 2) number →
        ∀ amount : BitVec (width * 2), ∃ shifted,
          shiftRight (.ofBitVec wide (.ofInt _ number)) (.ofBitVec wide amount) =
            .ok (.ofBitVec wide shifted) ∧
          (Element.ofBitVec wide shifted).integer = number / 2 ^ amount.toNat)
    (x y : BitVec width) :
    mulhiUpcast shiftRight (.ofBitVec supported x) (.ofBitVec supported y) =
      .ok (.ofBitVec supported (.ofInt width ((Element.ofBitVec supported x).integer *
        (Element.ofBitVec supported y).integer / 2 ^ width))) := by
  have positive := (width_of_supported supported).1
  have wide := isSupportedIntegerType_double supported narrow
  have upcast (bits : BitVec width) : getConvertOpUpcast (.ofBitVec supported bits) =
      .ok (.ofBitVec wide (.ofInt (width * 2) (Element.ofBitVec supported bits).integer)) :=
    convert_integer_ofBitVec wide bits
  have bounds (bits : BitVec width) := @holds_integer _ _ supported bits
  have product := ((bounds x).product (by omega) (bounds y)).1
  obtain ⟨shifted, computed, number⟩ := shifts wide _ product (.ofInt _ width)
  rw [toNat_shiftAmount] at number
  rw [mulhiUpcast, upcast, upcast, Fallible.ok_bind, Fallible.ok_bind, Element.multiply_ofBitVec,
    Fallible.ok_bind, getShiftAmountConstant_ofBitVec, Fallible.ok_bind, ← BitVec.ofInt_mul,
    computed, Fallible.ok_bind]
  refine (convert_integer_ofBitVec supported shifted).trans ?_
  rw [number]

end Evaluation

section Halves

/-- The bits below the half of 64 are the remainder. -/
theorem toNat_and_mask (x : BitVec 64) :
    (x &&& .ofInt 64 0xFFFFFFFF).toNat = x.toNat % 2 ^ 32 := by
  have mask : (BitVec.ofInt 64 0xFFFFFFFF).toNat = 2 ^ 32 - 1 := by decide
  rw [BitVec.toNat_and, mask, Nat.and_two_pow_sub_one_eq_mod]

/-- The bits from the half of 64 on are the quotient. -/
theorem toNat_shiftRight_half (x : BitVec 64) :
    (x >>> (BitVec.ofInt 64 32).toNat).toNat = x.toNat / 2 ^ 32 := by
  have amount : (BitVec.ofInt 64 32).toNat = 32 := by decide
  rw [amount, BitVec.toNat_ushiftRight, Nat.shiftRight_eq_div_pow]

/-- The product of two halves has 64 bits. -/
theorem toNat_mul_halves {x y : BitVec 64} (first : x.toNat < 2 ^ 32) (second : y.toNat < 2 ^ 32) :
    (x * y).toNat = x.toNat * y.toNat := by
  rw [BitVec.toNat_mul, Nat.mod_eq_of_lt]
  exact (WideProduct.product_add_lt first second (Nat.two_pow_pos 32)).trans_eq (by decide)

/-- The bits of the partial products. -/
def partialProducts (supported : isSupportedIntegerType (.integer .unsigned 64) = true)
    (x y : BitVec 64) : PartialProducts :=
  let element := Element.ofBitVec supported
  let upper (bits : BitVec 64) : BitVec 64 := bits >>> (BitVec.ofInt 64 32).toNat
  let lower (bits : BitVec 64) : BitVec 64 := bits &&& .ofInt 64 0xFFFFFFFF
  let p0 := lower x * lower y
  let p1 := lower x * upper y
  let p2 := upper x * lower y
  let p3 := upper x * upper y
  let mid1 := p1 + upper p0
  let mid2 := p2 + lower mid1
  let high := p3 + upper mid1
  { aHi := element (upper x)
    bHi := element (upper y)
    aLo := element (lower x)
    bLo := element (lower y)
    p0 := element p0
    p1 := element p1
    p2 := element p2
    p3 := element p3
    carryP0 := element (upper p0)
    mid1 := element mid1
    lowMid1 := element (lower mid1)
    mid2 := element mid2
    carryMid1 := element (upper mid1)
    carryMid2 := element (upper mid2)
    high := element high
    result := element (high + upper mid2) }

variable {supported : isSupportedIntegerType (.integer .unsigned 64) = true}

variable (supported) in
/-- A product of two halves is the one of their numbers. -/
theorem integer_mul_halves {x y : BitVec 64} (first : x.toNat < 2 ^ 32)
    (second : y.toNat < 2 ^ 32) : (Element.ofBitVec supported (x * y)).integer =
      (Element.ofBitVec supported x).integer * (Element.ofBitVec supported y).integer := by
  simp only [Element.integer_ofBitVec, if_true, toNat_mul_halves first second, Int.natCast_mul]

variable (supported) in
/-- A sum of 64 bits is the one of the numbers. -/
theorem integer_add {x y : BitVec 64} (room : x.toNat + y.toNat < 2 ^ 64) :
    (Element.ofBitVec supported (x + y)).integer =
      (Element.ofBitVec supported x).integer + (Element.ofBitVec supported y).integer := by
  simp only [Element.integer_ofBitVec, if_true, BitVec.toNat_add_of_lt room, Int.natCast_add]

/-- The upper half of 64 bits has 32. -/
theorem toNat_shiftRight_half_lt (x : BitVec 64) :
    (x >>> (BitVec.ofInt 64 32).toNat).toNat < 2 ^ 32 := by
  have bound := x.isLt
  rw [toNat_shiftRight_half]
  omega

/-- The lower half of 64 bits has 32. -/
theorem toNat_and_mask_lt (x : BitVec 64) : (x &&& .ofInt 64 0xFFFFFFFF).toNat < 2 ^ 32 := by
  rw [toNat_and_mask]
  exact Nat.mod_lt _ (Nat.two_pow_pos 32)

/-- No sum of the parts of a product has more than 64 bits, and the last one is the upper half. -/
theorem sums_of_halves {aHi aLo bHi bLo mid1 mid2 : BitVec 64} (aHiLt : aHi.toNat < 2 ^ 32)
    (aLoLt : aLo.toNat < 2 ^ 32) (bHiLt : bHi.toNat < 2 ^ 32) (bLoLt : bLo.toNat < 2 ^ 32)
    (isMid1 : mid1 = aLo * bHi + (aLo * bLo) >>> (BitVec.ofInt 64 32).toNat)
    (isMid2 : mid2 = aHi * bLo + (mid1 &&& .ofInt 64 0xFFFFFFFF)) :
    (aLo * bHi).toNat + ((aLo * bLo) >>> (BitVec.ofInt 64 32).toNat).toNat < 2 ^ 64 ∧
      (aHi * bLo).toNat + (mid1 &&& .ofInt 64 0xFFFFFFFF).toNat < 2 ^ 64 ∧
      (aHi * bHi).toNat + (mid1 >>> (BitVec.ofInt 64 32).toNat).toNat +
        (mid2 >>> (BitVec.ofInt 64 32).toNat).toNat =
          (aHi.toNat * 2 ^ 32 + aLo.toNat) * (bHi.toNat * 2 ^ 32 + bLo.toNat) / 2 ^ 64 := by
  have square : (2 : Nat) ^ 32 * 2 ^ 32 = 2 ^ 64 := by decide
  have room {a b c : BitVec 64} (first : a.toNat < 2 ^ 32) (second : b.toNat < 2 ^ 32)
      (third : c.toNat < 2 ^ 32) : (a * b).toNat + c.toNat < 2 ^ 64 := by
    rw [toNat_mul_halves first second, ← square]
    exact WideProduct.product_add_lt first second third
  have first := room aLoLt bHiLt (toNat_shiftRight_half_lt (aLo * bLo))
  have second := room aHiLt bLoLt (toNat_and_mask_lt mid1)
  refine ⟨first, second, ?_⟩
  -- Without carries beyond 64 bits, the sums are the ones of numbers.
  have mid1Number : mid1.toNat = aLo.toNat * bHi.toNat + aLo.toNat * bLo.toNat / 2 ^ 32 := by
    rw [isMid1, BitVec.toNat_add_of_lt first, toNat_mul_halves aLoLt bHiLt, toNat_shiftRight_half,
      toNat_mul_halves aLoLt bLoLt]
  have mid2Number : mid2.toNat = aHi.toNat * bLo.toNat + mid1.toNat % 2 ^ 32 := by
    rw [isMid2, BitVec.toNat_add_of_lt second, toNat_mul_halves aHiLt bLoLt, toNat_and_mask]
  rw [toNat_mul_halves aHiLt bHiLt, toNat_shiftRight_half, toNat_shiftRight_half, mid2Number,
    mid1Number, ← square]
  exact (WideProduct.upper_eq (Nat.two_pow_pos 32)).symm

/-- The partial products are the ones of numbers, and make up the upper half of the product. -/
theorem partialProducts_exact (x y : BitVec 64) :
    (partialProducts supported x y).Exact ∧
      (partialProducts supported x y).result =
        .ofBitVec supported (.ofNat 64 (x.toNat * y.toNat / 2 ^ 64)) := by
  have square : (2 : Nat) ^ 32 * 2 ^ 32 = 2 ^ 64 := by decide
  obtain ⟨first, second, upper⟩ := sums_of_halves (toNat_shiftRight_half_lt x)
    (toNat_and_mask_lt x) (toNat_shiftRight_half_lt y) (toNat_and_mask_lt y) rfl rfl
  have whole := WideProduct.upper_lt (x.isLt.trans_eq square.symm) (y.isLt.trans_eq square.symm)
  have split (bits : BitVec 64) :
      (bits >>> (BitVec.ofInt 64 32).toNat).toNat * 2 ^ 32 +
        (bits &&& .ofInt 64 0xFFFFFFFF).toNat = bits.toNat := by
    rw [toNat_shiftRight_half, toNat_and_mask]
    exact Nat.div_add_mod' _ _
  rw [split, split] at upper
  rw [square, ← upper] at whole
  -- The upper half has 64 bits, and so do the sums that lead to it.
  have third := (Nat.le_add_right _ _).trans_lt whole
  rw [← BitVec.toNat_add_of_lt third] at upper whole
  refine ⟨⟨?_, ?_, ?_, ?_, ?_, ?_, ?_, ?_⟩, ?_⟩
  · exact integer_mul_halves supported (toNat_and_mask_lt x) (toNat_and_mask_lt y)
  · exact integer_mul_halves supported (toNat_and_mask_lt x) (toNat_shiftRight_half_lt y)
  · exact integer_mul_halves supported (toNat_shiftRight_half_lt x) (toNat_and_mask_lt y)
  · exact integer_mul_halves supported (toNat_shiftRight_half_lt x) (toNat_shiftRight_half_lt y)
  · exact integer_add supported first
  · exact integer_add supported second
  · exact integer_add supported third
  · exact integer_add supported whole
  · rw [← upper, ← BitVec.toNat_add_of_lt whole, BitVec.ofNat_toNat, BitVec.setWidth_eq]
    rfl

variable [TypePrinter] [FloatArithmetic]

/-- The partial products are computed. -/
theorem mulhiU64_ofBitVec (x y : BitVec 64) :
    mulhiU64 (.ofBitVec supported x) (.ofBitVec supported y) =
      .ok (partialProducts supported x y) := by
  rw [mulhiU64, getConstantLike_ofBitVec, Fallible.ok_bind, getConstantLike_ofBitVec,
    Fallible.ok_bind, getConstantLike_ofBitVec, Fallible.ok_bind, getConstantLike_ofBitVec,
    Fallible.ok_bind]
  -- The products of the halves, with the upper half of the lowest one.
  rw [Element.shiftRightLogical_ofBitVec, Fallible.ok_bind, Element.shiftRightLogical_ofBitVec,
    Fallible.ok_bind, Element.multiply_ofBitVec, Fallible.ok_bind, Element.and_ofBitVec,
    Fallible.ok_bind, Element.multiply_ofBitVec, Fallible.ok_bind, Element.and_ofBitVec,
    Fallible.ok_bind, Element.multiply_ofBitVec, Fallible.ok_bind,
    Element.shiftRightLogical_ofBitVec, Fallible.ok_bind]
  -- The sums that carry from each part to the next one.
  rw [Element.add_ofBitVec, Fallible.ok_bind, Element.shiftRightLogical_ofBitVec,
    Fallible.ok_bind, Element.add_ofBitVec, Fallible.ok_bind, Element.multiply_ofBitVec,
    Fallible.ok_bind, Element.and_ofBitVec, Fallible.ok_bind, Element.add_ofBitVec,
    Fallible.ok_bind, Element.shiftRightLogical_ofBitVec, Fallible.ok_bind, Element.add_ofBitVec,
    Fallible.ok_bind]
  rfl

end Halves

section Signs

/-- A number without a sign is the one with it, where negative ones are beyond all others. -/
theorem toNat_eq_unsigned (x : BitVec 64) :
    (x.toNat : Int) = if x.toInt < 0 then x.toInt + 2 ^ 64 else x.toInt := by
  have bound := x.isLt
  rw [BitVec.toInt_eq_toNat_cond]
  split_ifs <;> omega

/-- The upper half of a product with signs is the corrected one of the product without. -/
theorem corrected_eq (x y : BitVec 64) :
    .ofNat 64 (x.toNat * y.toNat / 2 ^ 64) - (if x.slt 0 then y else 0) -
      (if y.slt 0 then x else 0) = BitVec.ofInt 64 (x.toInt * y.toInt / 2 ^ 64) := by
  have correction (factor other : BitVec 64) : (if factor.slt 0 then other else 0) =
      BitVec.ofInt 64 (if factor.toInt < 0 then (other.toNat : Int) else 0) := by
    have negative : factor.slt 0 = true ↔ factor.toInt < 0 := by
      rw [BitVec.slt_iff_toInt_lt]
      rfl
    simp only [negative]
    split_ifs
    · rw [BitVec.ofInt_natCast, BitVec.ofNat_toNat, BitVec.setWidth_eq]
    · rfl
  have difference (number other : Int) :
      BitVec.ofInt 64 number - BitVec.ofInt 64 other = BitVec.ofInt 64 (number - other) := by
    rw [Int.sub_eq_add_neg, BitVec.ofInt_add, BitVec.ofInt_neg, BitVec.sub_eq_add_neg]
  have unsigned : BitVec.ofNat 64 (x.toNat * y.toNat / 2 ^ 64) =
      BitVec.ofInt 64 ((x.toNat : Int) * y.toNat / 2 ^ 64) := by
    rw [← BitVec.ofInt_natCast, Int.natCast_ediv, Int.natCast_mul]
    rfl
  rw [correction, correction, unsigned, difference, difference]
  -- Numbers with the same remainder have the same bits.
  have same := @WideProduct.signed_upper_modEq (2 ^ 64) x.toInt y.toInt (by decide)
  dsimp only at same
  rw [← toNat_eq_unsigned, ← toNat_eq_unsigned] at same
  apply BitVec.eq_of_toNat_eq
  rw [BitVec.toNat_ofInt, BitVec.toNat_ofInt]
  exact congrArg Int.toNat same

variable [TypePrinter] [FloatArithmetic] [FloatOperations]
  {supported : isSupportedIntegerType (.integer .signless 64) = true}

/-- For a negative factor, the other one is subtracted. -/
theorem signCorrection_ofBitVec
    (unsigned : isSupportedIntegerType (.integer .unsigned 64) = true) (x y : BitVec 64) :
    signCorrection (.ofBitVec supported x) (.ofBitVec supported y) =
      .ok (.ofBitVec unsigned (if x.slt 0 then y else 0)) := by
  have less : (Element.ofBitVec supported x).less (.ofBitVec supported (.ofInt 64 0)) =
      .ok (IntegerType.boolean.element (.ofBool
        (if isSupportedSignedIntegerType (.integer .signless 64) then x.slt 0 else x.ult 0))) :=
    (comparePair_ofBitVec x _).trans (Element.ofBoolean_bit _)
  have negative : (Element.ofBitVec supported x).compareBy .lt (.ofBitVec supported (.ofInt 64 0)) =
      .ok (IntegerType.boolean.element (.ofBool (x.slt 0))) := less
  rw [signCorrection, getConstantLike_ofBitVec, Fallible.ok_bind, negative, Fallible.ok_bind,
    getConvertToUnsigned_ofBitVec unsigned, Fallible.ok_bind, getConstantLike_ofBitVec,
    Fallible.ok_bind]
  cases x.slt 0 <;> rfl

/-- The upper half of a product with signs is computed. -/
theorem mulhiS64_ofBitVec (x y : BitVec 64) :
    mulhiS64 (.ofBitVec supported x) (.ofBitVec supported y) =
      .ok (.ofBitVec supported (.ofInt 64 (x.toInt * y.toInt / 2 ^ 64))) := by
  have unsigned : isSupportedIntegerType (.integer .unsigned 64) = true := rfl
  rw [mulhiS64, getConvertToUnsigned_ofBitVec unsigned, Fallible.ok_bind,
    getConvertToUnsigned_ofBitVec unsigned, Fallible.ok_bind, mulhiU64_ofBitVec, Fallible.ok_bind,
    signCorrection_ofBitVec unsigned, Fallible.ok_bind, (partialProducts_exact x y).2,
    Element.subtract_ofBitVec, Fallible.ok_bind, signCorrection_ofBitVec unsigned,
    Fallible.ok_bind, Element.subtract_ofBitVec, Fallible.ok_bind, corrected_eq]
  refine (convert_integer_ofBitVec supported _).trans ?_
  rw [Element.ofInt_integer]

end Signs

section Exactness

variable [TypePrinter] [FloatArithmetic] [FloatOperations]

/--
The operations emitted for a product compute its upper half, for integers with and without a sign.
Without a sign and with 64 bits, no sum or product on the way has more bits than that.
-/
theorem decomposeMulhi_exact {signedness : Signedness} {width : Nat} {lhs rhs : Element}
    (supported : isSupportedIntegerType (.integer signedness width) = true)
    (lhsType : lhs.type = .integer signedness width)
    (rhsType : rhs.type = .integer signedness width) :
    (∃ result, decomposeMulhi lhs rhs = .ok result ∧ IsUpperHalf width lhs rhs result) ∧
      (signedness = .unsigned → width = 64 →
        ∃ products, mulhiU64 lhs rhs = .ok products ∧ products.Exact) := by
  obtain ⟨x, rfl⟩ := Element.exists_ofBitVec supported lhsType
  obtain ⟨y, rfl⟩ := Element.exists_ofBitVec supported rhsType
  refine ⟨⟨_, ?_, isUpperHalf_ofInt x y⟩, ?_⟩
  · have narrow {isSigned : Bool} {bits : BitVec width} :
        isIntegerLessThanNBits (Element.ofBitVec supported bits).type isSigned 64 =
          ((signedness == .unsigned) == !isSigned && decide (width < 64)) := rfl
    have widest {isSigned : Bool} {bits : BitVec width} :
        isIntegerWithNBits (Element.ofBitVec supported bits).type isSigned 64 =
          ((signedness == .unsigned) == !isSigned && width == 64) := rfl
    have most := (width_of_supported supported).2
    rw [decomposeMulhi]
    simp only [narrow, widest]
    rcases Nat.lt_or_ge width 64 with less | full
    · -- Twice the bits are at most 64.
      cases signedness with
      | signed => cases supported
      | signless =>
        rw [if_pos (by simp [less])]
        exact mulhiUpcast_ofBitVec less
          (fun wide _ bounds amount => shiftRightArithmetic_integer (by decide) bounds amount) x y
      | unsigned =>
        rw [if_neg (by simp), if_pos (by simp [less])]
        exact mulhiUpcast_ofBitVec less
          (fun wide _ bounds amount => shiftRightLogical_integer rfl bounds amount) x y
    · obtain rfl : width = 64 := by omega
      cases signedness with
      | signed => cases supported
      | signless => exact mulhiS64_ofBitVec x y
      | unsigned =>
        rw [if_neg (by decide), if_neg (by decide), if_pos (by decide), mulhiU64_ofBitVec,
          Fallible.ok_bind, (partialProducts_exact x y).2]
        congr 2
  · rintro rfl rfl
    exact ⟨_, mulhiU64_ofBitVec x y, (partialProducts_exact x y).1⟩

end Exactness

/-- The upper half of a product of bytes, one of which is negative. -/
theorem decomposeMulhi_bytes :
    ∃ lhs rhs, lhs.integer = -128 ∧ rhs.integer = 3 ∧
      ∃ result, @decomposeMulhi plainPrinter integersOnly integerOperations lhs rhs = .ok result ∧
        IsUpperHalf 8 lhs rhs result := by
  have supported : isSupportedIntegerType (.integer .signless 8) = true := rfl
  refine ⟨.ofBitVec supported 0x80, .ofBitVec supported 3, rfl, rfl, ?_⟩
  exact (@decomposeMulhi_exact plainPrinter integersOnly integerOperations .signless 8 _ _ supported
    rfl rfl).1

end Chlo

end Stablehlo
