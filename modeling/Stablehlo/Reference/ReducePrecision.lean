import Stablehlo.Reference.Element
import Stablehlo.Support.NearestEven

/-! Floats rounded to fewer bits, within their own format. -/

namespace Stablehlo

namespace FloatSemantics

/-- The number of bits of a significand, the leading one included. -/
def precision : FloatSemantics → Nat
  | .float8E8M0FNU => 1
  | .float4E2M1FN => 2
  | .float6E3M2FN | .float8E5M2 | .float8E5M2FNUZ => 3
  | .float6E2M3FN | .float8E4M3 | .float8E4M3FN | .float8E4M3FNUZ | .float8E4M3B11FNUZ => 4
  | .float8E3M4 => 5
  | .bFloat => 8
  | .ieeeHalf | .floatTF32 => 11
  | .ieeeSingle => 24
  | .ieeeDouble => 53

/-- The formats whose greatest exponent is the one of infinity, and of what is no number. -/
def isIEEELike : FloatSemantics → Bool
  | .bFloat | .ieeeHalf | .ieeeSingle | .ieeeDouble | .floatTF32 | .float8E3M4 | .float8E4M3
  | .float8E5M2 => true
  | _ => false

/-- The bits of the parts of a number. -/
def format (semantics : FloatSemantics) : BinaryFormat where
  exponentBits := semantics.sizeInBits - semantics.precision
  mantissaBits := semantics.precision - 1

end FloatSemantics

namespace APFloat

/-- The bits of a number without its sign. -/
def magnitude (value : APFloat) : Nat :=
  value.bits.toNat % 2 ^ (value.semantics.sizeInBits - 1)

/-- The sign of a number. -/
def isNegative (value : APFloat) : Bool := value.bits.msb

/-- Whether the bits are no number. -/
def isNaN (value : APFloat) : Bool :=
  match value.semantics with
  -- These formats have finite numbers only.
  | .float4E2M1FN | .float6E2M3FN | .float6E3M2FN => false
  -- All bits are set, the sign apart where the format has one.
  | .float8E8M0FNU => value.bits.toNat == 2 ^ 8 - 1
  | .float8E4M3FN => value.magnitude == 2 ^ 7 - 1
  -- The zero with a sign is not a number.
  | .float8E4M3FNUZ | .float8E4M3B11FNUZ | .float8E5M2FNUZ =>
    value.magnitude == 0 && value.isNegative
  | semantics => decide (semantics.format.infinity < value.magnitude)

/-- Positive infinity, for which a format without it has what is not a number. -/
def getInf (semantics : FloatSemantics) : Except Failure APFloat :=
  match semantics with
  | .float4E2M1FN | .float6E2M3FN | .float6E3M2FN => .error .undefinedBehavior
  | .float8E8M0FNU => .ok ⟨semantics, BitVec.ofNat _ (2 ^ 8 - 1)⟩
  | .float8E4M3FN => .ok ⟨semantics, BitVec.ofNat _ (2 ^ 7 - 1)⟩
  | .float8E4M3FNUZ | .float8E4M3B11FNUZ | .float8E5M2FNUZ =>
    .ok ⟨semantics, BitVec.ofNat _ (2 ^ 7)⟩
  | semantics => .ok ⟨semantics, BitVec.ofNat _ semantics.format.infinity⟩

end APFloat

section Operations

/-- One, shifted by a number of bits that a machine integer has. -/
def shiftedOne (amount : Int) : Except Failure (BitVec 64) :=
  if 0 ≤ amount ∧ amount < 64 then .ok ((1 : BitVec 64) <<< amount.toNat)
  else .error .undefinedBehavior

/-- Round the mantissa to the nearest with fewer bits, with ties to even. -/
def roundMantissa (intVal : BitVec 64) (srcMantissaBits destMantissaBits : Int) :
    Except Failure (BitVec 64) :=
  if destMantissaBits < srcMantissaBits then do
    let lastMantissaBitMask ← shiftedOne (srcMantissaBits - destMantissaBits)
    let baseRoundingBias := (lastMantissaBitMask >>> 1) - 1
    let xLastMantissaBit :=
      (intVal &&& lastMantissaBitMask) >>> (srcMantissaBits - destMantissaBits).toNat
    let xRoundingBias := xLastMantissaBit + baseRoundingBias
    let truncationMask := ~~~(lastMantissaBitMask - 1)
    .ok ((intVal + xRoundingBias) &&& truncationMask)
  else
    .ok intVal

/-- Replace a number whose exponent is not one of fewer bits by zero or infinity. -/
def restrictExponent (intVal : BitVec 64) (bitWidth srcMantissaBits destExponentBits : Int) :
    Except Failure (BitVec 64) :=
  let srcExponentBits := bitWidth - srcMantissaBits - 1
  if destExponentBits < srcExponentBits then do
    let signBitMask ← shiftedOne (bitWidth - 1)
    let exponents ← shiftedOne srcExponentBits
    let expBitsMask := (exponents - 1) <<< srcMantissaBits.toNat
    let halfExponents ← shiftedOne (srcExponentBits - 1)
    let reducedExponents ← shiftedOne (destExponentBits - 1)
    let exponentBias := halfExponents - 1
    let reducedExponentBias := reducedExponents - 1
    let reducedMaxExponent := exponentBias + reducedExponentBias
    let reducedMinExponent := exponentBias - reducedExponentBias
    let xExponent := intVal &&& expBitsMask
    let xOverflows := xExponent > reducedMaxExponent <<< srcMantissaBits.toNat
    let xUnderflows := xExponent ≤ reducedMinExponent <<< srcMantissaBits.toNat
    let xSignedZero := intVal &&& signBitMask
    let xSignedInf := xSignedZero ||| expBitsMask
    let intVal := if xOverflows then xSignedInf else intVal
    .ok (if xUnderflows then xSignedZero else intVal)
  else
    .ok intVal

variable [TypePrinter]

/-- Round an element to a number of bits of its exponent and of its mantissa. -/
def reducePrecision (el : Element) (exponentBits mantissaBits : Int) : Except Failure Element := do
  let value ← el.getFloatValue
  let bitWidth := value.semantics.sizeInBits
  let srcMantissaBits : Int := value.semantics.precision - 1
  let intVal ← roundMantissa (value.bits.setWidth 64) srcMantissaBits mantissaBits
  let intVal ← restrictExponent intVal bitWidth srcMantissaBits exponentBits
  -- The source asserts that the bits fit the format.
  if intVal.toNat < 2 ^ bitWidth then
    if value.isNaN then
      if mantissaBits > 0 then .ok el
      else do
        let infinity ← APFloat.getInf value.semantics
        Element.ofFloat el.type infinity
    else
      Element.ofFloat el.type ⟨value.semantics, intVal.setWidth _⟩
  else
    .error .undefinedBehavior

end Operations

section Bits

/-- The power of two that a mask has as its only bit. -/
theorem toNat_one_shiftLeft {amount : Nat} (within : amount < 64) :
    ((1 : BitVec 64) <<< amount).toNat = 2 ^ amount := by
  have bound : 2 ^ amount < 2 ^ 64 := Nat.pow_lt_pow_right (by decide) within
  rw [BitVec.toNat_shiftLeft, Nat.shiftLeft_eq]
  exact (congrArg (· % 2 ^ 64) (Nat.one_mul _)).trans (Nat.mod_eq_of_lt bound)

/-- A mask of one bit exists for every position in a machine integer. -/
theorem shiftedOne_eq {amount : Int} {position : Nat} (same : amount = position)
    (within : position < 64) : shiftedOne amount = .ok ((1 : BitVec 64) <<< position) := by
  rw [shiftedOne, if_pos (by omega), same, Int.toNat_natCast]

/-- The ones below a bit. -/
theorem toNat_ones {count : Nat} (within : count < 64) :
    (((1 : BitVec 64) <<< count) - 1).toNat = 2 ^ count - 1 := by
  have one : (1 : BitVec 64).toNat ≤ ((1 : BitVec 64) <<< count).toNat := by
    rw [toNat_one_shiftLeft within]
    exact Nat.one_le_two_pow
  rw [BitVec.toNat_sub_of_le (BitVec.le_def.mpr one), toNat_one_shiftLeft within]
  rfl

/-- A mask keeps the bits of a field, where they are. -/
theorem toNat_and_mask {value mask : BitVec 64} {low count : Nat}
    (ones : mask.toNat = (2 ^ count - 1) * 2 ^ low) :
    (value &&& mask).toNat = value.toNat / 2 ^ low % 2 ^ count * 2 ^ low := by
  rw [BitVec.toNat_and, ones, ← Nat.shiftLeft_eq, ← Nat.shiftLeft_eq]
  apply Nat.eq_of_testBit_eq
  intro position
  simp only [Nat.testBit_and, Nat.testBit_shiftLeft, Nat.testBit_two_pow_sub_one,
    Nat.testBit_mod_two_pow, Nat.testBit_div_two_pow]
  by_cases inside : low ≤ position
  · simp [inside, Bool.and_comm]
  · simp [inside]

/-- The mask of the bits from a position on removes what is left of a division. -/
theorem toNat_and_truncation (value : BitVec 64) {low : Nat} (within : low < 64) :
    (value &&& ~~~(((1 : BitVec 64) <<< low) - 1)).toNat = value.toNat / 2 ^ low * 2 ^ low := by
  have whole : 2 ^ (64 - low) * 2 ^ low = 2 ^ 64 := by
    rw [← pow_add]
    congr 1
    omega
  have ones : (~~~((1 : BitVec 64) <<< low - 1)).toNat = (2 ^ (64 - low) - 1) * 2 ^ low := by
    have below : 2 ^ low ≤ 2 ^ 64 := Nat.pow_le_pow_right Nat.two_pos within.le
    have least : 1 ≤ 2 ^ low := Nat.one_le_two_pow
    rw [BitVec.toNat_not, toNat_ones within, Nat.sub_one_mul, whole]
    omega
  -- No bit of the quotient is cut off.
  have small : value.toNat / 2 ^ low < 2 ^ (64 - low) := by
    rw [Nat.div_lt_iff_lt_mul (Nat.two_pow_pos _), whole]
    exact value.isLt
  rw [toNat_and_mask ones, Nat.mod_eq_of_lt small]

end Bits

section Rounding

/-- The mantissa is rounded to the nearest even number, unless the sum has too many bits. -/
theorem roundMantissa_eq (intVal : BitVec 64) {srcMantissaBits : Nat} {destMantissaBits : Int}
    (within : srcMantissaBits < 64) (natural : 0 ≤ destMantissaBits)
    (room : intVal.toNat + 2 ^ srcMantissaBits ≤ 2 ^ 64) :
    ∃ rounded, roundMantissa intVal srcMantissaBits destMantissaBits = .ok rounded ∧
      rounded.toNat =
        nearestEven (2 ^ (srcMantissaBits - destMantissaBits.toNat)) intVal.toNat := by
  unfold roundMantissa
  split
  · rename_i fewer
    obtain ⟨half, bits⟩ : ∃ half, srcMantissaBits - destMantissaBits.toNat = half + 1 :=
      Nat.exists_eq_add_one.mpr (by omega)
    have amount : (srcMantissaBits - destMantissaBits).toNat = half + 1 := by omega
    have double : 2 ^ (half + 1) = 2 * 2 ^ half := pow_succ' 2 half
    have small : 2 ^ (half + 1) ≤ 2 ^ srcMantissaBits :=
      Nat.pow_le_pow_right Nat.two_pos (by omega)
    have least : 1 ≤ 2 ^ half := Nat.one_le_two_pow
    rw [@shiftedOne_eq _ (half + 1) (by omega) (by omega)]
    refine ⟨_, rfl, ?_⟩
    have mask := @toNat_one_shiftLeft (half + 1) (by omega)
    -- The bias is half of the last place, less one where the last bit is even.
    have base : (((1 : BitVec 64) <<< (half + 1)) >>> 1 - 1).toNat = 2 ^ half - 1 := by
      have halved : (((1 : BitVec 64) <<< (half + 1)) >>> 1).toNat = 2 ^ half := by
        rw [BitVec.toNat_ushiftRight, mask, Nat.shiftRight_eq_div_pow, double, pow_one,
          Nat.mul_div_cancel_left _ Nat.two_pos]
      rw [BitVec.toNat_sub_of_le (BitVec.le_def.mpr (halved ▸ least)), halved]
      rfl
    have last : ((intVal &&& ((1 : BitVec 64) <<< (half + 1))) >>> (half + 1)).toNat =
        intVal.toNat / 2 ^ (half + 1) % 2 := by
      have ones : ((1 : BitVec 64) <<< (half + 1)).toNat = (2 ^ 1 - 1) * 2 ^ (half + 1) := by
        rw [mask]
        exact (Nat.one_mul _).symm
      rw [BitVec.toNat_ushiftRight, toNat_and_mask ones, Nat.shiftRight_eq_div_pow,
        Nat.mul_div_cancel _ (Nat.two_pow_pos _), pow_one]
    have bias : ((intVal &&& ((1 : BitVec 64) <<< (half + 1))) >>> (half + 1) +
        (((1 : BitVec 64) <<< (half + 1)) >>> 1 - 1)).toNat =
        intVal.toNat / 2 ^ (half + 1) % 2 + (2 ^ half - 1) := by
      rw [BitVec.toNat_add, last, base, Nat.mod_eq_of_lt (by omega)]
    rw [amount, toNat_and_truncation _ (by omega), bits, BitVec.toNat_add, bias,
      Nat.mod_eq_of_lt (by omega), double, nearestEven_eq_biased least]
  · -- Every number is a multiple of one.
    rename_i enough
    refine ⟨intVal, rfl, ?_⟩
    rw [Nat.sub_eq_zero_of_le (by omega), pow_zero, nearestEven_of_dvd Nat.one_pos (one_dvd _)]

/-- A shift loses no bit of a number that is small enough. -/
theorem toNat_shiftLeft_of_lt {value : BitVec 64} {count low : Nat} (small : value.toNat < 2 ^ count)
    (within : count + low ≤ 64) : (value <<< low).toNat = value.toNat * 2 ^ low := by
  have bound : value.toNat * 2 ^ low < 2 ^ 64 :=
    calc value.toNat * 2 ^ low < 2 ^ count * 2 ^ low :=
          Nat.mul_lt_mul_of_pos_right small (Nat.two_pow_pos _)
      _ = 2 ^ (count + low) := (pow_add ..).symm
      _ ≤ 2 ^ 64 := Nat.pow_le_pow_right Nat.two_pos within
  rw [BitVec.toNat_shiftLeft, Nat.shiftLeft_eq, Nat.mod_eq_of_lt bound]

section Masks

variable {format : BinaryFormat} (width : format.exponentBits + format.mantissaBits < 64)

include width

/-- The mask of the exponent is infinity. -/
theorem toNat_exponentMask : (((1 : BitVec 64) <<< format.exponentBits - 1) <<<
    format.mantissaBits).toNat = format.infinity := by
  have ones := @toNat_ones format.exponentBits (by omega)
  have small : 2 ^ format.exponentBits - 1 < 2 ^ format.exponentBits :=
    Nat.sub_lt (Nat.two_pow_pos _) Nat.one_pos
  rw [toNat_shiftLeft_of_lt (ones.trans_lt small) (by omega), ones]
  rfl

variable {intVal : BitVec 64} {sign magnitude : Nat}
  (bound : magnitude ≤ format.infinity)
  (value : intVal.toNat = 2 ^ (format.exponentBits + format.mantissaBits) * sign + magnitude)

include bound value

/-- The sign bit of a number, in its place. -/
theorem toNat_and_signBitMask (signs : sign ≤ 1) :
    (intVal &&& (1 : BitVec 64) <<< (format.exponentBits + format.mantissaBits)).toNat =
      2 ^ (format.exponentBits + format.mantissaBits) * sign := by
  have mask : ((1 : BitVec 64) <<< (format.exponentBits + format.mantissaBits)).toNat =
      (2 ^ 1 - 1) * 2 ^ (format.exponentBits + format.mantissaBits) := by
    rw [toNat_one_shiftLeft width]
    exact (Nat.one_mul _).symm
  rw [toNat_and_mask mask, value, Nat.mul_add_div (Nat.two_pow_pos _),
    Nat.div_eq_of_lt (format.lt_of_le_infinity bound), Nat.add_zero, Nat.mod_eq_of_lt (by omega),
    Nat.mul_comm]

/-- The exponent of a number, in its place. -/
theorem toNat_and_exponentMask :
    (intVal &&& ((1 : BitVec 64) <<< format.exponentBits - 1) <<< format.mantissaBits).toNat =
      format.exponentField magnitude * 2 ^ format.mantissaBits := by
  have field := format.exponentField_lt bound
  have places : intVal.toNat / 2 ^ format.mantissaBits =
      2 ^ format.exponentBits * sign + format.exponentField magnitude := by
    rw [value, Nat.add_comm format.exponentBits, pow_add, Nat.mul_assoc,
      Nat.mul_add_div (Nat.two_pow_pos _)]
    rfl
  rw [toNat_and_mask (toNat_exponentMask width), places, Nat.mul_add_mod, Nat.mod_eq_of_lt field]

/-- Infinity with the sign of a number. -/
theorem toNat_signedInfinity (signs : sign ≤ 1) :
    ((intVal &&& (1 : BitVec 64) <<< (format.exponentBits + format.mantissaBits)) |||
      ((1 : BitVec 64) <<< format.exponentBits - 1) <<< format.mantissaBits).toNat =
      2 ^ (format.exponentBits + format.mantissaBits) * sign + format.infinity := by
  rw [BitVec.toNat_or, toNat_and_signBitMask width bound value signs, toNat_exponentMask width,
    ← Nat.two_pow_add_eq_or_of_lt (format.lt_of_le_infinity le_rfl)]

end Masks

section Ranges

variable {format : BinaryFormat} (width : format.exponentBits + format.mantissaBits < 64)
  {count : Nat} (positive : 1 ≤ count) (narrow : count < format.exponentBits)

include positive narrow

/-- What the exponents of a range are above is less than what those of the format are. -/
theorem reducedBias_le : 2 * 2 ^ (count - 1) ≤ 2 ^ (format.exponentBits - 1) := by
  rw [← pow_succ']
  exact Nat.pow_le_pow_right Nat.two_pos (by omega)

include width

/-- The greatest exponent of a range, in the place of the exponent. -/
theorem toNat_reducedMaxExponent :
    ((((1 : BitVec 64) <<< (format.exponentBits - 1) - 1) +
        ((1 : BitVec 64) <<< (count - 1) - 1)) <<< format.mantissaBits).toNat =
      (format.bias + (2 ^ (count - 1) - 1)) * 2 ^ format.mantissaBits := by
  have smaller := reducedBias_le positive narrow
  have least : 1 ≤ 2 ^ (count - 1) := Nat.one_le_two_pow
  have bias : format.bias = 2 ^ (format.exponentBits - 1) - 1 := rfl
  have double : 2 ^ format.exponentBits = 2 * 2 ^ (format.exponentBits - 1) :=
    (mul_pow_sub_one (by omega) 2).symm
  have machine : 2 ^ format.exponentBits ≤ 2 ^ 64 := Nat.pow_le_pow_right Nat.two_pos (by omega)
  have sum : (((1 : BitVec 64) <<< (format.exponentBits - 1) - 1) +
      ((1 : BitVec 64) <<< (count - 1) - 1)).toNat = format.bias + (2 ^ (count - 1) - 1) := by
    rw [BitVec.toNat_add, toNat_ones (by omega), toNat_ones (by omega)]
    exact Nat.mod_eq_of_lt (by omega)
  have small : format.bias + (2 ^ (count - 1) - 1) < 2 ^ format.exponentBits := by omega
  rw [toNat_shiftLeft_of_lt (sum.trans_lt small) (by omega), sum]

/-- The exponent below a range, in the place of the exponent. -/
theorem toNat_reducedMinExponent :
    ((((1 : BitVec 64) <<< (format.exponentBits - 1) - 1) -
        ((1 : BitVec 64) <<< (count - 1) - 1)) <<< format.mantissaBits).toNat =
      (format.bias - (2 ^ (count - 1) - 1)) * 2 ^ format.mantissaBits := by
  have smaller := reducedBias_le positive narrow
  have whole := @toNat_ones (format.exponentBits - 1) (by omega)
  have part := @toNat_ones (count - 1) (by omega)
  have difference : (((1 : BitVec 64) <<< (format.exponentBits - 1) - 1) -
      ((1 : BitVec 64) <<< (count - 1) - 1)).toNat = format.bias - (2 ^ (count - 1) - 1) := by
    rw [BitVec.toNat_sub_of_le (BitVec.le_def.mpr (by omega)), whole, part]
    rfl
  have small : format.bias - (2 ^ (count - 1) - 1) < 2 ^ (format.exponentBits - 1) := by
    have least : 1 ≤ 2 ^ (format.exponentBits - 1) := Nat.one_le_two_pow
    unfold BinaryFormat.bias
    omega
  rw [toNat_shiftLeft_of_lt (difference.trans_lt small) (by omega), difference]

end Ranges

/-- The exponent is compared with the range, in which the sign takes no part. -/
theorem restrictExponent_eq {format : BinaryFormat} {intVal : BitVec 64} {sign magnitude : Nat}
    {destExponentBits : Int} (exponents : 1 ≤ format.exponentBits)
    (width : format.exponentBits + format.mantissaBits < 64) (positive : 1 ≤ destExponentBits)
    (signs : sign ≤ 1) (bound : magnitude ≤ format.infinity)
    (value : intVal.toNat = 2 ^ (format.exponentBits + format.mantissaBits) * sign + magnitude) :
    ∃ result, restrictExponent intVal
        ((1 + format.exponentBits + format.mantissaBits : Nat) : Int) format.mantissaBits
        destExponentBits = .ok result ∧
      result.toNat = 2 ^ (format.exponentBits + format.mantissaBits) * sign +
        format.restrict destExponentBits.toNat magnitude := by
  obtain ⟨count, rfl⟩ := Int.eq_ofNat_of_zero_le (by omega : 0 ≤ destExponentBits)
  have source : ((1 + format.exponentBits + format.mantissaBits : Nat) : Int) -
      format.mantissaBits - 1 = format.exponentBits := by omega
  unfold restrictExponent BinaryFormat.restrict
  simp only [source, Int.toNat_natCast]
  split
  · rename_i fewer
    have narrow : count < format.exponentBits := by omega
    rw [@shiftedOne_eq _ (format.exponentBits + format.mantissaBits) (by omega) (by omega),
      @shiftedOne_eq _ format.exponentBits rfl (by omega),
      @shiftedOne_eq _ (format.exponentBits - 1) (by omega) (by omega),
      @shiftedOne_eq _ (count - 1) (by omega) (by omega)]
    refine ⟨_, rfl, ?_⟩
    have range := reducedBias_le (by omega) narrow
    have least : 1 ≤ 2 ^ (count - 1) := Nat.one_le_two_pow
    have cast : ((2 ^ (count - 1) : Nat) : Int) = 2 ^ (count - 1) := by norm_num
    have place : 0 < 2 ^ format.mantissaBits := Nat.two_pow_pos _
    have overflows : (((1 : BitVec 64) <<< (format.exponentBits - 1) - 1) +
        ((1 : BitVec 64) <<< (count - 1) - 1)) <<< format.mantissaBits <
        intVal &&& ((1 : BitVec 64) <<< format.exponentBits - 1) <<< format.mantissaBits ↔
        2 ^ (count - 1) - 1 < format.exponent magnitude := by
      rw [BitVec.lt_def, toNat_reducedMaxExponent width (by omega) narrow,
        toNat_and_exponentMask width bound value, Nat.mul_lt_mul_right place,
        BinaryFormat.exponent, ← cast]
      unfold BinaryFormat.bias
      omega
    have underflows : intVal &&& ((1 : BitVec 64) <<< format.exponentBits - 1) <<<
        format.mantissaBits ≤ (((1 : BitVec 64) <<< (format.exponentBits - 1) - 1) -
        ((1 : BitVec 64) <<< (count - 1) - 1)) <<< format.mantissaBits ↔
        format.exponent magnitude < 2 - 2 ^ (count - 1) := by
      rw [BitVec.le_def, toNat_reducedMinExponent width (by omega) narrow,
        toNat_and_exponentMask width bound value, Nat.mul_le_mul_right_iff place,
        BinaryFormat.exponent, ← cast]
      unfold BinaryFormat.bias
      omega
    simp only [gt_iff_lt, overflows, underflows]
    rw [if_neg (not_le.mpr narrow)]
    -- No exponent is both above and below the range.
    by_cases above : 2 ^ (count - 1) - 1 < format.exponent magnitude
    · rw [if_neg (by omega), if_pos above, if_pos above]
      exact toNat_signedInfinity width bound value signs
    · rw [if_neg above, if_neg above]
      split
      · exact toNat_and_signBitMask width bound value signs
      · exact value
  · -- The target has all exponents.
    rename_i enough
    rw [if_pos (by omega)]
    exact ⟨intVal, rfl, value⟩

end Rounding

section Formats

variable {semantics : FloatSemantics}

/-- The parts of a number fill its bits, which a machine integer holds. -/
theorem FloatSemantics.format_fits (ieee : semantics.isIEEELike = true) :
    1 ≤ semantics.format.exponentBits ∧ 1 ≤ semantics.format.mantissaBits ∧
      semantics.precision = semantics.format.mantissaBits + 1 ∧
      semantics.sizeInBits = 1 + semantics.format.exponentBits + semantics.format.mantissaBits ∧
      semantics.sizeInBits ≤ 64 := by
  cases semantics <;> first | decide | cases ieee

/-- What is no number is beyond infinity. -/
theorem APFloat.isNaN_eq_false (ieee : semantics.isIEEELike = true)
    (bits : BitVec semantics.sizeInBits) :
    isNaN ⟨semantics, bits⟩ = false ↔
      magnitude ⟨semantics, bits⟩ ≤ semantics.format.infinity := by
  have beyond : isNaN ⟨semantics, bits⟩ =
      decide (semantics.format.infinity < magnitude ⟨semantics, bits⟩) := by
    cases semantics <;> first | rfl | cases ieee
  rw [beyond, decide_eq_false_iff_not, not_lt]

/-- The element of a float type with some bits. -/
def Element.ofFloatBits (supported : isSupportedFloatType (.float semantics) = true)
    (bits : BitVec semantics.sizeInBits) : Element where
  type := .float semantics
  value := .float ⟨semantics, bits⟩
  fits := by simp [ElementValue.fits, supported]

variable {supported : isSupportedFloatType (.float semantics) = true}
variable {bits : BitVec semantics.sizeInBits} {sign magnitude : Nat}

/-- A number consists of its sign and its magnitude. -/
theorem exists_parts (ieee : semantics.isIEEELike = true) (bits : BitVec semantics.sizeInBits) :
    ∃ sign ≤ 1, bits.toNat = 2 ^ (semantics.sizeInBits - 1) * sign +
      APFloat.magnitude ⟨semantics, bits⟩ := by
  obtain ⟨-, -, -, size, -⟩ := FloatSemantics.format_fits ieee
  have double : 2 ^ semantics.sizeInBits = 2 * 2 ^ (semantics.sizeInBits - 1) :=
    (mul_pow_sub_one (by omega) 2).symm
  have small := bits.isLt
  refine ⟨bits.toNat / 2 ^ (semantics.sizeInBits - 1), ?_, (Nat.div_add_mod ..).symm⟩
  exact Nat.le_of_lt_succ (Nat.div_lt_of_lt_mul (by omega))

/-- The parts of a number are read from its bits. -/
theorem magnitude_of_parts (bound : magnitude ≤ semantics.format.infinity)
    (parts : bits.toNat = 2 ^ (semantics.sizeInBits - 1) * sign + magnitude)
    (ieee : semantics.isIEEELike = true) :
    APFloat.magnitude ⟨semantics, bits⟩ = magnitude := by
  obtain ⟨-, -, -, size, -⟩ := FloatSemantics.format_fits ieee
  have small := semantics.format.lt_of_le_infinity bound
  have top : semantics.sizeInBits - 1 =
      semantics.format.exponentBits + semantics.format.mantissaBits := by omega
  rw [APFloat.magnitude, parts, Nat.mul_add_mod, top, Nat.mod_eq_of_lt small]

/-- The sign of a number is its highest bit. -/
theorem isNegative_of_parts (bound : magnitude ≤ semantics.format.infinity)
    (parts : bits.toNat = 2 ^ (semantics.sizeInBits - 1) * sign + magnitude)
    (ieee : semantics.isIEEELike = true) (signs : sign ≤ 1) :
    APFloat.isNegative ⟨semantics, bits⟩ = decide (sign = 1) := by
  obtain ⟨-, -, -, size, -⟩ := FloatSemantics.format_fits ieee
  have small := semantics.format.lt_of_le_infinity bound
  have top : semantics.sizeInBits - 1 =
      semantics.format.exponentBits + semantics.format.mantissaBits := by omega
  rw [APFloat.isNegative, BitVec.msb_eq_decide, decide_eq_decide, parts, top]
  rcases Nat.le_one_iff_eq_zero_or_eq_one.mp signs with rfl | rfl <;> omega

variable [TypePrinter]

/-- The element of a float type with the bits is constructed. -/
theorem Element.ofFloat_ofFloatBits (supported : isSupportedFloatType (.float semantics) = true)
    (bits : BitVec semantics.sizeInBits) :
    ofFloat (.float semantics) ⟨semantics, bits⟩ = .ok (ofFloatBits supported bits) := by
  rw [ofFloat, if_pos supported]
  exact dif_pos (ofFloatBits supported bits).fits

/-- The bits of a number after its parts were rounded and restricted. -/
theorem reducePrecision_ofFloatBits (ieee : semantics.isIEEELike = true) (signs : sign ≤ 1)
    (bound : magnitude ≤ semantics.format.infinity)
    (parts : bits.toNat = 2 ^ (semantics.sizeInBits - 1) * sign + magnitude)
    {exponentBits mantissaBits : Int} (positive : 1 ≤ exponentBits) (natural : 0 ≤ mantissaBits) :
    ∃ reduced : BitVec semantics.sizeInBits,
      reducePrecision (.ofFloatBits supported bits) exponentBits mantissaBits =
        .ok (.ofFloatBits supported reduced) ∧
      reduced.toNat = 2 ^ (semantics.sizeInBits - 1) * sign +
        semantics.format.restrict exponentBits.toNat
          (nearestEven (2 ^ (semantics.format.mantissaBits - mantissaBits.toNat)) magnitude) := by
  obtain ⟨exponents, mantissas, precision, size, machine⟩ := FloatSemantics.format_fits ieee
  have top : semantics.sizeInBits - 1 =
      semantics.format.exponentBits + semantics.format.mantissaBits := by omega
  have source : (semantics.precision : Int) - 1 = semantics.format.mantissaBits := by omega
  have small : bits.toNat < 2 ^ 64 :=
    lt_of_lt_of_le bits.isLt (Nat.pow_le_pow_right Nat.two_pos machine)
  have extended : (bits.setWidth 64).toNat = bits.toNat := by
    rw [BitVec.toNat_setWidth, Nat.mod_eq_of_lt small]
  rw [top] at parts ⊢
  have signed : 2 ^ (semantics.format.exponentBits + semantics.format.mantissaBits) * sign ≤
      2 ^ (semantics.format.exponentBits + semantics.format.mantissaBits) :=
    (Nat.mul_le_mul_left _ signs).trans_eq (Nat.mul_one _)
  have double : 2 ^ semantics.sizeInBits =
      2 * 2 ^ (semantics.format.exponentBits + semantics.format.mantissaBits) := by
    rw [← pow_succ', size]
    congr 1
    omega
  have words : 2 ^ semantics.sizeInBits ≤ 2 ^ 64 := Nat.pow_le_pow_right Nat.two_pos machine
  have infinite := semantics.format.infinity_add
  -- The sign is an even multiple of the last place that stays.
  have apart : nearestEven (2 ^ (semantics.format.mantissaBits - mantissaBits.toNat)) bits.toNat =
      2 ^ (semantics.format.exponentBits + semantics.format.mantissaBits) * sign +
        nearestEven (2 ^ (semantics.format.mantissaBits - mantissaBits.toNat)) magnitude := by
    obtain ⟨more, places⟩ : ∃ more, semantics.format.exponentBits + semantics.format.mantissaBits =
        semantics.format.mantissaBits - mantissaBits.toNat + (1 + more) :=
      ⟨semantics.format.exponentBits + semantics.format.mantissaBits -
        (semantics.format.mantissaBits - mantissaBits.toNat) - 1, by omega⟩
    rw [parts, places, pow_add, pow_add, pow_one, Nat.mul_assoc, Nat.mul_assoc,
      nearestEven_add (Nat.two_pow_pos _)]
  have most : nearestEven (2 ^ (semantics.format.mantissaBits - mantissaBits.toNat)) magnitude ≤
      semantics.format.infinity :=
    nearestEven_le (Nat.two_pow_pos _) (BinaryFormat.dvd_infinity (Nat.sub_le ..)) bound
  have room : (bits.setWidth 64).toNat + 2 ^ semantics.format.mantissaBits ≤ 2 ^ 64 := by
    rw [extended, parts]
    omega
  obtain ⟨rounded, rounds, nearest⟩ := roundMantissa_eq (bits.setWidth 64) (by omega) natural room
  obtain ⟨restricted, restricts, value⟩ := restrictExponent_eq exponents (by omega) positive signs
    most (nearest.trans (extended.symm ▸ apart))
  have fits : restricted.toNat < 2 ^ semantics.sizeInBits := by
    have below : _ < _ :=
      semantics.format.lt_of_le_infinity
        (@BinaryFormat.restrict_le semantics.format exponentBits.toNat _ most)
    rw [value]
    omega
  have held : (restricted.setWidth semantics.sizeInBits).toNat = restricted.toNat := by
    rw [BitVec.toNat_setWidth, Nat.mod_eq_of_lt fits]
  refine ⟨restricted.setWidth _, ?_, held.trans value⟩
  have number : APFloat.isNaN ⟨semantics, bits⟩ = false := by
    rw [APFloat.isNaN_eq_false ieee]
    exact (magnitude_of_parts bound (top ▸ parts) ieee).trans_le bound
  have read : (Element.ofFloatBits supported bits).getFloatValue = .ok ⟨semantics, bits⟩ := rfl
  rw [← size] at restricts
  unfold reducePrecision
  rw [read, Fallible.ok_bind]
  dsimp only
  rw [source, rounds, Fallible.ok_bind, restricts, Fallible.ok_bind, if_pos fits, number,
    if_neg Bool.false_ne_true]
  exact Element.ofFloat_ofFloatBits supported _

/--
A number is rounded to the nearest one with the bits of a mantissa, by value.

Beyond the range of the exponents it becomes infinity or zero, and a second time it stays.
-/
theorem reducePrecision_eq {el : Element} {value : APFloat} (own : el.value = .float value)
    (ieee : value.semantics.isIEEELike = true) (number : value.isNaN = false)
    {exponentBits mantissaBits : Int} (positive : 1 ≤ exponentBits) (natural : 0 ≤ mantissaBits) :
    ∃ (result : Element) (reduced : APFloat) (rounded : Nat),
      reducePrecision el exponentBits mantissaBits = .ok result ∧ result.type = el.type ∧
      result.value = .float reduced ∧ reduced.semantics = value.semantics ∧
      reduced.isNegative = value.isNegative ∧
      value.semantics.format.RoundsTo
        (2 ^ (value.semantics.format.mantissaBits - mantissaBits.toNat)) value.magnitude rounded ∧
      reduced.magnitude = value.semantics.format.restrict exponentBits.toNat rounded ∧
      reducePrecision result exponentBits mantissaBits = .ok result := by
  obtain ⟨type, _, fits⟩ := el
  subst own
  cases ElementValue.of_fits fits with
  | @float _ supported =>
  obtain ⟨semantics, bits⟩ := value
  have bound := (APFloat.isNaN_eq_false ieee bits).mp number
  obtain ⟨sign, signs, parts⟩ := exists_parts ieee bits
  obtain ⟨reduced, first, held⟩ :=
    @reducePrecision_ofFloatBits _ supported _ _ _ _ ieee signs bound parts _ _ positive natural
  have fewer : semantics.format.mantissaBits - mantissaBits.toNat ≤
      semantics.format.mantissaBits := Nat.sub_le ..
  have most := nearestEven_le (Nat.two_pow_pos _) (BinaryFormat.dvd_infinity fewer) bound
  have inside := @BinaryFormat.restrict_le semantics.format exponentBits.toNat _ most
  obtain ⟨again, second, same⟩ := @reducePrecision_ofFloatBits _ supported _ _ _ _ ieee signs
    inside held _ _ positive natural
  -- Rounding what was rounded changes no bit.
  have stays : again = reduced := by
    apply BitVec.eq_of_toNat_eq
    rw [same, held, BinaryFormat.restrict_nearestEven_idempotent fewer (by omega)]
  refine ⟨_, _, _, first, rfl, rfl, rfl, ?_, BinaryFormat.roundsTo_nearestEven fewer _,
    magnitude_of_parts inside held ieee, second.trans (stays ▸ rfl)⟩
  rw [isNegative_of_parts inside held ieee signs, isNegative_of_parts bound parts ieee signs]

end Formats

/-- A number of half precision is rounded to two bits of the mantissa, and then stays. -/
theorem reducePrecision_half :
    ∃ result, @reducePrecision plainPrinter
        (@Element.ofFloatBits .ieeeHalf rfl 0x3C7F) 4 2 = .ok result ∧
      @reducePrecision plainPrinter result 4 2 = .ok result := by
  obtain ⟨result, _, _, first, -, -, -, -, -, -, stays⟩ :=
    @reducePrecision_eq plainPrinter (@Element.ofFloatBits .ieeeHalf rfl 0x3C7F)
      ⟨.ieeeHalf, 0x3C7F⟩ rfl rfl (by decide) 4 2 (by decide) (by decide)
  exact ⟨result, first, stays⟩

end Stablehlo
