import Mathlib.Tactic.Ring
import Stablehlo.Reference.Arithmetic

/-! Powers of integers, by squaring, and the rounding of those with a negative exponent. -/

namespace Stablehlo

section Operations

/-- Multiply the result by the squares of the base for which a bit of the exponent is set. -/
def powerLoop {width bits : Nat} (result base : BitVec width) (exponent : BitVec bits) :
    BitVec width :=
  if exponent = 0 then result
  else
    powerLoop (if exponent &&& 1 = 0 then result else result * base) (base * base) (exponent >>> 1)
termination_by exponent.toNat
decreasing_by
  -- The exponent is not zero, so that it loses a bit.
  have positive : exponent.toNat ≠ 0 := fun zero => ‹¬exponent = 0› (BitVec.eq_of_toNat_eq zero)
  rw [BitVec.toNat_ushiftRight, Nat.shiftRight_eq_div_pow]
  omega

variable [TypePrinter] [FloatArithmetic]

/-- Raise an element to the power of another. -/
def power (e1 e2 : Element) : Except Failure Element :=
  match e1.value, e2.value with
  | .integer base, .integer exponent =>
    let isSigned := isSupportedSignedIntegerType e1.type
    if isSigned && exponent.bits.msb then
      if base.bits.abs = 1 then
        Element.ofInteger e1.type ⟨base.width, powerLoop 1 base.bits exponent.bits.abs⟩
      else
        convertNumber e1.type ⟨⟨64, 0⟩, true⟩ (FloatArithmetic.zero e1.type)
    else
      Element.ofInteger e1.type ⟨base.width, powerLoop 1 base.bits exponent.bits⟩
  | _, _ => FloatArithmetic.power e1 e2

end Operations

/-- The power of an integer, rounded toward zero where the exponent is negative. -/
def truncatedPower (base exponent : Int) : Int :=
  if 0 ≤ exponent then base ^ exponent.toNat else Int.tdiv 1 (base ^ exponent.natAbs)

/-- The numbers one from zero are their own inverses, and so are their powers. -/
theorem truncatedPower_of_unit {base exponent : Int} (negative : exponent < 0)
    (unit : base = 1 ∨ base = -1) : truncatedPower base exponent = base ^ exponent.natAbs := by
  rw [truncatedPower, if_neg (not_le.mpr negative)]
  rcases unit with rfl | rfl
  · rw [one_pow]
    rfl
  · rcases neg_one_pow_eq_or Int exponent.natAbs with one | minus
    · rw [one]
      rfl
    · rw [minus]
      rfl

/-- The powers of the other numbers are zero, or more than one from zero. -/
theorem truncatedPower_of_far {base exponent : Int} (negative : exponent < 0)
    (far : ¬(base = 1 ∨ base = -1)) : truncatedPower base exponent = 0 := by
  rw [truncatedPower, if_neg (not_le.mpr negative)]
  have some : exponent.natAbs ≠ 0 := Int.natAbs_ne_zero.mpr negative.ne
  rcases eq_or_ne base 0 with rfl | nonzero
  · rw [zero_pow some, Int.tdiv_zero]
  have large : 1 < (base ^ exponent.natAbs).natAbs := by
    rw [Int.natAbs_pow]
    exact Nat.one_lt_pow some (by omega)
  -- The quotient of one is rounded toward zero on either side.
  rcases le_total 0 (base ^ exponent.natAbs) with positive | below
  · exact Int.tdiv_eq_zero_of_lt (by omega) (by omega)
  · rw [← neg_neg (base ^ exponent.natAbs), Int.tdiv_neg,
      Int.tdiv_eq_zero_of_lt (by omega) (by omega), neg_zero]

section Integers

variable {signedness : Signedness} {width : Nat}
variable {supported : isSupportedIntegerType (.integer signedness width) = true}

/-- The lowest bit is the remainder by two. -/
theorem toNat_and_one {bits : Nat} (number : BitVec bits) :
    (number &&& 1).toNat = number.toNat % 2 := by
  rcases Nat.eq_zero_or_pos bits with rfl | positive
  · rw [BitVec.eq_nil number]
    rfl
  · have one : (1 : BitVec bits).toNat = 1 :=
      (BitVec.toNat_ofNat ..).trans (Nat.mod_eq_of_lt (Nat.one_lt_two_pow positive.ne'))
    rw [BitVec.toNat_and, one, Nat.and_one_is_mod]

/-- The loop multiplies the result by the power of the base. -/
theorem powerLoop_eq {bits : Nat} (result base : BitVec width) (exponent : BitVec bits) :
    powerLoop result base exponent = result * base ^ exponent.toNat := by
  -- The loop runs over the bits of the exponent, of which each step takes the lowest.
  fun_induction powerLoop result base exponent with
  | case1 result base => simp
  | case2 result base exponent positive ih =>
    simp only [dite_eq_ite] at ih
    have lowest : exponent &&& 1 = 0 ↔ exponent.toNat % 2 = 0 := by
      rw [← toNat_and_one]
      exact ⟨fun zero => by rw [zero]; rfl, fun zero => BitVec.eq_of_toNat_eq zero⟩
    have halved : (exponent >>> 1).toNat = exponent.toNat / 2 := by
      rw [BitVec.toNat_ushiftRight, Nat.shiftRight_eq_div_pow, pow_one]
    have split : exponent.toNat = exponent.toNat % 2 + 2 * (exponent.toNat / 2) :=
      (Nat.mod_add_div _ _).symm
    rw [ih, halved, ← pow_two, ← pow_mul]
    conv_rhs => rw [split, pow_add, ← mul_assoc]
    congr 1
    rcases Nat.mod_two_eq_zero_or_one exponent.toNat with even | odd
    · rw [if_pos (lowest.mpr even), even, pow_zero, mul_one]
    · rw [if_neg (by rw [lowest]; omega), odd, pow_one]

/-- The absolute value is the one of the number, also where it does not fit the sign. -/
theorem toNat_abs_eq_natAbs (bits : BitVec width) : bits.abs.toNat = bits.toInt.natAbs := by
  have bound := bits.isLt
  rw [BitVec.toNat_abs, BitVec.toInt_eq_msb_cond]
  cases bits.msb with
  | false => rfl
  | true =>
    -- The number lies below zero by what is missing to the modulus.
    simp only [if_true]
    have modulus : ((2 ^ width : Nat) : Int) = 2 ^ width := by norm_num
    omega

/-- The numbers one from zero are those of absolute value one. -/
theorem abs_eq_one_iff (positive : 0 < width) (bits : BitVec width) :
    bits.abs = 1 ↔ bits.toInt = 1 ∨ bits.toInt = -1 := by
  have one : (1 : BitVec width).toNat = 1 :=
    (BitVec.toNat_ofNat ..).trans (Nat.mod_eq_of_lt (Nat.one_lt_two_pow positive.ne'))
  rw [← BitVec.toNat_inj, toNat_abs_eq_natAbs, one]
  omega

/-- A power of a number has the bits of the power of its bits. -/
theorem ofInt_pow (number : Int) (exponent : Nat) :
    BitVec.ofInt width (number ^ exponent) = BitVec.ofInt width number ^ exponent :=
  Int.cast_pow number exponent

/-- A small number is the one of its bits. -/
theorem Element.integer_ofInt
    (supported : isSupportedIntegerType (.integer .signless width) = true)
    {number : Int} (least : -1 ≤ number) (most : number ≤ 1) :
    (ofBitVec supported (BitVec.ofInt width number)).integer = number := by
  have wide := (width_of_supported supported).1
  rw [integer_ofBitVec, if_neg (by decide), BitVec.toInt_ofInt]
  -- A number of at least two bits may be one from zero.
  have modulus : 2 ^ 2 ≤ 2 ^ width := Nat.pow_le_pow_right Nat.two_pos wide
  apply Int.bmod_eq_of_le <;> omega

variable [TypePrinter] [FloatArithmetic]

/-- Two integers are raised to the truncated power. -/
theorem power_ofBitVec (base exponent : BitVec width) :
    power (.ofBitVec supported base) (.ofBitVec supported exponent) =
      .ok (.ofBitVec supported (BitVec.ofInt width (truncatedPower
        (Element.ofBitVec supported base).integer
        (Element.ofBitVec supported exponent).integer))) := by
  have wide := (width_of_supported supported).1
  have plain : Element.ofInteger (.integer signedness width) ⟨width, powerLoop 1 base exponent⟩ =
      .ok (.ofBitVec supported
        (BitVec.ofInt width ((Element.ofBitVec supported base).integer ^ exponent.toNat))) := by
    rw [Element.ofInteger_ofBitVec supported, powerLoop_eq, one_mul, ofInt_pow,
      Element.ofInt_integer]
  cases signedness with
  | unsigned =>
    rw [Element.integer_ofBitVec exponent, if_pos rfl, truncatedPower,
      if_pos (Int.natCast_nonneg _), Int.toNat_natCast]
    exact plain
  | signed => cases supported
  | signless =>
    have signed : isSupportedSignedIntegerType (.integer .signless width) = true := by
      simpa [isSupportedIntegerType, isSupportedUnsignedIntegerType] using supported
    have held : (Element.ofBitVec supported base).integer = base.toInt := rfl
    show (if isSupportedSignedIntegerType (.integer .signless width) && exponent.msb then
      if base.abs = 1 then _ else _ else _) = Except.ok (Element.ofBitVec supported
        (BitVec.ofInt width (truncatedPower (Element.ofBitVec supported base).integer
          exponent.toInt)))
    rw [signed, Bool.true_and]
    cases negative : exponent.msb with
    | false =>
      rw [BitVec.toInt_eq_toNat_of_msb negative, truncatedPower, if_pos (Int.natCast_nonneg _),
        Int.toNat_natCast]
      exact plain
    | true =>
      have below : exponent.toInt < 0 :=
        BitVec.toInt_neg_iff.mpr (BitVec.msb_eq_true_iff_two_mul_ge.mp negative)
      rw [if_pos rfl]
      split
      · -- The base is its own inverse, so that the sign of the exponent does not matter.
        rename_i one
        have unit := (abs_eq_one_iff (by omega) base).mp one
        rw [held, truncatedPower_of_unit below unit, ofInt_pow, BitVec.ofInt_toInt,
          ← toNat_abs_eq_natAbs, ← one_mul (base ^ _), ← powerLoop_eq]
        exact Element.ofInteger_ofBitVec supported _
      · rename_i far
        have other : ¬(base.toInt = 1 ∨ base.toInt = -1) :=
          fun unit => far ((abs_eq_one_iff (by omega) base).mpr unit)
        have zero : (APSInt.extOrTrunc ⟨⟨64, 0⟩, true⟩ width).bits = BitVec.ofInt width 0 := by
          simp [APSInt.extOrTrunc, BitVec.signExtend]
        rw [held, truncatedPower_of_far below other, ← zero]
        exact convertNumber_ofBitVec supported _ _

/--
The power of integers wraps around for an exponent that is not negative.

For a negative one it is the power of rationals, rounded toward zero.
-/
theorem power_eq {e1 e2 : Element}
    (supported : isSupportedIntegerType (.integer signedness width) = true)
    (base : e1.type = .integer signedness width) (exponent : e2.type = .integer signedness width) :
    ∃ result, power e1 e2 = .ok result ∧ result.type = .integer signedness width ∧
      (0 ≤ e2.integer →
        result.integer ≡ e1.integer ^ e2.integer.toNat [ZMOD 2 ^ width]) ∧
      (e2.integer < 0 →
        (e1.integer = 1 → result.integer = 1) ∧
        (e1.integer = -1 → result.integer = if Even e2.integer then 1 else -1) ∧
        (1 < |e1.integer| → result.integer = 0)) := by
  obtain ⟨lhs, rfl⟩ := Element.exists_ofBitVec supported base
  obtain ⟨rhs, rfl⟩ := Element.exists_ofBitVec supported exponent
  refine ⟨_, power_ofBitVec lhs rhs, rfl, fun positive => ?_, fun negative => ?_⟩
  · rw [truncatedPower, if_pos positive]
    exact Element.integer_ofInt_modEq _
  · cases signedness with
    | unsigned => exact absurd negative (not_lt.mpr (Int.natCast_nonneg _))
    | signed => cases supported
    | signless =>
      refine ⟨fun one => ?_, fun minus => ?_, fun far => ?_⟩
      · rw [truncatedPower_of_unit negative (.inl one), one, one_pow]
        exact Element.integer_ofInt supported (by decide) (by decide)
      · rw [truncatedPower_of_unit negative (.inr minus), minus, neg_one_pow_eq_ite]
        simp only [Int.natAbs_even]
        split <;> exact Element.integer_ofInt supported (by decide) (by decide)
      · have other : ¬((Element.ofBitVec supported lhs).integer = 1 ∨
            (Element.ofBitVec supported lhs).integer = -1) := by
          rintro (one | minus)
          · exact absurd (one ▸ far) (by decide)
          · exact absurd (minus ▸ far) (by decide)
        rw [truncatedPower_of_far negative other]
        exact Element.integer_ofInt supported (by decide) (by decide)

end Integers

/-- An odd power of minus one is minus one, also where the exponent is negative. -/
theorem power_eq_minus_one :
    ∃ result, @power plainPrinter integersOnly (@Element.ofBitVec .signless 8 rfl 255)
        (@Element.ofBitVec .signless 8 rfl 253) = .ok result ∧ result.integer = -1 := by
  obtain ⟨result, raised, -, -, negative⟩ := @power_eq .signless 8 plainPrinter integersOnly
    (@Element.ofBitVec .signless 8 rfl 255) (@Element.ofBitVec .signless 8 rfl 253) rfl rfl rfl
  have minus := (negative (by decide)).2.1 (by decide)
  exact ⟨result, raised, minus.trans (by decide)⟩

end Stablehlo
