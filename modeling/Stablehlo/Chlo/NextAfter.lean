import Mathlib.Order.Bounds.Basic
import Stablehlo.Reference.FloatOrder

/-! The next number in the direction of another one, reached by a step on its bits. -/

namespace Stablehlo

namespace Chlo

section Materialization

variable {semantics : FloatSemantics}

/-- An integer constant of the type of the bits. -/
def constantLike (constant : BitVec 64) : BitVec semantics.sizeInBits := constant.setWidth _

/-- The sign bit, which is the MSB. -/
def signBit (semantics : FloatSemantics) : BitVec 64 :=
  (1 : BitVec 64) <<< (semantics.sizeInBits - 1)

/-- The bits of the next number in the direction of another one, if the two are not equal. -/
def stepBits (xAsInt yAsInt : BitVec semantics.sizeInBits) : BitVec semantics.sizeInBits :=
  let bitwidth := semantics.sizeInBits
  let signMask : BitVec bitwidth := constantLike (signBit semantics)
  let negatedSignMask : BitVec bitwidth := constantLike (~~~signBit semantics)
  let xAbs := xAsInt &&& negatedSignMask
  let yAbs := yAsInt &&& negatedSignMask
  let zero : BitVec bitwidth := constantLike 0
  let xIsZero := xAbs == zero
  let yIsZero := yAbs == zero
  let xSign := xAsInt &&& signMask
  let ySign := yAsInt &&& signMask
  let one : BitVec bitwidth := constantLike 1
  let resultForXZeroYNonZero := ySign ||| one
  let signsDisagree := xSign != ySign
  -- Integers without a sign in their type are compared as signed ones.
  let xMagnitudeLargerThanY := yAbs.slt xAbs
  let resultHasSmallerMagnitude := xMagnitudeLargerThanY || signsDisagree
  let minusOne : BitVec bitwidth := constantLike (-1)
  let magnitudeAdjustment := if resultHasSmallerMagnitude then minusOne else one
  let result := xAsInt + magnitudeAdjustment
  if xIsZero then (if yIsZero then yAsInt else resultForXZeroYNonZero) else result

/-- The bits that the operations emitted for two numbers compute. -/
def materializeNextAfter (quietNaN x y : BitVec semantics.sizeInBits) :
    Option (BitVec semantics.sizeInBits) :=
  -- The integers have the width of the numbers, and StableHLO has those of some widths only.
  if supportedIntegerWidths.contains semantics.sizeInBits then
    let xFloat : APFloat := ⟨semantics, x⟩
    let yFloat : APFloat := ⟨semantics, y⟩
    let xIsNan := xFloat.compare xFloat != .equal
    let yIsNan := yFloat.compare yFloat != .equal
    let nanInput := xIsNan || yIsNan
    let xAndYAreEqual := xFloat.compare yFloat == .equal
    let result := stepBits x y
    let result := if xAndYAreEqual then y else result
    some (if nanInput then quietNaN else result)
  else
    none

end Materialization

section Specification

/-- The values of the numbers of a format. -/
def values (semantics : FloatSemantics) : Set (WithBot (WithTop Int)) :=
  {value | ∃ bits, APFloat.value? ⟨semantics, bits⟩ = some value}

/-- A number is the one next to another one in the direction of a third. -/
structure IsNextAfter {semantics : FloatSemantics} (x y result : BitVec semantics.sizeInBits) :
    Prop where
  /-- Without two numbers, there is none. -/
  unordered : APFloat.value? ⟨semantics, x⟩ = none ∨ APFloat.value? ⟨semantics, y⟩ = none →
    APFloat.value? ⟨semantics, result⟩ = none
  equal {shared} : APFloat.value? ⟨semantics, x⟩ = some shared →
    APFloat.value? ⟨semantics, y⟩ = some shared → result = y
  upward {first second} : APFloat.value? ⟨semantics, x⟩ = some first →
    APFloat.value? ⟨semantics, y⟩ = some second → first < second →
    ∃ next, APFloat.value? ⟨semantics, result⟩ = some next ∧
      IsLeast {value ∈ values semantics | first < value} next
  downward {first second} : APFloat.value? ⟨semantics, x⟩ = some first →
    APFloat.value? ⟨semantics, y⟩ = some second → second < first →
    ∃ next, APFloat.value? ⟨semantics, result⟩ = some next ∧
      IsGreatest {value ∈ values semantics | value < first} next

/-- The formats whose only zero has no sign. -/
def hasUnsignedZero : FloatSemantics → Bool
  | .float8E4M3FNUZ | .float8E4M3B11FNUZ | .float8E5M2FNUZ => true
  | _ => false

/-- A step on the bits of a number is one to the next number. -/
def StepsToNext {semantics : FloatSemantics} (x y : BitVec semantics.sizeInBits) : Prop :=
  match semantics with
  -- Above the greatest negative number, the bits of a zero with a sign are no number.
  | .float8E4M3FNUZ | .float8E4M3B11FNUZ | .float8E5M2FNUZ =>
    ¬(x.toNat = 2 ^ 7 + 1 ∧ y.msb = false)
  -- Without a sign, the highest bit is one of the exponent.
  | .float8E8M0FNU => ¬(x.msb = false ∧ y.msb = true) ∧ ¬(x.toNat = 2 ^ 7 ∧ y.msb = false)
  | _ => True

/-- In formats that have bits which are no number, a constant has such bits. -/
def IsQuietNaN {semantics : FloatSemantics} (quietNaN : BitVec semantics.sizeInBits) : Prop :=
  (∃ bits, APFloat.isNaN ⟨semantics, bits⟩ = true) → APFloat.isNaN ⟨semantics, quietNaN⟩ = true

end Specification

section Bits

variable {semantics : FloatSemantics} {x y : BitVec semantics.sizeInBits}

/-- Numbers have two bits at least. -/
theorem two_le_sizeInBits (semantics : FloatSemantics) : 2 ≤ semantics.sizeInBits := by
  cases semantics <;> decide

/-- The bits below the sign are half of all. -/
theorem two_pow_sizeInBits (semantics : FloatSemantics) :
    2 ^ semantics.sizeInBits = 2 * 2 ^ (semantics.sizeInBits - 1) := by
  have two := two_le_sizeInBits semantics
  rw [← Nat.pow_succ']
  congr 1
  omega

/-- The bits of a number are its sign and its magnitude. -/
theorem toNat_eq_sign_add (x : BitVec semantics.sizeInBits) :
    x.toNat = x.msb.toNat * 2 ^ (semantics.sizeInBits - 1) +
        x.toNat % 2 ^ (semantics.sizeInBits - 1) ∧
      x.toNat % 2 ^ (semantics.sizeInBits - 1) < 2 ^ (semantics.sizeInBits - 1) := by
  have bound := x.isLt
  have double := two_pow_sizeInBits semantics
  have positive : 0 < 2 ^ (semantics.sizeInBits - 1) := Nat.two_pow_pos _
  rw [BitVec.msb_eq_decide]
  rw [double] at bound
  generalize 2 ^ (semantics.sizeInBits - 1) = half at *
  refine ⟨?_, Nat.mod_lt _ positive⟩
  rcases Nat.lt_or_ge x.toNat half with low | high
  · simp [Nat.mod_eq_of_lt low, low]
  · rw [Nat.mod_eq_sub_mod high, Nat.mod_eq_of_lt (by omega)]
    simp [high]

/-- A sign and a magnitude are the ones of bits that consist of them. -/
theorem parts_of_toNat {negative : Bool} {magnitude : Nat}
    (bound : magnitude < 2 ^ (semantics.sizeInBits - 1))
    (bits : x.toNat = negative.toNat * 2 ^ (semantics.sizeInBits - 1) + magnitude) :
    x.msb = negative ∧ x.toNat % 2 ^ (semantics.sizeInBits - 1) = magnitude := by
  rw [BitVec.msb_eq_decide, bits]
  generalize 2 ^ (semantics.sizeInBits - 1) = half at bound
  refine ⟨?_, by rw [Nat.mul_comm, Nat.mul_add_mod, Nat.mod_eq_of_lt bound]⟩
  cases negative with
  | false => simp [bound]
  | true => simp

/-- The constant with the sign only. -/
theorem toNat_signMask (semantics : FloatSemantics) :
    (constantLike (signBit semantics) : BitVec semantics.sizeInBits).toNat =
      2 ^ (semantics.sizeInBits - 1) := by
  cases semantics <;> decide

/-- The constant with all bits but the sign. -/
theorem toNat_negatedSignMask (semantics : FloatSemantics) :
    (constantLike (~~~signBit semantics) : BitVec semantics.sizeInBits).toNat =
      2 ^ (semantics.sizeInBits - 1) - 1 := by
  cases semantics <;> decide

/-- The bits without the sign are the magnitude. -/
theorem toNat_and_negatedSignMask (x : BitVec semantics.sizeInBits) :
    (x &&& constantLike (~~~signBit semantics)).toNat =
      x.toNat % 2 ^ (semantics.sizeInBits - 1) := by
  rw [BitVec.toNat_and, toNat_negatedSignMask, Nat.and_two_pow_sub_one_eq_mod]

/-- The sign alone. -/
theorem toNat_and_signMask (x : BitVec semantics.sizeInBits) :
    (x &&& constantLike (signBit semantics)).toNat =
      x.msb.toNat * 2 ^ (semantics.sizeInBits - 1) := by
  have positive := two_le_sizeInBits semantics
  have highest : (constantLike (signBit semantics) : BitVec semantics.sizeInBits) =
      BitVec.twoPow _ (semantics.sizeInBits - 1) := by
    apply BitVec.eq_of_toNat_eq
    rw [toNat_signMask, BitVec.toNat_twoPow_of_lt (by omega)]
  rw [highest, BitVec.and_twoPow, BitVec.msb_eq_getLsbD_last]
  cases x.getLsbD (semantics.sizeInBits - 1) with
  | true =>
    have below : semantics.sizeInBits - 1 < semantics.sizeInBits := by omega
    simp [BitVec.toNat_twoPow_of_lt below]
  | false => simp

/-- The signs differ where the masked bits do. -/
theorem signsDisagree_eq (x y : BitVec semantics.sizeInBits) :
    ((x &&& constantLike (signBit semantics)) !=
      (y &&& constantLike (signBit semantics))) = (x.msb != y.msb) := by
  have positive : 0 < 2 ^ (semantics.sizeInBits - 1) := Nat.two_pow_pos _
  have same : x &&& constantLike (signBit semantics) =
      y &&& constantLike (signBit semantics) ↔ x.msb = y.msb := by
    rw [← BitVec.toNat_inj, toNat_and_signMask, toNat_and_signMask]
    cases x.msb <;> cases y.msb <;> simp
    omega
  rw [Bool.eq_iff_iff, bne_iff_ne, bne_iff_ne, ne_eq, ne_eq, same]

/-- Magnitudes are compared as numbers without a sign. -/
theorem magnitudeLarger_iff (x y : BitVec semantics.sizeInBits) :
    (y &&& constantLike (~~~signBit semantics)).slt
        (x &&& constantLike (~~~signBit semantics)) = true ↔
      y.toNat % 2 ^ (semantics.sizeInBits - 1) < x.toNat % 2 ^ (semantics.sizeInBits - 1) := by
  have double := two_pow_sizeInBits semantics
  have positive (x : BitVec semantics.sizeInBits) :
      (x &&& constantLike (~~~signBit semantics)).toInt =
        ((x.toNat % 2 ^ (semantics.sizeInBits - 1) : Nat) : Int) := by
    rw [← toNat_and_negatedSignMask]
    apply BitVec.toInt_eq_toNat_of_lt
    rw [toNat_and_negatedSignMask, double]
    exact Nat.mul_lt_mul_of_pos_left (toNat_eq_sign_add x).2 (by omega)
  rw [BitVec.slt, decide_eq_true_iff, positive, positive, Int.ofNat_lt]

/-- The bits reached by a step. -/
theorem toNat_stepBits (x y : BitVec semantics.sizeInBits) :
    (stepBits x y).toNat =
      if x.toNat % 2 ^ (semantics.sizeInBits - 1) = 0 then
        if y.toNat % 2 ^ (semantics.sizeInBits - 1) = 0 then y.toNat
        else y.msb.toNat * 2 ^ (semantics.sizeInBits - 1) + 1
      else
        if y.toNat % 2 ^ (semantics.sizeInBits - 1) < x.toNat % 2 ^ (semantics.sizeInBits - 1) ∨
            x.msb ≠ y.msb then x.toNat - 1
        else (x.toNat + 1) % 2 ^ semantics.sizeInBits := by
  have two := two_le_sizeInBits semantics
  have zero : (constantLike 0 : BitVec semantics.sizeInBits).toNat = 0 := by simp [constantLike]
  have one : (constantLike 1 : BitVec semantics.sizeInBits).toNat = 1 := by
    cases semantics <;> decide
  have minusOne : (constantLike (-1) : BitVec semantics.sizeInBits).toNat =
      2 ^ semantics.sizeInBits - 1 := by
    cases semantics <;> decide
  have isZero (x : BitVec semantics.sizeInBits) :
      ((x &&& constantLike (~~~signBit semantics)) == constantLike 0) = true ↔
        x.toNat % 2 ^ (semantics.sizeInBits - 1) = 0 := by
    rw [beq_iff_eq, ← BitVec.toNat_inj, toNat_and_negatedSignMask, zero]
  unfold stepBits
  dsimp only
  simp only [isZero, signsDisagree_eq, Bool.or_eq_true, magnitudeLarger_iff, bne_iff_ne]
  split_ifs with xZero yZero smaller
  · rfl
  · -- The least magnitude, with the sign of the other number.
    have bound : 1 < 2 ^ (semantics.sizeInBits - 1) :=
      Nat.one_lt_two_pow (by omega)
    rw [BitVec.toNat_or, toNat_and_signMask, one, Nat.mul_comm, Nat.two_pow_add_eq_or_of_lt bound]
  · have nonzero : x.toNat ≠ 0 := fun none => xZero (by rw [none, Nat.zero_mod])
    have bound := x.isLt
    rw [BitVec.toNat_add, minusOne, Nat.mod_eq_sub_mod (by omega), Nat.mod_eq_of_lt (by omega)]
    omega
  · rw [BitVec.toNat_add, one]

end Bits

section Values

open APFloat

variable {semantics : FloatSemantics} {x y result : BitVec semantics.sizeInBits}

/-- With a sign, the bits are the sign and the magnitude. -/
theorem signed_parts (signed : semantics ≠ .float8E8M0FNU) (x : BitVec semantics.sizeInBits) :
    sign ⟨semantics, x⟩ = x.msb ∧
      absolute ⟨semantics, x⟩ = x.toNat % 2 ^ (semantics.sizeInBits - 1) := by
  cases semantics with
  | float8E8M0FNU => exact absurd rfl signed
  | _ => exact ⟨rfl, rfl⟩

/-- What is closer to zero than a number is one, but for a zero with a sign. -/
theorem isNaN_of_le (number : isNaN ⟨semantics, y⟩ = false)
    (closer : absolute ⟨semantics, x⟩ ≤ absolute ⟨semantics, y⟩)
    (nonzero : hasUnsignedZero semantics = true → sign ⟨semantics, x⟩ = true →
      0 < absolute ⟨semantics, x⟩) :
    isNaN ⟨semantics, x⟩ = false := by
  -- Where zero has no sign, the bits of the sign alone are the only ones that are no number.
  have unsigned (nonzero : true = true → x.msb = true → 0 < magnitude ⟨semantics, x⟩) :
      (magnitude ⟨semantics, x⟩ == 0 && x.msb) = false := by
    cases msb : x.msb with
    | false => simp
    | true => simp [(nonzero rfl msb).ne']
  have bounded (closer : magnitude ⟨semantics, x⟩ ≤ magnitude ⟨semantics, y⟩)
      (number : decide (semantics.format.infinity < magnitude ⟨semantics, y⟩) = false) :
      decide (semantics.format.infinity < magnitude ⟨semantics, x⟩) = false := by
    rw [decide_eq_false_iff_not] at number ⊢
    omega
  cases semantics with
  | float4E2M1FN | float6E2M3FN | float6E3M2FN => rfl
  | float8E8M0FNU =>
    have bound := y.isLt
    simp only [isNaN, absolute, beq_eq_false_iff_ne, FloatSemantics.sizeInBits] at *
    omega
  | float8E4M3FN =>
    have bound := (toNat_eq_sign_add y).2
    simp only [isNaN, absolute, magnitude, beq_eq_false_iff_ne, FloatSemantics.sizeInBits] at *
    omega
  | float8E4M3FNUZ => exact unsigned nonzero
  | float8E4M3B11FNUZ => exact unsigned nonzero
  | float8E5M2FNUZ => exact unsigned nonzero
  | _ => exact bounded closer number

/-- Each sign and each magnitude are the ones of some bits. -/
theorem exists_bits {magnitude : Nat} (negative : Bool)
    (bound : magnitude < 2 ^ (semantics.sizeInBits - 1)) :
    ∃ bits : BitVec semantics.sizeInBits,
      bits.msb = negative ∧ bits.toNat % 2 ^ (semantics.sizeInBits - 1) = magnitude := by
  have double := two_pow_sizeInBits semantics
  refine ⟨BitVec.ofNat _ (negative.toNat * 2 ^ (semantics.sizeInBits - 1) + magnitude), ?_⟩
  apply parts_of_toNat bound
  rw [BitVec.toNat_ofNat, Nat.mod_eq_of_lt]
  rw [double]
  cases negative <;> simp <;> omega

/-- Between two numbers, each signed number of bits is the one of a number. -/
theorem exists_between {position : Int} (xNumber : isNaN ⟨semantics, x⟩ = false)
    (yNumber : isNaN ⟨semantics, y⟩ = false) (lower : signedAbsolute ⟨semantics, x⟩ ≤ position)
    (upper : position ≤ signedAbsolute ⟨semantics, y⟩) :
    ∃ bits, isNaN ⟨semantics, bits⟩ = false ∧ signedAbsolute ⟨semantics, bits⟩ = position := by
  by_cases signed : semantics = .float8E8M0FNU
  · subst signed
    -- Without a sign, the bits are the position.
    have positive : 0 ≤ position := le_trans (Int.natCast_nonneg _) lower
    have below : position ≤ y.toNat := upper
    have bound := y.isLt
    have bits : (BitVec.ofNat 8 position.toNat).toNat = position.toNat := by
      rw [BitVec.toNat_ofNat, Nat.mod_eq_of_lt]
      change y.toNat < 2 ^ 8 at bound
      omega
    have equal : signedAbsolute ⟨.float8E8M0FNU, BitVec.ofNat 8 position.toNat⟩ = position := by
      change ((BitVec.ofNat 8 position.toNat).toNat : Int) = position
      omega
    refine ⟨BitVec.ofNat 8 position.toNat, isNaN_of_le yNumber ?_ nofun, equal⟩
    change (BitVec.ofNat 8 position.toNat).toNat ≤ y.toNat
    omega
  · have parts (bits : BitVec semantics.sizeInBits) := signed_parts signed bits
    have xBound := (toNat_eq_sign_add x).2
    have yBound := (toNat_eq_sign_add y).2
    rw [← (parts x).2] at xBound
    rw [← (parts y).2] at yBound
    unfold signedAbsolute at lower upper ⊢
    rcases Int.lt_or_le position 0 with negative | positive
    · -- The number on the side of the first one is closer to zero than that.
      have xSign : sign ⟨semantics, x⟩ = true := by
        by_contra unsigned
        rw [if_neg unsigned] at lower
        omega
      rw [if_pos xSign] at lower
      obtain ⟨bits, msb, magnitude⟩ := @exists_bits semantics (-position).toNat true (by omega)
      rw [← (parts bits).1] at msb
      rw [← (parts bits).2] at magnitude
      refine ⟨bits, isNaN_of_le xNumber (by omega) (by omega), ?_⟩
      rw [if_pos msb]
      omega
    · have less : position.toNat ≤ absolute ⟨semantics, y⟩ := by
        split_ifs at upper <;> omega
      obtain ⟨bits, msb, magnitude⟩ := @exists_bits semantics position.toNat false (by omega)
      rw [← (parts bits).1] at msb
      rw [← (parts bits).2] at magnitude
      refine ⟨bits, isNaN_of_le yNumber (by omega) (by simp [msb]), ?_⟩
      rw [if_neg (by simp [msb])]
      omega

/-- Bits have a value where they are a number. -/
theorem value?_eq_some_iff {value : WithBot (WithTop Int)} {float : APFloat} :
    float.value? = some value ↔ float.isNaN = false ∧ float.number = value := by
  unfold value?
  cases float.isNaN <;> simp

/-- Numbers of one format are ordered as their bits are. -/
theorem number_lt_number_iff (xNumber : isNaN ⟨semantics, x⟩ = false)
    (yNumber : isNaN ⟨semantics, y⟩ = false) :
    number ⟨semantics, x⟩ < number ⟨semantics, y⟩ ↔
      signedAbsolute ⟨semantics, x⟩ < signedAbsolute ⟨semantics, y⟩ :=
  @number_lt_iff ⟨semantics, x⟩ ⟨semantics, y⟩ rfl xNumber yNumber

/-- The least value above a number is the one of the next bits. -/
theorem isLeast_iff (xNumber : isNaN ⟨semantics, x⟩ = false)
    (yNumber : isNaN ⟨semantics, y⟩ = false)
    (less : signedAbsolute ⟨semantics, x⟩ < signedAbsolute ⟨semantics, y⟩) :
    (∃ next, value? ⟨semantics, result⟩ = some next ∧
        IsLeast {value ∈ values semantics | number ⟨semantics, x⟩ < value} next) ↔
      isNaN ⟨semantics, result⟩ = false ∧
        signedAbsolute ⟨semantics, result⟩ = signedAbsolute ⟨semantics, x⟩ + 1 := by
  constructor
  · rintro ⟨next, isNext, ⟨-, above⟩, least⟩
    obtain ⟨isNumber, rfl⟩ := value?_eq_some_iff.mp isNext
    rw [number_lt_number_iff xNumber isNumber] at above
    -- The number one step above is not below the least one.
    obtain ⟨bits, bitsNumber, position⟩ := @exists_between _ _ _ (signedAbsolute ⟨semantics, x⟩ + 1)
      xNumber yNumber (by omega) (by omega)
    have candidate := least (a := number ⟨semantics, bits⟩)
      ⟨⟨bits, value?_eq_some_iff.mpr ⟨bitsNumber, rfl⟩⟩,
        (number_lt_number_iff xNumber bitsNumber).mpr (by omega)⟩
    rw [← not_lt, number_lt_number_iff bitsNumber isNumber] at candidate
    exact ⟨isNumber, by omega⟩
  · rintro ⟨isNumber, position⟩
    refine ⟨_, value?_eq_some_iff.mpr ⟨isNumber, rfl⟩,
      ⟨⟨result, value?_eq_some_iff.mpr ⟨isNumber, rfl⟩⟩,
        (number_lt_number_iff xNumber isNumber).mpr (by omega)⟩, ?_⟩
    rintro value ⟨⟨bits, isValue⟩, above⟩
    obtain ⟨bitsNumber, rfl⟩ := value?_eq_some_iff.mp isValue
    rw [number_lt_number_iff xNumber bitsNumber] at above
    rw [← not_lt, number_lt_number_iff bitsNumber isNumber]
    omega

/-- The greatest value below a number is the one of the bits in front. -/
theorem isGreatest_iff (xNumber : isNaN ⟨semantics, x⟩ = false)
    (yNumber : isNaN ⟨semantics, y⟩ = false)
    (less : signedAbsolute ⟨semantics, y⟩ < signedAbsolute ⟨semantics, x⟩) :
    (∃ next, value? ⟨semantics, result⟩ = some next ∧
        IsGreatest {value ∈ values semantics | value < number ⟨semantics, x⟩} next) ↔
      isNaN ⟨semantics, result⟩ = false ∧
        signedAbsolute ⟨semantics, result⟩ = signedAbsolute ⟨semantics, x⟩ - 1 := by
  constructor
  · rintro ⟨next, isNext, ⟨-, below⟩, greatest⟩
    obtain ⟨isNumber, rfl⟩ := value?_eq_some_iff.mp isNext
    rw [number_lt_number_iff isNumber xNumber] at below
    -- The number one step below is not above the greatest one.
    obtain ⟨bits, bitsNumber, position⟩ := @exists_between _ _ _ (signedAbsolute ⟨semantics, x⟩ - 1)
      yNumber xNumber (by omega) (by omega)
    have candidate := greatest (a := number ⟨semantics, bits⟩)
      ⟨⟨bits, value?_eq_some_iff.mpr ⟨bitsNumber, rfl⟩⟩,
        (number_lt_number_iff bitsNumber xNumber).mpr (by omega)⟩
    rw [← not_lt, number_lt_number_iff isNumber bitsNumber] at candidate
    exact ⟨isNumber, by omega⟩
  · rintro ⟨isNumber, position⟩
    refine ⟨_, value?_eq_some_iff.mpr ⟨isNumber, rfl⟩,
      ⟨⟨result, value?_eq_some_iff.mpr ⟨isNumber, rfl⟩⟩,
        (number_lt_number_iff isNumber xNumber).mpr (by omega)⟩, ?_⟩
    rintro value ⟨⟨bits, isValue⟩, below⟩
    obtain ⟨bitsNumber, rfl⟩ := value?_eq_some_iff.mp isValue
    rw [number_lt_number_iff bitsNumber xNumber] at below
    rw [← not_lt, number_lt_number_iff isNumber bitsNumber]
    omega

/-- A step starts at zero, or makes the magnitude smaller or larger. -/
theorem stepBits_parts {half : Nat} (isHalf : 2 ^ (semantics.sizeInBits - 1) = half)
    (different : x.msb = y.msb → x.toNat % half ≠ y.toNat % half)
    (nonzero : x.toNat % half = 0 → y.toNat % half ≠ 0) :
    (x.toNat % half = 0 ∧ (stepBits x y).msb = y.msb ∧ (stepBits x y).toNat % half = 1) ∨
      (x.toNat % half ≠ 0 ∧ (y.toNat % half < x.toNat % half ∨ x.msb ≠ y.msb) ∧
        (stepBits x y).msb = x.msb ∧ (stepBits x y).toNat % half = x.toNat % half - 1) ∨
      (x.toNat % half ≠ 0 ∧ x.toNat % half < y.toNat % half ∧ x.msb = y.msb ∧
        (stepBits x y).msb = x.msb ∧ (stepBits x y).toNat % half = x.toNat % half + 1) := by
  have two := two_le_sizeInBits semantics
  have one : 1 < 2 ^ (semantics.sizeInBits - 1) := Nat.one_lt_two_pow (by omega)
  have double := two_pow_sizeInBits semantics
  have step := toNat_stepBits x y
  have parts {negative : Bool} {magnitude : Nat} :=
    @parts_of_toNat semantics (stepBits x y) negative magnitude
  obtain ⟨xBits, xBound⟩ := toNat_eq_sign_add x
  have yBound := (toNat_eq_sign_add y).2
  rw [isHalf] at *
  split_ifs at step with xZero yZero smaller
  · exact absurd yZero (nonzero xZero)
  · exact .inl ⟨xZero, parts one step⟩
  · refine .inr (.inl ⟨xZero, smaller, parts (by omega) (by rw [step]; omega)⟩)
  · rw [not_or, not_not] at smaller
    obtain ⟨notLess, same⟩ := smaller
    have less : x.toNat % half < y.toNat % half := by
      have := different same
      omega
    refine .inr (.inr ⟨xZero, less, same, parts (by omega) ?_⟩)
    -- The magnitude of the other number leaves room for the step.
    have within : x.toNat + 1 < 2 ^ semantics.sizeInBits := by
      cases xSign : x.msb <;> simp only [xSign, Bool.toNat_true, Bool.toNat_false] at xBits <;>
        omega
    rw [step, Nat.mod_eq_of_lt within]
    omega

/-- With a sign, a step on the bits is one on the signed number. -/
theorem signedAbsolute_stepBits (signed : semantics ≠ .float8E8M0FNU)
    (different : signedAbsolute ⟨semantics, x⟩ ≠ signedAbsolute ⟨semantics, y⟩) :
    signedAbsolute ⟨semantics, stepBits x y⟩ = signedAbsolute ⟨semantics, x⟩ +
        (if signedAbsolute ⟨semantics, x⟩ < signedAbsolute ⟨semantics, y⟩ then 1 else -1) ∧
      absolute ⟨semantics, stepBits x y⟩ ≤
        max (absolute ⟨semantics, x⟩) (absolute ⟨semantics, y⟩) ∧
      (sign ⟨semantics, stepBits x y⟩ = true ∧ absolute ⟨semantics, stepBits x y⟩ = 0 ↔
        sign ⟨semantics, x⟩ = true ∧ absolute ⟨semantics, x⟩ = 1 ∧
          (sign ⟨semantics, y⟩ = false ∨ absolute ⟨semantics, y⟩ = 0)) := by
  unfold signedAbsolute at different ⊢
  simp only [signed_parts signed] at different ⊢
  have unequal : x.msb = y.msb →
      x.toNat % 2 ^ (semantics.sizeInBits - 1) ≠ y.toNat % 2 ^ (semantics.sizeInBits - 1) :=
    fun sign magnitude => different (by rw [sign, magnitude])
  have nonzero : x.toNat % 2 ^ (semantics.sizeInBits - 1) = 0 →
      y.toNat % 2 ^ (semantics.sizeInBits - 1) ≠ 0 :=
    fun xZero yZero => different (by rw [xZero, yZero]; simp)
  obtain ⟨xZero, sign, magnitude⟩ | ⟨xNonzero, smaller, sign, magnitude⟩ |
    ⟨xNonzero, less, same, sign, magnitude⟩ := stepBits_parts rfl unequal nonzero
  all_goals
    rw [sign, magnitude]
    clear different unequal magnitude
    generalize x.toNat % 2 ^ (semantics.sizeInBits - 1) = xMagnitude at *
    generalize y.toNat % 2 ^ (semantics.sizeInBits - 1) = yMagnitude at *
  · have := nonzero xZero
    subst xZero
    cases y.msb <;> simp <;> omega
  · cases xSign : x.msb <;> cases ySign : y.msb <;> simp [xSign, ySign] at smaller ⊢ <;> omega
  · rw [← same]
    cases x.msb <;> simp <;> omega

end Values

section Exactness

open APFloat

variable {semantics : FloatSemantics} {x y result : BitVec semantics.sizeInBits}

/-- The next number, by the bits. -/
theorem isNextAfter_iff (xNumber : isNaN ⟨semantics, x⟩ = false)
    (yNumber : isNaN ⟨semantics, y⟩ = false)
    (different : signedAbsolute ⟨semantics, x⟩ ≠ signedAbsolute ⟨semantics, y⟩) :
    IsNextAfter x y result ↔ isNaN ⟨semantics, result⟩ = false ∧
      signedAbsolute ⟨semantics, result⟩ = signedAbsolute ⟨semantics, x⟩ +
        (if signedAbsolute ⟨semantics, x⟩ < signedAbsolute ⟨semantics, y⟩ then 1 else -1) := by
  have xValue := value?_eq_some_iff.mpr ⟨xNumber, rfl⟩
  have yValue := value?_eq_some_iff.mpr ⟨yNumber, rfl⟩
  have upward := number_lt_number_iff xNumber yNumber
  have downward := number_lt_number_iff yNumber xNumber
  constructor
  · intro next
    rcases Int.lt_or_gt_of_ne different with less | greater
    · rw [if_pos less]
      exact (isLeast_iff xNumber yNumber less).mp (next.upward xValue yValue (upward.mpr less))
    · rw [if_neg (by omega)]
      exact (isGreatest_iff xNumber yNumber greater).mp
        (next.downward xValue yValue (downward.mpr greater))
  · intro next
    refine ⟨?_, ?_, ?_, ?_⟩
    · intro unordered
      rw [xValue, yValue] at unordered
      simp at unordered
    · intro shared first second
      rw [xValue, Option.some_inj] at first
      rw [yValue, Option.some_inj, ← first] at second
      rw [second] at upward
      rw [second] at downward
      simp only [lt_self_iff_false, false_iff] at upward downward
      omega
    · intro first second isFirst isSecond less
      rw [xValue, Option.some_inj] at isFirst
      rw [yValue, Option.some_inj] at isSecond
      subst isFirst isSecond
      rw [upward] at less
      rw [if_pos less] at next
      exact (isLeast_iff xNumber yNumber less).mpr next
    · intro first second isFirst isSecond greater
      rw [xValue, Option.some_inj] at isFirst
      rw [yValue, Option.some_inj] at isSecond
      subst isFirst isSecond
      rw [downward] at greater
      rw [if_neg (by omega)] at next
      exact (isGreatest_iff xNumber yNumber greater).mpr next

/-- The next number in the direction of an equal one has the bits of that. -/
theorem isNextAfter_of_equal (xNumber : isNaN ⟨semantics, x⟩ = false)
    (yNumber : isNaN ⟨semantics, y⟩ = false)
    (equal : signedAbsolute ⟨semantics, x⟩ = signedAbsolute ⟨semantics, y⟩) :
    IsNextAfter x y y := by
  have xValue := value?_eq_some_iff.mpr ⟨xNumber, rfl⟩
  have yValue := value?_eq_some_iff.mpr ⟨yNumber, rfl⟩
  rw [← (@number_eq_iff ⟨semantics, x⟩ ⟨semantics, y⟩ rfl xNumber yNumber)] at equal
  rw [equal] at xValue
  refine ⟨?_, fun _ _ => rfl, ?_, ?_⟩
  · intro unordered
    rw [xValue, yValue] at unordered
    simp at unordered
  all_goals
    intro first second isFirst isSecond apart
    rw [xValue, ← yValue, isSecond, Option.some_inj] at isFirst
    exact absurd isFirst (by first | exact apart.ne | exact apart.ne')

/-- Without two numbers, the bits of the constant are the expected ones. -/
theorem isNextAfter_quietNaN {quietNaN : BitVec semantics.sizeInBits}
    (constant : IsQuietNaN quietNaN)
    (unordered : isNaN ⟨semantics, x⟩ = true ∨ isNaN ⟨semantics, y⟩ = true) :
    IsNextAfter x y quietNaN := by
  have noValue {bits : BitVec semantics.sizeInBits} (none : isNaN ⟨semantics, bits⟩ = true) :
      value? ⟨semantics, bits⟩ = .none := if_pos none
  have quiet : value? ⟨semantics, quietNaN⟩ = none := by
    rcases unordered with first | second
    · exact noValue (constant ⟨x, first⟩)
    · exact noValue (constant ⟨y, second⟩)
  have absent : value? ⟨semantics, x⟩ = none ∨ value? ⟨semantics, y⟩ = none :=
    unordered.imp noValue noValue
  refine ⟨fun _ => quiet, ?_, ?_, ?_⟩
  · intro shared first second
    rw [first, second] at absent
    simp at absent
  all_goals
    intro first second isFirst isSecond
    rw [isFirst, isSecond] at absent
    simp at absent

/-- Without a sign, a step on the bits goes by their highest one. -/
theorem stepBits_unsigned_iff {x y : BitVec (FloatSemantics.sizeInBits .float8E8M0FNU)}
    (yNumber : isNaN ⟨.float8E8M0FNU, y⟩ = false) (different : x.toNat ≠ y.toNat) :
    isNaN ⟨.float8E8M0FNU, stepBits x y⟩ = false ∧
        ((stepBits x y).toNat : Int) = x.toNat + (if x.toNat < y.toNat then 1 else -1) ↔
      @StepsToNext .float8E8M0FNU x y := by
  have isNumber (bits : BitVec (FloatSemantics.sizeInBits .float8E8M0FNU)) :
      isNaN ⟨.float8E8M0FNU, bits⟩ = false ↔ bits.toNat ≠ 255 := by
    simp [isNaN]
  rw [isNumber] at yNumber ⊢
  have step := toNat_stepBits x y
  obtain ⟨xBits, xBound⟩ := toNat_eq_sign_add x
  obtain ⟨yBits, yBound⟩ := toNat_eq_sign_add y
  change x.toNat % 128 < 128 at xBound
  change y.toNat % 128 < 128 at yBound
  change _ ↔ ¬(x.msb = false ∧ y.msb = true) ∧ ¬(x.toNat = 2 ^ 7 ∧ y.msb = false)
  change x.toNat = x.msb.toNat * 128 + x.toNat % 128 at xBits
  change y.toNat = y.msb.toNat * 128 + y.toNat % 128 at yBits
  change (stepBits x y).toNat = if x.toNat % 128 = 0 then if y.toNat % 128 = 0 then y.toNat
    else y.msb.toNat * 128 + 1 else if y.toNat % 128 < x.toNat % 128 ∨ x.msb ≠ y.msb
    then x.toNat - 1 else (x.toNat + 1) % 256 at step
  cases xSign : x.msb <;> cases ySign : y.msb <;>
    simp only [xSign, ySign, Bool.toNat_true, Bool.toNat_false, ne_eq, not_true_eq_false, or_false,
      reduceCtorEq, not_false_eq_true, or_true, if_true] at * <;>
    split_ifs at step <;> split_ifs <;> simp <;> omega

/-- A step on the bits of different numbers goes to the next number where it steps to one. -/
theorem isNextAfter_stepBits_iff (xNumber : isNaN ⟨semantics, x⟩ = false)
    (yNumber : isNaN ⟨semantics, y⟩ = false)
    (different : signedAbsolute ⟨semantics, x⟩ ≠ signedAbsolute ⟨semantics, y⟩) :
    IsNextAfter x y (stepBits x y) ↔ StepsToNext x y := by
  rw [isNextAfter_iff xNumber yNumber different]
  by_cases signed : semantics = .float8E8M0FNU
  · subst signed
    have position (bits : BitVec (FloatSemantics.sizeInBits .float8E8M0FNU)) :
        signedAbsolute ⟨.float8E8M0FNU, bits⟩ = bits.toNat := rfl
    rw [position x, position y, ne_eq, Int.natCast_inj] at different
    rw [← stepBits_unsigned_iff yNumber different, position x, position y,
      position (stepBits x y)]
    simp only [Int.ofNat_lt]
  · obtain ⟨position, closer, negativeZero⟩ := signedAbsolute_stepBits signed different
    rw [and_iff_left position]
    obtain ⟨xSign, xAbsolute⟩ := signed_parts signed x
    obtain ⟨ySign, yAbsolute⟩ := signed_parts signed y
    have xBits := (toNat_eq_sign_add x).1
    -- The step goes to a number, if not to the zero with a sign.
    have number (nonzero : hasUnsignedZero semantics = true →
        sign ⟨semantics, stepBits x y⟩ = true → 0 < absolute ⟨semantics, stepBits x y⟩) :
        isNaN ⟨semantics, stepBits x y⟩ = false := by
      rcases le_max_iff.mp closer with below | below
      · exact isNaN_of_le xNumber below nonzero
      · exact isNaN_of_le yNumber below nonzero
    have unsignedZero (half : 2 ^ (semantics.sizeInBits - 1) = 2 ^ 7)
        (isNaN_eq : ∀ bits, isNaN ⟨semantics, bits⟩ =
          (absolute ⟨semantics, bits⟩ == 0 && sign ⟨semantics, bits⟩)) :
        isNaN ⟨semantics, stepBits x y⟩ = false ↔ ¬(x.toNat = 2 ^ 7 + 1 ∧ y.msb = false) := by
      rw [isNaN_eq] at yNumber ⊢
      rw [← Bool.not_eq_true, Bool.and_eq_true, beq_iff_eq, and_comm, negativeZero, not_iff_not,
        xSign, xAbsolute, ySign]
      rw [Bool.and_eq_false_iff, beq_eq_false_iff_ne, ySign] at yNumber
      rw [half] at xBits ⊢
      have xBound := Nat.mod_lt x.toNat (Nat.two_pow_pos 7)
      constructor
      · rintro ⟨negative, least, positive⟩
        rw [negative, least] at xBits
        refine ⟨by simpa [Nat.add_comm] using xBits, ?_⟩
        rcases positive with positive | none
        · exact positive
        · exact yNumber.resolve_left (absurd none)
      · rintro ⟨bits, positive⟩
        refine ⟨?_, by omega, .inl positive⟩
        cases msb : x.msb with
        | true => rfl
        | false =>
          rw [msb, Bool.toNat_false] at xBits
          omega
    cases semantics with
    | float8E8M0FNU => exact absurd rfl signed
    | float8E4M3FNUZ => exact unsignedZero rfl fun bits => rfl
    | float8E4M3B11FNUZ => exact unsignedZero rfl fun bits => rfl
    | float8E5M2FNUZ => exact unsignedZero rfl fun bits => rfl
    | _ => exact iff_of_true (number nofun) trivial

/-- Numbers that are equal are not stepped from. -/
theorem stepsToNext_of_equal
    (equal : signedAbsolute ⟨semantics, x⟩ = signedAbsolute ⟨semantics, y⟩) :
    StepsToNext x y := by
  -- Where the bits step to no next number, the other number is on the other side of zero.
  have unsignedZero (signed : semantics ≠ .float8E8M0FNU)
      (half : 2 ^ (semantics.sizeInBits - 1) = 2 ^ 7) :
      ¬(x.toNat = 2 ^ 7 + 1 ∧ y.msb = false) := by
    rintro ⟨bits, positive⟩
    obtain ⟨xSign, xAbsolute⟩ := signed_parts signed x
    obtain ⟨ySign, -⟩ := signed_parts signed y
    have xBits := (toNat_eq_sign_add x).1
    rw [half] at xBits xAbsolute
    unfold signedAbsolute at equal
    rw [xSign, xAbsolute, ySign, positive] at equal
    cases msb : x.msb with
    | true =>
      rw [msb] at equal
      simp only [if_true, Bool.false_eq_true, if_false] at equal
      omega
    | false =>
      rw [msb, Bool.toNat_false] at xBits
      omega
  cases semantics with
  | float8E8M0FNU =>
    have same : x = y := BitVec.eq_of_toNat_eq (Int.natCast_inj.mp equal)
    subst same
    have bits := (toNat_eq_sign_add x).1
    refine ⟨by cases x.msb <;> simp, ?_⟩
    rintro ⟨equal, low⟩
    rw [low, Bool.toNat_false] at bits
    change x.toNat = 0 * 128 + x.toNat % 128 at bits
    omega
  | float8E4M3FNUZ => exact unsignedZero nofun rfl
  | float8E4M3B11FNUZ => exact unsignedZero nofun rfl
  | float8E5M2FNUZ => exact unsignedZero nofun rfl
  | _ => trivial

/--
The bits computed for two numbers are the ones of the next number, if StableHLO has integers of
their width, and if the step on the bits goes to a number.
-/
theorem materializeNextAfter_iff {quietNaN : BitVec semantics.sizeInBits}
    (constant : IsQuietNaN quietNaN) (x y : BitVec semantics.sizeInBits) :
    (∃ result, materializeNextAfter quietNaN x y = some result ∧ IsNextAfter x y result) ↔
      supportedIntegerWidths.contains semantics.sizeInBits = true ∧
        (isNaN ⟨semantics, x⟩ = false → isNaN ⟨semantics, y⟩ = false → StepsToNext x y) := by
  unfold materializeNextAfter
  split_ifs with supported
  · rw [and_iff_right supported]
    dsimp only
    simp only [Option.some_inj, exists_eq_left']
    by_cases numbers : isNaN ⟨semantics, x⟩ = false ∧ isNaN ⟨semantics, y⟩ = false
    · obtain ⟨xNumber, yNumber⟩ := numbers
      have itself (bits : BitVec semantics.sizeInBits)
          (number : isNaN ⟨semantics, bits⟩ = false) :
          APFloat.compare ⟨semantics, bits⟩ ⟨semantics, bits⟩ = .equal :=
        (compare_iff rfl number number).2.1.mpr rfl
      have equality := (@compare_iff ⟨semantics, x⟩ ⟨semantics, y⟩ rfl xNumber yNumber).2.1
      rw [itself x xNumber, itself y yNumber]
      simp only [bne_self_eq_false, Bool.or_self, Bool.false_eq_true, if_false, beq_iff_eq,
        equality, xNumber, yNumber, forall_const]
      split_ifs with equal
      · exact iff_of_true (isNextAfter_of_equal xNumber yNumber equal)
          (stepsToNext_of_equal equal)
      · exact isNextAfter_stepBits_iff xNumber yNumber equal
    · have unordered : isNaN ⟨semantics, x⟩ = true ∨ isNaN ⟨semantics, y⟩ = true := by
        cases xNumber : isNaN ⟨semantics, x⟩ with
        | true => exact .inl rfl
        | false => exact .inr (by simpa [xNumber] using numbers)
      have different (bits : BitVec semantics.sizeInBits)
          (none : isNaN ⟨semantics, bits⟩ = true) :
          (APFloat.compare ⟨semantics, bits⟩ ⟨semantics, bits⟩ != .equal) = true := by
        rw [compare_of_isNaN (.inl none)]
        rfl
      have found := unordered.imp (different x) (different y)
      rw [← Bool.or_eq_true] at found
      rw [if_pos found]
      exact iff_of_true (isNextAfter_quietNaN constant unordered)
        fun xNumber yNumber => absurd ⟨xNumber, yNumber⟩ numbers
  · rw [Bool.not_eq_true] at supported
    simp only [supported, false_and, exists_false, Bool.false_eq_true]

/-- In single precision, zero is next to the least negative number. -/
theorem materializeNextAfter_single :
    @IsQuietNaN .ieeeSingle 0x7FC00000 ∧
      ∃ result, @materializeNextAfter .ieeeSingle 0x7FC00000 0x80000001 0 = some result ∧
        @IsNextAfter .ieeeSingle 0x80000001 0 result := by
  have constant : @IsQuietNaN .ieeeSingle 0x7FC00000 := fun _ => rfl
  exact ⟨constant, (materializeNextAfter_iff constant 0x80000001 0).mpr ⟨rfl, fun _ _ => trivial⟩⟩

/-- Where zero has no sign, the step from the least negative number goes to no number. -/
theorem materializeNextAfter_unsignedZero :
    @IsQuietNaN .float8E4M3FNUZ 0x80 ∧
      @materializeNextAfter .float8E4M3FNUZ 0x80 0x81 0 = some 0x80 ∧
      isNaN ⟨.float8E4M3FNUZ, 0x80⟩ = true ∧
      ¬∃ result, @materializeNextAfter .float8E4M3FNUZ 0x80 0x81 0 = some result ∧
        @IsNextAfter .float8E4M3FNUZ 0x81 0 result := by
  have computed : @materializeNextAfter .float8E4M3FNUZ 0x80 0x81 0 = some 0x80 := by decide
  refine ⟨fun _ => rfl, computed, rfl, ?_⟩
  rintro ⟨result, isResult, next⟩
  rw [computed, Option.some_inj] at isResult
  subst isResult
  have xNumber : isNaN ⟨.float8E4M3FNUZ, 0x81⟩ = false := rfl
  have yNumber : isNaN ⟨.float8E4M3FNUZ, 0⟩ = false := rfl
  have less := (number_lt_number_iff xNumber yNumber).mpr (by decide)
  obtain ⟨value, isValue, -⟩ := next.upward (value?_eq_some_iff.mpr ⟨xNumber, rfl⟩)
    (value?_eq_some_iff.mpr ⟨yNumber, rfl⟩) less
  cases isValue

end Exactness

end Chlo

end Stablehlo
