import Mathlib.Algebra.Order.Field.Basic
import Mathlib.Algebra.Order.Ring.Abs
import Mathlib.Algebra.Order.Ring.Star
import Mathlib.Data.Rat.Star
import Mathlib.Tactic.FieldSimp
import Mathlib.Tactic.Ring
import Stablehlo.Quant.Types

/-! Rescales of quantized operands and results around operations on integers of 32 bits. -/

namespace Stablehlo

open Quant

namespace Tosa

section Scales

/-- How much inputs of 8 bits are shifted to the left. -/
def shift8Bit : Nat := 20

/-- How much inputs of 16 bits are shifted to the left. -/
def shift16Bit : Nat := 15

/-- How much inputs are shifted to the left for precision. -/
def inputShift (resultQType : UniformQuantizedType) : Nat :=
  if resultQType.storage.width = 16 then shift16Bit else shift8Bit

/-- The factors by which an operand and the result are rescaled. -/
structure UnaryRescaleScales where
  operand : Rat
  result : Rat

/-- The factors by which both operands and the result are rescaled. -/
structure BinaryRescaleScales where
  lhs : Rat
  rhs : Rat
  result : Rat

/-- Operands are used as they are. -/
def getUnaryRescaleScales (operandQType resultQType : UniformQuantizedType) :
    UnaryRescaleScales where
  operand := 1
  result := operandQType.getScale / resultQType.getScale

/-- Operands are rescaled to twice the larger scale, and shifted to the left. -/
def getAddSubRescaleScales (lhsQType rhsQType resultQType : UniformQuantizedType) :
    BinaryRescaleScales :=
  let maxScale2x := 2 * max lhsQType.getScale rhsQType.getScale
  let shifted := (2 : Rat) ^ inputShift resultQType
  { lhs := lhsQType.getScale / maxScale2x * shifted
    rhs := rhsQType.getScale / maxScale2x * shifted
    result := maxScale2x / (resultQType.getScale * shifted) }

/-- Operands are used as they are, and the result has the product of their scales. -/
def getMulDivRescaleScales (lhsQType rhsQType resultQType : UniformQuantizedType) :
    BinaryRescaleScales where
  lhs := 1
  rhs := 1
  result := lhsQType.getScale * rhsQType.getScale / resultQType.getScale

/-- Operands are rescaled to the larger scale, and shifted to the left. -/
def getMinMaxRescaleScales (lhsQType rhsQType resultQType : UniformQuantizedType) :
    BinaryRescaleScales :=
  let maxScale := max lhsQType.getScale rhsQType.getScale
  let shifted := (2 : Rat) ^ inputShift resultQType
  { lhs := lhsQType.getScale / maxScale * shifted
    rhs := rhsQType.getScale / maxScale * shifted
    result := maxScale / (resultQType.getScale * shifted) }

end Scales

section Operations

/-- The operations on two quantized operands that are rescaled. -/
inductive BinaryOp where
  | add | subtract | multiply | divide | minimum | maximum
  deriving DecidableEq, Repr

/-- The operation on numbers. -/
def BinaryOp.eval : BinaryOp → Rat → Rat → Rat
  | add, lhs, rhs => lhs + rhs
  | subtract, lhs, rhs => lhs - rhs
  | multiply, lhs, rhs => lhs * rhs
  | divide, lhs, rhs => lhs / rhs
  | minimum, lhs, rhs => min lhs rhs
  | maximum, lhs, rhs => max lhs rhs

/-- The operation on integers. Divisions round to zero. -/
def BinaryOp.evalInt : BinaryOp → Int → Int → Int
  | add, lhs, rhs => lhs + rhs
  | subtract, lhs, rhs => lhs - rhs
  | multiply, lhs, rhs => lhs * rhs
  | divide, lhs, rhs => lhs.tdiv rhs
  | minimum, lhs, rhs => min lhs rhs
  | maximum, lhs, rhs => max lhs rhs

/-- The factors for an operation. -/
def BinaryOp.rescaleScales : BinaryOp →
    UniformQuantizedType → UniformQuantizedType → UniformQuantizedType → BinaryRescaleScales
  | add | subtract => getAddSubRescaleScales
  | multiply | divide => getMulDivRescaleScales
  | minimum | maximum => getMinMaxRescaleScales

/-- The absolute value is taken of a rescaled operand of any type. -/
def matchAndRewriteUnaryOp (operandQType resultQType : UniformQuantizedType) :
    Option UnaryRescaleScales :=
  some (getUnaryRescaleScales operandQType resultQType)

/-- Operations on two operands are rescaled when all storage types are signed. -/
def matchAndRewriteBinaryOp (op : BinaryOp)
    (lhsQType rhsQType resultQType : UniformQuantizedType) : Option BinaryRescaleScales :=
  if !lhsQType.storage.isSigned || !rhsQType.storage.isSigned || !resultQType.storage.isSigned then
    none
  else
    some (op.rescaleScales lhsQType rhsQType resultQType)

/-- A quantized operation that is rescaled, with its types. -/
inductive QuantizedOp where
  | abs (operand result : UniformQuantizedType)
  | binary (op : BinaryOp) (lhs rhs result : UniformQuantizedType)

/-- The types of the operands and the result. -/
def QuantizedOp.types : QuantizedOp → List UniformQuantizedType
  | abs operand result => [operand, result]
  | binary _ lhs rhs result => [lhs, rhs, result]

end Operations

section Specification

/-- A stored integer without its zero point, rescaled. -/
def rescaled (scale : Rat) (type : UniformQuantizedType) (stored : Int) : Rat :=
  scale * (stored - type.getZeroPoint : Int)

/-- An integer is next to the number that is rounded to it. -/
def RoundsTo (number : Rat) (rounded : Int) : Prop := |number - rounded| ≤ 1

/-- An integer of 32 bits. -/
def IsInt32 (value : Int) : Prop := -2 ^ 31 ≤ value ∧ value < 2 ^ 31

/-- With exact arithmetic, the rescaled operation stands for the number that the operation gives
for what its operands stand for. With rounded operands, nothing overflows in 32 bits. -/
def QuantizedOp.RescalesCorrectly : QuantizedOp → Prop
  | abs operand result => ∃ scales, matchAndRewriteUnaryOp operand result = some scales ∧
    ∀ stored, operand.storage.Stores stored →
      scales.result * |rescaled scales.operand operand stored| =
          |operand.value stored| / result.getScale ∧
        ∀ rounded, RoundsTo (rescaled scales.operand operand stored) rounded → IsInt32 rounded
  | binary op lhs rhs result => ∃ scales, matchAndRewriteBinaryOp op lhs rhs result = some scales ∧
    ∀ first second, lhs.storage.Stores first → rhs.storage.Stores second →
      scales.result * op.eval (rescaled scales.lhs lhs first) (rescaled scales.rhs rhs second) =
          op.eval (lhs.value first) (rhs.value second) / result.getScale ∧
        ∀ roundedLhs roundedRhs, RoundsTo (rescaled scales.lhs lhs first) roundedLhs →
          RoundsTo (rescaled scales.rhs rhs second) roundedRhs →
            IsInt32 roundedLhs ∧ IsInt32 roundedRhs ∧
              (op ≠ .divide → IsInt32 (op.evalInt roundedLhs roundedRhs))

/-- All types are stored in signed integers of one width, of 8 bits or of 16 bits. The zero points
of integers of 16 bits are zero. -/
structure QuantizedOp.Supported (op : QuantizedOp) (width : Nat) : Prop where
  known : width = 8 ∨ width = 16
  same : ∀ type ∈ op.types, type.storage.width = width
  signed : ∀ type ∈ op.types, type.storage.isSigned = true
  centered : width = 16 → ∀ type ∈ op.types, type.getZeroPoint = 0

/-- Numbers are only divided by ones that stand for themselves. -/
def QuantizedOp.DividesByUnits : QuantizedOp → Prop
  | abs .. => True
  | binary op _ rhs _ => op = .divide → rhs.getScale = 1

end Specification

section Exact

variable {lhs rhs result : UniformQuantizedType} {op : BinaryOp}

/-- Operations that scale with their operands. -/
def BinaryOp.IsHomogeneous (op : BinaryOp) : Prop :=
  ∀ factor first second : Rat, 0 < factor →
    op.eval (factor * first) (factor * second) = factor * op.eval first second

theorem isHomogeneous_of_ne (multiplies : op ≠ .multiply) (divides : op ≠ .divide) :
    op.IsHomogeneous := by
  intro factor first second positive
  cases op with
  | add => exact (mul_add ..).symm
  | subtract => exact (mul_sub ..).symm
  | multiply => exact absurd rfl multiplies
  | divide => exact absurd rfl divides
  | minimum => exact (mul_min_of_nonneg first second positive.le).symm
  | maximum => exact (mul_max_of_nonneg first second positive.le).symm

/-- Both operands are rescaled by one factor, which the result is divided by. -/
structure BinaryRescaleScales.CommonFactor (scales : BinaryRescaleScales)
    (lhs rhs result : UniformQuantizedType) (factor : Rat) : Prop where
  positive : 0 < factor
  lhs : scales.lhs = factor * lhs.getScale
  rhs : scales.rhs = factor * rhs.getScale
  result : scales.result = 1 / (factor * result.getScale)

/-- With a common factor, operations that scale are exact. -/
theorem exact_of_commonFactor {scales : BinaryRescaleScales} {factor : Rat}
    (homogeneous : op.IsHomogeneous) (common : scales.CommonFactor lhs rhs result factor)
    (first second : Int) :
    scales.result * op.eval (rescaled scales.lhs lhs first) (rescaled scales.rhs rhs second) =
      op.eval (lhs.value first) (rhs.value second) / result.getScale := by
  have positive := common.positive
  have scale : 0 < result.getScale := result.positive
  have own (type : UniformQuantizedType) (stored : Int) :
      rescaled (factor * type.getScale) type stored = factor * type.value stored := by
    rw [rescaled, UniformQuantizedType.value, mul_assoc]
  rw [common.lhs, common.rhs, common.result, own, own, homogeneous _ _ _ positive]
  field_simp

/-- The larger of two scales is positive. -/
theorem maxScale_pos : 0 < max lhs.getScale rhs.getScale :=
  lt_max_of_lt_left lhs.positive

theorem commonFactor_addSub : (getAddSubRescaleScales lhs rhs result).CommonFactor lhs rhs result
    (2 ^ inputShift result / (2 * max lhs.getScale rhs.getScale)) := by
  have larger := @maxScale_pos lhs rhs
  have scale : 0 < result.getScale := result.positive
  refine ⟨div_pos (by positivity) (by linarith), ?_, ?_, ?_⟩ <;>
    · simp only [getAddSubRescaleScales]
      field_simp

theorem commonFactor_minMax : (getMinMaxRescaleScales lhs rhs result).CommonFactor lhs rhs result
    (2 ^ inputShift result / max lhs.getScale rhs.getScale) := by
  have larger := @maxScale_pos lhs rhs
  have scale : 0 < result.getScale := result.positive
  refine ⟨div_pos (by positivity) larger, ?_, ?_, ?_⟩ <;>
    · simp only [getMinMaxRescaleScales]
      field_simp

/-- A product has the product of the scales of its operands. -/
theorem exact_multiply (first second : Int) :
    (getMulDivRescaleScales lhs rhs result).result *
        (rescaled 1 lhs first * rescaled 1 rhs second) =
      lhs.value first * rhs.value second / result.getScale := by
  have scale : 0 < result.getScale := result.positive
  simp only [getMulDivRescaleScales, rescaled, UniformQuantizedType.value]
  field_simp

/-- A quotient has the quotient of the scales of its operands, which is their product only when the
divisor has the scale of one. -/
theorem exact_divide_iff {first second : Int} (dividend : first ≠ lhs.getZeroPoint)
    (divisor : second ≠ rhs.getZeroPoint) :
    (getMulDivRescaleScales lhs rhs result).result *
        (rescaled 1 lhs first / rescaled 1 rhs second) =
      lhs.value first / rhs.value second / result.getScale ↔ rhs.getScale = 1 := by
  have scale : 0 < result.getScale := result.positive
  have own : 0 < lhs.getScale := lhs.positive
  have other : 0 < rhs.getScale := rhs.positive
  have top : ((first - lhs.getZeroPoint : Int) : Rat) ≠ 0 := by
    exact_mod_cast sub_ne_zero.2 dividend
  have bottom : ((second - rhs.getZeroPoint : Int) : Rat) ≠ 0 := by
    exact_mod_cast sub_ne_zero.2 divisor
  simp only [getMulDivRescaleScales, rescaled, UniformQuantizedType.value, one_mul]
  constructor
  · intro same
    have square : rhs.getScale * rhs.getScale = 1 := by
      field_simp at same
      nlinarith [same]
    nlinarith [square]
  · intro unit
    rw [unit]
    field_simp

end Exact

section Headroom

variable {type lhs rhs result : UniformQuantizedType} {width : Nat}

/-- How far stored integers of a width are from the zero point. -/
def reach (width : Nat) : Int := if width = 16 then 2 ^ 15 else 2 ^ 8 - 1

/-- Stored integers are not far from the zero point, which is zero for integers of 16 bits. -/
theorem abs_sub_zeroPoint_le (known : width = 8 ∨ width = 16) (same : type.storage.width = width)
    (signed : type.storage.isSigned = true) (centered : width = 16 → type.getZeroPoint = 0)
    {stored : Int} (stores : type.storage.Stores stored) :
    |stored - type.getZeroPoint| ≤ reach width := by
  have bounds := stores.signed signed
  have own := type.zeroPoint.signed signed
  change -2 ^ (type.storage.width - 1) ≤ type.getZeroPoint ∧
    type.getZeroPoint < 2 ^ (type.storage.width - 1) at own
  rw [same] at bounds own
  rw [abs_le, reach]
  rcases known with rfl | rfl
  · norm_num at bounds own ⊢
    omega
  · rw [centered rfl]
    norm_num at bounds ⊢
    omega

/-- What is rescaled by a small factor is small. -/
theorem abs_rescaled_le {scale limit : Rat} {stored : Int} (nonneg : 0 ≤ scale)
    (most : scale ≤ limit) {distance : Int} (near : |stored - type.getZeroPoint| ≤ distance) :
    |rescaled scale type stored| ≤ limit * distance := by
  have far : |((stored - type.getZeroPoint : Int) : Rat)| ≤ distance := by
    rw [← Int.cast_abs]
    exact_mod_cast near
  rw [rescaled, abs_mul, abs_of_nonneg nonneg]
  exact mul_le_mul most far (abs_nonneg _) (nonneg.trans most)

/-- A rounded number is at most one more than what it is rounded from. -/
theorem abs_rounded_le {number : Rat} {rounded bound : Int} (rounds : RoundsTo number rounded)
    (small : |number| ≤ bound) : |rounded| ≤ bound + 1 := by
  rw [RoundsTo, abs_le] at rounds
  rw [abs_le] at small
  have lower : (-(bound + 1 : Int) : Rat) ≤ rounded := by push_cast; linarith
  have upper : (rounded : Rat) ≤ (bound + 1 : Int) := by push_cast; linarith
  rw [abs_le]
  exact ⟨by exact_mod_cast lower, by exact_mod_cast upper⟩

/-- What is small enough has 32 bits. -/
theorem isInt32_of_abs_le {value bound : Int} (small : |value| ≤ bound) (room : bound < 2 ^ 31) :
    IsInt32 value := by
  rw [abs_le] at small
  exact ⟨by omega, by omega⟩

/-- The head-room of shifted operands: the shift is such that nothing exceeds half of the range. -/
theorem shifted_mul_reach (known : width = 8 ∨ width = 16) (same : result.storage.width = width) :
    (2 : Int) ^ inputShift result * reach width ≤ 2 ^ 30 := by
  rw [inputShift, same]
  rcases known with rfl | rfl <;> decide

/-- A scale that is divided by the larger of two is at most one. -/
theorem div_maxScale_le {scale : Rat} (among : scale ≤ max lhs.getScale rhs.getScale) :
    scale / max lhs.getScale rhs.getScale ≤ 1 :=
  (div_le_one maxScale_pos).2 among

/-- Operands of minima and maxima are rescaled by at most the shift. -/
theorem minMax_factors_le :
    0 ≤ (getMinMaxRescaleScales lhs rhs result).lhs ∧
    (getMinMaxRescaleScales lhs rhs result).lhs ≤ 2 ^ inputShift result ∧
    0 ≤ (getMinMaxRescaleScales lhs rhs result).rhs ∧
    (getMinMaxRescaleScales lhs rhs result).rhs ≤ 2 ^ inputShift result := by
  have larger := @maxScale_pos lhs rhs
  have shifted : (0 : Rat) < 2 ^ inputShift result := by positivity
  have factor {scale : Rat} (positive : 0 < scale)
      (among : scale ≤ max lhs.getScale rhs.getScale) :
      0 ≤ scale / max lhs.getScale rhs.getScale * 2 ^ inputShift result ∧
        scale / max lhs.getScale rhs.getScale * 2 ^ inputShift result ≤ 2 ^ inputShift result := by
    refine ⟨mul_nonneg (div_nonneg positive.le larger.le) shifted.le, ?_⟩
    exact mul_le_of_le_one_left shifted.le (div_maxScale_le among)
  exact ⟨(factor lhs.positive (le_max_left ..)).1, (factor lhs.positive (le_max_left ..)).2,
    (factor rhs.positive (le_max_right ..)).1, (factor rhs.positive (le_max_right ..)).2⟩

/-- Summands are rescaled by half as much. -/
theorem addSub_factors :
    (getAddSubRescaleScales lhs rhs result).lhs =
        (getMinMaxRescaleScales lhs rhs result).lhs / 2 ∧
    (getAddSubRescaleScales lhs rhs result).rhs =
        (getMinMaxRescaleScales lhs rhs result).rhs / 2 := by
  have larger := @maxScale_pos lhs rhs
  simp only [getAddSubRescaleScales, getMinMaxRescaleScales]
  constructor <;> field_simp

end Headroom

section Main

variable {width : Nat} {lhs rhs result : UniformQuantizedType} {op : BinaryOp}

/-- The factors by which the operands are rescaled leave room for the result in 32 bits. -/
theorem BinaryOp.operands_small (known : width = 8 ∨ width = 16)
    (same : result.storage.width = width) :
    ∃ limit : Rat, ∃ bound : Int, limit * reach width ≤ bound ∧
      0 ≤ (op.rescaleScales lhs rhs result).lhs ∧ (op.rescaleScales lhs rhs result).lhs ≤ limit ∧
      0 ≤ (op.rescaleScales lhs rhs result).rhs ∧ (op.rescaleScales lhs rhs result).rhs ≤ limit ∧
      bound + 1 < 2 ^ 31 ∧
      ∀ first second : Int, |first| ≤ bound + 1 → |second| ≤ bound + 1 → op ≠ .divide →
        IsInt32 (op.evalInt first second) := by
  have room : (2 : Rat) ^ inputShift result * reach width ≤ 2 ^ 30 := by
    exact_mod_cast shifted_mul_reach known same
  obtain ⟨lhsNonneg, lhsMost, rhsNonneg, rhsMost⟩ := @minMax_factors_le lhs rhs result
  cases op with
  | add | subtract =>
    obtain ⟨lhsHalf, rhsHalf⟩ := @addSub_factors lhs rhs result
    refine ⟨2 ^ inputShift result / 2, 2 ^ 29, by push_cast; linarith, ?_⟩
    simp only [rescaleScales, lhsHalf, rhsHalf]
    refine ⟨by linarith, by linarith, by linarith, by linarith, by norm_num, ?_⟩
    intro first second firstSmall secondSmall _
    rw [abs_le] at firstSmall secondSmall
    simp only [evalInt, IsInt32]
    omega
  | minimum | maximum =>
    refine ⟨2 ^ inputShift result, 2 ^ 30, by push_cast; linarith, lhsNonneg, lhsMost, rhsNonneg,
      rhsMost, by norm_num, ?_⟩
    intro first second firstSmall secondSmall _
    rw [abs_le] at firstSmall secondSmall
    simp only [evalInt, IsInt32]
    omega
  | multiply | divide =>
    -- The factors of a product are as small as what is stored.
    have near : reach width ≤ 2 ^ 15 := by
      rcases known with rfl | rfl <;> decide
    have nearRat : (reach width : Rat) ≤ 2 ^ 15 := by exact_mod_cast near
    refine ⟨1, 2 ^ 15, by push_cast; linarith, zero_le_one, le_rfl, zero_le_one, le_rfl,
      by norm_num, ?_⟩
    intro first second firstSmall secondSmall notDivide
    refine @isInt32_of_abs_le _ ((2 ^ 15 + 1) * (2 ^ 15 + 1)) ?_ (by norm_num)
    first
    | exact absurd rfl notDivide
    | rw [evalInt, abs_mul]
      exact mul_le_mul firstSmall secondSmall (abs_nonneg _) (by norm_num)

/-- The rescaled operands of an operation, and its result, do not overflow. -/
theorem BinaryOp.no_overflow
    (supported : (QuantizedOp.binary op lhs rhs result).Supported width) {first second : Int}
    (firstStores : lhs.storage.Stores first) (secondStores : rhs.storage.Stores second)
    {roundedLhs roundedRhs : Int}
    (lhsRounds : RoundsTo (rescaled (op.rescaleScales lhs rhs result).lhs lhs first) roundedLhs)
    (rhsRounds : RoundsTo (rescaled (op.rescaleScales lhs rhs result).rhs rhs second) roundedRhs) :
    IsInt32 roundedLhs ∧ IsInt32 roundedRhs ∧
      (op ≠ .divide → IsInt32 (op.evalInt roundedLhs roundedRhs)) := by
  obtain ⟨known, same, signed, centered⟩ := supported
  have own : lhs ∈ [lhs, rhs, result] := by simp
  have other : rhs ∈ [lhs, rhs, result] := by simp
  have last : result ∈ [lhs, rhs, result] := by simp
  obtain ⟨limit, bound, within, lhsNonneg, lhsMost, rhsNonneg, rhsMost, room, computed⟩ :=
    @operands_small width lhs rhs result op known (same result last)
  have lhsSmall : |roundedLhs| ≤ bound + 1 := by
    apply abs_rounded_le lhsRounds
    have near := abs_sub_zeroPoint_le known (same lhs own) (signed lhs own)
      (fun wide => centered wide lhs own) firstStores
    exact (abs_rescaled_le lhsNonneg lhsMost near).trans within
  have rhsSmall : |roundedRhs| ≤ bound + 1 := by
    apply abs_rounded_le rhsRounds
    have near := abs_sub_zeroPoint_le known (same rhs other) (signed rhs other)
      (fun wide => centered wide rhs other) secondStores
    exact (abs_rescaled_le rhsNonneg rhsMost near).trans within
  exact ⟨isInt32_of_abs_le lhsSmall room, isInt32_of_abs_le rhsSmall room,
    computed roundedLhs roundedRhs lhsSmall rhsSmall⟩

/-- A rescaled operation is exact, unless it divides by numbers of another scale than one. -/
theorem BinaryOp.exact_of_dividesByUnits (units : op = .divide → rhs.getScale = 1)
    (first second : Int) :
    (op.rescaleScales lhs rhs result).result *
        op.eval (rescaled (op.rescaleScales lhs rhs result).lhs lhs first)
          (rescaled (op.rescaleScales lhs rhs result).rhs rhs second) =
      op.eval (lhs.value first) (rhs.value second) / result.getScale := by
  cases op with
  | add =>
    apply exact_of_commonFactor (@isHomogeneous_of_ne .add nofun nofun) commonFactor_addSub
  | subtract =>
    apply exact_of_commonFactor (@isHomogeneous_of_ne .subtract nofun nofun) commonFactor_addSub
  | minimum =>
    apply exact_of_commonFactor (@isHomogeneous_of_ne .minimum nofun nofun) commonFactor_minMax
  | maximum =>
    apply exact_of_commonFactor (@isHomogeneous_of_ne .maximum nofun nofun) commonFactor_minMax
  | multiply => exact exact_multiply first second
  | divide =>
    have scale : 0 < result.getScale := result.positive
    simp only [rescaleScales, getMulDivRescaleScales, eval, rescaled, UniformQuantizedType.value,
      units rfl, one_mul, mul_one]
    field_simp

/-- Quantized operations are rescaled correctly exactly when they do not divide, or divide by
numbers of the scale one. -/
theorem QuantizedOp.rescalesCorrectly_iff {op : QuantizedOp} (supported : op.Supported width) :
    op.RescalesCorrectly ↔ op.DividesByUnits := by
  cases op with
  | abs operand result =>
    refine iff_of_true ⟨_, rfl, fun stored stores => ⟨?_, fun rounded rounds => ?_⟩⟩ trivial
    · have own : 0 < operand.getScale := operand.positive
      simp only [getUnaryRescaleScales, rescaled, UniformQuantizedType.value, one_mul, abs_mul,
        abs_of_pos own]
      ring
    · obtain ⟨known, same, signed, centered⟩ := supported
      have listed : operand ∈ [operand, result] := by simp
      have near := abs_sub_zeroPoint_le known (same operand listed) (signed operand listed)
        (fun wide => centered wide operand listed) stores
      have small := @abs_rounded_le _ _ (reach width) rounds
        ((abs_rescaled_le zero_le_one le_rfl near).trans (one_mul _).le)
      refine isInt32_of_abs_le small ?_
      rcases known with rfl | rfl <;> decide
  | binary op lhs rhs result =>
    have signed : matchAndRewriteBinaryOp op lhs rhs result =
        some (op.rescaleScales lhs rhs result) := by
      have all := supported.signed
      simp only [types, List.forall_mem_cons] at all
      rw [matchAndRewriteBinaryOp, all.1, all.2.1, all.2.2.1]
      rfl
    constructor
    · rintro ⟨scales, rewritten, correct⟩ rfl
      rw [signed, Option.some.injEq] at rewritten
      subst rewritten
      -- Numbers other than zero are divided wrongly.
      obtain ⟨first, firstStores, dividend⟩ := lhs.storage.exists_ne lhs.getZeroPoint
      obtain ⟨second, secondStores, divisor⟩ := rhs.storage.exists_ne rhs.getZeroPoint
      obtain ⟨exact, -⟩ := correct first second firstStores secondStores
      exact (exact_divide_iff dividend divisor).1 exact
    · intro units
      refine ⟨_, signed, fun first second firstStores secondStores => ⟨?_, ?_⟩⟩
      · exact BinaryOp.exact_of_dividesByUnits units first second
      · intro roundedLhs roundedRhs lhsRounds rhsRounds
        exact BinaryOp.no_overflow supported firstStores secondStores lhsRounds rhsRounds

end Main

section Points

/-- Signed integers of 8 bits. -/
def storage8 : StorageType where
  width := 8
  isSigned := true
  storageTypeMin := -128
  storageTypeMax := 127
  ordered := by decide
  fits := by decide

/-- Signed integers of 8 bits with a scale. -/
def quantized8 (scale : Rat) (positive : 0 < scale) : UniformQuantizedType where
  storage := storage8
  params := ⟨scale, 0⟩
  positive
  zeroPoint := by
    show -128 ≤ (0 : Int) ∧ (0 : Int) ≤ 127
    decide

/-- The sum of two numbers of different scales. -/
theorem rescalesCorrectly_sum :
    (QuantizedOp.binary .add (quantized8 2 (by norm_num)) (quantized8 3 (by norm_num))
        (quantized8 5 (by norm_num))).RescalesCorrectly ↔
      (QuantizedOp.binary .add (quantized8 2 (by norm_num)) (quantized8 3 (by norm_num))
        (quantized8 5 (by norm_num))).DividesByUnits :=
  @QuantizedOp.rescalesCorrectly_iff 8 _
    ⟨.inl rfl, by simp [QuantizedOp.types, quantized8, storage8],
      by simp [QuantizedOp.types, quantized8, storage8], nofun⟩

/-- A number of the scale two divided by another one: the quotient of the stored integers stands for
itself, but is multiplied by four. -/
theorem divide_not_rescaledCorrectly :
    let type := quantized8 2 (by norm_num)
    (QuantizedOp.binary .divide type type (quantized8 1 (by norm_num))).Supported 8 ∧
      (getMulDivRescaleScales type type (quantized8 1 (by norm_num))).result *
          BinaryOp.eval .divide (rescaled 1 type 6) (rescaled 1 type 3) = 8 ∧
      BinaryOp.eval .divide (type.value 6) (type.value 3) = 2 ∧
      ¬ (QuantizedOp.binary .divide type type (quantized8 1 (by norm_num))).RescalesCorrectly := by
  have scaled : (getMulDivRescaleScales (quantized8 2 (by norm_num)) (quantized8 2 (by norm_num))
      (quantized8 1 (by norm_num))).result * BinaryOp.eval .divide
        (rescaled 1 (quantized8 2 (by norm_num)) 6) (rescaled 1 (quantized8 2 (by norm_num)) 3) =
          8 := by
    norm_num [getMulDivRescaleScales, BinaryOp.eval, rescaled, quantized8,
      UniformQuantizedType.getScale, UniformQuantizedType.getZeroPoint]
  have exact : BinaryOp.eval .divide ((quantized8 2 (by norm_num)).value 6)
      ((quantized8 2 (by norm_num)).value 3) = 2 := by
    norm_num [BinaryOp.eval, UniformQuantizedType.value, quantized8,
      UniformQuantizedType.getScale, UniformQuantizedType.getZeroPoint]
  refine ⟨⟨.inl rfl, ?_, ?_, nofun⟩, scaled, exact, ?_⟩
  · simp [QuantizedOp.types, quantized8, storage8]
  · simp [QuantizedOp.types, quantized8, storage8]
  · rintro ⟨scales, rewritten, correct⟩
    cases rewritten
    obtain ⟨same, -⟩ := correct 6 3 ⟨by decide, by decide⟩ ⟨by decide, by decide⟩
    have wrong := (scaled.symm.trans same).trans (by rw [exact])
    norm_num [quantized8, UniformQuantizedType.getScale] at wrong

end Points

end Tosa

end Stablehlo
