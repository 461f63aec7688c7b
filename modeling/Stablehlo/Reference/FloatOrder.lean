import Mathlib.Algebra.Order.Ring.Int
import Mathlib.Data.Int.ConditionallyCompleteOrder
import Mathlib.Order.WithBot
import Stablehlo.Reference.ReducePrecision

/-! Comparisons of floats: on their bits, by their values, and in the total order of bit patterns. -/

namespace Stablehlo

/-- The outcome of a comparison. -/
inductive CmpResult where
  | lessThan
  | equal
  | greaterThan
  | unordered
  deriving DecidableEq, Repr

namespace APFloat

/-- The sign of a number, in formats that have one. -/
def sign (value : APFloat) : Bool :=
  match value.semantics with
  | .float8E8M0FNU => false
  | _ => value.isNegative

/-- The exponent and the significand of a number, in one. -/
def absolute (value : APFloat) : Nat :=
  match value.semantics with
  | .float8E8M0FNU => value.bits.toNat
  | _ => value.magnitude

/-- Compare the exponents, and then the significands. -/
def compareAbsoluteValue (lhs rhs : APFloat) : CmpResult :=
  if lhs.absolute < rhs.absolute then .lessThan
  else if lhs.absolute = rhs.absolute then .equal
  else .greaterThan

/-- Compare numbers of one format. -/
def compare (lhs rhs : APFloat) : CmpResult :=
  if lhs.isNaN || rhs.isNaN then .unordered
  else if lhs.isZero && rhs.isZero then .equal
  else if lhs.isZero then (if rhs.sign then .greaterThan else .lessThan)
  else if rhs.isZero then (if lhs.sign then .lessThan else .greaterThan)
  else
    match lhs.sign, rhs.sign with
    | true, false => .lessThan
    | false, true => .greaterThan
    | false, false => lhs.compareAbsoluteValue rhs
    -- A greater absolute value is a smaller value.
    | true, true => rhs.compareAbsoluteValue lhs

/-- The number is an infinity. -/
def isInfinity (value : APFloat) : Bool :=
  value.semantics.isIEEELike && value.magnitude == value.semantics.format.infinity

/-- The absolute value of a finite number, as a multiple of the least one of its format. -/
def scaledAbsolute (value : APFloat) : Nat :=
  match value.semantics with
  | .float8E8M0FNU => 2 ^ value.bits.toNat
  | semantics => semantics.format.scaled value.magnitude

/-- The value of a number, as a multiple of the least positive one of its format. -/
def number (value : APFloat) : WithBot (WithTop Int) :=
  if value.isInfinity then
    if value.sign then ⊥ else ((⊤ : WithTop Int) : WithBot (WithTop Int))
  else
    let absolute : Int := value.scaledAbsolute
    (((if value.sign then -absolute else absolute : Int) : WithTop Int) : WithBot (WithTop Int))

/-- The value of a number, if it is one. -/
def value? (value : APFloat) : Option (WithBot (WithTop Int)) :=
  if value.isNaN then none else some value.number

/-- The relation `compareQuietLess`. -/
def QuietLess (x y : APFloat) : Prop :=
  ∃ first second, x.value? = some first ∧ y.value? = some second ∧ first < second

/-- The relation `compareQuietEqual`. -/
def QuietEqual (x y : APFloat) : Prop :=
  ∃ shared, x.value? = some shared ∧ y.value? = some shared

/-- The relation `totalOrder`. -/
def TotalOrder (x y : APFloat) : Prop :=
  match x.value?, y.value? with
  | some first, some second => first < second ∨ first = second ∧ (x.sign = true ∨ y.sign = false)
  -- What is not a number is below all numbers with its sign set, and above them without it.
  | none, some _ => x.sign = true
  | some _, none => y.sign = false
  -- The signaling ones, and then those with lesser payloads, are closer to the numbers.
  | none, none =>
    if x.sign = y.sign then
      if x.sign then y.absolute ≤ x.absolute else x.absolute ≤ y.absolute
    else x.sign = true

/-- The bits as a signed number, where the sign and the absolute value are apart. -/
def signedAbsolute (value : APFloat) : Int :=
  if value.sign then -(value.absolute : Int) else value.absolute

section Facts

variable {x y : APFloat}

/-- Values grow with the bits. -/
theorem scaledAbsolute_lt_iff (same : x.semantics = y.semantics) :
    x.scaledAbsolute < y.scaledAbsolute ↔ x.absolute < y.absolute := by
  obtain ⟨semantics, first⟩ := x
  obtain ⟨_, second⟩ := y
  cases same
  cases semantics with
  | float8E8M0FNU => exact Nat.pow_lt_pow_iff_right (by omega)
  | _ => exact BinaryFormat.scaled_strictMono.lt_iff_lt

/-- Values are no less than the bits. -/
theorem absolute_le_scaledAbsolute : x.absolute ≤ x.scaledAbsolute := by
  obtain ⟨semantics, bits⟩ := x
  cases semantics with
  | float8E8M0FNU => exact Nat.lt_two_pow_self.le
  | _ => exact BinaryFormat.scaled_strictMono.le_apply

/-- Only formats with zeros have signs. -/
theorem scaledAbsolute_eq_zero (signed : x.sign = true) (same : x.semantics = y.semantics) :
    y.absolute = 0 → y.scaledAbsolute = 0 := by
  obtain ⟨semantics, first⟩ := x
  obtain ⟨_, second⟩ := y
  cases same
  intro zero
  cases semantics with
  | float8E8M0FNU => cases signed
  | _ =>
    have none : APFloat.magnitude ⟨_, second⟩ = 0 := zero
    simp only [scaledAbsolute, none]
    simp [BinaryFormat.scaled, BinaryFormat.exponentField]

/-- The bits of a zero are those of a number without an absolute value. -/
theorem isZero_iff (number : x.isNaN = false) :
    x.isZero = true ↔ x.semantics ≠ .float8E8M0FNU ∧ x.absolute = 0 := by
  obtain ⟨semantics, bits⟩ := x
  -- Where zero has no sign, the bits of the sign alone are no number.
  have unsigned (bits : BitVec 8) (number : (bits.toNat % 2 ^ 7 == 0 && bits.msb) = false) :
      (bits.toNat == 0) = true ↔ bits.toNat % 2 ^ 7 = 0 := by
    have bound := bits.isLt
    rw [BitVec.msb_eq_decide] at number
    simp at number ⊢
    omega
  cases semantics with
  | float8E8M0FNU => simp [isZero]
  | float8E4M3FNUZ => exact (unsigned bits number).trans (and_iff_right (by simp)).symm
  | float8E4M3B11FNUZ => exact (unsigned bits number).trans (and_iff_right (by simp)).symm
  | float8E5M2FNUZ => exact (unsigned bits number).trans (and_iff_right (by simp)).symm
  | _ => simp [isZero, absolute, magnitude]

/-- A zero is a number. -/
theorem isNaN_of_isZero (zero : x.isZero = true) : x.isNaN = false := by
  obtain ⟨semantics, bits⟩ := x
  -- The bits of a zero are none, where the sign alone is no number.
  have unsigned (bits : BitVec 8) (zero : (bits.toNat == 0) = true) :
      (bits.toNat % 2 ^ 7 == 0 && bits.msb) = false := by
    rw [beq_iff_eq] at zero
    rw [BitVec.msb_eq_decide, zero]
    rfl
  have signed : ∀ semantics : FloatSemantics, ∀ magnitude : Nat,
      (magnitude == 0) = true → decide (semantics.format.infinity < magnitude) = false := by
    intro semantics magnitude zero
    rw [beq_iff_eq] at zero
    simp [zero]
  cases semantics with
  | float8E8M0FNU => cases zero
  | float4E2M1FN | float6E2M3FN | float6E3M2FN => rfl
  | float8E4M3FN =>
    simp only [isZero, beq_iff_eq] at zero
    simp [isNaN, magnitude, zero]
  | float8E4M3FNUZ => exact unsigned bits zero
  | float8E4M3B11FNUZ => exact unsigned bits zero
  | float8E5M2FNUZ => exact unsigned bits zero
  | _ => exact signed _ _ zero

/-- In formats with infinities, what is beyond them is no number. -/
theorem of_isIEEELike (like : x.semantics.isIEEELike = true) :
    x.absolute = x.magnitude ∧
      x.isNaN = decide (x.semantics.format.infinity < x.magnitude) := by
  obtain ⟨semantics, bits⟩ := x
  cases semantics with
  | float4E2M1FN | float6E2M3FN | float6E3M2FN | float8E4M3FN | float8E4M3FNUZ | float8E4M3B11FNUZ
  | float8E5M2FNUZ | float8E8M0FNU => cases like
  | _ => exact ⟨rfl, rfl⟩

/-- Infinities have the greatest bits of all numbers. -/
theorem isInfinity_iff (same : x.semantics = y.semantics) (infinite : x.isInfinity = true)
    (number : y.isNaN = false) :
    y.absolute ≤ x.absolute ∧ (y.isInfinity = true ↔ y.absolute = x.absolute) := by
  rw [isInfinity, Bool.and_eq_true, beq_iff_eq] at infinite
  obtain ⟨like, infinite⟩ := infinite
  have other := like
  rw [same] at other
  obtain ⟨first, -⟩ := of_isIEEELike like
  obtain ⟨second, numbers⟩ := of_isIEEELike other
  rw [numbers, decide_eq_false_iff_not, ← same, ← infinite] at number
  rw [isInfinity, other, Bool.true_and, beq_iff_eq, first, second, ← same, infinite]
  rw [infinite] at number
  omega

/-- Infinities are not zero. -/
theorem absolute_pos (infinite : x.isInfinity = true) : 0 < x.absolute := by
  rw [isInfinity, Bool.and_eq_true, beq_iff_eq] at infinite
  obtain ⟨like, infinite⟩ := infinite
  rw [(of_isIEEELike like).1, infinite]
  obtain ⟨semantics, bits⟩ := x
  cases semantics with
  | float4E2M1FN | float6E2M3FN | float6E3M2FN | float8E4M3FN | float8E4M3FNUZ | float8E4M3B11FNUZ
  | float8E5M2FNUZ | float8E8M0FNU => cases like
  | float8E4M3 => exact (by decide : 0 < (FloatSemantics.format .float8E4M3).infinity)
  | float8E3M4 => exact (by decide : 0 < (FloatSemantics.format .float8E3M4).infinity)
  | float8E5M2 => exact (by decide : 0 < (FloatSemantics.format .float8E5M2).infinity)
  | bFloat => exact (by decide : 0 < (FloatSemantics.format .bFloat).infinity)
  | ieeeHalf => exact (by decide : 0 < (FloatSemantics.format .ieeeHalf).infinity)
  | ieeeSingle => exact (by decide : 0 < (FloatSemantics.format .ieeeSingle).infinity)
  | ieeeDouble => exact (by decide : 0 < (FloatSemantics.format .ieeeDouble).infinity)
  | floatTF32 => exact (by decide : 0 < (FloatSemantics.format .floatTF32).infinity)

/-- With its sign set, a number is one below zero. -/
theorem signedAbsolute_of_sign (signed : x.sign = true) : x.signedAbsolute = -x.absolute :=
  if_pos signed

/-- Without its sign set, a number is one from zero on. -/
theorem signedAbsolute_of_not_sign (unsigned : x.sign = false) : x.signedAbsolute = x.absolute :=
  if_neg (by simp [unsigned])

/-- Values are ordered as the bits are, read as signed numbers. -/
theorem number_lt_iff (same : x.semantics = y.semantics) (xNumber : x.isNaN = false)
    (yNumber : y.isNaN = false) : x.number < y.number ↔ x.signedAbsolute < y.signedAbsolute := by
  unfold number signedAbsolute
  by_cases xInfinite : x.isInfinity = true
  · obtain ⟨most, infinite⟩ := isInfinity_iff same xInfinite yNumber
    have positive := absolute_pos xInfinite
    rw [if_pos xInfinite]
    by_cases yInfinite : y.isInfinity = true
    · -- Infinities differ in their signs only.
      have equal := infinite.mp yInfinite
      rw [if_pos yInfinite]
      cases x.sign <;> cases y.sign <;> simp <;> omega
    · have less : y.absolute < x.absolute := by
        have different : y.absolute ≠ x.absolute := fun equal => yInfinite (infinite.mpr equal)
        omega
      rw [if_neg yInfinite]
      cases x.sign <;> cases y.sign <;> simp [WithBot.bot_lt_coe] <;> omega
  · rw [if_neg xInfinite]
    by_cases yInfinite : y.isInfinity = true
    · obtain ⟨most, infinite⟩ := isInfinity_iff same.symm yInfinite xNumber
      have less : x.absolute < y.absolute := by
        have different : x.absolute ≠ y.absolute := fun equal => xInfinite (infinite.mpr equal)
        omega
      rw [if_pos yInfinite]
      have finite (value : Int) : ((value : WithTop Int) : WithBot (WithTop Int)) < ⊤ :=
        WithBot.coe_lt_coe.mpr (WithTop.coe_lt_top value)
      cases y.sign with
      | false => exact iff_of_true (finite _) (by cases x.sign <;> simp <;> omega)
      | true => exact iff_of_false not_lt_bot (by cases x.sign <;> simp <;> omega)
    · rw [if_neg yInfinite]
      dsimp only
      rw [WithBot.coe_lt_coe, WithTop.coe_lt_coe]
      have forward := scaledAbsolute_lt_iff same
      have backward := scaledAbsolute_lt_iff same.symm
      cases xSign : x.sign with
      | true =>
        have xZero := scaledAbsolute_eq_zero xSign rfl
        have yZero := scaledAbsolute_eq_zero xSign same
        cases y.sign with
        | true =>
          simp
          omega
        | false =>
          have first := absolute_le_scaledAbsolute (x := x)
          have second := absolute_le_scaledAbsolute (x := y)
          simp
          omega
      | false =>
        cases ySign : y.sign with
        | true =>
          simp
          omega
        | false =>
          simp
          omega

/-- Two numbers are the same where the bits are, read as signed numbers. -/
theorem number_eq_iff (same : x.semantics = y.semantics) (xNumber : x.isNaN = false)
    (yNumber : y.isNaN = false) : x.number = y.number ↔ x.signedAbsolute = y.signedAbsolute := by
  have less := number_lt_iff same xNumber yNumber
  have greater := number_lt_iff same.symm yNumber xNumber
  constructor
  · intro equal
    rw [equal] at less greater
    simp only [lt_self_iff_false, false_iff] at less greater
    omega
  · intro equal
    apply le_antisymm
    · exact not_lt.mp fun above => by have := greater.mp above; omega
    · exact not_lt.mp fun below => by have := less.mp below; omega

/-- Zeros have no sign that their value shows. -/
theorem signedAbsolute_of_isZero (number : x.isNaN = false) (zero : x.isZero = true) :
    x.signedAbsolute = 0 := by
  rw [signedAbsolute, ((isZero_iff number).mp zero).2]
  simp

/-- The sign of a number that is not zero is the one of its value. -/
theorem sign_of_not_isZero (number : x.isNaN = false) (nonzero : x.isZero = false) :
    (x.sign = true → x.signedAbsolute < 0) ∧
      (x.sign = false → x.semantics ≠ .float8E8M0FNU → 0 < x.signedAbsolute) := by
  have zero := isZero_iff number
  rw [nonzero] at zero
  unfold signedAbsolute
  refine ⟨fun signed => ?_, fun unsigned real => ?_⟩
  · have real : x.semantics ≠ .float8E8M0FNU := by
      intro scale
      rw [sign, scale] at signed
      cases signed
    have positive : x.absolute ≠ 0 := fun none => by cases zero.mpr ⟨real, none⟩
    rw [if_pos signed]
    omega
  · have positive : x.absolute ≠ 0 := fun none => by cases zero.mpr ⟨real, none⟩
    rw [if_neg (by simp [unsigned])]
    omega

/-- Numbers are compared by their values. -/
theorem compare_eq (same : x.semantics = y.semantics) (xNumber : x.isNaN = false)
    (yNumber : y.isNaN = false) :
    x.compare y = if x.signedAbsolute < y.signedAbsolute then .lessThan
      else if x.signedAbsolute = y.signedAbsolute then .equal else .greaterThan := by
  have xZero := signedAbsolute_of_isZero xNumber
  have yZero := signedAbsolute_of_isZero yNumber
  have xSigned := sign_of_not_isZero xNumber
  have ySigned := sign_of_not_isZero yNumber
  have xReal := fun zero => ((isZero_iff xNumber).mp zero).1
  have yReal := fun zero => ((isZero_iff yNumber).mp zero).1
  rw [same] at xSigned xReal
  rw [compare, xNumber, yNumber]
  cases xNone : x.isZero with
  | true =>
    rw [xZero xNone]
    cases yNone : y.isZero with
    | true => simp [yZero yNone]
    | false =>
      -- The sign of the other number decides.
      obtain ⟨negative, positive⟩ := ySigned yNone
      cases ySign : y.sign with
      | true =>
        have below := negative ySign
        have notLess : ¬0 < y.signedAbsolute := by omega
        have notEqual : ¬0 = y.signedAbsolute := by omega
        simp [notLess, notEqual]
      | false => simp [positive ySign (xReal xNone)]
  | false =>
    obtain ⟨negative, positive⟩ := xSigned xNone
    cases yNone : y.isZero with
    | true =>
      rw [yZero yNone]
      cases xSign : x.sign with
      | true => simp [negative xSign]
      | false =>
        have above := positive xSign (yReal yNone)
        have notLess : ¬x.signedAbsolute < 0 := by omega
        have notEqual : ¬x.signedAbsolute = 0 := by omega
        simp [notLess, notEqual]
    | false =>
      obtain ⟨below, -⟩ := ySigned yNone
      simp only [Bool.or_self, Bool.and_self, Bool.false_eq_true, if_false]
      cases xSign : x.sign with
      | true =>
        have less := negative xSign
        rw [signedAbsolute_of_sign xSign] at less ⊢
        cases ySign : y.sign with
        | true =>
          -- Both are negative, and a greater absolute value is a lesser number.
          rw [signedAbsolute_of_sign ySign]
          simp only [compareAbsoluteValue, Int.neg_lt_neg_iff, Int.ofNat_lt, Int.neg_inj,
            Int.natCast_inj, eq_comm]
        | false =>
          rw [signedAbsolute_of_not_sign ySign]
          rw [if_pos (by omega)]
      | false =>
        rw [signedAbsolute_of_not_sign xSign]
        cases ySign : y.sign with
        | true =>
          have less := below ySign
          rw [if_neg (by omega), if_neg (by omega)]
        | false =>
          rw [signedAbsolute_of_not_sign ySign]
          simp only [compareAbsoluteValue, Int.ofNat_lt, Int.natCast_inj]

/-- What is no number is not compared. -/
theorem compare_of_isNaN (none : x.isNaN = true ∨ y.isNaN = true) : x.compare y = .unordered := by
  rw [compare, if_pos (by simpa using none)]

/-- The outcomes of comparing numbers. -/
theorem compare_iff (same : x.semantics = y.semantics) (xNumber : x.isNaN = false)
    (yNumber : y.isNaN = false) :
    (x.compare y = .lessThan ↔ x.signedAbsolute < y.signedAbsolute) ∧
      (x.compare y = .equal ↔ x.signedAbsolute = y.signedAbsolute) ∧
      (x.compare y = .greaterThan ↔ y.signedAbsolute < x.signedAbsolute) := by
  rw [compare_eq same xNumber yNumber]
  split_ifs <;> simp <;> omega

/-- Numbers compare as less where their values are. -/
theorem quietLess_iff (same : x.semantics = y.semantics) :
    x.QuietLess y ↔ x.compare y = .lessThan := by
  unfold QuietLess value?
  cases xNumber : x.isNaN with
  | true => simp [compare_of_isNaN (.inl xNumber)]
  | false =>
    cases yNumber : y.isNaN with
    | true => simp [compare_of_isNaN (.inr yNumber)]
    | false =>
      rw [(compare_iff same xNumber yNumber).1]
      simp [number_lt_iff same xNumber yNumber]

/-- Numbers compare as equal where their values are. -/
theorem quietEqual_iff (same : x.semantics = y.semantics) :
    x.QuietEqual y ↔ x.compare y = .equal := by
  unfold QuietEqual value?
  cases xNumber : x.isNaN with
  | true => simp [compare_of_isNaN (.inl xNumber)]
  | false =>
    cases yNumber : y.isNaN with
    | true => simp [compare_of_isNaN (.inr yNumber)]
    | false =>
      rw [(compare_iff same xNumber yNumber).2.1, ← number_eq_iff same xNumber yNumber]
      simp [@eq_comm _ y.number]

/-- Numbers compare as greater where the others are less. -/
theorem quietGreater_iff (same : x.semantics = y.semantics) :
    y.QuietLess x ↔ x.compare y = .greaterThan := by
  unfold QuietLess value?
  cases xNumber : x.isNaN with
  | true => simp [compare_of_isNaN (.inl xNumber)]
  | false =>
    cases yNumber : y.isNaN with
    | true => simp [compare_of_isNaN (.inr yNumber)]
    | false =>
      rw [(compare_iff same xNumber yNumber).2.2]
      simp [number_lt_iff same.symm yNumber xNumber]

end Facts

section TotalOrder

variable {x y z : APFloat}

/-- A number whose order is the total one of bits. -/
def rank (value : APFloat) : Int :=
  let beyond : Int := if value.isNaN then 2 ^ value.semantics.sizeInBits else 0
  if value.sign then -value.absolute - 1 - beyond else value.absolute + beyond

/-- The absolute value is one of the bits. -/
theorem absolute_lt : x.absolute < 2 ^ x.semantics.sizeInBits := by
  obtain ⟨semantics, bits⟩ := x
  cases semantics with
  | float8E8M0FNU => exact bits.isLt
  | _ => exact (Nat.mod_le ..).trans_lt bits.isLt

/-- The total order is the one of the ranks. -/
theorem totalOrder_iff (same : x.semantics = y.semantics) :
    x.TotalOrder y ↔ x.rank ≤ y.rank := by
  have xBound : (x.absolute : Int) < 2 ^ x.semantics.sizeInBits := by exact_mod_cast absolute_lt
  have yBound : (y.absolute : Int) < 2 ^ y.semantics.sizeInBits := by exact_mod_cast absolute_lt
  unfold TotalOrder value? rank
  rw [← same] at yBound ⊢
  generalize (2 : Int) ^ x.semantics.sizeInBits = beyond at xBound yBound ⊢
  cases xNumber : x.isNaN with
  | true =>
    cases yNumber : y.isNaN with
    | true =>
      -- Without values, the signs and then the absolute values decide.
      cases x.sign <;> cases y.sign <;> simp <;> omega
    | false => cases x.sign <;> cases y.sign <;> simp <;> omega
  | false =>
    cases yNumber : y.isNaN with
    | true => cases x.sign <;> cases y.sign <;> simp <;> omega
    | false =>
      -- Numbers are ordered by their values, and zeros by their signs.
      simp only [Bool.false_eq_true, if_false, number_lt_iff same xNumber yNumber, number_eq_iff same xNumber yNumber,
        signedAbsolute]
      cases x.sign <;> cases y.sign <;> simp <;> omega

/-- The bits of a number are its sign and its absolute value. -/
theorem ext_sign (same : x.semantics = y.semantics) (sign : x.sign = y.sign)
    (absolute : x.absolute = y.absolute) : x = y := by
  obtain ⟨semantics, first⟩ := x
  obtain ⟨_, second⟩ := y
  cases same
  have positive := sizeInBits_pos semantics
  have firstBound := first.isLt
  have secondBound := second.isLt
  have double : 2 ^ semantics.sizeInBits = 2 * 2 ^ (semantics.sizeInBits - 1) := by
    rw [← Nat.pow_succ']
    congr 1
    omega
  congr 1
  apply BitVec.eq_of_toNat_eq
  -- The number without its sign, where the sign is the highest bit.
  have signed (sign : first.msb = second.msb)
      (absolute : first.toNat % 2 ^ (semantics.sizeInBits - 1) =
        second.toNat % 2 ^ (semantics.sizeInBits - 1)) : first.toNat = second.toNat := by
    rw [BitVec.msb_eq_decide, BitVec.msb_eq_decide, decide_eq_decide] at sign
    rw [double] at firstBound secondBound
    generalize 2 ^ (semantics.sizeInBits - 1) = half at *
    rcases Nat.lt_or_ge first.toNat half with low | high
    · have otherLow : second.toNat < half := by omega
      rwa [Nat.mod_eq_of_lt low, Nat.mod_eq_of_lt otherLow] at absolute
    · rw [Nat.mod_eq_sub_mod high, Nat.mod_eq_sub_mod (sign.mp high),
        Nat.mod_eq_of_lt (by omega), Nat.mod_eq_of_lt (by omega)] at absolute
      omega
  cases semantics with
  | float8E8M0FNU => exact absolute
  | _ => exact signed sign absolute

/-- Only the same bits have the same rank. -/
theorem rank_inj (same : x.semantics = y.semantics) (equal : x.rank = y.rank) : x = y := by
  have xBound : (x.absolute : Int) < 2 ^ x.semantics.sizeInBits := by exact_mod_cast absolute_lt
  have yBound : (y.absolute : Int) < 2 ^ y.semantics.sizeInBits := by exact_mod_cast absolute_lt
  revert equal
  unfold rank
  rw [← same] at yBound ⊢
  generalize (2 : Int) ^ x.semantics.sizeInBits = beyond at xBound yBound ⊢
  intro equal
  have parts : x.sign = y.sign ∧ x.absolute = y.absolute := by
    revert equal
    -- The ranges of what has a sign and of what is a number do not meet.
    cases x.isNaN <;> cases y.isNaN <;> cases x.sign <;> cases y.sign <;> simp <;> omega
  exact ext_sign same parts.1 parts.2

/-- The total order is one of all bits. -/
theorem TotalOrder.total (same : x.semantics = y.semantics) : x.TotalOrder y ∨ y.TotalOrder x := by
  rw [totalOrder_iff same, totalOrder_iff same.symm]
  omega

/-- Numbers behind others are behind what those are behind. -/
theorem TotalOrder.trans (same : x.semantics = y.semantics) (others : y.semantics = z.semantics)
    (first : x.TotalOrder y) (second : y.TotalOrder z) : x.TotalOrder z := by
  rw [totalOrder_iff same] at first
  rw [totalOrder_iff others] at second
  rw [totalOrder_iff (same.trans others)]
  omega

/-- Only the same bits are on both sides of each other. -/
theorem TotalOrder.antisymm (same : x.semantics = y.semantics) (before : x.TotalOrder y)
    (behind : y.TotalOrder x) : x = y := by
  rw [totalOrder_iff same] at before
  rw [totalOrder_iff same.symm] at behind
  exact rank_inj same (by omega)

end TotalOrder

end APFloat

end Stablehlo
