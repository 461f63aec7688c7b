import Mathlib.Algebra.Group.Nat.Even
import Mathlib.Algebra.Order.Ring.Nat
import Mathlib.Data.Nat.Dist
import Mathlib.Tactic.Ring

/-! Rounding to the nearest number of a format, where a tie goes to the even one. -/

/-- The multiple of the unit that is nearest to a number, the even one of two at a tie. -/
def nearestEven (unit number : Nat) : Nat :=
  if 2 * (number % unit) < unit ∨ 2 * (number % unit) = unit ∧ Even (number / unit) then
    number / unit * unit
  else
    (number / unit + 1) * unit

section Rounding

variable {unit : Nat}

/-- Rounding goes to a multiple of the unit. -/
theorem dvd_nearestEven (number : Nat) : unit ∣ nearestEven unit number := by
  unfold nearestEven
  split <;> exact Nat.dvd_mul_left ..

/-- A multiple of the unit stays. -/
theorem nearestEven_of_dvd (positive : 0 < unit) {number : Nat} (multiple : unit ∣ number) :
    nearestEven unit number = number := by
  -- Nothing is left to round away.
  rw [nearestEven, Nat.mod_eq_zero_of_dvd multiple, if_pos (.inl positive),
    Nat.div_mul_cancel multiple]

/-- Rounding does not pass a multiple of the unit. -/
theorem nearestEven_le (positive : 0 < unit) {number bound : Nat} (multiple : unit ∣ bound)
    (below : number ≤ bound) : nearestEven unit number ≤ bound := by
  rcases Nat.eq_or_lt_of_le below with rfl | less
  · rw [nearestEven_of_dvd positive multiple]
  -- The next multiple above the number is the bound or one below it.
  obtain ⟨count, rfl⟩ := multiple
  have next : number / unit + 1 ≤ count := Nat.div_lt_of_lt_mul less
  have above : (number / unit + 1) * unit ≤ unit * count := by
    rw [Nat.mul_comm unit]
    exact Nat.mul_le_mul_right unit next
  have lower : number / unit * unit ≤ (number / unit + 1) * unit :=
    Nat.mul_le_mul_right unit (Nat.le_succ _)
  unfold nearestEven
  split
  · exact lower.trans above
  · exact above

/-- Rounding does not see an even multiple of the unit. -/
theorem nearestEven_add (positive : 0 < unit) (count number : Nat) :
    nearestEven unit (unit * (2 * count) + number) =
      unit * (2 * count) + nearestEven unit number := by
  have parity : Even (2 * count + number / unit) ↔ Even (number / unit) := by
    simp [Nat.even_add]
  rw [nearestEven, Nat.mul_add_mod, Nat.mul_add_div positive, nearestEven]
  simp only [parity]
  split <;> ring

/-- A number is rounded by a bias of half the unit, and one more above an odd multiple. -/
theorem nearestEven_eq_biased {half : Nat} (positive : 0 < half) (number : Nat) :
    nearestEven (2 * half) number =
      (number + (number / (2 * half) % 2 + (half - 1))) / (2 * half) * (2 * half) := by
  have small := Nat.mod_lt number (by omega : 2 * half > 0)
  have split := Nat.div_add_mod number (2 * half)
  unfold nearestEven
  generalize number / (2 * half) = quotient at *
  generalize number % (2 * half) = rest at *
  -- What is left over and the bias carry once or not at all.
  have carried : (number + (quotient % 2 + (half - 1))) / (2 * half) =
      if rest + quotient % 2 ≤ half then quotient else quotient + 1 := by
    rw [← split, Nat.add_assoc, Nat.mul_add_div (by omega)]
    by_cases low : rest + quotient % 2 ≤ half
    · rw [if_pos low, Nat.div_eq_of_lt (by omega), Nat.add_zero]
    · rw [if_neg low, Nat.div_eq_of_lt_le (k := 1) (by omega) (by omega)]
  rw [carried]
  simp only [Nat.even_iff]
  by_cases low : rest + quotient % 2 ≤ half
  · rw [if_pos low, if_pos (by omega)]
  · rw [if_neg low, if_neg (by omega)]

end Rounding

/-- A format of numbers with a sign, an exponent and a mantissa. -/
structure BinaryFormat where
  exponentBits : Nat
  mantissaBits : Nat

namespace BinaryFormat

variable (format : BinaryFormat)

/-- The exponent of the bits of a magnitude. -/
def exponentField (magnitude : Nat) : Nat := magnitude / 2 ^ format.mantissaBits

/-- What the exponents of a number are above, as far as they are fields. -/
def bias : Nat := 2 ^ (format.exponentBits - 1) - 1

/-- The magnitude of infinity, whose exponent is the greatest. -/
def infinity : Nat := (2 ^ format.exponentBits - 1) * 2 ^ format.mantissaBits

/-- The exponent of a number, as it would be without a bound. -/
def exponent (magnitude : Nat) : Int := format.exponentField magnitude - format.bias

/-- The magnitude in a range of exponents: infinity above the range, and zero below. -/
def restrict (exponentBits magnitude : Nat) : Nat :=
  if format.exponentBits ≤ exponentBits then magnitude
  else if 2 ^ (exponentBits - 1) - 1 < format.exponent magnitude then format.infinity
  else if format.exponent magnitude < 2 - 2 ^ (exponentBits - 1) then 0
  else magnitude

/-- The value of the bits of a magnitude, as a multiple of the least positive value. -/
def scaled (magnitude : Nat) : Nat :=
  -- Numbers whose exponent is not zero have a leading one before the mantissa.
  let leading := if format.exponentField magnitude = 0 then 0 else 2 ^ format.mantissaBits
  (leading + magnitude % 2 ^ format.mantissaBits) * 2 ^ (format.exponentField magnitude - 1)

variable {format}

/-- The magnitude with an exponent and a mantissa. -/
theorem scaled_fields (exponent : Nat) {mantissa : Nat} (fits : mantissa < 2 ^ format.mantissaBits) :
    format.scaled (2 ^ format.mantissaBits * exponent + mantissa) =
      ((if exponent = 0 then 0 else 2 ^ format.mantissaBits) + mantissa) * 2 ^ (exponent - 1) := by
  have field : format.exponentField (2 ^ format.mantissaBits * exponent + mantissa) = exponent := by
    rw [exponentField, Nat.mul_add_div (Nat.two_pow_pos _), Nat.div_eq_of_lt fits, Nat.add_zero]
  rw [scaled, field, Nat.mul_add_mod, Nat.mod_eq_of_lt fits]

/-- The next magnitude is one unit in the last place above. -/
theorem scaled_succ (magnitude : Nat) :
    format.scaled (magnitude + 1) =
      format.scaled magnitude + 2 ^ (format.exponentField magnitude - 1) := by
  have fits := Nat.mod_lt magnitude (Nat.two_pow_pos format.mantissaBits)
  have split := Nat.div_add_mod magnitude (2 ^ format.mantissaBits)
  unfold exponentField
  generalize magnitude / 2 ^ format.mantissaBits = exponent at *
  generalize magnitude % 2 ^ format.mantissaBits = mantissa at *
  rw [← split, scaled_fields exponent fits]
  rcases Nat.lt_or_ge (mantissa + 1) (2 ^ format.mantissaBits) with inside | carry
  · rw [Nat.add_assoc, scaled_fields exponent inside]
    ring
  · -- The mantissa is full, so that it carries into the exponent.
    have full : mantissa + 1 = 2 ^ format.mantissaBits := by omega
    have next : 2 ^ format.mantissaBits * exponent + mantissa + 1 =
        2 ^ format.mantissaBits * (exponent + 1) + 0 := by
      rw [Nat.add_assoc, full]
      ring
    rw [next, scaled_fields (exponent + 1) (Nat.two_pow_pos _), if_neg (Nat.succ_ne_zero _),
      ← full]
    cases exponent with
    | zero => simp
    | succ exponent =>
      rw [if_neg (Nat.succ_ne_zero _), Nat.add_sub_cancel, Nat.add_sub_cancel, pow_succ]
      ring

/-- Values grow with the magnitude. -/
theorem scaled_strictMono : StrictMono format.scaled :=
  strictMono_nat_of_lt_succ fun magnitude => by
    rw [scaled_succ]
    exact Nat.lt_add_of_pos_right (Nat.two_pow_pos _)

/-- Above a multiple of a power of two the values have equal distances, up to the next multiple. -/
theorem scaled_add {unitBits : Nat} (fits : unitBits ≤ format.mantissaBits) (count : Nat)
    {steps : Nat} (few : steps ≤ 2 ^ unitBits) :
    format.scaled (2 ^ unitBits * count + steps) = format.scaled (2 ^ unitBits * count) +
      steps * 2 ^ (format.exponentField (2 ^ unitBits * count) - 1) := by
  induction steps with
  | zero => simp
  | succ steps ih =>
    -- A step from below the next multiple is from a number with the same exponent.
    have same : format.exponentField (2 ^ unitBits * count + steps) =
        format.exponentField (2 ^ unitBits * count) := by
      obtain ⟨more, units⟩ := Nat.exists_eq_add_of_le fits
      rw [exponentField, exponentField, units, pow_add, ← Nat.div_div_eq_div_mul,
        ← Nat.div_div_eq_div_mul, Nat.mul_add_div (Nat.two_pow_pos _), Nat.div_eq_of_lt few,
        Nat.add_zero, Nat.mul_div_cancel_left _ (Nat.two_pow_pos _)]
    rw [← Nat.add_assoc, scaled_succ, ih (Nat.le_of_succ_le few), same]
    ring

/-- The rounded number is the nearest by value of those with fewer bits, and even at a tie. -/
def RoundsTo (format : BinaryFormat) (unit number rounded : Nat) : Prop :=
  unit ∣ rounded ∧ ∀ other, unit ∣ other →
    Nat.dist (format.scaled number) (format.scaled rounded) <
        Nat.dist (format.scaled number) (format.scaled other) ∨
      Nat.dist (format.scaled number) (format.scaled rounded) =
          Nat.dist (format.scaled number) (format.scaled other) ∧
        (other = rounded ∨ Even (rounded / unit))

/-- A number in the lower half between two others is as near to the lower one as to any. -/
theorem dist_low {value low high other part whole : Nat} (here : value = low + part)
    (next : high = low + whole) (inside : part ≤ whole) (half : 2 * part ≤ whole)
    (placed : other ≤ low ∨ high ≤ other) :
    Nat.dist value low < Nat.dist value other ∨
      Nat.dist value low = Nat.dist value other ∧ (other = low ∨ 2 * part = whole) := by
  unfold Nat.dist
  omega

/-- A number in the upper half between two others is as near to the upper one as to any. -/
theorem dist_high {value low high other part whole : Nat} (here : value = low + part)
    (next : high = low + whole) (inside : part ≤ whole) (half : whole ≤ 2 * part)
    (placed : other ≤ low ∨ high ≤ other) :
    Nat.dist value high < Nat.dist value other ∨
      Nat.dist value high = Nat.dist value other ∧ (other = high ∨ 2 * part = whole) := by
  unfold Nat.dist
  omega

/-- The nearest multiple is the nearest number by value. -/
theorem roundsTo_nearestEven {unitBits : Nat} (fits : unitBits ≤ format.mantissaBits)
    (number : Nat) :
    format.RoundsTo (2 ^ unitBits) number (nearestEven (2 ^ unitBits) number) := by
  have positive := Nat.two_pow_pos unitBits
  refine ⟨dvd_nearestEven number, fun other multiple => ?_⟩
  obtain ⟨count, rfl⟩ := multiple
  have small := Nat.mod_lt number positive
  have split := Nat.div_add_mod number (2 ^ unitBits)
  unfold nearestEven
  generalize number / 2 ^ unitBits = quotient at *
  generalize number % 2 ^ unitBits = rest at *
  have here := scaled_add fits quotient small.le
  have next := scaled_add fits quotient le_rfl
  rw [split] at here
  rw [← Nat.mul_succ] at next
  have last : 0 < 2 ^ (format.exponentField (2 ^ unitBits * quotient) - 1) := Nat.two_pow_pos _
  generalize 2 ^ (format.exponentField (2 ^ unitBits * quotient) - 1) = ulp at *
  -- No multiple of the unit lies between the two around the number.
  have placed : format.scaled (2 ^ unitBits * count) ≤ format.scaled (2 ^ unitBits * quotient) ∨
      format.scaled (2 ^ unitBits * (quotient + 1)) ≤ format.scaled (2 ^ unitBits * count) := by
    rcases Nat.lt_or_ge quotient count with more | less
    · exact .inr (scaled_strictMono.monotone (Nat.mul_le_mul_left _ more))
    · exact .inl (scaled_strictMono.monotone (Nat.mul_le_mul_left _ less))
  have inside : rest * ulp ≤ 2 ^ unitBits * ulp := Nat.mul_le_mul_right _ small.le
  have halves : 2 * (rest * ulp) = 2 * rest * ulp := (Nat.mul_assoc ..).symm
  split
  · rename_i down
    have half : 2 * rest ≤ 2 ^ unitBits := by omega
    rw [Nat.mul_comm quotient, Nat.mul_div_cancel_left _ positive]
    refine (dist_low here next inside (halves ▸ Nat.mul_le_mul_right _ half) placed).imp_right
      fun ⟨same, tied⟩ => ⟨same, tied.imp (fun low => scaled_strictMono.injective low) fun tie => ?_⟩
    -- At a tie the lower multiple is chosen only where it is even.
    have middle := Nat.eq_of_mul_eq_mul_right last (halves.symm.trans tie)
    exact (down.resolve_left (by omega)).2
  · rename_i up
    have half : 2 ^ unitBits ≤ 2 * rest := by omega
    rw [Nat.mul_comm (quotient + 1), Nat.mul_div_cancel_left _ positive]
    refine (dist_high here next inside (halves ▸ Nat.mul_le_mul_right _ half) placed).imp_right
      fun ⟨same, tied⟩ => ⟨same, tied.imp (fun high => scaled_strictMono.injective high) fun tie => ?_⟩
    -- At a tie the lower multiple is odd, and the upper one is even.
    have middle := Nat.eq_of_mul_eq_mul_right last (halves.symm.trans tie)
    have odd : ¬Even quotient := fun even => up (.inr ⟨middle, even⟩)
    exact Nat.even_add_one.mpr odd

/-- The exponent of infinity is the greatest. -/
theorem exponentField_infinity :
    format.exponentField format.infinity = 2 ^ format.exponentBits - 1 :=
  Nat.mul_div_cancel _ (Nat.two_pow_pos _)

/-- Infinity has all bits of the exponent, and none of the mantissa. -/
theorem infinity_add (format : BinaryFormat) : format.infinity + 2 ^ format.mantissaBits =
    2 ^ (format.exponentBits + format.mantissaBits) := by
  rw [infinity, ← Nat.succ_mul, pow_add]
  congr 1
  exact Nat.sub_add_cancel Nat.one_le_two_pow

/-- A magnitude up to infinity has the bits of the format. -/
theorem lt_of_le_infinity (format : BinaryFormat) {magnitude : Nat}
    (bound : magnitude ≤ format.infinity) :
    magnitude < 2 ^ (format.exponentBits + format.mantissaBits) := by
  have room := format.infinity_add
  have positive : 0 < 2 ^ format.mantissaBits := Nat.two_pow_pos _
  omega

/-- A magnitude up to infinity has an exponent of the format. -/
theorem exponentField_lt (format : BinaryFormat) {magnitude : Nat}
    (bound : magnitude ≤ format.infinity) :
    format.exponentField magnitude < 2 ^ format.exponentBits := by
  rw [exponentField, Nat.div_lt_iff_lt_mul (Nat.two_pow_pos _), ← pow_add]
  exact format.lt_of_le_infinity bound

/-- The mantissa of infinity is zero. -/
theorem dvd_infinity {unitBits : Nat} (fits : unitBits ≤ format.mantissaBits) :
    2 ^ unitBits ∣ format.infinity :=
  Dvd.dvd.mul_left (Nat.pow_dvd_pow 2 fits) _

/-- A range does not make a number larger than infinity. -/
theorem restrict_le {exponentBits magnitude : Nat} (bound : magnitude ≤ format.infinity) :
    format.restrict exponentBits magnitude ≤ format.infinity := by
  unfold restrict
  split
  · exact bound
  split
  · exact le_rfl
  split
  · exact Nat.zero_le _
  · exact bound

/-- The exponents of infinity and zero lie beyond those of a range. -/
theorem exponent_beyond {exponentBits : Nat} (narrow : exponentBits < format.exponentBits)
    (positive : 1 ≤ exponentBits) :
    2 ^ (exponentBits - 1) - 1 < format.exponent format.infinity ∧
      format.exponent 0 < 2 - 2 ^ (exponentBits - 1) := by
  have range : 2 * 2 ^ (exponentBits - 1) ≤ 2 ^ (format.exponentBits - 1) := by
    rw [← pow_succ']
    exact Nat.pow_le_pow_right Nat.two_pos (by omega)
  have least : 1 ≤ 2 ^ (exponentBits - 1) := Nat.one_le_two_pow
  have double : 2 ^ format.exponentBits = 2 * 2 ^ (format.exponentBits - 1) := by
    rw [← pow_succ']
    congr 1
    omega
  have field : format.exponentField 0 = 0 := Nat.zero_div _
  have cast : ((2 ^ (exponentBits - 1) : Nat) : Int) = 2 ^ (exponentBits - 1) := by norm_num
  rw [exponent, exponent, exponentField_infinity, field, bias, ← cast]
  omega

/-- Infinity is above every smaller range. -/
theorem restrict_infinity {exponentBits : Nat} (narrow : exponentBits < format.exponentBits)
    (positive : 1 ≤ exponentBits) :
    format.restrict exponentBits format.infinity = format.infinity := by
  rw [restrict, if_neg (not_le.mpr narrow), if_pos (exponent_beyond narrow positive).1]

/-- Zero is below every smaller range. -/
theorem restrict_zero {exponentBits : Nat} (narrow : exponentBits < format.exponentBits)
    (positive : 1 ≤ exponentBits) : format.restrict exponentBits 0 = 0 := by
  have below := (exponent_beyond narrow positive).2
  have least : 1 ≤ 2 ^ (exponentBits - 1) := Nat.one_le_two_pow
  have cast : ((2 ^ (exponentBits - 1) : Nat) : Int) = 2 ^ (exponentBits - 1) := by norm_num
  rw [restrict, if_neg (not_le.mpr narrow), if_neg (by omega), if_pos below]

/-- A magnitude in a range is itself, infinity or zero. -/
theorem restrict_cases (exponentBits magnitude : Nat) :
    format.restrict exponentBits magnitude = magnitude ∨
      format.restrict exponentBits magnitude = format.infinity ∨
      format.restrict exponentBits magnitude = 0 := by
  unfold restrict
  split
  · exact .inl rfl
  split
  · exact .inr (.inl rfl)
  split
  · exact .inr (.inr rfl)
  · exact .inl rfl

/-- A number that was rounded into a range stays when this is done again. -/
theorem restrict_nearestEven_idempotent {unitBits exponentBits : Nat}
    (fits : unitBits ≤ format.mantissaBits) (positive : 1 ≤ exponentBits) (number : Nat) :
    let result := format.restrict exponentBits (nearestEven (2 ^ unitBits) number)
    format.restrict exponentBits (nearestEven (2 ^ unitBits) result) = result := by
  intro result
  have multiple : 2 ^ unitBits ∣ nearestEven (2 ^ unitBits) number := dvd_nearestEven number
  have stays {magnitude : Nat} (units : 2 ^ unitBits ∣ magnitude) :
      nearestEven (2 ^ unitBits) magnitude = magnitude :=
    nearestEven_of_dvd (Nat.two_pow_pos _) units
  unfold result
  generalize nearestEven (2 ^ unitBits) number = rounded at *
  rcases Nat.lt_or_ge exponentBits format.exponentBits with narrow | wide
  · rcases restrict_cases exponentBits rounded with inside | infinite | zero
    · rw [inside, stays multiple, inside]
    · rw [infinite, stays (dvd_infinity fits)]
      exact restrict_infinity narrow positive
    · rw [zero, stays (Nat.dvd_zero _)]
      exact restrict_zero narrow positive
  · have id (magnitude : Nat) : format.restrict exponentBits magnitude = magnitude := if_pos wide
    rw [id, id, stays multiple]

end BinaryFormat
