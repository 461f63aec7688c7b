import Mathlib.Data.Int.ModEq
import Mathlib.Tactic.Ring

/-! Products of numbers of two digits, from the products of their digits, and their signs. -/

namespace WideProduct

section Digits

variable {radix aHi aLo bHi bLo : Nat}

/-- A product of two digits leaves room for another digit. -/
theorem product_add_lt {carry : Nat} (first : aLo < radix) (second : bLo < radix)
    (third : carry < radix) : aLo * bLo + carry < radix * radix := by
  have most : aLo * bLo ≤ (radix - 1) * (radix - 1) :=
    Nat.mul_le_mul (by omega) (by omega)
  obtain ⟨digit, rfl⟩ : ∃ digit, radix = digit + 1 := ⟨radix - 1, by omega⟩
  rw [Nat.add_sub_cancel] at most
  have square : (digit + 1) * (digit + 1) = digit * digit + 2 * digit + 1 := by ring
  omega

/-- The upper half of a product is no longer than a factor. -/
theorem upper_lt {a b : Nat} (first : a < radix * radix) (second : b < radix * radix) :
    a * b / (radix * radix) < radix * radix :=
  Nat.div_lt_of_lt_mul (Nat.mul_lt_mul'' first second)

/-- The upper half of the product, where the carries are added from the lowest digit on. -/
theorem upper_eq (positive : 0 < radix) :
    let mid1 := aLo * bHi + aLo * bLo / radix
    let mid2 := aHi * bLo + mid1 % radix
    (aHi * radix + aLo) * (bHi * radix + bLo) / (radix * radix) =
      aHi * bHi + mid1 / radix + mid2 / radix := by
  intro mid1 mid2
  have lowest := Nat.div_add_mod (aLo * bLo) radix
  have middle := Nat.div_add_mod mid1 radix
  have upper := Nat.div_add_mod mid2 radix
  -- What is not in the upper half are two digits.
  have split : (aHi * radix + aLo) * (bHi * radix + bLo) =
      mid2 % radix * radix + aLo * bLo % radix +
        radix * radix * (aHi * bHi + mid1 / radix + mid2 / radix) := by
    calc (aHi * radix + aLo) * (bHi * radix + bLo)
      _ = aHi * bHi * (radix * radix) + (aLo * bHi + aHi * bLo) * radix + aLo * bLo := by ring
      _ = aHi * bHi * (radix * radix) + (aLo * bHi + aHi * bLo) * radix +
          (radix * (aLo * bLo / radix) + aLo * bLo % radix) := by rw [lowest]
      _ = aHi * bHi * (radix * radix) + (mid1 + aHi * bLo) * radix + aLo * bLo % radix := by ring
      _ = aHi * bHi * (radix * radix) +
          (radix * (mid1 / radix) + mid1 % radix + aHi * bLo) * radix + aLo * bLo % radix := by
        rw [middle]
      _ = (aHi * bHi + mid1 / radix) * (radix * radix) + mid2 * radix + aLo * bLo % radix := by ring
      _ = (aHi * bHi + mid1 / radix) * (radix * radix) +
          (radix * (mid2 / radix) + mid2 % radix) * radix + aLo * bLo % radix := by rw [upper]
      _ = mid2 % radix * radix + aLo * bLo % radix +
          radix * radix * (aHi * bHi + mid1 / radix + mid2 / radix) := by ring
  rw [split, Nat.add_mul_div_left _ _ (Nat.mul_pos positive positive), Nat.div_eq_of_lt,
    Nat.zero_add]
  have digit : mid2 % radix < radix := Nat.mod_lt _ positive
  have least : aLo * bLo % radix < radix := Nat.mod_lt _ positive
  calc mid2 % radix * radix + aLo * bLo % radix
    _ < mid2 % radix * radix + radix := by omega
    _ = (mid2 % radix + 1) * radix := by ring
    _ ≤ radix * radix := Nat.mul_le_mul_right radix digit

end Digits

section Signs

variable {modulus a b : Int}

/-- The upper half of a product with signs is the one without, less the factors of negative ones. -/
theorem signed_upper_modEq (nonzero : modulus ≠ 0) :
    let unsigned := fun number : Int => if number < 0 then number + modulus else number
    unsigned a * unsigned b / modulus - (if a < 0 then unsigned b else 0) -
      (if b < 0 then unsigned a else 0) ≡ a * b / modulus [ZMOD modulus] := by
  intro unsigned
  -- Each correction of a factor adds the other one to the quotient.
  have add (number other : Int) : (number + other * modulus) / modulus =
      number / modulus + other := Int.add_mul_ediv_right number other nonzero
  simp only [unsigned]
  split_ifs with first second second
  · rw [show (a + modulus) * (b + modulus) = a * b + (a + b + modulus) * modulus by ring, add]
    exact Int.modEq_iff_dvd.mpr ⟨1, by ring⟩
  · rw [show (a + modulus) * b = a * b + b * modulus by ring, add]
    exact Int.modEq_iff_dvd.mpr ⟨0, by ring⟩
  · rw [show a * (b + modulus) = a * b + a * modulus by ring, add]
    exact Int.modEq_iff_dvd.mpr ⟨0, by ring⟩
  · exact Int.modEq_iff_dvd.mpr ⟨0, by ring⟩

end Signs

end WideProduct
