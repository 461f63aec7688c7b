import Mathlib.Data.Nat.Digits.Lemmas

/-! Bit vectors cut into blocks of equal width, the least significant block first. -/

namespace BitBlocks

/-- The digits of a number in the base, up to some count, the least significant digit first. -/
def split (base : Nat) : Nat → Nat → List Nat
  | 0, _ => []
  | count + 1, number => number % base :: split base count (number / base)

@[simp] theorem length_split (base count number : Nat) :
    (split base count number).length = count := by
  induction count generalizing number with
  | zero => rfl
  | succ count ih => rw [split, List.length_cons, ih]

/-- The digits are found by division. -/
theorem split_eq_map (base count number : Nat) :
    split base count number = (List.range count).map fun i => number / base ^ i % base := by
  induction count generalizing number with
  | zero => rfl
  | succ count ih =>
    rw [split, ih, List.range_succ_eq_map, List.map_cons, List.map_map, pow_zero, Nat.div_one]
    congr 1
    refine List.map_congr_left fun i _ => ?_
    -- One more digit has been divided off.
    show number / base / base ^ i % base = number / base ^ (i + 1) % base
    rw [Nat.div_div_eq_div_mul, ← Nat.pow_succ']

/-- A number with no further digits is put together from its digits. -/
theorem ofDigits_split {base count number : Nat} (below : number < base ^ count) :
    Nat.ofDigits base (split base count number) = number := by
  induction count generalizing number with
  | zero =>
    have zero : number = 0 := by
      rw [pow_zero] at below
      omega
    rw [zero, split, Nat.ofDigits_nil]
  | succ count ih =>
    have quotient : number / base < base ^ count := by
      apply Nat.div_lt_of_lt_mul
      rw [← Nat.pow_succ']
      exact below
    rw [split, Nat.ofDigits_cons, ih quotient]
    exact Nat.mod_add_div number base

/-- Digits below the base are the digits of the number they are put together to. -/
theorem split_ofDigits {base : Nat} {digits : List Nat} (small : ∀ digit ∈ digits, digit < base) :
    split base digits.length (Nat.ofDigits base digits) = digits := by
  induction digits with
  | nil => rfl
  | cons digit digits ih =>
    have below : digit < base := small digit (by simp)
    have rest := ih fun other listed => small other (by simp [listed])
    have positive : 0 < base := by omega
    -- The lowest digit is the remainder, and the others are the quotient.
    rw [List.length_cons, split, Nat.ofDigits_cons, Nat.add_mul_mod_self_left,
      Nat.mod_eq_of_lt below, Nat.add_mul_div_left _ _ positive, Nat.div_eq_of_lt below,
      Nat.zero_add, rest]

/-- Blocks shifted in one after the other, the last block first. -/
def join (total width : Nat) : List Nat → BitVec total
  | [] => 0
  | block :: blocks => join total width blocks <<< width + BitVec.ofNat total block

/-- Blocks that fit are put together to the number they are the digits of. -/
theorem toNat_join {total width : Nat} {blocks : List Nat} (positive : 0 < width)
    (small : ∀ block ∈ blocks, block < 2 ^ width) (fits : width * blocks.length ≤ total) :
    (join total width blocks).toNat = Nat.ofDigits (2 ^ width) blocks := by
  induction blocks with
  | nil => simp [join]
  | cons block blocks ih =>
    have smaller : ∀ other ∈ blocks, other < 2 ^ width :=
      fun other listed => small other (by simp [listed])
    have shorter : width * blocks.length ≤ total := by
      rw [List.length_cons, Nat.mul_succ] at fits
      omega
    -- The whole number fits, so nothing is shifted out or carried over.
    have whole := Nat.ofDigits_lt_base_pow_length (Nat.one_lt_two_pow (by omega)) small
    rw [← Nat.pow_mul] at whole
    have room := Nat.lt_of_lt_of_le whole (Nat.pow_le_pow_right (by omega) fits)
    rw [Nat.ofDigits_cons] at room ⊢
    rw [join, BitVec.toNat_add, BitVec.toNat_shiftLeft, BitVec.toNat_ofNat, ih smaller shorter,
      Nat.shiftLeft_eq, ← Nat.add_mod, Nat.mul_comm, Nat.add_comm]
    exact Nat.mod_eq_of_lt room

end BitBlocks
