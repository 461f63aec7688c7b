import Mathlib.Data.List.Induction
import Mathlib.Tactic.Linarith

/-! Decimal numerals, as lists of digits with the most significant one first. -/

namespace Decimal

/-- Digits, at least one of them. -/
def IsNumeral (numeral : List Char) : Prop :=
  numeral ≠ [] ∧ ∀ digit ∈ numeral, digit.isDigit = true

instance {numeral : List Char} : Decidable (IsNumeral numeral) :=
  inferInstanceAs (Decidable (_ ∧ _))

/-- The number that a numeral stands for. -/
def value (numeral : List Char) : Nat := Nat.ofDigitChars 10 numeral 0

/-- The numeral whose first digit is only zero when there is no other one. -/
def withoutLeadingZeros (numeral : List Char) : List Char :=
  match numeral.dropWhile (· == '0') with
  | [] => ['0']
  | digit :: digits => digit :: digits

/-- A number is written as a numeral. -/
theorem isNumeral_toDigits (number : Nat) : IsNumeral (Nat.toDigits 10 number) :=
  ⟨Nat.toDigits_ne_nil, fun _ listed =>
    Nat.isDigit_of_mem_toDigits (by decide) (by decide) listed⟩

/-- The numeral of a number stands for it. -/
theorem value_toDigits (number : Nat) : value (Nat.toDigits 10 number) = number :=
  Nat.ofDigitChars_ten_toDigits

/-- A digit is the one that its number is written with. -/
theorem exists_digitChar {digit : Char} (isDigit : digit.isDigit = true) :
    ∃ number < 10, digit = Nat.digitChar number ∧ digit.toNat - '0'.toNat = number := by
  have bounds : 48 ≤ digit.toNat ∧ digit.toNat ≤ 57 := Char.isDigit_iff_toNat.mp isDigit
  obtain ⟨number, same⟩ := Nat.exists_eq_add_of_le bounds.1
  have small : number < 10 := by omega
  refine ⟨number, small, ?_, ?_⟩
  · apply Char.toNat_inj.mp
    rw [same, Nat.toNat_digitChar_of_lt_ten small]
  · rw [same]
    exact Nat.add_sub_cancel_left 48 number

/-- One more digit is worth its number. -/
theorem value_append_digit (numeral : List Char) (number : Nat) (small : number < 10) :
    value (numeral ++ [Nat.digitChar number]) = 10 * value numeral + number := by
  rw [value, Nat.ofDigitChars_append, Nat.ofDigitChars_cons_digitChar_of_lt_ten small,
    Nat.ofDigitChars_nil]
  rfl

/-- Leading zeros are worth nothing. -/
theorem value_dropWhile (numeral : List Char) :
    value (numeral.dropWhile (· == '0')) = value numeral := by
  induction numeral with
  | nil => rfl
  | cons digit digits ih =>
    rw [List.dropWhile_cons]
    split
    · next zero =>
      rw [beq_iff_eq] at zero
      rw [ih, zero, value, value, Nat.ofDigitChars_cons]
      rfl
    · rfl

/-- A numeral whose first digit is not zero is how its number is written. -/
theorem toDigits_value_cons {first : Char} {digits : List Char} (nonzero : first ≠ '0')
    (all : ∀ digit ∈ first :: digits, digit.isDigit = true) :
    0 < value (first :: digits) ∧ Nat.toDigits 10 (value (first :: digits)) = first :: digits := by
  -- The induction goes through the numeral from its last digit on.
  induction digits using List.reverseRecOn with
  | nil =>
    obtain ⟨number, small, rfl, -⟩ := exists_digitChar (all first (by simp))
    have single : value [Nat.digitChar number] = number := by
      have step := value_append_digit [] number small
      simpa [value] using step
    have positive : 0 < number := by
      rcases Nat.eq_zero_or_pos number with rfl | positive
      · exact absurd rfl nonzero
      · exact positive
    rw [single, Nat.toDigits_of_lt_base small]
    exact ⟨positive, rfl⟩
  | append_singleton digits last ih =>
    obtain ⟨positive, written⟩ := ih fun digit listed => all digit (by
      rw [← List.cons_append]
      exact List.mem_append_left _ listed)
    obtain ⟨number, small, rfl, -⟩ := exists_digitChar (all last (by simp))
    rw [← List.cons_append, value_append_digit _ number small]
    refine ⟨by omega, ?_⟩
    rw [← Nat.toDigits_append_toDigits (by decide) positive small, written,
      Nat.toDigits_of_lt_base small]

/-- A number that is read from a numeral is written without its leading zeros. -/
theorem toDigits_value {numeral : List Char} (isNumeral : IsNumeral numeral) :
    Nat.toDigits 10 (value numeral) = withoutLeadingZeros numeral := by
  rw [← value_dropWhile, withoutLeadingZeros]
  cases rest : numeral.dropWhile (· == '0') with
  | nil => rfl
  | cons first digits =>
    have nonzero : first ≠ '0' := by
      have head := List.head_dropWhile_not (· == '0') (l := numeral) (by simp [rest])
      simpa [rest] using head
    refine (toDigits_value_cons nonzero fun digit listed => isNumeral.2 digit ?_).2
    rw [← rest] at listed
    exact List.dropWhile_sublist _ |>.mem listed

end Decimal
