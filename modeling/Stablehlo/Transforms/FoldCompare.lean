import Mathlib.Data.BitVec
import Mathlib.Tactic.MkIffOfInductiveProp
import Stablehlo.Dialect.Enums
import Stablehlo.Dialect.Types
import Stablehlo.Reference.FloatOrder

/-! The folding of comparisons of constants. -/

namespace Stablehlo

section Folding

/-- The comparison type of an operation if it is set, and else the one its elements have. -/
def getComparisonType (compareType : Option ComparisonType) (elementType : StablehloType) :
    ComparisonType :=
  match compareType with
  | some .float => .float
  | some .totalOrder => .totalOrder
  | some .signed => .signed
  | some .unsigned => .unsigned
  | some .noType | none =>
    match elementType with
    | .integer .unsigned _ | .integer .signless 1 => .unsigned
    | .integer .signless _ => .signed
    | .float _ | .complex _ => .float
    | _ => .noType

/-- A comparison of two constants. -/
structure FoldCompare where
  direction : ComparisonDirection
  kind : ComparisonType

/-- Compare two floats. -/
def FoldCompare.applyFloat (folder : FoldCompare) (lhs rhs : APFloat) : Except Failure APInt :=
  if folder.kind ≠ .float ∧ folder.kind ≠ .totalOrder then
    .error (.fatalError "invalid float comparison")
  else
    let result : Bool :=
      match folder.direction with
      | .eq => lhs.compare rhs = .equal
      | .ne => lhs.compare rhs ≠ .equal
      | .ge => lhs.compare rhs = .greaterThan ∨ lhs.compare rhs = .equal
      | .gt => lhs.compare rhs = .greaterThan
      | .le => lhs.compare rhs = .lessThan ∨ lhs.compare rhs = .equal
      | .lt => lhs.compare rhs = .lessThan
    .ok ⟨1, .ofBool result⟩

/-- Fold a comparison of two floats of one type. -/
def foldCompareFloats (direction : ComparisonDirection) (compareType : Option ComparisonType)
    (lhs rhs : APFloat) : Except Failure APInt :=
  FoldCompare.applyFloat ⟨direction, getComparisonType compareType (.float lhs.semantics)⟩ lhs rhs

end Folding

section Specification

/-- What a direction asks for, where one thing may be less than, equal to or greater than another. -/
def ComparisonDirection.holds (less equal greater : Prop) : ComparisonDirection → Prop
  | .eq => equal
  | .ne => ¬equal
  | .ge => greater ∨ equal
  | .gt => greater
  | .le => less ∨ equal
  | .lt => less

/-- What the specification has a comparison of floats give. -/
def Compares (direction : ComparisonDirection) (compareType : Option ComparisonType)
    (lhs rhs : APFloat) : Prop :=
  if compareType = some .totalOrder then
    direction.holds (lhs.TotalOrder rhs ∧ ¬rhs.TotalOrder lhs)
      (lhs.TotalOrder rhs ∧ rhs.TotalOrder lhs) (rhs.TotalOrder lhs ∧ ¬lhs.TotalOrder rhs)
  else
    direction.holds (lhs.QuietLess rhs) (lhs.QuietEqual rhs) (rhs.QuietLess lhs)

/-- The comparison is one for which the quiet order and the total one agree. -/
@[mk_iff]
structure QuietAgrees (direction : ComparisonDirection) (lhs rhs : APFloat) : Prop where
  /-- What is no number is equal to itself in the total order only. -/
  itself : lhs.isNaN = true → lhs = rhs → direction = .lt ∨ direction = .gt
  /-- What is no number is before or behind everything else in the total order only. -/
  before : (lhs.isNaN = true ∨ rhs.isNaN = true) → lhs ≠ rhs → lhs.TotalOrder rhs →
    direction ≠ .lt ∧ direction ≠ .le
  behind : (lhs.isNaN = true ∨ rhs.isNaN = true) → lhs ≠ rhs → rhs.TotalOrder lhs →
    direction ≠ .gt ∧ direction ≠ .ge
  /-- The zero with a sign is before the one without it in the total order only. -/
  negativeZero : lhs.isZero = true → rhs.isZero = true → lhs.sign = true → rhs.sign = false →
    direction = .le ∨ direction = .gt
  positiveZero : lhs.isZero = true → rhs.isZero = true → lhs.sign = false → rhs.sign = true →
    direction = .ge ∨ direction = .lt

variable {direction : ComparisonDirection} {compareType : Option ComparisonType}
  {lhs rhs : APFloat}

/-- Comparisons of floats fold to whether their outcome is one the direction asks for. -/
theorem foldCompareFloats_eq (floats : compareType ≠ some .signed ∧ compareType ≠ some .unsigned) :
    ∃ result : Bool, foldCompareFloats direction compareType lhs rhs = .ok ⟨1, .ofBool result⟩ ∧
      (result = true ↔ direction.holds (lhs.compare rhs = .lessThan) (lhs.compare rhs = .equal)
        (lhs.compare rhs = .greaterThan)) := by
  have kind : getComparisonType compareType (.float lhs.semantics) = .float ∨
      getComparisonType compareType (.float lhs.semantics) = .totalOrder := by
    obtain ⟨notSigned, notUnsigned⟩ := floats
    cases compareType with
    | none => exact .inl rfl
    | some compareType =>
      cases compareType with
      | noType | float => exact .inl rfl
      | totalOrder => exact .inr rfl
      | signed => cases notSigned rfl
      | unsigned => cases notUnsigned rfl
  refine ⟨_, if_neg ?_, ?_⟩
  · rintro ⟨notFloat, notTotalOrder⟩
    exact kind.elim notFloat notTotalOrder
  · cases direction <;> simp [ComparisonDirection.holds]

/-- What is no number is in the total order only. -/
theorem quietAgrees_of_isNaN (none : lhs.isNaN = true ∨ rhs.isNaN = true)
    (same : lhs.semantics = rhs.semantics) :
    (direction.holds False False False ↔
      direction.holds (lhs.rank < rhs.rank) (lhs.rank = rhs.rank) (rhs.rank < lhs.rank)) ↔
      QuietAgrees direction lhs rhs := by
  have notZeros : ¬(lhs.isZero = true ∧ rhs.isZero = true) := by
    rintro ⟨lhsZero, rhsZero⟩
    rw [APFloat.isNaN_of_isZero lhsZero, APFloat.isNaN_of_isZero rhsZero] at none
    cases none <;> contradiction
  rw [quietAgrees_iff, APFloat.totalOrder_iff same, APFloat.totalOrder_iff same.symm]
  by_cases equal : lhs = rhs
  · -- The same bits are equal, and nothing is less or greater.
    subst equal
    have isNone : lhs.isNaN = true := none.elim id id
    have notZero : lhs.isZero ≠ true := fun zero => notZeros ⟨zero, zero⟩
    cases direction <;> simp [ComparisonDirection.holds, isNone, notZero]
  · have different : lhs.rank ≠ rhs.rank := fun ranks => equal (APFloat.rank_inj same ranks)
    rcases Int.lt_or_gt_of_ne different with before | behind
    · have notBehind : ¬rhs.rank < lhs.rank := by omega
      cases direction <;>
        simp [ComparisonDirection.holds, none, equal, different, before, before.le, notBehind] <;>
        tauto
    · have notBefore : ¬lhs.rank < rhs.rank := by omega
      cases direction <;>
        simp [ComparisonDirection.holds, none, equal, different, behind, behind.le, notBefore] <;>
        tauto

/-- Zeros of different signs are equal, and only in the total order behind one another. -/
theorem quietAgrees_of_zeros (lhsZero : lhs.isZero = true) (rhsZero : rhs.isZero = true)
    (signs : lhs.sign ≠ rhs.sign) :
    (direction.holds (lhs.signedAbsolute < rhs.signedAbsolute)
        (lhs.signedAbsolute = rhs.signedAbsolute) (rhs.signedAbsolute < lhs.signedAbsolute) ↔
      direction.holds (lhs.rank < rhs.rank) (lhs.rank = rhs.rank) (rhs.rank < lhs.rank)) ↔
      QuietAgrees direction lhs rhs := by
  have lhsNumber := APFloat.isNaN_of_isZero lhsZero
  have rhsNumber := APFloat.isNaN_of_isZero rhsZero
  have lhsNone := ((APFloat.isZero_iff lhsNumber).mp lhsZero).2
  have rhsNone := ((APFloat.isZero_iff rhsNumber).mp rhsZero).2
  rw [quietAgrees_iff]
  simp only [APFloat.signedAbsolute, APFloat.rank, lhsNumber, rhsNumber, lhsNone, rhsNone]
  cases lhsSign : lhs.sign <;> cases rhsSign : rhs.sign
  · exact absurd (lhsSign.trans rhsSign.symm) signs
  · cases direction <;> simp [ComparisonDirection.holds, lhsZero, rhsZero]
  · cases direction <;> simp [ComparisonDirection.holds, lhsZero, rhsZero]
  · exact absurd (lhsSign.trans rhsSign.symm) signs

/-- Apart from zeros of different signs, numbers are in the total order by their values. -/
theorem ranks_of_numbers (same : lhs.semantics = rhs.semantics) (lhsNumber : lhs.isNaN = false)
    (rhsNumber : rhs.isNaN = false)
    (zeros : ¬(lhs.isZero = true ∧ rhs.isZero = true ∧ lhs.sign ≠ rhs.sign)) :
    (lhs.signedAbsolute < rhs.signedAbsolute ↔ lhs.rank < rhs.rank) ∧
      (lhs.signedAbsolute = rhs.signedAbsolute ↔ lhs.rank = rhs.rank) := by
  -- Where the signs are different, one of the numbers is not zero.
  have signed {value : APFloat} : value.sign = true → value.semantics ≠ .float8E8M0FNU := by
    intro signed scale
    rw [APFloat.sign, scale] at signed
    cases signed
  have nonzero : lhs.sign ≠ rhs.sign → lhs.absolute + rhs.absolute ≠ 0 := by
    intro signs none
    have real : lhs.semantics ≠ .float8E8M0FNU := by
      cases lhsSign : lhs.sign with
      | true => exact signed lhsSign
      | false =>
        rw [same]
        exact signed (by simpa [lhsSign] using signs)
    refine zeros ⟨(APFloat.isZero_iff lhsNumber).mpr ⟨real, by omega⟩,
      (APFloat.isZero_iff rhsNumber).mpr ⟨same ▸ real, by omega⟩, signs⟩
  revert nonzero
  simp only [APFloat.signedAbsolute, APFloat.rank, lhsNumber, rhsNumber]
  cases lhs.sign <;> cases rhs.sign <;> simp <;> omega

/-- Among numbers, only zeros of different signs are told apart. -/
theorem quietAgrees_of_number (lhsNumber : lhs.isNaN = false) (rhsNumber : rhs.isNaN = false)
    (same : lhs.semantics = rhs.semantics) :
    (direction.holds (lhs.signedAbsolute < rhs.signedAbsolute)
        (lhs.signedAbsolute = rhs.signedAbsolute) (rhs.signedAbsolute < lhs.signedAbsolute) ↔
      direction.holds (lhs.rank < rhs.rank) (lhs.rank = rhs.rank) (rhs.rank < lhs.rank)) ↔
      QuietAgrees direction lhs rhs := by
  by_cases zeros : lhs.isZero = true ∧ rhs.isZero = true ∧ lhs.sign ≠ rhs.sign
  · exact quietAgrees_of_zeros zeros.1 zeros.2.1 zeros.2.2
  · have agrees : QuietAgrees direction lhs rhs := by
      refine ⟨by simp [lhsNumber], by simp [lhsNumber, rhsNumber], by simp [lhsNumber, rhsNumber],
        fun lhsZero rhsZero lhsSign rhsSign => ?_, fun lhsZero rhsZero lhsSign rhsSign => ?_⟩
      · exact absurd ⟨lhsZero, rhsZero, by simp [lhsSign, rhsSign]⟩ zeros
      · exact absurd ⟨lhsZero, rhsZero, by simp [lhsSign, rhsSign]⟩ zeros
    obtain ⟨less, equal⟩ := ranks_of_numbers same lhsNumber rhsNumber zeros
    obtain ⟨greater, -⟩ := ranks_of_numbers same.symm rhsNumber lhsNumber
      fun ⟨rhsZero, lhsZero, signs⟩ => zeros ⟨lhsZero, rhsZero, signs.symm⟩
    rw [less, equal, greater]
    exact iff_of_true Iff.rfl agrees

/-- Comparisons fold to what is specified, unless the total order is asked for and differs from
the quiet one, which is what they always fold to. -/
theorem foldCompareFloats_iff (same : lhs.semantics = rhs.semantics)
    (floats : compareType ≠ some .signed ∧ compareType ≠ some .unsigned) :
    (∃ result : Bool, foldCompareFloats direction compareType lhs rhs = .ok ⟨1, .ofBool result⟩ ∧
      (result = true ↔ Compares direction compareType lhs rhs)) ↔
      (compareType = some .totalOrder → QuietAgrees direction lhs rhs) := by
  obtain ⟨folded, fold, result⟩ := @foldCompareFloats_eq direction compareType lhs rhs floats
  have outcome : (∃ result : Bool,
      foldCompareFloats direction compareType lhs rhs = .ok ⟨1, .ofBool result⟩ ∧
        (result = true ↔ Compares direction compareType lhs rhs)) ↔
      (direction.holds (lhs.compare rhs = .lessThan) (lhs.compare rhs = .equal)
        (lhs.compare rhs = .greaterThan) ↔ Compares direction compareType lhs rhs) := by
    rw [fold, ← result]
    constructor
    · rintro ⟨other, equal, specified⟩
      have own : folded = other := by
        cases folded <;> cases other <;> first | rfl | cases equal
      rw [own]
      exact specified
    · exact fun specified => ⟨folded, rfl, specified⟩
  rw [outcome, Compares]
  split
  · rename_i total
    rw [forall_prop_of_true total]
    simp only [APFloat.totalOrder_iff same, APFloat.totalOrder_iff same.symm,
      ← lt_iff_le_not_ge, ← le_antisymm_iff]
    cases lhsNumber : lhs.isNaN with
    | true =>
      rw [APFloat.compare_of_isNaN (.inl lhsNumber)]
      simpa using quietAgrees_of_isNaN (.inl lhsNumber) same
    | false =>
      cases rhsNumber : rhs.isNaN with
      | true =>
        rw [APFloat.compare_of_isNaN (.inr rhsNumber)]
        simpa using quietAgrees_of_isNaN (.inr rhsNumber) same
      | false =>
        obtain ⟨less, equal, greater⟩ := APFloat.compare_iff same lhsNumber rhsNumber
        rw [← quietAgrees_of_number lhsNumber rhsNumber same, less, equal, greater]
  · rename_i quiet
    -- Quiet comparisons are what is folded.
    simp [quiet, APFloat.quietLess_iff same, APFloat.quietEqual_iff same,
      APFloat.quietGreater_iff same]

/-- The zeros of both signs, and which one is greater. -/
theorem foldCompareFloats_zeros :
    (∃ result : Bool, foldCompareFloats .gt (some .totalOrder) ⟨.ieeeSingle, 0⟩
        ⟨.ieeeSingle, 2 ^ 31⟩ = .ok ⟨1, .ofBool result⟩ ∧
      (result = true ↔ Compares .gt (some .totalOrder) ⟨.ieeeSingle, 0⟩ ⟨.ieeeSingle, 2 ^ 31⟩)) ↔
      (some ComparisonType.totalOrder = some .totalOrder →
        QuietAgrees .gt ⟨.ieeeSingle, 0⟩ ⟨.ieeeSingle, 2 ^ 31⟩) :=
  foldCompareFloats_iff rfl (by decide)

/-- What is no number is above one in the total order, and does not fold to that. -/
theorem foldCompareFloats_totalOrder :
    ¬∃ result : Bool, foldCompareFloats .gt (some .totalOrder) ⟨.ieeeSingle, 0x7FC00000⟩
        ⟨.ieeeSingle, 0x3F800000⟩ = .ok ⟨1, .ofBool result⟩ ∧
      (result = true ↔ Compares .gt (some .totalOrder) ⟨.ieeeSingle, 0x7FC00000⟩
        ⟨.ieeeSingle, 0x3F800000⟩) := by
  have above : (⟨.ieeeSingle, 0x3F800000⟩ : APFloat).TotalOrder ⟨.ieeeSingle, 0x7FC00000⟩ := by
    rw [APFloat.totalOrder_iff]
    · decide
    · rfl
  have notBelow : ¬(⟨.ieeeSingle, 0x7FC00000⟩ : APFloat).TotalOrder ⟨.ieeeSingle, 0x3F800000⟩ := by
    rw [APFloat.totalOrder_iff]
    · decide
    · rfl
  have folded : foldCompareFloats .gt (some .totalOrder) ⟨.ieeeSingle, 0x7FC00000⟩
      ⟨.ieeeSingle, 0x3F800000⟩ = .ok ⟨1, .ofBool false⟩ := by decide
  rintro ⟨result, equal, specified⟩
  rw [folded] at equal
  cases result with
  | false => cases specified.mpr ⟨above, notBelow⟩
  | true => cases equal

end Specification

end Stablehlo
