import Mathlib.Data.List.Sort
import Stablehlo.Dialect.TypeInference

/-! Checks of lists of dimensions, and the axes that lists of dimensions stand for. -/

namespace Stablehlo

/-- A requirement of the verifier, with the error for what does not meet it. -/
def require (requirement : Bool) (message : String) : Except InferenceFailure Unit :=
  if requirement then .ok () else .error (.error message)

/-- No number is listed twice. -/
def isUnique (nums : List Int64) : Bool := (firstDuplicate [] nums).isNone

/-- Each number is at least as large as the one before it. -/
def isSorted (nums : List Int64) : Bool :=
  (nums.zip nums.tail).all fun (former, latter) => former ≤ latter

/-- Check that a dimension is below the upper bound, or at most the upper bound. -/
def checkDimInBounds (dim : Int64) (upperBound : Nat) (dimName upperBoundName : String)
    (upperBoundInclusive : Bool) : Except InferenceFailure Unit :=
  let rangeEnd := if upperBoundInclusive then "]" else ")"
  require (0 ≤ dim.toInt && dim.toInt < upperBound + (if upperBoundInclusive then 1 else 0))
    (s!"Expects {dimName} to be in range [0, {upperBoundName}{rangeEnd} i.e. [0, " ++
      s!"{upperBound}{rangeEnd}. got: {dim}.")

/-- A dimension is that of a tensor of the rank. -/
def isDimInBounds (upperBound : Nat) (dim : Int64) : Bool :=
  0 ≤ dim.toInt && dim.toInt < (upperBound : Int)

/-- Check that dimensions are below the upper bound. -/
def checkDimsInBounds (dims : List Int64) (upperBound : Nat) (dimsName upperBoundName : String) :
    Except InferenceFailure Unit :=
  match dims.find? fun dim => !isDimInBounds upperBound dim with
  | none => .ok ()
  | some dim =>
    .error (.error (s!"Expects each element of {dimsName} to be in range [0, {upperBoundName}) " ++
      s!"i.e. [0, {upperBound}). got: {dim}."))

/-- The axes that verified dimensions stand for. -/
def axes (dims : List Int64) : List Nat := dims.map Int64.toNatClampNeg

section Checks

variable {dims : List Int64} {upperBound : Nat}

@[simp] theorem require_eq_ok {requirement : Bool} {message : String} :
    require requirement message = .ok () ↔ requirement = true := by
  unfold require
  split <;> simp_all

/-- A list has no duplicate when its numbers differ from those seen and from each other. -/
theorem firstDuplicate_eq_none {seen : List Int64} :
    firstDuplicate seen dims = none ↔ dims.Nodup ∧ ∀ dim ∈ dims, dim ∉ seen := by
  induction dims generalizing seen with
  | nil => simp [firstDuplicate]
  | cons dim dims ih =>
    rw [firstDuplicate]
    by_cases again : dim ∈ seen
    · -- The number itself is a duplicate.
      simp [again]
    · rw [if_neg (by simpa using again), ih, List.nodup_cons]
      constructor
      · rintro ⟨unique, fresh⟩
        refine ⟨⟨fun listed => fresh dim listed (by simp), unique⟩, ?_⟩
        intro other listed
        rcases List.mem_cons.mp listed with rfl | later
        · exact again
        · exact fun old => fresh other later (by simp [old])
      · rintro ⟨⟨own, unique⟩, fresh⟩
        refine ⟨unique, fun other listed => ?_⟩
        rw [List.mem_cons]
        rintro (rfl | old)
        · exact own listed
        · exact fresh other (by simp [listed]) old

theorem isUnique_iff : isUnique dims = true ↔ dims.Nodup := by
  rw [isUnique, Option.isNone_iff_eq_none, firstDuplicate_eq_none]
  simp

theorem checkDimsDistinct_eq_ok {lhsDims rhsDims : List Int64} {lhs rhs : String} :
    checkDimsDistinct lhsDims rhsDims lhs rhs = .ok () ↔ (lhsDims ++ rhsDims).Nodup := by
  have found := @firstDuplicate_eq_none (lhsDims ++ rhsDims) []
  unfold checkDimsDistinct
  split
  · next none => simpa using found.mp none
  · next dim some =>
    rw [some] at found
    simpa using found

theorem checkDimsInBounds_eq_ok {dimsName upperBoundName : String} :
    checkDimsInBounds dims upperBound dimsName upperBoundName = .ok () ↔
      ∀ dim ∈ dims, isDimInBounds upperBound dim = true := by
  unfold checkDimsInBounds
  split
  · next none => simpa using none
  · next dim some =>
    -- The dimension that was found is out of bounds.
    have out := List.find?_some some
    have listed := List.mem_of_find?_eq_some some
    simp only [reduceCtorEq, false_iff]
    intro all
    rw [all dim listed] at out
    cases out

/-- A dimension within an inclusive bound. -/
theorem checkDimInBounds_inclusive {dim : Int64} {upperBound : Nat}
    {dimName upperBoundName : String}
    (checked : checkDimInBounds dim upperBound dimName upperBoundName true = .ok ()) :
    0 ≤ dim.toInt ∧ dim.toInt ≤ upperBound := by
  simp only [checkDimInBounds, require_eq_ok, Bool.and_eq_true, decide_eq_true_eq] at checked
  simp only [if_true] at checked
  omega

/-- A dimension in bounds is the axis it stands for. -/
theorem toInt_of_isDimInBounds {dim : Int64} (inBounds : isDimInBounds upperBound dim = true) :
    dim.toInt = dim.toNatClampNeg ∧ dim.toNatClampNeg < upperBound := by
  simp only [isDimInBounds, Bool.and_eq_true, decide_eq_true_eq] at inBounds
  have nonneg : dim.toInt = dim.toNatClampNeg := by
    rw [Int64.toNatClampNeg]
    omega
  exact ⟨nonneg, by omega⟩

/-- Dimensions in bounds are determined by their axes. -/
theorem eq_of_toNatClampNeg_eq {first second : Int64}
    (firstInBounds : isDimInBounds upperBound first = true)
    (secondInBounds : isDimInBounds upperBound second = true)
    (same : first.toNatClampNeg = second.toNatClampNeg) : first = second := by
  have firstInt := (toInt_of_isDimInBounds firstInBounds).1
  have secondInt := (toInt_of_isDimInBounds secondInBounds).1
  rw [same, ← secondInt] at firstInt
  exact Int64.toInt_inj.mp firstInt

/-- Axes of dimensions in bounds are below the bound. -/
theorem axes_lt (inBounds : ∀ dim ∈ dims, isDimInBounds upperBound dim = true) {axis : Nat}
    (listed : axis ∈ axes dims) : axis < upperBound := by
  obtain ⟨dim, present, rfl⟩ := List.mem_map.mp listed
  exact (toInt_of_isDimInBounds (inBounds dim present)).2

/-- Distinct dimensions in bounds stand for distinct axes. -/
theorem nodup_axes (unique : dims.Nodup)
    (inBounds : ∀ dim ∈ dims, isDimInBounds upperBound dim = true) : (axes dims).Nodup := by
  refine (List.nodup_map_iff_inj_on unique).mpr fun first firstListed second secondListed same => ?_
  exact eq_of_toNatClampNeg_eq (inBounds first firstListed) (inBounds second secondListed) same

/-- Dimensions in bounds are compared by the axes they stand for. -/
theorem toInt_beq_natCast (inBounds : ∀ dim ∈ dims, isDimInBounds upperBound dim = true)
    {dim : Int64} (member : dim ∈ dims) (axis : Nat) :
    (dim.toInt == (axis : Int)) = (dim.toNatClampNeg == axis) := by
  obtain ⟨same, -⟩ := toInt_of_isDimInBounds (inBounds dim member)
  rw [same, Bool.eq_iff_iff, beq_iff_eq, beq_iff_eq]
  omega

/-- A dimension is listed when its axis is. -/
theorem any_toInt_beq (inBounds : ∀ dim ∈ dims, isDimInBounds upperBound dim = true) (axis : Nat) :
    dims.any (fun dim => dim.toInt == (axis : Int)) = (axes dims).contains axis := by
  rw [List.contains_eq_any_beq, axes, List.any_map, Bool.eq_iff_iff, List.any_eq_true,
    List.any_eq_true]
  -- The dimensions that are compared are the same on both sides.
  refine exists_congr fun dim => and_congr_right fun member => ?_
  rw [toInt_beq_natCast inBounds member, Function.comp_apply, Bool.beq_comm]

/-- A dimension is found where its axis is. -/
theorem findIdx?_toInt_beq (inBounds : ∀ dim ∈ dims, isDimInBounds upperBound dim = true)
    (axis : Nat) :
    dims.findIdx? (fun dim => dim.toInt == (axis : Int)) = (axes dims).idxOf? axis := by
  rw [List.idxOf?, axes, List.findIdx?_map]
  induction dims with
  | nil => rfl
  | cons dim dims ih =>
    have first := toInt_beq_natCast inBounds (List.mem_cons_self) axis
    rw [List.findIdx?_cons, List.findIdx?_cons, first,
      ih fun other member => inBounds other (List.mem_cons_of_mem _ member)]
    rfl

@[simp] theorem axes_append (first second : List Int64) :
    axes (first ++ second) = axes first ++ axes second := List.map_append

@[simp] theorem length_axes (dims : List Int64) : (axes dims).length = dims.length :=
  List.length_map _

/-- Sorted numbers are at most those behind them. -/
theorem pairwise_of_isSorted {nums : List Int64} (sorted : isSorted nums = true) :
    nums.Pairwise (·.toInt ≤ ·.toInt) := by
  -- The order is transitive, so that neighbours are enough.
  have transitive : IsTrans Int64 (·.toInt ≤ ·.toInt) := ⟨fun _ _ _ => Int.le_trans⟩
  rw [← List.isChain_iff_pairwise]
  induction nums with
  | nil => exact .nil
  | cons first nums ih =>
    cases nums with
    | nil => exact .singleton _
    | cons second nums =>
      unfold isSorted at sorted
      rw [List.tail_cons, List.zip_cons_cons, List.all_cons, Bool.and_eq_true,
        decide_eq_true_eq, Int64.le_iff_toInt_le] at sorted
      exact .cons_cons sorted.1 (ih sorted.2)

/-- Sorted dimensions that are all those below the rank are in order. -/
theorem axes_eq_range {dims : List Int64} {rank : Nat} (sorted : isSorted dims = true)
    (unique : (axes dims).Nodup) (below : ∀ dim ∈ dims, isDimInBounds rank dim = true)
    (count : dims.length = rank) : axes dims = List.range rank := by
  have inside : ∀ axis ∈ axes dims, axis < rank := fun axis listed => axes_lt below listed
  -- As many different numbers below the rank are all of them.
  have every : (axes dims).Perm (List.range rank) := by
    refine List.Subperm.perm_of_length_le (List.subperm_of_subset unique ?_) ?_
    · intro axis listed
      exact List.mem_range.mpr (inside axis listed)
    · rw [length_axes, List.length_range]
      omega
  have ordered : (axes dims).Pairwise (· ≤ ·) := by
    rw [axes, List.pairwise_map]
    refine (pairwise_of_isSorted sorted).imp_of_mem fun {first second} firstListed secondListed
      le => ?_
    have firstValue := (toInt_of_isDimInBounds (below first firstListed)).1
    have secondValue := (toInt_of_isDimInBounds (below second secondListed)).1
    omega
  exact every.eq_of_pairwise' ordered List.pairwise_le_range

end Checks

end Stablehlo
