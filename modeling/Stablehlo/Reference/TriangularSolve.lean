import Stablehlo.Dialect.Enums
import Stablehlo.Dialect.TriangularSolve
import Stablehlo.Support.Substitution

/-! Solving systems of linear equations with triangular coefficients, in loops. -/

namespace Stablehlo

/-- How the storage of a new tensor of a shape is obtained, whatever it holds. -/
structure Storage (α : Type) where
  allocate : Sizes → Tensor α
  shape_allocate : ∀ shape, (allocate shape).shape = shape

/-- The type is one of complex numbers. -/
def isComplexType : StablehloType → Bool
  | .complex _ => true
  | _ => false

section Tensors

variable {α : Type}

/-- Move each element of the operand to the index with its coordinates in the order of the
permutation. -/
def transposeOp (storage : Storage α) (operand : Tensor α) (permutation : List Nat)
    (resultShape : Sizes) : Except Failure (Tensor α) :=
  (indexSpace operand.shape).foldlM (fun result operandIndex => do
    let element ← operand.get operandIndex
    result.set (permutation.map fun axis => operandIndex.getD axis 0) element)
    (storage.allocate resultShape)

/-- Conjugate each element of a tensor of complex numbers. -/
def conjugate (elementType : StablehloType) (conj : α → α) (operand : Tensor α) :
    Except Failure (Tensor α) :=
  if isComplexType elementType then
    Tensor.build operand.shape fun index => do
      let element ← operand.get index
      .ok (conj element)
  else
    -- The source casts the element type to a complex one.
    .error .undefinedBehavior

/-- The matrix is transposed, by itself or with its elements conjugated. -/
def isTransposed (transposeA : Transpose) : Bool :=
  transposeA = .transpose || transposeA = .adjoint

/-- The axes of a tensor, of which the last two change places. -/
def swappedAxes (rank : Nat) : List Nat :=
  ((List.range rank).set (rank - 1) (rank - 2)).set (rank - 2) (rank - 1)

end Tensors

/-- What the loops of a solution read. -/
structure SolveLoops (K : Type) where
  tA : Tensor K
  b : Tensor K
  rank : Nat
  n : Nat
  leftSide : Bool
  lower : Bool
  unitDiagonal : Bool

namespace SolveLoops

variable {K : Type} [Field K] (loops : SolveLoops K)

/-- The axis along which the equations of a system are. -/
def dimI : Nat := if loops.leftSide then loops.rank - 2 else loops.rank - 1

/-- The axis along which the unknowns of an equation are. -/
def dimK : Nat := if loops.leftSide then loops.rank - 1 else loops.rank - 2

/-- The loops count down. -/
def backward : Bool := loops.leftSide ^^ loops.lower

/-- The index with the coordinates along the axes of the matrices of a batch. -/
def matrixIndex (batchIndex : Index) (i k : Nat) : Index :=
  ((batchIndex ++ List.replicate (loops.rank - batchIndex.length) 0).set loops.dimK k).set
    loops.dimI i

/-- The equations, in the order of the loop over them. -/
def rows : List Nat :=
  if loops.backward then (List.range loops.n).reverse else List.range loops.n

/-- The unknowns that the inner loop goes over for an equation. -/
def before (i : Nat) : List Nat :=
  loops.rows.takeWhile fun j => if loops.backward then i < j else j < i

/-- Eliminate an unknown that is solved. -/
def eliminate (batchIndex : Index) (result : Tensor K) (i k : Nat) (x : K) (j : Nat) :
    Except Failure K := do
  let a ← loops.tA.get (loops.matrixIndex batchIndex i j)
  let xj ← result.get (loops.matrixIndex batchIndex j k)
  .ok (x - a * xj)

/-- Divide by the coefficient of the unknown that is left. -/
def normalize (i : Nat) (x : K) : Except Failure K :=
  if loops.unitDiagonal then
    .ok x
  else do
    let a ← loops.tA.get [i, i]
    .ok (x / a)

/-- Solve an equation. -/
def solveElement (batchIndex : Index) (k : Nat) (result : Tensor K) (i : Nat) :
    Except Failure (Tensor K) := do
  let constant ← loops.b.get (loops.matrixIndex batchIndex i k)
  let eliminated ← (loops.before i).foldlM (loops.eliminate batchIndex result i k) constant
  let x ← loops.normalize i eliminated
  result.set (loops.matrixIndex batchIndex i k) x

/-- Solve a system of equations. -/
def solveColumn (batchIndex : Index) (result : Tensor K) (k : Nat) : Except Failure (Tensor K) :=
  loops.rows.foldlM (loops.solveElement batchIndex k) result

/-- Solve the systems of a batch. -/
def solveBatch (sizeK : Nat) (result : Tensor K) (batchIndex : Index) :
    Except Failure (Tensor K) :=
  (List.range sizeK).foldlM (loops.solveColumn batchIndex) result

end SolveLoops

section Solution

variable {K : Type} (storage : Storage K) (elementType : StablehloType) (conj : K → K)
  (a b : Tensor K) (leftSide lower unitDiagonal : Bool) (transposeA : Transpose)

/-- The coefficients, transposed and conjugated as named. -/
def transposedOperand : Except Failure (Tensor K) := do
  let tA ← if isTransposed transposeA then
    transposeOp storage a (swappedAxes a.shape.length) a.shape
  else
    .ok a
  if transposeA = .adjoint then conjugate elementType conj tA else .ok tA

/-- The loops over coefficients that were prepared. -/
def solveLoops (tA : Tensor K) : SolveLoops K where
  tA
  b
  rank := a.shape.length
  n := a.shape.getD (a.shape.length - 1) 0
  leftSide
  -- The other triangle is solved after the coefficients have been transposed.
  lower := lower ^^ isTransposed transposeA
  unitDiagonal

/-- Solve systems of equations with triangular coefficients. -/
def triangularSolveOp [Field K] (resultShape : Sizes) : Except Failure (Tensor K) := do
  let tA ← transposedOperand storage elementType conj a transposeA
  let loops := solveLoops a b leftSide lower unitDiagonal transposeA tA
  let sizeK := b.shape.getD loops.dimK 0
  let batchShape := resultShape.take (a.shape.length - 2)
  (indexSpace batchShape).foldlM (loops.solveBatch sizeK) (storage.allocate resultShape)

end Solution

namespace SolveLoops

section Order

/-- A loop that stops at the first item without a property goes over all items with it, when no
item behind one without it has it. -/
theorem takeWhile_eq_filter {α : Type} {property : α → Bool} {items : List α}
    (ordered : items.Pairwise fun first second => property second = true → property first = true) :
    items.takeWhile property = items.filter property := by
  induction items with
  | nil => rfl
  | cons item items ih =>
    rw [List.pairwise_cons] at ordered
    by_cases holds : property item = true
    · rw [List.takeWhile_cons, if_pos holds, List.filter_cons_of_pos holds, ih ordered.2]
    · rw [List.takeWhile_cons, if_neg holds, List.filter_cons_of_neg holds]
      exact (List.filter_eq_nil_iff.mpr fun other listed has =>
        holds (ordered.1 other listed has)).symm

/-- A loop that stops at an item goes over items in front of it. -/
theorem mem_of_mem_takeWhile {α : Type} {property : α → Bool} {front rest : List α} {stop item : α}
    (stops : property stop = false)
    (listed : item ∈ (front ++ stop :: rest).takeWhile property) : item ∈ front := by
  induction front with
  | nil =>
    rw [List.nil_append, List.takeWhile_cons, stops] at listed
    cases listed
  | cons first front ih =>
    rw [List.cons_append, List.takeWhile_cons] at listed
    split at listed
    · rcases List.mem_cons.mp listed with rfl | later
      · exact List.mem_cons_self
      · exact List.mem_cons_of_mem _ (ih later)
    · cases listed

variable {K : Type} {loops : SolveLoops K} {i j k : Nat}

/-- Each equation is solved. -/
theorem mem_rows : i ∈ loops.rows ↔ i < loops.n := by
  unfold rows
  split <;> simp

/-- Each equation is solved once. -/
theorem nodup_rows : loops.rows.Nodup := by
  unfold rows
  split
  · exact List.nodup_reverse.mpr List.nodup_range
  · exact List.nodup_range

/-- The inner loop goes over the unknowns on one side of the equation. -/
theorem before_eq : loops.before i =
    loops.rows.filter fun j => if loops.backward then i < j else j < i := by
  refine takeWhile_eq_filter ?_
  unfold rows
  cases loops.backward with
  | true =>
    -- Counting down, smaller numbers are behind larger ones.
    refine List.pairwise_reverse.mpr
      (List.pairwise_lt_range.imp fun {first second} less below => ?_)
    simp only [if_true, decide_eq_true_eq] at below ⊢
    omega
  | false =>
    refine List.pairwise_lt_range.imp fun {first second} less below => ?_
    simp only [Bool.false_eq_true, if_false, decide_eq_true_eq] at below ⊢
    omega

/-- The inner loop goes over the unknowns on one side of the equation. -/
theorem mem_before : j ∈ loops.before i ↔
    j < loops.n ∧ if loops.backward then i < j else j < i := by
  rw [before_eq, List.mem_filter, mem_rows]
  split <;> simp

/-- The inner loop goes over unknowns that have been solved. -/
theorem mem_of_mem_before {done rest : List Nat} (split : loops.rows = done ++ i :: rest)
    (listed : j ∈ loops.before i) : j ∈ done := by
  unfold before at listed
  rw [split] at listed
  refine mem_of_mem_takeWhile ?_ listed
  split <;> simp

end Order

end SolveLoops

section Entries

variable {K : Type} [Field K] {tensor : Tensor K} {index : Index}

/-- The element at an index, or zero where there is none. -/
def Tensor.entry (tensor : Tensor K) (index : Index) : K :=
  match tensor.get index with
  | .ok element => element
  | .error _ => 0

/-- Elements in bounds are read. -/
theorem Tensor.get_eq_entry (within : MixedRadix.Within tensor.shape index) :
    tensor.get index = .ok (tensor.entry index) := by
  obtain ⟨element, got, -⟩ := Tensor.get_eq within
  rw [Tensor.entry, got]

/-- There is no element out of bounds. -/
theorem Tensor.entry_eq_zero (outside : ¬ MixedRadix.Within tensor.shape index) :
    tensor.entry index = 0 := by
  rw [Tensor.entry]
  split
  · next got => exact absurd (Tensor.within_of_get got) outside
  · rfl

/-- Indices of the same element have the same entry. -/
theorem Tensor.entry_congr {other : Tensor K} {place : Index}
    (same : other.get place = tensor.get index) : other.entry place = tensor.entry index := by
  rw [Tensor.entry, Tensor.entry, same]

end Entries

namespace SolveLoops

section Run

variable {K : Type} {loops : SolveLoops K} {batchShape : Sizes} {m : Nat} {batchIndex : Index}
  {i j k : Nat}

/-- The shape of matrices with the coordinate of an equation, and the other one, on their sides. -/
def sided (loops : SolveLoops K) (i k : Nat) : List Nat :=
  if loops.leftSide then [i, k] else [k, i]

/-- The coordinates of a batch are in front of those of its matrices. -/
theorem matrixIndex_eq (rank : loops.rank = batchIndex.length + 2) :
    loops.matrixIndex batchIndex i k = batchIndex ++ loops.sided i k := by
  have zeros : List.replicate (loops.rank - batchIndex.length) 0 = [0, 0] := by
    rw [rank, Nat.add_sub_cancel_left]
    rfl
  rw [matrixIndex, zeros, dimI, dimK, sided, rank]
  cases loops.leftSide <;> simp

/-- Coordinates of a batch and of its matrices are those of an index when they are in bounds. -/
theorem within_sided_iff {n m : Nat} (within : MixedRadix.Within batchShape batchIndex) :
    MixedRadix.Within (batchShape ++ loops.sided n m) (batchIndex ++ loops.sided i k) ↔
      i < n ∧ k < m := by
  have sides : MixedRadix.Within (loops.sided n m) (loops.sided i k) ↔ i < n ∧ k < m := by
    unfold sided
    split
    · simp
    · simp [and_comm]
  rw [← sides]
  refine ⟨fun both => ?_, fun side => List.rel_append within side⟩
  -- The coordinates behind those of the batch are the sides.
  have behind := List.forall₂_drop_append _ _ _ both
  rwa [← within.length_eq, List.drop_left] at behind

/-- Different equations have different coordinates. -/
theorem sided_injective {batchIndex otherBatch : Index} {otherI otherK : Nat}
    (length : batchIndex.length = otherBatch.length)
    (same : batchIndex ++ loops.sided i k = otherBatch ++ loops.sided otherI otherK) :
    batchIndex = otherBatch ∧ i = otherI ∧ k = otherK := by
  obtain ⟨batches, sides⟩ := List.append_inj same length
  unfold sided at sides
  split at sides
  · simp only [List.cons.injEq, and_true] at sides
    exact ⟨batches, sides.1, sides.2⟩
  · simp only [List.cons.injEq, and_true] at sides
    exact ⟨batches, sides.2, sides.1⟩

variable [Field K] {result : Tensor K}

/-- The operands fit, and there is a coefficient to divide by for each unknown. -/
structure Solvable (loops : SolveLoops K) (batchShape : Sizes) (m : Nat) : Prop where
  rank : loops.rank = batchShape.length + 2
  coefficients : loops.tA.shape = batchShape ++ [loops.n, loops.n]
  constants : loops.b.shape = batchShape ++ loops.sided loops.n m
  diagonal : loops.unitDiagonal = false → batchShape = [] ∨ 0 ∈ loops.b.shape
  nonzero : loops.unitDiagonal = false → ∀ batchIndex, MixedRadix.Within batchShape batchIndex →
    ∀ i < loops.n, loops.tA.entry (batchIndex ++ [i, i]) ≠ 0

/-- The equations of a system. -/
def system (loops : SolveLoops K) (batchIndex : Index) (k : Nat) : Substitution.System K Nat where
  rows := loops.rows
  before := loops.before
  coefficient i j := loops.tA.entry (batchIndex ++ loops.sided i j)
  diagonal i := if loops.unitDiagonal then 1 else loops.tA.entry (batchIndex ++ [i, i])
  constant i := loops.b.entry (batchIndex ++ loops.sided i k)

/-- The equations of a system can be solved in the order of the loop. -/
theorem Solvable.ordered (solvable : loops.Solvable batchShape m)
    (within : MixedRadix.Within batchShape batchIndex) (k : Nat) :
    (loops.system batchIndex k).Ordered where
  nodup := nodup_rows
  earlier _ _ _ split _ listed := mem_of_mem_before split listed
  nonzero i listed := by
    show (if loops.unitDiagonal then 1 else _) ≠ 0
    split
    · exact one_ne_zero
    · next dividing =>
      exact solvable.nonzero (by simpa using dividing) batchIndex within i (mem_rows.mp listed)

/-- The unknowns of a system, as they are held by a tensor. -/
def unknowns (loops : SolveLoops K) (batchIndex : Index) (k : Nat) (result : Tensor K) (j : Nat) :
    K :=
  result.entry (batchIndex ++ loops.sided j k)

/-- Solving an equation replaces its unknown, and no other element. -/
theorem solveElement_eq (solvable : loops.Solvable batchShape m)
    (within : MixedRadix.Within batchShape batchIndex) (shape : result.shape = loops.b.shape)
    (row : i < loops.n) (column : k < m) :
    ∃ next, loops.solveElement batchIndex k result i = .ok next ∧ next.shape = loops.b.shape ∧
      loops.unknowns batchIndex k next =
        (loops.system batchIndex k).solveRow (loops.unknowns batchIndex k result) i ∧
      ∀ other, MixedRadix.Within loops.b.shape other → other ≠ batchIndex ++ loops.sided i k →
        next.get other = result.get other := by
  have rank : loops.rank = batchIndex.length + 2 := by rw [solvable.rank, within.length_eq]
  have place (j : Nat) (below : j < loops.n) :
      MixedRadix.Within loops.b.shape (batchIndex ++ loops.sided j k) := by
    rw [solvable.constants]
    exact (within_sided_iff within).mpr ⟨below, column⟩
  -- The unknowns that are solved are eliminated one after the other.
  have eliminated : (loops.before i).foldlM (loops.eliminate batchIndex result i k)
      (loops.b.entry (batchIndex ++ loops.sided i k)) =
        .ok ((loops.system batchIndex k).remainder (loops.unknowns batchIndex k result) i) := by
    have step : ∀ unknowns : List Nat, (∀ j ∈ unknowns, j < loops.n) → ∀ x : K,
        unknowns.foldlM (loops.eliminate batchIndex result i k) x =
          .ok (unknowns.foldl (fun value j => value -
            loops.tA.entry (batchIndex ++ loops.sided i j) *
              result.entry (batchIndex ++ loops.sided j k)) x) := by
      intro unknowns
      induction unknowns with
      | nil => exact fun _ _ => rfl
      | cons j unknowns ih =>
        intro bounded x
        rw [List.forall_mem_cons] at bounded
        have coefficient : MixedRadix.Within loops.tA.shape (batchIndex ++ loops.sided i j) := by
          have square : loops.sided loops.n loops.n = [loops.n, loops.n] := by
            unfold sided
            split <;> rfl
          rw [solvable.coefficients, ← square]
          exact (within_sided_iff within).mpr ⟨row, bounded.1⟩
        rw [List.foldlM_cons, eliminate, matrixIndex_eq rank, matrixIndex_eq rank,
          Tensor.get_eq_entry coefficient, Fallible.ok_bind,
          Tensor.get_eq_entry (shape ▸ place j bounded.1), Fallible.ok_bind, Fallible.ok_bind]
        exact ih bounded.2 _
    exact step _ (fun j listed => (mem_before.mp listed).1) _
  have normalized (x : K) : loops.normalize i x =
      .ok (x / (loops.system batchIndex k).diagonal i) := by
    show _ = Except.ok (x / if loops.unitDiagonal then 1 else _)
    unfold normalize
    cases unit : loops.unitDiagonal with
    | true =>
      rw [if_pos rfl, if_pos rfl, div_one]
    | false =>
      -- Without batches, the index is the one of the diagonal.
      have empty := (solvable.diagonal unit).resolve_right
        (MixedRadix.exists_within_iff.mp ⟨_, place i row⟩)
      subst empty
      cases within
      have diagonal : MixedRadix.Within loops.tA.shape [i, i] := by
        rw [solvable.coefficients]
        exact .cons row (.cons row .nil)
      rw [if_neg Bool.false_ne_true, if_neg Bool.false_ne_true, Tensor.get_eq_entry diagonal]
      rfl
  obtain ⟨next, set, nextShape, others⟩ := Tensor.get_set (shape ▸ place i row)
    ((loops.system batchIndex k).remainder (loops.unknowns batchIndex k result) i /
      (loops.system batchIndex k).diagonal i)
  refine ⟨next, ?_, nextShape.trans shape, ?_, fun other otherWithin different => ?_⟩
  · rw [solveElement, matrixIndex_eq rank, Tensor.get_eq_entry (place i row), Fallible.ok_bind,
      eliminated, Fallible.ok_bind, normalized, Fallible.ok_bind, set]
  · funext j
    rw [Substitution.System.solveRow]
    by_cases same : j = i
    · subst same
      rw [Function.update_self, unknowns, Tensor.entry, others _ (shape ▸ place j row), if_pos rfl]
    · rw [Function.update_of_ne same]
      by_cases below : j < loops.n
      · refine Tensor.entry_congr ?_
        rw [others _ (shape ▸ place j below), if_neg]
        exact fun equal => same (sided_injective rfl equal).2.1
      · -- There is no such unknown, before or after.
        have outside : ¬ MixedRadix.Within loops.b.shape (batchIndex ++ loops.sided j k) := by
          rw [solvable.constants, within_sided_iff within]
          exact fun both => below both.1
        rw [unknowns, unknowns, Tensor.entry_eq_zero (by rwa [nextShape, shape]),
          Tensor.entry_eq_zero (by rwa [shape])]
  · rw [others other (shape ▸ otherWithin), if_neg different]

/-- All equations of a system hold. -/
def ColumnHolds (loops : SolveLoops K) (batchIndex : Index) (k : Nat) (result : Tensor K) : Prop :=
  ∀ i < loops.n, (loops.system batchIndex k).Holds (loops.unknowns batchIndex k result) i

/-- Whether the equations of a system hold depends only on its unknowns. -/
theorem ColumnHolds.congr {other : Tensor K} (holds : loops.ColumnHolds batchIndex k result)
    (same : ∀ i < loops.n, other.get (batchIndex ++ loops.sided i k) =
      result.get (batchIndex ++ loops.sided i k)) : loops.ColumnHolds batchIndex k other :=
  fun i row => (holds i row).congr (Tensor.entry_congr (same i row)) fun j listed =>
    Tensor.entry_congr (same j (mem_before.mp listed).1)

/-- Solving a system changes the elements for its unknowns, so that its equations hold. -/
theorem solveColumn_eq (solvable : loops.Solvable batchShape m)
    (within : MixedRadix.Within batchShape batchIndex) (shape : result.shape = loops.b.shape)
    (column : k < m) :
    ∃ next, loops.solveColumn batchIndex result k = .ok next ∧ next.shape = loops.b.shape ∧
      loops.ColumnHolds batchIndex k next ∧
      ∀ other, MixedRadix.Within loops.b.shape other →
        (∀ i < loops.n, other ≠ batchIndex ++ loops.sided i k) →
          next.get other = result.get other := by
  -- The loop turns the unknowns into those of the fold over the equations.
  have loop : ∀ rows : List Nat, (∀ i ∈ rows, i < loops.n) → ∀ result : Tensor K,
      result.shape = loops.b.shape →
      ∃ next, rows.foldlM (loops.solveElement batchIndex k) result = .ok next ∧
        next.shape = loops.b.shape ∧
        loops.unknowns batchIndex k next =
          rows.foldl (loops.system batchIndex k).solveRow (loops.unknowns batchIndex k result) ∧
        ∀ other, MixedRadix.Within loops.b.shape other →
          (∀ i < loops.n, other ≠ batchIndex ++ loops.sided i k) →
            next.get other = result.get other := by
    intro rows
    induction rows with
    | nil => exact fun _ result shape => ⟨result, rfl, shape, rfl, fun _ _ _ => rfl⟩
    | cons i rows ih =>
      intro bounded result shape
      rw [List.forall_mem_cons] at bounded
      obtain ⟨next, stepped, nextShape, unknown, kept⟩ :=
        solveElement_eq solvable within shape bounded.1 column
      obtain ⟨final, run, finalShape, unknowns, frame⟩ := ih bounded.2 next nextShape
      refine ⟨final, ?_, finalShape, ?_, fun other otherWithin different => ?_⟩
      · rw [List.foldlM_cons, stepped, Fallible.ok_bind, run]
      · rw [unknowns, unknown, List.foldl_cons]
      · rw [frame other otherWithin different, kept other otherWithin (different i bounded.1)]
  obtain ⟨next, run, nextShape, unknowns, frame⟩ :=
    loop loops.rows (fun i listed => mem_rows.mp listed) result shape
  refine ⟨next, run, nextShape, fun i row => ?_, frame⟩
  rw [unknowns]
  exact Substitution.System.holds_of_solved (solvable.ordered within k) i (mem_rows.mpr row)

/-- Solving the systems of a batch changes its elements, so that all equations hold. -/
theorem solveBatch_eq (solvable : loops.Solvable batchShape m)
    (within : MixedRadix.Within batchShape batchIndex) (shape : result.shape = loops.b.shape) :
    ∃ next, loops.solveBatch m result batchIndex = .ok next ∧ next.shape = loops.b.shape ∧
      (∀ k < m, loops.ColumnHolds batchIndex k next) ∧
      ∀ other, MixedRadix.Within loops.b.shape other →
        (∀ i < loops.n, ∀ k < m, other ≠ batchIndex ++ loops.sided i k) →
          next.get other = result.get other := by
  -- Systems that are solved are not changed by those that come later.
  have loop : ∀ count ≤ m, ∃ next,
      (List.range count).foldlM (loops.solveColumn batchIndex) result = .ok next ∧
        next.shape = loops.b.shape ∧ (∀ k < count, loops.ColumnHolds batchIndex k next) ∧
        ∀ other, MixedRadix.Within loops.b.shape other →
          (∀ i < loops.n, ∀ k < m, other ≠ batchIndex ++ loops.sided i k) →
            next.get other = result.get other := by
    intro count
    induction count with
    | zero => exact fun _ => ⟨result, rfl, shape, nofun, fun _ _ _ => rfl⟩
    | succ count ih =>
      intro most
      obtain ⟨before, run, beforeShape, solved, frame⟩ := ih (by omega)
      obtain ⟨next, stepped, nextShape, holds, kept⟩ :=
        solveColumn_eq solvable within beforeShape (show count < m by omega)
      refine ⟨next, ?_, nextShape, fun k below => ?_, fun other otherWithin different => ?_⟩
      · rw [List.range_succ, List.foldlM_append, run, Fallible.ok_bind, List.foldlM_cons, stepped]
        rfl
      · rcases Nat.lt_succ_iff_lt_or_eq.mp below with earlier | rfl
        · refine (solved k earlier).congr fun i row => kept _ ?_ fun j _ same => ?_
          · rw [solvable.constants]
            exact (within_sided_iff within).mpr ⟨row, by omega⟩
          · have column := (sided_injective rfl same).2.2
            omega
        · exact holds
      · rw [kept other otherWithin fun i row => different i row count (by omega),
          frame other otherWithin different]
  exact loop m (Nat.le_refl m)

/-- Solving the systems of all batches makes all equations hold. -/
theorem solveBatches_eq (solvable : loops.Solvable batchShape m)
    (shape : result.shape = loops.b.shape) :
    ∃ final, (indexSpace batchShape).foldlM (loops.solveBatch m) result = .ok final ∧
      final.shape = loops.b.shape ∧
      ∀ batchIndex, MixedRadix.Within batchShape batchIndex → ∀ k < m,
        loops.ColumnHolds batchIndex k final := by
  have inside (batchIndex : Index) (listed : batchIndex ∈ indexSpace batchShape) :
      MixedRadix.Within batchShape batchIndex := MixedRadix.mem_all.mp listed
  have preserved : ∀ batchIndex ∈ indexSpace batchShape, ∀ state next,
      state.shape = loops.b.shape → loops.solveBatch m state batchIndex = .ok next →
        next.shape = loops.b.shape := by
    intro batchIndex listed state next stateShape stepped
    obtain ⟨other, run, otherShape, -⟩ := solveBatch_eq solvable (inside _ listed) stateShape
    rw [stepped, Except.ok.injEq] at run
    rw [run, otherShape]
  obtain ⟨final, run, finalShape⟩ := @Fallible.foldlM_succeeds _ _ _ (loops.solveBatch m)
    (indexSpace batchShape) (fun state => state.shape = loops.b.shape)
    (fun batchIndex listed state stateShape => by
      obtain ⟨next, stepped, nextShape, -⟩ := solveBatch_eq solvable (inside _ listed) stateShape
      exact ⟨next, stepped, nextShape⟩) result shape
  refine ⟨final, run, finalShape, fun batchIndex within => ?_⟩
  -- The turn for a batch solves its systems, and the others leave them as they are.
  refine @Fallible.foldlM_establishes _ _ _ (loops.solveBatch m) (indexSpace batchShape)
    (fun state => state.shape = loops.b.shape)
    (fun state => ∀ k < m, loops.ColumnHolds batchIndex k state) batchIndex preserved ?_ ?_ result
    final shape run (MixedRadix.mem_all.mpr within)
  · intro other listed state next stateShape solved stepped k column
    obtain ⟨again, rerun, -, holds, kept⟩ := solveBatch_eq solvable (inside _ listed) stateShape
    rw [stepped, Except.ok.injEq] at rerun
    subst rerun
    by_cases same : other = batchIndex
    · exact same ▸ holds k column
    · refine (solved k column).congr fun i row => kept _ ?_ fun j _ l _ equal => ?_
      · rw [solvable.constants]
        exact (within_sided_iff within).mpr ⟨row, column⟩
      · refine same (sided_injective ?_ equal).1.symm
        rw [within.length_eq, (inside _ listed).length_eq]
  · intro state next stateShape stepped
    obtain ⟨again, rerun, -, holds, -⟩ := solveBatch_eq solvable within stateShape
    rw [stepped, Except.ok.injEq] at rerun
    exact rerun ▸ holds

end Run

end SolveLoops

end Stablehlo
