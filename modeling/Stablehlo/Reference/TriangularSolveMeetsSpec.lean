import Mathlib.LinearAlgebra.Matrix.Block
import Mathlib.LinearAlgebra.Matrix.NonsingularInverse
import Stablehlo.Reference.TriangularSolve

/-! Solved systems of linear equations with triangular coefficients, as products of matrices. -/

namespace Stablehlo

section Specification

variable {K : Type} [Field K]

/-- The matrix of a batch. -/
def Tensor.matrixAt (tensor : Tensor K) (batchIndex : Index) (rows columns : Nat) :
    Matrix (Fin rows) (Fin columns) K :=
  fun i j => tensor.entry (batchIndex ++ [i.val, j.val])

/-- The triangle of a matrix, with ones on its diagonal or with those of the matrix. -/
def triangleOf (lower unitDiagonal : Bool) {n : Nat} (matrix : Matrix (Fin n) (Fin n) K) :
    Matrix (Fin n) (Fin n) K :=
  fun i j =>
    if i = j then
      if unitDiagonal then 1 else matrix i j
    else if (if lower then j < i else i < j) then
      matrix i j
    else
      0

/-- The matrix, its transpose, or the conjugate of that. -/
def opOf (transposeA : Transpose) (conj : K → K) {n : Nat} (matrix : Matrix (Fin n) (Fin n) K) :
    Matrix (Fin n) (Fin n) K :=
  match transposeA with
  | .transpose => matrix.transpose
  | .adjoint => matrix.transpose.map conj
  | _ => matrix

/-- In a batch, the product of the coefficients and the unknowns, on the named side of them, are the
constants. -/
def IsSolution (leftSide : Bool) {n : Nat} (coefficients : Matrix (Fin n) (Fin n) K)
    (x b : Tensor K) (batchIndex : Index) (m : Nat) : Prop :=
  if leftSide then
    coefficients * x.matrixAt batchIndex n m = b.matrixAt batchIndex n m
  else
    x.matrixAt batchIndex m n * coefficients = b.matrixAt batchIndex m n

/-- Solutions for operands of the shapes are those of the specification: the products with the
triangles are the constants, and what is outside of the triangles does not matter. -/
def TriangularSolveMeetsSpec (elementType : StablehloType) (leftSide lower unitDiagonal : Bool)
    (transposeA : Transpose) (batchShape : Sizes) (n m : Nat) : Prop :=
  ∀ (K : Type) (_ : Field K) (storage : Storage K) (conj : K →+* K) (a b : Tensor K),
    a.shape = batchShape ++ [n, n] →
    b.shape = batchShape ++ (if leftSide then [n, m] else [m, n]) →
    (unitDiagonal = false → ∀ batchIndex, MixedRadix.Within batchShape batchIndex → ∀ i,
      a.matrixAt batchIndex n n i i ≠ 0) → ∃ result,
    triangularSolveOp storage elementType conj a b leftSide lower unitDiagonal transposeA b.shape =
        .ok result ∧
      result.shape = b.shape ∧
      (∀ batchIndex, MixedRadix.Within batchShape batchIndex →
        IsSolution leftSide
          (opOf transposeA conj (triangleOf lower unitDiagonal (a.matrixAt batchIndex n n)))
          result b batchIndex m) ∧
      ∀ other : Tensor K, other.shape = a.shape →
        (∀ batchIndex, MixedRadix.Within batchShape batchIndex →
          triangleOf lower unitDiagonal (other.matrixAt batchIndex n n) =
            triangleOf lower unitDiagonal (a.matrixAt batchIndex n n)) →
        triangularSolveOp storage elementType conj other b leftSide lower unitDiagonal transposeA
          b.shape = .ok result

end Specification

section Transposition

variable {α : Type}

/-- The last two axes change places. -/
theorem swappedAxes_eq (count : Nat) :
    swappedAxes (count + 2) = List.range count ++ [count + 1, count] := by
  have range : List.range (count + 2) = List.range count ++ [count, count + 1] := by
    rw [List.range_succ, List.range_succ, List.append_assoc]
    rfl
  rw [swappedAxes, range]
  simp

/-- Coordinates in the order of the axes, of which the last two change places. -/
theorem map_swappedAxes (batchIndex : Index) (i j : Nat) :
    (swappedAxes (batchIndex.length + 2)).map
      (fun axis => (batchIndex ++ [i, j]).getD axis 0) = batchIndex ++ [j, i] := by
  have front : (List.range batchIndex.length).map
      (fun axis => (batchIndex ++ [i, j]).getD axis 0) = batchIndex := by
    refine List.ext_getElem (by simp) fun axis below _ => ?_
    rw [List.length_map, List.length_range] at below
    simp [List.getD, List.getElem?_append_left below, List.getElem?_eq_getElem below]
  rw [swappedAxes_eq, List.map_append, front]
  simp

/-- The coordinates of a batch and of its matrices. -/
theorem within_pair_iff {batchShape batchIndex : Index} {rows columns i j : Nat}
    (within : MixedRadix.Within batchShape batchIndex) :
    MixedRadix.Within (batchShape ++ [rows, columns]) (batchIndex ++ [i, j]) ↔
      i < rows ∧ j < columns := by
  refine ⟨fun both => ?_, fun below =>
    List.rel_append within (.cons below.1 (.cons below.2 .nil))⟩
  -- The coordinates behind those of the batch are those of the matrix.
  have behind := List.forall₂_drop_append _ _ _ both
  rw [← within.length_eq, List.drop_left] at behind
  simpa using behind

/-- An index of batches of matrices is one of a batch and of a matrix. -/
theorem exists_of_within_pair {batchShape : Sizes} {rows columns : Nat} {index : Index}
    (within : MixedRadix.Within (batchShape ++ [rows, columns]) index) :
    ∃ batchIndex i j, index = batchIndex ++ [i, j] ∧ MixedRadix.Within batchShape batchIndex ∧
      i < rows ∧ j < columns := by
  have front := List.forall₂_take_append _ _ _ within
  have behind := List.forall₂_drop_append _ _ _ within
  -- Two coordinates are left behind those of the batch.
  obtain ⟨i, j, rest⟩ : ∃ i j, index.drop batchShape.length = [i, j] := by
    have length := behind.length_eq
    match index.drop batchShape.length, length with
    | [i, j], _ => exact ⟨i, j, rfl⟩
  rw [rest] at behind
  refine ⟨index.take batchShape.length, i, j, ?_, front, by simpa using behind⟩
  rw [← rest, List.take_append_drop]

/-- Transposing square matrices changes the places of their coordinates. -/
theorem transposeOp_eq (storage : Storage α) {operand : Tensor α} {batchShape : Sizes} {n : Nat}
    (shape : operand.shape = batchShape ++ [n, n]) :
    ∃ swapped, transposeOp storage operand (swappedAxes operand.shape.length) operand.shape =
        .ok swapped ∧ swapped.shape = operand.shape ∧
      ∀ batchIndex, MixedRadix.Within batchShape batchIndex → ∀ i < n, ∀ j < n,
        swapped.get (batchIndex ++ [j, i]) = operand.get (batchIndex ++ [i, j]) := by
  have length : operand.shape.length = batchShape.length + 2 := by rw [shape]; simp
  -- An index is moved to the one with its last two coordinates exchanged.
  have moves (batchIndex : Index) (within : MixedRadix.Within batchShape batchIndex) (i j : Nat) :
      ((swappedAxes operand.shape.length).map fun axis =>
        (batchIndex ++ [i, j]).getD axis 0) = batchIndex ++ [j, i] := by
    rw [length, ← within.length_eq]
    exact map_swappedAxes batchIndex i j
  have pair (operandIndex : Index) (listed : operandIndex ∈ indexSpace operand.shape) :
      ∃ batchIndex i j, operandIndex = batchIndex ++ [i, j] ∧
        MixedRadix.Within batchShape batchIndex ∧ i < n ∧ j < n := by
    have within : MixedRadix.Within operand.shape operandIndex := MixedRadix.mem_all.mp listed
    rw [shape] at within
    exact exists_of_within_pair within
  have started := storage.shape_allocate operand.shape
  obtain ⟨swapped, run, kept, elements, -⟩ := @Tensor.foldlM_set α Index
    (fun result operandIndex => do
      let element ← operand.get operandIndex
      result.set ((swappedAxes operand.shape.length).map fun axis => operandIndex.getD axis 0)
        element)
    (indexSpace operand.shape)
    (fun operandIndex => (swappedAxes operand.shape.length).map fun axis =>
      operandIndex.getD axis 0)
    operand.get (storage.allocate operand.shape) (fun operandIndex listed => by
      obtain ⟨element, got, -⟩ := Tensor.get_eq (MixedRadix.mem_all.mp listed)
      obtain ⟨batchIndex, i, j, rfl, within, row, column⟩ := pair operandIndex listed
      refine ⟨?_, element, got, fun state => by rw [got]; rfl⟩
      rw [started, moves batchIndex within, shape]
      exact (within_pair_iff within).mpr ⟨column, row⟩)
    (fun operandIndex listed other member same => by
      obtain ⟨batchIndex, i, j, rfl, within, -⟩ := pair operandIndex listed
      obtain ⟨otherBatch, k, l, rfl, otherWithin, -⟩ := pair other member
      rw [moves batchIndex within, moves otherBatch otherWithin] at same
      -- Exchanging the last two coordinates again gives the index itself.
      obtain ⟨batches, sides⟩ := List.append_inj same
        (within.length_eq.trans otherWithin.length_eq.symm)
      simp only [List.cons.injEq, and_true] at sides
      rw [batches, sides.1, sides.2])
  refine ⟨swapped, run, kept.trans started, fun batchIndex within i row j column => ?_⟩
  have listed : batchIndex ++ [i, j] ∈ indexSpace operand.shape := by
    refine MixedRadix.mem_all.mpr ?_
    rw [shape]
    exact (within_pair_iff within).mpr ⟨row, column⟩
  rw [← elements _ listed, moves batchIndex within]

end Transposition

namespace SolveLoops

section Products

variable {K : Type} [Field K] {loops : SolveLoops K} {batchShape : Sizes} {m : Nat}
  {batchIndex : Index} {i j k : Nat} {result : Tensor K}

/-- The coefficient of an unknown in an equation, or zero where the triangle has none. -/
def triangleEntry (loops : SolveLoops K) (batchIndex : Index) (i j : Nat) : K :=
  if j = i then
    if loops.unitDiagonal then 1 else loops.tA.entry (batchIndex ++ [i, i])
  else if (if loops.backward then i < j else j < i) then
    loops.tA.entry (batchIndex ++ loops.sided i j)
  else
    0

/-- An equation holds when the sum over all unknowns is its constant. -/
theorem holds_iff {x : Nat → K} (row : i < loops.n) :
    (loops.system batchIndex k).Holds x i ↔
      ∑ j ∈ Finset.range loops.n, loops.triangleEntry batchIndex i j * x j =
        loops.b.entry (batchIndex ++ loops.sided i k) := by
  have unknowns : (loops.before i).toFinset =
      (Finset.range loops.n).filter fun j => if loops.backward then i < j else j < i := by
    ext j
    rw [List.mem_toFinset, mem_before, Finset.mem_filter, Finset.mem_range]
  have nodup : (loops.before i).Nodup := by
    rw [before_eq]
    exact nodup_rows.filter _
  -- The sum over the unknowns that are solved before is one over all, with zeros.
  have before : ((loops.before i).map fun j =>
      loops.tA.entry (batchIndex ++ loops.sided i j) * x j).sum =
        ∑ j ∈ Finset.range loops.n, if (if loops.backward then i < j else j < i) then
          loops.tA.entry (batchIndex ++ loops.sided i j) * x j else 0 := by
    rw [← List.sum_toFinset _ nodup, unknowns, Finset.sum_filter]
  -- So is the term for the unknown of the equation.
  have own : (if loops.unitDiagonal then 1 else loops.tA.entry (batchIndex ++ [i, i])) * x i =
      ∑ j ∈ Finset.range loops.n, if j = i then
        (if loops.unitDiagonal then 1 else loops.tA.entry (batchIndex ++ [i, i])) * x i else 0 := by
    rw [Finset.sum_ite_eq', if_pos (Finset.mem_range.mpr row)]
  show ((loops.before i).map fun j => loops.tA.entry (batchIndex ++ loops.sided i j) * x j).sum +
      (if loops.unitDiagonal then 1 else loops.tA.entry (batchIndex ++ [i, i])) * x i =
        loops.b.entry (batchIndex ++ loops.sided i k) ↔ _
  rw [before, own, ← Finset.sum_add_distrib]
  refine iff_of_eq (congrArg (· = _) (Finset.sum_congr rfl fun j _ => ?_))
  unfold triangleEntry
  by_cases same : j = i
  · -- The unknown of the equation is on neither side.
    subst same
    simp
  · rw [if_neg same, if_neg same, add_zero]
    split <;> simp

/-- The triangle is the one of the coefficients, as they stand on their side. -/
theorem triangleEntry_eq (i j : Fin loops.n) :
    loops.triangleEntry batchIndex i j =
      if loops.leftSide then
        triangleOf loops.lower loops.unitDiagonal
          (loops.tA.matrixAt batchIndex loops.n loops.n) i j
      else
        triangleOf loops.lower loops.unitDiagonal
          (loops.tA.matrixAt batchIndex loops.n loops.n) j i := by
  unfold triangleEntry triangleOf Tensor.matrixAt backward sided
  by_cases same : i = j
  · subst same
    simp
  · have apart : ¬ (j : Nat) = i := fun equal => same (Fin.ext equal.symm)
    cases loops.leftSide <;> cases loops.lower <;>
      simp [same, Ne.symm same, apart]

/-- When the equations of its systems hold, a batch has the solution of its matrices. -/
theorem isSolution_of_columnHolds (constants : ∀ k < m, loops.ColumnHolds batchIndex k result) :
    IsSolution loops.leftSide
      (triangleOf loops.lower loops.unitDiagonal (loops.tA.matrixAt batchIndex loops.n loops.n))
      result loops.b batchIndex m := by
  have equation (i : Fin loops.n) (k : Fin m) :
      ∑ j : Fin loops.n, loops.triangleEntry batchIndex i j *
        result.entry (batchIndex ++ loops.sided j k) =
          loops.b.entry (batchIndex ++ loops.sided i k) := by
    rw [← (holds_iff i.isLt).mp (constants k k.isLt i i.isLt)]
    exact Fin.sum_univ_eq_sum_range (fun j => loops.triangleEntry batchIndex i j *
      result.entry (batchIndex ++ loops.sided j k)) loops.n
  unfold IsSolution
  simp only [triangleEntry_eq] at equation
  unfold sided at equation
  cases side : loops.leftSide with
  | true =>
    rw [side] at equation
    ext i k
    exact equation i k
  | false =>
    rw [side] at equation
    ext k i
    -- The unknowns are in front of the coefficients.
    rw [Matrix.mul_apply]
    exact (Finset.sum_congr rfl fun j _ => mul_comm _ _).trans (equation i k)

end Products

end SolveLoops

section Triangles

variable {K : Type} [Field K] {n : Nat} {lower unitDiagonal : Bool}
  {matrix : Matrix (Fin n) (Fin n) K}

/-- The diagonal of a triangle. -/
theorem triangleOf_self (i : Fin n) :
    triangleOf lower unitDiagonal matrix i i = if unitDiagonal then 1 else matrix i i :=
  if_pos rfl

/-- There are only zeros on the other side of the diagonal. -/
theorem triangleOf_of_beyond {i j : Fin n} (beyond : if lower then i < j else j < i) :
    triangleOf lower unitDiagonal matrix i j = 0 := by
  unfold triangleOf
  cases lower with
  | true =>
    have less : i < j := beyond
    simp [less.ne, less.asymm]
  | false =>
    have less : j < i := beyond
    simp [less.ne', less.asymm]

/-- A triangle without zeros on its diagonal has an inverse. -/
theorem isUnit_det_triangleOf (nonzero : unitDiagonal = false → ∀ i, matrix i i ≠ 0) :
    IsUnit (triangleOf lower unitDiagonal matrix).det := by
  -- The determinant is the product of the diagonal.
  have product : (triangleOf lower unitDiagonal matrix).det =
      ∏ i, triangleOf lower unitDiagonal matrix i i := by
    cases lower with
    | true => exact Matrix.det_of_isLowerTriangular _ fun i j less => triangleOf_of_beyond less
    | false => exact Matrix.det_of_isUpperTriangular fun i j less => triangleOf_of_beyond less
  rw [product, isUnit_iff_ne_zero, Finset.prod_ne_zero_iff]
  intro i _
  rw [triangleOf_self]
  split
  · exact one_ne_zero
  · next dividing => exact nonzero (by simpa using dividing) i

/-- A triangle becomes the other one when it is transposed. -/
theorem transpose_triangleOf :
    (triangleOf lower unitDiagonal matrix).transpose =
      triangleOf (!lower) unitDiagonal matrix.transpose := by
  ext i j
  rw [Matrix.transpose_apply, triangleOf, triangleOf, Matrix.transpose_apply]
  by_cases same : i = j
  · subst same
    simp
  · rw [if_neg same, if_neg (Ne.symm same)]
    cases lower <;> simp

/-- A triangle stays the same one when its elements are mapped. -/
theorem map_triangleOf (conj : K →+* K) :
    (triangleOf lower unitDiagonal matrix).map conj =
      triangleOf lower unitDiagonal (matrix.map conj) := by
  ext i j
  rw [Matrix.map_apply, triangleOf, triangleOf, Matrix.map_apply]
  -- Zeros and ones are mapped to themselves.
  split_ifs <;> simp

/-- Taking the triangle and transposing are exchanged, with the other triangle. -/
theorem opOf_triangleOf (transposeA : Transpose) (conj : K →+* K) :
    opOf transposeA conj (triangleOf lower unitDiagonal matrix) =
      triangleOf (lower ^^ isTransposed transposeA) unitDiagonal
        (opOf transposeA conj matrix) := by
  cases transposeA with
  | transpose =>
    have flipped : (lower ^^ isTransposed .transpose) = !lower := Bool.xor_true lower
    rw [flipped]
    exact transpose_triangleOf
  | adjoint =>
    have flipped : (lower ^^ isTransposed .adjoint) = !lower := Bool.xor_true lower
    rw [flipped]
    show (triangleOf lower unitDiagonal matrix).transpose.map conj = _
    rw [transpose_triangleOf, map_triangleOf]
    rfl
  | noTranspose =>
    have kept : (lower ^^ isTransposed .noTranspose) = lower := Bool.xor_false lower
    rw [kept]
    rfl
  | transposeInvalid =>
    have kept : (lower ^^ isTransposed .transposeInvalid) = lower := Bool.xor_false lower
    rw [kept]
    rfl

/-- The diagonal has no zeros after transposing when it had none before. -/
theorem opOf_self_ne_zero {transposeA : Transpose} {conj : K →+* K} {i : Fin n}
    (nonzero : matrix i i ≠ 0) : opOf transposeA conj matrix i i ≠ 0 := by
  cases transposeA with
  | adjoint => exact (map_ne_zero conj).mpr nonzero
  | transpose => exact nonzero
  | noTranspose => exact nonzero
  | transposeInvalid => exact nonzero

/-- There is only one solution for coefficients that have an inverse. -/
theorem IsSolution.unique {leftSide : Bool} {coefficients : Matrix (Fin n) (Fin n) K}
    {x y b : Tensor K} {batchIndex : Index} {m : Nat} (inverse : IsUnit coefficients.det)
    (first : IsSolution leftSide coefficients x b batchIndex m)
    (second : IsSolution leftSide coefficients y b batchIndex m) :
    if leftSide then x.matrixAt batchIndex n m = y.matrixAt batchIndex n m
      else x.matrixAt batchIndex m n = y.matrixAt batchIndex m n := by
  unfold IsSolution at first second
  cases leftSide with
  | true =>
    have same : coefficients * x.matrixAt batchIndex n m =
        coefficients * y.matrixAt batchIndex n m := first.trans second.symm
    show x.matrixAt batchIndex n m = y.matrixAt batchIndex n m
    rw [← Matrix.nonsing_inv_mul_cancel_left _ (x.matrixAt batchIndex n m) inverse, same,
      Matrix.nonsing_inv_mul_cancel_left _ _ inverse]
  | false =>
    have same : x.matrixAt batchIndex m n * coefficients =
        y.matrixAt batchIndex m n * coefficients := first.trans second.symm
    show x.matrixAt batchIndex m n = y.matrixAt batchIndex m n
    rw [← Matrix.mul_nonsing_inv_cancel_right _ (x.matrixAt batchIndex m n) inverse, same,
      Matrix.mul_nonsing_inv_cancel_right _ _ inverse]

end Triangles

section Sizes

variable {K : Type} {a b : Tensor K} {leftSide lower unitDiagonal : Bool} {transposeA : Transpose}
  {batchShape : Sizes} {n m : Nat}

/-- The sizes of the loops are those of the matrices. -/
theorem solveLoops_sizes (tA : Tensor K) (aShape : a.shape = batchShape ++ [n, n])
    (bShape : b.shape = batchShape ++ (if leftSide then [n, m] else [m, n])) :
    (solveLoops a b leftSide lower unitDiagonal transposeA tA).rank = batchShape.length + 2 ∧
      (solveLoops a b leftSide lower unitDiagonal transposeA tA).n = n ∧
      b.shape.getD (solveLoops a b leftSide lower unitDiagonal transposeA tA).dimK 0 = m ∧
      b.shape.take (a.shape.length - 2) = batchShape := by
  have rank : a.shape.length = batchShape.length + 2 := by rw [aShape]; simp
  refine ⟨rank, ?_, ?_, ?_⟩
  · show a.shape.getD (a.shape.length - 1) 0 = n
    rw [rank, aShape]
    simp
  · rw [SolveLoops.dimK]
    show b.shape.getD (if leftSide then a.shape.length - 1 else a.shape.length - 2) 0 = m
    rw [rank, bShape]
    cases leftSide <;> simp
  · rw [rank, bShape]
    simp

end Sizes

section Runs

variable {K : Type} [Field K] {storage : Storage K} {elementType : StablehloType} {conj : K →+* K}
  {a b : Tensor K} {leftSide lower unitDiagonal : Bool} {transposeA : Transpose}
  {batchShape : Sizes} {n m : Nat}

/-- Conjugating a tensor of complex numbers conjugates its entries. -/
theorem conjugate_eq (conj : K → K) {operand : Tensor K}
    (complex : isComplexType elementType = true) :
    ∃ result, conjugate elementType conj operand = .ok result ∧ result.shape = operand.shape ∧
      ∀ index, MixedRadix.Within operand.shape index →
        result.entry index = conj (operand.entry index) := by
  have computed : conjugate elementType conj operand =
      .ok (Tensor.tabulate operand.shape fun index => conj (operand.entry index)) := by
    rw [conjugate, if_pos complex]
    refine Tensor.build_eq_tabulate fun index within => ?_
    rw [Tensor.get_eq_entry within]
    rfl
  refine ⟨_, computed, rfl, fun index within => ?_⟩
  rw [Tensor.entry, Tensor.get_tabulate within]

/-- The matrices are transposed and conjugated as named. -/
theorem transposedOperand_eq (storage : Storage K) (conj : K →+* K)
    (shape : a.shape = batchShape ++ [n, n])
    (complex : transposeA = .adjoint → isComplexType elementType = true) :
    ∃ tA, transposedOperand storage elementType conj a transposeA = .ok tA ∧ tA.shape = a.shape ∧
      ∀ batchIndex, MixedRadix.Within batchShape batchIndex →
        tA.matrixAt batchIndex n n = opOf transposeA conj (a.matrixAt batchIndex n n) := by
  obtain ⟨swapped, run, kept, elements⟩ := transposeOp_eq storage shape
  have matrices (batchIndex : Index) (within : MixedRadix.Within batchShape batchIndex) :
      swapped.matrixAt batchIndex n n = (a.matrixAt batchIndex n n).transpose := by
    ext i j
    exact Tensor.entry_congr (elements batchIndex within j j.isLt i i.isLt)
  unfold transposedOperand
  cases transposeA with
  | transpose =>
    refine ⟨swapped, ?_, kept, matrices⟩
    simp [isTransposed, run]
  | adjoint =>
    obtain ⟨conjugated, again, same, entries⟩ :=
      @conjugate_eq _ _ elementType conj swapped (complex rfl)
    refine ⟨conjugated, ?_, same.trans kept, fun batchIndex within => ?_⟩
    · simp [isTransposed, run, again]
    · show _ = (a.matrixAt batchIndex n n).transpose.map conj
      rw [← matrices batchIndex within]
      ext i j
      refine entries _ ?_
      rw [kept, shape]
      exact (within_pair_iff within).mpr ⟨i.isLt, j.isLt⟩
  | noTranspose => exact ⟨a, by simp [isTransposed], rfl, fun _ _ => rfl⟩
  | transposeInvalid => exact ⟨a, by simp [isTransposed], rfl, fun _ _ => rfl⟩

/-- Solutions are computed when nothing is divided by, or the diagonals are those of the only
batch, or there is nothing to compute. -/
theorem triangularSolveOp_eq (aShape : a.shape = batchShape ++ [n, n])
    (bShape : b.shape = batchShape ++ (if leftSide then [n, m] else [m, n]))
    (nonzero : unitDiagonal = false → ∀ batchIndex, MixedRadix.Within batchShape batchIndex → ∀ i,
      a.matrixAt batchIndex n n i i ≠ 0)
    (complex : transposeA = .adjoint → isComplexType elementType = true)
    (diagonal : unitDiagonal = false → batchShape = [] ∨ 0 ∈ b.shape) :
    ∃ result, triangularSolveOp storage elementType conj a b leftSide lower unitDiagonal transposeA
        b.shape = .ok result ∧
      result.shape = b.shape ∧ ∀ batchIndex, MixedRadix.Within batchShape batchIndex →
        IsSolution leftSide
          (opOf transposeA conj (triangleOf lower unitDiagonal (a.matrixAt batchIndex n n)))
          result b batchIndex m := by
  obtain ⟨tA, prepared, kept, matrices⟩ := transposedOperand_eq storage conj aShape complex
  obtain ⟨rank, size, columns, batches⟩ :=
    @solveLoops_sizes _ a b leftSide lower unitDiagonal transposeA _ _ _ tA aShape bShape
  subst size
  have solvable : (solveLoops a b leftSide lower unitDiagonal transposeA tA).Solvable
      batchShape m := {
    rank
    coefficients := kept.trans aShape
    constants := bShape
    diagonal
    nonzero := fun dividing batchIndex within i row => by
      -- The diagonal is that of the operand, conjugated or not.
      have entry := @opOf_self_ne_zero _ _ _ _ transposeA conj _
        (nonzero dividing batchIndex within ⟨i, row⟩)
      rw [← matrices batchIndex within] at entry
      exact entry }
  obtain ⟨result, run, shape, holds⟩ :=
    SolveLoops.solveBatches_eq solvable (storage.shape_allocate b.shape)
  refine ⟨result, ?_, shape, fun batchIndex within => ?_⟩
  · rw [triangularSolveOp, prepared, Fallible.ok_bind, batches]
    show (indexSpace batchShape).foldlM (SolveLoops.solveBatch _ (b.shape.getD _ 0)) _ = _
    rw [columns]
    exact run
  · rw [opOf_triangleOf, ← matrices batchIndex within]
    exact SolveLoops.isSolution_of_columnHolds (holds batchIndex within)

end Runs

section Correctness

variable {elementType : StablehloType} {leftSide lower unitDiagonal : Bool}
  {transposeA : Transpose} {batchShape : Sizes} {n m : Nat}

/-- Solutions of the same systems hold the same elements. -/
theorem eq_of_isSolution {K : Type} [Field K] {x y b : Tensor K}
    {coefficients : Index → Matrix (Fin n) (Fin n) K}
    (bShape : b.shape = batchShape ++ (if leftSide then [n, m] else [m, n]))
    (xShape : x.shape = b.shape) (yShape : y.shape = b.shape)
    (inverse : ∀ batchIndex, MixedRadix.Within batchShape batchIndex →
      IsUnit (coefficients batchIndex).det)
    (first : ∀ batchIndex, MixedRadix.Within batchShape batchIndex →
      IsSolution leftSide (coefficients batchIndex) x b batchIndex m)
    (second : ∀ batchIndex, MixedRadix.Within batchShape batchIndex →
      IsSolution leftSide (coefficients batchIndex) y b batchIndex m) : x = y := by
  refine Tensor.ext_get (xShape.trans yShape.symm) fun index within => ?_
  have other : MixedRadix.Within y.shape index := by rwa [yShape, ← xShape]
  rw [Tensor.get_eq_entry within, Tensor.get_eq_entry other]
  rw [xShape, bShape] at within
  -- The index is one of a batch and of its matrix of unknowns.
  cases leftSide with
  | true =>
    obtain ⟨batchIndex, i, k, rfl, batch, row, column⟩ := exists_of_within_pair within
    have same : x.matrixAt batchIndex n m = y.matrixAt batchIndex n m :=
      IsSolution.unique (inverse _ batch) (first _ batch) (second _ batch)
    exact congrArg _ (congrFun (congrFun same ⟨i, row⟩) ⟨k, column⟩)
  | false =>
    obtain ⟨batchIndex, k, i, rfl, batch, row, column⟩ := exists_of_within_pair within
    have same : x.matrixAt batchIndex m n = y.matrixAt batchIndex m n :=
      IsSolution.unique (inverse _ batch) (first _ batch) (second _ batch)
    exact congrArg _ (congrFun (congrFun same ⟨k, row⟩) ⟨i, column⟩)

/-- Solutions are those of the specification when they are computed. -/
theorem triangularSolveMeetsSpec_of
    (complex : transposeA = .adjoint → isComplexType elementType = true)
    (diagonal : unitDiagonal = false →
      batchShape = [] ∨ 0 ∈ batchShape ++ (if leftSide then [n, m] else [m, n])) :
    TriangularSolveMeetsSpec elementType leftSide lower unitDiagonal transposeA batchShape n m := by
  intro K _ storage conj a b aShape bShape nonzero
  have diagonal (dividing : unitDiagonal = false) : batchShape = [] ∨ 0 ∈ b.shape := by
    rw [bShape]
    exact diagonal dividing
  obtain ⟨result, run, shape, solves⟩ := @triangularSolveOp_eq _ _ storage elementType conj _ _
    leftSide lower _ _ _ _ _ aShape bShape nonzero complex diagonal
  refine ⟨result, run, shape, solves, fun other otherShape same => ?_⟩
  -- The diagonals of the other coefficients are the same.
  have otherNonzero (dividing : unitDiagonal = false) (batchIndex : Index)
      (within : MixedRadix.Within batchShape batchIndex) (i : Fin n) :
      other.matrixAt batchIndex n n i i ≠ 0 := by
    have entries := congrFun (congrFun (same batchIndex within) i) i
    rw [triangleOf_self, triangleOf_self, dividing] at entries
    have kept : other.matrixAt batchIndex n n i i = a.matrixAt batchIndex n n i i := entries
    rw [kept]
    exact nonzero dividing batchIndex within i
  obtain ⟨otherResult, otherRun, otherResultShape, otherSolves⟩ :=
    @triangularSolveOp_eq _ _ storage elementType conj _ _ leftSide lower _ _ _ _ _
      (otherShape.trans aShape) bShape otherNonzero complex diagonal
  rw [otherRun, Except.ok.injEq]
  refine eq_of_isSolution bShape otherResultShape shape (fun batchIndex within => ?_)
    (fun batchIndex within => same batchIndex within ▸ otherSolves batchIndex within) solves
  rw [opOf_triangleOf]
  exact isUnit_det_triangleOf fun dividing i =>
    opOf_self_ne_zero (nonzero dividing batchIndex within i)

/-- A solution that divides reads a diagonal of coefficients without batches. -/
theorem batchShape_eq_nil {K : Type} [Field K] {loops : SolveLoops K} {start final : Tensor K}
    (dividing : loops.unitDiagonal = false)
    (coefficients : loops.tA.shape = batchShape ++ [n, n]) {batchIndex : Index} {i k : Nat}
    (batch : MixedRadix.Within batchShape batchIndex) (row : i < loops.n) (column : k < m)
    (run : (indexSpace batchShape).foldlM (loops.solveBatch m) start = .ok final) :
    batchShape = [] := by
  -- The run solves the equation.
  obtain ⟨before, after, -, solved⟩ := @Fallible.foldlM_forall _ _ _ _ _ (fun _ => True)
    (fun _ _ _ _ _ _ => trivial) _ _ trivial run batchIndex (MixedRadix.mem_all.mpr batch)
  obtain ⟨before, after, -, solved⟩ := @Fallible.foldlM_forall _ _ _ _ _ (fun _ => True)
    (fun _ _ _ _ _ _ => trivial) _ _ trivial solved k (List.mem_range.mpr column)
  obtain ⟨before, after, -, solved⟩ := @Fallible.foldlM_forall _ _ _ _ _ (fun _ => True)
    (fun _ _ _ _ _ _ => trivial) _ _ trivial solved i (SolveLoops.mem_rows.mpr row)
  obtain ⟨constant, -, solved⟩ := Fallible.bind_eq_ok.mp solved
  obtain ⟨eliminated, -, solved⟩ := Fallible.bind_eq_ok.mp solved
  obtain ⟨x, normalized, -⟩ := Fallible.bind_eq_ok.mp solved
  unfold SolveLoops.normalize at normalized
  rw [dividing, if_neg Bool.false_ne_true] at normalized
  obtain ⟨entry, got, -⟩ := Fallible.bind_eq_ok.mp normalized
  -- The index of the coefficient has two coordinates.
  have length := (Tensor.within_of_get got).length_eq
  rw [coefficients, List.length_append] at length
  refine List.eq_nil_of_length_eq_zero ?_
  simp only [List.length_cons, List.length_nil] at length
  omega

/-- Solutions are those of the specification only when they are computed. -/
theorem of_triangularSolveMeetsSpec (meets : TriangularSolveMeetsSpec elementType leftSide lower
    unitDiagonal transposeA batchShape n m) :
    (transposeA = .adjoint → isComplexType elementType = true) ∧
      (unitDiagonal = false →
        batchShape = [] ∨ 0 ∈ batchShape ++ (if leftSide then [n, m] else [m, n])) := by
  let storage : Storage ℚ := {
    allocate := fun shape => Tensor.tabulate shape fun _ => 0
    shape_allocate := fun _ => rfl }
  -- There are no zeros among coefficients that are all one.
  let a : Tensor ℚ := Tensor.tabulate (batchShape ++ [n, n]) fun _ => 1
  let b : Tensor ℚ :=
    Tensor.tabulate (batchShape ++ (if leftSide then [n, m] else [m, n])) fun _ => 0
  obtain ⟨result, run, -⟩ := meets ℚ inferInstance storage (RingHom.id ℚ) a b rfl rfl
    fun _ batchIndex within i => by
      have entry : a.entry (batchIndex ++ [i.val, i.val]) = 1 := by
        rw [Tensor.entry, Tensor.get_tabulate ((within_pair_iff within).mpr ⟨i.isLt, i.isLt⟩)]
      show a.entry (batchIndex ++ [i.val, i.val]) ≠ 0
      rw [entry]
      exact one_ne_zero
  obtain ⟨tA, prepared, run⟩ := Fallible.bind_eq_ok.mp run
  have complex : transposeA = .adjoint → isComplexType elementType = true := by
    rintro rfl
    obtain ⟨swapped, -, conjugated⟩ := Fallible.bind_eq_ok.mp prepared
    by_contra real
    -- The cast to a type of complex numbers fails.
    simp [conjugate, real] at conjugated
  refine ⟨complex, fun dividing => ?_⟩
  by_cases empty : 0 ∈ batchShape ++ (if leftSide then [n, m] else [m, n])
  · exact .inr empty
  · refine .inl ?_
    obtain ⟨again, same, kept, -⟩ :=
      @transposedOperand_eq _ _ _ a transposeA _ _ storage (RingHom.id ℚ) rfl complex
    rw [prepared, Except.ok.injEq] at same
    subst same
    obtain ⟨-, size, columns, batches⟩ :=
      @solveLoops_sizes _ a b leftSide lower unitDiagonal transposeA _ _ _ tA rfl rfl
    obtain ⟨index, within⟩ := MixedRadix.exists_within_iff.mpr empty
    -- There is an element to compute, of a batch and of its matrix.
    obtain ⟨batchIndex, i, k, batch, row, column⟩ : ∃ batchIndex i k,
        MixedRadix.Within batchShape batchIndex ∧ i < n ∧ k < m := by
      cases leftSide with
      | true =>
        obtain ⟨batchIndex, i, k, -, batch, row, column⟩ := exists_of_within_pair within
        exact ⟨batchIndex, i, k, batch, row, column⟩
      | false =>
        obtain ⟨batchIndex, k, i, -, batch, column, row⟩ := exists_of_within_pair within
        exact ⟨batchIndex, i, k, batch, row, column⟩
    have loop : (indexSpace batchShape).foldlM
        ((solveLoops a b leftSide lower unitDiagonal transposeA tA).solveBatch m)
        (storage.allocate b.shape) = .ok result := by
      rw [← columns]
      exact batches ▸ run
    exact batchShape_eq_nil dividing kept batch (size.symm ▸ row) column loop

/-- Solutions are those of the specification exactly when only complex coefficients are conjugated,
and nothing is divided by, or there are no batches, or there is nothing to compute. -/
theorem triangularSolveMeetsSpec_iff :
    TriangularSolveMeetsSpec elementType leftSide lower unitDiagonal transposeA batchShape n m ↔
      (transposeA = .adjoint → isComplexType elementType = true) ∧
        (unitDiagonal = false →
          batchShape = [] ∨ 0 ∈ batchShape ++ (if leftSide then [n, m] else [m, n])) :=
  ⟨of_triangularSolveMeetsSpec, fun both => triangularSolveMeetsSpec_of both.1 both.2⟩

end Correctness

section Accepted

variable [TypePrinter]

/-- The solutions of accepted systems are those of the specification exactly when only complex
coefficients are conjugated, and when their diagonals are ones, or those of the only batch, or of
systems without elements. -/
theorem triangularSolveOp_iff {aType bType : RankedTensorType} {leftSide lower unitDiagonal : Bool}
    {transposeA : Transpose} {components : ShapedTypeComponents} {aShape bShape : Sizes}
    (aKnown : aType.shape.map Int64.toInt = aShape.map Nat.cast)
    (bKnown : bType.shape.map Int64.toInt = bShape.map Nat.cast)
    (accepted : inferTriangularSolveOp aType bType leftSide (transposeA = .transposeInvalid) =
      .ok components) :
    ∃ batchShape n m, aShape = batchShape ++ [n, n] ∧
      bShape = batchShape ++ (if leftSide then [n, m] else [m, n]) ∧
      (TriangularSolveMeetsSpec aType.elementType leftSide lower unitDiagonal transposeA
          batchShape n m ↔
        (transposeA = .adjoint → isComplexType aType.elementType = true) ∧
          (unitDiagonal = true ∨ aShape.length = 2 ∨ 0 ∈ bShape)) := by
  obtain ⟨-, batchShape, n, m, aSame, bSame⟩ :=
    inferTriangularSolveOp_spec aKnown bKnown accepted
  refine ⟨batchShape, n, m, aSame, bSame, ?_⟩
  rw [triangularSolveMeetsSpec_iff, aSame, bSame]
  refine and_congr_right fun _ => ?_
  have single : (batchShape ++ [n, n]).length = 2 ↔ batchShape = [] := by
    rw [List.length_append, ← List.length_eq_zero_iff]
    simp
  rw [single]
  cases unitDiagonal with
  | true => simp
  | false => simp

end Accepted

/-- Systems of two equations. -/
theorem triangularSolveOp_square :
    ∃ batchShape n m, [2, 2] = batchShape ++ [n, n] ∧
      [2, 1] = batchShape ++ (if true then [n, m] else [m, n]) ∧
      (TriangularSolveMeetsSpec (.float .ieeeSingle) true true false .noTranspose batchShape n m ↔
        (Transpose.noTranspose = .adjoint → isComplexType (.float .ieeeSingle) = true) ∧
          (false = true ∨ [2, 2].length = 2 ∨ 0 ∈ [2, 1])) :=
  @triangularSolveOp_iff plainPrinter ⟨[2, 2], .float .ieeeSingle, none⟩
    ⟨[2, 1], .float .ieeeSingle, none⟩ true true false .noTranspose
    ⟨[2, 1], some (.float .ieeeSingle), none⟩ [2, 2] [2, 1] rfl rfl rfl

/-- A batch of one equation is accepted, and not solved when its coefficient has to be read. -/
theorem triangularSolve_batch :
    @inferTriangularSolveOp plainPrinter ⟨[1, 1, 1], .float .ieeeSingle, none⟩
        ⟨[1, 1, 1], .float .ieeeSingle, none⟩ true false =
      .ok ⟨[1, 1, 1], some (.float .ieeeSingle), none⟩ ∧
    ¬ TriangularSolveMeetsSpec (.float .ieeeSingle) true true false .noTranspose [1] 1 1 := by
  refine ⟨rfl, fun meets => ?_⟩
  obtain ⟨-, diagonal⟩ := of_triangularSolveMeetsSpec meets
  -- There is a batch dimension, and an unknown.
  rcases diagonal rfl with none | empty
  · cases none
  · simp at empty

end Stablehlo
