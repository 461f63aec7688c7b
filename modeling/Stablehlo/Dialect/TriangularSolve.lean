import Stablehlo.Dialect.Gather
import Stablehlo.Reference.StaticShapes

/-! The shapes of systems of linear equations with triangular coefficients. -/

namespace Stablehlo

open TypePrinter

/-- Known sizes are compatible. -/
def verifyCompatibleSizes (first second : List Int64) : Bool :=
  first.length == second.length &&
    (first.zip second).all fun (firstDim, secondDim) => verifyCompatibleDims firstDim secondDim

/-- Infer the type of the solution of systems of equations. -/
def inferTriangularSolveOp [TypePrinter] (aType bType : RankedTensorType)
    (leftSide isTransposeAInvalid : Bool) : Except InferenceFailure ShapedTypeComponents := do
  let aRank := aType.rank
  let bRank := bType.rank
  let aPrinted := debugString aType.toType
  let bPrinted := debugString bType.toType
  require (2 ≤ aRank) s!"operand 'a' must have rank >= 2, but got {aPrinted}"
  let rows ← readEntry aType.shape (aRank - 2)
  let columns ← readEntry aType.shape (aRank - 1)
  require (verifyCompatibleDims rows columns)
    s!"two minor dimensions of operand 'a' must be compatible, but got {aPrinted}"
  require (aRank == bRank)
    s!"operands must have equal rank, but got {aPrinted} and {bPrinted}"
  let shared ← readEntry bType.shape (bRank - if leftSide then 2 else 1)
  require (verifyCompatibleDims columns shared)
    (s!"shared dimension of operands 'a' and 'b' must be compatible, but got {aPrinted} and " ++
      bPrinted)
  require (verifyCompatibleSizes (aType.shape.take (aRank - 2)) (bType.shape.take (bRank - 2)))
    s!"batch dimensions of the operands must be compatible, but got {aPrinted} and {bPrinted}"
  require (!isTransposeAInvalid) "Invalid transpose option value for triangular solve"
  .ok { dims := bType.shape, elementType := some bType.elementType, encoding := bType.encoding }

/-- A list of at least two items ends in two of them. -/
theorem exists_append_pair {α : Type} {items : List α} (long : 2 ≤ items.length) :
    ∃ front first second, items = front ++ [first, second] := by
  -- The last item is split off twice.
  have last {items : List α} (some : 0 < items.length) : ∃ front last, items = front ++ [last] :=
    ⟨_, _, (List.dropLast_append_getLast (List.ne_nil_of_length_pos some)).symm⟩
  obtain ⟨items, second, rfl⟩ := last (show 0 < items.length by omega)
  rw [List.length_append, List.length_singleton] at long
  obtain ⟨front, first, rfl⟩ := last (show 0 < items.length by omega)
  exact ⟨front, first, second, by simp⟩

/-- The last two sizes of a static shape, and those in front of them. -/
theorem exists_known_pair {dims : List Int64} {shape : Sizes} {front : List Int64}
    {first second : Int64} (known : dims.map Int64.toInt = shape.map Nat.cast)
    (same : dims = front ++ [first, second]) :
    ∃ batch rows columns, shape = batch ++ [rows, columns] ∧
      front.map Int64.toInt = batch.map Nat.cast ∧ first.toInt = (rows : Nat) ∧
      second.toInt = (columns : Nat) := by
  have length := length_of_known known
  rw [same, List.length_append, List.length_cons, List.length_singleton] at length
  obtain ⟨batch, rows, columns, rfl⟩ := exists_append_pair (show 2 ≤ shape.length by omega)
  rw [List.length_append, List.length_cons, List.length_singleton] at length
  rw [same, List.map_append, List.map_append] at known
  obtain ⟨fronts, pairs⟩ := List.append_inj known (by simpa using length)
  simp only [List.map_cons, List.map_nil, List.cons.injEq, and_true] at pairs
  exact ⟨batch, rows, columns, rfl, fronts, pairs.1, pairs.2⟩

/-- Known sizes that are compatible are the same. -/
theorem eq_of_verifyCompatibleSizes {first second : List Int64} {firstSizes secondSizes : Sizes}
    (firstKnown : first.map Int64.toInt = firstSizes.map Nat.cast)
    (secondKnown : second.map Int64.toInt = secondSizes.map Nat.cast)
    (compatible : verifyCompatibleSizes first second = true) : firstSizes = secondSizes :=
  @eq_of_verifyCompatibleShape ⟨first, .noneType, none⟩ ⟨second, .noneType, none⟩
    ⟨firstSizes, .noneType⟩ ⟨secondSizes, .noneType⟩ ⟨firstKnown, rfl⟩ ⟨secondKnown, rfl⟩
    compatible

/-- The shapes of accepted systems: square coefficients, and as many constants on the side of the
solution. -/
theorem inferTriangularSolveOp_spec [TypePrinter] {aType bType : RankedTensorType}
    {leftSide isTransposeAInvalid : Bool} {components : ShapedTypeComponents} {aShape bShape : Sizes}
    (aKnown : aType.shape.map Int64.toInt = aShape.map Nat.cast)
    (bKnown : bType.shape.map Int64.toInt = bShape.map Nat.cast)
    (accepted : inferTriangularSolveOp aType bType leftSide isTransposeAInvalid =
      .ok components) :
    isTransposeAInvalid = false ∧ ∃ batch n m, aShape = batch ++ [n, n] ∧
      bShape = batch ++ if leftSide then [n, m] else [m, n] := by
  obtain ⟨long, accepted⟩ := Fallible.check_bind_eq_ok.mp accepted
  obtain ⟨rows, rowsRead, accepted⟩ := Fallible.bind_eq_ok.mp accepted
  obtain ⟨columns, columnsRead, accepted⟩ := Fallible.bind_eq_ok.mp accepted
  obtain ⟨square, accepted⟩ := Fallible.check_bind_eq_ok.mp accepted
  obtain ⟨ranks, accepted⟩ := Fallible.check_bind_eq_ok.mp accepted
  obtain ⟨shared, sharedRead, accepted⟩ := Fallible.bind_eq_ok.mp accepted
  obtain ⟨matching, accepted⟩ := Fallible.check_bind_eq_ok.mp accepted
  obtain ⟨batches, accepted⟩ := Fallible.check_bind_eq_ok.mp accepted
  obtain ⟨valid, -⟩ := Fallible.check_bind_eq_ok.mp accepted
  rw [require_eq_ok] at long square ranks matching batches valid
  rw [decide_eq_true_eq] at long
  rw [beq_iff_eq] at ranks
  -- Both shapes end in two sizes, behind those of the batches.
  obtain ⟨aFront, aRows, aColumns, aSame⟩ :=
    exists_append_pair (show 2 ≤ aType.shape.length from long)
  have bLong : 2 ≤ bType.shape.length := by
    show 2 ≤ bType.rank
    omega
  obtain ⟨bFront, bRows, bColumns, bSame⟩ := exists_append_pair bLong
  obtain ⟨aBatch, n, other, rfl, aFrontKnown, nKnown, otherKnown⟩ := exists_known_pair aKnown aSame
  obtain ⟨bBatch, first, second, rfl, bFrontKnown, firstKnown, secondKnown⟩ :=
    exists_known_pair bKnown bSame
  rw [readEntry_eq_ok] at rowsRead columnsRead sharedRead
  have aRank : aType.rank = aFront.length + 2 := by rw [RankedTensorType.rank, aSame]; simp
  have bRank : bType.rank = bFront.length + 2 := by rw [RankedTensorType.rank, bSame]; simp
  rw [aRank, aSame] at rowsRead columnsRead
  rw [bRank, bSame] at sharedRead
  rw [aRank, bRank, aSame, bSame] at batches
  simp only [Nat.add_sub_cancel, List.take_left'] at batches
  have batch : aBatch = bBatch := eq_of_verifyCompatibleSizes aFrontKnown bFrontKnown batches
  have rowsSame : rows = aRows := by simpa using rowsRead.symm
  have columnsSame : columns = aColumns := by simpa using columnsRead.symm
  subst batch rowsSame columnsSame
  have n_eq : n = other := eq_of_verifyCompatibleDims nKnown otherKnown square
  subst n_eq
  refine ⟨by simpa using valid, aBatch, n, if leftSide then second else first, rfl, ?_⟩
  cases leftSide with
  | true =>
    have sharedSame : shared = bRows := by simpa using sharedRead.symm
    rw [sharedSame] at matching
    rw [eq_of_verifyCompatibleDims otherKnown firstKnown matching]
    rfl
  | false =>
    have sharedSame : shared = bColumns := by simpa using sharedRead.symm
    rw [sharedSame] at matching
    rw [eq_of_verifyCompatibleDims otherKnown secondKnown matching]
    rfl

end Stablehlo
