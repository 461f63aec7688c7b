import Stablehlo.Linalg.BroadcastInDim

/-! When the conversions of broadcast_in_dim have the value of the interpreter. -/

namespace Stablehlo

namespace Linalg

section DataMovement

variable {α : Type} {operand result : Tensor α} {numLoops : Nat} {map : AffineMap}

/-- A coordinate of the output is the index of its loop. -/
theorem mem_coordinates_output {operandShape resultShape : Sizes}
    (rank : resultShape.length = numLoops) (mapRank : map.length = operandShape.length)
    {expr : AffineExpr} {size : Nat} :
    (expr, size) ∈ ((dataMovement numLoops map : GenericOp α α).maps [resultShape].length).flatten.zip
        ([operandShape] ++ [resultShape]).flatten ↔
      (expr, size) ∈ map.zip operandShape ∨
        ∃ position, expr = .dim position ∧ resultShape[position]? = some size := by
  have coordinates : ((dataMovement numLoops map : GenericOp α α).maps
      [resultShape].length).flatten.zip ([operandShape] ++ [resultShape]).flatten =
      map.zip operandShape ++ (AffineMap.ofDims (List.range numLoops)).zip resultShape := by
    rw [← List.zip_append mapRank]
    simp [GenericOp.maps, dataMovement]
  rw [coordinates, List.mem_append, GenericOp.mem_zip_ofDims_range rank]

/-- Data is moved along loops over the result when the coordinates of the operand fit. -/
theorem loopRanges_dataMovement {operandShape resultShape : Sizes}
    (rank : resultShape.length = numLoops) (mapRank : map.length = operandShape.length)
    (fits : ∀ expr size, (expr, size) ∈ map.zip operandShape →
      GenericOp.coordinateFits resultShape expr size) :
    (dataMovement numLoops map : GenericOp α α).loopRanges [operandShape] [resultShape] =
      some resultShape := by
  apply GenericOp.loopRanges_eq rank
  · intro position size listed
    rcases (mem_coordinates_output rank mapRank).1 listed with own | ⟨loop, same, there⟩
    · exact fits _ _ own
    · cases same
      exact there
  · intro position inside
    have below : position < resultShape.length := rank.symm ▸ inside
    exact ⟨resultShape[position], (mem_coordinates_output rank mapRank).2
      (.inr ⟨position, rfl, List.getElem?_eq_getElem below⟩)⟩

/-- The verifier accepts data movement when the coordinates of the operand fit. -/
theorem wellFormed_dataMovement {operandShape resultShape : Sizes}
    (rank : resultShape.length = numLoops) (mapRank : map.length = operandShape.length)
    (fits : ∀ expr size, (expr, size) ∈ map.zip operandShape →
      GenericOp.coordinateFits resultShape expr size) :
    (dataMovement numLoops map : GenericOp α α).WellFormed [operandShape] [resultShape] := by
  refine ⟨?_, resultShape, loopRanges_dataMovement rank mapRank fits, ?_⟩
  · simp [GenericOp.ranksMatch, GenericOp.maps, dataMovement, AffineMap.ofDims, mapRank, rank]
  · intro expr size listed
    rcases (mem_coordinates_output rank mapRank).1 listed with own | ⟨loop, rfl, there⟩
    · exact fits expr size own
    · exact there

/-- Moved data has the elements that are read for each index. -/
theorem run_dataMovement (storage : Storage α) (rank : result.shape.length = numLoops)
    (mapRank : map.length = operand.shape.length)
    (fits : ∀ expr size, (expr, size) ∈ map.zip operand.shape →
      GenericOp.coordinateFits result.shape expr size)
    (reads : ∀ index, MixedRadix.Within result.shape index →
      operand.getAt (map.eval index) = result.get index) :
    (dataMovement numLoops map).run [operand] [storage.allocate result.shape] = .ok [result] := by
  have allocated := storage.shape_allocate result.shape
  have ranks := (@wellFormed_dataMovement α _ _ _ _ rank mapRank fits).ranks
  have found := @loopRanges_dataMovement α _ _ _ _ rank mapRank fits
  apply GenericOp.run_parallel allocated.symm rfl
  · rw [allocated]
    exact ranks
  · rw [allocated]
    exact found
  · intro dims args values next yielded
    change yieldFirst args values = _ at yielded
    unfold yieldFirst at yielded
    split at yielded <;> cases yielded
    rfl
  · rw [allocated]
    intro index within value
    obtain ⟨element, got, -⟩ := Tensor.get_eq within
    refine ⟨element, got, ?_⟩
    have read : (dataMovement numLoops map).read [operand] index = .ok [element] :=
      Fallible.mapM_eq_ok_iff.2 (.cons ((reads index within).trans got) .nil)
    rw [GenericOp.update, read]
    rfl

end DataMovement

section Generic

variable {shape resultShape : Sizes} {dims : List Nat}

end Generic

section Collapse

variable {operandShape : Sizes} {isExpandingDim : Nat → Bool}

end Collapse

section Programs

variable {α : Type} {shape resultShape : Sizes} {dims : List Nat}

/-- A broadcast has the elements of its input along added dimensions. -/
theorem BroadcastOp.run_eq (storage : Storage α) {op : BroadcastOp} {input result : Tensor α}
    (resultSizes : result.shape = op.resultShape)
    (inputSizes : input.shape = op.inputDims.map (op.resultShape.getD · 0))
    (elements : ∀ index, MixedRadix.Within op.resultShape index →
      input.get (op.inputDims.map (index.getD · 0)) = result.get index) :
    op.run storage input = .ok [result] := by
  rw [BroadcastOp.run, ← resultSizes]
  apply run_dataMovement storage rfl
  · rw [inputSizes, AffineMap.ofDims, List.length_map, List.length_map]
  · intro expr size listed
    rw [inputSizes, AffineMap.ofDims, List.zip_map', List.mem_map] at listed
    obtain ⟨dim, kept, same⟩ := listed
    cases same
    have inside : dim < op.resultShape.length := List.mem_range.1 (List.mem_filter.1 kept).1
    show result.shape[dim]? = _
    rw [resultSizes, List.getElem?_eq_getElem inside, List.getD_eq_getElem _ _ inside]
  · intro index within
    have coordinates : (AffineMap.ofDims op.inputDims).eval index =
        (op.inputDims.map (index.getD · 0)).map Nat.cast := by
      rw [AffineMap.eval, AffineMap.ofDims, List.map_map, List.map_map]
      rfl
    rw [coordinates, Tensor.getAt_map_natCast]
    exact elements index (resultSizes ▸ within)

end Programs

section Result

/-- The structured operation that a broadcast is converted to. -/
def BroadcastInDimOp.toGeneric (op : BroadcastInDimOp) (α : Type) : GenericOp α α :=
  hloBroadcastInDimConverter op.operandType.sizes (axes op.broadcastDimensions)
    op.resultType.sizes

end Result

end Linalg

end Stablehlo
