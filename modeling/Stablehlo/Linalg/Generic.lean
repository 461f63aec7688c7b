import Stablehlo.Reference.Reduce

/-! Structured operations on tensors: indexing maps, and loops that read and write through them. -/

namespace Stablehlo

namespace Linalg

/-- An expression for a coordinate in the indices of loops. -/
inductive AffineExpr where
  | dim (position : Nat)
  | constant (value : Int)
  | add (lhs rhs : AffineExpr)
  | mul (lhs rhs : AffineExpr)
  deriving DecidableEq, Repr

/-- The value of an expression in an iteration. -/
def AffineExpr.eval (dims : Index) : AffineExpr → Int
  | dim position => dims.getD position 0
  | constant value => value
  | add lhs rhs => lhs.eval dims + rhs.eval dims
  | mul lhs rhs => lhs.eval dims * rhs.eval dims

/-- An expression for each coordinate of an operand. -/
abbrev AffineMap := List AffineExpr

/-- The coordinates that are accessed in an iteration. -/
def AffineMap.eval (map : AffineMap) (dims : Index) : List Int :=
  map.map fun expr => expr.eval dims

/-- The map whose coordinates are indices of loops. -/
def AffineMap.ofDims (positions : List Nat) : AffineMap := positions.map .dim

/-- A computation for each iteration of some loops, on the elements that its maps select. The
outputs have one map in common, whose coordinates are indices of loops. -/
structure GenericOp (α β : Type) where
  numLoops : Nat
  inputMaps : List AffineMap
  outputDims : List Nat
  /-- What is computed from the indices of the loops and the elements of inputs and outputs. -/
  body : Index → List α → List β → Except Failure (List β)

namespace GenericOp

section Definitions

variable {α β : Type}

/-- The maps of all operands. -/
def maps (op : GenericOp α β) (numOutputs : Nat) : List AffineMap :=
  op.inputMaps ++ List.replicate numOutputs (.ofDims op.outputDims)

/-- Every operand has a dimension for each coordinate of its map. -/
def ranksMatch (op : GenericOp α β) (inputShapes outputShapes : List Sizes) : Bool :=
  (inputShapes ++ outputShapes).map List.length ==
    (op.maps outputShapes.length).map List.length

/-- The bounds of the loops: each is the size of the first dimension that it runs along. -/
def loopRanges (op : GenericOp α β) (inputShapes outputShapes : List Sizes) : Option Sizes :=
  (List.range op.numLoops).mapM fun loop =>
    ((op.maps outputShapes.length).flatten.zip (inputShapes ++ outputShapes).flatten).lookup
      (.dim loop)

/-- Read the elements of the inputs for an iteration. -/
def read (op : GenericOp α β) (inputs : List (Tensor α)) (dims : Index) :
    Except Failure (List α) :=
  (inputs.zip op.inputMaps).mapM fun (input, map) => input.getAt (map.eval dims)

/-- The coordinates in the outputs for an iteration. -/
def place (op : GenericOp α β) (dims : Index) : Index :=
  op.outputDims.map fun position => dims.getD position 0

/-- What the outputs have at their place after an iteration. -/
def update (op : GenericOp α β) (inputs : List (Tensor α)) (values : List β) (dims : Index) :
    Except Failure (List β) := do
  let args ← op.read inputs dims
  op.body dims args values

/-- Run the loops, the last one innermost. -/
def run (op : GenericOp α β) (inputs : List (Tensor α)) (outputs : List (Tensor β)) :
    Except Failure (List (Tensor β)) :=
  if op.ranksMatch (inputs.map Tensor.shape) (outputs.map Tensor.shape) then
    match op.loopRanges (inputs.map Tensor.shape) (outputs.map Tensor.shape) with
    | some ranges => (indexSpace ranges).foldlM (replaceAt op.place (op.update inputs)) outputs
    | none => .error (.fatalError "expected the shape-to-loops map to be non-null")
  else
    .error (.fatalError "expected operand rank to match the result rank of indexing_map")

/-- A coordinate of an operand goes with its size: a loop along a dimension covers it, and all other
expressions are within it. -/
def coordinateFits (ranges : Sizes) : AffineExpr → Nat → Prop
  | .dim position, size => ranges[position]? = some size
  | expr, size => ∀ dims, MixedRadix.Within ranges dims → 0 ≤ expr.eval dims ∧ expr.eval dims < size

/-- The verifier accepts the operation for operands of the shapes. -/
structure WellFormed (op : GenericOp α β) (inputShapes outputShapes : List Sizes) : Prop where
  ranks : op.ranksMatch inputShapes outputShapes = true
  ranges : ∃ ranges, op.loopRanges inputShapes outputShapes = some ranges ∧
    ∀ expr size, (expr, size) ∈
        (op.maps outputShapes.length).flatten.zip (inputShapes ++ outputShapes).flatten →
      coordinateFits ranges expr size

end Definitions

section Laws

variable {α β : Type} {op : GenericOp α β} {inputs : List (Tensor α)} {outputs : List (Tensor β)}
  {ranges shape : Sizes}

/-- Whatever the loops do, they run only when the maps fit the operands. -/
theorem run_eq (ranks : op.ranksMatch (inputs.map Tensor.shape) (outputs.map Tensor.shape) = true)
    (found : op.loopRanges (inputs.map Tensor.shape) (outputs.map Tensor.shape) = some ranges) :
    op.run inputs outputs =
      (indexSpace ranges).foldlM (replaceAt op.place (op.update inputs)) outputs := by
  rw [run, if_pos ranks, found]

/-- The elements of the results come from the iterations for their places, one after the other. -/
theorem run_eq_ok_iff {count : Nat} {cells : Index → List β} {final : List (Tensor β)}
    (ranks : op.ranksMatch (inputs.map Tensor.shape) (outputs.map Tensor.shape) = true)
    (found : op.loopRanges (inputs.map Tensor.shape) (outputs.map Tensor.shape) = some ranges)
    (inside : ∀ dims, MixedRadix.Within ranges dims → MixedRadix.Within shape (op.place dims))
    (counted : ∀ dims args values next, op.body dims args values = .ok next → next.length = count)
    (begin : HoldsCells count shape outputs cells) :
    op.run inputs outputs = .ok final ↔
      final.map Tensor.shape = List.replicate count shape ∧
        ∀ index, MixedRadix.Within shape index →
          ((indexSpace ranges).filter fun dims => decide (op.place dims = index)).foldlM
            (op.update inputs) (cells index) = readTogether final index := by
  rw [run_eq ranks found]
  refine foldlM_replaceAt_iff (fun dims listed => inside dims (MixedRadix.mem_all.1 listed)) ?_ begin
  -- What an iteration leaves is what its computation returns.
  intro dims _ values next updated
  obtain ⟨args, -, computed⟩ := Fallible.bind_eq_ok.1 updated
  exact counted dims args values next computed

/-- One output is filled with what its iterations compute. -/
theorem run_single_iff {start element : Index → β}
    (ranks : op.ranksMatch (inputs.map Tensor.shape) [shape] = true)
    (found : op.loopRanges (inputs.map Tensor.shape) [shape] = some ranges)
    (inside : ∀ dims, MixedRadix.Within ranges dims → MixedRadix.Within shape (op.place dims))
    (counted : ∀ dims args values next, op.body dims args values = .ok next → next.length = 1) :
    op.run inputs [.tabulate shape start] = .ok [.tabulate shape element] ↔
      ∀ index, MixedRadix.Within shape index →
        ((indexSpace ranges).filter fun dims => decide (op.place dims = index)).foldlM
          (op.update inputs) [start index] = .ok [element index] := by
  have holds (value : Index → β) :
      HoldsCells 1 shape [Tensor.tabulate shape value] fun index => [value index] := by
    refine ⟨rfl, fun index within => ?_⟩
    rw [readTogether, List.mapM_cons, Tensor.get_tabulate within]
    rfl
  rw [run_eq_ok_iff ranks found inside counted (holds start)]
  constructor
  · rintro ⟨-, each⟩ index within
    rw [each index within, (holds element).2 index within]
  · intro each
    refine ⟨rfl, fun index within => ?_⟩
    rw [each index within, (holds element).2 index within]

/-- The results have the shapes of the outputs. -/
theorem shapes_of_run {final : List (Tensor β)} (done : op.run inputs outputs = .ok final) :
    final.map Tensor.shape = outputs.map Tensor.shape := by
  rw [run] at done
  split at done
  · split at done
    · -- No iteration changes a shape.
      refine @Fallible.foldlM_invariant _ _ _ _ _
        (fun results => results.map Tensor.shape = outputs.map Tensor.shape) ?_ _ _ rfl done
      intro dims _ results next same stepped
      rw [replaceAt] at stepped
      obtain ⟨values, -, stepped⟩ := Fallible.bind_eq_ok.1 stepped
      obtain ⟨updated, -, stepped⟩ := Fallible.bind_eq_ok.1 stepped
      rw [shapes_of_setTogether stepped, same]
    · cases done
  · cases done

/-- A key that has one value in a list is found there. -/
theorem lookup_eq_some {items : List (AffineExpr × Nat)} {key : AffineExpr} {value : Nat}
    (listed : (key, value) ∈ items) (own : ∀ other, (key, other) ∈ items → other = value) :
    items.lookup key = some value := by
  induction items with
  | nil => cases listed
  | cons first items ih =>
    obtain ⟨firstKey, firstValue⟩ := first
    rw [List.lookup_cons]
    by_cases same : key = firstKey
    · rw [same, beq_self_eq_true, own firstValue (same ▸ List.mem_cons_self)]
    · rw [beq_false_of_ne same]
      refine ih ?_ fun other later => own other (List.mem_cons_of_mem _ later)
      rcases List.mem_cons.1 listed with here | later
      · exact absurd (congrArg Prod.fst here) same
      · exact later

/-- The loops have the bounds of a shape when it goes with all coordinates, and each loop runs along
some dimension. -/
theorem loopRanges_eq {inputShapes outputShapes : List Sizes} (rank : shape.length = op.numLoops)
    (fits : ∀ position size, (AffineExpr.dim position, size) ∈
        (op.maps outputShapes.length).flatten.zip (inputShapes ++ outputShapes).flatten →
      shape[position]? = some size)
    (along : ∀ position < op.numLoops, ∃ size, (AffineExpr.dim position, size) ∈
        (op.maps outputShapes.length).flatten.zip (inputShapes ++ outputShapes).flatten) :
    op.loopRanges inputShapes outputShapes = some shape := by
  rw [loopRanges, Fallible.mapM_eq_some_iff, List.forall₂_iff_get]
  refine ⟨by rw [List.length_range, rank], fun position inside below => ?_⟩
  rw [List.length_range] at inside
  obtain ⟨size, listed⟩ := along position inside
  have found := fits position size listed
  rw [List.getElem?_eq_getElem below, Option.some.injEq] at found
  simp only [List.get_eq_getElem, List.getElem_range]
  rw [found]
  refine lookup_eq_some listed fun other among => ?_
  -- Other dimensions of the loop have the same size.
  have same := fits position other among
  rw [List.getElem?_eq_getElem below, found, Option.some.injEq] at same
  exact same.symm

/-- The coordinate along each dimension is the index of its loop. -/
theorem mem_zip_ofDims_range {numLoops size : Nat} {expr : AffineExpr} (rank : shape.length = numLoops) :
    (expr, size) ∈ (AffineMap.ofDims (List.range numLoops)).zip shape ↔
      ∃ position, expr = .dim position ∧ shape[position]? = some size := by
  rw [List.mem_iff_getElem?]
  constructor
  · rintro ⟨position, found⟩
    rw [AffineMap.ofDims, List.getElem?_zip_eq_some, List.getElem?_map,
      Option.map_eq_some_iff] at found
    obtain ⟨⟨loop, listed, rfl⟩, there⟩ := found
    obtain ⟨_, rfl⟩ := List.getElem?_eq_some_iff.1 listed
    exact ⟨position, by rw [List.getElem_range], there⟩
  · rintro ⟨position, rfl, there⟩
    have inside : position < numLoops := rank ▸ (List.getElem?_eq_some_iff.1 there).1
    refine ⟨position, ?_⟩
    rw [AffineMap.ofDims, List.getElem?_zip_eq_some, List.getElem?_map, List.getElem?_range inside]
    exact ⟨rfl, there⟩

/-- When the outermost loops run over the outputs, each index has the iterations of the others. -/
theorem filter_place_append {rest : Sizes} (along : op.outputDims = List.range shape.length)
    {index : Index} (within : MixedRadix.Within shape index) :
    ((indexSpace (shape ++ rest)).filter fun dims => decide (op.place dims = index)) =
      (indexSpace rest).map (index ++ ·) := by
  rw [indexSpace, indexSpace, ← MixedRadix.filter_take_all within]
  refine List.filter_congr fun dims listed => ?_
  have long := (MixedRadix.mem_all.1 listed).length_eq
  rw [List.length_append] at long
  -- The place consists of the first coordinates.
  have own : op.place dims = dims.take shape.length := by
    rw [place, along]
    refine List.ext_getElem (by simp [long]) fun d inside _ => ?_
    rw [List.length_map, List.length_range] at inside
    simp [List.getD_eq_getElem?_getD, show d < dims.length by omega]
  rw [own]

/-- Loops of which the outermost run over the outputs fold over the others for each index. -/
theorem run_reduction_iff {count : Nat} {cells : Index → List β} {final : List (Tensor β)}
    {rest : Sizes} (along : op.outputDims = List.range shape.length)
    (ranks : op.ranksMatch (inputs.map Tensor.shape) (outputs.map Tensor.shape) = true)
    (found : op.loopRanges (inputs.map Tensor.shape) (outputs.map Tensor.shape) =
      some (shape ++ rest))
    (counted : ∀ dims args values next, op.body dims args values = .ok next → next.length = count)
    (begin : HoldsCells count shape outputs cells) :
    op.run inputs outputs = .ok final ↔
      final.map Tensor.shape = List.replicate count shape ∧
        ∀ index, MixedRadix.Within shape index →
          (indexSpace rest).foldlM (fun values position =>
            op.update inputs values (index ++ position)) (cells index) =
              readTogether final index := by
  have inside : ∀ dims, MixedRadix.Within (shape ++ rest) dims →
      MixedRadix.Within shape (op.place dims) := by
    intro dims within
    have long := within.length_eq
    rw [List.length_append] at long
    rw [place, along, MixedRadix.Within]
    refine List.forall₂_iff_get.2 ⟨by simp, fun d _ below => ?_⟩
    have under := (List.forall₂_iff_get.1 within).2 d (by omega) (by rw [List.length_append]; omega)
    simp only [List.get_eq_getElem, List.getElem_append_left below] at under
    simp only [List.get_eq_getElem, List.getElem_map, List.getElem_range,
      List.getD_eq_getElem?_getD, List.getElem?_eq_getElem (show d < dims.length by omega),
      Option.getD_some]
    exact under
  rw [run_eq_ok_iff ranks found inside counted begin]
  refine and_congr_right fun _ => forall_congr' fun index => forall_congr' fun within => ?_
  rw [filter_place_append along within, List.foldlM_map]

/-- Loops over an output that read nothing of it fill it with what they compute. -/
theorem run_parallel_iff {output result : Tensor β} {element : Index → Except Failure β}
    (same : result.shape = output.shape) (along : op.outputDims = List.range op.numLoops)
    (ranks : op.ranksMatch (inputs.map Tensor.shape) [output.shape] = true)
    (found : op.loopRanges (inputs.map Tensor.shape) [output.shape] = some output.shape)
    (counted : ∀ dims args values next, op.body dims args values = .ok next → next.length = 1)
    (computed : ∀ index, MixedRadix.Within output.shape index → ∀ value,
      op.update inputs [value] index = (element index).map fun own => [own]) :
    op.run inputs [output] = .ok [result] ↔
      ∀ index, MixedRadix.Within output.shape index → element index = result.get index := by
  have rank : output.shape.length = op.numLoops := by
    simp only [ranksMatch, maps, List.map_append, List.map_cons, List.map_nil, along,
      AffineMap.ofDims, List.length_singleton, List.replicate_one, List.length_map,
      List.length_range, beq_iff_eq] at ranks
    exact (List.cons.inj (List.append_inj' ranks rfl).2).1
  have each : ∀ index, ∃ values, MixedRadix.Within output.shape index →
      readTogether [output] index = .ok values ∧ ∃ value, values = [value] := by
    intro index
    by_cases within : MixedRadix.Within output.shape index
    · obtain ⟨value, got, -⟩ := Tensor.get_eq within
      refine ⟨[value], fun _ => ⟨?_, value, rfl⟩⟩
      rw [readTogether, List.mapM_cons, got]
      rfl
    · exact ⟨[], fun inside => absurd inside within⟩
  choose cells reads using each
  have begin : HoldsCells 1 output.shape [output] cells :=
    ⟨rfl, fun index within => (reads index within).1⟩
  have shapes : [result].map Tensor.shape = List.replicate 1 output.shape :=
    congrArg (fun shape => [shape]) same
  rw [run_reduction_iff (rank ▸ along) ranks (found.trans (by rw [List.append_nil])) counted begin,
    and_iff_right shapes]
  refine forall_congr' fun index => forall_congr' fun within => ?_
  obtain ⟨value, only⟩ := (reads index within).2
  -- The only iteration for an index leaves the element that is computed there.
  obtain ⟨stored, got, -⟩ :=
    Tensor.get_eq (same.symm ▸ within : MixedRadix.Within result.shape index)
  rw [show indexSpace [] = [[]] from rfl, only, List.foldlM_cons, List.append_nil,
    computed index within, readTogether, List.mapM_cons, got]
  cases element index with
  | error failure =>
    constructor <;> intro equal <;> cases equal
  | ok own =>
    show (.ok [own] : Except Failure (List β)) = .ok [stored] ↔ _
    simp

/-- Loops over an output of its shape give a result when they compute its elements. -/
theorem run_parallel {output result : Tensor β} (same : result.shape = output.shape)
    (along : op.outputDims = List.range op.numLoops)
    (ranks : op.ranksMatch (inputs.map Tensor.shape) [output.shape] = true)
    (found : op.loopRanges (inputs.map Tensor.shape) [output.shape] = some output.shape)
    (counted : ∀ dims args values next, op.body dims args values = .ok next → next.length = 1)
    (computed : ∀ index, MixedRadix.Within output.shape index → ∀ value, ∃ element,
      result.get index = .ok element ∧ op.update inputs [value] index = .ok [element]) :
    op.run inputs [output] = .ok [result] := by
  refine (@run_parallel_iff _ _ _ _ output result result.get same along ranks found counted ?_).2
    fun index within => rfl
  intro index within value
  obtain ⟨element, got, next⟩ := computed index within value
  rw [got, next]
  rfl

end Laws

end GenericOp

end Linalg

end Stablehlo
