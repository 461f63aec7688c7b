import Stablehlo.Linalg.EinsumConfig

/-! When the conversion of einsum computes the sums that its config asks for. -/

namespace Stablehlo

namespace Linalg

section Building

/-- Whether the size of a label is asked for: in the first operand that has the label, the dimension
at its first place is dynamic. -/
def EinsumLabels.isAsked (labels : EinsumLabels) (op : EinsumOp) (label : String) : Bool :=
  if label ∈ labels.lhs then op.lhsType.shape[labels.lhs.idxOf label]? = some none
  else op.rhsType.shape[labels.rhs.idxOf label]? = some none

/-- The dimension of an operand that has the label. -/
def EinsumLabels.dimensionOf (labels : EinsumLabels) (label : String) : Nat × Nat :=
  if label ∈ labels.lhs then (0, labels.lhs.idxOf label) else (1, labels.rhs.idxOf label)

/-- What is built for labels. -/
def EinsumLabels.program (labels : EinsumLabels) (op : EinsumOp) : EinsumProgram where
  lhsType := convertType op.lhsType
  rhsType := convertType op.rhsType
  resultType := convertType op.resultType
  dynSizes := (labels.out.filter (labels.isAsked op)).map labels.dimensionOf
  accumulates := !labels.summed.isEmpty
  numLoops := labels.inputs.length
  lhsMap := labels.lhs.map labels.inputs.idxOf
  rhsMap := labels.rhs.map labels.inputs.idxOf
  outMap := labels.out.map labels.inputs.idxOf

/-- The labels are as many as the types have dimensions. -/
structure EinsumLabels.Ranks (labels : EinsumLabels) (op : EinsumOp) : Prop where
  lhs : labels.lhs.length = op.lhsType.shape.length
  rhs : labels.rhs.length = op.rhsType.shape.length
  out : labels.out.length = op.resultType.shape.length

variable {labels : EinsumLabels} {op : EinsumOp}

/-- The labels of the operands are those of the first and those of the second one. -/
@[simp] theorem EinsumLabels.mem_inputs {label : String} :
    label ∈ labels.inputs ↔ label ∈ labels.lhs ∨ label ∈ labels.rhs := by
  simp [EinsumLabels.inputs]

/-- A dimension within the shape is asked for when it is dynamic. -/
theorem askSize_eq {operand dimIndPos : Nat} {shape : List (Option Nat)}
    (inside : dimIndPos < shape.length) :
    askSize operand shape dimIndPos =
      .ok (if shape[dimIndPos]? = some none then some (operand, dimIndPos) else none) := by
  rw [askSize, List.getElem?_eq_getElem inside]
  cases shape[dimIndPos] <;> simp

/-- The sizes of labels of the operands are asked for where they are dynamic. -/
theorem extractDynamicEinsumSizes_eq (ranks : labels.Ranks op)
    (known : ∀ label ∈ labels.out, label ∈ labels.inputs) :
    extractDynamicEinsumSizes op.lhsType.shape op.rhsType.shape labels.lhs labels.rhs labels.out =
      .ok ((labels.out.filter (labels.isAsked op)).map labels.dimensionOf) := by
  have each : labels.out.mapM (fun dimInd =>
      if dimInd ∈ labels.lhs then askSize 0 op.lhsType.shape (labels.lhs.idxOf dimInd)
      else askSize 1 op.rhsType.shape (labels.rhs.idxOf dimInd)) =
      .ok (labels.out.map fun label =>
        if labels.isAsked op label then some (labels.dimensionOf label) else none) := by
    apply Fallible.mapM_eq_ok_map
    intro label listed
    rw [EinsumLabels.isAsked, EinsumLabels.dimensionOf]
    -- The label is looked for in the first operand, and then in the second one.
    by_cases early : label ∈ labels.lhs
    · rw [if_pos early, if_pos early, if_pos early,
        askSize_eq (ranks.lhs ▸ List.idxOf_lt_length_iff.2 early)]
      simp
    · have late : label ∈ labels.rhs :=
        (EinsumLabels.mem_inputs.1 (known label listed)).resolve_left early
      rw [if_neg early, if_neg early, if_neg early,
        askSize_eq (ranks.rhs ▸ List.idxOf_lt_length_iff.2 late)]
      simp
  rw [extractDynamicEinsumSizes, each]
  show Except.ok _ = _
  rw [List.filterMap_map, ← List.filterMap_eq_map, List.filterMap_filter]
  rfl

/-- Labels have expressions exactly when they occur in the operands. -/
theorem getExprFromConfig_eq_ok_iff {inputInd dims : List String} {exprs : List Nat} :
    getExprFromConfig inputInd dims = .ok exprs ↔
      (∀ dim ∈ dims, dim ∈ inputInd) ∧ exprs = dims.map inputInd.idxOf := by
  rw [getExprFromConfig, Fallible.mapM_eq_ok_iff]
  constructor
  · intro each
    induction each with
    | nil => exact ⟨by simp, rfl⟩
    | cons first _ ih =>
      split at first
      · next listed =>
        cases first
        exact ⟨List.forall_mem_cons.2 ⟨listed, ih.1⟩, by rw [List.map_cons, ih.2]⟩
      · cases first
  · rintro ⟨known, rfl⟩
    rw [List.forall₂_map_right_iff]
    exact List.forall₂_same.2 fun dim listed => if_pos (known dim listed)

/-- The labels that are summed over do not depend on how often a label is in the result. -/
theorem findSummationAxes_eq :
    findSummationAxes labels.inputs (Labels.insertAll [] labels.out) = labels.summed := by
  apply List.filter_congr
  intro label _
  simp [List.contains_eq_mem]

/-- Operations are built for labels that have dimensions and occur in the operands. -/
theorem EinsumOp.build_eq (ranks : labels.Ranks op)
    (known : ∀ label ∈ labels.out, label ∈ labels.inputs) :
    op.build labels.lhs labels.rhs labels.out = .ok (labels.program op) := by
  have lhsExprs := (@getExprFromConfig_eq_ok_iff labels.inputs labels.lhs _).2
    ⟨fun label listed => EinsumLabels.mem_inputs.2 (.inl listed), rfl⟩
  have rhsExprs := (@getExprFromConfig_eq_ok_iff labels.inputs labels.rhs _).2
    ⟨fun label listed => EinsumLabels.mem_inputs.2 (.inr listed), rfl⟩
  have outExprs := (@getExprFromConfig_eq_ok_iff labels.inputs labels.out _).2 ⟨known, rfl⟩
  have summed := @findSummationAxes_eq labels
  rw [EinsumLabels.inputs] at lhsExprs rhsExprs outExprs summed
  rw [EinsumOp.build, extractDynamicEinsumSizes_eq ranks known]
  simp only [Fallible.ok_bind, lhsExprs, rhsExprs, outExprs, summed]
  rfl

/-- The maps that are built have an expression for each label. -/
theorem EinsumOp.of_build {program : EinsumProgram}
    (built : op.build labels.lhs labels.rhs labels.out = .ok program) :
    program.lhsMap.length = labels.lhs.length ∧ program.rhsMap.length = labels.rhs.length ∧
      program.outMap.length = labels.out.length ∧
      program.lhsType = convertType op.lhsType ∧ program.rhsType = convertType op.rhsType ∧
        program.resultType = convertType op.resultType := by
  rw [EinsumOp.build] at built
  obtain ⟨dynSizes, -, built⟩ := Fallible.bind_eq_ok.1 built
  obtain ⟨lhsMap, lhsExprs, built⟩ := Fallible.bind_eq_ok.1 built
  obtain ⟨rhsMap, rhsExprs, built⟩ := Fallible.bind_eq_ok.1 built
  obtain ⟨outMap, outExprs, built⟩ := Fallible.bind_eq_ok.1 built
  cases built
  rw [getExprFromConfig_eq_ok_iff] at lhsExprs rhsExprs outExprs
  refine ⟨?_, ?_, ?_, rfl, rfl, rfl⟩
  · rw [lhsExprs.2, List.length_map]
  · rw [rhsExprs.2, List.length_map]
  · rw [outExprs.2, List.length_map]

/-- Each label has its own loop. -/
theorem EinsumLabels.mapped_program : labels.Mapped (labels.program op) := by
  refine ⟨labels.inputs.idxOf, ?_, ?_, rfl, rfl, rfl⟩
  · intro label listed
    exact List.idxOf_lt_length_iff.2 listed
  · intro label listed other _ same
    exact (List.idxOf_inj listed).1 same

end Building

section Running

/-- The sizes of the dynamic dimensions. -/
def dynamicSizes (sizes : Sizes) (shape : List (Option Nat)) : List Nat :=
  ((sizes.zip shape).filter fun (_, dim) => dim.isNone).map Prod.fst

/-- An empty tensor has the sizes when the dynamic ones are asked for in order. -/
theorem emptyShape_eq_some_iff {sizes values : List Nat} {shape : List (Option Nat)}
    (described : List.Forall₂ (fun size dim => dim = none ∨ dim = some size) sizes shape) :
    emptyShape shape values = some sizes ↔ values = dynamicSizes sizes shape := by
  induction described generalizing values with
  | nil => cases values <;> simp [emptyShape, dynamicSizes]
  | @cons size dim sizes shape first _ ih =>
    rw [dynamicSizes] at ih
    rcases first with rfl | rfl
    · -- A dynamic dimension has the next size that was asked for.
      cases values with
      | nil => simp [emptyShape, dynamicSizes]
      | cons value values =>
        simp only [emptyShape, Option.map_eq_some_iff, List.cons.injEq, dynamicSizes,
          List.zip_cons_cons, Option.isNone_none, List.filter_cons_of_pos, List.map_cons]
        constructor
        · rintro ⟨rest, found, rfl, rfl⟩
          exact ⟨rfl, ih.1 found⟩
        · rintro ⟨rfl, rest⟩
          exact ⟨sizes, ih.2 rest, rfl, rfl⟩
    · have skipped : dynamicSizes (size :: sizes) (some size :: shape) =
          dynamicSizes sizes shape := by
        simp [dynamicSizes]
      rw [skipped, dynamicSizes, ← ih]
      cases values <;> simp [emptyShape]

variable {R : Type} [Add R] [Mul R] {labels : EinsumLabels} {op : EinsumOp}
  {size : String → Nat} {lhs rhs : Index → R}

/-- Labels whose expressions are the same are the same. -/
theorem lookup_map_eq {α : Type} {key : α → AffineExpr} {value : α → Nat} {items : List α} {item : α}
    (listed : item ∈ items) (own : ∀ other ∈ items, key other = key item → other = item) :
    (items.map fun other => (key other, value other)).lookup (key item) = some (value item) := by
  induction items with
  | nil => cases listed
  | cons first items ih =>
    rw [List.map_cons, List.lookup_cons]
    by_cases same : key item = key first
    · rw [same, beq_self_eq_true, own first List.mem_cons_self same.symm]
    · rw [beq_false_of_ne same]
      refine ih ?_ fun other later => own other (List.mem_cons_of_mem first later)
      rcases List.mem_cons.1 listed with rfl | later
      · exact absurd rfl same
      · exact later

/-- The loops are bounded by the sizes of the labels of the operands. -/
theorem loopRanges_generic :
    ((labels.program op).generic : GenericOp R (Option R)).loopRanges
        [labels.lhs.map size, labels.rhs.map size] [labels.out.map size] =
      some (labels.inputs.map size) := by
  have distinct : labels.inputs.Nodup := Labels.nodup_insertAll (Labels.nodup_insertAll .nil)
  have loops : List.range labels.inputs.length = labels.inputs.map labels.inputs.idxOf := by
    apply List.ext_getElem (by simp)
    intro place below _
    simp [distinct.idxOf_getElem]
  -- The coordinates of operands and result, each with the size of its label.
  have coordinates : (((labels.program op).generic : GenericOp R (Option R)).maps 1).flatten.zip
      [labels.lhs.map size, labels.rhs.map size, labels.out.map size].flatten =
      (labels.lhs ++ (labels.rhs ++ labels.out)).map fun label =>
        (AffineExpr.dim (labels.inputs.idxOf label), size label) := by
    rw [← List.zip_map']
    congr 1
    · simp [GenericOp.maps, EinsumProgram.generic, EinsumLabels.program, AffineMap.ofDims,
        Function.comp_def]
    · simp
  rw [GenericOp.loopRanges]
  dsimp only [List.length_singleton, List.cons_append, List.nil_append]
  rw [coordinates, Fallible.mapM_eq_some_iff]
  show List.Forall₂ _ (List.range labels.inputs.length) _
  rw [loops, List.forall₂_map_left_iff, List.forall₂_map_right_iff]
  refine List.forall₂_same.2 fun label listed => @lookup_map_eq _
    (fun label => AffineExpr.dim (labels.inputs.idxOf label)) size _ label ?_ ?_
  · rcases EinsumLabels.mem_inputs.1 listed with early | late <;> simp [*]
  · -- Labels that occur in the operands have loops of their own.
    intro other among same
    refine ((List.idxOf_inj listed).1 (AffineExpr.dim.inj same).symm).symm

/-- Each operand has a dimension for each of its labels. -/
theorem ranksMatch_generic :
    ((labels.program op).generic : GenericOp R (Option R)).ranksMatch
      [labels.lhs.map size, labels.rhs.map size] [labels.out.map size] = true := by
  simp [GenericOp.ranksMatch, GenericOp.maps, EinsumProgram.generic, EinsumLabels.program,
    AffineMap.ofDims]

/-- The element of the result that an iteration writes is at the values of its labels. -/
theorem place_generic (dims : Index) :
    ((labels.program op).generic : GenericOp R (Option R)).place dims =
      labels.out.map (Labels.valuation labels.inputs dims) := by
  show (labels.out.map labels.inputs.idxOf).map _ = _
  rw [List.map_map]
  rfl

/-- The product that an iteration computes. -/
def productAt (labels : EinsumLabels) (lhs rhs : Index → R) (dims : Index) : R :=
  lhs (labels.lhs.map (Labels.valuation labels.inputs dims)) *
    rhs (labels.rhs.map (Labels.valuation labels.inputs dims))

/-- An iteration reads the elements at the values of the labels. -/
theorem read_generic {dims : Index}
    (within : MixedRadix.Within (labels.inputs.map size) dims) :
    ((labels.program op).generic : GenericOp R (Option R)).read
        [.tabulate (labels.lhs.map size) lhs, .tabulate (labels.rhs.map size) rhs] dims =
      .ok [lhs (labels.lhs.map (Labels.valuation labels.inputs dims)),
        rhs (labels.rhs.map (Labels.valuation labels.inputs dims))] := by
  have one (own : List String) (listed : ∀ label ∈ own, label ∈ labels.inputs)
      (element : Index → R) :
      (Tensor.tabulate (own.map size) element).getAt
          ((AffineMap.ofDims (own.map labels.inputs.idxOf)).eval dims) =
        .ok (element (own.map (Labels.valuation labels.inputs dims))) := by
    have coordinates : (AffineMap.ofDims (own.map labels.inputs.idxOf)).eval dims =
        (own.map (Labels.valuation labels.inputs dims)).map Nat.cast := by
      rw [AffineMap.eval, AffineMap.ofDims, List.map_map, List.map_map, List.map_map]
      rfl
    rw [coordinates, Tensor.getAt_map_natCast,
      Tensor.get_tabulate (Labels.within_map_valuation within listed)]
  have first := one labels.lhs (fun label listed => EinsumLabels.mem_inputs.2 (.inl listed)) lhs
  have second := one labels.rhs (fun label listed => EinsumLabels.mem_inputs.2 (.inr listed)) rhs
  exact Fallible.mapM_eq_ok_iff.2 (.cons first (.cons second .nil))

/-- An iteration replaces the element by the product, or adds the product to it. -/
theorem update_generic {dims : Index} (within : MixedRadix.Within (labels.inputs.map size) dims)
    (out : Option R) :
    ((labels.program op).generic : GenericOp R (Option R)).update
        [.tabulate (labels.lhs.map size) lhs, .tabulate (labels.rhs.map size) rhs] [out] dims =
      if labels.summed = [] then .ok [some (productAt labels lhs rhs dims)]
      else match out with
        | some sum => .ok [some (sum + productAt labels lhs rhs dims)]
        | none => .error .undefinedBehavior := by
  rw [GenericOp.update, read_generic within]
  show (if (!labels.summed.isEmpty) = true then _ else _) = _
  by_cases none : labels.summed = []
  · rw [if_pos none, none]
    rfl
  · rw [if_neg none, if_pos (by simpa using none)]
    rfl

/-- Iterations that add do so one after the other. -/
theorem foldlM_update_summed (some : labels.summed ≠ []) {iterations : List Index}
    (within : ∀ dims ∈ iterations, MixedRadix.Within (labels.inputs.map size) dims) (sum : R) :
    iterations.foldlM (((labels.program op).generic : GenericOp R (Option R)).update
        [.tabulate (labels.lhs.map size) lhs, .tabulate (labels.rhs.map size) rhs])
        [Option.some sum] =
      .ok [Option.some ((iterations.map (productAt labels lhs rhs)).foldl (· + ·) sum)] := by
  induction iterations generalizing sum with
  | nil => rfl
  | cons dims iterations ih =>
    rw [List.forall_mem_cons] at within
    rw [List.foldlM_cons, update_generic within.1, if_neg some]
    exact ih within.2 _

/-- Without a label that is summed over, all labels are labels of the result. -/
theorem EinsumLabels.shown_of_summed (none : labels.summed = []) {label : String}
    (listed : label ∈ labels.inputs) : label ∈ labels.out := by
  by_contra absent
  have among : label ∈ labels.summed := by
    simp [EinsumLabels.summed, List.contains_eq_mem, absent, EinsumLabels.mem_inputs.1 listed]
  rw [none] at among
  cases among

/-- Without a label that is summed over, the index of the result gives the values of all labels. -/
theorem iteration_unique (none : labels.summed = []) {first second : Index}
    (firstWithin : MixedRadix.Within (labels.inputs.map size) first)
    (secondWithin : MixedRadix.Within (labels.inputs.map size) second)
    (same : labels.out.map (Labels.valuation labels.inputs first) =
      labels.out.map (Labels.valuation labels.inputs second)) : first = second := by
  have distinct : labels.inputs.Nodup := Labels.nodup_insertAll (Labels.nodup_insertAll .nil)
  have long {dims : Index} (within : MixedRadix.Within (labels.inputs.map size) dims) :
      dims.length = labels.inputs.length := by
    rw [within.length_eq, List.length_map]
  rw [← Labels.map_valuation distinct (long firstWithin),
    ← Labels.map_valuation distinct (long secondWithin)]
  apply List.map_congr_left
  intro label listed
  exact List.map_inj_left.1 same label (EinsumLabels.shown_of_summed none listed)

/-- The products of the iterations for an index are those of the selected elements. -/
theorem map_productAt (index : Index) :
    ((indexSpace (labels.inputs.map size)).filter fun dims =>
        decide (((labels.program op).generic : GenericOp R (Option R)).place dims = index)).map
        (productAt labels lhs rhs) =
      (labels.selecting size index).map fun values =>
        lhs (labels.lhs.map values) * rhs (labels.rhs.map values) := by
  rw [EinsumLabels.selecting, ← Labels.map_valuation_all, List.filter_map, List.map_map]
  simp only [place_generic]
  rfl

/-- The indices that an index of the result is selected by. -/
theorem exists_iteration_iff (known : ∀ label ∈ labels.out, label ∈ labels.inputs)
    (none : labels.summed = []) {index : Index}
    (within : MixedRadix.Within (labels.out.map size) index) :
    (∃ values : String → Nat, labels.out.map values = index) ↔
      ∃ dims, MixedRadix.Within (labels.inputs.map size) dims ∧
        labels.out.map (Labels.valuation labels.inputs dims) = index := by
  constructor
  · rintro ⟨values, rfl⟩
    have below : ∀ label ∈ labels.out, values label < size label := by
      rw [MixedRadix.Within, List.forall₂_map_left_iff, List.forall₂_map_right_iff] at within
      exact List.forall₂_same.1 within
    refine ⟨labels.inputs.map values, ?_, ?_⟩
    · rw [MixedRadix.Within, List.forall₂_map_left_iff, List.forall₂_map_right_iff]
      exact List.forall₂_same.2 fun label listed =>
        below label (EinsumLabels.shown_of_summed none listed)
    · apply List.map_congr_left
      intro label shown
      exact Labels.valuation_map values (known label shown)
  · rintro ⟨dims, -, same⟩
    exact ⟨_, same⟩

variable [Zero R]

/-- The structured operation computes the sums when it writes all elements. -/
theorem run_generic_iff (known : ∀ label ∈ labels.out, label ∈ labels.inputs) :
    ((labels.program op).generic : GenericOp R (Option R)).run
        [.tabulate (labels.lhs.map size) lhs, .tabulate (labels.rhs.map size) rhs]
        [.tabulate (labels.out.map size) fun _ =>
          if (labels.program op).accumulates then some 0 else none] =
      .ok [.tabulate (labels.out.map size) fun index =>
        some (labels.element size lhs rhs index)] ↔
    (labels.summed = [] → ∀ index, MixedRadix.Within (labels.out.map size) index →
      ∃ values : String → Nat, labels.out.map values = index) := by
  have counted : ∀ dims args values next,
      ((labels.program op).generic : GenericOp R (Option R)).body dims args values = .ok next →
        next.length = 1 := by
    intro dims args values next computed
    simp only [EinsumProgram.generic] at computed
    split at computed
    · split at computed
      · split at computed <;> cases computed
        rfl
      · cases computed
        rfl
    · cases computed
  rw [GenericOp.run_single_iff ranksMatch_generic loopRanges_generic ?_ counted]
  · -- The iterations for an index, and what they multiply.
    let iterations (index : Index) := (indexSpace (labels.inputs.map size)).filter fun dims =>
      decide (((labels.program op).generic : GenericOp R (Option R)).place dims = index)
    have listed (index dims : Index) : dims ∈ iterations index ↔
        MixedRadix.Within (labels.inputs.map size) dims ∧
          labels.out.map (Labels.valuation labels.inputs dims) = index := by
      rw [List.mem_filter, indexSpace, MixedRadix.mem_all, place_generic, decide_eq_true_eq]
    have products (index : Index) : labels.element size lhs rhs index =
        sumOver (!labels.summed.isEmpty) ((iterations index).map (productAt labels lhs rhs)) := by
      rw [EinsumLabels.element, ← @map_productAt _ _ _ labels op]
    by_cases none : labels.summed = []
    · refine (forall₂_congr fun index within => ?_).trans ⟨fun all _ => all, fun all => all none⟩
      rw [exists_iteration_iff known none within, products index]
      have start : (if (labels.program op).accumulates = true then some (0 : R) else Option.none) =
          Option.none := by
        rw [EinsumLabels.program, none]
        rfl
      rw [start]
      change (iterations index).foldlM _ _ = _ ↔ _
      cases found : iterations index with
      | nil =>
        -- The element is never written.
        refine iff_of_false (fun same => by cases same) ?_
        rintro ⟨dims, member⟩
        rw [← listed, found] at member
        cases member
      | cons dims rest =>
        have first := (listed index dims).1 (found ▸ List.mem_cons_self)
        have distinct : (iterations index).Nodup := (MixedRadix.nodup_all _).filter _
        -- No other iteration writes the element.
        have alone : rest = [] := by
          apply List.eq_nil_iff_forall_not_mem.2
          intro other later
          have second := (listed index other).1 (found ▸ List.mem_cons_of_mem dims later)
          rw [found, List.nodup_cons] at distinct
          have same := iteration_unique none first.1 second.1 (first.2.trans second.2.symm)
          exact distinct.1 (same ▸ later)
        refine iff_of_true ?_ ⟨dims, first⟩
        rw [alone, List.foldlM_cons, update_generic first.1, if_pos none, none]
        rfl
    · refine iff_of_true (fun index within => ?_) fun absent => absurd absent none
      have start : (if (labels.program op).accumulates = true then some (0 : R) else Option.none) =
          some 0 := if_pos (by simpa [EinsumLabels.program] using none)
      rw [start, foldlM_update_summed none fun dims member => ((listed index dims).1 member).1,
        products index]
      have summed : (!labels.summed.isEmpty) = true := by simpa using none
      rw [summed]
      rfl
  · intro dims within
    rw [place_generic]
    exact Labels.within_map_valuation within known

/-- The sizes of the labels are those of the dimensions that are asked. -/
theorem sizes_of_dimensions (known : ∀ label ∈ labels.out, label ∈ labels.inputs) :
    ((labels.program op).dynSizes.map fun (operand, position) =>
        ([labels.lhs.map size, labels.rhs.map size].getD operand []).getD position 0) =
      (labels.out.filter (labels.isAsked op)).map size := by
  show ((labels.out.filter (labels.isAsked op)).map labels.dimensionOf).map _ = _
  rw [List.map_map]
  apply List.map_congr_left
  intro label asked
  have listed := known label (List.mem_filter.1 asked).1
  -- The dimension at the place of a label has its size.
  have place {own : List String} (member : label ∈ own) :
      (own.map size).getD (own.idxOf label) 0 = size label := by
    have inside : own.idxOf label < own.length := List.idxOf_lt_length_iff.2 member
    rw [List.getD_eq_getElem _ _ (by rw [List.length_map]; exact inside), List.getElem_map,
      List.getElem_idxOf]
  rw [Function.comp_apply, EinsumLabels.dimensionOf]
  by_cases early : label ∈ labels.lhs
  · rw [if_pos early]
    exact place early
  · rw [if_neg early]
    exact place ((EinsumLabels.mem_inputs.1 listed).resolve_left early)

/-- What is built computes the sums when it asks for the right sizes and writes all elements. -/
theorem run_program_iff (known : ∀ label ∈ labels.out, label ∈ labels.inputs)
    (described : op.resultType.Describes (labels.out.map size)) :
    (labels.program op).run (.tabulate (labels.lhs.map size) lhs)
        (.tabulate (labels.rhs.map size) rhs) =
      .ok [.tabulate (labels.out.map size) fun index =>
        some (labels.element size lhs rhs index)] ↔
    (labels.out.filter (labels.isAsked op)).map size =
        dynamicSizes (labels.out.map size) op.resultType.shape ∧
      (labels.summed = [] → ∀ index, MixedRadix.Within (labels.out.map size) index →
        ∃ values : String → Nat, labels.out.map values = index) := by
  rw [← emptyShape_eq_some_iff described, ← sizes_of_dimensions known]
  unfold EinsumProgram.run
  dsimp only
  have same : (labels.program op).resultType.shape = op.resultType.shape := rfl
  rw [same]
  constructor
  · intro done
    split at done
    · next shape found =>
      -- The result has the shape of the empty tensor.
      have shapes := GenericOp.shapes_of_run done
      have shaped : labels.out.map size = shape := (List.cons.inj shapes).1
      subst shaped
      exact ⟨found, (run_generic_iff known).1 done⟩
    · cases done
  · rintro ⟨found, covered⟩
    change emptyShape _ ((labels.program op).dynSizes.map fun (operand, position) =>
      ([labels.lhs.map size, labels.rhs.map size].getD operand []).getD position 0) = _ at found
    have found' : emptyShape op.resultType.shape
        ((labels.program op).dynSizes.map fun (operand, position) =>
          ([(Tensor.tabulate (labels.lhs.map size) lhs).shape,
            (Tensor.tabulate (labels.rhs.map size) rhs).shape].getD operand []).getD position 0) =
        some (labels.out.map size) := found
    rw [found']
    exact (run_generic_iff known).2 covered

end Running

section Main

namespace EinsumConfig

variable (config : EinsumConfig) (op : EinsumOp)

/-- The batch ranks that the check of the ellipses takes into account. An ellipsis of rank three is
as long as the dots that it is written with, and is left out. -/
def countedRanks : List Int :=
  [countedBatchRank (config.lhs.expandedRank op.lhsType.shape.length) config.lhs.text,
    countedBatchRank (config.rhs.expandedRank op.rhsType.shape.length) config.rhs.text,
    countedBatchRank (config.out.expandedRank op.resultType.shape.length)
      config.out.text].filterMap id

/-- The elements of the result are no integers or floats, or ellipses differ in rank visibly. -/
def Rejected : Prop :=
  isSignlessIntOrFloat (removeSign op.resultType.elementType) = false ∨
    ∃ first ∈ config.countedRanks op, ∃ second ∈ config.countedRanks op, first ≠ second

/-- What an einsum has to meet so that its conversion computes the sums. -/
structure Supported : Prop where
  fits : config.Fits op
  known : config.Known op
  consistent : config.Consistent op
  short : config.lhs.Short ∧ config.rhs.Short ∧ config.out.Short
  /-- All elements are floats of one type. -/
  elements : isFloat op.lhsType.elementType = true ∧
    op.lhsType.elementType = op.rhsType.elementType ∧
      op.lhsType.elementType = op.resultType.elementType
  /-- As many sizes are asked for as the result has dynamic dimensions. -/
  asked : ((config.labels op).out.filter ((config.labels op).isAsked op)).length =
    op.resultType.shape.count none
  /-- The sizes that are asked for are those of the dynamic dimensions. -/
  asked_sizes : ∀ size, (config.labels op).Allows op size →
    ((config.labels op).out.filter ((config.labels op).isAsked op)).map size =
      dynamicSizes ((config.labels op).out.map size) op.resultType.shape
  /-- Unless a label is summed over, the labels have values for each index of the result. -/
  covered : ∀ size, (config.labels op).Allows op size → (config.labels op).summed = [] →
    ∀ index, MixedRadix.Within ((config.labels op).out.map size) index →
      ∃ values : String → Nat, (config.labels op).out.map values = index

/-- The labels that are made out of the texts. -/
def expanded : EinsumLabels where
  lhs := getEinsumConfigAsVector config.lhs.text op.lhsType.shape.length
  rhs := getEinsumConfigAsVector config.rhs.text op.rhsType.shape.length
  out := getEinsumConfigAsVector config.out.text op.resultType.shape.length

end EinsumConfig

variable {config : EinsumConfig} {op : EinsumOp}

/-- The check of the ellipses compares all ranks that it takes into account. -/
theorem checkBatchHasEqualRank_iff {lhsRank rhsRank outRank : Nat}
    {lhsLoop rhsLoop outLoop : List Char} :
    checkBatchHasEqualRank lhsRank lhsLoop rhsRank rhsLoop outRank outLoop = true ↔
      ∀ first ∈ [countedBatchRank lhsRank lhsLoop, countedBatchRank rhsRank rhsLoop,
          countedBatchRank outRank outLoop].filterMap id,
        ∀ second ∈ [countedBatchRank lhsRank lhsLoop, countedBatchRank rhsRank rhsLoop,
          countedBatchRank outRank outLoop].filterMap id, first = second := by
  rw [checkBatchHasEqualRank]
  generalize [countedBatchRank lhsRank lhsLoop, countedBatchRank rhsRank rhsLoop,
    countedBatchRank outRank outLoop].filterMap id = ranks
  -- Fewer than two ranks are equal anyway.
  match ranks with
  | [] => simp
  | [rank] => simp
  | first :: second :: rest =>
    simp only [List.length_cons, List.head?_cons]
    rw [if_neg (by omega)]
    simp only [List.all_eq_true, beq_iff_eq, Option.some.injEq]
    constructor
    · intro all one oneListed other otherListed
      rw [all one oneListed, all other otherListed]
    · intro all one listed
      exact all one listed first List.mem_cons_self

/-- The three parts of a config have letters only, and fit into memory with it. -/
theorem EinsumConfig.sides (written : op.config = config.text) :
    ((∀ char ∈ config.lhs.chars, char.isAlpha = true) ∧ config.lhs.text.length < 2 ^ 63) ∧
      ((∀ char ∈ config.rhs.chars, char.isAlpha = true) ∧ config.rhs.text.length < 2 ^ 63) ∧
        (∀ char ∈ config.out.chars, char.isAlpha = true) ∧ config.out.text.length < 2 ^ 63 := by
  have alpha := config.alpha
  simp only [List.mem_append, or_imp, forall_and] at alpha
  obtain ⟨⟨lhsAlpha, rhsAlpha⟩, outAlpha⟩ := alpha
  have small := op.config_small
  rw [written, EinsumConfig.text] at small
  simp only [List.length_append] at small
  exact ⟨⟨lhsAlpha, by omega⟩, ⟨rhsAlpha, by omega⟩, outAlpha, by omega⟩

/-- An einsum is converted as far as its elements and its ellipses let it. -/
theorem EinsumOp.matchAndRewrite_eq (written : op.config = config.text) :
    op.matchAndRewrite =
      if isSignlessIntOrFloat (removeSign op.resultType.elementType) = false then
        .matchFailure "Invalid result type"
      else if ∃ first ∈ config.countedRanks op, ∃ second ∈ config.countedRanks op,
          first ≠ second then
        .matchFailure "Invalid elipsis('...') within einsum config!"
      else match op.build (config.expanded op).lhs (config.expanded op).rhs
          (config.expanded op).out with
        | .ok program => .replacedBy program
        | .error _ => .undefinedBehavior := by
  obtain ⟨⟨lhsAlpha, lhsSmall⟩, ⟨rhsAlpha, rhsSmall⟩, outAlpha, outSmall⟩ :=
    EinsumConfig.sides written
  have small := op.config_small
  rw [written] at small
  have noComma : find kComma config.rhs.text = none ∧ find kComma config.out.text = none :=
    ⟨find_eq_none (EinsumSide.not_mem_text rhsAlpha (by decide) (by decide)),
      find_eq_none (EinsumSide.not_mem_text outAlpha (by decide) (by decide))⟩
  have noArrow : find kArrow config.out.text = none :=
    find_eq_none (EinsumSide.not_mem_text outAlpha (by decide) (by decide))
  have check := @checkBatchHasEqualRank_iff (config.lhs.expandedRank op.lhsType.shape.length)
    (config.rhs.expandedRank op.rhsType.shape.length)
    (config.out.expandedRank op.resultType.shape.length)
    config.lhs.text config.rhs.text config.out.text
  unfold EinsumOp.matchAndRewrite
  dsimp only
  rw [written, splitConfig_text small]
  dsimp only
  rw [noComma.1, noComma.2, noArrow, if_neg (by simp),
    EinsumSide.length_getEinsumConfigAsVector lhsAlpha lhsSmall op.lhs_small,
    EinsumSide.length_getEinsumConfigAsVector rhsAlpha rhsSmall op.rhs_small,
    EinsumSide.length_getEinsumConfigAsVector outAlpha outSmall op.result_small]
  cases typed : isSignlessIntOrFloat (removeSign op.resultType.elementType) with
  | false => rfl
  | true =>
    rw [if_neg (show ¬(!true) = true by decide), if_neg (show ¬true = false by decide)]
    by_cases equal : checkBatchHasEqualRank (config.lhs.expandedRank op.lhsType.shape.length)
        config.lhs.text (config.rhs.expandedRank op.rhsType.shape.length) config.rhs.text
        (config.out.expandedRank op.resultType.shape.length) config.out.text = true
    · rw [if_neg (by simp [equal]), if_neg]
      · rfl
      · rintro ⟨first, one, second, other, differ⟩
        exact differ (check.1 equal first one second other)
    · rw [if_pos (by simpa using equal), if_pos]
      by_contra none
      simp only [not_exists, not_and, not_not] at none
      exact equal (check.2 none)

/-- Without its sign a type is a float only when it is that float already. -/
theorem removeSign_float {lhs rhs result : StablehloType} :
    isFloat (removeSign lhs) = true ∧ removeSign lhs = removeSign rhs ∧
        removeSign lhs = removeSign result ↔
      isFloat lhs = true ∧ lhs = rhs ∧ lhs = result := by
  cases lhs with
  | float semantics =>
    have own {other : StablehloType} :
        removeSign (.float semantics) = removeSign other ↔ .float semantics = other := by
      cases other <;> simp [removeSign]
    rw [own, own]
    rfl
  | _ => simp [removeSign, isFloat]

/-- A text whose label count is the rank of the operand is expanded to its labels. -/
theorem EinsumConfig.expanded_eq (written : op.config = config.text)
    (short : config.lhs.Short ∧ config.rhs.Short ∧ config.out.Short) :
    config.expanded op = config.labels op := by
  obtain ⟨⟨lhsAlpha, lhsSmall⟩, ⟨rhsAlpha, rhsSmall⟩, outAlpha, outSmall⟩ := sides written
  rw [expanded, labels,
    EinsumSide.getEinsumConfigAsVector_text lhsAlpha lhsSmall op.lhs_small short.1,
    EinsumSide.getEinsumConfigAsVector_text rhsAlpha rhsSmall op.rhs_small short.2.1,
    EinsumSide.getEinsumConfigAsVector_text outAlpha outSmall op.result_small short.2.2]

/-- The labels are as many as there are dimensions when the config fits. -/
theorem EinsumConfig.ranks (fits : config.Fits op) : (config.labels op).Ranks op :=
  ⟨EinsumSide.length_labels fits.1, EinsumSide.length_labels fits.2.1,
    EinsumSide.length_labels fits.2.2⟩

end Main

section Result

variable {config : EinsumConfig} {op : EinsumOp}

/-- Only a text that fits is expanded to as many labels as there are dimensions. -/
theorem EinsumConfig.short_of_ranks (written : op.config = config.text) (fits : config.Fits op)
    (lhs : (config.expanded op).lhs.length = op.lhsType.shape.length)
    (rhs : (config.expanded op).rhs.length = op.rhsType.shape.length)
    (out : (config.expanded op).out.length = op.resultType.shape.length) :
    config.lhs.Short ∧ config.rhs.Short ∧ config.out.Short := by
  obtain ⟨⟨lhsAlpha, lhsSmall⟩, ⟨rhsAlpha, rhsSmall⟩, outAlpha, outSmall⟩ := sides written
  have lhsCount := EinsumSide.length_getEinsumConfigAsVector lhsAlpha lhsSmall op.lhs_small
  have rhsCount := EinsumSide.length_getEinsumConfigAsVector rhsAlpha rhsSmall op.rhs_small
  have outCount := EinsumSide.length_getEinsumConfigAsVector outAlpha outSmall op.result_small
  exact ⟨EinsumSide.short_of_expandedRank fits.1 (lhsCount.symm.trans lhs) lhsSmall,
    EinsumSide.short_of_expandedRank fits.2.1 (rhsCount.symm.trans rhs) rhsSmall,
    EinsumSide.short_of_expandedRank fits.2.2 (outCount.symm.trans out) outSmall⟩

/-- The conversion of an einsum is right exactly when it is rejected for its elements or its
ellipses, or when ranks, labels, elements and sizes are those that the converter takes for granted. -/
theorem EinsumOp.convertedCorrectly_iff (R : Type) [Zero R] [Add R] [Mul R]
    (written : op.config = config.text) :
    op.ConvertedCorrectly R config ↔ config.Rejected op ∨ config.Supported op := by
  rw [EinsumOp.ConvertedCorrectly, matchAndRewrite_eq written]
  by_cases typed : isSignlessIntOrFloat (removeSign op.resultType.elementType) = false
  · rw [if_pos typed]
    exact iff_of_true trivial (.inl (.inl typed))
  by_cases unequal : ∃ first ∈ config.countedRanks op, ∃ second ∈ config.countedRanks op,
      first ≠ second
  · rw [if_neg typed, if_pos unequal]
    exact iff_of_true trivial (.inl (.inr unequal))
  rw [if_neg typed, if_neg unequal]
  have accepted : ¬config.Rejected op := fun rejected => rejected.elim typed unequal
  rw [or_iff_right accepted]
  constructor
  · -- What was built tells what it was built from.
    intro correct
    cases built : op.build (config.expanded op).lhs (config.expanded op).rhs
        (config.expanded op).out with
    | error failure =>
      rw [built] at correct
      exact correct.elim
    | ok program =>
      rw [built] at correct
      obtain ⟨fits, known, consistent, formed, -, runs⟩ := correct
      obtain ⟨lhsMap, rhsMap, outMap, lhsType, rhsType, resultType⟩ := of_build built
      have short := EinsumConfig.short_of_ranks written fits
        (lhsMap.symm.trans (formed.lhs_rank.trans (by rw [lhsType]; rfl)))
        (rhsMap.symm.trans (formed.rhs_rank.trans (by rw [rhsType]; rfl)))
        (outMap.symm.trans (formed.out_rank.trans (by rw [resultType]; rfl)))
      rw [EinsumConfig.expanded_eq written short,
        build_eq (EinsumConfig.ranks fits) known] at built
      cases built
      have each (size : String → Nat) (allowed : (config.labels op).Allows op size) :=
        (run_program_iff known allowed.2.2).1 (runs size allowed (fun _ => 0) fun _ => 0)
      exact {
        fits, known, consistent, short
        elements := removeSign_float.1 ⟨formed.factors.1, formed.factors.2, formed.yielded⟩
        asked := (List.length_map _).symm.trans formed.sizes
        asked_sizes := fun size allowed => (each size allowed).1
        covered := fun size allowed => (each size allowed).2 }
  · intro supported
    rw [EinsumConfig.expanded_eq written supported.short,
      build_eq (EinsumConfig.ranks supported.fits) supported.known]
    have elements := removeSign_float.2 supported.elements
    have ranks := EinsumConfig.ranks supported.fits
    refine ⟨supported.fits, supported.known, supported.consistent, ?_,
      EinsumLabels.mapped_program, ?_⟩
    · exact {
        sizes := (List.length_map _).trans supported.asked
        lhs_rank := (List.length_map _).trans ranks.lhs
        rhs_rank := (List.length_map _).trans ranks.rhs
        out_rank := (List.length_map _).trans ranks.out
        factors := ⟨elements.1, elements.2.1⟩
        yielded := elements.2.2 }
    · intro size allowed lhs rhs
      exact (run_program_iff supported.known allowed.2.2).2
        ⟨supported.asked_sizes size allowed, supported.covered size allowed⟩

end Result

/-- The product of two matrices of floats. -/
def matrixProductConfig : EinsumConfig where
  lhs := .letters ['a', 'b']
  rhs := .letters ['b', 'c']
  out := .letters ['a', 'c']
  alpha := List.all_eq_true.mp rfl

/-- A type of floats. -/
def floatType (shape : List (Option Nat)) : TensorType StablehloType := ⟨shape, .float .ieeeSingle⟩

/-- An einsum of two matrices. -/
def matrixProduct : EinsumOp where
  config := matrixProductConfig.text
  lhsType := floatType [some 2, some 3]
  rhsType := floatType [some 3, some 4]
  resultType := floatType [some 2, some 4]
  config_small := by decide
  lhs_small := by decide
  rhs_small := by decide
  result_small := by decide

theorem matrixProduct_converted :
    matrixProduct.config = matrixProductConfig.text ∧
      matrixProduct.ConvertedCorrectly Int matrixProductConfig := by
  refine ⟨rfl, (EinsumOp.convertedCorrectly_iff Int rfl).2 (.inr ?_)⟩
  exact {
    fits := ⟨rfl, rfl, rfl⟩
    known := by
      intro label listed
      revert label
      decide
    consistent := fun first listed => by cases listed
    short := ⟨trivial, trivial, trivial⟩
    elements := ⟨rfl, rfl, rfl⟩
    asked := by decide
    asked_sizes := fun size _ => rfl
    covered := fun size _ none => by cases none }

/-- A result with a label that no operand has. -/
def unknownConfig : EinsumConfig where
  lhs := .letters ['a']
  rhs := .letters ['a']
  out := .letters ['b']
  alpha := List.all_eq_true.mp rfl

/-- Its einsum, of two vectors. -/
def unknownLabel : EinsumOp where
  config := unknownConfig.text
  lhsType := floatType [some 2]
  rhsType := floatType [some 2]
  resultType := floatType [some 2]
  config_small := by decide
  lhs_small := by decide
  rhs_small := by decide
  result_small := by decide

/-- A result with a label of its own is not rejected, and the converter reads out of bounds. -/
theorem unknownLabel_not_converted :
    unknownLabel.config = unknownConfig.text ∧
      ¬unknownLabel.ConvertedCorrectly Int unknownConfig := by
  refine ⟨rfl, ?_⟩
  have outcome : unknownLabel.matchAndRewrite = .undefinedBehavior := by
    rfl
  rw [EinsumOp.ConvertedCorrectly, outcome]
  exact id

end Linalg

end Stablehlo
