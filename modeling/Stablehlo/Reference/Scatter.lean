import Stablehlo.Dialect.Scatter
import Stablehlo.Reference.Gather
import Stablehlo.Support.Deposits

/-! The scatter of the interpreter. -/

namespace Stablehlo

/-- The axes that verified dimension numbers stand for. -/
def ScatterDimensionNumbers.indexAxes (dims : ScatterDimensionNumbers) : IndexAxes where
  windowDims := axes dims.updateWindowDims
  skippedDims := axes dims.insertedWindowDims
  batchingDims := axes dims.inputBatchingDims
  indicesBatchingDims := axes dims.scatterIndicesBatchingDims
  indexMap := axes dims.scatterDimsToOperandDims
  indexVectorDim := dims.indexVectorDim.toNatClampNeg

/-- The type of the tensor with a single element that an element is passed as. -/
def Element.scalarType (element : Element) : StablehloType := .rankedTensor [] element.type none

/-- What a region computes from scalars, and the types of its parameters and results. -/
structure UpdateComputation (parameterTypes returnTypes : List StablehloType) where
  run : List Element → Except Failure (List Element)
  /-- What is returned is of the types. -/
  typed : ∀ args values, run args = .ok values →
    List.Forall₂ (fun value type => ∃ shape, StablehloType.shaped type = some (shape, value.type))
      values returnTypes

/-- Evaluate a computation on scalars, which are to be of the types of its parameters. -/
def UpdateComputation.eval {parameterTypes returnTypes : List StablehloType}
    (computation : UpdateComputation parameterTypes returnTypes) (args : List Element) :
    Except Failure (List Element) :=
  if parameterTypes.length ≠ args.length then
    .error (.fatalError
      s!"Expected same number of block arguments and runtime arguments ({args.length})")
  else if parameterTypes ≠ args.map Element.scalarType then
    .error (.fatalError "Expected same type for an SSA register and its evaluated value")
  else
    computation.run args

/-- Replace the element at the index by another one of the type. -/
def TypedTensor.set (tensor : TypedTensor) (index : Index) (element : Element) :
    Except Failure TypedTensor :=
  if same : element.type = tensor.elementType then
    match replaced : tensor.elements.set index element with
    | .error failure => .error failure
    | .ok elements => .ok {
      elementType := tensor.elementType
      elements
      typed := fun other listed => by
        obtain ⟨position, -, set⟩ := Fallible.bind_eq_ok.mp replaced
        cases set
        -- Each element is one there was before, or the new one.
        rcases List.mem_or_eq_of_mem_set listed with old | rfl
        · exact tensor.typed other old
        · exact same }
  else
    .error .undefinedBehavior

/-- Replace the elements of several tensors at the index, as far as there are values for them. -/
def setAll (index : Index) : List TypedTensor → List Element → Except Failure (List TypedTensor)
  | result :: results, value :: values => do
    let replaced ← result.set index value
    let rest ← setAll index results values
    .ok (replaced :: rest)
  | results, _ => .ok results

section Scatter

variable {parameterTypes returnTypes : List StablehloType}

/-- Update the elements of the results at the index that is found for an update. -/
def scatterUpdate (axes : IndexAxes) (scatterIndices : Tensor Element) (updates : List TypedTensor)
    (computation : UpdateComputation parameterTypes returnTypes) (results : List TypedTensor)
    (updateIndex : Index) : Except Failure (List TypedTensor) :=
  match results with
  | [] => .error .undefinedBehavior
  | first :: _ => do
    let shape := first.elements.shape
    let resultIndex ← fullIndexOf axes shape.length scatterIndices (fun _ start => .ok start)
      updateIndex
    if !inBoundsOf shape resultIndex then
      .ok results
    else do
      let resultArgs ← results.mapM fun result => result.elements.getAt resultIndex
      let updateArgs ← updates.mapM fun update => update.elements.get updateIndex
      let updatedValues ← computation.eval (resultArgs ++ updateArgs)
      setAll (resultIndex.map Int.toNat) results updatedValues

/-- Scatter updates over the inputs, one after the other. -/
def scatterOp (inputs : List TypedTensor) (scatterIndices : Tensor Element)
    (updates : List TypedTensor) (axes : IndexAxes)
    (computation : UpdateComputation parameterTypes returnTypes) :
    Except Failure (List TypedTensor) :=
  match updates with
  | [] => .error .undefinedBehavior
  | first :: _ =>
    (indexSpace first.elements.shape).foldlM
      (scatterUpdate axes scatterIndices updates computation) inputs

end Scatter

section Specification

/-- The elements of several tensors at an index. -/
def cellsAt (tensors : List TypedTensor) (index : Index) : Except Failure (List Element) :=
  tensors.mapM fun tensor => tensor.elements.get index

/-- The coordinates of the result's elements that an update is for, given how the entries of
index vectors are read. -/
def IndexAxes.targetOf (axes : IndexAxes) (rank : Nat) (scatterIndices : Tensor Element)
    (read : Element → Int) (updateIndex : Index) : Except Failure (List Int) := do
  let startIndex ← axes.startVector read scatterIndices (axes.batchIndex updateIndex)
  .ok ((List.range rank).map (axes.coordinate rank (fun _ start => start) startIndex updateIndex))

/-- The index that an update is for, if it is in bounds. -/
def IndexAxes.placeOf (axes : IndexAxes) (shape : Sizes) (scatterIndices : Tensor Element)
    (read : Element → Int) (updateIndex : Index) : Option Index :=
  match axes.targetOf shape.length scatterIndices read updateIndex with
  | .ok index => if inBoundsOf shape index then some (index.map Int.toNat) else none
  | .error _ => none

/-- Update elements with the elements of the updates at an index. -/
def updateCells {parameterTypes returnTypes : List StablehloType} (updates : List TypedTensor)
    (computation : UpdateComputation parameterTypes returnTypes) (values : List Element)
    (updateIndex : Index) : Except Failure (List Element) := do
  let updateArgs ← cellsAt updates updateIndex
  computation.run (values ++ updateArgs)

/-- The scatter of all inputs and updates of the types is the one of the specification: the
elements of the results at an index come from those of the inputs by a fold over the updates that
are for the index, in order, and only the computation may fail. -/
def ScatterMeetsSpec (axes : IndexAxes) (inputTypes : List ShapedType)
    (scatterIndices : TypedTensor) (updateTypes : List ShapedType) (inputShape updateShape : Sizes)
    (parameterTypes returnTypes : List StablehloType) : Prop :=
  ∀ inputs updates : List TypedTensor, inputs.map TypedTensor.type = inputTypes →
    updates.map TypedTensor.type = updateTypes →
    ∀ computation : UpdateComputation parameterTypes returnTypes,
      (∀ results, scatterOp inputs scatterIndices.elements updates axes computation = .ok results ↔
        results.map TypedTensor.type = inputTypes ∧
          ∀ index, MixedRadix.Within inputShape index → (do
            let start ← cellsAt inputs index
            (Deposits.itemsAt (axes.placeOf inputShape scatterIndices.elements Element.integer)
              index (indexSpace updateShape)).foldlM (updateCells updates computation) start) =
            cellsAt results index) ∧
      ∀ failure, scatterOp inputs scatterIndices.elements updates axes computation =
        .error failure → ∃ args, computation.run args = .error failure

/-- An update is for the index it should be for, and it can be computed. -/
structure UpdateLands (axes : IndexAxes) (inputTypes : List ShapedType)
    (scatterIndices : TypedTensor) (updateTypes : List ShapedType) (inputShape : Sizes)
    (parameterTypes : List StablehloType) (updateIndex : Index) : Prop where
  /-- The scatter indices are numbers. -/
  integers : IntegerElements scatterIndices.elements
  /-- The coordinates that are computed are numbers of 64 bits. -/
  small : ∀ startIndex, axes.startVector Element.signExtended scatterIndices.elements
    (axes.batchIndex updateIndex) = .ok startIndex → ∀ d < inputShape.length,
      axes.coordinate inputShape.length (fun _ start => start) startIndex updateIndex d < 2 ^ 63
  /-- Sign extension does not change which index in bounds the update is for, if any. -/
  alike : axes.placeOf inputShape scatterIndices.elements Element.signExtended updateIndex =
    axes.placeOf inputShape scatterIndices.elements Element.integer updateIndex
  /-- The computation for an update in bounds takes elements as they are. -/
  typed : (axes.placeOf inputShape scatterIndices.elements Element.integer updateIndex).isSome →
    parameterTypes = (inputTypes ++ updateTypes).map fun type => .rankedTensor [] type.elementType none

end Specification

section Cells

variable {tensors : List TypedTensor} {shape : Sizes} {index : Index}

/-- An element of the type can replace the one at an index in bounds. -/
theorem TypedTensor.set_eq {tensor : TypedTensor} {element : Element}
    (within : MixedRadix.Within tensor.elements.shape index)
    (same : element.type = tensor.elementType) :
    ∃ replaced, tensor.set index element = .ok replaced ∧ replaced.type = tensor.type ∧
      ∀ other, MixedRadix.Within tensor.elements.shape other →
        replaced.elements.get other =
          if other = index then .ok element else tensor.elements.get other := by
  obtain ⟨elements, replaced, shape, others⟩ := Tensor.get_set within element
  rw [TypedTensor.set, dif_pos same]
  split
  · next failure failed => rw [replaced] at failed; cases failed
  · next elements' done =>
    rw [replaced] at done
    cases done
    refine ⟨_, rfl, ?_, others⟩
    rw [TypedTensor.type, TypedTensor.type, shape]

/-- There is an element of each tensor at an index in bounds. -/
theorem exists_cellsAt {types : List ShapedType} (own : tensors.map TypedTensor.type = types)
    (shapes : ∀ type ∈ types, type.shape = shape) (within : MixedRadix.Within shape index) :
    ∃ cells, cellsAt tensors index = .ok cells ∧
      cells.map Element.type = types.map ShapedType.elementType := by
  subst own
  induction tensors with
  | nil => exact ⟨[], rfl, rfl⟩
  | cons tensor tensors ih =>
    rw [List.map_cons, List.forall_mem_cons] at shapes
    obtain ⟨cells, read, types⟩ := ih shapes.2
    have first : MixedRadix.Within tensor.elements.shape index := by
      rw [show tensor.elements.shape = shape from shapes.1]
      exact within
    obtain ⟨element, got, stored⟩ := Tensor.get_eq first
    refine ⟨element :: cells, ?_, ?_⟩
    · rw [cellsAt, List.mapM_cons, got, Fallible.ok_bind]
      rw [cellsAt] at read
      rw [read]
      rfl
    · -- The element is one of a typed tensor.
      rw [List.map_cons, List.map_cons, List.map_cons, types,
        tensor.typed element (List.mem_of_getElem? stored)]
      rfl

/-- Elements of the types can replace those of the tensors at an index in bounds. -/
theorem setAll_eq {values : List Element}
    (shapes : ∀ tensor ∈ tensors, tensor.elements.shape = shape)
    (within : MixedRadix.Within shape index)
    (types : values.map Element.type = tensors.map TypedTensor.elementType) :
    ∃ replaced, setAll index tensors values = .ok replaced ∧
      replaced.map TypedTensor.type = tensors.map TypedTensor.type ∧
      ∀ other, MixedRadix.Within shape other →
        cellsAt replaced other = if other = index then .ok values else cellsAt tensors other := by
  induction tensors generalizing values with
  | nil =>
    cases values with
    | nil => exact ⟨[], rfl, rfl, fun other _ => by split <;> rfl⟩
    | cons _ _ => cases types
  | cons tensor tensors ih =>
    cases values with
    | nil => cases types
    | cons value values =>
      simp only [List.map_cons, List.cons.injEq] at types
      rw [List.forall_mem_cons] at shapes
      obtain ⟨rest, restSet, restTypes, restCells⟩ := ih shapes.2 types.2
      have first : MixedRadix.Within tensor.elements.shape index := by
        rw [shapes.1]
        exact within
      obtain ⟨replaced, set, type, cells⟩ := TypedTensor.set_eq first types.1
      refine ⟨replaced :: rest, ?_, ?_, fun other otherWithin => ?_⟩
      · rw [setAll, set, Fallible.ok_bind, restSet]
        rfl
      · rw [List.map_cons, List.map_cons, type, restTypes]
      · have own := cells other (by rw [shapes.1]; exact otherWithin)
        have others := restCells other otherWithin
        rw [cellsAt] at others
        rw [cellsAt, List.mapM_cons, own, others]
        by_cases same : other = index
        · rw [if_pos same, if_pos same, if_pos same]
          rfl
        · rw [if_neg same, if_neg same, if_neg same, cellsAt, cellsAt, List.mapM_cons]

end Cells

section Run

variable {axes : IndexAxes} {inputTypes updateTypes : List ShapedType}
  {scatterIndices : TypedTensor} {inputShape updateShape : Sizes}
  {parameterTypes returnTypes : List StablehloType} {updateIndex : Index}

/-- The indices of a scatter fit its inputs and updates, and so does its computation. -/
structure ScatterFits (axes : IndexAxes) (inputTypes updateTypes : List ShapedType)
    (inputShape indicesShape updateShape : Sizes)
    (parameterTypes returnTypes : List StablehloType) : Prop where
  valid : axes.Valid inputShape indicesShape updateShape
  inputShapes : ∀ type ∈ inputTypes, type.shape = inputShape
  updateShapes : ∀ type ∈ updateTypes, type.shape = updateShape
  small : ∀ d, inputShape.getD d 0 < 2 ^ 63
  nonempty : inputTypes ≠ []
  sameNumber : updateTypes.length = inputTypes.length
  returned : parameterTypes = ((inputTypes ++ updateTypes).map fun type =>
    .rankedTensor [] type.elementType none) → List.Forall₂ (fun (type : ShapedType) returnType =>
      ∃ shape, StablehloType.shaped returnType = some (shape, type.elementType)) inputTypes
        returnTypes

/-- An update can be computed, for whatever index it is. -/
structure UpdateReady (axes : IndexAxes) (inputTypes : List ShapedType)
    (scatterIndices : TypedTensor) (updateTypes : List ShapedType) (inputShape : Sizes)
    (parameterTypes : List StablehloType) (updateIndex : Index) : Prop where
  integers : IntegerElements scatterIndices.elements
  small : ∀ startIndex, axes.startVector Element.signExtended scatterIndices.elements
    (axes.batchIndex updateIndex) = .ok startIndex → ∀ d < inputShape.length,
      axes.coordinate inputShape.length (fun _ start => start) startIndex updateIndex d < 2 ^ 63
  typed : (axes.placeOf inputShape scatterIndices.elements Element.signExtended
      updateIndex).isSome →
    parameterTypes = (inputTypes ++ updateTypes).map fun type =>
      .rankedTensor [] type.elementType none

/-- The results have the cells at each index. -/
def HasCells (inputTypes : List ShapedType) (inputShape : Sizes) (results : List TypedTensor)
    (cells : Index → List Element) : Prop :=
  results.map TypedTensor.type = inputTypes ∧
    ∀ index, MixedRadix.Within inputShape index → cellsAt results index = .ok (cells index)

/-- What is returned has the element types of the inputs when its types do. -/
theorem types_of_returned {values : List Element} {types : List ShapedType}
    (valueTypes : List.Forall₂ (fun value type => ∃ shape,
      StablehloType.shaped type = some (shape, value.type)) values returnTypes)
    (own : List.Forall₂ (fun (type : ShapedType) returnType => ∃ shape,
      StablehloType.shaped returnType = some (shape, type.elementType)) types returnTypes) :
    values.map Element.type = types.map ShapedType.elementType := by
  induction valueTypes generalizing types with
  | nil =>
    cases own
    rfl
  | cons first _ ih =>
    cases own with
    | cons other rest =>
      -- A type has one element type.
      obtain ⟨shape, valueType⟩ := first
      obtain ⟨otherShape, type⟩ := other
      rw [valueType, Option.some.injEq, Prod.mk.injEq] at type
      rw [List.map_cons, List.map_cons, ih rest, type.2]

/-- The coordinates of an update are numbers of 64 bits when they are not too large. -/
theorem isInt64_coordinates {elements : List Element} {d : Nat}
    (small : axes.coordinate inputShape.length (fun _ start => start)
      (elements.map Element.signExtended) updateIndex d < 2 ^ 63) :
    IsInt64 (axes.sliceCoordinate (fun _ start => start) (elements.map Element.signExtended)
        updateIndex d) ∧
      IsInt64 (axes.coordinate inputShape.length (fun _ start => start)
        (elements.map Element.signExtended) updateIndex d) := by
  have batch := axes.batchingCoordinate_nonneg (axes.batchIndex updateIndex) d
  have window := axes.windowCoordinate_nonneg inputShape.length (axes.windowIndex updateIndex) d
  have start : -2 ^ 63 ≤ axes.startCoordinate (fun _ start => start)
      (elements.map Element.signExtended) d := by
    rw [IndexAxes.startCoordinate]
    cases axes.indexMap.idxOf? d with
    | none =>
      dsimp only
      decide
    | some dStart =>
      dsimp only
      rw [List.getD_eq_getElem?_getD, List.getElem?_map]
      cases elements[dStart]? with
      | none => decide
      | some element => exact element.isInt64_signExtended.1
  -- Nothing that is added to the start is negative.
  rw [IndexAxes.coordinate] at small
  rw [IndexAxes.sliceCoordinate, IndexAxes.coordinate, IsInt64, IsInt64]
  omega

/-- An update that is ready has an index. -/
theorem ScatterFits.fullIndexOf_eq
    (fits : ScatterFits axes inputTypes updateTypes inputShape scatterIndices.elements.shape
      updateShape parameterTypes returnTypes) (within : MixedRadix.Within updateShape updateIndex)
    (ready : UpdateReady axes inputTypes scatterIndices updateTypes inputShape parameterTypes
      updateIndex) :
    ∃ coordinates, fullIndexOf axes inputShape.length scatterIndices.elements
        (fun _ start => .ok start) updateIndex = .ok coordinates ∧
      axes.targetOf inputShape.length scatterIndices.elements Element.signExtended updateIndex =
        .ok coordinates := by
  obtain ⟨elements, -, -, vectors⟩ :=
    fits.valid.exists_startVector (fits.valid.batchIndex_within within)
  have vector := vectors Element.signExtended
  have numbers := fun d below =>
    isInt64_coordinates (ready.small _ vector d below)
  refine ⟨_, fits.valid.fullIndexOf_eq ready.integers within (fun _ _ _ => rfl) vector
    (fun d below => (numbers d below).1) (fun d below => (numbers d below).2), ?_⟩
  rw [IndexAxes.targetOf, vector]
  rfl

/-- An update changes the cells as a deposit at its index does. -/
theorem ScatterFits.scatterUpdate_simulates
    (fits : ScatterFits axes inputTypes updateTypes inputShape scatterIndices.elements.shape
      updateShape parameterTypes returnTypes)
    {updates : List TypedTensor} (updateOwn : updates.map TypedTensor.type = updateTypes)
    (computation : UpdateComputation parameterTypes returnTypes)
    (within : MixedRadix.Within updateShape updateIndex)
    (ready : UpdateReady axes inputTypes scatterIndices updateTypes inputShape parameterTypes
      updateIndex) {results : List TypedTensor} {cells : Index → List Element}
    (has : HasCells inputTypes inputShape results cells) :
    (∀ next, Deposits.deposit
        (axes.placeOf inputShape scatterIndices.elements Element.signExtended)
        (updateCells updates computation) cells updateIndex = .ok next → ∃ replaced,
        scatterUpdate axes scatterIndices.elements updates computation results updateIndex =
          .ok replaced ∧ HasCells inputTypes inputShape replaced next) ∧
    ∀ failure, Deposits.deposit
        (axes.placeOf inputShape scatterIndices.elements Element.signExtended)
        (updateCells updates computation) cells updateIndex = .error failure →
      scatterUpdate axes scatterIndices.elements updates computation results updateIndex =
        .error failure := by
  obtain ⟨own, held⟩ := has
  obtain ⟨coordinates, full, target⟩ := fits.fullIndexOf_eq within ready
  cases results with
  | nil => exact absurd own.symm fits.nonempty
  | cons first rest =>
    have shape : first.elements.shape = inputShape := by
      refine fits.inputShapes first.type ?_
      rw [← own]
      exact List.mem_cons_self
    rw [scatterUpdate]
    rw [shape, full, Fallible.ok_bind, Deposits.deposit, IndexAxes.placeOf, target]
    dsimp only
    by_cases inside : inBoundsOf inputShape coordinates = true
    · obtain ⟨place, rfl, placeWithin⟩ := inBoundsOf_iff.mp inside
      rw [if_pos inside, if_neg (by simp [inside]), map_toNat_map_natCast]
      -- The elements at the index and those of the updates are what the computation takes.
      have resultRead : ((first :: rest).mapM fun result =>
          result.elements.getAt (place.map Nat.cast)) = .ok (cells place) := by
        rw [← held place placeWithin, cellsAt]
        exact Fallible.mapM_congr fun result _ => result.elements.getAt_map_natCast place
      obtain ⟨cellsThere, read, cellTypes⟩ := exists_cellsAt own fits.inputShapes placeWithin
      rw [held place placeWithin, Except.ok.injEq] at read
      subst read
      obtain ⟨updateArgs, updateRead, updateArgTypes⟩ :=
        exists_cellsAt updateOwn fits.updateShapes within
      have typed := ready.typed (by rw [IndexAxes.placeOf, target]; simp [inside])
      have args : (cells place ++ updateArgs).map Element.scalarType = parameterTypes := by
        have types : (cells place ++ updateArgs).map Element.type =
            (inputTypes ++ updateTypes).map ShapedType.elementType := by
          rw [List.map_append, cellTypes, updateArgTypes, List.map_append]
        rw [typed]
        have scalars := congrArg (List.map fun type => StablehloType.rankedTensor [] type none) types
        rw [List.map_map, List.map_map] at scalars
        exact scalars
      have evaluated : computation.eval (cells place ++ updateArgs) =
          computation.run (cells place ++ updateArgs) := by
        rw [UpdateComputation.eval, if_neg (by rw [← args, List.length_map]; exact not_not.mpr rfl),
          if_neg (not_not.mpr args.symm)]
      have step : updateCells updates computation (cells place) updateIndex =
          computation.run (cells place ++ updateArgs) := by
        unfold updateCells
        rw [updateRead, Fallible.ok_bind]
      rw [resultRead, Fallible.ok_bind, show (updates.mapM fun update =>
        update.elements.get updateIndex) = .ok updateArgs from updateRead, Fallible.ok_bind,
        evaluated]
      dsimp only
      rw [step]
      cases ran : computation.run (cells place ++ updateArgs) with
      | error failure =>
        refine ⟨fun next stepped => (by cases stepped), fun other stepped => ?_⟩
        cases stepped
        rfl
      | ok values =>
        refine ⟨fun next stepped => ?_, fun failure stepped => by cases stepped⟩
        cases stepped
        have valueTypes : values.map Element.type =
            (first :: rest).map TypedTensor.elementType := by
          rw [types_of_returned (computation.typed _ _ ran) (fits.returned typed), ← own,
            List.map_map]
          rfl
        have shapes : ∀ tensor ∈ first :: rest, tensor.elements.shape = inputShape := by
          intro tensor listed
          refine fits.inputShapes tensor.type ?_
          rw [← own]
          exact List.mem_map_of_mem listed
        obtain ⟨replaced, set, types, replacedCells⟩ := setAll_eq shapes placeWithin valueTypes
        refine ⟨replaced, set, types.trans own, fun other otherWithin => ?_⟩
        rw [replacedCells other otherWithin]
        by_cases here : other = place
        · rw [if_pos here, here, Function.update_self]
        · rw [if_neg here, Function.update_of_ne here]
          exact held other otherWithin
    · rw [if_neg inside, if_pos (by simpa using inside)]
      refine ⟨fun next stepped => ?_, fun failure stepped => by cases stepped⟩
      cases stepped
      exact ⟨_, rfl, own, held⟩

/-- Inputs of the types have cells. -/
theorem ScatterFits.exists_cells {indicesShape : Sizes} {inputs : List TypedTensor}
    (fits : ScatterFits axes inputTypes updateTypes inputShape indicesShape updateShape
      parameterTypes returnTypes) (own : inputs.map TypedTensor.type = inputTypes) :
    ∃ cells, HasCells inputTypes inputShape inputs cells := by
  have each : ∀ index, ∃ cells, MixedRadix.Within inputShape index →
      cellsAt inputs index = .ok cells := by
    intro index
    by_cases within : MixedRadix.Within inputShape index
    · obtain ⟨cells, read, -⟩ := exists_cellsAt own fits.inputShapes within
      exact ⟨cells, fun _ => read⟩
    · exact ⟨[], fun inside => absurd inside within⟩
  choose cells read using each
  exact ⟨cells, own, read⟩

/-- A scatter goes through the updates in order. -/
theorem ScatterFits.scatterOp_eq {indicesShape : Sizes} {inputs updates : List TypedTensor}
    (fits : ScatterFits axes inputTypes updateTypes inputShape indicesShape updateShape
      parameterTypes returnTypes) (updateOwn : updates.map TypedTensor.type = updateTypes)
    (indices : Tensor Element) (computation : UpdateComputation parameterTypes returnTypes) :
    scatterOp inputs indices updates axes computation = (indexSpace updateShape).foldlM
      (scatterUpdate axes indices updates computation) inputs := by
  cases updates with
  | nil =>
    -- There is an update for each of the inputs, of which there is at least one.
    have none : inputTypes.length = 0 := by
      rw [← fits.sameNumber, ← updateOwn]
      rfl
    exact absurd (List.length_eq_zero_iff.mp none) fits.nonempty
  | cons first rest =>
    have shape : first.elements.shape = updateShape := by
      refine fits.updateShapes first.type ?_
      rw [← updateOwn]
      exact List.mem_cons_self
    rw [scatterOp, shape]

/-- A scatter changes the cells of its inputs as the deposits of all updates do. -/
theorem ScatterFits.scatterOp_simulates
    (fits : ScatterFits axes inputTypes updateTypes inputShape scatterIndices.elements.shape
      updateShape parameterTypes returnTypes)
    {inputs updates : List TypedTensor} (updateOwn : updates.map TypedTensor.type = updateTypes)
    (computation : UpdateComputation parameterTypes returnTypes)
    (ready : ∀ updateIndex, MixedRadix.Within updateShape updateIndex → UpdateReady axes inputTypes
      scatterIndices updateTypes inputShape parameterTypes updateIndex)
    {cells : Index → List Element} (has : HasCells inputTypes inputShape inputs cells) :
    (∀ final, (indexSpace updateShape).foldlM (Deposits.deposit
        (axes.placeOf inputShape scatterIndices.elements Element.signExtended)
        (updateCells updates computation)) cells = .ok final → ∃ results,
        scatterOp inputs scatterIndices.elements updates axes computation = .ok results ∧
          HasCells inputTypes inputShape results final) ∧
    ∀ failure, (indexSpace updateShape).foldlM (Deposits.deposit
        (axes.placeOf inputShape scatterIndices.elements Element.signExtended)
        (updateCells updates computation)) cells = .error failure →
      scatterOp inputs scatterIndices.elements updates axes computation = .error failure := by
  rw [fits.scatterOp_eq updateOwn]
  refine Fallible.foldlM_simulates (fun updateIndex listed results cells has => ?_) has
  have within := MixedRadix.mem_all.mp listed
  exact fits.scatterUpdate_simulates updateOwn computation within (ready updateIndex within) has

/-- Tensors of the same types with the same elements at each index are the same. -/
theorem eq_of_cellsAt {first second : List TypedTensor} {types : List ShapedType} {shape : Sizes}
    (firstOwn : first.map TypedTensor.type = types)
    (secondOwn : second.map TypedTensor.type = types)
    (shapes : ∀ type ∈ types, type.shape = shape)
    (same : ∀ index, MixedRadix.Within shape index → cellsAt first index = cellsAt second index) :
    first = second := by
  induction first generalizing second types with
  | nil =>
    cases firstOwn
    exact (List.map_eq_nil_iff.mp secondOwn).symm
  | cons tensor first ih =>
    cases second with
    | nil => cases firstOwn; cases secondOwn
    | cons other second =>
      subst firstOwn
      simp only [List.map_cons, List.cons.injEq] at secondOwn
      simp only [List.map_cons, List.forall_mem_cons] at shapes
      obtain ⟨type, types⟩ := secondOwn
      have elementTypes : other.elementType = tensor.elementType :=
        congrArg ShapedType.elementType type
      have tensorShape : tensor.elements.shape = shape := shapes.1
      have otherShape : other.elements.shape = shape :=
        (congrArg ShapedType.shape type).trans shapes.1
      -- At each index, both the first elements and the others are the same.
      have parts : ∀ index, MixedRadix.Within shape index →
          tensor.elements.get index = other.elements.get index ∧
            cellsAt first index = cellsAt second index := by
        intro index within
        obtain ⟨element, got, -⟩ := Tensor.get_eq (tensorShape ▸ within)
        obtain ⟨otherElement, otherGot, -⟩ := Tensor.get_eq (otherShape ▸ within)
        obtain ⟨cells, read, -⟩ := exists_cellsAt rfl shapes.2 within
        obtain ⟨otherCells, otherRead, -⟩ := exists_cellsAt types shapes.2 within
        have both := same index within
        rw [cellsAt] at read otherRead
        rw [cellsAt, cellsAt, List.mapM_cons, List.mapM_cons, got, otherGot, read, otherRead]
          at both
        cases both
        rw [got, otherGot, cellsAt, cellsAt, read, otherRead]
        exact ⟨rfl, rfl⟩
      have elements : tensor.elements = other.elements :=
        Tensor.ext_get (tensorShape.trans otherShape.symm) fun index within =>
          (parts index (tensorShape ▸ within)).1
      rw [ih rfl types shapes.2 fun index within => (parts index within).2]
      congr 1
      obtain ⟨_, _, _⟩ := tensor
      obtain ⟨_, _, _⟩ := other
      cases elementTypes
      cases elements
      rfl

end Run

section Meets

variable {axes : IndexAxes} {inputTypes updateTypes : List ShapedType}
  {scatterIndices : TypedTensor} {inputShape updateShape : Sizes}
  {parameterTypes returnTypes : List StablehloType} {updateIndex : Index}

/-- An update that lands is ready. -/
theorem UpdateLands.ready (lands : UpdateLands axes inputTypes scatterIndices updateTypes inputShape
    parameterTypes updateIndex) : UpdateReady axes inputTypes scatterIndices updateTypes inputShape
      parameterTypes updateIndex where
  integers := lands.integers
  small := lands.small
  typed := fun inside => lands.typed (lands.alike ▸ inside)

/-- The index that an update is for is in bounds. -/
theorem within_of_placeOf {indices : Tensor Element} {read : Element → Int} {index : Index}
    (target : axes.placeOf inputShape indices read updateIndex = some index) :
    MixedRadix.Within inputShape index := by
  unfold IndexAxes.placeOf at target
  split at target
  · split at target
    · next inside =>
      obtain ⟨place, rfl, within⟩ := inBoundsOf_iff.mp inside
      rw [map_toNat_map_natCast, Option.some.injEq] at target
      exact target ▸ within
    · cases target
  · cases target

/-- No update is for an index out of bounds. -/
theorem itemsAt_outside {indices : Tensor Element} {read : Element → Int} {index : Index}
    (outside : ¬ MixedRadix.Within inputShape index) (items : List Index) :
    Deposits.itemsAt (axes.placeOf inputShape indices read) index items = [] := by
  refine List.filter_eq_nil_iff.mpr fun item _ target => outside ?_
  exact within_of_placeOf (of_decide_eq_true target)

/-- The updates for an index are those whose place it is by either way of reading entries, when
all updates land. -/
theorem itemsAt_alike
    (lands : ∀ updateIndex, MixedRadix.Within updateShape updateIndex → UpdateLands axes inputTypes
      scatterIndices updateTypes inputShape parameterTypes updateIndex) (index : Index) :
    Deposits.itemsAt (axes.placeOf inputShape scatterIndices.elements Element.signExtended) index
        (indexSpace updateShape) =
      Deposits.itemsAt (axes.placeOf inputShape scatterIndices.elements Element.integer) index
        (indexSpace updateShape) := by
  refine List.filter_congr fun item listed => ?_
  rw [(lands item (MixedRadix.mem_all.mp listed)).alike]

/-- A scatter all of whose updates land is the one of the specification. -/
theorem ScatterFits.meetsSpec
    (fits : ScatterFits axes inputTypes updateTypes inputShape scatterIndices.elements.shape
      updateShape parameterTypes returnTypes)
    (lands : ∀ updateIndex, MixedRadix.Within updateShape updateIndex → UpdateLands axes inputTypes
      scatterIndices updateTypes inputShape parameterTypes updateIndex) :
    ScatterMeetsSpec axes inputTypes scatterIndices updateTypes inputShape updateShape
      parameterTypes returnTypes := by
  intro inputs updates inputOwn updateOwn computation
  obtain ⟨cells, has⟩ := fits.exists_cells inputOwn
  obtain ⟨succeeds, fails⟩ := fits.scatterOp_simulates updateOwn computation
    (fun updateIndex within => (lands updateIndex within).ready) has
  refine ⟨fun results => ⟨fun scattered => ?_, fun ⟨own, folded⟩ => ?_⟩, fun failure failed => ?_⟩
  · -- The deposits succeed, since the scatter does.
    cases run : (indexSpace updateShape).foldlM (Deposits.deposit
        (axes.placeOf inputShape scatterIndices.elements Element.signExtended)
        (updateCells updates computation)) cells with
    | error failure =>
      rw [fails failure run] at scattered
      cases scattered
    | ok final =>
      obtain ⟨others, same, own, held⟩ := succeeds final run
      rw [same, Except.ok.injEq] at scattered
      subst scattered
      refine ⟨own, fun index within => ?_⟩
      have there := Deposits.foldlM_eq_ok_iff.mp run index
      rw [itemsAt_alike lands] at there
      rw [has.2 index within, held index within, Fallible.ok_bind]
      exact there
  · -- The results have the cells that the deposits lead to.
    have each : ∀ index, ∃ final, (Deposits.itemsAt (axes.placeOf inputShape
        scatterIndices.elements Element.signExtended) index (indexSpace updateShape)).foldlM
          (updateCells updates computation) (cells index) = .ok final ∧
        (MixedRadix.Within inputShape index → cellsAt results index = .ok final) := by
      intro index
      by_cases within : MixedRadix.Within inputShape index
      · obtain ⟨values, read, -⟩ := exists_cellsAt own fits.inputShapes within
        have there := folded index within
        rw [has.2 index within, Fallible.ok_bind, read] at there
        rw [itemsAt_alike lands]
        exact ⟨values, there, fun _ => read⟩
      · rw [itemsAt_outside within]
        exact ⟨cells index, rfl, fun inside => absurd inside within⟩
    choose final run read using each
    obtain ⟨others, scattered, othersOwn, held⟩ :=
      succeeds final (Deposits.foldlM_eq_ok_iff.mpr run)
    rw [scattered]
    congr 1
    refine eq_of_cellsAt othersOwn own fits.inputShapes fun index within => ?_
    rw [held index within, read index within]
  · cases run : (indexSpace updateShape).foldlM (Deposits.deposit
        (axes.placeOf inputShape scatterIndices.elements Element.signExtended)
        (updateCells updates computation)) cells with
    | ok final =>
      obtain ⟨results, scattered, -⟩ := succeeds final run
      rw [scattered] at failed
      cases failed
    | error other =>
      rw [fails other run] at failed
      cases failed
      -- One of the updates was not computed, although its elements can be read.
      obtain ⟨item, listed, values, stopped⟩ := Deposits.error_of_foldlM run
      obtain ⟨updateArgs, updateRead, -⟩ :=
        exists_cellsAt updateOwn fits.updateShapes (MixedRadix.mem_all.mp listed)
      unfold updateCells at stopped
      rw [updateRead, Fallible.ok_bind] at stopped
      exact ⟨_, stopped⟩

end Meets

end Stablehlo
