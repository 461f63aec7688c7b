import Stablehlo.Reference.Scatter

/-! Which scatters the interpreter evaluates as the specification has it. -/

namespace Stablehlo

section Inversion

variable {axes : IndexAxes} {inputTypes updateTypes : List ShapedType}
  {scatterIndices : TypedTensor} {inputShape updateShape : Sizes}
  {parameterTypes returnTypes : List StablehloType} {updateIndex : Index}

/-- Replacing elements does not change the types of tensors. -/
theorem setAll_types {index : Index} {results replaced : List TypedTensor} {values : List Element}
    (set : setAll index results values = .ok replaced) :
    replaced.map TypedTensor.type = results.map TypedTensor.type := by
  induction results generalizing replaced values with
  | nil =>
    cases values <;> cases set <;> rfl
  | cons result results ih =>
    cases values with
    | nil =>
      cases set
      rfl
    | cons value values =>
      obtain ⟨first, firstSet, rest⟩ := Fallible.bind_eq_ok.mp set
      obtain ⟨others, othersSet, same⟩ := Fallible.bind_eq_ok.mp rest
      cases same
      rw [List.map_cons, List.map_cons, ih othersSet]
      congr 1
      -- The shape is the one there was, and so is the element type.
      unfold TypedTensor.set at firstSet
      split at firstSet
      · split at firstSet
        · cases firstSet
        · next elements stored =>
          cases firstSet
          obtain ⟨position, -, set⟩ := Fallible.bind_eq_ok.mp stored
          cases set
          rfl
      · cases firstSet

/-- Only tensors of integers have index vectors. -/
theorem integerElements_of_readStartIndex {tensor : TypedTensor} {selection : Selection}
    (fits : selection.Fits tensor.elements.shape) {values : List Int}
    (read : readStartIndex tensor.elements selection.toIndex = .ok values) :
    IntegerElements tensor.elements := by
  obtain ⟨slice, sliced, shape, elements⟩ := sliceAt_toIndex fits
  rw [readStartIndex, sliced, Fallible.ok_bind, evalIndex] at read
  rcases Nat.eq_zero_or_pos slice.shape.prod with empty | positive
  · -- There are no elements at all.
    rw [shape] at empty
    have none := tensor.elements.complete
    rw [Selection.prod_eq_zero fits empty, List.length_eq_zero_iff] at none
    intro element listed
    rw [none] at listed
    cases listed
  · have within := MixedRadix.decode_within positive
    obtain ⟨place, found⟩ := List.mem_iff_getElem?.mp (MixedRadix.mem_all.mpr within)
    obtain ⟨value, -, passed⟩ := Fallible.getElem?_of_mapM read found
    rw [elements _ within] at passed
    generalize MixedRadix.decode slice.shape 0 = start at within passed
    rw [shape] at within
    obtain ⟨element, got, stored⟩ := Tensor.get_eq (Selection.fill_eq fits within).2
    rw [got, Fallible.ok_bind] at passed
    obtain ⟨integer, holds, -⟩ := Fallible.bind_eq_ok.mp passed
    -- The type of the element is that of all elements.
    apply integerElements
    rw [← tensor.typed element (List.mem_of_getElem? stored)]
    obtain ⟨type, value, own⟩ := element
    cases value with
    | integer value =>
      rw [ElementValue.fits, Bool.and_eq_true] at own
      exact own.1
    | _ => cases holds

/-- An index vector that was read is one of integers. -/
theorem ScatterFits.integers_of_fullIndexOf
    (fits : ScatterFits axes inputTypes updateTypes inputShape scatterIndices.elements.shape
      updateShape parameterTypes returnTypes) (within : MixedRadix.Within updateShape updateIndex)
    {adjust : Nat → Int → Except Failure Int} {coordinates : List Int}
    (full : fullIndexOf axes inputShape.length scatterIndices.elements adjust updateIndex =
      .ok coordinates) : IntegerElements scatterIndices.elements := by
  obtain ⟨indexed, selected⟩ :=
    IndexAxes.startIndicesIndexOf_eq (fits.valid.batchIndex_within within)
  have batchRead : extractCoordinates updateIndex
      ((List.range updateIndex.length).filter fun d => !axes.windowDims.contains d) =
        .ok (axes.batchIndex updateIndex) :=
    extractCoordinates_eq fun d listed => (AxisMap.mem_rest.mp listed).1
  rw [fullIndexOf, batchRead, Fallible.ok_bind, indexed, Fallible.ok_bind] at full
  obtain ⟨values, read, -⟩ := Fallible.bind_eq_ok.mp full
  exact integerElements_of_readStartIndex selected read

/-- A computation that was evaluated took scalars of the types of its parameters. -/
theorem parameterTypes_of_eval {computation : UpdateComputation parameterTypes returnTypes}
    {args values : List Element} (evaluated : computation.eval args = .ok values) :
    parameterTypes = args.map Element.scalarType := by
  unfold UpdateComputation.eval at evaluated
  split at evaluated
  · cases evaluated
  · split at evaluated
    · cases evaluated
    · next same => exact not_not.mp same

/-- Indices whose sum was computed have coordinates whose sums are numbers of 64 bits. -/
theorem isInt64_of_addIndices {rank : Nat} {first second : Nat → Int} {sums : List Int}
    (added : addIndices ((List.range rank).map first) ((List.range rank).map second) = .ok sums) :
    (∀ d < rank, IsInt64 (first d + second d)) ∧
      sums = (List.range rank).map fun d => first d + second d := by
  have small : ∀ d < rank, IsInt64 (first d + second d) := by
    intro d below
    by_contra large
    obtain ⟨failure, failed⟩ := IndexAxes.addIndices_overflow below large
    rw [added] at failed
    cases failed
  rw [IndexAxes.addIndices_eq small, Except.ok.injEq] at added
  exact ⟨small, added.symm⟩

/-- An update that is computed was ready, and leaves the types of the results as they are. -/
theorem ScatterFits.ready_of_scatterUpdate
    (fits : ScatterFits axes inputTypes updateTypes inputShape scatterIndices.elements.shape
      updateShape parameterTypes returnTypes)
    {updates : List TypedTensor} (updateOwn : updates.map TypedTensor.type = updateTypes)
    {computation : UpdateComputation parameterTypes returnTypes}
    (within : MixedRadix.Within updateShape updateIndex) {results next : List TypedTensor}
    (own : results.map TypedTensor.type = inputTypes)
    (stepped : scatterUpdate axes scatterIndices.elements updates computation results updateIndex =
      .ok next) :
    UpdateReady axes inputTypes scatterIndices updateTypes inputShape parameterTypes updateIndex ∧
      next.map TypedTensor.type = inputTypes := by
  cases results with
  | nil => exact absurd own.symm fits.nonempty
  | cons first rest =>
    have shape : first.elements.shape = inputShape := by
      refine fits.inputShapes first.type ?_
      rw [← own]
      exact List.mem_cons_self
    rw [scatterUpdate, shape] at stepped
    obtain ⟨coordinates, full, stepped⟩ := Fallible.bind_eq_ok.mp stepped
    have integers := fits.integers_of_fullIndexOf within full
    obtain ⟨elements, -, -, vectors⟩ :=
      fits.valid.exists_startVector (fits.valid.batchIndex_within within)
    have vector := vectors Element.signExtended
    have sums := full
    rw [fits.valid.fullIndexOf_eq_add integers within (fun _ _ _ => rfl) vector] at sums
    obtain ⟨start, added, sums⟩ := Fallible.bind_eq_ok.mp sums
    obtain ⟨-, rfl⟩ := isInt64_of_addIndices added
    obtain ⟨small, same⟩ := isInt64_of_addIndices sums
    have target : axes.targetOf inputShape.length scatterIndices.elements Element.signExtended
        updateIndex = .ok coordinates := by
      rw [IndexAxes.targetOf, vector, Fallible.ok_bind, same]
      rfl
    split at stepped
    · next outside =>
      cases stepped
      refine ⟨⟨integers, fun startIndex again d below => ?_, fun inside => ?_⟩, own⟩
      · rw [vector, Except.ok.injEq] at again
        subst again
        exact (small d below).2
      · rw [IndexAxes.placeOf, target] at inside
        simp_all
    · next inside =>
      have place : inBoundsOf inputShape coordinates = true := by simpa using inside
      obtain ⟨index, rfl, indexWithin⟩ := inBoundsOf_iff.mp place
      obtain ⟨resultArgs, resultRead, stepped⟩ := Fallible.bind_eq_ok.mp stepped
      obtain ⟨updateArgs, updateRead, stepped⟩ := Fallible.bind_eq_ok.mp stepped
      obtain ⟨values, evaluated, set⟩ := Fallible.bind_eq_ok.mp stepped
      refine ⟨⟨integers, fun startIndex again d below => ?_, fun _ => ?_⟩,
        (setAll_types set).trans own⟩
      · rw [vector, Except.ok.injEq] at again
        subst again
        exact (small d below).2
      · -- The computation takes the elements that were read.
        have read : cellsAt (first :: rest) index = .ok resultArgs := by
          rw [← resultRead, cellsAt]
          exact Fallible.mapM_congr fun result _ => (result.elements.getAt_map_natCast index).symm
        obtain ⟨_, again, resultTypes⟩ := exists_cellsAt own fits.inputShapes indexWithin
        rw [read, Except.ok.injEq] at again
        subst again
        obtain ⟨_, again, updateArgTypes⟩ := exists_cellsAt updateOwn fits.updateShapes within
        rw [show cellsAt updates updateIndex = .ok updateArgs from updateRead, Except.ok.injEq]
          at again
        subst again
        have types : (resultArgs ++ updateArgs).map Element.type =
            (inputTypes ++ updateTypes).map ShapedType.elementType := by
          rw [List.map_append, resultTypes, updateArgTypes, List.map_append]
        have scalars := congrArg (List.map fun type => StablehloType.rankedTensor [] type none) types
        rw [List.map_map, List.map_map] at scalars
        exact (parameterTypes_of_eval evaluated).trans scalars

/-- A scatter that succeeds has only updates that were ready. -/
theorem ScatterFits.ready_of_scatterOp
    (fits : ScatterFits axes inputTypes updateTypes inputShape scatterIndices.elements.shape
      updateShape parameterTypes returnTypes)
    {inputs updates results : List TypedTensor} (own : inputs.map TypedTensor.type = inputTypes)
    (updateOwn : updates.map TypedTensor.type = updateTypes)
    {computation : UpdateComputation parameterTypes returnTypes}
    (scattered : scatterOp inputs scatterIndices.elements updates axes computation = .ok results)
    (within : MixedRadix.Within updateShape updateIndex) :
    UpdateReady axes inputTypes scatterIndices updateTypes inputShape parameterTypes
      updateIndex := by
  rw [fits.scatterOp_eq updateOwn] at scattered
  -- Each update was computed from results of the types of the inputs.
  obtain ⟨before, after, beforeOwn, stepped⟩ := Fallible.foldlM_forall
    (fun item listed state next stateOwn stepped => (fits.ready_of_scatterUpdate updateOwn
      (MixedRadix.mem_all.mp listed) stateOwn stepped).2) own scattered updateIndex
        (MixedRadix.mem_all.mpr within)
  exact (fits.ready_of_scatterUpdate updateOwn within beforeOwn stepped).1

/-- There is a value of each of the types. -/
theorem exists_values
    (supported : ∀ type ∈ returnTypes, ∃ shape elementType,
      StablehloType.shaped type = some (shape, elementType) ∧ isSupportedType elementType = true) :
    ∃ values : List Element, List.Forall₂ (fun value type => ∃ shape,
      StablehloType.shaped type = some (shape, value.type)) values returnTypes := by
  induction returnTypes with
  | nil => exact ⟨[], .nil⟩
  | cons type returnTypes ih =>
    obtain ⟨⟨shape, elementType, shaped, own⟩, rest⟩ := List.forall_mem_cons.mp supported
    obtain ⟨values, typed⟩ := ih rest
    obtain ⟨zero, -, same, -⟩ := exists_two_elements own
    exact ⟨zero :: values, .cons ⟨shape, by rw [shaped, same]⟩ typed⟩

/-- There are tensors of the types with any elements of the types at each index. -/
theorem exists_tensors {types : List ShapedType} {shape : Sizes} {cells : Index → List Element}
    (shapes : ∀ type ∈ types, type.shape = shape)
    (own : ∀ index, (cells index).map Element.type = types.map ShapedType.elementType) :
    ∃ tensors : List TypedTensor, tensors.map TypedTensor.type = types ∧
      ∀ index, MixedRadix.Within shape index → cellsAt tensors index = .ok (cells index) := by
  induction types generalizing cells with
  | nil =>
    refine ⟨[], rfl, fun index _ => ?_⟩
    rw [List.map_eq_nil_iff.mp (own index)]
    rfl
  | cons type types ih =>
    -- The first elements make up the first tensor.
    have split : ∀ index, ∃ first rest, cells index = first :: rest ∧
        first.type = type.elementType ∧
        rest.map Element.type = types.map ShapedType.elementType := by
      intro index
      have here := own index
      cases listed : cells index with
      | nil => rw [listed] at here; cases here
      | cons first rest =>
        rw [listed, List.map_cons, List.map_cons, List.cons.injEq] at here
        exact ⟨first, rest, rfl, here⟩
    choose first rest same firstType restTypes using split
    obtain ⟨typeShape, shapes⟩ := List.forall_mem_cons.mp shapes
    obtain ⟨tensors, tensorsOwn, held⟩ := ih shapes restTypes
    let tensor : TypedTensor := {
      elementType := type.elementType
      elements := .tabulate type.shape first
      typed := fun element listed => by
        obtain ⟨index, -, rfl⟩ := List.mem_map.mp listed
        exact firstType index }
    refine ⟨tensor :: tensors, by rw [List.map_cons, tensorsOwn]; rfl, fun index within => ?_⟩
    have got : tensor.elements.get index = .ok (first index) :=
      Tensor.get_tabulate (typeShape ▸ within)
    have others := held index within
    rw [cellsAt] at others
    rw [cellsAt, List.mapM_cons, got, others, same index]
    rfl

/-- There is an element of each supported type. -/
theorem exists_elements {types : List ShapedType}
    (supported : ∀ type ∈ types, isSupportedType type.elementType = true) :
    ∃ elements : List Element, elements.map Element.type = types.map ShapedType.elementType := by
  induction types with
  | nil => exact ⟨[], rfl⟩
  | cons type types ih =>
    obtain ⟨own, rest⟩ := List.forall_mem_cons.mp supported
    obtain ⟨elements, same⟩ := ih rest
    obtain ⟨zero, -, zeroType, -⟩ := exists_two_elements own
    exact ⟨zero :: elements, by rw [List.map_cons, List.map_cons, zeroType, same]⟩

/-- There are two lists of elements of supported types with different first elements. -/
theorem exists_two_values {types : List ShapedType}
    (supported : ∀ type ∈ types, isSupportedType type.elementType = true) (some : types ≠ []) :
    ∃ zeros ones : List Element, zeros.map Element.type = types.map ShapedType.elementType ∧
      ones.map Element.type = types.map ShapedType.elementType ∧ zeros.head? ≠ ones.head? := by
  cases types with
  | nil => exact absurd rfl some
  | cons first types =>
    obtain ⟨own, rest⟩ := List.forall_mem_cons.mp supported
    obtain ⟨zero, one, zeroType, oneType, different⟩ := exists_two_elements own
    obtain ⟨elements, same⟩ := exists_elements rest
    refine ⟨zero :: elements, one :: elements, ?_, ?_, ?_⟩
    · rw [List.map_cons, List.map_cons, zeroType, same]
    · rw [List.map_cons, List.map_cons, oneType, same]
    · exact fun equal => different (Option.some.inj equal)

end Inversion

section Distinction

variable {axes : IndexAxes} {inputTypes updateTypes : List ShapedType}
  {scatterIndices : TypedTensor} {inputShape updateShape : Sizes}
  {parameterTypes returnTypes : List StablehloType} {updateIndex : Index}

/-- A scatter that is the one of the specification succeeds with a computation that does. -/
theorem ScatterMeetsSpec.succeeds (meets : ScatterMeetsSpec axes inputTypes scatterIndices
      updateTypes inputShape updateShape parameterTypes returnTypes)
    {inputs updates : List TypedTensor} (own : inputs.map TypedTensor.type = inputTypes)
    (updateOwn : updates.map TypedTensor.type = updateTypes)
    {computation : UpdateComputation parameterTypes returnTypes}
    (total : ∀ args, ∃ values, computation.run args = .ok values) :
    ∃ results, scatterOp inputs scatterIndices.elements updates axes computation = .ok results := by
  cases scattered : scatterOp inputs scatterIndices.elements updates axes computation with
  | ok results => exact ⟨results, rfl⟩
  | error failure =>
    -- Only the computation may fail, and it does not.
    obtain ⟨args, failed⟩ := (meets inputs updates own updateOwn computation).2 failure scattered
    obtain ⟨values, ran⟩ := total args
    rw [ran] at failed
    cases failed

/-- With a computation that succeeds, the updates for an index have the same effect however the
entries of index vectors are read. -/
theorem ScatterFits.folds_agree
    (fits : ScatterFits axes inputTypes updateTypes inputShape scatterIndices.elements.shape
      updateShape parameterTypes returnTypes)
    (meets : ScatterMeetsSpec axes inputTypes scatterIndices updateTypes inputShape updateShape
      parameterTypes returnTypes)
    {inputs updates : List TypedTensor} (own : inputs.map TypedTensor.type = inputTypes)
    (updateOwn : updates.map TypedTensor.type = updateTypes)
    {computation : UpdateComputation parameterTypes returnTypes}
    (total : ∀ args, ∃ values, computation.run args = .ok values)
    {index : Index} (within : MixedRadix.Within inputShape index) {start : List Element}
    (read : cellsAt inputs index = .ok start) :
    (Deposits.itemsAt (axes.placeOf inputShape scatterIndices.elements Element.integer) index
        (indexSpace updateShape)).foldlM (updateCells updates computation) start =
      (Deposits.itemsAt (axes.placeOf inputShape scatterIndices.elements Element.signExtended)
        index (indexSpace updateShape)).foldlM (updateCells updates computation) start := by
  obtain ⟨results, scattered⟩ := meets.succeeds own updateOwn total
  obtain ⟨cells, has⟩ := fits.exists_cells own
  obtain ⟨succeeds, fails⟩ := fits.scatterOp_simulates updateOwn computation
    (fun updateIndex within => fits.ready_of_scatterOp own updateOwn scattered within) has
  have same := has.2 index within
  rw [read, Except.ok.injEq] at same
  obtain ⟨-, folded⟩ := ((meets inputs updates own updateOwn computation).1 results).mp scattered
  have exact := folded index within
  rw [read, Fallible.ok_bind] at exact
  cases run : (indexSpace updateShape).foldlM (Deposits.deposit
      (axes.placeOf inputShape scatterIndices.elements Element.signExtended)
      (updateCells updates computation)) cells with
  | error failure =>
    rw [fails failure run] at scattered
    cases scattered
  | ok final =>
    obtain ⟨others, again, -, held⟩ := succeeds final run
    rw [scattered, Except.ok.injEq] at again
    subst again
    have there := Deposits.foldlM_eq_ok_iff.mp run index
    rw [exact, same, there, held index within]

/-- Values of the element types of the inputs are of the types that are returned. -/
theorem typed_of_returned {values : List Element} {types : List ShapedType}
    (same : values.map Element.type = types.map ShapedType.elementType)
    (own : List.Forall₂ (fun (type : ShapedType) returnType => ∃ shape,
      StablehloType.shaped returnType = some (shape, type.elementType)) types returnTypes) :
    List.Forall₂ (fun value type => ∃ shape,
      StablehloType.shaped type = some (shape, value.type)) values returnTypes := by
  induction own generalizing values with
  | nil =>
    rw [List.map_eq_nil_iff.mp same]
    exact .nil
  | cons first _ ih =>
    cases values with
    | nil => cases same
    | cons value values =>
      rw [List.map_cons, List.map_cons, List.cons.injEq] at same
      exact .cons (same.1 ▸ first) (ih same.2)

/-- Without updates that the computation takes, none was to be for an index in bounds. -/
theorem ScatterFits.placeOf_eq_none
    (fits : ScatterFits axes inputTypes updateTypes inputShape scatterIndices.elements.shape
      updateShape parameterTypes returnTypes)
    (meets : ScatterMeetsSpec axes inputTypes scatterIndices updateTypes inputShape updateShape
      parameterTypes returnTypes)
    (supported : ∀ type ∈ inputTypes ++ updateTypes, isSupportedType type.elementType = true)
    (returnSupported : ∀ type ∈ returnTypes, ∃ shape elementType,
      StablehloType.shaped type = some (shape, elementType) ∧ isSupportedType elementType = true)
    (untaken : ∀ updateIndex, MixedRadix.Within updateShape updateIndex →
      axes.placeOf inputShape scatterIndices.elements Element.signExtended updateIndex = none)
    (within : MixedRadix.Within updateShape updateIndex) :
    axes.placeOf inputShape scatterIndices.elements Element.integer updateIndex = none := by
  cases place : axes.placeOf inputShape scatterIndices.elements Element.integer updateIndex with
  | none => rfl
  | some index =>
    have inside := within_of_placeOf place
    obtain ⟨values, typed⟩ := exists_values returnSupported
    obtain ⟨zeros, ones, zeroTypes, oneTypes, different⟩ := exists_two_values
      (fun type listed => supported type (List.mem_append_left _ listed)) fits.nonempty
    obtain ⟨args, argTypes⟩ := exists_elements fun type listed =>
      supported type (List.mem_append_right _ listed)
    -- Whatever the inputs hold, the computation replaces it by the same values.
    have replaced : ∀ cells : List Element,
        cells.map Element.type = inputTypes.map ShapedType.elementType → cells = values := by
      intro cells types
      obtain ⟨inputs, own, held⟩ := exists_tensors fits.inputShapes fun _ => types
      obtain ⟨updates, updateOwn, updateHeld⟩ := exists_tensors fits.updateShapes fun _ => argTypes
      have agree := fits.folds_agree meets own updateOwn
        (fun _ => ⟨values, rfl⟩ : ∀ args, ∃ result, (⟨fun _ => .ok values, fun _ _ same => by
          cases same; exact typed⟩ : UpdateComputation parameterTypes returnTypes).run args =
            .ok result) inside (held index inside)
      have skipped : Deposits.itemsAt (axes.placeOf inputShape scatterIndices.elements
          Element.signExtended) index (indexSpace updateShape) = [] :=
        List.filter_eq_nil_iff.mpr fun item listed => by
          rw [untaken item (MixedRadix.mem_all.mp listed)]
          simp
      rw [skipped] at agree
      have member : updateIndex ∈ Deposits.itemsAt (axes.placeOf inputShape scatterIndices.elements
          Element.integer) index (indexSpace updateShape) :=
        List.mem_filter.mpr ⟨MixedRadix.mem_all.mpr within, by simp [place]⟩
      rw [Fallible.foldlM_constant (fun item listed state => ?_) (List.ne_nil_of_mem member)] at agree
      · exact (Except.ok.inj agree).symm
      · unfold updateCells
        rw [updateHeld item (MixedRadix.mem_all.mp (List.mem_filter.mp listed).1)]
        rfl
    rw [replaced zeros zeroTypes, replaced ones oneTypes] at different
    exact absurd rfl different

open Classical in
/-- A computation that takes elements as they are shows which index each update is for. -/
theorem ScatterFits.placeOf_eq_some_iff
    (fits : ScatterFits axes inputTypes updateTypes inputShape scatterIndices.elements.shape
      updateShape parameterTypes returnTypes)
    (meets : ScatterMeetsSpec axes inputTypes scatterIndices updateTypes inputShape updateShape
      parameterTypes returnTypes)
    (supported : ∀ type ∈ inputTypes ++ updateTypes, isSupportedType type.elementType = true)
    (typed : parameterTypes = (inputTypes ++ updateTypes).map fun type =>
      .rankedTensor [] type.elementType none)
    (within : MixedRadix.Within updateShape updateIndex) {index : Index}
    (inside : MixedRadix.Within inputShape index) :
    axes.placeOf inputShape scatterIndices.elements Element.integer updateIndex = some index ↔
      axes.placeOf inputShape scatterIndices.elements Element.signExtended updateIndex =
        some index := by
  have updatesSome : updateTypes ≠ [] := by
    intro none
    have number := fits.sameNumber
    rw [none, List.length_nil] at number
    exact fits.nonempty (List.length_eq_zero_iff.mp number.symm)
  obtain ⟨zeros, ones, zeroTypes, oneTypes, different⟩ := exists_two_values
    (fun type listed => supported type (List.mem_append_left _ listed)) fits.nonempty
  obtain ⟨plain, mark, plainTypes, markTypes, markDiffers⟩ := exists_two_values
    (fun type listed => supported type (List.mem_append_right _ listed)) updatesSome
  have zeroLength : zeros.length = inputTypes.length := by
    rw [← List.length_map Element.type, zeroTypes, List.length_map]
  have oneLength : ones.length = inputTypes.length := by
    rw [← List.length_map Element.type, oneTypes, List.length_map]
  have apart : ones ≠ zeros := fun same => different (by rw [same])
  -- The update in question holds the mark, and the computation keeps track of it.
  let computation : UpdateComputation parameterTypes returnTypes := {
    run := fun args =>
      .ok (if args.take inputTypes.length ≠ zeros ∨
        (args.drop inputTypes.length).head? = mark.head? then ones else zeros)
    typed := fun args values same => by
      cases same
      split
      · exact typed_of_returned oneTypes (fits.returned typed)
      · exact typed_of_returned zeroTypes (fits.returned typed) }
  obtain ⟨inputs, own, held⟩ := exists_tensors fits.inputShapes fun _ => zeroTypes
  obtain ⟨updates, updateOwn, updateHeld⟩ := exists_tensors fits.updateShapes
    (fun item => by
      show (if item = updateIndex then mark else plain).map Element.type = _
      split
      · exact markTypes
      · exact plainTypes)
  have agree := fits.folds_agree meets own updateOwn
    (fun args => ⟨_, rfl⟩ : ∀ args, ∃ values, computation.run args = .ok values) inside
    (held index inside)
  have keeps : ∀ item, MixedRadix.Within updateShape item →
      updateCells updates computation ones item = .ok ones := by
    intro item itemWithin
    unfold updateCells
    rw [updateHeld item itemWithin, Fallible.ok_bind]
    show Except.ok (if _ then _ else _) = _
    rw [if_pos (.inl (by rw [← oneLength, List.take_left]; exact apart))]
  have marks : ∀ item, MixedRadix.Within updateShape item →
      updateCells updates computation zeros item =
        .ok (if item = updateIndex then ones else zeros) := by
    intro item itemWithin
    unfold updateCells
    rw [updateHeld item itemWithin, Fallible.ok_bind]
    show Except.ok (if _ then _ else _) = _
    rw [← zeroLength, List.take_left, List.drop_left]
    by_cases here : item = updateIndex
    · simp [here]
    · simp [here, markDiffers]
  have member : ∀ read, updateIndex ∈ Deposits.itemsAt (axes.placeOf inputShape
      scatterIndices.elements read) index (indexSpace updateShape) ↔
        axes.placeOf inputShape scatterIndices.elements read updateIndex = some index := by
    intro read
    rw [Deposits.itemsAt, List.mem_filter, decide_eq_true_eq]
    exact and_iff_right (MixedRadix.mem_all.mpr within)
  have inSpace : ∀ read, ∀ item ∈ Deposits.itemsAt (axes.placeOf inputShape
      scatterIndices.elements read) index (indexSpace updateShape),
        MixedRadix.Within updateShape item := fun read item listed =>
    MixedRadix.mem_all.mp (List.mem_filter.mp listed).1
  rw [Fallible.foldlM_marks (fun item listed => keeps item (inSpace _ item listed))
      (fun item listed => marks item (inSpace _ item listed)),
    Fallible.foldlM_marks (fun item listed => keeps item (inSpace _ item listed))
      (fun item listed => marks item (inSpace _ item listed)), Except.ok.injEq] at agree
  rw [← member, ← member]
  split at agree <;> split at agree
  · exact iff_of_true ‹_› ‹_›
  · exact absurd agree apart
  · exact absurd agree.symm apart
  · exact iff_of_false ‹_› ‹_›

/-- All updates of a scatter that is the one of the specification land. -/
theorem ScatterFits.lands_of_meetsSpec
    (fits : ScatterFits axes inputTypes updateTypes inputShape scatterIndices.elements.shape
      updateShape parameterTypes returnTypes)
    (meets : ScatterMeetsSpec axes inputTypes scatterIndices updateTypes inputShape updateShape
      parameterTypes returnTypes)
    (supported : ∀ type ∈ inputTypes ++ updateTypes, isSupportedType type.elementType = true)
    (returnSupported : ∀ type ∈ returnTypes, ∃ shape elementType,
      StablehloType.shaped type = some (shape, elementType) ∧ isSupportedType elementType = true)
    (within : MixedRadix.Within updateShape updateIndex) :
    UpdateLands axes inputTypes scatterIndices updateTypes inputShape parameterTypes
      updateIndex := by
  obtain ⟨values, valuesTyped⟩ := exists_values returnSupported
  let computation : UpdateComputation parameterTypes returnTypes :=
    ⟨fun _ => .ok values, fun _ _ same => by cases same; exact valuesTyped⟩
  obtain ⟨cells, cellTypes⟩ := exists_elements fun type listed =>
    supported type (List.mem_append_left _ listed)
  obtain ⟨args, argTypes⟩ := exists_elements fun type listed =>
    supported type (List.mem_append_right _ listed)
  obtain ⟨inputs, own, -⟩ := exists_tensors fits.inputShapes fun _ => cellTypes
  obtain ⟨updates, updateOwn, -⟩ := exists_tensors fits.updateShapes fun _ => argTypes
  obtain ⟨results, scattered⟩ := meets.succeeds own updateOwn
    (fun _ => ⟨values, rfl⟩ : ∀ args, ∃ result, computation.run args = .ok result)
  have ready := fun item (itemWithin : MixedRadix.Within updateShape item) =>
    fits.ready_of_scatterOp own updateOwn scattered itemWithin
  have alike : axes.placeOf inputShape scatterIndices.elements Element.signExtended updateIndex =
      axes.placeOf inputShape scatterIndices.elements Element.integer updateIndex := by
    by_cases typed : parameterTypes = (inputTypes ++ updateTypes).map fun type =>
        .rankedTensor [] type.elementType none
    · -- Both are the same index in bounds, or none.
      refine Option.ext fun index => ⟨fun place => ?_, fun place => ?_⟩
      · exact (fits.placeOf_eq_some_iff meets supported typed within
          (within_of_placeOf place)).mpr place
      · exact (fits.placeOf_eq_some_iff meets supported typed within
          (within_of_placeOf place)).mp place
    · have untaken : ∀ item, MixedRadix.Within updateShape item →
          axes.placeOf inputShape scatterIndices.elements Element.signExtended item = none := by
        intro item itemWithin
        cases place : axes.placeOf inputShape scatterIndices.elements Element.signExtended item with
        | none => rfl
        | some index => exact absurd ((ready item itemWithin).typed (by rw [place]; rfl)) typed
      rw [untaken updateIndex within,
        fits.placeOf_eq_none meets supported returnSupported untaken within]
  obtain ⟨integers, small, typed⟩ := ready updateIndex within
  exact ⟨integers, small, alike, fun inside => typed (alike ▸ inside)⟩

end Distinction

/-- The shape of the first of several tensors. -/
def firstShape (types : List ShapedType) : Sizes := (types.head?.map ShapedType.shape).getD []

/-- Types that are compatible with the first one have its shape when they are static. -/
theorem shape_eq_firstShape {types : List RankedTensorType} {shapedTypes : List ShapedType}
    (static : List.Forall₂ RankedTensorType.IsStatic types shapedTypes)
    (compatible : ∀ first ∈ types.head?, ∀ type ∈ types, verifyCompatibleShape first type = true) :
    ∀ type ∈ shapedTypes, type.shape = firstShape shapedTypes := by
  cases static with
  | nil => simp
  | @cons firstType first types shapedTypes firstStatic static =>
    intro type listed
    obtain ⟨place, found⟩ := List.mem_iff_getElem?.mp listed
    have whole : List.Forall₂ RankedTensorType.IsStatic (firstType :: types)
      (first :: shapedTypes) := .cons firstStatic static
    have length := whole.length_eq
    obtain ⟨below, same⟩ := List.getElem?_eq_some_iff.mp found
    have own := (List.forall₂_iff_get.mp whole).2 place (by omega) below
    have member := List.getElem_mem (show place < (firstType :: types).length by omega)
    rw [List.get_eq_getElem, List.get_eq_getElem, same] at own
    exact (eq_of_verifyCompatibleShape firstStatic own
      (compatible firstType rfl _ member)).symm

section Accepted

variable {operandType updatesType scatterIndicesType : RankedTensorType}
  {dims : ScatterDimensionNumbers} {operandShape indicesShape updateShape : Sizes}

/-- The sizes of the scatter indices, with the dimension of the index vectors. -/
def expandedSizes (indicesShape : Sizes) (indexVectorDim : Nat) : Sizes :=
  if indexVectorDim = indicesShape.length then indicesShape ++ [1] else indicesShape

/-- The expanded shape of static scatter indices has known sizes. -/
theorem expandedScatterIndicesShape_known {shape : List Int64} {indexVectorDim : Int64}
    (known : shape.map Int64.toInt = indicesShape.map Nat.cast)
    (nonneg : 0 ≤ indexVectorDim.toInt) :
    (expandedScatterIndicesShape shape indexVectorDim).map Int64.toInt =
      (expandedSizes indicesShape indexVectorDim.toNatClampNeg).map Nat.cast := by
  have rank := length_of_known known
  have own : indexVectorDim.toInt = indexVectorDim.toNatClampNeg := by
    rw [Int64.toNatClampNeg]
    omega
  rw [expandedScatterIndicesShape, expandedSizes, own, rank]
  by_cases implied : indexVectorDim.toNatClampNeg = indicesShape.length
  · -- A dimension of size one is added to both.
    rw [if_pos (by omega), if_pos implied, List.map_append, List.map_append, known]
    rfl
  · rw [if_neg (by omega), if_neg implied, known]

/-- The dimension numbers of an accepted scatter fit the shapes. -/
theorem valid_of_verified
    (operandKnown : operandType.shape.map Int64.toInt = operandShape.map Nat.cast)
    (indicesKnown : scatterIndicesType.shape.map Int64.toInt = indicesShape.map Nat.cast)
    (updateKnown : updatesType.shape.map Int64.toInt = updateShape.map Nat.cast)
    (vectorDim : 0 ≤ dims.indexVectorDim.toInt ∧
      dims.indexVectorDim.toInt ≤ scatterIndicesType.rank)
    (rank : updatesType.rank = (expandedScatterIndicesShape scatterIndicesType.shape
      dims.indexVectorDim).length - 1 + dims.updateWindowDims.length)
    (verified : dims.Verified operandType.shape (expandedScatterIndicesShape
      scatterIndicesType.shape dims.indexVectorDim) updatesType.shape)
    (sizes : checkUpdateScatterDims updatesType.shape (expandedScatterIndicesShape
      scatterIndicesType.shape dims.indexVectorDim) dims.updateWindowDims dims.indexVectorDim 0
      (List.range updatesType.shape.length) = .ok ()) :
    dims.indexAxes.Valid operandShape indicesShape updateShape := by
  have operandRank := length_of_known operandKnown
  have indicesRank := length_of_known indicesKnown
  have updateRank := length_of_known updateKnown
  have expandedKnown := expandedScatterIndicesShape_known indicesKnown vectorDim.1
  have vectorNonneg : dims.indexVectorDim.toInt = dims.indexVectorDim.toNatClampNeg := by
    rw [Int64.toNatClampNeg]
    omega
  have vectorBound : dims.indexVectorDim.toNatClampNeg ≤ indicesShape.length := by
    have bound := vectorDim.2
    rw [RankedTensorType.rank] at bound
    omega
  have expandedLength := length_of_known expandedKnown
  have expandedRank : (expandedSizes indicesShape dims.indexVectorDim.toNatClampNeg).length =
      if dims.indexVectorDim.toNatClampNeg = indicesShape.length then indicesShape.length + 1
      else indicesShape.length := by
    rw [expandedSizes]
    split <;> simp
  -- Dimensions other than that of the index vectors are those that there were before.
  have expandedEntry : ∀ s : Nat, s ≠ dims.indexVectorDim.toNatClampNeg →
      (expandedSizes indicesShape dims.indexVectorDim.toNatClampNeg)[s]? = indicesShape[s]? := by
    intro s different
    rw [expandedSizes]
    split
    · next implied =>
      rcases Nat.lt_or_ge s indicesShape.length with below | beyond
      · rw [List.getElem?_append_left below]
      · rw [List.getElem?_eq_none (by rw [List.length_append, List.length_singleton]; omega),
          List.getElem?_eq_none beyond]
    · rfl
  have notVector := not_mem_axes verified.indicesBatchingBound vectorDim.1 verified.notVector
  have skipped : axes dims.insertedWindowDims ++ axes dims.inputBatchingDims =
      axes (dims.insertedWindowDims ++ dims.inputBatchingDims) := (axes_append _ _).symm
  have windowUnique := nodup_axes verified.windowUnique verified.windowBound
  have windowBound : ∀ d ∈ axes dims.updateWindowDims, d < updateShape.length := by
    rw [← updateRank]
    exact fun d listed => axes_lt verified.windowBound listed
  have operandDims := verified.rank
  exact {
    vectorDim := vectorBound
    vectorSize := by
      show (axes dims.scatterDimsToOperandDims).length = if dims.indexVectorDim.toNatClampNeg <
        indicesShape.length then indicesShape.getD dims.indexVectorDim.toNatClampNeg 0 else 1
      obtain ⟨bound, found, size⟩ := verified.vectorSize
      obtain ⟨known, sizeFound, value⟩ := getElem?_of_known expandedKnown found
      rw [isDynamicDimSize_of_natCast value, value] at size
      have same : known = dims.scatterDimsToOperandDims.length := by simpa using size
      rw [length_axes, ← same]
      rw [expandedSizes] at sizeFound
      by_cases explicit : dims.indexVectorDim.toNatClampNeg < indicesShape.length
      · rw [if_neg (by omega)] at sizeFound
        rw [if_pos explicit, List.getD_eq_getElem?_getD, sizeFound]
        rfl
      · have implied : dims.indexVectorDim.toNatClampNeg = indicesShape.length := by omega
        rw [if_pos implied, implied, List.getElem?_append_right (Nat.le_refl _)] at sizeFound
        rw [if_neg explicit]
        simpa using sizeFound.symm
    windowUnique := windowUnique
    windowBound := windowBound
    skippedUnique := by
      show (axes _ ++ axes _).Nodup
      rw [skipped]
      exact nodup_axes verified.skippedUnique verified.skippedBound
    skippedBound := by
      show ∀ d ∈ axes _ ++ axes _, _
      rw [skipped, ← operandRank]
      exact fun d listed => axes_lt verified.skippedBound listed
    rank := by
      show (axes _).length + (axes _ ++ axes _).length = _
      rw [List.length_append, length_axes, length_axes, length_axes]
      omega
    indicesBound := fun d listed => by
      have below := axes_lt verified.indicesBatchingBound listed
      have different : d ≠ dims.indexVectorDim.toNatClampNeg := fun same => notVector (same ▸ listed)
      rw [expandedLength, expandedRank] at below
      split at below <;> omega
    notVector := notVector
    paired := by
      show (axes _).length = (axes _).length
      rw [length_axes, length_axes, verified.paired]
    pairedSizes := fun i d s first second => by
      have same := same_of_mismatchedBatchingDims operandKnown expandedKnown
        (fun dim listed => verified.skippedBound dim (List.mem_append_right _ listed))
        verified.indicesBatchingBound verified.pairedSizes first second
      rw [same]
      exact expandedEntry s fun vector => notVector (vector ▸ List.mem_of_getElem? second)
    mapUnique := by
      show (axes _ ++ axes _).Nodup
      rw [← axes_append]
      refine @nodup_axes _ operandType.shape.length verified.mapUnique fun dim listed => ?_
      rcases List.mem_append.mp listed with mapped | batching
      · exact verified.mapBound dim mapped
      · exact verified.skippedBound dim (List.mem_append_right _ batching)
    mapBound := fun d listed => by
      rw [← operandRank]
      exact axes_lt verified.mapBound listed
    outerBatch := by
      show (AxisMap.rest (axes dims.updateWindowDims) updateShape.length).map
        (updateShape.getD · 0) = dims.indexAxes.batchShape indicesShape
      have count := AxisMap.length_rest windowUnique windowBound
      rw [length_axes] at count
      rw [RankedTensorType.rank, updateRank, expandedLength, expandedRank] at rank
      have batchLength : (dims.indexAxes.batchShape indicesShape).length =
          (AxisMap.rest (axes dims.updateWindowDims) updateShape.length).length := by
        rw [IndexAxes.batchShape]
        by_cases explicit : dims.indexAxes.indexVectorDim < indicesShape.length
        · rw [if_pos explicit, List.length_eraseIdx_of_lt explicit]
          have other : dims.indexVectorDim.toNatClampNeg < indicesShape.length := explicit
          rw [if_neg (by omega)] at rank
          omega
        · rw [if_neg explicit]
          have same : ¬ dims.indexVectorDim.toNatClampNeg < indicesShape.length := explicit
          rw [if_pos (by omega)] at rank
          omega
      refine List.ext_getElem (by rw [List.length_map, batchLength]) fun k below _ => ?_
      rw [List.length_map] at below
      -- The dimension was compared with one of the scatter indices.
      have listed : ((List.range updatesType.shape.length).filter fun (i : Nat) =>
          !dims.updateWindowDims.any fun dim => dim.toInt == (i : Int))[k]? =
            some (AxisMap.rest (axes dims.updateWindowDims) updateShape.length)[k] := by
        simp only [any_toInt_beq verified.windowBound, updateRank]
        exact List.getElem?_eq_getElem below
      obtain ⟨size, bound, sizeFound, boundFound, compatible⟩ :=
        checkUpdateScatterDims_eq_ok sizes listed
      obtain ⟨known, stored, value⟩ := getElem?_of_known updateKnown sizeFound
      obtain ⟨other, otherStored, otherValue⟩ := getElem?_of_known expandedKnown boundFound
      have batch : (dims.indexAxes.batchShape indicesShape)[k]? = some known := by
        rw [IndexAxes.getElem?_batchShape (by omega),
          eq_of_verifyCompatibleDims value otherValue compatible, ← otherStored,
          scatterIndicesDim, vectorNonneg]
        show indicesShape[if k < dims.indexVectorDim.toNatClampNeg then _ else _]? = _
        split
        · rw [if_neg (by omega), expandedEntry _ (by omega), Nat.zero_add]
        · rw [if_pos (by omega), expandedEntry _ (by omega), Nat.zero_add]
      obtain ⟨_, same⟩ := List.getElem?_eq_some_iff.mp batch
      rw [List.getElem_map, List.getD_eq_getElem?_getD, stored]
      exact same.symm }

variable [TypePrinter] {operandTypes updatesTypes : List RankedTensorType}
  {inputTypes updateTypes : List ShapedType} {scatterIndices : TypedTensor} {block : ReducerBlock}
  {returnTypes : List StablehloType}

/-- An accepted scatter has updates that fit. -/
theorem fits_of_verified
    (operandsStatic : List.Forall₂ RankedTensorType.IsStatic operandTypes inputTypes)
    (updatesStatic : List.Forall₂ RankedTensorType.IsStatic updatesTypes updateTypes)
    (indicesStatic : scatterIndicesType.IsStatic scatterIndices.type)
    (sameNumber : updateTypes.length = inputTypes.length)
    (terminated : block.returnTypes = some returnTypes)
    (accepted : verifyScatterOp operandTypes scatterIndicesType updatesTypes dims block = .ok ()) :
    ScatterFits dims.indexAxes inputTypes updateTypes (firstShape inputTypes)
      scatterIndices.elements.shape (firstShape updateTypes) block.parameterTypes returnTypes := by
  obtain ⟨operands, updates, vectorDim, computation, rank, pairs⟩ := verifyScatterOp_spec accepted
  have inputShapes := shape_eq_firstShape operandsStatic operands
  have updateShapes := shape_eq_firstShape updatesStatic updates
  obtain ⟨some, -, others, same, count, returned⟩ := verifyReducerShape_spec computation
  rw [terminated, Option.some.injEq] at same
  subst same
  have operandCount := operandsStatic.length_eq
  rw [List.length_map] at count returned
  have nonempty : operandTypes ≠ [] := fun none => some (by rw [none]; rfl)
  -- The dimension numbers were verified with the first operand and the first update.
  cases operandsStatic with
  | nil => exact absurd rfl nonempty
  | @cons operandType inputType operandTypes inputTypes operandStatic operandsStatic =>
    cases updatesStatic with
    | nil => cases sameNumber
    | @cons updatesType updateType updatesTypes updateTypes updateStatic updatesStatic =>
      obtain ⟨verified, sizes⟩ := pairs operandType updatesType List.mem_cons_self
      refine {
        valid := valid_of_verified operandStatic.1 indicesStatic.1 updateStatic.1 vectorDim
          (rank updatesType List.mem_cons_self) verified sizes
        inputShapes := inputShapes
        updateShapes := updateShapes
        small := fun d => lt_of_known operandStatic.1 d
        nonempty := List.cons_ne_nil _ _
        sameNumber := sameNumber
        returned := fun typed => ?_ }
      refine List.forall₂_iff_get.mpr ⟨by omega, fun i below returnBelow => ?_⟩
      obtain ⟨returnType, parameterType, found, parameter, shape, _, elementType, returnShaped,
        parameterShaped⟩ := returned i (by omega)
      have entry := List.getElem?_eq_getElem below
      rw [typed, List.map_append, List.getElem?_append_left (by rw [List.length_map]; exact below),
        List.getElem?_map, entry] at parameter
      cases parameter
      cases parameterShaped
      obtain ⟨_, same⟩ := List.getElem?_eq_some_iff.mp found
      exact ⟨shape, by rw [List.get_eq_getElem, same, returnShaped]; rfl⟩

/-- An accepted scatter is the one of the specification exactly when its updates land. -/
theorem scatterMeetsSpec_iff
    (operandsStatic : List.Forall₂ RankedTensorType.IsStatic operandTypes inputTypes)
    (updatesStatic : List.Forall₂ RankedTensorType.IsStatic updatesTypes updateTypes)
    (indicesStatic : scatterIndicesType.IsStatic scatterIndices.type)
    (sameNumber : updateTypes.length = inputTypes.length)
    (terminated : block.returnTypes = some returnTypes)
    (accepted : verifyScatterOp operandTypes scatterIndicesType updatesTypes dims block = .ok ())
    (supported : ∀ type ∈ inputTypes ++ updateTypes, isSupportedType type.elementType = true)
    (returnSupported : ∀ type ∈ returnTypes, ∃ shape elementType,
      StablehloType.shaped type = some (shape, elementType) ∧
        isSupportedType elementType = true) :
    ScatterMeetsSpec dims.indexAxes inputTypes scatterIndices updateTypes (firstShape inputTypes)
        (firstShape updateTypes) block.parameterTypes returnTypes ↔
      ∀ updateIndex, MixedRadix.Within (firstShape updateTypes) updateIndex →
        UpdateLands dims.indexAxes inputTypes scatterIndices updateTypes (firstShape inputTypes)
          block.parameterTypes updateIndex := by
  have fits := fits_of_verified operandsStatic updatesStatic indicesStatic sameNumber terminated
    accepted
  constructor
  · exact fun meets updateIndex within =>
      fits.lands_of_meetsSpec meets supported returnSupported within
  · exact fits.meetsSpec

end Accepted

/-- The numbers of a scatter of points of a vector. -/
abbrev pointScatterDims (indexVectorDim : Int64) : ScatterDimensionNumbers where
  updateWindowDims := []
  insertedWindowDims := [0]
  inputBatchingDims := []
  scatterIndicesBatchingDims := []
  scatterDimsToOperandDims := [0]
  indexVectorDim

/-- A computation with a single input on integers of a width. -/
abbrev integerBlock (width : Nat) : ReducerBlock where
  parameterTypes := List.replicate 2 (.rankedTensor [] (.integer .signless width) none)
  returnTypes := some [.rankedTensor [] (.integer .signless width) none]

/-- Two updates of a vector of three elements. -/
theorem scatterMeetsSpec_iff_points :
    ScatterMeetsSpec (pointScatterDims 1).indexAxes [⟨[3], .integer .signless 32⟩]
        (integerTensor [2, 1] .unsigned ⟨8, 2⟩ rfl) [⟨[2], .integer .signless 32⟩] [3] [2]
        (integerBlock 32).parameterTypes
        [.rankedTensor [] (.integer .signless 32) none] ↔
      ∀ updateIndex, MixedRadix.Within [2] updateIndex →
        UpdateLands (pointScatterDims 1).indexAxes [⟨[3], .integer .signless 32⟩]
          (integerTensor [2, 1] .unsigned ⟨8, 2⟩ rfl) [⟨[2], .integer .signless 32⟩] [3]
          (integerBlock 32).parameterTypes updateIndex :=
  @scatterMeetsSpec_iff ⟨[2, 1], .integer .unsigned 8, none⟩ (pointScatterDims 1) plainPrinter
    [⟨[3], .integer .signless 32, none⟩] [⟨[2], .integer .signless 32, none⟩]
    [⟨[3], .integer .signless 32⟩] [⟨[2], .integer .signless 32⟩]
    (integerTensor [2, 1] .unsigned ⟨8, 2⟩ rfl) (integerBlock 32)
    [.rankedTensor [] (.integer .signless 32) none]
    (.cons ⟨rfl, rfl⟩ .nil) (.cons ⟨rfl, rfl⟩ .nil) ⟨rfl, rfl⟩ rfl rfl rfl
    (by decide) (by intro type listed; cases List.mem_singleton.mp listed; exact ⟨_, _, rfl, rfl⟩)

/-- An unsigned index is read as a negative number, so that its update is lost, and elements are
not promoted to the types of the computation, although both scatters are accepted. -/
theorem updates_not_met :
    (@verifyScatterOp plainPrinter [⟨[4], .integer .signless 8, none⟩]
        ⟨[1], .integer .unsigned 2, none⟩ [⟨[], .integer .signless 8, none⟩]
        (pointScatterDims 0) (integerBlock 8) = .ok () ∧
      ¬ ScatterMeetsSpec (pointScatterDims 0).indexAxes [⟨[4], .integer .signless 8⟩]
        (integerTensor [1] .unsigned ⟨2, 3⟩ rfl) [⟨[], .integer .signless 8⟩] [4] []
        (integerBlock 8).parameterTypes [.rankedTensor [] (.integer .signless 8) none]) ∧
    (@verifyScatterOp plainPrinter [⟨[4], .integer .signless 8, none⟩]
        ⟨[1], .integer .signless 8, none⟩ [⟨[], .integer .signless 8, none⟩]
        (pointScatterDims 0) (integerBlock 16) = .ok () ∧
      ¬ ScatterMeetsSpec (pointScatterDims 0).indexAxes [⟨[4], .integer .signless 8⟩]
        (integerTensor [1] .signless ⟨8, 3⟩ rfl) [⟨[], .integer .signless 8⟩] [4] []
        (integerBlock 16).parameterTypes [.rankedTensor [] (.integer .signless 16) none]) := by
  refine ⟨⟨rfl, fun meets => ?_⟩, rfl, fun meets => ?_⟩
  · have fits := @fits_of_verified ⟨[1], .integer .unsigned 2, none⟩ (pointScatterDims 0)
      plainPrinter [⟨[4], .integer .signless 8, none⟩] [⟨[], .integer .signless 8, none⟩]
      [⟨[4], .integer .signless 8⟩] [⟨[], .integer .signless 8⟩]
      (integerTensor [1] .unsigned ⟨2, 3⟩ rfl) (integerBlock 8) _
      (.cons ⟨rfl, rfl⟩ .nil) (.cons ⟨rfl, rfl⟩ .nil) ⟨rfl, rfl⟩ rfl rfl rfl
    have lands := fits.lands_of_meetsSpec meets (by decide) (by
      intro type listed
      cases List.mem_singleton.mp listed
      exact ⟨_, _, rfl, rfl⟩) .nil
    -- The entry is three, and its sign extension is minus one.
    exact absurd lands.alike (by decide)
  · have fits := @fits_of_verified ⟨[1], .integer .signless 8, none⟩ (pointScatterDims 0)
      plainPrinter [⟨[4], .integer .signless 8, none⟩] [⟨[], .integer .signless 8, none⟩]
      [⟨[4], .integer .signless 8⟩] [⟨[], .integer .signless 8⟩]
      (integerTensor [1] .signless ⟨8, 3⟩ rfl) (integerBlock 16) _
      (.cons ⟨rfl, rfl⟩ .nil) (.cons ⟨rfl, rfl⟩ .nil) ⟨rfl, rfl⟩ rfl rfl rfl
    have lands := fits.lands_of_meetsSpec meets (by decide) (by
      intro type listed
      cases List.mem_singleton.mp listed
      exact ⟨_, _, rfl, rfl⟩) .nil
    exact absurd (lands.typed (by decide)) (by decide)

end Stablehlo
