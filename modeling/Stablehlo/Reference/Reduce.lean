import Stablehlo.Reference.IndexSpace
import Stablehlo.Support.Deposits
import Stablehlo.Support.Projection

/-! Reductions: folds of a computation over the elements of tensors. -/

namespace Stablehlo

/-- What a region computes from scalars, and how many it returns. -/
structure Reducer (α : Type) (count : Nat) where
  run : List α → Except Failure (List α)
  /-- As many values are returned as are reduced. -/
  counted : ∀ args values, run args = .ok values → values.length = count

section Operation

variable {α : Type}

/-- Read the elements of several tensors at an index. -/
def readTogether (tensors : List (Tensor α)) (index : Index) : Except Failure (List α) :=
  tensors.mapM fun tensor => tensor.get index

/-- Replace the elements of several tensors at an index, as far as there are values for them. -/
def setTogether (index : Index) : List (Tensor α) → List α → Except Failure (List (Tensor α))
  | result :: results, value :: values => do
    let replaced ← result.set index value
    let rest ← setTogether index results values
    .ok (replaced :: rest)
  | results, _ => .ok results

/-- Make tensors all of whose elements are the init values. -/
def makeSplats (resultShapes : List Sizes) (initValues : List (Tensor α)) :
    Except Failure (List (Tensor α)) :=
  (resultShapes.zip initValues).mapM fun (shape, initValue) => do
    let value ← initValue.get []
    .ok (.tabulate shape fun _ => value)

/-- Reduce the elements at an index of the inputs into those of the results. -/
def reduceElement {count : Nat} (inputs : List (Tensor α)) (dimensions : List Nat)
    (body : Reducer α count) (results : List (Tensor α)) (inputIndex : Index) :
    Except Failure (List (Tensor α)) := do
  let resultIndex := (inputIndex.zipIdx.filter fun (_, inputAxis) =>
    !dimensions.contains inputAxis).map Prod.fst
  let resultArgs ← readTogether results resultIndex
  let inputArgs ← readTogether inputs inputIndex
  let bodyResult ← body.run (resultArgs ++ inputArgs)
  setTogether resultIndex results bodyResult

/-- Reduce inputs along dimensions, from the init values on. -/
def reduceOp {count : Nat} (inputs initValues : List (Tensor α)) (dimensions : List Nat)
    (body : Reducer α count) (resultShapes : List Sizes) : Except Failure (List (Tensor α)) := do
  let results ← makeSplats resultShapes initValues
  match inputs with
  | [] => .error .undefinedBehavior
  | first :: _ => (indexSpace first.shape).foldlM (reduceElement inputs dimensions body) results

/-- The shape of what is left of inputs of the shapes. -/
def inferReduceShape (inputShapes : List Sizes) (dimensions : List Nat) : Except Failure Sizes :=
  match inputShapes with
  | [] => .error .undefinedBehavior
  | witnessShape :: others =>
    if others.all (· == witnessShape) && dimensions.all (· < witnessShape.length) &&
        decide dimensions.Nodup then
      .ok ((witnessShape.zipIdx.filter fun (_, inputIdx) =>
        !dimensions.contains inputIdx).map Prod.fst)
    else
      .error (.fatalError "Could not infer ReduceOp's return type")

/-- Reduce inputs to results of the shape that is inferred for them. -/
def inferAndReduceOp {count : Nat} (inputs initValues : List (Tensor α)) (dimensions : List Nat)
    (body : Reducer α count) : Except Failure (List (Tensor α)) := do
  let resultShape ← inferReduceShape (inputs.map Tensor.shape) dimensions
  reduceOp inputs initValues dimensions body (inputs.map fun _ => resultShape)

/-- Fold a computation over the elements of tensors, index by index. -/
def foldTogether {count : Nat} (elements : Index → Except Failure (List α))
    (body : Reducer α count) (start : List α) (indices : List Index) : Except Failure (List α) :=
  indices.foldlM (fun values index => do
    let read ← elements index
    body.run (values ++ read)) start

end Operation

section Fold

variable {α : Type} {count : Nat} {body : Reducer α count} {start : List α} {indices : List Index}

end Fold

section Cells

variable {α : Type} {tensors : List (Tensor α)} {shape : Sizes} {index : Index}

/-- Tensors with the shapes of others have one shape when these do. -/
theorem shape_of_map_eq {others : List (Tensor α)}
    (same : others.map Tensor.shape = tensors.map Tensor.shape)
    (shapes : ∀ tensor ∈ tensors, tensor.shape = shape) :
    ∀ other ∈ others, other.shape = shape := fun other listed => by
  have listedShape := List.mem_map_of_mem (f := Tensor.shape) listed
  rw [same] at listedShape
  obtain ⟨tensor, member, equal⟩ := List.mem_map.mp listedShape
  rw [← equal, shapes tensor member]

/-- There is an element of each tensor at an index in bounds. -/
theorem exists_readTogether (shapes : ∀ tensor ∈ tensors, tensor.shape = shape)
    (within : MixedRadix.Within shape index) :
    ∃ values, readTogether tensors index = .ok values ∧ values.length = tensors.length := by
  obtain ⟨values, read⟩ : ∃ values, readTogether tensors index = .ok values :=
    Fallible.mapM_succeeds fun tensor listed => by
      rw [← shapes tensor listed] at within
      obtain ⟨value, got, -⟩ := Tensor.get_eq within
      exact ⟨value, got⟩
  exact ⟨values, read, Fallible.length_of_mapM read⟩

/-- Values can replace the elements of as many tensors at an index in bounds. -/
theorem setTogether_eq {values : List α} (shapes : ∀ tensor ∈ tensors, tensor.shape = shape)
    (within : MixedRadix.Within shape index) (count : values.length = tensors.length) :
    ∃ replaced, setTogether index tensors values = .ok replaced ∧
      replaced.map Tensor.shape = tensors.map Tensor.shape ∧
      ∀ other, MixedRadix.Within shape other →
        readTogether replaced other =
          if other = index then .ok values else readTogether tensors other := by
  -- One tensor after the other is replaced, and the others are read as before.
  induction tensors generalizing values with
  | nil =>
    rw [List.length_nil, List.length_eq_zero_iff] at count
    rw [count]
    exact ⟨[], rfl, rfl, fun other _ => by split <;> rfl⟩
  | cons tensor tensors ih =>
    cases values with
    | nil => cases count
    | cons value values =>
      rw [List.forall_mem_cons] at shapes
      obtain ⟨rest, restSet, restShapes, restCells⟩ := ih shapes.2 (by simpa using count)
      obtain ⟨replaced, set, own, cells⟩ :=
        Tensor.get_set (show MixedRadix.Within tensor.shape index by rwa [shapes.1]) value
      refine ⟨replaced :: rest, ?_, ?_, fun other otherWithin => ?_⟩
      · rw [setTogether, set, Fallible.ok_bind, restSet]
        rfl
      · rw [List.map_cons, List.map_cons, own, restShapes]
      · have first := cells other (by rw [shapes.1]; exact otherWithin)
        have others := restCells other otherWithin
        unfold readTogether at others ⊢
        rw [List.mapM_cons, first, others]
        by_cases same : other = index
        · rw [if_pos same, if_pos same, if_pos same]
          rfl
        · rw [if_neg same, if_neg same, if_neg same, List.mapM_cons]

/-- Tensors of one shape are equal when they agree at every index. -/
theorem eq_of_readTogether {first second : List (Tensor α)}
    (shapes : first.map Tensor.shape = second.map Tensor.shape)
    (own : ∀ tensor ∈ first, tensor.shape = shape)
    (same : ∀ index, MixedRadix.Within shape index →
      readTogether first index = readTogether second index) : first = second := by
  induction first generalizing second with
  | nil =>
    cases second with
    | nil => rfl
    | cons _ _ => cases shapes
  | cons tensor first ih =>
    cases second with
    | nil => cases shapes
    | cons other second =>
      rw [List.map_cons, List.map_cons, List.cons.injEq] at shapes
      rw [List.forall_mem_cons] at own
      -- At each index, the first elements are equal, and so are the others.
      have parts (index : Index) (within : MixedRadix.Within shape index) :
          tensor.get index = other.get index ∧
            readTogether first index = readTogether second index := by
        have together := same index within
        unfold readTogether at together ⊢
        rw [List.mapM_cons, List.mapM_cons] at together
        obtain ⟨value, got, -⟩ :=
          Tensor.get_eq (show MixedRadix.Within tensor.shape index by rwa [own.1])
        obtain ⟨otherValue, otherGot, -⟩ := Tensor.get_eq
          (show MixedRadix.Within other.shape index by rwa [← shapes.1, own.1])
        obtain ⟨values, read, -⟩ := exists_readTogether own.2 within
        obtain ⟨otherValues, otherRead, -⟩ :=
          exists_readTogether (shape_of_map_eq shapes.2.symm own.2) within
        unfold readTogether at read otherRead
        rw [got, otherGot, read, otherRead] at together ⊢
        simp only [Fallible.ok_bind] at together
        cases together
        exact ⟨rfl, rfl⟩
      rw [Tensor.ext_get shapes.1 fun index within => (parts index (by rwa [← own.1])).1,
        ih shapes.2 own.2 fun index within => (parts index within).2]

end Cells

section Whole

variable {α : Type} {inputs initValues : List (Tensor α)} {shape : Sizes} {start : List α}

/-- Splats of init values that are scalars have these for their elements. -/
theorem makeSplats_eq (read : readTogether initValues [] = .ok start) :
    makeSplats (List.replicate initValues.length shape) initValues =
      .ok (start.map fun value => .tabulate shape fun _ => value) := by
  unfold readTogether at read
  rw [Fallible.mapM_eq_ok_iff] at read
  unfold makeSplats
  rw [Fallible.mapM_eq_ok_iff]
  induction read with
  | nil => exact .nil
  | cons got _ ih =>
    rw [List.length_cons, List.replicate_succ, List.zip_cons_cons, List.map_cons]
    exact .cons (by dsimp only; rw [got]; rfl) ih

/-- Splats hold the init values at every index. -/
theorem readTogether_splats {index : Index} (within : MixedRadix.Within shape index)
    (values : List α) :
    readTogether (values.map fun value => Tensor.tabulate shape fun _ => value) index =
      .ok values := by
  unfold readTogether
  rw [Fallible.mapM_eq_ok_iff, List.forall₂_map_left_iff]
  exact List.forall₂_same.mpr fun value _ => Tensor.get_tabulate within

end Whole

section Loops

universe u

variable {α : Type} {ι : Type u} {results : List (Tensor α)} {shape : Sizes} {count : Nat}
  {place : ι → Index} {update : List α → ι → Except Failure (List α)} {cells : Index → List α}

/-- Replace the elements of tensors at the place of an item by what is computed from them. -/
def replaceAt (place : ι → Index) (update : List α → ι → Except Failure (List α))
    (results : List (Tensor α)) (item : ι) : Except Failure (List (Tensor α)) := do
  let values ← readTogether results (place item)
  let next ← update values item
  setTogether (place item) results next

/-- Elements are replaced in tensors of unchanged shapes. -/
theorem shapes_of_setTogether {tensors replaced : List (Tensor α)} {values : List α} {index : Index}
    (set : setTogether index tensors values = .ok replaced) :
    replaced.map Tensor.shape = tensors.map Tensor.shape := by
  induction tensors generalizing values replaced with
  | nil =>
    rw [setTogether.eq_def] at set
    cases set
    rfl
  | cons tensor tensors ih =>
    cases values with
    | nil =>
      rw [setTogether.eq_def] at set
      cases set
      rfl
    | cons value values =>
      rw [setTogether] at set
      obtain ⟨first, own, set⟩ := Fallible.bind_eq_ok.1 set
      obtain ⟨rest, others, set⟩ := Fallible.bind_eq_ok.1 set
      cases set
      rw [Tensor.set] at own
      obtain ⟨position, -, own⟩ := Fallible.bind_eq_ok.1 own
      cases own
      rw [List.map_cons, List.map_cons, ih others]

/-- The tensors have the shape and the elements. -/
def HoldsCells (count : Nat) (shape : Sizes) (results : List (Tensor α))
    (cells : Index → List α) : Prop :=
  results.map Tensor.shape = List.replicate count shape ∧
    ∀ index, MixedRadix.Within shape index → readTogether results index = .ok (cells index)

/-- Tensors that hold elements have the shape. -/
theorem HoldsCells.shapes (holds : HoldsCells count shape results cells) :
    ∀ result ∈ results, result.shape = shape := fun _ member =>
  List.eq_of_mem_replicate (holds.1 ▸ List.mem_map_of_mem member)

/-- Each turn replaces the elements at one place. -/
theorem replaceAt_holds (holds : HoldsCells count shape results cells) {item : ι}
    (inside : MixedRadix.Within shape (place item))
    (counted : ∀ values next, update values item = .ok next → next.length = count) :
    (∀ next, Deposits.deposit (fun item => some (place item)) update cells item = .ok next →
      ∃ replaced, replaceAt place update results item = .ok replaced ∧
        HoldsCells count shape replaced next) ∧
    ∀ failure,
      Deposits.deposit (fun item => some (place item)) update cells item = .error failure →
        replaceAt place update results item = .error failure := by
  have number : results.length = count := by
    rw [← List.length_map Tensor.shape, holds.1, List.length_replicate]
  rw [replaceAt, holds.2 _ inside, Fallible.ok_bind, Deposits.deposit]
  dsimp only
  cases computed : update (cells (place item)) item with
  | error failure =>
    -- Both stop where nothing can be computed.
    refine ⟨fun next same => (by cases same), fun other same => ?_⟩
    cases same
    rfl
  | ok values =>
    refine ⟨fun next same => ?_, fun failure same => by cases same⟩
    cases same
    obtain ⟨replaced, set, replacedShapes, replacedCells⟩ := setTogether_eq holds.shapes inside
      ((counted _ _ computed).trans number.symm)
    refine ⟨replaced, set, replacedShapes.trans holds.1, ?_⟩
    intro other within
    rw [replacedCells other within]
    -- Only the elements at the place are others.
    by_cases same : other = place item
    · rw [if_pos same, same, Function.update_self]
    · rw [if_neg same, Function.update_of_ne same]
      exact holds.2 other within

/-- A loop over tensors has the results whose elements are what the items for their places compute
one after the other. -/
theorem foldlM_replaceAt_iff {items : List ι} {final : List (Tensor α)}
    (inside : ∀ item ∈ items, MixedRadix.Within shape (place item))
    (counted : ∀ item ∈ items, ∀ values next, update values item = .ok next → next.length = count)
    (begin : HoldsCells count shape results cells) :
    items.foldlM (replaceAt place update) results = .ok final ↔
      final.map Tensor.shape = List.replicate count shape ∧
        ∀ index, MixedRadix.Within shape index →
          (items.filter fun item => decide (place item = index)).foldlM update (cells index) =
            readTogether final index := by
  have simulated := @Fallible.foldlM_simulates _ _ _ _ (replaceAt place update) _
    (HoldsCells count shape) items (fun item listed results cells holds =>
      replaceAt_holds holds (inside item listed) (counted item listed)) _ _ begin
  have runs := fun last => @Deposits.foldlM_eq_ok_iff _ _ _ _ _
    (fun item => some (place item)) update cells last items
  have parts (index : Index) : Deposits.itemsAt (fun item => some (place item)) index items =
      items.filter fun item => decide (place item = index) := by
    simp only [Deposits.itemsAt, Option.some.injEq]
  simp only [parts] at runs
  constructor
  · intro done
    -- The run that is known to succeed holds what the items compute.
    cases run : items.foldlM (Deposits.deposit (fun item => some (place item)) update) cells with
    | error failure =>
      rw [simulated.2 failure run] at done
      cases done
    | ok last =>
      obtain ⟨replaced, same, holds⟩ := simulated.1 last run
      rw [done] at same
      cases same
      refine ⟨holds.1, fun index within => ?_⟩
      rw [holds.2 index within]
      exact (runs last).1 run index
  · rintro ⟨finalShapes, elements⟩
    -- No item is for a place outside of the shape.
    have each : ∀ index, ∃ values, (items.filter fun item =>
        decide (place item = index)).foldlM update (cells index) = .ok values := by
      intro index
      by_cases within : MixedRadix.Within shape index
      · obtain ⟨values, got, -⟩ := exists_readTogether
          (fun result member => List.eq_of_mem_replicate
            (finalShapes ▸ List.mem_map_of_mem member)) within
        exact ⟨values, (elements index within).trans got⟩
      · refine ⟨cells index, ?_⟩
        have none : (items.filter fun item => decide (place item = index)) = [] := by
          rw [List.filter_eq_nil_iff]
          intro item listed
          rw [decide_eq_true_eq]
          intro same
          exact within (same ▸ inside item listed)
        rw [none]
        rfl
    choose last folds using each
    obtain ⟨replaced, same, holds⟩ := simulated.1 last ((runs last).2 folds)
    rw [same]
    congr 1
    refine eq_of_readTogether (holds.1.trans finalShapes.symm) holds.shapes ?_
    intro index within
    rw [holds.2 index within, ← elements index within, folds index]

end Loops

section Parts

variable {α : Type} {inputs initValues results : List (Tensor α)} {shape resultShape : Sizes}
  {dimensions : List Nat} {start : List α} {count : Nat}

/-- The axes that are not reduced. -/
def notReduced (dimensions : List Nat) (axis : Nat) : Bool := !dimensions.contains axis

/-- The indices of the elements that are reduced into the element at an index of the results. -/
def reducedInto (dimensions : List Nat) (shape : Sizes) (resultIndex : Index) : List Index :=
  (indexSpace shape).filter fun index =>
    decide (MixedRadix.select (notReduced dimensions) 0 index = resultIndex)

/-- Each turn of a reduction replaces the elements at one index. -/
theorem reduceElement_eq (body : Reducer α count) (index : Index) :
    reduceElement inputs dimensions body results index =
      replaceAt (fun index => MixedRadix.select (notReduced dimensions) 0 index)
        (fun values index => do
          let read ← readTogether inputs index
          body.run (values ++ read)) results index := by
  rw [reduceElement, replaceAt]
  -- The accumulated values are read first in both.
  show (readTogether results (MixedRadix.select (notReduced dimensions) 0 index)).bind _ =
    (readTogether results (MixedRadix.select (notReduced dimensions) 0 index)).bind _
  cases readTogether results (MixedRadix.select (notReduced dimensions) 0 index) with
  | error failure => rfl
  | ok values => cases readTogether inputs index <;> rfl

/-- A reduction has the results whose elements are folds of the computation over the elements that
are reduced into them. -/
theorem reduceOp_eq_ok_iff (some : inputs ≠ []) {body : Reducer α count}
    (shapes : ∀ input ∈ inputs, input.shape = shape) (counted : initValues.length = count)
    (read : readTogether initValues [] = .ok start)
    (left : MixedRadix.select (notReduced dimensions) 0 shape = resultShape) :
    reduceOp inputs initValues dimensions body (List.replicate initValues.length resultShape) =
        .ok results ↔
      results.map Tensor.shape = List.replicate count resultShape ∧
        ∀ index, MixedRadix.Within resultShape index →
          foldTogether (readTogether inputs) body start (reducedInto dimensions shape index) =
            readTogether results index := by
  obtain ⟨first, others, rfl⟩ := List.exists_cons_of_ne_nil some
  have own : first.shape = shape := shapes first (by simp)
  have startCount : start.length = count := by
    rw [← counted]
    exact Fallible.length_of_mapM read
  have begin : HoldsCells count resultShape
      (start.map fun value => Tensor.tabulate resultShape fun _ => value) fun _ => start := by
    refine ⟨?_, fun index within => readTogether_splats within start⟩
    rw [List.map_map, ← startCount]
    exact List.map_const' ..
  have reduced : reduceOp (first :: others) initValues dimensions body
      (List.replicate initValues.length resultShape) = (indexSpace shape).foldlM
        (replaceAt (fun index => MixedRadix.select (notReduced dimensions) 0 index)
          fun values index => do
            let read ← readTogether (first :: others) index
            body.run (values ++ read))
        (start.map fun value => Tensor.tabulate resultShape fun _ => value) := by
    rw [reduceOp, makeSplats_eq read, Fallible.ok_bind]
    dsimp only
    rw [own]
    exact Fallible.foldlM_congr fun index _ results => reduceElement_eq body index
  rw [reduced]
  refine (foldlM_replaceAt_iff ?_ ?_ begin).trans Iff.rfl
  · intro index listed
    rw [← left]
    exact MixedRadix.within_select (MixedRadix.mem_all.1 listed)
  · intro index _ values next run
    obtain ⟨read, _, computed⟩ := Fallible.bind_eq_ok.1 run
    exact body.counted _ _ computed

end Parts

end Stablehlo
