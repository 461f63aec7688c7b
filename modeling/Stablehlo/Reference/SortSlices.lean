import Stablehlo.Reference.Scatter
import Stablehlo.Support.StableSort

/-! Sorting the slices of several tensors together. -/

namespace Stablehlo

/-- The algorithms of the standard library, where it does not say in which order equal items are. -/
structure SortAlgorithm where
  sort : (Nat → Nat → Except Failure Bool) → List Nat → Except Failure (List Nat)
  /-- Items that a comparison ranks are sorted. -/
  sorts : ∀ (compare : Nat → Nat → Except Failure Bool) (domain : Nat → Prop)
    (less : Nat → Nat → Bool) (items : List Nat), Sorting.StrictWeakOrder domain less →
    (∀ a b, domain a → domain b → compare a b = .ok (less a b)) → (∀ a ∈ items, domain a) →
    ∃ sorted, sort compare items = .ok sorted ∧ sorted.Perm items ∧
      sorted.Pairwise fun a b => less b a = false

/-- How the storage of a new tensor is obtained, whatever it holds. -/
structure Allocator where
  /-- A tensor of the type of another one. -/
  allocate : TypedTensor → TypedTensor
  type_allocate : ∀ tensor, (allocate tensor).type = tensor.type

/-- The boolean an element holds. -/
def Element.getBooleanValue (element : Element) : Except Failure Bool :=
  match element.value with
  | .boolean value => .ok value
  | _ => .error (.fatalError "Element is not a boolean")

section Operations

variable {parameterTypes returnTypes : List StablehloType}

/-- Compare the elements of all inputs at two places of a slice. -/
def comparatorTogether (inputs : List TypedTensor) (axis : Nat) (resultIndex : Index)
    (comparator : UpdateComputation parameterTypes returnTypes) (lhsHandle rhsHandle : Nat) :
    Except Failure Bool := do
  let args ← inputs.mapM fun input => do
    let lhs ← input.elements.get (resultIndex.set axis lhsHandle)
    let rhs ← input.elements.get (resultIndex.set axis rhsHandle)
    .ok [lhs, rhs]
  let comparatorResult ← comparator.eval args.flatten
  match comparatorResult with
  | [] => .error .undefinedBehavior
  | value :: _ => value.getBooleanValue

/-- Set the elements of all results at an index to those of the inputs at another one. -/
def copyTogether (inputs results : List TypedTensor) (inputIndex resultIndex : Index) :
    Except Failure (List TypedTensor) :=
  (inputs.zip results).mapM fun (input, result) => do
    let element ← input.elements.get inputIndex
    result.set resultIndex element

/-- Sort the handles of the tuples in a slice. -/
def sortTogether (algorithm : SortAlgorithm) (isStable : Bool)
    (compare : Nat → Nat → Except Failure Bool) (inputsTogether : List Nat) :
    Except Failure (List Nat) :=
  if isStable then Sorting.stableSort compare inputsTogether
  else algorithm.sort compare inputsTogether

/-- Set the elements at a place of a slice, the second, to those at the place of the handle. -/
def copyHandle (inputs : List TypedTensor) (axis : Nat) (resultIndex : Index)
    (results : List TypedTensor) (handles : Nat × Nat) : Except Failure (List TypedTensor) :=
  copyTogether inputs results (resultIndex.set axis handles.1) (resultIndex.set axis handles.2)

/-- Sort the slice through an index, unless it was sorted for another one. -/
def sortSlice (algorithm : SortAlgorithm) (inputs : List TypedTensor) (shape : Sizes)
    (adjustedDimension : Int) (isStable : Bool)
    (comparator : UpdateComputation parameterTypes returnTypes) (results : List TypedTensor)
    (resultIndex : Index) : Except Failure (List TypedTensor) :=
  if adjustedDimension < 0 ∨ resultIndex.length ≤ adjustedDimension then
    .error .undefinedBehavior
  else
    let axis := adjustedDimension.toNat
    if resultIndex[axis]? ≠ some 0 then .ok results
    else do
      let inputsTogether := List.range (shape.getD axis 0)
      let compare := comparatorTogether inputs axis resultIndex comparator
      let sorted ← sortTogether algorithm isStable compare inputsTogether
      sorted.zipIdx.foldlM (copyHandle inputs axis resultIndex) results

/-- Sort the slices of the inputs along a dimension, which may be counted from the last one. -/
def sortOp (algorithm : SortAlgorithm) (allocator : Allocator) (inputs : List TypedTensor)
    (dimension : Int) (isStable : Bool)
    (comparator : UpdateComputation parameterTypes returnTypes) :
    Except Failure (List TypedTensor) :=
  let results := inputs.map allocator.allocate
  match inputs, results with
  | input :: _, result :: _ =>
    let adjustedDimension :=
      if 0 ≤ dimension then dimension else dimension + input.elements.shape.length
    (indexSpace result.elements.shape).foldlM
      (sortSlice algorithm inputs input.elements.shape adjustedDimension isStable comparator)
      results
  | _, _ => .error .undefinedBehavior

end Operations

section Specification

variable {parameterTypes returnTypes : List StablehloType}

/-- The element of the boolean type. -/
def Element.boolean (value : Bool) : Element := ⟨.integer .signless 1, .boolean value, rfl⟩

/-- A comparator takes the elements of two tuples by turns, and ranks the tuples of the types. -/
structure ComparesTuples (types : List StablehloType)
    (comparator : UpdateComputation parameterTypes returnTypes)
    (less : List Element → List Element → Bool) : Prop where
  order : Sorting.StrictWeakOrder (fun tuple => tuple.map Element.type = types) less
  compares : ∀ lhs rhs, lhs.map Element.type = types → rhs.map Element.type = types →
    comparator.eval (List.zipWith (fun l r => [l, r]) lhs rhs).flatten =
      .ok [Element.boolean (less lhs rhs)]

/-- One permutation of the places of a slice sorts the tuples that all inputs have there. -/
structure SliceSorted (less : List Element → List Element → Bool) (isStable : Bool)
    (inputs results : List TypedTensor) (axis size : Nat) (index : Index)
    (handles : List Nat) : Prop where
  perm : handles.Perm (List.range size)
  copied : ∀ position handle : Nat, handles[position]? = some handle →
    cellsAt results (index.set axis position) = cellsAt inputs (index.set axis handle)
  ordered : ∀ (first second : Nat) (lhs rhs : List Element), first < second → second < size →
    cellsAt results (index.set axis first) = .ok lhs →
    cellsAt results (index.set axis second) = .ok rhs → less rhs lhs = false
  stable : isStable = true → ∀ (first second a b : Nat) (lhs rhs : List Element),
    first < second → handles[first]? = some a → handles[second]? = some b →
    cellsAt results (index.set axis first) = .ok lhs →
    cellsAt results (index.set axis second) = .ok rhs → less lhs rhs = false → a < b

end Specification

section Slices

variable {inputs results : List TypedTensor} {shape : Sizes} {index other : Index}

/-- The elements of several tensors are read one after the other. -/
theorem cellsAt_cons (tensor : TypedTensor) (tensors : List TypedTensor) :
    cellsAt (tensor :: tensors) index = tensor.elements.get index >>= fun element =>
      cellsAt tensors index >>= fun cells => .ok (element :: cells) := by
  rw [cellsAt, List.mapM_cons]
  rfl

/-- The elements of all inputs are copied to one index, and those at the others stay. -/
theorem copyTogether_eq (shapes : ∀ input ∈ inputs, input.elements.shape = shape)
    (types : results.map TypedTensor.type = inputs.map TypedTensor.type)
    (inputWithin : MixedRadix.Within shape index) (resultWithin : MixedRadix.Within shape other) :
    ∃ copied, copyTogether inputs results index other = .ok copied ∧
      copied.map TypedTensor.type = inputs.map TypedTensor.type ∧
      ∀ third, MixedRadix.Within shape third →
        cellsAt copied third = if third = other then cellsAt inputs index
          else cellsAt results third := by
  induction inputs generalizing results with
  | nil =>
    cases results with
    | nil => exact ⟨[], rfl, rfl, fun third _ => by split <;> rfl⟩
    | cons result results => cases types
  | cons input inputs ih =>
    cases results with
    | nil => cases types
    | cons result results =>
      rw [List.map_cons, List.map_cons, List.cons.injEq] at types
      rw [List.forall_mem_cons] at shapes
      obtain ⟨rest, copied, restTypes, restCells⟩ := ih shapes.2 types.2
      obtain ⟨element, got, stored⟩ := Tensor.get_eq (shapes.1 ▸ inputWithin)
      have sameShape : result.elements.shape = shape := 
        (congrArg ShapedType.shape types.1).trans shapes.1
      have sameType : element.type = result.elementType :=
        (input.typed element (List.mem_of_getElem? stored)).trans
          (congrArg ShapedType.elementType types.1).symm
      obtain ⟨replaced, set, type, cells⟩ := TypedTensor.set_eq (sameShape ▸ resultWithin) sameType
      refine ⟨replaced :: rest, ?_, ?_, fun third thirdWithin => ?_⟩
      · have head : (input.elements.get index >>= fun element => result.set other element) =
            .ok replaced := by
          rw [got, Fallible.ok_bind, set]
        rw [copyTogether] at copied
        rw [copyTogether, List.zip_cons_cons, List.mapM_cons]
        dsimp only
        rw [head, Fallible.ok_bind, copied]
        rfl
      · rw [List.map_cons, List.map_cons, type, types.1, restTypes]
      · rw [cellsAt_cons, cellsAt_cons, cellsAt_cons, restCells third thirdWithin,
          cells third (sameShape ▸ thirdWithin), got]
        split <;> rfl

/-- The elements of two tuples are taken by turns. -/
theorem mapM_pairs {lhs rhs : List Element} (first : cellsAt inputs index = .ok lhs)
    (second : cellsAt inputs other = .ok rhs) :
    (inputs.mapM fun input => do
      let l ← input.elements.get index
      let r ← input.elements.get other
      .ok [l, r] : Except Failure (List (List Element))) =
        .ok (List.zipWith (fun l r => [l, r]) lhs rhs) := by
  rw [cellsAt, Fallible.mapM_eq_ok_iff] at first second
  rw [Fallible.mapM_eq_ok_iff]
  induction first generalizing rhs with
  | nil =>
    cases second
    exact .nil
  | @cons input element inputs lhs got _ ih =>
    cases second with
    | @cons _ other _ rhs gotOther others =>
      refine .cons ?_ (ih others)
      rw [got, Fallible.ok_bind, gotOther]
      rfl

variable {parameterTypes returnTypes : List StablehloType}
  {comparator : UpdateComputation parameterTypes returnTypes}
  {less : List Element → List Element → Bool} {types : List StablehloType}

/-- Two places of a slice are compared by the tuples of the inputs there. -/
theorem comparatorTogether_eq (compares : ComparesTuples types comparator less) {axis l r : Nat}
    {lhs rhs : List Element} (first : cellsAt inputs (index.set axis l) = .ok lhs)
    (second : cellsAt inputs (index.set axis r) = .ok rhs) (lhsTypes : lhs.map Element.type = types)
    (rhsTypes : rhs.map Element.type = types) :
    comparatorTogether inputs axis index comparator l r = .ok (less lhs rhs) := by
  rw [comparatorTogether, mapM_pairs first second, Fallible.ok_bind,
    compares.compares lhs rhs lhsTypes rhsTypes]
  rfl

end Slices

section Runs

variable {inputs : List TypedTensor} {shape : Sizes} {axis size : Nat}
  {parameterTypes returnTypes : List StablehloType}
  {comparator : UpdateComputation parameterTypes returnTypes}
  {less : List Element → List Element → Bool}

/-- The elements of several tensors at an index, none where they cannot be read. -/
def tupleAt (tensors : List TypedTensor) (index : Index) : List Element :=
  match cellsAt tensors index with
  | .ok cells => cells
  | .error _ => []

/-- Tensors of one shape have a tuple of their types at each index. -/
theorem cellsAt_eq (shapes : ∀ input ∈ inputs, input.elements.shape = shape) {index : Index}
    (within : MixedRadix.Within shape index) :
    cellsAt inputs index = .ok (tupleAt inputs index) ∧
      (tupleAt inputs index).map Element.type = inputs.map TypedTensor.elementType := by
  have own : ∀ type ∈ inputs.map TypedTensor.type, type.shape = shape := by
    intro type listed
    obtain ⟨input, member, rfl⟩ := List.mem_map.mp listed
    exact shapes input member
  obtain ⟨cells, read, types⟩ := exists_cellsAt rfl own within
  rw [List.map_map] at types
  have tuple : tupleAt inputs index = cells := by
    rw [tupleAt, read]
  rw [tuple]
  exact ⟨read, types⟩

/-- The places of a slice are sorted by the tuples there. -/
theorem exists_handles (algorithm : SortAlgorithm) (isStable : Bool)
    (shapes : ∀ input ∈ inputs, input.elements.shape = shape) (found : shape[axis]? = some size)
    (compares : ComparesTuples (inputs.map TypedTensor.elementType) comparator less)
    {index : Index} (within : MixedRadix.Within shape index) :
    ∃ handles : List Nat,
      sortTogether algorithm isStable (comparatorTogether inputs axis index comparator)
        (List.range size) = .ok handles ∧
      handles.Perm (List.range size) ∧
      handles.Pairwise fun l r =>
        less (tupleAt inputs (index.set axis r)) (tupleAt inputs (index.set axis l)) = false ∧
        (isStable = true →
          less (tupleAt inputs (index.set axis l)) (tupleAt inputs (index.set axis r)) = false →
            l < r) := by
  have tuples (handle : Nat) (below : handle < size) :=
    cellsAt_eq shapes (MixedRadix.within_set within found below)
  -- Places are ranked by their tuples.
  have order : Sorting.StrictWeakOrder (· < size) fun l r =>
      less (tupleAt inputs (index.set axis l)) (tupleAt inputs (index.set axis r)) :=
    compares.order.comp fun handle below => (tuples handle below).2
  have ranks : ∀ l r, l < size → r < size → comparatorTogether inputs axis index comparator l r =
      .ok (less (tupleAt inputs (index.set axis l)) (tupleAt inputs (index.set axis r))) :=
    fun l r left right => comparatorTogether_eq compares (tuples l left).1 (tuples r right).1
      (tuples l left).2 (tuples r right).2
  have inside : ∀ handle ∈ List.range size, handle < size := fun _ => List.mem_range.mp
  cases isStable with
  | true =>
    obtain ⟨handles, sorted, perm, ranked⟩ :=
      Sorting.stableSort_spec order ranks inside List.pairwise_lt_range
    exact ⟨handles, sorted, perm, ranked.imp fun ⟨upper, equal⟩ => ⟨upper, fun _ => equal⟩⟩
  | false =>
    obtain ⟨handles, sorted, perm, ranked⟩ := algorithm.sorts _ _ _ _ order ranks inside
    exact ⟨handles, sorted, perm, ranked.imp fun upper => ⟨upper, fun stable => nomatch stable⟩⟩

/-- A coordinate may be replaced by itself. -/
theorem set_own {index : Index} {coordinate : Nat} (own : index[axis]? = some coordinate) :
    index.set axis coordinate = index := by
  obtain ⟨short, rfl⟩ := List.getElem?_eq_some_iff.mp own
  exact List.set_getElem_self short

/-- Different places of a slice have different indices. -/
theorem set_injective {index : Index} (within : MixedRadix.Within shape index)
    (found : shape[axis]? = some size) {first second : Nat}
    (same : index.set axis first = index.set axis second) : first = second := by
  obtain ⟨digit, stored, -⟩ := MixedRadix.exists_digit within found
  have short : axis < index.length := (List.getElem?_eq_some_iff.mp stored).1
  have read := congrArg (·[axis]?) same
  simpa [List.getElem?_set_self short] using read

/-- The elements of the inputs are copied along a slice, as the handles say. -/
theorem copyHandles_eq (shapes : ∀ input ∈ inputs, input.elements.shape = shape)
    (found : shape[axis]? = some size) {index : Index} (within : MixedRadix.Within shape index)
    {handles : List Nat} (perm : handles.Perm (List.range size)) {results : List TypedTensor}
    (types : results.map TypedTensor.type = inputs.map TypedTensor.type) :
    ∃ copied, handles.zipIdx.foldlM (copyHandle inputs axis index) results = .ok copied ∧
      copied.map TypedTensor.type = inputs.map TypedTensor.type ∧
      (∀ position handle : Nat, handles[position]? = some handle →
        cellsAt copied (index.set axis position) = cellsAt inputs (index.set axis handle)) ∧
      ∀ other, MixedRadix.Within shape other →
        (∀ position < size, other ≠ index.set axis position) →
          cellsAt copied other = cellsAt results other := by
  -- The pairs of the loop are places of the slice.
  have places : ∀ pair ∈ handles.zipIdx, handles[pair.2]? = some pair.1 ∧ pair.1 < size ∧
      pair.2 < size := by
    intro pair listed
    have stored := List.mem_zipIdx_iff_getElem?.mp listed
    obtain ⟨short, -⟩ := List.getElem?_eq_some_iff.mp stored
    exact ⟨stored, List.mem_range.mp (perm.mem_iff.mp (List.mem_of_getElem? stored)),
      by simpa [perm.length_eq] using short⟩
  have proceeds : ∀ pair ∈ handles.zipIdx, ∀ results : List TypedTensor,
      results.map TypedTensor.type = inputs.map TypedTensor.type →
      ∃ next, copyHandle inputs axis index results pair = .ok next ∧
        next.map TypedTensor.type = inputs.map TypedTensor.type ∧
        ∀ other, MixedRadix.Within shape other → cellsAt next other =
          if other = index.set axis pair.2 then cellsAt inputs (index.set axis pair.1)
          else cellsAt results other := by
    intro pair listed results types
    obtain ⟨-, input, result⟩ := places pair listed
    exact copyTogether_eq shapes types (MixedRadix.within_set within found input)
      (MixedRadix.within_set within found result)
  have preserved : ∀ pair ∈ handles.zipIdx, ∀ before next : List TypedTensor,
      before.map TypedTensor.type = inputs.map TypedTensor.type →
      copyHandle inputs axis index before pair = .ok next →
      next.map TypedTensor.type = inputs.map TypedTensor.type ∧
        ∀ other, MixedRadix.Within shape other → cellsAt next other =
          if other = index.set axis pair.2 then cellsAt inputs (index.set axis pair.1)
          else cellsAt before other := by
    intro pair listed before next types step
    obtain ⟨result, same, rest⟩ := proceeds pair listed before types
    rw [step] at same
    cases same
    exact rest
  have run : ∃ copied, handles.zipIdx.foldlM (copyHandle inputs axis index) results = .ok copied ∧
      copied.map TypedTensor.type = inputs.map TypedTensor.type :=
    Fallible.foldlM_succeeds (fun pair listed before types => by
      obtain ⟨next, step, nextTypes, -⟩ := proceeds pair listed before types
      exact ⟨next, step, nextTypes⟩) types
  obtain ⟨copied, run, copiedTypes⟩ := run
  refine ⟨copied, run, copiedTypes, fun position handle stored => ?_, fun other inside apart => ?_⟩
  · obtain ⟨short, -⟩ := List.getElem?_eq_some_iff.mp stored
    have below : position < size := by simpa [perm.length_eq] using short
    have here := MixedRadix.within_set within found below
    have listed : (handle, position) ∈ handles.zipIdx := List.mem_zipIdx_iff_getElem?.mpr stored
    refine @Fallible.foldlM_establishes _ _ _ _ _
      (fun state => state.map TypedTensor.type = inputs.map TypedTensor.type)
      (fun state => cellsAt state (index.set axis position) =
        cellsAt inputs (index.set axis handle)) (handle, position)
      (fun pair listed before next types step => (preserved pair listed before next types step).1)
      (fun pair listed before next types held step => ?_)
      (fun before next types step => ?_) _ _ types run listed
    · rw [(preserved pair listed before next types step).2 _ here]
      split
      · -- The place is set again, to the same elements.
        rename_i same
        have again := (places pair listed).1
        rw [← set_injective within found same, stored, Option.some.injEq] at again
        rw [again]
      · exact held
    · rw [(preserved _ listed before next types step).2 _ here, if_pos rfl]
  · -- No place of the slice is the other index.
    have both := @Fallible.foldlM_invariant _ _ _ _ _
      (fun state => state.map TypedTensor.type = inputs.map TypedTensor.type ∧
        cellsAt state other = cellsAt results other)
      (fun pair listed before next held step => by
        obtain ⟨nextTypes, cells⟩ := preserved pair listed before next held.1 step
        refine ⟨nextTypes, ?_⟩
        rw [cells other inside, if_neg (apart pair.2 (places pair listed).2.2), held.2])
      _ _ ⟨types, rfl⟩ run
    exact both.2

/-- A slice is sorted at the first of its indices, and the others stay as they are. -/
theorem sortSlice_eq (algorithm : SortAlgorithm) (isStable : Bool)
    (shapes : ∀ input ∈ inputs, input.elements.shape = shape) (found : shape[axis]? = some size)
    {index : Index} (within : MixedRadix.Within shape index) {handles : List Nat}
    (sorted : sortTogether algorithm isStable (comparatorTogether inputs axis index comparator)
      (List.range size) = .ok handles)
    (perm : handles.Perm (List.range size)) {results : List TypedTensor}
    (types : results.map TypedTensor.type = inputs.map TypedTensor.type) :
    ∃ next, sortSlice algorithm inputs shape axis isStable comparator results index = .ok next ∧
      next.map TypedTensor.type = inputs.map TypedTensor.type ∧
      ∀ other, MixedRadix.Within shape other →
        (index = other.set axis 0 → ∀ position handle : Nat, other[axis]? = some position →
          handles[position]? = some handle →
            cellsAt next other = cellsAt inputs (other.set axis handle)) ∧
        (index ≠ other.set axis 0 → cellsAt next other = cellsAt results other) := by
  have rank := within.length_eq
  have short : axis < shape.length := (List.getElem?_eq_some_iff.mp found).1
  unfold sortSlice
  rw [if_neg (by omega), Int.toNat_natCast]
  dsimp only
  have length : shape.getD axis 0 = size := by rw [List.getD_eq_getElem?_getD, found]; rfl
  rw [length]
  by_cases first : index[axis]? = some 0
  · rw [if_neg (not_not.mpr first), sorted, Fallible.ok_bind]
    obtain ⟨next, run, nextTypes, copied, kept⟩ :=
      copyHandles_eq shapes found within perm types
    refine ⟨next, run, nextTypes, fun other inside => ⟨fun own position handle place stored => ?_,
      fun apart => kept other inside fun position below same => apart ?_⟩⟩
    · -- The other index is the one of the slice with its own coordinate.
      have same : other = index.set axis position := by
        rw [own, List.set_set]
        exact (set_own place).symm
      rw [same, copied position handle stored, List.set_set]
    · rw [same, List.set_set]
      exact (set_own first).symm
  · rw [if_pos first]
    refine ⟨results, rfl, types, fun other inside => ⟨fun own => ?_, fun _ => rfl⟩⟩
    -- The first index of a slice has the coordinate zero.
    rw [own, List.getElem?_set_self (by rw [inside.length_eq]; exact short)] at first
    exact absurd rfl first

/-- A slice whose places have the tuples that the handles say is sorted. -/
theorem sliceSorted_of_copied {isStable : Bool}
    (shapes : ∀ input ∈ inputs, input.elements.shape = shape) (found : shape[axis]? = some size)
    {index : Index} (within : MixedRadix.Within shape index) {handles : List Nat}
    (perm : handles.Perm (List.range size))
    (ranked : handles.Pairwise fun l r =>
      less (tupleAt inputs (index.set axis r)) (tupleAt inputs (index.set axis l)) = false ∧
      (isStable = true →
        less (tupleAt inputs (index.set axis l)) (tupleAt inputs (index.set axis r)) = false →
          l < r))
    {results : List TypedTensor}
    (copied : ∀ position handle : Nat, handles[position]? = some handle →
      cellsAt results (index.set axis position) = cellsAt inputs (index.set axis handle)) :
    SliceSorted less isStable inputs results axis size index handles := by
  -- The tuple at a place is the one of the inputs at its handle.
  have tuple (position handle : Nat) (cells : List Element)
      (stored : handles[position]? = some handle)
      (read : cellsAt results (index.set axis position) = .ok cells) :
      cells = tupleAt inputs (index.set axis handle) := by
    have below := List.mem_range.mp (perm.mem_iff.mp (List.mem_of_getElem? stored))
    have input := (cellsAt_eq shapes (MixedRadix.within_set within found below)).1
    rw [copied position handle stored, input, Except.ok.injEq] at read
    exact read.symm
  have pairs (first second a b : Nat) (lower : first < second) (atFirst : handles[first]? = some a)
      (atSecond : handles[second]? = some b) :
      less (tupleAt inputs (index.set axis b)) (tupleAt inputs (index.set axis a)) = false ∧
      (isStable = true →
        less (tupleAt inputs (index.set axis a)) (tupleAt inputs (index.set axis b)) = false →
          a < b) := by
    obtain ⟨short, rfl⟩ := List.getElem?_eq_some_iff.mp atFirst
    obtain ⟨long, rfl⟩ := List.getElem?_eq_some_iff.mp atSecond
    exact List.pairwise_iff_getElem.mp ranked first second short long lower
  have length : handles.length = size := by rw [perm.length_eq, List.length_range]
  refine ⟨perm, copied, fun first second lhs rhs lower bound readFirst readSecond => ?_,
    fun stable first second a b lhs rhs lower atFirst atSecond readFirst readSecond equal => ?_⟩
  · have atFirst := List.getElem?_eq_getElem (lower.trans (length ▸ bound))
    have atSecond := List.getElem?_eq_getElem (length ▸ bound : second < handles.length)
    rw [tuple first _ lhs atFirst readFirst, tuple second _ rhs atSecond readSecond]
    exact (pairs first second _ _ lower atFirst atSecond).1
  · rw [tuple first a lhs atFirst readFirst, tuple second b rhs atSecond readSecond] at equal
    exact (pairs first second a b lower atFirst atSecond).2 stable equal

/-- The run over all indices sorts the slice through each of them. -/
theorem sortSlices_eq (algorithm : SortAlgorithm) (isStable : Bool)
    (shapes : ∀ input ∈ inputs, input.elements.shape = shape) (found : shape[axis]? = some size)
    (compares : ComparesTuples (inputs.map TypedTensor.elementType) comparator less)
    {start : List TypedTensor} (types : start.map TypedTensor.type = inputs.map TypedTensor.type) :
    ∃ results, (indexSpace shape).foldlM
        (sortSlice algorithm inputs shape axis isStable comparator) start = .ok results ∧
      results.map TypedTensor.type = inputs.map TypedTensor.type ∧
      ∀ index, MixedRadix.Within shape index →
        ∃ handles, SliceSorted less isStable inputs results axis size index handles := by
  have sorts (index : Index) : ∃ handles : List Nat, MixedRadix.Within shape index →
      sortTogether algorithm isStable (comparatorTogether inputs axis index comparator)
        (List.range size) = .ok handles ∧
      handles.Perm (List.range size) ∧
      handles.Pairwise fun l r =>
        less (tupleAt inputs (index.set axis r)) (tupleAt inputs (index.set axis l)) = false ∧
        (isStable = true →
          less (tupleAt inputs (index.set axis l)) (tupleAt inputs (index.set axis r)) = false →
            l < r) := by
    by_cases within : MixedRadix.Within shape index
    · obtain ⟨handles, spec⟩ := exists_handles algorithm isStable shapes found compares within
      exact ⟨handles, fun _ => spec⟩
    · exact ⟨[], fun inside => absurd inside within⟩
  choose handles sorts using sorts
  have proceeds : ∀ index ∈ indexSpace shape, ∀ before : List TypedTensor,
      before.map TypedTensor.type = inputs.map TypedTensor.type →
      ∃ next, sortSlice algorithm inputs shape axis isStable comparator before index = .ok next ∧
        next.map TypedTensor.type = inputs.map TypedTensor.type ∧
        ∀ other, MixedRadix.Within shape other →
          (index = other.set axis 0 → ∀ position handle : Nat, other[axis]? = some position →
            (handles index)[position]? = some handle →
              cellsAt next other = cellsAt inputs (other.set axis handle)) ∧
          (index ≠ other.set axis 0 → cellsAt next other = cellsAt before other) := by
    intro index listed before types
    have within := MixedRadix.mem_all.mp listed
    obtain ⟨sorted, perm, -⟩ := sorts index within
    exact sortSlice_eq algorithm isStable shapes found within sorted perm types
  have preserved : ∀ index ∈ indexSpace shape, ∀ before next : List TypedTensor,
      before.map TypedTensor.type = inputs.map TypedTensor.type →
      sortSlice algorithm inputs shape axis isStable comparator before index = .ok next →
      next.map TypedTensor.type = inputs.map TypedTensor.type ∧
        ∀ other, MixedRadix.Within shape other →
          (index = other.set axis 0 → ∀ position handle : Nat, other[axis]? = some position →
            (handles index)[position]? = some handle →
              cellsAt next other = cellsAt inputs (other.set axis handle)) ∧
          (index ≠ other.set axis 0 → cellsAt next other = cellsAt before other) := by
    intro index listed before next types step
    obtain ⟨result, same, rest⟩ := proceeds index listed before types
    rw [step] at same
    cases same
    exact rest
  have run : ∃ results, (indexSpace shape).foldlM
      (sortSlice algorithm inputs shape axis isStable comparator) start = .ok results ∧
      results.map TypedTensor.type = inputs.map TypedTensor.type :=
    Fallible.foldlM_succeeds (fun index listed before types => by
      obtain ⟨next, step, nextTypes, -⟩ := proceeds index listed before types
      exact ⟨next, step, nextTypes⟩) types
  obtain ⟨results, run, resultTypes⟩ := run
  refine ⟨results, run, resultTypes, fun index within => ?_⟩
  obtain ⟨coordinate, -, below⟩ := MixedRadix.exists_digit within found
  have short : axis < index.length := by
    rw [within.length_eq]
    exact (List.getElem?_eq_some_iff.mp found).1
  -- The slice is sorted at the first of its indices.
  have firstWithin := MixedRadix.within_set within found (Nat.zero_lt_of_lt below)
  obtain ⟨-, perm, ranked⟩ := sorts (index.set axis 0) firstWithin
  simp only [List.set_set] at ranked
  refine ⟨handles (index.set axis 0), sliceSorted_of_copied shapes found within perm ranked
    fun position handle stored => ?_⟩
  obtain ⟨place, -⟩ := List.getElem?_eq_some_iff.mp stored
  have inside : position < size := by simpa [perm.length_eq] using place
  have here := MixedRadix.within_set within found inside
  have own : index.set axis 0 = (index.set axis position).set axis 0 := (List.set_set ..).symm
  have copied := @Fallible.foldlM_establishes _ _ _ _ _
    (fun state => state.map TypedTensor.type = inputs.map TypedTensor.type)
    (fun state => cellsAt state (index.set axis position) = cellsAt inputs (index.set axis handle))
    (index.set axis 0)
    (fun other listed before next types step => (preserved other listed before next types step).1)
    (fun other listed before next types held step => by
      obtain ⟨at_own, at_others⟩ := (preserved other listed before next types step).2 _ here
      by_cases same : other = (index.set axis position).set axis 0
      · have handled : (handles other)[position]? = some handle := by
          rw [same, ← own]
          exact stored
        rw [at_own same position handle (List.getElem?_set_self short) handled, List.set_set]
      · rw [at_others same, held])
    (fun before next types step => by
      have listed := MixedRadix.mem_all.mpr firstWithin
      have at_own := ((preserved _ listed before next types step).2 _ here).1 own position handle
        (List.getElem?_set_self short) stored
      rw [at_own, List.set_set])
    _ _ types run (MixedRadix.mem_all.mpr firstWithin)
  exact copied

/--
Every slice along the dimension is sorted by one permutation for all inputs.

A stable sort keeps the order of tuples of one rank, and a dimension may be counted from the last.
-/
theorem sortOp_eq (algorithm : SortAlgorithm) (allocator : Allocator) (some : inputs ≠ [])
    (shapes : ∀ input ∈ inputs, input.elements.shape = shape)
    (compares : ComparesTuples (inputs.map TypedTensor.elementType) comparator less)
    {dimension : Int} (least : -shape.length ≤ dimension) (most : dimension < shape.length)
    (isStable : Bool) :
    ∃ results, sortOp algorithm allocator inputs dimension isStable comparator = .ok results ∧
      results.map TypedTensor.type = inputs.map TypedTensor.type ∧
      (dimension < 0 → sortOp algorithm allocator inputs (dimension + shape.length) isStable
        comparator = .ok results) ∧
      ∀ index, MixedRadix.Within shape index → ∃ handles,
        SliceSorted less isStable inputs results (dimension % shape.length).toNat
          (shape.getD (dimension % shape.length).toNat 0) index handles := by
  cases inputs with
  | nil => exact absurd rfl some
  | cons input inputs =>
    have own : input.elements.shape = shape := shapes input (by simp)
    obtain ⟨axis, adjusted⟩ : ∃ axis : Nat, dimension % shape.length = axis :=
      Int.eq_ofNat_of_zero_le (Int.emod_nonneg _ (by omega))
    have rank : (axis : Int) < shape.length := adjusted ▸ Int.emod_lt_of_pos _ (by omega)
    have found : shape[axis]? = Option.some (shape.getD axis 0) := by
      rw [List.getD_eq_getElem?_getD, List.getElem?_eq_getElem (by omega)]
      rfl
    have types : ((input :: inputs).map allocator.allocate).map TypedTensor.type =
        (input :: inputs).map TypedTensor.type := by
      rw [List.map_map]
      exact List.map_congr_left fun tensor _ => allocator.type_allocate tensor
    obtain ⟨results, run, resultTypes, sorted⟩ :=
      sortSlices_eq algorithm isStable shapes found compares types
    -- Both ways to give the dimension lead to the same run.
    have runs (given : Int) (same : (if 0 ≤ given then given else given + shape.length) = axis) :
        sortOp algorithm allocator (input :: inputs) given isStable comparator = .ok results := by
      have allocated : (allocator.allocate input).elements.shape = shape :=
        (congrArg ShapedType.shape (allocator.type_allocate input)).trans own
      rw [← run, ← same]
      show (indexSpace (allocator.allocate input).elements.shape).foldlM
        (sortSlice algorithm (input :: inputs) input.elements.shape
          (if 0 ≤ given then given else given + input.elements.shape.length) isStable comparator)
        ((input :: inputs).map allocator.allocate) = _
      rw [allocated, own]
    rw [adjusted, Int.toNat_natCast]
    refine ⟨results, runs dimension ?_, resultTypes, fun negative => runs _ ?_, sorted⟩
    · split
      · rw [← adjusted, Int.emod_eq_of_lt (by assumption) most]
      · rw [← adjusted, ← Int.add_emod_right, Int.emod_eq_of_lt (by omega) (by omega)]
    · rw [if_pos (by omega), ← adjusted, ← Int.add_emod_right,
        Int.emod_eq_of_lt (by omega) (by omega)]

end Runs

section Bytes

/-- A stable sort may be used where no order of equal items is asked for. -/
def SortAlgorithm.stable : SortAlgorithm where
  sort := Sorting.stableSort
  sorts compare domain less items order compares inside := by
    obtain ⟨sorted, done, perm, ranked⟩ :=
      @Sorting.stableSort_spec _ _ compare domain less (fun _ _ => True) order compares items inside
        (List.pairwise_of_forall fun _ _ => trivial)
    exact ⟨sorted, done, perm, ranked.imp fun below => below.1⟩

/-- The type of a number of a byte. -/
abbrev byteType : StablehloType := .integer .signless 8

/-- The comparison of two numbers of a byte. -/
def compareBytes : UpdateComputation (List.replicate 2 (.rankedTensor [] byteType none))
    [.rankedTensor [] (.integer .signless 1) none] where
  run args := match args with
    | [lhs, rhs] => .ok [Element.boolean (decide (lhs.integer < rhs.integer))]
    | _ => .error .undefinedBehavior
  typed args values returned := by
    split at returned
    · cases returned
      exact .cons ⟨_, rfl⟩ .nil
    · cases returned

/-- The rank of tuples of one number. -/
def bytesBelow : List Element → List Element → Bool
  | [lhs], [rhs] => decide (lhs.integer < rhs.integer)
  | _, _ => false

/-- The comparison ranks tuples of a byte. -/
theorem compareBytes_ranks : ComparesTuples [byteType] compareBytes bytesBelow where
  order := by
    have single (tuple : List Element) (types : tuple.map Element.type = [byteType]) :
        ∃ element, tuple = [element] := by
      obtain ⟨element, rfl, -⟩ := List.map_eq_singleton_iff.mp types
      exact ⟨element, rfl⟩
    constructor
    · intro a first
      obtain ⟨a, rfl⟩ := single a first
      simp [bytesBelow]
    · intro a b c first second third
      obtain ⟨a, rfl⟩ := single a first
      obtain ⟨b, rfl⟩ := single b second
      obtain ⟨c, rfl⟩ := single c third
      simp only [bytesBelow, decide_eq_true_eq]
      exact lt_trans
    · intro a b c first second third
      obtain ⟨a, rfl⟩ := single a first
      obtain ⟨b, rfl⟩ := single b second
      obtain ⟨c, rfl⟩ := single c third
      simp only [bytesBelow, decide_eq_false_iff_not]
      omega
  compares lhs rhs lhsTypes rhsTypes := by
    obtain ⟨l, rfl, left⟩ := List.map_eq_singleton_iff.mp lhsTypes
    obtain ⟨r, rfl, right⟩ := List.map_eq_singleton_iff.mp rhsTypes
    have own : List.replicate 2 (StablehloType.rankedTensor [] byteType none) =
        [l, r].map Element.scalarType := by
      simp [Element.scalarType, left, right, List.replicate]
    show compareBytes.eval [l, r] = _
    rw [UpdateComputation.eval, if_neg (by simp), if_neg (not_not.mpr own)]
    rfl

/-- A vector of bytes is sorted along its last dimension, which is its first. -/
theorem sortOp_bytes :
    ∃ results, sortOp .stable ⟨id, fun _ => rfl⟩ [integerTensor [3] .signless ⟨8, 5⟩ rfl] (-1)
        true compareBytes = .ok results ∧
      sortOp .stable ⟨id, fun _ => rfl⟩ [integerTensor [3] .signless ⟨8, 5⟩ rfl] (-1 + 1)
        true compareBytes = .ok results := by
  obtain ⟨results, run, -, same, -⟩ := @sortOp_eq [integerTensor [3] .signless ⟨8, 5⟩ rfl] [3] _ _
    compareBytes bytesBelow .stable ⟨id, fun _ => rfl⟩ (by simp)
    (by simp [integerTensor, Tensor.tabulate]) compareBytes_ranks (-1) (by decide) (by decide) true
  exact ⟨results, run, same (by decide)⟩

end Bytes

end Stablehlo
