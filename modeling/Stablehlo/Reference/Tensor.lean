import Stablehlo.Support.Fallible
import Stablehlo.Support.MixedRadix

/-! Tensors of the interpreter: shapes, indices, elements, and the loops that fill a result. -/

namespace Stablehlo

/-- How a program run stops before its end. -/
inductive Failure where
  /-- The source reports a fatal error. -/
  | fatalError (message : String)
  /-- The source runs into undefined behavior of its language. -/
  | undefinedBehavior
  deriving DecidableEq, Repr

/-- Sizes of a shape, or the coordinates of an index. -/
abbrev Sizes := List Nat

/-- StableHLO `index`. -/
abbrev Index := Sizes

/-- A coordinate for each dimension, below the size of the dimension. -/
def Sizes.inBounds (index bounds : Sizes) : Bool :=
  index.length == bounds.length && (index.zip bounds).all fun (size, bound) => size < bound

/-- The numbers of storage locations between neighbors along each dimension. -/
def strides (shape : Sizes) : List Nat := MixedRadix.weights shape

/-- Flatten an index of a tensor to a position in its storage, in canonical order. -/
def flattenIndex (shape : Sizes) (index : Index) : Except Failure Nat :=
  if Sizes.inBounds index shape then
    .ok (List.zipWith (· * ·) (strides shape) index).sum
  else
    .error (.fatalError "Incompatible index and shape found while flattening index")

/-- The indices of a shape, in the order its iterator produces them. -/
def indexSpace (shape : Sizes) : List Index := MixedRadix.all shape

/-- An n-dimensional array, stored in canonical order. -/
structure Tensor (α : Type) where
  /-- The sizes of the dimensions. -/
  shape : Sizes
  /-- The elements. -/
  data : List α
  /-- There is an element for every index. -/
  complete : data.length = shape.prod
  deriving DecidableEq, Repr

/-- The bounds check compares every coordinate with its dimension. -/
theorem inBounds_iff {index bounds : Sizes} :
    Sizes.inBounds index bounds = true ↔ MixedRadix.Within bounds index := by
  unfold Sizes.inBounds
  induction index generalizing bounds with
  | nil => cases bounds <;> simp
  | cons size index ih =>
    cases bounds with
    | nil => simp
    | cons bound bounds =>
      -- The heads are compared on their own, and the tails by induction.
      simp only [List.forall₂_cons, ← ih]
      simp
      tauto

/-- An index in bounds is flattened to its place in the index space. -/
theorem flattenIndex_eq {shape : Sizes} {index : Index} (within : MixedRadix.Within shape index) :
    flattenIndex shape index = .ok (MixedRadix.encode shape index) := by
  rw [flattenIndex, if_pos (inBounds_iff.mpr within), strides, MixedRadix.sum_weights within]

namespace Tensor

variable {α β : Type}

/-- Read the element at the index. -/
def get (tensor : Tensor α) (index : Index) : Except Failure α := do
  let position ← flattenIndex tensor.shape index
  match tensor.data[position]? with
  | some element => .ok element
  | none => .error .undefinedBehavior

/-- Read the element at an index that was computed with signed coordinates. -/
def getAt (tensor : Tensor α) (index : List Int) : Except Failure α :=
  if index.all fun coordinate => 0 ≤ coordinate then
    tensor.get (index.map Int.toNat)
  else
    -- A negative coordinate is out of bounds in every dimension.
    .error (.fatalError "Incompatible index and shape found while flattening index")

/-- Replace the element at the index. -/
def set (tensor : Tensor α) (index : Index) (element : α) : Except Failure (Tensor α) := do
  let position ← flattenIndex tensor.shape index
  .ok {
    shape := tensor.shape
    data := tensor.data.set position element
    complete := by rw [List.length_set, tensor.complete]
  }

/-- Fill a new tensor of the shape, visiting its indices in order. -/
def build (shape : Sizes) (element : Index → Except Failure α) : Except Failure (Tensor α) :=
  match filled : (indexSpace shape).mapM element with
  | .error failure => .error failure
  | .ok data =>
    -- Every index of the space was given exactly one element.
    have complete : data.length = shape.prod := by
      rw [Fallible.length_of_mapM filled]
      exact MixedRadix.length_all shape
    .ok { shape, data, complete }

/-- The tensor whose elements are computed from their indices. -/
def tabulate (shape : Sizes) (element : Index → α) : Tensor α where
  shape
  data := (indexSpace shape).map element
  complete := by rw [List.length_map, indexSpace, MixedRadix.length_all]

/-- An index in bounds is the index of an element. -/
theorem get_eq {tensor : Tensor α} {index : Index}
    (within : MixedRadix.Within tensor.shape index) :
    ∃ element, tensor.get index = .ok element ∧
      tensor.data[MixedRadix.encode tensor.shape index]? = some element := by
  -- The position is below the number of elements.
  have below : MixedRadix.encode tensor.shape index < tensor.data.length := by
    rw [tensor.complete]
    exact MixedRadix.encode_lt within
  refine ⟨tensor.data[MixedRadix.encode tensor.shape index], ?_, List.getElem?_eq_getElem below⟩
  simp [get, flattenIndex_eq within, List.getElem?_eq_getElem below]

/-- Coordinates that are natural numbers are read as they are. -/
@[simp] theorem getAt_map_natCast (tensor : Tensor α) (index : Index) :
    tensor.getAt (index.map Nat.cast) = tensor.get index := by
  have sign : (index.map (Nat.cast : Nat → Int)).all (fun coordinate => 0 ≤ coordinate) = true := by
    simp
  rw [getAt, if_pos sign, List.map_map]
  congr
  exact List.map_id'' Int.toNat_natCast index

/-- Only an index in bounds is the index of an element. -/
theorem within_of_get {tensor : Tensor α} {index : Index} {element : α}
    (got : tensor.get index = .ok element) : MixedRadix.Within tensor.shape index := by
  by_contra outside
  -- An index out of bounds is not flattened.
  rw [get, flattenIndex, if_neg (fun inside => outside (inBounds_iff.mp inside))] at got
  cases got

/-- An element that is read with signed coordinates has an index in bounds. -/
theorem getAt_eq_ok {tensor : Tensor α} {index : List Int} {element : α}
    (got : tensor.getAt index = .ok element) : ∃ place : Index, place.map Nat.cast = index ∧
      MixedRadix.Within tensor.shape place ∧ tensor.get place = .ok element := by
  unfold getAt at got
  split at got
  · next nonneg =>
    refine ⟨index.map Int.toNat, ?_, within_of_get got, got⟩
    rw [List.map_map]
    have same : ∀ coordinate ∈ index, (Nat.cast ∘ Int.toNat) coordinate = coordinate := by
      intro coordinate listed
      have sign := List.all_eq_true.mp nonneg coordinate listed
      rw [decide_eq_true_eq] at sign
      show ((coordinate.toNat : Nat) : Int) = coordinate
      omega
    rw [List.map_congr_left same, List.map_id']
  · cases got

/-- At an index, a tabulated tensor has the element for the index. -/
theorem get_tabulate {shape : Sizes} {element : Index → α} {index : Index}
    (within : MixedRadix.Within shape index) :
    (tabulate shape element).get index = .ok (element index) := by
  obtain ⟨value, got, stored⟩ := @get_eq _ (tabulate shape element) index within
  rw [got]
  -- The index is at its own position in the index space.
  change ((indexSpace shape).map element)[MixedRadix.encode shape index]? = some value at stored
  rw [List.getElem?_map, indexSpace, MixedRadix.getElem?_all (MixedRadix.encode_lt within),
    MixedRadix.decode_encode within, Option.map_some, Option.some.injEq] at stored
  rw [stored]

/-- A filled tensor has the shape it was filled for, and holds at each index what was computed. -/
theorem build_spec {shape : Sizes} {element : Index → Except Failure α} {tensor : Tensor α}
    (built : build shape element = .ok tensor) :
    tensor.shape = shape ∧
      ∀ index, MixedRadix.Within shape index → tensor.get index = element index := by
  unfold build at built
  split at built
  · cases built
  · rename_i data filled
    cases built
    refine ⟨rfl, fun index within => ?_⟩
    -- The index stands at its own position in the index space, and so does its element.
    have place : (indexSpace shape)[MixedRadix.encode shape index]? = some index := by
      rw [indexSpace, MixedRadix.getElem?_all (MixedRadix.encode_lt within),
        MixedRadix.decode_encode within]
    obtain ⟨value, stored, computed⟩ := Fallible.getElem?_of_mapM filled place
    simp [get, flattenIndex_eq within, stored, computed]

/-- A tensor can be filled when each of its elements can be computed. -/
theorem build_eq_ok {shape : Sizes} {element : Index → Except Failure α}
    (computable : ∀ index, MixedRadix.Within shape index → ∃ value, element index = .ok value) :
    ∃ tensor, build shape element = .ok tensor := by
  have loop : ∃ data, (indexSpace shape).mapM element = .ok data :=
    Fallible.mapM_succeeds fun index listed => computable index (MixedRadix.mem_all.mp listed)
  obtain ⟨data, filled⟩ := loop
  unfold build
  split
  · rename_i failure failed
    rw [filled] at failed
    cases failed
  · exact ⟨_, rfl⟩

/-- After an element is replaced, the others are as they were. -/
theorem get_set {tensor : Tensor α} {index : Index}
    (within : MixedRadix.Within tensor.shape index) (element : α) :
    ∃ replaced, tensor.set index element = .ok replaced ∧ replaced.shape = tensor.shape ∧
      ∀ other, MixedRadix.Within tensor.shape other →
        replaced.get other = if other = index then .ok element else tensor.get other := by
  let replaced : Tensor α := {
    shape := tensor.shape
    data := tensor.data.set (MixedRadix.encode tensor.shape index) element
    complete := by rw [List.length_set, tensor.complete] }
  refine ⟨replaced, by rw [set, flattenIndex_eq within]; rfl, rfl, fun other otherWithin => ?_⟩
  have below := MixedRadix.encode_lt within
  rw [← tensor.complete] at below
  have place : flattenIndex replaced.shape other = .ok (MixedRadix.encode tensor.shape other) :=
    flattenIndex_eq otherWithin
  rw [Tensor.get, Tensor.get, place]
  simp only [Fallible.ok_bind, replaced]
  by_cases same : other = index
  · rw [same, if_pos rfl, List.getElem?_set_self below]
  · -- Different indices have different positions.
    have apart : MixedRadix.encode tensor.shape index ≠ MixedRadix.encode tensor.shape other :=
      fun equal => same (MixedRadix.encode_injective otherWithin within equal.symm)
    rw [if_neg same, List.getElem?_set_ne apart]

/-- Elements that are set at places of their own are those of the final tensor, and the others are as
they were. -/
theorem foldlM_set {ι : Type} {step : Tensor α → ι → Except Failure (Tensor α)}
    {items : List ι} {place : ι → Index} {value : ι → Except Failure α} {start : Tensor α}
    (sets : ∀ item ∈ items, MixedRadix.Within start.shape (place item) ∧
      ∃ element, value item = .ok element ∧
        ∀ state : Tensor α, step state item = state.set (place item) element)
    (apart : ∀ item ∈ items, ∀ other ∈ items, place item = place other → item = other) :
    ∃ final, items.foldlM step start = .ok final ∧ final.shape = start.shape ∧
      (∀ item ∈ items, final.get (place item) = value item) ∧
      ∀ other, MixedRadix.Within start.shape other → (∀ item ∈ items, other ≠ place item) →
        final.get other = start.get other := by
  -- What a turn does to a tensor of the shape, at its own place and at the others.
  have turn (item : ι) (listed : item ∈ items) (state : Tensor α)
      (kept : state.shape = start.shape) :
      ∃ next, step state item = .ok next ∧ next.shape = start.shape ∧
        ∀ other, MixedRadix.Within start.shape other →
          next.get other = if other = place item then value item else state.get other := by
    obtain ⟨within, element, valued, stepped⟩ := sets item listed
    rw [stepped state, ← kept, valued]
    exact get_set (kept ▸ within) element
  have preserved : ∀ item ∈ items, ∀ state next : Tensor α, state.shape = start.shape →
      step state item = .ok next → next.shape = start.shape := by
    intro item listed state next kept stepped
    obtain ⟨again, same, shape, -⟩ := turn item listed state kept
    rw [stepped, Except.ok.injEq] at same
    exact same ▸ shape
  obtain ⟨final, run, kept⟩ := @Fallible.foldlM_succeeds _ _ _ step items
    (fun state => state.shape = start.shape)
    (fun item listed state kept => by
      obtain ⟨next, stepped, kept, -⟩ := turn item listed state kept
      exact ⟨next, stepped, kept⟩) start rfl
  refine ⟨final, run, kept, fun item listed => ?_, fun other within untouched => ?_⟩
  · refine @Fallible.foldlM_establishes _ _ _ step items (fun state => state.shape = start.shape)
      (fun state => state.get (place item) = value item) item preserved ?_ ?_ start final rfl run
      listed
    · -- The turns of other items are at other places.
      intro other member state next kept holds stepped
      obtain ⟨again, same, -, elements⟩ := turn other member state kept
      rw [stepped, Except.ok.injEq] at same
      rw [same, elements _ (sets item listed).1]
      split
      · next equal => rw [apart item listed other member equal]
      · exact holds
    · intro state next kept stepped
      obtain ⟨again, same, -, elements⟩ := turn item listed state kept
      rw [stepped, Except.ok.injEq] at same
      rw [same, elements _ (sets item listed).1, if_pos rfl]
  · -- No turn is at a place of another element.
    have both := @Fallible.foldlM_invariant _ _ _ step items
      (fun state => state.shape = start.shape ∧ state.get other = start.get other)
      (fun item listed state next held stepped => by
        obtain ⟨again, same, shape, elements⟩ := turn item listed state held.1
        rw [stepped, Except.ok.injEq] at same
        subst same
        refine ⟨shape, ?_⟩
        rw [elements other within, if_neg (untouched item listed), held.2])
      start final ⟨rfl, rfl⟩ run
    exact both.2

/-- Tensors of one shape are equal when they agree at every index. -/
theorem ext_get {first second : Tensor α} (sameShape : first.shape = second.shape)
    (same : ∀ index, MixedRadix.Within first.shape index → first.get index = second.get index) :
    first = second := by
  -- Position by position, the elements are those at the index with these digits.
  have data : first.data = second.data := by
    refine List.ext_getElem? fun position => ?_
    rcases Nat.lt_or_ge position first.shape.prod with below | beyond
    · have within := MixedRadix.decode_within below
      obtain ⟨element, read, stored⟩ := get_eq within
      have otherWithin : MixedRadix.Within second.shape
          (MixedRadix.decode first.shape position) := by
        rw [← sameShape]
        exact within
      obtain ⟨other, otherRead, otherStored⟩ := get_eq otherWithin
      rw [same _ within, otherRead, Except.ok.injEq] at read
      rw [MixedRadix.encode_decode below] at stored
      rw [← sameShape, MixedRadix.encode_decode below] at otherStored
      rw [stored, otherStored, read]
    · rw [List.getElem?_eq_none (by rw [first.complete]; exact beyond),
        List.getElem?_eq_none (by rw [second.complete, ← sameShape]; exact beyond)]
  cases first
  cases second
  simp_all

/-- Computed elements fill the tensor that has them. -/
theorem build_eq_tabulate {shape : Sizes} {element : Index → Except Failure α} {value : Index → α}
    (computed : ∀ index, MixedRadix.Within shape index → element index = .ok (value index)) :
    build shape element = .ok (tabulate shape value) := by
  obtain ⟨tensor, built⟩ := build_eq_ok fun index within => ⟨_, computed index within⟩
  obtain ⟨rfl, elements⟩ := build_spec built
  rw [built]
  congr 1
  -- Both tensors have the same elements.
  refine ext_get rfl fun index within => ?_
  rw [elements index within, computed index within, get_tabulate within]

end Tensor

end Stablehlo
