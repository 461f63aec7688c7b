import Stablehlo.Reference.IndexArithmetic
import Stablehlo.Reference.Slice
import Stablehlo.Support.AxisMap
import Stablehlo.Support.Blocks

/-! Index vectors: where the slices that a gather reads, and a scatter updates, begin. -/

namespace Stablehlo

/-- The axes by which the dimensions of a tensor of slices, of the index vectors and of the tensor
that is sliced correspond to each other. -/
structure IndexAxes where
  /-- The axes of the slices in the tensor of slices. -/
  windowDims : List Nat
  /-- The axes of the sliced tensor that slices do not have. -/
  skippedDims : List Nat
  /-- The axes of the sliced tensor that are iterated together with those of the indices. -/
  batchingDims : List Nat
  indicesBatchingDims : List Nat
  /-- The axes of the sliced tensor that the entries of an index vector are for. -/
  indexMap : List Nat
  indexVectorDim : Nat

/-- Read the coordinates of an index along dimensions. -/
def extractCoordinates (index : Index) (dims : List Nat) : Except Failure Index :=
  dims.mapM fun d =>
    match index[d]? with
    | some coordinate => .ok coordinate
    | none => .error .undefinedBehavior

/-- The index of an index vector, with a colon for the dimension it lies along. -/
def startIndicesIndexOf (batchIndex : Index) (indexVectorDim rank : Nat) :
    Except Failure (List Int) :=
  let index : List Int := batchIndex.map Nat.cast
  if indexVectorDim < rank then
    -- Nothing can be inserted behind the end.
    if indexVectorDim ≤ index.length then .ok (index.insertIdx indexVectorDim kColon)
    else .error .undefinedBehavior
  else
    .ok index

/-- Read an index vector. -/
def readStartIndex (startIndices : Tensor Element) (startIndicesIndex : List Int) :
    Except Failure (List Int) := do
  let slice ← startIndices.sliceAt startIndicesIndex
  evalIndex slice

/-- Where a slice begins along each dimension, with an adjustment of what the vector has. -/
def fullStartIndexOf (rank : Nat) (indexMap : List Nat) (startIndex : List Int)
    (adjust : Nat → Int → Except Failure Int) : Except Failure (List Int) :=
  (List.range rank).mapM fun d =>
    match indexMap.idxOf? d with
    | none => .ok 0
    | some dStart =>
      match startIndex[dStart]? with
      | none => .error .undefinedBehavior
      | some start => adjust d start

/-- The coordinates along batching dimensions, which are those of the index vector. -/
def fullBatchingIndexOf (rank : Nat) (batchingDims indicesBatchingDims : List Nat)
    (startIndicesIndex : List Int) : Except Failure (List Int) :=
  (List.range rank).mapM fun d =>
    match batchingDims.idxOf? d with
    | none => .ok 0
    | some iBatching =>
      match indicesBatchingDims[iBatching]?.bind (startIndicesIndex[·]?) with
      | none => .error .undefinedBehavior
      | some coordinate => .ok coordinate

/-- The coordinates within a slice, which are taken one after the other. -/
def fullWindowIndexOf (rank : Nat) (skippedDims : List Nat) (windowIndex : Index) :
    Except Failure (List Int) :=
  match AxisMap.spread skippedDims (0 : Int) (List.range rank) (windowIndex.map Nat.cast) with
  | none => .error .undefinedBehavior
  | some index => .ok index

/-- The index in the sliced tensor of what is at an index of the tensor of slices. -/
def fullIndexOf (axes : IndexAxes) (operandRank : Nat) (startIndices : Tensor Element)
    (adjust : Nat → Int → Except Failure Int) (outerIndex : Index) : Except Failure (List Int) := do
  let batchDims := (List.range outerIndex.length).filter fun d => !axes.windowDims.contains d
  let batchIndex ← extractCoordinates outerIndex batchDims
  let startIndicesIndex ←
    startIndicesIndexOf batchIndex axes.indexVectorDim startIndices.shape.length
  let startIndex ← readStartIndex startIndices startIndicesIndex
  let fullStartIndex ← fullStartIndexOf operandRank axes.indexMap startIndex adjust
  let fullBatchingIndex ← fullBatchingIndexOf operandRank axes.batchingDims
    axes.indicesBatchingDims startIndicesIndex
  let windowIndex ← extractCoordinates outerIndex axes.windowDims
  let fullWindowIndex ← fullWindowIndexOf operandRank (axes.skippedDims ++ axes.batchingDims)
    windowIndex
  let start ← addIndices fullStartIndex fullBatchingIndex
  addIndices start fullWindowIndex

namespace IndexAxes

/-- The axes of the index vectors in the tensor of slices. -/
def batchDims (axes : IndexAxes) (rank : Nat) : List Nat := AxisMap.rest axes.windowDims rank

/-- The axes of the sliced tensor that slices have. -/
def sliceDims (axes : IndexAxes) (rank : Nat) : List Nat :=
  AxisMap.rest (axes.skippedDims ++ axes.batchingDims) rank

/-- The index vector at a batch index, whose entries are numbers that are read from elements. -/
def startVector (axes : IndexAxes) (read : Element → Int) (startIndices : Tensor Element)
    (batchIndex : Index) : Except Failure (List Int) :=
  if axes.indexVectorDim < startIndices.shape.length then
    (List.range (startIndices.shape.getD axes.indexVectorDim 0)).mapM fun entry => do
      let element ← startIndices.get (batchIndex.insertIdx axes.indexVectorDim entry)
      .ok (read element)
  else do
    -- A vector with a single entry needs no dimension.
    let element ← startIndices.get batchIndex
    .ok [read element]

/-- Where a slice begins along a dimension. -/
def startCoordinate (axes : IndexAxes) (adjust : Nat → Int → Int) (startIndex : List Int)
    (d : Nat) : Int :=
  match axes.indexMap.idxOf? d with
  | some dStart => adjust d (startIndex.getD dStart 0)
  | none => 0

/-- The coordinate along a dimension that is iterated together with one of the indices. -/
def batchingCoordinate (axes : IndexAxes) (batchIndex : Index) (d : Nat) : Int :=
  match axes.batchingDims.idxOf? d with
  | some iBatching =>
    let dStart := axes.indicesBatchingDims.getD iBatching 0
    -- The dimension of the index vectors has no coordinate in the batch index.
    (batchIndex.getD (dStart - if dStart < axes.indexVectorDim then 0 else 1) 0 : Nat)
  | none => 0

/-- The coordinate along a dimension of the slices. -/
def windowCoordinate (axes : IndexAxes) (rank : Nat) (windowIndex : Index) (d : Nat) : Int :=
  AxisMap.placed (axes.sliceDims rank) (windowIndex.map Nat.cast) 0 d

/-- The sizes of the dimensions of the batch indices. -/
def batchShape (axes : IndexAxes) (indicesShape : Sizes) : Sizes :=
  if axes.indexVectorDim < indicesShape.length then indicesShape.eraseIdx axes.indexVectorDim
  else indicesShape

/-- What the verifiers make sure of: the axes are those of a sliced tensor, of index vectors and
of a tensor of slices of the shapes, and corresponding axes have the same size. -/
structure Valid (axes : IndexAxes) (operandShape indicesShape outerShape : Sizes) : Prop where
  vectorDim : axes.indexVectorDim ≤ indicesShape.length
  vectorSize : axes.indexMap.length =
    if axes.indexVectorDim < indicesShape.length then indicesShape.getD axes.indexVectorDim 0 else 1
  windowUnique : axes.windowDims.Nodup
  windowBound : ∀ d ∈ axes.windowDims, d < outerShape.length
  skippedUnique : (axes.skippedDims ++ axes.batchingDims).Nodup
  skippedBound : ∀ d ∈ axes.skippedDims ++ axes.batchingDims, d < operandShape.length
  rank : axes.windowDims.length + (axes.skippedDims ++ axes.batchingDims).length =
    operandShape.length
  indicesBound : ∀ d ∈ axes.indicesBatchingDims, d < indicesShape.length
  notVector : axes.indexVectorDim ∉ axes.indicesBatchingDims
  paired : axes.batchingDims.length = axes.indicesBatchingDims.length
  pairedSizes : ∀ i d s : Nat, axes.batchingDims[i]? = some d →
    axes.indicesBatchingDims[i]? = some s → operandShape[d]? = indicesShape[s]?
  mapUnique : (axes.indexMap ++ axes.batchingDims).Nodup
  mapBound : ∀ d ∈ axes.indexMap, d < operandShape.length
  outerBatch : (axes.batchDims outerShape.length).map (outerShape.getD · 0) =
    axes.batchShape indicesShape

end IndexAxes

/-- Sign extension makes numbers of 64 bits. -/
theorem Element.isInt64_signExtended (element : Element) : IsInt64 element.signExtended := by
  obtain ⟨type, value, fits⟩ := element
  rw [IsInt64, signExtended]
  cases ElementValue.of_fits fits with
  | @integer signedness value supported =>
    have most := (width_of_supported supported).2
    -- A number of fewer bits lies between the same bounds.
    have lower := BitVec.le_toInt value.bits
    have upper := @BitVec.toInt_lt value.width value.bits
    have power : (2 : Int) ^ (value.width - 1) ≤ 2 ^ 63 :=
      pow_le_pow_right₀ (by decide) (by omega)
    dsimp only
    omega
  | _ =>
    dsimp only
    decide

section Coordinates

variable {index shape : List Nat} {dims : List Nat}

/-- Coordinates are read along dimensions that the index has. -/
theorem extractCoordinates_eq (below : ∀ d ∈ dims, d < index.length) :
    extractCoordinates index dims = .ok (dims.map (index.getD · 0)) := by
  refine Fallible.mapM_eq_ok_map fun d listed => ?_
  rw [List.getD_eq_getElem?_getD, List.getElem?_eq_getElem (below d listed)]
  rfl

/-- The coordinates of an index along dimensions are within the sizes along them. -/
theorem within_map (within : MixedRadix.Within shape index)
    (below : ∀ d ∈ dims, d < shape.length) :
    MixedRadix.Within (dims.map (shape.getD · 0)) (dims.map (index.getD · 0)) := by
  rw [MixedRadix.Within, List.forall₂_map_left_iff, List.forall₂_map_right_iff]
  refine List.forall₂_same.mpr fun d listed => ?_
  have short := below d listed
  have length := within.length_eq
  rw [List.getD_eq_getElem?_getD, List.getD_eq_getElem?_getD, List.getElem?_eq_getElem short,
    List.getElem?_eq_getElem (show d < index.length by omega)]
  exact (List.forall₂_iff_get.mp within).2 d (by omega) short

end Coordinates

namespace IndexAxes

variable {axes : IndexAxes} {operandShape indicesShape outerShape : Sizes} {outerIndex : Index}

/-- The coordinates of an index of the tensor of slices that are those of an index vector. -/
def batchIndex (axes : IndexAxes) (outerIndex : Index) : Index :=
  (axes.batchDims outerIndex.length).map (outerIndex.getD · 0)

/-- The coordinates of an index of the tensor of slices that are those within a slice. -/
def windowIndex (axes : IndexAxes) (outerIndex : Index) : Index :=
  axes.windowDims.map (outerIndex.getD · 0)

/-- The sizes of batch indices are those of the indices, but for that of the index vectors. -/
theorem getElem?_batchShape {k : Nat}
    (below : k < (axes.batchShape indicesShape).length) :
    (axes.batchShape indicesShape)[k]? =
      indicesShape[if k < axes.indexVectorDim then k else k + 1]? := by
  rw [batchShape] at below ⊢
  by_cases explicit : axes.indexVectorDim < indicesShape.length
  · rw [if_pos explicit, List.getElem?_eraseIdx]
    split <;> rfl
  · -- There is no dimension to leave out.
    rw [if_neg explicit] at below ⊢
    rw [if_pos (by omega)]

/-- Batch indices are indices of index vectors. -/
theorem Valid.batchIndex_within (valid : axes.Valid operandShape indicesShape outerShape)
    (within : MixedRadix.Within outerShape outerIndex) :
    MixedRadix.Within (axes.batchShape indicesShape) (axes.batchIndex outerIndex) := by
  rw [← valid.outerBatch, batchIndex, within.length_eq]
  refine within_map within fun d listed => ?_
  exact (AxisMap.mem_rest.mp listed).1

/-- A place splits a list into what is before it and what is from it on. -/
theorem insertIdx_eq {α : Type} {items : List α} {place : Nat} (short : place ≤ items.length)
    (item : α) : items.insertIdx place item = items.take place ++ item :: items.drop place := by
  induction items generalizing place with
  | nil =>
    have zero : place = 0 := by simpa using short
    subst zero
    rfl
  | cons first items ih =>
    cases place with
    | zero => rfl
    | succ place =>
      rw [List.insertIdx_succ_cons, ih (by simpa using short)]
      rfl

/-- The selection of an index vector: a coordinate for each dimension but the one it lies along. -/
def selection (axes : IndexAxes) (indicesRank : Nat) (batchIndex : Index) : Selection :=
  if axes.indexVectorDim < indicesRank then
    (batchIndex.map some).insertIdx axes.indexVectorDim none
  else
    batchIndex.map some

/-- The index of an index vector is that of its selection. -/
theorem startIndicesIndexOf_eq {batchIndex : Index}
    (within : MixedRadix.Within (axes.batchShape indicesShape) batchIndex) :
    startIndicesIndexOf batchIndex axes.indexVectorDim indicesShape.length =
      .ok (axes.selection indicesShape.length batchIndex).toIndex ∧
    (axes.selection indicesShape.length batchIndex).Fits indicesShape := by
  have length := within.length_eq
  rw [startIndicesIndexOf, selection]
  rw [batchShape] at within length
  by_cases explicit : axes.indexVectorDim < indicesShape.length
  · rw [if_pos explicit] at within length ⊢
    rw [List.length_eraseIdx_of_lt explicit] at length
    simp only [if_pos explicit]
    have short : axes.indexVectorDim ≤ batchIndex.length := by omega
    rw [if_pos (by rwa [List.length_map])]
    constructor
    · congr 1
      rw [insertIdx_eq (by rwa [List.length_map]), insertIdx_eq (by rwa [List.length_map])]
      simp [Selection.toIndex, List.map_take, List.map_drop, Function.comp_def]
    · -- The dimension of the vectors is put back between the others.
      rw [insertIdx_eq (by rwa [List.length_map])]
      have whole := List.take_append_drop axes.indexVectorDim indicesShape
      rw [List.drop_eq_getElem_cons explicit] at whole
      rw [List.eraseIdx_eq_take_drop_succ] at within
      have front := List.forall₂_take_append _ _ _ within
      have back := List.forall₂_drop_append _ _ _ within
      rw [List.length_take_of_le (by omega)] at front back
      rw [Selection.Fits, ← List.map_take, ← List.map_drop]
      conv => rhs; rw [← whole]
      refine List.rel_append ?_ (.cons (by simp) ?_)
      · rw [List.forall₂_map_left_iff]
        exact front.imp fun coordinate size below chosen same => by cases same; exact below
      · rw [List.forall₂_map_left_iff]
        exact back.imp fun coordinate size below chosen same => by cases same; exact below
  · rw [if_neg explicit] at within length ⊢
    simp only [if_neg explicit]
    constructor
    · simp [Selection.toIndex]
    · rw [Selection.Fits, List.forall₂_map_left_iff]
      exact within.imp fun coordinate size below chosen same => by cases same; exact below

/-- Chosen coordinates are those of dimensions with a single position in the slice. -/
theorem sliceShape_append {chosen : List Nat} {rest : Selection} {shape : Sizes}
    (enough : chosen.length ≤ shape.length) :
    Selection.sliceShape (chosen.map some ++ rest) shape =
      List.replicate chosen.length 1 ++ Selection.sliceShape rest (shape.drop chosen.length) := by
  induction chosen generalizing shape with
  | nil => rfl
  | cons first chosen ih =>
    cases shape with
    | nil => simp at enough
    | cons size shape =>
      rw [List.map_cons, List.cons_append, Selection.sliceShape, ih (by simpa using enough)]
      rfl

/-- Chosen coordinates are filled in. -/
theorem fill_append {chosen : List Nat} {rest : Selection} {index : Index} :
    Selection.fill (chosen.map some ++ rest) (List.replicate chosen.length 0 ++ index) =
      chosen ++ Selection.fill rest index := by
  induction chosen with
  | nil => rfl
  | cons first chosen ih =>
    rw [List.map_cons, List.cons_append, List.length_cons, List.replicate_succ, List.cons_append,
      Selection.fill, ih]
    rfl

/-- The index vector that is read is the one at the batch index. -/
theorem readStartIndex_eq {startIndices : Tensor Element} (integers : IntegerElements startIndices)
    {batchIndex : Index}
    (within : MixedRadix.Within (axes.batchShape startIndices.shape) batchIndex) :
    readStartIndex startIndices (axes.selection startIndices.shape.length batchIndex).toIndex =
      axes.startVector Element.signExtended startIndices batchIndex := by
  obtain ⟨-, fits⟩ := startIndicesIndexOf_eq within
  obtain ⟨slice, sliced, shape, elements⟩ := sliceAt_toIndex fits
  rw [readStartIndex, sliced, Fallible.ok_bind, evalIndex]
  have length := within.length_eq
  -- An element of the slice is read where the selection leads to.
  have read : ∀ index, MixedRadix.Within slice.shape index →
      (do
        let element ← slice.get index
        let value ← element.getIntegerValue
        .ok value.bits.toInt : Except Failure Int) = (do
        let element ← startIndices.get
          ((axes.selection startIndices.shape.length batchIndex).fill index)
        .ok element.signExtended) := by
    intro index inside
    rw [shape] at inside
    have place := (Selection.fill_eq fits inside).2
    obtain ⟨element, got, value⟩ := getIntegerValue_of_get integers place
    rw [← shape] at inside
    rw [elements index inside, got]
    exact value
  have loop := Fallible.mapM_congr fun index listed => read index (MixedRadix.mem_all.mp listed)
  rw [show indexSpace slice.shape = MixedRadix.all slice.shape from rfl, loop, startVector]
  rw [batchShape] at length
  by_cases explicit : axes.indexVectorDim < startIndices.shape.length
  · rw [if_pos explicit] at length ⊢
    rw [List.length_eraseIdx_of_lt explicit] at length
    have short : axes.indexVectorDim ≤ batchIndex.length := by omega
    let before := batchIndex.take axes.indexVectorDim
    let after := batchIndex.drop axes.indexVectorDim
    have beforeLength : before.length = axes.indexVectorDim := List.length_take_of_le short
    have afterLength : after.length = batchIndex.length - axes.indexVectorDim := List.length_drop
    have chosen : axes.selection startIndices.shape.length batchIndex =
        before.map some ++ none :: (after.map some ++ []) := by
      rw [selection, if_pos explicit, insertIdx_eq (by rwa [List.length_map]), List.append_nil,
        List.map_take, List.map_drop]
    -- The slice is a line along the dimension of the vectors.
    have line : slice.shape = List.replicate before.length 1 ++
        startIndices.shape.getD axes.indexVectorDim 0 :: List.replicate after.length 1 := by
      rw [shape, chosen, sliceShape_append (by omega), beforeLength,
        List.drop_eq_getElem_cons explicit, Selection.sliceShape,
        sliceShape_append (by simp only [after, List.length_drop]; omega),
        List.getD_eq_getElem?_getD,
        List.getElem?_eq_getElem explicit]
      simp [Selection.sliceShape]
    have vector := indexSpace_line before.length after.length
      (startIndices.shape.getD axes.indexVectorDim 0)
    rw [← line] at vector
    rw [show MixedRadix.all slice.shape = _ from vector, List.mapM_map]
    refine Fallible.mapM_congr fun entry _ => ?_
    rw [insertIdx_eq short]
    show (startIndices.get (Selection.fill _ (List.replicate before.length 0 ++ _)) >>= _) = _
    rw [chosen, fill_append, Selection.fill, ← List.append_nil (List.replicate after.length 0),
      fill_append]
    simp [Selection.fill, before, after]
  · rw [if_neg explicit] at length ⊢
    have chosen : axes.selection startIndices.shape.length batchIndex =
        batchIndex.map some ++ [] := by
      rw [selection, if_neg explicit, List.append_nil]
    -- The slice is a single point.
    have point : slice.shape = List.replicate batchIndex.length 1 := by
      rw [shape, chosen, sliceShape_append (by omega)]
      simp [Selection.sliceShape]
    rw [point, show MixedRadix.all (List.replicate batchIndex.length 1) = _ from indexSpace_point _,
      List.mapM_cons, List.mapM_nil, chosen, ← List.append_nil (List.replicate batchIndex.length 0),
      fill_append, show Selection.fill [] [] = [] from rfl, List.append_nil]
    cases startIndices.get batchIndex <;> rfl

/-- There is an element for each entry of an index vector. -/
theorem Valid.exists_startVector {startIndices : Tensor Element} {batchIndex : Index}
    (valid : axes.Valid operandShape startIndices.shape outerShape)
    (within : MixedRadix.Within (axes.batchShape startIndices.shape) batchIndex) :
    ∃ elements : List Element, elements.length = axes.indexMap.length ∧
      (∀ element ∈ elements, element ∈ startIndices.data) ∧
      ∀ read, axes.startVector read startIndices batchIndex = .ok (elements.map read) := by
  have length := within.length_eq
  have size := valid.vectorSize
  rw [batchShape] at within length
  by_cases explicit : axes.indexVectorDim < startIndices.shape.length
  · rw [if_pos explicit] at within length size
    rw [List.length_eraseIdx_of_lt explicit] at length
    -- The entries lie along the dimension of the vectors.
    have inside : ∀ entry < startIndices.shape.getD axes.indexVectorDim 0,
        MixedRadix.Within startIndices.shape
          (batchIndex.insertIdx axes.indexVectorDim entry) := by
      intro entry below
      have whole := List.take_append_drop axes.indexVectorDim startIndices.shape
      rw [List.drop_eq_getElem_cons explicit] at whole
      rw [List.eraseIdx_eq_take_drop_succ] at within
      have front := List.forall₂_take_append _ _ _ within
      have back := List.forall₂_drop_append _ _ _ within
      rw [List.length_take_of_le (by omega)] at front back
      rw [insertIdx_eq (by omega), MixedRadix.Within, ← whole]
      rw [List.getD_eq_getElem?_getD, List.getElem?_eq_getElem explicit] at below
      exact List.rel_append front (.cons below back)
    have each : ∀ entry ∈ List.range (startIndices.shape.getD axes.indexVectorDim 0), ∃ element,
        startIndices.get (batchIndex.insertIdx axes.indexVectorDim entry) = .ok element ∧
          element ∈ startIndices.data := by
      intro entry listed
      obtain ⟨element, got, stored⟩ := Tensor.get_eq (inside entry (List.mem_range.mp listed))
      exact ⟨element, got, List.mem_of_getElem? stored⟩
    obtain ⟨elements, related, origins⟩ := Blocks.exists_forall₂ each
    refine ⟨elements, ?_, ?_, fun read => ?_⟩
    · rw [← related.length_eq, List.length_range, size]
    · intro element listed
      obtain ⟨entry, -, -, stored⟩ := origins element listed
      exact stored
    · rw [startVector, if_pos explicit, Fallible.mapM_eq_ok_iff, List.forall₂_map_right_iff]
      exact related.imp fun entry element own => by rw [own.1]; rfl
  · rw [if_neg explicit] at within size
    obtain ⟨element, got, stored⟩ := Tensor.get_eq within
    refine ⟨[element], size.symm, ?_, fun read => ?_⟩
    · intro other listed
      rw [List.mem_singleton.mp listed]
      exact List.mem_of_getElem? stored
    · rw [startVector, if_neg explicit, got]
      rfl

/-- The coordinates of the start are found entry by entry. -/
theorem fullStartIndexOf_eq {startIndex : List Int}
    (length : startIndex.length = axes.indexMap.length)
    {adjust : Nat → Int → Except Failure Int} {adjusted : Nat → Int → Int}
    (same : ∀ d < operandShape.length, ∀ start, adjust d start = .ok (adjusted d start)) :
    fullStartIndexOf operandShape.length axes.indexMap startIndex adjust =
      .ok ((List.range operandShape.length).map (axes.startCoordinate adjusted startIndex)) := by
  refine Fallible.mapM_eq_ok_map fun d listed => ?_
  rw [startCoordinate]
  cases found : axes.indexMap.idxOf? d with
  | none => rfl
  | some dStart =>
    -- There is an entry for each axis of the map.
    have listedMap := AxisMap.idxOf?_eq_some found
    have below : dStart < startIndex.length := by
      rw [length]
      exact (List.getElem?_eq_some_iff.mp listedMap).1
    dsimp only
    rw [List.getD_eq_getElem?_getD, List.getElem?_eq_getElem below]
    exact same d (List.mem_range.mp listed) _

/-- The index of an index vector has the coordinates of the batch index, around the colon. -/
theorem Valid.getElem?_toIndex (valid : axes.Valid operandShape indicesShape outerShape)
    {batchIndex : Index} (within : MixedRadix.Within (axes.batchShape indicesShape) batchIndex)
    {dStart : Nat} (below : dStart < indicesShape.length) (other : dStart ≠ axes.indexVectorDim) :
    (axes.selection indicesShape.length batchIndex).toIndex[dStart]? = some
      ((batchIndex.getD (dStart - if dStart < axes.indexVectorDim then 0 else 1) 0 : Nat) :
        Int) := by
  have length := within.length_eq
  have vectorDim := valid.vectorDim
  rw [batchShape] at length
  rw [Selection.toIndex, List.getElem?_map, selection]
  by_cases explicit : axes.indexVectorDim < indicesShape.length
  · rw [if_pos explicit] at length
    rw [List.length_eraseIdx_of_lt explicit] at length
    rw [if_pos explicit, List.getElem?_insertIdx]
    -- Coordinates behind the colon are one place further.
    rcases Nat.lt_or_gt_of_ne other with before | behind
    · have short : dStart < batchIndex.length := by omega
      rw [if_pos before, if_pos before, Nat.sub_zero, List.getElem?_map,
        List.getD_eq_getElem?_getD, List.getElem?_eq_getElem short]
      rfl
    · have short : dStart - 1 < batchIndex.length := by omega
      rw [if_neg (by omega), if_neg (by omega), if_neg (by omega), List.getElem?_map,
        List.getD_eq_getElem?_getD, List.getElem?_eq_getElem short]
      rfl
  · rw [if_neg explicit] at length
    have short : dStart < batchIndex.length := by omega
    rw [if_neg explicit, if_pos (by omega), Nat.sub_zero, List.getElem?_map,
      List.getD_eq_getElem?_getD, List.getElem?_eq_getElem short]
    rfl

/-- The coordinates along batching dimensions are those of the batch index. -/
theorem Valid.fullBatchingIndexOf_eq (valid : axes.Valid operandShape indicesShape outerShape)
    {batchIndex : Index} (within : MixedRadix.Within (axes.batchShape indicesShape) batchIndex) :
    fullBatchingIndexOf operandShape.length axes.batchingDims axes.indicesBatchingDims
        (axes.selection indicesShape.length batchIndex).toIndex =
      .ok ((List.range operandShape.length).map (axes.batchingCoordinate batchIndex)) := by
  refine Fallible.mapM_eq_ok_map fun d listed => ?_
  rw [batchingCoordinate]
  cases found : axes.batchingDims.idxOf? d with
  | none => rfl
  | some iBatching =>
    have place := AxisMap.idxOf?_eq_some found
    have below : iBatching < axes.indicesBatchingDims.length := by
      rw [← valid.paired]
      exact (List.getElem?_eq_some_iff.mp place).1
    have paired : axes.indicesBatchingDims[iBatching]? =
        some (axes.indicesBatchingDims.getD iBatching 0) := by
      rw [List.getD_eq_getElem?_getD, List.getElem?_eq_getElem below]
      rfl
    have dim := List.mem_of_getElem? paired
    have other : axes.indicesBatchingDims.getD iBatching 0 ≠ axes.indexVectorDim :=
      fun same => valid.notVector (same ▸ dim)
    dsimp only
    rw [paired, Option.bind_some, valid.getElem?_toIndex within (valid.indicesBound _ dim) other]

/-- The coordinates within a slice are those along its dimensions. -/
theorem Valid.fullWindowIndexOf_eq (valid : axes.Valid operandShape indicesShape outerShape)
    {windowIndex : Index} (length : windowIndex.length = axes.windowDims.length) :
    fullWindowIndexOf operandShape.length (axes.skippedDims ++ axes.batchingDims) windowIndex =
      .ok ((List.range operandShape.length).map
        (axes.windowCoordinate operandShape.length windowIndex)) := by
  have count := AxisMap.length_rest valid.skippedUnique valid.skippedBound
  have rank := valid.rank
  have enough : ((List.range operandShape.length).filter fun axis =>
      !(axes.skippedDims ++ axes.batchingDims).contains axis).length ≤
        (windowIndex.map (Nat.cast : Nat → Int)).length := by
    rw [List.length_map, length]
    show (AxisMap.rest (axes.skippedDims ++ axes.batchingDims) operandShape.length).length ≤ _
    omega
  rw [fullWindowIndexOf, AxisMap.spread_eq List.nodup_range enough]
  rfl

/-- The coordinate in the sliced tensor of what is at an index of the tensor of slices. -/
def coordinate (axes : IndexAxes) (rank : Nat) (adjusted : Nat → Int → Int)
    (startIndex : List Int) (outerIndex : Index) (d : Nat) : Int :=
  axes.startCoordinate adjusted startIndex d +
    axes.batchingCoordinate (axes.batchIndex outerIndex) d +
    axes.windowCoordinate rank (axes.windowIndex outerIndex) d

/-- Indices are added when the sums of their coordinates are numbers of 64 bits. -/
theorem addIndices_eq {rank : Nat} {first second : Nat → Int}
    (small : ∀ d < rank, IsInt64 (first d + second d)) :
    addIndices ((List.range rank).map first) ((List.range rank).map second) =
      .ok ((List.range rank).map fun d => first d + second d) := by
  rw [addIndices, if_neg (by simp), List.zip_map', List.mapM_map]
  -- Each sum is computed on its own.
  refine Fallible.mapM_eq_ok_map fun d listed => ?_
  show addCoordinates (first d) (second d) = _
  rw [addCoordinates, if_pos (small d (List.mem_range.mp listed))]

/-- Indices are not added when one of the sums is too large. -/
theorem addIndices_overflow {rank d : Nat} {first second : Nat → Int} (below : d < rank)
    (large : ¬ IsInt64 (first d + second d)) :
    ∃ failure, addIndices ((List.range rank).map first) ((List.range rank).map second) =
      .error failure := by
  rw [addIndices, if_neg (by simp), List.zip_map', List.mapM_map]
  cases added : (List.range rank).mapM fun d => addCoordinates (first d) (second d) with
  | error failure => exact ⟨failure, added⟩
  | ok sums =>
    -- The pass over the coordinate would have had a result.
    have place : (List.range rank)[d]? = some d := List.getElem?_range below
    obtain ⟨sum, -, passed⟩ := Fallible.getElem?_of_mapM added place
    rw [addCoordinates, if_neg large] at passed
    cases passed

/-- The full index is the sum of its parts, for the numbers that sign extension makes of the
elements of the index vector. -/
theorem Valid.fullIndexOf_eq_add {startIndices : Tensor Element}
    (valid : axes.Valid operandShape startIndices.shape outerShape)
    (integers : IntegerElements startIndices) (within : MixedRadix.Within outerShape outerIndex)
    {adjust : Nat → Int → Except Failure Int} {adjusted : Nat → Int → Int}
    (same : ∀ d < operandShape.length, ∀ start, adjust d start = .ok (adjusted d start))
    {startIndex : List Int}
    (vector : axes.startVector Element.signExtended startIndices (axes.batchIndex outerIndex) =
      .ok startIndex) :
    fullIndexOf axes operandShape.length startIndices adjust outerIndex = (do
      let start ← addIndices
        ((List.range operandShape.length).map (axes.startCoordinate adjusted startIndex))
        ((List.range operandShape.length).map
          (axes.batchingCoordinate (axes.batchIndex outerIndex)))
      addIndices start ((List.range operandShape.length).map
        (axes.windowCoordinate operandShape.length (axes.windowIndex outerIndex)))) := by
  have batchWithin := valid.batchIndex_within within
  obtain ⟨indexed, -⟩ := startIndicesIndexOf_eq batchWithin
  obtain ⟨elements, entries, -, read⟩ := valid.exists_startVector batchWithin
  have length : startIndex.length = axes.indexMap.length := by
    rw [read, Except.ok.injEq] at vector
    rw [← vector, List.length_map, entries]
  have batchRead : extractCoordinates outerIndex
      ((List.range outerIndex.length).filter fun d => !axes.windowDims.contains d) =
        .ok (axes.batchIndex outerIndex) :=
    extractCoordinates_eq fun d listed => (AxisMap.mem_rest.mp listed).1
  have windowRead : extractCoordinates outerIndex axes.windowDims =
      .ok (axes.windowIndex outerIndex) :=
    extractCoordinates_eq fun d listed => by rw [within.length_eq]; exact valid.windowBound d listed
  have windowLength : (axes.windowIndex outerIndex).length = axes.windowDims.length := by
    rw [windowIndex, List.length_map]
  -- Each part of the index is read before the parts are added up.
  rw [fullIndexOf, batchRead, Fallible.ok_bind, indexed, Fallible.ok_bind,
    readStartIndex_eq integers batchWithin, vector, Fallible.ok_bind,
    fullStartIndexOf_eq length same, Fallible.ok_bind, valid.fullBatchingIndexOf_eq batchWithin,
    Fallible.ok_bind, windowRead, Fallible.ok_bind, valid.fullWindowIndexOf_eq windowLength,
    Fallible.ok_bind]

/-- The coordinate before the one within the slice is added. -/
def sliceCoordinate (axes : IndexAxes) (adjusted : Nat → Int → Int) (startIndex : List Int)
    (outerIndex : Index) (d : Nat) : Int :=
  axes.startCoordinate adjusted startIndex d +
    axes.batchingCoordinate (axes.batchIndex outerIndex) d

/-- Coordinates of batch indices are not negative. -/
theorem batchingCoordinate_nonneg (axes : IndexAxes) (batchIndex : Index) (d : Nat) :
    0 ≤ axes.batchingCoordinate batchIndex d := by
  rw [batchingCoordinate]
  cases axes.batchingDims.idxOf? d <;> simp

/-- Coordinates within slices are not negative. -/
theorem windowCoordinate_nonneg (axes : IndexAxes) (rank : Nat) (windowIndex : Index) (d : Nat) :
    0 ≤ axes.windowCoordinate rank windowIndex d := by
  rw [windowCoordinate, AxisMap.placed]
  cases (axes.sliceDims rank).idxOf? d with
  | none => exact Int.le_refl 0
  | some place =>
    -- Either there is a coordinate, which is a natural number, or it is zero.
    dsimp only
    rw [List.getD_eq_getElem?_getD, List.getElem?_map]
    cases windowIndex[place]? <;> simp

/-- The full index has the coordinates it should, when they are numbers of 64 bits. -/
theorem Valid.fullIndexOf_eq {startIndices : Tensor Element}
    (valid : axes.Valid operandShape startIndices.shape outerShape)
    (integers : IntegerElements startIndices) (within : MixedRadix.Within outerShape outerIndex)
    {adjust : Nat → Int → Except Failure Int} {adjusted : Nat → Int → Int}
    (same : ∀ d < operandShape.length, ∀ start, adjust d start = .ok (adjusted d start))
    {startIndex : List Int}
    (vector : axes.startVector Element.signExtended startIndices (axes.batchIndex outerIndex) =
      .ok startIndex)
    (smallStart : ∀ d < operandShape.length,
      IsInt64 (axes.sliceCoordinate adjusted startIndex outerIndex d))
    (small : ∀ d < operandShape.length,
      IsInt64 (axes.coordinate operandShape.length adjusted startIndex outerIndex d)) :
    fullIndexOf axes operandShape.length startIndices adjust outerIndex =
      .ok ((List.range operandShape.length).map
        (axes.coordinate operandShape.length adjusted startIndex outerIndex)) := by
  rw [valid.fullIndexOf_eq_add integers within same vector, addIndices_eq smallStart,
    Fallible.ok_bind]
  exact addIndices_eq small

/-- The coordinate along a batching dimension is that of the batch index, within the dimension. -/
theorem Valid.coordinate_batching (valid : axes.Valid operandShape indicesShape outerShape)
    (within : MixedRadix.Within outerShape outerIndex) {adjusted : Nat → Int → Int}
    {startIndex : List Int} {d : Nat} (batching : d ∈ axes.batchingDims) :
    ∃ coordinate : Nat, axes.coordinate operandShape.length adjusted startIndex outerIndex d =
        coordinate ∧ coordinate < operandShape.getD d 0 := by
  have batchWithin := valid.batchIndex_within within
  have notMapped : d ∉ axes.indexMap := fun mapped =>
    List.disjoint_of_nodup_append valid.mapUnique mapped batching
  have notSlice : d ∉ axes.sliceDims operandShape.length := fun remains =>
    (AxisMap.mem_rest.mp remains).2 (List.mem_append_right _ batching)
  obtain ⟨place, found, listed⟩ := AxisMap.exists_place batching
  have below : place < axes.indicesBatchingDims.length := by
    rw [← valid.paired]
    exact (List.getElem?_eq_some_iff.mp listed).1
  -- The dimension is as large as the dimension of the indices it is iterated with.
  obtain ⟨s, same⟩ : ∃ s, axes.indicesBatchingDims[place]? = some s :=
    ⟨_, List.getElem?_eq_getElem below⟩
  have dim := List.mem_of_getElem? same
  have other : s ≠ axes.indexVectorDim := fun equal => valid.notVector (equal ▸ dim)
  have short := valid.indicesBound s dim
  have size : operandShape.getD d 0 = indicesShape.getD s 0 := by
    rw [List.getD_eq_getElem?_getD, List.getD_eq_getElem?_getD,
      valid.pairedSizes place d s listed same]
  have erased : (axes.batchShape indicesShape)[s - if s < axes.indexVectorDim then 0 else 1]? =
      indicesShape[s]? := by
    have vectorDim := valid.vectorDim
    rw [batchShape]
    by_cases explicit : axes.indexVectorDim < indicesShape.length
    · rw [if_pos explicit, List.getElem?_eraseIdx]
      rcases Nat.lt_or_gt_of_ne other with before | behind
      · rw [if_pos before, Nat.sub_zero, if_pos before]
      · rw [if_neg (show ¬ s < axes.indexVectorDim by omega),
          if_neg (show ¬ s - 1 < axes.indexVectorDim by omega), Nat.sub_add_cancel (by omega)]
    · rw [if_neg explicit, if_pos (by omega), Nat.sub_zero]
  refine ⟨(axes.batchIndex outerIndex).getD (s - if s < axes.indexVectorDim then 0 else 1) 0,
    ?_, ?_⟩
  · rw [coordinate, startCoordinate, batchingCoordinate, windowCoordinate, AxisMap.placed,
      AxisMap.idxOf?_eq_none notMapped, AxisMap.idxOf?_eq_none notSlice, found]
    have dStart : axes.indicesBatchingDims.getD place 0 = s := by
      rw [List.getD_eq_getElem?_getD, same]
      rfl
    dsimp only
    rw [dStart]
    omega
  · rw [List.getElem?_eq_getElem short, List.getElem?_eq_some_iff] at erased
    obtain ⟨inside, sized⟩ := erased
    have length := batchWithin.length_eq
    rw [size, List.getD_eq_getElem?_getD, List.getD_eq_getElem?_getD,
      List.getElem?_eq_getElem short, List.getElem?_eq_getElem (by omega), Option.getD_some, Option.getD_some, ← sized]
    exact (List.forall₂_iff_get.mp batchWithin).2 _ (by omega) inside

/-- The coordinate along a dimension that slices do not have is that of their start. -/
theorem Valid.coordinate_skipped (valid : axes.Valid operandShape indicesShape outerShape)
    {adjusted : Nat → Int → Int} {startIndex : List Int} {d : Nat}
    (skipped : d ∈ axes.skippedDims) :
    axes.coordinate operandShape.length adjusted startIndex outerIndex d =
      axes.startCoordinate adjusted startIndex d := by
  have notBatching : d ∉ axes.batchingDims := fun batching =>
    List.disjoint_of_nodup_append valid.skippedUnique skipped batching
  have notSlice : d ∉ axes.sliceDims operandShape.length := fun remains =>
    (AxisMap.mem_rest.mp remains).2 (List.mem_append_left _ skipped)
  rw [coordinate, batchingCoordinate, windowCoordinate, AxisMap.placed,
    AxisMap.idxOf?_eq_none notBatching, AxisMap.idxOf?_eq_none notSlice]
  -- Neither the batching nor the window part has a share in it.
  dsimp only
  omega

/-- The coordinate along a dimension of the slices is that of the start and that in the slice. -/
theorem Valid.coordinate_slice (valid : axes.Valid operandShape indicesShape outerShape)
    (within : MixedRadix.Within outerShape outerIndex) {adjusted : Nat → Int → Int}
    {startIndex : List Int} {d place : Nat}
    (remains : (axes.sliceDims operandShape.length)[place]? = some d) :
    ∃ window, axes.windowDims[place]? = some window ∧
      outerIndex.getD window 0 < outerShape.getD window 0 ∧
      axes.coordinate operandShape.length adjusted startIndex outerIndex d =
        axes.startCoordinate adjusted startIndex d + (outerIndex.getD window 0 : Nat) := by
  have notSkipped := (AxisMap.mem_rest.mp (List.mem_of_getElem? remains)).2
  have notBatching : d ∉ axes.batchingDims := fun batching =>
    notSkipped (List.mem_append_right _ batching)
  -- There are as many dimensions of the slices as dimensions they have in the operand.
  have count := AxisMap.length_rest valid.skippedUnique valid.skippedBound
  have rank := valid.rank
  have below : place < axes.windowDims.length := by
    have short := (List.getElem?_eq_some_iff.mp remains).1
    rw [sliceDims] at short
    omega
  obtain ⟨window, same⟩ : ∃ window, axes.windowDims[place]? = some window :=
    ⟨_, List.getElem?_eq_getElem below⟩
  have outer := valid.windowBound window (List.mem_of_getElem? same)
  have length := within.length_eq
  refine ⟨window, same, ?_, ?_⟩
  · rw [List.getD_eq_getElem?_getD, List.getD_eq_getElem?_getD, List.getElem?_eq_getElem outer,
      List.getElem?_eq_getElem (show window < outerIndex.length by omega)]
    exact (List.forall₂_iff_get.mp within).2 window (by omega) outer
  · have found := AxisMap.idxOf?_of_getElem? (AxisMap.nodup_rest _ _) remains
    rw [coordinate, batchingCoordinate, windowCoordinate, AxisMap.placed,
      AxisMap.idxOf?_eq_none notBatching, sliceDims, found]
    simp only [Int.add_zero]
    rw [List.getD_eq_getElem?_getD, List.getElem?_map, windowIndex, List.getElem?_map, same]
    rfl

end IndexAxes

/-- Coordinates that are all in bounds are those of an index. -/
theorem exists_index {shape : Sizes} {coordinate : Nat → Int}
    (inside : ∀ d < shape.length, 0 ≤ coordinate d ∧ coordinate d < shape.getD d 0) :
    ∃ index : Index, index.map Nat.cast = (List.range shape.length).map coordinate ∧
      MixedRadix.Within shape index := by
  refine ⟨(List.range shape.length).map fun d => (coordinate d).toNat, ?_, ?_⟩
  · -- No coordinate is negative, so none is changed.
    rw [List.map_map]
    refine List.map_congr_left fun d listed => ?_
    have bounds := inside d (List.mem_range.mp listed)
    show ((coordinate d).toNat : Int) = coordinate d
    omega
  · refine List.forall₂_iff_get.mpr ⟨by simp, fun d _ below => ?_⟩
    have bounds := inside d below
    rw [List.getD_eq_getElem?_getD, List.getElem?_eq_getElem below, Option.getD_some] at bounds
    simp only [List.get_eq_getElem, List.getElem_map, List.getElem_range]
    omega

end Stablehlo
