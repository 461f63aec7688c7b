import Stablehlo.Reference.Rearrangements
import Stablehlo.Transforms.GatherToSlice

/-! The simplifications of broadcasts and transposes to each other, to one of their kind, and to
reshapes. -/

namespace Stablehlo

section Operations

/-- The element type is a quantized one. -/
def isQuantizedType : StablehloType → Bool
  | .uniformQuantized .. | .uniformQuantizedPerAxis .. => true
  | _ => false

/-- Verify a broadcast between types whose elements are not quantized. -/
def verifyBroadcastInDimOp (operandType : RankedTensorType) (broadcastDimensions : List Int64)
    (resultType : RankedTensorType) : Except InferenceFailure Unit := do
  require (broadcastDimensions.length == operandType.rank)
    (s!"broadcast_dimensions size ({broadcastDimensions.length}) does not match operand rank " ++
      s!"({operandType.rank})")
  require (isUnique broadcastDimensions) "broadcast_dimensions should not have duplicates"
  (operandType.shape.zip broadcastDimensions).zipIdx.forM fun ((dimSize, dimIndex), i) => do
    require (isDimInBounds resultType.rank dimIndex)
      (s!"broadcast_dimensions contains invalid value {dimIndex} for result with rank " ++
        s!"{resultType.rank}")
    match resultType.shape[dimIndex.toNatClampNeg]? with
    | some resultDimSize =>
      require (isDynamicDimSize dimSize || dimSize == 1 || dimSize == resultDimSize)
        (s!"size of operand dimension {i} ({dimSize}) is not equal to 1 or size of result " ++
          s!"dimension {dimIndex} ({resultDimSize})")
    | none => .error .undefinedBehavior

/-- A broadcast, with its types. -/
structure BroadcastInDimOp where
  operandType : RankedTensorType
  broadcastDimensions : List Int64
  resultType : RankedTensorType

/-- A transpose, with its types. -/
structure TransposeOp where
  operandType : RankedTensorType
  permutation : List Int64
  resultType : RankedTensorType

/-- An operation that rearranges the elements of its operand. -/
inductive ShapeOp where
  | broadcastInDim (op : BroadcastInDimOp)
  | transpose (op : TransposeOp)
  | reshape (operandType resultType : RankedTensorType)

/-- The type of the operand. -/
def ShapeOp.operandType : ShapeOp → RankedTensorType
  | .broadcastInDim op => op.operandType
  | .transpose op => op.operandType
  | .reshape operandType _ => operandType

/-- The type of the result. -/
def ShapeOp.resultType : ShapeOp → RankedTensorType
  | .broadcastInDim op => op.resultType
  | .transpose op => op.resultType
  | .reshape _ resultType => resultType

/-- The verifiers accept the broadcast. -/
def BroadcastInDimOp.Verified (op : BroadcastInDimOp) : Prop :=
  op.operandType.elementType = op.resultType.elementType ∧
    (op.resultType.hasStaticShape = true ∨ op.resultType.hasSingleBoundedDimension = true) ∧
    verifyBroadcastInDimOp op.operandType op.broadcastDimensions op.resultType = .ok ()

/-- The verifiers accept the transpose, whose type is compatible with the inferred one. -/
def TransposeOp.Verified (op : TransposeOp) : Prop :=
  op.operandType.elementType = op.resultType.elementType ∧
    ∃ inferred, inferTransposeOp op.operandType op.permutation = .ok inferred ∧
      isCompatibleForHloTypeInference inferred op.resultType = true

/-- The verifiers accept the operation. -/
def ShapeOp.Verified : ShapeOp → Prop
  | .broadcastInDim op => op.Verified
  | .transpose op => op.Verified
  | .reshape operandType resultType => ReshapeVerified operandType resultType

/-- What the interpreter computes. -/
def ShapeOp.eval {α : Type} (storage : Storage α) (operand : Tensor α) :
    ShapeOp → Except Failure (Tensor α)
  | .broadcastInDim op =>
    operand.broadcastInDimOp (axes op.broadcastDimensions) op.resultType.sizes
  | .transpose op => transposeOp storage operand (axes op.permutation) op.resultType.sizes
  | .reshape _ resultType => operand.reshapeOp resultType.sizes

end Operations

section Patterns

/-- Read the item at an index that is an item of another list. -/
def itemAt (items : List Int64) (index : Int64) : Except Failure Int64 :=
  if index.toInt < 0 then
    .error .undefinedBehavior
  else
    match items[index.toNatClampNeg]? with
    | some item => .ok item
    | none => .error .undefinedBehavior

/-- Convert broadcast dimensions into a permutation for a transpose. -/
def getInvertedBroadcastDimensions (dims : List Int64) : Except Failure (List Int64) :=
  dims.zipIdx.foldlM (fun permutation (dim, i) =>
    if isDimInBounds permutation.length dim then
      .ok (permutation.set dim.toNatClampNeg (Int64.ofNat i))
    else
      .error .undefinedBehavior) (List.replicate dims.length 0)

/-- The broadcast dimensions of both broadcasts together. -/
def getMergedBroadcastDimensions (dims dimsParent : List Int64) : Except Failure (List Int64) :=
  dimsParent.mapM (itemAt dims)

/-- The permutation of both transposes together. -/
def getMergedTransposePermutation (childPerm parentPerm : List Int64) :
    Except Failure (List Int64) :=
  parentPerm.mapM (itemAt childPerm)

/-- The operand has as many elements as the result. -/
def BroadcastInDimOp.numberOfElementsEqual (op : BroadcastInDimOp) : Bool :=
  op.resultType.getNumElements == op.operandType.getNumElements

/-- The operand has as many dimensions as the result. -/
def BroadcastInDimOp.rankEqual (op : BroadcastInDimOp) : Bool :=
  op.resultType.rank == op.operandType.rank

/-- The broadcast cannot be simplified to a reshape. -/
def BroadcastInDimOp.broadcastNotReducibleToReshape (op : BroadcastInDimOp) : Bool :=
  !op.resultType.hasStaticShape || !(isSorted op.broadcastDimensions && op.numberOfElementsEqual)

/-- A broadcast of a broadcast becomes one broadcast, if the inner one cannot become a reshape. -/
def broadcastInDimOpMergeComposition (outer inner : BroadcastInDimOp) :
    Except Failure (Option ShapeOp) :=
  if inner.broadcastNotReducibleToReshape then do
    let dims ← getMergedBroadcastDimensions outer.broadcastDimensions inner.broadcastDimensions
    .ok (some (.broadcastInDim ⟨inner.operandType, dims, outer.resultType⟩))
  else
    .ok none

/-- A broadcast with sorted dimensions becomes a reshape, if the number of elements is the same. -/
def broadcastInDimOpReplaceWithReshape (op : BroadcastInDimOp) : Option ShapeOp :=
  if op.operandType.hasStaticShape && isSorted op.broadcastDimensions &&
      op.numberOfElementsEqual then
    some (.reshape op.operandType op.resultType)
  else
    none

/-- A broadcast becomes a transpose, if the number of elements and the rank are the same. -/
def broadcastInDimOpReplaceWithTranspose (op : BroadcastInDimOp) :
    Except Failure (Option ShapeOp) :=
  if op.operandType.hasStaticShape && op.numberOfElementsEqual && op.rankEqual then do
    let permutation ← getInvertedBroadcastDimensions op.broadcastDimensions
    -- The new operation has the type of the one it replaces.
    .ok (some (.transpose ⟨op.operandType, permutation, op.resultType⟩))
  else
    .ok none

/-- A transpose of a transpose becomes one transpose. -/
def transposeOpTransposeOfTranspose (op child : TransposeOp) : Except Failure (Option ShapeOp) := do
  let permutation ← getMergedTransposePermutation child.permutation op.permutation
  .ok (some (.transpose ⟨child.operandType, permutation, op.resultType⟩))

/-- A transpose becomes a reshape, if its dimensions of other sizes than one are in order. -/
def transposeIsReshape (op : TransposeOp) : Except Failure (Option ShapeOp) :=
  if !op.operandType.hasStaticShape || !op.resultType.hasStaticShape then
    .ok none
  else do
    let nonZeroPerms ← op.permutation.foldlM (fun nonZeroPerms idx => do
      let dimSize ← itemAt op.operandType.shape idx
      .ok (if dimSize != 1 then nonZeroPerms ++ [idx] else nonZeroPerms)) []
    if isSorted nonZeroPerms then
      .ok (some (.reshape op.operandType op.resultType))
    else
      .ok none

/-- A simplification, with the operations that it is tried on. -/
inductive Simplification where
  | mergeComposition (outer inner : BroadcastInDimOp)
  | replaceWithReshape (op : BroadcastInDimOp)
  | replaceWithTranspose (op : BroadcastInDimOp)
  | transposeOfTranspose (op child : TransposeOp)
  | transposeIsReshape (op : TransposeOp)

/-- The operations that a simplification is tried on, each the operand of the next one. -/
def Simplification.source : Simplification → List ShapeOp
  | .mergeComposition outer inner => [.broadcastInDim inner, .broadcastInDim outer]
  | .replaceWithReshape op => [.broadcastInDim op]
  | .replaceWithTranspose op => [.broadcastInDim op]
  | .transposeOfTranspose op child => [.transpose child, .transpose op]
  | .transposeIsReshape op => [.transpose op]

/-- The operation that takes the place of the last one, if the simplification applies. -/
def Simplification.apply : Simplification → Except Failure (Option ShapeOp)
  | .mergeComposition outer inner => broadcastInDimOpMergeComposition outer inner
  | .replaceWithReshape op => .ok (broadcastInDimOpReplaceWithReshape op)
  | .replaceWithTranspose op => broadcastInDimOpReplaceWithTranspose op
  | .transposeOfTranspose op child => transposeOpTransposeOfTranspose op child
  | .transposeIsReshape op => Stablehlo.transposeIsReshape op

end Patterns

section StaticTypes

/-- All sizes of the type are known, and so are the numbers that its rank is counted in. -/
structure RankedTensorType.FullyStatic (type : RankedTensorType) : Prop where
  valid : type.Valid
  static : type.hasStaticShape = true
  rank : type.rank < 2 ^ 63

variable {type operandType resultType : RankedTensorType}

/-- The sizes of a static type are known. -/
theorem RankedTensorType.FullyStatic.known (static : type.FullyStatic) :
    type.shape.map Int64.toInt = type.sizes.map Nat.cast := static.valid.known static.static

/-- There is a size for each dimension. -/
@[simp] theorem RankedTensorType.length_sizes (type : RankedTensorType) :
    type.sizes.length = type.rank := List.length_map _

/-- Static types have the same shape when they have the same sizes. -/
theorem shape_eq_iff_sizes_eq (operandStatic : operandType.FullyStatic)
    (resultStatic : resultType.FullyStatic) :
    operandType.shape = resultType.shape ↔ operandType.sizes = resultType.sizes := by
  constructor
  · intro same
    rw [RankedTensorType.sizes, RankedTensorType.sizes, same]
  · intro same
    have numbers := operandStatic.known
    rw [same, ← resultStatic.known] at numbers
    exact List.map_injective_iff.mpr (fun _ _ => Int64.toInt_inj.mp) numbers

/-- The number of elements of a static type is the product of its sizes. -/
theorem RankedTensorType.FullyStatic.getNumElements_eq (static : type.FullyStatic) :
    type.getNumElements = (type.sizes.prod : Nat) := by
  rw [RankedTensorType.getNumElements, static.known]
  exact (map_list_prod (Nat.castRingHom Int) type.sizes).symm

/-- The dimensions of a static type have no bounds. -/
theorem RankedTensorType.FullyStatic.dimsAndBounds_eq (static : type.FullyStatic) :
    type.dimsAndBounds = type.shape.map fun dimSize => (dimSize, kDynamic) := by
  have count := static.valid.wellFormed.length_dimsAndBounds
  -- The sizes are those of the shape, and only dynamic dimensions could have bounds.
  have sizes : type.dimsAndBounds.map Prod.fst = type.shape := by
    simp only [RankedTensorType.dimsAndBounds, List.length_zip, RankedTensorType.rank] at count ⊢
    apply List.map_fst_zip
    omega
  have unbounded : type.dimsAndBounds.map (fun dim => (dim.1, kDynamic)) =
      type.dimsAndBounds.map id := by
    refine List.map_congr_left fun dim listed => ?_
    obtain ⟨size, bound⟩ := dim
    have known : isDynamicDimSize size = false := by
      have member : size ∈ type.shape := by
        rw [← sizes]
        exact List.mem_map.mpr ⟨_, listed, rfl⟩
      simpa using List.all_eq_true.mp static.static size member
    rcases static.valid.wellFormed.of_mem listed with dynamic | free
    · exact absurd dynamic (by simp [known])
    · rw [isDynamicDimSize, beq_iff_eq] at free
      rw [← free]
      rfl
  rw [List.map_id] at unbounded
  rw [← unbounded, ← sizes, List.map_map]
  rfl

/-- A type without bounds is compatible with a static one when their shapes are the same. -/
theorem isCompatible_iff_of_static (static : resultType.FullyStatic)
    (unbounded : encodingToBounds operandType.encoding = [])
    (known : operandType.hasStaticShape = true)
    (elementType : operandType.elementType = resultType.elementType) :
    isCompatibleForHloTypeInference operandType resultType = true ↔
      operandType.shape = resultType.shape := by
  constructor
  · intro compatible
    unfold isCompatibleForHloTypeInference at compatible
    simp only [Bool.and_eq_true] at compatible
    exact shape_eq_of_compatible known static.static compatible.1.1.1
  · intro shape
    -- The result type without its encoding is compatible with itself, and no size has a bound.
    have self := @isCompatible_self ⟨resultType.shape, resultType.elementType, none⟩ rfl
    unfold isCompatibleForHloTypeInference verifyCompatibleShape RankedTensorType.rank at self ⊢
    rw [shape, elementType, isWithinBounds.eq_def resultType.shape operandType.encoding, unbounded]
    simp only [Bool.and_eq_true] at self ⊢
    refine ⟨⟨⟨self.1.1.1, ?_⟩, by simp⟩, self.2⟩
    rw [isWithinBounds, List.all_eq_true]
    rintro ⟨dimSize, bound⟩ listed
    have pair : (dimSize, bound) ∈ resultType.dimsAndBounds := by
      simp only [RankedTensorType.dimsAndBounds]
      split
      · next empty =>
        rw [List.isEmpty_iff] at empty
        rw [empty, List.zip_nil_right] at listed
        cases listed
      · exact listed
    rw [static.dimsAndBounds_eq] at pair
    obtain ⟨_, -, same⟩ := List.mem_map.mp pair
    cases same
    rfl

end StaticTypes

section Verified

variable {operandType resultType : RankedTensorType}

/-- A static size is the one it stands for. -/
theorem RankedTensorType.FullyStatic.getElem_eq {type : RankedTensorType}
    (static : type.FullyStatic) {place : Nat} (below : place < type.shape.length) :
    type.shape[place].toInt = type.sizes.getD place 1 := by
  obtain ⟨size, found, value⟩ := getElem?_of_known static.known (List.getElem?_eq_getElem below)
  rw [value, List.getD_eq_getElem?_getD, found, Option.getD_some]

/-- The verifier accepts a broadcast of a static type when the dimensions of the operand fit in
those of the result. -/
theorem verifyBroadcastInDimOp_eq_ok (operandStatic : operandType.FullyStatic)
    (resultStatic : resultType.FullyStatic) {dims : List Int64} :
    verifyBroadcastInDimOp operandType dims resultType = .ok () ↔
      (∀ dim ∈ dims, isDimInBounds resultType.rank dim = true) ∧
        BroadcastFits operandType.sizes (axes dims) resultType.sizes := by
  -- What is checked for one dimension of the operand.
  have checked (dimSize dimIndex : Int64) (i : Nat) : (do
      require (isDimInBounds resultType.rank dimIndex)
        (s!"broadcast_dimensions contains invalid value {dimIndex} for result with rank " ++
          s!"{resultType.rank}")
      match resultType.shape[dimIndex.toNatClampNeg]? with
      | some resultDimSize =>
        require (isDynamicDimSize dimSize || dimSize == 1 || dimSize == resultDimSize)
          (s!"size of operand dimension {i} ({dimSize}) is not equal to 1 or size of result " ++
            s!"dimension {dimIndex} ({resultDimSize})")
      | none => .error .undefinedBehavior) = .ok () ↔
      isDimInBounds resultType.rank dimIndex = true ∧
        ∃ resultDimSize, resultType.shape[dimIndex.toNatClampNeg]? = some resultDimSize ∧
          (isDynamicDimSize dimSize = true ∨ dimSize = 1 ∨ dimSize = resultDimSize) := by
    rw [Fallible.check_bind_eq_ok, require_eq_ok]
    refine and_congr_right fun _ => ?_
    cases resultType.shape[dimIndex.toNatClampNeg]? with
    | none => simp
    | some resultDimSize => simp [or_assoc]
  unfold verifyBroadcastInDimOp
  rw [Fallible.check_bind_eq_ok, Fallible.check_bind_eq_ok, require_eq_ok, require_eq_ok,
    isUnique_iff, beq_iff_eq, Fallible.forM_eq_ok_iff]
  have rankEq := RankedTensorType.length_sizes operandType
  have resultRank := RankedTensorType.length_sizes resultType
  -- The sizes are equal as numbers of 64 bits when they are as natural numbers.
  have sizesKept {place : Nat} (below : place < operandType.shape.length) {dim : Int64}
      (inBounds : isDimInBounds resultType.rank dim = true) :
      (∃ resultDimSize, resultType.shape[dim.toNatClampNeg]? = some resultDimSize ∧
        (isDynamicDimSize operandType.shape[place] = true ∨ operandType.shape[place] = 1 ∨
          operandType.shape[place] = resultDimSize)) ↔
      operandType.sizes.getD place 1 = 1 ∨
        operandType.sizes.getD place 1 = resultType.sizes.getD dim.toNatClampNeg 1 := by
    have inside : dim.toNatClampNeg < resultType.shape.length := (toInt_of_isDimInBounds inBounds).2
    have size := operandStatic.getElem_eq below
    have resultSize := resultStatic.getElem_eq inside
    have one : (1 : Int64).toInt = 1 := by decide
    rw [List.getElem?_eq_getElem inside, isDynamicDimSize_of_natCast size, ← Int64.toInt_inj, one,
      size]
    constructor
    · rintro ⟨_, ⟨⟩, dynamic | unit | same⟩
      · cases dynamic
      · omega
      · rw [same, resultSize] at size
        omega
    · rintro (unit | same)
      · exact ⟨_, rfl, .inr (.inl (by omega))⟩
      · refine ⟨_, rfl, .inr (.inr (Int64.toInt_inj.mp ?_))⟩
        omega
  constructor
  · rintro ⟨count, unique, all⟩
    have each (place : Nat) (below : place < operandType.shape.length)
        (other : place < dims.length) :=
      (checked operandType.shape[place] dims[place] place).mp
        (all ((operandType.shape[place], dims[place]), place)
          (List.mem_zipIdx_iff_getElem?.mpr
            (List.getElem?_zip_eq_some.mpr ⟨List.getElem?_eq_getElem below,
              List.getElem?_eq_getElem other⟩)))
    have inBounds : ∀ dim ∈ dims, isDimInBounds resultType.rank dim = true := by
      intro dim listed
      obtain ⟨place, below, rfl⟩ := List.mem_iff_getElem.mp listed
      exact (each place (by unfold RankedTensorType.rank at count; omega) below).1
    refine ⟨inBounds, nodup_axes unique inBounds, ?_⟩
    rw [axes, List.forall₂_map_right_iff, List.forall₂_iff_get]
    refine ⟨by omega, fun place below other => ?_⟩
    have inside : place < operandType.shape.length := by
      rw [rankEq] at below
      exact below
    obtain ⟨bound, kept⟩ := each place inside other
    rw [sizesKept inside bound, List.getD_eq_getElem _ _ below] at kept
    refine ⟨?_, kept⟩
    rw [resultRank]
    exact (toInt_of_isDimInBounds bound).2
  · rintro ⟨inBounds, unique, sizes⟩
    rw [axes, List.forall₂_map_right_iff, List.forall₂_iff_get] at sizes
    obtain ⟨count, sizes⟩ := sizes
    refine ⟨by omega, unique.of_map _, fun item listed => ?_⟩
    obtain ⟨⟨dimSize, dimIndex⟩, place⟩ := item
    obtain ⟨first, second⟩ :=
      List.getElem?_zip_eq_some.mp (List.mem_zipIdx_iff_getElem?.mp listed)
    dsimp only at first second
    obtain ⟨below, rfl⟩ := List.getElem?_eq_some_iff.mp first
    obtain ⟨other, rfl⟩ := List.getElem?_eq_some_iff.mp second
    refine (checked _ _ place).mpr ⟨inBounds _ (List.getElem_mem other), ?_⟩
    have size : place < operandType.sizes.length := by
      rw [rankEq]
      exact below
    rw [sizesKept below (inBounds _ (List.getElem_mem other)), List.getD_eq_getElem _ _ size]
    exact (sizes place size other).2

/-- A permutation of the dimensions has the axes of a permutation. -/
theorem perm_axes_of_isPerm {rank : Nat} (small : rank < 2 ^ 63) {permutation : List Int64} :
    (((List.range rank).map Int64.ofNat).isPerm permutation = true) ↔
      (∀ dim ∈ permutation, isDimInBounds rank dim = true) ∧
        (axes permutation).Perm (List.range rank) := by
  have value {axis : Nat} (below : axis < rank) : (Int64.ofNat axis).toInt = axis :=
    Int64.toInt_ofNat_of_lt (by omega)
  have back : axes ((List.range rank).map Int64.ofNat) = List.range rank := by
    rw [axes, List.map_map]
    conv => rhs; rw [← List.map_id (List.range rank)]
    refine List.map_congr_left fun axis listed => ?_
    have same := value (List.mem_range.mp listed)
    show (Int64.ofNat axis).toNatClampNeg = axis
    rw [Int64.toNatClampNeg]
    omega
  rw [List.isPerm_iff]
  constructor
  · intro permuted
    refine ⟨fun dim listed => ?_, ?_⟩
    · obtain ⟨axis, below, rfl⟩ := List.mem_map.mp (permuted.mem_iff.mpr listed)
      have inside := List.mem_range.mp below
      have same := value inside
      simp only [isDimInBounds, Bool.and_eq_true, decide_eq_true_eq]
      omega
    · have axesPermuted : (axes ((List.range rank).map Int64.ofNat)).Perm (axes permutation) :=
        permuted.map _
      rw [back] at axesPermuted
      exact axesPermuted.symm
  · rintro ⟨inBounds, permuted⟩
    -- Dimensions in bounds are the numbers of their axes.
    have numbers : permutation = (axes permutation).map Int64.ofNat := by
      rw [axes, List.map_map]
      conv => lhs; rw [← List.map_id permutation]
      refine List.map_congr_left fun dim listed => ?_
      obtain ⟨same, below⟩ := toInt_of_isDimInBounds (inBounds dim listed)
      have number := value below
      apply Int64.toInt_inj.mp
      show dim.toInt = (Int64.ofNat dim.toNatClampNeg).toInt
      omega
    rw [numbers]
    exact permuted.symm.map _

/-- The type of a transpose has the sizes in the order of the permutation. -/
theorem inferTransposeOp_eq (static : operandType.FullyStatic) {permutation : List Int64}
    (inBounds : ∀ dim ∈ permutation, isDimInBounds operandType.rank dim = true)
    (permuted : (axes permutation).Perm (List.range operandType.rank)) :
    inferTransposeOp operandType permutation = .ok
      ⟨(axes permutation).map (operandType.shape.getD · 0), operandType.elementType,
        operandType.slicedEncoding⟩ := by
  have count : permutation.length = operandType.rank := by
    simpa using permuted.length_eq
  have selected : permutation.mapM (fun dim => operandType.dimAndBound dim.toNatClampNeg) =
      .ok (permutation.map fun dim =>
        (operandType.shape.getD dim.toNatClampNeg 0, kDynamic)) := by
    apply Fallible.mapM_eq_ok_map
    intro dim listed
    have below : dim.toNatClampNeg < operandType.shape.length :=
      (toInt_of_isDimInBounds (inBounds dim listed)).2
    rw [RankedTensorType.dimAndBound, static.dimsAndBounds_eq, List.getElem?_map,
      List.getElem?_eq_getElem below, List.getD_eq_getElem _ _ below]
    rfl
  unfold inferTransposeOp
  simp only
  rw [if_neg (by simp [count]), if_neg (by
    simpa using (perm_axes_of_isPerm static.rank).mpr ⟨inBounds, permuted⟩), selected,
    Fallible.ok_bind]
  have sizes : (permutation.map fun dim =>
      (operandType.shape.getD dim.toNatClampNeg 0, kDynamic)).map Prod.fst =
        (axes permutation).map (operandType.shape.getD · 0) := by
    rw [List.map_map, axes, List.map_map]
    rfl
  rw [sizes]
  unfold RankedTensorType.slicedEncoding
  rcases bounds : encodingToBounds operandType.encoding with _ | ⟨bound, others⟩
  · -- Without bounds, the encoding stays as it is.
    rfl
  · have some : permutation ≠ [] := by
      rintro rfl
      have rank := static.valid.bounds
      rw [bounds] at rank
      have length := rank.resolve_left (by simp)
      rw [← RankedTensorType.rank, ← count] at length
      cases length
    have dynamic : ((permutation.map fun dim =>
        (operandType.shape.getD dim.toNatClampNeg 0, kDynamic)).map Prod.snd).all
        isDynamicDimSize = true := by
      rw [List.all_eq_true]
      intro size listed
      simp only [List.map_map, List.mem_map, Function.comp_apply] at listed
      obtain ⟨_, -, rfl⟩ := listed
      rfl
    rw [if_neg (by simp)]
    unfold boundsToEncoding
    rw [if_neg (by simpa using some), if_pos dynamic]
    rfl

/-- The inferred type of a transpose is static, and has the sizes in the order of the permutation. -/
theorem transposed_static (static : operandType.FullyStatic) {permutation : List Nat}
    (permuted : permutation.Perm (List.range operandType.rank)) :
    RankedTensorType.FullyStatic ⟨permutation.map (operandType.shape.getD · 0),
        operandType.elementType, operandType.slicedEncoding⟩ ∧
      RankedTensorType.sizes ⟨permutation.map (operandType.shape.getD · 0),
        operandType.elementType, operandType.slicedEncoding⟩ =
        MixedRadix.reorder operandType.sizes permutation := by
  have inside : ∀ axis ∈ permutation, axis < operandType.shape.length :=
    fun axis listed => List.mem_range.mp (permuted.mem_iff.mp listed)
  -- Every size is one of the operand.
  have member : ∀ dimSize ∈ permutation.map (operandType.shape.getD · 0),
      dimSize ∈ operandType.shape := by
    intro dimSize listed
    obtain ⟨axis, present, rfl⟩ := List.mem_map.mp listed
    rw [List.getD_eq_getElem _ _ (inside axis present)]
    exact List.getElem_mem _
  refine ⟨⟨⟨?_, ?_⟩, ?_, ?_⟩, ?_⟩
  · exact fun dimSize listed => static.valid.nonneg dimSize (member dimSize listed)
  · left
    rw [encodingToBounds_sliced]
    rfl
  · rw [RankedTensorType.hasStaticShape, List.all_eq_true]
    exact fun dimSize listed => List.all_eq_true.mp static.static dimSize (member dimSize listed)
  · show (permutation.map (operandType.shape.getD · 0)).length < 2 ^ 63
    have count := permuted.length_eq
    have small := static.rank
    rw [List.length_range] at count
    rw [List.length_map]
    omega
  · rw [RankedTensorType.sizes, MixedRadix.reorder, List.map_map]
    refine List.map_congr_left fun axis listed => ?_
    have below := inside axis listed
    simp [RankedTensorType.sizes, below]

/-- The verifiers accept a transpose of a static type when its type has the sizes in the order of the
permutation. -/
theorem TransposeOp.verified_iff {op : TransposeOp} (operandStatic : op.operandType.FullyStatic)
    (resultStatic : op.resultType.FullyStatic)
    (elementType : op.operandType.elementType = op.resultType.elementType) :
    op.Verified ↔ (∀ dim ∈ op.permutation, isDimInBounds op.operandType.rank dim = true) ∧
      (axes op.permutation).Perm (List.range op.operandType.rank) ∧
      MixedRadix.reorder op.operandType.sizes (axes op.permutation) = op.resultType.sizes := by
  -- The inferred type is compatible with the one of the transpose when the sizes are the same.
  have compatible (permuted : (axes op.permutation).Perm (List.range op.operandType.rank)) :
      isCompatibleForHloTypeInference ⟨(axes op.permutation).map (op.operandType.shape.getD · 0),
          op.operandType.elementType, op.operandType.slicedEncoding⟩ op.resultType = true ↔
        MixedRadix.reorder op.operandType.sizes (axes op.permutation) = op.resultType.sizes := by
    obtain ⟨static, sizes⟩ := transposed_static operandStatic permuted
    rw [isCompatible_iff_of_static resultStatic (encodingToBounds_sliced _) static.static elementType,
      shape_eq_iff_sizes_eq static resultStatic, sizes]
  constructor
  · rintro ⟨-, inferred, made, same⟩
    have accepted : ((List.range op.operandType.rank).map Int64.ofNat).isPerm op.permutation =
        true := by
      unfold inferTransposeOp at made
      simp only at made
      split at made
      · cases made
      · split at made
        · cases made
        · next passed => simpa using passed
    obtain ⟨inBounds, permuted⟩ := (perm_axes_of_isPerm operandStatic.rank).mp accepted
    rw [inferTransposeOp_eq operandStatic inBounds permuted, Except.ok.injEq] at made
    subst made
    exact ⟨inBounds, permuted, (compatible permuted).mp same⟩
  · rintro ⟨inBounds, permuted, sizes⟩
    exact ⟨elementType, _, inferTransposeOp_eq operandStatic inBounds permuted,
      (compatible permuted).mpr sizes⟩

/-- The verifiers accept a reshape of a static type when the number of elements is the same. -/
theorem reshapeVerified_iff (operandStatic : operandType.FullyStatic)
    (resultStatic : resultType.FullyStatic)
    (elementType : operandType.elementType = resultType.elementType) :
    ReshapeVerified operandType resultType ↔ operandType.sizes.prod = resultType.sizes.prod := by
  unfold ReshapeVerified
  rw [operandStatic.getNumElements_eq, resultStatic.getNumElements_eq]
  constructor
  · rintro ⟨-, -, count⟩
    have same := count operandStatic.static resultStatic.static
    omega
  · intro count
    exact ⟨elementType, .inl resultStatic.static, fun _ _ => by omega⟩

end Verified

section Lookups

variable {items dims : List Int64}

/-- Items at indices of the list are read. -/
theorem itemAt_eq {index : Int64} (inBounds : isDimInBounds items.length index = true) :
    itemAt items index = .ok (items.getD index.toNatClampNeg 0) := by
  obtain ⟨number, below⟩ := toInt_of_isDimInBounds inBounds
  rw [itemAt, if_neg (by omega), List.getElem?_eq_getElem below, List.getD_eq_getElem _ _ below]

/-- Dimensions that are looked up in others stand for the axes that are looked up. -/
theorem mapM_itemAt_eq {rank : Nat} (itemsInBounds : ∀ item ∈ items, isDimInBounds rank item = true)
    (inBounds : ∀ dim ∈ dims, isDimInBounds items.length dim = true) :
    ∃ merged, dims.mapM (itemAt items) = .ok merged ∧
      axes merged = (axes dims).map ((axes items).getD · 0) ∧
      ∀ dim ∈ merged, isDimInBounds rank dim = true := by
  refine ⟨_, Fallible.mapM_eq_ok_map fun dim listed => itemAt_eq (inBounds dim listed), ?_, ?_⟩
  · rw [axes, List.map_map, axes, axes, List.map_map]
    refine List.map_congr_left fun dim listed => ?_
    have below := (toInt_of_isDimInBounds (inBounds dim listed)).2
    simp [below]
  · intro dim listed
    obtain ⟨place, present, rfl⟩ := List.mem_map.mp listed
    have below := (toInt_of_isDimInBounds (inBounds place present)).2
    rw [List.getD_eq_getElem _ _ below]
    exact itemsInBounds _ (List.getElem_mem below)

/-- Positions are set one after the other, each to the number of its turn. -/
theorem foldlM_setPosition {dims start : List Int64} {turn : Nat} (unique : (axes dims).Nodup)
    (inBounds : ∀ dim ∈ dims, isDimInBounds start.length dim = true) :
    ∃ permutation, (dims.zipIdx turn).foldlM (fun (permutation : List Int64) (dim, i) =>
        if isDimInBounds permutation.length dim then
          .ok (permutation.set dim.toNatClampNeg (Int64.ofNat i))
        else
          .error .undefinedBehavior) start = (.ok permutation : Except Failure (List Int64)) ∧
      permutation.length = start.length ∧
      ∀ axis < start.length, permutation.getD axis 0 = if axis ∈ axes dims then
        Int64.ofNat (turn + (axes dims).idxOf axis) else start.getD axis 0 := by
  induction dims generalizing start turn with
  | nil => exact ⟨start, rfl, rfl, fun axis _ => by simp [axes]⟩
  | cons dim dims ih =>
    obtain ⟨here, inBounds⟩ := List.forall_mem_cons.mp inBounds
    obtain ⟨fresh, unique⟩ : dim.toNatClampNeg ∉ axes dims ∧ (axes dims).Nodup :=
      List.nodup_cons.mp unique
    -- The first turn sets the position of the first dimension, and no other one does.
    let next := start.set dim.toNatClampNeg (Int64.ofNat turn)
    have length : next.length = start.length := List.length_set
    obtain ⟨permutation, run, count, positions⟩ := @ih next (turn + 1) unique (by
      rw [length]
      exact inBounds)
    refine ⟨permutation, ?_, count.trans length, fun axis below => ?_⟩
    · rw [List.zipIdx_cons, List.foldlM_cons]
      dsimp only
      rw [if_pos here, Fallible.ok_bind]
      exact run
    · rw [positions axis (by omega)]
      show _ = if axis ∈ dim.toNatClampNeg :: axes dims then
        Int64.ofNat (turn + (dim.toNatClampNeg :: axes dims).idxOf axis) else start.getD axis 0
      by_cases first : dim.toNatClampNeg = axis
      · subst first
        rw [if_neg fresh, if_pos (List.mem_cons_self), List.idxOf_cons_self, Nat.add_zero]
        simp [next, below]
      · have other : next.getD axis 0 = start.getD axis 0 := by
          simp [next, first]
        rw [other, List.idxOf_cons_ne _ first]
        by_cases listed : axis ∈ axes dims
        · rw [if_pos listed, if_pos (List.mem_cons_of_mem _ listed)]
          congr 1
          omega
        · rw [if_neg listed, if_neg (by simp [listed, Ne.symm first])]

/-- Dimensions that are all those below their number are inverted. -/
theorem getInvertedBroadcastDimensions_eq (unique : (axes dims).Nodup)
    (inBounds : ∀ dim ∈ dims, isDimInBounds dims.length dim = true) :
    ∃ permutation, getInvertedBroadcastDimensions dims = .ok permutation ∧
      (∀ dim ∈ permutation, isDimInBounds dims.length dim = true) ∧
      (axes permutation).Perm (List.range dims.length) ∧
      (axes permutation).map ((axes dims).getD · 0) = List.range dims.length := by
  -- As many different axes below their number are all of them.
  have all : (axes dims).Perm (List.range dims.length) := by
    refine List.Subperm.perm_of_length_le (List.subperm_of_subset unique fun axis listed => ?_) ?_
    · exact List.mem_range.mpr (axes_lt inBounds listed)
    · rw [length_axes, List.length_range]
  obtain ⟨permutation, run, count, positions⟩ :=
    @foldlM_setPosition dims (List.replicate dims.length 0) 0 unique (by
      rw [List.length_replicate]
      exact inBounds)
  rw [List.length_replicate] at count positions
  -- The largest axis is a number of 64 bits, and so are the places.
  have small : dims.length ≤ 2 ^ 63 := by
    by_contra large
    have member : (2 : Nat) ^ 63 ∈ axes dims := all.mem_iff.mpr (List.mem_range.mpr (by omega))
    obtain ⟨dim, -, value⟩ := List.mem_map.mp member
    have upper := dim.toInt_lt
    rw [Int64.toNatClampNeg] at value
    omega
  have place : ∀ axis ∈ List.range dims.length, (axes dims).idxOf axis < (axes dims).length :=
    fun axis listed => List.idxOf_lt_length_of_mem (all.mem_iff.mpr listed)
  have entry (axis : Nat) (inside : axis < permutation.length) :
      permutation[axis].toInt = (axes dims).idxOf axis := by
    have listed : axis ∈ List.range dims.length := List.mem_range.mpr (by omega)
    have position := positions axis (by omega)
    have below := place axis listed
    rw [length_axes] at below
    rw [if_pos (all.mem_iff.mpr listed), Nat.zero_add, List.getD_eq_getElem _ _ inside] at position
    rw [position]
    exact Int64.toInt_ofNat_of_lt (by omega)
  have inverted : axes permutation = (List.range dims.length).map ((axes dims).idxOf ·) := by
    apply List.ext_getElem
    · rw [length_axes, List.length_map, List.length_range, count]
    intro axis below other
    rw [length_axes] at below
    have value := entry axis below
    simp only [axes, List.getElem_map, List.getElem_range, Int64.toNatClampNeg] at value ⊢
    omega
  have permuted : (axes permutation).Perm (List.range dims.length) := by
    -- The places of the axes, in their own order, are all numbers in order.
    have own : (axes dims).map ((axes dims).idxOf ·) = List.range dims.length := by
      apply List.ext_getElem (by simp)
      intro turn below other
      simp [unique.idxOf_getElem]
    rw [inverted]
    have moved := all.map ((axes dims).idxOf ·)
    rw [own] at moved
    exact moved.symm
  refine ⟨permutation, run, ?_, permuted, ?_⟩
  · intro dim listed
    obtain ⟨axis, inside, rfl⟩ := List.mem_iff_getElem.mp listed
    have value := entry axis inside
    have below := place axis (List.mem_range.mpr (by omega))
    rw [length_axes] at below
    simp only [isDimInBounds, Bool.and_eq_true, decide_eq_true_eq]
    omega
  · rw [inverted, List.map_map]
    conv => rhs; rw [← List.map_id (List.range dims.length)]
    refine List.map_congr_left fun axis listed => ?_
    show (axes dims).getD ((axes dims).idxOf axis) 0 = axis
    rw [List.getD_eq_getElem _ _ (place axis listed), List.getElem_idxOf]

end Lookups

section Correctness

/-- The type of the operand of the first operation. -/
def Simplification.operandType : Simplification → RankedTensorType
  | .mergeComposition _ inner => inner.operandType
  | .replaceWithReshape op | .replaceWithTranspose op => op.operandType
  | .transposeOfTranspose _ child => child.operandType
  | .transposeIsReshape op => op.operandType

/-- The type of the result of the last operation. -/
def Simplification.resultType : Simplification → RankedTensorType
  | .mergeComposition outer _ => outer.resultType
  | .replaceWithReshape op | .replaceWithTranspose op => op.resultType
  | .transposeOfTranspose op _ | .transposeIsReshape op => op.resultType

/-- The operations are accepted by their verifiers, their types are static and not quantized, and
each has the result of the one before it as its operand. -/
structure Simplification.Accepted (simplification : Simplification) : Prop where
  verified : ∀ op ∈ simplification.source, op.Verified
  static : ∀ op ∈ simplification.source, op.operandType.FullyStatic ∧ op.resultType.FullyStatic
  unquantized : ∀ op ∈ simplification.source,
    isQuantizedType op.operandType.elementType = false
  connected : simplification.source.IsChain fun former latter =>
    former.resultType = latter.operandType

/-- What the interpreter computes before the simplification. -/
def Simplification.eval {α : Type} (simplification : Simplification) (storage : Storage α)
    (operand : Tensor α) : Except Failure (Tensor α) :=
  simplification.source.foldlM (fun value op => op.eval storage value) operand

/-- The new operation has the types of the ones it replaces, the verifiers accept it, and it has
their value for every operand. -/
def Simplification.Replaces (simplification : Simplification) (op : ShapeOp) : Prop :=
  op.operandType = simplification.operandType ∧ op.resultType = simplification.resultType ∧
    op.Verified ∧ ∀ (α : Type) (storage : Storage α) (operand : Tensor α),
      operand.shape = simplification.operandType.sizes →
        ∃ value, simplification.eval storage operand = .ok value ∧
          op.eval storage operand = .ok value

/-- The simplification does not fail, and what it makes takes the place of the operations. -/
def Simplification.Correct (simplification : Simplification) : Prop :=
  ∃ outcome, simplification.apply = .ok outcome ∧
    ∀ op, outcome = some op → simplification.Replaces op

/-- A broadcast without elements that becomes a transpose keeps the sizes of its dimensions. -/
def Simplification.KeepsSizes : Simplification → Prop
  | .replaceWithTranspose op =>
    op.numberOfElementsEqual = true → op.rankEqual = true → op.resultType.getNumElements = 0 →
      ∀ (i : Nat) (dim : Int64), op.broadcastDimensions[i]? = some dim →
        op.operandType.shape[i]? = op.resultType.shape[dim.toNatClampNeg]?
  | _ => True

/-- A broadcast with static types is verified when the dimensions of the operand fit in those of the
result. -/
theorem BroadcastInDimOp.verified_iff {op : BroadcastInDimOp}
    (operandStatic : op.operandType.FullyStatic) (resultStatic : op.resultType.FullyStatic)
    (elementType : op.operandType.elementType = op.resultType.elementType) :
    op.Verified ↔ (∀ dim ∈ op.broadcastDimensions, isDimInBounds op.resultType.rank dim = true) ∧
      BroadcastFits op.operandType.sizes (axes op.broadcastDimensions) op.resultType.sizes := by
  unfold BroadcastInDimOp.Verified
  rw [verifyBroadcastInDimOp_eq_ok operandStatic resultStatic]
  exact ⟨fun ⟨_, _, fits⟩ => fits, fun fits => ⟨elementType, .inl resultStatic.static, fits⟩⟩

/-- The numbers of elements of static types are compared as products of sizes. -/
theorem BroadcastInDimOp.numberOfElementsEqual_iff {op : BroadcastInDimOp}
    (operandStatic : op.operandType.FullyStatic) (resultStatic : op.resultType.FullyStatic) :
    op.numberOfElementsEqual = true ↔ op.operandType.sizes.prod = op.resultType.sizes.prod := by
  rw [BroadcastInDimOp.numberOfElementsEqual, beq_iff_eq, operandStatic.getNumElements_eq,
    resultStatic.getNumElements_eq]
  omega

/-- Sorted dimensions in bounds stand for sorted axes. -/
theorem pairwise_axes {dims : List Int64} {rank : Nat} (sorted : isSorted dims = true)
    (inBounds : ∀ dim ∈ dims, isDimInBounds rank dim = true) : (axes dims).Pairwise (· ≤ ·) := by
  rw [axes, List.pairwise_map]
  refine (pairwise_of_isSorted sorted).imp_of_mem fun {first second} firstListed secondListed
    le => ?_
  have firstValue := (toInt_of_isDimInBounds (inBounds first firstListed)).1
  have secondValue := (toInt_of_isDimInBounds (inBounds second secondListed)).1
  omega

/-- What a simplification makes takes the place of the operations when it does so on its own. -/
theorem Simplification.correct_of_some {simplification : Simplification} {op : ShapeOp}
    (applied : simplification.apply = .ok (some op)) :
    simplification.Correct ↔ simplification.Replaces op := by
  unfold Simplification.Correct
  rw [applied]
  exact exists_outcome_iff

/-- A simplification that does not apply changes nothing. -/
theorem Simplification.correct_of_none {simplification : Simplification}
    (applied : simplification.apply = .ok none) : simplification.Correct :=
  ⟨none, applied, nofun⟩

/-- A merged broadcast takes the place of both. -/
theorem mergeComposition_correct {outer inner : BroadcastInDimOp}
    (accepted : (Simplification.mergeComposition outer inner).Accepted) :
    (Simplification.mergeComposition outer inner).Correct := by
  obtain ⟨verified, static, -, connected⟩ := accepted
  simp only [Simplification.source, List.forall_mem_cons, List.isChain_pair] at verified static connected
  obtain ⟨innerVerified, outerVerified, -⟩ := verified
  obtain ⟨⟨innerStatic, middleStatic⟩, ⟨outerStatic, resultStatic⟩, -⟩ := static
  have same : inner.resultType = outer.operandType := connected
  obtain ⟨innerInBounds, innerFits⟩ :=
    (BroadcastInDimOp.verified_iff innerStatic middleStatic innerVerified.1).mp innerVerified
  obtain ⟨outerInBounds, outerFits⟩ :=
    (BroadcastInDimOp.verified_iff outerStatic resultStatic outerVerified.1).mp outerVerified
  rw [← same] at outerFits
  have rank : outer.broadcastDimensions.length = inner.resultType.rank := by
    rw [← length_axes, ← outerFits.sizes.length_eq, RankedTensorType.length_sizes]
  cases guard : inner.broadcastNotReducibleToReshape with
  | false =>
    apply Simplification.correct_of_none
    simp [Simplification.apply, broadcastInDimOpMergeComposition, guard]
  | true =>
    obtain ⟨dims, merged, mergedAxes, mergedInBounds⟩ :=
      mapM_itemAt_eq outerInBounds (by rw [rank]; exact innerInBounds)
    have applied : (Simplification.mergeComposition outer inner).apply =
        .ok (some (.broadcastInDim ⟨inner.operandType, dims, outer.resultType⟩)) := by
      rw [Simplification.apply, broadcastInDimOpMergeComposition, if_pos guard,
        getMergedBroadcastDimensions, merged]
      rfl
    rw [Simplification.correct_of_some applied]
    refine ⟨rfl, rfl, ?_, fun α storage operand shape => ?_⟩
    · -- The merged dimensions are those of the result.
      have elementType : inner.operandType.elementType = outer.resultType.elementType := by
        rw [innerVerified.1, same, outerVerified.1]
      refine (@BroadcastInDimOp.verified_iff ⟨inner.operandType, dims, outer.resultType⟩
        innerStatic resultStatic elementType).mpr ⟨mergedInBounds, ?_⟩
      dsimp only
      rw [mergedAxes]
      exact innerFits.trans outerFits
    · replace shape : operand.shape = inner.operandType.sizes := shape
      rw [← shape] at innerFits
      obtain ⟨value, both, once⟩ := Tensor.broadcastInDimOp_broadcastInDimOp innerFits outerFits
      refine ⟨value, ?_, ?_⟩
      · simpa [Simplification.eval, Simplification.source, ShapeOp.eval] using both
      · rw [ShapeOp.eval, mergedAxes]
        exact once

/-- A reshape takes the place of a broadcast with sorted dimensions and as many elements. -/
theorem replaceWithReshape_correct {op : BroadcastInDimOp}
    (accepted : (Simplification.replaceWithReshape op).Accepted) :
    (Simplification.replaceWithReshape op).Correct := by
  obtain ⟨verified, static, -, -⟩ := accepted
  simp only [Simplification.source, List.forall_mem_cons] at verified static
  obtain ⟨verified, -⟩ := verified
  obtain ⟨⟨operandStatic, resultStatic⟩, -⟩ := static
  obtain ⟨inBounds, fits⟩ :=
    (BroadcastInDimOp.verified_iff operandStatic resultStatic verified.1).mp verified
  cases guard : (op.operandType.hasStaticShape && isSorted op.broadcastDimensions &&
      op.numberOfElementsEqual) with
  | false =>
    apply Simplification.correct_of_none
    simp only [Simplification.apply, broadcastInDimOpReplaceWithReshape, guard]
    rfl
  | true =>
    have applied : (Simplification.replaceWithReshape op).apply =
        .ok (some (.reshape op.operandType op.resultType)) := by
      simp only [Simplification.apply, broadcastInDimOpReplaceWithReshape, guard]
      rfl
    rw [Simplification.correct_of_some applied]
    simp only [Bool.and_eq_true] at guard
    obtain ⟨⟨-, sorted⟩, equal⟩ := guard
    have count := (BroadcastInDimOp.numberOfElementsEqual_iff operandStatic resultStatic).mp equal
    refine ⟨rfl, rfl, (reshapeVerified_iff operandStatic resultStatic verified.1).mpr count,
      fun α storage operand shape => ?_⟩
    replace shape : operand.shape = op.operandType.sizes := shape
    rw [← shape] at fits count
    obtain ⟨value, broadcast, reshaped⟩ :=
      Tensor.broadcastInDimOp_eq_reshapeOp fits (pairwise_axes sorted inBounds) count
    refine ⟨value, ?_, reshaped⟩
    simpa [Simplification.eval, Simplification.source, ShapeOp.eval] using broadcast

/-- Sizes along the dimensions of a broadcast are kept when they are so dimension by dimension. -/
theorem BroadcastInDimOp.keepsSizes_iff {op : BroadcastInDimOp}
    (operandStatic : op.operandType.FullyStatic) (resultStatic : op.resultType.FullyStatic)
    (inBounds : ∀ dim ∈ op.broadcastDimensions, isDimInBounds op.resultType.rank dim = true)
    (count : op.broadcastDimensions.length = op.operandType.rank) :
    (∀ (i : Nat) (dim : Int64), op.broadcastDimensions[i]? = some dim →
      op.operandType.shape[i]? = op.resultType.shape[dim.toNatClampNeg]?) ↔
    op.operandType.sizes = (axes op.broadcastDimensions).map (op.resultType.sizes.getD · 1) := by
  have rank := RankedTensorType.length_sizes op.operandType
  -- At each place, the sizes are compared as numbers.
  have each (i : Nat) (below : i < op.broadcastDimensions.length) :
      op.operandType.shape[i]? =
          op.resultType.shape[op.broadcastDimensions[i].toNatClampNeg]? ↔
        op.operandType.sizes.getD i 1 =
          op.resultType.sizes.getD op.broadcastDimensions[i].toNatClampNeg 1 := by
    have first : i < op.operandType.shape.length := by
      rw [count] at below
      exact below
    have second : op.broadcastDimensions[i].toNatClampNeg < op.resultType.shape.length :=
      (toInt_of_isDimInBounds (inBounds _ (List.getElem_mem below))).2
    rw [List.getElem?_eq_getElem first, List.getElem?_eq_getElem second, Option.some.injEq,
      ← Int64.toInt_inj, operandStatic.getElem_eq first, resultStatic.getElem_eq second]
    omega
  constructor
  · intro all
    apply List.ext_getElem
    · rw [List.length_map, length_axes]
      omega
    intro i below other
    have inside : i < op.broadcastDimensions.length := by omega
    have same := (each i inside).mp (all i _ (List.getElem?_eq_getElem inside))
    rw [List.getD_eq_getElem _ _ below] at same
    simpa [axes] using same
  · intro same i dim found
    obtain ⟨inside, rfl⟩ := List.getElem?_eq_some_iff.mp found
    rw [each i inside, same, List.getD_eq_getElem _ _ (by simpa using inside)]
    simp [axes]

/-- A transpose takes the place of a broadcast exactly when the sizes are kept. -/
theorem replaceWithTranspose_correct_iff {op : BroadcastInDimOp}
    (accepted : (Simplification.replaceWithTranspose op).Accepted) :
    (Simplification.replaceWithTranspose op).Correct ↔
      (Simplification.replaceWithTranspose op).KeepsSizes := by
  obtain ⟨verified, static, -, -⟩ := accepted
  simp only [Simplification.source, List.forall_mem_cons] at verified static
  obtain ⟨verified, -⟩ := verified
  obtain ⟨⟨operandStatic, resultStatic⟩, -⟩ := static
  replace operandStatic : op.operandType.FullyStatic := operandStatic
  replace resultStatic : op.resultType.FullyStatic := resultStatic
  obtain ⟨inBounds, fits⟩ :=
    (BroadcastInDimOp.verified_iff operandStatic resultStatic verified.1).mp verified
  have count : op.broadcastDimensions.length = op.operandType.rank := by
    rw [← length_axes, ← fits.sizes.length_eq, RankedTensorType.length_sizes]
  cases guard : (op.operandType.hasStaticShape && op.numberOfElementsEqual && op.rankEqual) with
  | false =>
    refine iff_of_true (Simplification.correct_of_none ?_) fun equal ranks => ?_
    · rw [Simplification.apply, broadcastInDimOpReplaceWithTranspose, guard]
      rfl
    · rw [operandStatic.static, equal, ranks] at guard
      cases guard
  | true =>
    have applies := guard
    simp only [Bool.and_eq_true] at guard
    obtain ⟨⟨-, equal⟩, ranks⟩ := guard
    have elements := (BroadcastInDimOp.numberOfElementsEqual_iff operandStatic resultStatic).mp equal
    have sameRank : op.resultType.rank = op.operandType.rank := by
      simpa [BroadcastInDimOp.rankEqual] using ranks
    rw [sameRank, ← count] at inBounds
    obtain ⟨permutation, inverted, permutedInBounds, permuted, inverse⟩ :=
      getInvertedBroadcastDimensions_eq fits.unique inBounds
    have applied : (Simplification.replaceWithTranspose op).apply =
        .ok (some (.transpose ⟨op.operandType, permutation, op.resultType⟩)) := by
      rw [Simplification.apply, broadcastInDimOpReplaceWithTranspose, if_pos applies, inverted]
      rfl
    rw [Simplification.correct_of_some applied]
    rw [count] at inBounds permutedInBounds permuted inverse
    have kept := BroadcastInDimOp.keepsSizes_iff operandStatic resultStatic
      (by rw [sameRank]; exact inBounds) count
    -- The transpose has the declared sizes when those of the operand are kept.
    have sizes : MixedRadix.reorder op.operandType.sizes (axes permutation) = op.resultType.sizes ↔
        op.operandType.sizes =
          (axes op.broadcastDimensions).map (op.resultType.sizes.getD · 1) := by
      have moved : MixedRadix.reorder ((axes op.broadcastDimensions).map
          (op.resultType.sizes.getD · 1)) (axes permutation) = op.resultType.sizes := by
        apply reorder_inverse
        · intro place listed
          rw [length_axes, count]
          exact List.mem_range.mp (permuted.mem_iff.mp listed)
        · rw [inverse, RankedTensorType.length_sizes, sameRank]
      constructor
      · intro reordered
        exact MixedRadix.map_getD_injective permuted (RankedTensorType.length_sizes _)
          (by rw [List.length_map, length_axes, count]) (reordered.trans moved.symm)
      · intro same
        rw [same, moved]
    have verifiedIff := @TransposeOp.verified_iff ⟨op.operandType, permutation, op.resultType⟩
      operandStatic resultStatic verified.1
    have transposed : (TransposeOp.mk op.operandType permutation op.resultType).Verified ↔
        op.operandType.sizes =
          (axes op.broadcastDimensions).map (op.resultType.sizes.getD · 1) := by
      rw [verifiedIff, ← sizes]
      exact ⟨fun ⟨_, _, same⟩ => same, fun same => ⟨permutedInBounds, permuted, same⟩⟩
    constructor
    · rintro ⟨-, -, accepted, -⟩ - - -
      exact kept.mpr (transposed.mp accepted)
    · intro keeps
      have same : op.operandType.sizes =
          (axes op.broadcastDimensions).map (op.resultType.sizes.getD · 1) := by
        rcases Nat.eq_zero_or_pos op.operandType.sizes.prod with empty | positive
        · refine kept.mp (keeps equal ranks ?_)
          rw [resultStatic.getNumElements_eq, ← elements, empty]
          rfl
        · exact (fits.sizes_eq elements positive).1
      refine ⟨rfl, rfl, transposed.mpr same, fun α storage operand shape => ?_⟩
      replace shape : operand.shape = op.operandType.sizes := shape
      have rank : operand.shape.length = op.operandType.rank := by
        rw [shape, RankedTensorType.length_sizes]
      rw [← shape] at fits same
      rw [← rank] at permuted
      rw [← sameRank, ← RankedTensorType.length_sizes op.resultType] at inverse
      obtain ⟨value, broadcast, moved⟩ :=
        Tensor.broadcastInDimOp_eq_transposeOp storage fits same permuted inverse
      refine ⟨value, ?_, moved⟩
      simpa [Simplification.eval, Simplification.source, ShapeOp.eval] using broadcast

/-- One transpose takes the place of two. -/
theorem transposeOfTranspose_correct {op child : TransposeOp}
    (accepted : (Simplification.transposeOfTranspose op child).Accepted) :
    (Simplification.transposeOfTranspose op child).Correct := by
  obtain ⟨verified, static, -, connected⟩ := accepted
  simp only [Simplification.source, List.forall_mem_cons, List.isChain_pair] at verified static connected
  obtain ⟨childVerified, opVerified, -⟩ := verified
  obtain ⟨⟨childStatic, middleStatic⟩, ⟨opStatic, resultStatic⟩, -⟩ := static
  have same : child.resultType = op.operandType := connected
  obtain ⟨childInBounds, childPermuted, childSizes⟩ :=
    (TransposeOp.verified_iff childStatic middleStatic childVerified.1).mp childVerified
  obtain ⟨opInBounds, opPermuted, opSizes⟩ :=
    (TransposeOp.verified_iff opStatic resultStatic opVerified.1).mp opVerified
  have childCount : (axes child.permutation).length = child.operandType.rank := by
    simpa using childPermuted.length_eq
  have ranks : op.operandType.rank = child.operandType.rank := by
    rw [← same, ← RankedTensorType.length_sizes, ← childSizes, MixedRadix.length_reorder, childCount]
  rw [← same, ← childSizes] at opSizes
  rw [ranks] at opInBounds opPermuted
  rw [length_axes] at childCount
  obtain ⟨permutation, merged, mergedAxes, mergedInBounds⟩ :=
    mapM_itemAt_eq childInBounds (by rw [childCount]; exact opInBounds)
  have applied : (Simplification.transposeOfTranspose op child).apply =
      .ok (some (.transpose ⟨child.operandType, permutation, op.resultType⟩)) := by
    rw [Simplification.apply, transposeOpTransposeOfTranspose, getMergedTransposePermutation, merged]
    rfl
  rw [Simplification.correct_of_some applied]
  have inside : ∀ place ∈ axes op.permutation, place < (axes child.permutation).length := by
    intro place listed
    rw [length_axes, childCount]
    exact List.mem_range.mp (opPermuted.mem_iff.mp listed)
  refine ⟨rfl, rfl, ?_, fun α storage operand shape => ?_⟩
  · -- Both permutations together are one, and its sizes are those of the result.
    have elementType : child.operandType.elementType = op.resultType.elementType := by
      rw [childVerified.1, same, opVerified.1]
    refine (@TransposeOp.verified_iff ⟨child.operandType, permutation, op.resultType⟩ childStatic
      resultStatic elementType).mpr ⟨mergedInBounds, ?_, ?_⟩
    · dsimp only
      rw [mergedAxes]
      exact MixedRadix.perm_map_getD childPermuted opPermuted
    · dsimp only
      rw [mergedAxes, ← opSizes]
      exact (map_getD_map inside _ 1).symm
  · replace shape : operand.shape = child.operandType.sizes := shape
    have rank : operand.shape.length = child.operandType.rank := by
      rw [shape, RankedTensorType.length_sizes]
    rw [← rank] at childPermuted opPermuted
    obtain ⟨value, both, once⟩ :=
      Tensor.transposeOp_transposeOp storage childPermuted opPermuted
    rw [shape, opSizes, childSizes] at both
    rw [shape, opSizes] at once
    refine ⟨value, ?_, ?_⟩
    · simpa [Simplification.eval, Simplification.source, ShapeOp.eval, same] using both
    · rw [ShapeOp.eval, mergedAxes]
      exact once

/-- The dimensions of other sizes than one are collected in their order. -/
theorem foldlM_nonZeroPerms {shape permutation : List Int64}
    (inBounds : ∀ dim ∈ permutation, isDimInBounds shape.length dim = true) (start : List Int64) :
    permutation.foldlM (fun nonZeroPerms idx => do
      let dimSize ← itemAt shape idx
      .ok (if dimSize != 1 then nonZeroPerms ++ [idx] else nonZeroPerms)) start =
      (.ok (start ++ permutation.filter fun idx => shape.getD idx.toNatClampNeg 0 != 1) :
        Except Failure (List Int64)) := by
  induction permutation generalizing start with
  | nil => simp [pure, Except.pure]
  | cons idx permutation ih =>
    obtain ⟨here, inBounds⟩ := List.forall_mem_cons.mp inBounds
    rw [List.foldlM_cons, itemAt_eq here, Fallible.ok_bind, Fallible.ok_bind, ih inBounds]
    rw [List.filter_cons]
    cases shape.getD idx.toNatClampNeg 0 != 1 with
    | true =>
      rw [if_pos rfl, if_pos rfl, List.append_assoc]
      rfl
    | false => rw [if_neg (by simp), if_neg (by simp)]

/-- A reshape takes the place of a transpose with the dimensions of other sizes than one in order. -/
theorem transposeIsReshape_correct {op : TransposeOp}
    (accepted : (Simplification.transposeIsReshape op).Accepted) :
    (Simplification.transposeIsReshape op).Correct := by
  obtain ⟨verified, static, -, -⟩ := accepted
  simp only [Simplification.source, List.forall_mem_cons] at verified static
  obtain ⟨verified, -⟩ := verified
  obtain ⟨⟨operandStatic, resultStatic⟩, -⟩ := static
  replace operandStatic : op.operandType.FullyStatic := operandStatic
  replace resultStatic : op.resultType.FullyStatic := resultStatic
  obtain ⟨inBounds, permuted, sizes⟩ :=
    (TransposeOp.verified_iff operandStatic resultStatic verified.1).mp verified
  let several (idx : Int64) : Bool := op.operandType.shape.getD idx.toNatClampNeg 0 != 1
  have collected := foldlM_nonZeroPerms inBounds []
  have unfolded : (Simplification.transposeIsReshape op).apply =
      .ok (if isSorted (op.permutation.filter several) then
        some (.reshape op.operandType op.resultType) else none) := by
    rw [Simplification.apply, Stablehlo.transposeIsReshape, if_neg (by
      simp [operandStatic.static, resultStatic.static]), collected, Fallible.ok_bind,
      List.nil_append]
    split <;> rfl
  cases sorted : isSorted (op.permutation.filter several) with
  | false =>
    apply Simplification.correct_of_none
    rw [unfolded, sorted]
    rfl
  | true =>
    rw [sorted, if_pos rfl] at unfolded
    rw [Simplification.correct_of_some unfolded]
    have rank : op.operandType.sizes.length = op.operandType.rank :=
      RankedTensorType.length_sizes _
    have count : op.operandType.sizes.prod = op.resultType.sizes.prod := by
      rw [← sizes, MixedRadix.prod_reorder (by rw [rank]; exact permuted)]
    refine ⟨rfl, rfl, (reshapeVerified_iff operandStatic resultStatic verified.1).mpr count,
      fun α storage operand shape => ?_⟩
    replace shape : operand.shape = op.operandType.sizes := shape
    -- The axes of the dimensions that were collected are those of other sizes than one.
    have axesFiltered : axes (op.permutation.filter several) =
        (axes op.permutation).filter (op.operandType.sizes.getD · 1 != 1) := by
      rw [axes, axes, List.filter_map]
      congr 1
      refine List.filter_congr fun idx listed => ?_
      have below : idx.toNatClampNeg < op.operandType.shape.length :=
        (toInt_of_isDimInBounds (inBounds idx listed)).2
      have size := operandStatic.getElem_eq below
      have one : (1 : Int64).toInt = 1 := by decide
      rw [Bool.eq_iff_iff]
      simp only [several, Function.comp_apply, bne_iff_ne, ne_eq]
      rw [List.getD_eq_getElem _ _ below, ← Int64.toInt_inj, size, one]
      omega
    have inOrder : (axes op.permutation).filter (op.operandType.sizes.getD · 1 != 1) =
        (List.range op.operandType.rank).filter (op.operandType.sizes.getD · 1 != 1) := by
      refine List.Perm.eq_of_pairwise' ?_ (List.pairwise_le_range.filter _) (permuted.filter _)
      rw [← axesFiltered]
      exact pairwise_axes sorted fun dim listed => inBounds dim (List.mem_of_mem_filter listed)
    rw [← rank, ← shape] at permuted inOrder
    obtain ⟨value, transposed, reshaped⟩ :=
      Tensor.transposeOp_eq_reshapeOp storage permuted inOrder
    rw [shape, sizes] at transposed reshaped
    refine ⟨value, ?_, reshaped⟩
    simpa [Simplification.eval, Simplification.source, ShapeOp.eval] using transposed

/-- The simplifications of broadcasts and transposes make operations that the verifiers accept and
that have the same values, exactly when a broadcast without elements that becomes a transpose
keeps the sizes of its dimensions. -/
theorem simplification_correct_iff {simplification : Simplification}
    (accepted : simplification.Accepted) : simplification.Correct ↔ simplification.KeepsSizes := by
  cases simplification with
  | mergeComposition outer inner => exact iff_of_true (mergeComposition_correct accepted) trivial
  | replaceWithReshape op => exact iff_of_true (replaceWithReshape_correct accepted) trivial
  | replaceWithTranspose op => exact replaceWithTranspose_correct_iff accepted
  | transposeOfTranspose op child =>
    exact iff_of_true (transposeOfTranspose_correct accepted) trivial
  | transposeIsReshape op => exact iff_of_true (transposeIsReshape_correct accepted) trivial

end Correctness

/-- A type of integers of 32 bits. -/
def integersOf (shape : List Int64) : RankedTensorType := ⟨shape, .integer .signless 32, none⟩

/-- A type without negative sizes and without bounds is static. -/
theorem fullyStatic_integersOf {shape : List Int64}
    (nonneg : shape.all (fun dimSize => 0 ≤ dimSize.toInt) = true)
    (rank : shape.length < 2 ^ 63) : (integersOf shape).FullyStatic where
  valid := ⟨fun dimSize listed =>
    .inr (of_decide_eq_true (List.all_eq_true.mp nonneg dimSize listed)), .inl rfl⟩
  static := by
    rw [RankedTensorType.hasStaticShape, List.all_eq_true]
    intro dimSize listed
    have known := of_decide_eq_true (List.all_eq_true.mp nonneg dimSize listed)
    have number : dimSize.toInt = dimSize.toNatClampNeg := by
      rw [Int64.toNatClampNeg]
      omega
    simp [isDynamicDimSize_of_natCast number]
  rank := rank

/-- A broadcast that makes the row of a matrix its column. -/
def turnedRow : BroadcastInDimOp := ⟨integersOf [1, 2], [1, 0], integersOf [2, 1]⟩

/-- A row becomes a column by a transpose. -/
theorem simplification_correct_iff_turned :
    (Simplification.replaceWithTranspose turnedRow).Correct := by
  have operandStatic := @fullyStatic_integersOf [1, 2] (by decide) (by decide)
  have resultStatic := @fullyStatic_integersOf [2, 1] (by decide) (by decide)
  refine (simplification_correct_iff ⟨?_, ?_, ?_, .singleton _⟩).mpr
    fun _ _ empty => absurd empty (by decide)
  · exact List.forall_mem_singleton.mpr ⟨rfl, .inl rfl, by decide⟩
  · exact List.forall_mem_singleton.mpr ⟨operandStatic, resultStatic⟩
  · exact List.forall_mem_singleton.mpr rfl

/-- A broadcast of a matrix without elements along its dimension of size one. -/
def emptyMatrix : BroadcastInDimOp := ⟨integersOf [1, 0], [1, 0], integersOf [0, 5]⟩

/-- A broadcast without elements becomes a transpose that the verifiers do not accept: its type has
five columns, and the inferred one has one. -/
theorem emptyMatrix_not_correct : (Simplification.replaceWithTranspose emptyMatrix).Accepted ∧
    ¬ (Simplification.replaceWithTranspose emptyMatrix).Correct := by
  have operandStatic := @fullyStatic_integersOf [1, 0] (by decide) (by decide)
  have resultStatic := @fullyStatic_integersOf [0, 5] (by decide) (by decide)
  refine ⟨⟨?_, ?_, ?_, .singleton _⟩, ?_⟩
  · exact List.forall_mem_singleton.mpr ⟨rfl, .inl rfl, by decide⟩
  · exact List.forall_mem_singleton.mpr ⟨operandStatic, resultStatic⟩
  · exact List.forall_mem_singleton.mpr rfl
  · rintro ⟨outcome, applied, replaces⟩
    have made : (Simplification.replaceWithTranspose emptyMatrix).apply =
        .ok (some (.transpose ⟨integersOf [1, 0], [1, 0], integersOf [0, 5]⟩)) := rfl
    rw [made, Except.ok.injEq] at applied
    obtain ⟨-, -, ⟨-, inferred, computed, compatible⟩, -⟩ := replaces _ applied.symm
    have type : inferTransposeOp (integersOf [1, 0]) [1, 0] = .ok (integersOf [0, 1]) := rfl
    rw [type, Except.ok.injEq] at computed
    subst computed
    exact absurd compatible (by decide)

end Stablehlo
