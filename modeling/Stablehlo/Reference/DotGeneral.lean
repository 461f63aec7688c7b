import Stablehlo.Reference.Arithmetic
import Stablehlo.Reference.DotShapes
import Stablehlo.Reference.IndexSpace

/-! General products: sums over the contracting dimensions of two tensors. -/

namespace Stablehlo

section Operation

variable [TypePrinter] [FloatArithmetic]

/-- Copy coordinates of the result index, from a dimension of the result on, to the axes. -/
def assignCoordinates (resultIndex : Index) : Nat → List Nat → Index → Except Failure Index
  | _, [], index => .ok index
  | resultDim, axis :: axes, index =>
    match resultIndex[resultDim]? with
    | none => .error .undefinedBehavior
    | some coordinate =>
      if axis < index.length then
        assignCoordinates resultIndex (resultDim + 1) axes (index.set axis coordinate)
      else
        .error .undefinedBehavior

/-- Increment the contracting coordinates of both indices, given their axes from the last on. -/
def incrementIndices (lhsShape : Sizes) :
    List (Nat × Nat) → Index → Index → Except Failure (Option (Index × Index))
  | [], _, _ => .ok none
  | (lhsDim, rhsDim) :: dims, lhsIndex, rhsIndex =>
    match lhsShape[lhsDim]?, lhsIndex[lhsDim]?, rhsIndex[rhsDim]? with
    | some size, some lhsCoordinate, some rhsCoordinate =>
      if lhsCoordinate + 1 < size then
        .ok (some (lhsIndex.set lhsDim (lhsCoordinate + 1),
          rhsIndex.set rhsDim (rhsCoordinate + 1)))
      else
        -- The coordinates start over, and those before them go up.
        incrementIndices lhsShape dims (lhsIndex.set lhsDim 0) (rhsIndex.set rhsDim 0)
    | _, _, _ => .error .undefinedBehavior

/-- Add the product of two elements, in the type of the result. -/
def addProduct (type : StablehloType) (lhs rhs : Tensor Element) (lhsIndex rhsIndex : Index)
    (resultElement : Element) : Except Failure Element := do
  let lhsElement ← lhs.get lhsIndex >>= convert type
  let rhsElement ← rhs.get rhsIndex >>= convert type
  let product ← lhsElement.multiply rhsElement
  resultElement.add product

/-- Add the products at both indices and at those after them, in at most as many turns. -/
def dotProduct (type : StablehloType) (lhs rhs : Tensor Element) (dims : List (Nat × Nat)) :
    Nat → Index → Index → Element → Except Failure Element
  | 0, _, _, _ => .error .undefinedBehavior
  | turns + 1, lhsIndex, rhsIndex, resultElement => do
    let resultElement ← addProduct type lhs rhs lhsIndex rhsIndex resultElement
    match ← incrementIndices lhs.shape dims lhsIndex rhsIndex with
    | none => .ok resultElement
    | some (lhsIndex, rhsIndex) =>
      dotProduct type lhs rhs dims turns lhsIndex rhsIndex resultElement

/-- The element of a general product at an index. -/
def dotGeneralElement (turns : Nat) (lhs rhs : Tensor Element)
    (lhsBatchingDimensions rhsBatchingDimensions lhsContractingDimensions
      rhsContractingDimensions : List Nat) (type : StablehloType) (resultIndex : Index) :
    Except Failure Element :=
  let lhsResultDims :=
    AxisMap.rest (lhsBatchingDimensions ++ lhsContractingDimensions) lhs.shape.length
  let rhsResultDims :=
    AxisMap.rest (rhsBatchingDimensions ++ rhsContractingDimensions) rhs.shape.length
  -- The dimensions of the right-hand side are looked up at the places of those of the other.
  if rhsBatchingDimensions.length < lhsBatchingDimensions.length ∨
      rhsContractingDimensions.length < lhsContractingDimensions.length then
    .error .undefinedBehavior
  else do
    let lhsIndex ← assignCoordinates resultIndex 0 lhsBatchingDimensions
      (List.replicate lhs.shape.length 0)
    let rhsIndex ← assignCoordinates resultIndex 0
      (rhsBatchingDimensions.take lhsBatchingDimensions.length) (List.replicate rhs.shape.length 0)
    let lhsIndex ← assignCoordinates resultIndex lhsBatchingDimensions.length lhsResultDims lhsIndex
    let rhsIndex ← assignCoordinates resultIndex
      (lhsBatchingDimensions.length + lhsResultDims.length) rhsResultDims rhsIndex
    let zero ← getZeroValueOfType type
    dotProduct type lhs rhs (lhsContractingDimensions.zip rhsContractingDimensions).reverse turns
      lhsIndex rhsIndex zero

/-- The general product of two tensors. -/
def dotGeneralOp (turns : Nat) (lhs rhs : Tensor Element)
    (lhsBatchingDimensions rhsBatchingDimensions lhsContractingDimensions
      rhsContractingDimensions : List Nat) (resultType : ShapedType) :
    Except Failure (Tensor Element) :=
  Tensor.build resultType.shape (dotGeneralElement turns lhs rhs lhsBatchingDimensions
    rhsBatchingDimensions lhsContractingDimensions rhsContractingDimensions resultType.elementType)

end Operation

section Specification

/-- The integer at an index of a tensor, or zero where there is none. -/
def Tensor.integerAt (tensor : Tensor Element) (index : Index) : Int :=
  match tensor.get index with
  | .ok element => element.integer
  | .error _ => 0

/-- The index of an operand with the given coordinates along its batching and its contracting
dimensions, and along the others. -/
def dotIndex (rank : Nat) (batchingDims contractingDims : List Nat)
    (batching free contracting : Index) : Index :=
  let axes := batchingDims ++ AxisMap.rest (batchingDims ++ contractingDims) rank ++ contractingDims
  (List.range rank).map (AxisMap.placed axes (batching ++ free ++ contracting) 0)

/-- The sum of the products over the contracting index space, for an index of the result. -/
def dotSum (lhs rhs : Tensor Element)
    (lhsBatchingDims rhsBatchingDims lhsContractingDims rhsContractingDims : List Nat)
    (resultIndex : Index) : Int :=
  let numFree := (AxisMap.rest (lhsBatchingDims ++ lhsContractingDims) lhs.shape.length).length
  let batching := resultIndex.take lhsBatchingDims.length
  let lhsFree := (resultIndex.drop lhsBatchingDims.length).take numFree
  let rhsFree := resultIndex.drop (lhsBatchingDims.length + numFree)
  ((indexSpace (lhsContractingDims.map (sizeAt lhs.shape))).map fun contracting =>
    lhs.integerAt (dotIndex lhs.shape.length lhsBatchingDims lhsContractingDims batching lhsFree
        contracting) *
      rhs.integerAt (dotIndex rhs.shape.length rhsBatchingDims rhsContractingDims batching rhsFree
        contracting)).sum

/-- A general product is computed, in as many turns as there are contracting indices, and each of
its elements is the sum of the products up to a multiple of the modulus. -/
def DotMeetsSpec [TypePrinter] [FloatArithmetic] (lhs rhs : Tensor Element)
    (lhsBatchingDims rhsBatchingDims lhsContractingDims rhsContractingDims : List Nat)
    (signedness : Signedness) (width : Nat) (resultShape : Sizes) : Prop :=
  ∃ result : Tensor Element,
    (∀ turns, (lhsContractingDims.map (sizeAt lhs.shape)).prod ≤ turns →
      dotGeneralOp turns lhs rhs lhsBatchingDims rhsBatchingDims lhsContractingDims
        rhsContractingDims ⟨resultShape, .integer signedness width⟩ = .ok result) ∧
    result.shape = resultShape ∧
    ∀ index, MixedRadix.Within resultShape index → ∃ element, result.get index = .ok element ∧
      element.type = .integer signedness width ∧
      element.integer ≡ dotSum lhs rhs lhsBatchingDims rhsBatchingDims lhsContractingDims
        rhsContractingDims index [ZMOD 2 ^ width]

end Specification

section Indices

/-- Coordinates are copied when there is one for each axis. -/
theorem assignCoordinates_eq {resultIndex index : Index} {axes : List Nat} {resultDim : Nat}
    (inside : ∀ axis ∈ axes, axis < index.length)
    (enough : resultDim + axes.length ≤ resultIndex.length) :
    assignCoordinates resultIndex resultDim axes index =
      .ok (AxisMap.assign index axes ((resultIndex.drop resultDim).take axes.length)) := by
  -- Each turn copies one coordinate, and leaves the others to the rest of the loop.
  induction axes generalizing resultDim index with
  | nil =>
    rw [assignCoordinates]
    cases (resultIndex.drop resultDim).take 0 <;> rfl
  | cons axis axes ih =>
    rw [List.length_cons] at enough
    rw [List.forall_mem_cons] at inside
    have below : resultDim < resultIndex.length := by omega
    have rest := @ih (index.set axis resultIndex[resultDim]) (resultDim + 1)
      (fun other listed => by rw [List.length_set]; exact inside.2 other listed) (by omega)
    rw [assignCoordinates, List.getElem?_eq_getElem below]
    dsimp only
    rw [if_pos inside.1, rest, List.drop_eq_getElem_cons below, List.length_cons,
      List.take_succ_cons, AxisMap.assign]

/-- Both indices move to the next ones of the contracting index space, or are at its end. -/
theorem incrementIndices_eq {lhsShape : Sizes} {dims : List (Nat × Nat)} {lhsIndex rhsIndex : Index}
    {contracting : Index} (same : contracting.length = dims.length)
    (lhsUnique : (dims.map Prod.fst).Nodup) (rhsUnique : (dims.map Prod.snd).Nodup)
    (lhsRank : lhsIndex.length = lhsShape.length)
    (lhsInside : ∀ dim ∈ dims, dim.1 < lhsShape.length)
    (rhsInside : ∀ dim ∈ dims, dim.2 < rhsIndex.length) :
    incrementIndices lhsShape dims.reverse (AxisMap.assign lhsIndex (dims.map Prod.fst) contracting)
        (AxisMap.assign rhsIndex (dims.map Prod.snd) contracting) =
      .ok ((successor (dims.map fun dim => sizeAt lhsShape dim.1) contracting).map fun next =>
        (AxisMap.assign lhsIndex (dims.map Prod.fst) next,
          AxisMap.assign rhsIndex (dims.map Prod.snd) next)) := by
  -- The loop starts with the last dimension, and goes on with those before it.
  induction dims using List.reverseRecOn generalizing lhsIndex rhsIndex contracting with
  | nil =>
    rw [List.length_nil, List.length_eq_zero_iff] at same
    rw [same]
    rfl
  | append_singleton dims dim ih =>
    obtain ⟨lhsDim, rhsDim⟩ := dim
    rw [List.length_append, List.length_singleton] at same
    -- The coordinates of the other dimensions come before the last one.
    obtain ⟨before, coordinate, rfl⟩ : ∃ before coordinate,
        contracting = before ++ [coordinate] := by
      refine ⟨contracting.dropLast, contracting.getLast ?_, (List.dropLast_append_getLast _).symm⟩
      rintro rfl
      cases same
    rw [List.length_append, List.length_singleton, Nat.add_right_cancel_iff] at same
    simp only [List.map_append, List.map_cons, List.map_nil] at lhsUnique rhsUnique ⊢
    have lhsFresh : lhsDim ∉ dims.map Prod.fst := fun listed =>
      (List.nodup_append.mp lhsUnique).2.2 lhsDim listed lhsDim (by simp) rfl
    have rhsFresh : rhsDim ∉ dims.map Prod.snd := fun listed =>
      (List.nodup_append.mp rhsUnique).2.2 rhsDim listed rhsDim (by simp) rfl
    have lhsBelow : lhsDim < lhsShape.length := lhsInside (lhsDim, rhsDim) (by simp)
    have rhsBelow : rhsDim < rhsIndex.length := rhsInside (lhsDim, rhsDim) (by simp)
    have lhsLength : before.length = (dims.map Prod.fst).length := by rw [same, List.length_map]
    have rhsLength : before.length = (dims.map Prod.snd).length := by rw [same, List.length_map]
    have size : lhsShape[lhsDim]? = some (sizeAt lhsShape lhsDim) := by
      rw [sizeAt, List.getD_eq_getElem?_getD, List.getElem?_eq_getElem lhsBelow, Option.getD_some]
    rw [AxisMap.assign_snoc lhsLength, AxisMap.assign_snoc rhsLength, List.reverse_append,
      List.reverse_singleton, List.singleton_append, incrementIndices, size,
      List.getElem?_set_self (by rw [AxisMap.length_assign, lhsRank]; exact lhsBelow),
      List.getElem?_set_self (by rw [AxisMap.length_assign]; exact rhsBelow)]
    dsimp only
    rw [successor_snoc (by rw [same, List.length_map]), List.set_set, List.set_set, List.set_set,
      List.set_set]
    by_cases more : coordinate + 1 < sizeAt lhsShape lhsDim
    · rw [if_pos more, if_pos more, Option.map_some, AxisMap.assign_snoc lhsLength,
        AxisMap.assign_snoc rhsLength]
    · -- The last coordinates are zero before the others are incremented.
      rw [if_neg more, if_neg more, ← AxisMap.assign_set lhsFresh, ← AxisMap.assign_set rhsFresh,
        ih same (List.nodup_append.mp lhsUnique).1 (List.nodup_append.mp rhsUnique).1
          (by rw [List.length_set, lhsRank])
          (fun other listed => lhsInside other (by simp [listed]))
          (fun other listed => by
            rw [List.length_set]
            exact rhsInside other (by simp [listed]))]
      congr 1
      rw [Option.map_map]
      cases next : successor (dims.map fun dim => sizeAt lhsShape dim.1) before with
      | none => rfl
      | some first =>
        have long := length_successor (by rw [same, List.length_map]) next
        rw [List.length_map] at long
        simp only [Option.map_some, Function.comp_apply]
        rw [AxisMap.assign_snoc (by rw [long, List.length_map]),
          AxisMap.assign_snoc (by rw [long, List.length_map]), AxisMap.assign_set lhsFresh,
          AxisMap.assign_set rhsFresh]

end Indices

section Sums

/-- All elements are integers. -/
def HoldsIntegers (tensor : Tensor Element) : Prop :=
  ∀ element ∈ tensor.data, isSupportedIntegerType element.type = true

/-- Tensors of an integer type hold integers. -/
theorem holdsIntegers_of_typed {tensor : TypedTensor}
    (integers : isSupportedIntegerType tensor.elementType = true) :
    HoldsIntegers tensor.elements := fun element listed => by
  rw [tensor.typed element listed]
  exact integers

variable [TypePrinter] [FloatArithmetic] {signedness : Signedness} {width : Nat}
variable (supported : isSupportedIntegerType (.integer signedness width) = true)

/-- An integer is read in the type of the result. -/
theorem get_convert {tensor : Tensor Element} (integers : HoldsIntegers tensor) {index : Index}
    (within : MixedRadix.Within tensor.shape index) :
    (tensor.get index >>= convert (.integer signedness width)) =
      .ok (.ofBitVec supported (BitVec.ofInt width (tensor.integerAt index))) := by
  obtain ⟨element, got, stored⟩ := Tensor.get_eq within
  rw [Tensor.integerAt, got, Fallible.ok_bind]
  exact convert_ofBitVec supported (integers element (List.mem_of_getElem? stored))

/-- The bits of a product of integers are added. -/
theorem addProduct_eq {lhs rhs : Tensor Element} (lhsIntegers : HoldsIntegers lhs)
    (rhsIntegers : HoldsIntegers rhs) {lhsIndex rhsIndex : Index}
    (lhsWithin : MixedRadix.Within lhs.shape lhsIndex)
    (rhsWithin : MixedRadix.Within rhs.shape rhsIndex) (bits : BitVec width) :
    addProduct (.integer signedness width) lhs rhs lhsIndex rhsIndex (.ofBitVec supported bits) =
      .ok (.ofBitVec supported
        (bits + BitVec.ofInt width (lhs.integerAt lhsIndex * rhs.integerAt rhsIndex))) := by
  rw [addProduct, get_convert supported lhsIntegers lhsWithin, Fallible.ok_bind,
    get_convert supported rhsIntegers rhsWithin, Fallible.ok_bind, Element.multiply_ofBitVec,
    Fallible.ok_bind, Element.add_ofBitVec, BitVec.ofInt_mul]

/-- From some place of the contracting index space on, the products are added up. -/
theorem dotProduct_eq {lhs rhs : Tensor Element} (lhsIntegers : HoldsIntegers lhs)
    (rhsIntegers : HoldsIntegers rhs) {dims : List (Nat × Nat)} {lhsIndex rhsIndex : Index}
    (lhsUnique : (dims.map Prod.fst).Nodup) (rhsUnique : (dims.map Prod.snd).Nodup)
    (lhsRank : lhsIndex.length = lhs.shape.length)
    (lhsInside : ∀ dim ∈ dims, dim.1 < lhs.shape.length)
    (rhsInside : ∀ dim ∈ dims, dim.2 < rhsIndex.length) {sizes : Sizes}
    (known : sizes = dims.map fun dim => sizeAt lhs.shape dim.1)
    (lhsWithin : ∀ contracting, MixedRadix.Within sizes contracting →
      MixedRadix.Within lhs.shape (AxisMap.assign lhsIndex (dims.map Prod.fst) contracting))
    (rhsWithin : ∀ contracting, MixedRadix.Within sizes contracting →
      MixedRadix.Within rhs.shape (AxisMap.assign rhsIndex (dims.map Prod.snd) contracting))
    {turns number : Nat} (below : number < sizes.prod) (enough : sizes.prod ≤ number + turns)
    (bits : BitVec width) :
    dotProduct (.integer signedness width) lhs rhs dims.reverse turns
        (AxisMap.assign lhsIndex (dims.map Prod.fst) (MixedRadix.decode sizes number))
        (AxisMap.assign rhsIndex (dims.map Prod.snd) (MixedRadix.decode sizes number))
        (.ofBitVec supported bits) =
      .ok (.ofBitVec supported (bits + BitVec.ofInt width
        (((indexSpace sizes).drop number).map fun contracting =>
          lhs.integerAt (AxisMap.assign lhsIndex (dims.map Prod.fst) contracting) *
            rhs.integerAt (AxisMap.assign rhsIndex (dims.map Prod.snd) contracting)).sum)) := by
  -- Each turn adds one product, and leaves those behind it to the other turns.
  induction turns generalizing number bits with
  | zero => omega
  | succ turns ih =>
    have within := MixedRadix.decode_within below
    have length : (MixedRadix.decode sizes number).length = dims.length := by
      rw [within.length_eq, known, List.length_map]
    rw [dotProduct, addProduct_eq supported lhsIntegers rhsIntegers (lhsWithin _ within)
        (rhsWithin _ within), Fallible.ok_bind,
      incrementIndices_eq length lhsUnique rhsUnique lhsRank lhsInside rhsInside, Fallible.ok_bind,
      ← known, successor_decode below, indexSpace_drop below, List.map_cons, List.sum_cons,
      BitVec.ofInt_add, ← BitVec.add_assoc]
    by_cases more : number + 1 < sizes.prod
    · rw [if_pos more]
      exact ih more (by omega) _
    · -- The space behind the last index is empty.
      have last : (indexSpace sizes).drop (number + 1) = [] := by
        apply List.drop_eq_nil_of_le
        rw [indexSpace, MixedRadix.length_all]
        omega
      rw [if_neg more, last]
      simp

end Sums

section Operand

variable {shape : Sizes} {batchingDims contractingDims : List Nat}
variable {batching free contracting : Index}

/-- The axes of an operand in the order in which their coordinates are given. -/
theorem nodup_dotAxes (unique : (batchingDims ++ contractingDims).Nodup) (rank : Nat) :
    (batchingDims ++ AxisMap.rest (batchingDims ++ contractingDims) rank ++
      contractingDims).Nodup := by
  have remaining : ∀ axis ∈ AxisMap.rest (batchingDims ++ contractingDims) rank,
      axis ∉ batchingDims ++ contractingDims := fun axis listed => (AxisMap.mem_rest.mp listed).2
  obtain ⟨batchUnique, contractUnique, apart⟩ := List.nodup_append.mp unique
  -- The remaining axes are neither batched nor contracted.
  refine List.nodup_append.mpr ⟨List.nodup_append.mpr ⟨batchUnique, AxisMap.nodup_rest _ _, ?_⟩,
    contractUnique, ?_⟩
  · rintro axis listed other rest rfl
    exact remaining axis rest (List.mem_append_left _ listed)
  · rintro axis listed other contract rfl
    rcases List.mem_append.mp listed with batch | rest
    · exact apart axis batch axis contract rfl
    · exact remaining axis rest (List.mem_append_right _ contract)

/-- The index of an operand before its contracting coordinates are set. -/
def dotStart (rank : Nat) (batchingDims contractingDims : List Nat) (batching free : Index) :
    Index :=
  AxisMap.assign (AxisMap.assign (List.replicate rank 0) batchingDims batching)
    (AxisMap.rest (batchingDims ++ contractingDims) rank) free

/-- Setting the contracting coordinates completes the index. -/
theorem assign_dotStart (unique : (batchingDims ++ contractingDims).Nodup) {rank : Nat}
    (batchCount : batching.length = batchingDims.length)
    (freeCount : free.length = (AxisMap.rest (batchingDims ++ contractingDims) rank).length)
    (count : contracting.length = contractingDims.length) :
    AxisMap.assign (dotStart rank batchingDims contractingDims batching free) contractingDims
      contracting = dotIndex rank batchingDims contractingDims batching free contracting := by
  -- All coordinates are set one after the other.
  rw [dotStart, ← AxisMap.assign_append batchCount, ← AxisMap.assign_append, dotIndex,
    AxisMap.assign_replicate (nodup_dotAxes unique rank)]
  · simp only [List.length_append, batchCount, freeCount, count]
  · simp only [List.length_append, batchCount, freeCount]

/-- The contracting coordinates are zeros at first. -/
theorem assign_dotStart_zero (unique : (batchingDims ++ contractingDims).Nodup) {rank : Nat}
    (below : ∀ axis ∈ contractingDims, axis < rank) :
    AxisMap.assign (dotStart rank batchingDims contractingDims batching free) contractingDims
        (List.replicate contractingDims.length 0) =
      dotStart rank batchingDims contractingDims batching free := by
  refine AxisMap.assign_of_own fun axis listed => ?_
  -- The axis is neither batched, nor does it remain.
  have batchOther : axis ∉ batchingDims := fun batched =>
    (List.nodup_append.mp unique).2.2 axis batched axis listed rfl
  have restOther : axis ∉ AxisMap.rest (batchingDims ++ contractingDims) rank := fun rest =>
    (AxisMap.mem_rest.mp rest).2 (List.mem_append_right _ listed)
  rw [dotStart, AxisMap.getElem?_assign_of_notMem restOther,
    AxisMap.getElem?_assign_of_notMem batchOther, List.getElem?_replicate,
    if_pos (below axis listed)]

/-- Coordinates that are placed on all axes make an index in bounds. -/
theorem within_placed {axes : List Nat} {values : Index}
    (complete : ∀ axis < shape.length, axis ∈ axes)
    (within : MixedRadix.Within (axes.map (sizeAt shape)) values) :
    MixedRadix.Within shape ((List.range shape.length).map (AxisMap.placed axes values 0)) := by
  refine List.forall₂_iff_get.mpr ⟨by simp, fun axis _ below => ?_⟩
  obtain ⟨place, found, stored⟩ := AxisMap.exists_place (complete axis below)
  have size : (axes.map (sizeAt shape))[place]? = some (sizeAt shape axis) := by
    rw [List.getElem?_map, stored, Option.map_some]
  obtain ⟨digit, given, small⟩ := MixedRadix.exists_digit within size
  -- The coordinate is the one at the place of the axis.
  rw [sizeAt, List.getD_eq_getElem?_getD, List.getElem?_eq_getElem below, Option.getD_some] at small
  simp only [List.get_eq_getElem, List.getElem_map, List.getElem_range, AxisMap.placed, found,
    List.getD_eq_getElem?_getD, given, Option.getD_some]
  exact small

/-- The index of an operand is in bounds when its coordinates are. -/
theorem within_dotIndex
    (batchWithin : MixedRadix.Within (batchingDims.map (sizeAt shape)) batching)
    (freeWithin : MixedRadix.Within
      ((AxisMap.rest (batchingDims ++ contractingDims) shape.length).map (sizeAt shape)) free)
    (within : MixedRadix.Within (contractingDims.map (sizeAt shape)) contracting) :
    MixedRadix.Within shape
      (dotIndex shape.length batchingDims contractingDims batching free contracting) := by
  refine within_placed (fun axis below => ?_) ?_
  · -- An axis that is not listed remains.
    rw [List.mem_append, List.mem_append, AxisMap.mem_rest, List.mem_append]
    tauto
  · rw [List.map_append, List.map_append]
    exact List.rel_append (List.rel_append batchWithin freeWithin) within

/-- The coordinates of the result that an operand shares are copied to its axes. -/
theorem assignCoordinates_dotStart {resultIndex : Index} {rank resultDim : Nat}
    (below : ∀ axis ∈ batchingDims, axis < rank)
    (batchFits : batchingDims.length ≤ resultIndex.length)
    (freeFits : resultDim + (AxisMap.rest (batchingDims ++ contractingDims) rank).length ≤
      resultIndex.length) :
    ∃ batched, assignCoordinates resultIndex 0 batchingDims (List.replicate rank 0) = .ok batched ∧
      assignCoordinates resultIndex resultDim (AxisMap.rest (batchingDims ++ contractingDims) rank)
          batched =
        .ok (dotStart rank batchingDims contractingDims (resultIndex.take batchingDims.length)
          ((resultIndex.drop resultDim).take
            (AxisMap.rest (batchingDims ++ contractingDims) rank).length)) := by
  refine ⟨_, assignCoordinates_eq (fun axis listed => ?_) (by omega),
    assignCoordinates_eq (fun axis listed => ?_) freeFits⟩
  · rw [List.length_replicate]
    exact below axis listed
  · rw [AxisMap.length_assign, List.length_replicate]
    exact (AxisMap.mem_rest.mp listed).1

/-- The coordinates of the result are those of the batching dimensions, then those that remain of
either operand. -/
theorem within_dotShape {lhs rhs : Sizes}
    {lhsBatching rhsBatching lhsContracting rhsContracting : List Nat} {index : Index}
    (within : MixedRadix.Within
      (dotShape lhs rhs lhsBatching rhsBatching lhsContracting rhsContracting) index) :
    MixedRadix.Within (lhsBatching.map (sizeAt lhs)) (index.take lhsBatching.length) ∧
      MixedRadix.Within ((AxisMap.rest (lhsBatching ++ lhsContracting) lhs.length).map (sizeAt lhs))
        ((index.drop lhsBatching.length).take
          (AxisMap.rest (lhsBatching ++ lhsContracting) lhs.length).length) ∧
      MixedRadix.Within ((AxisMap.rest (rhsBatching ++ rhsContracting) rhs.length).map (sizeAt rhs))
        (index.drop (lhsBatching.length +
          (AxisMap.rest (lhsBatching ++ lhsContracting) lhs.length).length)) := by
  have both := List.forall₂_take_append _ _ _ within
  have behind := List.forall₂_drop_append _ _ _ within
  have first := List.forall₂_take_append _ _ _ both
  have second := List.forall₂_drop_append _ _ _ both
  simp only [List.length_append, List.length_map] at both behind first second
  rw [List.take_take, Nat.min_eq_left (Nat.le_add_right _ _)] at first
  rw [List.drop_take, Nat.add_sub_cancel_left] at second
  exact ⟨first, second, behind⟩

end Operand

section Product

variable [TypePrinter] [FloatArithmetic] {signedness : Signedness} {width : Nat}
variable {lhs rhs : Tensor Element}
variable {lhsBatching rhsBatching lhsContracting rhsContracting : List Nat}

/-- From the start of both indices, the loop adds up the products over the contracting index
space. -/
theorem dotProduct_dotStart
    (supported : isSupportedIntegerType (.integer signedness width) = true)
    (lhsIntegers : HoldsIntegers lhs) (rhsIntegers : HoldsIntegers rhs)
    (axes : DotAxes lhs.shape rhs.shape lhsBatching rhsBatching lhsContracting rhsContracting)
    {turns : Nat} (enough : (lhsContracting.map (sizeAt lhs.shape)).prod ≤ turns)
    (nonempty : 0 ∉ lhsContracting.map (sizeAt lhs.shape)) {batching lhsFree rhsFree : Index}
    (batchWithin : MixedRadix.Within (lhsBatching.map (sizeAt lhs.shape)) batching)
    (lhsWithin : MixedRadix.Within
      ((AxisMap.rest (lhsBatching ++ lhsContracting) lhs.shape.length).map (sizeAt lhs.shape))
      lhsFree)
    (rhsWithin : MixedRadix.Within
      ((AxisMap.rest (rhsBatching ++ rhsContracting) rhs.shape.length).map (sizeAt rhs.shape))
      rhsFree) :
    dotProduct (.integer signedness width) lhs rhs (lhsContracting.zip rhsContracting).reverse
        turns (dotStart lhs.shape.length lhsBatching lhsContracting batching lhsFree)
        (dotStart rhs.shape.length rhsBatching rhsContracting batching rhsFree)
        (.ofBitVec supported 0) =
      .ok (.ofBitVec supported (BitVec.ofInt width
        ((indexSpace (lhsContracting.map (sizeAt lhs.shape))).map fun contracting =>
          lhs.integerAt
              (dotIndex lhs.shape.length lhsBatching lhsContracting batching lhsFree contracting) *
            rhs.integerAt (dotIndex rhs.shape.length rhsBatching rhsContracting batching rhsFree
              contracting)).sum)) := by
  have count : lhsContracting.length = rhsContracting.length := by
    simpa using congrArg List.length axes.contracting
  have batchCount : lhsBatching.length = rhsBatching.length := by
    simpa using congrArg List.length axes.batching
  -- The loop runs over the contracting dimensions of both operands.
  have lhsDims : (lhsContracting.zip rhsContracting).map Prod.fst = lhsContracting :=
    List.map_fst_zip (by omega)
  have rhsDims : (lhsContracting.zip rhsContracting).map Prod.snd = rhsContracting :=
    List.map_snd_zip (by omega)
  have sizes : lhsContracting.map (sizeAt lhs.shape) =
      (lhsContracting.zip rhsContracting).map fun dim => sizeAt lhs.shape dim.1 := by
    conv_lhs => rw [← lhsDims, List.map_map]
    rfl
  have positive : 0 < (lhsContracting.map (sizeAt lhs.shape)).prod :=
    Nat.pos_of_ne_zero fun zero => nonempty (List.prod_eq_zero_iff.mp zero)
  have batchLong := batchWithin.length_eq
  have lhsLong := lhsWithin.length_eq
  have rhsLong := rhsWithin.length_eq
  rw [List.length_map] at batchLong lhsLong rhsLong
  -- At a contracting index, both indices are in bounds.
  have lhsIndex (contracting : Index) (inside : MixedRadix.Within
      (lhsContracting.map (sizeAt lhs.shape)) contracting) :=
    assign_dotStart axes.lhsUnique batchLong lhsLong (inside.length_eq.trans (List.length_map _))
  have rhsIndex (contracting : Index) (inside : MixedRadix.Within
      (lhsContracting.map (sizeAt lhs.shape)) contracting) :=
    assign_dotStart axes.rhsUnique (batchLong.trans batchCount) rhsLong
      (inside.length_eq.trans ((List.length_map _).trans count))
  have loop := @dotProduct_eq _ _ signedness width supported lhs rhs lhsIntegers rhsIntegers
    (lhsContracting.zip rhsContracting)
    (dotStart lhs.shape.length lhsBatching lhsContracting batching lhsFree)
    (dotStart rhs.shape.length rhsBatching rhsContracting batching rhsFree)
    (by rw [lhsDims]; exact (List.nodup_append.mp axes.lhsUnique).2.1)
    (by rw [rhsDims]; exact (List.nodup_append.mp axes.rhsUnique).2.1)
    (by simp [dotStart])
    (fun dim listed => axes.lhsBelow _ (List.mem_append_right _ (List.of_mem_zip listed).1))
    (fun dim listed => by
      simpa [dotStart] using axes.rhsBelow _ (List.mem_append_right _ (List.of_mem_zip listed).2))
    (lhsContracting.map (sizeAt lhs.shape)) sizes
    (fun contracting inside => by
      rw [lhsDims, lhsIndex contracting inside]
      exact within_dotIndex batchWithin lhsWithin inside)
    (fun contracting inside => by
      rw [rhsDims, rhsIndex contracting inside]
      exact within_dotIndex (axes.batching ▸ batchWithin) rhsWithin (axes.contracting ▸ inside))
    turns 0 positive (by omega) 0
  -- The first contracting index consists of zeros.
  rw [lhsDims, rhsDims, decode_zero, List.length_map, assign_dotStart_zero axes.lhsUnique
      fun axis listed => axes.lhsBelow axis (List.mem_append_right _ listed), count,
    assign_dotStart_zero axes.rhsUnique fun axis listed =>
      axes.rhsBelow axis (List.mem_append_right _ listed), List.drop_zero, zero_add] at loop
  rw [loop]
  congr 4
  refine List.map_congr_left fun contracting listed => ?_
  have inside := MixedRadix.mem_all.mp listed
  rw [lhsIndex contracting inside, rhsIndex contracting inside]

/-- An element of a general product is the sum over the contracting index space. -/
theorem dotGeneralElement_eq
    (supported : isSupportedIntegerType (.integer signedness width) = true)
    (lhsIntegers : HoldsIntegers lhs) (rhsIntegers : HoldsIntegers rhs)
    (axes : DotAxes lhs.shape rhs.shape lhsBatching rhsBatching lhsContracting rhsContracting)
    {turns : Nat} (enough : (lhsContracting.map (sizeAt lhs.shape)).prod ≤ turns)
    (nonempty : 0 ∉ lhsContracting.map (sizeAt lhs.shape)) {index : Index}
    (within : MixedRadix.Within
      (dotShape lhs.shape rhs.shape lhsBatching rhsBatching lhsContracting rhsContracting) index) :
    dotGeneralElement turns lhs rhs lhsBatching rhsBatching lhsContracting rhsContracting
        (.integer signedness width) index =
      .ok (.ofBitVec supported (BitVec.ofInt width
        (dotSum lhs rhs lhsBatching rhsBatching lhsContracting rhsContracting index))) := by
  have batchCount : lhsBatching.length = rhsBatching.length := by
    simpa using congrArg List.length axes.batching
  have count : lhsContracting.length = rhsContracting.length := by
    simpa using congrArg List.length axes.contracting
  obtain ⟨batchWithin, lhsWithin, rhsWithin⟩ := within_dotShape within
  have length : index.length = lhsBatching.length +
      (AxisMap.rest (lhsBatching ++ lhsContracting) lhs.shape.length).length +
      (AxisMap.rest (rhsBatching ++ rhsContracting) rhs.shape.length).length := by
    rw [within.length_eq, dotShape]
    simp only [List.length_append, List.length_map]
  have rhsLong := rhsWithin.length_eq
  rw [List.length_map] at rhsLong
  -- Both indices start at the coordinates of the result.
  obtain ⟨lhsBatched, lhsFirst, lhsSecond⟩ := @assignCoordinates_dotStart lhsBatching lhsContracting
    index lhs.shape.length lhsBatching.length
    (fun axis listed => axes.lhsBelow axis (List.mem_append_left _ listed)) (by omega) (by omega)
  obtain ⟨rhsBatched, rhsFirst, rhsSecond⟩ := @assignCoordinates_dotStart rhsBatching rhsContracting
    index rhs.shape.length (lhsBatching.length +
      (AxisMap.rest (lhsBatching ++ lhsContracting) lhs.shape.length).length)
    (fun axis listed => axes.rhsBelow axis (List.mem_append_left _ listed)) (by omega) (by omega)
  rw [← batchCount, List.take_of_length_le (Nat.le_of_eq rhsLong)] at rhsSecond
  have whole : rhsBatching.take lhsBatching.length = rhsBatching :=
    List.take_of_length_le (by omega)
  unfold dotGeneralElement
  dsimp only
  rw [if_neg (by omega), lhsFirst, Fallible.ok_bind, whole, rhsFirst, Fallible.ok_bind, lhsSecond,
    Fallible.ok_bind, rhsSecond, Fallible.ok_bind, getZeroValueOfType_ofBitVec supported,
    Fallible.ok_bind]
  exact dotProduct_dotStart supported lhsIntegers rhsIntegers axes enough nonempty batchWithin
    lhsWithin rhsWithin

/-- Without contracting indices, the loop reads an element that does not exist. -/
theorem dotGeneralElement_error {type : StablehloType} {turns : Nat}
    (empty : lhs.shape.prod = 0) {index : Index} {element : Element} :
    dotGeneralElement turns lhs rhs lhsBatching rhsBatching lhsContracting rhsContracting type
      index ≠ .ok element := by
  intro computed
  unfold dotGeneralElement at computed
  dsimp only at computed
  split at computed
  · cases computed
  · obtain ⟨lhsIndex, -, computed⟩ := Fallible.bind_eq_ok.mp computed
    obtain ⟨rhsIndex, -, computed⟩ := Fallible.bind_eq_ok.mp computed
    obtain ⟨lhsStart, -, computed⟩ := Fallible.bind_eq_ok.mp computed
    obtain ⟨rhsStart, -, computed⟩ := Fallible.bind_eq_ok.mp computed
    obtain ⟨zero, -, computed⟩ := Fallible.bind_eq_ok.mp computed
    cases turns with
    | zero => cases computed
    | succ turns =>
      rw [dotProduct] at computed
      obtain ⟨sum, added, -⟩ := Fallible.bind_eq_ok.mp computed
      obtain ⟨lhsElement, read, -⟩ := Fallible.bind_eq_ok.mp added
      obtain ⟨stored, got, -⟩ := Fallible.bind_eq_ok.mp read
      -- The tensor has no element at all.
      have below := MixedRadix.encode_lt (Tensor.within_of_get got)
      omega

/-- A product is computed only when there is something to sum up, or nothing to sum up for. -/
theorem contracting_of_dotGeneralOp {turns : Nat} {resultType : ShapedType}
    {result : Tensor Element}
    (dims : DotAxes lhs.shape rhs.shape lhsBatching rhsBatching lhsContracting rhsContracting)
    (computed : dotGeneralOp turns lhs rhs lhsBatching rhsBatching lhsContracting rhsContracting
      resultType = .ok result) :
    (∀ axis ∈ lhsContracting, sizeAt lhs.shape axis ≠ 0) ∨ 0 ∈ resultType.shape := by
  by_contra neither
  rw [not_or] at neither
  obtain ⟨empty, elements⟩ := neither
  push Not at empty
  obtain ⟨axis, listed, zero⟩ := empty
  -- The left-hand side has no elements, but the result has one.
  have lhsEmpty : lhs.shape.prod = 0 := by
    have below : axis < lhs.shape.length := dims.lhsBelow axis (List.mem_append_right _ listed)
    rw [sizeAt, List.getD_eq_getElem?_getD, List.getElem?_eq_getElem below] at zero
    exact List.prod_eq_zero_iff.mpr (zero ▸ List.getElem_mem below)
  have positive := Nat.pos_of_ne_zero fun zero => elements (List.prod_eq_zero_iff.mp zero)
  have within := MixedRadix.decode_within positive
  obtain ⟨shape, filled⟩ := Tensor.build_spec computed
  rw [← shape] at within
  obtain ⟨element, got, -⟩ := Tensor.get_eq within
  rw [shape] at within
  rw [shape, filled _ within] at got
  exact dotGeneralElement_error lhsEmpty got

variable {lhsType rhsType : RankedTensorType} {lhsTensor rhsTensor : TypedTensor}
variable {lhsBatchingDims rhsBatchingDims lhsContractingDims rhsContractingDims : List Int64}

/-- General products of integers are sums over the contracting index space, where it is not empty
or there is nothing to sum up for. -/
theorem dotGeneralOp_iff {precisionConfig : Option Nat} {inferred : ShapedTypeComponents}
    {resultShape : Sizes} (supported : isSupportedIntegerType (.integer signedness width) = true)
    (lhsIntegers : isSupportedIntegerType lhsTensor.elementType = true)
    (rhsIntegers : isSupportedIntegerType rhsTensor.elementType = true)
    (lhsStatic : lhsType.IsStatic lhsTensor.type) (rhsStatic : rhsType.IsStatic rhsTensor.type)
    (accepted : inferDotGeneralOp lhsType rhsType lhsBatchingDims rhsBatchingDims
      lhsContractingDims rhsContractingDims precisionConfig = .ok inferred)
    (known : inferred.dims.map Int64.toInt = resultShape.map Nat.cast) :
    DotMeetsSpec lhsTensor.elements rhsTensor.elements (axes lhsBatchingDims)
        (axes rhsBatchingDims) (axes lhsContractingDims) (axes rhsContractingDims) signedness width
        resultShape ↔
      (∀ axis ∈ axes lhsContractingDims, sizeAt lhsTensor.elements.shape axis ≠ 0) ∨
        0 ∈ resultShape := by
  obtain ⟨dims, rfl⟩ := dotAxes_of_inferred lhsStatic rhsStatic accepted known
  have lhsHolds := holdsIntegers_of_typed lhsIntegers
  have rhsHolds := holdsIntegers_of_typed rhsIntegers
  constructor
  · rintro ⟨result, runs, -, -⟩
    exact contracting_of_dotGeneralOp dims (runs _ le_rfl)
  · intro condition
    have element (turns : Nat)
        (enough : ((axes lhsContractingDims).map (sizeAt lhsTensor.elements.shape)).prod ≤ turns)
        (index : Index) (within : MixedRadix.Within (dotShape lhsTensor.elements.shape
          rhsTensor.elements.shape (axes lhsBatchingDims) (axes rhsBatchingDims)
          (axes lhsContractingDims) (axes rhsContractingDims)) index) :=
      dotGeneralElement_eq supported lhsHolds rhsHolds dims enough (by
        rintro empty
        obtain ⟨axis, listed, zero⟩ := List.mem_map.mp empty
        rcases condition with nonempty | none
        · exact nonempty axis listed zero
        · -- The result has no index.
          have below := MixedRadix.encode_lt within
          exact Nat.not_lt_zero _ (lt_of_lt_of_eq below (List.prod_eq_zero_iff.mpr none))) within
    refine ⟨_, fun turns enough => Tensor.build_eq_tabulate (element turns enough), rfl,
      fun index within => ⟨_, Tensor.get_tabulate within, rfl, Element.integer_ofInt_modEq _⟩⟩

end Product

section Examples

/-- A matrix of bytes with the given elements. -/
def byteMatrix (shape : Sizes) (bytes : List (BitVec 8)) (complete : bytes.length = shape.prod) :
    TypedTensor where
  elementType := .integer .signless 8
  elements := {
    shape
    data := bytes.map fun byte => @Element.ofBitVec .signless 8 rfl byte
    complete := by rw [List.length_map, complete] }
  typed element listed := by
    obtain ⟨byte, -, rfl⟩ := List.mem_map.mp listed
    rfl

/-- The type of tensors of bytes. -/
def byteMatrixType (shape : List Int64) : RankedTensorType :=
  { shape, elementType := .integer .signless 8, encoding := none }

/-- The product of matrices is the matrix of sums. -/
theorem dotGeneralOp_bytes :
    @DotMeetsSpec plainPrinter integersOnly (byteMatrix [1, 2] [3, 100] rfl).elements
      (byteMatrix [2, 1] [5, 7] rfl).elements [] [] [1] [0] .signless 8 [1, 1] :=
  (@dotGeneralOp_iff plainPrinter integersOnly .signless 8 (byteMatrixType [1, 2])
    (byteMatrixType [2, 1]) (byteMatrix [1, 2] [3, 100] rfl) (byteMatrix [2, 1] [5, 7] rfl)
    [] [] [1] [0] none { dims := [1, 1], elementType := none, encoding := none } [1, 1]
    rfl rfl rfl ⟨rfl, rfl⟩ ⟨rfl, rfl⟩ rfl rfl).mpr (.inl (by decide))

/-- A sum over a dimension of size zero is not computed. -/
theorem dotGeneralOp_empty :
    inferDotGeneralOp (byteMatrixType [1, 0]) (byteMatrixType [0, 1]) [] [] [1] [0] none =
        .ok { dims := [1, 1], elementType := none, encoding := none } ∧
      ¬ @DotMeetsSpec plainPrinter integersOnly (byteMatrix [1, 0] [] rfl).elements
        (byteMatrix [0, 1] [] rfl).elements [] [] [1] [0] .signless 8 [1, 1] := by
  refine ⟨rfl, ?_⟩
  rintro ⟨result, runs, shape, elements⟩
  obtain ⟨element, got, -⟩ := elements [0, 0] (by simp)
  obtain ⟨-, filled⟩ := @Tensor.build_spec _ [1, 1] _ result (runs 0 le_rfl)
  rw [filled [0, 0] (by simp)] at got
  exact @dotGeneralElement_error plainPrinter integersOnly _ _ _ _ _ _ _ _ rfl _ _ got

end Examples

end Stablehlo
