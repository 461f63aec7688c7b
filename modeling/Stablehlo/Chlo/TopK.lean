import Stablehlo.Reference.ElementOperations
import Stablehlo.Reference.StridedSlice

/-! The greatest numbers of each row, which are the front of the rows when these are sorted. -/

namespace Stablehlo

namespace Chlo

/-- The element of an index type of 32 bits. -/
def indexElement (value : Nat) : Element :=
  ⟨.integer .signless 32, .integer ⟨32, BitVec.ofNat 32 value⟩, rfl⟩

/-- StableHLO `iota`, for elements of 32 bits. -/
def iotaOp (iotaDimension : Nat) (shape : Sizes) : TypedTensor where
  elementType := .integer .signless 32
  elements := .tabulate shape fun index => indexElement (index.getD iotaDimension 0)
  typed element listed := by
    obtain ⟨_, -, rfl⟩ := List.mem_map.mp listed
    rfl

section Lowering

variable [TypePrinter] [FloatOperations]

/-- The comparator of a sort, which compares the first pair of its block arguments only. -/
def buildSortComparisonBody (elementTypes : List StablehloType) (direction : ComparisonDirection) :
    UpdateComputation
      (elementTypes.flatMap fun elementType => List.replicate 2 (.rankedTensor [] elementType none))
      [.rankedTensor [] (.integer .signless 1) none] where
  run
    | lhs :: rhs :: _ => do
      let compare ← lhs.compareBy direction rhs
      let value ← compare.getBooleanValue
      .ok [Element.boolean value]
    | _ => .error .undefinedBehavior
  typed args values returned := by
    split at returned
    · obtain ⟨compare, -, rest⟩ := Fallible.bind_eq_ok.mp returned
      obtain ⟨value, -, same⟩ := Fallible.bind_eq_ok.mp rest
      cases same
      exact .cons ⟨_, rfl⟩ .nil
    · cases returned

/-- Sort the operands by the first one. -/
def createSortOp (algorithm : SortAlgorithm) (allocator : Allocator) (operands : List TypedTensor)
    (dimension : Int) (isStable : Bool) (direction : ComparisonDirection) :
    Except Failure (List TypedTensor) :=
  sortOp algorithm allocator operands dimension isStable
    (buildSortComparisonBody (operands.map TypedTensor.elementType) direction)

/-- The last dimension of a shape that has one. -/
def lastDim (shape : Sizes) : Nat := shape.length - 1

/-- The number of the greatest elements along the last dimension. -/
def lastDimResultSize (shape : Sizes) (k : Nat) : Nat := min k (shape.getD (lastDim shape) 0)

/-- The shape of the greatest elements along the last dimension. -/
def topShape (shape : Sizes) (k : Nat) : Sizes :=
  shape.set (lastDim shape) (lastDimResultSize shape k)

/-- The values and the indices of the greatest elements along the last dimension. -/
def convertTopKOp (algorithm : SortAlgorithm) (allocator : Allocator) (operand : TypedTensor)
    (k : Nat) (isStable : Bool) : Except Failure (Tensor Element × Tensor Element) := do
  let shape := operand.elements.shape
  let iota := iotaOp (lastDim shape) shape
  let sorted ← createSortOp algorithm allocator [operand, iota] (lastDim shape) isStable .gt
  match sorted with
  | [first, second] =>
    let beginIndices := List.replicate shape.length 0
    let endIndices := (topShape shape k).map Nat.cast
    let strides := List.replicate shape.length 1
    let values ← first.elements.sliceOp beginIndices endIndices strides
    let indices ← second.elements.sliceOp beginIndices endIndices strides
    .ok (values, indices)
  | _ => .error .undefinedBehavior

end Lowering

section Specification

/-- A position comes before another one when its number is greater, or, in a stable order, when the
numbers are equal and it is the lower position. -/
def Precedes (number : Nat → Int) (isStable : Bool) (first second : Nat) : Prop :=
  number second ≤ number first ∧
    (isStable = true → number second = number first → first < second)

/-- So many distinct positions are chosen, in their order, and come before all others. -/
structure SelectsGreatest (number : Nat → Int) (isStable : Bool) (size count : Nat)
    (chosen : List Nat) : Prop where
  length : chosen.length = count
  distinct : chosen.Nodup
  inside : ∀ position ∈ chosen, position < size
  ordered : chosen.Pairwise (Precedes number isStable)
  greatest : ∀ position ∈ chosen, ∀ other < size, other ∉ chosen →
    Precedes number isStable position other

/-- The number a tensor has at an index. -/
def numberAt (tensor : TypedTensor) (index : Index) : Int :=
  match tensor.elements.get index with
  | .ok element => element.integer
  | .error _ => 0

/-- In each row of the last dimension, the results hold the elements of the greatest positions, and
these positions. -/
structure IsTopK (operand : TypedTensor) (shape : Sizes) (k : Nat) (isStable : Bool)
    (values indices : Tensor Element) : Prop where
  shapes : values.shape = topShape shape k ∧ indices.shape = topShape shape k
  rows : ∀ row, MixedRadix.Within shape row → ∃ chosen,
    SelectsGreatest (fun position => numberAt operand (row.set (lastDim shape) position)) isStable
      (shape.getD (lastDim shape) 0) (lastDimResultSize shape k) chosen ∧
    ∀ place position : Nat, chosen[place]? = some position →
      values.get (row.set (lastDim shape) place) =
          operand.elements.get (row.set (lastDim shape) position) ∧
        indices.get (row.set (lastDim shape) place) = .ok (indexElement position)

end Specification

section Selection

variable {number : Nat → Int} {isStable : Bool}

/-- The front of all positions in their order has the greatest numbers. -/
theorem selectsGreatest_take {size count : Nat} {positions : List Nat} (few : count ≤ size)
    (perm : positions.Perm (List.range size))
    (ordered : positions.Pairwise (Precedes number isStable)) :
    SelectsGreatest number isStable size count (positions.take count) := by
  have distinct : positions.Nodup := perm.nodup_iff.mpr List.nodup_range
  refine ⟨?_, distinct.sublist (List.take_sublist ..), fun position listed => ?_,
    ordered.sublist (List.take_sublist ..), fun position listed other below out => ?_⟩
  · rw [List.length_take, perm.length_eq, List.length_range]
    omega
  · exact List.mem_range.mp (perm.mem_iff.mp (List.mem_of_mem_take listed))
  · -- A position that is not chosen is one behind the front.
    have listedOther : other ∈ positions := perm.mem_iff.mpr (List.mem_range.mpr below)
    rw [← List.take_append_drop count positions] at listedOther ordered
    rcases List.mem_append.mp listedOther with front | behind
    · exact absurd front out
    · exact (List.pairwise_append.mp ordered).2.2 position listed other behind

/-- A slice from the first elements on has the elements that the operand has there. -/
theorem sliceOp_front {α : Type} {operand : Tensor α} {shape limits : Sizes}
    (own : operand.shape = shape) (fits : List.Forall₂ (· ≤ ·) limits shape) :
    ∃ slice, operand.sliceOp (List.replicate shape.length 0) (limits.map Nat.cast)
        (List.replicate shape.length 1) = .ok slice ∧ slice.shape = limits ∧
      ∀ index, MixedRadix.Within limits index → slice.get index = operand.get index := by
  have inferred : inferSliceShape shape (List.replicate shape.length 0) (limits.map Nat.cast)
      (List.replicate shape.length 1) = some limits := by
    clear own
    induction fits with
    | nil => rfl
    | @cons limit size limits shape most _ ih =>
      refine inferSliceShape_cons.mpr ⟨limit, limits, rfl, ?_, ih⟩
      show inferSliceDim size 0 (limit : Int) 1 = some limit
      rw [inferSliceDim, if_neg (by omega)]
      congr 1
      omega
  obtain ⟨slice, sliced, shape, elements⟩ := Tensor.sliceOp_spec (own.symm ▸ inferred)
  subst own
  refine ⟨slice, sliced, shape, fun index within => elements index within index ?_⟩
  rw [← fits.length_eq]
  clear fits inferred sliced shape elements
  -- Nothing is added to a coordinate, and it is multiplied by one.
  induction within with
  | nil => rfl
  | cons _ _ ih => simp [List.replicate_succ, ih]

end Selection

section Comparison

/-- The number of the first element of a tuple. -/
def firstNumber : List Element → Int
  | element :: _ => element.integer
  | [] => 0

/-- A tuple is ranked before those whose first number is smaller. -/
def greaterFirst (lhs rhs : List Element) : Bool := decide (firstNumber rhs < firstNumber lhs)

/-- An element of an integer type has the bits of a number. -/
theorem exists_numberBits {element : Element}
    (integer : isSupportedIntegerType element.type = true) :
    ∃ (signedness : Signedness) (width : Nat) (bits : BitVec width),
      element.type = .integer signedness width ∧ element.value = .integer ⟨width, bits⟩ := by
  obtain ⟨type, value, fits⟩ := element
  cases ElementValue.of_fits fits with
  | @integer signedness value _ => exact ⟨signedness, value.width, value.bits, rfl, rfl⟩
  | boolean | float | complex => cases integer

variable [TypePrinter] [FloatOperations]

/-- Elements of an integer type are compared as numbers of the type. -/
theorem greater_eq {lhs rhs : Element} (same : lhs.type = rhs.type)
    (integer : isSupportedIntegerType lhs.type = true) :
    lhs.greater rhs = .ok (Element.boolean (decide (rhs.integer < lhs.integer))) := by
  obtain ⟨signedness, width, left, type, value⟩ := exists_numberBits integer
  obtain ⟨_, _, right, otherType, otherValue⟩ := exists_numberBits (same ▸ integer)
  cases type.symm.trans (same.trans otherType)
  rw [Element.greater, comparePair, if_neg (not_not.mpr same), value, otherValue]
  dsimp only
  rw [dif_pos rfl, BitVec.cast_eq, type]
  -- Only types without a sign in their name are compared as numbers with signs.
  rw [type] at integer
  have compared : (if isSupportedSignedIntegerType (.integer signedness width) then right.slt left
      else right.ult left) = decide (rhs.integer < lhs.integer) := by
    rw [Element.integer, Element.integer, type, otherType, value, otherValue]
    cases signedness with
    | signless =>
      have signed : isSupportedSignedIntegerType (.integer .signless width) = true := integer
      rw [if_pos signed]
      exact BitVec.slt_eq_decide
    | unsigned =>
      rw [if_neg (by simp [isSupportedSignedIntegerType]), BitVec.ult]
      exact decide_eq_decide.mpr Int.ofNat_lt.symm
    | signed => cases integer
  rw [compared]
  rfl

/-- The comparator ranks pairs of an integer and an index by the integer. -/
theorem buildSortComparisonBody_ranks {elementType : StablehloType}
    (integer : isSupportedIntegerType elementType = true) :
    ComparesTuples [elementType, .integer .signless 32]
      (buildSortComparisonBody [elementType, .integer .signless 32] .gt) greaterFirst where
  order := by
    constructor
    · simp [greaterFirst]
    all_goals
      simp only [greaterFirst, decide_eq_true_eq, decide_eq_false_iff_not]
      omega
  compares lhs rhs lhsTypes rhsTypes := by
    simp only [List.map_eq_cons_iff, List.map_eq_nil_iff] at lhsTypes rhsTypes
    obtain ⟨l, _, rfl, left, i, _, rfl, leftIndex, rfl⟩ := lhsTypes
    obtain ⟨r, _, rfl, right, j, _, rfl, rightIndex, rfl⟩ := rhsTypes
    have own : [elementType, .integer .signless 32].flatMap (fun elementType =>
          List.replicate 2 (StablehloType.rankedTensor [] elementType none)) =
        [l, r, i, j].map Element.scalarType := by
      simp [Element.scalarType, left, leftIndex, right, rightIndex, List.replicate]
    show (buildSortComparisonBody _ _).eval [l, r, i, j] = _
    rw [UpdateComputation.eval, if_neg (by simp [List.replicate]), if_neg (not_not.mpr own)]
    show (l.greater r >>= _) = _
    rw [greater_eq (left.trans right.symm) (left ▸ integer)]
    rfl

end Comparison

section Rows

variable {operand first second : TypedTensor} {shape : Sizes} {axis size : Nat} {row : Index}
  {isStable : Bool} {handles : List Nat}

/-- A cell of the sorted operands is an element with its position. -/
theorem cellsAt_iota (own : operand.elements.shape = shape) (found : shape[axis]? = some size)
    (within : MixedRadix.Within shape row) {position : Nat} (below : position < size) :
    ∃ element, operand.elements.get (row.set axis position) = .ok element ∧
      numberAt operand (row.set axis position) = element.integer ∧
      cellsAt [operand, iotaOp axis shape] (row.set axis position) =
        .ok [element, indexElement position] := by
  have inside := MixedRadix.within_set within found below
  obtain ⟨element, got, -⟩ := Tensor.get_eq (own ▸ inside)
  have short : axis < row.length := by
    rw [within.length_eq]
    exact (List.getElem?_eq_some_iff.mp found).1
  have index : (iotaOp axis shape).elements.get (row.set axis position) =
      .ok (indexElement position) := by
    rw [iotaOp, Tensor.get_tabulate inside, List.getD_eq_getElem?_getD,
      List.getElem?_set_self short]
    rfl
  refine ⟨element, got, by rw [numberAt, got], ?_⟩
  rw [cellsAt_cons, cellsAt_cons, got, index]
  rfl

/-- The handles of a sorted row are in the order of their numbers, and the sorted operands hold the
elements at the handles, and the handles. -/
theorem row_of_sorted (own : operand.elements.shape = shape) (found : shape[axis]? = some size)
    (within : MixedRadix.Within shape row)
    (sorted : SliceSorted greaterFirst isStable [operand, iotaOp axis shape] [first, second] axis
      size row handles) :
    handles.Pairwise (Precedes (fun position => numberAt operand (row.set axis position))
      isStable) ∧
    ∀ place position : Nat, handles[place]? = some position →
      first.elements.get (row.set axis place) = operand.elements.get (row.set axis position) ∧
        second.elements.get (row.set axis place) = .ok (indexElement position) := by
  have below (place position : Nat) (listed : handles[place]? = some position) :
      position < size :=
    List.mem_range.mp (sorted.perm.mem_iff.mp (List.mem_of_getElem? listed))
  constructor
  · -- The sort has ranked the cells, which hold the numbers at the handles.
    rw [List.pairwise_iff_getElem]
    intro i j short long lower
    have atFirst := List.getElem?_eq_getElem short
    have atSecond := List.getElem?_eq_getElem long
    obtain ⟨lhs, -, left, lhsCells⟩ := cellsAt_iota own found within (below _ _ atFirst)
    obtain ⟨rhs, -, right, rhsCells⟩ := cellsAt_iota own found within (below _ _ atSecond)
    rw [← sorted.copied _ _ atFirst] at lhsCells
    rw [← sorted.copied _ _ atSecond] at rhsCells
    have bound : j < size := by simpa [sorted.perm.length_eq] using long
    rw [Precedes, left, right]
    constructor
    · have ordered := sorted.ordered i j _ _ lower bound lhsCells rhsCells
      exact not_lt.mp (of_decide_eq_false ordered)
    · intro stable equal
      refine sorted.stable stable i j _ _ _ _ lower atFirst atSecond lhsCells rhsCells ?_
      simp [greaterFirst, firstNumber, equal]
  · -- The cell at a place is the cell that was at its handle.
    intro place position listed
    obtain ⟨element, got, -, cells⟩ := cellsAt_iota own found within (below _ _ listed)
    rw [← sorted.copied _ _ listed, cellsAt_cons, cellsAt_cons] at cells
    obtain ⟨value, gotFirst, rest⟩ := Fallible.bind_eq_ok.mp cells
    obtain ⟨tail, read, same⟩ := Fallible.bind_eq_ok.mp rest
    obtain ⟨index, gotSecond, done⟩ := Fallible.bind_eq_ok.mp read
    cases done
    cases same
    exact ⟨gotFirst.trans got.symm, gotSecond⟩

/--
The program for the greatest elements succeeds and yields them, for numbers of every integer type.

A stable program also says which ones of equal elements are chosen: those with the lower indices.
-/
theorem convertTopKOp_isTopK [TypePrinter] [FloatOperations] (algorithm : SortAlgorithm)
    (allocator : Allocator) (operand : TypedTensor) (k : Nat) (isStable : Bool)
    (integer : isSupportedIntegerType operand.elementType = true)
    (ranked : operand.elements.shape ≠ []) :
    ∃ values indices, convertTopKOp algorithm allocator operand k isStable = .ok (values, indices) ∧
      IsTopK operand operand.elements.shape k isStable values indices := by
  obtain ⟨shape, own⟩ : ∃ shape, operand.elements.shape = shape := ⟨_, rfl⟩
  rw [own] at ranked ⊢
  have positive : lastDim shape < shape.length :=
    Nat.sub_one_lt_of_lt (List.length_pos_iff.mpr ranked)
  have found : shape[lastDim shape]? = some (shape.getD (lastDim shape) 0) := by
    rw [List.getD_eq_getElem?_getD, List.getElem?_eq_getElem positive]
    rfl
  obtain ⟨results, run, types, -, rows⟩ := @sortOp_eq [operand, iotaOp (lastDim shape) shape] shape
    _ _ _ greaterFirst algorithm allocator (by simp) (by simp [own, iotaOp, Tensor.tabulate])
    (buildSortComparisonBody_ranks integer) (lastDim shape) (by omega) (by omega) isStable
  rw [Int.emod_eq_of_lt (by omega) (by omega), Int.toNat_natCast] at rows
  simp only [List.map_eq_cons_iff, List.map_cons, List.map_nil, List.map_eq_nil_iff] at types
  obtain ⟨first, _, rfl, firstType, second, _, rfl, secondType, rfl⟩ := types
  -- Both sorted tensors have the shape of the operand, and the slices are their fronts.
  have firstShape : first.elements.shape = shape := (congrArg ShapedType.shape firstType).trans own
  have secondShape : second.elements.shape = shape := congrArg ShapedType.shape secondType
  have fits : List.Forall₂ (· ≤ ·) (topShape shape k) shape := by
    refine List.forall₂_iff_get.mpr ⟨List.length_set, fun i _ below => ?_⟩
    rw [List.get_eq_getElem, List.get_eq_getElem]
    simp only [topShape, List.getElem_set]
    split
    · next same =>
      subst same
      rw [List.getElem?_eq_getElem below, Option.some.injEq] at found
      rw [lastDimResultSize, found]
      exact Nat.min_le_right ..
    · exact Nat.le_refl _
  obtain ⟨values, sliced, valuesShape, valuesAt⟩ := sliceOp_front firstShape fits
  obtain ⟨indices, slicedIndices, indicesShape, indicesAt⟩ :=
    sliceOp_front secondShape fits
  refine ⟨values, indices, ?_, ⟨valuesShape, indicesShape⟩, fun row within => ?_⟩
  · simp only [convertTopKOp, createSortOp, own]
    show (sortOp _ _ _ _ _ (buildSortComparisonBody [operand.elementType, .integer .signless 32]
      .gt) >>= _) = _
    rw [run, Fallible.ok_bind]
    dsimp only
    rw [sliced, Fallible.ok_bind, slicedIndices]
    rfl
  · obtain ⟨handles, sorted⟩ := rows row within
    obtain ⟨ordered, cells⟩ := row_of_sorted own found within sorted
    refine ⟨_, selectsGreatest_take (Nat.min_le_right ..) sorted.perm ordered,
      fun place position listed => ?_⟩
    rw [List.getElem?_take] at listed
    split at listed
    · next below =>
      have inside := MixedRadix.within_set_set within (lastDim shape) below
      rw [valuesAt _ inside, indicesAt _ inside]
      exact cells place position listed
    · cases listed

/-- The two greatest numbers of a row of three. -/
theorem convertTopKOp_isTopK_iota :
    ∃ values indices, @convertTopKOp plainPrinter integerOperations .stable ⟨id, fun _ => rfl⟩
        (iotaOp 0 [3]) 2 true = .ok (values, indices) ∧
      IsTopK (iotaOp 0 [3]) [3] 2 true values indices :=
  @convertTopKOp_isTopK plainPrinter integerOperations .stable ⟨id, fun _ => rfl⟩ (iotaOp 0 [3]) 2
    true (by decide) (List.cons_ne_nil _ _)

end Rows

end Chlo

end Stablehlo
