import Stablehlo.Transforms.BroadcastLoweringOrder

/-! Operands that are broadcast have a common type, and which of them by verified operations. -/

namespace Stablehlo.BroadcastLowering

section CommonTypes

variable {operands permuted : List Operand} {shape front targets : Dimensions} {operand : Operand}
  {i : Nat} {input output : Value}

/-- Aligned dimensions are broadcast to the one of them that has the size of those that are not one,
and that is bounded when one of them is. -/
theorem joint_eq {dims : List Dim} {dim : Dim} (listed : dim ∈ dims)
    (large : ∀ x ∈ dims, x.size ≠ 1 → dim = x)
    (bounded : ∀ x ∈ dims, x.isBounded = true → dim.isBounded = true) : joint dims = dim := by
  unfold joint
  cases found : dims.find? fun dim => dim.size != 1 with
  | some x =>
    exact (large x (List.mem_of_find?_eq_some found)
      (by simpa using List.find?_some found)).symm
  | none =>
    have units : ∀ x ∈ dims, x.size = 1 := by simpa using found
    cases other : dims.find? Dim.isBounded with
    | some x =>
      have xListed := List.mem_of_find?_eq_some other
      have xBounded : x.isBounded = true := List.find?_some other
      refine Dim.eq_of_size ?_ ?_
      · exact (units x xListed).trans (units dim listed).symm
      · exact xBounded.trans (bounded x xListed xBounded).symm
    | none =>
      have static : ∀ x ∈ dims, x.isBounded = false := by simpa using other
      exact Dim.eq_of_size (units dim listed).symm (static dim listed).symm

/-- The shape of operands that are broadcast has the dimensions that theirs are broadcast to. -/
theorem IsBroadcastShape.dim_eq (is : IsBroadcastShape operands shape)
    (bounded : ∀ operand ∈ operands, ∀ i, (operand.dimAt i).isBounded = true →
      (fromRight shape i).boundOp.isSome = true) (perm : operands.Perm permuted) (i : Nat) :
    joint (column permuted i) = (fromRight shape i).dim := by
  apply joint_eq
  · obtain ⟨operand, listed, same⟩ := is.mem i
    rw [same, dim_fromRight, ← mem_column_of_perm perm]
    exact List.mem_map_of_mem listed
  · intro x xListed large
    obtain ⟨operand, listed, rfl⟩ := List.mem_map.mp ((mem_column_of_perm perm).mpr xListed)
    exact is.large i operand listed large
  · intro x xListed xBounded
    obtain ⟨operand, listed, rfl⟩ := List.mem_map.mp ((mem_column_of_perm perm).mpr xListed)
    rw [DimensionInfo.isBounded_dim]
    exact bounded operand listed i xBounded

/-- The largest rank is that of the operands in any order. -/
theorem maxRank_of_perm (perm : operands.Perm permuted) :
    maxRank permuted = maxRank operands := by
  unfold maxRank
  exact @List.Perm.foldr_eq _ _ max _ _ ⟨Nat.max_left_comm⟩
    (perm.map fun operand => operand.type.rank).symm 0

/-- The dimensions of the shape are the common ones, in any order of the operands. -/
theorem IsBroadcastShape.map_dim (is : IsBroadcastShape operands shape)
    (bounded : ∀ operand ∈ operands, ∀ i, (operand.dimAt i).isBounded = true →
      (fromRight shape i).boundOp.isSome = true) (perm : operands.Perm permuted) :
    shape.map DimensionInfo.dim = commonDims permuted := by
  have reversed : (shape.map DimensionInfo.dim).reverse =
      (List.range (maxRank permuted)).map fun i => joint (column permuted i) := by
    rw [← List.map_reverse, maxRank_of_perm perm, ← is.rank]
    refine List.ext_getElem (by simp) fun i inside _ => ?_
    rw [List.length_map, List.length_reverse] at inside
    simp only [List.getElem_map, List.getElem_range]
    rw [is.dim_eq bounded perm, fromRight, List.getD_eq_getElem?_getD,
      List.getElem?_eq_getElem (by rwa [List.length_reverse]), Option.getD_some]
  rw [commonDims, ← reversed, List.reverse_reverse]

/-- What is padded becomes what the shape has there. -/
def Pads (bcastDim target : DimensionInfo) : Prop :=
  bcastDim.size = target.size ∧ (bcastDim.boundOp.isSome = true → bcastDim = target)

/-- What is padded has the sizes of the shape, and is what the shape has where it is bounded. -/
theorem forall₂_padded {dims : List Dim} (count : dims.length = targets.length) :
    List.Forall₂ Pads (padded dims front targets) (front ++ targets) := by
  refine List.rel_append ?_ ?_
  · rw [List.forall₂_map_left_iff]
    exact List.forall₂_same.mpr fun target _ => ⟨rfl, fun absent => nomatch absent⟩
  · refine List.forall₂_iff_get.mpr ⟨by simp [count], fun i inside _ => ?_⟩
    simp only [List.get_eq_getElem, List.getElem_zipWith]
    unfold padDim
    split
    · exact ⟨rfl, fun _ => rfl⟩
    · exact ⟨rfl, fun absent => nomatch absent⟩

/-- A dimension is made dynamic when it is padded and bounded in the shape. -/
theorem markDynamic_cases {bcastDim target : DimensionInfo} {place : Nat}
    (pads : Pads bcastDim target) :
    (bcastDim = target ∧ markDynamic input ((bcastDim, target), place) = input) ∨
      ∃ boundOp boundOpDim, bcastDim = ⟨target.size, none⟩ ∧
        target.boundOp = some (boundOp, boundOpDim) ∧
        markDynamic input ((bcastDim, target), place) =
          .setDimensionSize input boundOp boundOpDim place := by
  obtain ⟨size, kept⟩ := pads
  obtain ⟨bcastSize, bcastOp⟩ := bcastDim
  obtain ⟨targetSize, targetOp⟩ := target
  dsimp only at size
  subst size
  cases bcastOp with
  | some bound => exact .inl ⟨kept rfl, rfl⟩
  | none =>
    cases targetOp with
    | none => exact .inl ⟨rfl, rfl⟩
    | some bound => exact .inr ⟨bound.1, bound.2, rfl, rfl, rfl⟩

/-- The element behind some others is modified. -/
theorem modify_append_length {α : Type} (done rest : List α) (element : α) (change : α → α) :
    (done ++ element :: rest).modify done.length change = done ++ change element :: rest := by
  induction done with
  | nil => rfl
  | cons first done ih => exact congrArg (first :: ·) ih

/-- A dimension that is bounded in the shape is made dynamic. -/
theorem type_markDynamic {pair : DimensionInfo × DimensionInfo} {done rest : List Dim}
    {elementType : ElementType}
    (typed : input.type = .ofDims (done ++ pair.1.dim :: rest) elementType)
    (pads : Pads pair.1 pair.2) :
    (markDynamic input (pair, done.length)).type =
      .ofDims ((done ++ [pair.2.dim]) ++ rest) elementType := by
  rcases @markDynamic_cases input pair.1 pair.2 done.length pads with
    ⟨same, kept⟩ | ⟨boundOp, boundOpDim, padded, bounded, marked⟩
  · rw [kept, typed, same, List.append_assoc]
    rfl
  · have dim : pair.2.dim = .bounded pair.1.dim.size := by
      rw [DimensionInfo.dim, bounded, padded]
      rfl
    rw [marked, Value.type, typed, dim, List.append_assoc]
    exact congrArg (TensorType.ofDims · elementType) (modify_append_length _ _ _ _)

/-- An element of a list is related to one of the other list. -/
theorem exists_related {α β : Type} {R : α → β → Prop} {items : List α} {others : List β}
    (related : List.Forall₂ R items others) :
    (∀ item ∈ items, ∃ other ∈ others, R item other) ∧
      ∀ other ∈ others, ∃ item ∈ items, R item other := by
  induction related with
  | nil => exact ⟨fun _ listed => (nomatch listed), fun _ listed => (nomatch listed)⟩
  | @cons item other items others here _ ih =>
    constructor
    · rw [List.forall_mem_cons]
      refine ⟨⟨other, .head _, here⟩, fun item listed => ?_⟩
      obtain ⟨match', found, there⟩ := ih.1 item listed
      exact ⟨match', .tail _ found, there⟩
    · rw [List.forall_mem_cons]
      refine ⟨⟨item, .head _, here⟩, fun other listed => ?_⟩
      obtain ⟨match', found, there⟩ := ih.2 other listed
      exact ⟨match', .tail _ found, there⟩

/-- The results for operands, one by one. -/
theorem exists_results {results : List Value}
    (made : numpyBroadcastAllIfNeeded (operands.map Operand.value) = .ok results) :
    ∃ shape, IsBroadcastShape operands shape ∧
      (∀ operand ∈ operands, ∀ i, (operand.dimAt i).isBounded = true →
        (fromRight shape i).boundOp.isSome = true) ∧
      List.Forall₂ (fun (operand : Operand) result => operand ∈ operands ∧
        numpyBroadcastIfNeeded operand.value shape = .ok result) operands results := by
  obtain ⟨shape, shaped, all⟩ := Fallible.bind_eq_ok.mp made
  have is := getNumpyBroadcastShape_spec shaped
  have each := List.forall₂_map_left_iff.mp (Fallible.mapM_eq_ok_iff.mp all)
  have both : List.Forall₂ (fun (operand : Operand) result => operand ∈ operands ∧
      numpyBroadcastIfNeeded operand.value shape = .ok result) operands results := by
    obtain ⟨count, pairs⟩ := List.forall₂_iff_get.mp each
    exact List.forall₂_iff_get.mpr ⟨count, fun i inside insideToo =>
      ⟨List.get_mem _ _, pairs i inside insideToo⟩⟩
  refine ⟨shape, is, fun operand listed i => ?_, both⟩
  obtain ⟨result, -, -, here⟩ := (exists_related both).1 operand listed
  exact ((numpyBroadcastIfNeeded_outcome is listed).mp here).1 i

end CommonTypes

section Verified

variable {operands : List Operand} {shape front targets : Dimensions} {operand : Operand}
  {i : Nat} {input output : Value}

/-- The bound of a dimension of an operand is the operand itself. -/
theorem boundOp_fromRight {boundOp : Value} {boundOpDim : Nat}
    (bounded : (fromRight (getDimensions operand.value) i).boundOp = some (boundOp, boundOpDim)) :
    boundOp = operand.value ∧ i < operand.type.rank ∧ boundOpDim = operand.type.rank - 1 - i := by
  have length : (getDimensions operand.value).length = operand.type.rank := by
    rw [getDimensions, List.length_map, List.length_zipIdx]
    rfl
  rcases Nat.lt_or_ge i operand.type.rank with inside | outside
  · have place : operand.type.rank - 1 - i < (getDimensions operand.value).length := by omega
    rw [fromRight, List.getD_eq_getElem?_getD, List.getElem?_reverse (by omega), length,
      List.getElem?_eq_getElem place, Option.getD_some] at bounded
    simp only [getDimensions, List.getElem_map, List.getElem_zipIdx, Nat.zero_add] at bounded
    unfold getDimensionInfo at bounded
    split at bounded
    · cases bounded
    · next same =>
      obtain ⟨-, rfl⟩ := Prod.mk.inj same
      cases bounded
      exact ⟨rfl, inside, rfl⟩
  · rw [fromRight_of_le (by rw [length]; exact outside)] at bounded
    cases bounded

/-- The bounds of the shape of operands are dimensions of operands. -/
theorem IsBroadcastShape.boundOp_eq (is : IsBroadcastShape operands shape) {target : DimensionInfo}
    {boundOp : Value} {boundOpDim : Nat} (listed : target ∈ shape)
    (bounded : target.boundOp = some (boundOp, boundOpDim)) :
    ∃ operand ∈ operands, ∃ i, boundOp = operand.value ∧ i < operand.type.rank ∧
      boundOpDim = operand.type.rank - 1 - i ∧ fromRight shape i = target := by
  obtain ⟨place, below, rfl⟩ := List.mem_iff_getElem.mp (List.mem_reverse.mpr listed)
  have here : fromRight shape place = shape.reverse[place] := by
    rw [fromRight, List.getD_eq_getElem?_getD, List.getElem?_eq_getElem below, Option.getD_some]
  obtain ⟨operand, operandListed, same⟩ := is.mem place
  rw [← here, same] at bounded
  obtain ⟨value, inside, dim⟩ := boundOp_fromRight bounded
  exact ⟨operand, operandListed, place, value, inside, dim, here⟩

/-- Dimensions are made dynamic by verified operations unless there is a scale for each position
along a dimension. -/
theorem verified_foldl_markDynamic {pairs : List (DimensionInfo × DimensionInfo)} {done : List Dim}
    {elementType : ElementType}
    (typed : input.type = .ofDims (done ++ pairs.map fun pair => pair.1.dim) elementType)
    (pads : ∀ pair ∈ pairs, Pads pair.1 pair.2)
    (bounds : ∀ pair ∈ pairs, ∀ boundOp boundOpDim, pair.2.boundOp = some (boundOp, boundOpDim) →
      (isValidQuantizedDimension boundOp.type ∧ boundOpDim < boundOp.type.rank) ∧
        boundOp.Verified) :
    ((pairs.zipIdx done.length).foldl markDynamic input).Verified ↔
      input.Verified ∧ ((∃ pair ∈ pairs, pair.1.boundOp.isSome = false ∧
        pair.2.boundOp.isSome = true) → elementType = .plain) := by
  induction pairs generalizing done input with
  | nil =>
    refine (and_iff_left ?_).symm
    rintro ⟨pair, listed, -⟩
    cases listed
  | cons pair pairs ih =>
    rw [List.forall_mem_cons] at pads bounds
    have rest := ih (type_markDynamic typed pads.1) pads.2 bounds.2
    rw [List.length_append, List.length_singleton] at rest
    rw [List.zipIdx_cons, List.foldl_cons, rest]
    rcases @markDynamic_cases input pair.1 pair.2 done.length pads.1 with
      ⟨same, kept⟩ | ⟨boundOp, boundOpDim, padded, bounded, marked⟩
    · rw [kept]
      refine and_congr_right fun _ => imp_congr_left ⟨?_, ?_⟩
      · rintro ⟨other, listed, both⟩
        exact ⟨other, .tail _ listed, both⟩
      · rintro ⟨other, listed, both⟩
        rcases List.mem_cons.mp listed with rfl | later
        · rw [same, both.2] at both
          exact absurd both.1 (by simp)
        · exact ⟨other, later, both⟩
    · -- The operation is verified for elements that do not have a scale for each position.
      have marks : ∃ other ∈ pair :: pairs, other.1.boundOp.isSome = false ∧
          other.2.boundOp.isSome = true :=
        ⟨pair, .head _, by rw [padded]; rfl, by rw [bounded]; rfl⟩
      have inside : done.length < input.type.rank := by
        rw [typed, TensorType.rank, TensorType.ofDims, List.length_append, List.map_cons,
          List.length_cons]
        omega
      have element : input.type.elementType = elementType := congrArg TensorType.elementType typed
      obtain ⟨valid, boundVerified⟩ := bounds.1 boundOp boundOpDim bounded
      rw [marked, Value.Verified, element]
      constructor
      · rintro ⟨⟨-, ⟨plain, -⟩, verified, -⟩, -⟩
        exact ⟨verified, fun _ => plain⟩
      · rintro ⟨verified, plain⟩
        exact ⟨⟨valid, ⟨plain marks, inside⟩, verified, boundVerified⟩, fun _ => plain marks⟩

/-- As many dimensions are bounded in a broadcast as in the operand. -/
theorem countP_padded (maps : List.Forall₂ MapsTo operand.type.dims targets) :
    ((padded operand.type.dims front targets).map DimensionInfo.dim).countP Dim.isBounded =
      operand.type.dims.countP Dim.isBounded := by
  have front' : ((front.map fun target => (⟨target.size, none⟩ : DimensionInfo)).map
      DimensionInfo.dim).countP Dim.isBounded = 0 := by
    rw [List.countP_eq_zero]
    intro dim listed
    simp only [List.map_map, List.mem_map, Function.comp_apply] at listed
    obtain ⟨target, -, rfl⟩ := listed
    exact Bool.false_ne_true
  rw [padded, List.map_append, List.countP_append, front', Nat.zero_add]
  generalize operand.type.dims = dims at maps ⊢
  induction maps with
  | nil => rfl
  | @cons dim target dims targets here _ ih =>
    have same : (padDim dim target).dim.isBounded = dim.isBounded := by
      rw [DimensionInfo.isBounded_dim]
      unfold padDim
      split
      · next bounded => rw [here.2 bounded, bounded]
      · next static => exact (Bool.eq_false_iff.mpr static).symm
    rw [List.zipWith_cons_cons, List.map_cons, List.countP_cons, List.countP_cons, ih, same]

/-- The dimension that one of an operand is broadcast to. -/
theorem getElem?_padded {dims : List Dim} {dim : Dim} {target : DimensionInfo}
    (found : dims[i]? = some dim) (targetFound : targets[i]? = some target) :
    ((padded dims front targets).map DimensionInfo.dim)[front.length + i]? =
      some (padDim dim target).dim := by
  rw [padded, List.map_append,
    List.getElem?_append_right (by rw [List.length_map, List.length_map]; omega), List.length_map,
    List.length_map, Nat.add_sub_cancel_left, List.getElem?_map,
    List.getElem?_zipWith_eq_some.mpr ⟨dim, target, found, targetFound, rfl⟩, Option.map_some]

/-- The dimensions of an operand are the last ones. -/
theorem getElem?_lastDims {rank : Nat} (inside : i < rank) :
    (lastDims front rank)[i]? = some ((front.length + i : Nat) : Int) := by
  rw [lastDims, List.getElem?_map, List.getElem?_range' inside, Nat.one_mul]
  rfl

/-- A broadcast is verified when the operand has at most one bounded dimension, and one with a scale
for each position keeps its place and its size. -/
theorem verifyBroadcastInDimOp_iff (maps : List.Forall₂ MapsTo operand.type.dims targets) :
    VerifyBroadcastInDimOp operand.type (lastDims front operand.type.rank)
        (getRankedTensorType (padded operand.type.dims front targets) operand.type.elementType) ↔
      hasStaticOrSingleBoundedShape operand.type ∧
        ∀ numScales axis, operand.type.elementType = .perAxis numScales axis →
          front = [] ∧ ∀ size, operand.type.dims[axis]? = some (.static size) →
            ∃ target, targets[axis]? = some target ∧ target.size = size := by
  have count : operand.type.dims.length = targets.length := maps.length_eq
  -- Where there are scales, the quantized dimension is one of the operand.
  have axisInside : ∀ numScales axis, operand.type.elementType = .perAxis numScales axis →
      ∃ dim, operand.type.dims[axis]? = some dim ∧ ∀ size, dim = .static size →
        numScales = size := by
    intro numScales axis element
    have valid := operand.valid
    simp only [isValidQuantizedDimension, element] at valid
    split at valid
    · exact valid.elim
    · next size found =>
      exact ⟨_, found, fun other same => valid.trans (Dim.static.inj same)⟩
    · next bound found =>
      exact ⟨_, found, fun other same => nomatch same⟩
  have targetOf : ∀ (axis : Nat) (dim : Dim), operand.type.dims[axis]? = some dim →
      ∃ target, targets[axis]? = some target := by
    intro axis dim found
    obtain ⟨below, -⟩ := List.getElem?_eq_some_iff.mp found
    exact ⟨_, List.getElem?_eq_getElem (count ▸ below)⟩
  constructor
  · rintro ⟨-, result, shape, -, -, -, -, -, quantization⟩
    refine ⟨?_, fun numScales axis element => ?_⟩
    · rw [hasStaticOrSingleBoundedShape, ← @countP_padded front targets operand maps]
      exact shape
    · obtain ⟨dim, found, scales⟩ := axisInside numScales axis element
      obtain ⟨below, -⟩ := List.getElem?_eq_some_iff.mp found
      simp only [verifyBroadcastInDimOpQuantConstraints, element] at quantization
      have place := quantization.1
      rw [getElem?_lastDims (show _ < operand.type.rank from below), Option.some.injEq,
        Int.natCast_inj] at place
      have empty : front = [] := List.length_eq_zero_iff.mp (by omega)
      refine ⟨empty, fun size same => ?_⟩
      obtain ⟨target, targetFound⟩ := targetOf axis dim found
      refine ⟨target, targetFound, ?_⟩
      rw [found, Option.some.injEq] at same
      subst same
      have there := @getElem?_padded front targets axis _ _ _ found targetFound
      rw [empty, List.length_nil, Nat.zero_add] at there
      simp only [isValidQuantizedDimension, getRankedTensorType, TensorType.ofDims, element, empty,
        there] at result
      have positions : numScales = target.size := result
      rw [← positions]
      exact scales size rfl
  · rintro ⟨shape, kept⟩
    refine ⟨operand.valid, ?_, ?_, rfl, ?_, ?_, ?_, ?_, ?_⟩
    · unfold isValidQuantizedDimension
      cases element : operand.type.elementType with
      | plain => trivial
      | perAxis numScales axis =>
        obtain ⟨dim, found, scales⟩ := axisInside numScales axis element
        obtain ⟨empty, sizes⟩ := kept numScales axis element
        obtain ⟨target, targetFound⟩ := targetOf axis dim found
        have there := @getElem?_padded front targets axis _ _ _ found targetFound
        rw [empty, List.length_nil, Nat.zero_add] at there
        simp only [getRankedTensorType, TensorType.ofDims, empty, there]
        cases dim with
        | static size =>
          obtain ⟨other, otherFound, same⟩ := sizes size found
          rw [targetFound, Option.some.injEq] at otherFound
          subst otherFound
          show numScales = target.size
          rw [same]
          exact scales size rfl
        | bounded bound =>
          obtain ⟨below, value⟩ := List.getElem?_eq_some_iff.mp found
          obtain ⟨targetBelow, targetValue⟩ := List.getElem?_eq_some_iff.mp targetFound
          have here := (List.forall₂_iff_get.mp maps).2 axis below targetBelow
          simp only [List.get_eq_getElem, value, targetValue] at here
          have bounded := here.2 rfl
          obtain ⟨op, present⟩ := Option.isSome_iff_exists.mp bounded
          simp only [padDim, Dim.isBounded, if_true, DimensionInfo.dim, present]
    · show ((padded operand.type.dims front targets).map DimensionInfo.dim).countP _ ≤ 1
      rw [countP_padded maps]
      exact shape
    · rw [lastDims, List.length_map, List.length_range']
    · exact (List.nodup_range').map fun _ _ same => Int.natCast_inj.mp same
    · intro dimIndex listed
      obtain ⟨place, placeListed, rfl⟩ := List.mem_map.mp listed
      rw [List.mem_range'_1] at placeListed
      refine ⟨Int.natCast_nonneg _, ?_⟩
      have rank : (getRankedTensorType (padded operand.type.dims front targets)
          operand.type.elementType).rank = front.length + operand.type.rank := by
        rw [getRankedTensorType, TensorType.rank, TensorType.ofDims, List.length_map, padded,
          List.length_append, List.length_map, List.length_zipWith, ← count, Nat.min_self]
        rfl
      rw [rank]
      exact Int.ofNat_lt.mpr placeListed.2
    · intro place size dimIndex found index
      obtain ⟨below, value⟩ := List.getElem?_eq_some_iff.mp found
      obtain ⟨target, targetFound⟩ := targetOf place _ found
      rw [getElem?_lastDims (show _ < operand.type.rank from below), Option.some.injEq] at index
      subst index
      obtain ⟨targetBelow, targetValue⟩ := List.getElem?_eq_some_iff.mp targetFound
      have here := (List.forall₂_iff_get.mp maps).2 place below targetBelow
      simp only [List.get_eq_getElem, value, targetValue] at here
      refine here.1.imp_right fun same => ?_
      rw [Int.toNat_natCast]
      refine (getElem?_padded found targetFound).trans ?_
      exact congrArg some (congrArg Dim.static same.symm)
    · unfold verifyBroadcastInDimOpQuantConstraints
      cases element : operand.type.elementType with
      | plain => trivial
      | perAxis numScales axis =>
        obtain ⟨dim, found, -⟩ := axisInside numScales axis element
        obtain ⟨empty, sizes⟩ := kept numScales axis element
        obtain ⟨below, -⟩ := List.getElem?_eq_some_iff.mp found
        refine ⟨?_, fun unit => ?_⟩
        · rw [getElem?_lastDims (show _ < operand.type.rank from below), empty, List.length_nil,
            Nat.zero_add]
        · obtain ⟨target, targetFound, same⟩ := sizes 1 unit
          have there := @getElem?_padded front targets axis _ _ _ unit targetFound
          rw [empty, List.length_nil, Nat.zero_add] at there
          rw [empty]
          exact there.trans (congrArg some (congrArg Dim.static same))

/-- Elements of two shapes at the same place are those at the same distance from the right. -/
theorem exists_pair_iff {a b : Dimensions} (rank : a.length = b.length)
    {P : DimensionInfo → DimensionInfo → Prop} (none : ¬ P ⟨1, none⟩ ⟨1, none⟩) :
    (∃ pair ∈ a.zip b, P pair.1 pair.2) ↔ ∃ i, P (fromRight a i) (fromRight b i) := by
  have reversed : ∀ i, i < a.length → fromRight a i = a.reverse.getD i ⟨1, .none⟩ ∧
      (a.zip b).reverse[i]? = some (fromRight a i, fromRight b i) := by
    intro i inside
    have left : i < a.reverse.length := by rwa [List.length_reverse]
    have right : i < b.reverse.length := by rwa [List.length_reverse, ← rank]
    refine ⟨rfl, ?_⟩
    have zipped : (a.zip b).reverse = a.reverse.zip b.reverse :=
      List.reverse_zipWith rank
    rw [zipped, List.getElem?_zip_eq_some]
    simp only [fromRight, List.getD_eq_getElem?_getD, List.getElem?_eq_getElem left,
      List.getElem?_eq_getElem right, Option.getD_some, and_self]
  constructor
  · rintro ⟨pair, listed, holds⟩
    obtain ⟨i, below, same⟩ := List.mem_iff_getElem.mp (List.mem_reverse.mpr listed)
    rw [List.length_reverse, List.length_zip, ← rank, Nat.min_self] at below
    have found := (reversed i below).2
    rw [List.getElem?_eq_getElem (by
      rwa [List.length_reverse, List.length_zip, ← rank, Nat.min_self]), same,
      Option.some.injEq] at found
    subst found
    exact ⟨i, holds⟩
  · rintro ⟨i, holds⟩
    rcases Nat.lt_or_ge i a.length with inside | outside
    · exact ⟨_, List.mem_reverse.mp (List.mem_of_getElem? (reversed i inside).2), holds⟩
    · rw [fromRight_of_le outside, fromRight_of_le (rank ▸ outside)] at holds
      exact absurd holds none

/-- Counted from the right, each dimension of an operand is padded to that of the shape. -/
theorem fromRight_padded (count : operand.type.dims.length = targets.length)
    (inside : i < (front ++ targets).length) :
    fromRight (padded operand.type.dims front targets) i =
      padDim (operand.dimAt i) (fromRight (front ++ targets) i) := by
  have reversed : (padded operand.type.dims front targets).reverse =
      List.zipWith padDim operand.type.dims.reverse targets.reverse ++
        front.reverse.map fun target => ⟨target.size, none⟩ := by
    rw [padded, List.reverse_append, ← List.reverse_zipWith count, List.map_reverse]
  have zipped : (List.zipWith padDim operand.type.dims.reverse targets.reverse).length =
      targets.length := by
    rw [List.length_zipWith, List.length_reverse, List.length_reverse, count, Nat.min_self]
  rw [List.length_append] at inside
  simp only [fromRight, reversed, Operand.dimAt, List.getD_eq_getElem?_getD, List.reverse_append]
  rcases Nat.lt_or_ge i targets.length with last | before
  · have left : i < operand.type.dims.reverse.length := by rwa [List.length_reverse, count]
    have right : i < targets.reverse.length := by rwa [List.length_reverse]
    rw [List.getElem?_append_left (by rwa [zipped]), List.getElem?_append_left right,
      List.getElem?_zipWith_eq_some.mpr ⟨_, _, List.getElem?_eq_getElem left,
        List.getElem?_eq_getElem right, rfl⟩, List.getElem?_eq_getElem left,
      List.getElem?_eq_getElem right]
    rfl
  · -- The operand has no dimension there, and the shape has one in front.
    have place : i - targets.length < front.reverse.length := by
      rw [List.length_reverse]
      omega
    rw [List.getElem?_append_right (by rwa [zipped]), zipped,
      List.getElem?_append_right (by rwa [List.length_reverse]), List.length_reverse,
      List.getElem?_map, List.getElem?_eq_getElem place,
      List.getElem?_eq_none (by rwa [List.length_reverse, count])]
    rfl

/-- A dimension that is not one of an operand is static and has one position. -/
theorem dimAt_of_le (outside : operand.type.rank ≤ i) : operand.dimAt i = .static 1 := by
  rw [Operand.dimAt, List.getD_eq_getElem?_getD, List.getElem?_eq_none (by
    rw [List.length_reverse]
    exact outside)]
  rfl

/-- What is padded is bounded where the operand is. -/
theorem isSome_fromRight_padded (maps : List.Forall₂ MapsTo operand.type.dims targets) (i : Nat) :
    (fromRight (padded operand.type.dims front targets) i).boundOp.isSome =
      (operand.dimAt i).isBounded := by
  have count : operand.type.dims.length = targets.length := maps.length_eq
  have length := (@forall₂_padded front targets _ count).length_eq
  have here := (@forall₂_mapsTo_iff _ operand front targets rfl count).mp maps i
  rcases Nat.lt_or_ge i (front ++ targets).length with inside | outside
  · rw [fromRight_padded count inside]
    unfold padDim
    split
    · next bounded =>
      rcases here with mapped | beyond
      · rw [mapped.2 bounded, bounded]
      · rw [dimAt_of_le beyond] at bounded
        cases bounded
    · next static => exact (Bool.eq_false_iff.mpr static).symm
  · -- There is a dimension of one position in front of both.
    have beyond : operand.type.rank ≤ i := by
      rw [List.length_append] at outside
      exact le_trans (le_of_eq_of_le count (Nat.le_add_left _ _)) outside
    rw [fromRight_of_le (length ▸ outside), dimAt_of_le beyond]
    rfl

/-- The value that is computed for an operand is verified. -/
theorem verified_lowered (is : IsBroadcastShape operands shape) (split : shape = front ++ targets)
    (maps : List.Forall₂ MapsTo operand.type.dims targets) :
    (lowered operand front targets).Verified ↔
      VerifyBroadcastInDimOp operand.type (lastDims front operand.type.rank)
          (getRankedTensorType (padded operand.type.dims front targets) operand.type.elementType) ∧
        ((∃ i, (operand.dimAt i).isBounded = false ∧ (fromRight shape i).boundOp.isSome = true) →
          operand.type.elementType = .plain) := by
  have pads := @forall₂_padded front targets _ maps.length_eq
  have verified := @verified_foldl_markDynamic
    (.broadcastInDim
      (getRankedTensorType (padded operand.type.dims front targets) operand.type.elementType)
      operand.value (lastDims front operand.type.rank))
    ((padded operand.type.dims front targets).zip (front ++ targets)) [] operand.type.elementType
    (by
      rw [List.nil_append, ← Function.comp_def DimensionInfo.dim Prod.fst, ← List.map_map,
        List.map_fst_zip (Nat.le_of_eq pads.length_eq)]
      rfl)
    (fun pair listed => (List.forall₂_iff_zip.mp pads).2 (show (pair.1, pair.2) ∈ _ from listed))
    (by
      intro pair listed boundOp boundOpDim bounded
      have inShape : pair.2 ∈ shape := split ▸ (List.of_mem_zip (show (pair.1, pair.2) ∈ _ from
        listed)).2
      obtain ⟨other, -, i, rfl, inside, rfl, -⟩ := is.boundOp_eq inShape bounded
      refine ⟨⟨other.valid, ?_⟩, trivial⟩
      show other.type.rank - 1 - i < other.type.rank
      omega)
  have pairs := @exists_pair_iff (padded operand.type.dims front targets) (front ++ targets)
    pads.length_eq (fun left right => left.boundOp.isSome = false ∧ right.boundOp.isSome = true)
    (by simp)
  simp only [isSome_fromRight_padded maps] at pairs
  refine verified.trans ?_
  rw [pairs, ← split]
  exact and_congr_left fun _ => and_iff_left trivial

/-- A dimension of the common type is static when no operand would have to be made dynamic. -/
theorem getElem?_commonDims_iff
    (dims : shape.map DimensionInfo.dim = commonDims operands)
    (aligned : ∀ i, joint (column operands i) = (fromRight shape i).dim)
    (maps : List.Forall₂ MapsTo operand.type.dims shape)
    (kept : ∀ i, (joint (column operands i)).isBounded = true →
      (operand.dimAt i).isBounded = true) {axis size : Nat}
    (found : operand.type.dims[axis]? = some (.static size)) :
    (∃ target, shape[axis]? = some target ∧ target.size = size) ↔
      (commonDims operands)[axis]? = some (.static size) := by
  have count : operand.type.dims.length = shape.length := maps.length_eq
  obtain ⟨below, value⟩ := List.getElem?_eq_some_iff.mp found
  have inside : axis < shape.length := count ▸ below
  rw [← dims, List.getElem?_map, List.getElem?_eq_getElem inside, Option.map_some,
    Option.some.injEq]
  -- Counted from the right, the dimensions of the operand and of the shape are aligned.
  have place : shape.length - 1 - axis < shape.reverse.length := by
    rw [List.length_reverse]
    omega
  have target : fromRight shape (shape.length - 1 - axis) = shape[axis] := by
    rw [fromRight, List.getD_eq_getElem?_getD, List.getElem?_eq_getElem place, Option.getD_some,
      List.getElem_reverse]
    congr 1
    omega
  have source : operand.dimAt (shape.length - 1 - axis) = .static size := by
    have sourcePlace : shape.length - 1 - axis < operand.type.dims.reverse.length := by
      rw [List.length_reverse]
      omega
    rw [Operand.dimAt, List.getD_eq_getElem?_getD, List.getElem?_eq_getElem sourcePlace,
      Option.getD_some, List.getElem_reverse, ← value]
    congr 1
    omega
  have static : shape[axis].boundOp.isSome = false := by
    refine Bool.eq_false_iff.mpr fun bounded => ?_
    have marked := kept (shape.length - 1 - axis)
      (by rw [aligned, target, DimensionInfo.isBounded_dim]; exact bounded)
    rw [source] at marked
    cases marked
  constructor
  · rintro ⟨other, same, size⟩
    rw [Option.some.injEq] at same
    subst same
    exact Dim.eq_of_size (by rw [DimensionInfo.size_dim]; exact size)
      (by rw [DimensionInfo.isBounded_dim]; exact static)
  · intro same
    refine ⟨_, rfl, ?_⟩
    rw [← DimensionInfo.size_dim, same]
    rfl

/-- An operand that is lowered has a verified result when it has at most one bounded dimension, and
one with a scale for each position keeps its dimensions. -/
theorem verified_lowered_iff (is : IsBroadcastShape operands shape)
    (dims : shape.map DimensionInfo.dim = commonDims operands)
    (aligned : ∀ i, joint (column operands i) = (fromRight shape i).dim)
    (split : shape = front ++ targets) (maps : List.Forall₂ MapsTo operand.type.dims targets) :
    (lowered operand front targets).Verified ↔
      hasStaticOrSingleBoundedShape operand.type ∧
      ∀ numScales axis, operand.type.elementType = .perAxis numScales axis →
        operand.type.rank = maxRank operands ∧
        (∀ size, operand.type.dims[axis]? = some (.static size) →
          (commonDims operands)[axis]? = some (.static size)) ∧
        ∀ i, (joint (column operands i)).isBounded = true →
          (operand.dimAt i).isBounded = true := by
  have count : operand.type.rank = targets.length := maps.length_eq
  -- There are no new dimensions exactly when the operand has the largest rank.
  have rank : front = [] ↔ operand.type.rank = maxRank operands := by
    rw [← is.rank, split, List.length_append, ← List.length_eq_zero_iff, count]
    omega
  have bounded : ∀ i, (joint (column operands i)).isBounded =
      (fromRight shape i).boundOp.isSome := by
    intro i
    rw [aligned, DimensionInfo.isBounded_dim]
  rw [verified_lowered is split maps, verifyBroadcastInDimOp_iff maps, and_assoc]
  refine and_congr_right fun _ => ?_
  constructor
  · rintro ⟨each, plain⟩ numScales axis element
    obtain ⟨empty, sizes⟩ := each numScales axis element
    have kept : ∀ i, (joint (column operands i)).isBounded = true →
        (operand.dimAt i).isBounded = true := by
      intro i here
      by_contra static
      rw [Bool.not_eq_true] at static
      have absurdly := plain ⟨i, static, (bounded i).symm.trans here⟩
      rw [element] at absurdly
      cases absurdly
    rw [empty, List.nil_append] at split
    subst split
    exact ⟨rank.mp empty, fun size found =>
      (getElem?_commonDims_iff dims aligned maps kept found).mp (sizes size found), kept⟩
  · intro each
    refine ⟨fun numScales axis element => ?_, ?_⟩
    · obtain ⟨largest, sizes, kept⟩ := each numScales axis element
      have empty := rank.mpr largest
      refine ⟨empty, fun size found => ?_⟩
      rw [empty, List.nil_append] at split
      subst split
      exact (getElem?_commonDims_iff dims aligned maps kept found).mpr (sizes size found)
    · rintro ⟨i, static, here⟩
      cases element : operand.type.elementType with
      | plain => rfl
      | perAxis numScales axis =>
        obtain ⟨-, -, kept⟩ := each numScales axis element
        rw [kept i ((bounded i).trans here)] at static
        cases static

/-- The results for operands are verified exactly when the operands that do not have the common type
can be broadcast by verified operations. -/
theorem verified_iff {results : List Value}
    (made : numpyBroadcastAllIfNeeded (operands.map Operand.value) = .ok results) :
    (∀ result ∈ results, result.Verified) ↔ Verifiable operands := by
  obtain ⟨shape, is, bounded, each⟩ := exists_results made
  have dims := is.map_dim bounded (.refl operands)
  have aligned := is.dim_eq bounded (.refl operands)
  -- Operands are looked at one by one.
  have one : ∀ operand ∈ operands, ∀ result,
      numpyBroadcastIfNeeded operand.value shape = .ok result → (result.Verified ↔
        (operand.type ≠ .ofDims (commonDims operands) operand.type.elementType →
          hasStaticOrSingleBoundedShape operand.type ∧
          ∀ numScales axis, operand.type.elementType = .perAxis numScales axis →
            operand.type.rank = maxRank operands ∧
            (∀ size, operand.type.dims[axis]? = some (.static size) →
              (commonDims operands)[axis]? = some (.static size)) ∧
            ∀ i, (joint (column operands i)).isBounded = true →
              (operand.dimAt i).isBounded = true)) := by
    intro operand listed result here
    have type : TensorType.ofDims (commonDims operands) operand.type.elementType =
        getRankedTensorType shape operand.type.elementType := by
      rw [← dims]
      rfl
    rw [type]
    obtain ⟨-, ⟨same, rfl⟩ | ⟨differs, front, targets, split, -, maps, rfl⟩⟩ :=
      (numpyBroadcastIfNeeded_outcome is listed).mp here
    · exact iff_of_true trivial fun differs => absurd same differs
    · rw [verified_lowered_iff is dims aligned split maps]
      exact ⟨fun holds _ => holds, fun holds => holds differs⟩
  constructor
  · intro verified operand listed
    obtain ⟨result, resultListed, -, here⟩ := (exists_related each).1 operand listed
    exact (one operand listed result here).mp (verified result resultListed)
  · intro verifiable result listed
    obtain ⟨operand, -, operandListed, here⟩ := (exists_related each).2 result listed
    exact (one operand operandListed result here).mpr (verifiable operand operandListed)

end Verified

end Stablehlo.BroadcastLowering
