import Stablehlo.Transforms.BroadcastLowering

/-! Which operands are broadcast to a common type whatever their order is. -/

namespace Stablehlo.BroadcastLowering

section Columns

@[simp]
theorem DimensionInfo.size_dim (info : DimensionInfo) : info.dim.size = info.size := by
  unfold dim
  split <;> rfl

@[simp]
theorem DimensionInfo.isBounded_dim (info : DimensionInfo) :
    info.dim.isBounded = info.boundOp.isSome := by
  unfold dim
  split
  · next found => rw [found]; rfl
  · next found => rw [found]; rfl

/-- A dimension is its size and whether that is a bound. -/
theorem Dim.eq_of_size {x y : Dim} (size : x.size = y.size) (bounded : x.isBounded = y.isBounded) :
    x = y := by
  cases x <;> cases y <;> simp_all [Dim.size, isBounded]

variable {a b shape : Dimensions} {i : Nat}

/-- There is a dimension of size one in front of all of them. -/
theorem fromRight_of_le (outside : a.length ≤ i) : fromRight a i = ⟨1, none⟩ := by
  rw [fromRight, List.getD_eq_getElem?_getD,
    List.getElem?_eq_none (by rw [List.length_reverse]; exact outside), Option.getD_none]

/-- Shapes with the same dimensions from the right are the same. -/
theorem eq_of_fromRight (rank : a.length = b.length) (same : ∀ i, fromRight a i = fromRight b i) :
    a = b := by
  refine List.reverse_injective (List.ext_getElem? fun i => ?_)
  rcases Nat.lt_or_ge i a.length with inside | outside
  · have here := same i
    have left : i < a.reverse.length := by rwa [List.length_reverse]
    have right : i < b.reverse.length := by rwa [List.length_reverse, ← rank]
    simp only [fromRight, List.getD_eq_getElem?_getD, List.getElem?_eq_getElem left,
      List.getElem?_eq_getElem right, Option.getD_some] at here ⊢
    rw [here]
  · rw [List.getElem?_eq_none (by rw [List.length_reverse]; exact outside),
      List.getElem?_eq_none (by rw [List.length_reverse, ← rank]; exact outside)]

/-- What two aligned dimensions are broadcast to is one of them. -/
theorem broadcastDim_eq_ok {x y dim : DimensionInfo} :
    broadcastDim x y = .ok dim ↔ (x.size = 1 ∧ dim = y) ∨
      (x.size ≠ 1 ∧ dim = x ∧
        (y.size ≠ 1 → x.size = y.size ∧ x.boundOp.isSome = y.boundOp.isSome)) := by
  unfold broadcastDim
  split
  · next unit =>
    refine ⟨fun same => .inl ⟨unit, (Except.ok.inj same).symm⟩, ?_⟩
    rintro (⟨-, rfl⟩ | ⟨other, -⟩)
    · rfl
    · exact absurd unit other
  · next large =>
    split
    · next unit =>
      refine ⟨fun same => .inr ⟨large, (Except.ok.inj same).symm, fun other => absurd unit other⟩,
        ?_⟩
      rintro (⟨other, -⟩ | ⟨-, rfl, -⟩)
      · exact absurd other large
      · rfl
    · next largeToo =>
      split
      · next differ =>
        refine ⟨fun same => (nomatch same), ?_⟩
        rintro (⟨other, -⟩ | ⟨-, -, alike⟩)
        · exact absurd other large
        · exact absurd (alike largeToo).1 differ
      · next same =>
        split
        · next differ =>
          refine ⟨fun same => (nomatch same), ?_⟩
          rintro (⟨other, -⟩ | ⟨-, -, alike⟩)
          · exact absurd other large
          · exact absurd (alike largeToo).2 differ
        · next alike =>
          refine ⟨fun done => .inr ⟨large, (Except.ok.inj done).symm, fun _ =>
            ⟨not_not.mp same, not_not.mp alike⟩⟩, ?_⟩
          rintro (⟨other, -⟩ | ⟨-, rfl, -⟩)
          · exact absurd other large
          · rfl

/-- Shapes are broadcast dimension by dimension, from the right. -/
theorem getNumpyBroadcastShapeWithBounds_eq_ok :
    getNumpyBroadcastShapeWithBounds a b = .ok shape ↔
      shape.length = max a.length b.length ∧
        ∀ i, broadcastDim (fromRight a i) (fromRight b i) = .ok (fromRight shape i) := by
  unfold getNumpyBroadcastShapeWithBounds
  simp only [Fallible.bind_eq_ok, Except.ok.injEq, Fallible.mapM_eq_ok_iff, List.forall₂_iff_get,
    List.length_range, List.get_eq_getElem, List.getElem_range]
  constructor
  · rintro ⟨result, ⟨count, each⟩, rfl⟩
    refine ⟨by rw [List.length_reverse, ← count], fun i => ?_⟩
    rcases Nat.lt_or_ge i result.length with inside | outside
    · have here := each i (by omega) inside
      rw [here, fromRight, List.reverse_reverse, List.getD_eq_getElem?_getD,
        List.getElem?_eq_getElem inside, Option.getD_some]
    · -- Both shapes have ones there.
      rw [fromRight_of_le (show a.length ≤ i by omega),
        fromRight_of_le (show b.length ≤ i by omega),
        fromRight_of_le (show result.reverse.length ≤ i by rw [List.length_reverse]; exact outside)]
      rfl
  · rintro ⟨count, each⟩
    refine ⟨shape.reverse, ⟨by rw [List.length_reverse, count], fun i _ inside => ?_⟩,
      List.reverse_reverse shape⟩
    rw [each i, fromRight, List.getD_eq_getElem?_getD, List.getElem?_eq_getElem inside,
      Option.getD_some]

/-- Shapes are broadcast when their dimensions are. -/
theorem exists_getNumpyBroadcastShapeWithBounds
    (each : ∀ i, ∃ dim, broadcastDim (fromRight a i) (fromRight b i) = .ok dim) :
    ∃ shape, getNumpyBroadcastShapeWithBounds a b = .ok shape := by
  obtain ⟨result, made⟩ := @Fallible.mapM_succeeds _ _ _ (List.range (max a.length b.length))
    (fun i => broadcastDim (fromRight a i) (fromRight b i)) fun i _ => each i
  exact ⟨result.reverse, by rw [getNumpyBroadcastShapeWithBounds, made]; rfl⟩

/-- A list of shapes is broadcast dimension by dimension. -/
theorem foldlM_shapes_eq_ok {ops : List Value} :
    ops.foldlM (fun bcastShape currOp =>
        getNumpyBroadcastShapeWithBounds bcastShape (getDimensions currOp)) a = .ok shape ↔
      shape.length = max a.length ((ops.map fun op => op.type.rank).foldr max 0) ∧
        ∀ i, (ops.map fun op => fromRight (getDimensions op) i).foldlM broadcastDim
          (fromRight a i) = .ok (fromRight shape i) := by
  induction ops generalizing a with
  | nil =>
    simp only [List.foldlM_nil, List.map_nil, List.foldr_nil, Nat.max_zero, pure, Except.pure,
      Except.ok.injEq]
    constructor
    · rintro rfl
      exact ⟨rfl, fun _ => rfl⟩
    · rintro ⟨rank, same⟩
      exact eq_of_fromRight rank.symm same
  | cons op ops ih =>
    have rank : (getDimensions op).length = op.type.rank := by
      rw [getDimensions, List.length_map, List.length_zipIdx]
      rfl
    simp only [List.foldlM_cons, List.map_cons, List.foldr_cons, Fallible.bind_eq_ok]
    constructor
    · rintro ⟨next, made, rest⟩
      obtain ⟨nextRank, nextDims⟩ := getNumpyBroadcastShapeWithBounds_eq_ok.mp made
      obtain ⟨shapeRank, shapeDims⟩ := ih.mp rest
      refine ⟨by omega, fun i => ⟨_, nextDims i, shapeDims i⟩⟩
    · rintro ⟨shapeRank, each⟩
      obtain ⟨next, made⟩ :=
        exists_getNumpyBroadcastShapeWithBounds fun i => ⟨_, (each i).choose_spec.1⟩
      obtain ⟨nextRank, nextDims⟩ := getNumpyBroadcastShapeWithBounds_eq_ok.mp made
      refine ⟨next, made, ih.mpr ⟨by omega, fun i => ?_⟩⟩
      obtain ⟨dim, here, rest⟩ := each i
      rw [nextDims i, Except.ok.injEq] at here
      rw [here]
      exact rest

/-- Aligned dimensions are broadcast to one of them, whose size the others have unless it is one.
When all of them have size one, it is the last. -/
theorem foldlM_broadcastDim_spec {first dim : DimensionInfo} {rest : List DimensionInfo}
    (made : rest.foldlM broadcastDim first = .ok dim) :
    dim ∈ first :: rest ∧
      (∀ x ∈ first :: rest, x.size ≠ 1 →
        x.size = dim.size ∧ x.boundOp.isSome = dim.boundOp.isSome) ∧
      (dim.size = 1 → dim = (first :: rest).getLast (List.cons_ne_nil _ _)) := by
  induction rest generalizing first with
  | nil =>
    cases made
    refine ⟨.head _, fun x listed _ => ?_, fun _ => rfl⟩
    rw [List.eq_of_mem_singleton listed]
    exact ⟨rfl, rfl⟩
  | cons second rest ih =>
    rw [List.foldlM_cons] at made
    obtain ⟨next, here, made⟩ := Fallible.bind_eq_ok.mp made
    obtain ⟨listed, alike, last⟩ := ih made
    rw [List.forall_mem_cons] at alike
    rcases broadcastDim_eq_ok.mp here with ⟨unit, rfl⟩ | ⟨large, rfl, agrees⟩
    · refine ⟨.tail _ listed, ?_, last⟩
      rw [List.forall_mem_cons, List.forall_mem_cons]
      exact ⟨fun other => absurd unit other, alike⟩
    · refine ⟨?_, ?_, fun unit => absurd ((alike.1 large).1.trans unit) large⟩
      · rcases List.mem_cons.mp listed with rfl | later
        · exact .head _
        · exact .tail _ (.tail _ later)
      · rw [List.forall_mem_cons, List.forall_mem_cons]
        refine ⟨alike.1, fun largeToo => ?_, alike.2⟩
        obtain ⟨size, bounded⟩ := agrees largeToo
        rw [← size, ← bounded]
        exact alike.1 large

end Columns

section Orders

variable {operands permuted : List Operand} {shape : Dimensions} {i : Nat}

/-- The dimensions of an operand are those of its type. -/
theorem map_dim_getDimensions (operand : Operand) :
    (getDimensions operand.value).map DimensionInfo.dim = operand.type.dims := by
  have each : ∀ entry : Dim × Nat, (getDimensionInfo operand.value entry).dim = entry.1 := by
    rintro ⟨dim, place⟩
    cases dim <;> rfl
  rw [getDimensions, List.map_map]
  exact (List.map_congr_left fun entry _ => each entry).trans (List.zipIdx_map_fst 0 _)

/-- The dimension of an operand is that of its type. -/
theorem dim_fromRight (operand : Operand) (i : Nat) :
    (fromRight (getDimensions operand.value) i).dim = operand.dimAt i := by
  rw [Operand.dimAt, ← map_dim_getDimensions operand, ← List.map_reverse, fromRight,
    List.getD_eq_getElem?_getD, List.getD_eq_getElem?_getD, List.getElem?_map]
  cases (getDimensions operand.value).reverse[i]? <;> rfl

/-- Every operand has at most the largest rank. -/
theorem rank_le_maxRank {operand : Operand} (listed : operand ∈ operands) :
    operand.type.rank ≤ maxRank operands := by
  unfold maxRank
  induction operands with
  | nil => cases listed
  | cons first operands ih =>
    rw [List.map_cons, List.foldr_cons]
    rcases List.mem_cons.mp listed with rfl | later
    · exact Nat.le_max_left _ _
    · exact (ih later).trans (Nat.le_max_right _ _)

/-- The shape that operands are broadcast to has, in each dimension, one that an operand has there.
It has the size and the bound of those whose size is not one, and otherwise it is the last. -/
structure IsBroadcastShape (operands : List Operand) (shape : Dimensions) : Prop where
  rank : shape.length = maxRank operands
  mem : ∀ i, ∃ operand ∈ operands, fromRight shape i = fromRight (getDimensions operand.value) i
  large : ∀ i, ∀ operand ∈ operands, (operand.dimAt i).size ≠ 1 →
    (fromRight shape i).dim = operand.dimAt i
  last : ∀ i, (fromRight shape i).size = 1 → ∀ operand, operands.getLast? = some operand →
    (fromRight shape i).dim = operand.dimAt i

/-- The shape that operands are broadcast to. -/
theorem getNumpyBroadcastShape_spec
    (made : getNumpyBroadcastShape (operands.map Operand.value) = .ok shape) :
    IsBroadcastShape operands shape := by
  cases operands with
  | nil => cases made
  | cons first operands =>
    rw [List.map_cons, getNumpyBroadcastShape] at made
    obtain ⟨rank, each⟩ := foldlM_shapes_eq_ok.mp made
    have spec := fun i => foldlM_broadcastDim_spec (each i)
    have columns : ∀ i, fromRight (getDimensions first.value) i ::
        (operands.map Operand.value).map (fun op => fromRight (getDimensions op) i) =
          (first :: operands).map fun operand => fromRight (getDimensions operand.value) i := by
      intro i
      rw [List.map_cons, List.map_map]
      rfl
    refine ⟨?_, fun i => ?_, fun i operand listed large => ?_, fun i unit operand found => ?_⟩
    · rw [rank, maxRank, List.map_cons, List.foldr_cons, List.map_map, getDimensions,
        List.length_map, List.length_zipIdx]
      rfl
    · have listed := (spec i).1
      rw [columns i] at listed
      obtain ⟨operand, operandListed, same⟩ := List.mem_map.mp listed
      exact ⟨operand, operandListed, same.symm⟩
    · have alike := (spec i).2.1
      rw [columns i] at alike
      rw [← dim_fromRight] at large ⊢
      obtain ⟨size, bounded⟩ := alike _ (List.mem_map_of_mem listed) (by simpa using large)
      apply Dim.eq_of_size
      · simpa using size.symm
      · simpa using bounded.symm
    · have same := (spec i).2.2 unit
      have lastSame : (fromRight (getDimensions first.value) i ::
          (operands.map Operand.value).map (fun op => fromRight (getDimensions op) i)).getLast? =
            some (fromRight (getDimensions operand.value) i) := by
        rw [columns i, List.getLast?_map, found, Option.map_some]
      rw [List.getLast?_eq_some_getLast (List.cons_ne_nil _ _), Option.some.injEq] at lastSame
      rw [same, lastSame, dim_fromRight]

end Orders

section Padding

variable {input : Value} {inputs : List Dim} {infos targets front done shape result : Dimensions}
  {operand : Operand}

/-- A dimension of a value can be mapped to one of a shape. -/
def MapsTo (input : Dim) (target : DimensionInfo) : Prop :=
  (input.size = 1 ∨ input.size = target.size) ∧
    (input.isBounded = true → target.boundOp.isSome = true)

/-- The dimension that a mapped one is broadcast to. -/
def padDim (input : Dim) (target : DimensionInfo) : DimensionInfo :=
  if input.isBounded then target else ⟨target.size, none⟩

/-- A dimension is mapped to the one at its place, which is padded when it is static. -/
theorem mapDimension_eq_ok {info target : DimensionInfo} {i : Nat}
    (found : shape[done.length]? = some target) :
    mapDimension input shape (done ++ target :: targets) ((info, (done.length : Int)), i) =
        .ok result ↔
      MapsTo info.dim target ∧ result = done ++ padDim info.dim target :: targets := by
  have place : (if (done.length : Int) < 0 then none else shape[(done.length : Int).toNat]?) =
      some target := by
    rw [if_neg (by omega), Int.toNat_natCast, found]
  unfold mapDimension
  simp only [place]
  rw [MapsTo, padDim, DimensionInfo.size_dim, DimensionInfo.isBounded_dim]
  split
  · next differ =>
    refine ⟨fun same => (nomatch same), fun both => ?_⟩
    rcases both.1.1 with unit | same
    · exact absurd unit differ.1
    · exact absurd same differ.2
  · next fits =>
    have size : info.size = 1 ∨ info.size = target.size := by
      by_cases unit : info.size = 1
      · exact .inl unit
      · exact .inr (not_not.mp fun differ => fits ⟨unit, differ⟩)
    cases bounded : info.boundOp with
    | some bound =>
      cases targetBounded : target.boundOp with
      | some _ =>
        simp only [Option.isSome_some, Option.isNone_some, Bool.false_eq_true, and_false, if_false,
          false_and, size, true_and, if_true, Except.ok.injEq, imp_self]
        exact eq_comm
      | none => simp
    | none =>
      simp only [Option.isSome_none, Option.isNone_none, Bool.false_eq_true, false_and, if_false,
        false_imp_iff, and_true, size, true_and]
      split
      · rw [List.set_append_right _ _ (Nat.le_of_eq (Int.toNat_natCast _).symm),
          Int.toNat_natCast, Nat.sub_self, List.set_cons_zero, Except.ok.injEq]
        exact eq_comm
      · next same =>
        -- The dimension of the shape is static itself.
        have static : target.boundOp = none := Option.not_isSome_iff_eq_none.mp same
        have whole : (⟨target.size, none⟩ : DimensionInfo) = target := by rw [← static]
        rw [whole, Except.ok.injEq]
        exact eq_comm

/-- The dimensions of a value are mapped to the last ones of a shape. -/
theorem foldlM_mapDimension {offset : Nat} (split : shape = front ++ targets)
    (lengths : done.length = front.length) (count : infos.length = targets.length) :
    ((infos.zip ((List.range' front.length infos.length).map Nat.cast)).zipIdx offset).foldlM
        (mapDimension input shape) (done ++ targets) = .ok result ↔
      List.Forall₂ (fun info target => MapsTo info.dim target) infos targets ∧
        result =
          done ++ List.zipWith (fun info target => padDim info.dim target) infos targets := by
  induction infos generalizing targets front done offset with
  | nil =>
    cases targets with
    | nil => simp [pure, Except.pure, eq_comm]
    | cons target targets => cases count
  | cons info infos ih =>
    cases targets with
    | nil => cases count
    | cons target targets =>
      have found : shape[done.length]? = some target := by
        rw [split, lengths, List.getElem?_append_right (Nat.le_refl _), Nat.sub_self]
        rfl
      rw [List.length_cons, List.range'_succ, List.map_cons, List.zip_cons_cons,
        List.zipIdx_cons, List.foldlM_cons, Fallible.bind_eq_ok, List.forall₂_cons,
        List.zipWith_cons_cons, ← lengths]
      have rest := fun (next : Dimensions) (done' : done ++ [padDim info.dim target] ++ targets =
          next) => done' ▸ @ih targets (front ++ [target]) (done ++ [padDim info.dim target])
        (offset + 1) (by rw [split, List.append_assoc]; rfl)
        (by rw [List.length_append, List.length_append, lengths]; rfl) (Nat.succ.inj count)
      rw [List.length_append, List.length_singleton, ← lengths] at rest
      constructor
      · rintro ⟨next, here, later⟩
        obtain ⟨maps, rfl⟩ := (mapDimension_eq_ok found).mp here
        obtain ⟨restMaps, rfl⟩ := (rest _ (by simp)).mp later
        exact ⟨⟨maps, restMaps⟩, by simp⟩
      · rintro ⟨⟨maps, restMaps⟩, rfl⟩
        exact ⟨_, (mapDimension_eq_ok found).mpr ⟨maps, rfl⟩,
          (rest _ (by simp)).mpr ⟨restMaps, by simp⟩⟩

/-- The shape that a value is broadcast to before its dimensions are made dynamic. -/
def padded (dims : List Dim) (front targets : Dimensions) : Dimensions :=
  front.map (fun target => ⟨target.size, none⟩) ++ List.zipWith padDim dims targets

/-- The broadcast dimensions of an operand: the last ones of the shape. -/
def lastDims (front : Dimensions) (rank : Nat) : List Int :=
  (List.range' front.length rank).map Nat.cast

/-- Dimensions that are not mapped are padded. -/
theorem map_unmapped (dims : List Dim) (count : dims.length = targets.length) :
    (((front ++ List.zipWith padDim dims targets).zip (front ++ targets)).zipIdx.map
      fun ((bcastDim, dim), i) =>
        if (i : Int) ∈ lastDims front dims.length then bcastDim else ⟨dim.size, none⟩) =
      padded dims front targets := by
  have listed : ∀ i : Nat, (i : Int) ∈ lastDims front dims.length ↔
      front.length ≤ i ∧ i < front.length + dims.length := by
    intro i
    simp only [lastDims, List.mem_map, List.mem_range'_1, Int.natCast_inj, exists_eq_right]
  have lengths : (front.zip front).length = front.length := by
    rw [List.length_zip, Nat.min_self]
  rw [List.zip_append rfl, List.zipIdx_append, List.map_append, padded]
  congr 1
  · -- The first dimensions of the shape are not mapped.
    refine List.ext_getElem (by simp) fun i inside _ => ?_
    simp only [List.length_map, List.length_zipIdx, lengths] at inside
    simp only [List.getElem_map, List.getElem_zipIdx, List.getElem_zip, listed]
    rw [if_neg (by omega)]
  · refine List.ext_getElem (by simp [count]) fun i inside _ => ?_
    simp only [List.length_map, List.length_zipIdx, List.length_zip, List.length_zipWith] at inside
    simp only [List.getElem_map, List.getElem_zipIdx, List.getElem_zip, listed, lengths]
    rw [if_pos (by omega)]

/-- The value that is computed for an operand that does not have the type of the shape. -/
def lowered (operand : Operand) (front targets : Dimensions) : Value :=
  ((padded operand.type.dims front targets).zip (front ++ targets)).zipIdx.foldl markDynamic
    (.broadcastInDim
      (getRankedTensorType (padded operand.type.dims front targets) operand.type.elementType)
      operand.value (lastDims front operand.type.rank))

/-- Nothing is made dynamic that is so already. -/
theorem foldl_markDynamic_self {pairs : List (DimensionInfo × DimensionInfo)} {start : Nat}
    (same : ∀ pair ∈ pairs, pair.1.boundOp.isSome = pair.2.boundOp.isSome) :
    (pairs.zipIdx start).foldl markDynamic input = input := by
  induction pairs generalizing start with
  | nil => rfl
  | cons pair pairs ih =>
    rw [List.forall_mem_cons] at same
    obtain ⟨bcastDim, dim⟩ := pair
    have here : markDynamic input ((bcastDim, dim), start) = input := by
      have alike := same.1
      dsimp only at alike
      unfold markDynamic
      dsimp only
      split
      · next left right =>
        rw [left, right] at alike
        cases alike
      · rfl
    rw [List.zipIdx_cons, List.foldl_cons, here, ih same.2]

/-- An operand that does not have the type of a shape is broadcast when its dimensions can be mapped
to the last ones. -/
theorem numpyBroadcastIfNeeded_eq_ok {output : Value} (split : shape = front ++ targets)
    (count : operand.type.dims.length = targets.length)
    (differs : operand.type ≠ getRankedTensorType shape operand.type.elementType) :
    numpyBroadcastIfNeeded operand.value shape = .ok output ↔
      List.Forall₂ MapsTo operand.type.dims targets ∧ output = lowered operand front targets := by
  have rank : operand.value.type.rank = targets.length := count
  have infoCount : (getDimensions operand.value).length = targets.length := by
    rw [getDimensions, List.length_map, List.length_zipIdx]
    exact count
  have dims : (List.range operand.value.type.rank).map (fun i =>
      ((shape.length - operand.value.type.rank + i : Nat) : Int)) =
        lastDims front operand.type.dims.length := by
    rw [lastDims, List.range'_eq_map_range, List.map_map, split, List.length_append, rank, count,
      Nat.add_sub_cancel]
    rfl
  have mapped : ∀ result, ((getDimensions operand.value).zip
      (lastDims front operand.type.dims.length)).zipIdx.foldlM (mapDimension operand.value shape)
        shape = .ok result ↔ List.Forall₂ MapsTo operand.type.dims targets ∧
          result = front ++ List.zipWith padDim operand.type.dims targets := by
    intro result
    have loop := @foldlM_mapDimension operand.value (getDimensions operand.value) targets front
      front shape result 0 split rfl infoCount
    rw [infoCount, ← count] at loop
    rw [← split] at loop
    rw [lastDims]
    refine loop.trans ?_
    rw [← map_dim_getDimensions operand, List.forall₂_map_left_iff, List.zipWith_map_left]
  have outRank :
      (getRankedTensorType shape operand.value.type.elementType).rank = shape.length := by
    rw [getRankedTensorType, TensorType.rank]
    exact List.length_map _
  have fewer : ¬ operand.value.type.rank > shape.length := by
    rw [rank, split, List.length_append]
    omega
  unfold numpyBroadcastIfNeeded
  dsimp only
  rw [if_neg fewer, dims]
  unfold broadcastIfNeeded
  dsimp only
  have differs' : ¬ operand.value.type =
      getRankedTensorType shape operand.value.type.elementType := differs
  rw [if_neg differs', outRank, if_neg fewer,
    if_neg (by rw [lastDims, List.length_map, List.length_range']; exact not_not.mpr rfl),
    Fallible.bind_eq_ok]
  have pads := @map_unmapped targets front operand.type.dims count
  -- Where the padded type is the type of the shape, nothing is left to be made dynamic.
  have marked : getRankedTensorType (padded operand.type.dims front targets)
      operand.value.type.elementType = getRankedTensorType shape operand.value.type.elementType →
        Value.broadcastInDim (getRankedTensorType (padded operand.type.dims front targets)
          operand.value.type.elementType) operand.value
            (lastDims front operand.type.dims.length) = lowered operand front targets := by
    intro same
    have dimsSame : (padded operand.type.dims front targets).map DimensionInfo.dim =
        (front ++ targets).map DimensionInfo.dim := by
      rw [← split]
      exact congrArg TensorType.dims same
    refine (foldl_markDynamic_self fun pair listed => ?_).symm
    have equal := List.forall₂_iff_zip.mp (List.forall₂_map_left_iff.mp
      (List.forall₂_map_right_iff.mp (List.forall₂_eq_eq_eq ▸ dimsSame :
        List.Forall₂ Eq ((padded operand.type.dims front targets).map DimensionInfo.dim)
          ((front ++ targets).map DimensionInfo.dim))))
    have here := congrArg Dim.isBounded (equal.2 (show (pair.1, pair.2) ∈ _ from listed))
    simpa using here
  have outcome : ∀ result, result = front ++ List.zipWith padDim operand.type.dims targets →
      ((let bcastShape := (result.zip shape).zipIdx.map fun ((bcastDim, dim), i) =>
          if (i : Int) ∈ lastDims front operand.type.dims.length then bcastDim
          else (⟨dim.size, none⟩ : DimensionInfo)
        let bcastType := getRankedTensorType bcastShape operand.value.type.elementType
        let bcastOp := Value.broadcastInDim bcastType operand.value
          (lastDims front operand.type.dims.length)
        if bcastType = getRankedTensorType shape operand.value.type.elementType then .ok bcastOp
        else .ok ((bcastShape.zip shape).zipIdx.foldl markDynamic bcastOp) :
          Except BroadcastError Value)) = .ok (lowered operand front targets) := by
    rintro result rfl
    dsimp only
    rw [split, pads, ← split]
    split
    · next same => rw [marked same]
    · rw [split]
      rfl
  constructor
  · rintro ⟨result, loop, made⟩
    obtain ⟨maps, same⟩ := (mapped result).mp loop
    exact ⟨maps, (Except.ok.inj ((outcome result same).symm.trans made)).symm⟩
  · rintro ⟨maps, rfl⟩
    exact ⟨_, (mapped _).mpr ⟨maps, rfl⟩, outcome _ rfl⟩

end Padding

section Successes

variable {operands permuted : List Operand} {shape : Dimensions} {operand : Operand} {i : Nat}

/-- An operand of the type of a shape has its dimensions. -/
theorem dimAt_of_type (same : operand.type = getRankedTensorType shape operand.type.elementType)
    (i : Nat) : operand.dimAt i = (fromRight shape i).dim := by
  have dims : operand.type.dims = shape.map DimensionInfo.dim := congrArg TensorType.dims same
  rw [Operand.dimAt, dims, ← List.map_reverse, List.getD_eq_getElem?_getD, List.getElem?_map,
    fromRight, List.getD_eq_getElem?_getD]
  cases shape.reverse[i]? <;> rfl

/-- Dimensions are mapped to the last ones of a shape when they are aligned with them. -/
theorem forall₂_mapsTo_iff {front targets : Dimensions} (split : shape = front ++ targets)
    (count : operand.type.dims.length = targets.length) :
    List.Forall₂ MapsTo operand.type.dims targets ↔
      ∀ i, MapsTo (operand.dimAt i) (fromRight shape i) ∨ operand.type.rank ≤ i := by
  rw [← List.forall₂_reverse_iff, List.forall₂_iff_get]
  simp only [List.length_reverse, List.get_eq_getElem]
  constructor
  · rintro ⟨-, each⟩ i
    rcases Nat.lt_or_ge i operand.type.rank with inside | outside
    · have insideToo : i < targets.length := count ▸ inside
      have here := each i inside insideToo
      refine .inl ?_
      rw [Operand.dimAt, fromRight, split, List.reverse_append, List.getD_eq_getElem?_getD,
        List.getD_eq_getElem?_getD,
        List.getElem?_append_left (by rw [List.length_reverse]; exact insideToo),
        List.getElem?_eq_getElem (by rw [List.length_reverse]; exact inside),
        List.getElem?_eq_getElem (by rw [List.length_reverse]; exact insideToo)]
      exact here
    · exact .inr outside
  · intro each
    refine ⟨count, fun i inside insideToo => ?_⟩
    have here := (each i).resolve_right (Nat.not_le.mpr inside)
    rw [Operand.dimAt, fromRight, split, List.reverse_append, List.getD_eq_getElem?_getD,
      List.getD_eq_getElem?_getD,
      List.getElem?_append_left (by rw [List.length_reverse]; exact insideToo),
      List.getElem?_eq_getElem (by rw [List.length_reverse]; exact inside),
      List.getElem?_eq_getElem (by rw [List.length_reverse]; exact insideToo)] at here
    exact here

/-- The first dimensions of a shape, and those that an operand is aligned with. -/
theorem exists_split (rank : operand.type.rank ≤ shape.length) :
    ∃ front targets, shape = front ++ targets ∧ operand.type.dims.length = targets.length := by
  refine ⟨_, _, (List.take_append_drop (shape.length - operand.type.rank) shape).symm, ?_⟩
  rw [List.length_drop]
  show operand.type.rank = _
  omega

/-- An operand is broadcast to the shape of operands when its bounded dimensions are bounded there.
It either has the type already, or it is lowered. -/
theorem numpyBroadcastIfNeeded_outcome (is : IsBroadcastShape operands shape)
    (listed : operand ∈ operands) {output : Value} :
    numpyBroadcastIfNeeded operand.value shape = .ok output ↔
      (∀ i, (operand.dimAt i).isBounded = true → (fromRight shape i).boundOp.isSome = true) ∧
        ((operand.type = getRankedTensorType shape operand.type.elementType ∧
            output = operand.value) ∨
          (operand.type ≠ getRankedTensorType shape operand.type.elementType ∧
            ∃ front targets, shape = front ++ targets ∧
              operand.type.dims.length = targets.length ∧
                List.Forall₂ MapsTo operand.type.dims targets ∧
                  output = lowered operand front targets)) := by
  have rank : operand.type.rank ≤ shape.length := is.rank ▸ rank_le_maxRank listed
  obtain ⟨front, targets, split, count⟩ := exists_split rank
  by_cases same : operand.type = getRankedTensorType shape operand.type.elementType
  · have kept : numpyBroadcastIfNeeded operand.value shape = .ok operand.value := by
      unfold numpyBroadcastIfNeeded
      dsimp only
      rw [if_neg (Nat.not_lt.mpr (show operand.value.type.rank ≤ _ from rank))]
      unfold broadcastIfNeeded
      dsimp only
      rw [if_pos (show operand.value.type =
        getRankedTensorType shape operand.value.type.elementType from same)]
    rw [kept, Except.ok.injEq]
    constructor
    · rintro rfl
      refine ⟨fun i bounded => ?_, .inl ⟨same, rfl⟩⟩
      rw [← DimensionInfo.isBounded_dim, ← dimAt_of_type same]
      exact bounded
    · rintro ⟨-, ⟨-, rfl⟩ | ⟨differs, -⟩⟩
      · rfl
      · exact absurd same differs
  · rw [numpyBroadcastIfNeeded_eq_ok split count same]
    constructor
    · rintro ⟨maps, rfl⟩
      refine ⟨fun i bounded => ?_, .inr ⟨same, front, targets, split, count, maps, rfl⟩⟩
      rcases (forall₂_mapsTo_iff split count).mp maps i with here | outside
      · exact here.2 bounded
      · -- In front of the operand, there are static dimensions.
        rw [Operand.dimAt, List.getD_eq_getElem?_getD,
          List.getElem?_eq_none (by rw [List.length_reverse]; exact outside)] at bounded
        cases bounded
    · rintro ⟨-, ⟨other, -⟩ | ⟨-, front', targets', split', count', maps, rfl⟩⟩
      · exact absurd other same
      · obtain ⟨rfl, rfl⟩ := List.append_inj' (split.symm.trans split') (count.symm.trans count')
        exact ⟨maps, rfl⟩

/-- Aligned dimensions are those of the operands in any order. -/
theorem mem_column_of_perm (perm : operands.Perm permuted) {x : Dim} :
    x ∈ column operands i ↔ x ∈ column permuted i := (perm.map _).mem_iff

end Successes

end Stablehlo.BroadcastLowering
