import Mathlib.Data.List.Perm.Basic
import Stablehlo.Dialect.BoundedDynamism

/-! When the order of a list of types matters to the type they are merged to. -/

namespace Stablehlo

variable {types : List RankedTensorType}

/-- The first type of the list carries bounds. -/
def firstCarriesBounds (types : List RankedTensorType) : Bool :=
  types.head?.any RankedTensorType.carriesBounds

/-- An extent that one of the types has at the dimension. -/
def ExtentAt (types : List RankedTensorType) : Nat → Extent Int → Prop :=
  Extent.At (types.map RankedTensorType.extents)

/-- The condition under which the order does not matter to the most specific type: the types
contradict each other, or all of them carry bounds, or their meet has no bounds. -/
def MostSpecificStable (types : List RankedTensorType) : Prop :=
  (∃ dim, Extent.Conflict (ExtentAt types dim)) ∨
    (∀ type ∈ types, type.carriesBounds = true) ∨
    ∀ dim bound, ExtentAt types dim (.bounded bound) → ∃ size, ExtentAt types dim (.static size)

/-- The condition under which the order does not matter to the least specific type: no order
merges the types, or no two of them have different sizes, and all of them carry bounds or
their join has none. -/
def LeastSpecificStable (types : List RankedTensorType) : Prop :=
  Extent.Blocked (types.map RankedTensorType.extents) ∨
    (∀ type ∈ types, ∀ other ∈ types, ¬ Extent.Disagrees [type.extents] other.extents) ∧
      ((∀ type ∈ types, type.carriesBounds = true) ∨
        ∀ dim bound, ExtentAt types dim (.bounded bound) → ExtentAt types dim .unbounded)

section Outcomes

variable {infer : InferDimAndBound} {op : Extent Int → Extent Int → Option (Extent Int)}
  {rank : Nat}

/-- The extents of the types determine the shape and the bounds of their merge, up to whether
the first type carries bounds. -/
theorem shapeAndBounds_inferTypeWithCustomFn (merges : Merges infer op)
    (wellFormed : ∀ type ∈ types, type.WellFormed) (ranks : ∀ type ∈ types, type.rank = rank) :
    shapeAndBounds (RankedTensorType.toType <$> inferTypeWithCustomFn types infer) =
      (Extent.mergeRows op (types.map RankedTensorType.extents)).map
        (rowShapeAndBounds (firstCarriesBounds types)) := by
  cases types with
  | nil => rfl
  | cons first rest =>
    have sameRanks : ∀ type ∈ rest, type.rank = first.rank := fun type listed =>
      (ranks type (by simp [listed])).trans (ranks first (by simp)).symm
    have agree := inferTypeWithCustomFn_agrees merges wellFormed sameRanks
    rw [List.map_cons, Extent.mergeRows]
    rcases agree.cases with ⟨merged, row, found, value, ofRow⟩ | ⟨failure, found, value, -⟩
    · rw [found, value]
      exact congrArg some ofRow.shapeAndBounds
    · rw [found, value]
      rfl

theorem shapeAndBounds_mostSpecific (wellFormed : ∀ type ∈ types, type.WellFormed)
    (ranks : ∀ type ∈ types, type.rank = rank) :
    shapeAndBounds (inferMostSpecificType (types.map RankedTensorType.toType)) =
      (Extent.mergeRows Extent.meet (types.map RankedTensorType.extents)).map
        (rowShapeAndBounds (firstCarriesBounds types)) := by
  by_cases empty : types = []
  · subst empty
    rfl
  · rw [inferMostSpecificType_eq empty, shapeAndBounds_inferTypeWithCustomFn
      inferMostSpecificDimAndBound_merges wellFormed ranks]

theorem shapeAndBounds_leastSpecific (wellFormed : ∀ type ∈ types, type.WellFormed)
    (ranks : ∀ type ∈ types, type.rank = rank) :
    shapeAndBounds (inferLeastSpecificType (types.map RankedTensorType.toType)) =
      (Extent.mergeRows Extent.join (types.map RankedTensorType.extents)).map
        (rowShapeAndBounds (firstCarriesBounds types)) := by
  rw [inferLeastSpecificType_eq, shapeAndBounds_inferTypeWithCustomFn
    inferLeastSpecificDimAndBound_merges wellFormed ranks]

end Outcomes

section Bounds

/-- A type with a bounded dimension carries bounds. -/
theorem carriesBounds_of_bounded {type : RankedTensorType} {dim : Nat} {bound : Int}
    (there : type.extents[dim]? = some (.bounded bound)) : type.carriesBounds = true := by
  by_contra absent
  have empty : encodingToBounds type.encoding = [] := by
    simpa [RankedTensorType.carriesBounds] using absent
  obtain ⟨short, same⟩ := List.getElem?_eq_some_iff.mp there
  -- Without bounds, no dimension has one.
  simp [RankedTensorType.extents, RankedTensorType.dimsAndBounds, empty,
    DimAndBound.extent] at same
  split at same <;> cases same

/-- The extents are those of sizes and bounds. -/
def Expressed (row : List (Extent Int)) : Prop :=
  ∃ dims, List.Forall₂ DimAndBound.Says dims row

/-- The bounds of the extents are kept or dropped, which makes no difference when there are
none. -/
theorem rowShapeAndBounds_eq_iff {row : List (Extent Int)} (expressed : Expressed row) :
    rowShapeAndBounds true row = rowShapeAndBounds false row ↔
      ∀ bound, Extent.bounded bound ∉ row := by
  obtain ⟨dims, same⟩ := expressed
  have missing : rowShapeAndBounds true row = rowShapeAndBounds false row ↔
      ∀ dim ∈ dims, isDynamicDimSize dim.2 = true := by
    rw [rowShapeAndBounds, rowShapeAndBounds, Prod.mk.injEq]
    simp only [true_and, if_true, Bool.false_eq_true, if_false, presentBounds]
    have bounds : row.map (fun extent => (DimAndBound.ofExtent extent).2) = dims.map Prod.snd := by
      rw [eq_map_ofExtent same, List.map_map]
      rfl
    rw [bounds]
    by_cases none : (dims.map Prod.snd).all isDynamicDimSize = true
    · rw [if_pos none]
      simpa using none
    · rw [if_neg none]
      simp only [List.map_eq_nil_iff]
      constructor
      · rintro rfl
        simp
      · intro every
        exact absurd (by simpa using every) none
  rw [missing]
  constructor
  · intro every bound listed
    rw [← map_extent same] at listed
    obtain ⟨dim, member, extent⟩ := List.mem_map.mp listed
    simp only [DimAndBound.extent, every dim member] at extent
    split at extent <;> cases extent
  · intro none dim listed
    by_contra present
    obtain ⟨place, short, rfl⟩ := List.mem_iff_getElem.mp listed
    have wellFormed := ((List.forall₂_iff_get.mp same).2 place short (same.length_eq ▸ short)).1
    have dynamic : isDynamicDimSize dims[place].1 = true := wellFormed.resolve_right present
    refine none dims[place].2.toInt ?_
    rw [← map_extent same]
    exact List.mem_map.mpr ⟨_, listed, by simp [DimAndBound.extent, dynamic, present]⟩

/-- Some order of a list begins with a given member. -/
theorem exists_perm_head {type : RankedTensorType} (listed : type ∈ types) :
    ∃ rest, (type :: rest).Perm types := by
  obtain ⟨front, back, rfl⟩ := List.append_of_mem listed
  exact ⟨front ++ back, List.perm_middle.symm⟩

/-- The order does not matter to the bounds when all types carry them, or when there are none
to keep. -/
theorem forall_rowShapeAndBounds_eq {row : List (Extent Int)} (expressed : Expressed row)
    (source : ∀ bound, Extent.bounded bound ∈ row → ∃ type ∈ types, type.carriesBounds = true) :
    (∀ order, order.Perm types → rowShapeAndBounds (firstCarriesBounds order) row =
        rowShapeAndBounds (firstCarriesBounds types) row) ↔
      (∀ type ∈ types, type.carriesBounds = true) ∨ ∀ bound, Extent.bounded bound ∉ row := by
  constructor
  · intro stable
    by_contra neither
    rw [not_or] at neither
    obtain ⟨some, present⟩ := neither
    simp only [Classical.not_forall, not_not] at some present
    obtain ⟨without, listed, lacks⟩ := some
    obtain ⟨bound, inRow⟩ := present
    obtain ⟨carrier, also, carries⟩ := source bound inRow
    -- One order begins with bounds, and another one without.
    obtain ⟨rest, perm⟩ := exists_perm_head listed
    obtain ⟨rest', perm'⟩ := exists_perm_head also
    have dropped := stable _ perm
    have kept := stable _ perm'
    rw [← dropped] at kept
    simp only [firstCarriesBounds, List.head?_cons, Option.any_some, carries, lacks] at kept
    exact (rowShapeAndBounds_eq_iff expressed).mp kept bound inRow
  · rintro (all | none) order perm
    · cases types with
      | nil => rw [perm.eq_nil]
      | cons first rest =>
        cases order with
        | nil => exact absurd perm.symm.eq_nil (by simp)
        | cons first' rest' =>
          have leads := all first' (perm.mem_iff.mp (by simp))
          simp [firstCarriesBounds, leads, all first (by simp)]
    · have same := (rowShapeAndBounds_eq_iff expressed).mpr none
      have irrelevant : ∀ carries, rowShapeAndBounds carries row = rowShapeAndBounds false row := by
        intro carries
        cases carries
        · rfl
        · exact same
      rw [irrelevant, irrelevant (firstCarriesBounds types)]

end Bounds

section Orders

variable {rank : Nat}

/-- The extents of merged types are those of sizes and bounds. -/
theorem expressed_of_mergeRows {infer : InferDimAndBound}
    {op : Extent Int → Extent Int → Option (Extent Int)} (merges : Merges infer op)
    (wellFormed : ∀ type ∈ types, type.WellFormed) (ranks : ∀ type ∈ types, type.rank = rank)
    {row : List (Extent Int)}
    (merged : Extent.mergeRows op (types.map RankedTensorType.extents) = some row) :
    Expressed row := by
  cases types with
  | nil => cases merged
  | cons first rest =>
    have sameRanks : ∀ type ∈ rest, type.rank = first.rank := fun type listed =>
      (ranks type (by simp [listed])).trans (ranks first (by simp)).symm
    have agree := inferTypeWithCustomFn_agrees merges wellFormed sameRanks
    rw [List.map_cons, Extent.mergeRows] at merged
    rw [merged] at agree
    rcases agree.cases with ⟨_, _, -, value, dims, same, -⟩ | ⟨_, -, value, -⟩
    · cases value
      exact ⟨dims, same⟩
    · cases value

/-- A bound that is known at a dimension comes from a type that carries bounds. -/
theorem exists_carriesBounds {dim : Nat} {bound : Int}
    (known : ExtentAt types dim (.bounded bound)) :
    ∃ type ∈ types, type.carriesBounds = true := by
  obtain ⟨row, listed, there⟩ := known
  obtain ⟨type, member, rfl⟩ := List.mem_map.mp listed
  exact ⟨type, member, carriesBounds_of_bounded there⟩

/-- An extent that is known at a dimension has a place in each row that is as long. -/
theorem lt_length_of_extentAt {row : List (Extent Int)}
    (lengths : ∀ other ∈ types.map RankedTensorType.extents, other.length = row.length) {dim : Nat}
    {extent : Extent Int} (known : ExtentAt types dim extent) : dim < row.length := by
  obtain ⟨other, listed, there⟩ := known
  rw [← lengths other listed]
  exact (List.getElem?_eq_some_iff.mp there).1

/-- The meet has a bound where there are bounds and no size. -/
theorem forall_bounded_notMem_meet {row : List (Extent Int)}
    (lengths : ∀ other ∈ types.map RankedTensorType.extents, other.length = row.length)
    (each : ∀ (dim : Nat) extent, row[dim]? = some extent →
      Extent.IsMeet (ExtentAt types dim) extent) :
    (∀ bound, Extent.bounded bound ∉ row) ↔
      ∀ dim bound, ExtentAt types dim (.bounded bound) →
        ∃ size, ExtentAt types dim (.static size) := by
  constructor
  · intro none dim bound known
    have short := lt_length_of_extentAt lengths known
    have met := each dim _ (List.getElem?_eq_getElem short)
    cases here : row[dim] with
    | static size =>
      rw [here] at met
      exact ⟨size, met.1⟩
    | bounded other => exact absurd (here ▸ List.getElem_mem short) (none other)
    | unbounded =>
      rw [here] at met
      exact absurd known (met.2 bound)
  · intro sized bound listed
    obtain ⟨dim, short, here⟩ := List.mem_iff_getElem.mp listed
    have met := each dim _ (List.getElem?_eq_getElem short)
    rw [here] at met
    obtain ⟨size, known⟩ := sized dim bound met.1
    exact met.2.1 size known

/-- The join has a bound where there are bounds and everything is bounded. -/
theorem forall_bounded_notMem_join {row : List (Extent Int)}
    (lengths : ∀ other ∈ types.map RankedTensorType.extents, other.length = row.length)
    (each : ∀ (dim : Nat) extent, row[dim]? = some extent →
      Extent.IsJoin (ExtentAt types dim) extent) :
    (∀ bound, Extent.bounded bound ∉ row) ↔
      ∀ dim bound, ExtentAt types dim (.bounded bound) → ExtentAt types dim .unbounded := by
  constructor
  · intro none dim bound known
    have short := lt_length_of_extentAt lengths known
    have joined := each dim _ (List.getElem?_eq_getElem short)
    cases here : row[dim] with
    | static size =>
      rw [here] at joined
      cases joined.2 _ known
    | bounded other => exact absurd (here ▸ List.getElem_mem short) (none other)
    | unbounded =>
      rw [here] at joined
      exact joined
  · intro unbounded bound listed
    obtain ⟨dim, short, here⟩ := List.mem_iff_getElem.mp listed
    have joined := each dim _ (List.getElem?_eq_getElem short)
    rw [here] at joined
    obtain ⟨finite, -, ⟨other, known⟩, -⟩ := joined
    exact finite (unbounded dim other known)

/-- The order does not matter to the most specific type under the condition, and only then. -/
theorem mostSpecific_stable_iff (wellFormed : ∀ type ∈ types, type.WellFormed)
    (ranks : ∀ type ∈ types, type.rank = rank) :
    (∀ order : List RankedTensorType, order.Perm types →
      shapeAndBounds (inferMostSpecificType (order.map RankedTensorType.toType)) =
        shapeAndBounds (inferMostSpecificType (types.map RankedTensorType.toType))) ↔
      MostSpecificStable types := by
  have lengths := length_extents_eq wellFormed ranks
  -- All orders have the same meet, which decides what the result is.
  have outcome : ∀ order : List RankedTensorType, order.Perm types →
      shapeAndBounds (inferMostSpecificType (order.map RankedTensorType.toType)) =
        (Extent.mergeRows Extent.meet (types.map RankedTensorType.extents)).map
          (rowShapeAndBounds (firstCarriesBounds order)) := by
    intro order perm
    rw [shapeAndBounds_mostSpecific (fun type listed => wellFormed type (perm.mem_iff.mp listed))
      (fun type listed => ranks type (perm.mem_iff.mp listed)),
      Extent.mergeRows_meet_perm lengths (perm.map _)]
  cases types with
  | nil =>
    refine iff_of_true (fun order perm => by rw [perm.eq_nil]) (.inr (.inl ?_))
    simp
  | cons first rest =>
    have fails := @Extent.mergeAll_meet_eq_none Int _ first.extents
      (rest.map RankedTensorType.extents) fun row listed =>
        (lengths row (List.mem_cons_of_mem _ listed)).trans (lengths first.extents (by simp)).symm
    rw [← List.map_cons] at fails
    cases merged : Extent.mergeAll Extent.meet first.extents (rest.map RankedTensorType.extents) with
    | none =>
      -- The types contradict each other, and no order has a result.
      refine iff_of_true (fun order perm => ?_) (.inl (fails.mp merged))
      rw [outcome order perm, outcome _ (List.Perm.refl _), List.map_cons, Extent.mergeRows, merged]
      rfl
    | some row =>
      obtain ⟨long, each⟩ := Extent.mergeAll_meet merged
      have agree : ¬ ∃ dim, Extent.Conflict (ExtentAt (first :: rest) dim) := by
        intro conflict
        rw [fails.mpr conflict] at merged
        cases merged
      have rowLengths : ∀ other ∈ (first :: rest).map RankedTensorType.extents,
          other.length = row.length := fun other listed => by
        rw [long, lengths other listed, lengths first.extents (by simp)]
      have bounds := forall_bounded_notMem_meet rowLengths each
      have expressed := expressed_of_mergeRows inferMostSpecificDimAndBound_merges wellFormed ranks
        (show Extent.mergeRows Extent.meet ((first :: rest).map RankedTensorType.extents) = some row
          from merged)
      have kept := @forall_rowShapeAndBounds_eq (first :: rest) row expressed fun bound listed => by
        obtain ⟨dim, short, here⟩ := List.mem_iff_getElem.mp listed
        have met := each dim _ (List.getElem?_eq_getElem short)
        rw [here] at met
        exact exists_carriesBounds met.1
      rw [MostSpecificStable, or_iff_right agree, ← bounds, ← kept]
      constructor
      · intro stable order perm
        have same := stable order perm
        rw [outcome order perm, outcome _ (List.Perm.refl _), List.map_cons, Extent.mergeRows,
          merged] at same
        exact Option.some.inj same
      · intro same order perm
        rw [outcome order perm, outcome _ (List.Perm.refl _), List.map_cons, Extent.mergeRows, merged]
        exact congrArg some (same order perm)

/-- An order of the extents of types is the one of an order of the types. -/
theorem exists_order_extents {rows : List (List (Extent Int))}
    (perm : rows.Perm (types.map RankedTensorType.extents)) :
    ∃ order : List RankedTensorType, order.Perm types ∧
      order.map RankedTensorType.extents = rows := by
  have paired : List.Forall₂ (fun row (type : RankedTensorType) => type.extents = row)
      (types.map RankedTensorType.extents) types := by
    rw [List.forall₂_map_left_iff, List.forall₂_same]
    exact fun _ _ => rfl
  obtain ⟨order, same, reordered⟩ := List.perm_comp_forall₂ perm paired
  refine ⟨order, reordered, ?_⟩
  clear reordered paired perm
  induction same with
  | nil => rfl
  | cons head _ ih => rw [List.map_cons, head, ih]

/-- The order does not matter to the least specific type under the condition, and only then. -/
theorem leastSpecific_stable_iff (wellFormed : ∀ type ∈ types, type.WellFormed)
    (ranks : ∀ type ∈ types, type.rank = rank) :
    (∀ order : List RankedTensorType, order.Perm types →
      shapeAndBounds (inferLeastSpecificType (order.map RankedTensorType.toType)) =
        shapeAndBounds (inferLeastSpecificType (types.map RankedTensorType.toType))) ↔
      LeastSpecificStable types := by
  have lengths := length_extents_eq wellFormed ranks
  have outcome : ∀ order : List RankedTensorType, order.Perm types →
      shapeAndBounds (inferLeastSpecificType (order.map RankedTensorType.toType)) =
        (Extent.mergeRows Extent.join (order.map RankedTensorType.extents)).map
          (rowShapeAndBounds (firstCarriesBounds order)) := fun order perm =>
    shapeAndBounds_leastSpecific (fun type listed => wellFormed type (perm.mem_iff.mp listed))
      (fun type listed => ranks type (perm.mem_iff.mp listed))
  by_cases blocked : Extent.Blocked (types.map RankedTensorType.extents)
  · -- No order has a result.
    have fails : ∀ order : List RankedTensorType, order.Perm types →
        shapeAndBounds (inferLeastSpecificType (order.map RankedTensorType.toType)) = none := by
      intro order perm
      have reordered := perm.map RankedTensorType.extents
      rw [outcome order perm, (blocked.perm reordered).mergeRows_join fun row listed =>
        lengths row (reordered.mem_iff.mp listed)]
      rfl
    refine iff_of_true (fun order perm => ?_) (.inl blocked)
    rw [fails order perm, fails types (List.Perm.refl _)]
  · -- Some order has a result.
    obtain ⟨rows, perm, succeeds⟩ : ∃ rows : List (List (Extent Int)),
        rows.Perm (types.map RankedTensorType.extents) ∧ Extent.mergeRows Extent.join rows ≠ none := by
      by_contra never
      refine blocked (Extent.blocked_of_forall_order lengths fun rows perm => ?_)
      by_contra succeeds
      exact never ⟨rows, perm, succeeds⟩
    obtain ⟨good, goodPerm, rfl⟩ := exists_order_extents perm
    obtain ⟨row, merged⟩ := Option.ne_none_iff_exists'.mp succeeds
    rw [LeastSpecificStable, or_iff_right blocked]
    by_cases agree : ∀ type ∈ types, ∀ other ∈ types,
        ¬ Extent.Disagrees [type.extents] other.extents
    · -- All orders have the same result, up to its bounds.
      have nonempty : types ≠ [] := by
        rintro rfl
        rw [goodPerm.eq_nil] at merged
        cases merged
      have joined : ∀ order : List RankedTensorType, order.Perm types →
          Extent.mergeRows Extent.join (order.map RankedTensorType.extents) = some row := by
        intro order orderPerm
        have reordered := orderPerm.map RankedTensorType.extents
        have succeeds' : Extent.mergeRows Extent.join (order.map RankedTensorType.extents) ≠ none := by
          refine Extent.mergeRows_join_ne_none ?_
            (fun row listed => lengths row (reordered.mem_iff.mp listed)) ?_
          · intro empty
            exact nonempty (List.map_eq_nil_iff.mp empty ▸ orderPerm).symm.eq_nil
          · intro one listed two also
            obtain ⟨type, member, rfl⟩ := List.mem_map.mp (reordered.mem_iff.mp listed)
            obtain ⟨other, member', rfl⟩ := List.mem_map.mp (reordered.mem_iff.mp also)
            exact agree type member other member'
        obtain ⟨row', merged'⟩ := Option.ne_none_iff_exists'.mp succeeds'
        have goodLengths : ∀ row ∈ good.map RankedTensorType.extents, row.length = rank :=
          fun row listed => lengths row ((goodPerm.map _).mem_iff.mp listed)
        have same := Extent.mergeRows_join_perm goodLengths
          (reordered.trans (goodPerm.map _).symm) merged merged'
        rw [merged', same]
      obtain ⟨long, each⟩ := Extent.mergeRows_join (joined types (List.Perm.refl _))
      have rowLengths : ∀ other ∈ types.map RankedTensorType.extents,
          other.length = row.length := by
        intro other listed
        obtain ⟨first, rest, rfl⟩ := List.exists_cons_of_ne_nil nonempty
        rw [long first.extents rfl, lengths other listed, lengths first.extents (by simp)]
      have bounds := forall_bounded_notMem_join rowLengths each
      have expressed := expressed_of_mergeRows inferLeastSpecificDimAndBound_merges wellFormed ranks
        (joined types (List.Perm.refl _))
      have kept := @forall_rowShapeAndBounds_eq types row expressed fun bound listed => by
        obtain ⟨dim, short, here⟩ := List.mem_iff_getElem.mp listed
        have whole := each dim _ (List.getElem?_eq_getElem short)
        rw [here] at whole
        obtain ⟨-, -, ⟨other, known⟩, -⟩ := whole
        exact exists_carriesBounds known
      rw [and_iff_right agree, ← bounds, ← kept]
      constructor
      · intro stable order orderPerm
        have same := stable order orderPerm
        rw [outcome order orderPerm, outcome _ (List.Perm.refl _), joined order orderPerm,
          joined types (List.Perm.refl _)] at same
        exact Option.some.inj same
      · intro same order orderPerm
        rw [outcome order orderPerm, outcome _ (List.Perm.refl _), joined order orderPerm,
          joined types (List.Perm.refl _)]
        exact congrArg some (same order orderPerm)
    · -- Another order has none.
      refine iff_of_false (fun stable => ?_) (fun condition => agree condition.1)
      simp only [Classical.not_forall, not_not] at agree
      obtain ⟨type, listed, other, also, differ⟩ := agree
      obtain ⟨bad, badPerm, fails⟩ := Extent.exists_order_mergeRows_join_eq_none lengths
        (List.mem_map_of_mem listed) (List.mem_map_of_mem also) differ
      obtain ⟨order, orderPerm, rfl⟩ := exists_order_extents badPerm
      have same := (stable good goodPerm).trans (stable order orderPerm).symm
      rw [outcome good goodPerm, outcome order orderPerm, merged, fails] at same
      cases same

/-- The order of a list of types does not matter to the types they are merged to under these
conditions, and only then. -/
theorem merged_types_stable_iff (wellFormed : ∀ type ∈ types, type.WellFormed)
    (ranks : ∀ type ∈ types, type.rank = rank) :
    (∀ order : List RankedTensorType, order.Perm types →
      shapeAndBounds (inferMostSpecificType (order.map RankedTensorType.toType)) =
        shapeAndBounds (inferMostSpecificType (types.map RankedTensorType.toType)) ∧
      shapeAndBounds (inferLeastSpecificType (order.map RankedTensorType.toType)) =
        shapeAndBounds (inferLeastSpecificType (types.map RankedTensorType.toType))) ↔
      MostSpecificStable types ∧ LeastSpecificStable types := by
  rw [← mostSpecific_stable_iff wellFormed ranks, ← leastSpecific_stable_iff wellFormed ranks]
  constructor
  · intro stable
    exact ⟨fun order perm => (stable order perm).1, fun order perm => (stable order perm).2⟩
  · rintro ⟨most, least⟩ order perm
    exact ⟨most order perm, least order perm⟩

/-- Two types of which one has bounds. -/
theorem merged_types_stable_two :
    (∀ order : List RankedTensorType, order.Perm [dynamicVector, boundedVector] →
      shapeAndBounds (inferMostSpecificType (order.map RankedTensorType.toType)) =
        shapeAndBounds (inferMostSpecificType
          ([dynamicVector, boundedVector].map RankedTensorType.toType)) ∧
      shapeAndBounds (inferLeastSpecificType (order.map RankedTensorType.toType)) =
        shapeAndBounds (inferLeastSpecificType
          ([dynamicVector, boundedVector].map RankedTensorType.toType))) ↔
      MostSpecificStable [dynamicVector, boundedVector] ∧
        LeastSpecificStable [dynamicVector, boundedVector] :=
  @merged_types_stable_iff [dynamicVector, boundedVector] 1 (by decide) (by decide)

/-- Bounds that only the second of two types has are lost. -/
theorem merged_types_not_stable :
    ¬ ∀ order : List RankedTensorType, order.Perm [dynamicVector, boundedVector] →
      shapeAndBounds (inferMostSpecificType (order.map RankedTensorType.toType)) =
        shapeAndBounds (inferMostSpecificType
          ([dynamicVector, boundedVector].map RankedTensorType.toType)) ∧
      shapeAndBounds (inferLeastSpecificType (order.map RankedTensorType.toType)) =
        shapeAndBounds (inferLeastSpecificType
          ([dynamicVector, boundedVector].map RankedTensorType.toType)) := by
  intro stable
  have same := (stable [boundedVector, dynamicVector] (List.Perm.swap _ _ _)).1
  -- The first order has the bound, and the second one does not.
  have kept : shapeAndBounds (inferMostSpecificType
      ([boundedVector, dynamicVector].map RankedTensorType.toType)) =
      some ([kDynamic], [4]) := by decide
  have lost : shapeAndBounds (inferMostSpecificType
      ([dynamicVector, boundedVector].map RankedTensorType.toType)) =
      some ([kDynamic], []) := by decide
  rw [kept, lost] at same
  simp at same

end Orders

end Stablehlo
