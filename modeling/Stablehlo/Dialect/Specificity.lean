import Mathlib.Algebra.Order.BigOperators.Group.List
import Mathlib.Algebra.Order.Monoid.Prod
import Mathlib.Algebra.Order.Ring.Nat
import Mathlib.Data.Prod.Lex
import Stablehlo.Dialect.BoundedDynamism

/-! When a type says at least as much as another one, and what the most specific type of two
types comes to. -/

namespace Stablehlo

/-- The encoding of a type, unless it only carries bounds. -/
def otherEncoding : Option Encoding → Option Encoding
  | none | some (.typeExtensions _) => none
  | some encoding => some encoding

/-- A ranked tensor type says all that another one says. -/
structure RankedTensorType.Refines (fine coarse : RankedTensorType) : Prop where
  elementType : fine.elementType = coarse.elementType
  extents : List.Forall₂ Extent.Refines fine.extents coarse.extents
  encoding : ∀ encoding, otherEncoding coarse.encoding = some encoding →
    otherEncoding fine.encoding = some encoding

/-- A type is at least as specific as another one. -/
inductive StablehloType.Refines : StablehloType → StablehloType → Prop
  /-- A type says all that it says. -/
  | refl (type : StablehloType) : Refines type type
  /-- Ranked tensor types, by their dimensions. -/
  | ranked {fine coarse : RankedTensorType} (refines : fine.Refines coarse) :
    Refines fine.toType coarse.toType
  /-- A ranked tensor type says more than the unranked one. -/
  | unranked (fine : RankedTensorType) : Refines fine.toType (.unrankedTensor fine.elementType)
  /-- Tuple types, by their elements. -/
  | tuple {fines coarses : List StablehloType} (refines : List.Forall₂ Refines fines coarses) :
    Refines (.tuple fines) (.tuple coarses)

/-- A ranked tensor type says all that it says. -/
theorem RankedTensorType.Refines.refl (type : RankedTensorType) : type.Refines type where
  elementType := rfl
  extents := List.forall₂_same.2 fun extent _ => Extent.Refines.refl extent
  encoding := fun _ same => same

/-- A ranked tensor type, among all types, is one ranked tensor type. -/
theorem RankedTensorType.toType_injective {left right : RankedTensorType}
    (same : left.toType = right.toType) : left = right := by
  have ranked := congrArg StablehloType.asRankedTensor same
  rw [asRankedTensor_toType, asRankedTensor_toType, Option.some.injEq] at ranked
  exact ranked

/-- The ranked tensor type that a type is, is the type. -/
theorem StablehloType.eq_toType {type : StablehloType} {ranked : RankedTensorType}
    (found : type.asRankedTensor = some ranked) : type = ranked.toType := by
  cases type with
  | rankedTensor shape elementType encoding =>
    cases found
    rfl
  | _ => contradiction

/-- The types that a tuple type is of are those of the tuple. -/
theorem StablehloType.eq_tuple {type : StablehloType} {types : List StablehloType}
    (found : type.asTuple = some types) : type = .tuple types := by
  cases type with
  | tuple elements =>
    cases found
    rfl
  | _ => contradiction

namespace StablehloType.Refines

/-- Among ranked tensor types, it is the dimensions that count. -/
@[simp] theorem toType_iff {fine coarse : RankedTensorType} :
    Refines fine.toType coarse.toType ↔ fine.Refines coarse := by
  constructor
  · intro refines
    generalize first : fine.toType = left at refines
    generalize second : coarse.toType = right at refines
    cases refines with
    | refl =>
      rw [RankedTensorType.toType_injective (first.trans second.symm)]
      exact RankedTensorType.Refines.refl coarse
    | ranked refines =>
      rw [RankedTensorType.toType_injective first, RankedTensorType.toType_injective second]
      exact refines
    | unranked => exact absurd second (by simp [RankedTensorType.toType])
    | tuple => exact absurd first (by simp [RankedTensorType.toType])
  · exact ranked

/-- Below a type that is neither ranked nor a tuple there are ranked types of its elements. -/
theorem toType_iff_of_not_ranked {fine : RankedTensorType} {coarse : StablehloType}
    (plain : coarse.asRankedTensor = none) :
    Refines fine.toType coarse ↔ coarse = .unrankedTensor fine.elementType := by
  constructor
  · intro refines
    generalize first : fine.toType = left at refines
    cases refines with
    | refl =>
      rw [← first, asRankedTensor_toType] at plain
      contradiction
    | ranked refines =>
      rw [asRankedTensor_toType] at plain
      contradiction
    | unranked =>
      rw [RankedTensorType.toType_injective first]
    | tuple => exact absurd first (by simp [RankedTensorType.toType])
  · intro same
    rw [same]
    exact unranked fine

/-- No type without a rank says what a ranked tensor type says. -/
theorem not_toType_of_not_ranked {fine : StablehloType} {coarse : RankedTensorType}
    (plain : fine.asRankedTensor = none) : ¬ Refines fine coarse.toType := by
  intro refines
  generalize second : coarse.toType = right at refines
  cases refines with
  | refl =>
    rw [← second, asRankedTensor_toType] at plain
    contradiction
  | ranked refines =>
    rw [asRankedTensor_toType] at plain
    contradiction
  | unranked => exact absurd second (by simp [RankedTensorType.toType])
  | tuple => exact absurd second (by simp [RankedTensorType.toType])

/-- Among tuple types, it is the elements that count. -/
theorem tuple_iff {fines coarses : List StablehloType} :
    Refines (.tuple fines) (.tuple coarses) ↔ List.Forall₂ Refines fines coarses := by
  constructor
  · intro refines
    generalize first : StablehloType.tuple fines = left at refines
    generalize second : StablehloType.tuple coarses = right at refines
    cases refines with
    | refl =>
      rw [← first, StablehloType.tuple.injEq] at second
      rw [second]
      exact List.forall₂_same.2 fun type _ => refl type
    | ranked refines => exact absurd first (by simp [RankedTensorType.toType])
    | unranked => exact absurd first (by simp [RankedTensorType.toType])
    | tuple refines =>
      cases first
      cases second
      exact refines
  · exact tuple

end StablehloType.Refines

/-! What is left of two types in their most specific type. -/

/-- Nothing that the proposed type says is lost when it is merged into the current one. -/
structure RankedTensorType.Keeps (current proposed : RankedTensorType) : Prop where
  elementType : current.elementType = proposed.elementType
  /-- The current type carries bounds, or it has sizes where the proposed type has bounds. -/
  extents : List.Forall₂ (Extent.BoundKept current.carriesBounds) current.extents proposed.extents
  encoding : ∀ encoding, otherEncoding proposed.encoding = some encoding →
    otherEncoding current.encoding = some encoding

/-- Nothing that either type says is lost when they are merged, for types outside of tuples. -/
def StablehloType.KeepsShaped (current proposed : StablehloType) : Prop :=
  match current.asRankedTensor, proposed.asRankedTensor with
  | some current, some proposed => current.Keeps proposed
  | some current, none => proposed = .unrankedTensor current.elementType
  | none, some proposed => current = .unrankedTensor proposed.elementType
  | none, none => current.Refines proposed

/-- Nothing that either type says is lost when they are merged. -/
def StablehloType.Keeps (current proposed : StablehloType) : Prop :=
  match current.asTuple, proposed.asTuple with
  | some currents, some proposeds => List.Forall₂ KeepsShaped currents proposeds
  | _, _ => KeepsShaped current proposed

/-- The bounds of the type, when it is a ranked tensor type, are well formed. -/
def StablehloType.ShapedWellFormed (type : StablehloType) : Prop :=
  ∀ ranked, type.asRankedTensor = some ranked → ranked.WellFormed

/-- The bounds of the type and of the elements of a tuple type are well formed, as the verifier
of the encoding has it when the type is built. -/
def StablehloType.WellFormed (type : StablehloType) : Prop :=
  type.ShapedWellFormed ∧
    ∀ types, type.asTuple = some types → ∀ element ∈ types, element.ShapedWellFormed

/-! A measure of what a type leaves open. -/

/-- What an extent leaves open, for bounds of 64 bits. -/
def slackOf : Extent Int → Nat
  | .static _ => 0
  | .bounded bound => (bound + 2 ^ 63).toNat
  | .unbounded => 2 ^ 64

/-- What a ranked tensor type leaves open. -/
def RankedTensorType.slack (type : RankedTensorType) : Nat :=
  (type.extents.map slackOf).sum + if type.carriesBounds then 1 else 0

/-- What a type outside of tuples leaves open: its rank first, and then its dimensions. -/
def StablehloType.shapedSlack (type : StablehloType) : ℕ ×ₗ ℕ :=
  match type.asRankedTensor with
  | some ranked => toLex (0, ranked.slack)
  | none => toLex (1, 0)

/-- What a type leaves open, in all of its elements. -/
def StablehloType.slack (type : StablehloType) : ℕ ×ₗ ℕ :=
  match type.asTuple with
  | some types => (types.map shapedSlack).sum
  | none => type.shapedSlack

section Ranked

variable {first type : RankedTensorType} {row : List (Extent Int)}

/-- The extents of a merged type are those of the row, without the bounds when the first type
carries none. -/
theorem RankedTensorType.OfRow.extents {carries : Bool} (ofRow : type.OfRow carries row) :
    type.extents = row.map (Extent.keepBound carries) := by
  obtain ⟨dims, same, shape, bounds⟩ := ofRow
  have long : type.rank = dims.length := by rw [rank, shape, List.length_map]
  -- Without bounds, each dimension has its size alone.
  have dropped : encodingToBounds type.encoding = [] →
      type.dimsAndBounds = dims.map (fun dim => (dim.1, kDynamic)) := by
    intro absent
    have boundless : List.replicate dims.length kDynamic = dims.map fun _ => kDynamic := by simp
    simp only [RankedTensorType.dimsAndBounds, absent, List.isEmpty_nil, if_true, shape, long,
      boundless, List.zip_map']
  rw [RankedTensorType.extents, ← map_extent same, List.map_map]
  cases carries with
  | false =>
    rw [dropped bounds, List.map_map]
    apply List.map_congr_left
    intro dim listed
    obtain ⟨size, bound⟩ := dim
    simp only [Function.comp_apply, DimAndBound.extent, Extent.keepBound, isDynamicDimSize,
      beq_self_eq_true]
    by_cases dynamic : size = kDynamic
    · by_cases boundless : bound = kDynamic <;> simp [dynamic, boundless, Extent.withoutBound]
    · simp [dynamic, Extent.withoutBound]
  | true =>
    have keep : ∀ extent : Extent Int, Extent.keepBound true extent = extent := fun _ => rfl
    by_cases missing : (dims.map Prod.snd).all isDynamicDimSize = true
    · -- No dimension has a bound to lose.
      rw [if_pos rfl, presentBounds, if_pos missing] at bounds
      rw [dropped bounds, List.map_map]
      apply List.map_congr_left
      intro dim listed
      obtain ⟨size, bound⟩ := dim
      rw [List.all_map, List.all_eq_true] at missing
      have none := missing _ listed
      simp only [Function.comp_apply, isDynamicDimSize, beq_iff_eq] at none
      rw [Function.comp_apply, Function.comp_apply, keep, none]
    · rw [if_pos rfl, presentBounds, if_neg missing] at bounds
      have present : (encodingToBounds type.encoding).isEmpty = false := by
        rw [bounds]
        cases dims with
        | nil => exact absurd rfl missing
        | cons dim rest => rfl
      rw [RankedTensorType.dimsAndBounds, present, if_neg Bool.false_ne_true, bounds, shape,
        List.zip_map', List.map_id']
      exact List.map_congr_left fun dim _ => (keep _).symm

/-- What merging types into the first one keeps of it. -/
structure RankedTensorType.MergedInto (type first : RankedTensorType) (row : List (Extent Int)) :
    Prop where
  elementType : type.elementType = first.elementType
  ofRow : type.OfRow first.carriesBounds row
  /-- The encoding is only replaced for its bounds. -/
  encoding : first.carriesBounds = false → type.encoding = first.encoding
  other : otherEncoding type.encoding = otherEncoding first.encoding

/-- The encoding of a merged type is that of the first type, or bounds instead of bounds. -/
theorem boundsToEncoding_of_first {bounds : List Int64} {encoding : Option Encoding}
    (encoded : boundsToEncoding first.encoding (if first.carriesBounds then bounds else [])
      = .ok encoding) :
    (first.carriesBounds = false → encoding = first.encoding) ∧
      otherEncoding encoding = otherEncoding first.encoding := by
  cases carries : first.carriesBounds with
  | false =>
    rw [carries] at encoded
    cases encoded
    exact ⟨fun _ => rfl, rfl⟩
  | true =>
    refine ⟨fun impossible => absurd impossible (by simp), ?_⟩
    obtain ⟨carried, _, same⟩ := RankedTensorType.exists_typeExtensions carries
    rw [carries, same] at encoded
    rw [same]
    simp only [if_true, boundsToEncoding] at encoded
    split at encoded
    · cases encoded
      rfl
    · split at encoded
      · cases encoded
        rfl
      · cases encoded
        rfl

/-- A merged type keeps the element type and the encoding of the first one. -/
theorem keeps_first {rest : List RankedTensorType} {infer : InferDimAndBound}
    (built : inferTypeWithCustomFn (first :: rest) infer = .ok type) :
    type.elementType = first.elementType ∧
      (first.carriesBounds = false → type.encoding = first.encoding) ∧
      otherEncoding type.encoding = otherEncoding first.encoding := by
  simp only [inferTypeWithCustomFn] at built
  split at built
  · contradiction
  · obtain ⟨inferred, _, next⟩ := Fallible.bind_eq_ok.1 built
    obtain ⟨encoding, encoded, last⟩ := Fallible.bind_eq_ok.1 next
    cases last
    exact ⟨rfl, boundsToEncoding_of_first encoded⟩

/-- A ranked tensor type alone is merged to one with its extents. -/
theorem inferTypeWithCustomFn_single (wellFormed : first.WellFormed) :
    ∃ type, inferTypeWithCustomFn [first] inferMostSpecificDimAndBound = .ok type ∧
      type.MergedInto first first.extents := by
  have agree : Agrees (RankedTensorType.OfRow first.carriesBounds)
      (inferTypeWithCustomFn [first] inferMostSpecificDimAndBound)
      (Extent.mergeAll Extent.meet first.extents []) :=
    inferTypeWithCustomFn_agrees inferMostSpecificDimAndBound_merges (by simpa using wellFormed)
      (by simp)
  obtain ⟨type, row, built, merged, ofRow⟩ | ⟨_, _, impossible, _⟩ := agree.cases
  · cases merged
    obtain ⟨elementType, encoding, other⟩ := keeps_first built
    exact ⟨type, built, elementType, ofRow, encoding, other⟩
  · contradiction

/-- Two ranked tensor types are merged to one with the meets of their extents, or there is an
error. -/
theorem inferTypeWithCustomFn_pair {second : RankedTensorType} (wellFormed : first.WellFormed)
    (also : second.WellFormed) :
    (∃ type row, inferTypeWithCustomFn [first, second] inferMostSpecificDimAndBound = .ok type ∧
      Extent.merge Extent.meet first.extents second.extents = some row ∧
      type.MergedInto first row) ∨
    ∃ message, inferTypeWithCustomFn [first, second] inferMostSpecificDimAndBound
      = .error (.error message) := by
  by_cases ranks : second.rank = first.rank
  · have both : ∀ type ∈ [first, second], type.WellFormed := by
      intro type listed
      rw [List.mem_pair] at listed
      cases listed with
      | inl same => rwa [same]
      | inr same => rwa [same]
    have agree : Agrees (RankedTensorType.OfRow first.carriesBounds)
        (inferTypeWithCustomFn [first, second] inferMostSpecificDimAndBound)
        (Extent.mergeAll Extent.meet first.extents [second.extents]) :=
      inferTypeWithCustomFn_agrees inferMostSpecificDimAndBound_merges both (by simpa using ranks)
    obtain ⟨type, row, built, merged, ofRow⟩ | ⟨failure, failed, _, emitted⟩ := agree.cases
    · left
      obtain ⟨elementType, encoding, other⟩ := keeps_first built
      refine ⟨type, row, built, ?_, elementType, ofRow, encoding, other⟩
      simpa [Extent.mergeAll] using merged
    · right
      obtain ⟨message, rfl⟩ := emitted
      exact ⟨message, failed⟩
  · right
    have found : [first, second].find? (fun type => type.rank != first.rank) = some second := by
      simp [ranks]
    refine ⟨s!"Mismatched ranks of types{first.rank} vs {second.rank}", ?_⟩
    simp only [inferTypeWithCustomFn, found]

/-- A type that carries no bounds has no bounded dimension. -/
theorem not_bounded_of_not_carriesBounds (absent : type.carriesBounds = false) :
    ∀ extent ∈ type.extents, ∀ bound, extent ≠ .bounded bound := by
  intro extent listed bound same
  have empty : encodingToBounds type.encoding = [] := by
    simpa [RankedTensorType.carriesBounds] using absent
  rw [RankedTensorType.extents, RankedTensorType.dimsAndBounds, empty] at listed
  obtain ⟨dim, member, rfl⟩ := List.mem_map.1 listed
  have boundless := List.eq_of_mem_replicate (List.of_mem_zip member).2
  simp only [DimAndBound.extent, boundless] at same
  split at same <;> contradiction

/-- A merged type carries bounds only when the first type does. -/
theorem RankedTensorType.MergedInto.carriesBounds (merged : type.MergedInto first row)
    (absent : first.carriesBounds = false) : type.carriesBounds = false := by
  rw [RankedTensorType.carriesBounds] at absent ⊢
  rw [merged.encoding absent]
  exact absent

/-- What a bounded extent of a type leaves open is between what a size and nothing leave open. -/
def BoundInRange : Extent Int → Prop
  | .bounded bound => -2 ^ 63 < bound ∧ bound < 2 ^ 63
  | .static _ | .unbounded => True

/-- The bounds of a type have 64 bits, and the least number stands for none. -/
theorem extents_inRange : ∀ extent ∈ type.extents, BoundInRange extent := by
  intro extent listed
  obtain ⟨dim, _, rfl⟩ := List.mem_map.1 listed
  simp only [DimAndBound.extent]
  split
  · trivial
  · split
    · next bounded =>
      refine ⟨?_, Int64.toInt_lt dim.2⟩
      apply lt_of_le_of_ne (Int64.le_toInt dim.2)
      intro same
      -- Only the number that stands for no bound is as low as that.
      have least : dim.2 = kDynamic := by
        rw [← Int64.toInt_inj, ← same]
        rfl
      simp [isDynamicDimSize, least] at bounded
    · trivial

/-- An extent that knows more leaves less open. -/
theorem slackOf_lt {fine coarse : Extent Int} (refines : fine.Refines coarse)
    (inRange : BoundInRange fine) (also : BoundInRange coarse) :
    fine = coarse ∨ slackOf fine < slackOf coarse := by
  cases fine <;> cases coarse <;> simp_all [Extent.Refines, slackOf, BoundInRange]
  all_goals omega

/-- Extents that know more leave less open, unless they are the same. -/
theorem sum_slackOf_lt {fines coarses : List (Extent Int)}
    (refines : List.Forall₂ Extent.Refines fines coarses)
    (inRange : ∀ extent ∈ fines, BoundInRange extent) (also : ∀ extent ∈ coarses, BoundInRange extent) :
    fines = coarses ∨ (fines.map slackOf).sum < (coarses.map slackOf).sum := by
  induction refines with
  | nil => exact .inl rfl
  | cons head _ ih =>
    rw [List.forall_mem_cons] at inRange also
    simp only [List.map_cons, List.sum_cons]
    cases slackOf_lt head inRange.1 also.1 with
    | inl same =>
      cases ih inRange.2 also.2 with
      | inl rest => exact .inl (by rw [same, rest])
      | inr less => exact .inr (by rw [same]; omega)
    | inr less =>
      cases ih inRange.2 also.2 with
      | inl rest => exact .inr (by rw [rest]; omega)
      | inr lessToo => exact .inr (by omega)

/-- The shape and the bounds of a well-formed type are those of its extents. -/
theorem dimsAndBounds_eq (wellFormed : type.WellFormed) :
    type.dimsAndBounds = type.extents.map DimAndBound.ofExtent :=
  eq_map_ofExtent wellFormed.forall_dims

/-- The shape of a well-formed type is that of its extents. -/
theorem shape_eq (wellFormed : type.WellFormed) :
    type.shape = type.extents.map (fun extent => (DimAndBound.ofExtent extent).1) := by
  have sizes : type.dimsAndBounds.map Prod.fst = type.shape := by
    have long := wellFormed.length_dimsAndBounds
    simp only [RankedTensorType.dimsAndBounds, List.length_zip, RankedTensorType.rank] at long ⊢
    exact List.map_fst_zip (by omega)
  rw [← sizes, dimsAndBounds_eq wellFormed, List.map_map]
  rfl

/-- The encoding of a well-formed type that carries bounds has those of its extents. -/
theorem encoding_eq (wellFormed : type.WellFormed) (carries : type.carriesBounds = true) :
    type.encoding =
      some (.typeExtensions (type.extents.map fun extent => (DimAndBound.ofExtent extent).2)) := by
  obtain ⟨bounds, nonempty, encoded⟩ := RankedTensorType.exists_typeExtensions carries
  have all : type.dimsAndBounds.map Prod.snd = bounds := by
    have verified := wellFormed.resolve_left (by simpa [encoded, encodingToBounds] using nonempty)
    simp only [encoded, encodingToBounds, verifyBounds, Bool.and_eq_true, beq_iff_eq,
      RankedTensorType.rank] at verified
    have present : bounds.isEmpty = false := by simpa using nonempty
    simp only [RankedTensorType.dimsAndBounds, encoded, encodingToBounds, present,
      Bool.false_eq_true, if_false]
    exact List.map_snd_zip (by omega)
  rw [encoded, ← all, dimsAndBounds_eq wellFormed, List.map_map]
  rfl

/-- A merged type leaves less open than the first type, unless it is the first type. -/
theorem RankedTensorType.MergedInto.slack_lt (merged : type.MergedInto first row)
    (wellFormed : first.WellFormed)
    (refines : List.Forall₂ Extent.Refines type.extents first.extents) :
    type = first ∨ type.slack < first.slack := by
  have formed := merged.ofRow.wellFormed
  rw [RankedTensorType.slack, RankedTensorType.slack]
  cases carries : first.carriesBounds with
  | false =>
    -- The encodings are the same, so a difference is one of the dimensions.
    rw [merged.carriesBounds carries]
    cases sum_slackOf_lt refines extents_inRange extents_inRange with
    | inl same =>
      left
      have shape : type.shape = first.shape := by rw [shape_eq formed, shape_eq wellFormed, same]
      obtain ⟨typeShape, typeElement, typeEncoding⟩ := type
      obtain ⟨firstShape, firstElement, firstEncoding⟩ := first
      cases shape
      cases merged.elementType
      cases merged.encoding carries
      rfl
    | inr less => exact .inr (by omega)
  | true =>
    cases sum_slackOf_lt refines extents_inRange extents_inRange with
    | inl same =>
      cases also : type.carriesBounds with
      | false =>
        -- No bound is left, and the slots for them are dropped.
        right
        rw [same]
        simp
      | true =>
        left
        have shape : type.shape = first.shape := by
          rw [shape_eq formed, shape_eq wellFormed, same]
        have encoding : type.encoding = first.encoding := by
          rw [encoding_eq formed also, encoding_eq wellFormed carries, same]
        obtain ⟨typeShape, typeElement, typeEncoding⟩ := type
        obtain ⟨firstShape, firstElement, firstEncoding⟩ := first
        cases shape
        cases merged.elementType
        cases encoding
        rfl
    | inr less =>
      right
      have few : (if type.carriesBounds then 1 else 0) ≤ 1 := by split <;> omega
      simp only [if_true]
      omega

/-- What the first type knows is known to the merged one. -/
theorem RankedTensorType.MergedInto.extents_left {second : List (Extent Int)}
    (merged : type.MergedInto first row)
    (met : Extent.merge Extent.meet first.extents second = some row) :
    List.Forall₂ Extent.Refines type.extents first.extents := by
  rw [merged.ofRow.extents]
  exact Extent.merge_refines_left met not_bounded_of_not_carriesBounds

/-- Merging a row with itself changes nothing. -/
theorem merge_self (extents : List (Extent Int)) :
    Extent.merge Extent.meet extents extents = some extents := by
  induction extents with
  | nil => rfl
  | cons extent rest ih =>
    exact Extent.merge_cons.2
      ⟨extent, rest, Extent.meet_of_refines (Extent.Refines.refl extent), ih, rfl⟩

end Ranked

/-- What the most specific type of a current type and a proposed one is to them. -/
structure Specializes (keeps : StablehloType → StablehloType → Prop)
    (slack : StablehloType → ℕ ×ₗ ℕ) (wellFormed : StablehloType → Prop)
    (current proposed specific : StablehloType) : Prop where
  /-- It says what both types say when nothing is lost. -/
  refines : specific.Refines current ∧ specific.Refines proposed ↔ keeps current proposed
  /-- Then the current type said it all when it said what the proposed type says. -/
  strict : keeps current proposed → (current.Refines specific ↔ current.Refines proposed)
  /-- It is the current type, or it leaves less open. -/
  slack : specific = current ∨ slack specific < slack current
  wellFormed : wellFormed specific

/-- Two types outside of tuples are specialized, or there is an error. -/
abbrev SpecializesShaped : StablehloType → StablehloType → StablehloType → Prop :=
  Specializes StablehloType.KeepsShaped StablehloType.shapedSlack StablehloType.ShapedWellFormed

section Shaped

variable {current proposed : StablehloType}

/-- A ranked tensor type is well formed as it is. -/
theorem shapedWellFormed_toType {type : RankedTensorType} (wellFormed : type.WellFormed) :
    type.toType.ShapedWellFormed := by
  intro ranked same
  rw [asRankedTensor_toType, Option.some.injEq] at same
  rwa [← same]

/-- Two ranked tensor types are specialized to the type with the meets of their extents. -/
theorem specializes_ranked {first second type : RankedTensorType} {row : List (Extent Int)}
    (wellFormed : first.WellFormed)
    (met : Extent.merge Extent.meet first.extents second.extents = some row)
    (merged : type.MergedInto first row) :
    SpecializesShaped first.toType second.toType type.toType := by
  have left := merged.extents_left met
  have right : List.Forall₂ Extent.Refines (row.map (Extent.keepBound first.carriesBounds))
      second.extents ↔ List.Forall₂ (Extent.BoundKept first.carriesBounds) first.extents
        second.extents :=
    Extent.merge_refines_right_iff met not_bounded_of_not_carriesBounds
  rw [← merged.ofRow.extents] at right
  have refinesFirst : type.Refines first := by
    refine ⟨merged.elementType, left, ?_⟩
    intro encoding same
    rw [merged.other, same]
  refine ⟨?_, ?_, ?_, shapedWellFormed_toType merged.ofRow.wellFormed⟩
  · show _ ↔ first.Keeps second
    rw [StablehloType.Refines.toType_iff, StablehloType.Refines.toType_iff,
      and_iff_right refinesFirst]
    constructor
    · intro refines
      refine ⟨merged.elementType.symm.trans refines.elementType, right.1 refines.extents, ?_⟩
      intro encoding same
      rw [← merged.other]
      exact refines.encoding encoding same
    · intro keeps
      refine ⟨merged.elementType.trans keeps.elementType, right.2 keeps.extents, ?_⟩
      intro encoding same
      rw [merged.other]
      exact keeps.encoding encoding same
  · intro keeps
    have keeps : first.Keeps second := keeps
    have known := Extent.refines_merge_iff met keeps.extents
    rw [← merged.ofRow.extents] at known
    rw [StablehloType.Refines.toType_iff, StablehloType.Refines.toType_iff]
    constructor
    · intro refines
      exact ⟨keeps.elementType, known.1 refines.extents, keeps.encoding⟩
    · intro refines
      refine ⟨merged.elementType.symm, known.2 refines.extents, ?_⟩
      intro encoding same
      rw [← merged.other, same]
  · cases merged.slack_lt wellFormed left with
    | inl same => exact .inl (by rw [same])
    | inr less =>
      right
      exact Prod.Lex.toLex_lt_toLex.2 (.inr ⟨rfl, less⟩)

/-- Nothing is lost when a ranked tensor type is merged with itself. -/
theorem keeps_self (first : RankedTensorType) : first.Keeps first where
  elementType := rfl
  extents := by
    apply List.forall₂_same.2
    intro extent listed
    cases carries : first.carriesBounds with
    | true => exact .inl rfl
    | false =>
      right
      intro bound same
      exact absurd same (not_bounded_of_not_carriesBounds carries extent listed bound)
  encoding := fun _ same => same

/-- A ranked tensor type and a type without a rank are specialized to the former. -/
theorem specializes_current {first type : RankedTensorType} (wellFormed : first.WellFormed)
    (merged : type.MergedInto first first.extents) (plain : proposed.asRankedTensor = none) :
    SpecializesShaped first.toType proposed type.toType := by
  -- It is as if the type had been merged with itself.
  have both := specializes_ranked wellFormed (merge_self first.extents) merged
  have down : type.toType.Refines first.toType := (both.refines.2 (keeps_self first)).1
  have up : first.toType.Refines type.toType := (both.strict (keeps_self first)).2 (.refl _)
  have keeps : first.toType.KeepsShaped proposed ↔
      proposed = .unrankedTensor first.elementType := by
    rw [StablehloType.KeepsShaped, asRankedTensor_toType, plain]
  refine ⟨?_, ?_, both.slack, both.wellFormed⟩
  · rw [keeps, StablehloType.Refines.toType_iff_of_not_ranked plain, merged.elementType,
      and_iff_right down]
  · intro kept
    rw [StablehloType.Refines.toType_iff_of_not_ranked plain]
    exact iff_of_true up (keeps.1 kept)

/-- A type without a rank and a ranked tensor type are specialized to the latter. -/
theorem specializes_proposed {second type : RankedTensorType} (wellFormed : second.WellFormed)
    (merged : type.MergedInto second second.extents) (plain : current.asRankedTensor = none) :
    SpecializesShaped current second.toType type.toType := by
  have both := specializes_ranked wellFormed (merge_self second.extents) merged
  have down : type.toType.Refines second.toType := (both.refines.2 (keeps_self second)).1
  have keeps : current.KeepsShaped second.toType ↔
      current = .unrankedTensor second.elementType := by
    rw [StablehloType.KeepsShaped, asRankedTensor_toType, plain]
  refine ⟨?_, ?_, ?_, both.wellFormed⟩
  · rw [keeps, StablehloType.Refines.toType_iff_of_not_ranked plain, merged.elementType,
      and_iff_left down]
  · -- The current type has no rank, so it says less than either.
    intro _
    exact iff_of_false (StablehloType.Refines.not_toType_of_not_ranked plain)
      (StablehloType.Refines.not_toType_of_not_ranked plain)
  · right
    rw [StablehloType.shapedSlack, StablehloType.shapedSlack, asRankedTensor_toType, plain]
    exact Prod.Lex.toLex_lt_toLex.2 (.inl Nat.zero_lt_one)

/-- Two types outside of tuples are specialized to a type that is no new tuple type, or there is
an error. -/
theorem inferMostSpecificShapedType_pair (wellFormed : current.ShapedWellFormed)
    (also : proposed.ShapedWellFormed) :
    (∃ specific, inferMostSpecificShapedType [current, proposed] = .ok specific ∧
      SpecializesShaped current proposed specific ∧
      (specific = current ∨ specific.asTuple = none)) ∨
    ∃ message, inferMostSpecificShapedType [current, proposed] = .error (.error message) := by
  cases first : current.asRankedTensor with
  | none =>
    cases second : proposed.asRankedTensor with
    | none =>
      -- Neither has a rank, so the current type stays.
      left
      refine ⟨current, by simp [inferMostSpecificShapedType, first, second], ?_, .inl rfl⟩
      have keeps : current.KeepsShaped proposed ↔ current.Refines proposed := by
        rw [StablehloType.KeepsShaped, first, second]
      refine ⟨?_, ?_, .inl rfl, wellFormed⟩
      · rw [keeps, and_iff_right (StablehloType.Refines.refl current)]
      · intro kept
        exact iff_of_true (.refl current) (keeps.1 kept)
    | some ranked =>
      left
      obtain ⟨type, built, merged⟩ := inferTypeWithCustomFn_single (also ranked second)
      refine ⟨type.toType, ?_, ?_, .inr rfl⟩
      · simp only [inferMostSpecificShapedType, List.filterMap_cons, List.filterMap_nil, first,
          second, List.isEmpty_cons, Bool.false_eq_true, if_false, built]
        rfl
      · rw [StablehloType.eq_toType second]
        exact specializes_proposed (also ranked second) merged first
  | some ranked =>
    cases second : proposed.asRankedTensor with
    | none =>
      left
      obtain ⟨type, built, merged⟩ := inferTypeWithCustomFn_single (wellFormed ranked first)
      refine ⟨type.toType, ?_, ?_, .inr rfl⟩
      · simp only [inferMostSpecificShapedType, List.filterMap_cons, List.filterMap_nil, first,
          second, List.isEmpty_cons, Bool.false_eq_true, if_false, built]
        rfl
      · rw [StablehloType.eq_toType first]
        exact specializes_current (wellFormed ranked first) merged second
    | some other =>
      have unfolded : inferMostSpecificShapedType [current, proposed] =
          RankedTensorType.toType <$>
            inferTypeWithCustomFn [ranked, other] inferMostSpecificDimAndBound := by
        simp [inferMostSpecificShapedType, first, second]
      rw [unfolded]
      cases inferTypeWithCustomFn_pair (wellFormed ranked first) (also other second) with
      | inl succeeds =>
        obtain ⟨type, row, built, met, merged⟩ := succeeds
        left
        refine ⟨type.toType, by rw [built]; rfl, ?_, .inr rfl⟩
        rw [StablehloType.eq_toType first, StablehloType.eq_toType second]
        exact specializes_ranked (wellFormed ranked first) met merged
      | inr fails =>
        obtain ⟨message, failed⟩ := fails
        right
        exact ⟨message, by rw [failed]; rfl⟩

end Shaped

section Tuples

/-- Passes that have results or emit errors make a loop that does. -/
theorem mapM_ok_or_error {α β : Type} {items : List α} {pass : α → Except InferenceFailure β}
    (each : ∀ item ∈ items, (∃ result, pass item = .ok result) ∨
      ∃ message, pass item = .error (.error message)) :
    (∃ results, items.mapM pass = .ok results) ∨
      ∃ message, items.mapM pass = .error (.error message) := by
  induction items with
  | nil => exact .inl ⟨[], rfl⟩
  | cons item items ih =>
    rw [List.forall_mem_cons] at each
    rw [List.mapM_cons]
    -- The first error is the one of the loop.
    cases each.1 with
    | inr fails =>
      obtain ⟨message, failed⟩ := fails
      exact .inr ⟨message, by rw [failed]; rfl⟩
    | inl succeeds =>
      obtain ⟨result, passed⟩ := succeeds
      cases ih each.2 with
      | inr fails =>
        obtain ⟨message, failed⟩ := fails
        exact .inr ⟨message, by rw [passed, failed]; rfl⟩
      | inl rest =>
        obtain ⟨results, looped⟩ := rest
        exact .inl ⟨result :: results, by rw [passed, looped]; rfl⟩

/-- The types of each place of two lists are specialized. -/
def SpecializesAll (currents proposeds specifics : List StablehloType) : Prop :=
  List.Forall₂ (fun pair specific => SpecializesShaped pair.1 pair.2 specific)
    (currents.zip proposeds) specifics

variable {currents proposeds specifics : List StablehloType}

/-- Lists of types that are specialized say what the lists say when nothing is lost. -/
theorem SpecializesAll.refines (all : SpecializesAll currents proposeds specifics)
    (long : currents.length = proposeds.length) :
    List.Forall₂ StablehloType.Refines specifics currents ∧
      List.Forall₂ StablehloType.Refines specifics proposeds ↔
        List.Forall₂ StablehloType.KeepsShaped currents proposeds := by
  induction currents generalizing proposeds specifics with
  | nil =>
    cases proposeds with
    | nil =>
      cases all
      simp
    | cons proposed rest => contradiction
  | cons current rest ih =>
    cases proposeds with
    | nil => contradiction
    | cons proposed others =>
      cases all with
      | cons head tail =>
        simp only [List.forall₂_cons, ← head.refines, ← ih tail (Nat.succ_inj.1 long)]
        grind

/-- The current types said it all when they said what the proposed types say. -/
theorem SpecializesAll.strict (all : SpecializesAll currents proposeds specifics)
    (keeps : List.Forall₂ StablehloType.KeepsShaped currents proposeds) :
    List.Forall₂ StablehloType.Refines currents specifics ↔
      List.Forall₂ StablehloType.Refines currents proposeds := by
  induction keeps generalizing specifics with
  | nil =>
    cases all
    rfl
  | cons kept _ ih =>
    cases all with
    | cons head tail => rw [List.forall₂_cons, List.forall₂_cons, head.strict kept, ih tail]

/-- Lists of types that are specialized are the current ones, or they leave less open. -/
theorem SpecializesAll.slack (all : SpecializesAll currents proposeds specifics)
    (long : currents.length = proposeds.length) :
    specifics = currents ∨
      (specifics.map StablehloType.shapedSlack).sum
        < (currents.map StablehloType.shapedSlack).sum := by
  induction currents generalizing proposeds specifics with
  | nil =>
    cases all
    exact .inl rfl
  | cons current rest ih =>
    cases proposeds with
    | nil => contradiction
    | cons proposed others =>
      cases all with
      | cons head tail =>
        simp only [List.map_cons, List.sum_cons]
        cases head.slack with
        | inl same =>
          cases ih tail (Nat.succ_inj.1 long) with
          | inl restSame => exact .inl (by rw [same, restSame])
          | inr less =>
            right
            rw [same]
            exact add_lt_add_right less _
        | inr less =>
          right
          cases ih tail (Nat.succ_inj.1 long) with
          | inl restSame =>
            rw [restSame]
            exact add_lt_add_left less _
          | inr lessToo => exact add_lt_add less lessToo

/-- The elements of lists of types that are specialized are well formed. -/
theorem SpecializesAll.wellFormed (all : SpecializesAll currents proposeds specifics) :
    ∀ specific ∈ specifics, specific.ShapedWellFormed := by
  intro specific listed
  obtain ⟨place, short, rfl⟩ := List.mem_iff_getElem.1 listed
  exact ((List.forall₂_iff_get.1 all).2 place (all.length_eq ▸ short) short).wellFormed

/-- The types of two lists are specialized place by place, or there is an error. -/
theorem specializes_places {types others : List StablehloType}
    (long : others.length = types.length)
    (wellFormed : ∀ type ∈ types, type.ShapedWellFormed)
    (also : ∀ type ∈ others, type.ShapedWellFormed) :
    (∃ results, ((List.range types.length).mapM fun place => inferMostSpecificShapedType
        ([types, others].filterMap fun tupleType => tupleType[place]?)) = .ok results ∧
      SpecializesAll types others results) ∨
    ∃ message, ((List.range types.length).mapM fun place => inferMostSpecificShapedType
      ([types, others].filterMap fun tupleType => tupleType[place]?))
        = .error (.error message) := by
  -- One place has the two types at it, and they are merged by themselves.
  have each : ∀ place (short : place < types.length) (shortToo : place < others.length),
      (∃ specific, inferMostSpecificShapedType
          ([types, others].filterMap fun tupleType => tupleType[place]?) = .ok specific ∧
        SpecializesShaped types[place] others[place] specific) ∨
      ∃ message, inferMostSpecificShapedType
        ([types, others].filterMap fun tupleType => tupleType[place]?)
          = .error (.error message) := by
    intro place short shortToo
    simp only [List.filterMap_cons, List.filterMap_nil, List.getElem?_eq_getElem short,
      List.getElem?_eq_getElem shortToo]
    cases inferMostSpecificShapedType_pair (wellFormed _ (List.getElem_mem short))
        (also _ (List.getElem_mem shortToo)) with
    | inr fails => exact .inr fails
    | inl succeeds =>
      obtain ⟨specific, built, specializes, _⟩ := succeeds
      exact .inl ⟨specific, built, specializes⟩
  refine (mapM_ok_or_error ?_).imp ?_ id
  · intro place listed
    have short := List.mem_range.1 listed
    refine (each place short (long ▸ short)).imp ?_ id
    intro ⟨specific, built, _⟩
    exact ⟨specific, built⟩
  · intro ⟨results, looped⟩
    refine ⟨results, looped, ?_⟩
    have passes := Fallible.mapM_eq_ok_iff.1 looped
    have count := passes.length_eq
    rw [List.length_range] at count
    rw [SpecializesAll, List.forall₂_iff_get]
    refine ⟨by rw [List.length_zip]; omega, ?_⟩
    intro place short shortToo
    have inside : place < types.length := by omega
    have built := (List.forall₂_iff_get.1 passes).2 place (by simpa using inside) shortToo
    rw [List.get_eq_getElem, List.getElem_range] at built
    cases each place inside (long ▸ inside) with
    | inr fails =>
      obtain ⟨message, failed⟩ := fails
      rw [failed] at built
      contradiction
    | inl succeeds =>
      obtain ⟨specific, same, specializes⟩ := succeeds
      rw [same, Except.ok.injEq] at built
      rw [built] at specializes
      simpa using specializes

end Tuples

/-- Two types are specialized, or there is an error. -/
theorem inferMostSpecificType_pair {current proposed : StablehloType}
    (wellFormed : current.WellFormed) (also : proposed.WellFormed) :
    (∃ specific, inferMostSpecificType [current, proposed] = .ok specific ∧
      Specializes StablehloType.Keeps StablehloType.slack StablehloType.WellFormed
        current proposed specific) ∨
    ∃ message, inferMostSpecificType [current, proposed] = .error (.error message) := by
  cases first : current.asTuple with
  | none =>
    cases second : proposed.asTuple with
    | none =>
      have unfolded : inferMostSpecificType [current, proposed] =
          inferMostSpecificShapedType [current, proposed] := by
        simp [inferMostSpecificType, mapOverTupleElements, first, second]
      rw [unfolded]
      cases inferMostSpecificShapedType_pair wellFormed.1 also.1 with
      | inr fails => exact .inr fails
      | inl succeeds =>
        obtain ⟨specific, built, specializes, same⟩ := succeeds
        have plain : specific.asTuple = none := by
          cases same with
          | inl same => rwa [same]
          | inr plain => exact plain
        refine .inl ⟨specific, built, ?_, ?_, ?_, specializes.wellFormed, ?_⟩
        · rw [StablehloType.Keeps, first]
          exact specializes.refines
        · rw [StablehloType.Keeps, first]
          exact specializes.strict
        · rw [StablehloType.slack, StablehloType.slack, first, plain]
          exact specializes.slack
        · intro types impossible
          rw [plain] at impossible
          contradiction
    | some types =>
      exact .inr ⟨"Mismatched type kinds: either all types must be tuples, or no types must be " ++
        "tuples", by simp [inferMostSpecificType, mapOverTupleElements, first, second]⟩
  | some types =>
    cases second : proposed.asTuple with
    | none =>
      exact .inr ⟨"Mismatched type kinds: either all types must be tuples, or no types must be " ++
        "tuples", by simp [inferMostSpecificType, mapOverTupleElements, first, second]⟩
    | some others =>
      by_cases long : others.length = types.length
      · have unfolded : inferMostSpecificType [current, proposed] =
            ((List.range types.length).mapM fun place => inferMostSpecificShapedType
              ([types, others].filterMap fun tupleType => tupleType[place]?)) >>=
                fun results => .ok (.tuple results) := by
          simp [inferMostSpecificType, mapOverTupleElements, first, second, long]
        rw [unfolded]
        cases specializes_places long (wellFormed.2 types first) (also.2 others second) with
        | inr fails =>
          obtain ⟨message, failed⟩ := fails
          exact .inr ⟨message, by rw [failed]; rfl⟩
        | inl succeeds =>
          obtain ⟨results, looped, all⟩ := succeeds
          refine .inl ⟨.tuple results, by rw [looped]; rfl, ?_, ?_, ?_, ?_, ?_⟩
          · rw [StablehloType.Keeps, first, second, StablehloType.eq_tuple first,
              StablehloType.eq_tuple second, StablehloType.Refines.tuple_iff,
              StablehloType.Refines.tuple_iff]
            exact all.refines long.symm
          · intro keeps
            rw [StablehloType.Keeps, first, second] at keeps
            rw [StablehloType.eq_tuple first, StablehloType.eq_tuple second,
              StablehloType.Refines.tuple_iff, StablehloType.Refines.tuple_iff]
            exact all.strict keeps
          · rw [StablehloType.slack, StablehloType.slack, first, StablehloType.eq_tuple first]
            cases all.slack long.symm with
            | inl same => exact .inl (by rw [same])
            | inr less => exact .inr less
          · intro ranked impossible
            contradiction
          · intro elements same element listed
            cases same
            exact all.wellFormed element listed
      · refine .inr ⟨"Mismatched tuple sizes: all tuple sizes must be the same", ?_⟩
        simp [inferMostSpecificType, mapOverTupleElements, first, second, long]

end Stablehlo
