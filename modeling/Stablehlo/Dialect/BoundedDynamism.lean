import Mathlib.Data.List.Zip
import Stablehlo.Dialect.Base

/-! What merging types comes to: the extents of the dimensions of a type, and how the source
merges them. -/

namespace Stablehlo

namespace DimAndBound

/-- A bound is on a dynamic dimension. -/
def WellFormed (dim : DimAndBound) : Prop :=
  isDynamicDimSize dim.1 = true ∨ isDynamicDimSize dim.2 = true

/-- What the size and the bound say of a size. -/
def extent (dim : DimAndBound) : Extent Int :=
  if !isDynamicDimSize dim.1 then .static dim.1.toInt
  else if !isDynamicDimSize dim.2 then .bounded dim.2.toInt
  else .unbounded

end DimAndBound

/-- The size and the bound that say what the extent says. -/
def DimAndBound.ofExtent : Extent Int → DimAndBound
  | .static size => (.ofInt size, kDynamic)
  | .bounded bound => (kDynamic, .ofInt bound)
  | .unbounded => (kDynamic, kDynamic)

/-- The extent determines the size and the bound. -/
theorem DimAndBound.ofExtent_extent {dim : DimAndBound} (wellFormed : dim.WellFormed) :
    DimAndBound.ofExtent dim.extent = dim := by
  obtain ⟨size, bound⟩ := dim
  simp only [WellFormed, isDynamicDimSize, beq_iff_eq] at wellFormed
  unfold extent
  by_cases dynamic : size = kDynamic
  · by_cases boundless : bound = kDynamic <;>
      simp [isDynamicDimSize, dynamic, boundless, ofExtent]
  · simp [isDynamicDimSize, dynamic, ofExtent, wellFormed.resolve_left dynamic]

namespace RankedTensorType

/-- What the type says of the sizes of its tensors. -/
def extents (type : RankedTensorType) : List (Extent Int) :=
  type.dimsAndBounds.map DimAndBound.extent

/-- The verifier has nothing against the bounds of the type. -/
def WellFormed (type : RankedTensorType) : Prop :=
  let bounds := encodingToBounds type.encoding
  bounds.isEmpty = true ∨ verifyBounds bounds type = true

instance (type : RankedTensorType) : Decidable type.WellFormed :=
  inferInstanceAs (Decidable (_ ∨ _))

/-- The type has a bound slot for each dimension. -/
def carriesBounds (type : RankedTensorType) : Bool :=
  !(encodingToBounds type.encoding).isEmpty

/-- A shape of tensors of the type: the size of a static dimension, at most the bound of a
bounded one, and anything for the others. -/
def Conforms (type : RankedTensorType) (shape : List Nat) : Prop :=
  List.Forall₂ (fun extent (size : Nat) => extent.Admits (size : Int)) type.extents shape

variable {type : RankedTensorType}

/-- There is a size and a bound for each dimension. -/
theorem WellFormed.length_dimsAndBounds (wellFormed : type.WellFormed) :
    type.dimsAndBounds.length = type.rank := by
  simp only [dimsAndBounds]
  split
  · simp [rank]
  · next present =>
    have verified := wellFormed.resolve_left present
    simp only [verifyBounds, Bool.and_eq_true, beq_iff_eq] at verified
    simp [rank, verified.1]

/-- There is an extent for each dimension. -/
theorem WellFormed.length_extents (wellFormed : type.WellFormed) :
    type.extents.length = type.rank := by
  rw [extents, List.length_map, wellFormed.length_dimsAndBounds]

/-- The bounds are on dynamic dimensions. -/
theorem WellFormed.of_mem (wellFormed : type.WellFormed) {dim : DimAndBound}
    (listed : dim ∈ type.dimsAndBounds) : dim.WellFormed := by
  obtain ⟨size, bound⟩ := dim
  simp only [dimsAndBounds] at listed
  split at listed
  · -- Without bounds, no dimension has one.
    have := (List.of_mem_zip listed).2
    simp only [List.mem_replicate] at this
    exact .inr (by simp [this.2, isDynamicDimSize])
  · next present =>
    have verified := wellFormed.resolve_left present
    simp only [verifyBounds, Bool.and_eq_true, List.all_eq_true, Bool.or_eq_true] at verified
    have swapped : (bound, size) ∈ (encodingToBounds type.encoding).zip type.shape := by
      rw [← List.zip_swap]
      exact List.mem_map.mpr ⟨_, listed, rfl⟩
    exact (verified.2 _ swapped).symm

end RankedTensorType

section Dimensions

/-- How the source merges two dimensions. -/
abbrev InferDimAndBound :=
  Nat → Int64 → Int64 → Int64 → Int64 → Except InferenceFailure DimAndBound

/-- An error is emitted. -/
def InferenceFailure.Emitted (failure : InferenceFailure) : Prop :=
  ∃ message, failure = .error message

/-- The source has a result where there is one, and emits an error where there is none. -/
def Agrees {α β : Type} (Rel : α → β → Prop) : Except InferenceFailure α → Option β → Prop
  | .ok result, some value => Rel result value
  | .error failure, none => failure.Emitted
  | _, _ => False

section Agreement

variable {α β : Type} {Rel : α → β → Prop}

@[simp] theorem agrees_ok (result : α) (value : β) :
    Agrees Rel (.ok result) (some value) ↔ Rel result value := .rfl

@[simp] theorem agrees_error (message : String) :
    Agrees Rel (.error (.error message)) none := ⟨message, rfl⟩

/-- There is a result and a value, or neither. -/
theorem Agrees.cases {result : Except InferenceFailure α} {value : Option β}
    (agree : Agrees Rel result value) :
    (∃ a b, result = .ok a ∧ value = some b ∧ Rel a b) ∨
      ∃ failure, result = .error failure ∧ value = none ∧ failure.Emitted := by
  cases result with
  | ok a =>
    cases value with
    | some b => exact .inl ⟨a, b, rfl, rfl, agree⟩
    | none => cases agree
  | error failure =>
    cases value with
    | some b => cases agree
    | none => exact .inr ⟨failure, rfl, rfl, agree⟩

/-- What goes on from results that agree agrees when it does for each of them. -/
theorem Agrees.bind {γ δ : Type} {Next : γ → δ → Prop} {result : Except InferenceFailure α}
    {value : Option β} {step : α → Except InferenceFailure γ} {other : β → Option δ}
    (agree : Agrees Rel result value)
    (next : ∀ a b, Rel a b → Agrees Next (step a) (other b)) :
    Agrees Next (result >>= step) (value >>= other) := by
  rcases agree.cases with ⟨a, b, rfl, rfl, related⟩ | ⟨failure, rfl, rfl, emitted⟩
  · exact next a b related
  · exact emitted

/-- What goes on from a result that agrees with a value may agree with the value too. -/
theorem Agrees.andThen {γ : Type} {Next : γ → β → Prop} {result : Except InferenceFailure α}
    {value : Option β} {step : α → Except InferenceFailure γ} (agree : Agrees Rel result value)
    (next : ∀ a b, Rel a b → Agrees Next (step a) (some b)) :
    Agrees Next (result >>= step) value := by
  rcases agree.cases with ⟨a, b, rfl, rfl, related⟩ | ⟨failure, rfl, rfl, emitted⟩
  · exact next a b related
  · exact emitted

/-- What is known of the value is known beside the result. -/
theorem Agrees.and {Known : β → Prop} {result : Except InferenceFailure α} {value : Option β}
    (agree : Agrees Rel result value) (known : ∀ b, value = some b → Known b) :
    Agrees (fun a b => Rel a b ∧ Known b) result value := by
  rcases agree.cases with ⟨a, b, rfl, rfl, related⟩ | ⟨failure, rfl, rfl, emitted⟩
  · exact ⟨related, known b rfl⟩
  · exact emitted

/-- Loops agree when each of their steps does. -/
theorem Agrees.foldlM {γ δ : Type} {Item : γ → δ → Prop} {items : List γ} {others : List δ}
    {step : α → γ → Except InferenceFailure α} {other : β → δ → Option β}
    (paired : List.Forall₂ Item items others)
    (next : ∀ a b c d, Rel a b → Item c d → Agrees Rel (step a c) (other b d)) {a : α} {b : β}
    (start : Rel a b) : Agrees Rel (items.foldlM step a) (others.foldlM other b) := by
  induction paired generalizing a b with
  | nil => exact start
  | cons head _ ih =>
    simp only [List.foldlM_cons]
    exact (next a b _ _ start head).bind fun _ _ related => ih related

end Agreement

/-- A dimension is well formed and says what the extent says. -/
def DimAndBound.Says (dim : DimAndBound) (extent : Extent Int) : Prop :=
  dim.WellFormed ∧ dim.extent = extent

/-- The source merges the extents of dimensions. -/
def Merges (infer : InferDimAndBound)
    (op : Extent Int → Extent Int → Option (Extent Int)) : Prop :=
  ∀ (dim : Nat) (left right : DimAndBound), left.WellFormed → right.WellFormed →
    Agrees DimAndBound.Says (infer dim left.1 right.1 left.2 right.2) (op left.extent right.extent)

/-- A well-formed dimension is static, bounded or dynamic. -/
theorem DimAndBound.WellFormed.cases {dim : DimAndBound} (wellFormed : dim.WellFormed) :
    (∃ size, size ≠ kDynamic ∧ dim = (size, kDynamic)) ∨
      (∃ bound, bound ≠ kDynamic ∧ dim = (kDynamic, bound)) ∨ dim = (kDynamic, kDynamic) := by
  obtain ⟨size, bound⟩ := dim
  simp only [WellFormed, isDynamicDimSize, beq_iff_eq] at wellFormed
  by_cases dynamic : size = kDynamic
  · by_cases boundless : bound = kDynamic
    · exact .inr (.inr (by rw [dynamic, boundless]))
    · exact .inr (.inl ⟨bound, boundless, by rw [dynamic]⟩)
  · exact .inl ⟨size, dynamic, by rw [wellFormed.resolve_left dynamic]⟩

@[simp] theorem isDynamicDimSize_kDynamic : isDynamicDimSize kDynamic = true := by decide

@[simp] theorem isDynamicDimSize_eq_false {val : Int64} (static : val ≠ kDynamic) :
    isDynamicDimSize val = false := by
  simpa [isDynamicDimSize] using static

@[simp] theorem extent_dynamic : DimAndBound.extent (kDynamic, kDynamic) = .unbounded := by
  decide

@[simp] theorem extent_static {size : Int64} (static : size ≠ kDynamic) :
    DimAndBound.extent (size, kDynamic) = .static size.toInt := by
  simp [DimAndBound.extent, isDynamicDimSize_eq_false static]

@[simp] theorem extent_bounded {bound : Int64} (static : bound ≠ kDynamic) :
    DimAndBound.extent (kDynamic, bound) = .bounded bound.toInt := by
  simp [DimAndBound.extent, isDynamicDimSize_eq_false static]

/-- The smaller of two numbers is one of them. -/
@[simp] theorem toInt_min (left right : Int64) :
    (min left right).toInt = min left.toInt right.toInt := by
  simp only [Min.min, Int64.le_iff_toInt_le]
  split <;> rfl

@[simp] theorem toInt_max (left right : Int64) :
    (max left right).toInt = max left.toInt right.toInt := by
  simp only [Max.max, Int64.le_iff_toInt_le]
  split <;> rfl

/-- The smaller of two known numbers is known. -/
@[simp] theorem min_ne_kDynamic {left right : Int64} (first : left ≠ kDynamic)
    (second : right ≠ kDynamic) : min left right ≠ kDynamic := by
  simp only [Min.min]
  split <;> assumption

@[simp] theorem max_ne_kDynamic {left right : Int64} (first : left ≠ kDynamic)
    (second : right ≠ kDynamic) : max left right ≠ kDynamic := by
  simp only [Max.max]
  split <;> assumption

/-- Dimensions are well formed when they have no bound, or no size. -/
@[simp] theorem wellFormed_boundless (size : Int64) :
    DimAndBound.WellFormed (size, kDynamic) := .inr (by simp)

@[simp] theorem wellFormed_sizeless (bound : Int64) :
    DimAndBound.WellFormed (kDynamic, bound) := .inl (by simp)

/-- The comparison of sizes is that of numbers. -/
theorem not_lt_iff_toInt {left right : Int64} : ¬ left < right ↔ right.toInt ≤ left.toInt := by
  rw [Int64.lt_iff_toInt_lt, not_lt]

/-- The source takes the meet of two dimensions. -/
theorem inferMostSpecificDimAndBound_merges :
    Merges inferMostSpecificDimAndBound Extent.meet := by
  intro dim left right first second
  rcases first.cases with ⟨size, static, rfl⟩ | ⟨bound, static, rfl⟩ | rfl
  · rcases second.cases with ⟨other, exact, rfl⟩ | ⟨other, exact, rfl⟩ | rfl
    · by_cases same : size = other
      · simp [inferMostSpecificDimAndBound, ← same, static, Extent.meet, DimAndBound.Says]
      · simp [inferMostSpecificDimAndBound, static, exact, Extent.meet, same, Int64.toInt_inj]
    · by_cases exceeds : other < size
      · have above : ¬ size.toInt ≤ other.toInt := mt not_lt_iff_toInt.mpr (not_not_intro exceeds)
        simp [inferMostSpecificDimAndBound, static, exact, Extent.meet, exceeds, above]
      · have within : size.toInt ≤ other.toInt := not_lt_iff_toInt.mp exceeds
        simp [inferMostSpecificDimAndBound, static, exact, Extent.meet, exceeds, within,
          DimAndBound.Says]
    · simp [inferMostSpecificDimAndBound, static, DimAndBound.Says]
  · rcases second.cases with ⟨other, exact, rfl⟩ | ⟨other, exact, rfl⟩ | rfl
    · by_cases exceeds : bound < other
      · have above : ¬ other.toInt ≤ bound.toInt := mt not_lt_iff_toInt.mpr (not_not_intro exceeds)
        simp [inferMostSpecificDimAndBound, static, exact, Extent.meet, exceeds, above]
      · have within : other.toInt ≤ bound.toInt := not_lt_iff_toInt.mp exceeds
        simp [inferMostSpecificDimAndBound, static, exact, Extent.meet, exceeds, within,
          DimAndBound.Says]
    · simp [inferMostSpecificDimAndBound, static, exact, Extent.meet, DimAndBound.Says]
    · simp [inferMostSpecificDimAndBound, static, DimAndBound.Says]
  · -- Nothing is known of the one, and the other is the result.
    rcases second.cases with ⟨other, exact, rfl⟩ | ⟨other, exact, rfl⟩ | rfl
    · simp [inferMostSpecificDimAndBound, exact, DimAndBound.Says]
    · simp [inferMostSpecificDimAndBound, exact, DimAndBound.Says]
    · simp [inferMostSpecificDimAndBound, DimAndBound.Says]

/-- The source takes the join of two dimensions. -/
theorem inferLeastSpecificDimAndBound_merges :
    Merges inferLeastSpecificDimAndBound Extent.join := by
  intro dim left right first second
  rcases first.cases with ⟨size, static, rfl⟩ | ⟨bound, static, rfl⟩ | rfl
  · rcases second.cases with ⟨other, exact, rfl⟩ | ⟨other, exact, rfl⟩ | rfl
    · by_cases same : size = other
      · simp [inferLeastSpecificDimAndBound, ← same, static, Extent.join, DimAndBound.Says]
      · simp [inferLeastSpecificDimAndBound, static, exact, Extent.join, same, Int64.toInt_inj]
    · simp [inferLeastSpecificDimAndBound, static, exact, Extent.join, DimAndBound.Says]
    · simp [inferLeastSpecificDimAndBound, static, DimAndBound.Says]
  · rcases second.cases with ⟨other, exact, rfl⟩ | ⟨other, exact, rfl⟩ | rfl
    · simp [inferLeastSpecificDimAndBound, static, exact, Extent.join, DimAndBound.Says]
    · simp [inferLeastSpecificDimAndBound, static, exact, Extent.join, DimAndBound.Says]
    · simp [inferLeastSpecificDimAndBound, static, DimAndBound.Says]
  · -- Nothing is known of the one, and so of both.
    rcases second.cases with ⟨other, exact, rfl⟩ | ⟨other, exact, rfl⟩ | rfl
    · simp [inferLeastSpecificDimAndBound, exact, DimAndBound.Says]
    · simp [inferLeastSpecificDimAndBound, exact, DimAndBound.Says]
    · simp [inferLeastSpecificDimAndBound, DimAndBound.Says]

end Dimensions

section Types

variable {infer : InferDimAndBound} {op : Extent Int → Extent Int → Option (Extent Int)}

/-- Rows are merged as their dimensions are. -/
theorem inferDimsAndBounds_agrees (merges : Merges infer op) {lefts rights : List DimAndBound}
    {row other : List (Extent Int)} (former : List.Forall₂ DimAndBound.Says lefts row)
    (latter : List.Forall₂ DimAndBound.Says rights other) (same : row.length = other.length)
    (dim : Nat) :
    Agrees (List.Forall₂ DimAndBound.Says) (inferDimsAndBounds infer dim lefts rights)
      (Extent.merge op row other) := by
  induction former generalizing rights other dim with
  | nil =>
    cases latter with
    | nil => exact .nil
    | cons => simp at same
  | @cons first _ lefts row head _ ih =>
    cases latter with
    | nil => simp at same
    | @cons second _ rights other head' tail' =>
      obtain ⟨wellFormed, rfl⟩ := head
      obtain ⟨wellFormed', rfl⟩ := head'
      -- The heads are merged first, and an error there is the error.
      refine (merges dim first second wellFormed wellFormed').bind fun _ _ merged => ?_
      refine (ih tail' (by simpa using same) (dim + 1)).bind fun _ _ others => ?_
      exact .cons merged others

/-- The extents of a well-formed type say what its sizes and bounds do. -/
theorem RankedTensorType.WellFormed.forall_dims {type : RankedTensorType}
    (wellFormed : type.WellFormed) :
    List.Forall₂ DimAndBound.Says type.dimsAndBounds type.extents := by
  rw [RankedTensorType.extents, List.forall₂_map_right_iff, List.forall₂_same]
  exact fun dim listed => ⟨wellFormed.of_mem listed, rfl⟩

/-- The bounds of which not all are missing. -/
def presentBounds (bounds : List Int64) : List Int64 :=
  if bounds.all isDynamicDimSize then [] else bounds

/-- Bounds that are encoded are those of which not all are missing. -/
theorem boundsToEncoding_eq (carried : List Int64) {bounds : List Int64} (nonempty : bounds ≠ []) :
    ∃ encoding, boundsToEncoding (some (.typeExtensions carried)) bounds = .ok encoding ∧
      encodingToBounds encoding = presentBounds bounds := by
  by_cases missing : bounds.all isDynamicDimSize = true
  · exact ⟨none, by simp [boundsToEncoding, nonempty, missing],
      by simp [presentBounds, missing, encodingToBounds]⟩
  · exact ⟨some (.typeExtensions bounds), by simp [boundsToEncoding, nonempty, missing],
      by simp [presentBounds, missing, encodingToBounds]⟩

/-- The bounds a type carries are the type extensions of its encoding. -/
theorem RankedTensorType.exists_typeExtensions {type : RankedTensorType}
    (carries : type.carriesBounds = true) :
    ∃ bounds, bounds ≠ [] ∧ type.encoding = some (.typeExtensions bounds) := by
  simp only [RankedTensorType.carriesBounds, encodingToBounds] at carries
  split at carries
  · next bounds same => exact ⟨bounds, by simpa using carries, same⟩
  · simp at carries

/-- A type that carries bounds has dimensions. -/
theorem RankedTensorType.WellFormed.rank_pos {type : RankedTensorType}
    (wellFormed : type.WellFormed) (carries : type.carriesBounds = true) : 0 < type.rank := by
  have present : (encodingToBounds type.encoding).isEmpty = false := by
    simpa [RankedTensorType.carriesBounds] using carries
  have verified := wellFormed.resolve_left (by simp [present])
  simp only [verifyBounds, Bool.and_eq_true, beq_iff_eq] at verified
  rw [← verified.1, List.length_pos_iff]
  simpa using present

/-- The shape and the bounds of the type with the extents. -/
def rowShapeAndBounds (carriesBounds : Bool) (row : List (Extent Int)) :
    List Int64 × List Int64 :=
  (row.map fun extent => (DimAndBound.ofExtent extent).1,
    if carriesBounds then presentBounds (row.map fun extent => (DimAndBound.ofExtent extent).2)
    else [])

/-- Dimensions that say what the extents say are those of the extents. -/
theorem eq_map_ofExtent {dims : List DimAndBound} {row : List (Extent Int)}
    (same : List.Forall₂ DimAndBound.Says dims row) : dims = row.map DimAndBound.ofExtent := by
  induction same with
  | nil => rfl
  | cons head _ ih =>
    obtain ⟨wellFormed, rfl⟩ := head
    rw [List.map_cons, DimAndBound.ofExtent_extent wellFormed, ← ih]

/-- Dimensions that say what the extents say have these extents. -/
theorem map_extent {dims : List DimAndBound} {row : List (Extent Int)}
    (same : List.Forall₂ DimAndBound.Says dims row) : dims.map DimAndBound.extent = row := by
  induction same with
  | nil => rfl
  | cons head _ ih => rw [List.map_cons, head.2, ih]

/-- Less is said of a dimension without its bound. -/
theorem DimAndBound.admits_dropBound {dim : DimAndBound} {size : Int}
    (admitted : dim.extent.Admits size) : (extent (dim.1, kDynamic)).Admits size := by
  unfold extent at *
  by_cases static : isDynamicDimSize dim.1 = true
  · simp [static, Extent.Admits]
  · simpa [static] using admitted

/-- The type has the shape and the bounds that the extents come to, or the shape alone. -/
def RankedTensorType.OfRow (carriesBounds : Bool) (type : RankedTensorType)
    (row : List (Extent Int)) : Prop :=
  ∃ dims, List.Forall₂ DimAndBound.Says dims row ∧ type.shape = dims.map Prod.fst ∧
    encodingToBounds type.encoding =
      if carriesBounds then presentBounds (dims.map Prod.snd) else []

/-- Types are merged as their extents are. -/
theorem inferTypeWithCustomFn_agrees (merges : Merges infer op) {first : RankedTensorType}
    {rest : List RankedTensorType} (wellFormed : ∀ type ∈ first :: rest, type.WellFormed)
    (ranks : ∀ type ∈ rest, type.rank = first.rank) :
    Agrees (RankedTensorType.OfRow first.carriesBounds)
      (inferTypeWithCustomFn (first :: rest) infer)
      (Extent.mergeAll op first.extents (rest.map RankedTensorType.extents)) := by
  have sameRanks : ((first :: rest).find? fun type => type.rank != first.rank) = none := by
    simpa using ranks
  have firstFormed := wellFormed first (by simp)
  have paired : List.Forall₂ (fun (type : RankedTensorType) extents =>
      List.Forall₂ DimAndBound.Says type.dimsAndBounds extents ∧ extents.length = first.rank)
      rest (rest.map RankedTensorType.extents) := by
    rw [List.forall₂_map_right_iff, List.forall₂_same]
    intro type listed
    have formed := wellFormed type (by simp [listed])
    exact ⟨formed.forall_dims, formed.length_extents.trans (ranks type listed)⟩
  -- Each type is merged into what has been inferred, which keeps its length.
  have folded : Agrees (fun dims row =>
        List.Forall₂ DimAndBound.Says dims row ∧ row.length = first.rank)
      (rest.foldlM (fun inferred type => inferDimsAndBounds infer 0 inferred type.dimsAndBounds)
        first.dimsAndBounds)
      (Extent.mergeAll op first.extents (rest.map RankedTensorType.extents)) := by
    refine Agrees.foldlM paired (fun inferred row type extents before next => ?_)
      ⟨firstFormed.forall_dims, firstFormed.length_extents⟩
    refine (inferDimsAndBounds_agrees merges before.1 next.1 (before.2.trans next.2.symm) 0).and
      fun merged known => ?_
    exact (Extent.getElem?_of_merge known).1.trans before.2
  simp only [inferTypeWithCustomFn, sameRanks]
  refine folded.andThen fun dims row ⟨same, long⟩ => ?_
  rw [← RankedTensorType.carriesBounds]
  cases carries : first.carriesBounds with
  | false =>
    -- The encoding is that of the first type, which has no bounds.
    have absent : encodingToBounds first.encoding = [] := by
      simpa [RankedTensorType.carriesBounds] using carries
    exact ⟨dims, same, rfl, absent⟩
  | true =>
    obtain ⟨bounds, -, encoded⟩ := RankedTensorType.exists_typeExtensions carries
    have nonempty : dims.map Prod.snd ≠ [] := by
      have := firstFormed.rank_pos carries
      rw [← List.length_pos_iff, List.length_map, same.length_eq]
      omega
    obtain ⟨encoding, put, read⟩ := boundsToEncoding_eq bounds nonempty
    simp only [encoded, if_true, put, Fallible.ok_bind]
    exact ⟨dims, same, rfl, read⟩

namespace RankedTensorType.OfRow

variable {type : RankedTensorType} {row : List (Extent Int)} {carries : Bool}

/-- The extents determine the shape and the bounds. -/
theorem shapeAndBounds (ofRow : type.OfRow carries row) :
    (type.shape, encodingToBounds type.encoding) = rowShapeAndBounds carries row := by
  obtain ⟨dims, same, shape, bounds⟩ := ofRow
  rw [shape, bounds, eq_map_ofExtent same]
  simp [rowShapeAndBounds, Function.comp_def]

/-- The bounds that are present are one for each dimension, or there are none. -/
theorem dimsAndBounds (ofRow : type.OfRow carries row) :
    ∃ dims, List.Forall₂ DimAndBound.Says dims row ∧ (type.dimsAndBounds = dims ∨
      type.dimsAndBounds = dims.map fun dim => (dim.1, kDynamic)) := by
  obtain ⟨dims, same, shape, bounds⟩ := ofRow
  refine ⟨dims, same, ?_⟩
  have long : type.rank = dims.length := by rw [rank, shape, List.length_map]
  by_cases present : encodingToBounds type.encoding = []
  · -- No dimension has a bound.
    right
    have boundless : List.replicate dims.length kDynamic = dims.map fun _ => kDynamic := by simp
    simp only [RankedTensorType.dimsAndBounds, present, List.isEmpty_nil, if_true, shape, long,
      boundless, List.zip_map']
  · left
    have kept : encodingToBounds type.encoding = dims.map Prod.snd := by
      rw [bounds] at present ⊢
      cases carries with
      | false => exact absurd rfl present
      | true =>
        simp only [if_true, presentBounds] at present ⊢
        split
        · next missing => exact absurd (if_pos missing) present
        · rfl
    rw [RankedTensorType.dimsAndBounds, if_neg (by simpa using present), shape, kept,
      List.zip_map', List.map_id']

/-- The bounds of a merged type are well formed. -/
theorem wellFormed (ofRow : type.OfRow carries row) : type.WellFormed := by
  obtain ⟨dims, same, shape, bounds⟩ := ofRow
  rw [WellFormed, bounds]
  cases carries with
  | false => exact .inl rfl
  | true =>
    simp only [if_true, presentBounds]
    split
    · exact .inl rfl
    · refine .inr ?_
      have each : ∀ dim ∈ dims, dim.WellFormed := by
        intro dim listed
        obtain ⟨place, short, rfl⟩ := List.mem_iff_getElem.mp listed
        exact (List.forall₂_iff_get.mp same).2 place short (same.length_eq ▸ short) |>.1
      simp only [verifyBounds, rank, shape, List.length_map, beq_self_eq_true, Bool.true_and,
        List.zip_map', List.all_map, List.all_eq_true, Function.comp_apply, Bool.or_eq_true]
      exact fun dim listed => (each dim listed).symm

/-- What the extents admit conforms to the type, whether it has their bounds or not. -/
theorem conforms (ofRow : type.OfRow carries row) {sizes : List Nat}
    (admitted : List.Forall₂ (fun extent (size : Nat) => extent.Admits (size : Int)) row sizes) :
    type.Conforms sizes := by
  obtain ⟨dims, same, either⟩ := ofRow.dimsAndBounds
  rw [Conforms, extents]
  rcases either with kept | dropped
  · rwa [kept, map_extent same]
  · rw [dropped, List.map_map, List.forall₂_map_left_iff]
    rw [← map_extent same, List.forall₂_map_left_iff] at admitted
    exact admitted.imp fun dim size => DimAndBound.admits_dropBound

end RankedTensorType.OfRow

end Types

section Lists

variable {types : List RankedTensorType}

/-- The shape and the bounds of the type that was inferred, when there is one. -/
def shapeAndBounds (inferred : Except InferenceFailure StablehloType) :
    Option (List Int64 × List Int64) :=
  match inferred with
  | .ok type => type.asRankedTensor.map fun type => (type.shape, encodingToBounds type.encoding)
  | .error _ => none

@[simp] theorem asRankedTensor_toType (type : RankedTensorType) :
    type.toType.asRankedTensor = some type := rfl

@[simp] theorem asTuple_toType (type : RankedTensorType) : type.toType.asTuple = none := rfl

/-- Ranked tensor types are merged as they are. -/
theorem inferMostSpecificType_eq (nonempty : types ≠ []) :
    inferMostSpecificType (types.map RankedTensorType.toType) =
      RankedTensorType.toType <$> inferTypeWithCustomFn types inferMostSpecificDimAndBound := by
  simp [inferMostSpecificType, mapOverTupleElements, inferMostSpecificShapedType,
    Function.comp_def, nonempty]

theorem inferLeastSpecificType_eq :
    inferLeastSpecificType (types.map RankedTensorType.toType) =
      RankedTensorType.toType <$> inferTypeWithCustomFn types inferLeastSpecificDimAndBound := by
  have ranked : types.find? (fun _ => false) = none := List.find?_eq_none.mpr (by simp)
  simp [inferLeastSpecificType, mapOverTupleElements, inferLeastSpecificShapedType,
    Function.comp_def, ranked]

/-- The sizes conform to the types that have these extents somewhere in the list. -/
theorem RankedTensorType.Conforms.at {shape : List Nat} {type : RankedTensorType}
    (conforms : type.Conforms shape) {dim : Nat} {extent : Extent Int} {size : Nat}
    (there : type.extents[dim]? = some extent) (sized : shape[dim]? = some size) :
    extent.Admits (size : Int) := by
  obtain ⟨short, rfl⟩ := List.getElem?_eq_some_iff.mp there
  obtain ⟨short', rfl⟩ := List.getElem?_eq_some_iff.mp sized
  exact (List.forall₂_iff_get.mp conforms).2 dim short short'

/-- The extents of the types of a list are as many as each other. -/
theorem length_extents_eq {rank : Nat} (wellFormed : ∀ type ∈ types, type.WellFormed)
    (ranks : ∀ type ∈ types, type.rank = rank) :
    ∀ row ∈ types.map RankedTensorType.extents, row.length = rank := by
  intro row listed
  obtain ⟨type, member, rfl⟩ := List.mem_map.mp listed
  exact (wellFormed type member).length_extents.trans (ranks type member)

/-- The type `tensor<?xf32>`. -/
def dynamicVector : RankedTensorType :=
  { shape := [kDynamic], elementType := .float .ieeeSingle, encoding := none }

/-- The type `tensor<?xf32, #stablehlo.bounds<4>>`. -/
def boundedVector : RankedTensorType :=
  { shape := [kDynamic], elementType := .float .ieeeSingle, encoding := some (.typeExtensions [4]) }

end Lists

end Stablehlo
