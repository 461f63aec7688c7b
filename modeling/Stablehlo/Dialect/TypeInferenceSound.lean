import Stablehlo.Dialect.BoundedDynamism
import Stablehlo.Dialect.TypeInference

/-! The results of operations on tensors whose types have bounds: their types are inferred with
well-formed bounds, and their shapes conform to the inferred types. -/

namespace Stablehlo

section Dimensions

/-- What a success that is wrapped up was made of. -/
theorem bind_ok_eq_ok {α β : Type} {first : Except InferenceFailure α} {build : α → β} {result : β}
    (succeeded : (first >>= fun value => Except.ok (build value)) = .ok result) :
    ∃ value, first = .ok value ∧ build value = result := by
  obtain ⟨value, known, same⟩ := Fallible.bind_eq_ok.mp succeeded
  exact ⟨value, known, Except.ok.inj same⟩

/-- The size itself agrees with a dimension that is static, or not known after all. -/
theorem admits_size {size : Int64} {actual : Int} (same : actual = size.toInt) :
    (DimAndBound.extent (size, kDynamic)).Admits actual := by
  by_cases dynamic : size = kDynamic
  · rw [dynamic, extent_dynamic]
    trivial
  · rw [extent_static dynamic]
    exact same

/-- A size below the bound agrees with a dimension that is bounded, or not known after all. -/
theorem admits_bound {bound : Int64} {actual : Int} (below : actual ≤ bound.toInt) :
    (DimAndBound.extent (kDynamic, bound)).Admits actual := by
  by_cases dynamic : bound = kDynamic
  · rw [dynamic, extent_dynamic]
    trivial
  · rw [extent_bounded dynamic]
    exact below

/-- Each of the dimensions is well formed. -/
def AllWellFormed (dims : List DimAndBound) : Prop :=
  ∀ dim ∈ dims, dim.WellFormed

theorem AllWellFormed.nil : AllWellFormed [] := fun _ listed => nomatch listed

theorem AllWellFormed.cons {dim : DimAndBound} {dims : List DimAndBound}
    (first : dim.WellFormed) (rest : AllWellFormed dims) : AllWellFormed (dim :: dims) :=
  List.forall_mem_cons.mpr ⟨first, rest⟩

theorem AllWellFormed.append {dims others : List DimAndBound} (first : AllWellFormed dims)
    (second : AllWellFormed others) : AllWellFormed (dims ++ others) :=
  List.forall_mem_append.mpr ⟨first, second⟩

/-- The sizes agree with what the dimensions say of them. -/
def Admit (dims : List DimAndBound) (sizes : List Nat) : Prop :=
  List.Forall₂ (fun dim (size : Nat) => dim.extent.Admits (size : Int)) dims sizes

theorem Admit.append {dims others : List DimAndBound} {sizes more : List Nat}
    (first : Admit dims sizes) (second : Admit others more) :
    Admit (dims ++ others) (sizes ++ more) :=
  List.rel_append first second

/-- The shapes of a type are those that its dimensions admit. -/
theorem RankedTensorType.conforms_iff {type : RankedTensorType} {shape : List Nat} :
    type.Conforms shape ↔ Admit type.dimsAndBounds shape := by
  rw [Conforms, extents, List.forall₂_map_left_iff]
  rfl

/-- Well-formed dimensions say what their extents say. -/
theorem AllWellFormed.forall₂ {dims : List DimAndBound} (wellFormed : AllWellFormed dims) :
    List.Forall₂ DimAndBound.Says dims (dims.map DimAndBound.extent) := by
  rw [List.forall₂_map_right_iff, List.forall₂_same]
  exact fun dim listed => ⟨wellFormed dim listed, rfl⟩

/-- A static dimension admits its size only. -/
theorem size_of_admits {size : Int64} {actual : Int} (static : size ≠ kDynamic)
    (admitted : (DimAndBound.extent (size, kDynamic)).Admits actual) : actual = size.toInt := by
  rw [extent_static static] at admitted
  exact admitted

/-- A bounded dimension admits sizes up to its bound. -/
theorem bound_of_admits {bound : Int64} {actual : Int} (static : bound ≠ kDynamic)
    (admitted : (DimAndBound.extent (kDynamic, bound)).Admits actual) : actual ≤ bound.toInt := by
  rw [extent_bounded static] at admitted
  exact admitted

/-- Concatenated dimensions admit the sum of the sizes. -/
theorem inferConcatenatedDimAndBound_sound {left right merged : DimAndBound}
    (first : left.WellFormed) (second : right.WellFormed)
    (inferred : inferConcatenatedDimAndBound left.1 right.1 left.2 right.2 = .ok merged) :
    merged.WellFormed ∧ ∀ size other : Int, left.extent.Admits size → right.extent.Admits other →
      merged.extent.Admits (size + other) := by
  rcases first.cases with ⟨size, static, rfl⟩ | ⟨bound, static, rfl⟩ | rfl
  · rcases second.cases with ⟨other, exact, rfl⟩ | ⟨other, exact, rfl⟩ | rfl
    · simp only [inferConcatenatedDimAndBound, static, exact, ne_eq, not_false_eq_true,
        isDynamicDimSize_eq_false, Bool.not_false, Bool.and_self, if_true] at inferred
      obtain ⟨sum, checked, rfl⟩ := bind_ok_eq_ok inferred
      rw [checkedInt64_eq_ok] at checked
      refine ⟨wellFormed_boundless sum, fun one two former latter => admits_size ?_⟩
      have := size_of_admits static former
      have := size_of_admits exact latter
      omega
    · simp [inferConcatenatedDimAndBound, static, exact] at inferred
      obtain ⟨sum, checked, rfl⟩ := bind_ok_eq_ok inferred
      rw [checkedInt64_eq_ok] at checked
      refine ⟨wellFormed_sizeless sum, fun one two former latter => admits_bound ?_⟩
      have := size_of_admits static former
      have := bound_of_admits exact latter
      omega
    · simp [inferConcatenatedDimAndBound, static] at inferred
      subst inferred
      simp [Extent.Admits]
  · rcases second.cases with ⟨other, exact, rfl⟩ | ⟨other, exact, rfl⟩ | rfl
    · simp [inferConcatenatedDimAndBound, static, exact] at inferred
      obtain ⟨sum, checked, rfl⟩ := bind_ok_eq_ok inferred
      rw [checkedInt64_eq_ok] at checked
      refine ⟨wellFormed_sizeless sum, fun one two former latter => admits_bound ?_⟩
      have := bound_of_admits static former
      have := size_of_admits exact latter
      omega
    · simp [inferConcatenatedDimAndBound, static, exact] at inferred
      obtain ⟨sum, checked, rfl⟩ := bind_ok_eq_ok inferred
      rw [checkedInt64_eq_ok] at checked
      refine ⟨wellFormed_sizeless sum, fun one two former latter => admits_bound ?_⟩
      have := bound_of_admits static former
      have := bound_of_admits exact latter
      omega
    · simp [inferConcatenatedDimAndBound] at inferred
      subst inferred
      simp [Extent.Admits]
  · -- Nothing is known of the one, and so of both.
    simp [inferConcatenatedDimAndBound] at inferred
    subst inferred
    simp [Extent.Admits]

/-- Merged dimensions admit a size that both of them do. -/
theorem inferMostSpecificDimAndBound_sound {i : Nat} {left right merged : DimAndBound}
    (first : left.WellFormed) (second : right.WellFormed)
    (inferred : inferMostSpecificDimAndBound i left.1 right.1 left.2 right.2 = .ok merged) :
    merged.WellFormed ∧ ∀ size : Int, left.extent.Admits size → right.extent.Admits size →
      merged.extent.Admits size := by
  have agree := inferMostSpecificDimAndBound_merges i left right first second
  rw [inferred] at agree
  rcases agree.cases with ⟨_, extent, same, met, formed, rfl⟩ | ⟨_, failed, -, -⟩
  · cases same
    exact ⟨formed, fun size former latter => Extent.admits_meet met former latter⟩
  · cases failed

end Dimensions

section Results

/-- The components of a type. -/
def RankedTensorType.components (type : RankedTensorType) : ShapedTypeComponents :=
  { dims := type.shape, elementType := some type.elementType, encoding := type.encoding }

/-- The bounds of a type are well formed, and some dimension has one when there are any. -/
def RankedTensorType.WellBounded (type : RankedTensorType) : Prop :=
  type.WellFormed ∧ (encodingToBounds type.encoding = [] ∨
    ∃ bound ∈ encodingToBounds type.encoding, isDynamicDimSize bound = false)

/-- A result has the sizes of the dimensions, and their bounds when it has any. -/
def Tracks (dims : List DimAndBound) (result : ShapedTypeComponents) : Prop :=
  AllWellFormed dims ∧ result.dims = dims.map Prod.fst ∧
    ∃ carries : Bool, encodingToBounds result.encoding =
      if carries then presentBounds (dims.map Prod.snd) else []

variable {dims : List DimAndBound} {result : ShapedTypeComponents}

/-- The type of a result has the extents of its dimensions, with or without bounds. -/
theorem Tracks.ofRow (tracks : Tracks dims result) (elementType : StablehloType) :
    ∃ carries, (result.type elementType).OfRow carries (dims.map DimAndBound.extent) := by
  obtain ⟨wellFormed, shape, carries, bounds⟩ := tracks
  exact ⟨carries, dims, wellFormed.forall₂, shape, bounds⟩

/-- The bounds of a result are well formed, and not all of them are missing. -/
theorem Tracks.wellBounded (tracks : Tracks dims result) (elementType : StablehloType) :
    (result.type elementType).WellBounded := by
  obtain ⟨_, ofRow⟩ := tracks.ofRow elementType
  refine ⟨ofRow.wellFormed, ?_⟩
  obtain ⟨-, -, carries, bounds⟩ := tracks
  have same : encodingToBounds (result.type elementType).encoding =
      if carries then presentBounds (dims.map Prod.snd) else [] := bounds
  rw [same]
  cases carries with
  | false => exact .inl rfl
  | true =>
    simp only [if_true, presentBounds]
    split
    · exact .inl rfl
    · next some =>
      simp only [List.all_eq_true, Classical.not_forall, Bool.not_eq_true] at some
      obtain ⟨bound, listed, static⟩ := some
      exact .inr ⟨bound, listed, static⟩

/-- Sizes that the dimensions admit are a shape of the type of the result. -/
theorem Tracks.conforms (tracks : Tracks dims result) (elementType : StablehloType)
    {sizes : List Nat} (admitted : Admit dims sizes) :
    (result.type elementType).Conforms sizes := by
  obtain ⟨_, ofRow⟩ := tracks.ofRow elementType
  refine ofRow.conforms ?_
  rw [List.forall₂_map_left_iff]
  exact admitted

/-- An encoding that was made carries the bounds of which not all are missing. -/
theorem encodingToBounds_of_boundsToEncoding {prototype encoding : Option Encoding}
    {bounds : List Int64} (nonempty : bounds ≠ [])
    (encoded : boundsToEncoding prototype bounds = .ok encoding) :
    encodingToBounds encoding = presentBounds bounds := by
  have present : bounds.isEmpty = false := by simpa using nonempty
  simp only [boundsToEncoding, present, Bool.false_eq_true, if_false] at encoded
  unfold presentBounds
  split at encoded
  · next missing =>
    cases encoded
    rw [if_pos missing]
    rfl
  · next some =>
    rw [if_neg some]
    -- Only the dialect that has type extensions makes them.
    split at encoded <;> cases encoded
    rfl

/-- A result whose bounds were encoded tracks the dimensions. -/
theorem tracks_of_boundsToEncoding {prototype encoding : Option Encoding} {carries : Bool}
    {elementType : Option StablehloType} (wellFormed : AllWellFormed dims)
    (present : carries = true → dims ≠ [])
    (absent : carries = false → encodingToBounds prototype = [])
    (encoded : boundsToEncoding prototype (if carries then dims.map Prod.snd else []) =
      .ok encoding) :
    Tracks dims { dims := dims.map Prod.fst, elementType, encoding } := by
  refine ⟨wellFormed, rfl, carries, ?_⟩
  cases carries with
  | false =>
    -- The encoding is the prototype.
    cases encoded
    exact absent rfl
  | true =>
    exact encodingToBounds_of_boundsToEncoding (by simpa using present rfl) encoded

/-- A result whose bounds are those of a type that was changed tracks the dimensions. -/
theorem tracks_of_inputBounds {inputType : RankedTensorType} {encoding : Option Encoding}
    {elementType : Option StablehloType} (wellFormed : AllWellFormed dims)
    (present : inputType.carriesBounds = true → dims ≠ [])
    (encoded : boundsToEncoding inputType.encoding
      (if (encodingToBounds inputType.encoding).isEmpty then [] else dims.map Prod.snd) =
        .ok encoding) :
    Tracks dims { dims := dims.map Prod.fst, elementType, encoding } := by
  refine @tracks_of_boundsToEncoding dims inputType.encoding encoding inputType.carriesBounds
    elementType wellFormed present (fun absent => ?_) ?_
  · simpa [RankedTensorType.carriesBounds] using absent
  · rw [← encoded]
    cases empty : (encodingToBounds inputType.encoding).isEmpty <;>
      simp [RankedTensorType.carriesBounds, empty]

end Results

section Pad

/-- The size of a dimension with its padding. -/
def paddedSize (size : Int) (low high interior : Int64) : Int :=
  size + low.toInt + high.toInt + max (size - 1) 0 * interior.toInt

/-- The source computes the size with its padding. -/
theorem toInt_of_paddedSizeOrBound {size low high interior result : Int64}
    (inferred : paddedSizeOrBound size low high interior = .ok result) :
    result.toInt = paddedSize size.toInt low high interior := by
  obtain ⟨one, first, inferred⟩ := Fallible.bind_eq_ok.mp inferred
  obtain ⟨two, second, inferred⟩ := Fallible.bind_eq_ok.mp inferred
  obtain ⟨gaps, third, inferred⟩ := Fallible.bind_eq_ok.mp inferred
  obtain ⟨inner, fourth, inferred⟩ := Fallible.bind_eq_ok.mp inferred
  rw [checkedInt64_eq_ok] at first second third fourth inferred
  rw [inferred, second, first, fourth, third, paddedSize]

/-- A larger dimension is larger with its padding. -/
theorem paddedSize_mono {size bound : Int} (below : size ≤ bound) (low high : Int64)
    {interior : Int64} (spread : 0 ≤ interior.toInt) :
    paddedSize size low high interior ≤ paddedSize bound low high interior := by
  have gaps : max (size - 1) 0 ≤ max (bound - 1) 0 := by omega
  have inner := Int.mul_le_mul_of_nonneg_right gaps spread
  unfold paddedSize
  omega

/-- Padded dimensions admit the padded sizes. -/
theorem inferPaddedDimAndBound_sound {i : Nat} {dim padded : DimAndBound}
    {low high interior : Int64} (wellFormed : dim.WellFormed)
    (inferred : inferPaddedDimAndBound i dim low high interior = .ok padded) :
    padded.WellFormed ∧ ∀ size : Int, dim.extent.Admits size →
      padded.extent.Admits (paddedSize size low high interior) := by
  unfold inferPaddedDimAndBound at inferred
  split at inferred
  · cases inferred
  · next notNegative =>
    have spread : 0 ≤ interior.toInt := by
      rw [Int64.lt_iff_toInt_lt] at notNegative
      simpa using notNegative
    rcases wellFormed.cases with ⟨exact, static, rfl⟩ | ⟨bound, static, rfl⟩ | rfl
    · simp [static] at inferred
      obtain ⟨sum, computed, inferred⟩ := Fallible.bind_eq_ok.mp inferred
      have computed := toInt_of_paddedSizeOrBound computed
      split at inferred <;> cases inferred
      refine ⟨wellFormed_boundless sum, fun size admitted => admits_size ?_⟩
      rw [size_of_admits static admitted, computed]
    · simp [static] at inferred
      obtain ⟨sum, computed, inferred⟩ := Fallible.bind_eq_ok.mp inferred
      have computed := toInt_of_paddedSizeOrBound computed
      split at inferred <;> cases inferred
      refine ⟨wellFormed_sizeless sum, fun size admitted => admits_bound ?_⟩
      rw [computed]
      exact paddedSize_mono (bound_of_admits static admitted) low high spread
    · simp at inferred
      subst inferred
      simp [Extent.Admits]

/-- The sizes of a shape with their padding. -/
def paddedShape : List Nat → List Int64 → List Int64 → List Int64 → List Int
  | size :: shape, low :: lows, high :: highs, interior :: interiors =>
    paddedSize size low high interior :: paddedShape shape lows highs interiors
  | _, _, _, _ => []

/-- Padded dimensions admit the padded shapes. -/
theorem inferPaddedDims_sound {i : Nat} {dims padded : List DimAndBound}
    {lows highs interiors : List Int64} (wellFormed : AllWellFormed dims)
    (inferred : inferPaddedDims i dims lows highs interiors = .ok padded) :
    AllWellFormed padded ∧ ∀ shape result : List Nat, Admit dims shape →
      result.map Int.ofNat = paddedShape shape lows highs interiors → Admit padded result := by
  induction dims generalizing i lows highs interiors padded with
  | nil =>
    cases inferred
    refine ⟨.nil, fun shape result admitted computed => ?_⟩
    cases admitted
    rw [paddedShape, List.map_eq_nil_iff] at computed
    · rw [computed]
      exact .nil
    · simp
  | cons dim dims ih =>
    obtain _ | ⟨low, lows⟩ := lows
    · cases inferred
    obtain _ | ⟨high, highs⟩ := highs
    · cases inferred
    obtain _ | ⟨interior, interiors⟩ := interiors
    · cases inferred
    obtain ⟨first, head, inferred⟩ := Fallible.bind_eq_ok.mp inferred
    obtain ⟨rest, tail, rfl⟩ := bind_ok_eq_ok inferred
    obtain ⟨formed, sound⟩ := inferPaddedDimAndBound_sound (wellFormed dim (by simp)) head
    obtain ⟨allFormed, allSound⟩ := ih (fun other listed => wellFormed other (by simp [listed])) tail
    refine ⟨.cons formed allFormed, fun shape result admitted computed => ?_⟩
    cases admitted with
    | cons admits others =>
      rw [paddedShape, List.map_eq_cons_iff] at computed
      obtain ⟨size, sizes, rfl, same, more⟩ := computed
      refine .cons ?_ (allSound _ _ others more)
      have := sound _ admits
      rwa [← same] at this

/-- Each dimension is padded. -/
theorem inferPaddedDims_length {i : Nat} {dims padded : List DimAndBound}
    {lows highs interiors : List Int64}
    (inferred : inferPaddedDims i dims lows highs interiors = .ok padded) :
    padded.length = dims.length := by
  induction dims generalizing i lows highs interiors padded with
  | nil =>
    cases inferred
    rfl
  | cons dim dims ih =>
    obtain _ | ⟨low, lows⟩ := lows
    · cases inferred
    obtain _ | ⟨high, highs⟩ := highs
    · cases inferred
    obtain _ | ⟨interior, interiors⟩ := interiors
    · cases inferred
    obtain ⟨first, -, inferred⟩ := Fallible.bind_eq_ok.mp inferred
    obtain ⟨rest, tail, rfl⟩ := bind_ok_eq_ok inferred
    rw [List.length_cons, List.length_cons, ih tail]

/-- The type of a padded tensor tracks its dimensions. -/
theorem inferPadOp_sound {inputType padded : RankedTensorType} {lows highs interiors : List Int64}
    (wellFormed : inputType.WellFormed)
    (inferred : inferPadOp inputType lows highs interiors = .ok padded) :
    ∃ dims, Tracks dims padded.components ∧ ∀ shape result : List Nat,
      inputType.Conforms shape → result.map Int.ofNat = paddedShape shape lows highs interiors →
        Admit dims result := by
  unfold inferPadOp at inferred
  split at inferred
  · cases inferred
  · obtain ⟨dims, each, inferred⟩ := Fallible.bind_eq_ok.mp inferred
    obtain ⟨encoding, encoded, rfl⟩ := bind_ok_eq_ok inferred
    obtain ⟨formed, sound⟩ := inferPaddedDims_sound (fun dim => wellFormed.of_mem) each
    refine ⟨dims, tracks_of_inputBounds formed (fun carries empty => ?_) encoded,
      fun shape result conforms => sound shape result (RankedTensorType.conforms_iff.mp conforms)⟩
    -- There are as many padded dimensions as there were.
    have long := inferPaddedDims_length each
    have := wellFormed.rank_pos carries
    rw [empty, wellFormed.length_dimsAndBounds] at long
    simp at long
    omega

end Pad

section Selection

/-- The size of a dimension of a shape. -/
def sizeAt (shape : List Nat) (dim : Nat) : Nat :=
  shape.getD dim 0

/-- A dimension of a type admits the size that its shapes have there. -/
theorem dimAndBound_sound {type : RankedTensorType} {dim : Nat} {dimAndBound : DimAndBound}
    (wellFormed : type.WellFormed) (found : type.dimAndBound dim = .ok dimAndBound) :
    dimAndBound.WellFormed ∧ ∀ shape, type.Conforms shape →
      dimAndBound.extent.Admits (sizeAt shape dim : Int) := by
  unfold RankedTensorType.dimAndBound at found
  split at found
  · next there =>
    cases found
    refine ⟨wellFormed.of_mem (List.mem_of_getElem? there), fun shape conforms => ?_⟩
    rw [RankedTensorType.conforms_iff] at conforms
    obtain ⟨short, rfl⟩ := List.getElem?_eq_some_iff.mp there
    have short' : dim < shape.length := conforms.length_eq ▸ short
    have admitted := (List.forall₂_iff_get.mp conforms).2 dim short short'
    rw [sizeAt, List.getD_eq_getElem?_getD, List.getElem?_eq_getElem short']
    exact admitted
  · cases found

/-- The dimensions that were selected admit the sizes that were. -/
theorem mapM_dimAndBound_sound {α : Type} {type : RankedTensorType} {items : List α}
    {place : α → Nat} {dims : List DimAndBound} (wellFormed : type.WellFormed)
    (selected : items.mapM (fun item => type.dimAndBound (place item)) = .ok dims) :
    AllWellFormed dims ∧ ∀ shape, type.Conforms shape →
      Admit dims (items.map fun item => sizeAt shape (place item)) := by
  rw [Fallible.mapM_eq_ok_iff] at selected
  induction selected with
  | nil => exact ⟨.nil, fun _ _ => .nil⟩
  | cons found _ ih =>
    obtain ⟨formed, sound⟩ := dimAndBound_sound wellFormed found
    exact ⟨.cons formed ih.1, fun shape conforms => .cons (sound shape conforms)
      (ih.2 shape conforms)⟩

/-- The type of a transposed tensor tracks its dimensions. -/
theorem inferTransposeOp_sound {rankedTy transposed : RankedTensorType} {permutation : List Int64}
    (wellFormed : rankedTy.WellFormed)
    (inferred : inferTransposeOp rankedTy permutation = .ok transposed) :
    ∃ dims, Tracks dims transposed.components ∧ ∀ shape : List Nat, rankedTy.Conforms shape →
      Admit dims (permutation.map fun dim => sizeAt shape dim.toNatClampNeg) := by
  unfold inferTransposeOp at inferred
  simp only at inferred
  split at inferred
  · cases inferred
  · next sameLength =>
    split at inferred
    · cases inferred
    · obtain ⟨dims, selected, inferred⟩ := Fallible.bind_eq_ok.mp inferred
      obtain ⟨encoding, encoded, rfl⟩ := bind_ok_eq_ok inferred
      obtain ⟨formed, sound⟩ := mapM_dimAndBound_sound wellFormed selected
      refine ⟨dims, tracks_of_inputBounds formed (fun carries empty => ?_) encoded, sound⟩
      have long := Fallible.length_of_mapM selected
      have := wellFormed.rank_pos carries
      simp only [bne_iff_ne, ne_eq, not_not] at sameLength
      rw [empty, List.length_nil, sameLength] at long
      omega

end Selection

section Dot

/-- The shapes of the operands and of the result of a product of vectors and matrices. -/
inductive DotShapes : List Nat → List Nat → List Nat → Prop
  | vectorVector (k : Nat) : DotShapes [k] [k] []
  | matrixVector (m k : Nat) : DotShapes [m, k] [k] [m]
  | vectorMatrix (k n : Nat) : DotShapes [k] [k, n] [n]
  | matrixMatrix (m k n : Nat) : DotShapes [m, k] [k, n] [m, n]

/-- The result of a product has the dimensions, and an encoding made from those of its
operands. -/
def ProductOf (lhsType rhsType : RankedTensorType) (dims : List DimAndBound)
    (result : ShapedTypeComponents) : Prop :=
  AllWellFormed dims ∧ result.dims = dims.map Prod.fst ∧
    boundsToEncoding (lhsType.encoding.or rhsType.encoding) (dims.map Prod.snd) = .ok result.encoding

section Product

variable {lhsType rhsType : RankedTensorType} {dims : List DimAndBound}
  {result : ShapedTypeComponents}

/-- The type of a product tracks its dimensions, when it has any or the operands no bounds. -/
theorem ProductOf.tracks (product : ProductOf lhsType rhsType dims result)
    (some : dims ≠ [] ∨ encodingToBounds (lhsType.encoding.or rhsType.encoding) = []) :
    Tracks dims result := by
  obtain ⟨wellFormed, shape, encoded⟩ := product
  by_cases empty : dims = []
  · -- The encoding is that of an operand, which has no bounds.
    subst empty
    have kept : result.encoding = lhsType.encoding.or rhsType.encoding :=
      (Except.ok.inj encoded).symm
    exact ⟨wellFormed, shape, false, kept ▸ some.resolve_left (by simp)⟩
  · exact ⟨wellFormed, shape, true,
      encodingToBounds_of_boundsToEncoding (by simpa using empty) encoded⟩

/-- The type of a number that keeps the bounds of an operand is not well formed. -/
theorem ProductOf.not_wellFormed (product : ProductOf lhsType rhsType [] result)
    (bounds : encodingToBounds (lhsType.encoding.or rhsType.encoding) ≠ [])
    (elementType : StablehloType) : ¬ (result.type elementType).WellFormed := by
  obtain ⟨-, shape, encoded⟩ := product
  intro wellFormed
  have kept : result.encoding = lhsType.encoding.or rhsType.encoding := (Except.ok.inj encoded).symm
  have carries : (result.type elementType).carriesBounds = true := by
    rw [RankedTensorType.carriesBounds, ShapedTypeComponents.type, kept]
    simpa using bounds
  -- There would be a dimension for the bounds.
  have := wellFormed.rank_pos carries
  simp [RankedTensorType.rank, ShapedTypeComponents.type, shape] at this

end Product

/-- The dimensions of a product of vectors and matrices admit the sizes that its operands have
there. -/
theorem inferDotDims_sound {lhsType rhsType : RankedTensorType} {dims : List DimAndBound}
    (lhsFormed : lhsType.WellFormed) (rhsFormed : rhsType.WellFormed)
    (inferred : inferDotDims lhsType rhsType = .ok dims) :
    AllWellFormed dims ∧ (dims = [] ↔ lhsType.rank = 1 ∧ rhsType.rank = 1) ∧
      ∀ lhs rhs shape : List Nat, lhsType.Conforms lhs → rhsType.Conforms rhs →
        DotShapes lhs rhs shape → Admit dims shape := by
  have lhsLength : ∀ lhs, lhsType.Conforms lhs → lhs.length = lhsType.shape.length :=
    fun lhs conforms => conforms.length_eq.symm.trans lhsFormed.length_extents
  have rhsLength : ∀ rhs, rhsType.Conforms rhs → rhs.length = rhsType.shape.length :=
    fun rhs conforms => conforms.length_eq.symm.trans rhsFormed.length_extents
  unfold inferDotDims at inferred
  split at inferred
  · next lhs0 rhs0 lhsShape rhsShape =>
    -- vector dot vector
    split at inferred
    · cases inferred
      refine ⟨.nil, by simp [RankedTensorType.rank, lhsShape, rhsShape], ?_⟩
      intro lhs rhs shape left right shapes
      have lhsRank : lhs.length = 1 := by rw [lhsLength lhs left, lhsShape]; rfl
      have rhsRank : rhs.length = 1 := by rw [rhsLength rhs right, rhsShape]; rfl
      cases shapes with
      | vectorVector k => exact .nil
      | matrixVector => simp at lhsRank
      | vectorMatrix => simp at rhsRank
      | matrixMatrix => simp at lhsRank
    · cases inferred
  · next lhs0 lhs1 rhs0 lhsShape rhsShape =>
    -- matrix dot vector
    split at inferred
    · obtain ⟨first, found, rfl⟩ := bind_ok_eq_ok inferred
      obtain ⟨formed, sound⟩ := dimAndBound_sound lhsFormed found
      refine ⟨.cons formed .nil, by simp [RankedTensorType.rank, lhsShape], ?_⟩
      intro lhs rhs shape left right shapes
      have lhsRank : lhs.length = 2 := by rw [lhsLength lhs left, lhsShape]; rfl
      have rhsRank : rhs.length = 1 := by rw [rhsLength rhs right, rhsShape]; rfl
      cases shapes with
      | vectorVector => simp at lhsRank
      | matrixVector m k => exact .cons (sound [m, k] left) .nil
      | vectorMatrix => simp at lhsRank
      | matrixMatrix => simp at rhsRank
    · cases inferred
  · next lhs0 rhs0 rhs1 lhsShape rhsShape =>
    -- vector dot matrix
    split at inferred
    · obtain ⟨second, found, rfl⟩ := bind_ok_eq_ok inferred
      obtain ⟨formed, sound⟩ := dimAndBound_sound rhsFormed found
      refine ⟨.cons formed .nil, by simp [RankedTensorType.rank, rhsShape], ?_⟩
      intro lhs rhs shape left right shapes
      have lhsRank : lhs.length = 1 := by rw [lhsLength lhs left, lhsShape]; rfl
      have rhsRank : rhs.length = 2 := by rw [rhsLength rhs right, rhsShape]; rfl
      cases shapes with
      | vectorVector => simp at rhsRank
      | matrixVector => simp at lhsRank
      | vectorMatrix k n => exact .cons (sound [k, n] right) .nil
      | matrixMatrix => simp at lhsRank
    · cases inferred
  · next lhs0 lhs1 rhs0 rhs1 lhsShape rhsShape =>
    -- matrix dot matrix
    split at inferred
    · obtain ⟨first, found, inferred⟩ := Fallible.bind_eq_ok.mp inferred
      obtain ⟨second, found', rfl⟩ := bind_ok_eq_ok inferred
      obtain ⟨formed, sound⟩ := dimAndBound_sound lhsFormed found
      obtain ⟨formed', sound'⟩ := dimAndBound_sound rhsFormed found'
      refine ⟨.cons formed (.cons formed' .nil), by simp [RankedTensorType.rank, lhsShape], ?_⟩
      intro lhs rhs shape left right shapes
      have lhsRank : lhs.length = 2 := by rw [lhsLength lhs left, lhsShape]; rfl
      have rhsRank : rhs.length = 2 := by rw [rhsLength rhs right, rhsShape]; rfl
      cases shapes with
      | vectorVector => simp at lhsRank
      | matrixVector => simp at rhsRank
      | vectorMatrix => simp at lhsRank
      | matrixMatrix m k n => exact .cons (sound [m, k] left) (.cons (sound' [k, n] right) .nil)
    · cases inferred
  · cases inferred

/-- The dimensions of a product of vectors and matrices are those of its operands that are
not summed over. -/
theorem inferDotOp_sound {lhsType rhsType : RankedTensorType} {precisionConfig : Option Nat}
    {result : ShapedTypeComponents} (lhsFormed : lhsType.WellFormed)
    (rhsFormed : rhsType.WellFormed)
    (inferred : inferDotOp lhsType rhsType precisionConfig = .ok result) :
    ∃ dims, ProductOf lhsType rhsType dims result ∧
      (dims = [] ↔ lhsType.rank = 1 ∧ rhsType.rank = 1) ∧
      ∀ lhs rhs shape : List Nat, lhsType.Conforms lhs → rhsType.Conforms rhs →
        DotShapes lhs rhs shape → Admit dims shape := by
  obtain ⟨_, -, inferred⟩ := Fallible.bind_eq_ok.mp inferred
  obtain ⟨dims, selected, inferred⟩ := Fallible.bind_eq_ok.mp inferred
  obtain ⟨encoding, encoded, rfl⟩ := bind_ok_eq_ok inferred
  obtain ⟨formed, number, sound⟩ := inferDotDims_sound lhsFormed rhsFormed selected
  exact ⟨dims, ⟨formed, rfl, encoded⟩, number, sound⟩

/-- The batching dimensions of a product admit the sizes that both operands have there. -/
theorem inferBatchingDims_sound {lhsType rhsType : RankedTensorType} {i : Nat}
    {lhsDims rhsDims : List Int64} {dims : List DimAndBound} (lhsFormed : lhsType.WellFormed)
    (rhsFormed : rhsType.WellFormed) (same : lhsDims.length = rhsDims.length)
    (inferred : inferBatchingDims lhsType rhsType i lhsDims rhsDims = .ok dims) :
    AllWellFormed dims ∧ dims.length = lhsDims.length ∧
      ∀ lhs rhs : List Nat, lhsType.Conforms lhs → rhsType.Conforms rhs →
        (lhsDims.map fun dim => sizeAt lhs dim.toNatClampNeg) =
          (rhsDims.map fun dim => sizeAt rhs dim.toNatClampNeg) →
        Admit dims (lhsDims.map fun dim => sizeAt lhs dim.toNatClampNeg) := by
  induction lhsDims generalizing i rhsDims dims with
  | nil =>
    cases inferred
    exact ⟨.nil, rfl, fun _ _ _ _ _ => .nil⟩
  | cons lhsDim lhsDims ih =>
    obtain _ | ⟨rhsDim, rhsDims⟩ := rhsDims
    · simp at same
    obtain ⟨left, leftFound, inferred⟩ := Fallible.bind_eq_ok.mp inferred
    obtain ⟨right, rightFound, inferred⟩ := Fallible.bind_eq_ok.mp inferred
    obtain ⟨merged, head, inferred⟩ := Fallible.bind_eq_ok.mp inferred
    obtain ⟨rest, tail, rfl⟩ := bind_ok_eq_ok inferred
    obtain ⟨leftFormed, leftSound⟩ := dimAndBound_sound lhsFormed leftFound
    obtain ⟨rightFormed, rightSound⟩ := dimAndBound_sound rhsFormed rightFound
    obtain ⟨formed, sound⟩ := inferMostSpecificDimAndBound_sound leftFormed rightFormed head
    obtain ⟨allFormed, long, allSound⟩ := ih (by simpa using same) tail
    refine ⟨.cons formed allFormed, by simp [long], fun lhs rhs conforms conforms' equal => ?_⟩
    simp only [List.map_cons, List.cons.injEq] at equal ⊢
    refine .cons (sound _ (leftSound lhs conforms) ?_) (allSound lhs rhs conforms conforms' equal.2)
    -- The other operand has the same size there.
    rw [equal.1]
    exact rightSound rhs conforms'

/-- The shapes of the operands and of the result of a general product. -/
structure DotGeneralShapes (lhsBatchingDimensions rhsBatchingDimensions lhsContractingDimensions
    rhsContractingDimensions : List Int64) (lhs rhs shape : List Nat) : Prop where
  batching : (lhsBatchingDimensions.map fun dim => sizeAt lhs dim.toNatClampNeg) =
    rhsBatchingDimensions.map fun dim => sizeAt rhs dim.toNatClampNeg
  contracting : (lhsContractingDimensions.map fun dim => sizeAt lhs dim.toNatClampNeg) =
    rhsContractingDimensions.map fun dim => sizeAt rhs dim.toNatClampNeg
  result : shape = (lhsBatchingDimensions.map fun dim => sizeAt lhs dim.toNatClampNeg) ++
    (resultDims lhs.length lhsBatchingDimensions lhsContractingDimensions).map (sizeAt lhs) ++
    (resultDims rhs.length rhsBatchingDimensions rhsContractingDimensions).map (sizeAt rhs)

/-- The dimensions of a general product are the batching dimensions and those of its operands
that are not summed over. -/
theorem inferDotGeneralOp_sound {lhsType rhsType : RankedTensorType}
    {lhsBatching rhsBatching lhsContracting rhsContracting : List Int64}
    {precisionConfig : Option Nat} {result : ShapedTypeComponents}
    (lhsFormed : lhsType.WellFormed) (rhsFormed : rhsType.WellFormed)
    (inferred : inferDotGeneralOp lhsType rhsType lhsBatching rhsBatching lhsContracting
      rhsContracting precisionConfig = .ok result) :
    ∃ dims, ProductOf lhsType rhsType dims result ∧
      (dims = [] ↔ lhsBatching = [] ∧ resultDims lhsType.rank lhsBatching lhsContracting = [] ∧
        resultDims rhsType.rank rhsBatching rhsContracting = []) ∧
      ∀ lhs rhs shape : List Nat, lhsType.Conforms lhs → rhsType.Conforms rhs →
        DotGeneralShapes lhsBatching rhsBatching lhsContracting rhsContracting lhs rhs shape →
          Admit dims shape := by
  obtain ⟨_, checked, inferred⟩ := Fallible.bind_eq_ok.mp inferred
  obtain ⟨batching, batched, inferred⟩ := Fallible.bind_eq_ok.mp inferred
  obtain ⟨lhsDims, lhsSelected, inferred⟩ := Fallible.bind_eq_ok.mp inferred
  obtain ⟨rhsDims, rhsSelected, inferred⟩ := Fallible.bind_eq_ok.mp inferred
  obtain ⟨encoding, encoded, rfl⟩ := bind_ok_eq_ok inferred
  have same : lhsBatching.length = rhsBatching.length := by
    obtain ⟨_, -, checked⟩ := Fallible.bind_eq_ok.mp checked
    split at checked
    · cases checked
    · next equal => simpa using equal
  obtain ⟨formed, long, sound⟩ := inferBatchingDims_sound lhsFormed rhsFormed same batched
  obtain ⟨lhsAll, lhsSound⟩ := @mapM_dimAndBound_sound Nat lhsType _ id _ lhsFormed lhsSelected
  obtain ⟨rhsAll, rhsSound⟩ := @mapM_dimAndBound_sound Nat rhsType _ id _ rhsFormed rhsSelected
  refine ⟨batching ++ lhsDims ++ rhsDims, ⟨(formed.append lhsAll).append rhsAll, rfl, encoded⟩,
    ?_, fun lhs rhs shape conforms conforms' shapes => ?_⟩
  · -- As many dimensions are selected as are looked up.
    have lhsLong := Fallible.length_of_mapM lhsSelected
    have rhsLong := Fallible.length_of_mapM rhsSelected
    simp only [← List.length_eq_zero_iff, List.length_append, ← lhsLong, ← rhsLong, ← long]
    omega
  · have lhsRank : lhs.length = lhsType.rank := conforms.length_eq.symm.trans lhsFormed.length_extents
    have rhsRank : rhs.length = rhsType.rank := conforms'.length_eq.symm.trans rhsFormed.length_extents
    rw [shapes.result, lhsRank, rhsRank]
    exact ((sound lhs rhs conforms conforms' shapes.batching).append (lhsSound lhs conforms)).append
      (rhsSound rhs conforms')

end Dot

section SetDimensionSize

/-- A size that a dimension has room for: not above its size or its bound. -/
def HasRoom : Extent Int → Int → Prop
  | .static exact, size => size ≤ exact
  | .bounded bound, size => size ≤ bound
  | .unbounded, _ => True

/-- A dimension that was set admits the sizes that it has room for. -/
theorem setDimAndBound_sound {dim : DimAndBound} (wellFormed : dim.WellFormed)
    (sizeAttr : Option Int32) :
    (setDimAndBound dim sizeAttr).WellFormed ∧
      ∀ size : Int, (∀ splat ∈ sizeAttr, size = splat.toInt) → HasRoom dim.extent size →
        (setDimAndBound dim sizeAttr).extent.Admits size := by
  -- Without the constant, the size is below the bound.
  have below : ∀ size : Int, HasRoom dim.extent size →
      (DimAndBound.extent (kDynamic, if isDynamicDimSize dim.1 then dim.2 else dim.1)).Admits
        size := by
    intro size room
    rcases wellFormed.cases with ⟨exact, static, rfl⟩ | ⟨bound, static, rfl⟩ | rfl
    · rw [extent_static static] at room
      rw [isDynamicDimSize_eq_false static]
      exact admits_bound room
    · rw [extent_bounded static] at room
      exact admits_bound room
    · rw [isDynamicDimSize_kDynamic, if_pos rfl, extent_dynamic]
      exact trivial
  unfold setDimAndBound
  cases sizeAttr with
  | none => exact ⟨wellFormed_sizeless _, fun size _ room => below size room⟩
  | some splat =>
    by_cases equal : (splat.toInt64 == if isDynamicDimSize dim.1 then dim.2 else dim.1) = true
    · simp only [equal, if_true]
      refine ⟨wellFormed_boundless _, fun size constant _ => admits_size ?_⟩
      rw [constant splat rfl, Int32.toInt_toInt64]
    · simp only [equal, if_false]
      exact ⟨wellFormed_sizeless _, fun size _ room => below size room⟩

/-- The type of a tensor with a dimension set to a size tracks its dimensions. -/
theorem inferSetDimensionSizeOp_sound {inputType sizeType : RankedTensorType}
    {sizeAttr : Option Int32} {dimension : Int64} {result : ShapedTypeComponents}
    (wellFormed : inputType.WellFormed)
    (inferred : inferSetDimensionSizeOp inputType sizeType sizeAttr dimension = .ok result) :
    ∃ dims, Tracks dims result ∧ ∀ (shape : List Nat) (size : Nat), inputType.Conforms shape →
      (∀ splat ∈ sizeAttr, (size : Int) = splat.toInt) →
      (∀ extent ∈ inputType.extents[dimension.toNatClampNeg]?, HasRoom extent (size : Int)) →
        Admit dims (shape.set dimension.toNatClampNeg size) := by
  unfold inferSetDimensionSizeOp at inferred
  split at inferred
  · cases inferred
  split at inferred
  · cases inferred
  split at inferred
  · cases inferred
  split at inferred
  · cases inferred
  · next dim there =>
    cases inferred
    obtain ⟨formed, sound⟩ := setDimAndBound_sound
      (wellFormed.of_mem (List.mem_of_getElem? there)) sizeAttr
    refine ⟨inputType.dimsAndBounds.set dimension.toNatClampNeg (setDimAndBound dim sizeAttr),
      ⟨?_, rfl, true, ?_⟩, ?_⟩
    · intro other listed
      rcases List.mem_or_eq_of_mem_set listed with before | rfl
      · exact wellFormed.of_mem before
      · exact formed
    · simp only [if_true, presentBounds]
      split <;> rfl
    · intro shape size conforms constant room
      rw [RankedTensorType.conforms_iff] at conforms
      refine List.forall₂_iff_get.mpr ⟨by simpa using conforms.length_eq, fun place short short' => ?_⟩
      simp only [List.get_eq_getElem, List.getElem_set]
      by_cases here : dimension.toNatClampNeg = place
      · simp only [here, if_true]
        refine sound size constant (room dim.extent ?_)
        rw [RankedTensorType.extents, List.getElem?_map, there]
        rfl
      · simp only [here, if_false]
        exact (List.forall₂_iff_get.mp conforms).2 place (by simpa using short)
          (by simpa using short')

end SetDimensionSize

section Concatenate

/-- Dimensions that are merged are merged one by one. -/
theorem getElem?_of_inferDimsAndBounds {infer : InferDimAndBound} {first : Nat}
    {lefts rights merged : List DimAndBound}
    (inferred : inferDimsAndBounds infer first lefts rights = .ok merged) :
    merged.length = lefts.length ∧ ∀ (place : Nat) (dim : DimAndBound), merged[place]? = some dim →
      ∃ left right, lefts[place]? = some left ∧ rights[place]? = some right ∧
        infer (first + place) left.1 right.1 left.2 right.2 = .ok dim := by
  induction lefts generalizing first rights merged with
  | nil =>
    cases rights with
    | nil =>
      cases inferred
      simp
    | cons => cases inferred
  | cons left lefts ih =>
    cases rights with
    | nil => cases inferred
    | cons right rights =>
      obtain ⟨head, known, inferred⟩ := Fallible.bind_eq_ok.mp inferred
      obtain ⟨rest, tail, rfl⟩ := bind_ok_eq_ok inferred
      obtain ⟨long, each⟩ := ih tail
      refine ⟨by simp [long], fun place dim there => ?_⟩
      cases place with
      | zero =>
        cases there
        exact ⟨left, right, rfl, rfl, known⟩
      | succ place =>
        have := each place dim there
        rwa [show first + 1 + place = first + (place + 1) by omega] at this

/-- The dimensions admit the sizes at their places. -/
def AdmitAt (dims : List DimAndBound) (size : Nat → Int) : Prop :=
  ∀ (place : Nat) (dim : DimAndBound), dims[place]? = some dim → dim.extent.Admits (size place)

/-- The sizes of the result along the other dimensions, and those so far along the dimension. -/
def partialSize (dimension : Nat) (result : List Nat) (sum : Nat) (place : Nat) : Int :=
  if place = dimension then sum else sizeAt result place

/-- The dimensions of one more input are merged into those of the inputs before it. -/
theorem concatenate_step {dimension : Nat} {before after : List DimAndBound}
    {inputType : RankedTensorType} (formed : AllWellFormed before)
    (wellFormed : inputType.WellFormed)
    (inferred : inferDimsAndBounds (inferConcatenateDimAndBound dimension) 0 before
      inputType.dimsAndBounds = .ok after) :
    AllWellFormed after ∧ after.length = before.length ∧
      ∀ (shape result : List Nat) (sum : Nat), inputType.Conforms shape →
        (∀ place, place ≠ dimension → sizeAt shape place = sizeAt result place) →
        AdmitAt before (partialSize dimension result sum) →
          AdmitAt after (partialSize dimension result (sum + sizeAt shape dimension)) := by
  obtain ⟨long, each⟩ := getElem?_of_inferDimsAndBounds inferred
  -- What a place comes to, from what it was and what the input has there.
  have place_sound : ∀ (place : Nat) (dim : DimAndBound), after[place]? = some dim →
      dim.WellFormed ∧ ∀ (shape result : List Nat) (sum : Nat), inputType.Conforms shape →
        (∀ place, place ≠ dimension → sizeAt shape place = sizeAt result place) →
        AdmitAt before (partialSize dimension result sum) →
          dim.extent.Admits (partialSize dimension result (sum + sizeAt shape dimension) place) := by
    intro place dim there
    obtain ⟨left, right, former, latter, merged⟩ := each place dim there
    have leftFormed := formed left (List.mem_of_getElem? former)
    have rightFormed := wellFormed.of_mem (List.mem_of_getElem? latter)
    have found : inputType.dimAndBound place = .ok right := by
      rw [RankedTensorType.dimAndBound, latter]
    obtain ⟨-, rightSound⟩ := dimAndBound_sound wellFormed found
    rw [Nat.zero_add] at merged
    unfold inferConcatenateDimAndBound at merged
    split at merged
    · next here =>
      subst here
      obtain ⟨dimFormed, sound⟩ := inferConcatenatedDimAndBound_sound leftFormed rightFormed merged
      refine ⟨dimFormed, fun shape result sum conforms _ admitted => ?_⟩
      have := sound _ _ (admitted place left former) (rightSound shape conforms)
      simpa [partialSize] using this
    · next elsewhere =>
      obtain ⟨dimFormed, sound⟩ := inferMostSpecificDimAndBound_sound leftFormed rightFormed merged
      refine ⟨dimFormed, fun shape result sum conforms same admitted => ?_⟩
      have leftAdmits := admitted place left former
      have rightAdmits := rightSound shape conforms
      simp only [partialSize, if_neg elsewhere] at leftAdmits ⊢
      rw [same place elsewhere] at rightAdmits
      exact sound _ leftAdmits rightAdmits
  refine ⟨fun dim listed => ?_, long, fun shape result sum conforms same admitted place dim there =>
    (place_sound place dim there).2 shape result sum conforms same admitted⟩
  obtain ⟨place, there⟩ := List.mem_iff_getElem?.mp listed
  exact (place_sound place dim there).1

/-- The dimensions of all inputs are merged. -/
theorem concatenate_run {dimension : Nat} {inputTypes : List RankedTensorType}
    {start inferred : List DimAndBound} (formed : AllWellFormed start)
    (wellFormed : ∀ type ∈ inputTypes, type.WellFormed)
    (folded : inputTypes.foldlM (fun inferred type =>
      inferDimsAndBounds (inferConcatenateDimAndBound dimension) 0 inferred type.dimsAndBounds)
      start = .ok inferred) :
    AllWellFormed inferred ∧ inferred.length = start.length ∧
      ∀ (shapes : List (List Nat)) (result : List Nat) (sum : Nat),
        List.Forall₂ RankedTensorType.Conforms inputTypes shapes →
        (∀ shape ∈ shapes, ∀ place, place ≠ dimension → sizeAt shape place = sizeAt result place) →
        AdmitAt start (partialSize dimension result sum) →
          AdmitAt inferred (partialSize dimension result
            (sum + (shapes.map (sizeAt · dimension)).sum)) := by
  induction inputTypes generalizing start with
  | nil =>
    cases folded
    refine ⟨formed, rfl, fun shapes result sum conforms _ admitted => ?_⟩
    cases conforms
    simpa using admitted
  | cons inputType inputTypes ih =>
    rw [List.foldlM_cons] at folded
    obtain ⟨after, stepped, folded⟩ := Fallible.bind_eq_ok.mp folded
    obtain ⟨afterFormed, afterLong, afterSound⟩ :=
      concatenate_step formed (wellFormed inputType (by simp)) stepped
    obtain ⟨allFormed, long, sound⟩ :=
      ih afterFormed (fun type listed => wellFormed type (by simp [listed])) folded
    refine ⟨allFormed, long.trans afterLong, fun shapes result sum conforms same admitted => ?_⟩
    cases conforms with
    | @cons _ shape _ shapes first rest =>
      have next := afterSound shape result sum first (same shape (by simp)) admitted
      have := sound shapes result _ rest (fun other listed => same other (by simp [listed])) next
      rwa [List.map_cons, List.sum_cons, ← Nat.add_assoc]

/-- The shapes of the inputs and of the result of a concatenation. -/
structure ConcatenateShapes (dimension : Nat) (shapes : List (List Nat)) (result : List Nat) :
    Prop where
  rank : ∀ shape ∈ shapes, shape.length = result.length
  same : ∀ shape ∈ shapes, ∀ place, place ≠ dimension → sizeAt shape place = sizeAt result place
  sum : sizeAt result dimension = (shapes.map (sizeAt · dimension)).sum

/-- The type of a concatenation tracks its dimensions. -/
theorem inferConcatenateOp_sound {inputTypes : List RankedTensorType} {dimension : Nat}
    {concatenated : RankedTensorType} (wellFormed : ∀ type ∈ inputTypes, type.WellFormed)
    (inferred : inferConcatenateOp inputTypes dimension = .ok concatenated) :
    ∃ dims, Tracks dims concatenated.components ∧
      ∀ (shapes : List (List Nat)) (result : List Nat),
        List.Forall₂ RankedTensorType.Conforms inputTypes shapes →
        ConcatenateShapes dimension shapes result → Admit dims result := by
  unfold inferConcatenateOp at inferred
  split at inferred
  · cases inferred
  next witnessType others =>
  simp only at inferred
  split at inferred
  · cases inferred
  next positive =>
  split at inferred
  · cases inferred
  next inRange =>
  obtain ⟨_, -, inferred⟩ := Fallible.bind_eq_ok.mp inferred
  obtain ⟨dims, folded, inferred⟩ := Fallible.bind_eq_ok.mp inferred
  obtain ⟨encoding, encoded, rfl⟩ := bind_ok_eq_ok inferred
  -- At the start, nothing is known of the other dimensions.
  have startFormed : AllWellFormed
      ((List.replicate witnessType.rank (kDynamic, kDynamic)).set dimension (0, kDynamic)) := by
    intro dim listed
    rcases List.mem_or_eq_of_mem_set listed with before | rfl
    · rw [List.eq_of_mem_replicate before]
      exact wellFormed_boundless _
    · exact wellFormed_boundless _
  obtain ⟨formed, long, sound⟩ := concatenate_run startFormed wellFormed folded
  rw [List.length_set, List.length_replicate] at long
  refine ⟨dims, @tracks_of_boundsToEncoding dims _ encoding _ _ formed (fun _ empty => ?_)
    (fun absent => ?_) encoded, fun shapes result conforms computed => ?_⟩
  · rw [empty] at long
    exact positive long.symm
  · -- Without bounds among the inputs, there are none in the encoding of one of them.
    cases found : (witnessType :: others).findSome? RankedTensorType.encoding with
    | none => rfl
    | some encoding =>
      obtain ⟨type, listed, same⟩ := List.exists_of_findSome?_eq_some found
      have := List.any_eq_false.mp absent type listed
      simpa [same] using this
  · have startAdmits : AdmitAt
        ((List.replicate witnessType.rank (kDynamic, kDynamic)).set dimension (0, kDynamic))
        (partialSize dimension result 0) := by
      intro place dim there
      rw [List.getElem?_set] at there
      split at there
      · next here =>
        split at there
        · cases there
          rw [partialSize, if_pos here.symm]
          exact admits_size (by decide)
        · cases there
      · rw [List.getElem?_replicate] at there
        split at there
        · cases there
          rw [extent_dynamic]
          trivial
        · cases there
    have admitted := sound shapes result 0 conforms computed.same startAdmits
    have rank : result.length = witnessType.rank := by
      cases conforms with
      | @cons _ shape _ _ first _ =>
        rw [← computed.rank shape (by simp), ← first.length_eq]
        exact (wellFormed witnessType (by simp)).length_extents
    refine List.forall₂_iff_get.mpr ⟨long.trans rank.symm, fun place short short' => ?_⟩
    have here := admitted place dims[place] (List.getElem?_eq_getElem short)
    have size : sizeAt result place = result[place] := by
      rw [sizeAt, List.getD_eq_getElem?_getD, List.getElem?_eq_getElem short']
      rfl
    unfold partialSize at here
    split at here
    · next concatenated =>
      rw [Nat.zero_add, ← computed.sum, ← concatenated, size] at here
      exact here
    · rwa [size] at here

end Concatenate

section ReduceWindow

/-- The size of a dimension whose elements are spread out. -/
def dilatedSize (size dilation : Int) : Int :=
  if size = 0 then 0 else (size - 1) * dilation + 1

/-- The number of positions of a window in a padded dimension. -/
def windowCount (dim : WindowDimension) (size : Int) : Int :=
  let padded := dim.paddingLow.toInt + dilatedSize size dim.baseDilation.toInt + dim.paddingHigh.toInt
  let window := dilatedSize dim.size.toInt dim.windowDilation.toInt
  if padded = 0 ∨ padded < window then 0 else (padded - window) / dim.stride.toInt + 1

/-- The source computes the spread out size. -/
theorem toInt_of_dilatedBound {bound dilation result : Int64}
    (inferred : dilatedBound bound dilation = .ok result) :
    result.toInt = dilatedSize bound.toInt dilation.toInt := by
  unfold dilatedBound at inferred
  unfold dilatedSize
  split at inferred
  · next zero =>
    cases inferred
    rw [beq_iff_eq] at zero
    rw [zero]
    rfl
  · next positive =>
    have nonzero : bound.toInt ≠ 0 := by
      rw [beq_iff_eq, ← Int64.toInt_inj] at positive
      exact positive
    obtain ⟨steps, first, inferred⟩ := Fallible.bind_eq_ok.mp inferred
    obtain ⟨spread, second, inferred⟩ := Fallible.bind_eq_ok.mp inferred
    rw [checkedInt64_eq_ok] at first second inferred
    rw [if_neg nonzero, inferred, second, first]

/-- The source computes the number of positions. -/
theorem toInt_of_inferWindowOutputSize {dim : WindowDimension} {size result : Int64}
    (stride : 0 < dim.stride.toInt) (sized : isDynamicDimSize size = false)
    (window : isDynamicDimSize dim.size = false)
    (inferred : inferWindowOutputSize size dim = .ok result) :
    result.toInt = windowCount dim size.toInt := by
  simp only [inferWindowOutputSize, sized, window, Bool.or_self, Bool.false_eq_true,
    if_false] at inferred
  obtain ⟨dilated, first, inferred⟩ := Fallible.bind_eq_ok.mp inferred
  obtain ⟨half, second, inferred⟩ := Fallible.bind_eq_ok.mp inferred
  obtain ⟨padded, third, inferred⟩ := Fallible.bind_eq_ok.mp inferred
  obtain ⟨spread, fourth, inferred⟩ := Fallible.bind_eq_ok.mp inferred
  have first := toInt_of_dilatedBound first
  have fourth := toInt_of_dilatedBound fourth
  rw [checkedInt64_eq_ok] at second third
  have width : padded.toInt = dim.paddingLow.toInt + dilatedSize size.toInt dim.baseDilation.toInt +
      dim.paddingHigh.toInt := by rw [third, second, first]
  unfold stridedBound at inferred
  simp only [windowCount, ← width, ← fourth]
  split at inferred
  · next empty =>
    -- There is nothing, or the window does not fit.
    cases inferred
    rw [Bool.or_eq_true, beq_iff_eq, ← Int64.toInt_inj, Int64.toInt_zero, decide_eq_true_eq,
      gt_iff_lt, Int64.lt_iff_toInt_lt] at empty
    rw [if_pos empty]
    rfl
  · next fits =>
    rw [Bool.or_eq_true, beq_iff_eq, ← Int64.toInt_inj, Int64.toInt_zero, decide_eq_true_eq,
      gt_iff_lt, Int64.lt_iff_toInt_lt] at fits
    obtain ⟨free, difference, inferred⟩ := Fallible.bind_eq_ok.mp inferred
    rw [checkedInt64_eq_ok] at difference inferred
    have room : 0 ≤ free.toInt := by
      rw [difference]
      have := not_or.mp fits
      omega
    rw [if_neg fits, inferred, Int.tdiv_eq_ediv_of_nonneg room, difference]

/-- The parameters of a dimension of a window have been verified. -/
structure WindowDimension.Verified (dim : WindowDimension) : Prop where
  size : isDynamicDimSize dim.size = false → 0 < dim.size.toInt
  stride : 0 < dim.stride.toInt
  baseDilation : 0 < dim.baseDilation.toInt
  windowDilation : 0 < dim.windowDilation.toInt

/-- A positive parameter is accepted. -/
theorem verifyPositive_eq_ok {value : Int64} {name : String} {i : Nat} {done : Unit}
    (verified : verifyPositive value name i = .ok done) : 0 < value.toInt := by
  unfold verifyPositive at verified
  split at verified
  · cases verified
  · next positive =>
    rw [Int64.le_iff_toInt_le] at positive
    exact not_le.mp positive

/-- The dimensions of a window that is accepted have been verified. -/
theorem verified_of_inferWindowDimension {windowStrides : List Int64}
    {padding : List (Int64 × Int64)} {lhsDilation rhsDilation : List Int64} {size : Int64} {i : Nat}
    {dim : WindowDimension}
    (inferred : inferWindowDimension windowStrides padding lhsDilation rhsDilation size i =
      .ok dim) : dim.Verified := by
  obtain ⟨_, sized, inferred⟩ := Fallible.bind_eq_ok.mp inferred
  obtain ⟨stride, -, inferred⟩ := Fallible.bind_eq_ok.mp inferred
  obtain ⟨_, strided, inferred⟩ := Fallible.bind_eq_ok.mp inferred
  obtain ⟨baseDilation, -, inferred⟩ := Fallible.bind_eq_ok.mp inferred
  obtain ⟨_, dilated, inferred⟩ := Fallible.bind_eq_ok.mp inferred
  obtain ⟨windowDilation, -, inferred⟩ := Fallible.bind_eq_ok.mp inferred
  obtain ⟨_, dilated', inferred⟩ := Fallible.bind_eq_ok.mp inferred
  obtain ⟨pads, -, inferred⟩ := Fallible.bind_eq_ok.mp inferred
  cases inferred
  refine ⟨fun static => ?_, verifyPositive_eq_ok strided, verifyPositive_eq_ok dilated,
    verifyPositive_eq_ok dilated'⟩
  have static : isDynamicDimSize size = false := static
  rw [verifyWindowSize, static] at sized
  exact verifyPositive_eq_ok sized

/-- A longer dimension is longer when its elements are spread out. -/
theorem dilatedSize_mono {size bound dilation : Int} (natural : 0 ≤ size) (below : size ≤ bound)
    (positive : 0 < dilation) : dilatedSize size dilation ≤ dilatedSize bound dilation := by
  unfold dilatedSize
  split
  · split
    · exact Int.le_refl 0
    · have := Int.mul_nonneg (by omega : 0 ≤ bound - 1) positive.le
      omega
  · rw [if_neg (by omega)]
    have := Int.mul_le_mul_of_nonneg_right (by omega : size - 1 ≤ bound - 1) positive.le
    omega

/-- A window has at least as many positions in a longer dimension. -/
theorem windowCount_mono {dim : WindowDimension} {size bound : Int} (verified : dim.Verified)
    (window : isDynamicDimSize dim.size = false) (natural : 0 ≤ size) (below : size ≤ bound) :
    windowCount dim size ≤ windowCount dim bound := by
  have longer := dilatedSize_mono natural below verified.baseDilation
  have width : 0 < dilatedSize dim.size.toInt dim.windowDilation.toInt := by
    have sized := verified.size window
    rw [dilatedSize, if_neg (by omega)]
    have := Int.mul_nonneg (by omega : 0 ≤ dim.size.toInt - 1) verified.windowDilation.le
    omega
  unfold windowCount
  simp only
  generalize dilatedSize dim.size.toInt dim.windowDilation.toInt = span at *
  generalize dilatedSize size dim.baseDilation.toInt = short at *
  generalize dilatedSize bound dim.baseDilation.toInt = long at *
  split
  · -- The window has no position in the shorter one.
    split
    · exact Int.le_refl 0
    · have := Int.ediv_nonneg (by omega : 0 ≤ dim.paddingLow.toInt + long + dim.paddingHigh.toInt - span)
        verified.stride.le
      omega
  · rw [if_neg (by omega)]
    have := Int.ediv_le_ediv verified.stride
      (by omega : dim.paddingLow.toInt + short + dim.paddingHigh.toInt - span ≤
        dim.paddingLow.toInt + long + dim.paddingHigh.toInt - span)
    omega

/-- The numbers of positions along a dimension, and along its bound, admit the number of
positions along the sizes of the dimension. -/
theorem inferWindowOutputSize_sound {dim : DimAndBound} {window : WindowDimension}
    {size bound : Int64} (wellFormed : dim.WellFormed) (verified : window.Verified)
    (sized : inferWindowOutputSize dim.1 window = .ok size)
    (bounded : inferWindowOutputSize dim.2 window = .ok bound) :
    DimAndBound.WellFormed (size, bound) ∧ ∀ actual : Nat, dim.extent.Admits (actual : Int) →
      (DimAndBound.extent (size, bound)).Admits (windowCount window actual) := by
  have dynamic : inferWindowOutputSize kDynamic window = .ok kDynamic := by
    simp [inferWindowOutputSize]
  by_cases unknown : isDynamicDimSize window.size = true
  · -- Nothing is known of the result.
    simp only [inferWindowOutputSize, unknown, Bool.or_true, if_true] at sized bounded
    cases sized
    cases bounded
    exact ⟨wellFormed_boundless _, fun _ _ => by simp [Extent.Admits]⟩
  · rw [Bool.not_eq_true] at unknown
    rcases wellFormed.cases with ⟨exact, static, rfl⟩ | ⟨exact, static, rfl⟩ | rfl
    · rw [dynamic] at bounded
      cases bounded
      refine ⟨wellFormed_boundless size, fun actual admitted => admits_size ?_⟩
      rw [toInt_of_inferWindowOutputSize verified.stride (isDynamicDimSize_eq_false static) unknown
        sized, size_of_admits static admitted]
    · rw [dynamic] at sized
      cases sized
      refine ⟨wellFormed_sizeless bound, fun actual admitted => admits_bound ?_⟩
      rw [toInt_of_inferWindowOutputSize verified.stride (isDynamicDimSize_eq_false static) unknown
        bounded]
      exact windowCount_mono verified unknown (Int.natCast_nonneg actual)
        (bound_of_admits static admitted)
    · rw [dynamic] at sized bounded
      cases sized
      cases bounded
      exact ⟨wellFormed_boundless _, fun _ _ => by simp [Extent.Admits]⟩

/-- The numbers of positions of a window along the dimensions of a shape. -/
def windowedShape (window : List WindowDimension) (shape : List Nat) : List Int :=
  List.zipWith (fun dim (size : Nat) => windowCount dim size) window shape

/-- The numbers of positions along dimensions, and along their bounds, admit the windowed
shapes. -/
theorem inferWindowOutputShape_sound {window : List WindowDimension}
    {shape bounds resultShape resultBounds : List Int64}
    (verified : ∀ dim ∈ window, dim.Verified) (sameShape : shape.length = window.length)
    (sameBounds : bounds.length = window.length) (wellFormed : AllWellFormed (shape.zip bounds))
    (sized : inferWindowOutputShape shape window = .ok resultShape)
    (bounded : inferWindowOutputShape bounds window = .ok resultBounds) :
    (resultShape.length = window.length ∧ resultBounds.length = window.length) ∧
      AllWellFormed (resultShape.zip resultBounds) ∧
      ∀ sizes result : List Nat, Admit (shape.zip bounds) sizes →
        result.map Int.ofNat = windowedShape window sizes →
          Admit (resultShape.zip resultBounds) result := by
  induction window generalizing shape bounds resultShape resultBounds with
  | nil =>
    obtain rfl := List.length_eq_zero_iff.mp sameShape
    obtain rfl := List.length_eq_zero_iff.mp sameBounds
    cases sized
    cases bounded
    refine ⟨⟨rfl, rfl⟩, .nil, fun sizes result _ computed => ?_⟩
    rw [windowedShape, List.zipWith_nil_left, List.map_eq_nil_iff] at computed
    rw [computed]
    exact .nil
  | cons dim window ih =>
    obtain ⟨first, shape, rfl⟩ := List.exists_cons_of_length_eq_add_one sameShape
    obtain ⟨first', bounds, rfl⟩ := List.exists_cons_of_length_eq_add_one sameBounds
    obtain ⟨size, head, sized⟩ := Fallible.bind_eq_ok.mp sized
    obtain ⟨restShape, tail, rfl⟩ := bind_ok_eq_ok sized
    obtain ⟨bound, head', bounded⟩ := Fallible.bind_eq_ok.mp bounded
    obtain ⟨restBounds, tail', rfl⟩ := bind_ok_eq_ok bounded
    rw [List.zip_cons_cons] at wellFormed
    obtain ⟨formed, sound⟩ := @inferWindowOutputSize_sound (first, first') dim size bound
      (wellFormed _ (by simp)) (verified dim (by simp)) head head'
    obtain ⟨⟨long, long'⟩, allFormed, allSound⟩ :=
      ih (fun other listed => verified other (by simp [listed])) (by simpa using sameShape)
        (by simpa using sameBounds) (fun other listed => wellFormed other (by simp [listed])) tail
        tail'
    refine ⟨⟨by simp [long], by simp [long']⟩, .cons formed allFormed,
      fun sizes result admitted computed => ?_⟩
    cases admitted with
    | cons admits others =>
      rw [windowedShape, List.zipWith_cons_cons, List.map_eq_cons_iff] at computed
      obtain ⟨number, numbers, rfl, same, more⟩ := computed
      refine .cons ?_ (allSound _ _ others more)
      have := sound _ admits
      rwa [← same] at this

/-- Nothing is known of the positions along dimensions of which nothing is known. -/
theorem inferWindowOutputShape_dynamic (window : List WindowDimension) :
    inferWindowOutputShape (List.replicate window.length kDynamic) window =
      .ok (List.replicate window.length kDynamic) := by
  induction window with
  | nil => rfl
  | cons dim window ih =>
    have head : inferWindowOutputSize kDynamic dim = .ok kDynamic := by
      simp [inferWindowOutputSize]
    rw [List.length_cons, List.replicate_succ, inferWindowOutputShape, head, ih]
    rfl

/-- The type of a windowed reduction tracks its dimensions. -/
theorem inferReduceWindowResult_sound {window : List WindowDimension}
    {inputType : RankedTensorType} {accumulatorType : StablehloType} {result : ShapedTypeComponents}
    (wellFormed : inputType.WellFormed) (verified : ∀ dim ∈ window, dim.Verified)
    (rank : inputType.rank = window.length)
    (inferred : inferReduceWindowResult window inputType accumulatorType = .ok result) :
    ∃ dims, Tracks dims result ∧ ∀ sizes shape : List Nat, inputType.Conforms sizes →
      shape.map Int.ofNat = windowedShape window sizes → Admit dims shape := by
  obtain ⟨resultShape, sized, inferred⟩ := Fallible.bind_eq_ok.mp inferred
  simp only at inferred
  split at inferred
  · next empty =>
    cases inferred
    -- The bounds of the dimensions are all missing, and stay so.
    have dims : inputType.dimsAndBounds =
        inputType.shape.zip (List.replicate window.length kDynamic) := by
      rw [RankedTensorType.dimsAndBounds, if_pos empty, rank]
    have formed : AllWellFormed (inputType.shape.zip (List.replicate window.length kDynamic)) :=
      dims ▸ fun dim => wellFormed.of_mem
    obtain ⟨⟨long, -⟩, allFormed, sound⟩ := inferWindowOutputShape_sound verified rank
      (List.length_replicate ..) formed sized (inferWindowOutputShape_dynamic window)
    refine ⟨_, ⟨allFormed, ?_, false, rfl⟩, fun sizes shape conforms => sound sizes shape ?_⟩
    · rw [List.map_fst_zip (by simp [long])]
    · rw [← dims]
      exact RankedTensorType.conforms_iff.mp conforms
  · next present =>
    obtain ⟨resultBounds, bounded, inferred⟩ := Fallible.bind_eq_ok.mp inferred
    obtain ⟨encoding, encoded, rfl⟩ := bind_ok_eq_ok inferred
    have dims : inputType.dimsAndBounds =
        inputType.shape.zip (encodingToBounds inputType.encoding) := by
      rw [RankedTensorType.dimsAndBounds, if_neg present]
    have slots : (encodingToBounds inputType.encoding).length = window.length := by
      have verified := wellFormed.resolve_left present
      simp only [verifyBounds, Bool.and_eq_true, beq_iff_eq] at verified
      rw [verified.1, rank]
    have formed : AllWellFormed (inputType.shape.zip (encodingToBounds inputType.encoding)) :=
      dims ▸ fun dim => wellFormed.of_mem
    obtain ⟨⟨long, long'⟩, allFormed, sound⟩ := inferWindowOutputShape_sound verified rank
      slots formed sized bounded
    have nonempty : resultBounds ≠ [] := by
      rintro rfl
      rw [List.length_nil, ← slots, eq_comm, List.length_eq_zero_iff] at long'
      simp [long'] at present
    refine ⟨_, ⟨allFormed, ?_, true, ?_⟩, fun sizes shape conforms => sound sizes shape ?_⟩
    · rw [List.map_fst_zip (by omega)]
    · rw [List.map_snd_zip (by omega)]
      exact encodingToBounds_of_boundsToEncoding nonempty encoded
    · rw [← dims]
      exact RankedTensorType.conforms_iff.mp conforms

end ReduceWindow

end Stablehlo
