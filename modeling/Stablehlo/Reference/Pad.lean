import Stablehlo.Dialect.Slice
import Stablehlo.Dialect.TypeInferenceSound
import Stablehlo.Reference.IndexArithmetic
import Stablehlo.Reference.Slice
import Stablehlo.Reference.StaticShapes
import Stablehlo.Support.Deposits

/-! Padded tensors, and the slices that take the padding off again. -/

namespace Stablehlo

section Operation

variable {α : Type}

/-- The index of the result that an element of the operand is moved to. -/
def padIndex (edgePaddingLow interiorPadding : List Int) (operandIndex : Index) :
    Except Failure (List Int) := do
  let steps ← addIndices interiorPadding (List.replicate interiorPadding.length 1)
  let offsets ← multiplyIndices (operandIndex.map Nat.cast) steps
  addIndices edgePaddingLow offsets

/-- Move an element of the operand to its index in the result. -/
def padElement (operand : Tensor α) (edgePaddingLow interiorPadding : List Int)
    (result : Tensor α) (operandIndex : Index) : Except Failure (Tensor α) := do
  let resultIndex ← padIndex edgePaddingLow interiorPadding operandIndex
  -- Negative padding may swallow the index.
  if inBoundsOf result.shape resultIndex then do
    let element ← operand.get operandIndex
    result.set (resultIndex.map Int.toNat) element
  else
    .ok result

/-- Surround the elements of the operand by the padding value. -/
def padOp (operand paddingValue : Tensor α) (edgePaddingLow interiorPadding : List Int)
    (resultShape : Sizes) : Except Failure (Tensor α) := do
  let value ← paddingValue.get []
  (indexSpace operand.shape).foldlM (padElement operand edgePaddingLow interiorPadding)
    (.tabulate resultShape fun _ => value)

end Operation

section Specification

/-- How far elements are apart from the first one, along each dimension. -/
def padOffsets (interiorPadding : List Int) (operandIndex : Index) : List Int :=
  List.zipWith (fun (coordinate : Nat) padding => coordinate * (padding + 1)) operandIndex
    interiorPadding

/-- The coordinates that an element of the operand is moved to. -/
def paddedIndex (edgePaddingLow interiorPadding : List Int) (operandIndex : Index) : List Int :=
  List.zipWith (· + ·) edgePaddingLow (padOffsets interiorPadding operandIndex)

/-- There is a padding for each coordinate, and nothing that is computed for the index overflows. -/
structure PadIndexFits (edgePaddingLow interiorPadding : List Int) (operandIndex : Index) :
    Prop where
  count : interiorPadding.length = operandIndex.length
  steps : ∀ padding ∈ interiorPadding, IsInt64 (padding + 1)
  offsets : ∀ offset ∈ padOffsets interiorPadding operandIndex, IsInt64 offset
  sums : ∀ coordinate ∈ paddedIndex edgePaddingLow interiorPadding operandIndex,
    IsInt64 coordinate

/-- Padded tensors of the shape are those of the specification: elements of the operand where they
are moved to, the padding value elsewhere, and the operand where the padding is taken off. -/
def PadMeetsSpec (operandShape : Sizes) (edgePaddingLow edgePaddingHigh interiorPadding : List Int64)
    (padded : RankedTensorType) (resultShape : Sizes) : Prop :=
  ∀ (α : Type) (operand paddingValue : Tensor α) (value : α), operand.shape = operandShape →
    paddingValue.get [] = .ok value → ∃ result,
      padOp operand paddingValue (edgePaddingLow.map Int64.toInt)
        (interiorPadding.map Int64.toInt) resultShape = .ok result ∧
      result.shape = resultShape ∧
      (∀ index, MixedRadix.Within resultShape index →
        (∀ place, MixedRadix.Within operandShape place →
          paddedIndex (edgePaddingLow.map Int64.toInt) (interiorPadding.map Int64.toInt) place =
            index.map Nat.cast → result.get index = operand.get place) ∧
        ((∀ place, MixedRadix.Within operandShape place →
          paddedIndex (edgePaddingLow.map Int64.toInt) (interiorPadding.map Int64.toInt) place ≠
            index.map Nat.cast) → result.get index = .ok value)) ∧
      ((∀ low ∈ edgePaddingLow, 0 ≤ low.toInt) → (∀ high ∈ edgePaddingHigh, 0 ≤ high.toInt) →
        ∀ limits strides : List Int64,
          limits.map Int64.toInt = List.zipWith (fun (size : Nat) (high : Int64) =>
            size - high.toInt) resultShape edgePaddingHigh →
          strides.map Int64.toInt = interiorPadding.map (fun interior => interior.toInt + 1) →
          (∃ sliced, inferSliceOp padded edgePaddingLow limits strides = .ok sliced) ∧
            result.sliceOp (edgePaddingLow.map Int64.toInt) (limits.map Int64.toInt)
              (strides.map Int64.toInt) = .ok operand)

end Specification

section Index

variable {low interior : List Int} {operandIndex : Index}

/-- An index is computed when nothing overflows. -/
theorem padIndex_eq_ok_iff (count : low.length = operandIndex.length) {coordinates : List Int} :
    padIndex low interior operandIndex = .ok coordinates ↔
      PadIndexFits low interior operandIndex ∧
        coordinates = paddedIndex low interior operandIndex := by
  have steps : List.zipWith (· + ·) interior (List.replicate interior.length 1) =
      interior.map (· + 1) := by
    induction interior with
    | nil => rfl
    | cons padding interior ih =>
      rw [List.length_cons, List.replicate_succ, List.zipWith_cons_cons, ih, List.map_cons]
  have offsets : List.zipWith (· * ·) (operandIndex.map (Nat.cast : Nat → Int))
      (interior.map (· + 1)) = padOffsets interior operandIndex := by
    rw [padOffsets, List.zipWith_map]
  unfold padIndex
  simp only [Fallible.bind_eq_ok, addIndices_eq_combineIndices, multiplyIndices,
    combineIndices_eq_ok_iff, steps]
  constructor
  · rintro ⟨_, ⟨-, rfl, stepsSmall⟩, _, ⟨length, rfl, offsetsSmall⟩, -, rfl, small⟩
    rw [List.length_map, List.length_map] at length
    rw [offsets] at offsetsSmall small ⊢
    refine ⟨⟨length.symm, fun padding listed => ?_, offsetsSmall, small⟩, rfl⟩
    exact stepsSmall _ (List.mem_map_of_mem listed)
  · rintro ⟨fits, rfl⟩
    refine ⟨_, ⟨(List.length_replicate).symm, rfl, ?_⟩, _, ⟨?_, rfl, ?_⟩, ?_, ?_, fits.sums⟩
    · intro step listed
      obtain ⟨padding, member, rfl⟩ := List.mem_map.mp listed
      exact fits.steps padding member
    · rw [List.length_map, List.length_map, fits.count]
    · rw [offsets]
      exact fits.offsets
    · rw [offsets, padOffsets, List.length_zipWith, fits.count, count]
      omega
    · rw [offsets]
      rfl

/-- Different elements are moved to different indices. -/
theorem paddedIndex_injective {first second : Index}
    (spread : ∀ padding ∈ interior, 0 ≤ padding) (lowCount : low.length = first.length)
    (interiorCount : interior.length = first.length) (length : second.length = first.length)
    (same : paddedIndex low interior first = paddedIndex low interior second) :
    first = second := by
  induction first generalizing low interior second with
  | nil => exact (List.length_eq_zero_iff.mp length).symm
  | cons coordinate first ih =>
    cases second with
    | nil => cases length
    | cons other second =>
      cases low with
      | nil => cases lowCount
      | cons start low =>
        cases interior with
        | nil => cases interiorCount
        | cons padding interior =>
          rw [List.forall_mem_cons] at spread
          simp only [List.length_cons, Nat.add_right_cancel_iff] at lowCount interiorCount length
          simp only [paddedIndex, padOffsets, List.zipWith_cons_cons, List.cons.injEq] at same
          obtain ⟨here, rest⟩ := same
          -- The steps between elements are positive.
          have equal := Int.eq_of_mul_eq_mul_right (show padding + 1 ≠ 0 by omega)
            (Int.add_left_cancel here)
          rw [ih spread.2 lowCount interiorCount length rest, Int.ofNat.inj equal]

end Index

section Run

variable {α : Type} {operand paddingValue : Tensor α} {low interior : List Int}
  {resultShape : Sizes} {value : α}

/-- The index of the result that an element is moved to, if it is one. -/
def padPlace (low interior : List Int) (resultShape : Sizes) (operandIndex : Index) :
    Option Index :=
  if inBoundsOf resultShape (paddedIndex low interior operandIndex) then
    some ((paddedIndex low interior operandIndex).map Int.toNat)
  else
    none

/-- An element is moved to the index with its coordinates. -/
theorem padPlace_eq_some_iff {operandIndex index : Index} :
    padPlace low interior resultShape operandIndex = some index ↔
      MixedRadix.Within resultShape index ∧
        paddedIndex low interior operandIndex = index.map Nat.cast := by
  unfold padPlace
  constructor
  · intro target
    split at target
    · next inside =>
      obtain ⟨place, same, within⟩ := inBoundsOf_iff.mp inside
      rw [← same, map_toNat_map_natCast, Option.some.injEq] at target
      subst target
      exact ⟨within, same.symm⟩
    · cases target
  · rintro ⟨within, same⟩
    rw [same, if_pos (inBoundsOf_iff.mpr ⟨index, rfl, within⟩), map_toNat_map_natCast]

/-- The elements of the result at each index. -/
def HoldsAt (resultShape : Sizes) (result : Tensor α) (state : Index → α) : Prop :=
  result.shape = resultShape ∧
    ∀ index, MixedRadix.Within resultShape index → result.get index = .ok (state index)

/-- Moving an element changes the result as a deposit at its index does. -/
theorem padElement_simulates {operandIndex : Index}
    (within : MixedRadix.Within operand.shape operandIndex)
    (count : low.length = operandIndex.length) (fits : PadIndexFits low interior operandIndex)
    {result : Tensor α} {state : Index → α} (holds : HoldsAt resultShape result state) :
    ∃ next moved, Deposits.deposit (padPlace low interior resultShape)
        (fun _ place => operand.get place) state operandIndex = .ok next ∧
      padElement operand low interior result operandIndex = .ok moved ∧
      HoldsAt resultShape moved next := by
  obtain ⟨shape, elements⟩ := holds
  have computed := (padIndex_eq_ok_iff count).mpr ⟨fits, rfl⟩
  obtain ⟨element, got, -⟩ := Tensor.get_eq within
  rw [padElement, computed, Fallible.ok_bind, shape, Deposits.deposit]
  by_cases inside : inBoundsOf resultShape (paddedIndex low interior operandIndex) = true
  · obtain ⟨index, same, indexWithin⟩ := inBoundsOf_iff.mp inside
    have target : padPlace low interior resultShape operandIndex = some index :=
      padPlace_eq_some_iff.mpr ⟨indexWithin, same.symm⟩
    obtain ⟨replaced, set, replacedShape, others⟩ :=
      Tensor.get_set (shape ▸ indexWithin) element
    refine ⟨Function.update state index element, replaced, ?_, ?_, replacedShape.trans shape, ?_⟩
    · rw [target]
      dsimp only
      rw [got]
      rfl
    · rw [if_pos inside, got, ← same, map_toNat_map_natCast]
      exact set
    · intro other otherWithin
      rw [others other (shape ▸ otherWithin)]
      by_cases here : other = index
      · rw [if_pos here, here, Function.update_self]
      · rw [if_neg here, Function.update_of_ne here]
        exact elements other otherWithin
  · -- The element is swallowed by negative padding.
    have target : padPlace low interior resultShape operandIndex = none := if_neg inside
    refine ⟨state, result, by rw [target], by rw [if_neg inside], shape, elements⟩

/-- A padded tensor has the elements of the operand where they are moved to, and the padding value
elsewhere. -/
theorem padOp_eq (lowCount : low.length = operand.shape.length)
    (spread : interior.length = operand.shape.length → ∀ padding ∈ interior, 0 ≤ padding)
    (fits : ∀ place, MixedRadix.Within operand.shape place → PadIndexFits low interior place)
    (read : paddingValue.get [] = .ok value) :
    ∃ result, padOp operand paddingValue low interior resultShape = .ok result ∧
      result.shape = resultShape ∧
      ∀ index, MixedRadix.Within resultShape index →
        (∀ place, MixedRadix.Within operand.shape place →
          paddedIndex low interior place = index.map Nat.cast →
            result.get index = operand.get place) ∧
        ((∀ place, MixedRadix.Within operand.shape place →
          paddedIndex low interior place ≠ index.map Nat.cast) → result.get index = .ok value) := by
  -- The element that is found at an index in the end.
  have each : ∀ index, ∃ element, (Deposits.itemsAt (padPlace low interior resultShape) index
      (indexSpace operand.shape)).foldlM (fun _ place => operand.get place) value =
        .ok element ∧
      (∀ place, MixedRadix.Within operand.shape place →
        padPlace low interior resultShape place = some index →
          operand.get place = .ok element) ∧
      ((∀ place, MixedRadix.Within operand.shape place →
        padPlace low interior resultShape place ≠ some index) → element = value) := by
    intro index
    by_cases moved : ∃ place, MixedRadix.Within operand.shape place ∧
        padPlace low interior resultShape place = some index
    · obtain ⟨place, within, target⟩ := moved
      obtain ⟨element, got, -⟩ := Tensor.get_eq within
      -- No other element is moved to the index.
      have only : ∀ other, MixedRadix.Within operand.shape other →
          padPlace low interior resultShape other = some index → other = place := by
        intro other otherWithin otherTarget
        have same := (padPlace_eq_some_iff.mp target).2.trans
          (padPlace_eq_some_iff.mp otherTarget).2.symm
        refine (paddedIndex_injective (spread ?_) ?_ (fits place within).count ?_ same).symm
        · rw [(fits place within).count, within.length_eq]
        · rw [lowCount, within.length_eq]
        · rw [otherWithin.length_eq, within.length_eq]
      refine ⟨element, ?_, fun other otherWithin otherTarget => ?_, fun none => ?_⟩
      · refine Fallible.foldlM_constant (fun item listed state => ?_) ?_
        · obtain ⟨listed, itemTarget⟩ := List.mem_filter.mp listed
          rw [only item (MixedRadix.mem_all.mp listed) (of_decide_eq_true itemTarget), got]
        · exact List.ne_nil_of_mem (List.mem_filter.mpr
            ⟨MixedRadix.mem_all.mpr within, decide_eq_true target⟩)
      · rw [only other otherWithin otherTarget, got]
      · exact absurd target (none place within)
    · have none : Deposits.itemsAt (padPlace low interior resultShape) index
          (indexSpace operand.shape) = [] := by
        refine List.filter_eq_nil_iff.mpr fun item listed target => moved ⟨item, ?_⟩
        exact ⟨MixedRadix.mem_all.mp listed, of_decide_eq_true target⟩
      refine ⟨value, by rw [none]; rfl, fun place within target => ?_, fun _ => rfl⟩
      exact absurd ⟨place, within, target⟩ moved
  choose final run moved untouched using each
  have start : HoldsAt resultShape (.tabulate resultShape fun _ => value) fun _ => value :=
    ⟨rfl, fun index within => Tensor.get_tabulate within⟩
  have step : ∀ place ∈ indexSpace operand.shape, ∀ result state,
      HoldsAt resultShape result state →
      (∀ next, Deposits.deposit (padPlace low interior resultShape)
          (fun _ place => operand.get place) state place = .ok next →
        ∃ moved, padElement operand low interior result place = .ok moved ∧
          HoldsAt resultShape moved next) ∧
      ∀ failure, Deposits.deposit (padPlace low interior resultShape)
          (fun _ place => operand.get place) state place = .error failure →
        padElement operand low interior result place = .error failure := by
    intro place listed result state holds
    have within := MixedRadix.mem_all.mp listed
    obtain ⟨next, other, deposited, padded, held⟩ := padElement_simulates within
      (lowCount.trans within.length_eq.symm) (fits place within) holds
    rw [deposited]
    refine ⟨fun again same => ?_, fun failure same => (nomatch same)⟩
    rw [Except.ok.injEq] at same
    exact ⟨other, padded, same ▸ held⟩
  obtain ⟨result, padded, shape, elements⟩ :=
    (Fallible.foldlM_simulates step start).1 final (Deposits.foldlM_eq_ok_iff.mpr run)
  refine ⟨result, by rw [padOp, read, Fallible.ok_bind, padded], shape, fun index within => ?_⟩
  rw [elements index within]
  constructor
  · intro place placeWithin same
    exact (moved index place placeWithin (padPlace_eq_some_iff.mpr ⟨within, same⟩)).symm
  · intro none
    rw [untouched index fun place placeWithin target =>
      none place placeWithin (padPlace_eq_some_iff.mp target).2]

end Run

section Accepted

/-- The sizes of a padded shape, dimension by dimension. There may be more paddings than
dimensions. -/
inductive PadDims : Sizes → List Int64 → List Int64 → List Int64 → Sizes → Prop where
  | nil {highs interiors : List Int64} : PadDims [] [] highs interiors []
  | cons {size result : Nat} {low high interior : Int64} {shape results : Sizes}
      {lows highs interiors : List Int64}
      (computed : (result : Int) = paddedSize size low high interior)
      (spread : 0 ≤ interior.toInt) (rest : PadDims shape lows highs interiors results) :
      PadDims (size :: shape) (low :: lows) (high :: highs) (interior :: interiors)
        (result :: results)

/-- A static dimension has the size with its padding, which is not negative. -/
theorem inferPaddedDimAndBound_static {i size : Nat} {dim padded : DimAndBound}
    {low high interior : Int64} (known : dim.1.toInt = size)
    (inferred : inferPaddedDimAndBound i dim low high interior = .ok padded) :
    (padded.1.toNatClampNeg : Int) = paddedSize size low high interior ∧ 0 ≤ interior.toInt ∧
      padded.2 = kDynamic ∧ padded.1.toInt = padded.1.toNatClampNeg := by
  unfold inferPaddedDimAndBound at inferred
  split at inferred
  · cases inferred
  · next notNegative =>
    simp only [isDynamicDimSize_of_natCast known, Bool.not_false, Bool.true_or, if_true]
      at inferred
    obtain ⟨sum, computed, inferred⟩ := Fallible.bind_eq_ok.mp inferred
    have value := toInt_of_paddedSizeOrBound computed
    rw [known] at value
    rw [Int64.lt_iff_toInt_lt] at notNegative
    split at inferred
    · cases inferred
    · next result =>
      cases inferred
      rw [Int64.lt_iff_toInt_lt] at result
      have zero : (0 : Int64).toInt = 0 := rfl
      have nonneg : sum.toInt = sum.toNatClampNeg := by
        rw [Int64.toNatClampNeg]
        omega
      exact ⟨nonneg.symm.trans value, by omega, rfl, nonneg⟩

/-- Static dimensions are padded as they should be. -/
theorem padDims_of_inferred {i : Nat} {dims padded : List DimAndBound} {shape : Sizes}
    {lows highs interiors : List Int64} (count : lows.length = shape.length)
    (known : dims.map (fun dim => dim.1.toInt) = shape.map Nat.cast)
    (inferred : inferPaddedDims i dims lows highs interiors = .ok padded) :
    PadDims shape lows highs interiors (padded.map fun dim => dim.1.toNatClampNeg) ∧
      ∀ dim ∈ padded, dim.2 = kDynamic ∧ dim.1.toInt = dim.1.toNatClampNeg := by
  induction dims generalizing i shape lows highs interiors padded with
  | nil =>
    cases inferred
    obtain rfl : shape = [] := List.map_eq_nil_iff.mp known.symm
    rw [List.length_nil, List.length_eq_zero_iff] at count
    rw [count]
    exact ⟨.nil, by simp⟩
  | cons dim dims ih =>
    obtain _ | ⟨size, shape⟩ := shape
    · cases known
    obtain _ | ⟨low, lows⟩ := lows
    · cases inferred
    obtain _ | ⟨high, highs⟩ := highs
    · cases inferred
    obtain _ | ⟨interior, interiors⟩ := interiors
    · cases inferred
    obtain ⟨first, head, inferred⟩ := Fallible.bind_eq_ok.mp inferred
    obtain ⟨rest, tail, rfl⟩ := bind_ok_eq_ok inferred
    rw [List.map_cons, List.map_cons, List.cons.injEq] at known
    rw [List.length_cons, List.length_cons, Nat.add_right_cancel_iff] at count
    obtain ⟨computed, spread, boundless, nonneg⟩ := inferPaddedDimAndBound_static known.1 head
    obtain ⟨others, alike⟩ := ih count known.2 tail
    exact ⟨.cons computed spread others, List.forall_mem_cons.mpr ⟨⟨boundless, nonneg⟩, alike⟩⟩

/-- There is a size in front of each bound. -/
theorem map_fst_dimsAndBounds {type : RankedTensorType} (wellFormed : type.WellFormed) :
    type.dimsAndBounds.map Prod.fst = type.shape := by
  -- There is a bound for each size, if there are bounds at all.
  have length := wellFormed.length_dimsAndBounds
  simp only [RankedTensorType.dimsAndBounds, RankedTensorType.rank, List.length_zip] at length ⊢
  exact List.map_fst_zip (by omega)

/-- An encoding of bounds that are all unknown has none. -/
theorem encodingToBounds_of_unknown {prototype encoding : Option Encoding} {bounds : List Int64}
    (unknown : ∀ bound ∈ bounds, bound = kDynamic)
    (absent : bounds = [] → (encodingToBounds prototype).isEmpty = true)
    (encoded : boundsToEncoding prototype bounds = .ok encoding) :
    (encodingToBounds encoding).isEmpty = true := by
  unfold boundsToEncoding at encoded
  by_cases empty : bounds = []
  · rw [empty] at encoded
    cases encoded
    exact absent empty
  · have all : bounds.all isDynamicDimSize = true :=
      List.all_eq_true.mpr fun bound listed => by rw [unknown bound listed]; decide
    rw [if_neg (by simpa using empty), if_pos all] at encoded
    cases encoded
    rfl

/-- The type of a padded tensor has the padded sizes, and no bounds. -/
theorem inferPadOp_static {operandRanked padded : RankedTensorType} {operandType : ShapedType}
    {lows highs interiors : List Int64} (wellFormed : operandRanked.WellFormed)
    (static : operandRanked.IsStatic operandType)
    (accepted : inferPadOp operandRanked lows highs interiors = .ok padded) :
    PadDims operandType.shape lows highs interiors padded.sizes ∧
      padded.shape.map Int64.toInt = padded.sizes.map Nat.cast ∧
      (encodingToBounds padded.encoding).isEmpty = true := by
  unfold inferPadOp at accepted
  split at accepted
  · cases accepted
  · next count =>
    obtain ⟨dims, each, inferred⟩ := Fallible.bind_eq_ok.mp accepted
    obtain ⟨encoding, encoded, rfl⟩ := bind_ok_eq_ok inferred
    have rank := length_of_known static.1
    have known : operandRanked.dimsAndBounds.map (fun dim => dim.1.toInt) =
        operandType.shape.map Nat.cast := by
      rw [← static.1, ← map_fst_dimsAndBounds wellFormed, List.map_map]
      rfl
    have counted : lows.length = operandType.shape.length := by
      rw [← rank]
      simpa [RankedTensorType.rank] using count
    obtain ⟨sizes, alike⟩ := padDims_of_inferred counted known each
    refine ⟨?_, ?_, ?_⟩
    · rw [RankedTensorType.sizes, List.map_map]
      exact sizes
    · rw [RankedTensorType.sizes, List.map_map, List.map_map, List.map_map]
      exact List.map_congr_left fun dim listed => (alike dim listed).2
    · -- All bounds of the result are unknown.
      refine encodingToBounds_of_unknown (fun bound listed => ?_) (fun none => ?_) encoded
      · split at listed
        · cases listed
        · obtain ⟨dim, member, rfl⟩ := List.mem_map.mp listed
          exact (alike dim member).1
      · split at none
        · next empty => exact empty
        · next present =>
          -- There would be no dimension, and no bounds in the encoding.
          have length := inferPaddedDims_length each
          rw [List.map_eq_nil_iff.mp none, wellFormed.length_dimsAndBounds] at length
          have positive := wellFormed.rank_pos (by simpa [RankedTensorType.carriesBounds] using
            present)
          rw [← length] at positive
          cases positive

/-- There is a low padding for each dimension, and an interior one. -/
theorem PadDims.lengths {shape results : Sizes} {lows highs interiors : List Int64}
    (dims : PadDims shape lows highs interiors results) :
    lows.length = shape.length ∧ results.length = shape.length := by
  induction dims with
  | nil => exact ⟨rfl, rfl⟩
  | cons _ _ _ ih => exact ⟨congrArg Nat.succ ih.1, congrArg Nat.succ ih.2⟩

/-- Interior paddings are not negative, when they are those of the dimensions only. -/
theorem PadDims.spread {shape results : Sizes} {lows highs interiors : List Int64}
    (dims : PadDims shape lows highs interiors results) (count : interiors.length = shape.length) :
    ∀ padding ∈ interiors.map Int64.toInt, 0 ≤ padding := by
  induction dims with
  | nil =>
    rw [List.length_nil, List.length_eq_zero_iff] at count
    simp [count]
  | cons _ spread _ ih =>
    rw [List.length_cons, List.length_cons, Nat.add_right_cancel_iff] at count
    exact List.forall_mem_cons.mpr ⟨spread, ih count⟩

/-- Without negative padding at the edges, all elements are moved to indices of the result. -/
theorem PadDims.exists_index {shape results : Sizes} {lows highs interiors : List Int64}
    (dims : PadDims shape lows highs interiors results) (lowNonneg : ∀ low ∈ lows, 0 ≤ low.toInt)
    (highNonneg : ∀ high ∈ highs, 0 ≤ high.toInt) {place : Index}
    (within : MixedRadix.Within shape place) :
    ∃ index : Index, MixedRadix.Within results index ∧
      paddedIndex (lows.map Int64.toInt) (interiors.map Int64.toInt) place =
        index.map Nat.cast := by
  induction dims generalizing place with
  | nil =>
    cases within
    exact ⟨[], .nil, rfl⟩
  | @cons size result low high interior shape results lows highs interiors computed spread _ ih =>
    cases within with
    | @cons coordinate _ place _ below within =>
      rw [List.forall_mem_cons] at lowNonneg highNonneg
      obtain ⟨index, inside, same⟩ := ih lowNonneg.2 highNonneg.2 within
      -- The offset of the last element is at most the size without the edges.
      have last := Int.mul_le_mul_of_nonneg_right (show (coordinate : Int) ≤ size - 1 by omega)
        (show 0 ≤ interior.toInt + 1 by omega)
      have offset := Int.mul_nonneg (show (0 : Int) ≤ coordinate by omega)
        (show 0 ≤ interior.toInt + 1 by omega)
      rw [paddedSize, max_eq_left (by omega)] at computed
      rw [Int.mul_add (size - 1 : Int), Int.mul_one] at last
      refine ⟨(low.toInt + coordinate * (interior.toInt + 1)).toNat :: index, .cons ?_ inside, ?_⟩
      · have lowHere := lowNonneg.1
        have highHere := highNonneg.1
        omega
      · have lowHere := lowNonneg.1
        simp only [List.map_cons, paddedIndex, padOffsets, List.zipWith_cons_cons,
          List.cons.injEq] at same ⊢
        exact ⟨by omega, same⟩

/-- Without negative padding at the edges, the slice between the edges has the shape of the
operand. -/
theorem PadDims.inferSliceShape_eq {shape results : Sizes} {lows highs interiors : List Int64}
    (dims : PadDims shape lows highs interiors results) (lowNonneg : ∀ low ∈ lows, 0 ≤ low.toInt)
    (highNonneg : ∀ high ∈ highs, 0 ≤ high.toInt) :
    inferSliceShape results (lows.map Int64.toInt)
      (List.zipWith (fun (size : Nat) (high : Int64) => size - high.toInt) results highs)
      (interiors.map fun interior => interior.toInt + 1) = some shape := by
  induction dims with
  | nil => rfl
  | @cons size result low high interior shape results lows highs interiors computed spread _ ih =>
    rw [List.forall_mem_cons] at lowNonneg highNonneg
    have rest := ih lowNonneg.2 highNonneg.2
    simp only [List.map_cons, List.zipWith_cons_cons, inferSliceShape, rest]
    have lowHere := lowNonneg.1
    have highHere := highNonneg.1
    have inner : 0 ≤ max ((size : Int) - 1) 0 * interior.toInt := Int.mul_nonneg (by omega) spread
    rw [paddedSize] at computed
    have dim : inferSliceDim result low.toInt (result - high.toInt) (interior.toInt + 1) =
        some size := by
      rw [inferSliceDim, if_neg (by omega), Option.some.injEq]
      rcases Nat.eq_zero_or_pos size with empty | positive
      · -- There is nothing between the edges.
        have steps : (result : Int) - high.toInt - low.toInt + (interior.toInt + 1) - 1 =
            interior.toInt := by
          rw [max_eq_right (by omega), Int.zero_mul] at computed
          omega
        rw [steps, Int.ediv_eq_zero_of_lt spread (by omega), empty]
        rfl
      · have steps : (result : Int) - high.toInt - low.toInt + (interior.toInt + 1) - 1 =
            size * (interior.toInt + 1) := by
          rw [max_eq_left (by omega)] at computed
          rw [Int.mul_add, Int.mul_one]
          rw [Int.sub_mul, Int.one_mul] at computed
          omega
        rw [steps, Int.mul_ediv_cancel _ (by omega)]
        rfl
    rw [dim]
    rfl

/-- A slice of a static type is accepted when it has a shape. -/
theorem inferSlicedDims_eq {i : Nat} {dims : List DimAndBound} {shape sliced : Sizes}
    {starts limits strides : List Int64}
    (known : dims.map (fun dim => dim.1.toInt) = shape.map Nat.cast)
    (inferred : inferSliceShape shape (starts.map Int64.toInt) (limits.map Int64.toInt)
      (strides.map Int64.toInt) = some sliced) :
    starts.length = shape.length ∧ ∃ sizes, inferSlicedDims i dims starts limits strides =
      .ok sizes ∧ sizes.map Int64.toInt = sliced.map Nat.cast := by
  induction dims generalizing i shape sliced starts limits strides with
  | nil =>
    obtain rfl : shape = [] := List.map_eq_nil_iff.mp known.symm
    cases starts with
    | nil =>
      cases inferred
      exact ⟨rfl, [], rfl, rfl⟩
    | cons _ _ => cases inferred
  | cons dim dims ih =>
    obtain _ | ⟨size, shape⟩ := shape
    · cases known
    obtain _ | ⟨start, starts⟩ := starts
    · cases inferred
    obtain _ | ⟨limit, limits⟩ := limits
    · cases inferred
    obtain _ | ⟨stride, strides⟩ := strides
    · cases inferred
    rw [List.map_cons, List.map_cons, List.cons.injEq] at known
    simp only [List.map_cons, inferSliceShape, Option.bind_eq_bind, Option.bind_eq_some_iff]
      at inferred
    obtain ⟨first, head, rest, tail, same⟩ := inferred
    cases same
    obtain ⟨count, sizes, others, values⟩ := @ih (i + 1) shape rest starts limits strides known.2 tail
    rw [inferSliceDim] at head
    split at head
    · cases head
    · next checks =>
      cases head
      obtain ⟨dim, bound⟩ := dim
      obtain ⟨sliced, here, value⟩ := @inferSlicedDim_eq size dim start limit stride i bound
        (isDynamicDimSize_of_natCast known.1) known.1 (by omega) (by omega) (by omega) (by omega)
      refine ⟨congrArg Nat.succ count, sliced :: sizes, ?_, ?_⟩
      · rw [inferSlicedDims, here, Fallible.ok_bind, others]
        rfl
      · have least : 0 ≤ (limit.toInt - start.toInt + stride.toInt - 1) / stride.toInt :=
          Int.ediv_nonneg (by omega) (by omega)
        rw [List.map_cons, List.map_cons, values, value, Int.toNat_of_nonneg least]

/-- The type of a slice of a static type is inferred when the slice has a shape. -/
theorem exists_inferSliceOp {ranked : RankedTensorType} {shape sliced : Sizes}
    {starts limits strides : List Int64} (wellFormed : ranked.WellFormed)
    (known : ranked.shape.map Int64.toInt = shape.map Nat.cast)
    (inferred : inferSliceShape shape (starts.map Int64.toInt) (limits.map Int64.toInt)
      (strides.map Int64.toInt) = some sliced) :
    ∃ type, inferSliceOp ranked starts limits strides = .ok type := by
  have dims : ranked.dimsAndBounds.map (fun dim => dim.1.toInt) = shape.map Nat.cast := by
    rw [← known, ← map_fst_dimsAndBounds wellFormed, List.map_map]
    rfl
  obtain ⟨count, sizes, sliced, -⟩ := @inferSlicedDims_eq 0 _ _ _ _ _ _ dims inferred
  have rank := length_of_known known
  -- The bounds that are left are all unknown.
  have encoded : ∃ encoding, boundsToEncoding ranked.encoding
      ((encodingToBounds ranked.encoding).map fun _ => kDynamic) = .ok encoding := by
    unfold boundsToEncoding
    by_cases empty : ((encodingToBounds ranked.encoding).map fun _ => kDynamic).isEmpty = true
    · exact ⟨_, if_pos empty⟩
    · have all : ((encodingToBounds ranked.encoding).map fun _ => kDynamic).all
          isDynamicDimSize = true := by
        rw [List.all_map]
        refine List.all_eq_true.mpr fun _ _ => ?_
        show isDynamicDimSize kDynamic = true
        decide
      rw [if_neg empty, if_pos all]
      exact ⟨none, rfl⟩
  obtain ⟨encoding, encoded⟩ := encoded
  refine ⟨{ shape := sizes, elementType := ranked.elementType, encoding }, ?_⟩
  unfold inferSliceOp
  rw [Fallible.check_bind_eq_ok, require_eq_ok, beq_iff_eq, RankedTensorType.rank]
  refine ⟨by omega, ?_⟩
  rw [sliced, Fallible.ok_bind]
  show (boundsToEncoding _ _ >>= _) = _
  rw [encoded]
  rfl

/-- The slice between edges that are not negative is the operand. -/
theorem PadDims.sliceOp_eq {α : Type} {operand result : Tensor α} {results : Sizes}
    {lows highs interiors : List Int64}
    (dims : PadDims operand.shape lows highs interiors results) (shape : result.shape = results)
    (moved : ∀ index, MixedRadix.Within results index → ∀ place,
      MixedRadix.Within operand.shape place → paddedIndex (lows.map Int64.toInt)
        (interiors.map Int64.toInt) place = index.map Nat.cast →
          result.get index = operand.get place)
    (lowNonneg : ∀ low ∈ lows, 0 ≤ low.toInt) (highNonneg : ∀ high ∈ highs, 0 ≤ high.toInt) :
    result.sliceOp (lows.map Int64.toInt)
      (List.zipWith (fun (size : Nat) (high : Int64) => size - high.toInt) results highs)
      (interiors.map fun interior => interior.toInt + 1) = .ok operand := by
  rw [Tensor.sliceOp, shape, dims.inferSliceShape_eq lowNonneg highNonneg]
  dsimp only
  have offsets : ∀ place : Index,
      List.zipWith (fun (coordinate : Nat) (stride : Int) => coordinate * stride) place
        (interiors.map fun interior => interior.toInt + 1) =
      padOffsets (interiors.map Int64.toInt) place := by
    intro place
    rw [padOffsets, List.zipWith_map_right, List.zipWith_map_right]
  -- Each element is read where it was moved to.
  have read : ∀ place, MixedRadix.Within operand.shape place →
      result.getAt (List.zipWith (fun (start step : Int) => start + step) (lows.map Int64.toInt)
        (List.zipWith (fun (coordinate : Nat) (stride : Int) => coordinate * stride) place
          (interiors.map fun interior => interior.toInt + 1))) = operand.get place := by
    intro place within
    obtain ⟨index, inside, same⟩ := dims.exists_index lowNonneg highNonneg within
    rw [offsets, show List.zipWith (fun (start step : Int) => start + step) (lows.map Int64.toInt)
      (padOffsets (interiors.map Int64.toInt) place) = index.map Nat.cast from same,
      Tensor.getAt_map_natCast, moved index inside place within same]
  obtain ⟨slice, built⟩ := Tensor.build_eq_ok fun place within => by
    obtain ⟨element, got, -⟩ := Tensor.get_eq within
    exact ⟨element, (read place within).trans got⟩
  obtain ⟨sliceShape, elements⟩ := Tensor.build_spec built
  rw [built]
  congr 1
  refine Tensor.ext_get sliceShape fun place within => ?_
  rw [sliceShape] at within
  rw [elements place within, read place within]

end Accepted

section Meets

variable {operandRanked padded : RankedTensorType} {operandType : ShapedType}
  {lows highs interiors : List Int64}

/-- The index of each element can be computed when padded tensors are those of the specification. -/
theorem PadMeetsSpec.fits {operandShape resultShape : Sizes}
    (meets : PadMeetsSpec operandShape lows highs interiors padded resultShape)
    (lowCount : lows.length = operandShape.length) {place : Index}
    (within : MixedRadix.Within operandShape place) :
    PadIndexFits (lows.map Int64.toInt) (interiors.map Int64.toInt) place := by
  let operand : Tensor Unit := .tabulate operandShape fun _ => ()
  obtain ⟨result, ran, -⟩ := meets Unit operand (.tabulate [] fun _ => ()) () rfl rfl
  rw [padOp, show (Tensor.tabulate [] fun _ => ()).get [] = .ok () from rfl,
    Fallible.ok_bind] at ran
  -- Each step of the pad succeeds, and computes an index.
  obtain ⟨before, after, -, stepped⟩ := Fallible.foldlM_forall
    (fun _ _ _ _ _ _ => trivial : ∀ item ∈ indexSpace operand.shape, ∀ state next, True →
      padElement operand (lows.map Int64.toInt) (interiors.map Int64.toInt) state item =
        .ok next → True) trivial ran place (MixedRadix.mem_all.mpr within)
  obtain ⟨coordinates, computed, -⟩ := Fallible.bind_eq_ok.mp stepped
  refine ((padIndex_eq_ok_iff ?_).mp computed).1
  rw [List.length_map, lowCount, within.length_eq]

/-- Padded tensors of an accepted shape are those of the specification exactly when there is an
interior padding for each dimension and nothing overflows, or there is nothing to pad. -/
theorem padMeetsSpec_iff (wellFormed : operandRanked.WellFormed)
    (static : operandRanked.IsStatic operandType)
    (accepted : inferPadOp operandRanked lows highs interiors = .ok padded) :
    PadMeetsSpec operandType.shape lows highs interiors padded padded.sizes ↔
      ∀ place, MixedRadix.Within operandType.shape place →
        PadIndexFits (lows.map Int64.toInt) (interiors.map Int64.toInt) place := by
  obtain ⟨dims, known, boundless⟩ := inferPadOp_static wellFormed static accepted
  have lowCount := dims.lengths.1
  refine ⟨fun meets place within => meets.fits lowCount within, ?_⟩
  intro fits α operand paddingValue value shape read
  rw [← shape] at dims lowCount fits ⊢
  have spread : (interiors.map Int64.toInt).length = operand.shape.length →
      ∀ padding ∈ interiors.map Int64.toInt, 0 ≤ padding := fun count =>
    dims.spread (by rwa [List.length_map] at count)
  obtain ⟨result, ran, resultShape, elements⟩ :=
    padOp_eq (by rw [List.length_map, lowCount]) spread fits read
  refine ⟨result, ran, resultShape, elements, ?_⟩
  intro lowNonneg highNonneg limits strides limitsSame stridesSame
  have sliced := dims.inferSliceShape_eq lowNonneg highNonneg
  rw [← limitsSame, ← stridesSame] at sliced
  constructor
  · -- The padded type is static, so that the slice only has to have a shape.
    exact exists_inferSliceOp (.inl boundless) known sliced
  · rw [limitsSame, stridesSame]
    exact dims.sliceOp_eq resultShape (fun index within => (elements index within).1) lowNonneg
      highNonneg

end Meets

/-- A vector of two elements, of which negative padding swallows the first one. -/
theorem padMeetsSpec_iff_vector :
    PadMeetsSpec [2] [-1] [1] [1] ⟨[3], .integer .signless 32, none⟩ [3] ↔
      ∀ place, MixedRadix.Within [2] place → PadIndexFits [-1] [1] place :=
  @padMeetsSpec_iff ⟨[2], .integer .signless 32, none⟩ ⟨[3], .integer .signless 32, none⟩
    ⟨[2], .integer .signless 32⟩ [-1] [1] [1] (.inl rfl) ⟨rfl, rfl⟩ rfl

/-- Interior paddings for dimensions that there are not, and one that is the largest number, are
accepted although padded tensors cannot be computed with them. -/
theorem pad_not_met :
    (inferPadOp ⟨[1], .integer .signless 32, none⟩ [0] [0] [0, 0] =
        .ok ⟨[1], .integer .signless 32, none⟩ ∧
      ¬ PadMeetsSpec [1] [0] [0] [0, 0] ⟨[1], .integer .signless 32, none⟩ [1]) ∧
    (inferPadOp ⟨[1], .integer .signless 32, none⟩ [0] [0] [9223372036854775807] =
        .ok ⟨[1], .integer .signless 32, none⟩ ∧
      ¬ PadMeetsSpec [1] [0] [0] [9223372036854775807] ⟨[1], .integer .signless 32, none⟩ [1]) := by
  have origin : MixedRadix.Within [1] [0] := .cons (by decide) .nil
  refine ⟨⟨rfl, fun meets => ?_⟩, rfl, fun meets => ?_⟩
  · exact absurd (meets.fits rfl origin).count (by decide)
  · -- One more than the padding is not a number of 64 bits.
    exact absurd ((meets.fits rfl origin).steps 9223372036854775807 (by decide)) (by decide)

end Stablehlo
