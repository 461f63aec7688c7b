import Stablehlo.Reference.Concatenate
import Stablehlo.Reference.StridedSlice

/-! The simplification of a slice of a concatenation. -/

namespace Stablehlo

section Search

/-- What is known of the inputs that a slice needs. -/
structure SubsetSearch where
  runningSize : Int
  frontOffset : Int
  subsetStart : Nat
  subsetEnd : Nat

/-- Look at an input: whether the slice needs it, and whether it is the first or the last one. -/
def SubsetSearch.visit (numOperands : Nat) (sliceStart sliceLimit : Int) (state : SubsetSearch)
    (it : Nat) (dimSize : Nat) : SubsetSearch :=
  let first := state.runningSize + dimSize > sliceStart && state.subsetStart == numOperands
  { subsetStart := if first then it else state.subsetStart
    frontOffset := if first then state.runningSize else state.frontOffset
    subsetEnd := if state.runningSize < sliceLimit then it + 1 else state.subsetEnd
    runningSize := state.runningSize + dimSize }

/-- Look at the inputs from a position on. -/
def searchInputs (numOperands : Nat) (sliceStart sliceLimit : Int) :
    Nat → List Nat → SubsetSearch → SubsetSearch
  | _, [], state => state
  | it, dimSize :: sizes, state =>
    searchInputs numOperands sliceStart sliceLimit (it + 1) sizes
      (state.visit numOperands sliceStart sliceLimit it dimSize)

/-- Search for the inputs that a slice needs. -/
def searchSubset (sizes : List Nat) (sliceStart sliceLimit : Int) : SubsetSearch :=
  searchInputs sizes.length sliceStart sliceLimit 0 sizes
    { runningSize := 0, frontOffset := (sizes.sum : Nat), subsetStart := sizes.length
      subsetEnd := sizes.length }

variable {sizes : List Nat} {sliceStart sliceLimit : Int}

/-- Where an input begins. -/
def offsetOf (sizes : List Nat) (k : Nat) : Nat := (sizes.take k).sum

/-- Inputs begin one behind the other. -/
theorem offsetOf_mono {k l : Nat} (before : k ≤ l) : offsetOf sizes k ≤ offsetOf sizes l := by
  rw [offsetOf, offsetOf, ← List.take_append_drop k (sizes.take l), List.sum_append,
    List.take_take, Nat.min_eq_left before]
  omega

/-- An input begins where the one before it ends. -/
theorem offsetOf_succ {k dimSize : Nat} (found : sizes[k]? = some dimSize) :
    offsetOf sizes (k + 1) = offsetOf sizes k + dimSize := by
  rw [offsetOf, offsetOf, List.take_add_one, found]
  simp

/-- What the search knows after some inputs. -/
structure SubsetSearch.Knows (sizes : List Nat) (sliceStart sliceLimit : Int) (visited : Nat)
    (state : SubsetSearch) : Prop where
  runningSize : state.runningSize = offsetOf sizes visited
  /-- Either no input reaches beyond the start, or the first one that does is known. -/
  start : (state.subsetStart = sizes.length ∧ ∀ k < visited, offsetOf sizes (k + 1) ≤ sliceStart) ∨
    (state.subsetStart < visited ∧ state.frontOffset = offsetOf sizes state.subsetStart ∧
      sliceStart < offsetOf sizes (state.subsetStart + 1) ∧
      ∀ k < state.subsetStart, offsetOf sizes (k + 1) ≤ sliceStart)
  /-- Either no input begins before the limit, or the last one that does is known. -/
  limit : (state.subsetEnd = sizes.length ∧ ∀ k < visited, sliceLimit ≤ offsetOf sizes k) ∨
    (0 < state.subsetEnd ∧ state.subsetEnd ≤ visited ∧
      offsetOf sizes (state.subsetEnd - 1) < sliceLimit ∧
      ∀ k < visited, state.subsetEnd ≤ k → sliceLimit ≤ offsetOf sizes k)

/-- Looking at the next input keeps what is known up to date. -/
theorem SubsetSearch.Knows.visit {state : SubsetSearch} {visited dimSize : Nat}
    (knows : state.Knows sizes sliceStart sliceLimit visited)
    (found : sizes[visited]? = some dimSize) :
    (state.visit sizes.length sliceStart sliceLimit visited dimSize).Knows sizes sliceStart
      sliceLimit (visited + 1) := by
  have below := (List.getElem?_eq_some_iff.mp found).1
  have next := offsetOf_succ found
  refine ⟨?_, ?_, ?_⟩
  · show state.runningSize + dimSize = _
    rw [knows.runningSize, next]
    omega
  · -- An input that reaches beyond the start is the first one when none was known.
    by_cases first : state.runningSize + dimSize > sliceStart ∧ state.subsetStart = sizes.length
    · have reached : (state.runningSize + dimSize > sliceStart &&
          state.subsetStart == sizes.length) = true := by simpa using first
      refine .inr ?_
      simp only [SubsetSearch.visit, reached, if_true]
      rcases knows.start with ⟨-, none⟩ | ⟨known, -⟩
      · refine ⟨Nat.lt_succ_self _, knows.runningSize, ?_, none⟩
        rw [next, Nat.cast_add, ← knows.runningSize]
        exact first.1
      · omega
    · have passed : (state.runningSize + dimSize > sliceStart &&
          state.subsetStart == sizes.length) = false := by
        rw [Bool.eq_false_iff]
        simpa using first
      simp only [SubsetSearch.visit, passed, Bool.false_eq_true, if_false]
      rcases knows.start with ⟨unknown, none⟩ | ⟨known, frontOffset, beyond, before⟩
      · refine .inl ⟨unknown, fun k small => ?_⟩
        rcases Nat.lt_succ_iff_lt_or_eq.mp small with earlier | rfl
        · exact none k earlier
        · rw [next, Nat.cast_add, ← knows.runningSize]
          omega
      · exact .inr ⟨by omega, frontOffset, beyond, before⟩
  · by_cases needed : state.runningSize < sliceLimit
    · refine .inr ?_
      simp only [SubsetSearch.visit, if_pos needed]
      refine ⟨by omega, by omega, ?_, fun k small beyond => by omega⟩
      rw [Nat.add_sub_cancel, ← knows.runningSize]
      exact needed
    · simp only [SubsetSearch.visit, if_neg needed]
      have end_ : sliceLimit ≤ offsetOf sizes visited := by
        rw [← knows.runningSize]
        omega
      rcases knows.limit with ⟨unknown, none⟩ | ⟨positive, most, before, behind⟩
      · refine .inl ⟨unknown, fun k small => ?_⟩
        rcases Nat.lt_succ_iff_lt_or_eq.mp small with earlier | rfl
        · exact none k earlier
        · exact end_
      · refine .inr ⟨positive, by omega, before, fun k small beyond => ?_⟩
        rcases Nat.lt_succ_iff_lt_or_eq.mp small with earlier | rfl
        · exact behind k earlier beyond
        · exact end_

/-- What is known after all inputs. -/
theorem knows_searchSubset (sizes : List Nat) (sliceStart sliceLimit : Int) :
    (searchSubset sizes sliceStart sliceLimit).Knows sizes sliceStart sliceLimit sizes.length := by
  -- The induction is on the inputs that are left.
  have loop : ∀ (rest front : List Nat) (state : SubsetSearch), sizes = front ++ rest →
      state.Knows sizes sliceStart sliceLimit front.length →
        (searchInputs sizes.length sliceStart sliceLimit front.length rest state).Knows sizes
          sliceStart sliceLimit sizes.length := by
    intro rest
    induction rest with
    | nil =>
      intro front state split knows
      rw [List.append_nil] at split
      rw [split]
      rwa [split] at knows
    | cons dimSize rest ih =>
      intro front state split knows
      have found : sizes[front.length]? = some dimSize := by rw [split]; simp
      have again := ih (front ++ [dimSize]) _ (by rw [split]; simp)
        (by rw [List.length_append]; exact knows.visit found)
      rwa [List.length_append] at again
  exact loop sizes [] _ rfl ⟨rfl, .inl ⟨rfl, nofun⟩, .inl ⟨rfl, nofun⟩⟩

/-- The range of inputs ends before it begins exactly when the slice is empty and an input without
elements is where it is. -/
theorem subsetEnd_lt_iff (ordered : sliceStart ≤ sliceLimit) (nonneg : 0 ≤ sliceStart) :
    (searchSubset sizes sliceStart sliceLimit).subsetEnd <
        (searchSubset sizes sliceStart sliceLimit).subsetStart ↔
      sliceStart = sliceLimit ∧ 0 < sliceStart ∧
        ∃ k, sizes[k]? = some 0 ∧ (offsetOf sizes k : Int) = sliceStart := by
  obtain ⟨-, start, limit⟩ := knows_searchSubset sizes sliceStart sliceLimit
  generalize searchSubset sizes sliceStart sliceLimit = subset at *
  have most : subset.subsetStart ≤ sizes.length := by omega
  have passed : ∀ k < subset.subsetStart, (offsetOf sizes (k + 1) : Int) ≤ sliceStart := by
    rcases start with ⟨all, none⟩ | ⟨-, -, -, before⟩
    · exact fun k below => none k (by omega)
    · exact before
  constructor
  · intro crossing
    obtain ⟨positive, -, before, behind⟩ := limit.resolve_left (by omega)
    -- The input behind the range begins and ends where the slice is.
    have begins := behind subset.subsetEnd (by omega) (Nat.le_refl _)
    have ends := passed subset.subsetEnd crossing
    have found : sizes[subset.subsetEnd]? = some sizes[subset.subsetEnd] :=
      List.getElem?_eq_getElem (by omega)
    have next := offsetOf_succ found
    refine ⟨by omega, by omega, subset.subsetEnd, ?_, by omega⟩
    rw [found, Option.some.injEq]
    omega
  · rintro ⟨empty, positive, k, found, place⟩
    have next := offsetOf_succ found
    have below := (List.getElem?_eq_some_iff.mp found).1
    -- The range ends at the empty input or before it.
    have ends : subset.subsetEnd ≤ k := by
      rcases limit with ⟨-, none⟩ | ⟨some, -, before, -⟩
      · have first := none 0 (by omega)
        rw [offsetOf, List.take_zero, List.sum_nil] at first
        omega
      · by_contra later
        have mono := @offsetOf_mono sizes k (subset.subsetEnd - 1) (by omega)
        omega
    -- It begins behind the empty input.
    have begins : k < subset.subsetStart := by
      rcases start with ⟨all, -⟩ | ⟨-, -, beyond, -⟩
      · omega
      · by_contra earlier
        have mono := @offsetOf_mono sizes (subset.subsetStart + 1) (k + 1) (by omega)
        omega
    omega

/-- The inputs of a range reach from before the start of the slice to behind its limit. -/
theorem subset_covers (total : sliceLimit ≤ (sizes.sum : Nat)) (nonneg : 0 ≤ sliceStart)
    (some : (searchSubset sizes sliceStart sliceLimit).subsetStart <
      (searchSubset sizes sliceStart sliceLimit).subsetEnd) :
    (searchSubset sizes sliceStart sliceLimit).frontOffset =
        offsetOf sizes (searchSubset sizes sliceStart sliceLimit).subsetStart ∧
      (offsetOf sizes (searchSubset sizes sliceStart sliceLimit).subsetStart : Int) ≤ sliceStart ∧
      sliceLimit ≤ offsetOf sizes (searchSubset sizes sliceStart sliceLimit).subsetEnd ∧
      (searchSubset sizes sliceStart sliceLimit).subsetEnd ≤ sizes.length := by
  obtain ⟨-, start, limit⟩ := knows_searchSubset sizes sliceStart sliceLimit
  generalize searchSubset sizes sliceStart sliceLimit = subset at *
  have all : (offsetOf sizes sizes.length : Int) = (sizes.sum : Nat) := by
    rw [offsetOf, List.take_length]
  have most : subset.subsetEnd ≤ sizes.length := by omega
  obtain ⟨-, frontOffset, -, before⟩ := start.resolve_left (by omega)
  refine ⟨frontOffset, ?_, ?_, most⟩
  · by_cases first : subset.subsetStart = 0
    · rw [first, offsetOf, List.take_zero, List.sum_nil]
      omega
    · have last := before (subset.subsetStart - 1) (by omega)
      rwa [Nat.sub_add_cancel (by omega)] at last
  · by_cases whole : subset.subsetEnd = sizes.length
    · rw [whole, all]
      exact total
    · obtain ⟨-, -, -, behind⟩ := limit.resolve_left (fun unknown => whole unknown.1)
      exact behind subset.subsetEnd (by omega) (Nat.le_refl _)

end Search


section Simplification

variable {α : Type}

/-- A slice of a concatenation of some of the inputs. -/
structure SliceOfSubset (α : Type) where
  inputs : List (Tensor α)
  startIndices : List Int
  limitIndices : List Int

/-- Simplify a slice of a concatenation to one of the inputs that are needed. -/
def sliceOpConcatSimplify (inputs : List (Tensor α)) (dimension : Nat) (hasOneUse : Bool)
    (startIndices limitIndices : List Int) : Except Failure (Option (SliceOfSubset α)) :=
  let sizes := inputs.map fun input => input.shape.getD dimension 0
  let subset := searchSubset sizes (startIndices.getD dimension 0) (limitIndices.getD dimension 0)
  let subsetSize := (subset.subsetEnd : Int) - subset.subsetStart
  if subsetSize = inputs.length then
    -- All inputs are needed.
    .ok none
  else if subsetSize = 0 then
    -- The slice is empty.
    .ok none
  else if 1 < subsetSize && !hasOneUse then
    .ok none
  else if subsetSize < 0 then
    -- The range of inputs ends before it begins.
    .error .undefinedBehavior
  else
    .ok (some {
      inputs := (inputs.drop subset.subsetStart).take subsetSize.toNat
      startIndices := startIndices.modify dimension (· - subset.frontOffset)
      limitIndices := limitIndices.modify dimension (· - subset.frontOffset) })

/-- The slice is left as it is, or becomes a slice with the same value of the concatenation of some
neighboring inputs. -/
def SliceOpConcatSimplifyMeetsSpec (inputs : List (Tensor α)) (dimension : Nat) (hasOneUse : Bool)
    (shape : Sizes) (startIndices limitIndices strides : List Int) : Prop :=
  ∃ outcome, sliceOpConcatSimplify inputs dimension hasOneUse startIndices limitIndices =
      .ok outcome ∧
    ∀ rewritten ∈ outcome, rewritten.inputs ≠ [] ∧
      (∃ front back, inputs = front ++ rewritten.inputs ++ back) ∧
      ∀ content, ∃ concat newConcat value,
        Tensor.concatenateOp content inputs dimension shape = .ok concat ∧
        concat.sliceOp startIndices limitIndices strides = .ok value ∧
        Tensor.concatenateOp content rewritten.inputs dimension
            (shape.set dimension (Tensor.extentAlong dimension rewritten.inputs)) =
          .ok newConcat ∧
        newConcat.sliceOp rewritten.startIndices rewritten.limitIndices strides = .ok value

/-- A slice moves with its limits. -/
theorem inferSliceShape_modify {shape result : Sizes} {startIndices limitIndices strides : List Int}
    (inferred : inferSliceShape shape startIndices limitIndices strides = some result)
    {dimension size : Nat} {offset : Int}
    (low : ∀ start, startIndices[dimension]? = some start → offset ≤ start)
    (high : ∀ limit, limitIndices[dimension]? = some limit → limit - offset ≤ size) :
    inferSliceShape (shape.set dimension size) (startIndices.modify dimension (· - offset))
      (limitIndices.modify dimension (· - offset)) strides = some result := by
  induction shape generalizing startIndices limitIndices strides result dimension with
  | nil =>
    cases startIndices with
    | nil =>
      cases inferred
      cases dimension <;> rfl
    | cons start startIndices => cases inferred
  | cons first shape ih =>
    match startIndices, limitIndices, strides, inferred with
    | start :: startIndices, limit :: limitIndices, stride :: strides, inferred =>
      obtain ⟨sliced, rest, rfl, slice, others⟩ := inferSliceShape_cons.mp inferred
      cases dimension with
      | zero =>
        have startLow := low start rfl
        have limitHigh := high limit rfl
        refine inferSliceShape_cons.mpr ⟨sliced, rest, rfl, ?_, others⟩
        show inferSliceDim size (start - offset) (limit - offset) stride = some sliced
        -- The distance of the limits is the same.
        obtain ⟨first, ordered, last, positive, -⟩ := inferSliceDim_spec slice
        rw [inferSliceDim, if_neg (by omega)] at slice ⊢
        rw [← slice]
        congr 3
        omega
      | succ dimension =>
        exact inferSliceShape_cons.mpr ⟨sliced, rest, rfl, slice, ih others low high⟩

section Accepted

variable {inputs : List (Tensor α)} {dimension total : Nat} {hasOneUse : Bool}
  {shape result : Sizes} {startIndices limitIndices strides : List Int}

/-- The offsets of the inputs are the extents of those before them. -/
theorem offsetOf_eq (k : Nat) :
    offsetOf (inputs.map fun input => input.shape.getD dimension 0) k =
      Tensor.extentAlong dimension (inputs.take k) := by
  rw [offsetOf, Tensor.extentAlong, List.map_take]

/-- Every position along the dimension is within one of the inputs. -/
theorem exists_input (inputs : List (Tensor α)) {coordinate : Nat}
    (below : coordinate < Tensor.extentAlong dimension inputs) :
    ∃ front input back, inputs = front ++ input :: back ∧
      Tensor.extentAlong dimension front ≤ coordinate ∧
      coordinate < Tensor.extentAlong dimension front + input.shape.getD dimension 0 := by
  induction inputs generalizing coordinate with
  | nil => exact absurd below (Nat.not_lt_zero _)
  | cons input inputs ih =>
    rw [Tensor.extentAlong_cons] at below
    by_cases here : coordinate < input.shape.getD dimension 0
    · exact ⟨[], input, inputs, rfl, Nat.zero_le _, by simpa [Tensor.extentAlong] using here⟩
    · -- The position is in one of the inputs behind the first.
      obtain ⟨front, other, back, rfl, low, high⟩ :=
        @ih (coordinate - input.shape.getD dimension 0) (by omega)
      refine ⟨input :: front, other, back, rfl, ?_, ?_⟩ <;>
      · rw [Tensor.extentAlong_cons]
        omega

/-- Moving a start moves the positions. -/
theorem zipWith_modify_sub (starts steps : List Int) (dimension : Nat) (offset : Int) :
    List.zipWith (fun (start step : Int) => start + step) (starts.modify dimension (· - offset))
        steps =
      (List.zipWith (fun (start step : Int) => start + step) starts steps).modify dimension
        (· - offset) := by
  induction starts generalizing steps dimension with
  | nil => cases dimension <;> rfl
  | cons start starts ih =>
    cases steps with
    | nil => cases dimension <;> rfl
    | cons step steps =>
      cases dimension with
      | zero =>
        show (start - offset + step) :: _ = (start + step - offset) :: _
        congr 1
        omega
      | succ dimension => exact congrArg (List.cons (start + step)) (ih steps dimension)

/-- A slice needs only the inputs between two offsets that it is between. -/
theorem slice_of_subset (content : α) {before middle after : List (Tensor α)}
    (split : inputs = before ++ middle ++ after)
    (axis : shape[dimension]? = some total) (alike : Tensor.Alike shape dimension inputs)
    (filled : Tensor.extentAlong dimension inputs = total)
    (inferred : inferSliceShape shape startIndices limitIndices strides = some result)
    (low : ∀ start, startIndices[dimension]? = some start →
      (Tensor.extentAlong dimension before : Int) ≤ start)
    (high : ∀ limit, limitIndices[dimension]? = some limit →
      limit ≤ (Tensor.extentAlong dimension before + Tensor.extentAlong dimension middle : Nat)) :
    ∃ concat newConcat value,
      Tensor.concatenateOp content inputs dimension shape = .ok concat ∧
      concat.sliceOp startIndices limitIndices strides = .ok value ∧
      Tensor.concatenateOp content middle dimension
          (shape.set dimension (Tensor.extentAlong dimension middle)) = .ok newConcat ∧
      newConcat.sliceOp (startIndices.modify dimension (· - Tensor.extentAlong dimension before))
        (limitIndices.modify dimension (· - Tensor.extentAlong dimension before)) strides =
          .ok value := by
  have below := (List.getElem?_eq_some_iff.mp axis).1
  obtain ⟨concat, run, concatShape, elements, -⟩ :=
    Tensor.concatenateOp_spec content axis alike (Nat.le_of_eq filled)
  have newAlike : Tensor.Alike (shape.set dimension (Tensor.extentAlong dimension middle))
      dimension middle := by
    intro input listed
    obtain ⟨size, same⟩ := alike input (by rw [split]; simp [listed])
    exact ⟨size, by rw [same, List.set_set]⟩
  obtain ⟨newConcat, newRun, newShape, newElements, -⟩ :=
    Tensor.concatenateOp_spec content (List.getElem?_set_self below) newAlike (Nat.le_refl _)
  obtain ⟨value, sliced, valueShape, valueElements⟩ :=
    Tensor.sliceOp_spec (concatShape.symm ▸ inferred)
  have newInferred := @inferSliceShape_modify _ _ _ _ _ inferred dimension
    (Tensor.extentAlong dimension middle) (Tensor.extentAlong dimension before) low
    fun limit found => by
      have most := high limit found
      omega
  obtain ⟨newValue, newSliced, newValueShape, newValueElements⟩ :=
    Tensor.sliceOp_spec (newShape.symm ▸ newInferred)
  refine ⟨concat, newConcat, value, run, sliced, newRun, ?_⟩
  rw [newSliced]
  congr 1
  refine Tensor.ext_get (newValueShape.trans valueShape.symm) fun index within => ?_
  rw [newValueShape] at within
  -- The element comes from one of the inputs, which both concatenations have.
  obtain ⟨place, same, inside, between⟩ := exists_sliceIndex inferred within
  obtain ⟨starts, limits, -, -⟩ := inferSliceShape_lengths inferred
  have startFound : startIndices[dimension]? = some startIndices[dimension] :=
    List.getElem?_eq_getElem (by omega)
  have limitFound : limitIndices[dimension]? = some limitIndices[dimension] :=
    List.getElem?_eq_getElem (by omega)
  obtain ⟨coordinate, at_, least, most⟩ := between dimension _ _ startFound limitFound
  have first := low _ startFound
  have last := high _ limitFound
  generalize offsetEq : Tensor.extentAlong dimension before = offset at *
  obtain ⟨front, input, back, rfl, lower, upper⟩ :=
    @exists_input _ dimension middle (coordinate - offset) (by omega)
  -- The position moves by the size of the inputs that are left out.
  have newSame : (place.set dimension (coordinate - offset)).map Nat.cast =
      List.zipWith (fun (start step : Int) => start + step)
        (startIndices.modify dimension (· - (offset : Int)))
        (List.zipWith (fun (coordinate : Nat) (stride : Int) => coordinate * stride) index
          strides) := by
    rw [zipWith_modify_sub, ← same]
    refine List.ext_getElem? fun i => ?_
    rw [List.getElem?_map, List.getElem?_set, List.getElem?_modify, List.getElem?_map]
    by_cases here : dimension = i
    · subst here
      have inPlace := (List.getElem?_eq_some_iff.mp at_).1
      rw [if_pos rfl, if_pos inPlace, at_]
      simp
      omega
    · simp [here]
  rw [newValueElements index within _ newSame, valueElements index within place same]
  have newInside : MixedRadix.Within
      (shape.set dimension (Tensor.extentAlong dimension (front ++ input :: back)))
      (place.set dimension (coordinate - offset)) :=
    MixedRadix.within_set_set inside dimension (by omega)
  have newAt : (place.set dimension (coordinate - offset))[dimension]? =
      some (coordinate - offset) :=
    List.getElem?_set_self (List.getElem?_eq_some_iff.mp at_).1
  rw [newElements front input back rfl _ _ newInside newAt lower upper,
    elements (before ++ front) input (back ++ after) (by rw [split]; simp) place coordinate inside
      at_ (by rw [Tensor.extentAlong_append]; omega) (by rw [Tensor.extentAlong_append]; omega),
    List.set_set, Tensor.extentAlong_append, offsetEq, Nat.sub_sub]

/-- The limits of a slice are in bounds. -/
theorem inferSliceShape_limits {shape result : Sizes} {startIndices limitIndices strides : List Int}
    (inferred : inferSliceShape shape startIndices limitIndices strides = some result) {i size : Nat}
    (found : shape[i]? = some size) :
    0 ≤ startIndices.getD i 0 ∧ startIndices.getD i 0 ≤ limitIndices.getD i 0 ∧
      limitIndices.getD i 0 ≤ size := by
  induction shape generalizing startIndices limitIndices strides result i with
  | nil => cases found
  | cons first shape ih =>
    match startIndices, limitIndices, strides, inferred with
    | start :: startIndices, limit :: limitIndices, stride :: strides, inferred =>
      obtain ⟨sliced, rest, rfl, slice, others⟩ := inferSliceShape_cons.mp inferred
      cases i with
      | zero =>
        cases found
        obtain ⟨nonneg, ordered, most, -⟩ := inferSliceDim_spec slice
        exact ⟨nonneg, ordered, most⟩
      | succ i => exact ih others found

/-- A slice of a concatenation is left as it is or simplified to one with the same value, exactly
when it is not an empty one at the place of an input without elements, behind other elements. -/
theorem sliceOpConcatSimplify_iff (axis : shape[dimension]? = some total)
    (alike : Tensor.Alike shape dimension inputs)
    (filled : Tensor.extentAlong dimension inputs = total)
    (inferred : inferSliceShape shape startIndices limitIndices strides = some result) :
    SliceOpConcatSimplifyMeetsSpec inputs dimension hasOneUse shape startIndices limitIndices
        strides ↔
      ¬ (startIndices.getD dimension 0 = limitIndices.getD dimension 0 ∧
        0 < startIndices.getD dimension 0 ∧ ∃ front input back, inputs = front ++ input :: back ∧
          input.shape.getD dimension 0 = 0 ∧
          (Tensor.extentAlong dimension front : Int) = startIndices.getD dimension 0) := by
  obtain ⟨nonneg, ordered, most⟩ := inferSliceShape_limits inferred axis
  have crossing := @subsetEnd_lt_iff (inputs.map fun input => input.shape.getD dimension 0) _ _
    ordered nonneg
  -- The empty inputs are those of the concatenation.
  have same : (∃ k, (inputs.map fun input => input.shape.getD dimension 0)[k]? = some 0 ∧
        (offsetOf (inputs.map fun input => input.shape.getD dimension 0) k : Int) =
          startIndices.getD dimension 0) ↔
      ∃ front input back, inputs = front ++ input :: back ∧ input.shape.getD dimension 0 = 0 ∧
        (Tensor.extentAlong dimension front : Int) = startIndices.getD dimension 0 := by
    constructor
    · rintro ⟨k, found, place⟩
      rw [List.getElem?_map, Option.map_eq_some_iff] at found
      obtain ⟨input, at_, empty⟩ := found
      have below := (List.getElem?_eq_some_iff.mp at_).1
      refine ⟨inputs.take k, input, inputs.drop (k + 1), ?_, empty, by rwa [← offsetOf_eq]⟩
      rw [← (List.getElem?_eq_some_iff.mp at_).2, List.getElem_cons_drop, List.take_append_drop]
    · rintro ⟨front, input, back, rfl, empty, place⟩
      refine ⟨front.length, ?_, by rwa [offsetOf_eq, List.take_left]⟩
      rw [List.getElem?_map, List.getElem?_append_right (Nat.le_refl _), Nat.sub_self]
      exact congrArg some empty
  rw [← same, ← crossing, Nat.not_lt]
  have total_eq : ((inputs.map fun input => input.shape.getD dimension 0).sum : Nat) = total :=
    filled
  have covers := @subset_covers (inputs.map fun input => input.shape.getD dimension 0)
    (startIndices.getD dimension 0) (limitIndices.getD dimension 0) (by rw [total_eq]; exact most)
    nonneg
  unfold SliceOpConcatSimplifyMeetsSpec sliceOpConcatSimplify
  dsimp only
  generalize searchSubset (inputs.map fun input => input.shape.getD dimension 0)
    (startIndices.getD dimension 0) (limitIndices.getD dimension 0) = subset at *
  constructor
  · rintro ⟨outcome, run, -⟩
    by_contra crossed
    rw [if_neg (by omega), if_neg (by omega), if_neg, if_pos (by omega)] at run
    · cases run
    · simp
      omega
  · intro straight
    split
    · exact ⟨none, rfl, nofun⟩
    · split
      · exact ⟨none, rfl, nofun⟩
      · split
        · exact ⟨none, rfl, nofun⟩
        · rw [if_neg (by omega)]
          refine ⟨_, rfl, ?_⟩
          rintro rewritten ⟨⟩
          obtain ⟨frontOffset, begins, ends, last⟩ := covers (by omega)
          rw [List.length_map] at last
          rw [offsetOf_eq] at begins ends frontOffset
          have count : ((subset.subsetEnd : Int) - subset.subsetStart).toNat =
              subset.subsetEnd - subset.subsetStart := by omega
          -- The inputs are those before the range, those in it and those behind it.
          have split : inputs = inputs.take subset.subsetStart ++
              (inputs.drop subset.subsetStart).take (subset.subsetEnd - subset.subsetStart) ++
                inputs.drop subset.subsetEnd := by
            have rest : inputs.drop subset.subsetEnd = (inputs.drop subset.subsetStart).drop
                (subset.subsetEnd - subset.subsetStart) := by
              rw [List.drop_drop, Nat.add_sub_cancel' (by omega)]
            rw [rest, List.append_assoc, List.take_append_drop, List.take_append_drop]
          have reach : Tensor.extentAlong dimension (inputs.take subset.subsetEnd) =
              Tensor.extentAlong dimension (inputs.take subset.subsetStart) +
                Tensor.extentAlong dimension ((inputs.drop subset.subsetStart).take
                  (subset.subsetEnd - subset.subsetStart)) := by
            have taken : inputs.take subset.subsetEnd = inputs.take subset.subsetStart ++
                (inputs.drop subset.subsetStart).take
                  (subset.subsetEnd - subset.subsetStart) := by
              rw [← List.take_add, Nat.add_sub_cancel' (by omega)]
            rw [taken, Tensor.extentAlong_append]
          rw [count]
          dsimp only
          rw [frontOffset]
          refine ⟨?_, ⟨_, _, split⟩, fun content =>
            slice_of_subset content split axis alike filled inferred (fun start found => ?_)
              fun limit found => ?_⟩
          · rw [← List.length_pos_iff_ne_nil, List.length_take, List.length_drop]
            omega
          · rwa [List.getD, found, Option.getD_some] at begins
          · rw [List.getD, found, Option.getD_some, reach] at ends
            exact ends

end Accepted

/-- A slice of the first of two inputs. -/
theorem sliceOpConcatSimplify_first :
    SliceOpConcatSimplifyMeetsSpec
        [Tensor.tabulate [2] fun _ => (), Tensor.tabulate [3] fun _ => ()] 0 true [5] [0] [1] [1] ↔
      ¬ ((0 : Int) = 1 ∧ (0 : Int) < 0 ∧ ∃ front input back,
        [Tensor.tabulate [2] fun _ => (), Tensor.tabulate [3] fun _ => ()] =
            front ++ input :: back ∧
          input.shape.getD 0 0 = 0 ∧ (Tensor.extentAlong 0 front : Int) = 0) :=
  @sliceOpConcatSimplify_iff Unit [Tensor.tabulate [2] fun _ => (), Tensor.tabulate [3] fun _ => ()]
    0 5 true [5] [1] [0] [1] [1] rfl (by
      intro input listed
      simp only [List.mem_cons, List.not_mem_nil, or_false] at listed
      rcases listed with rfl | rfl
      · exact ⟨2, rfl⟩
      · exact ⟨3, rfl⟩) rfl rfl

/-- An empty slice where an input without elements is. -/
theorem sliceOpConcatSimplify_crossing :
    inferSliceShape [5] [2] [2] [1] = some [0] ∧
      ¬ SliceOpConcatSimplifyMeetsSpec [Tensor.tabulate [2] fun _ => (),
        Tensor.tabulate [0] fun _ => (), Tensor.tabulate [3] fun _ => ()] 0 true [5] [2] [2] [1] := by
  refine ⟨rfl, ?_⟩
  rintro ⟨outcome, run, -⟩
  cases run

end Simplification

end Stablehlo
