import Stablehlo.Reference.IndexSpace
import Stablehlo.Reference.Reshape

/-! Loops over index spaces: they visit every index once, in lexicographic order, and end. -/

namespace Stablehlo

namespace IndexSpaceIterator

section Iterator

/-- The iterator at an index, which is past the end unless the index is in bounds. -/
def construct (shape : Sizes) (index : Option Index) : IndexSpaceIterator :=
  match index with
  | some index =>
    if Sizes.inBounds index shape then { shape, index := some index } else { shape, index := none }
  | none => { shape, index := none }

/-- Let the last of some coordinates go up. When it starts over, so does the one before it, and
behind the first one is the end. -/
def carry (shape : Sizes) : Nat → Index → Except Failure (Option Index)
  | 0, index => .ok (some index)
  | i + 1, index =>
    match index[i]?, shape[i]? with
    | some coordinate, some size =>
      if coordinate + 1 ≥ size then
        if i = 0 then .ok none else carry shape i (index.set i 0)
      else
        .ok (some (index.set i (coordinate + 1)))
    | _, _ => .error .undefinedBehavior

/-- Increment to the next index. -/
def preIncrement (iterator : IndexSpaceIterator) : Except Failure IndexSpaceIterator :=
  match iterator.index with
  | none => .error (.fatalError "Incrementing a past-the-end iterator.")
  | some index =>
    if iterator.shape.isEmpty then
      -- There is no coordinate that the loop would reset the iterator at.
      .ok { iterator with index := none }
    else do
      let next ← carry iterator.shape iterator.shape.length index
      .ok { iterator with index := next }

end Iterator

end IndexSpaceIterator

/-- The iterator past the end. -/
def Sizes.indexEnd (shape : Sizes) : IndexSpaceIterator := .construct shape none

section Loops

/-- The indices that a loop up to the end visits, and the iterator it ends with, in at most as many
turns. -/
def traverse : Nat → IndexSpaceIterator → Except Failure (List Index × IndexSpaceIterator)
  | 0, iterator =>
    if iterator = iterator.shape.indexEnd then .ok ([], iterator) else .error .undefinedBehavior
  | turns + 1, iterator =>
    if iterator = iterator.shape.indexEnd then .ok ([], iterator)
    else do
      let index ← iterator.dereference
      let next ← iterator.preIncrement
      let (visited, last) ← traverse turns next
      .ok (index :: visited, last)

variable {α : Type}

/-- Copy the elements of an operand to a result, with an iterator for each of them. -/
def reshapeLoop (operand : Tensor α) :
    Nat → IndexSpaceIterator → IndexSpaceIterator → Tensor α → Except Failure (Tensor α)
  | 0, resultIt, _, result =>
    if resultIt = result.shape.indexEnd then .ok result else .error .undefinedBehavior
  | turns + 1, resultIt, operandIt, result =>
    if resultIt = result.shape.indexEnd then .ok result
    else do
      let resultIndex ← resultIt.dereference
      let operandIndex ← operandIt.dereference
      let element ← operand.get operandIndex
      let result ← result.set resultIndex element
      let resultIt ← resultIt.preIncrement
      let operandIt ← operandIt.preIncrement
      reshapeLoop operand turns resultIt operandIt result

/-- Reshape an operand into a new tensor, whose storage holds something else before. -/
def reshapeInto (turns : Nat) (operand result : Tensor α) : Except Failure (Tensor α) :=
  reshapeLoop operand turns result.shape.indexBegin operand.shape.indexBegin result

end Loops

section Strides

/-- A number of 64 bits. -/
def checkedSize (number : Nat) : Except Failure Nat :=
  if number < 2 ^ 63 then .ok number else .error .undefinedBehavior

/-- The strides of a shape, each of which is the next one times the size there. -/
def stridesInt64 : Sizes → Except Failure (List Nat)
  | [] => .ok []
  | [_] => .ok [1]
  | _ :: size :: shape => do
    let strides ← stridesInt64 (size :: shape)
    let stride ← checkedSize (strides.headD 0 * size)
    .ok (stride :: strides)

/-- Flatten an index with numbers of 64 bits. -/
def flattenIndexInt64 (shape : Sizes) (index : Index) : Except Failure Nat :=
  if Sizes.inBounds index shape then
    if shape.isEmpty then .ok 0
    else do
      let strides ← stridesInt64 shape
      (strides.zip index).foldlM (fun idx (stride, coordinate) => do
        let product ← checkedSize (stride * coordinate)
        checkedSize (idx + product)) 0
  else
    .error (.fatalError "Incompatible index and shape found while flattening index")

end Strides

section Increment

variable {front : Sizes} {frontIndex : Index}

/-- Coordinates from some place on stay as they are when those before it are incremented. -/
theorem IndexSpaceIterator.carry_append (some : front ≠ [])
    (same : frontIndex.length = front.length) (back : Sizes) (backIndex : Index) :
    carry (front ++ back) front.length (frontIndex ++ backIndex) =
      .ok ((successor front frontIndex).map (· ++ backIndex)) := by
  -- The loop starts with the last of the coordinates, and goes on with those before it.
  induction front using List.reverseRecOn generalizing frontIndex back backIndex with
  | nil => exact absurd rfl some
  | append_singleton front size ih =>
    rw [List.length_append, List.length_singleton] at same
    obtain ⟨before, coordinate, rfl⟩ : ∃ before coordinate,
        frontIndex = before ++ [coordinate] := by
      refine ⟨frontIndex.dropLast, frontIndex.getLast ?_, (List.dropLast_append_getLast _).symm⟩
      rintro rfl
      cases same
    rw [List.length_append, List.length_singleton, Nat.add_right_cancel_iff] at same
    have here : (before ++ [coordinate] ++ backIndex)[front.length]? = Option.some coordinate := by
      rw [← same]
      simp
    have bound : (front ++ [size] ++ back)[front.length]? = Option.some size := by simp
    have moved : ∀ digit, (before ++ [coordinate] ++ backIndex).set front.length digit =
        before ++ [digit] ++ backIndex := by
      intro digit
      rw [← same]
      simp
    rw [List.length_append, List.length_singleton, carry, here, bound]
    dsimp only
    rw [moved, moved, successor_snoc same]
    by_cases more : coordinate + 1 < size
    · rw [if_neg (by omega), if_pos more]
      rfl
    · rw [if_pos (by omega), if_neg more]
      by_cases first : front = []
      · -- The first coordinate starts over at the end of the index space.
        rw [first, List.length_nil, List.length_eq_zero_iff] at same
        rw [first, same]
        rfl
      · have rest := @ih before first same (size :: back) (0 :: backIndex)
        rw [if_neg (by simpa using first)]
        simp only [List.append_assoc, List.singleton_append] at rest ⊢
        rw [rest, Option.map_map]
        congr 2
        funext index
        simp

/-- The loop over coordinates finds the next index. -/
theorem IndexSpaceIterator.preIncrement_eq {iterator : IndexSpaceIterator} {index : Index}
    (stands : iterator.index = some index) (same : index.length = iterator.shape.length) :
    iterator.preIncrement = iterator.increment := by
  rw [preIncrement, increment, stands]
  dsimp only
  split
  · next empty =>
    rw [List.isEmpty_iff] at empty
    rw [empty, List.length_nil, List.length_eq_zero_iff] at same
    rw [empty, same]
    rfl
  · next nonempty =>
    have carried := carry_append (by simpa using nonempty) same [] []
    rw [List.append_nil, List.append_nil] at carried
    rw [carried, Fallible.ok_bind]
    simp

end Increment

section Runs

open IndexSpaceIterator

variable {shape : Sizes} {number : Nat}

/-- The first iterator stands at zeros, which are in bounds when no size is zero. -/
theorem indexBegin_eq_construct (shape : Sizes) :
    shape.indexBegin =
      if shape.any fun dimSize => dimSize == 0 then construct shape none
      else construct shape (some (List.replicate shape.length 0)) := by
  rw [Sizes.indexBegin]
  split
  · rfl
  · next nonzero =>
    rw [any_eq_zero_iff] at nonzero
    have within := MixedRadix.decode_within (Nat.pos_of_ne_zero nonzero)
    rw [decode_zero] at within
    rw [construct, if_pos (inBounds_iff.mpr within)]

/-- An iterator is at the end exactly behind the index space. -/
theorem place_eq_indexEnd : place shape number = shape.indexEnd ↔ shape.prod ≤ number := by
  constructor
  · intro same
    by_contra inside
    rw [place_of_lt (by omega)] at same
    cases same
  · intro beyond
    rw [place_of_ge beyond]
    rfl

/-- An iterator in the index space moves to the next place. -/
theorem preIncrement_place (below : number < shape.prod) :
    (place shape number).preIncrement = .ok (place shape (number + 1)) := by
  have within := MixedRadix.decode_within below
  rw [← successor_place below, place_of_lt below, preIncrement_eq rfl within.length_eq]
  rfl

/-- An iterator in the index space stands at the index of its place. -/
theorem dereference_place (below : number < shape.prod) :
    (place shape number).dereference = .ok (MixedRadix.decode shape number) := by
  rw [place_of_lt below]
  rfl

/-- At the end, a loop is over. -/
theorem traverse_indexEnd (turns : Nat) :
    traverse turns shape.indexEnd = .ok ([], shape.indexEnd) := by
  cases turns <;> exact if_pos rfl

/-- From any place on, a loop visits the rest of the index space. -/
theorem traverse_place {turns : Nat} (enough : shape.prod ≤ number + turns) :
    traverse turns (place shape number) = .ok ((indexSpace shape).drop number, shape.indexEnd) := by
  have length : (indexSpace shape).length = shape.prod := MixedRadix.length_all shape
  -- The induction is on the turns that are left, one for each index that is not visited yet.
  induction turns generalizing number with
  | zero =>
    rw [Nat.add_zero] at enough
    rw [place_eq_indexEnd.mpr enough, List.drop_eq_nil_of_le (by omega), traverse_indexEnd]
  | succ turns ih =>
    rcases Nat.lt_or_ge number shape.prod with below | beyond
    · have inside : ¬ place shape number = (place shape number).shape.indexEnd := by
        intro same
        exact Nat.not_le_of_lt below (place_eq_indexEnd.mp same)
      rw [traverse, if_neg inside, dereference_place below, Fallible.ok_bind,
        preIncrement_place below, Fallible.ok_bind, ih (by omega), Fallible.ok_bind,
        indexSpace_drop below]
    · rw [place_eq_indexEnd.mpr beyond, List.drop_eq_nil_of_le (by omega), traverse_indexEnd]

variable {α : Type} {operand result : Tensor α}

/-- After some turns, the result has the elements of the operand up to the place of both iterators,
and those behind it after all turns. -/
theorem reshapeLoop_place {turns : Nat} (count : operand.shape.prod = result.shape.prod)
    (enough : result.shape.prod ≤ number + turns)
    (done : result.data.take number = operand.data.take number) :
    reshapeLoop operand turns (place result.shape number) (place operand.shape number) result =
      .ok ⟨result.shape, operand.data, by rw [operand.complete, count]⟩ := by
  have finished : ∀ (number : Nat) (result : Tensor α)
      (same : operand.shape.prod = result.shape.prod),
      result.data.take number = operand.data.take number → result.shape.prod ≤ number →
      result = ⟨result.shape, operand.data, by rw [operand.complete, same]⟩ := by
    intro number result same taken beyond
    have length := result.complete
    have others := operand.complete
    rw [List.take_of_length_le (by omega), List.take_of_length_le (by omega)] at taken
    obtain ⟨shape, data, complete⟩ := result
    cases taken
    rfl
  induction turns generalizing number result with
  | zero =>
    rw [Nat.add_zero] at enough
    rw [reshapeLoop, if_pos (place_eq_indexEnd.mpr enough)]
    exact congrArg Except.ok (finished number result count done enough)
  | succ turns ih =>
    rw [reshapeLoop]
    rcases Nat.lt_or_ge number result.shape.prod with below | beyond
    · have inside : ¬ place result.shape number = result.shape.indexEnd := by
        intro same
        exact Nat.not_le_of_lt below (place_eq_indexEnd.mp same)
      have operandBelow : number < operand.shape.prod := by omega
      obtain ⟨element, got, stored⟩ := Tensor.get_eq (MixedRadix.decode_within operandBelow)
      rw [MixedRadix.encode_decode operandBelow] at stored
      rw [if_neg inside, dereference_place below, Fallible.ok_bind, dereference_place operandBelow,
        Fallible.ok_bind, got, Fallible.ok_bind, Tensor.set,
        flattenIndex_eq (MixedRadix.decode_within below), MixedRadix.encode_decode below,
        Fallible.ok_bind, Fallible.ok_bind, preIncrement_place below, Fallible.ok_bind,
        preIncrement_place operandBelow, Fallible.ok_bind]
      -- One more element is that of the operand.
      have rest : result.shape.prod ≤ number + 1 + turns := by omega
      have updated : operand.shape.prod = (Tensor.mk result.shape (result.data.set number element)
          (by rw [List.length_set, result.complete])).shape.prod := count
      refine ih updated rest ?_
      have here : number < result.data.length := by
        rw [result.complete]
        exact below
      show (result.data.set number element).take (number + 1) = _
      rw [List.take_add_one, List.take_add_one, List.take_set_of_le (Nat.le_refl _), done,
        List.getElem?_set_self here, stored]
    · rw [if_pos (place_eq_indexEnd.mpr beyond)]
      exact congrArg Except.ok (finished number result count done beyond)

/-- The loop of two iterators computes what one over their places does. -/
theorem reshapeInto_eq_reshapeOp {turns : Nat} (count : operand.shape.prod = result.shape.prod)
    (enough : result.shape.prod ≤ turns) :
    reshapeInto turns operand result = operand.reshapeOp result.shape := by
  rw [Tensor.reshapeOp_eq operand count, reshapeInto, indexBegin_eq, indexBegin_eq]
  exact reshapeLoop_place count (by omega) rfl

end Runs

section Positions

variable {shape : Sizes} {index : Index}

/-- No stride of a shape with an index is greater than the number of its indices. -/
theorem stridesInt64_eq (small : shape.prod < 2 ^ 63) (nonempty : 0 ∉ shape) :
    stridesInt64 shape = .ok (strides shape) := by
  induction shape using stridesInt64.induct with
  | case1 => rfl
  | case2 size => rfl
  | case3 first size shape ih =>
    rw [List.mem_cons, not_or] at nonempty
    have positive : 0 < (size :: shape).prod :=
      Nat.pos_of_ne_zero fun zero => nonempty.2 (List.prod_eq_zero_iff.mp zero)
    have below : (size :: shape).prod ≤ (first :: size :: shape).prod := by
      rw [List.prod_cons (a := first)]
      exact Nat.le_mul_of_pos_left _ (Nat.pos_of_ne_zero fun zero => nonempty.1 zero.symm)
    have stride : (strides (size :: shape)).headD 0 * size = (size :: shape).prod := by
      rw [List.prod_cons, Nat.mul_comm]
      rfl
    rw [stridesInt64, ih (by omega) nonempty.2, Fallible.ok_bind, stride, checkedSize,
      if_pos (by omega)]
    rfl

/-- Nothing overflows when an index of a shape is flattened that has fewer than so many indices. -/
theorem flattenIndexInt64_eq (small : shape.prod < 2 ^ 63)
    (within : MixedRadix.Within shape index) :
    flattenIndexInt64 shape index = .ok (MixedRadix.encode shape index) := by
  have below := MixedRadix.encode_lt within
  have nonempty : 0 ∉ shape := fun zero => by
    rw [List.prod_eq_zero_iff.mpr zero] at below
    omega
  -- The sum goes up to the position from what was added before.
  have general : ∀ (products : List (Nat × Nat)) (idx : Nat),
      idx + (products.map fun product => product.1 * product.2).sum < 2 ^ 63 →
      products.foldlM (fun idx (product : Nat × Nat) => do
        let scaled ← checkedSize (product.1 * product.2)
        checkedSize (idx + scaled)) idx =
          .ok (idx + (products.map fun product => product.1 * product.2).sum) := by
    intro products
    induction products with
    | nil =>
      intro idx _
      simp [pure, Except.pure]
    | cons product products ih =>
      intro idx bound
      rw [List.map_cons, List.sum_cons] at bound
      rw [List.foldlM_cons, checkedSize, if_pos (by omega), Fallible.ok_bind, checkedSize,
        if_pos (by omega), Fallible.ok_bind, ih _ (by omega), List.map_cons, List.sum_cons,
        Nat.add_assoc]
  have sum : (((strides shape).zip index).map fun product => product.1 * product.2).sum =
      MixedRadix.encode shape index := by
    rw [← MixedRadix.sum_weights within, strides, List.map_zip_eq_zipWith]
    rfl
  rw [flattenIndexInt64, if_pos (inBounds_iff.mpr within)]
  split
  · next empty =>
    rw [List.isEmpty_iff] at empty
    subst empty
    cases within
    rfl
  · rw [stridesInt64_eq small nonempty, Fallible.ok_bind]
    have total := general ((strides shape).zip index) 0 (by omega)
    rw [Nat.zero_add, sum] at total
    exact total

end Positions

/-- A loop over the indices of a shape visits each index in bounds once, in lexicographic order and
at its place in canonical order, and ends at the end. With one iterator for each of two shapes of
the same size, elements are copied in their order. -/
theorem traverse_indexBegin (shape : Sizes) :
    (∃ visited : List Index,
      (∀ turns, shape.prod ≤ turns →
        traverse turns shape.indexBegin = .ok (visited, shape.indexEnd)) ∧
      visited.Nodup ∧ (∀ index, index ∈ visited ↔ Sizes.inBounds index shape = true) ∧
      visited.Pairwise (· < ·) ∧
      ∀ (k : Nat) (index : Index), visited[k]? = some index →
        flattenIndex shape index = .ok k ∧
          (shape.prod < 2 ^ 63 → flattenIndexInt64 shape index = .ok k)) ∧
    ∀ {α : Type} (operand result : Tensor α), operand.shape.prod = shape.prod →
      result.shape = shape → ∀ turns, shape.prod ≤ turns →
        ∃ reshaped, reshapeInto turns operand result = .ok reshaped ∧ reshaped.shape = shape ∧
          reshaped.data = operand.data := by
  constructor
  · refine ⟨indexSpace shape, fun turns enough => ?_, MixedRadix.nodup_all shape, fun index => ?_,
      MixedRadix.pairwise_all shape, fun k index found => ?_⟩
    · rw [IndexSpaceIterator.indexBegin_eq, traverse_place (by omega), List.drop_zero]
    · rw [inBounds_iff]
      exact MixedRadix.mem_all
    · obtain ⟨below, rfl⟩ := List.getElem?_eq_some_iff.mp found
      rw [indexSpace, MixedRadix.length_all] at below
      have decoded : (indexSpace shape)[k]? = some (MixedRadix.decode shape k) :=
        MixedRadix.getElem?_all below
      rw [found, Option.some.injEq] at decoded
      have within := MixedRadix.decode_within below
      rw [decoded]
      refine ⟨?_, fun small => ?_⟩
      · rw [flattenIndex_eq within, MixedRadix.encode_decode below]
      · rw [flattenIndexInt64_eq small within, MixedRadix.encode_decode below]
  · rintro α operand result count rfl turns enough
    refine ⟨_, (reshapeInto_eq_reshapeOp count enough).trans (Tensor.reshapeOp_eq operand count),
      rfl, rfl⟩

end Stablehlo
