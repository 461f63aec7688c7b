import Mathlib.Logic.Relation
import Stablehlo.Transforms.SliceOfConcatenate

/-! The simplifications of concatenations, applied in any order. -/

namespace Stablehlo

section Patterns

variable {α : Type}

/-- A value, with the concatenation that it is defined by, if there is one. -/
inductive ConcatValue (α : Type) where
  | other (tensor : Tensor α)
  | concatenate (dimension : Nat) (hasOneUse : Bool) (inputs : List (ConcatValue α))
    (tensor : Tensor α)

/-- What a value is. -/
def ConcatValue.tensor : ConcatValue α → Tensor α
  | .other tensor => tensor
  | .concatenate _ _ _ tensor => tensor

/-- A concatenation of values along a dimension. -/
structure ConcatenateOp (α : Type) where
  dimension : Nat
  shape : Sizes
  inputs : List (ConcatValue α)

/-- The result of a concatenation, whose storage has some content. -/
def ConcatenateOp.result (op : ConcatenateOp α) (content : α) : Except Failure (Tensor α) :=
  Tensor.concatenateOp content (op.inputs.map ConcatValue.tensor) op.dimension op.shape

/-- The only input of a concatenation that has one of its own type. -/
def concatenateOpNoop (op : ConcatenateOp α) : Option (ConcatValue α) :=
  match op.inputs with
  | [input] => if input.tensor.shape = op.shape then some input else none
  | _ => none

/-- Leave out the inputs that reach nowhere along the dimension, unless all of them do so. -/
def concatenateOpRemoveEmpty (op : ConcatenateOp α) : Option (ConcatenateOp α) :=
  let newOperands := op.inputs.filter fun operand => operand.tensor.shape[op.dimension]? != some 0
  if newOperands ≠ [] ∧ newOperands.length < op.inputs.length then
    some { op with inputs := newOperands }
  else
    none

/-- The inputs of a concatenation along the same dimension that has no other use. -/
def flattenedInputs (dimension : Nat) : ConcatValue α → Option (List (ConcatValue α))
  | .concatenate own true inputs _ => if own = dimension then some inputs else none
  | _ => none

/-- The values that a value is replaced by: itself, or the inputs of its concatenation. -/
def getFlattenedOperands (dimension : Nat) (value : ConcatValue α) : List (ConcatValue α) :=
  (flattenedInputs dimension value).getD [value]

/-- Put the inputs of the concatenations among the inputs in their place. -/
def concatenateOpFlatten (op : ConcatenateOp α) : Option (ConcatenateOp α) :=
  -- The inputs of a concatenation are never the same as its own value.
  if op.inputs.any fun value => (flattenedInputs op.dimension value).isSome then
    some { op with inputs := op.inputs.flatMap (getFlattenedOperands op.dimension) }
  else
    none

/-- One concatenation is replaced by the other one. -/
def ConcatenateOp.Rewrites (op made : ConcatenateOp α) : Prop :=
  concatenateOpRemoveEmpty op = some made ∨ concatenateOpFlatten op = some made

end Patterns

section Parts

variable {α : Type} {dimension : Nat} {shape : Sizes} {content : α}

/-- The inputs fit together along the dimension: the inferred type of a concatenation is theirs. -/
structure FitTogether (dimension : Nat) (inputs : List (Tensor α)) (shape : Sizes) : Prop where
  extent : shape[dimension]? = some (Tensor.extentAlong dimension inputs)
  alike : Tensor.Alike shape dimension inputs

/-- An element of a part is in its place in the tensor that consists of the parts. -/
structure HasElement (dimension : Nat) (parts : List (Tensor α)) (coordinate : Nat)
    (front : List (Tensor α)) (part : Tensor α) : Prop where
  split : ∃ back, parts = front ++ part :: back
  low : Tensor.extentAlong dimension front ≤ coordinate
  high : coordinate < Tensor.extentAlong dimension front + part.shape.getD dimension 0

/-- A tensor has the elements of its parts, each in its place along the dimension. -/
structure ConsistsOf (dimension : Nat) (parts : List (Tensor α)) (tensor : Tensor α) : Prop where
  fits : FitTogether dimension parts tensor.shape
  elements : ∀ (index : Index) (coordinate : Nat), MixedRadix.Within tensor.shape index →
    index[dimension]? = some coordinate → ∃ front part, HasElement dimension parts coordinate
      front part ∧ tensor.get index =
        part.get (index.set dimension (coordinate - Tensor.extentAlong dimension front))

/-- A concatenation consists of its inputs. -/
theorem FitTogether.consistsOf {inputs : List (Tensor α)}
    (fits : FitTogether dimension inputs shape) (content : α) :
    ∃ result, Tensor.concatenateOp content inputs dimension shape = .ok result ∧
      result.shape = shape ∧ ConsistsOf dimension inputs result := by
  obtain ⟨result, run, same, elements, -⟩ :=
    Tensor.concatenateOp_spec content fits.extent fits.alike le_rfl
  subst same
  refine ⟨result, run, rfl, fits, fun index coordinate within place => ?_⟩
  obtain ⟨digit, found, below⟩ := MixedRadix.exists_digit within fits.extent
  rw [place, Option.some.injEq] at found
  subst found
  obtain ⟨front, part, back, split, low, high⟩ := exists_input inputs below
  exact ⟨front, part, ⟨⟨back, split⟩, low, high⟩,
    elements front part back split index coordinate within place low high⟩

/-- No part behind one that has the element at a coordinate has it as well. -/
theorem HasElement.eq_nil {parts front middle : List (Tensor α)} {part part' : Tensor α}
    {coordinate : Nat} (one : HasElement dimension parts coordinate front part)
    (other : HasElement dimension parts coordinate (front ++ middle) part') :
    middle = [] ∧ part = part' := by
  obtain ⟨⟨back, split⟩, low, high⟩ := one
  obtain ⟨⟨back', split'⟩, low', high'⟩ := other
  have rest : part :: back = middle ++ part' :: back' := by
    rw [split, List.append_assoc] at split'
    exact List.append_cancel_left split'
  cases middle with
  | nil => exact ⟨rfl, (List.cons.inj rest).1⟩
  | cons first middle =>
    -- The later part begins behind the end of the earlier one.
    obtain ⟨rfl, -⟩ := List.cons.inj rest
    rw [Tensor.extentAlong_append, Tensor.extentAlong_cons] at low'
    omega

/-- There is one part with the element at a coordinate. -/
theorem HasElement.unique {parts front front' : List (Tensor α)} {part part' : Tensor α}
    {coordinate : Nat} (one : HasElement dimension parts coordinate front part)
    (other : HasElement dimension parts coordinate front' part') :
    front = front' ∧ part = part' := by
  obtain ⟨back, split⟩ := one.split
  obtain ⟨back', split'⟩ := other.split
  rcases List.append_eq_append_iff.mp (split.symm.trans split') with
    ⟨middle, rfl, -⟩ | ⟨middle, rfl, -⟩
  · obtain ⟨rfl, same⟩ := one.eq_nil other
    exact ⟨(List.append_nil _).symm, same⟩
  · obtain ⟨rfl, same⟩ := other.eq_nil one
    exact ⟨List.append_nil _, same.symm⟩

/-- Tensors that consist of the same parts are the same. -/
theorem ConsistsOf.unique {parts : List (Tensor α)} {first second : Tensor α}
    (one : ConsistsOf dimension parts first) (other : ConsistsOf dimension parts second)
    (same : first.shape = second.shape) : first = second := by
  refine Tensor.ext_get same fun index within => ?_
  obtain ⟨coordinate, place, -⟩ := MixedRadix.exists_digit within one.fits.extent
  obtain ⟨front, part, here, read⟩ := one.elements index coordinate within place
  obtain ⟨front', part', there, read'⟩ := other.elements index coordinate (same ▸ within) place
  obtain ⟨rfl, rfl⟩ := here.unique there
  rw [read, read']

/-- Groups reach as far as the parts that they make up. -/
theorem extentAlong_flatten {groups : List (List (Tensor α))} {parts : List (Tensor α)}
    (made : List.Forall₂ (ConsistsOf dimension) groups parts) :
    Tensor.extentAlong dimension groups.flatten = Tensor.extentAlong dimension parts := by
  induction made with
  | nil => rfl
  | cons consists _ ih =>
    rw [List.flatten_cons, Tensor.extentAlong_append, Tensor.extentAlong_cons, ih,
      List.getD_eq_getElem?_getD, consists.fits.extent, Option.getD_some]

/-- A tensor consists of the parts of its parts. -/
theorem ConsistsOf.flatten {groups : List (List (Tensor α))} {parts : List (Tensor α)}
    {tensor : Tensor α} (made : List.Forall₂ (ConsistsOf dimension) groups parts)
    (whole : ConsistsOf dimension parts tensor) : ConsistsOf dimension groups.flatten tensor := by
  refine ⟨⟨(extentAlong_flatten made).symm ▸ whole.fits.extent, fun input listed => ?_⟩,
    fun index coordinate within place => ?_⟩
  · obtain ⟨group, member, inside⟩ := List.mem_flatten.mp listed
    obtain ⟨place, below, same⟩ := List.mem_iff_getElem.mp member
    have consists := made.get below (made.length_eq ▸ below)
    simp only [List.get_eq_getElem, same] at consists
    obtain ⟨size, inputShape⟩ := consists.fits.alike input inside
    obtain ⟨outer, partShape⟩ := whole.fits.alike _ (List.getElem_mem (made.length_eq ▸ below))
    exact ⟨size, by rw [inputShape, partShape, List.set_set]⟩
  · -- The element is in a part, and in a part of that one.
    obtain ⟨front, part, ⟨⟨back, rfl⟩, low, high⟩, read⟩ :=
      whole.elements index coordinate within place
    have madeFront := List.forall₂_take_append groups front (part :: back) made
    have madeRest := List.forall₂_drop_append groups front (part :: back) made
    have parted := List.take_append_drop front.length groups
    obtain ⟨group, behind, consists, -, isRest⟩ := List.forall₂_cons_right_iff.mp madeRest
    rw [isRest] at parted
    generalize groups.take front.length = before at madeFront parted
    subst parted
    obtain ⟨size, partShape⟩ := whole.fits.alike part (by simp)
    have inRange := (List.getElem?_eq_some_iff.mp place).1
    have bound := (List.getElem?_eq_some_iff.mp whole.fits.extent).1
    have sized : part.shape.getD dimension 0 = size := by
      rw [partShape, List.getD, List.getElem?_set_self bound, Option.getD_some]
    have inside : MixedRadix.Within part.shape
        (index.set dimension (coordinate - Tensor.extentAlong dimension front)) := by
      rw [partShape]
      exact MixedRadix.within_set_set within dimension (by omega)
    obtain ⟨inner, piece, ⟨⟨pieces, split⟩, innerLow, innerHigh⟩, innerRead⟩ :=
      consists.elements _ _ inside (List.getElem?_set_self inRange)
    have extents := extentAlong_flatten madeFront
    refine ⟨before.flatten ++ inner, piece,
      ⟨⟨pieces ++ behind.flatten, by simp [split]⟩, ?_, ?_⟩, ?_⟩
    · rw [Tensor.extentAlong_append, extents]
      omega
    · rw [Tensor.extentAlong_append, extents]
      omega
    · rw [read, innerRead, List.set_set, Tensor.extentAlong_append, extents, Nat.sub_sub]

end Parts

section Runs

variable {α : Type}

/-- A value is what it is defined to be, and so are the values that it is made from. -/
inductive ConcatValue.Verified : ConcatValue α → Prop
  | other (tensor : Tensor α) : Verified (.other tensor)
  | concatenate (dimension : Nat) (hasOneUse : Bool) (inputs : List (ConcatValue α))
    (tensor : Tensor α) (content : α)
    (verified : ∀ input ∈ inputs, Verified input)
    (fits : FitTogether dimension (inputs.map ConcatValue.tensor) tensor.shape)
    (computed : Tensor.concatenateOp content (inputs.map ConcatValue.tensor) dimension
      tensor.shape = .ok tensor) :
    Verified (.concatenate dimension hasOneUse inputs tensor)

/-- A concatenation is accepted, and its inputs are what they are defined to be. -/
structure ConcatenateOp.Verified (op : ConcatenateOp α) : Prop where
  inputs : ∀ input ∈ op.inputs, input.Verified
  fits : FitTogether op.dimension (op.inputs.map ConcatValue.tensor) op.shape

variable {op made : ConcatenateOp α} {dimension : Nat}

/-- A tensor consists of itself. -/
theorem ConsistsOf.self {tensor : Tensor α} (inside : dimension < tensor.shape.length) :
    ConsistsOf dimension [tensor] tensor := by
  have size : tensor.shape[dimension]? = some (tensor.shape.getD dimension 0) := by
    rw [List.getD_eq_getElem?_getD, List.getElem?_eq_getElem inside]
    rfl
  refine ⟨⟨size, fun input listed => ?_⟩, fun index coordinate within place => ?_⟩
  · rw [List.mem_singleton.mp listed]
    exact ⟨tensor.shape[dimension], (List.set_getElem_self inside).symm⟩
  · obtain ⟨digit, found, below⟩ := MixedRadix.exists_digit within size
    rw [place, Option.some.injEq] at found
    subst found
    refine ⟨[], tensor, ⟨⟨[], rfl⟩, Nat.zero_le _, ?_⟩, ?_⟩
    · rwa [show Tensor.extentAlong dimension ([] : List (Tensor α)) = 0 from rfl, Nat.zero_add]
    · obtain ⟨short, same⟩ := List.getElem?_eq_some_iff.mp place
      rw [show Tensor.extentAlong dimension ([] : List (Tensor α)) = 0 from rfl, Nat.sub_zero,
        ← same, List.set_getElem_self short]

/-- A tensor that reaches nowhere along the dimension consists of nothing. -/
theorem ConsistsOf.nil {tensor : Tensor α} (empty : tensor.shape[dimension]? = some 0) :
    ConsistsOf dimension [] tensor := by
  refine ⟨⟨empty, fun input listed => by cases listed⟩, fun index coordinate within place => ?_⟩
  obtain ⟨digit, -, below⟩ := MixedRadix.exists_digit within empty
  exact absurd below (Nat.not_lt_zero digit)

/-- Inputs may be replaced by what they consist of. -/
theorem ConcatenateOp.Verified.replace (verified : op.Verified) (content : α)
    {groups : ConcatValue α → List (ConcatValue α)}
    (consists : ∀ input ∈ op.inputs,
      ConsistsOf op.dimension ((groups input).map ConcatValue.tensor) input.tensor)
    (own : ∀ input ∈ op.inputs, ∀ value ∈ groups input, value.Verified) :
    ConcatenateOp.Verified { op with inputs := op.inputs.flatMap groups } ∧
      ConcatenateOp.result { op with inputs := op.inputs.flatMap groups } content =
        op.result content := by
  obtain ⟨tensor, run, shape, whole⟩ := verified.fits.consistsOf content
  have made : List.Forall₂ (ConsistsOf op.dimension)
      (op.inputs.map fun input => (groups input).map ConcatValue.tensor)
      (op.inputs.map ConcatValue.tensor) := by
    rw [List.forall₂_map_left_iff, List.forall₂_map_right_iff]
    exact List.forall₂_same.mpr consists
  have flat := whole.flatten made
  have values : (op.inputs.flatMap groups).map ConcatValue.tensor =
      (op.inputs.map fun input => (groups input).map ConcatValue.tensor).flatten := by
    rw [List.map_flatMap, List.flatMap_def]
  rw [← values] at flat
  have fits : FitTogether op.dimension ((op.inputs.flatMap groups).map ConcatValue.tensor)
      op.shape := shape ▸ flat.fits
  refine ⟨⟨fun value listed => ?_, fits⟩, ?_⟩
  · obtain ⟨input, listedInput, member⟩ := List.mem_flatMap.mp listed
    exact own input listedInput value member
  · obtain ⟨other, otherRun, otherShape, others⟩ := fits.consistsOf content
    rw [ConcatenateOp.result, ConcatenateOp.result, run, otherRun,
      others.unique flat (otherShape.trans shape.symm)]

/-- The dimension of a concatenation is one of each of its inputs. -/
theorem ConcatenateOp.Verified.inside (verified : op.Verified) {input : ConcatValue α}
    (listed : input ∈ op.inputs) : op.dimension < input.tensor.shape.length := by
  obtain ⟨size, same⟩ := verified.fits.alike _ (List.mem_map_of_mem listed)
  rw [same, List.length_set]
  exact (List.getElem?_eq_some_iff.mp verified.fits.extent).1

/-- What is flattened is a concatenation along the dimension. -/
theorem flattenedInputs_eq_some {value : ConcatValue α} {inputs : List (ConcatValue α)}
    (flattened : flattenedInputs dimension value = some inputs) :
    ∃ tensor, value = .concatenate dimension true inputs tensor := by
  cases value with
  | other tensor => cases flattened
  | concatenate own hasOneUse inputs tensor =>
    cases hasOneUse with
    | false => cases flattened
    | true =>
      obtain ⟨rfl, same⟩ := Option.ite_none_right_eq_some.mp flattened
      cases same
      exact ⟨tensor, rfl⟩

/-- A value that is accepted consists of what it is flattened to. -/
theorem consistsOf_getFlattenedOperands {value : ConcatValue α} (verified : value.Verified)
    (inside : dimension < value.tensor.shape.length) :
    ConsistsOf dimension ((getFlattenedOperands dimension value).map ConcatValue.tensor)
      value.tensor := by
  rw [getFlattenedOperands]
  cases flattened : flattenedInputs dimension value with
  | none => exact .self inside
  | some inputs =>
    obtain ⟨tensor, rfl⟩ := flattenedInputs_eq_some flattened
    cases verified with
    | concatenate _ _ _ _ content _ fits computed =>
      -- The value is the result of the concatenation of the inputs.
      obtain ⟨result, run, -, consists⟩ := fits.consistsOf content
      rw [computed, Except.ok.injEq] at run
      exact run ▸ consists

/-- What an accepted value is flattened to are accepted values. -/
theorem verified_of_getFlattenedOperands {value part : ConcatValue α} (verified : value.Verified)
    (listed : part ∈ getFlattenedOperands dimension value) : part.Verified := by
  rw [getFlattenedOperands] at listed
  cases flattened : flattenedInputs dimension value with
  | none =>
    rw [flattened] at listed
    rwa [List.mem_singleton.mp listed]
  | some inputs =>
    rw [flattened] at listed
    obtain ⟨tensor, rfl⟩ := flattenedInputs_eq_some flattened
    cases verified with
    | concatenate _ _ _ _ _ verified => exact verified part listed

/-- One rewrite leads to a concatenation that is accepted and has the same result. -/
theorem ConcatenateOp.Rewrites.keeps (verified : op.Verified) (content : α)
    (rewrites : op.Rewrites made) : made.Verified ∧ made.result content = op.result content := by
  rcases rewrites with removes | flattens
  · unfold concatenateOpRemoveEmpty at removes
    dsimp only at removes
    split at removes
    · cases removes
      -- Inputs that are left out consist of nothing.
      have kept : ∀ inputs : List (ConcatValue α),
          inputs.filter (fun input => input.tensor.shape[op.dimension]? != some 0) =
            inputs.flatMap fun input =>
              if input.tensor.shape[op.dimension]? != some 0 then [input] else [] := by
        intro inputs
        induction inputs with
        | nil => rfl
        | cons input inputs ih =>
          rw [List.filter_cons, List.flatMap_cons, ih]
          split <;> rfl
      rw [kept]
      refine verified.replace content (fun input listed => ?_) fun input listed value member => ?_
      · split
        · exact .self (verified.inside listed)
        · next empty => exact .nil (by simpa using empty)
      · split at member
        · rw [List.mem_singleton.mp member]
          exact verified.inputs input listed
        · cases member
    · cases removes
  · unfold concatenateOpFlatten at flattens
    split at flattens
    · cases flattens
      refine verified.replace content (fun input listed => ?_) fun input listed value member => ?_
      · exact consistsOf_getFlattenedOperands (verified.inputs input listed)
          (verified.inside listed)
      · exact verified_of_getFlattenedOperands (verified.inputs input listed) member
    · cases flattens

/--
Concatenations have the same result when they are rewritten, in any order and as often as the
rewrites apply.

When there is a single input of the same type in the end, it is the result.
-/
theorem ConcatenateOp.rewrites_keep (op made : ConcatenateOp α) (content : α)
    (verified : op.Verified) (run : Relation.ReflTransGen ConcatenateOp.Rewrites op made) :
    made.result content = op.result content ∧
      ∀ value, concatenateOpNoop made = some value → op.result content = .ok value.tensor := by
  have kept : made.Verified ∧ made.result content = op.result content := by
    induction run with
    | refl => exact ⟨verified, rfl⟩
    | tail _ step ih =>
      obtain ⟨next, same⟩ := step.keeps ih.1 content
      exact ⟨next, same.trans ih.2⟩
  refine ⟨kept.2, fun value single => ?_⟩
  unfold concatenateOpNoop at single
  split at single
  · next input inputs =>
    split at single
    · next shape =>
      cases single
      obtain ⟨result, computed, resultShape, whole⟩ := kept.1.fits.consistsOf content
      rw [← kept.2, ConcatenateOp.result, computed]
      rw [inputs] at whole
      have inside := kept.1.inside (inputs ▸ List.mem_singleton_self _)
      exact congrArg _ (whole.unique (.self inside) (resultShape.trans shape.symm))
    · cases single
  · cases single

end Runs

section Nested

/-- A vector behind the concatenation of two vectors, and one without elements between them. -/
def nestedConcatenate : ConcatenateOp Nat where
  dimension := 0
  shape := [3]
  inputs := [
    .concatenate 0 true [.other ⟨[1], [1], rfl⟩, .other ⟨[1], [2], rfl⟩] ⟨[2], [1, 2], rfl⟩,
    .other ⟨[0], [], rfl⟩, .other ⟨[1], [3], rfl⟩]

/-- The concatenation is accepted. -/
theorem nestedConcatenate_verified : nestedConcatenate.Verified where
  inputs input listed := by
    simp only [nestedConcatenate, List.mem_cons, List.not_mem_nil, or_false] at listed
    rcases listed with rfl | rfl | rfl
    · refine .concatenate 0 true _ _ 0 (fun input listed => ?_) ⟨rfl, fun input listed => ?_⟩ rfl
      · simp only [List.mem_cons, List.not_mem_nil, or_false] at listed
        rcases listed with rfl | rfl <;> exact .other _
      · simp only [List.map_cons, List.map_nil, List.mem_cons, List.not_mem_nil, or_false] at listed
        rcases listed with rfl | rfl <;> exact ⟨1, rfl⟩
    · exact .other _
    · exact .other _
  fits := by
    refine ⟨rfl, fun input listed => ?_⟩
    simp only [nestedConcatenate, List.map_cons, List.map_nil, List.mem_cons, List.not_mem_nil,
      or_false] at listed
    rcases listed with rfl | rfl | rfl
    · exact ⟨2, rfl⟩
    · exact ⟨0, rfl⟩
    · exact ⟨1, rfl⟩

/-- The concatenation is flattened, and then the vector without elements is left out. -/
theorem rewrites_keep_nested :
    ConcatenateOp.result ⟨0, [3], [.other ⟨[1], [1], rfl⟩, .other ⟨[1], [2], rfl⟩,
      .other ⟨[1], [3], rfl⟩]⟩ 0 = nestedConcatenate.result 0 :=
  (ConcatenateOp.rewrites_keep nestedConcatenate _ 0 nestedConcatenate_verified
    (.tail (.tail .refl (.inr rfl)) (.inl rfl))).1

end Nested

end Stablehlo
