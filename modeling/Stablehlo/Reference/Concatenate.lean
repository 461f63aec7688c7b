import Stablehlo.Reference.Ops

/-! Concatenation of tensors: which input an element comes from. -/

namespace Stablehlo

namespace Tensor

variable {α : Type} {dimension : Nat} {shape : Sizes}

/-- How far tensors reach along a dimension when they are put one after the other. -/
def extentAlong (dimension : Nat) (inputs : List (Tensor α)) : Nat :=
  (inputs.map fun input => input.shape.getD dimension 0).sum

/-- The tensors differ from the shape in the size of the dimension only. -/
def Alike (shape : Sizes) (dimension : Nat) (inputs : List (Tensor α)) : Prop :=
  ∀ input ∈ inputs, ∃ size, input.shape = shape.set dimension size

/-- The extent of more tensors. -/
@[simp] theorem extentAlong_cons (input : Tensor α) (inputs : List (Tensor α)) :
    extentAlong dimension (input :: inputs) =
      input.shape.getD dimension 0 + extentAlong dimension inputs := rfl

/-- The extent of tensors and of those behind them. -/
@[simp] theorem extentAlong_append (front back : List (Tensor α)) :
    extentAlong dimension (front ++ back) =
      extentAlong dimension front + extentAlong dimension back := by
  simp [extentAlong]

/-- An index within an input is one within the result after moving it along the dimension. -/
theorem within_of_alike {input : Tensor α} {total offset : Nat} {index : Index}
    (axis : shape[dimension]? = some total) (alike : ∃ size, input.shape = shape.set dimension size)
    (fits : offset + input.shape.getD dimension 0 ≤ total)
    (within : MixedRadix.Within input.shape index) :
    MixedRadix.Within shape (index.modify dimension (offset + ·)) := by
  obtain ⟨size, same⟩ := alike
  have below := (List.getElem?_eq_some_iff.mp axis).1
  rw [same] at fits within
  refine within_modify axis ?_ within
  simpa [List.getD, List.getElem?_set_self below] using fits

/-- Moving along a dimension is undone by moving back. -/
theorem modify_sub_modify (dimension offset : Nat) (index : Index) :
    (index.modify dimension (offset + ·)).modify dimension (· - offset) = index := by
  have same : (· - offset) ∘ (offset + ·) = (id : Nat → Nat) := by
    funext coordinate
    exact Nat.add_sub_cancel_left offset coordinate
  rw [List.modify_modify_eq, same, List.modify_id]

/-- An element of an input is put where the inputs before it end. -/
def putInput (dimension dimensionOffset : Nat) (input result : Tensor α) :
    Except Failure (Tensor α) :=
  (indexSpace input.shape).foldlM (fun result inputIndex => do
    let element ← input.get inputIndex
    result.set (inputIndex.modify dimension (dimensionOffset + ·)) element) result

/-- Putting an input fills its part of the result. -/
theorem putInput_eq {input result : Tensor α} {total offset : Nat}
    (axis : shape[dimension]? = some total) (kept : result.shape = shape)
    (alike : ∃ size, input.shape = shape.set dimension size)
    (fits : offset + input.shape.getD dimension 0 ≤ total) :
    ∃ final, putInput dimension offset input result = .ok final ∧ final.shape = shape ∧
      (∀ index, MixedRadix.Within input.shape index →
        final.get (index.modify dimension (offset + ·)) = input.get index) ∧
      ∀ other coordinate, MixedRadix.Within shape other → other[dimension]? = some coordinate →
        (coordinate < offset ∨ offset + input.shape.getD dimension 0 ≤ coordinate) →
          final.get other = result.get other := by
  have listed (index : Index) : index ∈ indexSpace input.shape ↔
      MixedRadix.Within input.shape index := MixedRadix.mem_all
  obtain ⟨final, run, finalShape, elements, others⟩ := @foldlM_set α Index
    (fun result inputIndex => do
      let element ← input.get inputIndex
      result.set (inputIndex.modify dimension (offset + ·)) element)
    (indexSpace input.shape) (fun index => index.modify dimension (offset + ·)) input.get result
    (fun index member => by
      obtain ⟨element, got, -⟩ := get_eq ((listed index).mp member)
      refine ⟨?_, element, got, fun state => by rw [got]; rfl⟩
      rw [kept]
      exact within_of_alike axis alike fits ((listed index).mp member))
    (fun index _ other _ same => by
      rw [← modify_sub_modify dimension offset index, same, modify_sub_modify])
  refine ⟨final, run, finalShape.trans kept, fun index within => ?_,
    fun other coordinate within found outside => ?_⟩
  · exact elements index ((listed index).mpr within)
  · refine others other (kept ▸ within) fun index member same => ?_
    -- The coordinate of a moved index is within the part.
    obtain ⟨size, inputShape⟩ := alike
    have below := (List.getElem?_eq_some_iff.mp axis).1
    have inside := (listed index).mp member
    rw [inputShape] at inside
    obtain ⟨digit, at_, small⟩ := MixedRadix.exists_digit inside (List.getElem?_set_self below)
    rw [same, List.getElem?_modify_eq, at_] at found
    have moved : offset + digit = coordinate := Option.some.inj found
    rw [inputShape, List.getD, List.getElem?_set_self below, Option.getD_some] at outside
    omega

/-- The loop over the inputs fills their parts one after the other. -/
theorem putInputs_eq {inputs : List (Tensor α)} {total : Nat}
    (axis : shape[dimension]? = some total) (alike : Alike shape dimension inputs) :
    ∀ (offset : Nat) (result : Tensor α), result.shape = shape →
      offset + extentAlong dimension inputs ≤ total →
      ∃ final, inputs.foldlM (fun (result, dimensionOffset) input => do
          let filled ← putInput dimension dimensionOffset input result
          match input.shape[dimension]? with
          | some size => .ok (filled, dimensionOffset + size)
          | none => .error .undefinedBehavior) (result, offset) =
            .ok (final, offset + extentAlong dimension inputs) ∧
        final.shape = shape ∧
        (∀ front input back, inputs = front ++ input :: back → ∀ index,
          MixedRadix.Within input.shape index →
            final.get (index.modify dimension (offset + extentAlong dimension front + ·)) =
              input.get index) ∧
        ∀ other coordinate, MixedRadix.Within shape other → other[dimension]? = some coordinate →
          (coordinate < offset ∨ offset + extentAlong dimension inputs ≤ coordinate) →
            final.get other = result.get other := by
  induction inputs with
  | nil =>
    intro offset result kept fits
    exact ⟨result, rfl, kept, fun front input back split => by simp at split,
      fun _ _ _ _ _ => rfl⟩
  | cons input inputs ih =>
    intro offset result kept fits
    rw [Alike, List.forall_mem_cons] at alike
    rw [extentAlong_cons] at fits
    obtain ⟨filled, put, filledShape, elements, others⟩ :=
      putInput_eq axis kept alike.1 (show offset + input.shape.getD dimension 0 ≤ total by omega)
    obtain ⟨final, run, finalShape, later, frame⟩ := ih alike.2
      (offset + input.shape.getD dimension 0) filled filledShape (by omega)
    obtain ⟨size, inputShape⟩ := alike.1
    have below := (List.getElem?_eq_some_iff.mp axis).1
    have found : input.shape[dimension]? = some size := by
      rw [inputShape, List.getElem?_set_self below]
    have sized : input.shape.getD dimension 0 = size := by rw [List.getD, found, Option.getD_some]
    rw [sized] at fits others run later frame
    refine ⟨final, ?_, finalShape, ?_, fun other coordinate within place outside => ?_⟩
    · rw [List.foldlM_cons]
      simp only [put, found, Fallible.ok_bind]
      rw [run, extentAlong_cons, sized, Nat.add_assoc]
    · intro front first back split index within
      cases front with
      | nil =>
        -- The first input is not touched by those behind it.
        obtain ⟨rfl, rfl⟩ := List.cons.inj split
        have inside : MixedRadix.Within shape (index.modify dimension (offset + ·)) :=
          within_of_alike axis ⟨size, inputShape⟩ (by rw [sized]; omega) within
        have digits := within
        rw [inputShape] at digits
        obtain ⟨digit, at_, small⟩ := MixedRadix.exists_digit digits (List.getElem?_set_self below)
        have place : (index.modify dimension (offset + ·))[dimension]? = some (offset + digit) := by
          rw [List.getElem?_modify_eq, at_]
          rfl
        rw [← elements index within]
        exact frame _ _ inside place (.inl (by omega))
      | cons front fronts =>
        obtain ⟨rfl, rest⟩ := List.cons.inj split
        have there := later fronts first back rest index within
        rwa [extentAlong_cons, sized, ← Nat.add_assoc]
    · rw [extentAlong_cons, sized] at outside
      rw [frame other coordinate within place (by omega),
        others other coordinate within place (by omega)]

/-- A concatenation has the elements of its inputs, each in the part of its input, and what it
started with where there is no input. -/
theorem concatenateOp_spec {inputs : List (Tensor α)} {total : Nat} (content : α)
    (axis : shape[dimension]? = some total) (alike : Alike shape dimension inputs)
    (fits : extentAlong dimension inputs ≤ total) :
    ∃ result, concatenateOp content inputs dimension shape = .ok result ∧ result.shape = shape ∧
      (∀ front input back, inputs = front ++ input :: back → ∀ index coordinate,
        MixedRadix.Within shape index → index[dimension]? = some coordinate →
        extentAlong dimension front ≤ coordinate →
        coordinate < extentAlong dimension front + input.shape.getD dimension 0 →
          result.get index =
            input.get (index.set dimension (coordinate - extentAlong dimension front))) ∧
      ∀ index coordinate, MixedRadix.Within shape index → index[dimension]? = some coordinate →
        extentAlong dimension inputs ≤ coordinate → result.get index = .ok content := by
  obtain ⟨result, run, kept, elements, others⟩ := putInputs_eq axis alike 0
    (makeSplat shape content) rfl (by omega)
  refine ⟨result, ?_, kept, fun front input back split index coordinate within place low high => ?_,
    fun index coordinate within place beyond => ?_⟩
  · unfold concatenateOp
    show (List.foldlM (fun (result, dimensionOffset) input => do
      let filled ← putInput dimension dimensionOffset input result
      match input.shape[dimension]? with
      | some size => Except.ok (filled, dimensionOffset + size)
      | none => .error .undefinedBehavior) (makeSplat shape content, 0) inputs >>= _) = _
    rw [run]
    rfl
  · -- The index is that of the input, moved to its part.
    obtain ⟨size, inputShape⟩ := alike input (by rw [split]; simp)
    have below := (List.getElem?_eq_some_iff.mp axis).1
    have sized : input.shape.getD dimension 0 = size := by
      rw [inputShape, List.getD, List.getElem?_set_self below, Option.getD_some]
    rw [sized] at high
    have inside : MixedRadix.Within input.shape
        (index.set dimension (coordinate - extentAlong dimension front)) := by
      rw [inputShape]
      exact MixedRadix.within_set_set within dimension (by omega)
    have moved := elements front input back split _ inside
    rw [← moved]
    congr 1
    refine List.ext_getElem? fun i => ?_
    rw [List.getElem?_modify, List.getElem?_set]
    by_cases here : dimension = i
    · subst here
      have inIndex := (List.getElem?_eq_some_iff.mp place).1
      rw [if_pos rfl, if_pos inIndex, place]
      simp
      omega
    · simp [here]
  · rw [others index coordinate within place (.inr (by omega))]
    exact get_tabulate within

end Tensor

end Stablehlo
