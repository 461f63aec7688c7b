import Stablehlo.Reference.Slice

/-! Slices with strides: the index of the operand that each element comes from. -/

namespace Stablehlo

/-- A dimension has a slice when its limits are in bounds and the stride is positive, and the
positions of the slice are then between the limits. -/
theorem inferSliceDim_spec {size inferred : Nat} {start limit stride : Int}
    (slice : inferSliceDim size start limit stride = some inferred) :
    0 ≤ start ∧ start ≤ limit ∧ limit ≤ size ∧ 0 < stride ∧
      ∀ coordinate < inferred, start + coordinate * stride < limit := by
  unfold inferSliceDim at slice
  split at slice
  · cases slice
  · next valid =>
    push Not at valid
    obtain ⟨first, second, third, fourth⟩ := valid
    refine ⟨first, third, second, fourth, fun coordinate below => ?_⟩
    rw [Option.some.injEq] at slice
    -- The number of positions is the quotient by the stride, rounded up.
    have quotient : ((coordinate : Int) + 1) ≤ (limit - start + stride - 1) / stride := by omega
    rw [Int.le_ediv_iff_mul_le fourth, Int.add_mul, Int.one_mul] at quotient
    omega

/-- The dimensions of a slice have slices. -/
theorem inferSliceShape_cons {size : Nat} {shape : Sizes} {start limit stride : Int}
    {startIndices limitIndices strides : List Int} {result : Sizes} :
    inferSliceShape (size :: shape) (start :: startIndices) (limit :: limitIndices)
        (stride :: strides) = some result ↔
      ∃ inferred rest, result = inferred :: rest ∧
        inferSliceDim size start limit stride = some inferred ∧
        inferSliceShape shape startIndices limitIndices strides = some rest := by
  rw [inferSliceShape]
  constructor
  · intro inferred
    obtain ⟨inferred, first, others⟩ := Option.bind_eq_some_iff.mp inferred
    obtain ⟨rest, second, same⟩ := Option.bind_eq_some_iff.mp others
    exact ⟨inferred, rest, (Option.some.inj same).symm, first, second⟩
  · rintro ⟨inferred, rest, rfl, first, second⟩
    rw [first, second]
    rfl

/-- A slice has limits and a stride for each dimension. -/
theorem inferSliceShape_lengths {shape result : Sizes} {startIndices limitIndices strides : List Int}
    (inferred : inferSliceShape shape startIndices limitIndices strides = some result) :
    startIndices.length = shape.length ∧ shape.length ≤ limitIndices.length ∧
      shape.length ≤ strides.length ∧ result.length = shape.length := by
  induction shape generalizing startIndices limitIndices strides result with
  | nil =>
    cases startIndices with
    | nil =>
      cases inferred
      simp
    | cons start startIndices => cases inferred
  | cons size shape ih =>
    match startIndices, limitIndices, strides, inferred with
    | start :: startIndices, limit :: limitIndices, stride :: strides, inferred =>
      obtain ⟨inferred, rest, rfl, -, others⟩ := inferSliceShape_cons.mp inferred
      obtain ⟨starts, limits, steps, dims⟩ := ih others
      simp only [List.length_cons]
      omega

/-- The positions of a slice are those of the operand from the start on, in steps of the strides. -/
theorem exists_sliceIndex {shape result : Sizes} {startIndices limitIndices strides : List Int}
    (inferred : inferSliceShape shape startIndices limitIndices strides = some result)
    {index : Index} (within : MixedRadix.Within result index) :
    ∃ place : Index, place.map Nat.cast =
        List.zipWith (fun (start step : Int) => start + step) startIndices
          (List.zipWith (fun (coordinate : Nat) (stride : Int) => coordinate * stride) index
            strides) ∧
      MixedRadix.Within shape place ∧
      ∀ (i : Nat) (start limit : Int), startIndices[i]? = some start →
        limitIndices[i]? = some limit → ∃ coordinate : Nat, place[i]? = some coordinate ∧
          start ≤ coordinate ∧ (coordinate : Int) < limit := by
  induction shape generalizing startIndices limitIndices strides result index with
  | nil =>
    cases startIndices with
    | nil =>
      cases inferred
      cases within
      exact ⟨[], rfl, .nil, fun i start limit found => by cases found⟩
    | cons start startIndices => cases inferred
  | cons size shape ih =>
    match startIndices, limitIndices, strides, inferred with
    | start :: startIndices, limit :: limitIndices, stride :: strides, inferred =>
      obtain ⟨inferred, rest, rfl, slice, others⟩ := inferSliceShape_cons.mp inferred
      cases within with
      | @cons coordinate _ index _ below within =>
        obtain ⟨place, same, inside, between⟩ := ih others within
        obtain ⟨first, ordered, last, positive, steps⟩ := inferSliceDim_spec slice
        have step := steps coordinate below
        have forward : 0 ≤ (coordinate : Int) * stride :=
          Int.mul_nonneg (by omega) (by omega)
        have position : (((start + coordinate * stride).toNat : Nat) : Int) =
            start + coordinate * stride := Int.toNat_of_nonneg (by omega)
        refine ⟨(start + coordinate * stride).toNat :: place, ?_, .cons (by omega) inside,
          fun i first second found other => ?_⟩
        · rw [List.map_cons, position, same]
          rfl
        · cases i with
          | zero =>
            cases found
            cases other
            exact ⟨_, rfl, by omega, by omega⟩
          | succ i => exact between i first second found other

/-- A slice with valid limits and strides has the elements at its positions. -/
theorem Tensor.sliceOp_spec {α : Type} {operand : Tensor α} {result : Sizes}
    {startIndices limitIndices strides : List Int}
    (inferred : inferSliceShape operand.shape startIndices limitIndices strides = some result) :
    ∃ slice, operand.sliceOp startIndices limitIndices strides = .ok slice ∧
      slice.shape = result ∧ ∀ index, MixedRadix.Within result index → ∀ place : Index,
        place.map Nat.cast = List.zipWith (fun (start step : Int) => start + step) startIndices
          (List.zipWith (fun (coordinate : Nat) (stride : Int) => coordinate * stride) index
            strides) →
          slice.get index = operand.get place := by
  have computable : ∀ index, MixedRadix.Within result index → ∃ element,
      operand.getAt (List.zipWith (fun (start step : Int) => start + step) startIndices
        (List.zipWith (fun (coordinate : Nat) (stride : Int) => coordinate * stride) index
          strides)) = .ok element := by
    intro index within
    obtain ⟨place, same, inside, -⟩ := exists_sliceIndex inferred within
    obtain ⟨element, got, -⟩ := Tensor.get_eq inside
    exact ⟨element, by rw [← same, Tensor.getAt_map_natCast, got]⟩
  obtain ⟨slice, built⟩ := Tensor.build_eq_ok computable
  obtain ⟨shape, elements⟩ := Tensor.build_spec built
  refine ⟨slice, ?_, shape, fun index within place same => ?_⟩
  · rw [Tensor.sliceOp, inferred]
    exact built
  · rw [elements index within, ← same, Tensor.getAt_map_natCast]

end Stablehlo
