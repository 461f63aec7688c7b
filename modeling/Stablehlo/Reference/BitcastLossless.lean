import Stablehlo.Dialect.BitcastConvert
import Stablehlo.Reference.BitcastConvert
import Stablehlo.Reference.StaticShapes
import Stablehlo.Support.Blocks

/-! The conversions that keep the bits of a tensor, and may be undone. -/

namespace Stablehlo

section Conversion

variable [TypePrinter]

/-- The operand is converted to the type, which gives the result. -/
def BitcastReturns (operand : TypedTensor) (resultType : ShapedType) (result : TypedTensor) :
    Prop :=
  ∃ state, bitcastConvertOp operand resultType = .ok state ∧ result.type = resultType ∧
    state.result.data = result.elements.data.map some

/-- Each element of the operand is read once, and each element of the result written once. -/
def BitcastConverts (operand : TypedTensor) (resultType : ShapedType) (result : TypedTensor) :
    Prop :=
  ∃ state, bitcastConvertOp operand resultType = .ok state ∧ result.type = resultType ∧
    state.result.data = result.elements.data.map some ∧
    state.reads.Perm (indexSpace operand.elements.shape) ∧
    state.writes.Perm (indexSpace resultType.shape)

/-- The operand is converted to the type and back without any loss. -/
def BitcastLossless (operand : TypedTensor) (resultType : ShapedType) : Prop :=
  ∃ result, BitcastConverts operand resultType result ∧
    BitcastReturns result operand.type operand

/-- A conversion returns its result. -/
theorem BitcastConverts.returns {operand result : TypedTensor} {resultType : ShapedType}
    (converts : BitcastConverts operand resultType result) :
    BitcastReturns operand resultType result := by
  obtain ⟨state, run, type, data, -, -⟩ := converts
  exact ⟨state, run, type, data⟩

/-- The elements of the wide tensor consist of the blocks of elements of the narrow one. -/
def InBlocks (count : Nat) (wide narrow : TypedTensor) : Prop :=
  ∃ blocks, narrow.elements.data = blocks.flatten ∧
    List.Forall₂ (fun element block => block.length = count ∧
      bitcastConvertOneToMany narrow.elementType element = .ok block ∧
      bitcastConvertManyToOne wide.elementType block = .ok element) wide.elements.data blocks

variable {wide narrow : TypedTensor} {width count : Nat}

/-- Wide elements are converted to their blocks. -/
theorem InBlocks.converts_narrow (blocks : InBlocks count wide narrow) (positive : 0 < width)
    (several : 1 < count) (narrowBits : numBits narrow.elementType = .ok width)
    (wideBits : numBits wide.elementType = .ok (width * count)) :
    BitcastConverts wide narrow.type narrow := by
  obtain ⟨blocks, flat, related⟩ := blocks
  have more : width < width * count := (Nat.lt_mul_iff_one_lt_right positive).mpr several
  have converted := related.imp fun _ _ own => own.2.1
  have total : blocks.flatten.length = narrow.elements.shape.prod := by
    rw [← flat, narrow.elements.complete]
  obtain ⟨after, looped, progress⟩ := bitcastOneToMany_progress converted
    (BitcastState.progress_start wide narrow.elements.shape) rfl (by simp [total])
  rw [List.nil_append] at progress
  obtain ⟨data, writes⟩ := progress.finished total
  have length : (indexSpace wide.elements.shape).length = wide.elements.shape.prod :=
    MixedRadix.length_all _
  refine ⟨after, ?_, rfl, by rw [data, flat], ?_, .of_eq writes⟩
  · rw [bitcastConvertOp, show numBits narrow.type.elementType = _ from narrowBits, wideBits]
    show (if width < width * count then _ else _) = _
    rw [if_pos more, IndexSpaceIterator.indexBegin_eq]
    exact looped
  · rw [progress.reads, ← length, List.take_length]

/-- Blocks are converted to their wide elements. -/
theorem InBlocks.converts_wide (blocks : InBlocks count wide narrow) (positive : 0 < width)
    (several : 1 < count) (narrowBits : numBits narrow.elementType = .ok width)
    (wideBits : numBits wide.elementType = .ok (width * count)) :
    BitcastConverts narrow wide.type wide := by
  obtain ⟨blocks, flat, related⟩ := blocks
  have more : width < width * count := (Nat.lt_mul_iff_one_lt_right positive).mpr several
  have converted := (related.imp fun _ _ own => (⟨own.1, own.2.2⟩ : _ ∧ _)).flip
  have total : blocks.flatten.length = narrow.elements.shape.prod := by
    rw [← flat, narrow.elements.complete]
  obtain ⟨after, looped, progress⟩ := bitcastManyToOne_progress converted
    (BitcastState.progress_start narrow wide.elements.shape) flat (by simp [wide.elements.complete])
  rw [List.nil_append] at progress
  obtain ⟨data, writes⟩ := progress.finished wide.elements.complete
  have length : (indexSpace narrow.elements.shape).length = narrow.elements.shape.prod :=
    MixedRadix.length_all _
  refine ⟨after, ?_, rfl, data, ?_, .of_eq writes⟩
  · rw [bitcastConvertOp, show numBits wide.type.elementType = _ from wideBits, narrowBits]
    show (if width * count < width then _ else if width * count > width then _ else _) = _
    rw [if_neg (by omega), if_pos more, IndexSpaceIterator.indexBegin_eq,
      Nat.mul_div_cancel_left _ positive]
    exact looped
  · rw [progress.reads, total, Nat.zero_add, ← length, List.take_length]

/-- Elements of the same width are converted one by one. -/
theorem converts_same {operand result : TypedTensor}
    (sameShape : operand.type.shape = result.type.shape)
    (operandBits : numBits operand.elementType = .ok width)
    (resultBits : numBits result.elementType = .ok width)
    (converted : List.Forall₂ (fun element converted =>
      bitcastConvertOneToOne result.elementType element = .ok converted)
        operand.elements.data result.elements.data) :
    BitcastConverts operand result.type result := by
  have shape : result.elements.shape = operand.elements.shape := sameShape.symm
  have total : result.elements.data.length = operand.elements.shape.prod := by
    rw [← shape, result.elements.complete]
  have start : BitcastState.Progress operand operand.elements.shape ([] : List Element).length []
      (.start operand.elements.shape) := BitcastState.progress_start _ _
  obtain ⟨after, looped, progress⟩ := bitcastOneToOne_progress converted start List.drop_zero
  rw [List.nil_append] at progress
  obtain ⟨data, writes⟩ := progress.finished total
  have length : (indexSpace operand.elements.shape).length = operand.elements.shape.prod :=
    MixedRadix.length_all _
  refine ⟨after, ?_, rfl, data, ?_, .of_eq (by rw [writes, ← shape]; rfl)⟩
  · rw [bitcastConvertOp, show numBits result.type.elementType = _ from resultBits, operandBits]
    show (if width < width then _ else if width > width then _ else _) = _
    rw [if_neg (by omega), if_neg (by omega), show result.type.shape = _ from shape]
    exact looped
  · rw [progress.reads, ← length, List.take_length]

/-- Every tensor consists of blocks of elements of a smaller type. -/
theorem exists_narrow {narrowType : ShapedType}
    (supported : isSupportedType narrowType.elementType = true) (positive : 0 < width)
    (several : 0 < count)
    (narrowBits : numBits narrowType.elementType = .ok width)
    (wideBits : numBits wide.elementType = .ok (width * count))
    (sizes : narrowType.shape.prod = wide.elements.shape.prod * count) :
    ∃ narrow, InBlocks count wide narrow ∧ narrow.type = narrowType := by
  have each : ∀ element ∈ wide.elements.data, ∃ block, element.type = wide.elementType ∧
      bitcastConvertOneToMany narrowType.elementType element = .ok block ∧
      bitcastConvertManyToOne element.type block = .ok element ∧ block.length = count ∧
      ∀ member ∈ block, member.type = narrowType.elementType := by
    intro element listed
    have own := wide.typed element listed
    obtain ⟨block, spec⟩ := bitcastConvertOneToMany_spec supported narrowBits
      (by rw [own, wideBits]) several positive
    exact ⟨block, own, spec⟩
  obtain ⟨blocks, related, origins⟩ := Blocks.exists_forall₂ each
  -- The blocks, one after the other, are the elements of the narrow tensor.
  have each : ∀ block ∈ blocks, block.length = count ∧
      ∀ member ∈ block, member.type = narrowType.elementType := by
    intro block listed
    obtain ⟨element, -, own⟩ := origins block listed
    exact ⟨own.2.2.2.1, own.2.2.2.2⟩
  have complete : blocks.flatten.length = narrowType.shape.prod := by
    rw [Blocks.length_flatten_blocks fun block listed => (each block listed).1, ← related.length_eq,
      wide.elements.complete, sizes]
  have typed : ∀ member ∈ blocks.flatten, member.type = narrowType.elementType := by
    intro member listed
    obtain ⟨block, inside, own⟩ := List.mem_flatten.mp listed
    exact (each block inside).2 member own
  refine ⟨⟨narrowType.elementType, ⟨narrowType.shape, blocks.flatten, complete⟩, typed⟩,
    ⟨blocks, rfl, related.imp fun element block own => ?_⟩, rfl⟩
  obtain ⟨type, forth, back, length, -⟩ := own
  exact ⟨length, forth, type ▸ back⟩

/-- Every tensor with the right size consists of the blocks of elements of a bigger type. -/
theorem exists_wide {wideType : ShapedType}
    (supported : isSupportedType wideType.elementType = true) (positive : 0 < width)
    (several : 0 < count)
    (narrowBits : numBits narrow.elementType = .ok width)
    (wideBits : numBits wideType.elementType = .ok (width * count))
    (sizes : narrow.elements.shape.prod = wideType.shape.prod * count) :
    ∃ wide, InBlocks count wide narrow ∧ wide.type = wideType := by
  obtain ⟨blocks, flat, number, lengths⟩ :=
    Blocks.exists_blocks (narrow.elements.complete.trans sizes)
  have each : ∀ block ∈ blocks, ∃ element, block.length = count ∧
      bitcastConvertManyToOne wideType.elementType block = .ok element ∧
      bitcastConvertOneToMany narrow.elementType element = .ok block ∧
      element.type = wideType.elementType := by
    intro block listed
    have length := lengths block listed
    have typed : ∀ member ∈ block, member.type = narrow.elementType := by
      intro member own
      apply narrow.typed
      rw [flat]
      exact List.mem_flatten_of_mem listed own
    have nonempty : block ≠ [] := by
      rintro rfl
      rw [List.length_nil] at length
      omega
    obtain ⟨element, spec⟩ := bitcastConvertManyToOne_spec supported typed narrowBits
      (by rw [length, wideBits]) nonempty positive
    exact ⟨element, length, spec⟩
  obtain ⟨elements, related, origins⟩ := Blocks.exists_forall₂ each
  have complete : elements.length = wideType.shape.prod := by
    rw [← related.length_eq, number]
  have typed : ∀ element ∈ elements, element.type = wideType.elementType := by
    intro element listed
    obtain ⟨block, -, own⟩ := origins element listed
    exact own.2.2.2
  refine ⟨⟨wideType.elementType, ⟨wideType.shape, elements, complete⟩, typed⟩,
    ⟨blocks, flat, (related.imp fun block element own => ?_).flip⟩, rfl⟩
  exact ⟨own.1, own.2.2.1, own.2.1⟩

/-- Every tensor has the bits of a tensor of any type with the same width and sizes. -/
theorem lossless_same {operand : TypedTensor} {resultType : ShapedType}
    (supported : isSupportedType resultType.elementType = true)
    (operandBits : numBits operand.elementType = .ok width)
    (resultBits : numBits resultType.elementType = .ok width)
    (sameShape : operand.elements.shape = resultType.shape) :
    BitcastLossless operand resultType := by
  have each : ∀ element ∈ operand.elements.data, ∃ result,
      bitcastConvertOneToOne resultType.elementType element = .ok result ∧
      bitcastConvertOneToOne operand.elementType result = .ok element ∧
      result.type = resultType.elementType := by
    intro element listed
    have own := operand.typed element listed
    have spec := bitcastConvertOneToOne_spec supported (by rw [own, operandBits, resultBits])
    rwa [own] at spec
  obtain ⟨elements, related, origins⟩ := Blocks.exists_forall₂ each
  have complete : elements.length = resultType.shape.prod := by
    rw [← related.length_eq, operand.elements.complete, sameShape]
  have typed : ∀ element ∈ elements, element.type = resultType.elementType := by
    intro element listed
    obtain ⟨source, -, own⟩ := origins element listed
    exact own.2.2
  let result : TypedTensor :=
    ⟨resultType.elementType, ⟨resultType.shape, elements, complete⟩, typed⟩
  have forth := related.imp fun _ _ own => own.1
  have back := (related.imp fun _ _ own => own.2.1).flip
  refine ⟨result, @converts_same _ width operand result sameShape operandBits resultBits forth, ?_⟩
  exact (@converts_same _ width result operand sameShape.symm resultBits operandBits back).returns

end Conversion

section Verified

/-- The bit width the verifier finds is the number of bits. -/
theorem getBitWidth_eq {type : StablehloType} {width : Nat} (wide : numBits type = .ok width) :
    getBitWidth type = .ok width := by
  cases type with
  | complex elementType =>
    rw [numBits] at wide
    split at wide
    · next supported =>
      cases elementType with
      | float semantics =>
        obtain ⟨half, found, same⟩ := Fallible.bind_eq_ok.mp wide
        cases found
        cases same
        rw [Nat.mul_comm]
        rfl
      | _ => cases supported
    · cases wide
  | integer | float => exact congrArg _ (Except.ok.inj wide)
  | _ => cases wide

/-- Shapes of the same rank whose dimensions are compatible are the same. -/
theorem eq_of_zip_compatible {first second : List Int64} {firstShape secondShape : Sizes}
    (firstKnown : first.map Int64.toInt = firstShape.map Nat.cast)
    (secondKnown : second.map Int64.toInt = secondShape.map Nat.cast)
    (sameRank : firstShape.length = secondShape.length)
    (compatible : (first.zip second).all (fun (firstDim, secondDim) =>
      verifyCompatibleDims firstDim secondDim) = true) : firstShape = secondShape := by
  induction first generalizing firstShape second secondShape with
  | nil =>
    cases firstShape with
    | nil => exact (List.length_eq_zero_iff.mp sameRank.symm).symm
    | cons _ _ => cases firstKnown
  | cons dim first ih =>
    cases firstShape with
    | nil => cases firstKnown
    | cons size firstShape =>
      cases second with
      | nil =>
        cases secondShape with
        | nil => cases sameRank
        | cons _ _ => cases secondKnown
      | cons other second =>
        cases secondShape with
        | nil => cases secondKnown
        | cons otherSize secondShape =>
          simp only [List.map_cons, List.cons.injEq] at firstKnown secondKnown
          simp only [List.length_cons, Nat.succ_inj] at sameRank
          simp only [List.zip_cons_cons, List.all_cons, Bool.and_eq_true] at compatible
          rw [eq_of_verifyCompatibleDims firstKnown.1 secondKnown.1 compatible.1,
            ih firstKnown.2 secondKnown.2 sameRank compatible.2]

variable [TypePrinter]

/-- The smaller elements have one more dimension, whose size is the ratio of the widths. -/
theorem innermost_eq {operandType targetType : RankedTensorType} {small big known : List Int64}
    {smallShape bigShape : Sizes} {smallWidth bigWidth : Nat}
    (smallKnown : small.map Int64.toInt = smallShape.map Nat.cast)
    (bigKnown : big.map Int64.toInt = bigShape.map Nat.cast)
    (verified : verifyInnermostDimension operandType targetType small big smallWidth bigWidth =
      .ok known)
    (compatible : (known.zip big).all (fun (firstDim, secondDim) =>
      verifyCompatibleDims firstDim secondDim) = true) :
    ∃ count, smallShape = bigShape ++ [count] ∧ count * smallWidth = bigWidth := by
  have smallLength : small.length = smallShape.length := by
    rw [← List.length_map Int64.toInt, smallKnown, List.length_map]
  have bigLength : big.length = bigShape.length := by
    rw [← List.length_map Int64.toInt, bigKnown, List.length_map]
  unfold verifyInnermostDimension at verified
  split at verified
  · cases verified
  · next oneMore =>
    -- The last dimension is taken off.
    rcases List.eq_nil_or_concat smallShape with empty | ⟨init, count, rfl⟩
    · rw [empty] at smallLength
      simp at smallLength
      simp [smallLength] at oneMore
    · rw [List.concat_eq_append] at smallKnown smallLength ⊢
      rw [List.map_append, List.map_eq_append_iff] at smallKnown
      obtain ⟨dims, last, rfl, initKnown, lastKnown⟩ := smallKnown
      rw [List.map_singleton, List.map_eq_singleton_iff] at lastKnown
      obtain ⟨back, rfl, backKnown⟩ := lastKnown
      rw [List.getLast?_append, List.dropLast_concat] at verified
      dsimp only [List.getLast?_singleton, Option.some_or] at verified
      rw [if_neg (by rw [isDynamicDimSize_of_natCast backKnown]; decide)] at verified
      obtain ⟨width, product, rest⟩ := Fallible.bind_eq_ok.mp verified
      split at rest
      · cases rest
      · next sameWidth =>
        cases rest
        refine ⟨count, ?_, ?_⟩
        · rw [List.length_append, List.length_singleton] at smallLength oneMore
          have sameRank : init.length = bigShape.length := by
            rw [List.length_append, List.length_singleton] at smallLength
            omega
          rw [eq_of_zip_compatible initKnown bigKnown sameRank compatible]
        · have value := checkedInt64_eq_ok.mp product
          rw [not_not.mp sameWidth, backKnown] at value
          exact_mod_cast value.symm

/-- What the verifier makes sure of: either one more dimension for the smaller elements, or shapes
that agree as far as both of them go. -/
theorem shapes_of_verified {operandRanked resultRanked : RankedTensorType}
    {operandType resultType : ShapedType} {operandWidth resultWidth : Nat}
    (operandStatic : operandRanked.IsStatic operandType)
    (resultStatic : resultRanked.IsStatic resultType)
    (operandBits : numBits operandType.elementType = .ok operandWidth)
    (resultBits : numBits resultType.elementType = .ok resultWidth)
    (accepted : verifyBitcastConvertOp operandRanked resultRanked = .ok ()) :
    (operandWidth < resultWidth ∧ ∃ count, operandType.shape = resultType.shape ++ [count] ∧
        count * operandWidth = resultWidth) ∨
      (resultWidth < operandWidth ∧ ∃ count, resultType.shape = operandType.shape ++ [count] ∧
        count * resultWidth = operandWidth) ∨
      (operandWidth = resultWidth ∧ (operandType.shape.length = resultType.shape.length →
        operandType.shape = resultType.shape)) := by
  obtain ⟨operandKnown, operandElement⟩ := operandStatic
  obtain ⟨resultKnown, resultElement⟩ := resultStatic
  unfold verifyBitcastConvertOp at accepted
  rw [operandElement, resultElement] at accepted
  dsimp only at accepted
  split at accepted
  · cases accepted
  · rw [getBitWidth_eq operandBits, getBitWidth_eq resultBits] at accepted
    simp only [Fallible.ok_bind] at accepted
    rcases Nat.lt_trichotomy operandWidth resultWidth with less | same | more
    · left
      rw [if_pos (by omega), if_pos less, if_pos less, Nat.min_eq_right (by omega),
        Nat.max_eq_left (by omega)] at accepted
      obtain ⟨known, dims, rest⟩ := Fallible.bind_eq_ok.mp accepted
      split at rest
      · next compatible => exact ⟨less, innermost_eq operandKnown resultKnown dims compatible⟩
      · cases rest
    · right; right
      have notLess : ¬ operandWidth < resultWidth := by omega
      rw [if_neg (not_not.mpr same), if_neg notLess, if_neg notLess] at accepted
      split at accepted
      · next compatible =>
        exact ⟨same, fun sameRank =>
          (eq_of_zip_compatible resultKnown operandKnown sameRank.symm compatible).symm⟩
      · cases accepted
    · right; left
      rw [if_pos (by omega), if_neg (by omega), if_neg (by omega), Nat.min_eq_left (by omega),
        Nat.max_eq_right (by omega)] at accepted
      obtain ⟨known, dims, rest⟩ := Fallible.bind_eq_ok.mp accepted
      split at rest
      · next compatible => exact ⟨more, innermost_eq resultKnown operandKnown dims compatible⟩
      · cases rest

end Verified

section Lossless

variable [TypePrinter]

/-- Elements of different widths, or of the same number of dimensions, or no elements at all. -/
def BitcastAligned (operandType resultType : ShapedType) : Prop :=
  numBits operandType.elementType ≠ numBits resultType.elementType ∨
    operandType.shape.length = resultType.shape.length ∨
    (0 ∈ operandType.shape ∧ 0 ∈ resultType.shape)

/-- Without elements there is nothing to convert. -/
theorem lossless_empty {operand : TypedTensor} {resultType : ShapedType} {width : Nat}
    (operandBits : numBits operand.elementType = .ok width)
    (resultBits : numBits resultType.elementType = .ok width)
    (operandEmpty : operand.elements.shape.prod = 0) (resultEmpty : resultType.shape.prod = 0) :
    BitcastLossless operand resultType := by
  have noIndex {shape : Sizes} (empty : shape.prod = 0) : indexSpace shape = [] := by
    rw [← List.length_eq_zero_iff, indexSpace, MixedRadix.length_all, empty]
  have run {first : TypedTensor} {second : ShapedType}
      (firstBits : numBits first.elementType = .ok width)
      (secondBits : numBits second.elementType = .ok width) (empty : second.shape.prod = 0) :
      bitcastConvertOp first second = .ok (.start second.shape) := by
    rw [bitcastConvertOp, firstBits, secondBits]
    show (if width < width then _ else if width > width then _ else _) = _
    rw [if_neg (by omega), if_neg (by omega), noIndex empty]
    rfl
  let result : TypedTensor :=
    ⟨resultType.elementType, ⟨resultType.shape, [], by rw [resultEmpty]; rfl⟩, by simp⟩
  have data : operand.elements.data = [] := by
    rw [← List.length_eq_zero_iff, operand.elements.complete, operandEmpty]
  refine ⟨result, ⟨_, run operandBits resultBits resultEmpty, rfl, ?_, ?_, ?_⟩,
    ⟨_, @run result operand.type resultBits operandBits operandEmpty, rfl, ?_⟩⟩
  · show List.replicate resultType.shape.prod none = _
    rw [resultEmpty]
    rfl
  · rw [noIndex operandEmpty]
    exact .refl _
  · rw [noIndex resultEmpty]
    exact .refl _
  · show List.replicate operand.elements.shape.prod none = _
    rw [operandEmpty, data]
    rfl

/-- Elements of the same width, in shapes of different rank, are not converted unless there are
none. -/
theorem empty_of_lossless {operand : TypedTensor} {resultType : ShapedType} {width : Nat}
    (operandBits : numBits operand.elementType = .ok width)
    (resultBits : numBits resultType.elementType = .ok width)
    (otherRank : operand.elements.shape.length ≠ resultType.shape.length)
    (lossless : BitcastLossless operand resultType) :
    operand.elements.shape.prod = 0 ∧ resultType.shape.prod = 0 := by
  obtain ⟨result, ⟨state, run, -, -, reads, -⟩, -⟩ := lossless
  rw [bitcastConvertOp, operandBits, resultBits] at run
  change (if width < width then _ else if width > width then _ else _) = _ at run
  rw [if_neg (by omega), if_neg (by omega)] at run
  cases indices : indexSpace resultType.shape with
  | nil =>
    rw [indices] at run
    cases run
    have empty := reads.length_eq
    rw [indexSpace, MixedRadix.length_all] at empty
    have length := congrArg List.length indices
    rw [indexSpace, MixedRadix.length_all] at length
    exact ⟨empty.symm, length⟩
  | cons index rest =>
    -- The first index has a coordinate for each dimension of the result.
    have within : MixedRadix.Within resultType.shape index := by
      rw [← MixedRadix.mem_all]
      show index ∈ indexSpace resultType.shape
      rw [indices]
      exact List.mem_cons_self
    have outside : Sizes.inBounds index operand.elements.shape = false := by
      have length := within.length_eq
      simp only [Sizes.inBounds, Bool.and_eq_false_iff, beq_eq_false_iff_ne]
      left
      omega
    rw [indices, bitcastOneToOne, BitcastState.read, Tensor.get, flattenIndex,
      if_neg (by rw [outside]; decide)] at run
    cases run

/-- A conversion that the verifier accepts is lossless exactly when elements of the same width are
arranged in the same number of dimensions, or there are none. -/
theorem bitcastLossless_iff {operand : TypedTensor} {resultType : ShapedType}
    {operandRanked resultRanked : RankedTensorType}
    (operandStatic : operandRanked.IsStatic operand.type)
    (resultStatic : resultRanked.IsStatic resultType)
    (operandSupported : isSupportedType operand.elementType = true)
    (resultSupported : isSupportedType resultType.elementType = true)
    (accepted : verifyBitcastConvertOp operandRanked resultRanked = .ok ()) :
    BitcastLossless operand resultType ↔ BitcastAligned operand.type resultType := by
  obtain ⟨operandWidth, operandPositive, operandBits⟩ := numBits_of_supported operandSupported
  obtain ⟨resultWidth, resultPositive, resultBits⟩ := numBits_of_supported resultSupported
  have operandBits' : numBits operand.type.elementType = .ok operandWidth := operandBits
  have shapes := shapes_of_verified operandStatic resultStatic operandBits' resultBits accepted
  rw [BitcastAligned, operandBits', resultBits]
  rcases shapes with ⟨less, count, shape, ratio⟩ | ⟨more, count, shape, ratio⟩ | ⟨same, shape⟩
  · -- Blocks of the operand are converted to elements of the result.
    have several : 1 < count := by
      by_contra few
      rcases (show count = 0 ∨ count = 1 by omega) with rfl | rfl <;> omega
    have sizes : operand.elements.shape.prod = resultType.shape.prod * count := by
      rw [show operand.elements.shape = _ from shape, List.prod_append, List.prod_singleton]
    rw [← ratio, Nat.mul_comm] at resultBits
    obtain ⟨wide, blocks, rfl⟩ :=
      exists_wide resultSupported operandPositive (by omega) operandBits resultBits sizes
    refine iff_of_true ⟨wide, ?_, ?_⟩ (.inl fun same => by rw [Except.ok.injEq] at same; omega)
    · exact blocks.converts_wide operandPositive several operandBits resultBits
    · exact (blocks.converts_narrow operandPositive several operandBits resultBits).returns
  · -- Each element of the operand is converted to a block of elements of the result.
    have several : 1 < count := by
      by_contra few
      rcases (show count = 0 ∨ count = 1 by omega) with rfl | rfl <;> omega
    have sizes : resultType.shape.prod = operand.elements.shape.prod * count := by
      rw [shape, List.prod_append, List.prod_singleton]
      rfl
    rw [← ratio, Nat.mul_comm] at operandBits
    obtain ⟨narrow, blocks, rfl⟩ :=
      exists_narrow resultSupported resultPositive (by omega) resultBits operandBits sizes
    refine iff_of_true ⟨narrow, ?_, ?_⟩ (.inl fun same => by rw [Except.ok.injEq] at same; omega)
    · exact blocks.converts_narrow resultPositive several resultBits operandBits
    · exact (blocks.converts_wide resultPositive several resultBits operandBits).returns
  · subst same
    constructor
    · intro lossless
      by_cases rank : operand.type.shape.length = resultType.shape.length
      · exact .inr (.inl rank)
      · obtain ⟨operandEmpty, resultEmpty⟩ :=
          empty_of_lossless operandBits resultBits rank lossless
        exact .inr (.inr ⟨List.prod_eq_zero_iff.mp operandEmpty,
          List.prod_eq_zero_iff.mp resultEmpty⟩)
    · rintro (different | rank | ⟨operandEmpty, resultEmpty⟩)
      · exact absurd rfl different
      · exact lossless_same resultSupported operandBits resultBits (shape rank)
      · exact lossless_empty operandBits resultBits (List.prod_eq_zero_iff.mpr operandEmpty)
          (List.prod_eq_zero_iff.mpr resultEmpty)

end Lossless

/-- A tensor of the type whose bits are all zero. -/
def zeroTensor (shape : Sizes) (width : Nat)
    (fits : (ElementValue.integer ⟨width, 0⟩).fits (.integer .signless width) = true) :
    TypedTensor where
  elementType := .integer .signless width
  elements := {
    shape
    data := List.replicate shape.prod ⟨.integer .signless width, .integer ⟨width, 0⟩, fits⟩
    complete := List.length_replicate
  }
  typed element listed := by rw [List.eq_of_mem_replicate listed]

/-- Four numbers of 16 bits are converted to two numbers of 32 bits and back. -/
theorem bitcastLossless_iff_pairs :
    @BitcastLossless plainPrinter (zeroTensor [2, 2] 16 rfl) ⟨[2], .integer .signless 32⟩ ↔
      BitcastAligned (zeroTensor [2, 2] 16 rfl).type ⟨[2], .integer .signless 32⟩ :=
  @bitcastLossless_iff plainPrinter _ _ ⟨[2, 2], .integer .signless 16, none⟩
    ⟨[2], .integer .signless 32, none⟩ ⟨rfl, rfl⟩ ⟨rfl, rfl⟩ rfl rfl rfl

/-- A number in a row of a matrix is not converted to one in a vector, which the verifier
accepts. -/
theorem square_not_lossless :
    @verifyBitcastConvertOp plainPrinter ⟨[1, 1], .integer .signless 32, none⟩
        ⟨[1], .integer .signless 32, none⟩ = .ok () ∧
      (⟨[1, 1], .integer .signless 32, none⟩ : RankedTensorType).IsStatic
        (zeroTensor [1, 1] 32 rfl).type ∧
      (⟨[1], .integer .signless 32, none⟩ : RankedTensorType).IsStatic
        ⟨[1], .integer .signless 32⟩ ∧
      ¬ @BitcastLossless plainPrinter (zeroTensor [1, 1] 32 rfl) ⟨[1], .integer .signless 32⟩ := by
  refine ⟨rfl, ⟨rfl, rfl⟩, ⟨rfl, rfl⟩, ?_⟩
  rintro ⟨result, ⟨state, run, -⟩, -⟩
  -- The index of the result has no coordinate for the second dimension of the operand.
  cases run

end Stablehlo
