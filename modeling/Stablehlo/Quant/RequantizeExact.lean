import Stablehlo.Quant.Requantize

/-! Requantization stores what is expected where no stored integer needs its highest bit. -/

namespace Stablehlo

namespace Quant

section Channels

variable {type input output : QuantType} {index : Index} {params inputParams outputParams : Params}

/-- The parameters at an index are the ones of its channel. -/
theorem channel_of_paramsAt {channels : UniformQuantizedPerAxisType} {channel : Nat}
    (axis : type.SameAxis (.perAxis channels))
    (place : index[channels.quantizedDimension]? = some channel)
    (found : type.paramsAt index = some params) :
    channelScale type channel = some params.scale ∧
      channelZeroPoint type channel = some params.zeroPoint := by
  cases type with
  | perTensor type =>
    cases found
    exact ⟨rfl, rfl⟩
  | perAxis type =>
    rw [QuantType.paramsAt, show type.quantizedDimension = channels.quantizedDimension from axis,
      place, Option.bind_eq_bind, Option.bind_some] at found
    constructor
    · rw [channelScale, UniformQuantizedPerAxisType.getScales, List.getElem?_map, found,
        Option.map_some]
    · rw [channelZeroPoint, UniformQuantizedPerAxisType.getZeroPoints, List.getElem?_map, found,
        Option.map_some]

/-- The scale and the zero point of a channel are the quotient and the difference. -/
theorem mergedChannel_of_paramsAt {channels : UniformQuantizedPerAxisType} {channel : Nat}
    (inputAxis : input.SameAxis (.perAxis channels))
    (outputAxis : output.SameAxis (.perAxis channels))
    (place : index[channels.quantizedDimension]? = some channel)
    (inputFound : input.paramsAt index = some inputParams)
    (outputFound : output.paramsAt index = some outputParams) :
    mergedChannel input output channel =
      some (inputParams.scale / outputParams.scale, outputParams.zeroPoint -
        inputParams.zeroPoint * (inputParams.scale / outputParams.scale)) := by
  obtain ⟨inputScale, inputZp⟩ := channel_of_paramsAt inputAxis place inputFound
  obtain ⟨outputScale, outputZp⟩ := channel_of_paramsAt outputAxis place outputFound
  rw [mergedChannel, inputScale, inputZp, outputScale, outputZp]
  rfl

/-- Types that fit one shape have as many channels along one dimension. -/
theorem isSome_mergedChannel {channels : UniformQuantizedPerAxisType} {shape : Sizes}
    {channel : Nat} (inputAxis : input.SameAxis (.perAxis channels))
    (outputAxis : output.SameAxis (.perAxis channels)) (inputFits : input.Fits shape)
    (outputFits : output.Fits shape) (fits : (QuantType.perAxis channels).Fits shape)
    (below : channel < channels.params.length) :
    (mergedChannel input output channel).isSome = true := by
  have found (type : QuantType) (axis : type.SameAxis (.perAxis channels))
      (typeFits : type.Fits shape) :
      ∃ scale zeroPoint, channelScale type channel = some scale ∧
        channelZeroPoint type channel = some zeroPoint := by
    cases type with
    | perTensor type => exact ⟨_, _, rfl, rfl⟩
    | perAxis type =>
      have sizes : shape[type.quantizedDimension]? = some type.params.length := typeFits
      rw [show type.quantizedDimension = channels.quantizedDimension from axis] at sizes
      have same : some type.params.length = some channels.params.length :=
        sizes.symm.trans fits
      rw [Option.some_inj] at same
      rw [channelScale, channelZeroPoint, UniformQuantizedPerAxisType.getScales,
        UniformQuantizedPerAxisType.getZeroPoints, List.getElem?_map, List.getElem?_map,
        List.getElem?_eq_getElem (by omega)]
      exact ⟨_, _, rfl, rfl⟩
  obtain ⟨inputScale, inputZp, isInputScale, isInputZp⟩ := found input inputAxis inputFits
  obtain ⟨outputScale, outputZp, isOutputScale, isOutputZp⟩ := found output outputAxis outputFits
  rw [mergedChannel, isInputScale, isInputZp, isOutputScale, isOutputZp]
  rfl

/-- The parameters of a type at an index of a shape that it fits. -/
theorem exists_paramsAt {shape : Sizes} (fits : type.Fits shape)
    (within : MixedRadix.Within shape index) : ∃ params, type.paramsAt index = some params := by
  cases type with
  | perTensor type => exact ⟨_, rfl⟩
  | perAxis type =>
    have size : shape[type.quantizedDimension]? = some type.params.length := fits
    obtain ⟨short, isLength⟩ := List.getElem?_eq_some_iff.mp size
    have length := within.length_eq
    have below := within.get (by omega : type.quantizedDimension < index.length) short
    rw [List.get_eq_getElem, List.get_eq_getElem, isLength] at below
    rw [QuantType.paramsAt, List.getElem?_eq_getElem (by omega), Option.bind_eq_bind,
      Option.bind_some, List.getElem?_eq_getElem below]
    exact ⟨_, rfl⟩

/-- Scales and zero points of channels are applied as those at the index. -/
theorem applyMergedChannels_eq {channels : UniformQuantizedPerAxisType} {shape : Sizes}
    (inputAxis : input.SameAxis (.perAxis channels))
    (outputAxis : output.SameAxis (.perAxis channels)) (inputFits : input.Fits shape)
    (outputFits : output.Fits shape) (fits : (QuantType.perAxis channels).Fits shape)
    (within : MixedRadix.Within shape index) (inputFound : input.paramsAt index = some inputParams)
    (outputFound : output.paramsAt index = some outputParams) (number : Rat) :
    applyMergedChannels input output channels index number =
      some (number * (inputParams.scale / outputParams.scale) + (outputParams.zeroPoint -
        inputParams.zeroPoint * (inputParams.scale / outputParams.scale))) := by
  obtain ⟨channelParams, found⟩ := exists_paramsAt fits within
  obtain ⟨channel, place, listed⟩ := Option.bind_eq_some_iff.mp found
  obtain ⟨below, -⟩ := List.getElem?_eq_some_iff.mp listed
  obtain ⟨merged, looped, length, results⟩ :=
    @Fallible.mapM_range_eq_some _ channels.params.length _
    fun channel below => isSome_mergedChannel inputAxis outputAxis inputFits outputFits fits below
  have value := (results channel below).trans
    (mergedChannel_of_paramsAt inputAxis outputAxis place inputFound outputFound)
  have scale : (Constant.vector (merged.map Prod.fst) channels.quantizedDimension).broadcast index =
      some (inputParams.scale / outputParams.scale) := by
    rw [Constant.broadcast, place, Option.bind_eq_bind, Option.bind_some, List.getElem?_map, value]
    rfl
  have zeroPoint : (Constant.vector (merged.map Prod.snd) channels.quantizedDimension).broadcast
      index = some (outputParams.zeroPoint - inputParams.zeroPoint *
        (inputParams.scale / outputParams.scale)) := by
    rw [Constant.broadcast, place, Option.bind_eq_bind, Option.bind_some, List.getElem?_map, value]
    rfl
  rw [applyMergedChannels, UniformQuantizedPerAxisType.getScales, List.length_map, looped,
    Option.bind_eq_bind, Option.bind_some, scale, Option.bind_eq_bind, Option.bind_some]
  split_ifs with added
  · rw [zeroPoint]
    rfl
  · -- The zero point that is not added is zero.
    have member := List.mem_of_getElem? value
    have zero := List.any_eq_false.mp (Bool.eq_false_iff.mpr added) _ member
    simp only [ne_eq, decide_not, Bool.not_eq_true, Bool.not_eq_false', decide_eq_true_eq] at zero
    rw [zero, add_zero]

/-- The scale and the zero point of the types are applied as those at the index. -/
theorem applyMergedScalesAndZps_eq {shape : Sizes} (axis : input.SameAxis output)
    (inputFits : input.Fits shape) (outputFits : output.Fits shape)
    (within : MixedRadix.Within shape index) (inputFound : input.paramsAt index = some inputParams)
    (outputFound : output.paramsAt index = some outputParams) (number : Rat) :
    applyMergedScalesAndZps input output index number =
      some (number * (inputParams.scale / outputParams.scale) + (outputParams.zeroPoint -
        inputParams.zeroPoint * (inputParams.scale / outputParams.scale))) := by
  have itself (type : UniformQuantizedPerAxisType) :
      QuantType.SameAxis (.perAxis type) (.perAxis type) := rfl
  cases output with
  | perAxis outputType =>
    have applied := applyMergedChannels_eq axis (itself outputType) inputFits outputFits
      outputFits within inputFound outputFound number
    cases input <;> exact applied
  | perTensor outputType =>
    cases input with
    | perAxis inputType =>
      have apart : QuantType.SameAxis (.perTensor outputType) (.perAxis inputType) := trivial
      exact applyMergedChannels_eq (itself inputType) apart inputFits outputFits inputFits within
        inputFound outputFound number
    | perTensor inputType =>
      cases inputFound
      cases outputFound
      rw [applyMergedScalesAndZps]
      by_cases zero : (outputType.getZeroPoint : Rat) -
          inputType.getZeroPoint * (inputType.getScale / outputType.getScale) = 0
      · rw [if_neg (not_not.mpr zero)]
        exact congrArg some ((congrArg _ zero).trans (add_zero _)).symm
      · rw [if_pos zero]
        rfl

end Channels

section Rescaling

variable {input output : Params} {storage : StorageType}

/-- Clamping keeps the order. -/
theorem clamp_mono {least number other most : Rat} (less : number ≤ other) :
    clamp least number most ≤ clamp least other most :=
  min_le_min_right most (max_le_max_right least less)

/-- The expected integer can be stored. -/
theorem stores_rescaled (input output : Params) (storage : StorageType) (stored : Int) :
    storage.Stores (rescaled input output storage stored) := by
  have ordered : (storage.storageTypeMin : Rat) ≤ storage.storageTypeMax := by
    exact_mod_cast storage.ordered.le
  exact ⟨le_roundEven (le_min (le_max_right _ _) ordered), roundEven_le (min_le_right _ _)⟩

/-- Expected integers are in the order of the stored ones. -/
theorem rescaled_mono (positive : 0 < input.scale) (outputPositive : 0 < output.scale)
    {stored other : Int} (less : stored ≤ other) :
    rescaled input output storage stored ≤ rescaled input output storage other := by
  have cast : (stored : Rat) ≤ other := by exact_mod_cast less
  apply roundEven_mono
  apply clamp_mono
  gcongr

/-- Between equal types, the same integer is expected. -/
theorem rescaled_self {params : Params} (positive : 0 < params.scale) {stored : Int}
    (stores : storage.Stores stored) : rescaled params params storage stored = stored := by
  have least : (storage.storageTypeMin : Rat) ≤ stored := by exact_mod_cast stores.1
  have most : (stored : Rat) ≤ storage.storageTypeMax := by exact_mod_cast stores.2
  have number : ((stored : Rat) - params.zeroPoint) * params.scale / params.scale +
      params.zeroPoint = stored := by
    field_simp
    ring
  rw [rescaled, number, clamp, max_eq_left least, min_eq_left most, roundEven_intCast]

/-- An integer is converted to the nearest one with a sign. -/
theorem toInt_convertToInteger {width : Nat} (positive : 0 < width) (number : Int) :
    (convertToInteger width number).toInt =
      max (-2 ^ (width - 1)) (min (2 ^ (width - 1) - 1) number) := by
  have truncated : truncate (number : Rat) = number := by
    unfold truncate
    split_ifs <;> simp
  have half : (0 : Int) < 2 ^ (width - 1) := by positivity
  rw [convertToInteger, truncated]
  apply BitVec.toInt_ofInt_eq_self positive
  · exact le_max_left _ _
  · omega

/-- What is read from a stored integer, which is at most the greatest one with a sign. -/
theorem read_convertToInteger (positive : 0 < storage.width) {number : Int}
    (stores : storage.Stores number) :
    storage.read (convertToInteger storage.width number) =
      if storage.isSigned then number else min number (2 ^ (storage.width - 1) - 1) := by
  have converted := toInt_convertToInteger positive number
  have fits := storage.fits
  have half : (0 : Int) < 2 ^ (storage.width - 1) := by positivity
  obtain ⟨least, most⟩ := stores
  unfold StorageType.read
  cases sign : storage.isSigned with
  | true =>
    simp only [sign, if_true] at fits ⊢
    omega
  | false =>
    simp only [sign, Bool.false_eq_true, if_false] at fits ⊢
    -- Without a sign, the nearest integer is none below zero.
    have nonneg : 0 ≤ (convertToInteger storage.width number).toInt := by omega
    rw [BitVec.toInt_eq_toNat_of_msb] at converted
    · omega
    · rw [BitVec.msb_eq_toInt, decide_eq_false_iff_not]
      omega

/-- The integer with a sign that the bits of a stored one are. -/
theorem toInt_of_read (positive : 0 < storage.width) (bits : BitVec storage.width) :
    bits.toInt = if storage.isSigned = true ∨ storage.read bits < 2 ^ (storage.width - 1) then
      storage.read bits else storage.read bits - 2 ^ storage.width := by
  have bound := bits.isLt
  have double : 2 ^ storage.width = 2 * 2 ^ (storage.width - 1) := by
    rw [← Nat.pow_succ']
    congr 1
    omega
  have cast : ((2 ^ (storage.width - 1) : Nat) : Int) = 2 ^ (storage.width - 1) := by norm_num
  have castDouble : (2 : Int) ^ storage.width = 2 * 2 ^ (storage.width - 1) := by
    exact_mod_cast double
  unfold StorageType.read
  cases storage.isSigned with
  | true => simp
  | false =>
    simp only [Bool.false_eq_true, if_false, false_or]
    rw [BitVec.toInt_eq_toNat_cond]
    split_ifs <;> omega

end Rescaling

section Exactness

variable {type input output : QuantType} {index : Index} {shape : Sizes}
  {params inputParams outputParams : Params}

/-- The scale and the zero point at an index are those of the type there. -/
theorem broadcast_getQuantizationParams {α : Type} (zeroPointConstant : Int → α)
    (found : type.paramsAt index = some params) :
    (getQuantizationParams type zeroPointConstant).1.broadcast index = some params.scale ∧
      (getQuantizationParams type zeroPointConstant).2.broadcast index =
        some (zeroPointConstant params.zeroPoint) := by
  cases type with
  | perTensor type =>
    cases found
    exact ⟨rfl, rfl⟩
  | perAxis type =>
    obtain ⟨channel, place, listed⟩ := Option.bind_eq_some_iff.mp found
    constructor
    · rw [getQuantizationParams, Constant.broadcast, place, Option.bind_eq_bind, Option.bind_some,
        UniformQuantizedPerAxisType.getScales, List.getElem?_map, listed, Option.map_some]
    · rw [getQuantizationParams, Constant.broadcast, place, Option.bind_eq_bind, Option.bind_some,
        UniformQuantizedPerAxisType.getZeroPoints, List.getElem?_map, List.getElem?_map, listed,
        Option.map_some, Option.map_some]

/-- Differences of narrow integers have 32 bits. -/
theorem toInt_dequantized (narrow : type.storage.width ≤ 16)
    (zeroPoint : type.storage.Stores params.zeroPoint) (input : BitVec type.storage.width) :
    (input.signExtend 32 - .ofInt 32 params.zeroPoint).toInt = input.toInt - params.zeroPoint := by
  have fits := type.storage.fits
  obtain ⟨least, most⟩ := zeroPoint
  have lower := BitVec.le_toInt input
  have upper := @BitVec.toInt_lt _ input
  -- Neither bound of the width is beyond the one of 16 bits.
  have half : (2 : Int) ^ (type.storage.width - 1) ≤ 2 ^ 16 := by
    exact_mod_cast Nat.pow_le_pow_right Nat.two_pos (show type.storage.width - 1 ≤ 16 by omega)
  have whole : (2 : Int) ^ type.storage.width ≤ 2 ^ 16 := by
    exact_mod_cast Nat.pow_le_pow_right Nat.two_pos narrow
  have within : -2 ^ 16 ≤ params.zeroPoint ∧ params.zeroPoint < 2 ^ 16 := by
    split_ifs at fits <;> omega
  rw [BitVec.toInt_sub, BitVec.toInt_signExtend_of_le (by omega), BitVec.toInt_ofInt,
    Int.bmod_eq_of_le (n := params.zeroPoint) (by omega) (by omega),
    Int.bmod_eq_of_le (by omega) (by omega)]

/-- The number of a stored integer is computed from its reading with a sign. -/
theorem matchAndRewriteDequantize_eq (narrow : type.storage.width ≤ 16)
    (found : type.paramsAt index = some params) (input : BitVec type.storage.width) :
    matchAndRewriteDequantize type index input =
      some ((input.toInt - params.zeroPoint : Int) * params.scale) := by
  obtain ⟨scale, zeroPoint⟩ := broadcast_getQuantizationParams (BitVec.ofInt 32) found
  rw [matchAndRewriteDequantize]
  dsimp only
  rw [scale, zeroPoint, Option.bind_eq_bind, Option.bind_some, Option.bind_eq_bind,
    Option.bind_some, convertToFloat, toInt_dequantized narrow (type.stores_zeroPoint found)]

/-- The stored integer for a number is the rounded and clamped one. -/
theorem matchAndRewriteQuantize_eq (found : type.paramsAt index = some params) (number : Rat) :
    matchAndRewriteQuantize type index number =
      some (convertToInteger type.storage.width (roundEven (clamp type.storage.storageTypeMin
        (number / params.scale + params.zeroPoint) type.storage.storageTypeMax))) := by
  obtain ⟨scale, zeroPoint⟩ :=
    broadcast_getQuantizationParams (fun zeroPoint => (zeroPoint : Rat)) found
  rw [matchAndRewriteQuantize]
  dsimp only
  rw [scale, zeroPoint]
  rfl

/-- By way of its number, the reading of a stored integer with a sign is rescaled. -/
theorem quantize_dequantize (narrow : input.storage.width ≤ 16)
    (inputFound : input.paramsAt index = some inputParams)
    (outputFound : output.paramsAt index = some outputParams)
    (stored : BitVec input.storage.width) :
    (matchAndRewriteDequantize input index stored).bind (matchAndRewriteQuantize output index) =
      some (convertToInteger output.storage.width
        (rescaled inputParams outputParams output.storage stored.toInt)) := by
  rw [matchAndRewriteDequantize_eq narrow inputFound, Option.bind_some,
    matchAndRewriteQuantize_eq outputFound, rescaled]
  push_cast
  rfl

/-- Between different types, the reading of a stored integer with a sign is rescaled. -/
theorem requantize_eq (axis : input.SameAxis output) (inputFits : input.Fits shape)
    (outputFits : output.Fits shape) (within : MixedRadix.Within shape index)
    (narrow : output.storage.width < 32) (inputFound : input.paramsAt index = some inputParams)
    (outputFound : output.paramsAt index = some outputParams) (different : input ≠ output)
    (stored : BitVec input.storage.width) :
    requantize input output index stored = some (convertToInteger output.storage.width
      (rescaled inputParams outputParams output.storage stored.toInt)) := by
  have positive := output.scale_pos outputFound
  have number : convertToFloat stored * (inputParams.scale / outputParams.scale) +
      (outputParams.zeroPoint - inputParams.zeroPoint * (inputParams.scale / outputParams.scale)) =
        (stored.toInt - inputParams.zeroPoint) * inputParams.scale / outputParams.scale +
          outputParams.zeroPoint := by
    rw [convertToFloat]
    field_simp
    ring
  rw [requantize, if_neg different, applyMergedScalesAndZps_eq axis inputFits outputFits within
    inputFound outputFound, number, Option.bind_eq_bind, Option.bind_some]
  dsimp only
  rw [if_pos narrow, rescaled]

/-- The pattern requantizes where both types have one axis. -/
theorem matchAndRewriteRequantize_eq (axis : input.SameAxis output)
    (stored : BitVec input.storage.width) :
    matchAndRewriteRequantize input output index stored = requantize input output index stored := by
  cases input with
  | perTensor inputType => rfl
  | perAxis inputType =>
    cases output with
    | perTensor outputType => rfl
    | perAxis outputType => exact if_neg (not_not.mpr axis)

/-- The storage widths of quantized types below 32. -/
def narrowWidths : List Nat := [2, 4, 8, 16]

/-- Different bits are read as different integers. -/
theorem read_inj {storage : StorageType} {bits other : BitVec storage.width}
    (same : storage.read bits = storage.read other) : bits = other := by
  unfold StorageType.read at same
  split_ifs at same
  · exact BitVec.eq_of_toInt_eq same
  · exact BitVec.eq_of_toNat_eq (by exact_mod_cast same)

/-- Both ways store the expected integer where the rescaled reading with a sign is read as it. -/
theorem requantizesCorrectly_iff_read (axis : input.SameAxis output)
    (inputFits : input.Fits shape) (outputFits : output.Fits shape)
    (within : MixedRadix.Within shape index) (inputNarrow : input.storage.width ≤ 16)
    (outputNarrow : output.storage.width ≤ 16)
    (inputFound : input.paramsAt index = some inputParams)
    (outputFound : output.paramsAt index = some outputParams)
    (stored : BitVec input.storage.width)
    (stores : input.storage.Stores (input.storage.read stored)) :
    RequantizesCorrectly input output index stored ↔
      output.storage.read (convertToInteger output.storage.width
        (rescaled inputParams outputParams output.storage stored.toInt)) =
          rescaled inputParams outputParams output.storage (input.storage.read stored) := by
  have other := quantize_dequantize inputNarrow inputFound outputFound stored
  unfold RequantizesCorrectly
  simp only [inputFound, outputFound, Option.some_inj, exists_and_left, exists_eq_left', other,
    matchAndRewriteRequantize_eq axis]
  by_cases same : input = output
  · subst same
    rw [inputFound, Option.some_inj] at outputFound
    subst outputFound
    -- Between equal types, the stored integer is the expected one.
    rw [rescaled_self (input.scale_pos inputFound) stores]
    have unchanged : requantize input input index stored = some stored := by
      rw [requantize, if_pos rfl, BitVec.signExtend_eq]
    simp only [unchanged, Option.some_inj, exists_eq_left', true_and]
    exact ⟨fun equal => by rw [equal], fun equal => read_inj equal⟩
  · simp only [requantize_eq axis inputFits outputFits within (by omega) inputFound outputFound
      same, Option.some_inj, exists_eq_left', and_true]

/--
A stored integer is requantized to the expected one, and by way of its number, where neither it nor
its result needs the highest bit without a sign.
-/
theorem requantizesCorrectly_iff (axis : input.SameAxis output) (inputFits : input.Fits shape)
    (outputFits : output.Fits shape) (within : MixedRadix.Within shape index)
    (inputWidth : input.storage.width ∈ narrowWidths)
    (outputWidth : output.storage.width ∈ narrowWidths) (stored : BitVec input.storage.width)
    (stores : input.storage.Stores (input.storage.read stored)) :
    RequantizesCorrectly input output index stored ↔ FitsSigned input output index stored := by
  have bounds {width : Nat} (listed : width ∈ narrowWidths) : 0 < width ∧ width ≤ 16 := by
    simp only [narrowWidths, List.mem_cons, List.not_mem_nil, or_false] at listed
    omega
  obtain ⟨inputPositive, inputNarrow⟩ := bounds inputWidth
  obtain ⟨outputPositive, outputNarrow⟩ := bounds outputWidth
  obtain ⟨inputParams, inputFound⟩ := exists_paramsAt inputFits within
  obtain ⟨outputParams, outputFound⟩ := exists_paramsAt outputFits within
  rw [requantizesCorrectly_iff_read axis inputFits outputFits within inputNarrow outputNarrow
    inputFound outputFound stored stores,
    read_convertToInteger outputPositive (stores_rescaled ..), toInt_of_read inputPositive stored]
  unfold FitsSigned
  simp only [inputFound, outputFound, Option.some_inj, exists_and_left, exists_eq_left']
  -- The reading with a sign is not above the stored integer, and so is what is expected for it.
  have below : rescaled inputParams outputParams output.storage
      (input.storage.read stored - 2 ^ input.storage.width) ≤
        rescaled inputParams outputParams output.storage (input.storage.read stored) := by
    have modulus : (0 : Int) < 2 ^ input.storage.width := by positivity
    exact rescaled_mono (input.scale_pos inputFound) (output.scale_pos outputFound) (by omega)
  rw [← or_assoc]
  by_cases reads : input.storage.isSigned = true ∨
      input.storage.read stored < 2 ^ (input.storage.width - 1)
  · rw [if_pos reads, or_iff_left_of_imp fun _ => reads, and_iff_right reads]
    cases output.storage.isSigned <;> simp <;> omega
  · rw [if_neg reads, or_iff_right reads]
    cases output.storage.isSigned <;> simp
    omega

end Exactness

section Bytes

/-- Bytes without a sign. -/
def unsignedBytes : StorageType where
  width := 8
  isSigned := false
  storageTypeMin := 0
  storageTypeMax := 255
  ordered := by decide
  fits := by decide

/-- Bytes without a sign, at a scale and from zero on. -/
def bytesOfScale (scale : Rat) (positive : 0 < scale) : QuantType :=
  .perTensor
    { storage := unsignedBytes
      params := ⟨scale, 0⟩
      positive := positive
      zeroPoint := ⟨le_refl _, show (0 : Int) ≤ 255 by decide⟩ }

/-- To twice the scale, a byte below the highest bit is requantized as expected. -/
theorem requantizesCorrectly_lowByte :
    RequantizesCorrectly (bytesOfScale 1 one_pos) (bytesOfScale 2 two_pos) [] (.ofNat _ 100) := by
  have stores : unsignedBytes.Stores (unsignedBytes.read (.ofNat _ 100)) :=
    ⟨by decide, by decide⟩
  refine (@requantizesCorrectly_iff (bytesOfScale 1 one_pos) (bytesOfScale 2 two_pos) [] []
    trivial trivial trivial .nil (by decide) (by decide) (.ofNat _ 100) stores).mpr ?_
  exact ⟨⟨1, 0⟩, ⟨2, 0⟩, rfl, rfl, .inr (.inl (by decide)), .inr (by decide +kernel)⟩

/-- To twice the scale, a byte with the highest bit is taken for one below zero. -/
theorem requantize_highByte :
    rescaled ⟨1, 0⟩ ⟨2, 0⟩ unsignedBytes 200 = 100 ∧
      (matchAndRewriteRequantize (bytesOfScale 1 one_pos) (bytesOfScale 2 two_pos) []
        (.ofNat _ 200)).map BitVec.toNat = some 0 ∧
      ¬RequantizesCorrectly (bytesOfScale 1 one_pos) (bytesOfScale 2 two_pos) []
        (.ofNat _ 200) := by
  have expected : rescaled ⟨1, 0⟩ ⟨2, 0⟩ unsignedBytes 200 = 100 := by decide +kernel
  have computed : (matchAndRewriteRequantize (bytesOfScale 1 one_pos) (bytesOfScale 2 two_pos) []
      (.ofNat _ 200)).map BitVec.toNat = some 0 := by decide +kernel
  refine ⟨expected, computed, ?_⟩
  rintro ⟨inputParams, outputParams, result, inputFound, outputFound, stored, read, -⟩
  cases inputFound
  cases outputFound
  have zero : result.toNat = 0 := by simpa [stored] using computed
  have wrong : (result.toNat : Int) = 100 := read.trans expected
  omega

end Bytes

end Quant

end Stablehlo
