import Mathlib.Data.Rat.Floor
import Mathlib.Tactic.FieldSimp
import Mathlib.Tactic.Ring
import Stablehlo.Quant.Types
import Stablehlo.Reference.StaticShapes
import Stablehlo.Support.RoundEven

/-! Quantization, dequantization and requantization as operations on integers and rationals. -/

namespace Stablehlo

namespace Quant

section Operations

/-- Integers whose type has no sign of its own are converted as ones with a sign. -/
def convertToFloat {width : Nat} (bits : BitVec width) : Rat := bits.toInt

/-- A number without its fraction. -/
def truncate (number : Rat) : Int := if 0 ≤ number then ⌊number⌋ else ⌈number⌉

/-- Numbers are truncated, and then are no further from zero than an integer with a sign can be. -/
def convertToInteger (width : Nat) (number : Rat) : BitVec width :=
  .ofInt width (max (-2 ^ (width - 1)) (min (2 ^ (width - 1) - 1) (truncate number)))

/-- A number between two others, or the nearer one of them. -/
def clamp (least number most : Rat) : Rat := min (max number least) most

/-- A constant, which is a scalar or broadcast along a dimension. -/
inductive Constant (α : Type) where
  | scalar (value : α)
  | vector (values : List α) (broadcastDim : Nat)

/-- The value of a constant for an index of what it is broadcast to. -/
def Constant.broadcast {α : Type} (constant : Constant α) (index : Index) : Option α :=
  match constant with
  | .scalar value => some value
  | .vector values broadcastDim => do
    let channel ← index[broadcastDim]?
    values[channel]?

/-- The constants for a type's scales and zero points, where the zero points are converted. -/
def getQuantizationParams {α : Type} (quantType : QuantType) (zeroPointConstant : Int → α) :
    Constant Rat × Constant α :=
  match quantType with
  | .perTensor type => (.scalar type.getScale, .scalar (zeroPointConstant type.getZeroPoint))
  | .perAxis type =>
    (.vector type.getScales type.quantizedDimension,
      .vector (type.getZeroPoints.map zeroPointConstant) type.quantizedDimension)

end Operations

section Patterns

/-- The scale of a channel, if there are channels. -/
def channelScale (quantType : QuantType) (channel : Nat) : Option Rat :=
  match quantType with
  | .perTensor type => some type.getScale
  | .perAxis type => type.getScales[channel]?

/-- The zero point of a channel, if there are channels. -/
def channelZeroPoint (quantType : QuantType) (channel : Nat) : Option Int :=
  match quantType with
  | .perTensor type => some type.getZeroPoint
  | .perAxis type => type.getZeroPoints[channel]?

/-- The scale and the zero point from one type to another, for a channel. -/
def mergedChannel (inputQuantType outputQuantType : QuantType) (channel : Nat) :
    Option (Rat × Rat) := do
  let inputScale ← channelScale inputQuantType channel
  let outputScale ← channelScale outputQuantType channel
  let outputZp ← channelZeroPoint outputQuantType channel
  let inputZp ← channelZeroPoint inputQuantType channel
  let mergedScale := inputScale / outputScale
  some (mergedScale, outputZp - inputZp * mergedScale)

/-- Apply the scales and zero points of channels, where zero points that are all zero are left. -/
def applyMergedChannels (inputQuantType outputQuantType : QuantType)
    (channels : UniformQuantizedPerAxisType) (index : Index) (inputFloat : Rat) : Option Rat := do
  let channelSize := channels.getScales.length
  let quantizedDimension := channels.quantizedDimension
  let merged ← (List.range channelSize).mapM (mergedChannel inputQuantType outputQuantType)
  let mergedScale ← (Constant.vector (merged.map Prod.fst) quantizedDimension).broadcast index
  let scaled := inputFloat * mergedScale
  if merged.any fun channel => channel.2 ≠ 0 then do
    let mergedZp ← (Constant.vector (merged.map Prod.snd) quantizedDimension).broadcast index
    some (scaled + mergedZp)
  else
    some scaled

/-- Apply the scale and the zero point from one type to another. -/
def applyMergedScalesAndZps (inputQuantType outputQuantType : QuantType) (index : Index)
    (inputFloat : Rat) : Option Rat :=
  match inputQuantType, outputQuantType with
  | .perTensor input, .perTensor output =>
    let mergedScale := input.getScale / output.getScale
    let scaled := inputFloat * mergedScale
    let mergedZp := output.getZeroPoint - input.getZeroPoint * mergedScale
    some (if mergedZp ≠ 0 then scaled + mergedZp else scaled)
  | _, .perAxis output =>
    applyMergedChannels inputQuantType outputQuantType output index inputFloat
  | .perAxis input, _ =>
    applyMergedChannels inputQuantType outputQuantType input index inputFloat

/-- What is stored at an index for another type than the one the stored integer is of. -/
def requantize (inputQuantType outputQuantType : QuantType) (index : Index)
    (input : BitVec inputQuantType.storage.width) :
    Option (BitVec outputQuantType.storage.width) :=
  -- Nothing is computed when both types are the same.
  if inputQuantType = outputQuantType then some (input.signExtend _)
  else do
    let outputFloat ←
      applyMergedScalesAndZps inputQuantType outputQuantType index (convertToFloat input)
    let width := outputQuantType.storage.width
    let outputFloat := if width < 32 then
        clamp outputQuantType.storage.storageTypeMin outputFloat
          outputQuantType.storage.storageTypeMax
      else outputFloat
    some (convertToInteger width (roundEven outputFloat))

/-- What is stored at an index for a number. -/
def matchAndRewriteQuantize (quantType : QuantType) (index : Index) (operand : Rat) :
    Option (BitVec quantType.storage.width) := do
  let (scales, zeroPoints) := getQuantizationParams quantType fun zeroPoint => (zeroPoint : Rat)
  let scale ← scales.broadcast index
  let zeroPoint ← zeroPoints.broadcast index
  let resFloat := clamp quantType.storage.storageTypeMin (operand / scale + zeroPoint)
    quantType.storage.storageTypeMax
  some (convertToInteger quantType.storage.width (roundEven resFloat))

/-- The number at an index for what is stored. -/
def matchAndRewriteDequantize (quantType : QuantType) (index : Index)
    (input : BitVec quantType.storage.width) : Option Rat := do
  let (scales, zeroPoints) := getQuantizationParams quantType (BitVec.ofInt 32)
  let scale ← scales.broadcast index
  let zeroPoint ← zeroPoints.broadcast index
  let resInt32 := input.signExtend 32 - zeroPoint
  some (convertToFloat resInt32 * scale)

/-- The pattern for the operation between quantized types, which keeps the axis of channels. -/
def matchAndRewriteRequantize (inputQuantType outputQuantType : QuantType) (index : Index)
    (input : BitVec inputQuantType.storage.width) :
    Option (BitVec outputQuantType.storage.width) :=
  match inputQuantType, outputQuantType, input with
  | .perAxis inputType, .perAxis outputType, input =>
    if inputType.quantizedDimension ≠ outputType.quantizedDimension then none
    else requantize (.perAxis inputType) (.perAxis outputType) index input
  | inputQuantType, outputQuantType, input =>
    requantize inputQuantType outputQuantType index input

end Patterns

section Specification

/-- The integer that is stored for another one, by the scales and zero points of both types. -/
def rescaled (input output : Params) (storage : StorageType) (stored : Int) : Int :=
  roundEven (clamp storage.storageTypeMin
    ((stored - input.zeroPoint) * input.scale / output.scale + output.zeroPoint)
    storage.storageTypeMax)

/-- A stored integer is requantized to the one that is expected, and by way of its number. -/
def RequantizesCorrectly (input output : QuantType) (index : Index)
    (stored : BitVec input.storage.width) : Prop :=
  ∃ inputParams outputParams result, input.paramsAt index = some inputParams ∧
    output.paramsAt index = some outputParams ∧
    matchAndRewriteRequantize input output index stored = some result ∧
    output.storage.read result =
      rescaled inputParams outputParams output.storage (input.storage.read stored) ∧
    (matchAndRewriteDequantize input index stored).bind
      (matchAndRewriteQuantize output index) = some result

/-- The stored integer and its result are the same ones with a sign as they are without. -/
def FitsSigned (input output : QuantType) (index : Index) (stored : BitVec input.storage.width) :
    Prop :=
  ∃ inputParams outputParams, input.paramsAt index = some inputParams ∧
    output.paramsAt index = some outputParams ∧
    -- Without a sign, the highest bit counts, unless the clamped number is the same.
    (input.storage.isSigned = true ∨ input.storage.read stored < 2 ^ (input.storage.width - 1) ∨
      rescaled inputParams outputParams output.storage
          (input.storage.read stored - 2 ^ input.storage.width) =
        rescaled inputParams outputParams output.storage (input.storage.read stored)) ∧
    (output.storage.isSigned = true ∨
      rescaled inputParams outputParams output.storage (input.storage.read stored) <
        2 ^ (output.storage.width - 1))

end Specification

end Quant

end Stablehlo
