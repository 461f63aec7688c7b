import Mathlib.Algebra.Order.Ring.Rat
import Mathlib.Tactic.Linarith

/-! Quantized types: stored integers that stand for numbers by a scale and a zero point. -/

namespace Stablehlo

namespace Quant

/-- The integers that the elements of a quantized type are stored as. -/
structure StorageType where
  width : Nat
  isSigned : Bool
  storageTypeMin : Int
  storageTypeMax : Int
  /-- The bounds are in order. -/
  ordered : storageTypeMin < storageTypeMax
  /-- The bounds are numbers of the width. -/
  fits : if isSigned then -2 ^ (width - 1) ≤ storageTypeMin ∧ storageTypeMax < 2 ^ (width - 1)
    else 0 ≤ storageTypeMin ∧ storageTypeMax < 2 ^ width
  deriving DecidableEq

/-- The number can be stored. -/
def StorageType.Stores (storage : StorageType) (value : Int) : Prop :=
  storage.storageTypeMin ≤ value ∧ value ≤ storage.storageTypeMax

/-- A scale and a zero point. -/
structure Params where
  scale : Rat
  zeroPoint : Int
  deriving DecidableEq

/-- A quantized type with one scale and zero point for all elements. -/
structure UniformQuantizedType where
  storage : StorageType
  params : Params
  positive : 0 < params.scale
  /-- The zero point can be stored. -/
  zeroPoint : storage.Stores params.zeroPoint
  deriving DecidableEq

namespace UniformQuantizedType

/-- The scale of all elements. -/
def getScale (type : UniformQuantizedType) : Rat := type.params.scale

/-- The zero point of all elements. -/
def getZeroPoint (type : UniformQuantizedType) : Int := type.params.zeroPoint

/-- The number that a stored integer stands for. -/
def value (type : UniformQuantizedType) (stored : Int) : Rat :=
  type.getScale * (stored - type.getZeroPoint : Int)

end UniformQuantizedType

/-- A quantized type with a scale and a zero point for each index of a dimension. -/
structure UniformQuantizedPerAxisType where
  storage : StorageType
  params : List Params
  quantizedDimension : Nat
  positive : ∀ channel ∈ params, 0 < channel.scale
  /-- The zero points can be stored. -/
  zeroPoints : ∀ channel ∈ params, storage.Stores channel.zeroPoint
  deriving DecidableEq

/-- The scales of all channels. -/
def UniformQuantizedPerAxisType.getScales (type : UniformQuantizedPerAxisType) : List Rat :=
  type.params.map Params.scale

/-- The zero points of all channels. -/
def UniformQuantizedPerAxisType.getZeroPoints (type : UniformQuantizedPerAxisType) : List Int :=
  type.params.map Params.zeroPoint

/-- A quantized type of either kind. -/
inductive QuantType where
  | perTensor (type : UniformQuantizedType)
  | perAxis (type : UniformQuantizedPerAxisType)
  deriving DecidableEq

namespace QuantType

/-- How the elements are stored. -/
def storage : QuantType → StorageType
  | perTensor type => type.storage
  | perAxis type => type.storage

/-- The scale and the zero point of the element at an index. -/
def paramsAt (type : QuantType) (index : List Nat) : Option Params :=
  match type with
  | perTensor type => some type.params
  | perAxis type => do
    let channel ← index[type.quantizedDimension]?
    type.params[channel]?

/-- Tensors of a shape can have elements of the type. -/
def Fits (type : QuantType) (shape : List Nat) : Prop :=
  match type with
  | perTensor _ => True
  | perAxis type => shape[type.quantizedDimension]? = some type.params.length

/-- If both types have channels, these are along the same dimension. -/
def SameAxis (type other : QuantType) : Prop :=
  match type, other with
  | perAxis first, perAxis second => first.quantizedDimension = second.quantizedDimension
  | _, _ => True

variable {type : QuantType} {index : List Nat} {params : Params}

/-- Scales are positive. -/
theorem scale_pos (found : type.paramsAt index = some params) : 0 < params.scale := by
  cases type with
  | perTensor type =>
    cases found
    exact type.positive
  | perAxis type =>
    obtain ⟨channel, -, listed⟩ := Option.bind_eq_some_iff.mp found
    exact type.positive params (List.mem_of_getElem? listed)

/-- Zero points can be stored. -/
theorem stores_zeroPoint (found : type.paramsAt index = some params) :
    type.storage.Stores params.zeroPoint := by
  cases type with
  | perTensor type =>
    cases found
    exact type.zeroPoint
  | perAxis type =>
    obtain ⟨channel, -, listed⟩ := Option.bind_eq_some_iff.mp found
    exact type.zeroPoints params (List.mem_of_getElem? listed)

end QuantType

section Storage

variable {storage : StorageType} {stored : Int}

/-- The integer that stored bits are. -/
def StorageType.read (storage : StorageType) (bits : BitVec storage.width) : Int :=
  if storage.isSigned then bits.toInt else bits.toNat

/-- Signed integers are stored in their width. -/
theorem StorageType.Stores.signed (stores : storage.Stores stored)
    (isSigned : storage.isSigned = true) :
    -2 ^ (storage.width - 1) ≤ stored ∧ stored < 2 ^ (storage.width - 1) := by
  have fits := storage.fits
  rw [if_pos isSigned] at fits
  obtain ⟨least, most⟩ := stores
  omega

/-- Some other integer is stored than a given one. -/
theorem StorageType.exists_ne (storage : StorageType) (other : Int) :
    ∃ stored, storage.Stores stored ∧ stored ≠ other := by
  have ordered := storage.ordered
  rcases eq_or_ne storage.storageTypeMin other with same | differ
  · -- The bounds are two integers.
    exact ⟨storage.storageTypeMax, ⟨ordered.le, le_refl _⟩, by omega⟩
  · exact ⟨storage.storageTypeMin, ⟨le_refl _, ordered.le⟩, differ⟩

end Storage

end Quant

end Stablehlo
