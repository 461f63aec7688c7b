import Stablehlo.Dialect.Enums
import Stablehlo.Reference.Arithmetic
import Stablehlo.Reference.SortSlices

/-! Operations of the interpreter that compute each element of the result on its own. -/

namespace Stablehlo

open TypePrinter

/-- What the interpreter makes of floats and complex numbers in the operations on elements. -/
class FloatOperations where
  abs : Element → Except Failure Element
  sign : Element → Except Failure Element
  negate : Element → Except Failure Element
  subtract : Element → Element → Except Failure Element
  divide : Element → Element → Except Failure Element
  rem : Element → Element → Except Failure Element
  max : Element → Element → Except Failure Element
  min : Element → Element → Except Failure Element
  less : Element → Element → Except Failure Bool
  equal : Element → Element → Except Failure Bool
  greater : Element → Element → Except Failure Bool

/-- Operations on elements that support no floats. -/
abbrev integerOperations : FloatOperations where
  abs _ := .error .undefinedBehavior
  sign _ := .error .undefinedBehavior
  negate _ := .error .undefinedBehavior
  subtract _ _ := .error .undefinedBehavior
  divide _ _ := .error .undefinedBehavior
  rem _ _ := .error .undefinedBehavior
  max _ _ := .error .undefinedBehavior
  min _ _ := .error .undefinedBehavior
  less _ _ := .error .undefinedBehavior
  equal _ _ := .error .undefinedBehavior
  greater _ _ := .error .undefinedBehavior

section Bits

variable {width : Nat}

/-- The greater one of two numbers with signs. -/
def smax (lhs rhs : BitVec width) : BitVec width := if rhs.slt lhs then lhs else rhs

/-- The greater one of two numbers without signs. -/
def umax (lhs rhs : BitVec width) : BitVec width := if rhs.ult lhs then lhs else rhs

/-- The smaller one of two numbers with signs. -/
def smin (lhs rhs : BitVec width) : BitVec width := if lhs.slt rhs then lhs else rhs

/-- The smaller one of two numbers without signs. -/
def umin (lhs rhs : BitVec width) : BitVec width := if lhs.ult rhs then lhs else rhs

/-- The greater one of two numbers does not depend on their order. -/
theorem umax_comm {width : Nat} (lhs rhs : BitVec width) : umax lhs rhs = umax rhs lhs := by
  simp only [umax, BitVec.ult, decide_eq_true_eq]
  split <;> split <;> first | rfl | (apply BitVec.eq_of_toNat_eq; omega)

theorem umin_comm {width : Nat} (lhs rhs : BitVec width) : umin lhs rhs = umin rhs lhs := by
  simp only [umin, BitVec.ult, decide_eq_true_eq]
  split <;> split <;> first | rfl | (apply BitVec.eq_of_toNat_eq; omega)

theorem smax_comm {width : Nat} (lhs rhs : BitVec width) : smax lhs rhs = smax rhs lhs := by
  simp only [smax, BitVec.slt, decide_eq_true_eq]
  split <;> split <;> first | rfl | (apply BitVec.eq_of_toInt_eq; omega)

theorem smin_comm {width : Nat} (lhs rhs : BitVec width) : smin lhs rhs = smin rhs lhs := by
  simp only [smin, BitVec.slt, decide_eq_true_eq]
  split <;> split <;> first | rfl | (apply BitVec.eq_of_toInt_eq; omega)

/-- A number is at most another one when it is less or equal. -/
theorem ule_eq_ult_or {width : Nat} (lhs rhs : BitVec width) :
    lhs.ule rhs = (lhs.ult rhs || lhs == rhs) := by
  rw [Bool.eq_iff_iff, BitVec.ule, Bool.or_eq_true, beq_iff_eq, BitVec.ult, decide_eq_true_eq,
    decide_eq_true_eq, ← BitVec.toNat_inj]
  omega

/-- A number with one bit is zero or one. -/
theorem bit_cases (bit : BitVec 1) : bit = 0 ∨ bit = 1 := BitVec.eq_zero_or_eq_one bit

end Bits

section Elements

variable [TypePrinter]

/-- Compute an element of the same type, by the operation for what the element holds. -/
def mapElement (integerFn : {width : Nat} → BitVec width → BitVec width)
    (boolFn : Bool → Except Failure Bool) (floatFn : Element → Except Failure Element)
    (el : Element) : Except Failure Element :=
  match el.value with
  | .integer value => Element.ofInteger el.type ⟨value.width, integerFn value.bits⟩
  | .boolean value => do
    let result ← boolFn value
    Element.ofBoolean el.type result
  | _ => floatFn el

/-- The failure of an operation on elements of different types. -/
def elementTypesDiffer (lhs rhs : Element) : Failure :=
  .fatalError s!"Element types don't match: {debugString lhs.type} vs {debugString rhs.type}"

/-- Combine two elements of one type, by the operation for what they hold, which can fail. -/
def mapPair
    (integerFn : {width : Nat} → BitVec width → BitVec width → Except Failure (BitVec width))
    (boolFn : Bool → Bool → Except Failure Bool)
    (floatFn : Element → Element → Except Failure Element) (lhs rhs : Element) :
    Except Failure Element :=
  if lhs.type ≠ rhs.type then
    .error (elementTypesDiffer lhs rhs)
  else
    match lhs.value, rhs.value with
    | .integer intLhs, .integer intRhs =>
      if same : intRhs.width = intLhs.width then do
        let result ← integerFn intLhs.bits (intRhs.bits.cast same)
        Element.ofInteger lhs.type ⟨intLhs.width, result⟩
      else
        .error .undefinedBehavior
    | .boolean boolLhs, .boolean boolRhs => do
      let result ← boolFn boolLhs boolRhs
      Element.ofBoolean lhs.type result
    | _, _ => floatFn lhs rhs

/-- Compare two elements of one type, by the comparison for what they hold. -/
def comparePair (integerFn : {width : Nat} → BitVec width → BitVec width → Bool)
    (boolFn : Bool → Bool → Bool) (floatFn : Element → Element → Except Failure Bool)
    (lhs rhs : Element) : Except Failure Element :=
  let i1Type := .integer .signless 1
  if lhs.type ≠ rhs.type then
    .error (elementTypesDiffer lhs rhs)
  else
    match lhs.value, rhs.value with
    | .integer intLhs, .integer intRhs =>
      if same : intRhs.width = intLhs.width then
        Element.ofBoolean i1Type (integerFn intLhs.bits (intRhs.bits.cast same))
      else
        .error .undefinedBehavior
    | .boolean boolLhs, .boolean boolRhs => Element.ofBoolean i1Type (boolFn boolLhs boolRhs)
    | _, _ => do
      let result ← floatFn lhs rhs
      Element.ofBoolean i1Type result

/-- The failure of an operation on bits for floats or complex numbers. -/
def unsupportedNumbers (operator : String) (el : Element) : Failure :=
  match el.value with
  | .float _ => .fatalError s!"float {operator} float is unsupported"
  | _ => .fatalError s!"complex {operator} complex is unsupported"

/-- The bits that both elements have. -/
def Element.and : Element → Element → Except Failure Element :=
  mapPair (fun lhs rhs => .ok (lhs &&& rhs)) (fun lhs rhs => .ok (lhs && rhs))
    fun lhs _ => .error (unsupportedNumbers "&" lhs)

/-- The bits that one of the elements has. -/
def Element.or : Element → Element → Except Failure Element :=
  mapPair (fun lhs rhs => .ok (lhs ||| rhs)) (fun lhs rhs => .ok (lhs || rhs))
    fun lhs _ => .error (unsupportedNumbers "|" lhs)

/-- The bits that exactly one of the elements has. -/
def Element.xor : Element → Element → Except Failure Element :=
  mapPair (fun lhs rhs => .ok (lhs ^^^ rhs)) (fun lhs rhs => .ok (lhs ^^ rhs))
    fun lhs _ => .error (unsupportedNumbers "^" lhs)

/-- The bits that an element does not have. -/
def Element.not (el : Element) : Except Failure Element :=
  mapElement (fun value => ~~~value) (fun value => .ok !value)
    (fun el =>
      match el.value with
      | .float _ => .error (.fatalError "~float is unsupported")
      | _ => .error (.fatalError "~complex is unsupported"))
    el

/-- The bits of an element, moved to lower places by the number of another one. -/
def Element.shiftRightLogical (e1 e2 : Element) : Except Failure Element := do
  let value ← e1.getIntegerValue
  let amount ← e2.getIntegerValue
  Element.ofInteger e1.type ⟨value.width, value.bits >>> amount.bits.toNat⟩

/-- The bits of an element, moved to lower places, where those above are copies of the highest. -/
def Element.shiftRightArithmetic (e1 e2 : Element) : Except Failure Element := do
  let value ← e1.getIntegerValue
  let amount ← e2.getIntegerValue
  Element.ofInteger e1.type ⟨value.width, value.bits.sshiftRight amount.bits.toNat⟩

/-- One of two elements, by a boolean. -/
def Element.select (pred onTrue onFalse : Element) : Except Failure Element := do
  let predValue ← pred.getBooleanValue
  .ok (if predValue then onTrue else onFalse)

variable [FloatArithmetic] [FloatOperations]

/-- The negation of an element. -/
def Element.negate : Element → Except Failure Element :=
  mapElement (fun value => -value) (fun _ => .error (.fatalError "-bool is unsupported"))
    FloatOperations.negate

/-- The absolute value of an element. -/
def Element.abs (el : Element) : Except Failure Element :=
  mapElement (fun value => value.abs) (fun _ => .error (Element.unsupported el.type))
    FloatOperations.abs el

/-- Whether an element is negative, zero or positive. -/
def Element.sign (el : Element) : Except Failure Element :=
  let number (value : Int) : Except Failure Element :=
    convertNumber el.type ⟨⟨64, .ofInt 64 value⟩, true⟩ (.error (Element.unsupported el.type))
  match el.value with
  | .integer value =>
    if value.bits.msb then number (-1)
    else if value.bits = 0 then number 0
    else number 1
  | .boolean _ => .error (Element.unsupported el.type)
  | _ => FloatOperations.sign el

/-- The difference of two elements. -/
def Element.subtract : Element → Element → Except Failure Element :=
  mapPair (fun lhs rhs => .ok (lhs - rhs))
    (fun _ _ => .error (.fatalError "bool - bool is unsupported")) FloatOperations.subtract

/-- The quotient of two elements. -/
def Element.divide (lhs rhs : Element) : Except Failure Element :=
  mapPair
    (fun intLhs intRhs =>
      -- Division by zero is undefined.
      if intRhs = 0 then .error .undefinedBehavior
      else if isSupportedSignedIntegerType lhs.type then .ok (intLhs.sdiv intRhs)
      else .ok (intLhs.udiv intRhs))
    (fun _ _ => .error (Element.unsupported lhs.type)) FloatOperations.divide lhs rhs

/-- The remainder of a division, with the sign of the dividend. -/
def Element.rem (e1 e2 : Element) : Except Failure Element :=
  mapPair
    (fun lhs rhs =>
      if rhs = 0 then .error .undefinedBehavior
      else if isSupportedSignedIntegerType e1.type then .ok (lhs.srem rhs)
      else .ok (lhs.umod rhs))
    (fun _ _ => .error (.fatalError "rem(bool, bool) is unsupported")) FloatOperations.rem e1 e2

/-- The greater one of two elements. -/
def Element.max (e1 e2 : Element) : Except Failure Element :=
  mapPair
    (fun lhs rhs =>
      .ok (if isSupportedSignedIntegerType e1.type then smax lhs rhs else umax lhs rhs))
    (fun lhs rhs => .ok (lhs || rhs)) FloatOperations.max e1 e2

/-- The smaller one of two elements. -/
def Element.min (e1 e2 : Element) : Except Failure Element :=
  mapPair
    (fun lhs rhs =>
      .ok (if isSupportedSignedIntegerType e1.type then smin lhs rhs else umin lhs rhs))
    (fun lhs rhs => .ok (lhs && rhs)) FloatOperations.min e1 e2

/-- Whether the first element is less than the second one. -/
def Element.less (lhs rhs : Element) : Except Failure Element :=
  comparePair
    (fun intLhs intRhs =>
      if isSupportedSignedIntegerType lhs.type then intLhs.slt intRhs else intLhs.ult intRhs)
    (fun boolLhs boolRhs => !boolLhs && boolRhs) FloatOperations.less lhs rhs

/-- Whether two elements are equal. -/
def Element.equal : Element → Element → Except Failure Element :=
  comparePair (fun lhs rhs => lhs == rhs) (fun lhs rhs => lhs == rhs) FloatOperations.equal

/-- Whether the first element is greater than the second one. -/
def Element.greater (lhs rhs : Element) : Except Failure Element :=
  comparePair
    (fun intLhs intRhs =>
      if isSupportedSignedIntegerType lhs.type then intRhs.slt intLhs else intRhs.ult intLhs)
    (fun boolLhs boolRhs => boolLhs && !boolRhs) FloatOperations.greater lhs rhs

/-- The negation of a boolean. -/
def Element.logicalNot (el : Element) : Except Failure Element := do
  let value ← el.getBooleanValue
  Element.ofBoolean (.integer .signless 1) !value

/-- The disjunction of two booleans. -/
def Element.logicalOr (lhs rhs : Element) : Except Failure Element := do
  let boolLhs ← lhs.getBooleanValue
  let boolRhs ← rhs.getBooleanValue
  Element.ofBoolean (.integer .signless 1) (boolLhs || boolRhs)

/-- Compare two elements in a direction. -/
def Element.compareBy (direction : ComparisonDirection) (lhs rhs : Element) :
    Except Failure Element :=
  match direction with
  | .eq => lhs.equal rhs
  | .ne => do
    let equal ← lhs.equal rhs
    equal.logicalNot
  | .ge => do
    let greater ← lhs.greater rhs
    let equal ← lhs.equal rhs
    greater.logicalOr equal
  | .gt => lhs.greater rhs
  | .le => do
    let less ← lhs.less rhs
    let equal ← lhs.equal rhs
    less.logicalOr equal
  | .lt => lhs.less rhs

end Elements

namespace Tensor

variable {α β : Type}

/-- The tensor of what a function makes of the elements. -/
def map (f : α → β) (tensor : Tensor α) : Tensor β where
  shape := tensor.shape
  data := tensor.data.map f
  complete := by rw [List.length_map, tensor.complete]

@[simp] theorem shape_map (f : α → β) (tensor : Tensor α) : (tensor.map f).shape = tensor.shape :=
  rfl

@[simp] theorem get_map (f : α → β) (tensor : Tensor α) (index : Index) :
    (tensor.map f).get index = (tensor.get index).map f := by
  rw [get, get, shape_map]
  cases flattenIndex tensor.shape index with
  | error failure => rfl
  | ok position =>
    have mapped : (tensor.data.map f)[position]? = tensor.data[position]?.map f :=
      List.getElem?_map
    simp only [Fallible.ok_bind, map, mapped]
    cases tensor.data[position]? <;> rfl

/-- A tensor that is filled is the one with the elements that are computed. -/
theorem build_eq_ok_iff {shape : Sizes} {element : Index → Except Failure α} {tensor : Tensor α} :
    build shape element = .ok tensor ↔ tensor.shape = shape ∧
      ∀ index, MixedRadix.Within shape index → element index = tensor.get index := by
  constructor
  · intro built
    obtain ⟨same, elements⟩ := build_spec built
    exact ⟨same, fun index within => (elements index within).symm⟩
  · rintro ⟨rfl, elements⟩
    -- Every element is computed, and the tensor with them is the one there is.
    obtain ⟨other, built⟩ := build_eq_ok fun index within => by
      obtain ⟨value, got, -⟩ := get_eq within
      exact ⟨value, (elements index within).trans got⟩
    obtain ⟨shape, others⟩ := build_spec built
    rw [built, Except.ok.injEq]
    refine ext_get shape fun index within => ?_
    rw [shape] at within
    rw [others index within, elements index within]

/-- The element of an index is the one that is stored at its place. -/
theorem get_of_stored {tensor : Tensor α} {index : Index} {element : α}
    (within : MixedRadix.Within tensor.shape index)
    (stored : tensor.data[MixedRadix.encode tensor.shape index]? = some element) :
    tensor.get index = .ok element := by
  rw [Tensor.get, flattenIndex_eq within, Fallible.ok_bind, stored]

/-- A scalar is read without an index, and everything else at the index. -/
theorem get_of_rank {tensor : Tensor α} {index : Index}
    (within : MixedRadix.Within tensor.shape index) :
    tensor.get (if tensor.shape.length ≠ 0 then index else []) = tensor.get index := by
  split
  · rfl
  · next rank =>
    -- The only index of a scalar is the empty one.
    have scalar : tensor.shape = [] := List.length_eq_zero_iff.mp (not_not.mp rank)
    rw [scalar] at within
    cases within
    rfl

/-- The place of an index in a tensor of the same shape, or of a scalar. -/
theorem place_within {shape resultShape : Sizes} (fits : shape = resultShape ∨ shape = [])
    {index : Index} (within : MixedRadix.Within resultShape index) :
    MixedRadix.Within shape (if shape.length ≠ 0 then index else []) := by
  split
  · next rank =>
    obtain rfl | rfl := fits
    · exact within
    · exact absurd rfl rank
  · next rank =>
    rw [List.length_eq_zero_iff.mp (not_not.mp rank)]
    exact .nil

/-- Compute each element of the result from the one of the operand. -/
def mapOp (compute : α → Except Failure β) (operand : Tensor α) (resultShape : Sizes) :
    Except Failure (Tensor β) :=
  build resultShape fun index => do
    let element ← operand.get index
    compute element

/-- Compute each element of the result from those of both operands. -/
def zipOp (compute : α → α → Except Failure β) (lhs rhs : Tensor α) (resultShape : Sizes) :
    Except Failure (Tensor β) :=
  build resultShape fun index => do
    let left ← lhs.get index
    let right ← rhs.get index
    compute left right

section Operations

variable [TypePrinter]

/-- StableHLO `and`. -/
def andOp : Tensor Element → Tensor Element → Sizes → Except Failure (Tensor Element) :=
  zipOp Element.and

/-- StableHLO `or`. -/
def orOp : Tensor Element → Tensor Element → Sizes → Except Failure (Tensor Element) :=
  zipOp Element.or

/-- StableHLO `xor`. -/
def xorOp : Tensor Element → Tensor Element → Sizes → Except Failure (Tensor Element) :=
  zipOp Element.xor

/-- StableHLO `not`. -/
def notOp : Tensor Element → Sizes → Except Failure (Tensor Element) := mapOp Element.not

/-- StableHLO `select`. -/
def selectOp (pred onTrue onFalse : Tensor Element) (resultShape : Sizes) :
    Except Failure (Tensor Element) :=
  build resultShape fun index => do
    let predElement ← pred.get (if pred.shape.length ≠ 0 then index else [])
    let predValue ← predElement.getBooleanValue
    if predValue then onTrue.get index else onFalse.get index

variable [FloatArithmetic]

/-- StableHLO `add`. -/
def addOp : Tensor Element → Tensor Element → Sizes → Except Failure (Tensor Element) :=
  zipOp Element.add

/-- StableHLO `multiply`. -/
def multiplyOp : Tensor Element → Tensor Element → Sizes → Except Failure (Tensor Element) :=
  zipOp Element.multiply

/-- StableHLO `convert`. -/
def convertOp (operand : Tensor Element) (resultType : ShapedType) :
    Except Failure (Tensor Element) :=
  mapOp (convert resultType.elementType) operand resultType.shape

variable [FloatOperations]

/-- StableHLO `abs`. -/
def absOp : Tensor Element → Sizes → Except Failure (Tensor Element) := mapOp Element.abs

/-- StableHLO `negate`. -/
def negOp : Tensor Element → Sizes → Except Failure (Tensor Element) := mapOp Element.negate

/-- StableHLO `sign`. -/
def signOp : Tensor Element → Sizes → Except Failure (Tensor Element) := mapOp Element.sign

/-- StableHLO `subtract`. -/
def subtractOp : Tensor Element → Tensor Element → Sizes → Except Failure (Tensor Element) :=
  zipOp Element.subtract

/-- StableHLO `divide`. -/
def divideOp : Tensor Element → Tensor Element → Sizes → Except Failure (Tensor Element) :=
  zipOp Element.divide

/-- StableHLO `remainder`. -/
def remOp : Tensor Element → Tensor Element → Sizes → Except Failure (Tensor Element) :=
  zipOp Element.rem

/-- StableHLO `maximum`. -/
def maxOp : Tensor Element → Tensor Element → Sizes → Except Failure (Tensor Element) :=
  zipOp Element.max

/-- StableHLO `minimum`. -/
def minOp : Tensor Element → Tensor Element → Sizes → Except Failure (Tensor Element) :=
  zipOp Element.min

/-- StableHLO `compare`, which does not depend on the type of the comparison. -/
def compareOp (lhs rhs : Tensor Element) (comparisonDirection : ComparisonDirection)
    (resultShape : Sizes) : Except Failure (Tensor Element) :=
  zipOp (Element.compareBy comparisonDirection) lhs rhs resultShape

/-- StableHLO `clamp`. -/
def clampOp (min operand max : Tensor Element) (resultShape : Sizes) :
    Except Failure (Tensor Element) :=
  build resultShape fun index => do
    let minElement ← min.get (if min.shape.length ≠ 0 then index else [])
    let maxElement ← max.get (if max.shape.length ≠ 0 then index else [])
    let element ← operand.get index
    let raised ← element.max minElement
    raised.min maxElement

end Operations

end Tensor

/-- The element types of booleans and integers. -/
inductive IntegerType where
  | boolean
  | integer (signedness : Signedness) (width : Nat)
    (supported : isSupportedIntegerType (.integer signedness width) = true)

namespace IntegerType

/-- How the values of the type are signed. -/
def signedness : IntegerType → Signedness
  | boolean => .signless
  | integer signedness _ _ => signedness

/-- The number of bits of the type. -/
abbrev width : IntegerType → Nat
  | boolean => 1
  | integer _ width _ => width

/-- The type as one of the dialect. -/
def elementType (type : IntegerType) : StablehloType := .integer type.signedness type.width

/-- Tensors of the type, by the bits of their elements. -/
abbrev Constant (type : IntegerType) : Type := Tensor (BitVec type.width)

/-- The element with the bits. -/
def element : (type : IntegerType) → BitVec type.width → Element
  | boolean, bits => ⟨.integer .signless 1, .boolean (bits.msb), rfl⟩
  | integer _ _ supported, bits => .ofBitVec supported bits

/-- The tensor with the bits. -/
def tensor (type : IntegerType) (constant : type.Constant) : Tensor Element :=
  constant.map type.element

/-- The elements of a constant's tensor are those of its numbers. -/
theorem get_tensor (type : IntegerType) (constant : type.Constant) (index : Index) :
    (type.tensor constant).get index = (constant.get index).map type.element :=
  Tensor.get_map type.element constant index

/-- Elements are equal when their bits are. -/
theorem element_inj {type : IntegerType} {bits other : BitVec type.width} :
    type.element bits = type.element other ↔ bits = other := by
  constructor
  · intro same
    cases type with
    | boolean =>
      -- The only bit is the highest one.
      obtain rfl | rfl := bit_cases bits <;> obtain rfl | rfl := bit_cases other <;>
        first | rfl | cases same
    | integer signedness width supported => cases same; rfl
  · rintro rfl
    rfl

end IntegerType

/-- An integer type is not the one of a single bit. -/
theorem width_ne_one {signedness : Signedness} {width : Nat}
    (supported : isSupportedIntegerType (.integer signedness width) = true) : width ≠ 1 := by
  have wide := (width_of_supported supported).1
  omega

/-- The integers with signs are those that are not said to have none. -/
theorem isSupportedSignedIntegerType_eq {signedness : Signedness} {width : Nat}
    (supported : isSupportedIntegerType (.integer signedness width) = true) :
    isSupportedSignedIntegerType (.integer signedness width) = !decide (signedness = .unsigned) := by
  cases signedness with
  | signless => simpa [isSupportedIntegerType, isSupportedUnsignedIntegerType] using supported
  | unsigned => rfl
  | signed => cases supported

section Integers

variable [TypePrinter] {signedness : Signedness} {width : Nat}
  {supported : isSupportedIntegerType (.integer signedness width) = true}

/-- An operation on an integer computes its bits. -/
theorem mapElement_ofBitVec {integerFn : {width : Nat} → BitVec width → BitVec width}
    {boolFn : Bool → Except Failure Bool} {floatFn : Element → Except Failure Element}
    (bits : BitVec width) :
    mapElement integerFn boolFn floatFn (.ofBitVec supported bits) =
      .ok (.ofBitVec supported (integerFn bits)) :=
  Element.ofInteger_ofBitVec supported (integerFn bits)

/-- An operation on two integers computes the bits of the result, or fails. -/
theorem mapPair_ofBitVec
    {integerFn : {width : Nat} → BitVec width → BitVec width → Except Failure (BitVec width)}
    {boolFn : Bool → Bool → Except Failure Bool}
    {floatFn : Element → Element → Except Failure Element} (lhs rhs : BitVec width) :
    mapPair integerFn boolFn floatFn (.ofBitVec supported lhs) (.ofBitVec supported rhs) =
      (integerFn lhs rhs).map (.ofBitVec supported) := by
  have same : (Element.ofBitVec supported lhs).type = (Element.ofBitVec supported rhs).type := rfl
  rw [mapPair, if_neg (not_not.mpr same)]
  -- Both have the width of the type.
  refine (dif_pos rfl).trans ?_
  show (integerFn lhs rhs >>= fun result => Element.ofInteger _ ⟨width, result⟩) = _
  cases integerFn lhs rhs with
  | error failure => rfl
  | ok result => exact Element.ofInteger_ofBitVec supported result

/-- A comparison of two integers is one of their bits. -/
theorem comparePair_ofBitVec
    {integerFn : {width : Nat} → BitVec width → BitVec width → Bool}
    {boolFn : Bool → Bool → Bool} {floatFn : Element → Element → Except Failure Bool}
    (lhs rhs : BitVec width) :
    comparePair integerFn boolFn floatFn (.ofBitVec supported lhs) (.ofBitVec supported rhs) =
      Element.ofBoolean (.integer .signless 1) (integerFn lhs rhs) := by
  have same : (Element.ofBitVec supported lhs).type = (Element.ofBitVec supported rhs).type := rfl
  rw [comparePair, if_neg (not_not.mpr same)]
  exact dif_pos rfl

section Operations

variable (supported) (bits lhs rhs : BitVec width)

theorem Element.not_ofBitVec :
    (ofBitVec supported bits).not = .ok (ofBitVec supported (~~~bits)) := mapElement_ofBitVec bits

theorem Element.and_ofBitVec : (ofBitVec supported lhs).and (ofBitVec supported rhs) =
    .ok (ofBitVec supported (lhs &&& rhs)) := mapPair_ofBitVec lhs rhs

theorem Element.or_ofBitVec : (ofBitVec supported lhs).or (ofBitVec supported rhs) =
    .ok (ofBitVec supported (lhs ||| rhs)) := mapPair_ofBitVec lhs rhs

theorem Element.xor_ofBitVec : (ofBitVec supported lhs).xor (ofBitVec supported rhs) =
    .ok (ofBitVec supported (lhs ^^^ rhs)) := mapPair_ofBitVec lhs rhs

theorem Element.shiftRightLogical_ofBitVec : (ofBitVec supported lhs).shiftRightLogical
    (ofBitVec supported rhs) = .ok (ofBitVec supported (lhs >>> rhs.toNat)) :=
  ofInteger_ofBitVec supported _

theorem Element.shiftRightArithmetic_ofBitVec : (ofBitVec supported lhs).shiftRightArithmetic
    (ofBitVec supported rhs) = .ok (ofBitVec supported (lhs.sshiftRight rhs.toNat)) :=
  ofInteger_ofBitVec supported _

/-- The element of a boolean has the one bit there is. -/
theorem Element.ofBoolean_bit (value : Bool) : ofBoolean (.integer .signless 1) value =
    .ok (IntegerType.boolean.element (BitVec.ofBool value)) := by
  cases value <;> rfl

/-- The disjunction of two booleans is that of their bits. -/
theorem Element.logicalOr_bits (left right : Bool) :
    (IntegerType.boolean.element (.ofBool left)).logicalOr
        (IntegerType.boolean.element (.ofBool right)) =
      .ok (IntegerType.boolean.element (.ofBool (left || right))) := by
  cases left <;> cases right <;> rfl

/-- The negation of a boolean is that of its bit. -/
theorem Element.logicalNot_bit (value : Bool) :
    (IntegerType.boolean.element (.ofBool value)).logicalNot =
      .ok (IntegerType.boolean.element (.ofBool !value)) := by
  cases value <;> rfl

variable [FloatOperations]

theorem Element.negate_ofBitVec :
    (ofBitVec supported bits).negate = .ok (ofBitVec supported (-bits)) := mapElement_ofBitVec bits

theorem Element.abs_ofBitVec :
    (ofBitVec supported bits).abs = .ok (ofBitVec supported bits.abs) := mapElement_ofBitVec bits

theorem Element.subtract_ofBitVec : (ofBitVec supported lhs).subtract (ofBitVec supported rhs) =
    .ok (ofBitVec supported (lhs - rhs)) := mapPair_ofBitVec lhs rhs

theorem Element.divide_ofBitVec (nonzero : rhs ≠ 0) :
    (ofBitVec supported lhs).divide (ofBitVec supported rhs) = .ok (ofBitVec supported
      (if isSupportedSignedIntegerType (.integer signedness width) then lhs.sdiv rhs
        else lhs.udiv rhs)) := by
  refine (mapPair_ofBitVec lhs rhs).trans ?_
  rw [if_neg nonzero]
  -- The type of the elements says how they are signed.
  show Except.map _ (if isSupportedSignedIntegerType (.integer signedness width) then _ else _) = _
  split <;> rfl

theorem Element.rem_ofBitVec (nonzero : rhs ≠ 0) :
    (ofBitVec supported lhs).rem (ofBitVec supported rhs) = .ok (ofBitVec supported
      (if isSupportedSignedIntegerType (.integer signedness width) then lhs.srem rhs
        else lhs.umod rhs)) := by
  refine (mapPair_ofBitVec lhs rhs).trans ?_
  rw [if_neg nonzero]
  -- The type of the elements says how they are signed.
  show Except.map _ (if isSupportedSignedIntegerType (.integer signedness width) then _ else _) = _
  split <;> rfl

theorem Element.max_ofBitVec : (ofBitVec supported lhs).max (ofBitVec supported rhs) =
    .ok (ofBitVec supported
      (if isSupportedSignedIntegerType (.integer signedness width) then smax lhs rhs
        else umax lhs rhs)) := mapPair_ofBitVec lhs rhs

theorem Element.min_ofBitVec : (ofBitVec supported lhs).min (ofBitVec supported rhs) =
    .ok (ofBitVec supported
      (if isSupportedSignedIntegerType (.integer signedness width) then smin lhs rhs
        else umin lhs rhs)) := mapPair_ofBitVec lhs rhs

end Operations

/-- The sign of an integer is computed as a machine integer, and has the same lowest bits. -/
theorem Element.sign_ofBitVec [FloatOperations]
    (supported : isSupportedIntegerType (.integer .signless width) = true) (bits : BitVec width) :
    (ofBitVec supported bits).sign = .ok (ofBitVec supported (.ofInt width
      (if bits.msb then -1 else if bits = 0 then 0 else 1))) := by
  have number (value : Int) (small : value = -1 ∨ value = 0 ∨ value = 1) :
      convertNumber (.integer .signless width) ⟨⟨64, .ofInt 64 value⟩, true⟩
          (.error (unsupported (.integer .signless width))) =
        .ok (ofBitVec supported (.ofInt width value)) := by
    rw [convertNumber_ofBitVec supported]
    show Except.ok (ofBitVec supported (BitVec.ofInt width (BitVec.ofInt 64 value).toInt)) = _
    obtain rfl | rfl | rfl := small <;> rfl
  show (if bits.msb then _ else if bits = 0 then _ else _) = _
  split
  · exact number (-1) (by omega)
  · split
    · exact number 0 (by omega)
    · exact number 1 (by omega)

end Integers

end Stablehlo
