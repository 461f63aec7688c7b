import Stablehlo.Reference.ElementOperations
import Stablehlo.Transforms.FoldCompare

/-! The folding of operations that compute each element on its own, of booleans and integers. -/

namespace Stablehlo

section Elementwise

variable {width resultWidth : Nat}

/-- A constant whose elements are those of another one, each replaced by what is calculated. -/
structure MapsElements (calculate : BitVec width → Except Failure (Option (BitVec resultWidth)))
    (operand : Tensor (BitVec width)) (result : Tensor (BitVec resultWidth)) : Prop where
  shape : result.shape = operand.shape
  elements : ∀ index, MixedRadix.Within operand.shape index → ∃ bits folded,
    operand.get index = .ok bits ∧ calculate bits = .ok (some folded) ∧
      result.get index = .ok folded

/-- A constant whose elements are what is calculated from those of two other ones. -/
structure ZipsElements
    (calculate : BitVec width → BitVec width → Except Failure (Option (BitVec resultWidth)))
    (lhs rhs : Tensor (BitVec width)) (result : Tensor (BitVec resultWidth)) : Prop where
  sameShape : lhs.shape = rhs.shape
  shape : result.shape = lhs.shape
  elements : ∀ index, MixedRadix.Within lhs.shape index → ∃ left right folded,
    lhs.get index = .ok left ∧ rhs.get index = .ok right ∧
      calculate left right = .ok (some folded) ∧ result.get index = .ok folded

end Elementwise

/-- The folders of the compiler's infrastructure, which calculate element by element. -/
class CommonFolders where
  constFoldUnaryOp {width resultWidth : Nat} :
    (BitVec width → Except Failure (Option (BitVec resultWidth))) → Tensor (BitVec width) →
      Except Failure (Option (Tensor (BitVec resultWidth)))
  constFoldBinaryOp {width resultWidth : Nat} :
    (BitVec width → BitVec width → Except Failure (Option (BitVec resultWidth))) →
      Tensor (BitVec width) → Tensor (BitVec width) →
        Except Failure (Option (Tensor (BitVec resultWidth)))
  constFoldCastOp {width resultWidth : Nat} :
    (BitVec width → Except Failure (Option (BitVec resultWidth))) → Tensor (BitVec width) →
      Except Failure (Option (Tensor (BitVec resultWidth)))
  unary_elementwise {width resultWidth : Nat}
    {calculate : BitVec width → Except Failure (Option (BitVec resultWidth))}
    {operand : Tensor (BitVec width)} {result : Tensor (BitVec resultWidth)} :
    constFoldUnaryOp calculate operand = .ok (some result) → MapsElements calculate operand result
  cast_elementwise {width resultWidth : Nat}
    {calculate : BitVec width → Except Failure (Option (BitVec resultWidth))}
    {operand : Tensor (BitVec width)} {result : Tensor (BitVec resultWidth)} :
    constFoldCastOp calculate operand = .ok (some result) → MapsElements calculate operand result
  /-- Operands of different types are not folded. -/
  binary_elementwise {width resultWidth : Nat}
    {calculate : BitVec width → BitVec width → Except Failure (Option (BitVec resultWidth))}
    {lhs rhs : Tensor (BitVec width)} {result : Tensor (BitVec resultWidth)} :
    constFoldBinaryOp calculate lhs rhs = .ok (some result) →
      ZipsElements calculate lhs rhs result
  /-- Operands of one type are folded where everything can be calculated. -/
  binary_total {width resultWidth : Nat}
    {calculate : BitVec width → BitVec width → Except Failure (Option (BitVec resultWidth))}
    {lhs rhs : Tensor (BitVec width)} : lhs.shape = rhs.shape →
      (∀ left right, ∃ folded, calculate left right = .ok (some folded)) →
        ∃ result, constFoldBinaryOp calculate lhs rhs = .ok (some result)

/-- The options of the pass. -/
structure FolderOptions where
  foldOpElementLimit : Int64

/-- A calculation that always has a result. -/
def calculates {α : Type} (result : α) : Except Failure (Option α) := .ok (some result)

section Folders

variable {width : Nat}

/-- The conjunction of two booleans. -/
def foldLogicalAnd (lhs rhs : BitVec width) : BitVec width :=
  if lhs ≠ 0 ∧ rhs ≠ 0 then 1 else 0

/-- The disjunction of two booleans. -/
def foldLogicalOr (lhs rhs : BitVec width) : BitVec width :=
  if lhs ≠ 0 ∨ rhs ≠ 0 then 1 else 0

/-- The exclusive disjunction of two booleans. -/
def foldLogicalXor (lhs rhs : BitVec width) : BitVec width :=
  if (lhs != 0) ^^ (rhs != 0) then 1 else 0

/-- The greater one of two numbers. -/
def foldMax (isUnsignedInt : Bool) (lhs rhs : BitVec width) : BitVec width :=
  if isUnsignedInt then umax lhs rhs else smax lhs rhs

/-- The smaller one of two numbers. -/
def foldMin (isUnsignedInt : Bool) (lhs rhs : BitVec width) : BitVec width :=
  if isUnsignedInt then umin lhs rhs else smin lhs rhs

/-- The quotient of two numbers, which is undefined for zero as the divisor. -/
def foldDivide (isUnsignedInt : Bool) (lhs rhs : BitVec width) :
    Except Failure (Option (BitVec width)) :=
  if rhs = 0 then .error .undefinedBehavior
  else calculates (if isUnsignedInt then lhs.udiv rhs else lhs.sdiv rhs)

/-- The remainder of a division, which is undefined for zero as the divisor. -/
def foldRem (isUnsignedInt : Bool) (lhs rhs : BitVec width) :
    Except Failure (Option (BitVec width)) :=
  if rhs = 0 then .error .undefinedBehavior
  else calculates (if isUnsignedInt then lhs.umod rhs else lhs.srem rhs)

/-- The sign of a number, unless the number has none. -/
def evaluateSign (operand : BitVec width) (isUnsigned : Bool) : Option (BitVec width) :=
  if isUnsigned then none
  else
    let sign : Int := if operand.msb then -1 else if operand = 0 then 0 else 1
    some (.ofInt width sign)

/-- The outcome of a comparison of two integers. -/
def ComparisonDirection.compareInts (direction : ComparisonDirection) (isSigned : Bool)
    (lhs rhs : BitVec width) : Bool :=
  match direction with
  | .eq => lhs == rhs
  | .ne => lhs != rhs
  | .ge => if isSigned then rhs.sle lhs else rhs.ule lhs
  | .gt => if isSigned then rhs.slt lhs else rhs.ult lhs
  | .le => if isSigned then lhs.sle rhs else lhs.ule rhs
  | .lt => if isSigned then lhs.slt rhs else lhs.ult rhs

/-- Compare two integers. -/
def FoldCompare.applyInt (folder : FoldCompare) (lhs rhs : BitVec width) :
    Except Failure (Option (BitVec 1)) :=
  if folder.kind ≠ .unsigned ∧ folder.kind ≠ .signed then
    .error (.fatalError "invalid integer comparison")
  else
    calculates (.ofBool (folder.direction.compareInts (folder.kind = .signed) lhs rhs))

end Folders

/-- The type has no signs by itself. -/
def IntegerType.isUnsignedInteger (type : IntegerType) : Bool := type.signedness = .unsigned

/-- The type has a single bit, and leaves open whether it is a sign. -/
def IntegerType.isSignlessInteger1 (type : IntegerType) : Bool :=
  type.signedness = .signless ∧ type.width = 1

/-- Convert a number to a type. -/
def foldConvert (oldType newType : IntegerType) (operand : BitVec oldType.width) :
    BitVec newType.width :=
  let isOldTypeUnsigned := oldType.isSignlessInteger1 || oldType.isUnsignedInteger
  if newType.isSignlessInteger1 then
    (if operand = 0 then 0#1 else 1#1).signExtend newType.width
  else if isOldTypeUnsigned then
    operand.setWidth newType.width
  else
    operand.signExtend newType.width

section Patterns

variable [CommonFolders] (type : IntegerType)

/-- Fold an operation with one operand. -/
def foldUnaryOpPattern (evaluateOp : BitVec type.width → Option (BitVec type.width))
    (operand : type.Constant) : Except Failure (Option type.Constant) :=
  CommonFolders.constFoldUnaryOp (fun bits => .ok (evaluateOp bits)) operand

/-- Fold `abs`. -/
def foldAbsOpPattern : type.Constant → Except Failure (Option type.Constant) :=
  foldUnaryOpPattern type fun operand => some operand.abs

/-- Fold `negate`. -/
def foldNegOpPattern : type.Constant → Except Failure (Option type.Constant) :=
  foldUnaryOpPattern type fun operand => some (-operand)

/-- Fold `not`. -/
def foldNotOpPattern : type.Constant → Except Failure (Option type.Constant) :=
  foldUnaryOpPattern type fun operand => some (~~~operand)

/-- Fold `sign`. -/
def foldSignOpPattern : type.Constant → Except Failure (Option type.Constant) :=
  let isSignedInt := !type.isUnsignedInteger
  foldUnaryOpPattern type fun operand => evaluateSign operand !isSignedInt

/-- Fold `add`. -/
def foldAddOpPattern : type.Constant → type.Constant → Except Failure (Option type.Constant) :=
  CommonFolders.constFoldBinaryOp fun lhs rhs => calculates (lhs + rhs)

/-- Fold `subtract`. -/
def foldSubtractOpPattern :
    type.Constant → type.Constant → Except Failure (Option type.Constant) :=
  CommonFolders.constFoldBinaryOp fun lhs rhs => calculates (lhs - rhs)

/-- Fold `multiply`. -/
def foldMulOpPattern : type.Constant → type.Constant → Except Failure (Option type.Constant) :=
  CommonFolders.constFoldBinaryOp fun lhs rhs => calculates (lhs * rhs)

/-- Fold `and`. -/
def foldAndOpPattern : type.Constant → type.Constant → Except Failure (Option type.Constant) :=
  if type.width = 1 then
    CommonFolders.constFoldBinaryOp fun lhs rhs => calculates (foldLogicalAnd lhs rhs)
  else
    CommonFolders.constFoldBinaryOp fun lhs rhs => calculates (lhs &&& rhs)

/-- Fold `or`. -/
def foldOrOpPattern : type.Constant → type.Constant → Except Failure (Option type.Constant) :=
  if type.width = 1 then
    CommonFolders.constFoldBinaryOp fun lhs rhs => calculates (foldLogicalOr lhs rhs)
  else
    CommonFolders.constFoldBinaryOp fun lhs rhs => calculates (lhs ||| rhs)

/-- Fold `xor`. -/
def foldXorOpPattern : type.Constant → type.Constant → Except Failure (Option type.Constant) :=
  if type.width = 1 then
    CommonFolders.constFoldBinaryOp fun lhs rhs => calculates (foldLogicalXor lhs rhs)
  else
    CommonFolders.constFoldBinaryOp fun lhs rhs => calculates (lhs ^^^ rhs)

/-- A divisor has an element that is zero. -/
def integerDivisorHasZeroElement (rhs : type.Constant) : Bool := rhs.data.any fun value => value = 0

/-- Fold `divide`. -/
def foldDivOpPattern (lhs rhs : type.Constant) : Except Failure (Option type.Constant) :=
  if integerDivisorHasZeroElement type rhs then .ok none
  else CommonFolders.constFoldBinaryOp (foldDivide type.isUnsignedInteger) lhs rhs

/-- Fold `remainder`. -/
def foldRemOpPattern (lhs rhs : type.Constant) : Except Failure (Option type.Constant) :=
  if integerDivisorHasZeroElement type rhs then .ok none
  else CommonFolders.constFoldBinaryOp (foldRem type.isUnsignedInteger) lhs rhs

/-- Fold `maximum`. -/
def foldMaxOpPattern : type.Constant → type.Constant → Except Failure (Option type.Constant) :=
  let isUnsignedIntOrBool := type.isUnsignedInteger || type.width == 1
  CommonFolders.constFoldBinaryOp fun lhs rhs => calculates (foldMax isUnsignedIntOrBool lhs rhs)

/-- Fold `minimum`. -/
def foldMinOpPattern : type.Constant → type.Constant → Except Failure (Option type.Constant) :=
  let isUnsignedIntOrBool := type.isUnsignedInteger || type.width == 1
  CommonFolders.constFoldBinaryOp fun lhs rhs => calculates (foldMin isUnsignedIntOrBool lhs rhs)

/-- Fold `clamp`. -/
def foldClampOpPattern (min operand max : type.Constant) :
    Except Failure (Option type.Constant) := do
  let isUnsignedInt := type.isUnsignedInteger
  let raised ← CommonFolders.constFoldBinaryOp
    (fun lhs rhs => calculates (foldMax isUnsignedInt lhs rhs)) min operand
  match raised with
  | some raised =>
    CommonFolders.constFoldBinaryOp
      (fun lhs rhs => calculates (foldMin isUnsignedInt lhs rhs)) max raised
  | none =>
    -- Nothing is folded without an operand.
    .ok none

/-- Fold `compare`. -/
def foldCompareOpPattern (direction : ComparisonDirection) (compareType : Option ComparisonType)
    (lhs rhs : type.Constant) : Except Failure (Option IntegerType.boolean.Constant) :=
  let comparisonType := getComparisonType compareType type.elementType
  if comparisonType = .noType then .ok none
  else CommonFolders.constFoldBinaryOp (FoldCompare.applyInt ⟨direction, comparisonType⟩) lhs rhs

/-- The fold does not have more elements than the options allow. -/
def validateElementCountForFold (options : FolderOptions) (resultShape : Sizes) : Bool :=
  UInt64.ofNat resultShape.prod ≤ options.foldOpElementLimit.toUInt64

/-- Fold `convert`. -/
def foldConvertOpPattern (options : FolderOptions) (resultType : IntegerType)
    (operand : type.Constant) : Except Failure (Option resultType.Constant) :=
  if validateElementCountForFold options operand.shape then
    CommonFolders.constFoldCastOp (fun bits => calculates (foldConvert type resultType bits))
      operand
  else
    .ok none

/-- The one value that all elements of a constant have. -/
def splatValue {width : Nat} (constant : Tensor (BitVec width)) : Option (BitVec width) :=
  match constant.data with
  | [] => none
  | value :: values => if values.all fun other => other = value then some value else none

/-- Fold `select`. -/
def foldSelectOpPattern (options : FolderOptions) (pred : IntegerType.boolean.Constant)
    (onTrue onFalse : type.Constant) (resultShape : Sizes) :
    Except Failure (Option type.Constant) :=
  match splatValue pred with
  | some value => .ok (some (if value = 0 then onFalse else onTrue))
  | none =>
    if validateElementCountForFold options resultShape then
      let result := (pred.data.zip (onTrue.data.zip onFalse.data)).map
        fun (predEl, onTrueEl, onFalseEl) => if predEl ≠ 0 then onTrueEl else onFalseEl
      if complete : result.length = resultShape.prod then
        .ok (some ⟨resultShape, result, complete⟩)
      else
        .error .undefinedBehavior
    else
      .ok none

end Patterns

/-- The operations with one operand. -/
inductive UnaryKind where
  | abs
  | negate
  | not
  | sign
  deriving DecidableEq

/-- The operations with two operands. -/
inductive BinaryKind where
  | add
  | and
  | divide
  | maximum
  | minimum
  | multiply
  | or
  | remainder
  | subtract
  | xor
  deriving DecidableEq

/-- An operation on constants of booleans or integers. -/
inductive ConstantOp where
  | unary (kind : UnaryKind) (type : IntegerType) (operand : type.Constant)
  | binary (kind : BinaryKind) (type : IntegerType) (lhs rhs : type.Constant)
  | clamp (type : IntegerType) (min operand max : type.Constant)
  | compare (type : IntegerType) (direction : ComparisonDirection)
    (compareType : Option ComparisonType) (lhs rhs : type.Constant)
  | select (type : IntegerType) (pred : IntegerType.boolean.Constant)
    (onTrue onFalse : type.Constant)
  | convert (type resultType : IntegerType) (operand : type.Constant)

/-- The element types an operation with one operand is defined for. -/
def UnaryKind.accepts : UnaryKind → IntegerType → Bool
  | abs, type | sign, type => isSupportedSignedIntegerType type.elementType
  | negate, type => isSupportedIntegerType type.elementType
  | not, _ => true

/-- The element types an operation with two operands is defined for. -/
def BinaryKind.accepts : BinaryKind → IntegerType → Bool
  | divide, type | remainder, type | subtract, type => isSupportedIntegerType type.elementType
  | _, _ => true

/-- The operation has the types and shapes its definition asks for. -/
def ConstantOp.Accepted : ConstantOp → Prop
  | unary kind type _ => kind.accepts type = true
  | binary kind type lhs rhs => kind.accepts type = true ∧ lhs.shape = rhs.shape
  | clamp _ min operand max => (min.shape = operand.shape ∨ min.shape = []) ∧
    (max.shape = operand.shape ∨ max.shape = [])
  | compare _ _ _ lhs rhs => lhs.shape = rhs.shape
  | select _ pred onTrue onFalse => onTrue.shape = onFalse.shape ∧
    (pred.shape = onTrue.shape ∨ pred.shape = [])
  | convert .. => True

/-- The element type of the result. -/
def ConstantOp.resultType : ConstantOp → IntegerType
  | unary _ type _ | binary _ type _ _ | clamp type .. | select type .. => type
  | compare .. => .boolean
  | convert _ resultType _ => resultType

section Folding

variable [CommonFolders]

/-- Fold an operation with one operand. -/
def UnaryKind.fold (kind : UnaryKind) (type : IntegerType) :
    type.Constant → Except Failure (Option type.Constant) :=
  match kind with
  | abs => foldAbsOpPattern type
  | negate => foldNegOpPattern type
  | not => foldNotOpPattern type
  | sign => foldSignOpPattern type

/-- Fold an operation with two operands. -/
def BinaryKind.fold (kind : BinaryKind) (type : IntegerType) :
    type.Constant → type.Constant → Except Failure (Option type.Constant) :=
  match kind with
  | add => foldAddOpPattern type
  | and => foldAndOpPattern type
  | divide => foldDivOpPattern type
  | maximum => foldMaxOpPattern type
  | minimum => foldMinOpPattern type
  | multiply => foldMulOpPattern type
  | or => foldOrOpPattern type
  | remainder => foldRemOpPattern type
  | subtract => foldSubtractOpPattern type
  | xor => foldXorOpPattern type

/-- The constant an operation is folded to, if it is folded. -/
def ConstantOp.fold (options : FolderOptions) :
    (op : ConstantOp) → Except Failure (Option op.resultType.Constant)
  | unary kind type operand => kind.fold type operand
  | binary kind type lhs rhs => kind.fold type lhs rhs
  | clamp type min operand max => foldClampOpPattern type min operand max
  | compare type direction compareType lhs rhs =>
    foldCompareOpPattern type direction compareType lhs rhs
  | select type pred onTrue onFalse =>
    foldSelectOpPattern type options pred onTrue onFalse onTrue.shape
  | convert type resultType operand => foldConvertOpPattern type options resultType operand

end Folding

section Evaluation

variable [TypePrinter] [FloatArithmetic] [FloatOperations]

/-- What the interpreter computes for an element. -/
def UnaryKind.compute : UnaryKind → Element → Except Failure Element
  | abs => Element.abs
  | negate => Element.negate
  | not => Element.not
  | sign => Element.sign

/-- What the interpreter computes for two elements. -/
def BinaryKind.compute : BinaryKind → Element → Element → Except Failure Element
  | add => Element.add
  | and => Element.and
  | divide => Element.divide
  | maximum => Element.max
  | minimum => Element.min
  | multiply => Element.multiply
  | or => Element.or
  | remainder => Element.rem
  | subtract => Element.subtract
  | xor => Element.xor

/-- Interpret an operation with one operand. -/
def UnaryKind.eval : UnaryKind → Tensor Element → Sizes → Except Failure (Tensor Element)
  | abs => Tensor.absOp
  | negate => Tensor.negOp
  | not => Tensor.notOp
  | sign => Tensor.signOp

/-- Interpret an operation with two operands. -/
def BinaryKind.eval :
    BinaryKind → Tensor Element → Tensor Element → Sizes → Except Failure (Tensor Element)
  | add => Tensor.addOp
  | and => Tensor.andOp
  | divide => Tensor.divideOp
  | maximum => Tensor.maxOp
  | minimum => Tensor.minOp
  | multiply => Tensor.multiplyOp
  | or => Tensor.orOp
  | remainder => Tensor.remOp
  | subtract => Tensor.subtractOp
  | xor => Tensor.xorOp

/-- The result of the interpreter for the operation. -/
def ConstantOp.eval : ConstantOp → Except Failure (Tensor Element)
  | unary kind type operand => kind.eval (type.tensor operand) operand.shape
  | binary kind type lhs rhs => kind.eval (type.tensor lhs) (type.tensor rhs) lhs.shape
  | clamp type min operand max =>
    Tensor.clampOp (type.tensor min) (type.tensor operand) (type.tensor max) operand.shape
  | compare type direction _ lhs rhs =>
    Tensor.compareOp (type.tensor lhs) (type.tensor rhs) direction lhs.shape
  | select type pred onTrue onFalse =>
    Tensor.selectOp (IntegerType.boolean.tensor pred) (type.tensor onTrue) (type.tensor onFalse)
      onTrue.shape
  | convert type resultType operand =>
    Tensor.convertOp (type.tensor operand) ⟨operand.shape, resultType.elementType⟩

end Evaluation

/-- A division or a remainder has an element that is zero in its divisor. -/
def ConstantOp.DividesByZero : ConstantOp → Prop
  | binary kind _ _ rhs =>
    (kind = .divide ∨ kind = .remainder) ∧ ∃ index, rhs.get index = .ok 0
  | _ => False

/-- The folded constant is what the interpreter computes, and there is none for division by zero. -/
structure ConstantOp.FoldsCorrectly [CommonFolders] [TypePrinter] [FloatArithmetic]
    [FloatOperations] (op : ConstantOp) (options : FolderOptions) : Prop where
  agrees : ∀ folded, op.fold options = .ok (some folded) →
    op.eval = .ok (op.resultType.tensor folded)
  notByZero : op.DividesByZero → ∀ folded, op.fold options ≠ .ok (some folded)

/-- The type of a comparison says that the operands are signed in another way than they are. -/
def signsOtherwise (compareType : Option ComparisonType) (type : IntegerType) : Prop :=
  compareType = some .signed ∧ isSupportedSignedIntegerType type.elementType = false ∨
    compareType = some .unsigned ∧ isSupportedSignedIntegerType type.elementType = true

/-- No element is one for which the folder and the interpreter compute differently. -/
def ConstantOp.FoldsAsInterpreted : ConstantOp → Prop
  | binary kind type lhs rhs =>
    -- The sum of two booleans wraps around in the folder, and is their disjunction otherwise.
    kind = .add → type = .boolean → ∀ index, ¬(lhs.get index = .ok 1 ∧ rhs.get index = .ok 1)
  | clamp type min operand max =>
    -- A boolean is a sign bit in the folder, so that true is less than false.
    type = .boolean → min.shape = operand.shape → max.shape = operand.shape → ∀ index,
      MixedRadix.Within operand.shape index → operand.get index = min.get index →
        max.get index = min.get index
  | compare type direction compareType lhs rhs =>
    signsOtherwise compareType type → direction = .eq ∨ direction = .ne ∨
      ∀ index left right, lhs.get index = .ok left → rhs.get index = .ok right →
        left.msb = right.msb
  | _ => True

/-- What the folder makes of the number of an element. -/
def UnaryKind.evaluateOp (kind : UnaryKind) (type : IntegerType) (operand : BitVec type.width) :
    Option (BitVec type.width) :=
  match kind with
  | abs => some operand.abs
  | negate => some (-operand)
  | not => some (~~~operand)
  | sign => evaluateSign operand type.isUnsignedInteger

/-- What the folder makes of the numbers of two elements. -/
def BinaryKind.calculate (kind : BinaryKind) (type : IntegerType) (lhs rhs : BitVec type.width) :
    Except Failure (Option (BitVec type.width)) :=
  match kind with
  | add => calculates (lhs + rhs)
  | and => calculates (if type.width = 1 then foldLogicalAnd lhs rhs else lhs &&& rhs)
  | divide => foldDivide type.isUnsignedInteger lhs rhs
  | maximum => calculates (foldMax (type.isUnsignedInteger || type.width == 1) lhs rhs)
  | minimum => calculates (foldMin (type.isUnsignedInteger || type.width == 1) lhs rhs)
  | multiply => calculates (lhs * rhs)
  | or => calculates (if type.width = 1 then foldLogicalOr lhs rhs else lhs ||| rhs)
  | remainder => foldRem type.isUnsignedInteger lhs rhs
  | subtract => calculates (lhs - rhs)
  | xor => calculates (if type.width = 1 then foldLogicalXor lhs rhs else lhs ^^^ rhs)

/-- What the folder makes of the numbers of an element and its bounds. -/
def foldClampElement (type : IntegerType) (min operand max : BitVec type.width) :
    BitVec type.width :=
  foldMin type.isUnsignedInteger max (foldMax type.isUnsignedInteger min operand)

end Stablehlo
