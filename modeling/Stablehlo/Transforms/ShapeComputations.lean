import Stablehlo.Reference.Vectors

/-! Shape computations on index values, and their legalization to numbers of 32 bits. -/

namespace Stablehlo.ShapeLegalize

section Source

/-- The numbers that a value is made of. -/
inductive ElementKind where
  /-- A machine word, of 64 bits. -/
  | index
  | integer (width : Nat)
  deriving DecidableEq

/-- The number of bits. -/
def ElementKind.width : ElementKind → Nat
  | .index => 64
  | .integer width => width

/-- The number that is left of the bits of another one. -/
def ElementKind.wrap (kind : ElementKind) (number : Int) : Int := number.bmod (2 ^ kind.width)

/-- The type of a scalar, or of a tensor with a static shape. -/
structure ValueType where
  shape : Option Sizes
  kind : ElementKind
  deriving DecidableEq

/-- What a shape computation is given: tensors, whose ranks are known, and values. -/
structure Signature where
  ranks : List Nat
  inputs : List ValueType

/-- A step of a shape computation. It refers to the values of the steps before it. -/
inductive ShapeOp where
  /-- An argument that is a value. -/
  | input (number : Nat)
  /-- `arith.constant`, of type `index`. -/
  | constant (value : Int)
  /-- `shape.shape_of`, of an argument that is a tensor. -/
  | shapeOf (arg : Nat)
  /-- `shape.const_shape`. -/
  | constShape (shape : List Int)
  /-- `shape.num_elements`. -/
  | numElements (shape : Nat)
  /-- `shape.broadcast`, of two shapes. -/
  | broadcast (first second : Nat)
  /-- `tensor.dim`, of an argument that is a tensor. -/
  | dim (source index : Nat)
  /-- `tensor.extract`. -/
  | extract (tensor : Nat) (indices : List Nat)
  /-- `tensor.from_elements`, for a tensor with one dimension. -/
  | fromElements (elements : List Nat)
  /-- `tensor.from_elements`, for a tensor without dimensions. -/
  | fromElement (element : Nat)
  /-- `arith.muli`, of index values. -/
  | muli (lhs rhs : Nat)
  /-- `arith.index_cast`. -/
  | indexCast (value : Nat) (out : ElementKind)

/-- The type of an index. -/
def indexType : ValueType := ⟨none, .index⟩

namespace ShapeOp

/-- The type of the value of a step, when it is verified. -/
def resultType (signature : Signature) (types : List ValueType) : ShapeOp → Option ValueType
  | input number => signature.inputs[number]?
  | constant _ => some indexType
  | shapeOf arg => signature.ranks[arg]?.map fun rank => ⟨some [rank], .index⟩
  | constShape shape => some ⟨some [shape.length], .index⟩
  | numElements shape =>
    match types[shape]? with
    | some ⟨some [_], .index⟩ => some indexType
    | _ => none
  | broadcast first second =>
    match types[first]?, types[second]? with
    | some ⟨some [rank1], .index⟩, some ⟨some [rank2], .index⟩ =>
      some ⟨some [max rank1 rank2], .index⟩
    | _, _ => none
  | dim source index =>
    if source < signature.ranks.length ∧ types[index]? = some indexType then some indexType
    else none
  | extract tensor indices =>
    match types[tensor]? with
    | some ⟨some shape, kind⟩ =>
      if indices.length = shape.length ∧ ∀ index ∈ indices, types[index]? = some indexType then
        some ⟨none, kind⟩
      else none
    | _ => none
  | fromElements elements =>
    if ∀ element ∈ elements, types[element]? = some indexType then
      some ⟨some [elements.length], .index⟩
    else none
  | fromElement element =>
    match types[element]? with
    | some ⟨none, kind⟩ => some ⟨some [], kind⟩
    | _ => none
  | muli lhs rhs =>
    match types[lhs]?, types[rhs]? with
    | some ⟨shape, .index⟩, some ⟨shape', .index⟩ =>
      if shape = shape' then some ⟨shape, .index⟩ else none
    | _, _ => none
  | indexCast value out =>
    match types[value]?, out with
    | some ⟨shape, .index⟩, .integer width => some ⟨shape, .integer width⟩
    | some ⟨shape, .integer _⟩, .index => some ⟨shape, .index⟩
    | _, _ => none

end ShapeOp

/-- The types of the values of steps, behind those of the steps before them. -/
def typesFrom (signature : Signature) : List ValueType → List ShapeOp → Option (List ValueType)
  | types, [] => some types
  | types, op :: ops => do
    let type ← op.resultType signature types
    typesFrom signature (types ++ [type]) ops

/-- A shape computation, whose steps are verified. -/
structure ShapeProgram (signature : Signature) where
  ops : List ShapeOp
  types : List ValueType
  typed : typesFrom signature [] ops = some types

/-- What a shape computation is run with: the sizes of the tensors, and values. -/
structure Arguments where
  sizes : List Sizes
  inputs : List (Tensor Int)

/-- The arguments are those of the signature. -/
structure Arguments.Fit (arguments : Arguments) (signature : Signature) : Prop where
  sizes : arguments.sizes.map List.length = signature.ranks
  inputs : arguments.inputs.map Tensor.shape =
    signature.inputs.map fun type => type.shape.getD []

/-- The size of a dimension that two sizes are broadcast to. -/
def broadcastSize (size1 size2 : Int) : Option Int :=
  if size1 = size2 then some size1
  else if size2 = 1 then some size1
  else if size1 = 1 then some size2
  else none

/-- Put ones in front of sizes, so that there is a number of them. -/
def padSizes (rank : Nat) (sizes : List Int) : List Int :=
  List.replicate (rank - sizes.length) 1 ++ sizes

/-- The sizes of two shapes, aligned from the right. -/
def alignedSizes (sizes1 sizes2 : List Int) : List (Int × Int) :=
  (padSizes (max sizes1.length sizes2.length) sizes1).zip
    (padSizes (max sizes1.length sizes2.length) sizes2)

/-- The only element of a value. -/
def elementOf (values : List (Tensor Int)) (value : Nat) : Option Int :=
  values[value]?.bind fun tensor => (tensor.get []).toOption

namespace ShapeOp

/-- The value of a step. -/
def eval (arguments : Arguments) (values : List (Tensor Int)) :
    ShapeOp → Option (Tensor Int)
  | input number => arguments.inputs[number]?
  | constant value => some (.constant value)
  | shapeOf arg => arguments.sizes[arg]?.map fun sizes => .vector (sizes.map Nat.cast)
  | constShape shape => some (.vector shape)
  | numElements shape =>
    values[shape]?.map fun sizes => .constant (ElementKind.index.wrap sizes.data.prod)
  | broadcast first second => do
    let shape1 ← values[first]?
    let shape2 ← values[second]?
    let sizes ← (alignedSizes shape1.data shape2.data).mapM fun (size1, size2) =>
      broadcastSize size1 size2
    some (.vector sizes)
  | dim source index => do
    let sizes ← arguments.sizes[source]?
    let place ← elementOf values index
    let size ← if 0 ≤ place then sizes[place.toNat]? else none
    some (.constant size)
  | extract tensor indices => do
    let operand ← values[tensor]?
    let index ← indices.mapM (elementOf values)
    let element ← (operand.getAt index).toOption
    some (.constant element)
  | fromElements elements => do
    let numbers ← elements.mapM (elementOf values)
    some (.vector numbers)
  | fromElement element => values[element]?
  | muli lhs rhs => do
    let left ← values[lhs]?
    let right ← values[rhs]?
    (Tensor.zipOp (fun x y => .ok (ElementKind.index.wrap (x * y))) left right
      left.shape).toOption
  | indexCast value out => values[value]?.map fun operand => operand.map out.wrap

end ShapeOp

/-- The values of steps, behind those of the steps before them. -/
def evalFrom (arguments : Arguments) : List (Tensor Int) → List ShapeOp →
    Option (List (Tensor Int))
  | values, [] => some values
  | values, op :: ops => do
    let value ← op.eval arguments values
    evalFrom arguments (values ++ [value]) ops

end Source

section Target

/-- The number that is left of 32 bits of another one. -/
def wrapI32 (number : Int) : Int := number.bmod (2 ^ 32)

/-- What a step is legalized to: it is run with the arguments and the values before it. Casts
between index values and tensors of 32 bits leave the numbers as they are. -/
abbrev HloCode := Arguments → List (Tensor Int) → Except Failure (Tensor Int)

/-- Read a value that was defined before. -/
def readValue (values : List (Tensor Int)) (value : Nat) : Except Failure (Tensor Int) :=
  match values[value]? with
  | some tensor => .ok tensor
  | none => .error .undefinedBehavior

/-- StableHLO `get_dimension_size`. -/
def getDimensionSizeOp (sizes : Sizes) (dimension : Nat) : Except Failure (Tensor Int) :=
  match sizes[dimension]? with
  | some size => .ok (.constant (wrapI32 size))
  | none => .error .undefinedBehavior

/-- StableHLO `multiply`, of 32 bits. -/
def multiplyOp (lhs rhs : Tensor Int) : Except Failure (Tensor Int) :=
  Tensor.zipOp (fun x y => .ok (wrapI32 (x * y))) lhs rhs lhs.shape

/-- StableHLO `maximum`. -/
def maxOp (lhs rhs : Tensor Int) : Except Failure (Tensor Int) :=
  Tensor.zipOp (fun x y => .ok (max x y)) lhs rhs lhs.shape

/-- StableHLO `convert`, to signless integers. The type of one bit is the boolean type, whose only
bit is the sign of the number here. -/
def convertOp (operand : Tensor Int) (width : Nat) : Except Failure (Tensor Int) :=
  Tensor.mapOp (fun x => .ok (if width = 1 then (if x = 0 then 0 else -1)
    else (ElementKind.integer width).wrap x)) operand operand.shape

end Target

section Legalization

/-- The shape of the tensor of 32 bits that a value is cast to. -/
def castToI32 : ValueType → Option Sizes
  | ⟨none, .index⟩ => some []
  | ⟨some shape, .index⟩ => some shape
  | ⟨some shape, .integer 32⟩ => some shape
  | _ => none

/-- The index type that a tensor of 32 bits is cast to. -/
def castToIndex : Sizes → ValueType
  | [] => indexType
  | shape => ⟨some shape, .index⟩

/-- What is known where a step is legalized: the steps before it, and the types of their values. -/
structure Context where
  signature : Signature
  ops : List ShapeOp
  types : List ValueType

/-- The number of a value that is defined by a constant. -/
def Context.constantIndex (context : Context) (value : Nat) : Option Int :=
  match context.ops[value]? with
  | some (.constant number) => some number
  | _ => none

/-- A constant of 32 bits, or the value as one. -/
def Context.convertToConstantOrI32Cast (context : Context) (value : Nat) : Option HloCode :=
  match context.constantIndex value with
  | some number => some fun _ _ => .ok (.constant (wrapI32 number))
  | none => do
    let _ ← context.types[value]?.bind castToI32
    some fun _ values => readValue values value

/-- Put ones in front of a tensor with one dimension. -/
def padFromLeft (content : Int) (input : Tensor Int) (inputSize pad : Nat) :
    Except Failure (Tensor Int) :=
  Tensor.concatenateOp content [.vector (List.replicate pad 1), input] 0 [pad + inputSize]

namespace ShapeOp

/-- The product of the sizes, one by one. -/
def convertNumElements (rank : Nat) (shape : Nat) : HloCode := fun _ values => do
  let shapeI32 ← readValue values shape
  (List.range rank).foldlM (fun result (i : Nat) => do
    let sizeI32x1 ← shapeI32.sliceOp [(i : Int)] [(i : Int) + 1] [1]
    let sizeI32 ← sizeI32x1.reshapeOp []
    multiplyOp result sizeI32) (.constant 1)

/-- The sizes of a tensor, one after the other. -/
def convertShapeOf (content : Int) (rank : Nat) (arg : Nat) : HloCode := fun arguments _ =>
  if rank = 0 then .ok (.vector [])
  else
    match arguments.sizes[arg]? with
    | none => .error .undefinedBehavior
    | some sizes => do
      let sizesI32x1 ← (List.range rank).mapM fun i => do
        let sizeI32 ← getDimensionSizeOp sizes i
        sizeI32.reshapeOp [1]
      Tensor.concatenateOp content sizesI32x1 0 [rank]

/-- The larger size in each dimension, after ones are put in front of the shape of lower rank. -/
def convertBroadcast (content : Int) (rank1 rank2 first second : Nat) : HloCode :=
  fun _ values => do
    let shape1 ← readValue values first
    let shape2 ← readValue values second
    if rank1 < rank2 then
      let padded ← padFromLeft content shape1 rank1 (rank2 - rank1)
      maxOp padded shape2
    else if rank2 < rank1 then
      let padded ← padFromLeft content shape2 rank2 (rank1 - rank2)
      maxOp shape1 padded
    else maxOp shape1 shape2

/-- The element of a tensor at constant indices. -/
def convertExtract (tensor : Nat) (indices : List Int) : HloCode := fun _ values => do
  let input ← readValue values tensor
  let extracted ← input.sliceOp indices (indices.map (· + 1)) (List.replicate indices.length 1)
  extracted.reshapeOp []

/-- The code of a step, unless no pattern matches or an operation is not verified. Memory that a
concatenation fills has some content. -/
def legalize (content : Int) (context : Context) : ShapeOp → Option HloCode
  | input number => some fun arguments _ => readValue arguments.inputs number
  | constant value => some fun _ _ => .ok (.constant value)
  | shapeOf arg => do
    let rank ← context.signature.ranks[arg]?
    some (convertShapeOf content rank arg)
  | constShape shape => some fun _ _ => .ok (.vector (shape.map wrapI32))
  | numElements shape => do
    let sizes ← context.types[shape]?.bind castToI32
    some (convertNumElements sizes.prod shape)
  | broadcast first second => do
    let shape1 ← context.types[first]?.bind castToI32
    let shape2 ← context.types[second]?.bind castToI32
    match shape1, shape2 with
    | [rank1], [rank2] => some (convertBroadcast content rank1 rank2 first second)
    | _, _ => none
  | dim source index => do
    let number ← context.constantIndex index
    let rank ← context.signature.ranks[source]?
    if 0 ≤ number ∧ number < rank then
      some fun arguments _ => match arguments.sizes[source]? with
        | some sizes => getDimensionSizeOp sizes number.toNat
        | none => .error .undefinedBehavior
    else none
  | extract tensor indices => do
    let type ← context.types[tensor]?
    let numbers ← indices.mapM context.constantIndex
    let shape ← castToI32 type
    if (numbers.zip shape).all fun (number, size) => 0 ≤ number ∧ number < size then
      some (convertExtract tensor numbers)
    else none
  | fromElements elements => do
    if elements.isEmpty then none
    else do
      let codes ← elements.mapM context.convertToConstantOrI32Cast
      some fun arguments values => do
        let elementI32x1 ← codes.mapM fun code => do
          let element ← code arguments values
          element.reshapeOp [1]
        Tensor.concatenateOp content elementI32x1 0 [elements.length]
  | fromElement element => some fun _ values => readValue values element
  | muli lhs rhs => do
    let type ← context.types[lhs]?
    let left ← context.convertToConstantOrI32Cast lhs
    let right ← context.convertToConstantOrI32Cast rhs
    -- A tensor without dimensions is cast to a scalar, which is not of the type of the result.
    if castToIndex (type.shape.getD []) = type then
      some fun arguments values => do
        let x ← left arguments values
        let y ← right arguments values
        multiplyOp x y
    else none
  | indexCast value out => do
    let type ← context.types[value]?
    match type, out with
    | ⟨none, .index⟩, .integer width =>
      if width = 32 then some fun _ values => readValue values value
      else if width = 1 ∨ width ∈ [2, 4, 8, 16, 64] then
        some fun _ values => do
          let operand ← readValue values value
          convertOp operand width
      else none
    | ⟨none, .integer _⟩, .index => some fun _ values => readValue values value
    | ⟨some _, .index⟩, .integer 32 => some fun _ values => readValue values value
    | ⟨some shape, .integer 32⟩, .index =>
      if castToIndex shape = ⟨some shape, .index⟩ then some fun _ values => readValue values value
      else none
    | _, _ => none

end ShapeOp

/-- The codes of steps, behind some steps whose values have the types. -/
def legalizeFrom (content : Int) (signature : Signature) :
    List ShapeOp → List ValueType → List ShapeOp → Option (List HloCode)
  | _, _, [] => some []
  | before, types, op :: ops => do
    let code ← op.legalize content ⟨signature, before, types⟩
    let type ← op.resultType signature types
    let codes ← legalizeFrom content signature (before ++ [op]) (types ++ [type]) ops
    some (code :: codes)

/-- The code of a shape computation. -/
def ShapeProgram.legalize {signature : Signature} (program : ShapeProgram signature)
    (content : Int) : Option (List HloCode) :=
  legalizeFrom content signature [] [] program.ops

/-- The values of codes, behind those before them. -/
def runFrom (arguments : Arguments) : List (Tensor Int) → List HloCode →
    Except Failure (List (Tensor Int))
  | values, [] => .ok values
  | values, code :: codes => do
    let value ← code arguments values
    runFrom arguments (values ++ [value]) codes

end Legalization

section Specification

/-- The numbers are ones of 32 bits. -/
def FitsI32 (value : Tensor Int) : Prop := ∀ number ∈ value.data, -2 ^ 31 ≤ number ∧ number < 2 ^ 31

instance (value : Tensor Int) : Decidable (FitsI32 value) :=
  inferInstanceAs (Decidable (∀ number ∈ value.data, -2 ^ 31 ≤ number ∧ number < 2 ^ 31))

/-- No size below one is aligned with a one where shapes are broadcast, and numbers that are cast to
one bit are zero or odd. -/
def ShapeOp.Plain (values : List (Tensor Int)) : ShapeOp → Prop
  | .broadcast first second => ∀ shape1 shape2, values[first]? = some shape1 →
    values[second]? = some shape2 → ∀ pair ∈ alignedSizes shape1.data shape2.data,
      (pair.1 = 1 → 1 ≤ pair.2) ∧ (pair.2 = 1 → 1 ≤ pair.1)
  | .indexCast value (.integer 1) => ∀ operand, values[value]? = some operand →
    ∀ number ∈ operand.data, number = 0 ∨ number % 2 = 1
  | _ => True

end Specification

end Stablehlo.ShapeLegalize
