import Stablehlo.Transforms.ShapeComputations

/-! Which shape computations have the same values when they are legalized. -/

namespace Stablehlo.ShapeLegalize

section Numbers

variable {number : Int}

attribute [local simp] ShapeOp.eval ShapeOp.resultType

/-- Numbers of 32 bits are left as they are. -/
theorem wrapI32_eq (least : -2 ^ 31 ≤ number) (most : number < 2 ^ 31) :
    wrapI32 number = number := by
  unfold wrapI32
  exact Int.bmod_eq_of_le (by omega) (by omega)

/-- What is left of 64 bits, and then of 32 bits, is what is left of 32 bits. -/
theorem wrapI32_wrap (number : Int) : wrapI32 (ElementKind.index.wrap number) = wrapI32 number := by
  unfold wrapI32 ElementKind.wrap
  exact Int.bmod_bmod_of_dvd (by decide)

/-- A number whose 64 bits are one of 32 bits is that one. -/
theorem wrapI32_eq_wrap (least : -2 ^ 31 ≤ ElementKind.index.wrap number)
    (most : ElementKind.index.wrap number < 2 ^ 31) :
    wrapI32 number = ElementKind.index.wrap number := by
  rw [← wrapI32_wrap, wrapI32_eq least most]

/-- Factors may be wrapped before they are multiplied. -/
theorem wrapI32_mul (x y : Int) : wrapI32 (wrapI32 x * y) = wrapI32 (x * y) := by
  unfold wrapI32
  exact Int.bmod_mul_bmod

/-- A conversion to one bit keeps numbers that are zero or odd. -/
theorem convert_bit_iff : (if number = 0 then (0 : Int) else -1) =
    (ElementKind.integer 1).wrap number ↔ number = 0 ∨ number % 2 = 1 := by
  have bit : (ElementKind.integer 1).wrap number = if number % 2 = 1 then -1 else 0 := by
    show number.bmod 2 = _
    rw [Int.bmod_def]
    split <;> split <;> omega
  rw [bit]
  split <;> split <;> omega

/-- The larger size is the one that is broadcast to, unless a size below one meets a one. -/
theorem max_eq_iff {size1 size2 size : Int} (broadcast : broadcastSize size1 size2 = some size) :
    max size1 size2 = size ↔ (size1 = 1 → 1 ≤ size2) ∧ (size2 = 1 → 1 ≤ size1) := by
  unfold broadcastSize at broadcast
  split at broadcast
  · cases broadcast
    omega
  · split at broadcast
    · cases broadcast
      omega
    · split at broadcast
      · cases broadcast
        omega
      · cases broadcast

/-- The larger sizes are the ones that are broadcast to, when that is so for each pair. -/
theorem max_sizes_iff {pairs : List (Int × Int)} {sizes : List Int}
    (broadcast : List.Forall₂ (fun (pair : Int × Int) size =>
      broadcastSize pair.1 pair.2 = some size) pairs sizes) :
    pairs.map (fun pair => max pair.1 pair.2) = sizes ↔
      ∀ pair ∈ pairs, (pair.1 = 1 → 1 ≤ pair.2) ∧ (pair.2 = 1 → 1 ≤ pair.1) := by
  induction broadcast with
  | nil => simp
  | cons here _ ih => rw [List.map_cons, List.cons.injEq, List.forall_mem_cons, ih, max_eq_iff here]

end Numbers

section Steps

variable {arguments : Arguments} {values : List (Tensor Int)} {value : Tensor Int}

/-- Values that are numbers of 32 bits are left as they are. -/
theorem FitsI32.map_wrap (fits : FitsI32 value) : value.data.map wrapI32 = value.data := by
  have same : ∀ number ∈ value.data, wrapI32 number = number :=
    fun number listed => wrapI32_eq (fits number listed).1 (fits number listed).2
  rw [List.map_congr_left same, List.map_id']

/-- Values that are numbers of 32 bits are left as they are by wider casts. -/
theorem FitsI32.map_eq (fits : FitsI32 value) {kind : ElementKind} (wide : 32 ≤ kind.width) :
    value.map kind.wrap = value := by
  have larger : 2 ^ 32 ≤ 2 ^ kind.width := Nat.pow_le_pow_right (by decide) wide
  have same : ∀ number ∈ value.data, kind.wrap number = number := by
    intro number listed
    have bounds := fits number listed
    unfold ElementKind.wrap
    exact Int.bmod_eq_of_le (by omega) (by omega)
  have kept : value.data.map kind.wrap = value.data := by
    rw [List.map_congr_left same, List.map_id']
  simp only [Tensor.map, kept]

/-- The elements are converted one by one. -/
theorem convertOp_eq (operand : Tensor Int) (width : Nat) :
    convertOp operand width = .ok (operand.map fun x =>
      if width = 1 then (if x = 0 then 0 else -1) else (ElementKind.integer width).wrap x) :=
  Tensor.mapOp_eq _ operand

/-- A conversion to one bit is a cast exactly when the numbers are zero or odd. -/
theorem convert_bits_iff {operand : Tensor Int} :
    operand.map (fun x => if x = 0 then 0 else -1) = operand.map (ElementKind.integer 1).wrap ↔
      ∀ number ∈ operand.data, number = 0 ∨ number % 2 = 1 := by
  simp only [Tensor.map, Tensor.mk.injEq, true_and, List.map_inj_left, convert_bit_iff]

/-- A value that was defined is read. -/
theorem readValue_eq {place : Nat} (found : values[place]? = some value) :
    readValue values place = .ok value := by
  rw [readValue, found]

/-- The number of elements is the product of the sizes, one after the other. -/
theorem convertNumElements_eq {place : Nat} {sizes : List Int}
    (found : values[place]? = some (.vector sizes)) :
    ShapeOp.convertNumElements sizes.length place arguments values =
      .ok (.constant (wrapI32 sizes.prod)) := by
  have turn : ∀ (result : Int) (i : Nat) (size : Int), sizes[i]? = some size → (do
      let sizeI32x1 ← (Tensor.vector sizes).sliceOp [(i : Int)] [(i : Int) + 1] [1]
      let sizeI32 ← sizeI32x1.reshapeOp []
      multiplyOp (.constant result) sizeI32) = .ok (.constant (wrapI32 (result * size))) := by
    intro result i size sizeFound
    obtain ⟨slice, sliced, reshaped⟩ := Tensor.sliceOp_element (Tensor.get_vector sizeFound)
    have sliced' : (Tensor.vector sizes).sliceOp [(i : Int)] [(i : Int) + 1] [1] =
        .ok slice := sliced
    rw [sliced', Fallible.ok_bind, reshaped]
    exact @Tensor.zipOp_eq _ _ (fun x y => wrapI32 (x * y)) (.constant result) (.constant size) rfl
  -- The product of the sizes that were visited is kept, up to 32 bits.
  have loop : ∀ n ≤ sizes.length, (List.range n).foldlM (fun result (i : Nat) => do
      let sizeI32x1 ← (Tensor.vector sizes).sliceOp [(i : Int)] [(i : Int) + 1] [1]
      let sizeI32 ← sizeI32x1.reshapeOp []
      multiplyOp result sizeI32) (.constant 1) =
        .ok (.constant (wrapI32 (sizes.take n).prod)) := by
    intro n most
    induction n with
    | zero => rfl
    | succ n ih =>
      have sizeFound := List.getElem?_eq_getElem (show n < sizes.length by omega)
      rw [List.range_succ, List.foldlM_append, ih (by omega), Fallible.ok_bind, List.foldlM_cons,
        turn _ n _ sizeFound, List.take_add_one, sizeFound, List.prod_append, wrapI32_mul]
      simp [pure, Except.pure]
  rw [ShapeOp.convertNumElements, readValue_eq found, Fallible.ok_bind, loop _ (Nat.le_refl _),
    List.take_length]

/-- Factors whose product, of 64 bits, is one of 32 bits are multiplied as numbers of 32 bits. -/
theorem multiplyOp_eq {x y : Tensor Int} (same : x.shape = y.shape)
    (product : (Tensor.zipOp (fun x y => .ok (ElementKind.index.wrap (x * y))) x y
      x.shape).toOption = some value) (fits : FitsI32 value) : multiplyOp x y = .ok value := by
  rw [Tensor.zipOp_eq same] at product
  cases product
  rw [multiplyOp, Tensor.zipOp_eq same]
  simp only [Except.ok.injEq, Tensor.mk.injEq, true_and]
  unfold FitsI32 at fits
  dsimp only at fits
  rw [← List.map_uncurry_zip_eq_zipWith] at fits
  rw [← List.map_uncurry_zip_eq_zipWith, ← List.map_uncurry_zip_eq_zipWith]
  refine List.map_congr_left fun pair listed => ?_
  have bounds := fits _ (List.mem_map_of_mem listed)
  exact wrapI32_eq_wrap bounds.1 bounds.2

/-- Sizes that are put one after the other are the shape. -/
theorem convertShapeOf_eq (content : Int) {arg : Nat} {sizes : Sizes}
    (found : arguments.sizes[arg]? = some sizes) :
    ShapeOp.convertShapeOf content sizes.length arg arguments values =
      .ok (.vector (sizes.map fun (size : Nat) => wrapI32 size)) := by
  unfold ShapeOp.convertShapeOf
  split
  · next empty =>
    rw [List.length_eq_zero_iff.mp empty]
    rfl
  · rw [found]
    -- Each size is a scalar that is made a tensor with one element.
    have turns : (List.range sizes.length).mapM (fun i => do
        let sizeI32 ← getDimensionSizeOp sizes i
        sizeI32.reshapeOp [1]) =
          .ok ((sizes.map fun (size : Nat) => [wrapI32 size]).map Tensor.vector) := by
      refine Fallible.mapM_eq_ok_iff.mpr (List.forall₂_iff_get.mpr ⟨by simp, fun i below _ => ?_⟩)
      rw [List.length_range] at below
      simp only [List.get_eq_getElem, List.getElem_range, List.getElem_map]
      rw [getDimensionSizeOp, List.getElem?_eq_getElem below]
      exact Tensor.reshapeOp_constant _
    have flat : (sizes.map fun (size : Nat) => [wrapI32 size]).flatten =
        sizes.map fun (size : Nat) => wrapI32 size := by
      rw [← List.flatMap_def, ← List.map_eq_flatMap]
    have joined := Tensor.concatenateOp_vectors content
      (sizes.map fun (size : Nat) => [wrapI32 size])
    rw [flat, List.length_map] at joined
    dsimp only
    rw [turns, Fallible.ok_bind, joined]

/-- A tensor with ones in front has the sizes with ones in front. -/
theorem padFromLeft_eq (content : Int) (sizes : List Int) (rank : Nat) :
    padFromLeft content (.vector sizes) sizes.length (rank - sizes.length) =
      .ok (.vector (padSizes rank sizes)) := by
  have joined := Tensor.concatenateOp_vectors content
    [List.replicate (rank - sizes.length) 1, sizes]
  rw [List.flatten_cons, List.flatten_cons, List.flatten_nil, List.append_nil, List.length_append,
    List.length_replicate] at joined
  exact joined

/-- Sizes without ones in front of them. -/
theorem padSizes_self (sizes : List Int) : padSizes sizes.length sizes = sizes := by
  rw [padSizes, Nat.sub_self]
  rfl

/-- The larger sizes are computed for the shapes with ones in front. -/
theorem convertBroadcast_eq (content : Int) {first second : Nat} {sizes1 sizes2 : List Int}
    (found1 : values[first]? = some (.vector sizes1))
    (found2 : values[second]? = some (.vector sizes2)) :
    ShapeOp.convertBroadcast content sizes1.length sizes2.length first second arguments values =
      .ok (.vector ((alignedSizes sizes1 sizes2).map fun pair => max pair.1 pair.2)) := by
  have larger : ∀ padded1 padded2 : List Int, padded1.length = padded2.length →
      maxOp (.vector padded1) (.vector padded2) =
        .ok (.vector ((padded1.zip padded2).map fun pair => max pair.1 pair.2)) := by
    intro padded1 padded2 count
    have zipped := @Tensor.zipOp_eq _ _ (fun (x y : Int) => max x y) (.vector padded1)
      (.vector padded2) (congrArg (fun length => [length]) count)
    rw [maxOp, zipped]
    congr 1
    rw [List.map_zip_eq_zipWith]
    exact Tensor.eq_vector rfl
  have length : ∀ sizes : List Int, sizes.length ≤ max sizes1.length sizes2.length →
      (padSizes (max sizes1.length sizes2.length) sizes).length =
        max sizes1.length sizes2.length := by
    intro sizes most
    rw [padSizes, List.length_append, List.length_replicate]
    omega
  have outcome := larger _ _ ((length sizes1 (Nat.le_max_left _ _)).trans
    (length sizes2 (Nat.le_max_right _ _)).symm)
  unfold ShapeOp.convertBroadcast
  rw [readValue_eq found1, readValue_eq found2, Fallible.ok_bind, Fallible.ok_bind]
  rw [alignedSizes]
  rcases Nat.lt_trichotomy sizes1.length sizes2.length with less | same | more
  · rw [Nat.max_eq_right (Nat.le_of_lt less), padSizes_self] at outcome ⊢
    rw [if_pos less, padFromLeft_eq, Fallible.ok_bind, outcome]
  · rw [same, Nat.max_self, padSizes_self, ← same, padSizes_self] at outcome ⊢
    rw [if_neg (Nat.lt_irrefl _), if_neg (Nat.lt_irrefl _), outcome]
  · rw [Nat.max_eq_left (Nat.le_of_lt more), padSizes_self] at outcome ⊢
    rw [if_neg (Nat.lt_asymm more), if_pos more, padFromLeft_eq,
      Fallible.ok_bind, outcome]

end Steps

section Types

variable {signature : Signature} {types : List ValueType} {type : ValueType}

namespace ShapeOp

/-- A product is one of index values of one shape. -/
theorem resultType_muli {lhs rhs : Nat}
    (typed : (muli lhs rhs).resultType signature types = some type) :
    ∃ shape, types[lhs]? = some ⟨shape, .index⟩ ∧ types[rhs]? = some ⟨shape, .index⟩ ∧
      type = ⟨shape, .index⟩ := by
  simp only [resultType] at typed
  split at typed
  · next shape shape' left right =>
    split at typed
    · next same =>
      subst same
      cases typed
      exact ⟨shape, left, right, rfl⟩
    · cases typed
  · cases typed

/-- Shapes that are broadcast are tensors with one dimension. -/
theorem resultType_broadcast {first second : Nat}
    (typed : (broadcast first second).resultType signature types = some type) :
    ∃ rank1 rank2, types[first]? = some ⟨some [rank1], .index⟩ ∧
      types[second]? = some ⟨some [rank2], .index⟩ ∧ type = ⟨some [max rank1 rank2], .index⟩ := by
  simp only [resultType] at typed
  split at typed
  · next rank1 rank2 left right =>
    cases typed
    exact ⟨rank1, rank2, left, right, rfl⟩
  · cases typed

/-- A shape whose elements are counted is a tensor with one dimension. -/
theorem resultType_numElements {shape : Nat}
    (typed : (numElements shape).resultType signature types = some type) :
    ∃ rank, types[shape]? = some ⟨some [rank], .index⟩ ∧ type = indexType := by
  simp only [resultType] at typed
  split at typed
  · next rank found =>
    cases typed
    exact ⟨rank, found, rfl⟩
  · cases typed

/-- An element is extracted at as many indices as there are dimensions. -/
theorem resultType_extract {tensor : Nat} {indices : List Nat}
    (typed : (extract tensor indices).resultType signature types = some type) :
    ∃ shape kind, types[tensor]? = some ⟨some shape, kind⟩ ∧
      (∀ index ∈ indices, types[index]? = some indexType) ∧ type = ⟨none, kind⟩ := by
  simp only [resultType] at typed
  split at typed
  · next shape kind found =>
    split at typed
    · next scalars =>
      cases typed
      exact ⟨shape, kind, found, scalars.2, rfl⟩
    · cases typed
  · cases typed

/-- A tensor with one dimension is made of indices. -/
theorem resultType_fromElements {elements : List Nat}
    (typed : (fromElements elements).resultType signature types = some type) :
    (∀ element ∈ elements, types[element]? = some indexType) ∧
      type = ⟨some [elements.length], .index⟩ := by
  simp only [resultType] at typed
  split at typed
  · next scalars =>
    cases typed
    exact ⟨scalars, rfl⟩
  · cases typed

/-- A tensor without dimensions is made of a scalar. -/
theorem resultType_fromElement {element : Nat}
    (typed : (fromElement element).resultType signature types = some type) :
    ∃ kind, types[element]? = some ⟨none, kind⟩ ∧ type = ⟨some [], kind⟩ := by
  simp only [resultType] at typed
  split at typed
  · next kind found =>
    cases typed
    exact ⟨kind, found, rfl⟩
  · cases typed

/-- A cast is one between index values and integers, and keeps the shape. -/
theorem resultType_indexCast {value : Nat} {out : ElementKind}
    (typed : (indexCast value out).resultType signature types = some type) :
    ∃ shape kind, types[value]? = some ⟨shape, kind⟩ ∧ type = ⟨shape, out⟩ ∧
      (kind = .index ↔ out ≠ .index) := by
  simp only [resultType] at typed
  split at typed
  · next shape width found =>
    cases typed
    exact ⟨shape, _, found, rfl, by simp⟩
  · next shape width found =>
    cases typed
    exact ⟨shape, _, found, rfl, by simp⟩
  · cases typed

end ShapeOp

end Types

section Context

variable {arguments : Arguments} {context : Context} {values : List (Tensor Int)}
  {value : Tensor Int} {code : HloCode} {content : Int}

/-- What is known where a step is legalized is so of the values there, which are numbers of 32
bits. -/
structure Context.Sound (context : Context) (arguments : Arguments) (values : List (Tensor Int)) :
    Prop where
  fit : arguments.Fit context.signature
  shapes : values.map Tensor.shape = context.types.map fun type => type.shape.getD []
  constants : ∀ (place : Nat) (number : Int), context.ops[place]? = some (ShapeOp.constant number) →
    values[place]? = some (Tensor.constant number)
  fits : ∀ value ∈ values, FitsI32 value
  length : context.ops.length = values.length

/-- A value has the shape of its type. -/
theorem Context.Sound.shape_eq (sound : context.Sound arguments values) {place : Nat}
    {type : ValueType} (found : context.types[place]? = some type) :
    ∃ value, values[place]? = some value ∧ value.shape = type.shape.getD [] := by
  have same := congrArg (·[place]?) sound.shapes
  simp only [List.getElem?_map, found, Option.map_some] at same
  exact Option.map_eq_some_iff.mp same

/-- A tensor with one dimension has a list of elements. -/
theorem Context.Sound.vector_eq (sound : context.Sound arguments values) {place rank : Nat}
    {kind : ElementKind} (found : context.types[place]? = some ⟨some [rank], kind⟩) :
    ∃ sizes, sizes.length = rank ∧ values[place]? = some (.vector sizes) := by
  obtain ⟨value, valueFound, shape⟩ := sound.shape_eq found
  have vector := Tensor.eq_vector (show value.shape = [rank] from shape)
  refine ⟨value.data, ?_, valueFound.trans (congrArg some vector)⟩
  rw [value.complete, show value.shape = [rank] from shape, List.prod_cons, List.prod_nil,
    Nat.mul_one]

/-- A constant or a cast is the value that it is for. -/
theorem Context.Sound.operand_eq (sound : context.Sound arguments values) {place : Nat}
    (converted : context.convertToConstantOrI32Cast place = some code) :
    ∃ value, values[place]? = some value ∧ code arguments values = .ok value := by
  unfold Context.convertToConstantOrI32Cast at converted
  cases known : context.constantIndex place with
  | some number =>
    rw [known] at converted
    cases converted
    unfold Context.constantIndex at known
    split at known
    · next constantFound =>
      cases known
      have found := sound.constants place number constantFound
      have fits := sound.fits _ (List.mem_of_getElem? found) number List.mem_cons_self
      exact ⟨_, found, by rw [wrapI32_eq fits.1 fits.2]⟩
    · cases known
  | none =>
    rw [known] at converted
    simp only [Option.bind_eq_bind, Option.bind_eq_some_iff] at converted
    obtain ⟨shape, ⟨type, found, -⟩, same⟩ := converted
    cases same
    obtain ⟨value, valueFound, -⟩ := sound.shape_eq found
    exact ⟨value, valueFound, readValue_eq valueFound⟩

/-- A constant index is an index with the value. -/
theorem Context.Sound.elementOf_eq (sound : context.Sound arguments values) {place : Nat}
    {number : Int} (known : context.constantIndex place = some number) :
    elementOf values place = some number := by
  unfold Context.constantIndex at known
  split at known
  · next found =>
    cases known
    rw [elementOf, sound.constants place number found]
    rfl
  · cases known

/-- The extracted element is that at the indices. -/
theorem convertExtract_eq {place : Nat} {operand : Tensor Int} {index : List Int} {element : Int}
    (found : values[place]? = some operand) (got : operand.getAt index = .ok element) :
    ShapeOp.convertExtract place index arguments values = .ok (.constant element) := by
  obtain ⟨coordinates, rfl, within, read⟩ := Tensor.getAt_eq_ok got
  obtain ⟨slice, sliced, reshaped⟩ := Tensor.sliceOp_element read
  unfold ShapeOp.convertExtract
  rw [readValue_eq found, Fallible.ok_bind, List.map_map, List.length_map]
  show (operand.sliceOp _ (coordinates.map fun (i : Nat) => (i + 1 : Int)) _ >>= _) = _
  rw [sliced, Fallible.ok_bind, reshaped]

/-- Elements that are made tensors of one element, and put one after the other. -/
theorem concatenate_elements (content : Int) {codes : List HloCode} {numbers : List Int}
    (coded : List.Forall₂ (fun code number => code arguments values = .ok (.constant number)) codes
      numbers) :
    (do
      let elementI32x1 ← codes.mapM fun (code : HloCode) => do
        let element ← code arguments values
        element.reshapeOp [1]
      Tensor.concatenateOp content elementI32x1 0 [numbers.length]) = .ok (.vector numbers) := by
  have made : codes.mapM (fun (code : HloCode) => do
      let element ← code arguments values
      element.reshapeOp [1]) = .ok ((numbers.map fun number => [number]).map Tensor.vector) := by
    rw [Fallible.mapM_eq_ok_iff, List.map_map, List.forall₂_map_right_iff]
    refine coded.imp fun code number evaluated => ?_
    rw [evaluated]
    exact Tensor.reshapeOp_constant number
  have flat : (numbers.map fun number => [number]).flatten = numbers := by
    rw [← List.flatMap_def, List.flatMap_singleton']
  have joined := Tensor.concatenateOp_vectors content (numbers.map fun number => [number])
  rw [flat] at joined
  rw [made, Fallible.ok_bind, joined]

/-- The code of a step computes a value, which is that of the step exactly when it is plain. -/
theorem ShapeOp.legalize_step (sound : context.Sound arguments values) {op : ShapeOp}
    (legalized : op.legalize content context = some code) {type : ValueType}
    (typed : op.resultType context.signature context.types = some type)
    (evaluated : op.eval arguments values = some value) (fits : FitsI32 value) :
    ∃ result, code arguments values = .ok result ∧ (result = value ↔ op.Plain values) := by
  cases op with
  | input number =>
    cases legalized
    exact ⟨value, readValue_eq evaluated, by simp [Plain]⟩
  | constant number =>
    cases legalized
    cases evaluated
    exact ⟨_, rfl, by simp [Plain]⟩
  | shapeOf arg =>
    simp only [legalize, Option.bind_eq_bind, Option.bind_eq_some_iff, Option.some.injEq]
      at legalized
    obtain ⟨rank, ranked, rfl⟩ := legalized
    obtain ⟨sizes, found, rfl⟩ := Option.map_eq_some_iff.mp evaluated
    have same := congrArg (·[arg]?) sound.fit.sizes
    simp only [List.getElem?_map, found, Option.map_some, ranked, Option.some.injEq] at same
    subst same
    refine ⟨_, convertShapeOf_eq content found, ⟨fun _ => trivial, fun _ => ?_⟩⟩
    refine congrArg Tensor.vector (List.map_congr_left fun size listed => ?_)
    have bounds := fits size (List.mem_map_of_mem listed)
    exact wrapI32_eq bounds.1 bounds.2
  | constShape shape =>
    cases legalized
    cases evaluated
    refine ⟨_, rfl, ⟨fun _ => trivial, fun _ => ?_⟩⟩
    exact congrArg Tensor.vector fits.map_wrap
  | numElements shape =>
    simp only [legalize, Option.bind_eq_bind, Option.bind_eq_some_iff, Option.some.injEq]
      at legalized
    obtain ⟨sizes, ⟨own, found, cast⟩, rfl⟩ := legalized
    obtain ⟨rank, own', -⟩ := resultType_numElements typed
    rw [found, Option.some.injEq] at own'
    subst own'
    cases cast
    obtain ⟨sizes, rfl, valueFound⟩ := sound.vector_eq found
    rw [eval, valueFound] at evaluated
    cases evaluated
    have product : [sizes.length].prod = sizes.length := by simp
    refine ⟨_, by rw [product]; exact convertNumElements_eq valueFound,
      ⟨fun _ => trivial, fun _ => ?_⟩⟩
    have bounds := fits _ List.mem_cons_self
    exact congrArg Tensor.constant (wrapI32_eq_wrap bounds.1 bounds.2)
  | broadcast first second =>
    simp only [legalize, Option.bind_eq_bind, Option.bind_eq_some_iff] at legalized
    obtain ⟨shape1, ⟨type1, found1, cast1⟩, shape2, ⟨type2, found2, cast2⟩, made⟩ := legalized
    obtain ⟨rank1, rank2, same1, same2, -⟩ := resultType_broadcast typed
    rw [found1, Option.some.injEq] at same1
    rw [found2, Option.some.injEq] at same2
    subst same1 same2
    cases cast1
    cases cast2
    cases made
    obtain ⟨sizes1, rfl, valueFound1⟩ := sound.vector_eq found1
    obtain ⟨sizes2, rfl, valueFound2⟩ := sound.vector_eq found2
    simp only [eval, valueFound1, valueFound2, Option.bind_eq_bind, Option.bind_some,
      Option.bind_eq_some_iff, Option.some.injEq] at evaluated
    obtain ⟨sizes, broadcast, rfl⟩ := evaluated
    refine ⟨_, convertBroadcast_eq content valueFound1 valueFound2, ?_⟩
    -- The sizes are compared pair by pair.
    have plain : Plain values (.broadcast first second) ↔
        ∀ pair ∈ alignedSizes sizes1 sizes2,
          (pair.1 = 1 → 1 ≤ pair.2) ∧ (pair.2 = 1 → 1 ≤ pair.1) := by
      refine ⟨fun all => all _ _ valueFound1 valueFound2, fun all shape1 shape2 own1 own2 => ?_⟩
      rw [valueFound1] at own1
      rw [valueFound2] at own2
      cases own1
      cases own2
      exact all
    rw [plain]
    have same := max_sizes_iff (Fallible.mapM_eq_some_iff.mp broadcast)
    refine .trans ?_ same
    exact ⟨fun same => congrArg Tensor.data same, fun same => congrArg Tensor.vector same⟩
  | dim source index =>
    simp only [legalize, Option.bind_eq_bind, Option.bind_eq_some_iff] at legalized
    obtain ⟨number, known, rank, ranked, made⟩ := legalized
    split at made
    case isFalse => cases made
    next inside =>
    cases made
    rw [eval, sound.elementOf_eq known] at evaluated
    simp only [Option.bind_eq_bind, Option.bind_some, if_pos inside.1,
      Option.bind_eq_some_iff, Option.some.injEq] at evaluated
    obtain ⟨sizes, found, size, sizeFound, rfl⟩ := evaluated
    have bounds := fits size List.mem_cons_self
    refine ⟨.constant (wrapI32 size), ?_, ⟨fun _ => trivial, fun _ => ?_⟩⟩
    · dsimp only
      rw [found]
      dsimp only
      rw [getDimensionSizeOp, sizeFound]
    · rw [wrapI32_eq bounds.1 bounds.2]
  | extract tensor indices =>
    simp only [legalize, Option.bind_eq_bind, Option.bind_eq_some_iff] at legalized
    obtain ⟨own, found, numbers, known, shape, cast, made⟩ := legalized
    split at made
    case isFalse => cases made
    cases made
    simp only [eval, Option.bind_eq_bind, Option.bind_eq_some_iff, Option.some.injEq] at evaluated
    obtain ⟨operand, operandFound, index, read, element, got, rfl⟩ := evaluated
    have same : index = numbers := by
      have reads : indices.mapM (elementOf values) = some numbers :=
        Fallible.mapM_eq_some_iff.mpr ((Fallible.mapM_eq_some_iff.mp known).imp
          fun place number constant => sound.elementOf_eq constant)
      rw [reads, Option.some.injEq] at read
      exact read.symm
    subst same
    have taken : operand.getAt index = .ok element := by
      cases outcome : operand.getAt index with
      | error failure =>
        rw [outcome] at got
        cases got
      | ok other =>
        rw [outcome] at got
        cases got
        rfl
    exact ⟨_, convertExtract_eq operandFound taken, by simp [Plain]⟩
  | fromElements elements =>
    simp only [legalize, Option.bind_eq_bind] at legalized
    split at legalized
    case isTrue => cases legalized
    simp only [Option.bind_eq_some_iff, Option.some.injEq] at legalized
    obtain ⟨codes, coded, rfl⟩ := legalized
    simp only [eval, Option.bind_eq_bind, Option.bind_eq_some_iff, Option.some.injEq] at evaluated
    obtain ⟨numbers, read, rfl⟩ := evaluated
    refine ⟨.vector numbers, ?_, by simp [Plain]⟩
    have reads := Fallible.mapM_eq_some_iff.mp read
    have made := Fallible.mapM_eq_some_iff.mp coded
    -- Each element is a scalar, and its code has its value.
    have each : List.Forall₂ (fun code number => code arguments values = .ok (.constant number))
        codes numbers := by
      obtain ⟨scalars, -⟩ := resultType_fromElements typed
      rename_i filled
      clear coded read typed fits filled
      induction made generalizing numbers with
      | nil =>
        cases reads
        exact .nil
      | @cons place code elements codes converted _ ih =>
        cases reads with
        | @cons _ number _ numbers here rest =>
          refine .cons ?_ (ih _ rest fun element listed => scalars element (.tail _ listed))
          obtain ⟨operand, found, evaluated⟩ := sound.operand_eq converted
          obtain ⟨other, otherFound, shape⟩ := sound.shape_eq (scalars place (.head _))
          rw [found, Option.some.injEq] at otherFound
          subst otherFound
          obtain ⟨element, rfl⟩ := Tensor.exists_constant shape
          rw [elementOf, found] at here
          cases here
          exact evaluated
    have count := reads.length_eq
    rw [count]
    exact concatenate_elements content each
  | fromElement element =>
    cases legalized
    exact ⟨value, readValue_eq evaluated, by simp [Plain]⟩
  | muli lhs rhs =>
    simp only [legalize, Option.bind_eq_bind, Option.bind_eq_some_iff] at legalized
    obtain ⟨own, found, left, leftCode, right, rightCode, made⟩ := legalized
    split at made
    case isFalse => cases made
    cases made
    obtain ⟨x, xFound, xCode⟩ := sound.operand_eq leftCode
    obtain ⟨y, yFound, yCode⟩ := sound.operand_eq rightCode
    have same : x.shape = y.shape := by
      obtain ⟨shape, lhsFound, rhsFound, -⟩ := resultType_muli typed
      obtain ⟨x', xFound', xShape⟩ := sound.shape_eq lhsFound
      obtain ⟨y', yFound', yShape⟩ := sound.shape_eq rhsFound
      rw [xFound, Option.some.injEq] at xFound'
      rw [yFound, Option.some.injEq] at yFound'
      rw [xFound', yFound', xShape, yShape]
    simp only [eval, xFound, yFound, Option.bind_eq_bind, Option.bind_some] at evaluated
    refine ⟨value, ?_, by simp [Plain]⟩
    dsimp only
    rw [xCode, yCode, Fallible.ok_bind, Fallible.ok_bind]
    exact multiplyOp_eq same evaluated fits
  | indexCast place out =>
    simp only [legalize, Option.bind_eq_bind, Option.bind_eq_some_iff] at legalized
    obtain ⟨own, found, made⟩ := legalized
    obtain ⟨shape, kind, found', -, other⟩ := resultType_indexCast typed
    rw [found, Option.some.injEq] at found'
    subst found'
    obtain ⟨operand, operandFound, -⟩ := sound.shape_eq found
    rw [eval, operandFound] at evaluated
    cases evaluated
    have kept := sound.fits operand (List.mem_of_getElem? operandFound)
    have read := readValue_eq operandFound
    split at made
    · next width _ =>
      split at made
      · next same =>
        subst same
        cases made
        exact ⟨operand, read, fun _ => trivial, fun _ => (kept.map_eq (by decide)).symm⟩
      · split at made
        · next listed =>
          cases made
          refine ⟨_, by dsimp only; rw [read, Fallible.ok_bind]; exact convertOp_eq _ _, ?_⟩
          rcases listed with rfl | listed
          · -- A number is converted to the boolean that says whether it is zero.
            simp only [if_true, convert_bits_iff]
            refine ⟨fun all other otherFound => ?_, fun plain => plain operand operandFound⟩
            rw [operandFound, Option.some.injEq] at otherFound
            subst otherFound
            exact all
          · simp only [List.mem_cons, List.not_mem_nil, or_false] at listed
            rcases listed with rfl | rfl | rfl | rfl | rfl
            all_goals exact ⟨fun _ => trivial, fun _ => rfl⟩
        · cases made
    · cases made
      exact ⟨operand, read, fun _ => trivial, fun _ => (kept.map_eq (by decide)).symm⟩
    · cases made
      exact ⟨operand, read, fun _ => trivial, fun _ => (kept.map_eq (by decide)).symm⟩
    · split at made
      · cases made
        exact ⟨operand, read, fun _ => trivial, fun _ => (kept.map_eq (by decide)).symm⟩
      · cases made
    · cases made

end Context

section Runs

variable {arguments : Arguments} {context : Context} {values final : List (Tensor Int)}
  {value : Tensor Int} {content : Int} {ops : List ShapeOp} {codes : List HloCode}

/-- The value of a step has the shape of its type. -/
theorem ShapeOp.eval_shape (sound : context.Sound arguments values) {op : ShapeOp}
    {type : ValueType} (typed : op.resultType context.signature context.types = some type)
    (evaluated : op.eval arguments values = some value) : value.shape = type.shape.getD [] := by
  cases op with
  | input number =>
    have same := congrArg (·[number]?) sound.fit.inputs
    have own : context.signature.inputs[number]? = some type := typed
    have found : arguments.inputs[number]? = some value := evaluated
    simpa only [List.getElem?_map, own, found, Option.map_some, Option.some.injEq] using same
  | constant number =>
    cases typed
    cases evaluated
    rfl
  | shapeOf arg =>
    obtain ⟨rank, ranked, rfl⟩ := Option.map_eq_some_iff.mp typed
    obtain ⟨sizes, found, rfl⟩ := Option.map_eq_some_iff.mp evaluated
    have same := congrArg (·[arg]?) sound.fit.sizes
    simp only [List.getElem?_map, found, Option.map_some, ranked, Option.some.injEq] at same
    subst same
    simp [Tensor.vector]
  | constShape shape =>
    cases typed
    cases evaluated
    rfl
  | numElements shape =>
    obtain ⟨rank, -, rfl⟩ := resultType_numElements typed
    obtain ⟨sizes, -, rfl⟩ := Option.map_eq_some_iff.mp evaluated
    rfl
  | broadcast first second =>
    obtain ⟨rank1, rank2, found1, found2, rfl⟩ := resultType_broadcast typed
    obtain ⟨sizes1, rfl, valueFound1⟩ := sound.vector_eq found1
    obtain ⟨sizes2, rfl, valueFound2⟩ := sound.vector_eq found2
    simp only [eval, valueFound1, valueFound2, Option.bind_eq_bind, Option.bind_some,
      Option.bind_eq_some_iff, Option.some.injEq] at evaluated
    obtain ⟨sizes, broadcast, rfl⟩ := evaluated
    -- There are as many sizes as in the shape of higher rank.
    have count := (Fallible.mapM_eq_some_iff.mp broadcast).length_eq
    show [sizes.length] = [max sizes1.length sizes2.length]
    rw [← count]
    simp only [alignedSizes, padSizes, Tensor.vector, List.length_zip, List.length_append,
      List.length_replicate, List.cons.injEq, and_true]
    omega
  | dim source index =>
    simp only [resultType] at typed
    split at typed
    · cases typed
      simp only [eval, Option.bind_eq_bind, Option.bind_eq_some_iff] at evaluated
      obtain ⟨sizes, -, place, -, made⟩ := evaluated
      split at made
      · obtain ⟨size, -, same⟩ := Option.bind_eq_some_iff.mp made
        cases same
        rfl
      · cases made
    · cases typed
  | extract tensor indices =>
    obtain ⟨shape, kind, -, -, rfl⟩ := resultType_extract typed
    simp only [eval, Option.bind_eq_bind, Option.bind_eq_some_iff, Option.some.injEq] at evaluated
    obtain ⟨operand, -, index, -, element, -, rfl⟩ := evaluated
    rfl
  | fromElements elements =>
    obtain ⟨-, rfl⟩ := resultType_fromElements typed
    simp only [eval, Option.bind_eq_bind, Option.bind_eq_some_iff, Option.some.injEq] at evaluated
    obtain ⟨numbers, read, rfl⟩ := evaluated
    have count := (Fallible.mapM_eq_some_iff.mp read).length_eq
    rw [count]
    rfl
  | fromElement element =>
    obtain ⟨kind, found, rfl⟩ := resultType_fromElement typed
    obtain ⟨operand, operandFound, shape⟩ := sound.shape_eq found
    rw [eval, operandFound, Option.some.injEq] at evaluated
    subst evaluated
    exact shape
  | muli lhs rhs =>
    obtain ⟨shape, lhsFound, rhsFound, rfl⟩ := resultType_muli typed
    obtain ⟨x, xFound, xShape⟩ := sound.shape_eq lhsFound
    obtain ⟨y, yFound, yShape⟩ := sound.shape_eq rhsFound
    simp only [eval, xFound, yFound, Option.bind_eq_bind, Option.bind_some] at evaluated
    rw [Tensor.zipOp_eq (xShape.trans yShape.symm)] at evaluated
    cases evaluated
    exact xShape
  | indexCast place out =>
    obtain ⟨shape, kind, found, rfl, -⟩ := resultType_indexCast typed
    obtain ⟨operand, operandFound, own⟩ := sound.shape_eq found
    rw [eval, operandFound] at evaluated
    cases evaluated
    exact own

/-- What is known stays so behind a step. -/
theorem Context.Sound.step (sound : context.Sound arguments values) {op : ShapeOp}
    {type : ValueType} (typed : op.resultType context.signature context.types = some type)
    (evaluated : op.eval arguments values = some value) (fits : FitsI32 value) :
    Context.Sound ⟨context.signature, context.ops ++ [op], context.types ++ [type]⟩ arguments
      (values ++ [value]) where
  fit := sound.fit
  shapes := by
    rw [List.map_append, List.map_append, sound.shapes]
    exact congrArg _ (congrArg (fun shape => [shape]) (op.eval_shape sound typed evaluated))
  constants place number found := by
    rcases Nat.lt_or_ge place values.length with before | later
    · rw [List.getElem?_append_left (sound.length ▸ before)] at found
      rw [List.getElem?_append_left before]
      exact sound.constants place number found
    · rw [List.getElem?_append_right (sound.length ▸ later), sound.length,
        List.getElem?_singleton] at found
      rw [List.getElem?_append_right later, List.getElem?_singleton]
      split at found
      · next last =>
        cases found
        cases evaluated
        rw [if_pos last]
      · cases found
  fits other listed := by
    rcases List.mem_append.mp listed with before | last
    · exact sound.fits other before
    · rw [List.eq_of_mem_singleton last]
      exact fits
  length := by rw [List.length_append, List.length_append, sound.length]; rfl

/-- The values behind some are put after them. -/
theorem evalFrom_append (evaluated : evalFrom arguments values ops = some final) :
    ∃ more, final = values ++ more := by
  induction ops generalizing values with
  | nil =>
    cases evaluated
    exact ⟨[], (List.append_nil _).symm⟩
  | cons op ops ih =>
    obtain ⟨value, -, rest⟩ := Option.bind_eq_some_iff.mp evaluated
    obtain ⟨more, rfl⟩ := ih rest
    exact ⟨value :: more, List.append_assoc _ _ _⟩

/-- The values that codes have are put after those before them. -/
theorem runFrom_append (run : runFrom arguments values codes = .ok final) :
    ∃ more, final = values ++ more := by
  induction codes generalizing values with
  | nil =>
    cases run
    exact ⟨[], (List.append_nil _).symm⟩
  | cons code codes ih =>
    obtain ⟨value, -, rest⟩ := Fallible.bind_eq_ok.mp run
    obtain ⟨more, rfl⟩ := ih rest
    exact ⟨value :: more, List.append_assoc _ _ _⟩

/-- Whether a step is plain is said by the values before it. -/
theorem ShapeOp.plain_append {op : ShapeOp} (evaluated : op.eval arguments values = some value)
    (more : List (Tensor Int)) : op.Plain (values ++ more) ↔ op.Plain values := by
  have same : ∀ (place : Nat) (own : Tensor Int), values[place]? = some own →
      (values ++ more)[place]? = values[place]? := by
    intro place own found
    obtain ⟨below, -⟩ := List.getElem?_eq_some_iff.mp found
    exact List.getElem?_append_left below
  cases op with
  | broadcast first second =>
    simp only [eval, Option.bind_eq_bind, Option.bind_eq_some_iff] at evaluated
    obtain ⟨shape1, found1, shape2, found2, -⟩ := evaluated
    simp only [Plain, same first shape1 found1, same second shape2 found2]
  | indexCast place out =>
    obtain ⟨operand, found, -⟩ := Option.map_eq_some_iff.mp evaluated
    cases out with
    | index => exact Iff.rfl
    | integer width =>
      -- Only conversions to one bit say something about the operand.
      rcases width with _ | _ | width
      · exact Iff.rfl
      · simp only [Plain, same place operand found]
      · exact Iff.rfl
  | _ => exact Iff.rfl

/-- The values of the code are those of the steps exactly when the steps are plain. -/
theorem runFrom_eq_iff (sound : context.Sound arguments values)
    (legalized : legalizeFrom content context.signature context.ops context.types ops = some codes)
    (evaluated : evalFrom arguments values ops = some final)
    (fits : ∀ value ∈ final, FitsI32 value) :
    runFrom arguments values codes = .ok final ↔ ∀ op ∈ ops, op.Plain final := by
  induction ops generalizing context values codes with
  | nil =>
    cases legalized
    cases evaluated
    simp [runFrom]
  | cons op ops ih =>
    simp only [legalizeFrom, Option.bind_eq_bind, Option.bind_eq_some_iff, Option.some.injEq]
      at legalized
    obtain ⟨code, coded, type, typed, rest, restCoded, rfl⟩ := legalized
    obtain ⟨value, here, restEvaluated⟩ := Option.bind_eq_some_iff.mp evaluated
    obtain ⟨more, split⟩ := evalFrom_append restEvaluated
    have own : FitsI32 value := fits value (by rw [split]; simp)
    obtain ⟨result, computed, same⟩ := op.legalize_step sound coded typed here own
    have plain : op.Plain final ↔ op.Plain values := by
      rw [split, List.append_assoc]
      exact ShapeOp.plain_append here _
    rw [List.forall_mem_cons, plain, ← same, runFrom, computed, Fallible.ok_bind]
    by_cases kept : result = value
    · subst kept
      rw [ih (sound.step typed here own) restCoded restEvaluated]
      exact (and_iff_right rfl).symm
    · -- The values differ from here on, whatever comes later.
      refine iff_of_false (fun run => kept ?_) fun both => kept both.1
      obtain ⟨others, split'⟩ := runFrom_append run
      rw [split, List.append_assoc, List.append_assoc] at split'
      exact (List.cons.inj (List.append_cancel_left split')).1.symm

end Runs

section Legalized

variable {signature : Signature} {arguments : Arguments} {values : List (Tensor Int)}
  {content : Int} {codes : List HloCode}

/-- A shape computation whose values are numbers of 32 bits has the same values when it is
legalized, exactly when its steps are plain. -/
theorem ShapeProgram.run_eq_iff (program : ShapeProgram signature) (fit : arguments.Fit signature)
    (legalized : program.legalize content = some codes)
    (evaluated : evalFrom arguments [] program.ops = some values)
    (fits : ∀ value ∈ values, FitsI32 value) :
    runFrom arguments [] codes = .ok values ↔ ∀ op ∈ program.ops, op.Plain values := by
  have sound : Context.Sound ⟨signature, [], []⟩ arguments [] :=
    ⟨fit, rfl, fun _ _ found => absurd found (by simp), fun _ listed => absurd listed (by simp),
      rfl⟩
  exact runFrom_eq_iff sound legalized evaluated fits

end Legalized

section Instances

/-- The number of elements of two tensors with one dimension, when they are broadcast. -/
def broadcastElements : ShapeProgram ⟨[1, 1], []⟩ where
  ops := [.shapeOf 0, .shapeOf 1, .broadcast 0 1, .numElements 2]
  types := [⟨some [1], .index⟩, ⟨some [1], .index⟩, ⟨some [1], .index⟩, indexType]
  typed := rfl

/-- Two elements and a single one are broadcast to two. -/
theorem ShapeProgram.run_eq_iff_two : ∃ codes,
    broadcastElements.legalize 0 = some codes ∧
      runFrom ⟨[[2], [1]], []⟩ [] codes =
        .ok [.vector [2], .vector [1], .vector [2], .constant 2] := by
  refine ⟨_, rfl, (broadcastElements.run_eq_iff ⟨rfl, rfl⟩ rfl rfl (by decide)).mpr ?_⟩
  intro op listed
  simp only [broadcastElements, List.mem_cons, List.not_mem_nil, or_false] at listed
  rcases listed with rfl | rfl | rfl | rfl
  · trivial
  · trivial
  · intro shape1 shape2 found1 found2
    cases found1
    cases found2
    decide
  · trivial

/-- No element and a single one are broadcast to no element, but to one when that is legalized. -/
theorem ShapeProgram.not_run_eq_empty : ¬ ∀ (arguments : Arguments) (values : List (Tensor Int))
    (codes : List HloCode), arguments.Fit ⟨[1, 1], []⟩ →
      broadcastElements.legalize 0 = some codes →
      evalFrom arguments [] broadcastElements.ops = some values →
      (∀ value ∈ values, FitsI32 value) → runFrom arguments [] codes = .ok values := by
  intro all
  have kept := all ⟨[[0], [1]], []⟩ [.vector [0], .vector [1], .vector [0], .constant 0] _
    ⟨rfl, rfl⟩ rfl rfl (by decide)
  -- The larger size of zero and one is one.
  have last := congrArg (fun outcome : Except Failure (List (Tensor Int)) =>
    outcome.toOption.bind fun values => values[3]?) kept
  exact absurd last (by decide)

end Instances

end Stablehlo.ShapeLegalize
