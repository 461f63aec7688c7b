import Mathlib.Algebra.BigOperators.Group.List.Basic
import Mathlib.Algebra.Ring.Int.Defs
import Mathlib.Data.List.InsertIdx
import Mathlib.Data.Nat.Cast.Basic
import Stablehlo.Chlo.Scan

/-! Which loops do what the scans say that they are made of. -/

namespace Stablehlo

section StaticTypes

variable {type first second : RankedTensorType} {shape : List Int64} {dimension : Nat}

/-- Sizes that are not negative are those of the static type. -/
theorem RankedTensorType.isStatic_sizes (known : ∀ dim ∈ type.shape, 0 ≤ dim.toInt) :
    type.IsStatic ⟨type.sizes, type.elementType⟩ := by
  refine ⟨?_, rfl⟩
  rw [RankedTensorType.sizes, List.map_map]
  refine List.map_congr_left fun dim listed => ?_
  have nonneg := known dim listed
  show dim.toInt = (dim.toInt.toNat : Int)
  omega

/-- A dimension whose size is known has it. -/
theorem getElem?_sizes (known : ∀ dim ∈ type.shape, 0 ≤ dim.toInt) {dim : Int64}
    (found : type.shape[dimension]? = some dim) :
    ∃ size : Nat, type.sizes[dimension]? = some size ∧ dim.toInt = size ∧
      isDynamicDimSize dim = false := by
  obtain ⟨size, sizeFound, same⟩ :=
    getElem?_of_known (RankedTensorType.isStatic_sizes known).1 found
  exact ⟨size, sizeFound, same, isDynamicDimSize_of_natCast same⟩

/-- Sizes are numbers of 64 bits. -/
theorem RankedTensorType.sizes_lt (type : RankedTensorType) :
    ∀ size ∈ type.sizes, size < 2 ^ 63 := by
  intro size listed
  obtain ⟨dim, -, rfl⟩ := List.mem_map.mp listed
  have upper := Int64.toInt_lt dim
  show dim.toInt.toNat < 2 ^ 63
  omega

/-- Shapes stay compatible when a dimension is left out of both. -/
theorem verifyCompatibleShape_eraseIdx (compatible : verifyCompatibleShape first second = true)
    (inside : dimension < first.rank) :
    verifyCompatibleShape { first with shape := first.shape.eraseIdx dimension }
      { second with shape := second.shape.eraseIdx dimension } = true := by
  rw [verifyCompatibleShape, Bool.and_eq_true, beq_iff_eq, List.all_eq_true] at compatible ⊢
  obtain ⟨rank, dims⟩ := compatible
  rw [RankedTensorType.rank] at inside
  rw [RankedTensorType.rank, RankedTensorType.rank] at rank ⊢
  refine ⟨?_, fun pair listed => ?_⟩
  · rw [List.length_eraseIdx_of_lt inside, List.length_eraseIdx_of_lt (rank ▸ inside), rank]
  · -- The pair is one of dimensions that were compared before.
    obtain ⟨place, found⟩ := List.mem_iff_getElem?.mp listed
    obtain ⟨firstFound, secondFound⟩ := List.getElem?_zip_eq_some.mp found
    rw [List.getElem?_eraseIdx] at firstFound secondFound
    refine dims pair (List.mem_iff_getElem?.mpr ?_)
    split at firstFound
    · next below =>
      rw [if_pos below] at secondFound
      exact ⟨place, List.getElem?_zip_eq_some.mpr ⟨firstFound, secondFound⟩⟩
    · next above =>
      rw [if_neg above] at secondFound
      exact ⟨place + 1, List.getElem?_zip_eq_some.mpr ⟨firstFound, secondFound⟩⟩

/-- Static types whose shapes are compatible have the same sizes. -/
theorem sizes_eq_of_compatible (firstKnown : ∀ dim ∈ first.shape, 0 ≤ dim.toInt)
    (secondKnown : ∀ dim ∈ second.shape, 0 ≤ dim.toInt)
    (compatible : verifyCompatibleShape first second = true) : first.sizes = second.sizes :=
  eq_of_verifyCompatibleShape (RankedTensorType.isStatic_sizes firstKnown)
    (RankedTensorType.isStatic_sizes secondKnown) compatible

end StaticTypes

namespace Chlo

section Accepted

variable {op : ScanOp}

/-- The sizes without the scan dimension. -/
theorem ScanOp.sizes_sliceType (type : RankedTensorType) :
    (op.sliceType type).sizes = type.sizes.eraseIdx op.dimension := by
  rw [RankedTensorType.sizes, RankedTensorType.sizes, List.eraseIdx_map, ScanOp.sliceType]

/-- The sizes with one position of the scan dimension. -/
theorem ScanOp.sizes_unitType (type : RankedTensorType) :
    (op.unitType type).sizes = type.sizes.set op.dimension 1 := by
  rw [RankedTensorType.sizes, RankedTensorType.sizes, ScanOp.unitType, List.map_set]
  rfl

/-- All types of a scan with static shapes are static. -/
theorem ScanOp.HasStaticShapes.known (static : op.HasStaticShapes) :
    (∀ type ∈ op.inputs, ∀ dim ∈ type.shape, 0 ≤ dim.toInt) ∧
      (∀ type ∈ op.inits, ∀ dim ∈ type.shape, 0 ≤ dim.toInt) ∧
      (∀ type ∈ op.bodyArguments, ∀ dim ∈ type.shape, 0 ≤ dim.toInt) ∧
      (∀ type ∈ op.bodyResults, ∀ dim ∈ type.shape, 0 ≤ dim.toInt) ∧
      ∀ type ∈ op.results, ∀ dim ∈ type.shape, 0 ≤ dim.toInt := by
  refine ⟨?_, ?_, ?_, ?_, ?_⟩ <;>
  · intro type listed
    refine (static type ?_).1
    simp [listed]

/-- The inputs that are checked have the same size of the scan dimension, which is that given. -/
theorem verifyDimSizes_loop {dimension : Nat} {items : List (RankedTensorType × Nat)}
    (known : ∀ item ∈ items, ∀ dim ∈ item.1.shape, 0 ≤ dim.toInt) {start final : Option Int64}
    (looped : items.foldlM (fun dimSize (inputType, i) => do
      require (decide (dimension < inputType.rank))
        s!"scan dimension of operand {i} is out of bounds"
      let currentDimSize ← readEntry inputType.shape dimension
      if isDynamicDimSize currentDimSize then .ok dimSize
      else do
        require (dimSize.all (· == currentDimSize)) s!"invalid scan dimension size of operand {i}"
        .ok (some currentDimSize)) start = .ok final) :
    (∀ item ∈ items, ∃ size, final = some size ∧ item.1.shape[dimension]? = some size) ∧
      ∀ size, start = some size → final = some size := by
  induction items generalizing start with
  | nil =>
    cases looped
    exact ⟨fun item listed => (List.not_mem_nil listed).elim, fun size given => given⟩
  | cons item items ih =>
    obtain ⟨here, known⟩ := List.forall_mem_cons.mp known
    rw [List.foldlM_cons, Fallible.bind_eq_ok] at looped
    obtain ⟨next, checked, looped⟩ := looped
    rw [Fallible.check_bind_eq_ok] at checked
    obtain ⟨-, checked⟩ := checked
    obtain ⟨current, read, checked⟩ := Fallible.bind_eq_ok.mp checked
    rw [readEntry_eq_ok] at read
    obtain ⟨size, -, -, static⟩ := getElem?_sizes here read
    rw [static, if_neg (by decide), Fallible.check_bind_eq_ok, require_eq_ok] at checked
    obtain ⟨same, stored⟩ := checked
    cases stored
    -- What the first input has is what the others are compared with.
    obtain ⟨others, kept⟩ := ih known looped
    have own := kept current rfl
    refine ⟨List.forall_mem_cons.mpr ⟨⟨current, own, read⟩, others⟩, ?_⟩
    rintro given rfl
    rw [Option.all_some, beq_iff_eq] at same
    rw [own, same]

/-- The size that is inferred is the one given, or that of the inputs. -/
theorem inferDimSize_loop {dimension : Nat} {size : Int64} (static : isDynamicDimSize size = false)
    {items : List (RankedTensorType × Nat)}
    (own : ∀ item ∈ items, item.1.shape[dimension]? = some size) {start final : Int64}
    (looped : items.foldlM (fun dimSize (inputType, i) => do
      require (decide (dimension < inputType.rank))
        s!"scan dimension of operand {i} is out of bounds"
      if isDynamicDimSize dimSize then readEntry inputType.shape dimension else .ok dimSize)
        start = .ok final) :
    final = if isDynamicDimSize start ∧ items ≠ [] then size else start := by
  induction items generalizing start with
  | nil =>
    cases looped
    rw [if_neg (by simp)]
  | cons item items ih =>
    obtain ⟨here, own⟩ := List.forall_mem_cons.mp own
    rw [List.foldlM_cons, Fallible.bind_eq_ok] at looped
    obtain ⟨next, checked, looped⟩ := looped
    rw [Fallible.check_bind_eq_ok] at checked
    obtain ⟨-, read⟩ := checked
    have later := ih own looped
    by_cases dynamic : isDynamicDimSize start = true
    · rw [if_pos dynamic, readEntry_eq_ok, here, Option.some.injEq] at read
      subst read
      rw [if_neg (by simp [static])] at later
      rw [later, if_pos ⟨dynamic, List.cons_ne_nil _ _⟩]
    · rw [if_neg dynamic] at read
      cases read
      rw [if_neg (fun both => dynamic both.1)] at later
      rw [later, if_neg (fun both => dynamic both.1)]

/-- There are as many results as the body returns, and at least the carries. -/
theorem ScanOp.Verified.counts (verified : op.Verified) :
    op.bodyResults.length = op.results.length ∧ op.numCarries ≤ op.results.length := by
  obtain ⟨inferred, infers, length, -⟩ := verified.results
  rw [ScanOp.inferReturnTypeComponents, Fallible.check_bind_eq_ok, require_eq_ok,
    decide_eq_true_eq] at infers
  obtain ⟨most, infers⟩ := infers
  obtain ⟨dimSize, -, infers⟩ := Fallible.bind_eq_ok.mp infers
  have count := Fallible.length_of_mapM infers
  rw [List.length_zipIdx] at count
  omega

/-- The inputs have the same size of the scan dimension. -/
theorem ScanOp.Verified.inputs_alike (verified : op.Verified) (static : op.HasStaticShapes) :
    ∃ final : Option Int64, (∀ input ∈ op.inputs, ∃ size, final = some size ∧
        input.shape[op.dimension]? = some size) ∧
      ∀ size, op.scanDimSize = some size → final = some size := by
  have accepted := verified.verified
  rw [ScanOp.verify, Fallible.check_bind_eq_ok] at accepted
  obtain ⟨final, looped, -⟩ := Fallible.bind_eq_ok.mp accepted.2
  have known : ∀ item ∈ op.inputs.zipIdx, ∀ dim ∈ item.1.shape, 0 ≤ dim.toInt :=
    fun item listed => static.known.1 item.1 (List.fst_mem_of_mem_zipIdx listed)
  obtain ⟨alike, given⟩ := verifyDimSizes_loop known looped
  refine ⟨final, fun input listed => ?_, given⟩
  obtain ⟨place, found⟩ := List.mem_iff_getElem?.mp listed
  exact alike (input, place) (List.mem_zipIdx_iff_getElem?.mpr found)

/-- Each input has the size of the scan dimension. -/
theorem ScanOp.Verified.inputSizes (verified : op.Verified) (static : op.HasStaticShapes) :
    ∀ input ∈ op.inputs, input.sizes[op.dimension]? = some op.scanSize := by
  obtain ⟨final, alike, -⟩ := verified.inputs_alike static
  intro input listed
  obtain ⟨size, first, found⟩ := alike input listed
  obtain ⟨number, numberFound, same, -⟩ := getElem?_sizes (static.known.1 input listed) found
  rw [numberFound, Option.some.injEq, ScanOp.scanSize]
  -- The size is read from the first input.
  cases inputsEq : op.inputs with
  | nil => rw [inputsEq] at listed; cases listed
  | cons input' inputs =>
    have member : input' ∈ op.inputs := by rw [inputsEq]; exact List.mem_cons_self
    obtain ⟨size', first', found'⟩ := alike input' member
    obtain ⟨number', numberFound', same', -⟩ := getElem?_sizes (static.known.1 input' member) found'
    rw [first, Option.some.injEq] at first'
    subst first'
    show number = input'.sizes.getD op.dimension 0
    rw [List.getD_eq_getElem?_getD, numberFound', Option.getD_some]
    omega

/-- When there are inputs, the size that is inferred is theirs. -/
theorem ScanOp.Verified.inferDimSize_eq (verified : op.Verified) (static : op.HasStaticShapes)
    {input : RankedTensorType} (listed : input ∈ op.inputs) {dimSize : Int64}
    (inferred : op.inferDimSize = .ok dimSize) : input.shape[op.dimension]? = some dimSize := by
  obtain ⟨final, alike, given⟩ := verified.inputs_alike static
  obtain ⟨size, finalEq, found⟩ := alike input listed
  obtain ⟨-, -, -, known⟩ := getElem?_sizes (static.known.1 input listed) found
  have own : ∀ item ∈ op.inputs.zipIdx, item.1.shape[op.dimension]? = some size := by
    intro item member
    obtain ⟨size', finalEq', found'⟩ := alike item.1 (List.fst_mem_of_mem_zipIdx member)
    rw [finalEq] at finalEq'
    rw [found', finalEq']
  have outcome := inferDimSize_loop known own inferred
  rw [found, outcome]
  split
  · rfl
  · next settled =>
    -- The size that is given is known, and that of the inputs was compared with it.
    cases scanDimSize : op.scanDimSize with
    | none =>
      refine absurd ⟨?_, ?_⟩ settled
      · rw [scanDimSize]
        decide
      · intro empty
        rw [List.zipIdx_eq_nil_iff] at empty
        rw [empty] at listed
        cases listed
    | some size' =>
      have same := given size' scanDimSize
      rw [finalEq, Option.some.injEq] at same
      rw [same, Option.getD_some]

/-- The outputs have the shapes of what the body returns, and the scan dimension. -/
theorem ScanOp.Verified.outputs_spec (verified : op.Verified) (static : op.HasStaticShapes)
    {i : Nat} {output element : RankedTensorType} (found : op.outputs[i]? = some output)
    (elementFound : op.bodyResults[i]? = some element) :
    output.sizes.eraseIdx op.dimension = element.sizes ∧
      (∃ size, output.sizes[op.dimension]? = some size) ∧
      (op.inputs ≠ [] → output.sizes[op.dimension]? = some op.scanSize) := by
  obtain ⟨inferred, infers, length, compatible⟩ := verified.results
  obtain ⟨counts, most⟩ := verified.counts
  rw [ScanOp.outputs, List.getElem?_take] at found
  split at found
  case isFalse => cases found
  next below =>
  rw [ScanOp.inferReturnTypeComponents, Fallible.check_bind_eq_ok] at infers
  obtain ⟨dimSize, sized, infers⟩ := Fallible.bind_eq_ok.mp infers.2
  obtain ⟨type, typeFound, made⟩ := Fallible.getElem?_of_mapM infers
    (show op.bodyResults.zipIdx[i]? = some (element, i) by
      rw [List.getElem?_zipIdx, elementFound]
      simp)
  rw [ScanOp.numScanOutputs] at below
  dsimp only at made
  rw [if_pos (by omega)] at made
  split at made
  case isFalse => cases made
  next rank =>
  cases made
  have outputKnown := static.known.2.2.2.2 output (List.mem_of_getElem? found)
  have elementKnown := static.known.2.2.2.1 element (List.mem_of_getElem? elementFound)
  have pair : (inferred.zip op.results)[i]? = some (_, output) :=
    List.getElem?_zip_eq_some.mpr ⟨typeFound, found⟩
  have same := compatible _ (List.mem_of_getElem? pair)
  dsimp only at same
  have inside : op.dimension < (element.shape.insertIdx op.dimension dimSize).length := by
    rw [List.length_insertIdx_of_le_length rank]
    rw [RankedTensorType.rank] at rank
    omega
  have erased := verifyCompatibleShape_eraseIdx same inside
  rw [List.eraseIdx_insertIdx_self] at erased
  have outputErased : ∀ dim ∈ output.shape.eraseIdx op.dimension, 0 ≤ dim.toInt :=
    fun dim listed => outputKnown dim (List.mem_of_mem_eraseIdx listed)
  have sizes := sizes_eq_of_compatible (fun dim listed => elementKnown dim listed) outputErased
    erased
  -- The dimension that was inserted is one of the output.
  rw [verifyCompatibleShape, Bool.and_eq_true, beq_iff_eq, List.all_eq_true] at same
  obtain ⟨sameRank, dims⟩ := same
  rw [RankedTensorType.rank, RankedTensorType.rank] at sameRank
  dsimp only at sameRank dims
  rw [sameRank] at inside
  have outputFound := List.getElem?_eq_getElem inside
  obtain ⟨size, sizeFound, value, -⟩ := getElem?_sizes outputKnown outputFound
  refine ⟨?_, ⟨size, sizeFound⟩, fun nonempty => ?_⟩
  · rw [RankedTensorType.sizes, List.eraseIdx_map]
    exact sizes.symm
  · obtain ⟨input, listed⟩ := List.exists_mem_of_ne_nil _ nonempty
    have inputFound := verified.inferDimSize_eq static listed sized
    obtain ⟨number, numberFound, numberValue, -⟩ :=
      getElem?_sizes (static.known.1 input listed) inputFound
    rw [verified.inputSizes static input listed, Option.some.injEq] at numberFound
    have inserted : (element.shape.insertIdx op.dimension dimSize)[op.dimension]? =
        some dimSize := List.getElem?_insertIdx_self.trans (if_pos rank)
    have alike := dims (dimSize, output.shape[op.dimension]) (List.mem_of_getElem?
      (List.getElem?_zip_eq_some.mpr ⟨inserted, outputFound⟩))
    rw [sizeFound, ← eq_of_verifyCompatibleDims numberValue value alike, numberFound]

/-- The arguments of the body have the shapes of the slices and of the carries. -/
theorem ScanOp.Verified.argumentSizes (verified : op.Verified) (static : op.HasStaticShapes) :
    op.bodyArguments.map RankedTensorType.sizes =
      (op.inputs.map op.sliceType ++ op.inits).map RankedTensorType.sizes := by
  have accepted := verified.verified
  rw [ScanOp.verify, Fallible.check_bind_eq_ok] at accepted
  obtain ⟨-, -, accepted⟩ := Fallible.bind_eq_ok.mp accepted.2
  rw [Fallible.check_bind_eq_ok, require_eq_ok, beq_iff_eq, Fallible.forM_eq_ok_iff] at accepted
  obtain ⟨count, compatible⟩ := accepted
  obtain ⟨inputsKnown, initsKnown, argumentsKnown, -⟩ := static.known
  refine List.ext_getElem (by rw [List.length_map, List.length_map, count]) fun i below other => ?_
  rw [List.length_map] at below other
  have checked := compatible ((_, _), i) (List.mem_zipIdx_iff_getElem?.mpr
    (List.getElem?_zip_eq_some.mpr ⟨List.getElem?_eq_getElem other,
      List.getElem?_eq_getElem below⟩))
  rw [require_eq_ok, isCompatibleForHloTypeInference] at checked
  simp only [Bool.and_eq_true] at checked
  rw [List.getElem_map, List.getElem_map]
  refine (sizes_eq_of_compatible ?_ (argumentsKnown _ (List.getElem_mem _)) checked.1.1.1).symm
  rcases List.mem_append.mp (List.getElem_mem other) with slice | init
  · obtain ⟨input, listed, same⟩ := List.mem_map.mp slice
    rw [← same]
    exact fun dim member => inputsKnown input listed dim (List.mem_of_mem_eraseIdx member)
  · exact initsKnown _ init

/-- There is an input or an output. -/
theorem ScanOp.Verified.present (verified : op.Verified) : op.inputs ≠ [] ∨ op.outputs ≠ [] := by
  have accepted := verified.verified
  rw [ScanOp.verify, Fallible.check_bind_eq_ok, require_eq_ok, Bool.not_eq_true',
    Bool.and_eq_false_iff] at accepted
  rcases accepted.1 with inputs | outputs
  · left
    rintro empty
    rw [empty] at inputs
    cases inputs
  · right
    rintro empty
    rw [empty] at outputs
    cases outputs

end Accepted

section Turns

variable {op : ScanOp} {dimension size p : Nat} {position : BitVec 64}

/-- What the turns of the loop rely on: the shapes of the values fit together, and the size of the
scan dimension is a number of 32 bits. -/
structure ScanOp.Regular (op : ScanOp) : Prop where
  counts : op.bodyResults.length = op.results.length ∧ op.numCarries ≤ op.results.length
  arguments : op.bodyArguments.map RankedTensorType.sizes =
    (op.inputs.map fun type => type.sizes.eraseIdx op.dimension) ++
      op.inits.map RankedTensorType.sizes
  outputs : (op.bodyResults.take op.numScanOutputs).map RankedTensorType.sizes =
    op.outputs.map fun type => type.sizes.eraseIdx op.dimension
  carries : (op.bodyResults.drop op.numScanOutputs).map RankedTensorType.sizes =
    op.inits.map RankedTensorType.sizes
  inputSizes : ∀ type ∈ op.inputs, (∀ dim ∈ type.shape, 0 ≤ dim.toInt) ∧
    type.sizes[op.dimension]? = some op.scanSize
  outputSizes : ∀ type ∈ op.outputs, type.sizes[op.dimension]? = some op.scanSize
  small : op.scanSize < 2 ^ 31

/-- An index that was stored is read. -/
theorem readIndex_indexScalar (value : BitVec 64) :
    readIndex (indexScalar value).elements = some value := by
  show some (value.setWidth 64) = some value
  rw [BitVec.setWidth_eq]

/-- The slices that a turn reads are those at its position. -/
theorem sliceInputs_eval {types : List RankedTensorType} {tensors : List (Tensor Element)}
    (shapes : HaveShapes types tensors)
    (known : ∀ type ∈ types, (∀ dim ∈ type.shape, 0 ≤ dim.toInt) ∧
      type.sizes[op.dimension]? = some size)
    (below : p < size) (same : position.toInt = p) :
    ∃ slices, ((types.map fun input => InputSlice.mk input (op.unitType input)
        (op.sliceType input)).zip tensors).mapM (fun (step, input) =>
          step.eval op.dimension position input) = some slices ∧
      tensors.mapM (fun input => (input.slab op.dimension p).toOption) = some slices ∧
      slices.map Tensor.shape = types.map fun type => type.sizes.eraseIdx op.dimension := by
  induction types generalizing tensors with
  | nil =>
    cases tensors with
    | nil => exact ⟨[], rfl, rfl, rfl⟩
    | cons _ _ => cases shapes
  | cons type types ih =>
    cases tensors with
    | nil => cases shapes
    | cons tensor tensors =>
      rw [HaveShapes, List.map_cons, List.map_cons, List.cons.injEq] at shapes
      obtain ⟨shape, shapes⟩ := shapes
      obtain ⟨⟨here, found⟩, known⟩ := List.forall_mem_cons.mp known
      obtain ⟨others, evaluated, taken, otherShapes⟩ := ih shapes known
      -- The attribute for the sizes of the slice has its sizes.
      have unitKnown : ∀ dim ∈ (op.unitType type).shape, 0 ≤ dim.toInt := by
        intro dim listed
        rcases List.mem_or_eq_of_mem_set listed with member | rfl
        · exact here dim member
        · decide
      have sizes := (RankedTensorType.isStatic_sizes unitKnown).1
      have rank : type.rank = tensor.shape.length := by
        rw [shape, RankedTensorType.rank, RankedTensorType.sizes, List.length_map]
      obtain ⟨slice, slab, sliced, reshaped, slabEq, slabShape⟩ :=
        Tensor.dynamicSliceOp_slab (shape ▸ type.sizes_lt) (shape ▸ found) below same
      have step : (InputSlice.mk type (op.unitType type) (op.sliceType type)).eval op.dimension
          position tensor = some slab := by
        unfold InputSlice.eval
        dsimp only
        rw [sizes, op.sizes_unitType, op.sizes_sliceType, rank, ← shape, sliced]
        show (slice.reshapeOp _).toOption = _
        rw [reshaped]
        rfl
      refine ⟨slab :: others, ?_, ?_, ?_⟩
      · rw [List.map_cons, List.zip_cons_cons, List.mapM_cons]
        dsimp only
        rw [step, evaluated]
        rfl
      · rw [List.mapM_cons, slabEq, taken]
        rfl
      · rw [List.map_cons, List.map_cons, otherShapes, slabShape, shape]

/-- A turn writes the elements to the outputs at its position. -/
theorem updateOutputs_eval {types elementTypes : List RankedTensorType}
    {currents elements : List (Tensor Element)} (count : types.length ≤ elementTypes.length)
    (shapes : HaveShapes types currents)
    (elementShapes : elements.map Tensor.shape =
      types.map fun type => type.sizes.eraseIdx op.dimension)
    (known : ∀ type ∈ types, type.sizes[op.dimension]? = some size)
    (below : p < size) (same : position.toInt = p) :
    ∃ updated, (((types.zip elementTypes).map fun (output, element) =>
        OutputUpdate.mk output element (op.unitType output)).zip (currents.zip elements)).mapM
          (fun (step, current, element) => step.eval op.dimension position current element) =
        some updated ∧
      HaveShapes types updated ∧
      ∀ (i : Nat) (output : Tensor Element), updated[i]? = some output →
        (∃ element, elements[i]? = some element ∧ output.slab op.dimension p = .ok element) ∧
        ∃ current, currents[i]? = some current ∧ ∀ q < size, q ≠ p →
          output.slab op.dimension q = current.slab op.dimension q := by
  induction types generalizing elementTypes currents elements with
  | nil =>
    cases currents with
    | nil => exact ⟨[], by simp, rfl, by simp⟩
    | cons _ _ => cases shapes
  | cons type types ih =>
    cases currents with
    | nil => cases shapes
    | cons current currents =>
      cases elements with
      | nil => cases elementShapes
      | cons element elements =>
        cases elementTypes with
        | nil => exact absurd count (Nat.not_succ_le_zero _)
        | cons elementType elementTypes =>
          rw [HaveShapes, List.map_cons, List.map_cons, List.cons.injEq] at shapes
          rw [List.map_cons, List.map_cons, List.cons.injEq] at elementShapes
          obtain ⟨found, known⟩ := List.forall_mem_cons.mp known
          obtain ⟨others, evaluated, otherShapes, otherSlabs⟩ :=
            ih (Nat.le_of_succ_le_succ count) shapes.2 elementShapes.2 known
          have rank : type.rank = current.shape.length := by
            rw [shapes.1, RankedTensorType.rank, RankedTensorType.sizes, List.length_map]
          obtain ⟨reshaped, updated, reshapes, updates, updatedShape, own, rest⟩ :=
            Tensor.dynamicUpdateSliceOp_slab (shapes.1 ▸ type.sizes_lt) (shapes.1 ▸ found) below
              same (elementShapes.1.trans (by rw [shapes.1]))
          have step : (OutputUpdate.mk type elementType (op.unitType type)).eval op.dimension
              position current element = some updated := by
            unfold OutputUpdate.eval
            dsimp only
            rw [op.sizes_unitType, ← shapes.1, reshapes, rank]
            show (dynamicUpdateSliceOp current reshaped _ _).toOption = _
            rw [updates]
            rfl
          refine ⟨updated :: others, ?_, ?_, ?_⟩
          · rw [List.zip_cons_cons, List.map_cons, List.zip_cons_cons, List.zip_cons_cons,
              List.mapM_cons]
            dsimp only
            rw [step, evaluated]
            rfl
          · rw [HaveShapes, List.map_cons, List.map_cons, updatedShape, shapes.1, otherShapes]
          · intro i output outputFound
            cases i with
            | zero =>
              cases outputFound
              exact ⟨⟨element, rfl, own⟩, current, rfl, rest⟩
            | succ i => exact otherSlabs i output outputFound

/-- Numbers below 2 ^ 31 are read from 64 bits as they are. -/
theorem toInt_ofNat_of_lt {number : Nat} (small : number < 2 ^ 31) :
    (BitVec.ofNat 64 number).toInt = number := by
  rw [BitVec.toInt_eq_toNat_of_lt] <;> rw [BitVec.toNat_ofNat] <;> omega

/-- The size of the scan dimension is made a number of 32 bits. -/
theorem ScanOp.HasStaticShapes.getScanDimensionSize_eq (static : op.HasStaticShapes)
    {number : BitVec 32} (got : op.getScanDimensionSize = some number) :
    number = BitVec.ofInt 32 op.scanSize ∧ op.scanSize < 2 ^ 63 := by
  -- The size is that of a type whose sizes are known.
  have read : ∀ (type : RankedTensorType) (size : Int64), (∀ dim ∈ type.shape, 0 ≤ dim.toInt) →
      type.shape[op.dimension]? = some size →
      size.toInt = (type.sizes.getD op.dimension 0 : Nat) ∧
        type.sizes.getD op.dimension 0 < 2 ^ 63 := by
    intro type size known found
    obtain ⟨value, valueFound, same, -⟩ := getElem?_sizes known found
    rw [List.getD_eq_getElem?_getD, valueFound, Option.getD_some]
    exact ⟨same, type.sizes_lt value (List.mem_of_getElem? valueFound)⟩
  obtain ⟨inputsKnown, -, -, -, resultsKnown⟩ := static.known
  rw [ScanOp.getScanDimensionSize] at got
  rw [ScanOp.scanSize]
  cases inputsEq : op.inputs with
  | cons input inputs =>
    rw [inputsEq] at got
    obtain ⟨size, found, rfl⟩ := Option.map_eq_some_iff.mp got
    obtain ⟨same, small⟩ := read input size (inputsKnown input (by simp [inputsEq])) found
    exact ⟨congrArg (BitVec.ofInt 32) same, small⟩
  | nil =>
    rw [inputsEq] at got
    cases resultsEq : op.results with
    | nil =>
      rw [resultsEq] at got
      cases got
    | cons result results =>
      rw [resultsEq] at got
      obtain ⟨size, found, taken⟩ := Option.bind_eq_some_iff.mp got
      split at taken
      · cases taken
      · cases taken
        obtain ⟨same, small⟩ := read result size (resultsKnown result (by simp [resultsEq])) found
        exact ⟨congrArg (BitVec.ofInt 32) same, small⟩

/-- A step of the scan is at the position of the turn with the same number. -/
theorem posIndex_toInt {loop : ScanLoop} (isReverse : loop.isReverse = op.isReverse)
    (limit : loop.scanDimSize = BitVec.ofNat 64 op.scanSize) (small : op.scanSize < 2 ^ 31)
    {t : Nat} (found : op.positions[t]? = some p) :
    (loop.posIndex (BitVec.ofNat 64 t)).toInt = p ∧ p < op.scanSize ∧ t < op.scanSize := by
  rw [ScanLoop.posIndex, isReverse, limit]
  unfold ScanOp.positions at found
  by_cases reverse : op.isReverse = true
  · rw [if_pos reverse] at found ⊢
    -- The first turn is at the last position.
    obtain ⟨inside, _⟩ := List.getElem?_eq_some_iff.mp found
    rw [List.length_reverse, List.length_range] at inside
    rw [List.getElem?_reverse (by rwa [List.length_range]), List.length_range,
      List.getElem?_range (by omega), Option.some.injEq] at found
    have same : BitVec.ofNat 64 op.scanSize - 1 - BitVec.ofNat 64 t = BitVec.ofNat 64 p := by
      apply BitVec.eq_of_toNat_eq
      have one : (1 : BitVec 64).toNat = 1 := rfl
      simp only [BitVec.toNat_sub, BitVec.toNat_ofNat, one]
      omega
    rw [same]
    exact ⟨toInt_ofNat_of_lt (by omega), by omega, inside⟩
  · rw [if_neg reverse] at found ⊢
    obtain ⟨inside, _⟩ := List.getElem?_eq_some_iff.mp found
    rw [List.length_range] at inside
    rw [List.getElem?_range inside, Option.some.injEq] at found
    subst found
    exact ⟨toInt_ofNat_of_lt (by omega), inside, inside⟩

/-- No position comes twice. -/
theorem ScanOp.nodup_positions : op.positions.Nodup := by
  unfold ScanOp.positions
  split
  · exact List.nodup_reverse.mpr List.nodup_range
  · exact List.nodup_range

/-- There is a step for each position. -/
theorem ScanOp.mem_positions : p ∈ op.positions ↔ p < op.scanSize := by
  unfold ScanOp.positions
  split
  · rw [List.mem_reverse, List.mem_range]
  · exact List.mem_range

/-- The loop that the scan is lowered to, up to the zeros of the outputs. -/
structure ScanLoop.Lowers (loop : ScanLoop) (op : ScanOp) : Prop where
  dimension : loop.dimension = op.dimension
  isReverse : loop.isReverse = op.isReverse
  scanDimSize : ∃ number, op.getScanDimensionSize = some number ∧
    loop.scanDimSize = number.signExtend 64
  inits : loop.inits = op.inits
  outputs : loop.outputs = op.outputs
  zeros : loop.zeros.length = op.outputs.length
  slices : loop.slices = op.sliceInputs
  updates : loop.updates = op.updateOutputs
  bodyArguments : loop.bodyArguments = op.bodyArguments
  newAccs : loop.newAccs = op.bodyResults.drop (op.bodyResults.length - op.numCarries)

/-- A turn evaluates the body on the slices at its position, unless that fails. -/
theorem ScanLoop.Lowers.turn_eq {loop : ScanLoop} (lowers : loop.Lowers op)
    (regular : op.Regular) (body : ScanBody op) {inputs carries outputs : List (Tensor Element)}
    (inputShapes : HaveShapes op.inputs inputs) (carryShapes : HaveShapes op.inits carries)
    (outputShapes : HaveShapes op.outputs outputs) {index : BitVec 64} (below : p < op.scanSize)
    (same : (loop.posIndex index).toInt = p) :
    ∃ slices, inputs.mapM (fun input => (input.slab op.dimension p).toOption) = some slices ∧
      (body.run (slices ++ carries) = none →
        loop.turn body.run inputs ((indexScalar index).elements :: carries ++ outputs) = none) ∧
      ∀ results, body.run (slices ++ carries) = some results →
        HaveShapes op.inits (results.drop op.numScanOutputs) ∧
        ∃ updated, loop.turn body.run inputs
            ((indexScalar index).elements :: carries ++ outputs) =
              some ((indexScalar (index + 1)).elements :: results.drop op.numScanOutputs ++
                updated) ∧
          HaveShapes op.outputs updated ∧
          ∀ (i : Nat) (output : Tensor Element), updated[i]? = some output →
            (∃ element, (results.take op.numScanOutputs)[i]? = some element ∧
              output.slab op.dimension p = .ok element) ∧
            ∃ current, outputs[i]? = some current ∧ ∀ q < op.scanSize, q ≠ p →
              output.slab op.dimension q = current.slab op.dimension q := by
  obtain ⟨slices, evaluated, taken, sliceShapes⟩ :=
    sliceInputs_eval inputShapes regular.inputSizes below same
  obtain ⟨resultCount, most⟩ := regular.counts
  have carryCount : carries.length = op.inits.length := by
    have lengths := congrArg List.length carryShapes
    rwa [List.length_map, List.length_map] at lengths
  have outputCount : outputs.length = op.outputs.length := by
    have lengths := congrArg List.length outputShapes
    rwa [List.length_map, List.length_map] at lengths
  have outputsLength : op.outputs.length = op.numScanOutputs := by
    rw [ScanOp.outputs, List.length_take, ScanOp.numScanOutputs]
    omega
  -- The groups of the state are the carries and the outputs.
  have accs : (((indexScalar index).elements :: carries ++ outputs).drop 1).take
      loop.inits.length = carries := by
    rw [lowers.inits, ← carryCount]
    exact List.take_left
  have arguments : (((indexScalar index).elements :: carries ++ outputs).drop
      (1 + loop.inits.length)).take loop.outputs.length = outputs := by
    rw [lowers.inits, ← carryCount, Nat.add_comm, lowers.outputs, ← outputCount]
    show (List.drop carries.length (carries ++ outputs)).take outputs.length = outputs
    rw [List.drop_left, List.take_length]
  have unfolded : loop.turn body.run inputs
      ((indexScalar index).elements :: carries ++ outputs) =
      (body.run (slices ++ carries)).bind fun results =>
        ((loop.updates.zip (outputs.zip (results.take op.numScanOutputs))).mapM
          fun (step, current, element) => OutputUpdate.eval step op.dimension (loop.posIndex index)
            current element).bind fun updated => some ((indexScalar (index + 1)).elements ::
              results.drop (results.length - op.inits.length) ++ updated) := by
    unfold ScanLoop.turn
    have read : ((indexScalar index).elements :: carries ++ outputs).head?.bind readIndex =
        some index := readIndex_indexScalar index
    rw [read, accs, arguments, lowers.slices, lowers.dimension, ScanOp.sliceInputs,
      lowers.outputs, lowers.inits, outputsLength]
    simp only [Option.bind_eq_bind, Option.bind_some]
    rw [evaluated]
    rfl
  refine ⟨slices, taken, fun fails => ?_, fun results returned => ?_⟩
  · rw [unfolded, fails]
    rfl
  · have shaped := body.shaped (slices ++ carries) results (by
      rw [HaveShapes, List.map_append, sliceShapes, regular.arguments, carryShapes]) returned
    have resultLength : results.length = op.results.length := by
      have lengths := congrArg List.length shaped
      rwa [List.length_map, List.length_map, resultCount] at lengths
    have elementShapes : (results.take op.numScanOutputs).map Tensor.shape =
        op.outputs.map fun type => type.sizes.eraseIdx op.dimension := by
      rw [List.map_take, shaped, ← List.map_take, regular.outputs]
    have newShapes : HaveShapes op.inits (results.drop op.numScanOutputs) := by
      rw [HaveShapes, List.map_drop, shaped, ← List.map_drop, regular.carries]
    obtain ⟨updated, updates, updatedShapes, slabs⟩ := @updateOutputs_eval op op.scanSize p
      (loop.posIndex index) op.outputs op.bodyResults outputs (results.take op.numScanOutputs)
      (by rw [outputsLength, resultCount, ScanOp.numScanOutputs]; omega) outputShapes elementShapes
      regular.outputSizes below same
    refine ⟨newShapes, updated, ?_, updatedShapes, slabs⟩
    rw [unfolded, returned, Option.bind_some, lowers.updates, ScanOp.updateOutputs, updates,
      Option.bind_some, resultLength]
    rfl

/-- The turns of the loop at the last positions do what the steps of the scan there do. -/
theorem ScanLoop.Lowers.run_eq {loop : ScanLoop} (lowers : loop.Lowers op)
    (regular : op.Regular) (limit : loop.scanDimSize = BitVec.ofNat 64 op.scanSize)
    (body : ScanBody op) {inputs : List (Tensor Element)}
    (inputShapes : HaveShapes op.inputs inputs) {rest : List Nat} {t : Nat}
    (remaining : op.positions.drop t = rest) (done : t + rest.length = op.scanSize)
    {carries outputs : List (Tensor Element)} (carryShapes : HaveShapes op.inits carries)
    (outputShapes : HaveShapes op.outputs outputs) (fuel : Nat) :
    match op.scanFrom body.run inputs rest carries with
    | none => WhileLoop.run loop.cond (loop.turn body.run inputs) fuel
        ((indexScalar (BitVec.ofNat 64 t)).elements :: carries ++ outputs) = none
    | some (steps, last) => rest.length < fuel → HaveShapes op.inits last ∧
        ∃ index final, WhileLoop.run loop.cond (loop.turn body.run inputs) fuel
            ((indexScalar (BitVec.ofNat 64 t)).elements :: carries ++ outputs) =
              some (rest.length, index :: last ++ final) ∧
          HaveShapes op.outputs final ∧
          ∀ (i : Nat) (output : Tensor Element), final[i]? = some output →
            (∀ (step position : Nat), rest[step]? = some position →
              ∃ element, steps[step]?.bind (·[i]?) = some element ∧
                output.slab op.dimension position = .ok element) ∧
            ∃ current, outputs[i]? = some current ∧ ∀ q < op.scanSize, q ∉ rest →
              output.slab op.dimension q = current.slab op.dimension q := by
  have small := regular.small
  -- There is another turn as long as there is another position.
  have goes : ∀ t values, t ≤ op.scanSize → loop.cond
      ((indexScalar (BitVec.ofNat 64 t)).elements :: values) = some (decide (t < op.scanSize)) := by
    intro t values most
    unfold ScanLoop.cond
    rw [List.head?_cons, Option.bind_some, readIndex_indexScalar, limit]
    show some (BitVec.slt _ _) = _
    rw [BitVec.slt, toInt_ofNat_of_lt (by omega), toInt_ofNat_of_lt small]
    simp
  induction rest generalizing t carries outputs fuel with
  | nil =>
    rw [List.length_nil, Nat.add_zero] at done
    intro enough
    refine ⟨carryShapes, (indexScalar (BitVec.ofNat 64 t)).elements, outputs, ?_, outputShapes,
      fun i output found =>
      ⟨fun step position impossible => (by cases impossible), output, found, fun _ _ _ => rfl⟩⟩
    cases fuel with
    | zero => exact absurd enough (Nat.lt_irrefl 0)
    | succ fuel =>
      rw [WhileLoop.run, List.cons_append, goes t _ (by omega), decide_eq_false (by omega)]
      rfl
  | cons p rest ih =>
    have here : op.positions[t]? = some p := by
      have first := congrArg List.head? remaining
      rwa [List.head?_drop] at first
    have later : op.positions.drop (t + 1) = rest := by
      rw [← List.drop_drop, remaining]
      rfl
    rw [List.length_cons] at done
    obtain ⟨same, below, inside⟩ := posIndex_toInt lowers.isReverse limit small here
    obtain ⟨slices, taken, failing, returning⟩ := lowers.turn_eq regular body inputShapes
      carryShapes outputShapes below same
    -- The next turn is the one with the next number.
    have next : BitVec.ofNat 64 t + 1 = BitVec.ofNat 64 (t + 1) := by
      rw [BitVec.ofNat_add]
      rfl
    rw [ScanOp.scanFrom]
    simp only [Option.bind_eq_bind]
    rw [taken, Option.bind_some]
    have condition := goes t (carries ++ outputs) (by omega)
    rw [decide_eq_true inside] at condition
    cases returned : body.run (slices ++ carries) with
    | none =>
      rw [Option.bind_none]
      cases fuel with
      | zero => rfl
      | succ fuel =>
        rw [WhileLoop.run, List.cons_append, condition]
        simp only [Option.bind_eq_bind, Option.bind_some, if_true]
        rw [← List.cons_append, failing returned]
        rfl
    | some results =>
      obtain ⟨newShapes, updated, turned, updatedShapes, slabs⟩ := returning results returned
      rw [next] at turned
      have continued := fun fuel => ih later (by omega) newShapes updatedShapes fuel
      rw [Option.bind_some]
      cases others : op.scanFrom body.run inputs rest (results.drop op.numScanOutputs) with
      | none =>
        rw [others] at continued
        cases fuel with
        | zero => rfl
        | succ fuel =>
          rw [Option.bind_none]
          dsimp only
          rw [WhileLoop.run, List.cons_append, condition]
          simp only [Option.bind_eq_bind, Option.bind_some, if_true]
          rw [← List.cons_append, turned, Option.bind_some, continued fuel]
          rfl
      | some pair =>
        obtain ⟨steps, last⟩ := pair
        rw [others] at continued
        rw [Option.bind_some]
        dsimp only at continued ⊢
        intro enough
        rw [List.length_cons] at enough
        cases fuel with
        | zero => omega
        | succ fuel =>
          obtain ⟨lastShapes, index, final, run, finalShapes, finalSlabs⟩ :=
            continued fuel (by omega)
          refine ⟨lastShapes, index, final, ?_, finalShapes, fun i output found => ?_⟩
          · rw [WhileLoop.run, List.cons_append, condition]
            simp only [Option.bind_eq_bind, Option.bind_some, if_true]
            rw [← List.cons_append, turned, Option.bind_some, run]
            rfl
          · obtain ⟨written, between, betweenFound, kept⟩ := finalSlabs i output found
            obtain ⟨⟨element, elementFound, own⟩, current, currentFound, untouched⟩ :=
              slabs i between betweenFound
            -- What is written at a position stays, since no later turn is there.
            have apart : p ∉ rest := by
              have distinct := (@ScanOp.nodup_positions op).sublist (List.drop_sublist t _)
              rw [remaining] at distinct
              exact (List.nodup_cons.mp distinct).1
            refine ⟨fun step position stepFound => ?_, current, currentFound,
              fun q inside outside => ?_⟩
            · cases step with
              | zero =>
                cases stepFound
                exact ⟨element, elementFound, (kept p below apart).trans own⟩
              | succ step => exact written step position stepFound
            · rw [List.mem_cons, not_or] at outside
              rw [kept q inside outside.2, untouched q inside outside.1]

end Turns

section Verified

variable {op : ScanOp}

/-- A scan is lowered to a loop of the types that it has. -/
theorem ScanOp.lowers_of_matchAndRewrite {getZeroAttr : StablehloType → Option Element}
    {loop : ScanLoop} (lowered : op.matchAndRewrite getZeroAttr = some loop) : loop.Lowers op := by
  simp only [ScanOp.matchAndRewrite, Option.bind_eq_bind, Option.bind_eq_some_iff,
    Option.some.injEq] at lowered
  obtain ⟨number, got, zeros, filled, rfl⟩ := lowered
  have count := (Fallible.mapM_eq_some_iff.mp filled).length_eq
  exact {
    dimension := rfl, isReverse := rfl, scanDimSize := ⟨number, got, rfl⟩, inits := rfl,
    outputs := rfl, zeros := count.symm, slices := rfl, updates := rfl, bodyArguments := rfl,
    newAccs := rfl }

/-- The types and the sizes that are not compared by the verifier are what the turns rely on. -/
theorem ScanOp.Verified.regular (verified : op.Verified) (static : op.HasStaticShapes)
    (kept : op.TypesKept) (alike : op.OutputsAlike) (small : op.scanSize < 2 ^ 31) :
    op.Regular := by
  obtain ⟨inputsKnown, initsKnown, -, bodyResultsKnown, -⟩ := static.known
  obtain ⟨counts, most⟩ := verified.counts
  have outputsLength : op.outputs.length = op.numScanOutputs := by
    rw [ScanOp.outputs, List.length_take, ScanOp.numScanOutputs]
    omega
  refine ⟨⟨counts, most⟩, ?_, ?_, ?_, fun input listed => ⟨inputsKnown input listed,
    verified.inputSizes static input listed⟩, alike, small⟩
  · rw [verified.argumentSizes static, List.map_append, List.map_map]
    congr 1
    exact List.map_congr_left fun type _ => op.sizes_sliceType type
  · refine List.ext_getElem ?_ fun i below other => ?_
    · rw [List.length_map, List.length_map, outputsLength, List.length_take, counts,
        ScanOp.numScanOutputs]
      omega
    · rw [List.length_map] at below other
      rw [List.getElem_map, List.getElem_map, List.getElem_take]
      rw [List.length_take] at below
      exact (verified.outputs_spec static (List.getElem?_eq_getElem other)
        (List.getElem?_eq_getElem (by omega))).1.symm
  · have count : (op.bodyResults.drop op.numScanOutputs).length = op.inits.length := by
      rw [List.length_drop, counts, ScanOp.numScanOutputs]
      rw [ScanOp.numCarries] at most ⊢
      omega
    refine List.ext_getElem (by rw [List.length_map, List.length_map, count])
      fun i below other => ?_
    rw [List.length_map] at below other
    have pair : (op.inits.zip (op.bodyResults.drop op.numScanOutputs))[i]? = some (_, _) :=
      List.getElem?_zip_eq_some.mpr
        ⟨List.getElem?_eq_getElem other, List.getElem?_eq_getElem below⟩
    have compatible := kept.carries _ (List.mem_of_getElem? pair)
    rw [isCompatibleForHloTypeInference] at compatible
    simp only [Bool.and_eq_true] at compatible
    rw [List.getElem_map, List.getElem_map]
    exact (sizes_eq_of_compatible (initsKnown _ (List.getElem_mem _))
      (bodyResultsKnown _ (List.mem_of_mem_drop (List.getElem_mem _))) compatible.1.1.1).symm

/-- The start indices of slices have the same type. -/
theorem allHaveSameElType_replicate (rank : Nat) :
    allHaveSameElType (List.replicate rank indexType) = true := by
  cases rank with
  | zero => rfl
  | succ rank =>
    rw [List.replicate_succ, allHaveSameElType, List.all_eq_true]
    intro other listed
    rw [List.eq_of_mem_replicate listed]
    decide

/-- A dimension has a size that is known. -/
theorem exists_dim {type : RankedTensorType} (known : ∀ dim ∈ type.shape, 0 ≤ dim.toInt)
    {i size : Nat} (found : type.sizes[i]? = some size) :
    ∃ dim, type.shape[i]? = some dim ∧ dim.toInt = size := by
  rw [RankedTensorType.sizes, List.getElem?_map, Option.map_eq_some_iff] at found
  obtain ⟨dim, dimFound, same⟩ := found
  have nonneg := known dim (List.mem_of_getElem? dimFound)
  refine ⟨dim, dimFound, ?_⟩
  rw [← same]
  show dim.toInt = (dim.toInt.toNat : Int)
  omega

/-- The sizes of a type with one position of the scan dimension are known. -/
theorem ScanOp.unitType_known {type : RankedTensorType}
    (known : ∀ dim ∈ type.shape, 0 ≤ dim.toInt) :
    ∀ dim ∈ (op.unitType type).shape, 0 ≤ dim.toInt := by
  intro dim listed
  rcases List.mem_or_eq_of_mem_set listed with member | rfl
  · exact known dim member
  · decide

/-- Types whose sizes are known are static. -/
theorem hasStaticShape_of_known {type : RankedTensorType}
    (known : ∀ dim ∈ type.shape, 0 ≤ dim.toInt) : type.hasStaticShape = true := by
  rw [RankedTensorType.hasStaticShape, List.all_eq_true]
  intro dim listed
  have nonneg := known dim listed
  rw [@isDynamicDimSize_of_natCast dim dim.toInt.toNat (by omega)]
  rfl

/-- A reshape of static types with the same number of elements is verified when they have the same
element type. -/
theorem reshapeVerified_iff {first second : RankedTensorType}
    (firstKnown : ∀ dim ∈ first.shape, 0 ≤ dim.toInt)
    (secondKnown : ∀ dim ∈ second.shape, 0 ≤ dim.toInt)
    (count : first.sizes.prod = second.sizes.prod) :
    ReshapeVerified first second ↔ first.elementType = second.elementType := by
  have elements : ∀ {type : RankedTensorType}, (∀ dim ∈ type.shape, 0 ≤ dim.toInt) →
      type.getNumElements = (type.sizes.prod : Nat) := by
    intro type known
    rw [RankedTensorType.getNumElements, (RankedTensorType.isStatic_sizes known).1]
    exact (map_list_prod (Nat.castRingHom Int) type.sizes).symm
  refine ⟨fun verified => verified.1, fun same => ⟨same, .inl (hasStaticShape_of_known secondKnown),
    fun _ _ => ?_⟩⟩
  rw [elements firstKnown, elements secondKnown, count]

/-- Each size of the type with one position of the scan dimension is at most that of the type. -/
theorem ScanOp.unitType_le {type : RankedTensorType} (known : ∀ dim ∈ type.shape, 0 ≤ dim.toInt)
    {size : Nat} (found : type.sizes[op.dimension]? = some size) (positive : 0 < size) {i : Nat}
    {unit dim : Int64} (unitFound : (op.unitType type).shape[i]? = some unit)
    (dimFound : type.shape[i]? = some dim) : 0 ≤ unit.toInt ∧ unit.toInt ≤ dim.toInt := by
  have unitNonneg := ScanOp.unitType_known known unit (List.mem_of_getElem? unitFound)
  refine ⟨unitNonneg, ?_⟩
  rw [ScanOp.unitType, List.getElem?_set] at unitFound
  split at unitFound
  · next here =>
    subst here
    split at unitFound
    · cases unitFound
      obtain ⟨dim', found', same⟩ := exists_dim known found
      rw [dimFound, Option.some.injEq] at found'
      subst found'
      have one : (1 : Int64).toInt = 1 := by decide
      omega
    · cases unitFound
  · rw [dimFound, Option.some.injEq] at unitFound
    rw [unitFound]

/-- A slice is read by operations that are verified when there is a position to read. -/
theorem ScanOp.sliceInput_verifies_iff {input : RankedTensorType}
    (known : ∀ dim ∈ input.shape, 0 ≤ dim.toInt) (unbounded : input.encoding = none)
    {size : Nat} (found : input.sizes[op.dimension]? = some size) :
    (InputSlice.mk input (op.unitType input) (op.sliceType input)).Verifies ↔
      (∀ flags storage expressed scales zeroPoints axis least most, input.elementType ≠
        .uniformQuantizedPerAxis flags storage expressed scales zeroPoints axis least most) ∧
      0 < size := by
  obtain ⟨dim, dimFound, same⟩ := exists_dim known found
  obtain ⟨inside, _⟩ := List.getElem?_eq_some_iff.mp dimFound
  constructor
  · intro verifies
    obtain ⟨inferred, sliced, -⟩ := verifies.sliced
    obtain ⟨-, -, sizes, -⟩ := inferDynamicSliceOp_spec sliced
    obtain ⟨-, dim', dimFound', most⟩ := sizes op.dimension 1 (List.getElem?_set_self inside)
    rw [dimFound, Option.some.injEq] at dimFound'
    subst dimFound'
    rw [isDynamicDimSize_of_natCast same] at most
    refine ⟨verifies.operand, ?_⟩
    rcases most with dynamic | most
    · cases dynamic
    · have one : (1 : Int64).toInt = 1 := by decide
      omega
  · rintro ⟨operand, positive⟩
    have sliceKnown : ∀ dim ∈ (op.sliceType input).shape, 0 ≤ dim.toInt :=
      fun dim listed => known dim (List.mem_of_mem_eraseIdx listed)
    have sliced := @inferDynamicSliceOp_eq_ok input (List.replicate input.rank indexType)
      (op.unitType input).shape (by rw [List.length_replicate, RankedTensorType.rank])
      (by rw [ScanOp.unitType, List.length_set]) (allHaveSameElType_replicate _)
      fun i unit unitFound => by
        obtain ⟨below, _⟩ := List.getElem?_eq_some_iff.mp unitFound
        rw [ScanOp.unitType, List.length_set] at below
        have dimFound := List.getElem?_eq_getElem below
        obtain ⟨nonneg, most⟩ := ScanOp.unitType_le known found positive unitFound dimFound
        exact ⟨nonneg, _, dimFound, .inr most⟩
    refine ⟨operand, rfl, ⟨_, sliced, ?_⟩, ?_⟩
    · have self := @isCompatible_self (op.unitType input) (by
        rw [ScanOp.unitType, unbounded]
        rfl)
      rw [ScanOp.unitType, unbounded] at self ⊢
      exact self
    · refine (reshapeVerified_iff (ScanOp.unitType_known known) sliceKnown ?_).mpr rfl
      rw [op.sizes_unitType, op.sizes_sliceType, prod_set_one found]

/-- An output is written by operations that are verified when there is a position to write, and the
element type is that of what the body returns. -/
theorem ScanOp.updateOutput_verifies_iff {output element : RankedTensorType}
    (known : ∀ dim ∈ output.shape, 0 ≤ dim.toInt) (unbounded : output.encoding = none)
    (elementKnown : ∀ dim ∈ element.shape, 0 ≤ dim.toInt)
    (erased : output.sizes.eraseIdx op.dimension = element.sizes)
    {size : Nat} (found : output.sizes[op.dimension]? = some size) :
    (OutputUpdate.mk output element (op.unitType output)).Verifies ↔
      element.elementType = output.elementType ∧ 0 < size := by
  obtain ⟨dim, dimFound, same⟩ := exists_dim known found
  obtain ⟨inside, _⟩ := List.getElem?_eq_some_iff.mp dimFound
  have reshapes := @reshapeVerified_iff element (op.unitType output) elementKnown
    (ScanOp.unitType_known known) (by rw [op.sizes_unitType, prod_set_one found, erased])
  constructor
  · intro verifies
    refine ⟨reshapes.mp verifies.reshaped, ?_⟩
    obtain ⟨inferred, updated, -⟩ := verifies.updated
    obtain ⟨-, -, sizes, -⟩ := inferDynamicUpdateSliceOp_spec updated
    have fits := sizes op.dimension dim 1 dimFound (List.getElem?_set_self inside)
    rw [isDynamicDimSize_of_natCast same] at fits
    have one : (1 : Int64).toInt = 1 := by decide
    rcases fits with dynamic | ⟨-, dynamic | most⟩
    · exact absurd dynamic (by decide)
    · cases dynamic
    · omega
  · rintro ⟨elementType, positive⟩
    have updated := @inferDynamicUpdateSliceOp_eq_ok output (op.unitType output)
      (List.replicate output.rank indexType) (by rw [List.length_replicate, RankedTensorType.rank])
      (by rw [ScanOp.unitType, List.length_set]) (allHaveSameElType_replicate _)
      fun i operandDim updateDim operandFound updateFound => by
        obtain ⟨size', -, -, static⟩ := getElem?_sizes known operandFound
        exact ⟨static, ScanOp.unitType_le known found positive updateFound operandFound⟩
    refine ⟨reshapes.mpr elementType, rfl, ⟨_, updated, ?_⟩⟩
    exact isCompatible_self (by rw [unbounded]; rfl)

/-- The operations of the loop are verified exactly when there is a position, and the types that the
verifier of scans does not compare are the same. -/
theorem ScanOp.Verified.verifies_iff (verified : op.Verified) (static : op.HasStaticShapes)
    {loop : ScanLoop} (lowers : loop.Lowers op) (alike : op.OutputsAlike) :
    loop.Verifies ↔ 0 < op.scanSize ∧ op.TypesKept := by
  obtain ⟨inputsKnown, -, -, bodyResultsKnown, resultsKnown⟩ := static.known
  obtain ⟨counts, most⟩ := verified.counts
  have outputsLength : op.outputs.length = op.numScanOutputs := by
    rw [ScanOp.outputs, List.length_take, ScanOp.numScanOutputs]
    omega
  have takenLength : (op.bodyResults.take op.numScanOutputs).length = op.outputs.length := by
    rw [outputsLength, List.length_take, counts, ScanOp.numScanOutputs]
    omega
  have accs : op.bodyResults.drop (op.bodyResults.length - op.numCarries) =
      op.bodyResults.drop op.numScanOutputs := by rw [counts, ScanOp.numScanOutputs]
  have reshaped : loop.slices.map InputSlice.reshaped = op.inputs.map op.sliceType := by
    rw [lowers.slices, ScanOp.sliceInputs, List.map_map]
    rfl
  have updatedTypes : loop.updates.map OutputUpdate.output = op.outputs := by
    rw [lowers.updates, ScanOp.updateOutputs, List.map_map]
    exact List.map_fst_zip (by rw [outputsLength, counts, ScanOp.numScanOutputs]; omega)
  -- The steps of the turns, one by one.
  have sliced : ∀ input ∈ op.inputs, _ := fun input listed =>
    @ScanOp.sliceInput_verifies_iff op input (inputsKnown input listed)
      (static input (by simp [listed])).2 op.scanSize (verified.inputSizes static input listed)
  have written : ∀ (i : Nat) (output element : RankedTensorType), op.outputs[i]? = some output →
      op.bodyResults[i]? = some element →
      ((OutputUpdate.mk output element (op.unitType output)).Verifies ↔
        element.elementType = output.elementType ∧ 0 < op.scanSize) := by
    intro i output element found elementFound
    have listed := List.mem_of_mem_take (List.mem_of_getElem? found)
    exact ScanOp.updateOutput_verifies_iff (resultsKnown output listed)
      (static output (by simp [listed])).2
      (bodyResultsKnown element (List.mem_of_getElem? elementFound))
      (verified.outputs_spec static found elementFound).1
      (alike output (List.mem_of_getElem? found))
  have updates : (∀ step ∈ loop.updates, step.Verifies) ↔ ∀ (i : Nat)
      (output element : RankedTensorType), op.outputs[i]? = some output →
        op.bodyResults[i]? = some element → element.elementType = output.elementType ∧
          0 < op.scanSize := by
    rw [lowers.updates, ScanOp.updateOutputs, List.forall_mem_map]
    constructor
    · intro all i output element found elementFound
      have pair : (op.outputs.zip op.bodyResults)[i]? = some (output, element) :=
        List.getElem?_zip_eq_some.mpr ⟨found, elementFound⟩
      exact (written i output element found elementFound).mp (all _ (List.mem_of_getElem? pair))
    · rintro all ⟨output, element⟩ listed
      obtain ⟨i, pair⟩ := List.mem_iff_getElem?.mp listed
      obtain ⟨found, elementFound⟩ := List.getElem?_zip_eq_some.mp pair
      exact (written i output element found elementFound).mpr
        (all i output element found elementFound)
  have accsLength : op.inits.length = (op.bodyResults.drop op.numScanOutputs).length := by
    rw [List.length_drop, counts, ScanOp.numScanOutputs]
    rw [ScanOp.numCarries] at most ⊢
    omega
  -- What a turn returns is compared with the values of the loop, group by group.
  have returned : (loop.whileTypes.length = loop.yieldTypes.length ∧
      ∀ pair ∈ loop.whileTypes.zip loop.yieldTypes,
        isCompatibleForHloTypeInference pair.1 pair.2 = true) ↔
      ∀ pair ∈ op.inits.zip (op.bodyResults.drop op.numScanOutputs),
        isCompatibleForHloTypeInference pair.1 pair.2 = true := by
    rw [ScanLoop.whileTypes, ScanLoop.yieldTypes, lowers.inits, lowers.outputs, lowers.newAccs,
      accs, updatedTypes, List.cons_append, List.cons_append, List.zip_cons_cons,
      List.zip_append accsLength, List.length_cons, List.length_cons, List.length_append,
      List.length_append, accsLength]
    constructor
    · rintro ⟨-, all⟩ pair listed
      exact all pair (List.mem_cons_of_mem _ (List.mem_append_left _ listed))
    · refine fun all => ⟨rfl, List.forall_mem_cons.mpr ⟨by decide, fun pair listed => ?_⟩⟩
      rcases List.mem_append.mp listed with carry | output
      · exact all pair carry
      · -- The outputs keep their types.
        obtain ⟨place, found⟩ := List.mem_iff_getElem?.mp output
        obtain ⟨first, second⟩ := List.getElem?_zip_eq_some.mp found
        rw [first, Option.some.injEq] at second
        rw [← second]
        have member := List.mem_of_mem_take (List.mem_of_getElem? first)
        exact isCompatible_self (by rw [(static pair.1 (by simp [member])).2]; rfl)
  constructor
  · rintro ⟨slices, writes, arguments, returns⟩
    have steps := updates.mp writes
    rw [lowers.slices, ScanOp.sliceInputs, List.forall_mem_map] at slices
    refine ⟨?_, fun input listed => ((sliced input listed).mp (slices input listed)).1, ?_, ?_,
      returned.mp returns⟩
    · rcases verified.present with inputs | outputs
      · obtain ⟨input, listed⟩ := List.exists_mem_of_ne_nil _ inputs
        exact ((sliced input listed).mp (slices input listed)).2
      · have inside := List.length_pos_of_ne_nil outputs
        rw [← takenLength, List.length_take] at inside
        exact (steps 0 _ _ (List.getElem?_eq_getElem (List.length_pos_of_ne_nil outputs))
          (List.getElem?_eq_getElem (by omega))).2
    · rw [← lowers.bodyArguments, ← arguments, reshaped, lowers.inits]
    · refine List.ext_getElem (by rw [List.length_map, List.length_map, takenLength])
        fun i below other => ?_
      rw [List.length_map] at below other
      rw [List.getElem_map, List.getElem_map, List.getElem_take]
      rw [List.length_take] at below
      exact (steps i _ _ (List.getElem?_eq_getElem other)
        (List.getElem?_eq_getElem (by omega))).1
  · rintro ⟨positive, kept⟩
    refine ⟨?_, updates.mpr fun i output element found elementFound => ⟨?_, positive⟩, ?_,
      returned.mpr kept.carries⟩
    · rw [lowers.slices, ScanOp.sliceInputs, List.forall_mem_map]
      exact fun input listed => (sliced input listed).mpr ⟨kept.inputs input listed, positive⟩
    · have same := congrArg (·[i]?) kept.outputs
      obtain ⟨inside, _⟩ := List.getElem?_eq_some_iff.mp found
      simp only [List.getElem?_map, found, Option.map_some,
        List.getElem?_take_of_lt (outputsLength ▸ inside), elementFound, Option.some.injEq] at same
      exact same
    · rw [reshaped, lowers.inits, lowers.bodyArguments, kept.arguments]

end Verified

section Runs

variable {op : ScanOp} {loop : ScanLoop}

/-- A scalar can be repeated to any shape. -/
theorem broadcastInDimOp_constant {α : Type} (value : α) (shape : Sizes) :
    ∃ tensor, (Tensor.constant value).broadcastInDimOp [] shape = .ok tensor ∧
      tensor.shape = shape := by
  obtain ⟨tensor, built⟩ := @Tensor.build_eq_ok α shape _ fun index _ =>
    ⟨value, (rfl : (Tensor.constant value).get [] = .ok value)⟩
  exact ⟨tensor, built, (Tensor.build_spec built).1⟩

/-- Before the first turn, the counter is zero, and the outputs have their shapes. -/
theorem ScanLoop.Lowers.initialValues_eq (lowers : loop.Lowers op)
    (inits : List (Tensor Element)) : ∃ outputs, loop.initialValues inits =
      some ((indexScalar 0).elements :: inits ++ outputs) ∧ HaveShapes op.outputs outputs := by
  -- There is a zero for each output.
  have filled : ∀ (types : List RankedTensorType) (zeros : List Element),
      zeros.length = types.length → ∃ outputs, (types.zip zeros).mapM (fun pair =>
        ((Tensor.constant pair.2).broadcastInDimOp [] pair.1.sizes).toOption) = some outputs ∧
          HaveShapes types outputs := by
    intro types
    induction types with
    | nil =>
      intro zeros count
      exact ⟨[], rfl, rfl⟩
    | cons type types ih =>
      intro zeros count
      cases zeros with
      | nil => cases count
      | cons zero zeros =>
        obtain ⟨outputs, made, shapes⟩ := ih zeros (Nat.succ.inj count)
        obtain ⟨output, broadcast, shape⟩ := broadcastInDimOp_constant zero type.sizes
        refine ⟨output :: outputs, ?_, ?_⟩
        · rw [List.zip_cons_cons, List.mapM_cons]
          dsimp only
          rw [broadcast, made]
          rfl
        · rw [HaveShapes, List.map_cons, List.map_cons, shape, shapes]
  obtain ⟨outputs, made, shapes⟩ := filled op.outputs loop.zeros lowers.zeros
  refine ⟨outputs, ?_, shapes⟩
  rw [ScanLoop.initialValues, lowers.outputs]
  simp only [Option.bind_eq_bind]
  rw [made]
  rfl

/-- The size of the scan dimension as the loop has it, which is taken modulo 2 ^ 32. -/
theorem ScanLoop.Lowers.scanDimSize_toInt (lowers : loop.Lowers op)
    (static : op.HasStaticShapes) :
    loop.scanDimSize.toInt = (op.scanSize : Int).bmod (2 ^ 32) ∧ op.scanSize < 2 ^ 63 := by
  obtain ⟨number, got, same⟩ := lowers.scanDimSize
  obtain ⟨value, small⟩ := static.getScanDimensionSize_eq got
  refine ⟨?_, small⟩
  rw [same, BitVec.toInt_signExtend_of_le (by decide), value, BitVec.toInt_ofInt]

/-- A size of 32 bits is the one that the loop has. -/
theorem ScanLoop.Lowers.limit_eq (lowers : loop.Lowers op) (static : op.HasStaticShapes)
    (small : op.scanSize < 2 ^ 31) : loop.scanDimSize = BitVec.ofNat 64 op.scanSize := by
  obtain ⟨value, -⟩ := lowers.scanDimSize_toInt static
  apply BitVec.eq_of_toInt_eq
  rw [value, toInt_ofNat_of_lt small, Int.bmod_eq_of_le] <;> omega

/-- A loop whose types fit together does what the scan says. -/
theorem ScanLoop.Lowers.runsCorrectly (lowers : loop.Lowers op) (static : op.HasStaticShapes)
    (regular : op.Regular) : op.RunsCorrectly loop := by
  intro body inputs inits inputShapes initShapes
  obtain ⟨outputs, initial, outputShapes⟩ := lowers.initialValues_eq inits
  have length : op.positions.length = op.scanSize := by
    unfold ScanOp.positions
    split
    · rw [List.length_reverse, List.length_range]
    · exact List.length_range
  have runs := fun fuel => lowers.run_eq regular (lowers.limit_eq static regular.small) body
    inputShapes (show op.positions.drop 0 = op.positions from rfl) (by omega) initShapes
    outputShapes fuel
  cases scanned : op.scanFrom body.run inputs op.positions inits with
  | none =>
    intro fuel
    have run := runs fuel
    rw [scanned] at run
    rw [ScanLoop.eval, initial]
    simp only [Option.bind_eq_bind, Option.bind_some]
    dsimp only at run
    rw [show (0 : BitVec 64) = BitVec.ofNat 64 0 from rfl, run]
    rfl
  | some pair =>
    obtain ⟨steps, carries⟩ := pair
    intro fuel enough
    have run := runs fuel
    rw [scanned] at run
    obtain ⟨lastShapes, index, final, run, finalShapes, slabs⟩ := run (by omega)
    have carryCount : carries.length = op.inits.length := by
      have lengths := congrArg List.length lastShapes
      rwa [List.length_map, List.length_map] at lengths
    have outputCount : final.length = op.outputs.length := by
      have lengths := congrArg List.length finalShapes
      rwa [List.length_map, List.length_map] at lengths
    refine ⟨final, ?_, finalShapes, fun i output found => ⟨?_, fun step position stepFound =>
      (slabs i output found).1 step position stepFound⟩⟩
    · rw [ScanLoop.eval, initial]
      simp only [Option.bind_eq_bind, Option.bind_some]
      rw [show (0 : BitVec 64) = BitVec.ofNat 64 0 from rfl, run, Option.bind_some, length,
        lowers.inits, lowers.outputs, ← carryCount, ← outputCount, Nat.add_comm 1]
      -- The groups of the results are the carries and the outputs.
      show some (op.scanSize, (List.drop carries.length (carries ++ final)).take final.length,
        (carries ++ final).take carries.length) = _
      rw [List.drop_left, List.take_length, List.take_left]
    · have shape := congrArg (·[i]?) finalShapes
      simp only [List.getElem?_map, found, Option.map_some] at shape
      obtain ⟨type, typeFound, same⟩ := Option.map_eq_some_iff.mp shape.symm
      rw [← same]
      exact regular.outputSizes type (List.mem_of_getElem? typeFound)

/-- The counter counts the turns. -/
theorem ScanLoop.after_counts {body : List (Tensor Element) → Option (List (Tensor Element))}
    {inputs start state : List (Tensor Element)} {turns : Nat}
    (zero : start.head?.bind readIndex = some 0)
    (reached : WhileLoop.after (loop.turn body inputs) turns start = some state) :
    state.head?.bind readIndex = some (BitVec.ofNat 64 turns) := by
  induction turns generalizing state with
  | zero =>
    cases reached
    exact zero
  | succ turns ih =>
    rw [WhileLoop.after, Option.bind_eq_some_iff] at reached
    obtain ⟨before, earlier, taken⟩ := reached
    unfold ScanLoop.turn at taken
    rw [ih earlier] at taken
    simp only [Option.bind_eq_bind, Option.bind_eq_some_iff, Option.some.injEq] at taken
    obtain ⟨index, rfl, slices, -, results, -, updated, -, rfl⟩ := taken
    rw [List.cons_append, List.head?_cons, Option.bind_some, readIndex_indexScalar,
      BitVec.ofNat_add]
    rfl

/-- A loop that runs a turn for each of several positions has not lost any bits of their number. -/
theorem ScanLoop.Lowers.small_of_eval (lowers : loop.Lowers op) (static : op.HasStaticShapes)
    {body : List (Tensor Element) → Option (List (Tensor Element))}
    {inputs inits outputs carries : List (Tensor Element)} {fuel : Nat}
    (done : loop.eval body inputs inits fuel = some (op.scanSize, outputs, carries)) :
    op.scanSize < 2 ^ 31 := by
  obtain ⟨limit, small⟩ := lowers.scanDimSize_toInt static
  obtain ⟨initial, started, -⟩ := lowers.initialValues_eq inits
  rw [ScanLoop.eval, started] at done
  simp only [Option.bind_eq_bind, Option.bind_some, Option.bind_eq_some_iff,
    Option.some.injEq] at done
  obtain ⟨⟨count, results⟩, run, same⟩ := done
  have counted : count = op.scanSize := (Prod.mk.inj same).1
  rw [counted] at run
  cases size : op.scanSize with
  | zero => decide
  | succ turns =>
    rw [size] at run limit small
    -- The counter was below the size before the last turn.
    obtain ⟨before, reached, goes⟩ := WhileLoop.cond_of_run run
    have counted := ScanLoop.after_counts (by rfl) reached
    unfold ScanLoop.cond at goes
    rw [counted] at goes
    simp only [Option.bind_eq_bind, Option.bind_some, Option.some.injEq] at goes
    rw [BitVec.slt, decide_eq_true_eq, limit] at goes
    have value : (BitVec.ofNat 64 turns).toInt = turns := by
      rw [BitVec.toInt_eq_toNat_of_lt] <;> rw [BitVec.toNat_ofNat] <;> omega
    have below := @Int.bmod_lt ((turns + 1 : Nat) : Int) (2 ^ 32) (by decide)
    rw [value] at goes
    omega

/-- The body that returns the same whatever it is given. -/
def ScanBody.constant (op : ScanOp) (element : Element) : ScanBody op where
  run _ := some (op.bodyResults.map fun type => Tensor.makeSplat type.sizes element)
  shaped arguments results _ returned := by
    cases returned
    rw [HaveShapes, List.map_map]
    rfl

/-- A scan of a body that always returns comes to its end. -/
theorem ScanOp.scanFrom_constant {element : Element} {inputs : List (Tensor Element)}
    (sizes : ∀ input ∈ inputs, input.shape[op.dimension]? = some op.scanSize)
    {positions : List Nat} (inside : ∀ position ∈ positions, position < op.scanSize)
    (carries : List (Tensor Element)) : ∃ outcome,
      op.scanFrom (ScanBody.constant op element).run inputs positions carries = some outcome := by
  induction positions generalizing carries with
  | nil => exact ⟨_, rfl⟩
  | cons position positions ih =>
    obtain ⟨below, inside⟩ := List.forall_mem_cons.mp inside
    have slices : ∃ slices, inputs.mapM (fun input =>
        (input.slab op.dimension position).toOption) = some slices := by
      clear ih
      induction inputs with
      | nil => exact ⟨[], rfl⟩
      | cons input inputs ih =>
        obtain ⟨here, sizes⟩ := List.forall_mem_cons.mp sizes
        obtain ⟨slab, taken, -⟩ := Tensor.slab_eq here below
        obtain ⟨others, rest⟩ := ih sizes
        refine ⟨slab :: others, ?_⟩
        rw [List.mapM_cons, taken, rest]
        rfl
    obtain ⟨slices, taken⟩ := slices
    obtain ⟨⟨outputs, last⟩, rest⟩ := ih inside
      (List.drop op.numScanOutputs (op.bodyResults.map fun type =>
        Tensor.makeSplat type.sizes element))
    rw [ScanOp.scanFrom]
    simp only [Option.bind_eq_bind]
    rw [taken, Option.bind_some]
    show ∃ outcome, ((some _).bind _) = some outcome
    rw [Option.bind_some, rest]
    exact ⟨_, rfl⟩

/-- A loop that does what the scan says has outputs that are alike, and as many positions as 32 bits
can tell. -/
theorem ScanOp.RunsCorrectly.sizes (runs : op.RunsCorrectly loop) (lowers : loop.Lowers op)
    (verified : op.Verified) (static : op.HasStaticShapes) :
    op.OutputsAlike ∧ op.scanSize < 2 ^ 31 := by
  let element : Element := ⟨.integer .signless 1, .boolean false, rfl⟩
  let splats (types : List RankedTensorType) : List (Tensor Element) :=
    types.map fun type => Tensor.makeSplat type.sizes element
  have shapes : ∀ types, HaveShapes types (splats types) := by
    intro types
    show ((types.map _).map Tensor.shape) = _
    rw [List.map_map]
    rfl
  have inputSizes : ∀ input ∈ splats op.inputs,
      input.shape[op.dimension]? = some op.scanSize := by
    intro input listed
    obtain ⟨type, member, rfl⟩ := List.mem_map.mp listed
    exact verified.inputSizes static type member
  -- A body that always returns is run at every position.
  obtain ⟨⟨steps, carries⟩, scanned⟩ := @ScanOp.scanFrom_constant op element (splats op.inputs)
    inputSizes op.positions (fun _ listed => ScanOp.mem_positions.mp listed) (splats op.inits)
  have outcome := runs (ScanBody.constant op element) (splats op.inputs) (splats op.inits)
    (shapes _) (shapes _)
  rw [scanned] at outcome
  obtain ⟨outputs, evaluated, outputShapes, slabs⟩ := outcome (op.scanSize + 1) (by omega)
  refine ⟨fun type listed => ?_, lowers.small_of_eval static evaluated⟩
  obtain ⟨i, found⟩ := List.mem_iff_getElem?.mp listed
  have shape := congrArg (·[i]?) outputShapes
  simp only [List.getElem?_map, found, Option.map_some] at shape
  obtain ⟨output, outputFound, same⟩ := Option.map_eq_some_iff.mp shape
  rw [← same]
  exact (slabs i output outputFound).1

end Runs

section Lowered

/-- A scan with static shapes is lowered to a loop that is valid and does what the scan says exactly
when there are positions, their number is one of 32 bits, all outputs have as many, and the types
that the verifier of scans does not compare are the same. -/
theorem lowersCorrectly_iff {op : ScanOp} (verified : op.Verified) (static : op.HasStaticShapes)
    {getZeroAttr : StablehloType → Option Element} {loop : ScanLoop}
    (lowered : op.matchAndRewrite getZeroAttr = some loop) :
    op.LowersCorrectly loop ↔
      0 < op.scanSize ∧ op.scanSize < 2 ^ 31 ∧ op.OutputsAlike ∧ op.TypesKept := by
  have lowers := ScanOp.lowers_of_matchAndRewrite lowered
  constructor
  · rintro ⟨verifies, runs⟩
    obtain ⟨alike, small⟩ := runs.sizes lowers verified static
    obtain ⟨positive, kept⟩ := (verified.verifies_iff static lowers alike).mp verifies
    exact ⟨positive, small, alike, kept⟩
  · rintro ⟨positive, small, alike, kept⟩
    exact ⟨(verified.verifies_iff static lowers alike).mpr ⟨positive, kept⟩,
      lowers.runsCorrectly static (verified.regular static kept alike small)⟩

/-- The scan that adds up the numbers of a tensor, and returns the sums. -/
def sumScan (size : Int64) : ScanOp where
  inputs := [⟨[size], .integer .signless 32, none⟩]
  inits := [⟨[], .integer .signless 32, none⟩]
  dimension := 0
  scanDimSize := none
  isReverse := false
  bodyArguments := [⟨[], .integer .signless 32, none⟩, ⟨[], .integer .signless 32, none⟩]
  bodyResults := [⟨[], .integer .signless 32, none⟩, ⟨[], .integer .signless 32, none⟩]
  results := [⟨[size], .integer .signless 32, none⟩, ⟨[], .integer .signless 32, none⟩]

/-- The zero of the numbers of 32 bits. -/
def numberZero (_ : StablehloType) : Option Element :=
  some ⟨.integer .signless 32, .integer ⟨32, 0⟩, rfl⟩

/-- The sums of three numbers. -/
theorem lowersCorrectly_iff_sums : ∃ loop,
    (sumScan 3).matchAndRewrite numberZero = some loop ∧ (sumScan 3).LowersCorrectly loop := by
  refine ⟨_, rfl, (@lowersCorrectly_iff (sumScan 3) ⟨nofun, ⟨_, rfl, rfl, by decide⟩, rfl⟩
    (by decide) numberZero _ rfl).mpr ⟨by decide, by decide, by decide, ?_⟩⟩
  refine ⟨?_, rfl, rfl, by decide⟩
  intro input listed
  rw [List.eq_of_mem_singleton listed]
  exact nofun

/-- Without positions, the loop is no valid program, and with 2 ^ 31 positions, it takes no turn. -/
theorem scan_notLowered :
    ((sumScan 0).Verified ∧ (sumScan 0).HasStaticShapes ∧ ∃ loop,
      (sumScan 0).matchAndRewrite numberZero = some loop ∧ ¬ loop.Verifies) ∧
    (sumScan 2147483648).Verified ∧ (sumScan 2147483648).HasStaticShapes ∧ ∃ loop,
      (sumScan 2147483648).matchAndRewrite numberZero = some loop ∧
        ¬ (sumScan 2147483648).RunsCorrectly loop := by
  refine ⟨⟨⟨nofun, ⟨_, rfl, rfl, by decide⟩, rfl⟩, by decide, _, rfl, fun verifies => ?_⟩,
    ⟨nofun, ⟨_, rfl, rfl, by decide⟩, rfl⟩, by decide, _, rfl, fun runs => ?_⟩
  · -- A slice with one position does not fit.
    obtain ⟨_, sliced, -⟩ := (verifies.slices _ List.mem_cons_self).sliced
    cases sliced
  · have small := (runs.sizes (@ScanOp.lowers_of_matchAndRewrite _ numberZero _ rfl)
      ⟨nofun, ⟨_, rfl, rfl, by decide⟩, rfl⟩ (by decide)).2
    exact absurd small (by decide)

end Lowered

end Chlo

end Stablehlo
