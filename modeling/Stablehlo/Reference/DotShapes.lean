import Stablehlo.Dialect.DimensionChecks
import Stablehlo.Dialect.TypeInferenceSound
import Stablehlo.Reference.StaticShapes
import Stablehlo.Support.AxisMap

/-! The shapes of general products of static types. -/

namespace Stablehlo

section Dimensions

/-- The axes of a general product: distinct ones of each operand, with the same sizes in both. -/
structure DotAxes (lhs rhs : Sizes) (lhsBatchingDims rhsBatchingDims lhsContractingDims
    rhsContractingDims : List Nat) : Prop where
  lhsUnique : (lhsBatchingDims ++ lhsContractingDims).Nodup
  rhsUnique : (rhsBatchingDims ++ rhsContractingDims).Nodup
  lhsBelow : ∀ axis ∈ lhsBatchingDims ++ lhsContractingDims, axis < lhs.length
  rhsBelow : ∀ axis ∈ rhsBatchingDims ++ rhsContractingDims, axis < rhs.length
  batching : lhsBatchingDims.map (sizeAt lhs) = rhsBatchingDims.map (sizeAt rhs)
  contracting : lhsContractingDims.map (sizeAt lhs) = rhsContractingDims.map (sizeAt rhs)

/-- The sizes of a general product. -/
def dotShape (lhs rhs : Sizes) (lhsBatchingDims rhsBatchingDims lhsContractingDims
    rhsContractingDims : List Nat) : Sizes :=
  lhsBatchingDims.map (sizeAt lhs) ++
    (AxisMap.rest (lhsBatchingDims ++ lhsContractingDims) lhs.length).map (sizeAt lhs) ++
    (AxisMap.rest (rhsBatchingDims ++ rhsContractingDims) rhs.length).map (sizeAt rhs)

theorem checkDimsInRange_eq_ok {dims : List Int64} {rank : Nat} {dimName : String} :
    checkDimsInRange rank dims dimName = .ok () ↔ ∀ dim ∈ dims, isDimInBounds rank dim = true := by
  have same : checkDimsInRange rank dims dimName = .ok () ↔
      checkDimsInBounds dims rank dimName dimName = .ok () := by
    unfold checkDimsInRange checkDimsInBounds isDimInBounds
    cases dims.find? fun dim => !(0 ≤ dim.toInt && dim.toInt < (rank : Int)) <;> simp
  rw [same, checkDimsInBounds_eq_ok]

variable {lhsType rhsType : RankedTensorType} {lhs rhs : ShapedType}
variable {lhsBatching rhsBatching lhsContracting rhsContracting : List Int64}

/-- The size of a dimension of a static type is known. -/
theorem toInt_dimSize {type : RankedTensorType} {shaped : ShapedType}
    (static : type.IsStatic shaped) {dim : Int64} (inBounds : isDimInBounds type.rank dim = true) :
    (type.dimSize dim).toInt = sizeAt shaped.shape dim.toNatClampNeg := by
  have below : dim.toNatClampNeg < type.shape.length := (toInt_of_isDimInBounds inBounds).2
  obtain ⟨size, stored, value⟩ := getElem?_of_known static.1 (List.getElem?_eq_getElem below)
  rw [RankedTensorType.dimSize, sizeAt, List.getD_eq_getElem?_getD, List.getD_eq_getElem?_getD,
    stored, List.getElem?_eq_getElem below]
  exact value

/-- Dimensions that are compatible in pairs have the same sizes. -/
theorem map_sizeAt_axes (lhsStatic : lhsType.IsStatic lhs) (rhsStatic : rhsType.IsStatic rhs)
    {lhsDims rhsDims : List Int64} (count : lhsDims.length = rhsDims.length)
    (lhsInBounds : ∀ dim ∈ lhsDims, isDimInBounds lhsType.rank dim = true)
    (rhsInBounds : ∀ dim ∈ rhsDims, isDimInBounds rhsType.rank dim = true)
    (compatible : (lhsDims.zip rhsDims).all (fun (dims : Int64 × Int64) =>
      verifyCompatibleDims (lhsType.dimSize dims.1) (rhsType.dimSize dims.2)) = true) :
    (axes lhsDims).map (sizeAt lhs.shape) = (axes rhsDims).map (sizeAt rhs.shape) := by
  rw [axes, axes, List.map_map, List.map_map]
  refine List.ext_getElem (by simpa using count) fun i lhsLong rhsLong => ?_
  rw [List.length_map] at lhsLong rhsLong
  -- The dimensions at one place are compared with each other.
  have pair : (lhsDims[i], rhsDims[i]) ∈ lhsDims.zip rhsDims :=
    List.mem_iff_getElem.mpr ⟨i, by rw [List.length_zip]; omega, List.getElem_zip⟩
  have alike := List.all_eq_true.mp compatible _ pair
  rw [List.getElem_map, List.getElem_map]
  exact eq_of_verifyCompatibleDims
    (toInt_dimSize lhsStatic (lhsInBounds _ (List.getElem_mem lhsLong)))
    (toInt_dimSize rhsStatic (rhsInBounds _ (List.getElem_mem rhsLong))) alike

/-- The dimension numbers of a general product are verified. -/
theorem dotAxes_of_checked {precisionConfig : Option Nat} (lhsStatic : lhsType.IsStatic lhs)
    (rhsStatic : rhsType.IsStatic rhs)
    (checked : checkDotGeneralConstraints lhsType rhsType lhsBatching rhsBatching lhsContracting
      rhsContracting precisionConfig = .ok ()) :
    lhsBatching.length = rhsBatching.length ∧
      (∀ dim ∈ lhsBatching ++ lhsContracting, isDimInBounds lhsType.rank dim = true) ∧
      (∀ dim ∈ rhsBatching ++ rhsContracting, isDimInBounds rhsType.rank dim = true) ∧
      DotAxes lhs.shape rhs.shape (axes lhsBatching) (axes rhsBatching) (axes lhsContracting)
        (axes rhsContracting) := by
  unfold checkDotGeneralConstraints at checked
  obtain ⟨_, -, checked⟩ := Fallible.bind_eq_ok.mp checked
  split at checked
  · cases checked
  next batchCount =>
  split at checked
  · cases checked
  next contractCount =>
  simp only [bne_iff_ne, ne_eq, not_not] at batchCount contractCount
  obtain ⟨_, lhsDistinct, checked⟩ := Fallible.bind_eq_ok.mp checked
  obtain ⟨_, rhsDistinct, checked⟩ := Fallible.bind_eq_ok.mp checked
  obtain ⟨_, lhsBatch, checked⟩ := Fallible.bind_eq_ok.mp checked
  obtain ⟨_, lhsContract, checked⟩ := Fallible.bind_eq_ok.mp checked
  obtain ⟨_, rhsBatch, checked⟩ := Fallible.bind_eq_ok.mp checked
  obtain ⟨_, rhsContract, checked⟩ := Fallible.bind_eq_ok.mp checked
  rw [checkDimsInRange_eq_ok] at lhsBatch lhsContract rhsBatch rhsContract
  rw [checkDimsDistinct_eq_ok] at lhsDistinct rhsDistinct
  dsimp only at checked
  split at checked
  · cases checked
  next batchSizes =>
  split at checked
  · cases checked
  next contractSizes =>
  simp only [Bool.not_eq_true', Bool.not_eq_false] at batchSizes contractSizes
  have lhsInBounds := List.forall_mem_append.mpr ⟨lhsBatch, lhsContract⟩
  have rhsInBounds := List.forall_mem_append.mpr ⟨rhsBatch, rhsContract⟩
  have lhsRank : lhsType.rank = lhs.shape.length := length_of_known lhsStatic.1
  have rhsRank : rhsType.rank = rhs.shape.length := length_of_known rhsStatic.1
  refine ⟨batchCount, lhsInBounds, rhsInBounds, ?_, ?_, fun axis listed => ?_,
    fun axis listed => ?_, ?_, ?_⟩
  · rw [← axes_append]
    exact nodup_axes lhsDistinct lhsInBounds
  · rw [← axes_append]
    exact nodup_axes rhsDistinct rhsInBounds
  · rw [← axes_append] at listed
    rw [← lhsRank]
    exact axes_lt lhsInBounds listed
  · rw [← axes_append] at listed
    rw [← rhsRank]
    exact axes_lt rhsInBounds listed
  · exact map_sizeAt_axes lhsStatic rhsStatic batchCount lhsBatch rhsBatch batchSizes
  · exact map_sizeAt_axes lhsStatic rhsStatic contractCount lhsContract rhsContract contractSizes

end Dimensions

section Shape

variable {lhsType rhsType : RankedTensorType} {lhs rhs : ShapedType}
variable {lhsBatching rhsBatching lhsContracting rhsContracting : List Int64}

/-- A dimension that is looked up in a static type has a known size. -/
theorem toInt_of_dimAndBound {type : RankedTensorType} {shaped : ShapedType}
    (static : type.IsStatic shaped) {dim : Nat} {dimAndBound : DimAndBound}
    (found : type.dimAndBound dim = .ok dimAndBound) :
    dimAndBound.1.toInt = sizeAt shaped.shape dim := by
  unfold RankedTensorType.dimAndBound at found
  split at found
  · next present =>
    cases found
    obtain ⟨here, -⟩ := List.getElem?_zip_eq_some.mp present
    obtain ⟨size, stored, value⟩ := getElem?_of_known static.1 here
    rw [sizeAt, List.getD_eq_getElem?_getD, stored]
    exact value
  · cases found

/-- The sizes of dimensions that are looked up are known. -/
theorem map_toInt_of_mapM {type : RankedTensorType} {shaped : ShapedType}
    (static : type.IsStatic shaped) {dims : List Nat} {found : List DimAndBound}
    (selected : dims.mapM type.dimAndBound = .ok found) :
    (found.map fun dim => dim.1.toInt) = (dims.map (sizeAt shaped.shape)).map Nat.cast := by
  rw [Fallible.mapM_eq_ok_iff] at selected
  induction selected with
  | nil => rfl
  | cons here _ ih => rw [List.map_cons, List.map_cons, List.map_cons, ih,
      toInt_of_dimAndBound static here]

/-- Known sizes that are merged are those of the left-hand side. -/
theorem toInt_of_inferMostSpecificDimAndBound {i : Nat} {left right merged : DimAndBound}
    {size : Nat} (known : left.1.toInt = size)
    (inferred : inferMostSpecificDimAndBound i left.1 right.1 left.2 right.2 = .ok merged) :
    merged.1.toInt = size := by
  simp only [inferMostSpecificDimAndBound, isDynamicDimSize_of_natCast known, Bool.not_false,
    Bool.true_or, if_true] at inferred
  -- Neither sizes nor bounds that do not match are merged.
  split_ifs at inferred
  all_goals
    cases inferred
    exact known

/-- The sizes of batching dimensions are those of the left-hand side. -/
theorem map_toInt_of_inferBatchingDims (static : lhsType.IsStatic lhs) {i : Nat}
    {lhsDims rhsDims : List Int64} (count : lhsDims.length = rhsDims.length)
    {dims : List DimAndBound}
    (inferred : inferBatchingDims lhsType rhsType i lhsDims rhsDims = .ok dims) :
    (dims.map fun dim => dim.1.toInt) =
      ((axes lhsDims).map (sizeAt lhs.shape)).map Nat.cast := by
  induction lhsDims generalizing i rhsDims dims with
  | nil =>
    cases inferred
    rfl
  | cons lhsDim lhsDims ih =>
    obtain _ | ⟨rhsDim, rhsDims⟩ := rhsDims
    · cases count
    obtain ⟨left, leftFound, inferred⟩ := Fallible.bind_eq_ok.mp inferred
    obtain ⟨right, -, inferred⟩ := Fallible.bind_eq_ok.mp inferred
    obtain ⟨merged, head, inferred⟩ := Fallible.bind_eq_ok.mp inferred
    obtain ⟨rest, tail, rfl⟩ := bind_ok_eq_ok inferred
    have here := toInt_of_inferMostSpecificDimAndBound (toInt_of_dimAndBound static leftFound) head
    rw [List.map_cons, here, ih (by simpa using count) tail]
    rfl

/-- The dimensions of the result are those of the axes that are neither batched nor contracted. -/
theorem resultDims_eq {rank : Nat} {batching contracting : List Int64}
    (inBounds : ∀ dim ∈ batching ++ contracting, isDimInBounds rank dim = true) :
    resultDims rank batching contracting =
      AxisMap.rest (axes batching ++ axes contracting) rank := by
  obtain ⟨batch, contract⟩ := List.forall_mem_append.mp inBounds
  refine List.filter_congr fun axis _ => ?_
  rw [any_toInt_beq batch, any_toInt_beq contract, List.contains_eq_mem, List.contains_eq_mem,
    List.contains_eq_mem]
  simp

/-- An accepted product of static types has known sizes. -/
theorem dotAxes_of_inferred {precisionConfig : Option Nat} {inferred : ShapedTypeComponents}
    {resultShape : Sizes} (lhsStatic : lhsType.IsStatic lhs) (rhsStatic : rhsType.IsStatic rhs)
    (accepted : inferDotGeneralOp lhsType rhsType lhsBatching rhsBatching lhsContracting
      rhsContracting precisionConfig = .ok inferred)
    (known : inferred.dims.map Int64.toInt = resultShape.map Nat.cast) :
    DotAxes lhs.shape rhs.shape (axes lhsBatching) (axes rhsBatching) (axes lhsContracting)
        (axes rhsContracting) ∧
      resultShape = dotShape lhs.shape rhs.shape (axes lhsBatching) (axes rhsBatching)
        (axes lhsContracting) (axes rhsContracting) := by
  unfold inferDotGeneralOp at accepted
  obtain ⟨_, checked, accepted⟩ := Fallible.bind_eq_ok.mp accepted
  obtain ⟨batching, batched, accepted⟩ := Fallible.bind_eq_ok.mp accepted
  obtain ⟨lhsDims, lhsSelected, accepted⟩ := Fallible.bind_eq_ok.mp accepted
  obtain ⟨rhsDims, rhsSelected, accepted⟩ := Fallible.bind_eq_ok.mp accepted
  obtain ⟨encoding, -, rfl⟩ := bind_ok_eq_ok accepted
  obtain ⟨count, lhsInBounds, rhsInBounds, dims⟩ := dotAxes_of_checked lhsStatic rhsStatic checked
  refine ⟨dims, ?_⟩
  have lhsRank : lhsType.rank = lhs.shape.length := length_of_known lhsStatic.1
  have rhsRank : rhsType.rank = rhs.shape.length := length_of_known rhsStatic.1
  rw [resultDims_eq lhsInBounds, lhsRank] at lhsSelected
  rw [resultDims_eq rhsInBounds, rhsRank] at rhsSelected
  -- The sizes of all dimensions were looked up.
  have cast : Function.Injective (Nat.cast : Nat → Int) := fun _ _ same => Int.ofNat.inj same
  apply List.map_injective_iff.mpr cast
  rw [← known, dotShape, List.map_map, List.map_append, List.map_append, List.map_append,
    List.map_append, ← map_toInt_of_inferBatchingDims lhsStatic count batched,
    ← map_toInt_of_mapM lhsStatic lhsSelected, ← map_toInt_of_mapM rhsStatic rhsSelected]
  rfl

end Shape

end Stablehlo
