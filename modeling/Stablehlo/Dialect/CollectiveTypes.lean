import Stablehlo.Dialect.Gather
import Stablehlo.Dialect.ReducerShape

/-! The verifiers of collectives whose results differ from their operands in one dimension. -/

namespace Stablehlo

open TypePrinter

/-- Verify replica groups that are given as a tensor, or as the axes of a mesh. -/
def verifyReplicaGroupsAttr (replicaGroups : Option DenseIntElementsAttr)
    (allGroupsMustHaveSameSize useGlobalDeviceIds : Bool) (expectedGroupSize : Option Nat) :
    Except InferenceFailure Unit :=
  match replicaGroups with
  -- Nothing is required of the axes of a mesh.
  | none => .ok ()
  | some denseGroups =>
    (verifyReplicaGroups denseGroups allGroupsMustHaveSameSize useGlobalDeviceIds
      expectedGroupSize).mapError .error

/-- The first dimension besides the given one where the sizes of two types differ for sure. -/
def mismatchedDim (dimension : Nat) (type1 type2 : RankedTensorType) : Option Nat :=
  (List.range type1.rank).find? fun i => i != dimension &&
    !verifyCompatibleDims (type1.shape.getD i kDynamic) (type2.shape.getD i kDynamic)

/-- The size of a dimension is not known for one of the types. -/
def eitherDynamic (dimension : Nat) (type1 type2 : RankedTensorType) : Bool :=
  isDynamicDimSize (type1.shape.getD dimension kDynamic) ||
    isDynamicDimSize (type2.shape.getD dimension kDynamic)

/-- Verify the operands and results of an all-gather. -/
def verifyAllGatherPairs (allGatherDim : Nat) :
    List (RankedTensorType × RankedTensorType) → Except InferenceFailure Unit
  | [] => .ok ()
  | (operandType, resultType) :: pairs => do
    require (allGatherDim < operandType.rank) "all_gather_dim must be a valid index of operand"
    let operandDimSize := operandType.shape.getD allGatherDim kDynamic
    require (operandDimSize != 0) "dimension size of operand at 'all_gather_dim' cannot be zero"
    require (resultType.rank == operandType.rank) "operand and result must have the same rank"
    require (mismatchedDim allGatherDim operandType resultType).isNone
      ("operand and result should have the same shape except for the dimension size at " ++
        "'all_gather_dim'")
    -- The source returns here, without a look at the operands that are left.
    if eitherDynamic allGatherDim operandType resultType then .ok () else do
      let resultDimSize := resultType.shape.getD allGatherDim kDynamic
      require (resultDimSize.toInt.tmod operandDimSize.toInt == 0)
        (s!"result gather dimension has size {resultDimSize}, expected to be a multiple of " ++
          s!"operand gather dimension size {operandDimSize}")
      verifyAllGatherPairs allGatherDim pairs

/-- Verify an all-gather. -/
def verifyAllGatherOp (pairs : List (RankedTensorType × RankedTensorType)) (allGatherDim : Nat)
    (replicaGroups : Option DenseIntElementsAttr) (channelId : Int64)
    (useGlobalDeviceIds : Bool) : Except InferenceFailure Unit := do
  verifyReplicaGroupsAttr replicaGroups true useGlobalDeviceIds none
  require (!(useGlobalDeviceIds && channelId < 0))
    "channel_id cannot be negative when useGlobalDeviceIds is set"
  verifyAllGatherPairs allGatherDim pairs

/-- The element type of what a computation returns first. -/
def accumulatorElementType (block : ReducerBlock) : Except InferenceFailure StablehloType :=
  match block.returnTypes with
  | some (type :: _) =>
    match type.shaped with
    | some (_, elementType) => .ok elementType
    -- The cast to a shaped type is not checked.
    | none => .error .undefinedBehavior
  | _ => .error .undefinedBehavior

/-- Verify a reduce-scatter. -/
def verifyReduceScatterOp [TypePrinter] (operandType : RankedTensorType) (scatterDimension : Nat)
    (replicaGroups : Option DenseIntElementsAttr) (channelId : Int64) (useGlobalDeviceIds : Bool)
    (computation : ReducerBlock) (resultType : RankedTensorType) :
    Except InferenceFailure Unit := do
  verifyReplicaGroupsAttr replicaGroups true useGlobalDeviceIds none
  verifyReducerShape computation [operandType.toType]
    [.rankedTensor [] operandType.elementType none] []
  require (operandType.rank == resultType.rank) "operand and result should have same rank"
  require (scatterDimension < operandType.rank)
    "scatter dim should be less than operand/result rank"
  require (!(useGlobalDeviceIds && channelId ≤ 0))
    s!"channel_id must be positive when useGlobalDeviceIds is set but got: {channelId}"
  -- The source returns here, without a look at the other dimensions and the element type.
  if eitherDynamic scatterDimension operandType resultType then .ok () else do
    let operandScatterDimSize := operandType.shape.getD scatterDimension kDynamic
    let resultScatterDimSize := resultType.shape.getD scatterDimension kDynamic
    require (resultScatterDimSize != 0)
      "result dimension size at scatter_dimension cannot be zero"
    require (operandScatterDimSize != 0)
      "operand dimension size at scatter_dimension cannot be zero"
    require (operandScatterDimSize.toInt.tmod resultScatterDimSize.toInt == 0)
      (s!"operand scatter dimension has size {operandScatterDimSize}, expected to be a " ++
        s!"multiple of result scatter dimension size {resultScatterDimSize}")
    match mismatchedDim scatterDimension operandType resultType with
    | some index =>
      let operandDimSize := operandType.shape.getD index kDynamic
      let resultDimSize := resultType.shape.getD index kDynamic
      .error (.error (s!"non scatter dimensions should be same for operand ({operandDimSize}) " ++
        s!"and result ({resultDimSize})"))
    | none => do
      let elementType ← accumulatorElementType computation
      let expected := debugString elementType
      let got := debugString resultType.elementType
      require (resultType.elementType == elementType)
        s!"result element-type is expected to be {expected}, but got {got}"

section AllGather

variable {allGatherDim : Nat} {pair : RankedTensorType × RankedTensorType}
  {pairs : List (RankedTensorType × RankedTensorType)}
  {replicaGroups : Option DenseIntElementsAttr} {channelId : Int64} {useGlobalDeviceIds : Bool}

/-- What is required of an operand and its result. -/
structure GatherPairFits (allGatherDim : Nat) (operandType resultType : RankedTensorType) : Prop where
  dim : allGatherDim < operandType.rank
  nonzero : operandType.shape.getD allGatherDim kDynamic ≠ 0
  rank : resultType.rank = operandType.rank
  others : mismatchedDim allGatherDim operandType resultType = none
  multiple : eitherDynamic allGatherDim operandType resultType = true ∨
    (resultType.shape.getD allGatherDim kDynamic).toInt.tmod
      (operandType.shape.getD allGatherDim kDynamic).toInt = 0

/-- An operand and its result are looked at, and then those that are left, when the gather dimension
is known. -/
theorem verifyAllGatherPairs_cons : verifyAllGatherPairs allGatherDim (pair :: pairs) = .ok () ↔
    GatherPairFits allGatherDim pair.1 pair.2 ∧ (eitherDynamic allGatherDim pair.1 pair.2 = true ∨
      verifyAllGatherPairs allGatherDim pairs = .ok ()) := by
  obtain ⟨operandType, resultType⟩ := pair
  rw [verifyAllGatherPairs, Fallible.check_bind_eq_ok, Fallible.check_bind_eq_ok,
    Fallible.check_bind_eq_ok, Fallible.check_bind_eq_ok]
  simp only [require_eq_ok, decide_eq_true_eq, bne_iff_ne, beq_iff_eq, Option.isNone_iff_eq_none]
  constructor
  · rintro ⟨dim, nonzero, rank, others, rest⟩
    split at rest
    · next dynamic =>
      exact ⟨⟨dim, nonzero, rank, others, .inl dynamic⟩, .inl dynamic⟩
    · next known =>
      obtain ⟨multiple, rest⟩ := Fallible.check_bind_eq_ok.mp rest
      rw [require_eq_ok, beq_iff_eq] at multiple
      exact ⟨⟨dim, nonzero, rank, others, .inr multiple⟩, .inr rest⟩
  · rintro ⟨⟨dim, nonzero, rank, others, multiple⟩, rest⟩
    refine ⟨dim, nonzero, rank, others, ?_⟩
    split
    · rfl
    · next known =>
      -- Neither of the sizes is dynamic.
      have multiple := multiple.resolve_left known
      have rest := rest.resolve_left known
      rw [Fallible.check_bind_eq_ok, require_eq_ok, beq_iff_eq]
      exact ⟨multiple, rest⟩

/-- A single operand and its result are accepted when they fit. -/
theorem verifyAllGatherPairs_single : verifyAllGatherPairs allGatherDim [pair] = .ok () ↔
    GatherPairFits allGatherDim pair.1 pair.2 := by
  rw [verifyAllGatherPairs_cons]
  exact and_iff_left (.inr rfl)

/-- Operands and results that fit are accepted. -/
theorem verifyAllGatherPairs_of_fits
    (fits : ∀ pair ∈ pairs, GatherPairFits allGatherDim pair.1 pair.2) :
    verifyAllGatherPairs allGatherDim pairs = .ok () := by
  induction pairs with
  | nil => rfl
  | cons pair pairs ih =>
    rw [List.forall_mem_cons] at fits
    exact verifyAllGatherPairs_cons.mpr ⟨fits.1, .inr (ih fits.2)⟩

/-- Accepted operands and results fit when no gather dimension in front of them is dynamic. -/
theorem fits_of_verifyAllGatherPairs {before after : List (RankedTensorType × RankedTensorType)}
    (known : ∀ earlier ∈ before, eitherDynamic allGatherDim earlier.1 earlier.2 = false)
    (accepted : verifyAllGatherPairs allGatherDim (before ++ pair :: after) = .ok ()) :
    GatherPairFits allGatherDim pair.1 pair.2 := by
  induction before with
  | nil => exact (verifyAllGatherPairs_cons.mp accepted).1
  | cons earlier before ih =>
    rw [List.forall_mem_cons] at known
    rw [List.cons_append, verifyAllGatherPairs_cons] at accepted
    -- The loop goes on behind sizes that are known.
    rcases accepted.2 with dynamic | rest
    · rw [known.1] at dynamic
      cases dynamic
    · exact ih known.2 rest

/-- An all-gather is accepted when its attributes are, and its operands and results. -/
theorem verifyAllGatherOp_eq_ok :
    verifyAllGatherOp pairs allGatherDim replicaGroups channelId useGlobalDeviceIds = .ok () ↔
      (verifyReplicaGroupsAttr replicaGroups true useGlobalDeviceIds none = .ok () ∧
        (useGlobalDeviceIds && channelId < 0) = false) ∧
        verifyAllGatherPairs allGatherDim pairs = .ok () := by
  rw [verifyAllGatherOp, Fallible.check_bind_eq_ok, Fallible.check_bind_eq_ok, require_eq_ok,
    Bool.not_eq_true', and_assoc]

end AllGather

/-- The sizes of two types do not differ for sure in any other dimension. -/
theorem mismatchedDim_eq_none {dimension : Nat} {type1 type2 : RankedTensorType} :
    mismatchedDim dimension type1 type2 = none ↔ ∀ i < type1.rank, i ≠ dimension →
      verifyCompatibleDims (type1.shape.getD i kDynamic) (type2.shape.getD i kDynamic) = true := by
  rw [mismatchedDim, List.find?_eq_none]
  simp only [List.mem_range, Bool.and_eq_true, bne_iff_ne, Bool.not_eq_true', not_and,
    Bool.not_eq_false]

section ReduceScatter

variable [TypePrinter]

/-- Accepted operands and results of a reduce-scatter have the same rank. When the scatter dimension
is known for both, the element type is the one of the computation, and no other size differs. -/
theorem verifyReduceScatterOp_spec {operandType resultType : RankedTensorType}
    {scatterDimension : Nat} {replicaGroups : Option DenseIntElementsAttr} {channelId : Int64}
    {useGlobalDeviceIds : Bool} {computation : ReducerBlock}
    (accepted : verifyReduceScatterOp operandType scatterDimension replicaGroups channelId
      useGlobalDeviceIds computation resultType = .ok ()) :
    operandType.rank = resultType.rank ∧
      (eitherDynamic scatterDimension operandType resultType = false →
        accumulatorElementType computation = .ok resultType.elementType ∧
          ∀ i < operandType.rank, i ≠ scatterDimension → verifyCompatibleDims
            (operandType.shape.getD i kDynamic) (resultType.shape.getD i kDynamic) = true) := by
  obtain ⟨-, accepted⟩ := Fallible.check_bind_eq_ok.mp accepted
  obtain ⟨-, accepted⟩ := Fallible.check_bind_eq_ok.mp accepted
  obtain ⟨rank, accepted⟩ := Fallible.check_bind_eq_ok.mp accepted
  obtain ⟨-, accepted⟩ := Fallible.check_bind_eq_ok.mp accepted
  obtain ⟨-, accepted⟩ := Fallible.check_bind_eq_ok.mp accepted
  rw [require_eq_ok, beq_iff_eq] at rank
  refine ⟨rank, fun known => ?_⟩
  rw [known, if_neg Bool.false_ne_true] at accepted
  obtain ⟨-, accepted⟩ := Fallible.check_bind_eq_ok.mp accepted
  obtain ⟨-, accepted⟩ := Fallible.check_bind_eq_ok.mp accepted
  obtain ⟨-, accepted⟩ := Fallible.check_bind_eq_ok.mp accepted
  split at accepted
  · cases accepted
  · next same =>
    obtain ⟨elementType, returned, accepted⟩ := Fallible.bind_eq_ok.mp accepted
    rw [require_eq_ok, beq_iff_eq] at accepted
    exact ⟨accepted ▸ returned, mismatchedDim_eq_none.mp same⟩

end ReduceScatter

/-- An all-gather is accepted when each operand is accepted with its result, and then each of them
is, up to the first with a dynamic gather dimension. A reduce-scatter with other ranks is rejected,
and so is one with another element type than that of its computation, or with another size besides
that of the scatter dimension, when this dimension is known. -/
theorem verifyCollectives_spec [TypePrinter]
    {pairs : List (RankedTensorType × RankedTensorType)} {operandType resultType : RankedTensorType}
    {allGatherDim scatterDimension : Nat} {replicaGroups : Option DenseIntElementsAttr}
    {channelId : Int64} {useGlobalDeviceIds : Bool} {computation : ReducerBlock} :
    (pairs ≠ [] →
      (∀ pair ∈ pairs, verifyAllGatherOp [pair] allGatherDim replicaGroups channelId
        useGlobalDeviceIds = .ok ()) →
      verifyAllGatherOp pairs allGatherDim replicaGroups channelId useGlobalDeviceIds = .ok ()) ∧
    (verifyAllGatherOp pairs allGatherDim replicaGroups channelId useGlobalDeviceIds = .ok () →
      ∀ before pair after, pairs = before ++ pair :: after →
        (∀ earlier ∈ before, eitherDynamic allGatherDim earlier.1 earlier.2 = false) →
          verifyAllGatherOp [pair] allGatherDim replicaGroups channelId useGlobalDeviceIds =
            .ok ()) ∧
    (verifyReduceScatterOp operandType scatterDimension replicaGroups channelId useGlobalDeviceIds
        computation resultType = .ok () →
      operandType.rank = resultType.rank ∧
        (eitherDynamic scatterDimension operandType resultType = false →
          accumulatorElementType computation = .ok resultType.elementType ∧
            ∀ i < operandType.rank, i ≠ scatterDimension → verifyCompatibleDims
              (operandType.shape.getD i kDynamic) (resultType.shape.getD i kDynamic) = true)) := by
  refine ⟨fun some each => ?_, fun accepted before pair after split known => ?_,
    verifyReduceScatterOp_spec⟩
  · -- The attributes are accepted together with the first operand.
    obtain ⟨first, listed⟩ := List.exists_mem_of_ne_nil pairs some
    have attributes := (verifyAllGatherOp_eq_ok.mp (each first listed)).1
    refine verifyAllGatherOp_eq_ok.mpr ⟨attributes, verifyAllGatherPairs_of_fits ?_⟩
    exact fun pair listed =>
      verifyAllGatherPairs_single.mp (verifyAllGatherOp_eq_ok.mp (each pair listed)).2
  · rw [split, verifyAllGatherOp_eq_ok] at accepted
    exact verifyAllGatherOp_eq_ok.mpr ⟨accepted.1,
      verifyAllGatherPairs_single.mpr (fits_of_verifyAllGatherPairs known accepted.2)⟩

/-- A computation that adds up floats with more precision than those of the operand. -/
def promotingBlock : ReducerBlock where
  parameterTypes := [.rankedTensor [] (.float .ieeeDouble) none,
    .rankedTensor [] (.float .ieeeDouble) none]
  returnTypes := some [.rankedTensor [] (.float .ieeeDouble) none]

/-- One operand of an all-gather, and a reduce-scatter with more precision. -/
theorem verifyCollectives_pair :
    verifyAllGatherOp [(⟨[2], .float .ieeeSingle, none⟩, ⟨[4], .float .ieeeSingle, none⟩)] 0 none 0
        false = .ok () ∧
      accumulatorElementType promotingBlock = .ok (.float .ieeeDouble) := by
  obtain ⟨accepts, -, spec⟩ := @verifyCollectives_spec plainPrinter
    [(⟨[2], .float .ieeeSingle, none⟩, ⟨[4], .float .ieeeSingle, none⟩)]
    ⟨[4], .float .ieeeSingle, none⟩ ⟨[2], .float .ieeeDouble, none⟩ 0 0 none 0 false
    promotingBlock
  exact ⟨accepts (by simp) (by simp; rfl), ((spec rfl).2 rfl).1⟩

/-- A reduce-scatter is accepted although the element type of its result is not the one of its
operand. -/
theorem verifyReduceScatterOp_promoting :
    @verifyReduceScatterOp plainPrinter ⟨[4], .float .ieeeSingle, none⟩ 0 none 0 false
        promotingBlock ⟨[2], .float .ieeeDouble, none⟩ = .ok () ∧
      StablehloType.float .ieeeSingle ≠ .float .ieeeDouble :=
  ⟨rfl, by simp⟩

end Stablehlo
