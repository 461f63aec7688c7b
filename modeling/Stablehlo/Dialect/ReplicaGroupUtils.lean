import Mathlib.Algebra.Order.BigOperators.GroupWithZero.List
import Mathlib.Algebra.Order.Ring.Nat
import Mathlib.Data.List.Dedup
import Mathlib.Data.List.Sort
import Stablehlo.Support.Fallible
import Stablehlo.Support.Transposition

/-! Flattening of replica groups that are given by a mesh and some of its axes. -/

namespace Stablehlo

/-- A sub-axis of an axis, between the factors before and behind it. -/
structure SubAxisInfoAttr where
  /-- The product of the factors before the sub-axis. -/
  preSize : Int
  /-- The size of the sub-axis. -/
  size : Int
  deriving DecidableEq, Repr

/-- Reference to either a full axis or a split sub-axis. -/
structure AxisRefAttr where
  /-- The name of the axis. -/
  name : String
  /-- Present if this is a sub-axis. -/
  subAxisInfo : Option SubAxisInfoAttr
  deriving DecidableEq, Repr

/-- A single axis of a mesh. -/
structure MeshAxisAttr where
  /-- The name of the axis. -/
  name : String
  /-- The number of coordinates along the axis. -/
  size : Nat
  /-- There is a coordinate along every axis. -/
  positive : 0 < size

/-- A mesh of devices. -/
structure MeshAttr where
  /-- The axes, from major to minor. -/
  axes : List MeshAxisAttr
  /-- The device at each position of the mesh. -/
  deviceIds : Option (List Int)

/-- The attributes replica groups are made of, and any other attribute. -/
inductive MeshAttribute where
  /-- A mesh. -/
  | mesh (attr : MeshAttr)
  /-- A reference to an axis of a mesh. -/
  | axisRef (attr : AxisRefAttr)
  /-- An attribute of another kind. -/
  | other

/-- How flattening stops before its end. -/
inductive FlattenFailure where
  /-- An error is emitted. -/
  | emitError (message : String)
  /-- A signed product leaves its 64-bit type. -/
  | overflow
  /-- A device is looked up behind the last one. -/
  | outOfRange
  deriving DecidableEq, Repr

/-- A dimension of the mesh after its axes have been split. -/
structure SplitDim where
  /-- The axis the dimension is a part of. -/
  axisName : String
  /-- The product of the factors before the dimension. -/
  preSize : Nat
  /-- The size of the dimension. -/
  size : Nat
  deriving DecidableEq, Repr

/-- The sizes of the split axes, and which of them form the groups. -/
structure ReindexedAxes where
  /-- The sizes of the dimensions. -/
  splitAxisSizes : List Nat
  /-- The dimensions of the communication axes, in their order. -/
  groupedAxisIndices : List Nat

/-- The product of two signed 64-bit integers. -/
def mulInt64 (a b : Int) : Except FlattenFailure Int :=
  if -2 ^ 63 ≤ a * b ∧ a * b < 2 ^ 63 then .ok (a * b) else .error .overflow

/-- Check that a communication axis refers to an axis of the mesh or to a factor of it. -/
def validateCommAxis (axesInMesh : List MeshAxisAttr) (attr : MeshAttribute) :
    Except FlattenFailure AxisRefAttr :=
  match attr with
  | .axisRef shloAxisRef =>
    let axisName := shloAxisRef.name
    match axesInMesh.find? fun meshAxis => meshAxis.name == axisName with
    | none => .error (.emitError s!"axis '{axisName}' not found in mesh definition")
    | some meshAxis =>
      match shloAxisRef.subAxisInfo with
      | none => .ok shloAxisRef
      | some subAxisInfo =>
        if subAxisInfo.preSize < 1 ∨ subAxisInfo.size < 1 then
          .error (.emitError "sub-axis pre_size and size must be at least 1")
        else do
          let nextPreSize ← mulInt64 subAxisInfo.preSize subAxisInfo.size
          if nextPreSize > meshAxis.size ∨ (meshAxis.size : Int) % nextPreSize ≠ 0 then
            .error (.emitError "sub-axis (pre_size * size) must divide mesh axis size")
          else .ok shloAxisRef
  | _ => .error (.emitError "expected AxisRefAttr in comm_axes")

/-- The factors at which the communication axes split an axis, and its two ends. -/
def axisPreSizes (meshAxis : MeshAxisAttr) (commAxes : List AxisRefAttr) : List Nat :=
  [1, meshAxis.size] ++ commAxes.flatMap fun shloAxisRef =>
    if shloAxisRef.name == meshAxis.name then
      match shloAxisRef.subAxisInfo with
      | some subAxisInfo =>
        [subAxisInfo.preSize.toNat, (subAxisInfo.preSize * subAxisInfo.size).toNat]
      | none => []
    else []

/-- Sort and keep one of each. -/
def sortedUnique (preSizes : List Nat) : List Nat := (preSizes.insertionSort (· ≤ ·)).dedup

/-- The segments between neighboring split points, as their start and their size. -/
def segments : List Nat → List (Nat × Nat)
  | segPreSize :: nextPreSize :: preSizes =>
    (segPreSize, nextPreSize / segPreSize) :: segments (nextPreSize :: preSizes)
  | _ => []

/-- Split an axis of the mesh according to the sub-axes that refer to it. -/
def splitAxis (commAxes : List AxisRefAttr) (meshAxis : MeshAxisAttr) : List SplitDim :=
  if meshAxis.size = 1 then
    [⟨meshAxis.name, 1, 1⟩]
  else
    (segments (sortedUnique (axisPreSizes meshAxis commAxes))).map fun (segPreSize, segSize) =>
      ⟨meshAxis.name, segPreSize, segSize⟩

/-- The dimension a communication axis asks for. -/
def requestedDim (axesInMesh : List MeshAxisAttr) (shloAxisRef : AxisRefAttr) : SplitDim :=
  match shloAxisRef.subAxisInfo with
  | some subAxisInfo => ⟨shloAxisRef.name, subAxisInfo.preSize.toNat, subAxisInfo.size.toNat⟩
  | none =>
    match axesInMesh.find? fun meshAxis => meshAxis.name == shloAxisRef.name with
    | some meshAxis => ⟨shloAxisRef.name, 1, meshAxis.size⟩
    | none => ⟨shloAxisRef.name, 1, 0⟩

/-- Add the dimension of one more communication axis. -/
def groupAxis (axesInMesh : List MeshAxisAttr) (splitDims : List SplitDim)
    (groupedAxisIndices : List Nat) (shloAxisRef : AxisRefAttr) :
    Except FlattenFailure (List Nat) :=
  let axisName := shloAxisRef.name
  match splitDims.findIdx? (· == requestedDim axesInMesh shloAxisRef) with
  | none =>
    .error (.emitError s!"Invalid or overlapping communication axis on '{axisName}'")
  | some dimIndex =>
    if dimIndex ∈ groupedAxisIndices then
      .error (.emitError s!"Duplicate or overlapping communication axis: {axisName}")
    else .ok (groupedAxisIndices ++ [dimIndex])

/-- Split the axes of a mesh and find the dimensions of the communication axes. -/
def computeReindexedAxes (axesInMesh : List MeshAxisAttr) (commAxes : List MeshAttribute) :
    Except FlattenFailure ReindexedAxes := do
  let shloAxisRefs ← commAxes.mapM (validateCommAxis axesInMesh)
  -- The index of a dimension is its place among the dimensions of all axes.
  let splitDims := axesInMesh.flatMap (splitAxis shloAxisRefs)
  let groupedAxisIndices ← shloAxisRefs.foldlM (groupAxis axesInMesh splitDims) []
  .ok ⟨splitDims.map SplitDim.size, groupedAxisIndices⟩

/-- The axes that form no groups. -/
def nonGroupedAxes (axisSizes groupedAxisIndices : List Nat) : List Nat :=
  (List.range axisSizes.length).filter fun i => i ∉ groupedAxisIndices

/-- The axes that form no groups, then the ones that do, in the order given. -/
def transposeAxes (axisSizes groupedAxisIndices : List Nat) : List Nat :=
  nonGroupedAxes axisSizes groupedAxisIndices ++ groupedAxisIndices

/-- The position in the mesh of a position in the transposed mesh. -/
def originalIndex (axisSizes transposedAxes : List Nat) (linearTransposeIdx : Nat) : Nat :=
  let originalStrides := MixedRadix.weights axisSizes
  let transposedSizes := transposedAxes.map fun axis => axisSizes.getD axis 1
  let transposedStrides := MixedRadix.weights transposedSizes
  let coords := List.zipWith (fun stride size => linearTransposeIdx / stride % size)
    transposedStrides transposedSizes
  (List.zipWith (fun coord axis => coord * originalStrides.getD axis 1) coords transposedAxes).sum

/-- The number of devices in a group. -/
def numDevicesPerGroup (axisSizes groupedAxisIndices : List Nat) : Nat :=
  (groupedAxisIndices.map fun idx => axisSizes.getD idx 1).prod

/-- Generate groups of devices by reshaping the mesh and transposing its axes. -/
def flattenedReplicaGroupsFromTransposePermutation (axisSizes groupedAxisIndices : List Nat)
    (deviceIds : List Int) (totalDevices : Nat) : Except FlattenFailure (List (List Int)) :=
  let transposedAxes := transposeAxes axisSizes groupedAxisIndices
  let groupSize := numDevicesPerGroup axisSizes groupedAxisIndices
  let numGroups := totalDevices / groupSize
  (List.range numGroups).mapM fun i =>
    (List.range groupSize).mapM fun j =>
      match deviceIds[originalIndex axisSizes transposedAxes (i * groupSize + j)]? with
      | some deviceId => .ok deviceId
      | none => .error .outOfRange

/-- The devices of a mesh, in the order of their positions. -/
def MeshAttr.devices (mesh : MeshAttr) (totalDevices : Nat) : List Int :=
  match mesh.deviceIds with
  | none | some [] => (List.range totalDevices).map Int.ofNat
  | some deviceIds => deviceIds

/-- Flatten replica groups over the communication axes of a mesh to lists of devices. -/
def flattenReplicaGroupMeshAxes (meshAttr : MeshAttribute) (commAxes : List MeshAttribute) :
    Except FlattenFailure (List (List Int)) :=
  match meshAttr with
  | .mesh mesh => do
    let reindexedAxes ← computeReindexedAxes mesh.axes commAxes
    let totalDevices ← mesh.axes.foldlM (fun total meshAxis => mulInt64 total meshAxis.size) 1
    -- No stride or group size is larger than the number of devices, so none overflows.
    flattenedReplicaGroupsFromTransposePermutation reindexedAxes.splitAxisSizes
      reindexedAxes.groupedAxisIndices (mesh.devices totalDevices.toNat) totalDevices.toNat
  | _ => .error (.emitError "expected stablehlo.mesh for mesh attribute")

section Segments

variable {start : Nat} {rest : List Nat}

attribute [local simp] segments

/-- The split points that are sorted are the given ones. -/
@[simp] theorem mem_sortedUnique {preSizes : List Nat} {preSize : Nat} :
    preSize ∈ sortedUnique preSizes ↔ preSize ∈ preSizes := by
  rw [sortedUnique, List.mem_dedup, List.mem_insertionSort]

/-- The split points are in strictly ascending order. -/
theorem sortedUnique_ascending (preSizes : List Nat) :
    (sortedUnique preSizes).Pairwise (· < ·) := by
  have sorted : (sortedUnique preSizes).Pairwise (· ≤ ·) :=
    (List.pairwise_insertionSort (· ≤ ·) preSizes).sublist (List.dedup_sublist _)
  have distinct : (sortedUnique preSizes).Pairwise (· ≠ ·) := List.nodup_dedup _
  exact (sorted.and distinct).imp fun both => Nat.lt_of_le_of_ne both.1 both.2

/-- The split points start with the least one and end with the greatest one. -/
theorem sortedUnique_eq_cons {preSizes : List Nat} {least greatest : Nat}
    (leastListed : least ∈ preSizes) (greatestListed : greatest ∈ preSizes)
    (between : ∀ preSize ∈ preSizes, least ≤ preSize ∧ preSize ≤ greatest) :
    ∃ rest, sortedUnique preSizes = least :: rest ∧ rest.getLastD least = greatest := by
  have ascending := sortedUnique_ascending preSizes
  cases points : sortedUnique preSizes with
  | nil =>
    have listed := mem_sortedUnique.mpr leastListed
    rw [points] at listed
    cases listed
  | cons first rest =>
    rw [points] at ascending
    have listed : ∀ {preSize}, preSize ∈ first :: rest ↔ preSize ∈ preSizes := by
      intro preSize
      rw [← points, mem_sortedUnique]
    have above := (List.pairwise_cons.mp ascending).1
    -- Nothing is below the first point, and nothing is above the last one.
    have firstLeast : first = least := by
      rcases List.mem_cons.mp (listed.mpr leastListed) with same | later
      · exact same.symm
      · have below := above least later
        have bound := (between first (listed.mp (by simp))).1
        omega
    subst firstLeast
    refine ⟨rest, rfl, Nat.le_antisymm (between _ (listed.mp List.getLastD_mem_cons)).2 ?_⟩
    have lastGreatest : ∀ (start : Nat) (rest : List Nat), (start :: rest).Pairwise (· < ·) →
        ∀ point ∈ start :: rest, point ≤ rest.getLastD start := by
      intro start rest
      induction rest generalizing start with
      | nil => simp
      | cons next rest ih =>
        intro ascending point member
        rw [List.getLastD_cons]
        obtain ⟨first, later⟩ := List.pairwise_cons.mp ascending
        rcases List.mem_cons.mp member with same | inRest
        · have := ih next later next (by simp)
          have := first next (by simp)
          omega
        · exact ih next later point inRest
    exact lastGreatest _ _ ascending _ (listed.mpr greatestListed)

/-- Every segment has a size. -/
theorem segments_positive (positive : 0 < start) (ascending : (start :: rest).Pairwise (· < ·)) :
    ∀ segment ∈ segments (start :: rest), 0 < segment.2 := by
  induction rest generalizing start with
  | nil => simp [segments]
  | cons next rest ih =>
    obtain ⟨above, later⟩ := List.pairwise_cons.mp ascending
    have below := above next (by simp)
    intro segment listed
    rcases List.mem_cons.mp listed with rfl | inRest
    · exact Nat.div_pos (Nat.le_of_lt below) positive
    · exact ih (by omega) later segment inRest

/-- The product of the segments falls short unless every split point divides the next one. -/
theorem segments_prod (positive : 0 < start) (ascending : (start :: rest).Pairwise (· < ·)) :
    start * ((segments (start :: rest)).map Prod.snd).prod ≤ rest.getLastD start ∧
      (start * ((segments (start :: rest)).map Prod.snd).prod = rest.getLastD start ↔
        (start :: rest).IsChain (· ∣ ·)) := by
  induction rest generalizing start with
  | nil => simp [segments]
  | cons next rest ih =>
    obtain ⟨above, later⟩ := List.pairwise_cons.mp ascending
    have nextPositive : 0 < next := Nat.lt_trans positive (above next (by simp))
    obtain ⟨short, exact⟩ := ih nextPositive later
    have prodPositive : 0 < ((segments (next :: rest)).map Prod.snd).prod := by
      refine List.prod_pos fun size listed => ?_
      obtain ⟨segment, member, rfl⟩ := List.mem_map.mp listed
      exact segments_positive nextPositive later segment member
    -- Rounding down the first quotient loses something unless the division is exact.
    have first : start * ((segments (start :: next :: rest)).map Prod.snd).prod =
        start * (next / start) * ((segments (next :: rest)).map Prod.snd).prod := by
      rw [segments, List.map_cons, List.prod_cons, Nat.mul_assoc]
    have rounded : start * (next / start) ≤ next := Nat.mul_div_le next start
    rw [first, List.getLastD_cons, List.isChain_cons_cons, ← exact]
    generalize ((segments (next :: rest)).map Prod.snd).prod = product at *
    constructor
    · exact Nat.le_trans (Nat.mul_le_mul_right _ rounded) short
    · constructor
      · intro equal
        have whole : next * product ≤ start * (next / start) * product := by
          rw [equal]
          exact short
        have division : start * (next / start) = next :=
          Nat.le_antisymm rounded (Nat.le_of_mul_le_mul_right whole prodPositive)
        rw [division] at equal
        exact ⟨⟨next / start, division.symm⟩, equal⟩
      · intro ⟨divides, equal⟩
        rw [Nat.mul_div_cancel' divides, equal]

/-- Behind each segment of a chain of divisors, the remaining segments make up the rest. -/
theorem segments_weights (positive : 0 < start) (ascending : (start :: rest).Pairwise (· < ·))
    (chain : (start :: rest).IsChain (· ∣ ·)) {place : Nat} {segment : Nat × Nat}
    (found : (segments (start :: rest))[place]? = some segment) :
    (MixedRadix.weights ((segments (start :: rest)).map Prod.snd))[place]? =
      some (rest.getLastD start / (segment.1 * segment.2)) := by
  induction rest generalizing start place with
  | nil => simp [segments] at found
  | cons next rest ih =>
    obtain ⟨above, later⟩ := List.pairwise_cons.mp ascending
    obtain ⟨divides, restChain⟩ := List.isChain_cons_cons.mp chain
    have nextPositive : 0 < next := Nat.lt_trans positive (above next (by simp))
    cases place with
    | zero =>
      cases found
      have product := (segments_prod nextPositive later).2.mpr restChain
      rw [segments, List.map_cons, MixedRadix.weights, List.getElem?_cons_zero,
        Nat.mul_div_cancel' divides, List.getLastD_cons, ← product,
        Nat.mul_div_cancel_left _ nextPositive]
    | succ place =>
      rw [segments, List.getElem?_cons_succ] at found
      rw [segments, List.map_cons, MixedRadix.weights, List.getElem?_cons_succ,
        List.getLastD_cons]
      exact ih nextPositive later restChain found

end Segments

/-- The split points of an axis: of any two of them, one divides the other. -/
def PreSizesDivide (commAxes : List AxisRefAttr) (meshAxis : MeshAxisAttr) : Prop :=
  ∀ first ∈ axisPreSizes meshAxis commAxes, ∀ second ∈ axisPreSizes meshAxis commAxes,
    first ∣ second ∨ second ∣ first

instance (commAxes : List AxisRefAttr) (meshAxis : MeshAxisAttr) :
    Decidable (PreSizesDivide commAxes meshAxis) :=
  inferInstanceAs (Decidable (∀ first ∈ axisPreSizes meshAxis commAxes,
    ∀ second ∈ axisPreSizes meshAxis commAxes, first ∣ second ∨ second ∣ first))

/-- The split points of an axis lie between its ends. -/
def PreSizesInside (commAxes : List AxisRefAttr) (meshAxis : MeshAxisAttr) : Prop :=
  ∀ preSize ∈ axisPreSizes meshAxis commAxes, 1 ≤ preSize ∧ preSize ≤ meshAxis.size

section SplitAxes

variable {commAxes : List AxisRefAttr} {meshAxis : MeshAxisAttr} {axesInMesh : List MeshAxisAttr}

/-- Sorted split points form a chain of divisors exactly when any two of them are comparable. -/
theorem isChain_sortedUnique_iff {preSizes : List Nat}
    (positive : ∀ preSize ∈ preSizes, 1 ≤ preSize) :
    (sortedUnique preSizes).IsChain (· ∣ ·) ↔
      ∀ first ∈ preSizes, ∀ second ∈ preSizes, first ∣ second ∨ second ∣ first := by
  rw [List.isChain_iff_pairwise]
  constructor
  · intro divides first firstListed second secondListed
    have comparable : (sortedUnique preSizes).Pairwise fun a b => a ∣ b ∨ b ∣ a :=
      divides.imp Or.inl
    exact comparable.forall_of_forall_of_flip (fun a _ => .inl (Nat.dvd_refl a))
      (divides.imp Or.inr) (mem_sortedUnique.mpr firstListed) (mem_sortedUnique.mpr secondListed)
  · intro comparable
    refine (sortedUnique_ascending preSizes).imp_of_mem fun {a b} first second below => ?_
    rw [mem_sortedUnique] at first second
    rcases comparable a first b second with divides | divides
    · exact divides
    · -- A greater number divides no smaller one.
      have := Nat.le_of_dvd (positive a first) divides
      omega

/-- The dimensions of an axis have the name of the axis, and none of them is empty. -/
theorem splitAxis_dims (inside : PreSizesInside commAxes meshAxis) :
    ∀ dim ∈ splitAxis commAxes meshAxis, dim.axisName = meshAxis.name ∧ 0 < dim.size := by
  intro dim listed
  unfold splitAxis at listed
  split at listed
  · rw [List.mem_singleton.mp listed]
    exact ⟨rfl, Nat.one_pos⟩
  · obtain ⟨segment, member, rfl⟩ := List.mem_map.mp listed
    obtain ⟨rest, points, -⟩ := sortedUnique_eq_cons (by simp [axisPreSizes])
      (by simp [axisPreSizes]) inside
    have ascending := sortedUnique_ascending (axisPreSizes meshAxis commAxes)
    rw [points] at ascending member
    exact ⟨rfl, segments_positive Nat.one_pos ascending segment member⟩

/-- The sizes of the dimensions of an axis that is not split. -/
theorem splitAxis_sizes (size : meshAxis.size ≠ 1) :
    (splitAxis commAxes meshAxis).map SplitDim.size =
      (segments (sortedUnique (axisPreSizes meshAxis commAxes))).map Prod.snd := by
  rw [splitAxis, if_neg size, List.map_map]
  rfl

/-- The dimensions of an axis multiply to its size exactly when its split points divide. -/
theorem splitAxis_prod (inside : PreSizesInside commAxes meshAxis) :
    ((splitAxis commAxes meshAxis).map SplitDim.size).prod ≤ meshAxis.size ∧
      (((splitAxis commAxes meshAxis).map SplitDim.size).prod = meshAxis.size ↔
        PreSizesDivide commAxes meshAxis) := by
  by_cases size : meshAxis.size = 1
  · -- All split points of an axis of size one are one.
    have ones : ∀ preSize ∈ axisPreSizes meshAxis commAxes, preSize = 1 := by
      intro preSize listed
      have := inside preSize listed
      omega
    have divide : PreSizesDivide commAxes meshAxis := fun first firstListed second _ =>
      .inl (ones first firstListed ▸ Nat.one_dvd second)
    simp [splitAxis, size, divide]
  · obtain ⟨rest, points, last⟩ := sortedUnique_eq_cons (by simp [axisPreSizes])
      (by simp [axisPreSizes]) inside
    have ascending := sortedUnique_ascending (axisPreSizes meshAxis commAxes)
    have chain := isChain_sortedUnique_iff fun preSize listed => (inside preSize listed).1
    rw [points] at ascending chain
    have product := segments_prod Nat.one_pos ascending
    rw [last, Nat.one_mul, chain] at product
    rw [splitAxis_sizes size, points]
    exact product

/-- When its split points divide, one step along a dimension passes all dimensions behind it. -/
theorem splitAxis_weights (inside : PreSizesInside commAxes meshAxis)
    (divide : PreSizesDivide commAxes meshAxis) {place : Nat} {dim : SplitDim}
    (found : (splitAxis commAxes meshAxis)[place]? = some dim) :
    (MixedRadix.weights ((splitAxis commAxes meshAxis).map SplitDim.size))[place]? =
      some (meshAxis.size / (dim.preSize * dim.size)) := by
  by_cases size : meshAxis.size = 1
  · rw [splitAxis, if_pos size, List.getElem?_singleton] at found
    obtain ⟨here, same⟩ := Option.ite_none_right_eq_some.mp found
    subst here
    rw [← Option.some.inj same]
    simp [splitAxis, size, MixedRadix.weights]
  · obtain ⟨rest, points, last⟩ := sortedUnique_eq_cons (by simp [axisPreSizes])
      (by simp [axisPreSizes]) inside
    have ascending := sortedUnique_ascending (axisPreSizes meshAxis commAxes)
    have chain := isChain_sortedUnique_iff fun preSize listed => (inside preSize listed).1
    rw [splitAxis, if_neg size, List.getElem?_map, Option.map_eq_some_iff] at found
    obtain ⟨segment, stored, rfl⟩ := found
    rw [points] at ascending chain stored
    have weight := segments_weights Nat.one_pos ascending (chain.mpr divide) stored
    rw [splitAxis_sizes size, points, weight, last]

/-- The dimensions of all axes multiply to the number of devices exactly when all axes divide. -/
theorem splitDims_prod (inside : ∀ meshAxis ∈ axesInMesh, PreSizesInside commAxes meshAxis) :
    ((axesInMesh.flatMap (splitAxis commAxes)).map SplitDim.size).prod ≤
        (axesInMesh.map MeshAxisAttr.size).prod ∧
      (((axesInMesh.flatMap (splitAxis commAxes)).map SplitDim.size).prod =
          (axesInMesh.map MeshAxisAttr.size).prod ↔
        ∀ meshAxis ∈ axesInMesh, PreSizesDivide commAxes meshAxis) := by
  induction axesInMesh with
  | nil => simp
  | cons meshAxis axesInMesh ih =>
    obtain ⟨short, exact⟩ := splitAxis_prod (inside meshAxis (by simp))
    obtain ⟨restShort, restExact⟩ := ih fun other listed => inside other (by simp [listed])
    have positive : 0 < (axesInMesh.map MeshAxisAttr.size).prod := by
      refine List.prod_pos fun size listed => ?_
      obtain ⟨other, -, rfl⟩ := List.mem_map.mp listed
      exact other.positive
    have axisPositive := meshAxis.positive
    rw [List.flatMap_cons, List.map_append, List.prod_append, List.map_cons, List.prod_cons,
      List.forall_mem_cons, ← exact, ← restExact]
    generalize ((splitAxis commAxes meshAxis).map SplitDim.size).prod = product at *
    generalize ((axesInMesh.flatMap (splitAxis commAxes)).map SplitDim.size).prod = others at *
    refine ⟨Nat.mul_le_mul short restShort, fun equal => ?_, fun ⟨same, restSame⟩ => ?_⟩
    · -- A factor that falls short cannot be made up for by the others.
      have whole : product = meshAxis.size := by
        refine Nat.le_antisymm short (Nat.le_of_mul_le_mul_right ?_ positive)
        rw [← equal]
        exact Nat.mul_le_mul_left product restShort
      rw [whole] at equal
      exact ⟨whole, Nat.eq_of_mul_eq_mul_left axisPositive equal⟩
    · rw [same, restSame]

end SplitAxes

/-- The size a reference selects of an axis. -/
def AxisRefAttr.sizeIn (shloAxisRef : AxisRefAttr) (meshAxis : MeshAxisAttr) : Nat :=
  match shloAxisRef.subAxisInfo with
  | some subAxisInfo => subAxisInfo.size.toNat
  | none => meshAxis.size

/-- The product of the factors of an axis up to the end of what a reference selects. -/
def AxisRefAttr.endIn (shloAxisRef : AxisRefAttr) (meshAxis : MeshAxisAttr) : Nat :=
  match shloAxisRef.subAxisInfo with
  | some subAxisInfo => (subAxisInfo.preSize * subAxisInfo.size).toNat
  | none => meshAxis.size

/-- The size of the axis or sub-axis of the mesh that is referenced. -/
def refSize : List MeshAxisAttr → AxisRefAttr → Nat
  | [], _ => 1
  | meshAxis :: axesInMesh, shloAxisRef =>
    if meshAxis.name = shloAxisRef.name then shloAxisRef.sizeIn meshAxis
    else refSize axesInMesh shloAxisRef

/-- The distance in the mesh between neighbors along the axis or sub-axis that is referenced. -/
def refStride : List MeshAxisAttr → AxisRefAttr → Nat
  | [], _ => 1
  | meshAxis :: axesInMesh, shloAxisRef =>
    if meshAxis.name = shloAxisRef.name then
      -- Behind the referenced part come the rest of its axis and all further axes.
      meshAxis.size / shloAxisRef.endIn meshAxis * (axesInMesh.map MeshAxisAttr.size).prod
    else refStride axesInMesh shloAxisRef

section Requests

variable {commAxes : List AxisRefAttr} {axesInMesh : List MeshAxisAttr}
  {meshAxis : MeshAxisAttr} {shloAxisRef : AxisRefAttr}

/-- Names determine the axes of a mesh. -/
theorem find?_axis (distinct : (axesInMesh.map MeshAxisAttr.name).Nodup)
    (listed : meshAxis ∈ axesInMesh) (named : meshAxis.name = shloAxisRef.name) :
    (axesInMesh.find? fun other => other.name == shloAxisRef.name) = some meshAxis := by
  induction axesInMesh with
  | nil => cases listed
  | cons first axesInMesh ih =>
    obtain ⟨fresh, restDistinct⟩ := List.nodup_cons.mp distinct
    rcases List.mem_cons.mp listed with rfl | inRest
    · simp [named]
    · have other : first.name ≠ shloAxisRef.name := by
        intro same
        refine fresh (List.mem_map.mpr ⟨meshAxis, inRest, ?_⟩)
        rw [named, same]
      rw [List.find?_cons_of_neg (by simpa using other)]
      exact ih restDistinct inRest

/-- A product that is returned is the exact one. -/
theorem mulInt64_eq_ok {a b product : Int} (multiplied : mulInt64 a b = .ok product) :
    product = a * b := by
  unfold mulInt64 at multiplied
  split at multiplied
  · exact (Except.ok.inj multiplied).symm
  · cases multiplied

/-- What the validation of a communication axis has checked. -/
theorem validateCommAxis_spec {validated : AxisRefAttr}
    (valid : validateCommAxis axesInMesh (.axisRef shloAxisRef) = .ok validated) :
    validated = shloAxisRef ∧ ∃ meshAxis ∈ axesInMesh, meshAxis.name = shloAxisRef.name ∧
      ∀ subAxisInfo, shloAxisRef.subAxisInfo = some subAxisInfo →
        1 ≤ subAxisInfo.preSize ∧ 1 ≤ subAxisInfo.size ∧
          subAxisInfo.preSize * subAxisInfo.size ∣ meshAxis.size := by
  unfold validateCommAxis at valid
  cases found : axesInMesh.find? fun meshAxis => meshAxis.name == shloAxisRef.name with
  | none =>
    simp only [found] at valid
    cases valid
  | some meshAxis =>
    have listed := List.mem_of_find?_eq_some found
    have named : meshAxis.name = shloAxisRef.name := by
      simpa using List.find?_some found
    simp only [found] at valid
    cases subAxis : shloAxisRef.subAxisInfo with
    | none =>
      simp only [subAxis] at valid
      cases valid
      exact ⟨rfl, meshAxis, listed, named, fun _ absurd => nomatch absurd⟩
    | some subAxisInfo =>
      simp only [subAxis] at valid
      split at valid
      · cases valid
      · rename_i positive
        obtain ⟨nextPreSize, multiplied, checked⟩ := Fallible.bind_eq_ok.mp valid
        obtain rfl := mulInt64_eq_ok multiplied
        split at checked
        · cases checked
        · rename_i divides
          cases checked
          refine ⟨rfl, meshAxis, listed, named, fun other same => ?_⟩
          cases same
          exact ⟨by omega, by omega, Int.dvd_of_emod_eq_zero (by omega)⟩

/-- Validated communication axes split every axis between its ends. -/
theorem preSizesInside_of_validated (distinct : (axesInMesh.map MeshAxisAttr.name).Nodup)
    (valid : ∀ shloAxisRef ∈ commAxes,
      validateCommAxis axesInMesh (.axisRef shloAxisRef) = .ok shloAxisRef) :
    ∀ meshAxis ∈ axesInMesh, PreSizesInside commAxes meshAxis := by
  intro meshAxis listed preSize member
  have positive := meshAxis.positive
  rw [axisPreSizes, List.mem_append, List.mem_flatMap] at member
  rcases member with ends | ⟨shloAxisRef, requested, split⟩
  · simp only [List.mem_cons, List.not_mem_nil, or_false] at ends
    omega
  · obtain ⟨-, other, otherListed, named, checked⟩ := validateCommAxis_spec (valid _ requested)
    split_ifs at split with same
    · -- The axis with this name is the one the sub-axis was checked against.
      obtain rfl : other = meshAxis := by
        have first := find?_axis distinct otherListed named
        rw [find?_axis distinct listed (beq_iff_eq.mp same).symm] at first
        exact (Option.some.inj first).symm
      cases subAxis : shloAxisRef.subAxisInfo with
      | none => simp [subAxis] at split
      | some subAxisInfo =>
        obtain ⟨preSizePositive, sizePositive, divides⟩ := checked _ subAxis
        have bound := Int.le_of_dvd (by omega) divides
        have grows : subAxisInfo.preSize * 1 ≤ subAxisInfo.preSize * subAxisInfo.size :=
          Int.mul_le_mul_of_nonneg_left sizePositive (by omega)
        simp only [subAxis, List.mem_cons, List.not_mem_nil, or_false] at split
        omega
    · cases split

/-- The dimension that is requested is what the reference selects of its axis. -/
theorem requestedDim_spec (distinct : (axesInMesh.map MeshAxisAttr.name).Nodup)
    (valid : validateCommAxis axesInMesh (.axisRef shloAxisRef) = .ok shloAxisRef) :
    (requestedDim axesInMesh shloAxisRef).axisName = shloAxisRef.name ∧
      ∀ meshAxis ∈ axesInMesh, meshAxis.name = shloAxisRef.name →
        (requestedDim axesInMesh shloAxisRef).size = shloAxisRef.sizeIn meshAxis ∧
        (requestedDim axesInMesh shloAxisRef).preSize *
          (requestedDim axesInMesh shloAxisRef).size = shloAxisRef.endIn meshAxis := by
  obtain ⟨-, _, -, -, checked⟩ := validateCommAxis_spec valid
  unfold requestedDim AxisRefAttr.sizeIn AxisRefAttr.endIn
  cases subAxis : shloAxisRef.subAxisInfo with
  | some subAxisInfo =>
    obtain ⟨preSizePositive, sizePositive, -⟩ := checked _ subAxis
    refine ⟨rfl, fun meshAxis _ _ => ⟨rfl, ?_⟩⟩
    exact (Int.toNat_mul (by omega) (by omega)).symm
  | none =>
    constructor
    · simp only
      split <;> rfl
    · intro meshAxis listed named
      simp only [find?_axis distinct listed named, Nat.one_mul, and_self]

/-- A reference to an axis of the mesh has the size that is selected of this axis. -/
theorem refSize_eq {size : Nat} (present : ∃ meshAxis ∈ axesInMesh,
      meshAxis.name = shloAxisRef.name)
    (same : ∀ meshAxis ∈ axesInMesh, meshAxis.name = shloAxisRef.name →
      size = shloAxisRef.sizeIn meshAxis) : refSize axesInMesh shloAxisRef = size := by
  induction axesInMesh with
  | nil => simp at present
  | cons first axesInMesh ih =>
    rw [refSize]
    split_ifs with named
    · exact (same first (by simp) named).symm
    · refine ih ?_ fun meshAxis listed => same meshAxis (by simp [listed])
      simpa [named] using present

/-- When all split points divide, the weight of a requested dimension is the stride of its axis. -/
theorem splitDims_weights (distinct : (axesInMesh.map MeshAxisAttr.name).Nodup)
    (inside : ∀ meshAxis ∈ axesInMesh, PreSizesInside commAxes meshAxis)
    (divide : ∀ meshAxis ∈ axesInMesh, PreSizesDivide commAxes meshAxis)
    {place : Nat} {dim : SplitDim} (named : dim.axisName = shloAxisRef.name)
    (ends : ∀ meshAxis ∈ axesInMesh, meshAxis.name = shloAxisRef.name →
      dim.preSize * dim.size = shloAxisRef.endIn meshAxis)
    (found : (axesInMesh.flatMap (splitAxis commAxes))[place]? = some dim) :
    (MixedRadix.weights ((axesInMesh.flatMap (splitAxis commAxes)).map SplitDim.size))[place]? =
      some (refStride axesInMesh shloAxisRef) := by
  induction axesInMesh generalizing place with
  | nil => simp at found
  | cons meshAxis axesInMesh ih =>
    obtain ⟨fresh, restDistinct⟩ := List.nodup_cons.mp distinct
    obtain ⟨axisInside, restInside⟩ := List.forall_mem_cons.mp inside
    obtain ⟨axisDivides, restDivide⟩ := List.forall_mem_cons.mp divide
    have product := (splitDims_prod restInside).2.mpr restDivide
    rw [List.flatMap_cons, List.map_append, MixedRadix.weights_append, product, refStride]
    rw [List.flatMap_cons] at found
    rcases Nat.lt_or_ge place (splitAxis commAxes meshAxis).length with here | later
    · rw [List.getElem?_append_left here] at found
      have same : meshAxis.name = shloAxisRef.name := by
        rw [← named, (splitAxis_dims axisInside dim (List.mem_of_getElem? found)).1]
      rw [List.getElem?_append_left (by simpa using here), List.getElem?_map,
        splitAxis_weights axisInside axisDivides found, Option.map_some, if_pos same,
        ends meshAxis (by simp) same]
    · rw [List.getElem?_append_right later] at found
      -- Dimensions of later axes have the names of later axes.
      have other : meshAxis.name ≠ shloAxisRef.name := by
        obtain ⟨owner, ownerListed, member⟩ := List.mem_flatMap.mp (List.mem_of_getElem? found)
        intro same
        refine fresh (List.mem_map.mpr ⟨owner, ownerListed, ?_⟩)
        rw [same, ← named, (splitAxis_dims (restInside owner ownerListed) dim member).1]
      rw [List.getElem?_append_right (by simpa using later), if_neg other]
      have shifted := ih restDistinct restInside restDivide
        (fun axis listed => ends axis (by simp [listed])) found
      simpa using shifted

end Requests

/-- The number of devices of a mesh. -/
def MeshAttr.numDevices (mesh : MeshAttr) : Nat := (mesh.axes.map MeshAxisAttr.size).prod

/-- A mesh with names that tell its axes apart and an order of all its devices. -/
structure MeshAttr.WellFormed (mesh : MeshAttr) : Prop where
  /-- No two axes have the same name. -/
  distinctNames : (mesh.axes.map MeshAxisAttr.name).Nodup
  /-- Device ids are absent or a permutation of the first ones. -/
  deviceIds : ∀ ids, mesh.deviceIds = some ids → ids ≠ [] →
    ids.Perm ((List.range mesh.numDevices).map Int.ofNat)

/-- What flattened groups are to be. -/
structure EnumeratesMesh (mesh : MeshAttr) (commAxes : List AxisRefAttr)
    (groups : List (List Int)) : Prop where
  /-- Every group has as many devices as the communication axes have positions. -/
  groupSize : ∀ group ∈ groups, group.length = (commAxes.map (refSize mesh.axes)).prod
  /-- There are as many groups as fit into the mesh, with no device left over. -/
  count : groups.length * (commAxes.map (refSize mesh.axes)).prod = mesh.numDevices
  /-- Every device is in exactly one group. -/
  partition : groups.flatten.Perm (mesh.devices mesh.numDevices)
  /-- The positions in a group count through the communication axes, from major to minor. -/
  enumerates : ∀ group ∈ groups, ∃ base, ∀ position < (commAxes.map (refSize mesh.axes)).prod,
    let places := MixedRadix.digits (commAxes.map (refSize mesh.axes)) position
    let index := base +
      (List.zipWith (· * ·) places (commAxes.map (refStride mesh.axes))).sum
    group[position]? = (mesh.devices mesh.numDevices)[index]? ∧
      List.zipWith (fun stride size => index / stride % size)
        (commAxes.map (refStride mesh.axes)) (commAxes.map (refSize mesh.axes)) = places

section Flattening

variable {mesh : MeshAttr} {commAxes : List AxisRefAttr} {splitDims : List SplitDim}
  {grouped : List Nat} {groups : List (List Int)}

/-- The dimensions found for the communication axes, which are all different. -/
theorem groupAxes_spec {axesInMesh : List MeshAxisAttr} {before : List Nat}
    (looped : commAxes.foldlM (groupAxis axesInMesh splitDims) before = .ok grouped) :
    ∃ added, grouped = before ++ added ∧
      List.Forall₂ (fun shloAxisRef dimIndex =>
        splitDims[dimIndex]? = some (requestedDim axesInMesh shloAxisRef)) commAxes added ∧
      (before.Nodup → grouped.Nodup) := by
  induction commAxes generalizing before with
  | nil =>
    cases looped
    exact ⟨[], (List.append_nil _).symm, .nil, id⟩
  | cons shloAxisRef commAxes ih =>
    obtain ⟨next, found, continued⟩ := Fallible.bind_eq_ok.mp looped
    unfold groupAxis at found
    split at found
    · cases found
    · rename_i dimIndex matched
      split at found
      · cases found
      · rename_i fresh
        cases found
        obtain ⟨added, same, dims, nodup⟩ := ih continued
        obtain ⟨inside, equal, -⟩ := List.findIdx?_eq_some_iff_getElem.mp matched
        refine ⟨dimIndex :: added, by rw [same]; simp, .cons ?_ dims, fun distinct => nodup ?_⟩
        · rw [List.getElem?_eq_getElem inside, beq_iff_eq.mp equal]
        · rw [List.nodup_append]
          refine ⟨distinct, List.nodup_singleton _, fun first listed second single => ?_⟩
          rw [List.mem_singleton.mp single]
          intro clash
          exact fresh (clash ▸ listed)

/-- The number of devices is the product of the sizes of the axes. -/
theorem totalDevices_eq {axesInMesh : List MeshAxisAttr} {before total : Int}
    (looped : axesInMesh.foldlM (fun total meshAxis => mulInt64 total meshAxis.size) before =
      .ok total) : total = before * (axesInMesh.map MeshAxisAttr.size).prod := by
  induction axesInMesh generalizing before with
  | nil =>
    cases looped
    simp
  | cons meshAxis axesInMesh ih =>
    obtain ⟨next, multiplied, continued⟩ := Fallible.bind_eq_ok.mp looped
    rw [ih continued, mulInt64_eq_ok multiplied, List.map_cons, List.prod_cons, Int.natCast_mul,
      Int.mul_assoc]

/-- The axes of the transposed mesh are those of the mesh, in another order. -/
theorem transposeAxes_perm {axisSizes : List Nat} (nodup : grouped.Nodup)
    (inside : ∀ axis ∈ grouped, axis < axisSizes.length) :
    (transposeAxes axisSizes grouped).Perm (List.range axisSizes.length) := by
  have groupedPerm : ((List.range axisSizes.length).filter fun axis => axis ∈ grouped).Perm
      grouped := by
    refine (List.perm_ext_iff_of_nodup (List.nodup_range.filter _) nodup).mpr fun axis => ?_
    rw [List.mem_filter, List.mem_range]
    constructor
    · intro ⟨_, listed⟩
      exact of_decide_eq_true listed
    · intro listed
      exact ⟨inside axis listed, decide_eq_true listed⟩
  have split := List.filter_append_perm (fun axis => decide (axis ∈ grouped))
    (List.range axisSizes.length)
  refine (List.perm_append_comm.trans ?_).trans split
  refine groupedPerm.symm.append (List.Perm.of_eq (List.filter_congr fun axis _ => ?_))
  simp

/-- The groups read the device of every position of the transposed mesh. -/
theorem flattenedReplicaGroups_eq {axisSizes : List Nat} {deviceIds : List Int}
    (totalDevices : Nat) (nodup : grouped.Nodup)
    (inside : ∀ axis ∈ grouped, axis < axisSizes.length)
    (positive : ∀ size ∈ axisSizes, 0 < size) (enough : axisSizes.prod ≤ deviceIds.length) :
    flattenedReplicaGroupsFromTransposePermutation axisSizes grouped deviceIds totalDevices =
      .ok ((List.range (totalDevices / numDevicesPerGroup axisSizes grouped)).map fun i =>
        (List.range (numDevicesPerGroup axisSizes grouped)).map fun j =>
          deviceIds.getD (MixedRadix.transpose axisSizes (transposeAxes axisSizes grouped)
            (i * numDevicesPerGroup axisSizes grouped + j)) 0) := by
  refine Fallible.mapM_eq_ok_map fun i _ => Fallible.mapM_eq_ok_map fun j _ => ?_
  have below := Nat.lt_of_lt_of_le (MixedRadix.transpose_lt
    (transposeAxes_perm nodup inside) positive (i * numDevicesPerGroup axisSizes grouped + j)) enough
  -- The index is computed from strides in the way a transposed position is.
  show (match deviceIds[MixedRadix.transpose axisSizes (transposeAxes axisSizes grouped)
      (i * numDevicesPerGroup axisSizes grouped + j)]? with
    | some deviceId => Except.ok deviceId
    | none => .error FlattenFailure.outOfRange) = _
  rw [List.getElem?_eq_getElem below, List.getD_eq_getElem?_getD, List.getElem?_eq_getElem below,
    Option.getD_some]

/-- The device list of a well-formed mesh has one entry for each device. -/
theorem devices_perm (wellFormed : mesh.WellFormed) :
    (mesh.devices mesh.numDevices).Perm ((List.range mesh.numDevices).map Int.ofNat) := by
  unfold MeshAttr.devices
  split
  · exact .refl _
  · exact .refl _
  · rename_i ids nonempty present
    exact wellFormed.deviceIds ids present nonempty

/-- What a successful run has done. -/
theorem flattenReplicaGroupMeshAxes_spec
    (succeeds : flattenReplicaGroupMeshAxes (.mesh mesh) (commAxes.map .axisRef) = .ok groups) :
    (∀ shloAxisRef ∈ commAxes,
      validateCommAxis mesh.axes (.axisRef shloAxisRef) = .ok shloAxisRef) ∧
    ∃ grouped : List Nat, grouped.Nodup ∧
      List.Forall₂ (fun shloAxisRef dimIndex =>
        (mesh.axes.flatMap (splitAxis commAxes))[dimIndex]? =
          some (requestedDim mesh.axes shloAxisRef)) commAxes grouped ∧
      flattenedReplicaGroupsFromTransposePermutation
        ((mesh.axes.flatMap (splitAxis commAxes)).map SplitDim.size) grouped
        (mesh.devices mesh.numDevices) mesh.numDevices = .ok groups := by
  obtain ⟨reindexedAxes, reindexed, continued⟩ := Fallible.bind_eq_ok.mp succeeds
  obtain ⟨totalDevices, total, flattened⟩ := Fallible.bind_eq_ok.mp continued
  obtain ⟨shloAxisRefs, validated, grouping⟩ := Fallible.bind_eq_ok.mp reindexed
  obtain ⟨grouped, looped, same⟩ := Fallible.bind_eq_ok.mp grouping
  cases same
  -- Validation returns the communication axes as they were.
  have each := Fallible.mapM_eq_ok_iff.mp validated
  rw [List.forall₂_map_left_iff] at each
  obtain rfl : commAxes = shloAxisRefs := by
    rw [← List.forall₂_eq_eq_eq]
    exact each.imp fun _ _ valid => (validateCommAxis_spec valid).1.symm
  obtain ⟨added, same, dims, nodup⟩ := groupAxes_spec looped
  rw [List.nil_append] at same
  subst same
  have count : totalDevices.toNat = mesh.numDevices := by
    rw [totalDevices_eq total, Int.one_mul, Int.toNat_natCast, MeshAttr.numDevices]
  rw [count] at flattened
  exact ⟨List.forall₂_same.mp each, grouped, nodup List.nodup_nil, dims, flattened⟩

/-- The sizes of the dimensions the communication axes split a mesh into. -/
def splitSizes (mesh : MeshAttr) (commAxes : List AxisRefAttr) : List Nat :=
  (mesh.axes.flatMap (splitAxis commAxes)).map SplitDim.size

/-- What is known of a successful run on a well-formed mesh. -/
structure FlattenRun (mesh : MeshAttr) (commAxes : List AxisRefAttr) (grouped : List Nat)
    (groups : List (List Int)) : Prop where
  /-- All axes are split between their ends. -/
  inside : ∀ meshAxis ∈ mesh.axes, PreSizesInside commAxes meshAxis
  /-- Every dimension has a size. -/
  positive : ∀ size ∈ splitSizes mesh commAxes, 0 < size
  /-- The transposed mesh has the same dimensions in another order. -/
  permuted : (transposeAxes (splitSizes mesh commAxes) grouped).Perm
    (List.range (splitSizes mesh commAxes).length)
  /-- The grouped dimensions have the sizes of the communication axes. -/
  radices : MixedRadix.reorder (splitSizes mesh commAxes) grouped =
    commAxes.map (refSize mesh.axes)
  /-- When all axes divide, the grouped dimensions have the strides of the communication axes. -/
  strides : (∀ meshAxis ∈ mesh.axes, PreSizesDivide commAxes meshAxis) →
    (grouped.map fun axis => (MixedRadix.weights (splitSizes mesh commAxes)).getD axis 1) =
      commAxes.map (refStride mesh.axes)
  /-- The groups are read block by block from the transposed mesh. -/
  groups_eq : groups = (List.range
      (mesh.numDevices / (commAxes.map (refSize mesh.axes)).prod)).map fun i =>
    (List.range (commAxes.map (refSize mesh.axes)).prod).map fun j =>
      (mesh.devices mesh.numDevices).getD (MixedRadix.transpose (splitSizes mesh commAxes)
        (transposeAxes (splitSizes mesh commAxes) grouped)
        (i * (commAxes.map (refSize mesh.axes)).prod + j)) 0

/-- Every successful run on a well-formed mesh is one of which this is known. -/
theorem FlattenRun.of_success (wellFormed : mesh.WellFormed)
    (succeeds : flattenReplicaGroupMeshAxes (.mesh mesh) (commAxes.map .axisRef) = .ok groups) :
    ∃ grouped, FlattenRun mesh commAxes grouped groups := by
  obtain ⟨valid, grouped, nodup, dims, flattened⟩ := flattenReplicaGroupMeshAxes_spec succeeds
  have inside := preSizesInside_of_validated wellFormed.distinctNames valid
  have positive : ∀ size ∈ splitSizes mesh commAxes, 0 < size := by
    intro size listed
    obtain ⟨dim, dimListed, rfl⟩ := List.mem_map.mp listed
    obtain ⟨meshAxis, axisListed, member⟩ := List.mem_flatMap.mp dimListed
    exact (splitAxis_dims (inside meshAxis axisListed) dim member).2
  have each : List.Forall₂ (fun shloAxisRef axis =>
      validateCommAxis mesh.axes (.axisRef shloAxisRef) = .ok shloAxisRef ∧
        (mesh.axes.flatMap (splitAxis commAxes))[axis]? =
          some (requestedDim mesh.axes shloAxisRef)) commAxes grouped :=
    (List.forall₂_and_left _ _).mpr ⟨valid, dims⟩
  have inRange : ∀ axis ∈ grouped, axis < (splitSizes mesh commAxes).length := by
    have bounded : List.Forall₂ (fun axis (_ : AxisRefAttr) =>
        axis < (splitSizes mesh commAxes).length ∧ True) grouped commAxes := by
      refine List.Forall₂.flip (dims.imp fun shloAxisRef axis found => ⟨?_, trivial⟩)
      rw [splitSizes, List.length_map]
      exact (List.getElem?_eq_some_iff.mp found).1
    exact ((List.forall₂_and_left _ _).mp bounded).1
  have radices : MixedRadix.reorder (splitSizes mesh commAxes) grouped =
      commAxes.map (refSize mesh.axes) := by
    rw [MixedRadix.reorder, eq_comm, ← List.forall₂_eq_eq_eq, List.forall₂_map_left_iff,
      List.forall₂_map_right_iff]
    refine each.imp fun shloAxisRef axis both => ?_
    obtain ⟨checked, found⟩ := both
    obtain ⟨-, meshAxis, listed, named, -⟩ := validateCommAxis_spec checked
    rw [List.getD_eq_getElem?_getD, splitSizes, List.getElem?_map, found, Option.map_some,
      Option.getD_some]
    exact refSize_eq ⟨meshAxis, listed, named⟩ fun other otherListed otherNamed =>
      ((requestedDim_spec wellFormed.distinctNames checked).2 other otherListed otherNamed).1
  have enough : (splitSizes mesh commAxes).prod ≤ (mesh.devices mesh.numDevices).length := by
    rw [(devices_perm wellFormed).length_eq, List.length_map, List.length_range]
    exact (splitDims_prod inside).1
  have groupSize : numDevicesPerGroup (splitSizes mesh commAxes) grouped =
      (commAxes.map (refSize mesh.axes)).prod := by
    rw [← radices]
    rfl
  refine ⟨grouped, inside, positive, transposeAxes_perm nodup inRange, radices,
    fun divide => ?_, ?_⟩
  · rw [eq_comm, ← List.forall₂_eq_eq_eq, List.forall₂_map_left_iff, List.forall₂_map_right_iff]
    refine each.imp fun shloAxisRef axis both => ?_
    obtain ⟨checked, found⟩ := both
    obtain ⟨named, selected⟩ := requestedDim_spec wellFormed.distinctNames checked
    rw [List.getD_eq_getElem?_getD, splitSizes, splitDims_weights wellFormed.distinctNames inside
      divide named (fun meshAxis listed same => (selected meshAxis listed same).2) found,
      Option.getD_some]
  · have explicit := flattenedReplicaGroups_eq mesh.numDevices nodup inRange positive enough
    rw [groupSize] at explicit
    exact Except.ok.inj (flattened.symm.trans explicit)

/-- Groups on a mesh whose axes all divide enumerate the mesh. -/
theorem FlattenRun.enumeratesMesh (wellFormed : mesh.WellFormed)
    (run : FlattenRun mesh commAxes grouped groups)
    (divide : ∀ meshAxis ∈ mesh.axes, PreSizesDivide commAxes meshAxis) :
    EnumeratesMesh mesh commAxes groups := by
  have total : (splitSizes mesh commAxes).prod = mesh.numDevices :=
    (splitDims_prod run.inside).2.mpr divide
  have groups_eq := run.groups_eq
  have strides := run.strides divide
  have permuted := run.permuted
  have devicesLength : (mesh.devices mesh.numDevices).length = mesh.numDevices := by
    rw [(devices_perm wellFormed).length_eq, List.length_map, List.length_range]
  rw [← run.radices] at groups_eq
  -- The mesh is made of as many blocks as there are positions along the other axes.
  have count : mesh.numDevices / (MixedRadix.reorder (splitSizes mesh commAxes) grouped).prod *
      (MixedRadix.reorder (splitSizes mesh commAxes) grouped).prod = mesh.numDevices := by
    refine Nat.div_mul_cancel ?_
    rw [← total, ← MixedRadix.prod_reorder permuted, transposeAxes, MixedRadix.reorder_append,
      List.prod_append]
    exact Nat.dvd_mul_left _ _
  refine ⟨?_, ?_, ?_, ?_⟩
  · intro group listed
    rw [groups_eq] at listed
    obtain ⟨i, -, rfl⟩ := List.mem_map.mp listed
    rw [List.length_map, List.length_range, run.radices]
  · rw [← run.radices, groups_eq, List.length_map, List.length_range, count]
  · have flat : groups.flatten = ((List.range mesh.numDevices).map (MixedRadix.transpose
        (splitSizes mesh commAxes) (transposeAxes (splitSizes mesh commAxes) grouped))).map
          fun index => (mesh.devices mesh.numDevices).getD index 0 := by
      rw [groups_eq, MixedRadix.flatten_blocks _ _ fun number =>
        (mesh.devices mesh.numDevices).getD (MixedRadix.transpose (splitSizes mesh commAxes)
          (transposeAxes (splitSizes mesh commAxes) grouped) number) 0, count, List.map_map]
      rfl
    have inOrder : (List.range mesh.numDevices).map
        (fun index => (mesh.devices mesh.numDevices).getD index 0) =
          mesh.devices mesh.numDevices := by
      refine List.ext_getElem (by simp [devicesLength]) fun place first second => ?_
      simp [second]
    have positions := MixedRadix.transpose_perm permuted run.positive
    rw [total] at positions
    rw [flat]
    exact (positions.map _).trans (List.Perm.of_eq inOrder)
  · intro group listed
    rw [groups_eq] at listed
    obtain ⟨i, -, rfl⟩ := List.mem_map.mp listed
    rw [← run.radices]
    refine ⟨MixedRadix.transpose (splitSizes mesh commAxes)
      (nonGroupedAxes (splitSizes mesh commAxes) grouped) i, fun position below => ?_⟩
    -- The group is a block of the transposed mesh, and the position is the offset in it.
    have offset : (List.zipWith (· * ·)
        (MixedRadix.digits (MixedRadix.reorder (splitSizes mesh commAxes) grouped) position)
        (commAxes.map (refStride mesh.axes))).sum =
          MixedRadix.transpose (splitSizes mesh commAxes) grouped position := by
      rw [MixedRadix.transpose, ← strides, List.zipWith_map_right]
    have index := MixedRadix.transpose_append (splitSizes mesh commAxes)
      (nonGroupedAxes (splitSizes mesh commAxes) grouped) grouped i below
    have inMesh := MixedRadix.transpose_lt permuted run.positive
      (i * (MixedRadix.reorder (splitSizes mesh commAxes) grouped).prod + position)
    have coordinates := MixedRadix.digits_transpose_inner permuted run.positive i below
    rw [total, ← devicesLength] at inMesh
    simp only [offset, ← index]
    constructor
    · rw [transposeAxes] at inMesh
      rw [List.getElem?_map, List.getElem?_range below, Option.map_some, transposeAxes,
        List.getD_eq_getElem?_getD, List.getElem?_eq_getElem inMesh, Option.getD_some]
    · rw [← coordinates, ← strides, MixedRadix.reorder, List.zipWith_map, List.zipWith_self]

/-- The devices behind the last position of the split mesh are in no group. -/
theorem FlattenRun.divides (wellFormed : mesh.WellFormed)
    (run : FlattenRun mesh commAxes grouped groups)
    (partition : groups.flatten.Perm (mesh.devices mesh.numDevices)) :
    ∀ meshAxis ∈ mesh.axes, PreSizesDivide commAxes meshAxis := by
  obtain ⟨short, exact⟩ := splitDims_prod run.inside
  apply exact.mp
  by_contra differ
  have below : (splitSizes mesh commAxes).prod < mesh.numDevices :=
    Nat.lt_of_le_of_ne short differ
  have permutedDevices := devices_perm wellFormed
  have devicesLength : (mesh.devices mesh.numDevices).length = mesh.numDevices := by
    rw [permutedDevices.length_eq, List.length_map, List.length_range]
  have nodup : (mesh.devices mesh.numDevices).Nodup := by
    refine permutedDevices.nodup_iff.mpr (List.nodup_range.map_on fun first _ second _ same => ?_)
    exact Int.ofNat_inj.mp same
  rw [← devicesLength] at below
  -- The first device that no position of the split mesh leads to is in some group after all.
  have member := partition.mem_iff.mpr (List.getElem_mem below)
  obtain ⟨group, listed, inGroup⟩ := List.mem_flatten.mp member
  rw [run.groups_eq] at listed
  obtain ⟨i, -, rfl⟩ := List.mem_map.mp listed
  obtain ⟨j, -, same⟩ := List.mem_map.mp inGroup
  have position := MixedRadix.transpose_lt run.permuted run.positive
    (i * (commAxes.map (refSize mesh.axes)).prod + j)
  have inside := Nat.lt_trans position below
  rw [List.getD_eq_getElem?_getD, List.getElem?_eq_getElem inside, Option.getD_some] at same
  have := (nodup.getElem_inj_iff).mp same
  omega

end Flattening

/-- Flattened groups enumerate the mesh exactly when the split points of every axis divide. -/
theorem enumeratesMesh_iff {mesh : MeshAttr} {commAxes : List AxisRefAttr}
    {groups : List (List Int)} (wellFormed : mesh.WellFormed)
    (succeeds : flattenReplicaGroupMeshAxes (.mesh mesh) (commAxes.map .axisRef) = .ok groups) :
    EnumeratesMesh mesh commAxes groups ↔
      ∀ meshAxis ∈ mesh.axes, PreSizesDivide commAxes meshAxis := by
  obtain ⟨grouped, run⟩ := FlattenRun.of_success wellFormed succeeds
  constructor
  · intro enumerates
    exact run.divides wellFormed enumerates.partition
  · intro divide
    exact run.enumeratesMesh wellFormed divide

/-- A mesh of two axes without device ids. -/
def twoAxisMesh : MeshAttr := ⟨[⟨"x", 2, by decide⟩, ⟨"y", 4, by decide⟩], none⟩

/-- Groups over the major part of the minor axis. -/
theorem enumeratesMesh_iff_two_axes :
    EnumeratesMesh twoAxisMesh [⟨"y", some ⟨1, 2⟩⟩] [[0, 2], [1, 3], [4, 6], [5, 7]] ↔
      ∀ meshAxis ∈ twoAxisMesh.axes, PreSizesDivide [⟨"y", some ⟨1, 2⟩⟩] meshAxis :=
  enumeratesMesh_iff ⟨by decide, fun _ absurd => nomatch absurd⟩ (by decide)

/-- A mesh of one axis with twelve devices. -/
def twelveDeviceMesh : MeshAttr := ⟨[⟨"x", 12, by decide⟩], none⟩

/-- The sub-axes of size four and two of an axis of size twelve give one group of eight. -/
theorem flatten_loses_devices :
    flattenReplicaGroupMeshAxes (.mesh twelveDeviceMesh)
        [.axisRef ⟨"x", some ⟨1, 4⟩⟩, .axisRef ⟨"x", some ⟨6, 2⟩⟩] =
      .ok [[0, 1, 2, 3, 4, 5, 6, 7]] ∧
    ¬EnumeratesMesh twelveDeviceMesh [⟨"x", some ⟨1, 4⟩⟩, ⟨"x", some ⟨6, 2⟩⟩]
      [[0, 1, 2, 3, 4, 5, 6, 7]] := by
  refine ⟨by decide, fun enumerates => ?_⟩
  have length := enumerates.partition.length_eq
  revert length
  decide

end Stablehlo
