import Stablehlo.Dialect.ReplicaGroups
import Stablehlo.Reference.ProcessGrid

/-! The process groups of verified replica groups partition the process grid. -/

namespace Stablehlo

/-- Every process of the grid is in exactly one process group, and once in it. -/
structure PartitionsGrid (grid : ProcessGrid) (processGroups : ProcessGroups) : Prop where
  /-- The groups have members in the grid only. -/
  inside : ∀ processGroup ∈ processGroups, ∀ processId ∈ processGroup, grid.Contains processId
  /-- No group lists a process twice. -/
  once : ∀ processGroup ∈ processGroups, processGroup.Nodup
  /-- A process of the grid is in the group of one place and of no other place. -/
  unique : ∀ processId, grid.Contains processId →
    ∃ (place : Nat) (processGroup : ProcessGroup),
      processGroups[place]? = some processGroup ∧ processId ∈ processGroup ∧
      ∀ (other : Nat) (otherGroup : ProcessGroup), processGroups[other]? = some otherGroup →
        processId ∈ otherGroup → other = place
  /-- Looking for the group of a process finds that group. -/
  found : ∀ processId, grid.Contains processId → ∀ processGroup ∈ processGroups,
    processId ∈ processGroup → processGroups.findGroup processId = some processGroup

section Flattened

variable {grid : ProcessGrid} {processGroups : ProcessGroups}

/-- In groups without common members, two places with a common member are the same. -/
theorem place_unique_of_flatten (distinct : processGroups.flatten.Nodup) {first second : Nat}
    {group other : ProcessGroup} (found : processGroups[first]? = some group)
    (otherFound : processGroups[second]? = some other) {processId : ProcessId}
    (member : processId ∈ group) (otherMember : processId ∈ other) : first = second := by
  obtain ⟨-, apart⟩ := List.nodup_flatten.mp distinct
  obtain ⟨below, rfl⟩ := List.getElem?_eq_some_iff.mp found
  obtain ⟨otherBelow, rfl⟩ := List.getElem?_eq_some_iff.mp otherFound
  -- Of two different places, the earlier group is disjoint from the later one.
  rcases Nat.lt_trichotomy first second with before | same | behind
  · exact absurd otherMember (List.pairwise_iff_getElem.mp apart first second below otherBelow
      before member)
  · exact same
  · exact absurd member (List.pairwise_iff_getElem.mp apart second first otherBelow below
      behind otherMember)

/-- Groups that list every process of the grid once partition the grid. -/
theorem partitionsGrid_of_flatten (distinct : processGroups.flatten.Nodup)
    (members : ∀ processId, processId ∈ processGroups.flatten ↔ grid.Contains processId) :
    PartitionsGrid grid processGroups where
  inside processGroup listed processId member :=
    (members processId).mp (List.mem_flatten.mpr ⟨processGroup, listed, member⟩)
  once processGroup listed := (List.nodup_flatten.mp distinct).1 processGroup listed
  unique processId inside := by
    obtain ⟨processGroup, listed, member⟩ := List.mem_flatten.mp ((members processId).mpr inside)
    obtain ⟨place, found⟩ := List.mem_iff_getElem?.mp listed
    exact ⟨place, processGroup, found, member, fun other otherGroup otherFound otherMember =>
      place_unique_of_flatten distinct otherFound found otherMember member⟩
  found processId inside processGroup listed member := by
    -- The search stops at some group with the process, and there is only one such place.
    have some : (processGroups.findGroup processId).isSome := by
      rw [ProcessGroups.findGroup, List.find?_isSome]
      exact ⟨processGroup, listed, by simpa using member⟩
    obtain ⟨foundGroup, stops⟩ := Option.isSome_iff_exists.mp some
    have foundMember : processId ∈ foundGroup := by
      simpa using List.find?_some stops
    obtain ⟨first, firstPlace⟩ := List.mem_iff_getElem?.mp (List.mem_of_find?_eq_some stops)
    obtain ⟨second, secondPlace⟩ := List.mem_iff_getElem?.mp listed
    have same := place_unique_of_flatten distinct firstPlace secondPlace foundMember member
    rw [same, secondPlace] at firstPlace
    rw [stops, Option.some.inj firstPlace]

end Flattened

section Strategies

variable {grid : ProcessGrid} {ids : List (List UInt32)}

/-- Groups of ids, each repeated along the other dimension of the grid. -/
def repeatedGroups (place : UInt32 → UInt32 → ProcessId) (others : List UInt32)
    (ids : List (List UInt32)) : ProcessGroups :=
  ids.flatMap fun group => others.map fun other => group.map fun id => place id other

/-- Repeated groups list the process for every id and every other coordinate. -/
theorem mem_flatten_repeatedGroups {place : UInt32 → UInt32 → ProcessId} {others : List UInt32}
    {processId : ProcessId} :
    processId ∈ (repeatedGroups place others ids).flatten ↔
      ∃ id ∈ ids.flatten, ∃ other ∈ others, place id other = processId := by
  simp only [repeatedGroups, List.mem_flatten, List.mem_flatMap, List.mem_map]
  constructor
  · intro ⟨processGroup, ⟨group, listed, other, otherListed, same⟩, member⟩
    rw [← same] at member
    obtain ⟨id, inside, placed⟩ := List.mem_map.mp member
    exact ⟨id, ⟨group, listed, inside⟩, other, otherListed, placed⟩
  · intro ⟨id, ⟨group, listed, inside⟩, other, otherListed, placed⟩
    exact ⟨_, ⟨group, listed, other, otherListed, rfl⟩, List.mem_map.mpr ⟨id, inside, placed⟩⟩

/-- Repeated groups of distinct ids have no member in common. -/
theorem nodup_flatten_repeatedGroups {place : UInt32 → UInt32 → ProcessId}
    (injective : Function.Injective2 place) {others : List UInt32} (otherDistinct : others.Nodup)
    (distinct : ids.flatten.Nodup) : (repeatedGroups place others ids).flatten.Nodup := by
  obtain ⟨groups, apart⟩ := List.nodup_flatten.mp distinct
  rw [repeatedGroups, List.nodup_flatten]
  refine ⟨?_, ?_⟩
  · intro processGroup listed
    obtain ⟨group, member, inRepeated⟩ := List.mem_flatMap.mp listed
    obtain ⟨other, -, rfl⟩ := List.mem_map.mp inRepeated
    exact (groups group member).map (injective.left other)
  · refine List.pairwise_flatMap.mpr ⟨fun group _ => ?_, apart.imp fun {group later} disjoint => ?_⟩
    · -- Repetitions of one group differ in the other coordinate.
      refine List.pairwise_map.mpr (otherDistinct.imp fun {first second} different => ?_)
      intro processId member otherMember
      obtain ⟨id, -, placed⟩ := List.mem_map.mp member
      obtain ⟨otherId, -, otherPlaced⟩ := List.mem_map.mp otherMember
      exact different (injective (placed.trans otherPlaced.symm)).2
    · -- Repetitions of different groups differ in the id.
      intro processGroup listed otherGroup otherListed
      obtain ⟨first, -, rfl⟩ := List.mem_map.mp listed
      obtain ⟨second, -, rfl⟩ := List.mem_map.mp otherListed
      intro processId member otherMember
      obtain ⟨id, inside, placed⟩ := List.mem_map.mp member
      obtain ⟨otherId, otherInside, otherPlaced⟩ := List.mem_map.mp otherMember
      have same := (injective (placed.trans otherPlaced.symm)).1
      exact disjoint inside (same ▸ otherInside)

/-- Replica groups that cover the replicas list every process of the grid once. -/
theorem flatten_crossReplica (distinct : ids.flatten.Nodup)
    (covers : ∀ id, id ∈ ids.flatten ↔ id < grid.numReplicas) :
    (grid.crossReplica ids).flatten.Nodup ∧
      ∀ processId, processId ∈ (grid.crossReplica ids).flatten ↔ grid.Contains processId := by
  have strategy : grid.crossReplica ids =
      repeatedGroups ProcessId.mk (idsBelow grid.numPartitions) ids := rfl
  rw [strategy]
  refine ⟨nodup_flatten_repeatedGroups ?_ (idsBelow_nodup _) distinct, fun processId => ?_⟩
  · intro id otherId other otherOther same
    exact ProcessId.mk.inj same
  · rw [mem_flatten_repeatedGroups]
    constructor
    · intro ⟨id, inside, other, below, placed⟩
      rw [← placed]
      exact ⟨(covers id).mp inside, mem_idsBelow.mp below⟩
    · intro inside
      exact ⟨_, (covers _).mpr inside.1, _, mem_idsBelow.mpr inside.2, rfl⟩

/-- Replica groups that cover the replicas partition the grid, partition by partition. -/
theorem crossReplica_partitions (distinct : ids.flatten.Nodup)
    (covers : ∀ id, id ∈ ids.flatten ↔ id < grid.numReplicas) :
    PartitionsGrid grid (grid.crossReplica ids) :=
  have listed := flatten_crossReplica distinct covers
  partitionsGrid_of_flatten listed.1 listed.2

/-- Replica groups that cover the replicas partition the grid, with all partitions together. -/
theorem crossReplicaAndPartition_partitions (distinct : ids.flatten.Nodup)
    (covers : ∀ id, id ∈ ids.flatten ↔ id < grid.numReplicas) :
    PartitionsGrid grid (grid.crossReplicaAndPartition ids) := by
  -- The groups of the other strategy are joined without changing who is listed.
  have joined : (grid.crossReplicaAndPartition ids).flatten = (grid.crossReplica ids).flatten := by
    simp [ProcessGrid.crossReplicaAndPartition, ProcessGrid.crossReplica, List.flatMap_def,
      List.flatten_flatten, Function.comp_def]
  have listed := flatten_crossReplica distinct covers
  rw [← joined] at listed
  exact partitionsGrid_of_flatten listed.1 listed.2

/-- Partition groups that cover the partitions partition the grid, replica by replica. -/
theorem crossPartition_partitions (distinct : ids.flatten.Nodup)
    (covers : ∀ id, id ∈ ids.flatten ↔ id < grid.numPartitions) :
    PartitionsGrid grid (grid.crossPartition ids) := by
  have strategy : grid.crossPartition ids =
      repeatedGroups (fun id other => ⟨other, id⟩) (idsBelow grid.numReplicas) ids := rfl
  rw [strategy]
  refine partitionsGrid_of_flatten (nodup_flatten_repeatedGroups ?_ (idsBelow_nodup _) distinct)
    fun processId => ?_
  · intro id otherId other otherOther same
    exact (ProcessId.mk.inj same).symm
  · rw [mem_flatten_repeatedGroups]
    constructor
    · intro ⟨id, inside, other, below, placed⟩
      rw [← placed]
      exact ⟨mem_idsBelow.mp below, (covers id).mp inside⟩
    · intro inside
      exact ⟨_, (covers _).mpr inside.2, _, mem_idsBelow.mpr inside.1, rfl⟩

/-- Groups of flattened ids that cover the grid partition it. -/
theorem flattenedIds_partitions (distinct : ids.flatten.Nodup)
    (covers : ∀ id, id ∈ ids.flatten ↔
      id.toNat < grid.numReplicas.toNat * grid.numPartitions.toNat)
    (small : grid.numReplicas.toNat * grid.numPartitions.toNat ≤ 2 ^ 32) :
    PartitionsGrid grid (grid.flattenedIds ids) := by
  have listed : (grid.flattenedIds ids).flatten = ids.flatten.map fun id =>
      (⟨id / grid.numPartitions, id % grid.numPartitions⟩ : ProcessId) := by
    simp [ProcessGrid.flattenedIds, List.map_flatten]
  refine partitionsGrid_of_flatten ?_ fun processId => ?_ <;> rw [listed]
  · -- A flattened id is determined by its quotient and its remainder.
    refine distinct.map fun first second same => ?_
    obtain ⟨quotients, remainders⟩ := ProcessId.mk.inj same
    have quotients := congrArg UInt32.toNat quotients
    have remainders := congrArg UInt32.toNat remainders
    simp only [UInt32.toNat_div, UInt32.toNat_mod] at quotients remainders
    rw [← UInt32.toNat_inj, ← Nat.div_add_mod first.toNat grid.numPartitions.toNat, quotients,
      remainders, Nat.div_add_mod]
  · rw [List.mem_map]
    constructor
    · intro ⟨id, inside, placed⟩
      have below := (covers id).mp inside
      have positive : 0 < grid.numPartitions.toNat :=
        Nat.pos_of_ne_zero fun none => by simp [none] at below
      rw [← placed, ProcessGrid.Contains, UInt32.lt_iff_toNat_lt, UInt32.lt_iff_toNat_lt,
        UInt32.toNat_div, UInt32.toNat_mod]
      exact ⟨(Nat.div_lt_iff_lt_mul positive).mpr below, Nat.mod_lt _ positive⟩
    · intro ⟨replica, partition⟩
      rw [UInt32.lt_iff_toNat_lt] at replica partition
      -- The process is that of the id in row-major order.
      obtain ⟨flat, flatId⟩ : ∃ flat, flat = processId.replicaId.toNat *
          grid.numPartitions.toNat + processId.partitionId.toNat := ⟨_, rfl⟩
      have below : flat < grid.numReplicas.toNat * grid.numPartitions.toNat :=
        calc flat < (processId.replicaId.toNat + 1) * grid.numPartitions.toNat := by
              rw [Nat.succ_mul]
              omega
          _ ≤ _ := Nat.mul_le_mul_right _ replica
      have value : (UInt32.ofNat flat).toNat = flat := by
        rw [UInt32.toNat_ofNat', Nat.mod_eq_of_lt (by omega)]
      refine ⟨UInt32.ofNat flat, (covers _).mpr (by rw [value]; exact below), ?_⟩
      have quotient : UInt32.ofNat flat / grid.numPartitions = processId.replicaId := by
        rw [← UInt32.toNat_inj, UInt32.toNat_div, value, flatId, Nat.mul_comm,
          Nat.mul_add_div (by omega), Nat.div_eq_of_lt partition, Nat.add_zero]
      have remainder : UInt32.ofNat flat % grid.numPartitions = processId.partitionId := by
        rw [← UInt32.toNat_inj, UInt32.toNat_mod, value, flatId, Nat.mul_add_mod_self_right,
          Nat.mod_eq_of_lt partition]
      rw [quotient, remainder]

end Strategies

section Verified

variable {grid : ProcessGrid} {replicaGroups : DenseIntElementsAttr}

/-- The groups read from accepted replica groups hold the ids they cover, each of them once. -/
theorem getReplicaGroups_covers {count : Nat}
    (rows : ∃ numGroups groupSize, replicaGroups.shape = [numGroups, groupSize])
    (distinct : replicaGroups.replicaIds.Nodup) (covers : replicaGroups.CoversIds count)
    (small : count ≤ 2 ^ 32) :
    (getReplicaGroups replicaGroups).flatten.Nodup ∧
      ∀ id, id ∈ (getReplicaGroups replicaGroups).flatten ↔ id.toNat < count := by
  obtain ⟨numGroups, groupSize, shape⟩ := rows
  rw [flatten_getReplicaGroups shape]
  have within : ∀ id ∈ replicaGroups.replicaIds, 0 ≤ id ∧ id < 2 ^ 32 := by
    intro id member
    have bounds := covers.2 id member
    omega
  refine ⟨map_ofInt_nodup distinct within, fun id => ?_⟩
  rw [List.mem_map]
  constructor
  · intro ⟨value, member, same⟩
    have bounds := covers.2 value member
    have kept := toNat_ofInt (within value member).1 (within value member).2
    rw [same] at kept
    omega
  · intro below
    refine ⟨id.toNat, covers.1 id.toNat below, ?_⟩
    have kept := toNat_ofInt (Int.natCast_nonneg id.toNat) (by have := id.toNat_lt; omega)
    exact UInt32.toNat_inj.mp (by omega)

end Verified

/--
Under every communication strategy, verified replica groups that cover their ids partition the grid.

Flattened ids have 32 bits, so the grid may not have more processes than there are such ids.
-/
theorem replicaGroups_partition (grid : ProcessGrid) (replicaGroups : DenseIntElementsAttr)
    (allGroupsMustHaveSameSize useGlobalDeviceIds : Bool) (expectedGroupSize : Option Nat)
    (accepted : verifyReplicaGroups replicaGroups allGroupsMustHaveSameSize useGlobalDeviceIds
      expectedGroupSize = .ok ()) :
    (replicaGroups.CoversIds grid.numReplicas.toNat →
      PartitionsGrid grid (grid.crossReplica (getReplicaGroups replicaGroups))) ∧
    (replicaGroups.CoversIds grid.numReplicas.toNat →
      PartitionsGrid grid (grid.crossReplicaAndPartition (getReplicaGroups replicaGroups))) ∧
    (replicaGroups.CoversIds grid.numPartitions.toNat →
      PartitionsGrid grid (grid.crossPartition (getReplicaGroups replicaGroups))) ∧
    (replicaGroups.CoversIds (grid.numReplicas.toNat * grid.numPartitions.toNat) →
      grid.numReplicas.toNat * grid.numPartitions.toNat ≤ 2 ^ 32 →
      PartitionsGrid grid (grid.flattenedIds (getReplicaGroups replicaGroups))) := by
  obtain ⟨rows, distinct⟩ := verifyReplicaGroups_spec accepted
  refine ⟨fun covers => ?_, fun covers => ?_, fun covers => ?_, fun covers small => ?_⟩
  · have listed := getReplicaGroups_covers rows distinct covers (Nat.le_of_lt (UInt32.toNat_lt _))
    exact crossReplica_partitions listed.1 listed.2
  · have listed := getReplicaGroups_covers rows distinct covers (Nat.le_of_lt (UInt32.toNat_lt _))
    exact crossReplicaAndPartition_partitions listed.1 listed.2
  · have listed := getReplicaGroups_covers rows distinct covers (Nat.le_of_lt (UInt32.toNat_lt _))
    exact crossPartition_partitions listed.1 listed.2
  · have listed := getReplicaGroups_covers rows distinct covers small
    exact flattenedIds_partitions listed.1 listed.2 small

/-- Two groups of two replicas, in a grid with three partitions. -/
theorem replicaGroups_partition_two_groups :
    PartitionsGrid ⟨4, 3⟩ (ProcessGrid.crossReplica ⟨4, 3⟩
      (getReplicaGroups ⟨[2, 3], [2, 0, -1, 3, 1, -1], rfl, by decide⟩)) :=
  (replicaGroups_partition ⟨4, 3⟩ ⟨[2, 3], [2, 0, -1, 3, 1, -1], rfl, by decide⟩ false false none
    rfl).1 (by decide)

/-- One group that lists the given number of ids in their order. -/
def singleGroup (count : Nat) (fits : count ≤ 2 ^ 63) : DenseIntElementsAttr where
  shape := [1, count]
  values := (List.range count).map Int.ofNat
  complete := by simp
  fits value member := by
    obtain ⟨id, below, rfl⟩ := List.mem_map.mp member
    rw [List.mem_range] at below
    rw [Int.ofNat_eq_natCast]
    omega

/-- A single group has no padding. -/
theorem singleGroup_replicaIds {count : Nat} (fits : count ≤ 2 ^ 63) :
    (singleGroup count fits).replicaIds = (List.range count).map Int.ofNat := by
  refine List.filter_eq_self.mpr fun value member => ?_
  obtain ⟨id, -, rfl⟩ := List.mem_map.mp member
  simp

/-- A single group with all ids of its size is accepted. -/
theorem singleGroup_accepted {count : Nat} (fits : count ≤ 2 ^ 63) (nonempty : count ≠ 0) :
    verifyReplicaGroups (singleGroup count fits) true true none = .ok () := by
  have distinct : ((List.range count).map Int.ofNat).Nodup :=
    List.nodup_range.map fun first second same => Int.ofNat.inj same
  have collected : collectReplicaIds true [] ((List.range count).map Int.ofNat) =
      .ok (((List.range count).map Int.ofNat).reverse ++ []) := by
    refine collectReplicaIds_eq (fun value member => ?_) distinct (by simp)
    obtain ⟨id, -, rfl⟩ := List.mem_map.mp member
    rw [Int.ofNat_eq_natCast]
    omega
  -- No id below the size is missing.
  have present : ((List.range (((List.range count).map Int.ofNat).reverse ++ []).length).find?
      fun (id : Nat) =>
        !(((List.range count).map Int.ofNat).reverse ++ []).contains (id : Int)) = none := by
    rw [List.find?_eq_none]
    intro id below
    simp only [List.append_nil, List.length_reverse, List.length_map, List.length_range,
      List.mem_range] at below
    simp only [List.append_nil, Bool.not_eq_true', Bool.not_eq_false, List.contains_iff_mem,
      List.mem_reverse, List.mem_map, List.mem_range]
    exact ⟨id, below, rfl⟩
  simp only [verifyReplicaGroups, singleGroup, Nat.one_mul, Bool.true_and, beq_iff_eq, nonempty,
    if_false, collected, Fallible.ok_bind, present]

/-- A group of more than 2^32 flattened ids lists a process twice. -/
theorem singleGroup_flattenedIds_repeats {count : Nat} (fits : count ≤ 2 ^ 63)
    (large : 2 ^ 32 < count) (grid : ProcessGrid) :
    ¬PartitionsGrid grid (grid.flattenedIds (getReplicaGroups (singleGroup count fits))) := by
  intro partition
  let process (id : Nat) : ProcessId :=
    ⟨UInt32.ofInt id / grid.numPartitions, UInt32.ofInt id % grid.numPartitions⟩
  -- The only group lists the processes of all ids, which the ids 0 and 2^32 share.
  have listed : (grid.flattenedIds (getReplicaGroups (singleGroup count fits))).flatten =
      (List.range count).map process := by
    rw [ProcessGrid.flattenedIds, ← List.map_flatten, flatten_getReplicaGroups rfl,
      singleGroup_replicaIds]
    simp [process]
  have single : grid.flattenedIds (getReplicaGroups (singleGroup count fits)) =
      [(List.range count).map process] := by
    rw [← listed]
    simp [getReplicaGroups, singleGroup, readReplicaGroups, ProcessGrid.flattenedIds]
  have distinct := partition.once ((List.range count).map process) (by simp [single])
  have same := List.inj_on_of_nodup_map distinct (List.mem_range.mpr (by omega : 0 < count))
    (List.mem_range.mpr large) rfl
  omega

/-- With 65536 replicas and 65537 partitions, flattened ids do not partition the grid. -/
theorem flattenedIds_wrap :
    verifyReplicaGroups (singleGroup (65536 * 65537) (by decide)) true true none = .ok () ∧
      (singleGroup (65536 * 65537) (by decide)).CoversIds
        ((65536 : UInt32).toNat * (65537 : UInt32).toNat) ∧
      ¬PartitionsGrid ⟨65536, 65537⟩ (ProcessGrid.flattenedIds ⟨65536, 65537⟩
        (getReplicaGroups (singleGroup (65536 * 65537) (by decide)))) := by
  refine ⟨singleGroup_accepted _ (by decide), ⟨?_, ?_⟩,
    singleGroup_flattenedIds_repeats _ (by omega) _⟩
  · intro id below
    rw [singleGroup_replicaIds, List.mem_map]
    exact ⟨id, List.mem_range.mpr below, rfl⟩
  · intro id member
    rw [singleGroup_replicaIds, List.mem_map] at member
    obtain ⟨value, below, rfl⟩ := member
    exact ⟨Int.natCast_nonneg value, Int.ofNat_lt.mpr (List.mem_range.mp below)⟩

end Stablehlo
