import Mathlib.Data.Finset.Dedup
import Mathlib.Order.Basic

/-! The StableHLO process grid: process ids, process groups, and rendezvous results. -/

namespace Stablehlo

/-- StableHLO `channel_id`. -/
abbrev ChannelId := Int

/-- StableHLO `process_id`. -/
structure ProcessId where
  /-- StableHLO `replica_id`. -/
  replicaId : UInt32
  /-- StableHLO `partition_id`. -/
  partitionId : UInt32
  deriving DecidableEq, Repr

namespace ProcessId

/-- Process ids are sorted by replica first and by partition within a replica. -/
instance : Ord ProcessId where
  compare := compareLex (compareOn replicaId) (compareOn partitionId)

instance : Std.TransOrd ProcessId :=
  inferInstanceAs (Std.TransCmp (compareLex (compareOn replicaId) (compareOn partitionId)))

instance : Std.LawfulEqOrd ProcessId where
  eq_of_compare := by
    intro a b same
    -- The lexicographic comparison is a tie only when both components are.
    obtain ⟨replicas, partitions⟩ := compareLex_eq_eq.mp same
    cases a
    cases b
    congr
    · exact Std.LawfulEqOrd.eq_of_compare replicas
    · exact Std.LawfulEqOrd.eq_of_compare partitions

end ProcessId

/-- StableHLO `process_group`. -/
abbrev ProcessGroup := List ProcessId

/-- StableHLO `process_groups`. -/
abbrev ProcessGroups := List ProcessGroup

/-- The first process group containing the process, if there is one. -/
def ProcessGroups.findGroup (processGroups : ProcessGroups) (processId : ProcessId) :
    Option ProcessGroup :=
  processGroups.find? fun processGroup => processGroup.contains processId

/-- The sorted map `std::map<ProcessId, V>`. -/
abbrev ProcessMap (V : Type) := Std.ExtTreeMap ProcessId V

/-- What `rendezvous` returns: the tensors each process contributed. -/
structure RendezvousResult (Tensor : Type) where
  /-- The map kept behind the interface of the class. -/
  results : ProcessMap (List Tensor)

namespace RendezvousResult

variable {Tensor : Type}

/-- The result of a default-constructed or moved-from map. -/
def empty : RendezvousResult Tensor := ⟨∅⟩

/-- The tensors the process contributed, or no tensor for an unknown process. -/
def lookup (result : RendezvousResult Tensor) (processId : ProcessId) : List Tensor :=
  result.results[processId]?.getD []

/-- Whether all processes contributed the same number of tensors. -/
def hasMatchingOperandsCount (result : RendezvousResult Tensor) : Option Bool :=
  match result.results.toList with
  -- The source reads `begin()` unconditionally, which is undefined on an empty map.
  | [] => none
  | first :: rest => some ((first :: rest).all fun entry => first.2.length == entry.2.length)

end RendezvousResult

/-- The grid of processes a StableHLO program is run on. -/
structure ProcessGrid where
  /-- StableHLO `num_replicas`. -/
  numReplicas : UInt32
  /-- StableHLO `num_partitions`. -/
  numPartitions : UInt32

/-- The ids a counting loop from zero to the bound goes through. -/
def idsBelow (bound : UInt32) : List UInt32 :=
  (List.range bound.toNat).map UInt32.ofNat

namespace ProcessGrid

/-- StableHLO `cross_partition` communication strategy. -/
def crossPartition (grid : ProcessGrid) (partitionGroups : List (List UInt32)) : ProcessGroups :=
  partitionGroups.flatMap fun partitionGroup =>
    (idsBelow grid.numReplicas).map fun replicaId =>
      partitionGroup.map fun partitionId => ⟨replicaId, partitionId⟩

/-- StableHLO `cross_replica` communication strategy. -/
def crossReplica (grid : ProcessGrid) (replicaGroups : List (List UInt32)) : ProcessGroups :=
  replicaGroups.flatMap fun replicaGroup =>
    (idsBelow grid.numPartitions).map fun partitionId =>
      replicaGroup.map fun replicaId => ⟨replicaId, partitionId⟩

/-- StableHLO `cross_replica_and_partition` communication strategy. -/
def crossReplicaAndPartition (grid : ProcessGrid) (replicaGroups : List (List UInt32)) :
    ProcessGroups :=
  replicaGroups.map fun replicaGroup =>
    (idsBelow grid.numPartitions).flatMap fun partitionId =>
      replicaGroup.map fun replicaId => ⟨replicaId, partitionId⟩

/-- StableHLO `flattened_ids` communication strategy. -/
def flattenedIds (grid : ProcessGrid) (flattenedIdGroups : List (List UInt32)) : ProcessGroups :=
  flattenedIdGroups.map fun flattenedIdGroup =>
    flattenedIdGroup.map fun flattenedId =>
      ⟨flattenedId / grid.numPartitions, flattenedId % grid.numPartitions⟩

/-- The ids of the processes of the grid. -/
def Contains (grid : ProcessGrid) (processId : ProcessId) : Prop :=
  processId.replicaId < grid.numReplicas ∧ processId.partitionId < grid.numPartitions

instance (grid : ProcessGrid) (processId : ProcessId) : Decidable (grid.Contains processId) :=
  inferInstanceAs (Decidable (_ ∧ _))

end ProcessGrid

/-- A counter below a 32-bit bound does not wrap. -/
theorem toNat_ofNat_of_lt {bound : UInt32} {value : Nat} (below : value < bound.toNat) :
    (UInt32.ofNat value).toNat = value := by
  have fits : value < 2 ^ 32 := Nat.lt_trans below bound.toNat_lt
  rw [UInt32.toNat_ofNat', Nat.mod_eq_of_lt fits]

/-- The loop over 32-bit ids goes through exactly the ids below its bound. -/
@[simp] theorem mem_idsBelow {bound id : UInt32} : id ∈ idsBelow bound ↔ id < bound := by
  simp only [idsBelow, List.mem_map, List.mem_range, UInt32.lt_iff_toNat_lt]
  constructor
  · intro ⟨value, below, same⟩
    rw [← same, toNat_ofNat_of_lt below]
    exact below
  · intro below
    exact ⟨id.toNat, below, UInt32.ofNat_toNat⟩

/-- The loop over 32-bit ids visits no id twice. -/
theorem idsBelow_nodup (bound : UInt32) : (idsBelow bound).Nodup := by
  -- Below a 32-bit bound, no two counter values wrap to the same id.
  refine List.nodup_range.map_on ?_
  intro first below second otherBelow same
  rw [← toNat_ofNat_of_lt (List.mem_range.mp below), same,
    toNat_ofNat_of_lt (List.mem_range.mp otherBelow)]

namespace ProcessMap

variable {V : Type}

/-- A map has as many entries as any list of its keys without repetition. -/
theorem size_eq_length {map : ProcessMap V} {keys : List ProcessId} (nodup : keys.Nodup)
    (exact : ∀ key, key ∈ map ↔ key ∈ keys) : map.size = keys.length := by
  -- Both lists of keys are free of repetitions and have the same members.
  rw [← Std.ExtTreeMap.length_keys]
  have distinct : map.keys.Nodup := by simpa [List.Nodup] using map.distinct_keys
  exact ((List.perm_ext_iff_of_nodup distinct nodup).mpr (by simp [exact])).length_eq

/-- The map with an entry for every process of the list. -/
def ofMembers (members : List ProcessId) (value : ProcessId → V) : ProcessMap V :=
  members.foldl (fun map processId => map.insert processId (value processId)) ∅

/-- Inserting a list of entries changes the map at exactly those processes. -/
theorem foldl_insert_getElem? (value : ProcessId → V) (members : List ProcessId)
    (map : ProcessMap V) (processId : ProcessId) :
    (members.foldl (fun map member => map.insert member (value member)) map)[processId]? =
      if processId ∈ members then some (value processId) else map[processId]? := by
  induction members generalizing map with
  | nil => simp
  | cons member rest ih =>
    rw [List.foldl_cons, ih]
    by_cases later : processId ∈ rest
    · simp [later]
    · by_cases same : member = processId
      · subst same
        simp [later]
      · simp [later, same, Ne.symm same, Std.ExtTreeMap.getElem?_insert]

/-- The map has the entries of the processes of the list and no others. -/
theorem ofMembers_getElem? (members : List ProcessId) (value : ProcessId → V)
    (processId : ProcessId) :
    (ofMembers members value)[processId]? =
      if processId ∈ members then some (value processId) else none := by
  simp [ofMembers, foldl_insert_getElem?]

end ProcessMap

section RoundResult

variable {Tensor : Type}

/-- The result in which every member of the group contributed its operands. -/
def roundResult (processGroup : ProcessGroup) (operands : ProcessId → List Tensor) :
    RendezvousResult Tensor :=
  ⟨ProcessMap.ofMembers processGroup operands⟩

/-- The round's result maps every member to its operands and nothing else. -/
theorem roundResult_getElem? (processGroup : ProcessGroup) (operands : ProcessId → List Tensor)
    (processId : ProcessId) :
    (roundResult processGroup operands).results[processId]? =
      if processId ∈ processGroup then some (operands processId) else none := by
  exact ProcessMap.ofMembers_getElem? processGroup operands processId

/-- A member's contribution is found in the round's result. -/
theorem roundResult_lookup {processGroup : ProcessGroup} (operands : ProcessId → List Tensor)
    {processId : ProcessId} (member : processId ∈ processGroup) :
    (roundResult processGroup operands).lookup processId = operands processId := by
  simp [RendezvousResult.lookup, roundResult_getElem?, member]

/-- Two results are equal when every process finds the same contribution in them. -/
theorem RendezvousResult.ext_getElem? {first second : RendezvousResult Tensor}
    (same : ∀ processId : ProcessId,
      first.results[processId]? = second.results[processId]?) :
    first = second := by
  cases first
  cases second
  congr
  exact Std.ExtTreeMap.ext_getElem? fun {processId} => same processId

/-- The members of a group contribute equally many tensors. -/
def MatchingCounts (processGroup : ProcessGroup) (operands : ProcessId → List Tensor) : Prop :=
  ∀ first ∈ processGroup, ∀ second ∈ processGroup,
    (operands first).length = (operands second).length

/-- The count check of a complete round accepts exactly the matching counts. -/
theorem roundResult_hasMatchingOperandsCount {processGroup : ProcessGroup}
    (operands : ProcessId → List Tensor) (nonempty : processGroup ≠ []) :
    ∃ matching, (roundResult processGroup operands).hasMatchingOperandsCount = some matching ∧
      (matching = true ↔ MatchingCounts processGroup operands) := by
  -- The entries of the map are exactly the members paired with their operands.
  have entries : ∀ entry, entry ∈ (roundResult processGroup operands).results.toList ↔
      entry.1 ∈ processGroup ∧ operands entry.1 = entry.2 := by
    rintro ⟨processId, tensors⟩
    rw [Std.ExtTreeMap.mem_toList_iff_getElem?_eq_some, roundResult_getElem?]
    by_cases member : processId ∈ processGroup <;> simp [member]
  unfold RendezvousResult.hasMatchingOperandsCount
  cases listed : (roundResult processGroup operands).results.toList with
  | nil =>
    obtain ⟨member, inside⟩ := List.exists_mem_of_ne_nil _ nonempty
    have present := (entries (member, operands member)).mpr ⟨inside, rfl⟩
    simp [listed] at present
  | cons first rest =>
    refine ⟨_, rfl, ?_⟩
    rw [listed] at entries
    obtain ⟨firstMember, firstOperands⟩ := (entries first).mp (by simp)
    rw [List.all_eq_true]
    constructor
    · -- Every member's entry was compared with the first one.
      intro compared
      have length : ∀ member ∈ processGroup, (operands member).length = first.2.length := by
        intro member inside
        have equal := compared _ ((entries (member, operands member)).mpr ⟨inside, rfl⟩)
        exact (beq_iff_eq.mp equal).symm
      intro one inside other otherInside
      rw [length one inside, length other otherInside]
    · intro matching entry listedEntry
      obtain ⟨inside, same⟩ := (entries entry).mp listedEntry
      simp [← firstOperands, ← same, matching first.1 firstMember entry.1 inside]

end RoundResult

end Stablehlo
