import Mathlib.Algebra.Group.Int.Defs
import Mathlib.Algebra.Order.GroupWithZero.Canonical
import Mathlib.Algebra.Order.Ring.Nat
import Mathlib.Data.List.Nodup
import Stablehlo.Support.Fallible

/-! Replica groups and source target pairs of collective operations: verification and reading. -/

namespace Stablehlo

/-- A tensor of 64-bit integers in the text of a program. -/
structure DenseIntElementsAttr where
  /-- The sizes of the dimensions. -/
  shape : List Nat
  /-- The elements, in canonical order. -/
  values : List Int
  /-- There is an element for every index. -/
  complete : values.length = shape.prod
  /-- The elements fit into their 64-bit type. -/
  fits : ∀ value ∈ values, -2 ^ 63 ≤ value ∧ value < 2 ^ 63

/-- Collect the ids seen so far, checking that no id is seen again. -/
def collectReplicaIds (allGroupsMustHaveSameSize : Bool) (replicaIdsSeen : List Int) :
    List Int → Except String (List Int)
  | [] => .ok replicaIdsSeen
  | replicaId :: rest =>
    if replicaId = -1 then
      -- Groups of different sizes are padded with null ids.
      if allGroupsMustHaveSameSize then .error "Invalid replica id -1"
      else collectReplicaIds allGroupsMustHaveSameSize replicaIdsSeen rest
    else if replicaId ∈ replicaIdsSeen then
      .error s!"replica id #{replicaId} seen more than once"
    else
      collectReplicaIds allGroupsMustHaveSameSize (replicaId :: replicaIdsSeen) rest

/-- Check the constraints on replica groups that are given as a tensor. -/
def verifyReplicaGroups (replicaGroups : DenseIntElementsAttr)
    (allGroupsMustHaveSameSize useGlobalDeviceIds : Bool) (expectedGroupSize : Option Nat) :
    Except String Unit :=
  match replicaGroups.shape with
  | [numGroups, groupSize] =>
    if useGlobalDeviceIds && numGroups * groupSize == 0 then
      .error "if `use_global_device_ids` is set, the replica groups cannot be empty"
    else do
      let replicaIdsSeen ← collectReplicaIds allGroupsMustHaveSameSize [] replicaGroups.values
      -- The ids seen have to be the first ones, counted from zero.
      let missing := (List.range replicaIdsSeen.length).find? fun (id : Nat) =>
        !replicaIdsSeen.contains (id : Int)
      match missing with
      | some id => .error s!"replica id #{id} not seen in replica groups"
      | none =>
        match expectedGroupSize with
        | some expected =>
          if allGroupsMustHaveSameSize &&
              (numGroups == 0 || replicaGroups.values.length / numGroups != expected) then
            .error s!"group size of replica_groups must be {expected}"
          else .ok ()
        | none => .ok ()
  | _ => .error "replica groups should be a rank 2 tensor"

/-- Read the given number of rows, leaving out the padding and narrowing ids to 32 bits. -/
def readReplicaGroups (groupSize : Nat) : Nat → List Int → List (List UInt32)
  | 0, _ => []
  | numGroups + 1, values =>
    ((values.take groupSize).filter (· ≠ -1)).map UInt32.ofInt ::
      readReplicaGroups groupSize numGroups (values.drop groupSize)

/-- The replica groups of an operation, as lists of ids. -/
def getReplicaGroups (replicaGroups : DenseIntElementsAttr) : List (List UInt32) :=
  match replicaGroups.shape with
  | [numGroups, groupSize] => readReplicaGroups groupSize numGroups replicaGroups.values
  -- The verifier lets no other rank through.
  | _ => []

section SourceTargetPairs

end SourceTargetPairs

/-- Narrowing keeps an id that has at most 32 bits. -/
theorem toNat_ofInt {value : Int} (sign : 0 ≤ value) (small : value < 2 ^ 32) :
    ((UInt32.ofInt value).toNat : Int) = value := by
  -- Both remainders taken on the way leave the value as it is.
  rw [UInt32.ofInt, UInt32.toNat_ofNat']
  omega

/-- Narrowing keeps ids of at most 32 bits apart. -/
theorem map_ofInt_nodup {ids : List Int} (distinct : ids.Nodup)
    (within : ∀ id ∈ ids, 0 ≤ id ∧ id < 2 ^ 32) : (ids.map UInt32.ofInt).Nodup := by
  refine List.Nodup.map_on (fun first member second otherMember same => ?_) distinct
  rw [← toNat_ofInt (within first member).1 (within first member).2, same,
    toNat_ofInt (within second otherMember).1 (within second otherMember).2]

section ReplicaIds

/-- The ids of the replica groups, without the padding. -/
def DenseIntElementsAttr.replicaIds (replicaGroups : DenseIntElementsAttr) : List Int :=
  replicaGroups.values.filter (· ≠ -1)

/-- The ids are exactly the first ones, counted from zero. -/
def DenseIntElementsAttr.CoversIds (replicaGroups : DenseIntElementsAttr) (count : Nat) : Prop :=
  (∀ id < count, (id : Int) ∈ replicaGroups.replicaIds) ∧
    ∀ id ∈ replicaGroups.replicaIds, 0 ≤ id ∧ id < count

instance (replicaGroups : DenseIntElementsAttr) (count : Nat) :
    Decidable (replicaGroups.CoversIds count) :=
  inferInstanceAs (Decidable (_ ∧ _))

/-- The loop over the ids accepts only ids it has not seen. -/
theorem collectReplicaIds_spec {allGroupsMustHaveSameSize : Bool}
    {values replicaIdsSeen collected : List Int}
    (accepted : collectReplicaIds allGroupsMustHaveSameSize replicaIdsSeen values =
      .ok collected) :
    (values.filter (· ≠ -1)).Nodup ∧ ∀ id ∈ values.filter (· ≠ -1), id ∉ replicaIdsSeen := by
  induction values generalizing replicaIdsSeen with
  | nil => simp
  | cons replicaId rest ih =>
    simp only [collectReplicaIds] at accepted
    by_cases padding : replicaId = -1
    · -- Padding is skipped, unless it ends the loop.
      rw [if_pos padding] at accepted
      cases allGroupsMustHaveSameSize with
      | true => cases accepted
      | false => simpa [padding] using ih accepted
    · rw [if_neg padding] at accepted
      split at accepted
      · cases accepted
      rename_i fresh
      obtain ⟨distinct, unseen⟩ := ih accepted
      have kept : (replicaId :: rest).filter (· ≠ -1) = replicaId :: rest.filter (· ≠ -1) := by
        simp [padding]
      rw [kept]
      refine ⟨List.nodup_cons.mpr ⟨fun again => ?_, distinct⟩, fun id member => ?_⟩
      · exact unseen replicaId again (by simp)
      · rcases List.mem_cons.mp member with same | later
        · rw [same]
          exact fresh
        · exact fun seen => unseen id later (by simp [seen])

/-- A loop over new ids without padding and repetition collects all of them. -/
theorem collectReplicaIds_eq {allGroupsMustHaveSameSize : Bool} {values replicaIdsSeen : List Int}
    (ids : ∀ value ∈ values, value ≠ -1) (distinct : values.Nodup)
    (unseen : ∀ value ∈ values, value ∉ replicaIdsSeen) :
    collectReplicaIds allGroupsMustHaveSameSize replicaIdsSeen values =
      .ok (values.reverse ++ replicaIdsSeen) := by
  induction values generalizing replicaIdsSeen with
  | nil => rfl
  | cons replicaId rest ih =>
    obtain ⟨fresh, restDistinct⟩ := List.nodup_cons.mp distinct
    rw [collectReplicaIds, if_neg (ids replicaId (by simp)),
      if_neg (unseen replicaId (by simp)), ih (fun value later => ids value (by simp [later]))
        restDistinct ?_]
    · simp
    · intro value later seen
      rcases List.mem_cons.mp seen with same | before
      · exact fresh (same ▸ later)
      · exact unseen value (by simp [later]) before

/-- Accepted replica groups form a matrix in which no id occurs twice. -/
theorem verifyReplicaGroups_spec {replicaGroups : DenseIntElementsAttr}
    {allGroupsMustHaveSameSize useGlobalDeviceIds : Bool} {expectedGroupSize : Option Nat}
    (accepted : verifyReplicaGroups replicaGroups allGroupsMustHaveSameSize useGlobalDeviceIds
      expectedGroupSize = .ok ()) :
    (∃ numGroups groupSize, replicaGroups.shape = [numGroups, groupSize]) ∧
      replicaGroups.replicaIds.Nodup := by
  unfold verifyReplicaGroups at accepted
  split at accepted
  · rename_i numGroups groupSize shape
    refine ⟨⟨numGroups, groupSize, shape⟩, ?_⟩
    split at accepted
    · cases accepted
    obtain ⟨collected, looped, -⟩ := Fallible.bind_eq_ok.mp accepted
    exact (collectReplicaIds_spec looped).1
  · cases accepted

/-- Reading the rows one after the other leaves out the padding and narrows every id. -/
theorem flatten_readReplicaGroups {groupSize numGroups : Nat} {values : List Int}
    (complete : values.length = numGroups * groupSize) :
    (readReplicaGroups groupSize numGroups values).flatten =
      (values.filter (· ≠ -1)).map UInt32.ofInt := by
  induction numGroups generalizing values with
  | zero =>
    rw [Nat.zero_mul, List.length_eq_zero_iff] at complete
    simp [readReplicaGroups, complete]
  | succ numGroups ih =>
    -- The first row and the rows behind it make up all values.
    have rest : (values.drop groupSize).length = numGroups * groupSize := by
      rw [List.length_drop, complete, Nat.succ_mul]
      omega
    rw [readReplicaGroups, List.flatten_cons, ih rest, ← List.map_append, ← List.filter_append,
      List.take_append_drop]

/-- The groups read from accepted replica groups hold each id once, narrowed to 32 bits. -/
theorem flatten_getReplicaGroups {replicaGroups : DenseIntElementsAttr} {numGroups groupSize : Nat}
    (shape : replicaGroups.shape = [numGroups, groupSize]) :
    (getReplicaGroups replicaGroups).flatten = replicaGroups.replicaIds.map UInt32.ofInt := by
  rw [getReplicaGroups, shape]
  refine flatten_readReplicaGroups ?_
  simpa [shape] using replicaGroups.complete

end ReplicaIds

end Stablehlo
