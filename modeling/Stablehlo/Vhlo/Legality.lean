import Mathlib.Logic.Relation
import Stablehlo.Vhlo.Types

/-! Whether a type or an attribute may be in a program for a target version. -/

namespace Stablehlo

-- Types and attributes are checked by two functions that call each other.
-- The others are their loops over lists, over dictionary entries and over optional attributes.
mutual

/-- Check an attribute and the attributes and types inside it. -/
def isLegalAttribute (targetVersion : Version) (attr : VhloAttr) : Bool :=
  attr.versions.isLegalVersion targetVersion &&
    match attr with
    | .arrayV1 value => allLegalAttributes targetVersion value
    | .dictionaryV1 value => allLegalEntries targetVersion value
    | .floatV1 type _ => isLegalType targetVersion type
    | .integerV1 type _ => isLegalType targetVersion type
    | .tensorV1 type _ => isLegalType targetVersion type
    | .typeV1 value => isLegalType targetVersion value
    | .resultAccuracyV1 _ _ _ mode => isLegalAttribute targetVersion mode
    | .axisRefV1 name subAxisInfo =>
      isLegalAttribute targetVersion name && isLegalOptional targetVersion subAxisInfo
    | .replicaGroupMeshAxesV1 mesh axes =>
      isLegalAttribute targetVersion mesh && isLegalAttribute targetVersion axes
    -- A mesh and a mesh axis are not looked into.
    | _ => true

/-- Check a type and the types and attributes inside it. -/
def isLegalType (targetVersion : Version) (type : VhloType) : Bool :=
  type.versions.isLegalVersion targetVersion &&
    match type with
    | .complexV1 elementType => isLegalType targetVersion elementType
    | .functionV1 inputs outputs =>
      allLegalTypes targetVersion inputs && allLegalTypes targetVersion outputs
    | .rankedTensorV1 _ elementType encoding =>
      isLegalOptional targetVersion encoding && isLegalType targetVersion elementType
    | .tupleV1 types => allLegalTypes targetVersion types
    | .uniformQuantizedV1 _ storageType expressedType _ _ _ _ =>
      isLegalType targetVersion storageType && isLegalType targetVersion expressedType
    | .unrankedTensorV1 elementType => isLegalType targetVersion elementType
    | .rankedBufferV1 _ elementType => isLegalType targetVersion elementType
    -- A future and a type that is quantized per axis are not looked into.
    | _ => true

/-- Check an attribute that may be absent. -/
def isLegalOptional (targetVersion : Version) : Option VhloAttr → Bool
  | none => true
  | some attr => isLegalAttribute targetVersion attr

/-- Check a list of attributes. -/
def allLegalAttributes (targetVersion : Version) : List VhloAttr → Bool
  | [] => true
  | attr :: attrs => isLegalAttribute targetVersion attr && allLegalAttributes targetVersion attrs

/-- Check the keys and the values of a dictionary. -/
def allLegalEntries (targetVersion : Version) : List (VhloAttr × VhloAttr) → Bool
  | [] => true
  | (key, value) :: entries =>
    isLegalAttribute targetVersion key && isLegalAttribute targetVersion value &&
      allLegalEntries targetVersion entries

/-- Check a list of types. -/
def allLegalTypes (targetVersion : Version) : List VhloType → Bool
  | [] => true
  | type :: types => isLegalType targetVersion type && allLegalTypes targetVersion types

end

namespace VhloNode

/-- The check for a type or an attribute. -/
def isLegal (targetVersion : Version) : VhloNode → Bool
  | .type value => isLegalType targetVersion value
  | .attr value => isLegalAttribute targetVersion value

/-- The containers whose members are not checked. -/
def unchecked : VhloNode → Bool
  | .type (.futureV1 ..) | .type (.uniformQuantizedPerAxisV1 ..)
  | .attr (.meshAxisV1 ..) | .attr (.meshV1 ..) => true
  | _ => false

/-- The members that are checked. -/
def checkedMembers (node : VhloNode) : List VhloNode :=
  if node.unchecked then [] else node.members

/-- A type or an attribute that is itself, or is nested anywhere in, another one. -/
def Inside (inner outer : VhloNode) : Prop :=
  Relation.ReflTransGen (fun node member => member ∈ node.members) outer inner

/-- A type or an attribute inside another one, with no unchecked container around it. -/
def Reached (inner outer : VhloNode) : Prop :=
  Relation.ReflTransGen (fun node member => member ∈ node.checkedMembers) outer inner

/-- A type or an attribute that a reader of the version knows. -/
def InRange (targetVersion : Version) (node : VhloNode) : Prop :=
  node.versions.isLegalVersion targetVersion = true

instance (targetVersion : Version) (node : VhloNode) :
    Decidable (node.InRange targetVersion) :=
  inferInstanceAs (Decidable (_ = true))

variable {targetVersion : Version}

/-- The loops check every element. -/
theorem allLegal_iff :
    (∀ attrs : List VhloAttr, allLegalAttributes targetVersion attrs = true ↔
      ∀ node ∈ attrs.map VhloNode.attr, node.isLegal targetVersion = true) ∧
    (∀ types : List VhloType, allLegalTypes targetVersion types = true ↔
      ∀ node ∈ types.map VhloNode.type, node.isLegal targetVersion = true) ∧
    (∀ attr : Option VhloAttr, isLegalOptional targetVersion attr = true ↔
      ∀ node ∈ attr.toList.map VhloNode.attr, node.isLegal targetVersion = true) ∧
    ∀ entries : List (VhloAttr × VhloAttr), allLegalEntries targetVersion entries = true ↔
      ∀ node ∈ entries.flatMap fun entry => [VhloNode.attr entry.1, VhloNode.attr entry.2],
        node.isLegal targetVersion = true := by
  refine ⟨fun attrs => ?_, fun types => ?_, fun attr => ?_, fun entries => ?_⟩
  · induction attrs with
    | nil => simp [allLegalAttributes]
    | cons attr attrs ih =>
      rw [allLegalAttributes, Bool.and_eq_true, ih, List.map_cons, List.forall_mem_cons]
      rfl
  · induction types with
    | nil => simp [allLegalTypes]
    | cons type types ih =>
      rw [allLegalTypes, Bool.and_eq_true, ih, List.map_cons, List.forall_mem_cons]
      rfl
  · cases attr with
    | none => simp [isLegalOptional]
    | some attr => simp [isLegalOptional, isLegal]
  · induction entries with
    | nil => simp [allLegalEntries]
    | cons entry entries ih =>
      obtain ⟨key, value⟩ := entry
      rw [allLegalEntries, Bool.and_eq_true, Bool.and_eq_true, ih, List.flatMap_cons,
        List.forall_mem_append]
      simp [isLegal]

/-- The check of a node is that of its own version and of the members it looks into. -/
theorem isLegal_eq_true (node : VhloNode) :
    node.isLegal targetVersion = true ↔ node.InRange targetVersion ∧
      ∀ member ∈ node.checkedMembers, member.isLegal targetVersion = true := by
  obtain ⟨attributes, types, optional, entries⟩ := @allLegal_iff targetVersion
  cases node with
  | type value =>
    cases value with
    | rankedTensorV1 shape elementType encoding =>
      -- The encoding is checked before the element type.
      simp only [isLegal, isLegalType, InRange, versions, checkedMembers, unchecked, members,
        optional, Bool.and_eq_true, List.forall_mem_cons, Bool.false_eq_true, if_false]
      exact and_congr_right fun _ => and_comm
    | _ =>
      simp [isLegal, isLegalType, InRange, versions, checkedMembers, unchecked, members, types,
        or_imp, forall_and]
  | attr value =>
    cases value <;>
      simp [isLegal, isLegalAttribute, InRange, versions, checkedMembers, unchecked, members,
        attributes, optional, entries, or_imp, forall_and]

/-- The members that are checked are members. -/
theorem mem_members {node member : VhloNode} (listed : member ∈ node.checkedMembers) :
    member ∈ node.members := by
  unfold checkedMembers at listed
  split at listed
  · cases listed
  · exact listed

/-- The check accepts exactly when everything that it reaches is in range. -/
theorem isLegal_iff_reached (node : VhloNode) :
    node.isLegal targetVersion = true ↔
      ∀ inner : VhloNode, inner.Reached node → inner.InRange targetVersion := by
  induction node using VhloNode.induction with
  | step node ih =>
    rw [isLegal_eq_true]
    constructor
    · intro ⟨own, members⟩ inner reached
      -- The path to the inner node is empty, or it starts with a member that is checked.
      rcases Relation.ReflTransGen.cases_head reached with rfl | ⟨member, listed, rest⟩
      · exact own
      · exact (ih member (mem_members listed)).mp (members member listed) inner rest
    · intro all
      refine ⟨all node .refl, fun member listed => ?_⟩
      apply (ih member (mem_members listed)).mpr
      intro inner reached
      exact all inner (.head listed reached)

/-- Whatever is reached is inside. -/
theorem Reached.inside {inner outer : VhloNode} (reached : inner.Reached outer) :
    inner.Inside outer := by
  exact Relation.ReflTransGen.mono (fun _ _ => mem_members) _ _ reached

end VhloNode

/--
The check accepts exactly what has everything inside it in range, under a condition.

What only unchecked containers hold is in range, or something else is not.
-/
theorem isLegal_iff_inRange_iff (targetVersion : Version) (node : VhloNode) :
    (node.isLegal targetVersion = true ↔
      ∀ inner : VhloNode, inner.Inside node → inner.InRange targetVersion) ↔
    (∀ inner : VhloNode, inner.Inside node → ¬inner.Reached node →
      inner.InRange targetVersion) ∨
      ∃ inner : VhloNode, inner.Reached node ∧ ¬inner.InRange targetVersion := by
  rw [VhloNode.isLegal_iff_reached]
  constructor
  · intro exact
    by_cases reached : ∀ inner : VhloNode, inner.Reached node → inner.InRange targetVersion
    · exact .inl fun inner inside _ => exact.mp reached inner inside
    · obtain ⟨inner, outside⟩ := Classical.not_forall.mp reached
      exact .inr ⟨inner, Classical.not_imp.mp outside⟩
  · intro condition
    constructor
    · intro reached inner inside
      rcases condition with hidden | ⟨other, otherReached, outside⟩
      · by_cases found : inner.Reached node
        · exact reached inner found
        · exact hidden inner inside found
      · exact absurd (reached other otherReached) outside
    · intro all inner reached
      exact all inner reached.inside

/-- A type quantized per axis, with a storage type that is newer than itself. -/
def quantizedPerAxisSI2 : VhloType :=
  .uniformQuantizedPerAxisV1 1 (.scalar .integerSI2V1) (.scalar .floatF32V1) 0
    [⟨.ieeeDouble, 0x3FF0000000000000⟩] [0] (-2) 1

/-- Version 1.1.0 has types quantized per axis, and it has no two-bit integers. -/
theorem isLegalType_misses_storageType :
    isLegalType ⟨1, 1, 0⟩ quantizedPerAxisSI2 = true ∧
      ¬∀ inner : VhloNode, inner.Inside (.type quantizedPerAxisSI2) → inner.InRange ⟨1, 1, 0⟩ := by
  refine ⟨by decide, fun all => ?_⟩
  have inside : VhloNode.Inside (.type (.scalar .integerSI2V1)) (.type quantizedPerAxisSI2) :=
    .single (by simp [VhloNode.members, quantizedPerAxisSI2])
  have inRange := all _ inside
  revert inRange
  decide

end Stablehlo
