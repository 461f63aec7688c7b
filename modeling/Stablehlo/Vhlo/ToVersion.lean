import Stablehlo.Support.RegionTree
import Stablehlo.Vhlo.Legality
import Stablehlo.Vhlo.VersionPatterns

/-! The conversion of a program to a target version, and back. -/

namespace Stablehlo

/-- A version as the operations of a program depend on it, which patches do not change. -/
def Version.withoutPatch (version : Version) : Version :=
  { version with patch := 0 }

/-- A target version has to be supported. -/
def validateTargetVersion (targetVersion : Version) : Option Version :=
  if targetVersion < Version.minimumVersion then none
  else if Version.currentVersion < targetVersion then none
  else some targetVersion.withoutPatch

/-- Whether an operation may be in a program for a target version, unless a cast aborts. -/
def isLegalOperation (op : OperationState) (targetVersion : Version) : Option Bool := do
  if op.name.versions.isLegalVersion targetVersion then
    let satisfied ← validateConstraint op targetVersion
    return satisfied &&
      ((op.attributes ++ op.discardableAttributes).all fun attr =>
        isLegalAttribute targetVersion attr.2) &&
      (op.operands.all fun operand => isLegalType targetVersion operand.type) &&
      op.results.all fun result => isLegalType targetVersion result.type
  else return false

/--
Replace an operation until it is legal.

A pattern does not apply to what it led to, and there is one pattern for each operation.
So an operation is replaced twice at most: by one of another version, and back.
-/
def legalizeOperation (targetVersion : Version) (op : OperationState) (numRegions : Nat) :
    Option OperationState := do
  if ← isLegalOperation op targetVersion then return op
  let once ← rewriteOperation op numRegions
  if ← isLegalOperation once targetVersion then return once
  let twice ← rewriteOperation once numRegions
  if ← isLegalOperation twice targetVersion then return twice
  none

/-- An operation with everything inside it; a block has its arguments. -/
abbrev VhloOperation := RegionTree.Operation OperationState (List Value)

/-- Verify an operation, and legalize it. -/
def convertOperation (targetVersion : Version) (op : OperationState) (numRegions : Nat) :
    Option OperationState :=
  if op.verify numRegions then legalizeOperation targetVersion op numRegions else none

/-- Convert a program to a target version. -/
def vhloToVersion (targetVersion : Version) (program : VhloOperation) : Option VhloOperation := do
  let version ← validateTargetVersion targetVersion
  program.rewrite (convertOperation version)

/-- The attributes that the pattern of an operation drops. -/
def droppedAttributes (name : VhloOpName) : List String :=
  match patterns.find? fun pattern => pattern.source == name with
  | some pattern => pattern.constraints.map Prod.fst
  | none => []

/-- What comes back for an operation: when it was replaced, its dropped attributes respelled. -/
def OperationState.returned (targetVersion : Version) (op : OperationState) : OperationState :=
  if isLegalOperation op targetVersion = some true then op
  else op.respelled (droppedAttributes op.name)

/-- An operation with another padding. -/
def OperationState.withPadding (op : OperationState) (padding : VhloAttr) : OperationState :=
  { op with attributes := op.attributes.map fun field =>
      (field.1, if field.1 = "padding" then padding else field.2) }

/-- Every type and attribute is one of the current version. -/
theorem VhloNode.inRange_current (node : VhloNode) : node.InRange .currentVersion := by
  unfold VhloNode.InRange
  cases node with
  | type value =>
    cases value with
    | scalar kind => cases kind <;> decide
    | _ => rfl
  | attr value =>
    cases value with
    | enumV1 value => cases value <;> rfl
    | _ => rfl

/-- Every type and attribute is legal at the current version. -/
theorem VhloNode.isLegal_current (node : VhloNode) : node.isLegal .currentVersion = true :=
  (isLegal_iff_reached node).mpr fun inner _ => inner.inRange_current

/-- The operations whose element types are compared, whatever the version is. -/
def comparedOps : List VhloOpName :=
  [.allReduceOpV1, .reduceOpV1, .reduceScatterOpV1, .reduceWindowOpV1, .scatterOpV1,
    .selectAndScatterOpV1]

/-- The constraint of a compared operation. -/
theorem validateConstraint_compared {op : OperationState} (compared : op.name ∈ comparedOps)
    (version : Version) : validateConstraint op version = verifyConstraint_0_17_0 op version := by
  simp only [comparedOps, List.mem_cons, List.not_mem_nil, or_false] at compared
  unfold validateConstraint
  rcases compared with same | same | same | same | same | same <;> rw [same]

/-- No other operation has a constraint at the current version. -/
theorem validateConstraint_current {op : OperationState} (free : op.name ∉ comparedOps) :
    validateConstraint op .currentVersion = some true := by
  unfold validateConstraint
  split
  -- The version is not below any of those that the constraints are about.
  case h_7 | h_8 | h_9 | h_10 | h_11 => rfl
  all_goals
    rename_i same
    exact absurd (same ▸ by decide) free

/-- A constraint that could be checked holds at the current version. -/
theorem validateConstraint_current_of_answered {op : OperationState} {version : Version}
    {answer : Bool} (answered : validateConstraint op version = some answer) :
    validateConstraint op .currentVersion = some true := by
  by_cases compared : op.name ∈ comparedOps
  · rw [validateConstraint_compared compared, verifyConstraint_0_17_0] at answered ⊢
    simp only [Option.bind_eq_bind, Option.bind_eq_some_iff] at answered
    obtain ⟨matched, comparison, _⟩ := answered
    rw [comparison]
    cases matched <;> rfl
  · exact validateConstraint_current compared

/-- An operation of the current version is legal there, when its constraint can be checked. -/
theorem isLegalOperation_current {op : OperationState}
    (newer : op.name.versions.isLegalVersion .currentVersion = true)
    (satisfied : validateConstraint op .currentVersion = some true) :
    isLegalOperation op .currentVersion = some true := by
  have attributes : ∀ attr, isLegalAttribute .currentVersion attr = true := fun attr =>
    VhloNode.isLegal_current (.attr attr)
  have types : ∀ type, isLegalType .currentVersion type = true := fun type =>
    VhloNode.isLegal_current (.type type)
  simp [isLegalOperation, newer, satisfied, attributes, types]

/-- An operation of another version is not legal. -/
theorem isLegalOperation_of_versions {op : OperationState} {version : Version}
    (outside : op.name.versions.isLegalVersion version = false) :
    isLegalOperation op version = some false := by
  simp [isLegalOperation, outside]

/-- A legal operation is legal at the current version when it is one of its operations. -/
theorem isLegalOperation_current_of_legal {op : OperationState} {version : Version}
    (newer : op.name.versions.isLegalVersion .currentVersion = true)
    (legal : isLegalOperation op version = some true) :
    isLegalOperation op .currentVersion = some true := by
  apply isLegalOperation_current newer
  unfold isLegalOperation at legal
  split at legal
  · obtain ⟨satisfied, answered, _⟩ := Option.bind_eq_some_iff.mp legal
    exact validateConstraint_current_of_answered answered
  · cases legal

/-- The newer operation of a pair is not a compared one. -/
theorem newer_not_compared : ∀ pair ∈ versionPairs, pair.1.target ∉ comparedOps := by
  decide

/-- The attributes that a downgrade drops are those that it asks something of. -/
theorem droppedAttributes_eq : ∀ pair ∈ versionPairs,
    droppedAttributes pair.2.source = pair.2.constraints.map Prod.fst := by
  decide

/-- A legal operation is not replaced. -/
theorem legalizeOperation_of_legal {op : OperationState} {version : Version} {numRegions : Nat}
    (legal : isLegalOperation op version = some true) :
    legalizeOperation version op numRegions = some op := by
  simp [legalizeOperation, legal]

/-- A legal result is the operation itself, or comes from one replacement or from two. -/
theorem legalizeOperation_cases {op result : OperationState} {version : Version}
    {numRegions : Nat} (legalized : legalizeOperation version op numRegions = some result) :
    isLegalOperation result version = some true ∧ (result = op ∨
      isLegalOperation op version = some false ∧
        ∃ once, rewriteOperation op numRegions = some once ∧
          (result = once ∨ rewriteOperation once numRegions = some result)) := by
  simp only [legalizeOperation, Option.bind_eq_bind, Option.bind_eq_some_iff] at legalized
  obtain ⟨legal, answered, legalized⟩ := legalized
  cases legal with
  | true =>
    cases legalized
    exact ⟨answered, .inl rfl⟩
  | false =>
    simp only [Bool.false_eq_true, if_false, Option.bind_eq_some_iff] at legalized
    obtain ⟨once, replaced, legalOnce, answeredOnce, legalized⟩ := legalized
    cases legalOnce with
    | true =>
      cases legalized
      exact ⟨answeredOnce, .inr ⟨answered, _, replaced, .inl rfl⟩⟩
    | false =>
      simp only [Bool.false_eq_true, if_false, Option.bind_eq_some_iff] at legalized
      obtain ⟨twice, replacedTwice, legalTwice, answeredTwice, legalized⟩ := legalized
      cases legalTwice with
      | true =>
        cases legalized
        exact ⟨answeredTwice, .inr ⟨answered, once, replaced, .inr replacedTwice⟩⟩
      | false => cases legalized

/-- An operation of the current version that is replaced is the newer one of a pair. -/
theorem exists_downgrade {op once : OperationState} {numRegions : Nat}
    (newer : op.name.versions.isLegalVersion .currentVersion = true)
    (replaced : rewriteOperation op numRegions = some once) :
    ∃ pair ∈ versionPairs, op.name = pair.2.source ∧
      pair.2.matchAndRewrite op numRegions = some once := by
  obtain ⟨pair, listed, which⟩ := exists_versionPair replaced
  rcases which with ⟨own, _⟩ | downgraded
  · rw [own, (versionPair_of_mem pair listed).older] at newer
    cases newer
  · exact ⟨pair, listed, downgraded⟩

/-- What an operation of the current version is converted to is converted back. -/
theorem convertOperation_back {op result : OperationState} {version : Version} {numRegions : Nat}
    (newer : op.name.versions.isLegalVersion .currentVersion = true)
    (converted : convertOperation version op numRegions = some result) :
    convertOperation .currentVersion result numRegions = some (op.returned version) := by
  unfold convertOperation at converted
  split at converted
  case isFalse => cases converted
  case isTrue verified =>
    obtain ⟨legal, steps⟩ := legalizeOperation_cases converted
    rcases steps with rfl | ⟨illegal, once, replaced, rest⟩
    · rw [OperationState.returned, if_pos legal, convertOperation, if_pos verified]
      exact legalizeOperation_of_legal (isLegalOperation_current_of_legal newer legal)
    · -- The operation was downgraded, and the upgrade of that respells what was dropped.
      obtain ⟨pair, listed, own, downgraded⟩ := exists_downgrade newer replaced
      have paired := versionPair_of_mem pair listed
      have verifiedOnce := paired.verify_downgrade verified downgraded
      have upgraded := paired.upgrade_downgrade verified downgraded
      have named : once.name = pair.1.source := by
        obtain ⟨_, _, _, rfl⟩ := RewritePattern.matchAndRewrite_eq_some.mp downgraded
        exact paired.target
      rw [← rewriteOperation_eq (mem_patterns listed).1 named] at upgraded
      have legalBack : isLegalOperation (op.respelled (pair.2.constraints.map Prod.fst))
          .currentVersion = some true := by
        have free : op.name ∉ comparedOps := by
          rw [own, paired.source]
          exact newer_not_compared pair listed
        exact @isLegalOperation_current (op.respelled (pair.2.constraints.map Prod.fst)) newer
          (validateConstraint_current free)
      rw [OperationState.returned, if_neg (by simp [illegal]), own,
        droppedAttributes_eq pair listed, convertOperation]
      rcases rest with rfl | again
      · have older := isLegalOperation_of_versions (named ▸ paired.older)
        rw [if_pos verifiedOnce]
        simp [legalizeOperation, older, upgraded, legalBack]
      · rw [upgraded, Option.some.injEq] at again
        subst again
        rw [rewriteOperation_eq (mem_patterns listed).1 named] at upgraded
        rw [if_pos (paired.verify_upgrade verifiedOnce upgraded)]
        exact legalizeOperation_of_legal legalBack

/-- One downgrade makes an attribute, and it makes the padding. -/
theorem downgrade_added : ∀ pair ∈ versionPairs,
    pair.2.added = if pair.1.source = .dynamicConvOpV1 then
      [("padding", NativeCodeCall.getDefaultConvPadding)] else [] := by
  decide

/-- The downgrade of a convolution makes the padding, and keeps everything else. -/
theorem downgrade_upgrade_padding {pair : RewritePattern × RewritePattern}
    (listed : pair ∈ versionPairs) {op upgraded : OperationState} {numRegions : Nat}
    (verified : op.verify numRegions = true) (own : op.name = .dynamicConvOpV1)
    (source : op.name = pair.1.source)
    (replaced : pair.1.matchAndRewrite op numRegions = some upgraded) :
    pair.2.matchAndRewrite upgraded numRegions =
      (op.operands.head?.bind getDefaultConvPadding).map op.withPadding := by
  have paired := versionPair_of_mem pair listed
  have added := downgrade_added pair listed
  rw [← source, if_pos own] at added
  obtain ⟨_, names, _⟩ := OperationState.verify_iff.mp verified
  have attributeFor : ∀ name, pair.2.attributeFor op name =
      if name = "padding" then op.operands.head?.bind getDefaultConvPadding
      else op.getAttr name := by
    intro name
    rw [RewritePattern.attributeFor, added, List.lookup_cons]
    by_cases same : name = "padding"
    · rw [if_pos same, same]
      rfl
    · rw [if_neg same, beq_false_of_ne same]
      rfl
  rw [paired.downgrade_upgrade verified replaced]
  cases padding : op.operands.head?.bind getDefaultConvPadding with
  | none =>
    have inNames : "padding" ∈ op.attributes.map Prod.fst := by
      rw [names, own]
      decide
    rw [NamedFields.collect_eq_none inNames (by rw [attributeFor, if_pos rfl, padding])]
    rfl
  | some value =>
    have distinct : (op.attributes.map Prod.fst).Nodup := by
      rw [names, source]
      exact paired.olderDistinct
    rw [NamedFields.collect_map fun field inFields => ?_]
    · rfl
    · rw [attributeFor, padding]
      split
      · rfl
      · exact NamedFields.lookup_of_mem distinct inFields

/-- The downgrade after the upgrade of an older operation, which is one of a pair. -/
theorem rewriteOperation_twice {op upgraded : OperationState} {numRegions : Nat}
    (verified : op.verify numRegions = true)
    (older : op.name.versions.isLegalVersion .currentVersion = false)
    (replaced : rewriteOperation op numRegions = some upgraded) :
    rewriteOperation upgraded numRegions =
      if op.name = .dynamicConvOpV1 then
        (op.operands.head?.bind getDefaultConvPadding).map op.withPadding
      else some op := by
  obtain ⟨pair, listed, which⟩ := exists_versionPair replaced
  have paired := versionPair_of_mem pair listed
  rcases which with ⟨own, made⟩ | ⟨own, _⟩
  · have named : upgraded.name = pair.2.source := by
      obtain ⟨_, _, _, rfl⟩ := RewritePattern.matchAndRewrite_eq_some.mp made
      exact paired.source.symm
    rw [rewriteOperation_eq (mem_patterns listed).2 named]
    split
    case isTrue conv => exact downgrade_upgrade_padding listed verified conv own made
    case isFalse other =>
      apply paired.downgrade_upgrade_eq _ verified made
      rw [downgrade_added pair listed, if_neg (own ▸ other)]
  · rw [own, paired.source, paired.newer] at older
    cases older

/--
Converting to a target version and back changes the spelling of dropped attributes only.

The upgrade of an older operation is undone by the downgrade, up to the padding of one.
-/
theorem vhloToVersion_back :
    (∀ (target : Version) (program converted : VhloOperation),
      (∀ op ∈ program.parts, op.name.versions.isLegalVersion .currentVersion = true) →
      vhloToVersion target program = some converted →
      vhloToVersion .currentVersion converted =
          program.rewrite (fun op _ => some (op.returned target.withoutPatch)) ∧
        ((∀ op ∈ program.parts, op.respelled (droppedAttributes op.name) = op) →
          vhloToVersion .currentVersion converted = some program)) ∧
    ∀ (op upgraded : OperationState) (numRegions : Nat), op.verify numRegions = true →
      op.name.versions.isLegalVersion .currentVersion = false →
      rewriteOperation op numRegions = some upgraded →
      rewriteOperation upgraded numRegions =
        if op.name = .dynamicConvOpV1 then
          (op.operands.head?.bind getDefaultConvPadding).map op.withPadding
        else some op := by
  refine ⟨fun target program converted newer done => ?_, fun op upgraded numRegions =>
    rewriteOperation_twice⟩
  have back : vhloToVersion .currentVersion converted =
      program.rewrite (fun op _ => some (op.returned target.withoutPatch)) := by
    simp only [vhloToVersion, Option.bind_eq_bind, Option.bind_eq_some_iff] at done
    obtain ⟨version, validated, rewritten⟩ := done
    have same : version = target.withoutPatch := by
      unfold validateTargetVersion at validated
      split at validated
      · cases validated
      · split at validated
        · cases validated
        · cases validated
          rfl
    subst same
    -- The current version is supported, and it has no patch.
    show converted.rewrite (convertOperation .currentVersion) = _
    apply RegionTree.Operation.rewrite_rewrite program converted _ rewritten
    intro op listed count result convertedOp
    exact convertOperation_back (newer op listed) convertedOp
  refine ⟨back, fun spelled => ?_⟩
  rw [back, ← RegionTree.Operation.rewrite_some program]
  apply RegionTree.Operation.rewrite_congr
  intro op listed count
  rw [OperationState.returned]
  split
  · rfl
  · rw [spelled op listed]

/-- A tensor type of single-precision numbers. -/
def f32Tensor (shape : List Int64) : VhloType :=
  .rankedTensorV1 shape (.scalar .floatF32V1) none

/-- An exponential, of the version with an accuracy or of the one without. -/
def exponential (name : VhloOpName) (attributes : List (String × VhloAttr)) : OperationState :=
  ⟨name, [⟨0, f32Tensor [2]⟩], attributes, [("label", .stringV1 "e")], [⟨1, f32Tensor [2]⟩]⟩

/-- A loop around an operation. -/
def loopOf (op : OperationState) : VhloOperation :=
  .node ⟨.whileOpV1, [], [], [], []⟩
    [.node [.node [] []], .node [.node [⟨0, f32Tensor [2]⟩] [.node op []]]]

/-- The exponential of version 1.8.0 has no accuracy, and it gets the default one back. -/
theorem vhloToVersion_back_exponential :
    vhloToVersion .currentVersion (loopOf (exponential .expOpV1 [])) =
        some (loopOf (exponential .expOpV2 [("result_accuracy", getDefaultResultAccuracy)])) ∧
      rewriteOperation (exponential .expOpV2 [("result_accuracy", getDefaultResultAccuracy)]) 0 =
        some (exponential .expOpV1 []) :=
  ⟨(vhloToVersion_back.1 ⟨1, 8, 0⟩
      (loopOf (exponential .expOpV2 [("result_accuracy", getDefaultResultAccuracy)]))
      (loopOf (exponential .expOpV1 [])) (by decide) rfl).2 (by decide),
    (vhloToVersion_back.2 (exponential .expOpV1 [])
      (exponential .expOpV2 [("result_accuracy", getDefaultResultAccuracy)]) 0 (by decide)
      (by decide) rfl).trans rfl⟩

/-- Elements that are 64-bit integers, or one of them for all. -/
def i64Elements (shape : List Int64) (rawData : List UInt8) : VhloAttr :=
  .tensorV1 (.rankedTensorV1 shape (.scalar .integerSI64V1) none)
    ⟨shape, .integer .signless 64, rawData⟩

/-- A 64-bit integer. -/
def i64 (value : BitVec 64) : VhloAttr := .integerV1 (.scalar .integerSI64V1) ⟨64, value⟩

/-- A convolution of images, with a padding of one on every side as an attribute. -/
def paddedConv : OperationState where
  name := .dynamicConvOpV1
  operands := [⟨0, f32Tensor [1, 8, 8, 1]⟩, ⟨1, f32Tensor [3, 3, 1, 1]⟩,
    ⟨2, .rankedTensorV1 [2, 2] (.scalar .integerSI64V1) none⟩]
  attributes := [("window_strides", i64Elements [2] [1, 0, 0, 0, 0, 0, 0, 0]),
    ("padding", i64Elements [2, 2] [1, 0, 0, 0, 0, 0, 0, 0]),
    ("lhs_dilation", i64Elements [2] [1, 0, 0, 0, 0, 0, 0, 0]),
    ("rhs_dilation", i64Elements [2] [1, 0, 0, 0, 0, 0, 0, 0]),
    ("window_reversal", .tensorV1 (.rankedTensorV1 [2] (.scalar .booleanV1) none)
      ⟨[2], .integer .signless 1, [0]⟩),
    ("input_batch_dimension", i64 0), ("input_feature_dimension", i64 3),
    ("input_spatial_dimensions", i64Elements [2]
      [1, 0, 0, 0, 0, 0, 0, 0, 2, 0, 0, 0, 0, 0, 0, 0]),
    ("kernel_input_feature_dimension", i64 2), ("kernel_output_feature_dimension", i64 3),
    ("kernel_spatial_dimensions", i64Elements [2]
      [0, 0, 0, 0, 0, 0, 0, 0, 1, 0, 0, 0, 0, 0, 0, 0]),
    ("output_batch_dimension", i64 0), ("output_feature_dimension", i64 3),
    ("output_spatial_dimensions", i64Elements [2]
      [1, 0, 0, 0, 0, 0, 0, 0, 2, 0, 0, 0, 0, 0, 0, 0]),
    ("feature_group_count", i64 1), ("batch_group_count", i64 1),
    ("precision_config", .arrayV1 [.enumV1 (.precisionV1 .default),
      .enumV1 (.precisionV1 .default)])]
  discardableAttributes := []
  results := [⟨3, f32Tensor [1, 8, 8, 1]⟩]

/-- A send with no pairs of processes, in a tensor of pairs. -/
def sendOfNoPairs : OperationState where
  name := .sendOpV2
  operands := [⟨0, f32Tensor [2]⟩, ⟨1, .scalar .tokenV1⟩]
  attributes := [("channel_id", i64 1), ("channel_type", i64 1),
    ("is_host_transfer", .booleanV1 false), ("source_target_pairs", i64Elements [0, 2] [])]
  discardableAttributes := []
  results := [⟨2, .scalar .tokenV1⟩]

/-- Not every program comes back as it was, and the padding of a convolution is discarded. -/
theorem dynamicConv_loses_padding :
    (¬∀ (target : Version) (program converted : VhloOperation),
      (∀ op ∈ program.parts, op.name.versions.isLegalVersion .currentVersion = true) →
      vhloToVersion target program = some converted →
      vhloToVersion .currentVersion converted = some program) ∧
    ¬∀ (op upgraded : OperationState) (numRegions : Nat), op.verify numRegions = true →
      op.name.versions.isLegalVersion .currentVersion = false →
      rewriteOperation op numRegions = some upgraded →
      rewriteOperation upgraded numRegions = some op := by
  constructor
  · intro all
    have back := all ⟨1, 11, 0⟩ (.node sendOfNoPairs []) _ (by decide) rfl
    -- The tensor comes back with one dimension.
    have came := congrArg (Option.map RegionTree.Operation.parts) back
    revert came
    decide
  · intro all
    have back := all paddedConv _ 0 (by decide) (by decide) rfl
    revert back
    decide

end Stablehlo
