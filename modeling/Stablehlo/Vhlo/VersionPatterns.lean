import Mathlib.Tactic.MkIffOfInductiveProp
import Stablehlo.Support.NamedFields
import Stablehlo.Vhlo.Ops

/-! The patterns that replace an operation of one version by one of another version. -/

namespace Stablehlo

/-- A tensor of no elements. -/
def getEmptyI64Tensor : VhloAttr :=
  .tensorV1 (.rankedTensorV1 [0] (.scalar .integerSI64V1) none) ⟨[0], .integer .signless 64, []⟩

/-- Whether an attribute is a tensor of no elements, whatever its shape is. -/
def isEmptyTensor : VhloAttr → Bool
  | .tensorV1 _ data => data.rawData.isEmpty
  | _ => false

/-- An array of no elements. -/
def getEmptyArray : VhloAttr := .arrayV1 []

/-- Whether an attribute is an array of no elements. -/
def isEmptyArray : VhloAttr → Bool
  | .arrayV1 value => value.isEmpty
  | _ => false

/-- Whether an attribute is the type that stands for no type. -/
def isNoneType : VhloAttr → Bool
  | .typeV1 (.scalar .noneV1) => true
  | _ => false

/-- The type that stands for no type. -/
def getNoneType : VhloAttr := .typeV1 (.scalar .noneV1)

/--
No padding, for every dimension that is neither a batch nor a feature.

There is none for an operand without a rank, and the operation does not verify without it.
With fewer than two dimensions their number wraps around, and no memory holds that padding.
-/
def getDefaultConvPadding (lhs : Value) : Option VhloAttr :=
  match lhs.type with
  | .rankedTensorV1 shape _ _ =>
    if shape.length < 2 then none
    else
      let paddingShape := [Int64.ofNat (shape.length - 2), 2]
      -- The elements are all zero, so that one of them is stored when there are any.
      let rawData := if shape.length = 2 then [] else List.replicate 8 0
      some (.tensorV1 (.rankedTensorV1 paddingShape (.scalar .integerSI64V1) none)
        ⟨paddingShape, .integer .signless 64, rawData⟩)
  | _ => none

/-- Whether an attribute is false. -/
def isFalseBoolean : VhloAttr → Bool
  | .booleanV1 value => !value
  | _ => false

/-- The attribute for false. -/
def getFalseBoolean : VhloAttr := .booleanV1 false

/-- Whether an attribute is the default accuracy; the source aborts on other attributes. -/
def isDefaultResultAccuracy : VhloAttr → Bool
  | .resultAccuracyV1 atol rtol ulps mode =>
    atol.isZero && rtol.isZero && ulps == 0 && mode == .enumV1 (.resultAccuracyModeV1 .default)
  | _ => false

/-- The default accuracy. -/
def getDefaultResultAccuracy : VhloAttr :=
  .resultAccuracyV1 ⟨.ieeeDouble, 0⟩ ⟨.ieeeDouble, 0⟩ 0 (.enumV1 (.resultAccuracyModeV1 .default))

/-- What a pattern asks of an attribute. -/
inductive AttrConstraint where
  | emptyTensor
  | emptyArray
  | noneType
  | falseBoolean
  | defaultResultAccuracy
  deriving DecidableEq, Repr

/-- What a pattern makes an attribute with. -/
inductive NativeCodeCall where
  | getEmptyTensor
  | getEmptyArray
  | getNoneType
  | getFalseBoolean
  | getDefaultResultAccuracyAttr
  | getDefaultConvPadding
  deriving DecidableEq, Repr

/-- Whether an attribute is as it is asked to be. -/
def AttrConstraint.holds : AttrConstraint → VhloAttr → Bool
  | .emptyTensor => isEmptyTensor
  | .emptyArray => isEmptyArray
  | .noneType => isNoneType
  | .falseBoolean => isFalseBoolean
  | .defaultResultAccuracy => isDefaultResultAccuracy

/-- The attribute that is made for an operation, from its operands. -/
def NativeCodeCall.make : NativeCodeCall → List Value → Option VhloAttr
  | .getEmptyTensor, _ => some getEmptyI64Tensor
  | .getEmptyArray, _ => some Stablehlo.getEmptyArray
  | .getNoneType, _ => some Stablehlo.getNoneType
  | .getFalseBoolean, _ => some Stablehlo.getFalseBoolean
  | .getDefaultResultAccuracyAttr, _ => some getDefaultResultAccuracy
  | .getDefaultConvPadding, operands => operands.head?.bind Stablehlo.getDefaultConvPadding

/-- A pattern that replaces one operation by another. -/
structure RewritePattern where
  /-- The operation that is replaced. -/
  source : VhloOpName
  /-- The operation that replaces it. -/
  target : VhloOpName
  /-- What is asked of attributes of the source. -/
  constraints : List (String × AttrConstraint) := []
  /-- The attributes of the target that are not those of the source. -/
  added : List (String × NativeCodeCall) := []
  /-- The source has to have a single operand. -/
  singleOperand : Bool := false
  /-- The source must not have regions. -/
  noRegions : Bool := false
  /-- The discardable attributes are copied through the first of the results. -/
  firstResult : Bool := false
  deriving DecidableEq

namespace RewritePattern

/-- Whether a pattern applies to an operation, and makes one that has the right parts. -/
def accepts (pattern : RewritePattern) (op : OperationState) (numRegions : Nat) : Bool :=
  op.name == pattern.source &&
    (pattern.constraints.all fun (name, asked) => (op.getAttr name).any asked.holds) &&
    (!pattern.singleOperand || op.operands.length == 1) &&
    (!pattern.noRegions || numRegions == 0) &&
    -- The results become those of the target, which aborts on another number of them.
    pattern.target.definition.results.accepts op.results.length &&
    (!pattern.firstResult || op.results.length != 0)

/-- An attribute of the target. -/
def attributeFor (pattern : RewritePattern) (op : OperationState) (name : String) :
    Option VhloAttr :=
  match pattern.added.lookup name with
  | some code => code.make op.operands
  | none => op.getAttr name

/-- Replace an operation, which keeps its operands, its results and its discardable attributes. -/
def matchAndRewrite (pattern : RewritePattern) (op : OperationState) (numRegions : Nat) :
    Option OperationState := do
  if pattern.accepts op numRegions then
    let attributes ← NamedFields.collect pattern.target.definition.attributes
      (pattern.attributeFor op)
    return { op with name := pattern.target, attributes := attributes }
  else none

end RewritePattern

/-- The padding is an operand only. -/
def dynamicConvUpgradeV1ToV2 : RewritePattern where
  source := .dynamicConvOpV1
  target := .dynamicConvOpV2

/-- Back to the older version. -/
def dynamicConvDowngradeV2ToV1 : RewritePattern where
  source := .dynamicConvOpV2
  target := .dynamicConvOpV1
  added := [("padding", .getDefaultConvPadding)]

/-- Gathers get batching dimensions. -/
def gatherOpUpgradeV1ToV2 : RewritePattern where
  source := .gatherOpV1
  target := .gatherOpV2
  added := [
    ("operand_batching_dims", .getEmptyTensor),
    ("start_indices_batching_dims", .getEmptyTensor)]

/-- Back to the older version. -/
def gatherOpDowngradeV2ToV1 : RewritePattern where
  source := .gatherOpV2
  target := .gatherOpV1
  constraints := [
    ("operand_batching_dims", .emptyTensor),
    ("start_indices_batching_dims", .emptyTensor)]

/-- Dynamic gathers get batching dimensions. -/
def dynamicGatherOpUpgradeV1ToV2 : RewritePattern where
  source := .dynamicGatherOpV1
  target := .dynamicGatherOpV2
  added := [
    ("operand_batching_dims", .getEmptyTensor),
    ("start_indices_batching_dims", .getEmptyTensor)]

/-- Back to the older version. -/
def dynamicGatherOpDowngradeV2ToV1 : RewritePattern where
  source := .dynamicGatherOpV2
  target := .dynamicGatherOpV1
  constraints := [
    ("operand_batching_dims", .emptyTensor),
    ("start_indices_batching_dims", .emptyTensor)]

/-- Gathering from all processes takes several operands. -/
def allGatherOpUpgradeV1ToV2 : RewritePattern where
  source := .allGatherOpV1
  target := .allGatherOpV2
  firstResult := true

/-- Back to the older version. -/
def allGatherOpDowngradeV2ToV1 : RewritePattern where
  source := .allGatherOpV2
  target := .allGatherOpV1
  singleOperand := true
  firstResult := true

/-- Exchanging with all processes takes several operands. -/
def allToAllOpUpgradeV1ToV2 : RewritePattern where
  source := .allToAllOpV1
  target := .allToAllOpV2
  firstResult := true

/-- Back to the older version. -/
def allToAllOpDowngradeV2ToV1 : RewritePattern where
  source := .allToAllOpV2
  target := .allToAllOpV1
  singleOperand := true
  firstResult := true

/-- Products get an algorithm, with none in each of its parts when it is not given. -/
def dotGeneralOpUpradeV1ToV2 : RewritePattern where
  source := .dotGeneralOpV1
  target := .dotGeneralOpV2
  added := [
    ("lhs_precision_type", .getNoneType),
    ("rhs_precision_type", .getNoneType),
    ("accumulation_type", .getNoneType),
    ("lhs_component_count", .getNoneType),
    ("rhs_component_count", .getNoneType),
    ("num_primitive_operations", .getNoneType),
    ("allow_imprecise_accumulation", .getNoneType)]

/-- Back to the older version. -/
def dotGeneralOpDowngradeV2ToV1 : RewritePattern where
  source := .dotGeneralOpV2
  target := .dotGeneralOpV1
  constraints := [
    ("lhs_precision_type", .noneType),
    ("rhs_precision_type", .noneType),
    ("accumulation_type", .noneType),
    ("lhs_component_count", .noneType),
    ("rhs_component_count", .noneType),
    ("num_primitive_operations", .noneType),
    ("allow_imprecise_accumulation", .noneType)]

/-- Sends get pairs of processes. -/
def sendOpUpgradeV1ToV2 : RewritePattern where
  source := .sendOpV1
  target := .sendOpV2
  added := [("source_target_pairs", .getEmptyTensor)]

/-- Back to the older version. -/
def sendOpDowngradeV2ToV1 : RewritePattern where
  source := .sendOpV2
  target := .sendOpV1
  constraints := [("source_target_pairs", .emptyTensor)]

/-- Receives get pairs of processes. -/
def recvOpUpgradeV1ToV2 : RewritePattern where
  source := .recvOpV1
  target := .recvOpV2
  added := [("source_target_pairs", .getEmptyTensor)]
  firstResult := true

/-- Back to the older version. -/
def recvOpDowngradeV2ToV1 : RewritePattern where
  source := .recvOpV2
  target := .recvOpV1
  constraints := [("source_target_pairs", .emptyTensor)]
  firstResult := true

/-- Broadcasts take several operands, and a root that may be dynamic. -/
def collectiveBroadcastOpUpgradeV1ToV2 : RewritePattern where
  source := .collectiveBroadcastOpV1
  target := .collectiveBroadcastOpV2
  added := [("has_dynamic_root", .getFalseBoolean)]
  firstResult := true

/-- Back to the older version. -/
def collectiveBroadcastOpDowngradeV2ToV1 : RewritePattern where
  source := .collectiveBroadcastOpV2
  target := .collectiveBroadcastOpV1
  constraints := [("has_dynamic_root", .falseBoolean)]
  singleOperand := true
  firstResult := true

/-- Scatters get batching dimensions. -/
def scatterOpV1ToV2 : RewritePattern where
  source := .scatterOpV1
  target := .scatterOpV2
  added := [
    ("input_batching_dims", .getEmptyTensor),
    ("scatter_indices_batching_dims", .getEmptyTensor)]

/-- Back to the older version. -/
def scatterOpV2ToV1 : RewritePattern where
  source := .scatterOpV2
  target := .scatterOpV1
  constraints := [
    ("input_batching_dims", .emptyTensor),
    ("scatter_indices_batching_dims", .emptyTensor)]

/-- Reducing over all processes takes several operands. -/
def allReduceOpV1ToV2 : RewritePattern where
  source := .allReduceOpV1
  target := .allReduceOpV2

/-- Back to the older version. -/
def allReduceOpV2ToV1 : RewritePattern where
  source := .allReduceOpV2
  target := .allReduceOpV1
  singleOperand := true

/-- Composites get regions. -/
def compositeOpV1ToV2 : RewritePattern where
  source := .compositeOpV1
  target := .compositeOpV2

/-- Back to the older version. -/
def compositeOpV2ToV1 : RewritePattern where
  source := .compositeOpV2
  target := .compositeOpV1
  noRegions := true

/-- Custom calls get tilings of their results. -/
def customCallOpV1ToV2 : RewritePattern where
  source := .customCallOpV1
  target := .customCallOpV2
  added := [("result_tilings", .getEmptyArray)]

/-- Back to the older version. -/
def customCallOpV2ToV1 : RewritePattern where
  source := .customCallOpV2
  target := .customCallOpV1
  constraints := [("result_tilings", .emptyArray)]

/-- The elementwise functions that get an accuracy. -/
def resultAccuracyOpV1V2Pairs : List (VhloOpName × VhloOpName) :=
  [(.cbrtOpV1, .cbrtOpV2), (.cosineOpV1, .cosineOpV2), (.expOpV1, .expOpV2),
    (.expm1OpV1, .expm1OpV2), (.logOpV1, .logOpV2), (.log1pOpV1, .log1pOpV2),
    (.logisticOpV1, .logisticOpV2), (.rsqrtOpV1, .rsqrtOpV2), (.sineOpV1, .sineOpV2),
    (.sqrtOpV1, .sqrtOpV2), (.tanOpV1, .tanOpV2), (.tanhOpV1, .tanhOpV2)]

/-- An elementwise function gets an accuracy. -/
def resultAccuracyUpgrade (resultAccuracyOpV1V2Pair : VhloOpName × VhloOpName) :
    RewritePattern where
  source := resultAccuracyOpV1V2Pair.1
  target := resultAccuracyOpV1V2Pair.2
  added := [("result_accuracy", .getDefaultResultAccuracyAttr)]

/-- Back to the older version. -/
def resultAccuracyDowngrade (resultAccuracyOpV1V2Pair : VhloOpName × VhloOpName) :
    RewritePattern where
  source := resultAccuracyOpV1V2Pair.2
  target := resultAccuracyOpV1V2Pair.1
  constraints := [("result_accuracy", .defaultResultAccuracy)]

/-- The upgrades, each with the downgrade between the same operations. -/
def versionPairs : List (RewritePattern × RewritePattern) :=
  [(dynamicConvUpgradeV1ToV2, dynamicConvDowngradeV2ToV1),
    (gatherOpUpgradeV1ToV2, gatherOpDowngradeV2ToV1),
    (dynamicGatherOpUpgradeV1ToV2, dynamicGatherOpDowngradeV2ToV1),
    (allGatherOpUpgradeV1ToV2, allGatherOpDowngradeV2ToV1),
    (allToAllOpUpgradeV1ToV2, allToAllOpDowngradeV2ToV1),
    (dotGeneralOpUpradeV1ToV2, dotGeneralOpDowngradeV2ToV1),
    (sendOpUpgradeV1ToV2, sendOpDowngradeV2ToV1),
    (recvOpUpgradeV1ToV2, recvOpDowngradeV2ToV1),
    (collectiveBroadcastOpUpgradeV1ToV2, collectiveBroadcastOpDowngradeV2ToV1),
    (scatterOpV1ToV2, scatterOpV2ToV1),
    (allReduceOpV1ToV2, allReduceOpV2ToV1),
    (compositeOpV1ToV2, compositeOpV2ToV1),
    (customCallOpV1ToV2, customCallOpV2ToV1)] ++
  resultAccuracyOpV1V2Pairs.map fun pair =>
    (resultAccuracyUpgrade pair, resultAccuracyDowngrade pair)

/-- All patterns. -/
def patterns : List RewritePattern :=
  versionPairs.flatMap fun pair => [pair.1, pair.2]

/-- Replace an operation by the first pattern that applies. -/
def rewriteOperation (op : OperationState) (numRegions : Nat) : Option OperationState :=
  patterns.findSome? fun pattern => pattern.matchAndRewrite op numRegions

namespace AttrConstraint

/-- What an attribute is made with that is as it is asked to be. -/
def fallback : AttrConstraint → NativeCodeCall
  | .emptyTensor => .getEmptyTensor
  | .emptyArray => .getEmptyArray
  | .noneType => .getNoneType
  | .falseBoolean => .getFalseBoolean
  | .defaultResultAccuracy => .getDefaultResultAccuracyAttr

/-- What is made passes. -/
theorem fallback_holds (asked : AttrConstraint) (operands : List Value) :
    (asked.fallback.make operands).any asked.holds = true := by
  cases asked <;> rfl

end AttrConstraint

/-- An empty tensor or a default accuracy as the patterns make them, and else the attribute. -/
def VhloAttr.respelled (attr : VhloAttr) : VhloAttr :=
  if isEmptyTensor attr then getEmptyI64Tensor
  else if isDefaultResultAccuracy attr then getDefaultResultAccuracy
  else attr

/-- There is one empty array. -/
theorem eq_of_isEmptyArray {attr : VhloAttr} (passed : isEmptyArray attr = true) :
    attr = getEmptyArray := by
  cases attr with
  | arrayV1 value => rw [List.isEmpty_iff.mp passed, getEmptyArray]
  | _ => cases passed

/-- There is one attribute for no type. -/
theorem eq_of_isNoneType {attr : VhloAttr} (passed : isNoneType attr = true) :
    attr = getNoneType := by
  unfold isNoneType at passed
  split at passed
  · rfl
  · cases passed

/-- There is one attribute for false. -/
theorem eq_of_isFalseBoolean {attr : VhloAttr} (passed : isFalseBoolean attr = true) :
    attr = getFalseBoolean := by
  cases attr with
  | booleanV1 value => rw [(Bool.not_eq_true' value).mp passed, getFalseBoolean]
  | _ => cases passed

/-- An accuracy is not a tensor. -/
theorem isEmptyTensor_of_isDefaultResultAccuracy {attr : VhloAttr}
    (passed : isDefaultResultAccuracy attr = true) : isEmptyTensor attr = false := by
  cases attr with
  | resultAccuracyV1 => rfl
  | _ => cases passed

/-- An operation with some of its attributes respelled. -/
def OperationState.respelled (names : List String) (op : OperationState) : OperationState :=
  { op with attributes := op.attributes.map fun field =>
      (field.1, if field.1 ∈ names then field.2.respelled else field.2) }

/-- Whatever passes is made again, up to how it is spelled. -/
theorem AttrConstraint.make_fallback {asked : AttrConstraint} {attr : VhloAttr}
    (passed : asked.holds attr = true) (operands : List Value) :
    asked.fallback.make operands = some attr.respelled := by
  cases asked with
  | emptyTensor =>
    rw [holds] at passed
    rw [VhloAttr.respelled, if_pos passed, fallback, NativeCodeCall.make]
  | defaultResultAccuracy =>
    rw [holds] at passed
    have noTensor := isEmptyTensor_of_isDefaultResultAccuracy passed
    rw [VhloAttr.respelled, noTensor, if_neg Bool.false_ne_true, if_pos passed, fallback,
      NativeCodeCall.make]
  -- The other attributes are spelled in one way.
  | emptyArray =>
    rw [eq_of_isEmptyArray passed]
    rfl
  | noneType =>
    rw [eq_of_isNoneType passed]
    rfl
  | falseBoolean =>
    rw [eq_of_isFalseBoolean passed]
    rfl

namespace RewritePattern

/-- The arity of a part is kept, or the target takes any number, or its number is known. -/
def keepsArity (source target : Arity) (known : Bool) (count : Nat) : Bool :=
  target == source || target == .atLeast 0 || known && target == .exactly count

/-- What is known of an upgrade and a downgrade between the same two operations. -/
@[mk_iff]
structure VersionPair (upgrade downgrade : RewritePattern) : Prop where
  /-- The downgrade starts where the upgrade ends. -/
  source : downgrade.source = upgrade.target
  /-- The downgrade ends where the upgrade starts. -/
  target : downgrade.target = upgrade.source
  /-- The older operation is not one of the current version. -/
  older : upgrade.source.versions.isLegalVersion .currentVersion = false
  /-- The newer operation is one of the current version. -/
  newer : upgrade.target.versions.isLegalVersion .currentVersion = true
  /-- The attributes of the older operation have different names. -/
  olderDistinct : upgrade.source.definition.attributes.Nodup
  /-- The attributes of the newer operation have different names. -/
  newerDistinct : upgrade.target.definition.attributes.Nodup
  /-- The attributes of the older operation are kept by the upgrade, or made by the downgrade. -/
  olderAttributes : ∀ name ∈ upgrade.source.definition.attributes,
    name ∈ downgrade.added.map Prod.fst ∨
      name ∈ upgrade.target.definition.attributes ∧ name ∉ upgrade.added.map Prod.fst
  /-- The attributes of the newer operation are kept by the downgrade, or made by the upgrade. -/
  newerAttributes : ∀ name ∈ upgrade.target.definition.attributes,
    name ∈ upgrade.added.map Prod.fst ∨
      name ∈ upgrade.source.definition.attributes ∧ name ∉ downgrade.added.map Prod.fst
  /-- The upgrade makes what the downgrade asks for. -/
  fallbacks : upgrade.added = downgrade.constraints.map fun (name, asked) => (name, asked.fallback)
  /-- The downgrade asks for something of different attributes. -/
  distinct : (downgrade.constraints.map Prod.fst).Nodup
  /-- The upgrade makes only attributes of the newer operation. -/
  addedNewer : ∀ name ∈ upgrade.added.map Prod.fst, name ∈ upgrade.target.definition.attributes
  /-- Every older operation is upgraded. -/
  upgradeAlways : upgrade.constraints = [] ∧ upgrade.singleOperand = false ∧
    upgrade.noRegions = false
  /-- The downgrade copies attributes in the same way. -/
  sameCopy : downgrade.firstResult = upgrade.firstResult
  /-- The older operation is one that the downgrade can make. -/
  single : downgrade.singleOperand = true → upgrade.source.definition.operands = .exactly 1
  /-- The older operation has no regions if the downgrade cannot have them. -/
  regionless : downgrade.noRegions = true → upgrade.source.definition.regions = .exactly 0
  /-- The newer operation takes as many operands and regions. -/
  upgradeArity : keepsArity upgrade.source.definition.operands
      upgrade.target.definition.operands false 0 = true ∧
    keepsArity upgrade.source.definition.regions
      upgrade.target.definition.regions false 0 = true
  /-- The older operation takes as many operands and regions, as far as the downgrade applies. -/
  downgradeArity : keepsArity upgrade.target.definition.operands
      upgrade.source.definition.operands downgrade.singleOperand 1 = true ∧
    keepsArity upgrade.target.definition.regions
      upgrade.source.definition.regions downgrade.noRegions 0 = true

instance (upgrade downgrade : RewritePattern) : Decidable (VersionPair upgrade downgrade) :=
  decidable_of_iff' _ (versionPair_iff upgrade downgrade)

end RewritePattern

/-- Every upgrade has its downgrade. -/
theorem versionPair_of_mem :
    ∀ pair ∈ versionPairs, RewritePattern.VersionPair pair.1 pair.2 := by
  decide

/-- The parts of an operation are as many as its definition says. -/
theorem OperationState.verify_iff {op : OperationState} {numRegions : Nat} :
    op.verify numRegions = true ↔
      op.name.definition.operands.accepts op.operands.length = true ∧
      op.attributes.map Prod.fst = op.name.definition.attributes ∧
      op.name.definition.regions.accepts numRegions = true ∧
      op.name.definition.results.accepts op.results.length = true := by
  simp [verify, and_assoc]

namespace RewritePattern

variable {upgrade downgrade first second : RewritePattern} {op once : OperationState}
  {numRegions : Nat}

/-- When a pattern applies. -/
theorem accepts_iff (pattern : RewritePattern) : pattern.accepts op numRegions = true ↔
    op.name = pattern.source ∧
    (∀ constraint ∈ pattern.constraints,
      (op.getAttr constraint.1).any constraint.2.holds = true) ∧
    (pattern.singleOperand = true → op.operands.length = 1) ∧
    (pattern.noRegions = true → numRegions = 0) ∧
    pattern.target.definition.results.accepts op.results.length = true ∧
    (pattern.firstResult = true → op.results.length ≠ 0) := by
  simp only [accepts, Bool.and_eq_true, beq_iff_eq, List.all_eq_true, Bool.or_eq_true,
    Bool.not_eq_true', bne_iff_ne, and_assoc]
  grind

/-- What a pattern makes. -/
theorem matchAndRewrite_eq_some {pattern : RewritePattern} :
    pattern.matchAndRewrite op numRegions = some once ↔ pattern.accepts op numRegions = true ∧
      ∃ attributes, NamedFields.collect pattern.target.definition.attributes
        (pattern.attributeFor op) = some attributes ∧
        { op with name := pattern.target, attributes := attributes } = once := by
  unfold matchAndRewrite
  split
  case isTrue accepted => simp [accepted, Option.bind_eq_some_iff]
  case isFalse refused => simp [refused]

/-- An arity that is kept accepts what the other one does. -/
theorem accepts_of_keepsArity {source target : Arity} {known : Bool} {count actual : Nat}
    (kept : keepsArity source target known count = true) (accepted : source.accepts actual = true)
    (isKnown : known = true → actual = count) : target.accepts actual = true := by
  simp only [keepsArity, Bool.or_eq_true, Bool.and_eq_true, beq_iff_eq] at kept
  rcases kept with (rfl | rfl) | ⟨given, rfl⟩
  · exact accepted
  · simp [Arity.accepts]
  · simp [Arity.accepts, isKnown given]

/-- A pattern after another one finds the attributes of the first operation. -/
theorem matchAndRewrite_twice (target : second.target = first.source)
    (kept : ∀ name ∈ first.source.definition.attributes, name ∈ second.added.map Prod.fst ∨
      name ∈ first.target.definition.attributes ∧ name ∉ first.added.map Prod.fst)
    (replaced : first.matchAndRewrite op numRegions = some once)
    (accepted : second.accepts once numRegions = true) :
    second.matchAndRewrite once numRegions =
      (NamedFields.collect first.source.definition.attributes (second.attributeFor op)).map
        fun attributes => { op with attributes := attributes } := by
  obtain ⟨applied, attributes, collected, rfl⟩ := matchAndRewrite_eq_some.mp replaced
  have same : NamedFields.collect first.source.definition.attributes
      (second.attributeFor { op with name := first.target, attributes := attributes }) =
      NamedFields.collect first.source.definition.attributes (second.attributeFor op) := by
    apply NamedFields.collect_congr
    intro name listed
    unfold attributeFor
    -- What the second pattern makes depends on the operands only.
    cases added : second.added.lookup name with
    | some code => rfl
    | none =>
      obtain ⟨inTarget, notAdded⟩ :=
        (kept name listed).resolve_left (NamedFields.lookup_eq_none.mp added)
      show attributes.lookup name = op.getAttr name
      rw [NamedFields.lookup_of_collect collected inTarget, attributeFor,
        NamedFields.lookup_eq_none.mpr notAdded]
  obtain ⟨own, _⟩ := (accepts_iff first).mp applied
  rw [matchAndRewrite, if_pos accepted, target, same, ← own]
  cases NamedFields.collect op.name.definition.attributes (second.attributeFor op) <;> rfl

namespace VersionPair

variable (pair : VersionPair upgrade downgrade)

include pair

/-- The upgrade makes the attributes that the downgrade asks something of. -/
theorem added_names : upgrade.added.map Prod.fst = downgrade.constraints.map Prod.fst := by
  rw [pair.fallbacks, List.map_map]
  rfl

/-- What a downgrade drops, the upgrade makes again. -/
theorem attributeFor_upgrade (accepted : downgrade.accepts op numRegions = true)
    {field : String × VhloAttr} (found : op.getAttr field.1 = some field.2) :
    upgrade.attributeFor op field.1 =
      some (if field.1 ∈ downgrade.constraints.map Prod.fst then field.2.respelled
        else field.2) := by
  obtain ⟨_, asked, _⟩ := (accepts_iff downgrade).mp accepted
  unfold attributeFor
  cases added : upgrade.added.lookup field.1 with
  | none =>
    have kept := NamedFields.lookup_eq_none.mp added
    rw [pair.added_names] at kept
    rw [if_neg kept]
    exact found
  | some code =>
    -- The downgrade asks for the attribute that the upgrade makes.
    have listed := NamedFields.mem_of_lookup added
    rw [pair.fallbacks] at listed
    obtain ⟨constraint, inConstraints, same⟩ := List.mem_map.mp listed
    obtain ⟨name, rfl⟩ := Prod.mk.injEq .. ▸ same
    have passed := asked constraint inConstraints
    rw [name, found] at passed
    rw [if_pos (name ▸ List.mem_map_of_mem inConstraints)]
    exact AttrConstraint.make_fallback passed op.operands

/-- The upgrade after the downgrade gives the operation back, with what was dropped respelled. -/
theorem upgrade_downgrade (verified : op.verify numRegions = true)
    (downgraded : downgrade.matchAndRewrite op numRegions = some once) :
    upgrade.matchAndRewrite once numRegions =
      some (op.respelled (downgrade.constraints.map Prod.fst)) := by
  obtain ⟨applied, attributes, collected, made⟩ := matchAndRewrite_eq_some.mp downgraded
  obtain ⟨own, asked, single, regionless, results, copied⟩ := (accepts_iff downgrade).mp applied
  obtain ⟨_, names, _, enough⟩ := OperationState.verify_iff.mp verified
  have accepted : upgrade.accepts once numRegions = true := by
    rw [accepts_iff, ← made]
    obtain ⟨free, several, regions⟩ := pair.upgradeAlways
    rw [own, pair.source] at enough
    exact ⟨pair.target, by simp [free], by simp [several], by simp [regions], enough,
      pair.sameCopy ▸ copied⟩
  rw [matchAndRewrite_twice pair.source.symm
    (pair.source ▸ pair.target ▸ pair.newerAttributes) downgraded accepted]
  rw [← own, ← names, NamedFields.collect_map]
  · rfl
  · intro field listed
    apply pair.attributeFor_upgrade applied
    apply NamedFields.lookup_of_mem _ listed
    rw [names, own, pair.source]
    exact pair.newerDistinct

/-- The downgrade applies after the upgrade. -/
theorem downgrade_accepts (verified : op.verify numRegions = true)
    (upgraded : upgrade.matchAndRewrite op numRegions = some once) :
    downgrade.accepts once numRegions = true := by
  obtain ⟨applied, attributes, collected, rfl⟩ := matchAndRewrite_eq_some.mp upgraded
  obtain ⟨own, _, _, _, _, copied⟩ := (accepts_iff upgrade).mp applied
  obtain ⟨operands, _, regions, enough⟩ := OperationState.verify_iff.mp verified
  rw [own] at operands regions enough
  rw [accepts_iff, pair.target, pair.sameCopy]
  refine ⟨pair.source.symm, ?_, fun single => ?_, fun regionless => ?_, enough, copied⟩
  · -- The upgrade made what the downgrade asks for.
    intro (name, asked) listed
    have added : (name, asked.fallback) ∈ upgrade.added := by
      rw [pair.fallbacks]
      exact List.mem_map_of_mem listed
    have distinct : (upgrade.added.map Prod.fst).Nodup := pair.added_names ▸ pair.distinct
    have named := pair.addedNewer name (List.mem_map_of_mem added)
    show (attributes.lookup name).any asked.holds = true
    rw [NamedFields.lookup_of_collect collected named, attributeFor,
      NamedFields.lookup_of_mem distinct added]
    exact asked.fallback_holds op.operands
  · rw [pair.single single] at operands
    exact beq_iff_eq.mp operands
  · rw [pair.regionless regionless] at regions
    exact beq_iff_eq.mp regions

/-- The downgrade after the upgrade keeps the attributes that it does not make itself. -/
theorem downgrade_upgrade (verified : op.verify numRegions = true)
    (upgraded : upgrade.matchAndRewrite op numRegions = some once) :
    downgrade.matchAndRewrite once numRegions =
      (NamedFields.collect (op.attributes.map Prod.fst) (downgrade.attributeFor op)).map
        fun attributes => { op with attributes := attributes } := by
  obtain ⟨applied, _⟩ := matchAndRewrite_eq_some.mp upgraded
  obtain ⟨own, _⟩ := (accepts_iff upgrade).mp applied
  obtain ⟨_, names, _⟩ := OperationState.verify_iff.mp verified
  rw [matchAndRewrite_twice pair.target pair.olderAttributes upgraded
    (pair.downgrade_accepts verified upgraded), names, own]

/-- The downgrade after the upgrade gives the operation back, when it makes no attributes. -/
theorem downgrade_upgrade_eq (keeps : downgrade.added = [])
    (verified : op.verify numRegions = true)
    (upgraded : upgrade.matchAndRewrite op numRegions = some once) :
    downgrade.matchAndRewrite once numRegions = some op := by
  obtain ⟨applied, _⟩ := matchAndRewrite_eq_some.mp upgraded
  obtain ⟨own, _⟩ := (accepts_iff upgrade).mp applied
  obtain ⟨_, names, _⟩ := OperationState.verify_iff.mp verified
  have distinct : (op.attributes.map Prod.fst).Nodup := by
    rw [names, own]
    exact pair.olderDistinct
  rw [pair.downgrade_upgrade verified upgraded,
    NamedFields.collect_map fun field listed => ?_]
  · rw [List.map_id', Option.map_some]
  · rw [attributeFor, keeps]
    exact NamedFields.lookup_of_mem distinct listed

/-- What the upgrade makes has the right parts. -/
theorem verify_upgrade (verified : op.verify numRegions = true)
    (upgraded : upgrade.matchAndRewrite op numRegions = some once) :
    once.verify numRegions = true := by
  obtain ⟨applied, attributes, collected, rfl⟩ := matchAndRewrite_eq_some.mp upgraded
  obtain ⟨own, _, _, _, results, _⟩ := (accepts_iff upgrade).mp applied
  obtain ⟨operands, _, regions, _⟩ := OperationState.verify_iff.mp verified
  rw [own] at operands regions
  rw [OperationState.verify_iff]
  exact ⟨accepts_of_keepsArity pair.upgradeArity.1 operands nofun,
    NamedFields.keys_of_collect collected,
    accepts_of_keepsArity pair.upgradeArity.2 regions nofun, results⟩

/-- What the downgrade makes has the right parts. -/
theorem verify_downgrade (verified : op.verify numRegions = true)
    (downgraded : downgrade.matchAndRewrite op numRegions = some once) :
    once.verify numRegions = true := by
  obtain ⟨applied, attributes, collected, rfl⟩ := matchAndRewrite_eq_some.mp downgraded
  obtain ⟨own, _, single, regionless, results, _⟩ := (accepts_iff downgrade).mp applied
  obtain ⟨operands, _, regions, _⟩ := OperationState.verify_iff.mp verified
  rw [own, pair.source] at operands regions
  rw [OperationState.verify_iff]
  refine ⟨?_, NamedFields.keys_of_collect collected, ?_, results⟩
  · rw [pair.target]
    exact accepts_of_keepsArity pair.downgradeArity.1 operands single
  · rw [pair.target]
    exact accepts_of_keepsArity pair.downgradeArity.2 regions regionless

end VersionPair

end RewritePattern

/-- Every operation is the source of one pattern at most. -/
theorem patterns_nodup : (patterns.map RewritePattern.source).Nodup := by
  decide

/-- The pattern of an operation decides what replaces it. -/
theorem rewriteOperation_eq {pattern : RewritePattern} (listed : pattern ∈ patterns)
    {op : OperationState} {numRegions : Nat} (own : op.name = pattern.source) :
    rewriteOperation op numRegions = pattern.matchAndRewrite op numRegions := by
  apply NamedFields.findSome?_of_nodup patterns_nodup _ listed own.symm
  intro other _ unlike
  cases replaced : other.matchAndRewrite op numRegions with
  | none => rfl
  | some once =>
    obtain ⟨accepted, _⟩ := RewritePattern.matchAndRewrite_eq_some.mp replaced
    exact absurd ((other.accepts_iff).mp accepted).1.symm unlike

/-- An operation that is replaced is, in some pair, the older or the newer one. -/
theorem exists_versionPair {op once : OperationState} {numRegions : Nat}
    (replaced : rewriteOperation op numRegions = some once) :
    ∃ pair ∈ versionPairs, (op.name = pair.1.source ∧
        pair.1.matchAndRewrite op numRegions = some once) ∨
      op.name = pair.2.source ∧ pair.2.matchAndRewrite op numRegions = some once := by
  obtain ⟨pattern, listed, made⟩ := List.exists_of_findSome?_eq_some replaced
  obtain ⟨accepted, _⟩ := RewritePattern.matchAndRewrite_eq_some.mp made
  have own := ((pattern.accepts_iff).mp accepted).1
  obtain ⟨pair, inPairs, which⟩ := List.mem_flatMap.mp listed
  simp only [List.mem_cons, List.not_mem_nil, or_false] at which
  rcases which with rfl | rfl
  · exact ⟨pair, inPairs, .inl ⟨own, made⟩⟩
  · exact ⟨pair, inPairs, .inr ⟨own, made⟩⟩

/-- Both patterns of a pair are patterns. -/
theorem mem_patterns {pair : RewritePattern × RewritePattern} (listed : pair ∈ versionPairs) :
    pair.1 ∈ patterns ∧ pair.2 ∈ patterns :=
  ⟨List.mem_flatMap.mpr ⟨pair, listed, by simp⟩, List.mem_flatMap.mpr ⟨pair, listed, by simp⟩⟩

end Stablehlo
