import Mathlib.Order.Filter.AtTopBot.Basic
import Mathlib.Order.Filter.Finite
import Stablehlo.Vhlo.Bytecode

/-! What is written to bytecode is read back, unless its integer type has no width. -/

namespace Stablehlo

open ByteReader

namespace VhloNode

/-- Whether an attribute is a tensor. -/
def isTensor : VhloNode → Bool
  | .attr (.tensorV1 ..) => true
  | _ => false

/-- The payload of a type or an attribute has the format that a reader expects of it. -/
def WellTyped : VhloNode → Prop
  | .attr (.floatV1 ofType value) => getFloatSemantics ofType = some value.semantics
  | .attr (.integerV1 ofType value) => getStorageWidth ofType = some value.width
  | .attr (.resultAccuracyV1 atol rtol _ mode) =>
    atol.semantics = .ieeeDouble ∧ rtol.semantics = .ieeeDouble ∧
      ∃ value, mode = .enumV1 (.resultAccuracyModeV1 value)
  | .type (.uniformQuantizedV1 _ _ _ scale _ _ _) => scale.semantics = .ieeeDouble
  | .type (.uniformQuantizedPerAxisV1 _ _ _ _ scales _ _ _) =>
    ∀ scale ∈ scales, scale.semantics = .ieeeDouble
  | _ => True

end VhloNode

section Run

variable {β : Type} (mlir : Primitives) (number : VhloNode → Nat) (resolver : Resolver)

/-- A type is read when its number can be resolved. -/
theorem reads_typeNumber (type : VhloType) :
    Reads (readTypeNumber mlir resolver) (writeTypeNumber mlir number type)
      (resolver.type (number (.type type))) := by
  intro rest
  rw [readTypeNumber, writeTypeNumber, Codec.run_bind]
  exact reads_ofOption _ rest

/-- An attribute is read when its number can be resolved. -/
theorem reads_attributeNumber (attr : VhloAttr) :
    Reads (readAttributeNumber mlir resolver) (writeAttributeNumber mlir number attr)
      (resolver.attr (number (.attr attr))) := by
  intro rest
  rw [readAttributeNumber, writeAttributeNumber, Codec.run_bind]
  exact reads_ofOption _ rest

/-- A number is read in its own format. -/
theorem reads_apFloat (value : APFloat) :
    Reads (readAPFloatWithKnownSemantics mlir value.semantics)
      (writeAPFloatWithKnownSemantics mlir value) (some value) := by
  intro rest
  rw [readAPFloatWithKnownSemantics, writeAPFloatWithKnownSemantics, Codec.run_bind]
  rfl

/-- A dictionary entry is read when its name and its value are. -/
theorem reads_entry (entry : VhloAttr × VhloAttr) :
    Reads (do
        let name ← readAttributeNumber mlir resolver
        let value ← readAttributeNumber mlir resolver
        pure (name, value))
      (writeAttributeNumber mlir number entry.1 ++ writeAttributeNumber mlir number entry.2)
      (do
        let name ← resolver.attr (number (.attr entry.1))
        let value ← resolver.attr (number (.attr entry.2))
        pure (name, value)) := by
  intro rest
  rw [List.append_assoc, (reads_attributeNumber mlir number resolver _).run_bind]
  cases resolver.attr (number (.attr entry.1)) with
  | none => rfl
  | some name =>
    rw [Option.bind_some, (reads_attributeNumber mlir number resolver _).run_bind]
    cases resolver.attr (number (.attr entry.2)) <;> rfl

variable (rest : List UInt8)

@[simp] theorem run_readTypeNumber (type : VhloType) (next : VhloType → Reader β) :
    (readTypeNumber mlir resolver >>= next).run (writeTypeNumber mlir number type ++ rest) =
      (resolver.type (number (.type type))).bind fun type => (next type).run rest :=
  (reads_typeNumber mlir number resolver type).run_bind next rest

@[simp] theorem run_readAttributeNumber (attr : VhloAttr) (next : VhloAttr → Reader β) :
    (readAttributeNumber mlir resolver >>= next).run
        (writeAttributeNumber mlir number attr ++ rest) =
      (resolver.attr (number (.attr attr))).bind fun attr => (next attr).run rest :=
  (reads_attributeNumber mlir number resolver attr).run_bind next rest

@[simp] theorem run_readTypes (types : List VhloType) (next : List VhloType → Reader β) :
    (readTypes mlir resolver >>= next).run (writeTypes mlir number types ++ rest) =
      (types.mapM fun type => resolver.type (number (.type type))).bind
        fun types => (next types).run rest :=
  (reads_readList mlir.varInt (reads_typeNumber mlir number resolver) types).run_bind next rest

@[simp] theorem run_readAttributes (attrs : List VhloAttr) (next : List VhloAttr → Reader β) :
    (readAttributes mlir resolver >>= next).run (writeAttributes mlir number attrs ++ rest) =
      (attrs.mapM fun attr => resolver.attr (number (.attr attr))).bind
        fun attrs => (next attrs).run rest :=
  (reads_readList mlir.varInt (reads_attributeNumber mlir number resolver) attrs).run_bind next rest

@[simp] theorem run_readSignedVarInts (values : List Int64) (next : List Int64 → Reader β) :
    (readSignedVarInts mlir >>= next).run (writeSignedVarInts mlir values ++ rest) =
      (next values).run rest :=
  run_readList_bind mlir.varInt mlir.signedVarInt values next rest

/-- The reader of an optional attribute hands on what its number can be resolved to. -/
@[simp] theorem run_readOptionalAttribute (attr : Option VhloAttr)
    (next : Option VhloAttr → Reader β) :
    (readOptionalAttribute mlir resolver >>= next).run
        (mlir.optional.write (attr.map fun attr => number (.attr attr)) ++ rest) =
      (attr.mapM fun attr => resolver.attr (number (.attr attr))).bind
        fun attr => (next attr).run rest := by
  rw [readOptionalAttribute, bind_assoc, Codec.run_bind]
  cases attr with
  | none => rfl
  | some attr =>
    simp only [Option.map_some, bind_assoc, run_ofOption_bind, pure_bind]
    cases known : resolver.attr (number (.attr attr)) <;> simp [known]

/-- A value of an enumeration is read. -/
theorem run_readEnumV1Attr {α : Type} [EnumTable α] (build : α → VhloEnumAttr) (value : α) :
    (readEnumV1Attr mlir build).run (writeEnumAttribute mlir value ++ rest) =
      some (.enumV1 (build value), rest) := by
  rw [readEnumV1Attr, readEnumAttribute, writeEnumAttribute, bind_assoc, Codec.run_bind,
    Nat.mod_eq_of_lt (EnumTable.number_lt value), EnumTable.symbolizeNumber_number]
  rfl

/-- The scales of a quantized type are read when they are doubles. -/
theorem run_readScales {scales : List APFloat}
    (doubles : ∀ scale ∈ scales, scale.semantics = .ieeeDouble)
    (next : List APFloat → Reader β) :
    (readList mlir.varInt (readAPFloatWithKnownSemantics mlir .ieeeDouble) >>= next).run
        (writeList mlir.varInt (writeAPFloatWithKnownSemantics mlir) scales ++ rest) =
      (next scales).run rest := by
  -- Doubles are written from their bits.
  obtain ⟨bits, rfl⟩ : ∃ bits : List (BitVec 64), bits.map APFloat.ofDouble = scales := by
    induction scales with
    | nil => exact ⟨[], rfl⟩
    | cons scale scales ih =>
      rw [List.forall_mem_cons] at doubles
      obtain ⟨bits, rfl⟩ := ih doubles.2
      obtain ⟨_, scale⟩ := scale
      cases doubles.1
      exact ⟨scale :: bits, rfl⟩
  have each : ∀ value, Reads (readAPFloatWithKnownSemantics mlir .ieeeDouble)
      (writeAPFloatWithKnownSemantics mlir (.ofDouble value)) (some (.ofDouble value)) := by
    intro value
    exact reads_apFloat mlir (.ofDouble value)
  have all := (reads_readList mlir.varInt each bits).run_bind next rest
  have values : bits.mapM (fun value => some (APFloat.ofDouble value)) =
      some (bits.map APFloat.ofDouble) := List.mapM_pure
  rw [values, Option.bind_some] at all
  rw [← all, writeList, writeList, List.flatMap_map, List.length_map]

end Run

section Accepted

variable (mlir : Primitives) (resolver : Resolver)

/-- A number that has been read has the format that was asked for. -/
theorem ensures_semantics (semantics : FloatSemantics) :
    Ensures (readAPFloatWithKnownSemantics mlir semantics)
      fun value => value.semantics = semantics := by
  exact ensures_bind fun bits => ensures_pure rfl

/-- Whatever is read as an attribute has a payload of the right format. -/
theorem ensures_wellTyped_attribute :
    Ensures (readAttribute mlir resolver) fun attr => VhloNode.WellTyped (.attr attr) := by
  apply ensures_bind
  intro code
  cases symbolize AttributeCode.all AttributeCode.value code with
  | none => exact ensures_none
  | some code =>
    cases code with
    | floatV1 =>
      apply ensures_bind
      intro type
      apply (ensures_ofOption _).bind
      intro semantics known
      apply (ensures_semantics mlir semantics).bind
      rintro value rfl
      exact ensures_pure known
    | integerV1 =>
      apply ensures_bind
      intro type
      apply (ensures_ofOption _).bind
      intro width known
      exact ensures_bind fun bits => ensures_pure known
    | resultAccuracyV1 =>
      apply (ensures_semantics mlir _).bind
      intro atol atolDouble
      apply (ensures_semantics mlir _).bind
      intro rtol rtolDouble
      apply ensures_bind
      intro ulps
      apply ensures_bind
      intro mode
      split
      · exact ensures_pure ⟨atolDouble, rtolDouble, _, rfl⟩
      · exact ensures_none
    | booleanV1 =>
      apply ensures_bind
      intro value
      split
      · exact ensures_none
      · exact ensures_pure trivial
    | axisRefV1 =>
      apply ensures_bind
      intro name
      apply ensures_bind
      intro hasSubAxisInfo
      split
      · exact ensures_bind fun _ => ensures_pure trivial
      · exact ensures_pure trivial
    -- Nothing is asked of the other attributes.
    | outputOperandAliasV1 | tensorV1 =>
      exact ensures_bind fun _ => ensures_bind fun _ => ensures_bind fun _ => ensures_pure trivial
    | subAxisInfoV1 | replicaGroupMeshAxesV1 | meshAxisV1 | meshV1 =>
      exact ensures_bind fun _ => ensures_bind fun _ => ensures_pure trivial
    | _ => exact ensures_bind fun _ => ensures_pure trivial

/-- Whatever is read as a type has a payload of the right format. -/
theorem ensures_wellTyped_type :
    Ensures (readType mlir resolver) fun type => VhloNode.WellTyped (.type type) := by
  apply ensures_bind
  intro code
  cases symbolize TypeCode.all TypeCode.value code with
  | none => exact ensures_none
  | some code =>
    cases code with
    | scalar kind => exact ensures_pure trivial
    | uniformQuantizedV1 =>
      apply ensures_bind
      intro flags
      apply ensures_bind
      intro storageType
      apply ensures_bind
      intro expressedType
      apply (ensures_semantics mlir _).bind
      intro scale double
      exact ensures_bind fun _ => ensures_bind fun _ => ensures_bind fun _ => ensures_pure double
    | uniformQuantizedPerAxisV1 =>
      apply ensures_bind
      intro flags
      apply ensures_bind
      intro storageType
      apply ensures_bind
      intro expressedType
      apply ensures_bind
      intro quantizedDimension
      apply ensures_bind
      intro storageTypeMin
      apply ensures_bind
      intro storageTypeMax
      have scales : Ensures
          (readList mlir.varInt (readAPFloatWithKnownSemantics mlir .ieeeDouble))
          fun scales => ∀ scale ∈ scales, scale.semantics = .ieeeDouble := by
        exact ensures_bind fun count => ensures_readMany (ensures_semantics mlir _) count
      apply scales.bind
      intro scales doubles
      exact ensures_bind fun _ => ensures_pure doubles
    | rankedTensorV1 | rankedTensorV1WithEncoding =>
      exact ensures_bind fun _ => ensures_bind fun _ => ensures_bind fun _ => ensures_pure trivial
    | functionV1 | rankedBufferV1 =>
      exact ensures_bind fun _ => ensures_bind fun _ => ensures_pure trivial
    | complexV1 | tupleV1 | unrankedTensorV1 | futureV1 =>
      exact ensures_bind fun _ => ensures_pure trivial

end Accepted

section OneLevel

variable (mlir : Primitives) (number : VhloNode → Nat) (resolver : Resolver)

/-- The number of a type or an attribute stands for it. -/
def Resolver.Resolves (resolver : Resolver) : VhloNode → Prop
  | .type type => resolver.type (number (.type type)) = some type
  | .attr attr => resolver.attr (number (.attr attr)) = some attr

/-- A type or an attribute is what its bytes are read as. -/
def Resolver.ReadsBack (resolver : Resolver) : VhloNode → Prop
  | .type type => readAll (readType mlir resolver) (writeType mlir number type) = some type
  | .attr attr => readAll (readAttribute mlir resolver) (writeAttribute mlir number attr) = some attr

/-- A member that is read and kept decides whether its attribute is read back. -/
theorem resolved_iff {α : Type} {result : Option α} {member : α} {attr : VhloAttr}
    {next : α → Reader VhloAttr} {bytes rest : List UInt8}
    (kept : ∀ found, Ensures (next found) fun other => other = attr → found = member)
    (read : (next member).run bytes = some (attr, rest)) :
    (result.bind fun member => (next member).run bytes) = some (attr, rest) ↔
      result = some member := by
  constructor
  · intro whole
    obtain ⟨found, resolved, foundRead⟩ := Option.bind_eq_some_iff.mp whole
    rw [resolved, (kept found).holds bytes _ foundRead rfl]
  · intro resolved
    rw [resolved, Option.bind_some, read]

/-- A payload of the right format is read back when the members are. -/
theorem run_readAttribute (attr : VhloAttr) (typed : VhloNode.WellTyped (.attr attr))
    (noTensor : VhloNode.isTensor (.attr attr) = false) (rest : List UInt8) :
    (readAttribute mlir resolver).run (writeAttribute mlir number attr ++ rest) =
        some (attr, rest) ↔
      ∀ member ∈ (VhloNode.attr attr).members, resolver.Resolves number member := by
  cases attr with
  | arrayV1 value =>
    simp only [readAttribute, writeAttribute, readArrayV1Attr, List.append_assoc, Codec.run_bind,
      AttributeCode.symbolize_value, run_readAttributes, run_pure]
    simp [VhloNode.members, Resolver.Resolves, Option.bind_eq_some_iff, mapM_eq_some_self]
  | booleanV1 value =>
    simp only [readAttribute, writeAttribute, readBooleanV1Attr, List.append_assoc,
      Codec.run_bind, AttributeCode.symbolize_value]
    cases value <;> simp [VhloNode.members]
  | dictionaryV1 value =>
    have reads := reads_readList mlir.varInt (reads_entry mlir number resolver) value
    simp only [readAttribute, writeAttribute, readDictionaryV1Attr, List.append_assoc,
      Codec.run_bind, AttributeCode.symbolize_value, reads.run_bind, run_pure]
    -- An entry is resolved when its name and its value are.
    simp only [Option.bind_eq_some_iff, Option.some.injEq, Prod.mk.injEq, and_true,
      VhloAttr.dictionaryV1.injEq, exists_eq_right, mapM_eq_some_self, VhloNode.members,
      List.forall_mem_flatMap]
    apply forall₂_congr
    intro entry _
    simp [Option.bind_eq_some_iff, Resolver.Resolves, Prod.ext_iff]
  | floatV1 type value =>
    have known : getFloatSemantics type = some value.semantics := typed
    simp only [readAttribute, writeAttribute, readFloatV1Attr, List.append_assoc,
      Codec.run_bind, AttributeCode.symbolize_value, run_readTypeNumber, VhloNode.members,
      List.mem_singleton, forall_eq]
    apply resolved_iff
    · intro found
      apply ensures_bind
      intro semantics
      exact ensures_bind fun value => ensures_pure (by rintro ⟨⟩; rfl)
    · simp only [known, run_ofOption_bind, Option.bind_some, (reads_apFloat mlir value).run_bind,
        run_pure]
  | integerV1 type value =>
    have known : getStorageWidth type = some value.width := typed
    simp only [readAttribute, writeAttribute, readIntegerV1Attr, List.append_assoc,
      Codec.run_bind, AttributeCode.symbolize_value, run_readTypeNumber, VhloNode.members,
      List.mem_singleton, forall_eq]
    apply resolved_iff
    · intro found
      apply ensures_bind
      intro width
      exact ensures_bind fun value => ensures_pure (by rintro ⟨⟩; rfl)
    · simp only [known, run_ofOption_bind, Option.bind_some, Codec.run_bind, run_pure]
  | outputOperandAliasV1 outputTupleIndices operandIndex operandTupleIndices =>
    simp only [readAttribute, writeAttribute, readOutputOperandAliasV1Attr, List.append_assoc,
      Codec.run_bind, AttributeCode.symbolize_value, run_readSignedVarInts, run_pure]
    simp [VhloNode.members]
  | stringV1 value =>
    simp only [readAttribute, writeAttribute, readStringV1Attr, List.append_assoc,
      Codec.run_bind, AttributeCode.symbolize_value, run_pure]
    simp [VhloNode.members]
  | tensorV1 => cases noTensor
  | typeV1 value =>
    simp only [readAttribute, writeAttribute, readTypeV1Attr, List.append_assoc,
      Codec.run_bind, AttributeCode.symbolize_value, run_readTypeNumber, run_pure]
    simp [VhloNode.members, Resolver.Resolves, Option.bind_eq_some_iff]
  | typeExtensionsV1 bounds =>
    simp only [readAttribute, writeAttribute, readTypeExtensionsV1Attr, List.append_assoc,
      Codec.run_bind, AttributeCode.symbolize_value, run_readSignedVarInts, run_pure]
    simp [VhloNode.members]
  | enumV1 value =>
    cases value <;>
      simp only [readAttribute, writeAttribute, List.append_assoc, Codec.run_bind,
        AttributeCode.symbolize_value, run_readEnumV1Attr] <;>
      simp [VhloNode.members]
  | resultAccuracyV1 atol rtol ulps mode =>
    obtain ⟨atolSemantics, atol⟩ := atol
    obtain ⟨rtolSemantics, rtol⟩ := rtol
    obtain ⟨rfl, rfl, mode, rfl⟩ := typed
    simp only [readAttribute, writeAttribute, readResultAccuracyV1Attr, List.append_assoc,
      Codec.run_bind, AttributeCode.symbolize_value, (reads_apFloat mlir ⟨_, atol⟩).run_bind,
      (reads_apFloat mlir ⟨_, rtol⟩).run_bind, Option.bind_some, run_readAttributeNumber,
      VhloNode.members, List.mem_singleton, forall_eq]
    apply resolved_iff
    · intro found
      split
      · exact ensures_pure (by rintro ⟨⟩; rfl)
      · exact ensures_none
    · rfl
  | subAxisInfoV1 preSize size =>
    simp only [readAttribute, writeAttribute, readSubAxisInfoV1Attr, List.append_assoc,
      Codec.run_bind, AttributeCode.symbolize_value, run_pure]
    simp [VhloNode.members]
  | axisRefV1 name subAxisInfo =>
    cases subAxisInfo with
    | none =>
      simp only [readAttribute, writeAttribute, readAxisRefV1Attr, List.append_assoc,
        Codec.run_bind, AttributeCode.symbolize_value, run_readAttributeNumber, ne_eq,
        not_true_eq_false, if_false, run_pure]
      simp [VhloNode.members, Resolver.Resolves, Option.bind_eq_some_iff]
    | some subAxisInfo =>
      simp only [readAttribute, writeAttribute, readAxisRefV1Attr, List.append_assoc,
        Codec.run_bind, AttributeCode.symbolize_value, run_readAttributeNumber, ne_eq,
        Nat.one_ne_zero, not_false_eq_true, if_true, run_pure]
      simp [VhloNode.members, Resolver.Resolves, Option.bind_eq_some_iff]
  | replicaGroupMeshAxesV1 mesh axes =>
    simp only [readAttribute, writeAttribute, readReplicaGroupMeshAxesV1Attr, List.append_assoc,
      Codec.run_bind, AttributeCode.symbolize_value, run_readAttributeNumber, run_pure]
    simp [VhloNode.members, Resolver.Resolves, Option.bind_eq_some_iff]
  | meshAxisV1 name size =>
    simp only [readAttribute, writeAttribute, readMeshAxisV1Attr, List.append_assoc,
      Codec.run_bind, AttributeCode.symbolize_value, run_readAttributeNumber, run_pure]
    simp [VhloNode.members, Resolver.Resolves, Option.bind_eq_some_iff]
  | meshV1 axes deviceIds =>
    simp only [readAttribute, writeAttribute, readMeshV1Attr, List.append_assoc,
      Codec.run_bind, AttributeCode.symbolize_value, run_readAttributeNumber,
      run_readOptionalAttribute, run_pure]
    cases deviceIds <;> simp [VhloNode.members, Resolver.Resolves, Option.bind_eq_some_iff]

/-- A signed number survives being written without a sign. -/
theorem ofNat_toUInt64 (value : Int32) : Int32.ofNat value.toInt64.toUInt64.toNat = value := by
  apply Int32.toBitVec_inj.mp
  show BitVec.ofNat 32 (value.toBitVec.signExtend 64).toNat = value.toBitVec
  -- The lower half of the wider number is the number.
  rw [BitVec.ofNat_toNat]
  ext place inRange
  rw [BitVec.getElem_setWidth, BitVec.getLsbD_signExtend]
  grind

/-- A type whose payload has the right format is read back when the members are. -/
theorem run_readType (type : VhloType) (typed : VhloNode.WellTyped (.type type))
    (rest : List UInt8) :
    (readType mlir resolver).run (writeType mlir number type ++ rest) = some (type, rest) ↔
      ∀ member ∈ (VhloNode.type type).members, resolver.Resolves number member := by
  cases type with
  | scalar kind =>
    simp only [readType, writeType, Codec.run_bind, TypeCode.symbolize_value, run_pure]
    simp [VhloNode.members]
  | complexV1 elementType =>
    simp only [readType, writeType, readComplexV1Type, List.append_assoc, Codec.run_bind,
      TypeCode.symbolize_value, run_readTypeNumber, run_pure]
    simp [VhloNode.members, Resolver.Resolves, Option.bind_eq_some_iff]
  | functionV1 inputs outputs =>
    simp only [readType, writeType, readFunctionV1Type, List.append_assoc, Codec.run_bind,
      TypeCode.symbolize_value, run_readTypes, run_pure, VhloNode.members, List.map_append, 
      List.forall_mem_append]
    simp [Resolver.Resolves, Option.bind_eq_some_iff, mapM_eq_some_self]
  | rankedTensorV1 shape elementType encoding =>
    cases encoding with
    | none =>
      simp only [readType, writeType, readRankedTensorV1Type, readEncoding, List.append_assoc,
        Codec.run_bind, TypeCode.symbolize_value, if_true, if_false, pure_bind,
        run_readSignedVarInts, run_readTypeNumber, run_pure, Bool.false_eq_true]
      simp [VhloNode.members, Resolver.Resolves, Option.bind_eq_some_iff]
    | some encoding =>
      simp only [readType, writeType, readRankedTensorV1Type, readEncoding, List.append_assoc,
        Codec.run_bind, TypeCode.symbolize_value, if_true, pure_bind, bind_assoc,
        run_readAttributeNumber, run_readSignedVarInts, run_readTypeNumber, run_pure]
      simp [VhloNode.members, Resolver.Resolves, Option.bind_eq_some_iff, and_comm]
  | futureV1 types =>
    simp only [readType, writeType, readFutureV1Type, List.append_assoc, Codec.run_bind,
      TypeCode.symbolize_value, run_readTypes, run_pure]
    simp [VhloNode.members, Resolver.Resolves, Option.bind_eq_some_iff, mapM_eq_some_self]
  | tupleV1 types =>
    simp only [readType, writeType, readTupleV1Type, List.append_assoc, Codec.run_bind,
      TypeCode.symbolize_value, run_readTypes, run_pure]
    simp [VhloNode.members, Resolver.Resolves, Option.bind_eq_some_iff, mapM_eq_some_self]
  | uniformQuantizedV1 flags storageType expressedType scale =>
    obtain ⟨semantics, scale⟩ := scale
    obtain rfl : semantics = .ieeeDouble := typed
    simp only [readType, writeType, readUniformQuantizedV1Type, List.append_assoc, Codec.run_bind,
      TypeCode.symbolize_value, run_readTypeNumber, (reads_apFloat mlir ⟨_, scale⟩).run_bind, 
      Option.bind_some, run_pure]
    simp [VhloNode.members, Resolver.Resolves, Option.bind_eq_some_iff]
  | uniformQuantizedPerAxisV1 flags storageType expressedType quantizedDimension scales =>
    have doubles : ∀ scale ∈ scales, scale.semantics = .ieeeDouble := typed
    simp only [readType, writeType, readUniformQuantizedPerAxisV1Type, List.append_assoc,
      Codec.run_bind, TypeCode.symbolize_value, run_readTypeNumber,
      run_readScales mlir _ doubles, run_readSignedVarInts, run_pure, ofNat_toUInt64]
    simp [VhloNode.members, Resolver.Resolves, Option.bind_eq_some_iff]
  | unrankedTensorV1 elementType =>
    simp only [readType, writeType, readUnrankedTensorV1Type, List.append_assoc, Codec.run_bind,
      TypeCode.symbolize_value, run_readTypeNumber, run_pure]
    simp [VhloNode.members, Resolver.Resolves, Option.bind_eq_some_iff]
  | rankedBufferV1 shape elementType =>
    simp only [readType, writeType, readRankedBufferV1Type, List.append_assoc, Codec.run_bind,
      TypeCode.symbolize_value, run_readSignedVarInts, run_readTypeNumber, run_pure]
    simp [VhloNode.members, Resolver.Resolves, Option.bind_eq_some_iff]

/-- A type or an attribute is read back when its payload is right and its members are. -/
theorem readsBack_iff (node : VhloNode) (noTensor : node.isTensor = false) :
    resolver.ReadsBack mlir number node ↔
      node.WellTyped ∧ ∀ member ∈ node.members, resolver.Resolves number member := by
  cases node with
  | type type =>
    show readAll (readType mlir resolver) (writeType mlir number type) = some type ↔ _
    rw [readAll_eq_some]
    constructor
    · intro read
      have typed := (ensures_wellTyped_type mlir resolver).holds _ _ read
      refine ⟨typed, (run_readType mlir number resolver type typed []).mp ?_⟩
      rwa [List.append_nil]
    · intro ⟨typed, members⟩
      have read := (run_readType mlir number resolver type typed []).mpr members
      rwa [List.append_nil] at read
  | attr attr =>
    show readAll (readAttribute mlir resolver) (writeAttribute mlir number attr) = some attr ↔ _
    rw [readAll_eq_some]
    constructor
    · intro read
      have typed := (ensures_wellTyped_attribute mlir resolver).holds _ _ read
      refine ⟨typed, (run_readAttribute mlir number resolver attr typed noTensor []).mp ?_⟩
      rwa [List.append_nil]
    · intro ⟨typed, members⟩
      have read := (run_readAttribute mlir number resolver attr typed noTensor []).mpr members
      rwa [List.append_nil] at read

end OneLevel

/-- The bytes of the types and attributes of a file, by their numbers. -/
structure EntryTable where
  /-- The bytes of the type with a number. -/
  type : Nat → Option (List UInt8)
  /-- The bytes of the attribute with a number. -/
  attr : Nat → Option (List UInt8)

/-- Numbers are resolved by reading their entries, which resolve numbers in turn. -/
def EntryTable.resolver (table : EntryTable) (mlir : Primitives) : Nat → Resolver
  -- No entry is read any more.
  | 0 => ⟨fun _ => none, fun _ => none⟩
  | depth + 1 =>
    let inner := table.resolver mlir depth
    ⟨fun number => (table.type number).bind (readAll (readType mlir inner)),
      fun number => (table.attr number).bind (readAll (readAttribute mlir inner))⟩

section Tables

variable (mlir : Primitives) (number : VhloNode → Nat) (table : EntryTable)

/-- The entry of a type or an attribute has its bytes. -/
def EntryTable.Holds (table : EntryTable) : VhloNode → Prop
  | .type type => table.type (number (.type type)) = some (writeType mlir number type)
  | .attr attr => table.attr (number (.attr attr)) = some (writeAttribute mlir number attr)

/-- A number is resolved by reading its entry. -/
theorem resolves_succ_iff (depth : Nat) (node : VhloNode) (holds : table.Holds mlir number node) :
    (table.resolver mlir (depth + 1)).Resolves number node ↔
      (table.resolver mlir depth).ReadsBack mlir number node := by
  cases node with
  | type type =>
    show (table.type (number (.type type))).bind _ = some type ↔ _
    rw [show table.type (number (.type type)) = _ from holds, Option.bind_some]
    rfl
  | attr attr =>
    show (table.attr (number (.attr attr))).bind _ = some attr ↔ _
    rw [show table.attr (number (.attr attr)) = _ from holds, Option.bind_some]
    rfl

/-- A type or an attribute is read back, however deep the reader may go from some depth on. -/
def EntryTable.ReadsBack (node : VhloNode) : Prop :=
  ∃ bound, ∀ depth, bound ≤ depth → (table.resolver mlir depth).ReadsBack mlir number node

/-- Finitely many readers that succeed from some depth on do so from one depth on. -/
theorem exists_bound_forall (nodes : List VhloNode) (P : Nat → VhloNode → Prop) :
    (∃ bound, ∀ depth, bound ≤ depth → ∀ node ∈ nodes, P depth node) ↔
      ∀ node ∈ nodes, ∃ bound, ∀ depth, bound ≤ depth → P depth node := by
  have finite := Filter.eventually_all_finite (l := Filter.atTop) nodes.finite_toSet
    (p := fun node depth => P depth node)
  rw [Filter.eventually_atTop] at finite
  simp only [Filter.eventually_atTop] at finite
  exact finite

/-- A type or an attribute is read back when its payload is right and its members are read back. -/
theorem tableReadsBack_iff (node : VhloNode) (noTensor : node.isTensor = false)
    (holds : ∀ member ∈ node.members, table.Holds mlir number member) :
    table.ReadsBack mlir number node ↔
      node.WellTyped ∧ ∀ member ∈ node.members, table.ReadsBack mlir number member := by
  simp only [EntryTable.ReadsBack]
  rw [← exists_bound_forall]
  constructor
  · intro ⟨bound, reads⟩
    have first := (readsBack_iff mlir number _ node noTensor).mp (reads bound (Nat.le_refl _))
    refine ⟨first.1, bound, fun depth deep member listed => ?_⟩
    rw [← resolves_succ_iff mlir number table depth member (holds member listed)]
    have whole := reads (depth + 1) (by omega)
    exact ((readsBack_iff mlir number _ node noTensor).mp whole).2 member listed
  · intro ⟨typed, bound, reads⟩
    refine ⟨bound + 1, fun depth deep => ?_⟩
    -- The members are read one level below.
    obtain ⟨depth, rfl⟩ : ∃ below, depth = below + 1 := ⟨depth - 1, by omega⟩
    apply (readsBack_iff mlir number _ node noTensor).mpr
    refine ⟨typed, fun member listed => ?_⟩
    rw [resolves_succ_iff mlir number table depth member (holds member listed)]
    exact reads depth (by omega) member listed

end Tables

/--
A type or an attribute without tensors is read back exactly when every payload is right.

An integer attribute needs a type that has a width, which two-bit integers have not.
-/
theorem readsBack_iff_wellTyped (mlir : Primitives) (number : VhloNode → Nat)
    (table : EntryTable) (node : VhloNode)
    (noTensor : ∀ inner : VhloNode, inner.Inside node → inner.isTensor = false)
    (holds : ∀ inner : VhloNode, inner.Inside node → table.Holds mlir number inner) :
    table.ReadsBack mlir number node ↔
      ∀ inner : VhloNode, inner.Inside node → inner.WellTyped := by
  apply Nesting.iff_forall_nested_of sizeOf (fun _ _ => VhloNode.sizeOf_lt_of_mem) node
  intro value nested
  apply tableReadsBack_iff mlir number table value (noTensor value nested)
  intro member listed
  exact holds member (Relation.ReflTransGen.tail nested listed)

/-- The number of zero bytes in front of a byte. -/
def readZeros : List UInt8 → Option (Nat × List UInt8)
  | [] => none
  | byte :: bytes =>
    if byte = 0 then (readZeros bytes).map fun (count, rest) => (count + 1, rest)
    else some (0, bytes)

/-- Zero bytes are counted up to the first other byte. -/
theorem readZeros_replicate (count : Nat) (rest : List UInt8) :
    readZeros (List.replicate count 0 ++ 1 :: rest) = some (count, rest) := by
  induction count with
  | zero => rfl
  | succ count ih =>
    rw [List.replicate_succ, List.cons_append, readZeros, if_pos rfl, ih]
    rfl

/-- A byte that is not zero holds a number, and zero bytes are counted. -/
def readShortVarInt : Reader Nat
  | [] => none
  | byte :: bytes =>
    if byte = 0 then (readZeros bytes).map fun (count, rest) => (count + 128, rest)
    else some (byte.toNat / 2, bytes)

/-- Numbers below 128 are one byte, as they are for MLIR. -/
def shortVarInt : Codec Nat where
  write value :=
    if value < 128 then [UInt8.ofNat (2 * value + 1)]
    else 0 :: (List.replicate (value - 128) 0 ++ [1])
  read := readShortVarInt
  read_write value rest := by
    show readShortVarInt _ = _
    by_cases short : value < 128
    · have byte : (UInt8.ofNat (2 * value + 1)).toNat = 2 * value + 1 := by
        rw [UInt8.toNat_ofNat']
        omega
      have nonzero : UInt8.ofNat (2 * value + 1) ≠ 0 := by
        intro zero
        rw [zero] at byte
        simp at byte
      rw [if_pos short, List.singleton_append, readShortVarInt, if_neg nonzero, byte]
      simp only [Option.some.injEq, Prod.mk.injEq, and_true]
      omega
    · rw [if_neg short, List.cons_append, readShortVarInt, if_pos rfl, List.append_assoc,
        List.singleton_append, readZeros_replicate]
      simp only [Option.map_some, Option.some.injEq, Prod.mk.injEq, and_true]
      omega

/-- Numbers that are not negative have the even codes. -/
def zigzag (value : Int) : Nat :=
  (if 0 ≤ value then 2 * value else -2 * value - 1).toNat

/-- The number with a code. -/
def unzigzag (code : Nat) : Int :=
  if code % 2 = 0 then ((code / 2 : Nat) : Int) else -(((code + 1) / 2 : Nat) : Int)

/-- A number is the one with its code. -/
theorem unzigzag_zigzag (value : Int) : unzigzag (zigzag value) = value := by
  unfold unzigzag zigzag
  split <;> split at * <;> omega

/-- Signed numbers are written as their codes. -/
def shortSignedVarInt : Codec Int64 :=
  shortVarInt.of (fun value => zigzag value.toInt) (fun code => .ofInt (unzigzag code))
    fun value => by rw [unzigzag_zigzag, Int64.ofInt_toInt]

/-- Integers that are not negative are signed numbers. -/
def shortAPInt (width : Nat) : Codec (BitVec width) :=
  shortVarInt.of (fun bits => 2 * bits.toNat) (fun code => .ofNat width (code / 2)) fun bits => by
    rw [Nat.mul_div_cancel_left _ (by omega), BitVec.ofNat_toNat, BitVec.setWidth_eq]

/-- The code of an optional number, which is zero for none. -/
def optionalCode : Option Nat → Nat
  | none => 0
  | some number => 2 * number + 1

/-- The optional number of a code. -/
def optionalOfCode (code : Nat) : Option Nat := if code = 0 then none else some (code / 2)

/-- The code of an optional number stands for it. -/
theorem optionalOfCode_optionalCode (number : Option Nat) :
    optionalOfCode (optionalCode number) = number := by
  cases number with
  | none => rfl
  | some number =>
    rw [optionalOfCode, optionalCode, if_neg (Nat.succ_ne_zero _), Option.some.injEq]
    omega

/-- Primitives that write small numbers in one byte. -/
def shortPrimitives : Primitives where
  varInt := shortVarInt
  signedVarInt := shortSignedVarInt
  optional := shortVarInt.of optionalCode optionalOfCode optionalOfCode_optionalCode
  string := (Codec.list shortVarInt (shortVarInt.of Char.toNat Char.ofNat Char.ofNat_toNat)).of
    String.toList String.ofList fun _ => String.ofList_toList
  blob := Codec.list shortVarInt (shortVarInt.of UInt8.toNat UInt8.ofNat fun _ => UInt8.ofNat_toNat)
  apInt := shortAPInt
  apFloat semantics := shortAPInt semantics.sizeInBits

/-- A file with one integer attribute and its type, both with the number zero. -/
def integerTable (type : VhloScalarType) (value : APInt) : EntryTable where
  type _ := some (writeType shortPrimitives (fun _ => 0) (.scalar type))
  attr _ := some (writeAttribute shortPrimitives (fun _ => 0) (.integerV1 (.scalar type) value))

/-- What is inside an integer attribute is the attribute or its type. -/
theorem eq_of_inside_integer {inner : VhloNode} {type : VhloScalarType} {value : APInt}
    (inside : inner.Inside (.attr (.integerV1 (.scalar type) value))) :
    inner = .attr (.integerV1 (.scalar type) value) ∨ inner = .type (.scalar type) := by
  rcases Nesting.nested_cases inside with rfl | ⟨member, listed, nested⟩
  · exact .inl rfl
  · rw [VhloNode.members, List.mem_singleton] at listed
    rw [listed] at nested
    rcases Nesting.nested_cases nested with rfl | ⟨_, none, _⟩
    · exact .inr rfl
    · cases none

/-- The entries of the file are those of the attribute and its type. -/
theorem integerTable_holds (type : VhloScalarType) (value : APInt) (inner : VhloNode)
    (inside : inner.Inside (.attr (.integerV1 (.scalar type) value))) :
    (integerTable type value).Holds shortPrimitives (fun _ => 0) inner := by
  rcases eq_of_inside_integer inside with rfl | rfl <;> rfl

/-- A 32-bit integer is read back. -/
theorem readsBack_iff_wellTyped_si32 :
    (integerTable .integerSI32V1 ⟨32, 5⟩).ReadsBack shortPrimitives (fun _ => 0)
      (.attr (.integerV1 (.scalar .integerSI32V1) ⟨32, 5⟩)) := by
  apply (readsBack_iff_wellTyped shortPrimitives (fun _ => 0)
    (integerTable .integerSI32V1 ⟨32, 5⟩) _ ?_ (integerTable_holds _ _)).mpr
  · intro inner inside
    rcases eq_of_inside_integer inside with rfl | rfl
    · rfl
    · trivial
  · intro inner inside
    rcases eq_of_inside_integer inside with rfl | rfl <;> rfl

/-- A two-bit integer is not read back, although its type and its bytes are in the file. -/
theorem readsBack_fails_si2 :
    (∀ inner : VhloNode, inner.Inside (.attr (.integerV1 (.scalar .integerSI2V1) ⟨2, 1⟩)) →
      inner.isTensor = false ∧
        (integerTable .integerSI2V1 ⟨2, 1⟩).Holds shortPrimitives (fun _ => 0) inner) ∧
      ¬(integerTable .integerSI2V1 ⟨2, 1⟩).ReadsBack shortPrimitives (fun _ => 0)
        (.attr (.integerV1 (.scalar .integerSI2V1) ⟨2, 1⟩)) := by
  constructor
  · intro inner inside
    refine ⟨?_, integerTable_holds _ _ inner inside⟩
    rcases eq_of_inside_integer inside with rfl | rfl <;> rfl
  · intro ⟨bound, reads⟩
    -- The type has no width that the value could be read in.
    have typed := ((readsBack_iff _ _ _ _ rfl).mp (reads bound (Nat.le_refl _))).1
    cases typed

end Stablehlo
