import Mathlib.Data.Nat.Init
import Stablehlo.Legalize.Attrs

/-! Attributes that are converted to VHLO and back, and what they are spelled as then. -/

namespace Stablehlo

open EnumTable

namespace StablehloAttr

mutual

/-- An attribute as it is spelled on the way back from VHLO. -/
def respelled : StablehloAttr → StablehloAttr
  -- VHLO has one kind of arrays of numbers, and one kind of strings.
  | .denseI64Array value => .denseElements (.ofInt64s value)
  | .denseBoolArray value => .denseElements (.ofBools value)
  | .flatSymbolRef value => .string value .noneType
  -- The reference to a mesh stays one.
  | .replicaGroupMeshAxes (.flatSymbolRef name) axes =>
    .replicaGroupMeshAxes (.flatSymbolRef name) (allRespelled axes)
  | .replicaGroupMeshAxes ofMesh axes =>
    .replicaGroupMeshAxes (respelled ofMesh) (allRespelled axes)
  | .array value => .array (allRespelled value)
  | .dictionary value => .dictionary (entriesRespelled value)
  | attr => attr

/-- A list of attributes as they are spelled on the way back. -/
def allRespelled : List StablehloAttr → List StablehloAttr
  | [] => []
  | attr :: attrs => respelled attr :: allRespelled attrs

/-- The entries of a dictionary as they are spelled on the way back. -/
def entriesRespelled : List (String × StablehloAttr) → List (String × StablehloAttr)
  | [] => []
  | (name, value) :: entries => (name, respelled value) :: entriesRespelled entries

end

/-- What MLIR and the verifier of an attribute guarantee of it. -/
def WellFormed : StablehloAttr → Prop
  | .dictionary value => (value.map Prod.fst).Pairwise (· ≤ ·)
  | .mesh _ (some deviceIds) =>
    (∃ signedness width, deviceIds.elementType = .integer signedness width) ∨
      deviceIds.elementType = .index
  | .replicaGroupMeshAxes ofMesh _ =>
    (∃ name, ofMesh = .flatSymbolRef name) ∨ ∃ axes deviceIds, ofMesh = .mesh axes deviceIds
  | _ => True

/-- Whether an attribute has no component that the conversions lose. -/
def Preserved : StablehloAttr → Prop
  | .float value => value.isSignaling = false ∨ value.semantics = .ieeeDouble
  | .mesh _ (some deviceIds) => deviceIds.elementType.toType.supported = true
  | .type value => ∀ inner : StablehloType, inner.Inside value →
      inner.supported = true ∧ inner.expressible = true
  | _ => True

end StablehloAttr

section RoundTrip

variable {conversions : DoubleConversions}

attribute [local simp] StablehloToVhlo.convertGeneric VhloToStablehlo.convertGeneric

/-- An attribute comes back as it is respelled, if it can be converted. -/
def ReturnsRespelled (conversions : DoubleConversions) (attr : StablehloAttr) : Prop :=
  ∀ converted : VhloAttr, StablehloToVhlo.convertGeneric attr = .converted converted →
    VhloToStablehlo.convertGeneric conversions converted = some attr.respelled

/-- Values of enumerations come back. -/
theorem convertEnum_back (value : StablehloEnumAttr) (converted : VhloEnumAttr)
    (known : StablehloToVhlo.convertEnum value = some converted) :
    VhloToStablehlo.convertEnum converted = some value := by
  cases value with
  | customCallApiVersion => cases known
  | _ =>
    obtain ⟨other, named, rfl⟩ := Option.map_eq_some_iff.mp known
    simp [VhloToStablehlo.convertEnum, byName_symm named]

/-- Dense elements come back. -/
theorem convertDenseElements_back (attr : DenseElementsAttr) (converted : VhloAttr)
    (known : StablehloToVhlo.convertDenseElements attr = .converted converted) :
    VhloToStablehlo.convertGeneric conversions converted = some (.denseElements attr) := by
  unfold StablehloToVhlo.convertDenseElements DenseElementsAttr.type at known
  rw [StablehloToVhlo.convertType] at known
  cases elements : StablehloToVhlo.convertType attr.elementType.toType with
  | converted elementType =>
    rw [elements] at known
    cases known
    simp [VhloToStablehlo.convertGeneric, VhloToStablehlo.convertType, VhloToStablehlo.isShaped]
  | _ => simp [elements, Conversion.map] at known

/-- A list of attributes comes back when each of them does. -/
theorem convertGenerics_back (attrs : List StablehloAttr)
    (each : ∀ attr ∈ attrs, ReturnsRespelled conversions attr) (converted : List VhloAttr)
    (known : StablehloToVhlo.convertGenerics attrs = .converted converted) :
    VhloToStablehlo.convertGenerics conversions converted =
      some (StablehloAttr.allRespelled attrs) := by
  induction attrs generalizing converted with
  | nil =>
    cases known
    rfl
  | cons attr attrs ih =>
    rw [List.forall_mem_cons] at each
    rw [StablehloToVhlo.convertGenerics] at known
    obtain ⟨first, rest, firstKnown, restKnown, rfl⟩ := Conversion.both_map_eq_converted known
    simp [VhloToStablehlo.convertGenerics, each.1 first firstKnown, ih each.2 rest restKnown,
      StablehloAttr.allRespelled]

/-- The entries of a dictionary come back when each of their values does. -/
theorem convertEntries_back (entries : List (String × StablehloAttr))
    (each : ∀ attr ∈ entries.map Prod.snd, ReturnsRespelled conversions attr)
    (converted : List (VhloAttr × VhloAttr))
    (known : StablehloToVhlo.convertEntries entries = .converted converted) :
    VhloToStablehlo.convertEntries conversions converted =
      some (StablehloAttr.entriesRespelled entries) := by
  induction entries generalizing converted with
  | nil =>
    cases known
    rfl
  | cons entry entries ih =>
    obtain ⟨name, value⟩ := entry
    rw [List.map_cons, List.forall_mem_cons] at each
    rw [StablehloToVhlo.convertEntries] at known
    obtain ⟨first, rest, firstKnown, restKnown, rfl⟩ := Conversion.both_map_eq_converted known
    simp [VhloToStablehlo.convertEntries, VhloToStablehlo.convertGeneric,
      each.1 first firstKnown, ih each.2 rest restKnown, StablehloAttr.entriesRespelled]

/-- The names of the entries stay. -/
theorem map_fst_entriesRespelled (entries : List (String × StablehloAttr)) :
    (StablehloAttr.entriesRespelled entries).map Prod.fst = entries.map Prod.fst := by
  induction entries with
  | nil => rfl
  | cons entry entries ih =>
    rw [StablehloAttr.entriesRespelled, List.map_cons, List.map_cons, ih]

/-- Entries that are sorted by name are those of the dictionary. -/
theorem dictionaryAttr_of_sorted (entries : List (String × StablehloAttr))
    (sorted : (entries.map Prod.fst).Pairwise (· ≤ ·)) :
    VhloToStablehlo.dictionaryAttr entries = .dictionary entries := by
  rw [VhloToStablehlo.dictionaryAttr, List.mergeSort_of_pairwise]
  rw [List.pairwise_map] at sorted
  exact sorted.imp fun inOrder => by simpa using inOrder

/-- The axes of a mesh come back. -/
theorem meshAxes_back (axes : List (String × Int64)) :
    ∃ attrs, VhloToStablehlo.convertGenerics conversions
        (axes.map fun (name, size) => .meshAxisV1 (.stringV1 name) size) = some attrs ∧
      attrs.mapM VhloToStablehlo.meshAxis? = some axes := by
  induction axes with
  | nil => exact ⟨[], rfl, rfl⟩
  | cons axis axes ih =>
    obtain ⟨name, size⟩ := axis
    obtain ⟨attrs, known, meshAxes⟩ := ih
    refine ⟨.meshAxis name size :: attrs, ?_, ?_⟩
    · simp [VhloToStablehlo.convertGenerics, VhloToStablehlo.convertGeneric, known]
    · simp [List.mapM_cons, VhloToStablehlo.meshAxis?, meshAxes]

/-- A number that the conversions keep comes back. -/
theorem float_back (value : APFloat)
    (kept : value.isSignaling = false ∨ value.semantics = .ieeeDouble)
    (converted : VhloAttr)
    (known : StablehloToVhlo.convertGeneric (.float value) = .converted converted) :
    VhloToStablehlo.convertGeneric conversions converted = some (.float value) := by
  rw [StablehloToVhlo.convertGeneric, StablehloToVhlo.convertType] at known
  cases known
  simp only [VhloToStablehlo.convertGeneric, VhloToStablehlo.convertType,
    StablehloType.convertScalarType_float, VhloToStablehlo.floatAttr, Option.some.injEq,
    StablehloAttr.float.injEq]
  obtain ⟨semantics, bits⟩ := value
  rcases kept with quiet | rfl
  · rw [conversions.convertFromDouble_convertToDouble ⟨semantics, bits⟩ quiet]
  · have double : ∀ bits, APFloat.ofDouble (conversions.convertFromDouble .ieeeDouble
        (conversions.convertToDouble (.ofDouble bits))) = .ofDouble bits := by
      intro bits
      rw [conversions.convertToDouble_ofDouble, conversions.convertFromDouble_double]
    exact double bits

/-- An integer comes back with its type. -/
theorem integer_back (signedness : Signedness) (width : Nat) (value : BitVec width)
    (converted : VhloAttr)
    (known : StablehloToVhlo.convertGeneric (.integer signedness width value) =
      .converted converted) :
    VhloToStablehlo.convertGeneric conversions converted =
      some (.integer signedness width value) := by
  by_cases boolean : signedness = .signless ∧ width = 1
  · -- One bit without a sign is a boolean.
    obtain ⟨rfl, rfl⟩ := boolean
    rw [StablehloToVhlo.convertGeneric] at known
    cases known
    rw [VhloToStablehlo.convertGeneric, StablehloAttr.bool]
    congr
    revert value
    decide
  · rw [StablehloToVhlo.convertGeneric] at known
    · rw [StablehloToVhlo.convertType] at known
      cases kind : convertBuiltinIntegerType signedness width with
      | none => simp [kind, Conversion.map] at known
      | some kind' =>
        rw [kind] at known
        cases known
        simp [VhloToStablehlo.convertGeneric, VhloToStablehlo.convertType,
          StablehloType.convertScalarType_integer signedness width kind' kind,
          VhloToStablehlo.integerAttr]
    · intro _ signless one
      exact absurd ⟨signless, one⟩ boolean

/-- A type comes back when the conversions lose none of its components. -/
theorem type_back (value : StablehloType)
    (kept : ∀ inner : StablehloType, inner.Inside value →
      inner.supported = true ∧ inner.expressible = true)
    (converted : VhloAttr)
    (known : StablehloToVhlo.convertGeneric (.type value) = .converted converted) :
    VhloToStablehlo.convertGeneric conversions converted = some (.type value) := by
  obtain ⟨type, typeKnown, back⟩ :=
    (StablehloType.returns_iff_inside conversions.convertToDouble_ofDouble value).mpr kept
  rw [StablehloToVhlo.convertGeneric, typeKnown] at known
  cases known
  rw [VhloToStablehlo.convertGeneric, back]

/-- Device ids that have a VHLO type are converted and come back. -/
theorem deviceIds_back (deviceIds : Option DenseElementsAttr)
    (integers : StablehloAttr.WellFormed (.mesh [] deviceIds))
    (kept : StablehloAttr.Preserved (.mesh [] deviceIds)) (converted : Option VhloAttr)
    (known : StablehloToVhlo.convertDeviceIds deviceIds = .converted converted) :
    (VhloToStablehlo.convertOptional conversions converted).bind VhloToStablehlo.denseInts? =
      deviceIds := by
  cases deviceIds with
  | none =>
    cases known
    rfl
  | some deviceIds =>
    rw [StablehloToVhlo.convertDeviceIds] at known
    cases elements : StablehloToVhlo.convertDenseElements deviceIds with
    | failed =>
      -- An integer type that has a counterpart is converted.
      rw [StablehloToVhlo.convertDenseElements, DenseElementsAttr.type,
        StablehloToVhlo.convertType] at elements
      rcases integers with ⟨signedness, width, integer⟩ | index
      · simp only [StablehloAttr.Preserved, integer, DenseElementType.toType,
          StablehloType.supported, Option.isSome_iff_exists] at kept
        obtain ⟨kind, isKnown⟩ := kept
        simp [integer, DenseElementType.toType, StablehloToVhlo.convertType, isKnown,
          Conversion.map] at elements
      · simp [index, DenseElementType.toType, StablehloToVhlo.convertType,
          Conversion.map] at elements
    | incomplete => simp [elements] at known
    | converted attr =>
      rw [elements] at known
      cases known
      rw [VhloToStablehlo.convertOptional, convertDenseElements_back deviceIds attr elements,
        Option.bind_some]
      rcases integers with ⟨signedness, width, integer⟩ | index
      · simp [VhloToStablehlo.denseInts?, integer]
      · simp [VhloToStablehlo.denseInts?, index]

/-- A mesh comes back with its axes and device ids. -/
theorem mesh_back (axes : List (String × Int64)) (deviceIds : Option DenseElementsAttr)
    (integers : StablehloAttr.WellFormed (.mesh [] deviceIds))
    (kept : StablehloAttr.Preserved (.mesh [] deviceIds)) (converted : VhloAttr)
    (known : StablehloToVhlo.convertGeneric (.mesh axes deviceIds) = .converted converted) :
    VhloToStablehlo.convertGeneric conversions converted = some (.mesh axes deviceIds) := by
  rw [StablehloToVhlo.convertGeneric] at known
  cases ids : StablehloToVhlo.convertDeviceIds deviceIds with
  | converted idsConverted =>
    rw [ids] at known
    cases known
    obtain ⟨attrs, axesKnown, meshAxes⟩ := @meshAxes_back conversions axes
    simp [VhloToStablehlo.convertGeneric, axesKnown, meshAxes,
      deviceIds_back deviceIds integers kept idsConverted ids]
  | _ => simp [ids, Conversion.map] at known

/-- What comes back of an attribute is what it is spelled as, when nothing of it is lost. -/
theorem returnsRespelled (attr : StablehloAttr)
    (wellFormed : ∀ inner : StablehloAttr, inner.Inside attr → inner.WellFormed)
    (preserved : ∀ inner : StablehloAttr, inner.Inside attr → inner.Preserved) :
    ReturnsRespelled conversions attr := by
  induction attr using Nesting.induction sizeOf StablehloAttr.sizeOf_lt_of_mem with
  | step attr ih =>
    have members : ∀ member ∈ attr.members, ReturnsRespelled conversions member := by
      intro member listed
      apply ih member listed
      · intro inner inside
        exact wellFormed inner (inside.of_member listed)
      · intro inner inside
        exact preserved inner (inside.of_member listed)
    have own := wellFormed attr (.refl attr)
    have kept := preserved attr (.refl attr)
    intro converted known
    cases attr with
    | enum value =>
      rw [StablehloToVhlo.convertGeneric] at known
      cases named : StablehloToVhlo.convertEnum value with
      | none => simp [named, StablehloToVhlo.ofOption, Conversion.map] at known
      | some attr =>
        rw [named] at known
        cases known
        simp [VhloToStablehlo.convertGeneric, convertEnum_back value attr named,
          StablehloAttr.respelled]
    | outputOperandAlias | subAxisInfo =>
      rw [StablehloToVhlo.convertGeneric] at known
      cases known
      simp [VhloToStablehlo.convertGeneric, StablehloAttr.respelled]
    | resultAccuracy atol rtol ulps mode =>
      rw [StablehloToVhlo.convertGeneric] at known
      cases named : StablehloToVhlo.convertEnum (.resultAccuracyMode mode) with
      | none => simp [named, StablehloToVhlo.ofOption, Conversion.map] at known
      | some attr =>
        rw [named] at known
        cases known
        simp [VhloToStablehlo.convertGeneric, convertEnum_back _ attr named,
          StablehloAttr.respelled]
    | axisRef name subAxisInfo =>
      rw [StablehloToVhlo.convertGeneric] at known
      cases known
      cases subAxisInfo <;>
        simp [VhloToStablehlo.convertGeneric, VhloToStablehlo.convertOptional,
          StablehloAttr.respelled]
    | meshAxis name size =>
      rw [StablehloToVhlo.convertGeneric] at known
      cases known
      simp [VhloToStablehlo.convertGeneric, StablehloAttr.respelled]
    | mesh axes deviceIds =>
      rw [mesh_back axes deviceIds (by cases deviceIds <;> exact own)
        (by cases deviceIds <;> exact kept) converted known, StablehloAttr.respelled]
      all_goals simp
    | replicaGroupMeshAxes ofMesh axes =>
      have axesReturn : ∀ axis ∈ axes, ReturnsRespelled conversions axis := by
        intro axis listed
        exact members axis (List.mem_cons_of_mem _ listed)
      rcases own with ⟨name, rfl⟩ | ⟨meshAxes, deviceIds, rfl⟩
      · -- A reference to a mesh is a string in VHLO.
        rw [StablehloToVhlo.convertGeneric] at known
        cases elements : StablehloToVhlo.convertGenerics axes with
        | converted axesConverted =>
          rw [elements] at known
          cases known
          simp [VhloToStablehlo.convertGeneric, StablehloAttr.respelled,
            convertGenerics_back axes axesReturn axesConverted elements]
        | _ => simp [elements, Conversion.map] at known
      · have meshReturns := members (.mesh meshAxes deviceIds) List.mem_cons_self
        rw [StablehloToVhlo.convertGeneric] at known
        · obtain ⟨mesh, axesConverted, meshKnown, axesKnown, rfl⟩ :=
            Conversion.both_map_eq_converted known
          have meshBack := meshReturns mesh meshKnown
          have axesBack := convertGenerics_back axes axesReturn axesConverted axesKnown
          -- The mesh is not a string, so it is converted like any attribute.
          rw [StablehloToVhlo.convertGeneric] at meshKnown
          cases ids : StablehloToVhlo.convertDeviceIds deviceIds with
          | converted idsConverted =>
            rw [ids] at meshKnown
            cases meshKnown
            simp [-VhloToStablehlo.convertGeneric,
              VhloToStablehlo.convertGeneric.eq_def conversions (.replicaGroupMeshAxesV1 _ _),
              meshBack, VhloToStablehlo.convertGeneric.eq_def conversions (.arrayV1 _), axesBack,
              StablehloAttr.respelled]
          | _ => simp [ids, Conversion.map] at meshKnown
        · simp
    | scatterDimensionNumbers | gatherDimensionNumbers | dotDimensionNumbers
    | convDimensionNumbers | dotAlgorithm | channelHandle | typeExtensions | other =>
      rw [StablehloToVhlo.convertGeneric] at known
      cases known
    | array value =>
      rw [StablehloToVhlo.convertGeneric] at known
      cases elements : StablehloToVhlo.convertGenerics value with
      | converted elementsConverted =>
        rw [elements] at known
        cases known
        simp [VhloToStablehlo.convertGeneric, StablehloAttr.respelled,
          convertGenerics_back value members elementsConverted elements]
      | _ => simp [elements, Conversion.map] at known
    | denseElements value => 
      rw [StablehloToVhlo.convertGeneric] at known
      rw [convertDenseElements_back _ _ known, StablehloAttr.respelled]
      all_goals simp
    | denseI64Array value | denseBoolArray value =>
      rw [StablehloToVhlo.convertGeneric] at known
      rw [convertDenseElements_back _ _ known, StablehloAttr.respelled]
    | dictionary value =>
      rw [StablehloToVhlo.convertGeneric] at known
      cases entries : StablehloToVhlo.convertEntries value with
      | converted entriesConverted =>
        rw [entries] at known
        cases known
        rw [VhloToStablehlo.convertGeneric,
          convertEntries_back value members entriesConverted entries, Option.map_some,
          dictionaryAttr_of_sorted, StablehloAttr.respelled]
        rw [map_fst_entriesRespelled]
        exact own
      | _ => simp [entries, Conversion.map] at known
    | float value => 
      rw [float_back value kept converted known, StablehloAttr.respelled]
      all_goals simp
    | integer signedness width value => 
      rw [integer_back signedness width value converted known, StablehloAttr.respelled]
      all_goals simp
    | index value =>
      rw [StablehloToVhlo.convertGeneric, StablehloToVhlo.convertType] at known
      cases known
      simp [VhloToStablehlo.convertGeneric, VhloToStablehlo.convertType, 
        VhloToStablehlo.convertScalarType, VhloToStablehlo.integerAttr, StablehloAttr.respelled]
    | flatSymbolRef value =>
      rw [StablehloToVhlo.convertGeneric] at known
      cases known
      simp [VhloToStablehlo.convertGeneric, StablehloAttr.respelled]
    | string value type =>
      cases type with
      | noneType =>
        rw [StablehloToVhlo.convertGeneric] at known
        cases known
        simp [VhloToStablehlo.convertGeneric, StablehloAttr.respelled]
      | _ =>
        rw [StablehloToVhlo.convertGeneric] at known
        · cases known
        · simp
    | type value => 
      rw [type_back value kept converted known, StablehloAttr.respelled]
      all_goals simp

end RoundTrip

/-- An attribute that is converted comes back, in one spelling for each VHLO attribute. -/
theorem convertGeneric_back (conversions : DoubleConversions) (attr : StablehloAttr)
    (wellFormed : ∀ inner : StablehloAttr, inner.Inside attr → inner.WellFormed)
    (preserved : ∀ inner : StablehloAttr, inner.Inside attr → inner.Preserved)
    (converted : VhloAttr)
    (known : StablehloToVhlo.convertGeneric attr = .converted converted) :
    VhloToStablehlo.convertGeneric conversions converted = some attr.respelled :=
  returnsRespelled attr wellFormed preserved converted known

/-- Formats have at most 64 bits. -/
theorem FloatSemantics.sizeInBits_le (semantics : FloatSemantics) : semantics.sizeInBits ≤ 64 := by
  cases semantics <;> decide

/-- Conversions that keep the bits of every number, which is right for doubles and for zero. -/
def storedDoubles : DoubleConversions where
  convertToDouble value := .ofNat 64 value.bits.toNat
  convertFromDouble semantics value := .ofNat semantics.sizeInBits value.toNat
  convertToDouble_ofDouble value := by
    show BitVec.ofNat 64 value.toNat = value
    rw [BitVec.ofNat_toNat, BitVec.setWidth_eq]
  convertFromDouble_double value := by
    show BitVec.ofNat 64 value.toNat = value
    rw [BitVec.ofNat_toNat, BitVec.setWidth_eq]
  convertFromDouble_convertToDouble value _ := by
    have small := value.bits.isLt
    have fits := Nat.pow_le_pow_right (n := 2) (by decide) value.semantics.sizeInBits_le
    apply BitVec.eq_of_toNat_eq
    rw [BitVec.toNat_ofNat, BitVec.toNat_ofNat, Nat.mod_eq_of_lt (Nat.lt_of_lt_of_le small fits),
      Nat.mod_eq_of_lt small]

/-- An array comes back with its double, and with dense elements for its numbers. -/
theorem convertGeneric_back_array :
    ∃ converted, StablehloToVhlo.convertGeneric
        (.array [.denseI64Array [1, 2], .float (.ofDouble 0x3FF8000000000000)]) =
          .converted converted ∧
      VhloToStablehlo.convertGeneric storedDoubles converted =
        some (.array [.denseElements (.ofInt64s [1, 2]), .float (.ofDouble 0x3FF8000000000000)]) := by
  have inside : ∀ inner : StablehloAttr,
      inner.Inside (.array [.denseI64Array [1, 2], .float (.ofDouble 0x3FF8000000000000)]) →
        inner.WellFormed ∧ inner.Preserved := by
    intro inner nested
    rcases Nesting.nested_cases nested with rfl | ⟨member, listed, nested⟩
    · exact ⟨trivial, trivial⟩
    · simp only [StablehloAttr.members, List.mem_cons, List.not_mem_nil, or_false] at listed
      rcases listed with rfl | rfl <;>
        rcases Nesting.nested_cases nested with rfl | ⟨_, none, _⟩
      · exact ⟨trivial, trivial⟩
      · cases none
      · exact ⟨trivial, .inr rfl⟩
      · cases none
  refine ⟨_, rfl, ?_⟩
  exact convertGeneric_back storedDoubles
    (.array [.denseI64Array [1, 2], .float (.ofDouble 0x3FF8000000000000)])
    (fun inner nested => (inside inner nested).1) (fun inner nested => (inside inner nested).2)
    _ rfl

/-- A symbol reference comes back as a string. -/
theorem convertGeneric_loses_symbolRef :
    ∃ converted, StablehloToVhlo.convertGeneric (.array [.flatSymbolRef "main"]) =
        .converted converted ∧
      VhloToStablehlo.convertGeneric storedDoubles converted ≠
        some (.array [.flatSymbolRef "main"]) := by
  refine ⟨.arrayV1 [.stringV1 "main"], rfl, ?_⟩
  simp [VhloToStablehlo.convertGeneric, VhloToStablehlo.convertGenerics]

end Stablehlo
