import Stablehlo.Vhlo.BytecodeRoundTrip

/-! Tensors in bytecode: their booleans are packed, and a splat is a byte of its own. -/

namespace Stablehlo

open ByteReader

section Packing

variable {booleans : List UInt8}

/-- The booleans that bytes stand for: one byte for each, or a single one for all. -/
def booleansOf (numElements : Nat) (rawData : List UInt8) : List Bool :=
  (List.range numElements).map fun element =>
    rawData.getD (if rawData.length = 1 then 0 else element) 0 != 0

/-- Bytes that booleans are stored as, each on its own or all of them as one. -/
def StoresBooleans (numElements : Nat) (rawData : List UInt8) : Prop :=
  rawData.length = numElements ∨ rawData.length = 1

/-- A byte with room for another boolean moves up to make it the lowest bit. -/
theorem toNat_packByte_cons (boolean : UInt8) (room : (packByte booleans).toNat < 128) :
    (packByte (boolean :: booleans)).toNat =
      2 * (packByte booleans).toNat + if boolean = 0 then 0 else 1 := by
  have unfolded : packByte (boolean :: booleans) =
      2 * packByte booleans + if boolean = 0 then 0 else 1 := rfl
  rw [unfolded, UInt8.toNat_add, UInt8.toNat_mul]
  split
  · simp only [UInt8.toNat_ofNat, Nat.add_zero]
    omega
  · simp only [UInt8.toNat_ofNat]
    omega

/-- Booleans take as many bits as there are of them. -/
theorem packByte_lt (short : booleans.length ≤ 8) :
    (packByte booleans).toNat < 2 ^ booleans.length := by
  induction booleans with
  | nil => decide
  | cons boolean booleans ih =>
    rw [List.length_cons] at short ⊢
    have below := ih (by omega)
    have most : 2 ^ booleans.length ≤ 2 ^ 7 := Nat.pow_le_pow_right (by omega) (by omega)
    rw [toNat_packByte_cons boolean (by omega), Nat.pow_succ]
    split <;> omega

/-- A bit of a packed byte is the boolean at its place. -/
theorem testBit_packByte (short : booleans.length ≤ 8) (place : Nat) :
    (packByte booleans).toNat.testBit place = (booleans.getD place 0 != 0) := by
  induction booleans generalizing place with
  | nil => simp [packByte]
  | cons boolean booleans ih =>
    rw [List.length_cons] at short
    have below := @packByte_lt booleans (by omega)
    have most : 2 ^ booleans.length ≤ 2 ^ 7 := Nat.pow_le_pow_right (by omega) (by omega)
    rw [toNat_packByte_cons boolean (by omega)]
    cases place with
    | zero =>
      rw [Nat.testBit_zero, List.getD_cons_zero]
      split
      · next zero => simp [zero]
      · next nonzero => simp [nonzero]
    | succ place =>
      -- The other bits are those of the byte before it moved up.
      have half : (2 * (packByte booleans).toNat + if boolean = 0 then 0 else 1) / 2 =
          (packByte booleans).toNat := by
        split <;> omega
      rw [Nat.testBit_succ, half, ih (by omega), List.getD_cons_succ]

end Packing

section Blobs

variable {type : VhloType} {numElements element : Nat} {rawData : List UInt8}

/-- The bytes that booleans are packed into. -/
def packedBytes (numElements : Nat) (rawData : List UInt8) : List UInt8 :=
  (List.range ((numElements + 7) / 8)).map fun byte =>
    packByte (((rawData.take numElements).drop (8 * byte)).take 8)

/-- There is a byte for every eight booleans, and one for what is left. -/
theorem length_packedBytes : (packedBytes numElements rawData).length = (numElements + 7) / 8 := by
  rw [packedBytes, List.length_map, List.length_range]

/-- A boolean is the bit at its place. -/
theorem testBit_packedBytes (within : element < numElements) :
    ((packedBytes numElements rawData).getD (element / 8) 0).toNat.testBit (element % 8) =
      (rawData.getD element 0 != 0) := by
  have inRange : element / 8 < (numElements + 7) / 8 := by omega
  have byte : (packedBytes numElements rawData).getD (element / 8) 0 =
      packByte (((rawData.take numElements).drop (8 * (element / 8))).take 8) := by
    simp [packedBytes, List.getD, List.getElem?_map, List.getElem?_range inRange]
  have short : (((rawData.take numElements).drop (8 * (element / 8))).take 8).length ≤ 8 := by
    rw [List.length_take]
    exact Nat.min_le_left _ _
  rw [byte, testBit_packByte short]
  -- The place in the byte is the place among all of them.
  have place : 8 * (element / 8) + element % 8 = element := Nat.div_add_mod element 8
  have low : element % 8 < 8 := Nat.mod_lt _ (by omega)
  simp [List.getD, List.getElem?_drop, low, place, within]

/-- What is written for booleans. -/
theorem writeVhloTensorV1Attr_eq (elements : booleanElements type = some numElements) :
    writeVhloTensorV1Attr type rawData =
      if rawData.length = 1 ∧ 1 < numElements then [if rawData.getD 0 0 = 0 then 0x00 else 0xFF]
      else packedBytes numElements rawData := by
  rw [writeVhloTensorV1Attr, elements]
  rfl

/-- The booleans of the bits of a blob. -/
def unpackedBytes (numElements : Nat) (blob : List UInt8) : List UInt8 :=
  (List.range numElements).map fun element =>
    if (blob.getD (element / 8) 0).toNat.testBit (element % 8) then 1 else 0

/-- What is read for booleans. -/
theorem readVhloTensorV1Attr_eq {blob : List UInt8}
    (elements : booleanElements type = some numElements) :
    readVhloTensorV1Attr type blob =
      if blob = [0xFF] then [0x01]
      else if blob.length = (numElements + 7) / 8 ∧ blob.length ≠ numElements then
        unpackedBytes numElements blob
      else blob := by
  rw [readVhloTensorV1Attr, elements]
  rfl

/-- There is a byte for every boolean. -/
theorem length_unpackedBytes {blob : List UInt8} :
    (unpackedBytes numElements blob).length = numElements := by
  rw [unpackedBytes, List.length_map, List.length_range]

/-- Unpacked booleans are the bits of the blob. -/
theorem booleansOf_unpackedBytes {blob : List UInt8} (several : numElements ≠ 1) :
    booleansOf numElements (unpackedBytes numElements blob) =
      (List.range numElements).map fun element =>
        (blob.getD (element / 8) 0).toNat.testBit (element % 8) := by
  refine List.map_congr_left fun element listed => ?_
  have within := List.mem_range.mp listed
  rw [length_unpackedBytes, if_neg several]
  have byte : (unpackedBytes numElements blob).getD element 0 =
      if (blob.getD (element / 8) 0).toNat.testBit (element % 8) then 1 else 0 := by
    simp [unpackedBytes, List.getD, List.getElem?_map, List.getElem?_range within]
  rw [byte]
  cases (blob.getD (element / 8) 0).toNat.testBit (element % 8) <;> rfl

/-- A single byte stands for a boolean for every element. -/
theorem booleansOf_singleton (byte : UInt8) :
    booleansOf numElements [byte] = (List.range numElements).map fun _ => byte != 0 :=
  rfl

/-- Bytes for the elements stand for booleans one by one. -/
theorem booleansOf_eq (stores : rawData.length = numElements ∨ numElements ≤ 1) :
    booleansOf numElements rawData =
      (List.range numElements).map fun element => rawData.getD element 0 != 0 := by
  refine List.map_congr_left fun element listed => ?_
  have within := List.mem_range.mp listed
  split
  · next single =>
    obtain rfl : element = 0 := by omega
    rfl
  · rfl

/-- A byte all of whose bits are set has every one of the first eight. -/
theorem testBit_ones (within : element < 8) : (0xFF : UInt8).toNat.testBit element = true := by
  rcases element with _ | _ | _ | _ | _ | _ | _ | _ | element
  all_goals first | rfl | omega

/-- Packed booleans are read as the same ones. -/
theorem booleansOf_read_packedBytes (elements : booleanElements type = some numElements)
    (stores : rawData.length = numElements ∨ numElements ≤ 1) :
    booleansOf numElements (readVhloTensorV1Attr type (packedBytes numElements rawData)) =
      booleansOf numElements rawData := by
  rw [readVhloTensorV1Attr_eq elements, booleansOf_eq stores]
  by_cases ones : packedBytes numElements rawData = [0xFF]
  · -- A full byte looks like a splat, but then it is one of eight elements.
    rw [if_pos ones, booleansOf_singleton]
    have bytes := congrArg List.length ones
    rw [length_packedBytes, List.length_singleton] at bytes
    refine List.map_congr_left fun element listed => ?_
    have within := List.mem_range.mp listed
    rw [← testBit_packedBytes within, ones]
    have first : element / 8 = 0 := by omega
    rw [first, List.getD_cons_zero, testBit_ones (Nat.mod_lt _ (by omega))]
    rfl
  · rw [if_neg ones, length_packedBytes]
    split
    · next sizes =>
      rw [booleansOf_unpackedBytes (by omega)]
      refine List.map_congr_left fun element listed => ?_
      exact testBit_packedBytes (List.mem_range.mp listed)
    · next same =>
      -- As many bytes as elements: there is at most one of them.
      rw [booleansOf_eq (.inr (by omega))]
      refine List.map_congr_left fun element listed => ?_
      have within := List.mem_range.mp listed
      obtain rfl : element = 0 := by omega
      obtain rfl : numElements = 1 := by omega
      rw [← @testBit_packedBytes _ _ rawData within]
      have byte : packedBytes 1 rawData = [packByte ((rawData.take 1).take 8)] := rfl
      rw [byte]
      cases rawData with
      | nil => rfl
      | cons boolean booleans =>
        -- A single boolean is packed into a zero or a one.
        rw [List.take_succ_cons, List.take_zero]
        by_cases zero : boolean = 0
        · rw [zero]
          rfl
        · have one : packByte ([boolean].take 8) = 1 := by
            rw [show [boolean].take 8 = [boolean] from rfl]
            simp [packByte, zero]
          rw [one]
          rfl

/-- A splat is read as the same booleans. -/
theorem booleansOf_read_splat (elements : booleanElements type = some numElements)
    (several : 1 < numElements) (byte : UInt8) :
    booleansOf numElements (readVhloTensorV1Attr type [if byte = 0 then 0x00 else 0xFF]) =
      booleansOf numElements [byte] := by
  rw [readVhloTensorV1Attr_eq elements, booleansOf_singleton]
  by_cases zero : byte = 0
  · rw [if_pos zero, if_neg (by decide), zero]
    split
    · -- Up to eight elements, the byte is taken to be packed, without a bit that is set.
      rw [booleansOf_unpackedBytes (by omega)]
      refine List.map_congr_left fun element listed => ?_
      have within := List.mem_range.mp listed
      cases element / 8 <;> simp
    · rfl
  · -- Every other byte is written as the one all of whose bits are set.
    rw [if_neg zero, if_pos rfl, booleansOf_singleton]
    refine List.map_congr_left fun element _ => ?_
    simp [zero]

/-- What is read for booleans that were written are bytes for the same booleans. -/
theorem booleansOf_read_write (elements : booleanElements type = some numElements)
    (stores : StoresBooleans numElements rawData) :
    booleansOf numElements (readVhloTensorV1Attr type (writeVhloTensorV1Attr type rawData)) =
      booleansOf numElements rawData := by
  rw [writeVhloTensorV1Attr_eq elements]
  split
  · next splat =>
    obtain ⟨byte, rfl⟩ := List.length_eq_one_iff.mp splat.1
    exact booleansOf_read_splat elements splat.2 byte
  · next notSplat =>
    refine booleansOf_read_packedBytes elements ?_
    rcases stores with all | single
    · exact .inl all
    · exact .inr (by omega)

/-- What is read are bytes that the booleans are stored as again. -/
theorem storesBooleans_read (elements : booleanElements type = some numElements) {blob : List UInt8}
    (sizes : blob.length = 1 ∨ blob.length = numElements ∨
      blob.length = (numElements + 7) / 8) :
    StoresBooleans numElements (readVhloTensorV1Attr type blob) := by
  rw [readVhloTensorV1Attr_eq elements]
  split
  · exact .inr rfl
  · split
    · exact .inl length_unpackedBytes
    · unfold StoresBooleans
      omega

/-- A splat that is packed like other booleans: a bit differs from all of them. -/
def Ambiguous (numElements : Nat) (blob : List UInt8) : Prop :=
  1 < numElements ∧ numElements ≤ 8 ∧ ∃ byte, blob = [byte] ∧ byte ≠ 0xFF ∧
    ∃ element < numElements, byte.toNat.testBit element ≠ (byte != 0)

/-- Bytes that were written without being packed are read as the same booleans, unless they are a
splat of up to eight elements whose byte looks like packed ones. -/
theorem booleansOf_read_unpacked (type : VhloType) (numElements : Nat) (blob : List UInt8)
    (elements : booleanElements type = some numElements)
    (stores : StoresBooleans numElements blob) :
    booleansOf numElements (readVhloTensorV1Attr type blob) = booleansOf numElements blob ↔
      ¬Ambiguous numElements blob := by
  rw [readVhloTensorV1Attr_eq elements]
  by_cases ones : blob = [0xFF]
  · rw [if_pos ones, ones]
    refine iff_of_true rfl ?_
    rintro ⟨-, -, byte, same, other, -⟩
    cases same
    exact other rfl
  · rw [if_neg ones]
    split
    · next sizes =>
      -- A blob of another size than the elements is a splat.
      have single : blob.length = 1 := stores.resolve_left sizes.2
      obtain ⟨byte, rfl⟩ := List.length_eq_one_iff.mp single
      rw [List.length_singleton] at sizes
      have other : byte ≠ 0xFF := fun same => ones (congrArg (fun byte => [byte]) same)
      rw [booleansOf_unpackedBytes (by omega), booleansOf_singleton, List.map_inj_left]
      have bit : ∀ element < numElements,
          ([byte].getD (element / 8) 0).toNat.testBit (element % 8) =
            byte.toNat.testBit element := by
        intro element within
        rw [Nat.div_eq_of_lt (by omega), Nat.mod_eq_of_lt (by omega), List.getD_cons_zero]
      constructor
      · rintro same ⟨-, -, byte', isByte, -, element, within, differs⟩
        cases isByte
        have read := same element (List.mem_range.mpr within)
        rw [bit element within] at read
        exact differs read
      · intro unambiguous element listed
        have within := List.mem_range.mp listed
        rw [bit element within]
        by_contra differs
        exact unambiguous ⟨by omega, by omega, byte, rfl, other, element, within, differs⟩
    · next same =>
      refine iff_of_true rfl ?_
      rintro ⟨several, few, byte, rfl, -⟩
      rw [List.length_singleton] at same
      omega

end Blobs

/-- A splat of three true elements that is written as a one is read as other booleans. -/
theorem booleansOf_read_unpacked_one :
    ¬booleansOf 3 (readVhloTensorV1Attr (.rankedTensorV1 [3] (.scalar .booleanV1) none) [1]) =
      booleansOf 3 [1] := by
  rw [booleansOf_read_unpacked _ 3 [1] rfl (.inr rfl), not_not]
  exact ⟨by decide, by decide, 1, rfl, by decide, 1, by decide, by decide⟩

section Attributes

variable (mlir : Primitives) (number : VhloNode → Nat) (resolver : Resolver)

/-- Dense elements with the same values: the same bytes, or bytes for the same booleans. -/
structure SameElements (type : VhloType) (data data' : DenseElementsAttr) : Prop where
  /-- They have the same shape. -/
  shape : data'.shape = data.shape
  /-- They have elements of the same type. -/
  elementType : data'.elementType = data.elementType
  /-- Elements that are no booleans have the same bytes. -/
  bytes : booleanElements type = none → data'.rawData = data.rawData
  /-- Booleans are stored, and the same ones. -/
  booleans : ∀ numElements, booleanElements type = some numElements →
    StoresBooleans numElements data'.rawData ∧
      booleansOf numElements data'.rawData = booleansOf numElements data.rawData

/-- Elements of a type: a tensor has them, and its booleans are stored. -/
structure DenseElementsAttr.Of (data : DenseElementsAttr) (type : VhloType) : Prop where
  /-- The type is that of a tensor with such elements. -/
  typed : getFromRawBuffer type data.rawData = some data
  /-- The bytes are those of booleans if the elements are booleans. -/
  stores : ∀ numElements, booleanElements type = some numElements →
    StoresBooleans numElements data.rawData

/-- A tensor that is written is read as one of the same type and elements. -/
theorem run_readTensorAttribute (type : VhloType) (data : DenseElementsAttr) (rest : List UInt8)
    (resolves : resolver.Resolves number (.type type)) (dataOf : data.Of type) :
    ∃ data', (readAttribute mlir resolver).run
        (writeAttribute mlir number (.tensorV1 type data) ++ rest) =
          some (.tensorV1 type data', rest) ∧
      SameElements type data data' := by
  have resolved : resolver.type (number (.type type)) = some type := resolves
  -- The bytes that are read make up dense elements of the same kind.
  have built : ∀ rawData, getFromRawBuffer type rawData =
      some ⟨data.shape, data.elementType, rawData⟩ := by
    intro rawData
    have typed := dataOf.typed
    unfold getFromRawBuffer at typed ⊢
    cases type with
    | rankedTensorV1 shape elementType encoding =>
      obtain ⟨denseType, isDense, same⟩ := Option.map_eq_some_iff.mp typed
      obtain ⟨rfl, rfl⟩ : shape = data.shape ∧ denseType = data.elementType := by
        rw [← same]
        exact ⟨rfl, rfl⟩
      exact Option.map_eq_some_iff.mpr ⟨_, isDense, rfl⟩
    | _ => cases typed
  refine ⟨⟨data.shape, data.elementType,
    readVhloTensorV1Attr type (writeVhloTensorV1Attr type data.rawData)⟩, ?_, ?_⟩
  · simp only [readAttribute, writeAttribute, readTensorV1Attr, List.append_assoc, Codec.run_bind,
      AttributeCode.symbolize_value, run_readTypeNumber, resolved, Option.bind_some, built,
      run_ofOption_bind, run_pure]
  · refine ⟨rfl, rfl, fun others => ?_, fun numElements elements => ⟨?_, ?_⟩⟩
    · show readVhloTensorV1Attr type (writeVhloTensorV1Attr type data.rawData) = data.rawData
      rw [readVhloTensorV1Attr, writeVhloTensorV1Attr, others]
    · refine storesBooleans_read elements ?_
      rw [writeVhloTensorV1Attr_eq elements]
      split
      · exact .inl rfl
      · exact .inr (.inr length_packedBytes)
    · exact booleansOf_read_write elements (dataOf.stores numElements elements)

end Attributes

/-- Three booleans are read from the byte that they are packed into. -/
theorem run_readTensorAttribute_three :
    ∃ data', (readAttribute shortPrimitives
          ⟨fun _ => some (.rankedTensorV1 [3] (.scalar .booleanV1) none), fun _ => none⟩).run
        (writeAttribute shortPrimitives (fun _ => 0)
            (.tensorV1 (.rankedTensorV1 [3] (.scalar .booleanV1) none)
              ⟨[3], .integer .signless 1, [1, 0, 1]⟩) ++ [7]) =
          some (.tensorV1 (.rankedTensorV1 [3] (.scalar .booleanV1) none) data', [7]) ∧
      SameElements (.rankedTensorV1 [3] (.scalar .booleanV1) none)
        ⟨[3], .integer .signless 1, [1, 0, 1]⟩ data' := by
  refine run_readTensorAttribute shortPrimitives (fun _ => 0) _ _ _ [7] rfl ⟨rfl, ?_⟩
  intro numElements elements
  cases elements
  exact .inl rfl

end Stablehlo
