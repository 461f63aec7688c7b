import Stablehlo.Reference.Element

/-! Conversions between elements that consist of the same bits. -/

namespace Stablehlo

open TypePrinter Element

/-- The number that an element stands for by its bits. -/
def Element.number (element : Element) : Nat := element.toBits.bits.toNat

/-- The bits of an element of some width are those of its number. -/
theorem Element.toBits_eq {element : Element} {width : Nat}
    (wide : numBits element.type = .ok width) :
    element.toBits = ⟨width, BitVec.ofNat width element.number⟩ := by
  rw [element.numBits_type, Except.ok.injEq] at wide
  exact APInt.eq_ofNat wide

/-- The number of an element is below the power of two with the number of bits. -/
theorem Element.number_lt {element : Element} {width : Nat}
    (wide : numBits element.type = .ok width) : element.number < 2 ^ width := by
  rw [element.numBits_type, Except.ok.injEq] at wide
  rw [← wide]
  exact element.toBits.bits.isLt

/-- Shift the bits of the elements in, the last element first. -/
def shiftInBits (resultNumBits operandNumBits : Nat) :
    List Element → Except Failure (BitVec resultNumBits)
  | [] => .ok 0
  | element :: elements => do
    let resultBits ← shiftInBits resultNumBits operandNumBits elements
    let elementNumBits ← numBits element.type
    if operandNumBits ≠ elementNumBits then
      .error (.fatalError "All elements must have the same numBits")
    else
      .ok (resultBits <<< operandNumBits + element.toBits.bits.setWidth resultNumBits)

/-- Elements of one width are put together block by block. -/
theorem shiftInBits_eq {resultNumBits operandNumBits : Nat} {elements : List Element}
    (wide : ∀ element ∈ elements, numBits element.type = .ok operandNumBits) :
    shiftInBits resultNumBits operandNumBits elements =
      .ok (BitBlocks.join resultNumBits operandNumBits (elements.map Element.number)) := by
  induction elements with
  | nil => rfl
  | cons element elements ih =>
    have rest := ih fun other listed => wide other (by simp [listed])
    have own := wide element (by simp)
    rw [shiftInBits, rest, own]
    show (if operandNumBits ≠ operandNumBits then _ else _) = _
    rw [if_neg (by simp), List.map_cons, BitBlocks.join, number, BitVec.ofNat_toNat]

section Bitcast

variable [TypePrinter]

/-- The failure to convert between types whose bits do not match. -/
def unsupportedBitcast (operandType resultType : StablehloType) : Failure :=
  .fatalError
    s!"Unsupported bitcast conversion from {debugString operandType} to {debugString resultType}"

/-- The element of the type whose bits are those of the elements, one after the other. -/
def bitcastConvertManyToOne (type : StablehloType) (elements : List Element) :
    Except Failure Element :=
  match elements with
  | [] => .error .undefinedBehavior
  | first :: _ => do
    let resultNumBits ← numBits type
    let operandNumBits ← numBits first.type
    if resultNumBits % operandNumBits ≠ 0 then
      .error (unsupportedBitcast first.type type)
    else do
      let resultBits ← shiftInBits resultNumBits operandNumBits elements
      fromBits type ⟨resultNumBits, resultBits⟩

/-- The elements of the type whose bits, one after the other, are those of the element. -/
def bitcastConvertOneToMany (type : StablehloType) (el : Element) :
    Except Failure (List Element) := do
  let resultNumBits ← numBits type
  let operandNumBits ← numBits el.type
  if operandNumBits % resultNumBits ≠ 0 then
    .error (unsupportedBitcast el.type type)
  else
    -- The loop goes up in steps of the width, which divides the number of bits.
    (List.range (operandNumBits / resultNumBits)).mapM fun step =>
      fromBits type (el.toBits.extractBits resultNumBits (step * resultNumBits))

/-- The element of the type with the same bits. -/
def bitcastConvertOneToOne (type : StablehloType) (el : Element) : Except Failure Element := do
  let resultNumBits ← numBits type
  let operandNumBits ← numBits el.type
  if resultNumBits ≠ operandNumBits then
    .error (unsupportedBitcast el.type type)
  else
    fromBits type el.toBits

end Bitcast

section Inverse

variable [TypePrinter] {type : StablehloType}

/-- Elements of a type are found again from their numbers. -/
theorem mapM_fromBits {width : Nat} {elements : List Element} (wide : numBits type = .ok width)
    (typed : ∀ element ∈ elements, element.type = type) :
    (elements.map Element.number).mapM
      (fun number => fromBits type ⟨width, BitVec.ofNat width number⟩) = .ok elements := by
  rw [Fallible.mapM_eq_ok_iff, List.forall₂_map_left_iff]
  refine List.forall₂_same.mpr fun element listed => ?_
  have own : element.type = type := typed element listed
  rw [← Element.toBits_eq (own ▸ wide), ← own]
  exact fromBits_toBits element

/-- The elements an element is converted to are those with the digits of its number. -/
theorem bitcastConvertOneToMany_eq {width count : Nat} {element : Element}
    (narrow : numBits type = .ok width) (positive : 0 < width)
    (wide : numBits element.type = .ok (width * count)) :
    bitcastConvertOneToMany type element =
      (BitBlocks.split (2 ^ width) count element.number).mapM
        fun number => fromBits type ⟨width, BitVec.ofNat width number⟩ := by
  rw [bitcastConvertOneToMany, narrow, wide]
  show (if width * count % width ≠ 0 then _ else _) = _
  rw [if_neg (by simp), Nat.mul_div_cancel_left _ positive, BitBlocks.split_eq_map, List.mapM_map]
  refine Fallible.mapM_congr fun step _ => ?_
  -- The step skips as many digits as it has steps before it.
  show fromBits type _ =
    fromBits type ⟨width, BitVec.ofNat width (element.number / (2 ^ width) ^ step % 2 ^ width)⟩
  rw [APInt.extractBits_eq, ← Nat.pow_mul, Nat.mul_comm step, number]

/-- Elements are converted to the one whose number has theirs as digits. -/
theorem bitcastConvertManyToOne_eq {width : Nat} {elements : List Element}
    (nonempty : elements ≠ []) (narrow : ∀ element ∈ elements, numBits element.type = .ok width)
    (wide : numBits type = .ok (width * elements.length)) :
    bitcastConvertManyToOne type elements =
      fromBits type ⟨width * elements.length,
        BitBlocks.join (width * elements.length) width (elements.map Element.number)⟩ := by
  cases elements with
  | nil => exact absurd rfl nonempty
  | cons first rest =>
    have whole := @shiftInBits_eq (width * (first :: rest).length) width _ narrow
    rw [bitcastConvertManyToOne, wide, narrow first (by simp)]
    show (if width * (first :: rest).length % width ≠ 0 then _ else _) = _
    rw [if_neg (by simp), whole]
    rfl

/-- Numbers below the power of two with the number of bits are those of elements of the type. -/
theorem mapM_fromBits_succeeds {width : Nat} {numbers : List Nat}
    (supported : isSupportedType type = true) (wide : numBits type = .ok width)
    (small : ∀ number ∈ numbers, number < 2 ^ width) :
    ∃ elements, numbers.mapM (fun number => fromBits type ⟨width, BitVec.ofNat width number⟩) =
        .ok elements ∧ elements.map Element.number = numbers ∧
      ∀ element ∈ elements, element.type = type := by
  induction numbers with
  | nil => exact ⟨[], rfl, rfl, by simp⟩
  | cons number numbers ih =>
    obtain ⟨rest, restConverted, restNumbers, restTyped⟩ :=
      ih fun other listed => small other (by simp [listed])
    have below : number < 2 ^ width := small number (by simp)
    -- The first number is the number of the element with its bits.
    obtain ⟨element, typed, bits⟩ :=
      @Element.exists_toBits type supported ⟨width, BitVec.ofNat width number⟩ wide
    have converted : fromBits type ⟨width, BitVec.ofNat width number⟩ = .ok element := by
      rw [← bits, ← typed]
      exact fromBits_toBits element
    have own : element.number = number := by
      rw [Element.number, bits, BitVec.toNat_ofNat, Nat.mod_eq_of_lt below]
    refine ⟨element :: rest, ?_, by simp [own, restNumbers], ?_⟩
    · rw [List.mapM_cons, converted, Fallible.ok_bind, restConverted]
      rfl
    · intro member listed
      rcases List.mem_cons.mp listed with rfl | later
      · exact typed
      · exact restTyped member later

/-- The elements an element is converted to are converted back to that element. -/
theorem bitcastConvertOneToMany_spec {width count : Nat} {element : Element}
    (supported : isSupportedType type = true) (narrow : numBits type = .ok width)
    (wide : numBits element.type = .ok (width * count)) (nonempty : 0 < count)
    (positive : 0 < width) :
    ∃ elements, bitcastConvertOneToMany type element = .ok elements ∧
      bitcastConvertManyToOne element.type elements = .ok element ∧
      elements.length = count ∧ ∀ member ∈ elements, member.type = type := by
  have small : ∀ digit ∈ BitBlocks.split (2 ^ width) count element.number, digit < 2 ^ width := by
    rw [BitBlocks.split_eq_map]
    intro digit listed
    obtain ⟨step, _, rfl⟩ := List.mem_map.mp listed
    exact Nat.mod_lt _ (Nat.two_pow_pos width)
  obtain ⟨elements, converted, numbers, typed⟩ := mapM_fromBits_succeeds supported narrow small
  have counted : elements.length = count := by
    rw [← List.length_map Element.number, numbers, BitBlocks.length_split]
  refine ⟨elements, ?_, ?_, counted, typed⟩
  · rw [bitcastConvertOneToMany_eq narrow positive wide, converted]
  · -- The digits are put together to the number again, and with it to the bits.
    have some : elements ≠ [] := by
      rintro rfl
      simp at counted
      omega
    have narrowed : ∀ member ∈ elements, numBits member.type = .ok width :=
      fun member listed => typed member listed ▸ narrow
    have below : element.number < (2 ^ width) ^ count := by
      rw [← Nat.pow_mul]
      exact Element.number_lt wide
    have bits : BitBlocks.join (width * count) width
        (BitBlocks.split (2 ^ width) count element.number) =
          BitVec.ofNat (width * count) element.number := by
      apply BitVec.eq_of_toNat_eq
      rw [BitBlocks.toNat_join positive small (by simp), BitBlocks.ofDigits_split below,
        BitVec.toNat_ofNat, Nat.mod_eq_of_lt (Element.number_lt wide)]
    rw [bitcastConvertManyToOne_eq some narrowed (by rw [counted, wide]), counted, numbers, bits,
      ← Element.toBits_eq wide]
    exact fromBits_toBits element

/-- The element that elements are converted to is converted back to those elements. -/
theorem bitcastConvertManyToOne_spec {width : Nat} {narrowType : StablehloType}
    {elements : List Element} (supported : isSupportedType type = true)
    (typed : ∀ element ∈ elements, element.type = narrowType)
    (narrow : numBits narrowType = .ok width)
    (wide : numBits type = .ok (width * elements.length)) (nonempty : elements ≠ [])
    (positive : 0 < width) :
    ∃ element, bitcastConvertManyToOne type elements = .ok element ∧
      bitcastConvertOneToMany narrowType element = .ok elements ∧ element.type = type := by
  have narrowed : ∀ member ∈ elements, numBits member.type = .ok width :=
    fun member listed => typed member listed ▸ narrow
  have small : ∀ digit ∈ elements.map Element.number, digit < 2 ^ width := by
    intro digit listed
    obtain ⟨member, own, rfl⟩ := List.mem_map.mp listed
    exact Element.number_lt (narrowed member own)
  let bits := BitBlocks.join (width * elements.length) width (elements.map Element.number)
  have number : bits.toNat = Nat.ofDigits (2 ^ width) (elements.map Element.number) :=
    BitBlocks.toNat_join positive small (by simp)
  -- There is an element with these bits, and its digits are the numbers of the elements.
  obtain ⟨element, own, ownBits⟩ :=
    @Element.exists_toBits type supported ⟨width * elements.length, bits⟩ wide
  have digits : BitBlocks.split (2 ^ width) elements.length element.number =
      elements.map Element.number := by
    have inverse := BitBlocks.split_ofDigits small
    rw [List.length_map] at inverse
    rw [Element.number, ownBits, number, inverse]
  refine ⟨element, ?_, ?_, own⟩
  · rw [bitcastConvertManyToOne_eq nonempty narrowed wide, ← ownBits, ← own]
    exact fromBits_toBits element
  · rw [bitcastConvertOneToMany_eq narrow positive (by rw [own, wide]), digits]
    exact mapM_fromBits narrow typed

/-- The element that an element is converted to is converted back to that element. -/
theorem bitcastConvertOneToOne_spec {element : Element} (supported : isSupportedType type = true)
    (wide : numBits type = numBits element.type) :
    ∃ result, bitcastConvertOneToOne type element = .ok result ∧
      bitcastConvertOneToOne element.type result = .ok element ∧ result.type = type := by
  rw [element.numBits_type] at wide
  obtain ⟨result, own, bits⟩ := Element.exists_toBits supported wide
  have converted : fromBits type element.toBits = .ok result := by
    rw [← bits, ← own]
    exact fromBits_toBits result
  have back : fromBits element.type result.toBits = .ok element := by
    rw [bits]
    exact fromBits_toBits element
  refine ⟨result, ?_, ?_, own⟩
  · simp [bitcastConvertOneToOne, wide, element.numBits_type, converted]
  · simp [bitcastConvertOneToOne, own, wide, element.numBits_type, back]

end Inverse

end Stablehlo
