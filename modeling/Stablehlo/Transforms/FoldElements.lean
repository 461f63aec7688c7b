import Stablehlo.Transforms.FoldElementwise

/-! The elements that operations are folded to, and those that the interpreter computes. -/

namespace Stablehlo

section Numbers

/-- All elements of a splat have its value. -/
theorem get_of_splatValue {width : Nat} {constant : Tensor (BitVec width)} {value : BitVec width}
    (splat : splatValue constant = some value) {index : Index}
    (within : MixedRadix.Within constant.shape index) : constant.get index = .ok value := by
  obtain ⟨element, got, stored⟩ := Tensor.get_eq within
  have listed := List.mem_of_getElem? stored
  unfold splatValue at splat
  split at splat
  · cases splat
  · next first values data =>
    split at splat
    · next same =>
      cases splat
      rw [data] at listed
      -- The element is the first one, or it is compared with it.
      obtain rfl | others := List.mem_cons.mp listed
      · exact got
      · rw [got, of_decide_eq_true (List.all_eq_true.mp same element others)]
    · cases splat

/-- A constant that is no splat is no scalar. -/
theorem shape_ne_nil_of_splatValue {width : Nat} {constant : Tensor (BitVec width)}
    (noSplat : splatValue constant = none) : constant.shape ≠ [] := by
  intro scalar
  have single := constant.complete
  rw [scalar, List.prod_nil] at single
  obtain ⟨value, data⟩ := List.length_eq_one_iff.mp single
  -- A single element is the same as all others.
  rw [splatValue, data] at noSplat
  cases noSplat

/-- Numbers compare the same with signs and without where the signs are the same, and where only
their equality matters. -/
theorem ComparisonDirection.compareInts_iff (direction : ComparisonDirection) {width : Nat}
    (left right : BitVec width) :
    direction.compareInts true left right = direction.compareInts false left right ↔
      direction = .eq ∨ direction = .ne ∨ left.msb = right.msb := by
  have signs : (right.msb = left.msb) ↔ left.msb = right.msb := eq_comm
  cases direction with
  | eq | ne => exact iff_of_true rfl (by simp)
  | ge =>
    show right.sle left = right.ule left ↔ _
    rw [BitVec.sle_eq_ule]
    cases right.ule left <;> cases left.msb <;> cases right.msb <;> decide
  | gt =>
    show right.slt left = right.ult left ↔ _
    rw [BitVec.slt_eq_ult]
    cases right.ult left <;> cases left.msb <;> cases right.msb <;> decide
  | le =>
    show left.sle right = left.ule right ↔ _
    rw [BitVec.sle_eq_ule]
    cases left.ule right <;> cases left.msb <;> cases right.msb <;> decide
  | lt =>
    show left.slt right = left.ult right ↔ _
    rw [BitVec.slt_eq_ult]
    cases left.ult right <;> cases left.msb <;> cases right.msb <;> decide

variable {type : IntegerType}

/-- Without a comparison type, the elements are compared with signs where they have them. -/
theorem getComparisonType_none (type : IntegerType) :
    getComparisonType none type.elementType =
      if isSupportedSignedIntegerType type.elementType then .signed else .unsigned := by
  cases type with
  | boolean => rfl
  | integer signedness width supported =>
    cases signedness with
    | signed => cases supported
    | unsigned => rfl
    | signless =>
      have signed : isSupportedSignedIntegerType (.integer .signless width) = true :=
        isSupportedSignedIntegerType_eq supported
      show getComparisonType none (.integer .signless width) =
        if isSupportedSignedIntegerType (.integer .signless width) = true then _ else _
      rw [if_pos signed, getComparisonType]
      -- The width is not the one of booleans.
      exact width_ne_one supported

/-- Two integers are folded with the signs their type has, unless the comparison has other ones. -/
theorem compareInts_of_applyInt {direction : ComparisonDirection}
    {compareType : Option ComparisonType} {left right : BitVec type.width} {folded : BitVec 1}
    (calculated : FoldCompare.applyInt ⟨direction, getComparisonType compareType type.elementType⟩
      left right = .ok (some folded)) :
    ∃ isSigned, folded = .ofBool (direction.compareInts isSigned left right) ∧
      (isSigned ≠ isSupportedSignedIntegerType type.elementType ↔
        signsOtherwise compareType type) := by
  -- What is calculated for each kind of a comparison of integers.
  have known : ∀ isSigned, getComparisonType compareType type.elementType =
      (if isSigned then .signed else .unsigned) →
        folded = .ofBool (direction.compareInts isSigned left right) := by
    intro isSigned kind
    rw [kind] at calculated
    cases isSigned <;> cases calculated <;> rfl
  have own := getComparisonType_none type
  cases compareType with
  | none =>
    refine ⟨_, known _ own, iff_of_false (not_not.mpr rfl) ?_⟩
    rintro (⟨signs, -⟩ | ⟨signs, -⟩) <;> cases signs
  | some kind =>
    cases kind with
    | noType =>
      refine ⟨_, known _ own, iff_of_false (not_not.mpr rfl) ?_⟩
      rintro (⟨signs, -⟩ | ⟨signs, -⟩) <;> cases signs
    | signed =>
      refine ⟨true, known true rfl, ?_⟩
      rw [signsOtherwise]
      cases isSupportedSignedIntegerType type.elementType <;> simp
    | unsigned =>
      refine ⟨false, known false rfl, ?_⟩
      rw [signsOtherwise]
      cases isSupportedSignedIntegerType type.elementType <;> simp
    | float | totalOrder =>
      -- There is no such comparison of integers.
      cases calculated

end Numbers

section Conversions

variable [TypePrinter] [FloatArithmetic]

/-- A conversion to booleans asks whether there is a bit that is set. -/
theorem convert_boolean (oldType : IntegerType) (bits : BitVec oldType.width) :
    convert (.integer .signless 1) (oldType.element bits) =
      .ok (IntegerType.boolean.element (foldConvert oldType .boolean bits)) := by
  cases oldType with
  | boolean => obtain rfl | rfl := bit_cases bits <;> rfl
  | integer signedness width supported =>
    have narrow := (width_of_supported supported).2
    -- The machine integer is zero for the same numbers.
    have zero : ∀ extended : BitVec 64, (extended = 0 ↔ bits = 0) →
        Element.ofBoolean (.integer .signless 1) (extended.toNat != 0) =
          .ok (IntegerType.boolean.element (foldConvert
            (.integer signedness width supported) .boolean bits)) := by
      intro extended same
      rw [Element.ofBoolean_bit]
      by_cases none : bits = 0
      · rw [same.mpr none, none]
        rfl
      · have some : extended.toNat ≠ 0 := by
          intro absent
          exact none (same.mp (BitVec.eq_of_toNat_eq absent))
        have folded : foldConvert (.integer signedness width supported) .boolean bits =
            (1#1).signExtend 1 := by
          show (if bits = 0 then 0#1 else 1#1).signExtend 1 = _
          rw [if_neg none]
        rw [bne_iff_ne.mpr some, folded]
        rfl
    show convertNumber (.integer .signless 1)
      (if isSupportedSignedIntegerType (.integer signedness width)
        then ⟨⟨64, BitVec.signExtend 64 bits⟩, true⟩
        else ⟨⟨64, BitVec.setWidth 64 bits⟩, false⟩) _ = _
    split
    · refine zero (BitVec.signExtend 64 bits) ?_
      rw [← BitVec.toInt_inj, BitVec.toInt_signExtend_of_le narrow, ← BitVec.toInt_inj]
      simp only [BitVec.ofNat_eq_ofNat, BitVec.toInt_zero]
    · refine zero (BitVec.setWidth 64 bits) ?_
      have bound : bits.toNat < 2 ^ 64 :=
        lt_of_lt_of_le bits.isLt (Nat.pow_le_pow_right Nat.two_pos narrow)
      rw [← BitVec.toNat_inj, BitVec.toNat_setWidth, Nat.mod_eq_of_lt bound, ← BitVec.toNat_inj]
      rfl

/-- A conversion to integers keeps the number, as far as the bits suffice. -/
theorem convert_integer (oldType : IntegerType) {signedness : Signedness} {width : Nat}
    (supported : isSupportedIntegerType (.integer signedness width) = true)
    (bits : BitVec oldType.width) :
    convert (.integer signedness width) (oldType.element bits) =
      .ok (.ofBitVec supported (foldConvert oldType (.integer signedness width supported) bits)) := by
  have notBoolean :
      (IntegerType.integer signedness width supported).isSignlessInteger1 = false := by
    have wide : (IntegerType.integer signedness width supported).width ≠ 1 :=
      width_ne_one supported
    simp [IntegerType.isSignlessInteger1, wide]
  rw [foldConvert, notBoolean, if_neg Bool.false_ne_true]
  cases oldType with
  | boolean =>
    have number : ∀ value : Bool, convert (.integer signedness width)
        ⟨.integer .signless 1, .boolean value, rfl⟩ =
          .ok (.ofBitVec supported (BitVec.setWidth width (BitVec.ofBool value))) := by
      intro value
      show (if isSupportedBooleanType (.integer signedness width) then _ else _) = _
      rw [isSupportedBooleanType_eq_false supported, if_neg Bool.false_ne_true,
        convertNumber_ofBitVec supported]
      congr 2
      -- The machine integer is zero or one.
      apply BitVec.eq_of_toNat_eq
      cases value <;> simp [APSInt.extOrTrunc]
    obtain rfl | rfl := bit_cases bits
    · exact number false
    · exact number true
  | integer oldSignedness oldWidth oldSupported =>
    refine (convert_ofBitVec supported (show isSupportedIntegerType
      (Element.ofBitVec oldSupported bits).type = true from oldSupported)).trans ?_
    rw [Element.integer_ofBitVec]
    cases oldSignedness with
    | unsigned =>
      -- No bit is a sign.
      have unsigned : ((IntegerType.integer .unsigned oldWidth oldSupported).isSignlessInteger1 ||
          (IntegerType.integer .unsigned oldWidth oldSupported).isUnsignedInteger) = true :=
        Bool.or_true _
      rw [unsigned, if_pos rfl, if_pos rfl, BitVec.ofInt_natCast, BitVec.ofNat_toNat]
    | signless =>
      have signed : ((IntegerType.integer .signless oldWidth oldSupported).isSignlessInteger1 ||
          (IntegerType.integer .signless oldWidth oldSupported).isUnsignedInteger) = false := by
        simp [IntegerType.isSignlessInteger1, IntegerType.isUnsignedInteger,
          IntegerType.signedness, width_ne_one oldSupported]
      rw [signed, if_neg Bool.false_ne_true, if_neg (by decide)]
      rfl
    | signed => cases oldSupported

/-- An element is converted to the number that the folder makes of it. -/
theorem convert_element (oldType newType : IntegerType) (bits : BitVec oldType.width) :
    convert newType.elementType (oldType.element bits) =
      .ok (newType.element (foldConvert oldType newType bits)) := by
  cases newType with
  | boolean => exact convert_boolean oldType bits
  | integer signedness width supported => exact convert_integer oldType supported bits

end Conversions

section Elements

variable [TypePrinter] [FloatOperations]

/-- An operation on an element computes the number that the folder makes of it. -/
theorem UnaryKind.compute_eq {kind : UnaryKind} {type : IntegerType}
    (accepted : kind.accepts type = true) {bits folded : BitVec type.width}
    (evaluated : kind.evaluateOp type bits = some folded) :
    kind.compute (type.element bits) = .ok (type.element folded) := by
  cases type with
  | boolean =>
    cases kind with
    | not =>
      -- The only bit is flipped.
      cases evaluated
      obtain rfl | rfl := bit_cases bits <;> rfl
    | _ => cases accepted
  | integer signedness width supported =>
    cases kind with
    | abs =>
      cases evaluated
      exact Element.abs_ofBitVec supported bits
    | negate =>
      cases evaluated
      exact Element.negate_ofBitVec supported bits
    | not =>
      cases evaluated
      exact Element.not_ofBitVec supported bits
    | sign =>
      cases signedness with
      | signless =>
        cases evaluated
        exact Element.sign_ofBitVec supported bits
      | _ => cases accepted

/-- What the interpreter computes for an element and its bounds. -/
def clampElement (min operand max : Element) : Except Failure Element := do
  let raised ← operand.max min
  raised.min max

/-- An element is clamped to the number that the folder makes of it, unless it is the boolean of one
bound and not of the other one. -/
theorem clampElement_iff {type : IntegerType} {min operand max : BitVec type.width} :
    clampElement (type.element min) (type.element operand) (type.element max) =
        .ok (type.element (foldClampElement type min operand max)) ↔
      (type = .boolean → operand = min → max = min) := by
  cases type with
  | boolean =>
    -- The folder raises to the conjunction, and lowers to the disjunction.
    obtain rfl | rfl := bit_cases min <;> obtain rfl | rfl := bit_cases operand <;>
      obtain rfl | rfl := bit_cases max
    · exact iff_of_true rfl fun _ _ => rfl
    · exact iff_of_false (fun same => by cases same) fun equal => by cases equal rfl rfl
    · exact iff_of_true rfl fun _ same => by cases same
    · exact iff_of_true rfl fun _ same => by cases same
    · exact iff_of_true rfl fun _ same => by cases same
    · exact iff_of_true rfl fun _ same => by cases same
    · exact iff_of_false (fun same => by cases same) fun equal => by cases equal rfl rfl
    · exact iff_of_true rfl fun _ _ => rfl
  | integer signedness width supported =>
    refine iff_of_true ?_ fun boolean => by cases boolean
    have unsigned : (IntegerType.integer signedness width supported).isUnsignedInteger =
        !isSupportedSignedIntegerType (.integer signedness width) := by
      rw [isSupportedSignedIntegerType_eq supported, Bool.not_not]
      rfl
    have raise := Element.max_ofBitVec supported operand min
    refine (congrArg (· >>= fun raised => raised.min (.ofBitVec supported max)) raise).trans ?_
    refine (Element.min_ofBitVec supported _ max).trans ?_
    rw [foldClampElement, unsigned]
    -- The folder takes the bounds first.
    cases isSupportedSignedIntegerType (.integer signedness width) with
    | false =>
      have same : umin (umax operand min) max = umin max (umax min operand) := by
        rw [umin_comm, umax_comm]
      exact congrArg (fun bits => Except.ok (Element.ofBitVec supported bits)) same
    | true =>
      have same : smin (smax operand min) max = smin max (smax min operand) := by
        rw [smin_comm, smax_comm]
      exact congrArg (fun bits => Except.ok (Element.ofBitVec supported bits)) same

/-- Integers are compared as the numbers they are. -/
theorem Element.compareBy_ofBitVec (direction : ComparisonDirection) {signedness : Signedness}
    {width : Nat} (supported : isSupportedIntegerType (.integer signedness width) = true)
    (left right : BitVec width) :
    Element.compareBy direction (ofBitVec supported left) (ofBitVec supported right) =
      .ok (IntegerType.boolean.element (.ofBool (direction.compareInts
        (isSupportedSignedIntegerType (.integer signedness width)) left right))) := by
  have equal : (ofBitVec supported left).equal (ofBitVec supported right) =
      .ok (IntegerType.boolean.element (.ofBool (left == right))) :=
    (comparePair_ofBitVec left right).trans (ofBoolean_bit _)
  have less : (ofBitVec supported left).less (ofBitVec supported right) =
      .ok (IntegerType.boolean.element (.ofBool
        (if isSupportedSignedIntegerType (.integer signedness width) then left.slt right
          else left.ult right))) :=
    (comparePair_ofBitVec left right).trans (ofBoolean_bit _)
  have greater : (ofBitVec supported left).greater (ofBitVec supported right) =
      .ok (IntegerType.boolean.element (.ofBool
        (if isSupportedSignedIntegerType (.integer signedness width) then right.slt left
          else right.ult left))) :=
    (comparePair_ofBitVec left right).trans (ofBoolean_bit _)
  -- The operators with an equality in them are two comparisons.
  have flip : (left == right) = (right == left) := Bool.beq_comm
  cases direction with
  | eq => exact equal
  | gt => exact greater
  | lt => exact less
  | ne =>
    rw [compareBy, equal]
    exact logicalNot_bit (left == right)
  | ge =>
    rw [compareBy, greater, equal]
    refine (logicalOr_bits _ _).trans ?_
    rw [ComparisonDirection.compareInts, BitVec.sle_eq_slt_or_eq, ule_eq_ult_or, flip]
    cases isSupportedSignedIntegerType (.integer signedness width) <;> rfl
  | le =>
    rw [compareBy, less, equal]
    refine (logicalOr_bits _ _).trans ?_
    rw [ComparisonDirection.compareInts, BitVec.sle_eq_slt_or_eq, ule_eq_ult_or]
    cases isSupportedSignedIntegerType (.integer signedness width) <;> rfl

/-- The elements of a type are compared as the numbers they are. -/
theorem Element.compareBy_element (direction : ComparisonDirection) (type : IntegerType)
    (left right : BitVec type.width) :
    Element.compareBy direction (type.element left) (type.element right) =
      .ok (IntegerType.boolean.element (.ofBool (direction.compareInts
        (isSupportedSignedIntegerType type.elementType) left right))) := by
  cases type with
  | boolean =>
    obtain rfl | rfl := bit_cases left <;> obtain rfl | rfl := bit_cases right <;>
      cases direction <;> rfl
  | integer signedness width supported => exact compareBy_ofBitVec direction supported left right

/-- Two elements are compared to the bit that the folder calculates, unless their signs matter and
are taken in another way. -/
theorem compareBy_iff {type : IntegerType} {direction : ComparisonDirection} {compareType : Option ComparisonType}
    {left right : BitVec type.width} {folded : BitVec 1}
    (calculated : FoldCompare.applyInt ⟨direction, getComparisonType compareType type.elementType⟩
      left right = .ok (some folded)) :
    Element.compareBy direction (type.element left) (type.element right) =
        .ok (IntegerType.boolean.element folded) ↔
      (signsOtherwise compareType type →
        direction = .eq ∨ direction = .ne ∨ left.msb = right.msb) := by
  obtain ⟨isSigned, rfl, otherwise⟩ := compareInts_of_applyInt calculated
  have bits : ∀ value other : Bool, BitVec.ofBool value = BitVec.ofBool other ↔ value = other := by
    decide
  rw [Element.compareBy_element, Except.ok.injEq, IntegerType.element_inj, bits, ← otherwise,
    ← ComparisonDirection.compareInts_iff]
  cases isSigned <;> cases isSupportedSignedIntegerType type.elementType <;> simp [eq_comm]

variable [FloatArithmetic]

/-- On integers, an operation computes the number that the folder calculates. -/
theorem BinaryKind.compute_integer {kind : BinaryKind} {signedness : Signedness} {width : Nat}
    {supported : isSupportedIntegerType (.integer signedness width) = true}
    {left right folded : BitVec (IntegerType.integer signedness width supported).width}
    (calculated : kind.calculate (.integer signedness width supported) left right =
      .ok (some folded)) :
    kind.compute (.ofBitVec supported left) (.ofBitVec supported right) =
      .ok (.ofBitVec supported folded) := by
  have wide : ¬(IntegerType.integer signedness width supported).width = 1 := width_ne_one supported
  have unsigned : (IntegerType.integer signedness width supported).isUnsignedInteger =
      !isSupportedSignedIntegerType (.integer signedness width) := by
    rw [isSupportedSignedIntegerType_eq supported, Bool.not_not]
    rfl
  have notBoolean : ((IntegerType.integer signedness width supported).width == 1) = false :=
    beq_eq_false_iff_ne.mpr wide
  cases kind with
  | add =>
    cases calculated
    exact Element.add_ofBitVec left right
  | multiply =>
    cases calculated
    exact Element.multiply_ofBitVec left right
  | subtract =>
    cases calculated
    exact Element.subtract_ofBitVec supported left right
  | and =>
    -- More than one bit is combined bit by bit.
    rw [calculate, if_neg wide] at calculated
    cases calculated
    exact Element.and_ofBitVec supported left right
  | or =>
    rw [calculate, if_neg wide] at calculated
    cases calculated
    exact Element.or_ofBitVec supported left right
  | xor =>
    rw [calculate, if_neg wide] at calculated
    cases calculated
    exact Element.xor_ofBitVec supported left right
  | divide =>
    rw [calculate, foldDivide, unsigned] at calculated
    split at calculated
    · cases calculated
    · next nonzero =>
      cases calculated
      rw [compute, Element.divide_ofBitVec supported left right nonzero]
      cases isSupportedSignedIntegerType (.integer signedness width) <;> rfl
  | remainder =>
    rw [calculate, foldRem, unsigned] at calculated
    split at calculated
    · cases calculated
    · next nonzero =>
      cases calculated
      rw [compute, Element.rem_ofBitVec supported left right nonzero]
      cases isSupportedSignedIntegerType (.integer signedness width) <;> rfl
  | maximum =>
    rw [calculate, unsigned, notBoolean, Bool.or_false] at calculated
    cases calculated
    rw [compute, Element.max_ofBitVec supported left right, foldMax]
    cases isSupportedSignedIntegerType (.integer signedness width) <;> rfl
  | minimum =>
    rw [calculate, unsigned, notBoolean, Bool.or_false] at calculated
    cases calculated
    rw [compute, Element.min_ofBitVec supported left right, foldMin]
    cases isSupportedSignedIntegerType (.integer signedness width) <;> rfl

/-- On booleans, all operations but the sum compute the bit that the folder calculates. -/
theorem BinaryKind.compute_boolean {kind : BinaryKind} (accepted : kind.accepts .boolean = true)
    (notAdd : kind ≠ .add) {left right folded : BitVec 1}
    (calculated : kind.calculate .boolean left right = .ok (some folded)) :
    kind.compute (IntegerType.boolean.element left) (IntegerType.boolean.element right) =
      .ok (IntegerType.boolean.element folded) := by
  cases kind with
  | add => exact absurd rfl notAdd
  | divide | remainder | subtract => cases accepted
  | and | or | xor | maximum | minimum | multiply =>
    -- There are four pairs of bits.
    cases calculated
    obtain rfl | rfl := bit_cases left <;> obtain rfl | rfl := bit_cases right <;> rfl

/-- An operation on elements computes the number that the folder calculates, unless it is the sum of
two booleans that are true. -/
theorem BinaryKind.compute_iff {kind : BinaryKind} {type : IntegerType}
    (accepted : kind.accepts type = true) {left right folded : BitVec type.width}
    (calculated : kind.calculate type left right = .ok (some folded)) :
    kind.compute (type.element left) (type.element right) = .ok (type.element folded) ↔
      (kind = .add → type = .boolean → ¬(left = 1 ∧ right = 1)) := by
  cases type with
  | integer signedness width supported =>
    refine iff_of_true (compute_integer calculated) ?_
    intro add boolean
    cases boolean
  | boolean =>
    by_cases add : kind = .add
    · subst add
      cases calculated
      -- The sum wraps around for two bits that are set, and is the disjunction for the others.
      obtain rfl | rfl := bit_cases left <;> obtain rfl | rfl := bit_cases right
      · exact iff_of_true rfl fun _ _ both => by cases both.1
      · exact iff_of_true rfl fun _ _ both => by cases both.1
      · exact iff_of_true rfl fun _ _ both => by cases both.2
      · refine iff_of_false (fun same => by cases same) fun none => none rfl rfl ⟨rfl, rfl⟩
    · exact iff_of_true (compute_boolean accepted add calculated) fun isAdd => absurd isAdd add

end Elements

end Stablehlo
