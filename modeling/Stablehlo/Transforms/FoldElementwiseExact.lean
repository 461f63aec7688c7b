import Stablehlo.Transforms.FoldElements

/-! Operations are folded to what the interpreter computes, up to three differences. -/

namespace Stablehlo

section Folders

variable {type : IntegerType}

/-- A divisor with an element that is zero is one that the folder finds. -/
theorem integerDivisorHasZeroElement_of_get {rhs : type.Constant} {index : Index}
    (zero : rhs.get index = .ok 0) : integerDivisorHasZeroElement type rhs = true := by
  obtain ⟨element, got, stored⟩ := Tensor.get_eq (Tensor.within_of_get zero)
  rw [zero, Except.ok.injEq] at got
  subst got
  exact List.any_eq_true.mpr ⟨0, List.mem_of_getElem? stored, decide_eq_true rfl⟩

variable [CommonFolders]

/-- Without a division, an operation with two operands is folded element by element. -/
theorem BinaryKind.fold_eq {kind : BinaryKind} (lhs rhs : type.Constant)
    (noDivision : kind ≠ .divide ∧ kind ≠ .remainder) :
    kind.fold type lhs rhs = CommonFolders.constFoldBinaryOp (kind.calculate type) lhs rhs := by
  cases kind with
  | add | subtract | multiply | maximum | minimum => rfl
  | and | or | xor =>
    -- A single bit is taken for a boolean.
    show (if type.width = 1 then CommonFolders.constFoldBinaryOp _
      else CommonFolders.constFoldBinaryOp _) lhs rhs =
      CommonFolders.constFoldBinaryOp
        (fun left right => calculates (if type.width = 1 then _ else _)) lhs rhs
    by_cases single : type.width = 1
    · simp only [if_pos single]
    · simp only [if_neg single]
  | divide => exact absurd rfl noDivision.1
  | remainder => exact absurd rfl noDivision.2

/-- Where an operation with two operands is folded, it is folded element by element. -/
theorem BinaryKind.zipsElements {kind : BinaryKind} {lhs rhs folded : type.Constant}
    (fold : kind.fold type lhs rhs = .ok (some folded)) :
    ZipsElements (kind.calculate type) lhs rhs folded := by
  by_cases division : kind = .divide ∨ kind = .remainder
  · obtain rfl | rfl := division
    · replace fold : foldDivOpPattern type lhs rhs = .ok (some folded) := fold
      unfold foldDivOpPattern at fold
      split at fold
      · cases fold
      · exact CommonFolders.binary_elementwise fold
    · replace fold : foldRemOpPattern type lhs rhs = .ok (some folded) := fold
      unfold foldRemOpPattern at fold
      split at fold
      · cases fold
      · exact CommonFolders.binary_elementwise fold
  · rw [fold_eq lhs rhs (not_or.mp division)] at fold
    exact CommonFolders.binary_elementwise fold

/-- A division by zero is not folded. -/
theorem BinaryKind.not_folded {kind : BinaryKind} {lhs rhs : type.Constant}
    (byZero : (ConstantOp.binary kind type lhs rhs).DividesByZero) (folded : type.Constant) :
    kind.fold type lhs rhs ≠ .ok (some folded) := by
  obtain ⟨division, index, zero⟩ := byZero
  have found := integerDivisorHasZeroElement_of_get zero
  intro fold
  obtain rfl | rfl := division
  · replace fold : foldDivOpPattern type lhs rhs = .ok (some folded) := fold
    rw [foldDivOpPattern, if_pos found] at fold
    cases fold
  · replace fold : foldRemOpPattern type lhs rhs = .ok (some folded) := fold
    rw [foldRemOpPattern, if_pos found] at fold
    cases fold

/-- A clamp is folded where the elements can be raised, and then lowered. -/
theorem foldClampOpPattern_eq_ok {min operand max folded : type.Constant} :
    foldClampOpPattern type min operand max = .ok (some folded) ↔ ∃ raised,
      CommonFolders.constFoldBinaryOp
        (fun lhs rhs => calculates (foldMax type.isUnsignedInteger lhs rhs)) min operand =
          .ok (some raised) ∧
      CommonFolders.constFoldBinaryOp
        (fun lhs rhs => calculates (foldMin type.isUnsignedInteger lhs rhs)) max raised =
          .ok (some folded) := by
  unfold foldClampOpPattern
  dsimp only
  cases CommonFolders.constFoldBinaryOp
      (fun lhs rhs => calculates (foldMax type.isUnsignedInteger lhs rhs)) min operand with
  | error failure =>
    refine iff_of_false (fun fold => by cases fold) ?_
    rintro ⟨_, fold, -⟩
    cases fold
  | ok raised =>
    cases raised with
    | none =>
      refine iff_of_false (fun fold => by cases fold) ?_
      rintro ⟨_, fold, -⟩
      cases fold
    | some raised =>
      constructor
      · intro fold
        exact ⟨raised, rfl, fold⟩
      · rintro ⟨other, same, fold⟩
        cases same
        exact fold

end Folders

section Tensors

variable {type resultType : IntegerType}

/-- The interpreter computes the constant when it computes each element. -/
theorem mapOp_eq {compute : Element → Except Failure Element}
    {calculate : BitVec type.width → Except Failure (Option (BitVec resultType.width))}
    {operand : type.Constant} {result : resultType.Constant}
    (maps : MapsElements calculate operand result)
    (computes : ∀ bits folded, calculate bits = .ok (some folded) →
      compute (type.element bits) = .ok (resultType.element folded)) :
    Tensor.mapOp compute (type.tensor operand) operand.shape =
      .ok (resultType.tensor result) := by
  apply Tensor.build_eq_ok_iff.mpr
  refine ⟨maps.shape, ?_⟩
  intro index within
  obtain ⟨bits, folded, got, calculated, resultGot⟩ := maps.elements index within
  rw [IntegerType.get_tensor, IntegerType.get_tensor, got, resultGot]
  exact computes bits folded calculated

/-- The interpreter computes the constant exactly when it computes each element. -/
theorem zipOp_iff {compute : Element → Element → Except Failure Element}
    {calculate : BitVec type.width → BitVec type.width →
      Except Failure (Option (BitVec resultType.width))}
    {lhs rhs : type.Constant} {result : resultType.Constant}
    (zips : ZipsElements calculate lhs rhs result) :
    Tensor.zipOp compute (type.tensor lhs) (type.tensor rhs) lhs.shape =
        .ok (resultType.tensor result) ↔
      ∀ index left right folded, lhs.get index = .ok left → rhs.get index = .ok right →
        calculate left right = .ok (some folded) →
          compute (type.element left) (type.element right) = .ok (resultType.element folded) := by
  -- What is computed at an index, and what the constant has there.
  have element : ∀ index left right folded, lhs.get index = .ok left →
      rhs.get index = .ok right → result.get index = .ok folded →
      (((type.tensor lhs).get index >>= fun first =>
          (type.tensor rhs).get index >>= fun second => compute first second) =
          (resultType.tensor result).get index ↔
        compute (type.element left) (type.element right) = .ok (resultType.element folded)) := by
    intro index left right folded leftGot rightGot resultGot
    rw [IntegerType.get_tensor, IntegerType.get_tensor, IntegerType.get_tensor, leftGot, rightGot,
      resultGot]
    exact Iff.rfl
  rw [Tensor.zipOp, Tensor.build_eq_ok_iff]
  constructor
  · intro built index left right folded leftGot rightGot calculated
    have within := Tensor.within_of_get leftGot
    obtain ⟨first, second, value, firstGot, secondGot, same, resultGot⟩ :=
      zips.elements index within
    rw [leftGot, Except.ok.injEq] at firstGot
    rw [rightGot, Except.ok.injEq] at secondGot
    subst firstGot secondGot
    rw [calculated, Except.ok.injEq, Option.some.injEq] at same
    subst same
    exact (element index left right folded leftGot rightGot resultGot).mp (built.2 index within)
  · intro computes
    refine ⟨zips.shape, ?_⟩
    intro index within
    obtain ⟨left, right, folded, leftGot, rightGot, calculated, resultGot⟩ :=
      zips.elements index within
    apply (element index left right folded leftGot rightGot resultGot).mpr
    exact computes index left right folded leftGot rightGot calculated

/-- A predicate selects the element of one of the operands. -/
theorem select_element {pred : IntegerType.boolean.Constant} {onTrue onFalse : type.Constant}
    {place index : Index} {value : BitVec 1} (got : pred.get place = .ok value) :
    (do
        let predElement ← (IntegerType.boolean.tensor pred).get place
        let predValue ← predElement.getBooleanValue
        if predValue then (type.tensor onTrue).get index else (type.tensor onFalse).get index) =
      (if value = 0 then onFalse.get index else onTrue.get index).map type.element := by
  rw [IntegerType.get_tensor, IntegerType.get_tensor, IntegerType.get_tensor, got]
  obtain rfl | rfl := bit_cases value <;> rfl

variable [TypePrinter] [FloatArithmetic] [FloatOperations]

/-- The interpreter computes the constant a clamp is folded to exactly when it computes each
element. -/
theorem clamp_eval_iff {min operand max raised folded : type.Constant}
    (raises : ZipsElements
      (fun lhs rhs => calculates (foldMax type.isUnsignedInteger lhs rhs)) min operand raised)
    (lowers : ZipsElements
      (fun lhs rhs => calculates (foldMin type.isUnsignedInteger lhs rhs)) max raised folded) :
    (ConstantOp.clamp type min operand max).eval = .ok (type.tensor folded) ↔
      (type = .boolean → ∀ index, MixedRadix.Within operand.shape index →
        operand.get index = min.get index → max.get index = min.get index) := by
  have minShape := raises.sameShape
  have maxShape := lowers.sameShape.trans raises.shape
  -- What is computed at an index, and what the constant has there.
  have element : ∀ index, MixedRadix.Within operand.shape index →
      ((do
          let minElement ← (type.tensor min).get
            (if (type.tensor min).shape.length ≠ 0 then index else [])
          let maxElement ← (type.tensor max).get
            (if (type.tensor max).shape.length ≠ 0 then index else [])
          let element ← (type.tensor operand).get index
          let raised ← element.max minElement
          raised.min maxElement) = (type.tensor folded).get index ↔
        (type = .boolean → operand.get index = min.get index →
          max.get index = min.get index)) := by
    intro index within
    have minWithin : MixedRadix.Within min.shape index := minShape ▸ within
    have maxWithin : MixedRadix.Within max.shape index := by
      rw [maxShape]
      exact minWithin
    obtain ⟨least, value, higher, minGot, operandGot, raise, raisedGot⟩ :=
      raises.elements index minWithin
    obtain ⟨most, again, lower, maxGot, againGot, lowered, foldedGot⟩ :=
      lowers.elements index maxWithin
    rw [raisedGot, Except.ok.injEq] at againGot
    subst againGot
    cases raise
    cases lowered
    rw [Tensor.get_of_rank (show MixedRadix.Within (type.tensor min).shape index from minWithin),
      Tensor.get_of_rank (show MixedRadix.Within (type.tensor max).shape index from maxWithin),
      IntegerType.get_tensor, IntegerType.get_tensor, IntegerType.get_tensor,
      IntegerType.get_tensor, minGot, maxGot, operandGot, foldedGot]
    have scalars := @clampElement_iff _ _ type least value most
    simp only [Except.ok.injEq]
    exact scalars
  have shape : folded.shape = operand.shape := by
    rw [lowers.shape, maxShape, minShape]
  refine Tensor.build_eq_ok_iff.trans ?_
  constructor
  · rintro ⟨-, elements⟩ boolean index within
    exact (element index within).mp (elements index within) boolean
  · intro booleans
    refine ⟨shape, ?_⟩
    intro index within
    exact (element index within).mpr fun boolean => booleans boolean index within

end Tensors

section Operations

variable [CommonFolders] [TypePrinter] [FloatArithmetic] [FloatOperations]
  {options : FolderOptions} {type : IntegerType}

/-- Operations with one operand are folded to what the interpreter computes. -/
theorem unary_foldsCorrectly {kind : UnaryKind} {operand : type.Constant}
    (accepted : kind.accepts type = true) :
    (ConstantOp.unary kind type operand).FoldsCorrectly options := by
  refine ⟨?_, fun none => none.elim⟩
  intro folded fold
  have evaluated : kind.fold type operand =
      CommonFolders.constFoldUnaryOp (fun bits => .ok (kind.evaluateOp type bits)) operand := by
    cases kind with
    | sign =>
      -- The dispatch negates the flag twice.
      show CommonFolders.constFoldUnaryOp
        (fun bits => .ok (evaluateSign bits (!!type.isUnsignedInteger))) operand = _
      rw [Bool.not_not]
      rfl
    | _ => rfl
  have maps := CommonFolders.unary_elementwise (evaluated.symm.trans fold)
  have eval : kind.eval (type.tensor operand) operand.shape =
      Tensor.mapOp kind.compute (type.tensor operand) operand.shape := by
    cases kind <;> rfl
  refine eval.trans (mapOp_eq maps ?_)
  intro bits result calculated
  exact UnaryKind.compute_eq accepted (Except.ok.inj calculated)

/-- Conversions are folded to what the interpreter computes. -/
theorem convert_foldsCorrectly {resultType : IntegerType} {operand : type.Constant} :
    (ConstantOp.convert type resultType operand).FoldsCorrectly options := by
  refine ⟨?_, fun none => none.elim⟩
  intro folded fold
  replace fold : foldConvertOpPattern type options resultType operand = .ok (some folded) := fold
  unfold foldConvertOpPattern at fold
  split at fold
  · have maps := CommonFolders.cast_elementwise fold
    refine mapOp_eq maps ?_
    intro bits result calculated
    cases calculated
    exact convert_element type resultType bits
  · cases fold

/-- Operations with two operands are folded to what the interpreter computes, unless two booleans
that are true are added. -/
theorem binary_foldsCorrectly_iff {kind : BinaryKind} {lhs rhs : type.Constant}
    (accepted : (ConstantOp.binary kind type lhs rhs).Accepted) :
    (ConstantOp.binary kind type lhs rhs).FoldsCorrectly options ↔
      (ConstantOp.binary kind type lhs rhs).FoldsAsInterpreted := by
  obtain ⟨accepts, sameShape⟩ := accepted
  have eval : kind.eval (type.tensor lhs) (type.tensor rhs) lhs.shape =
      Tensor.zipOp kind.compute (type.tensor lhs) (type.tensor rhs) lhs.shape := by
    cases kind <;> rfl
  constructor
  · intro correct add boolean index both
    subst add
    obtain ⟨left, right⟩ := both
    -- The sum is folded, since there is one of any two numbers.
    obtain ⟨folded, fold⟩ := @CommonFolders.binary_total _ _ _
      (BinaryKind.add.calculate type) lhs rhs sameShape fun left right => ⟨left + right, rfl⟩
    have agrees := correct.agrees folded fold
    replace agrees := (zipOp_iff (CommonFolders.binary_elementwise fold)).mp
      (eval.symm.trans agrees) index 1 1 (1 + 1) left right rfl
    exact (BinaryKind.compute_iff accepts rfl).mp agrees rfl boolean ⟨rfl, rfl⟩
  · intro interpreted
    refine ⟨?_, BinaryKind.not_folded⟩
    intro folded fold
    refine eval.trans ((zipOp_iff (BinaryKind.zipsElements fold)).mpr ?_)
    intro index left right result leftGot rightGot calculated
    apply (BinaryKind.compute_iff accepts calculated).mpr
    intro add boolean both
    apply interpreted add boolean index
    exact ⟨leftGot.trans (congrArg _ both.1), rightGot.trans (congrArg _ both.2)⟩

/-- Comparisons are folded to what the interpreter computes, unless the comparison has signs that
the elements do not have, or the other way around, and there are elements for which this matters. -/
theorem compare_foldsCorrectly_iff {direction : ComparisonDirection}
    {compareType : Option ComparisonType} {lhs rhs : type.Constant}
    (sameShape : lhs.shape = rhs.shape) :
    (ConstantOp.compare type direction compareType lhs rhs).FoldsCorrectly options ↔
      (ConstantOp.compare type direction compareType lhs rhs).FoldsAsInterpreted := by
  constructor
  · intro correct otherwise
    -- With signs of its own, the comparison is one of integers, and is folded.
    have integers : getComparisonType compareType type.elementType = .signed ∨
        getComparisonType compareType type.elementType = .unsigned := by
      obtain ⟨rfl, -⟩ | ⟨rfl, -⟩ := otherwise
      · exact .inl rfl
      · exact .inr rfl
    have total : ∀ left right : BitVec type.width, FoldCompare.applyInt
        ⟨direction, getComparisonType compareType type.elementType⟩ left right =
          .ok (some (.ofBool (direction.compareInts
            (getComparisonType compareType type.elementType = .signed) left right))) := by
      intro left right
      obtain kind | kind := integers <;> rw [kind] <;> rfl
    obtain ⟨folded, fold⟩ := @CommonFolders.binary_total _ _ _
      (FoldCompare.applyInt ⟨direction, getComparisonType compareType type.elementType⟩)
      lhs rhs sameShape fun left right => ⟨_, total left right⟩
    have pattern : foldCompareOpPattern type direction compareType lhs rhs = .ok (some folded) := by
      refine (if_neg ?_).trans fold
      obtain kind | kind := integers <;> rw [kind] <;> decide
    have agrees := (zipOp_iff (CommonFolders.binary_elementwise fold)).mp
      (correct.agrees folded pattern)
    by_cases equality : direction = .eq ∨ direction = .ne
    · exact equality.imp_right .inl
    · refine .inr (.inr ?_)
      intro index left right leftGot rightGot
      have same := agrees index left right _ leftGot rightGot (total left right)
      obtain isEq | isNe | signs := (compareBy_iff (total left right)).mp same otherwise
      · exact absurd (.inl isEq) equality
      · exact absurd (.inr isNe) equality
      · exact signs
  · intro interpreted
    refine ⟨?_, fun none => none.elim⟩
    intro folded fold
    replace fold : foldCompareOpPattern type direction compareType lhs rhs = .ok (some folded) :=
      fold
    unfold foldCompareOpPattern at fold
    dsimp only at fold
    split at fold
    · cases fold
    · refine (zipOp_iff (CommonFolders.binary_elementwise fold)).mpr ?_
      intro index left right result leftGot rightGot calculated
      apply (compareBy_iff calculated).mpr
      intro otherwise
      obtain isEq | isNe | signs := interpreted otherwise
      · exact .inl isEq
      · exact .inr (.inl isNe)
      · exact .inr (.inr (signs index left right leftGot rightGot))

/-- Clamps are folded to what the interpreter computes, unless there is a boolean that is the one of
its bounds and not the other one. -/
theorem clamp_foldsCorrectly_iff {min operand max : type.Constant} :
    (ConstantOp.clamp type min operand max).FoldsCorrectly options ↔
      (ConstantOp.clamp type min operand max).FoldsAsInterpreted := by
  constructor
  · intro correct boolean minShape maxShape index within
    -- Where the bounds have the shape of the operand, everything is folded.
    obtain ⟨raised, raise⟩ := @CommonFolders.binary_total _ _ _
      (fun lhs rhs => calculates (foldMax type.isUnsignedInteger lhs rhs)) min operand minShape
      fun _ _ => ⟨_, rfl⟩
    have raises := CommonFolders.binary_elementwise raise
    have sameShape : max.shape = raised.shape := by rw [raises.shape, maxShape, minShape]
    obtain ⟨folded, fold⟩ := @CommonFolders.binary_total _ _ _
      (fun lhs rhs => calculates (foldMin type.isUnsignedInteger lhs rhs)) max raised sameShape
      fun _ _ => ⟨_, rfl⟩
    have agrees := correct.agrees folded (foldClampOpPattern_eq_ok.mpr ⟨raised, raise, fold⟩)
    exact (clamp_eval_iff raises (CommonFolders.binary_elementwise fold)).mp agrees boolean index
      within
  · intro interpreted
    refine ⟨?_, fun none => none.elim⟩
    intro folded fold
    obtain ⟨raised, raise, lower⟩ := foldClampOpPattern_eq_ok.mp fold
    have raises := CommonFolders.binary_elementwise raise
    have lowers := CommonFolders.binary_elementwise lower
    apply (clamp_eval_iff raises lowers).mpr
    intro boolean
    exact interpreted boolean raises.sameShape
      (lowers.sameShape.trans (raises.shape.trans raises.sameShape))

/-- Selections are folded to what the interpreter computes. -/
theorem select_foldsCorrectly {pred : IntegerType.boolean.Constant}
    {onTrue onFalse : type.Constant}
    (accepted : (ConstantOp.select type pred onTrue onFalse).Accepted) :
    (ConstantOp.select type pred onTrue onFalse).FoldsCorrectly options := by
  obtain ⟨sameShape, predShape⟩ := accepted
  refine ⟨?_, fun none => none.elim⟩
  intro folded fold
  replace fold : foldSelectOpPattern type options pred onTrue onFalse onTrue.shape =
      .ok (some folded) := fold
  apply Tensor.build_eq_ok_iff.mpr
  unfold foldSelectOpPattern at fold
  split at fold
  · next value splat =>
    -- The predicate is the same everywhere.
    cases fold
    constructor
    · show Tensor.shape (if value = 0 then onFalse else onTrue) = onTrue.shape
      split
      · exact sameShape.symm
      · rfl
    · intro index within
      have got := get_of_splatValue splat (Tensor.place_within predShape within)
      refine (select_element got).trans ?_
      refine Eq.trans ?_ (IntegerType.get_tensor type _ index).symm
      split <;> rfl
  · next noSplat =>
    have whole : pred.shape = onTrue.shape :=
      predShape.resolve_right (shape_ne_nil_of_splatValue noSplat)
    split at fold
    · dsimp only at fold
      split at fold
      · next complete =>
        cases fold
        refine ⟨rfl, ?_⟩
        intro index within
        have predWithin : MixedRadix.Within pred.shape index := whole ▸ within
        obtain ⟨value, got, stored⟩ := Tensor.get_eq predWithin
        obtain ⟨trueValue, trueGot, trueStored⟩ := Tensor.get_eq within
        obtain ⟨falseValue, falseGot, falseStored⟩ :=
          @Tensor.get_eq _ onFalse index (sameShape ▸ within)
        have place : pred.get (if pred.shape.length ≠ 0 then index else []) = .ok value :=
          (Tensor.get_of_rank predWithin).trans got
        refine (select_element place).trans ?_
        refine Eq.trans ?_ (IntegerType.get_tensor type _ index).symm
        congr 1
        -- The elements at the index are at the same place in all three operands.
        rw [whole] at stored
        rw [← sameShape] at falseStored
        have zipped : (pred.data.zip (onTrue.data.zip onFalse.data))[MixedRadix.encode
            onTrue.shape index]? = some (value, trueValue, falseValue) :=
          List.getElem?_zip_eq_some.mpr
            ⟨stored, List.getElem?_zip_eq_some.mpr ⟨trueStored, falseStored⟩⟩
        rw [trueGot, falseGot]
        refine Eq.trans ?_ (@Tensor.get_of_stored _ ⟨onTrue.shape, _, complete⟩ index _ within
          (List.getElem?_map.trans (congrArg (Option.map _) zipped))).symm
        by_cases zero : value = 0
        · rw [if_pos zero]
          exact congrArg Except.ok (if_neg (not_not.mpr zero)).symm
        · rw [if_neg zero]
          exact congrArg Except.ok (if_pos zero).symm
      · cases fold
    · cases fold

/-- Every operation is folded to what the interpreter computes exactly where the folder and the
interpreter do not compute differently, and no division by zero is folded. -/
theorem foldsCorrectly_iff (op : ConstantOp) (accepted : op.Accepted) (options : FolderOptions) :
    op.FoldsCorrectly options ↔ op.FoldsAsInterpreted := by
  cases op with
  | unary kind type operand => exact iff_of_true (unary_foldsCorrectly accepted) trivial
  | binary kind type lhs rhs => exact binary_foldsCorrectly_iff accepted
  | clamp type min operand max => exact clamp_foldsCorrectly_iff
  | compare type direction compareType lhs rhs => exact compare_foldsCorrectly_iff accepted
  | select type pred onTrue onFalse => exact iff_of_true (select_foldsCorrectly accepted) trivial
  | convert type resultType operand => exact iff_of_true convert_foldsCorrectly trivial

end Operations

section Elementwise

variable {width resultWidth : Nat}

/-- The constant with the elements that are calculated, if there is one for every index. -/
def foldedConstant (shape : Sizes) (element : Index → Except Failure (Option (BitVec width))) :
    Except Failure (Option (Tensor (BitVec width))) := do
  let results ← Tensor.build shape element
  .ok (if results.data.all Option.isSome then some (results.map (Option.getD · 0)) else none)

/-- A constant that is calculated has what is calculated for each index. -/
theorem foldedConstant_spec {shape : Sizes}
    {element : Index → Except Failure (Option (BitVec width))} {result : Tensor (BitVec width)}
    (folded : foldedConstant shape element = .ok (some result)) :
    result.shape = shape ∧ ∀ index, MixedRadix.Within shape index → ∃ value,
      element index = .ok (some value) ∧ result.get index = .ok value := by
  obtain ⟨results, built, made⟩ := Fallible.bind_eq_ok.mp folded
  obtain ⟨rfl, elements⟩ := Tensor.build_spec built
  rw [Except.ok.injEq] at made
  split at made
  · next every =>
    cases made
    refine ⟨rfl, ?_⟩
    intro index within
    obtain ⟨found, got, stored⟩ := Tensor.get_eq within
    -- Every result is there.
    obtain ⟨value, rfl⟩ := Option.isSome_iff_exists.mp
      (List.all_eq_true.mp every found (List.mem_of_getElem? stored))
    refine ⟨value, (elements index within).symm.trans got, ?_⟩
    rw [Tensor.get_map, got]
    rfl
  · cases made

/-- A constant is calculated where there is a result for every index. -/
theorem foldedConstant_total {shape : Sizes}
    {element : Index → Except Failure (Option (BitVec width))}
    (calculated : ∀ index, MixedRadix.Within shape index → ∃ value,
      element index = .ok (some value)) :
    ∃ result, foldedConstant shape element = .ok (some result) := by
  -- What is there for an index, which is nothing behind a failure.
  let found : Index → Option (BitVec width) := fun index =>
    match element index with
    | .ok result => result
    | .error _ => none
  have known : ∀ index, MixedRadix.Within shape index → ∃ value, found index = some value ∧
      element index = .ok (found index) := by
    intro index within
    obtain ⟨value, computed⟩ := calculated index within
    simp only [found, computed]
    exact ⟨value, rfl, trivial⟩
  have built : Tensor.build shape element = .ok (Tensor.tabulate shape found) :=
    Tensor.build_eq_tabulate fun index within => (known index within).choose_spec.2
  have every : (Tensor.tabulate shape found).data.all Option.isSome = true := by
    apply List.all_eq_true.mpr
    intro result listed
    obtain ⟨index, member, rfl⟩ := List.mem_map.mp listed
    obtain ⟨value, present, -⟩ := known index (MixedRadix.mem_all.mp member)
    rw [present]
    rfl
  refine ⟨(Tensor.tabulate shape found).map (Option.getD · 0), ?_⟩
  rw [foldedConstant, built, Fallible.ok_bind, if_pos every]

/-- The result for each element of a constant is calculated from it. -/
theorem mapsElements_of_foldedConstant {operand : Tensor (BitVec width)}
    {calculate : BitVec width → Except Failure (Option (BitVec resultWidth))}
    {result : Tensor (BitVec resultWidth)}
    (folded : foldedConstant operand.shape (fun index => do
      let bits ← operand.get index
      calculate bits) = .ok (some result)) : MapsElements calculate operand result := by
  obtain ⟨shape, elements⟩ := foldedConstant_spec folded
  refine ⟨shape, ?_⟩
  intro index within
  obtain ⟨value, computed, got⟩ := elements index within
  obtain ⟨bits, read, calculated⟩ := Fallible.bind_eq_ok.mp computed
  exact ⟨bits, value, read, calculated, got⟩

/-- Folders that calculate the elements one after the other. -/
abbrev elementwiseFolders : CommonFolders where
  constFoldUnaryOp calculate operand := foldedConstant operand.shape fun index => do
    let bits ← operand.get index
    calculate bits
  constFoldCastOp calculate operand := foldedConstant operand.shape fun index => do
    let bits ← operand.get index
    calculate bits
  constFoldBinaryOp calculate lhs rhs :=
    if lhs.shape = rhs.shape then
      foldedConstant lhs.shape fun index => do
        let left ← lhs.get index
        let right ← rhs.get index
        calculate left right
    else
      .ok none
  unary_elementwise := mapsElements_of_foldedConstant
  cast_elementwise := mapsElements_of_foldedConstant
  binary_elementwise := by
    intro width resultWidth calculate lhs rhs result folded
    split at folded
    · next sameShape =>
      obtain ⟨shape, elements⟩ := foldedConstant_spec folded
      refine ⟨sameShape, shape, ?_⟩
      intro index within
      obtain ⟨value, computed, got⟩ := elements index within
      obtain ⟨left, leftRead, rest⟩ := Fallible.bind_eq_ok.mp computed
      obtain ⟨right, rightRead, calculated⟩ := Fallible.bind_eq_ok.mp rest
      exact ⟨left, right, value, leftRead, rightRead, calculated, got⟩
    · cases folded
  binary_total := by
    intro width resultWidth calculate lhs rhs sameShape calculated
    rw [if_pos sameShape]
    apply foldedConstant_total
    intro index within
    obtain ⟨left, leftRead, -⟩ := Tensor.get_eq within
    obtain ⟨right, rightRead, -⟩ := @Tensor.get_eq _ rhs index (sameShape ▸ within)
    obtain ⟨value, known⟩ := calculated left right
    refine ⟨value, ?_⟩
    rw [leftRead, rightRead]
    exact known

end Elementwise

/-- The sums of a boolean with itself. -/
def doubledBooleans : ConstantOp :=
  .binary .add .boolean ⟨[2], [0, 1], rfl⟩ ⟨[2], [0, 1], rfl⟩

/-- The folder and the interpreter differ on the sum of two booleans that are true. -/
theorem foldsCorrectly_doubledBooleans :
    @ConstantOp.FoldsCorrectly elementwiseFolders plainPrinter integersOnly integerOperations
        doubledBooleans ⟨65536⟩ ↔ doubledBooleans.FoldsAsInterpreted :=
  @foldsCorrectly_iff elementwiseFolders plainPrinter integersOnly integerOperations
    doubledBooleans ⟨rfl, rfl⟩ ⟨65536⟩

/-- The sum of true and true is folded to false, and is true. -/
theorem doubledBooleans_not_folded :
    ¬@ConstantOp.FoldsCorrectly elementwiseFolders plainPrinter integersOnly integerOperations
      doubledBooleans ⟨65536⟩ := by
  intro correct
  have fold : @ConstantOp.fold elementwiseFolders ⟨65536⟩ doubledBooleans =
      .ok (some ⟨[2], [0, 0], rfl⟩) := rfl
  have agrees := @ConstantOp.FoldsCorrectly.agrees elementwiseFolders plainPrinter integersOnly
    integerOperations _ _ correct _ fold
  have values := congrArg (Except.map fun tensor => tensor.data.map Element.value) agrees
  exact absurd values (by decide)

end Stablehlo
