import Stablehlo.Linalg.Einsum

/-! Configs of einsum: their labels, the sums they ask for, and how the converter reads them. -/

namespace Stablehlo

namespace Linalg

section Specification

/-- One part of a config: labels, with an ellipsis among them or without one. -/
inductive EinsumSide where
  | letters (labels : List Char)
  | ellipsis (before after : List Char)
  deriving DecidableEq, Repr

namespace EinsumSide

/-- The letters of a part. -/
def chars : EinsumSide → List Char
  | letters labels => labels
  | ellipsis before after => before ++ after

/-- How a part is written. -/
def text : EinsumSide → List Char
  | letters labels => labels
  | ellipsis before after => before ++ kEllipsis ++ after

/-- The number of dimensions that the ellipsis stands for. -/
def batchRank (side : EinsumSide) (rank : Nat) : Option Nat :=
  match side with
  | letters _ => none
  | ellipsis before after => some (rank - (before.length + after.length))

/-- Each letter is for one dimension, and only an ellipsis is for any number of them. -/
def Fits (side : EinsumSide) (rank : Nat) : Prop :=
  match side with
  | letters labels => labels.length = rank
  | ellipsis before after => before.length + after.length ≤ rank

/-- The labels of the dimensions: those the ellipsis stands for are numbered. -/
def labels (side : EinsumSide) (rank : Nat) : List String :=
  match side with
  | letters labels => labels.map String.singleton
  | ellipsis before after => before.map String.singleton ++
      (List.range (rank - (before.length + after.length))).map toString ++
        after.map String.singleton

/-- The position behind the ellipsis is representable. -/
def Short : EinsumSide → Prop
  | letters _ => True
  | ellipsis before _ => before.length + kEllipsis.length < 2 ^ 31

end EinsumSide

/-- A config of two operands and a result, whose labels are letters. -/
structure EinsumConfig where
  lhs : EinsumSide
  rhs : EinsumSide
  out : EinsumSide
  alpha : ∀ char ∈ lhs.chars ++ rhs.chars ++ out.chars, char.isAlpha = true

/-- How a config is written. -/
def EinsumConfig.text (config : EinsumConfig) : List Char :=
  config.lhs.text ++ kComma ++ config.rhs.text ++ kArrow ++ config.out.text

/-- The sum of products. It is the product itself when no label is summed over. -/
def sumOver {R : Type} [Zero R] [Add R] (summed : Bool) (products : List R) : R :=
  match summed, products with
  | false, [product] => product
  | _, _ => products.foldl (· + ·) 0

/-- The labels of the dimensions of operands and result. -/
structure EinsumLabels where
  lhs : List String
  rhs : List String
  out : List String

namespace EinsumLabels

variable (labels : EinsumLabels)

/-- The labels of the operands, in the order in which they occur first. -/
def inputs : List String := Labels.insertAll (Labels.insertAll [] labels.lhs) labels.rhs

/-- The labels that are summed over: those that are absent from the result. -/
def summed : List String := labels.inputs.filter fun label => !labels.out.contains label

/-- The values of labels that select the elements for an index of the result. -/
def selecting (size : String → Nat) (index : Index) : List (String → Nat) :=
  (Labels.assignments size labels.inputs).filter fun values =>
    decide (labels.out.map values = index)

/-- The element at an index of the result: the sum of the products of the selected elements. -/
def element {R : Type} [Zero R] [Add R] [Mul R] (size : String → Nat) (lhs rhs : Index → R)
    (index : Index) : R :=
  sumOver (!labels.summed.isEmpty) ((labels.selecting size index).map fun values =>
    lhs (labels.lhs.map values) * rhs (labels.rhs.map values))

/-- Every label has its own loop, and the maps are those of the labels. -/
def Mapped (program : EinsumProgram) : Prop :=
  ∃ loop : String → Nat,
    (∀ label ∈ labels.inputs, loop label < program.numLoops) ∧
    (∀ label ∈ labels.inputs, ∀ other ∈ labels.inputs, loop label = loop other → label = other) ∧
    program.lhsMap = labels.lhs.map loop ∧ program.rhsMap = labels.rhs.map loop ∧
    program.outMap = labels.out.map loop

/-- The types allow sizes for the labels. -/
def Allows (op : EinsumOp) (size : String → Nat) : Prop :=
  op.lhsType.Describes (labels.lhs.map size) ∧ op.rhsType.Describes (labels.rhs.map size) ∧
    op.resultType.Describes (labels.out.map size)

end EinsumLabels

namespace EinsumConfig

variable (config : EinsumConfig) (op : EinsumOp)

/-- The labels for the ranks of an operation. -/
def labels : EinsumLabels where
  lhs := config.lhs.labels op.lhsType.shape.length
  rhs := config.rhs.labels op.rhsType.shape.length
  out := config.out.labels op.resultType.shape.length

/-- The ranks fit the config. -/
def Fits : Prop :=
  config.lhs.Fits op.lhsType.shape.length ∧ config.rhs.Fits op.rhsType.shape.length ∧
    config.out.Fits op.resultType.shape.length

/-- Every label of the result occurs in an operand. -/
def Known : Prop := ∀ label ∈ (config.labels op).out, label ∈ (config.labels op).inputs

/-- The ranks that the ellipses stand for. -/
def batchRanks : List Nat :=
  [config.lhs.batchRank op.lhsType.shape.length, config.rhs.batchRank op.rhsType.shape.length,
    config.out.batchRank op.resultType.shape.length].filterMap id

/-- All ellipses stand for the same rank. -/
def Consistent : Prop :=
  ∀ first ∈ config.batchRanks op, ∀ second ∈ config.batchRanks op, first = second

end EinsumConfig

/-- An einsum is rejected, or it fits its config, and what is built is well formed, has a loop for
each label, and computes the sums. -/
def EinsumOp.ConvertedCorrectly (R : Type) [Zero R] [Add R] [Mul R] (op : EinsumOp)
    (config : EinsumConfig) : Prop :=
  match op.matchAndRewrite with
  | .matchFailure _ => True
  | .undefinedBehavior => False
  | .replacedBy program =>
    config.Fits op ∧ config.Known op ∧ config.Consistent op ∧ program.WellFormed ∧
      (config.labels op).Mapped program ∧
        ∀ size, (config.labels op).Allows op size → ∀ lhs rhs : Index → R,
          program.run (.tabulate ((config.labels op).lhs.map size) lhs)
              (.tabulate ((config.labels op).rhs.map size) rhs) =
            .ok [.tabulate ((config.labels op).out.map size) fun index =>
              some ((config.labels op).element size lhs rhs index)]

end Specification

section Texts

/-- A pattern whose first character is not in front of it is found right there. -/
theorem find_append {char : Char} {pattern front rest : List Char} (fresh : char ∉ front) :
    find (char :: pattern) (front ++ (char :: pattern) ++ rest) = some front.length := by
  induction front with
  | nil => simp [find]
  | cons first front ih =>
    -- The pattern does not start with the first character of the text.
    have differs : char ≠ first := fun same => fresh (same ▸ List.mem_cons_self)
    have later : char ∉ front := fun listed => fresh (List.mem_cons_of_mem first listed)
    have behind := ih later
    simp only [List.append_assoc, List.cons_append] at behind
    simp [find, behind, differs]

/-- A pattern is not found where its first character is missing. -/
theorem find_eq_none {char : Char} {pattern text : List Char} (fresh : char ∉ text) :
    find (char :: pattern) text = none := by
  induction text with
  | nil => simp [find]
  | cons first text ih =>
    have differs : char ≠ first := fun same => fresh (same ▸ List.mem_cons_self)
    have later : char ∉ text := fun listed => fresh (List.mem_cons_of_mem first listed)
    simp [find, ih later, differs]

/-- Numbers below half of the range are the same as signed integers. -/
theorem signedInt_natCast {number : Nat} (small : number < 2 ^ 63) :
    signedInt 64 number = number := by
  rw [signedInt, Int.bmod_def]
  omega

/-- A difference of lengths is negative where it wraps around. -/
theorem signedInt_sub {first second : Nat} (firstSmall : first < 2 ^ 63)
    (secondSmall : second < 2 ^ 63) : signedInt 64 ((first : Int) - second) = first - second := by
  rw [signedInt, Int.bmod_def]
  omega

/-- A small position behind an ellipsis is representable. -/
theorem signedInt_behind {position : Nat} (small : position + kEllipsis.length < 2 ^ 31) :
    signedInt 32 (position + kEllipsis.length) = ((position + 3 : Nat) : Int) := by
  rw [signedInt, Int.bmod_def]
  simp only [kEllipsis, List.length_cons, List.length_nil] at small ⊢
  omega

/-- Nothing else than a letter is written for a label, and dots for an ellipsis. -/
theorem EinsumSide.not_mem_text {side : EinsumSide} {char : Char}
    (alpha : ∀ char ∈ side.chars, char.isAlpha = true) (other : char.isAlpha = false)
    (noDot : char ≠ '.') : char ∉ side.text := by
  intro listed
  cases side with
  | letters labels =>
    rw [alpha char listed] at other
    cases other
  | ellipsis before after =>
    simp only [text, List.mem_append] at listed
    rcases listed with (early | dots) | late
    · rw [alpha char (List.mem_append_left after early)] at other
      cases other
    · -- The characters of an ellipsis are dots.
      simp only [kEllipsis, List.mem_cons, List.not_mem_nil, or_false, or_self] at dots
      exact noDot dots
    · rw [alpha char (List.mem_append_right before late)] at other
      cases other

/-- A written config is dissected into its parts. -/
theorem splitConfig_text {config : EinsumConfig} (small : config.text.length < 2 ^ 63) :
    splitConfig config.text = ⟨config.lhs.text, config.rhs.text, config.out.text⟩ := by
  have alpha := config.alpha
  simp only [List.mem_append, or_imp, forall_and] at alpha
  obtain ⟨⟨lhsAlpha, rhsAlpha⟩, outAlpha⟩ := alpha
  -- The first comma and the first arrow are those between the parts.
  have comma : find kComma config.text = some config.lhs.text.length := by
    rw [EinsumConfig.text, List.append_assoc, List.append_assoc]
    exact find_append (EinsumSide.not_mem_text lhsAlpha (by decide) (by decide))
  have arrow : find kArrow config.text =
      some (config.lhs.text ++ kComma ++ config.rhs.text).length := by
    rw [EinsumConfig.text]
    apply find_append
    simp only [List.mem_append, not_or]
    exact ⟨⟨EinsumSide.not_mem_text lhsAlpha (by decide) (by decide), by decide⟩,
      EinsumSide.not_mem_text rhsAlpha (by decide) (by decide)⟩
  have length : config.text.length =
      config.lhs.text.length + 1 + config.rhs.text.length + 2 + config.out.text.length := by
    simp [EinsumConfig.text, kComma, kArrow]
    omega
  rw [length] at small
  have rhsStart : sizeT ((config.lhs.text.length : Nat) + kComma.length) =
      (config.lhs.text ++ kComma).length := by
    rw [sizeT, List.length_append, kComma, List.length_singleton]
    omega
  have rhsCount : sizeT (((config.lhs.text ++ kComma ++ config.rhs.text).length : Nat) -
      ((config.lhs.text.length : Nat) + kComma.length)) = config.rhs.text.length := by
    rw [sizeT, List.length_append, List.length_append, kComma, List.length_singleton]
    omega
  have outStart : sizeT (((config.lhs.text ++ kComma ++ config.rhs.text).length : Nat) +
      kArrow.length) = (config.lhs.text ++ kComma ++ config.rhs.text ++ kArrow).length := by
    simp only [sizeT, List.length_append, kComma, kArrow, List.length_cons, List.length_nil]
    omega
  rw [splitConfig, comma, arrow]
  simp only [Option.getD_some, rhsStart, rhsCount, outStart, ConfigParts.mk.injEq, substr,
    EinsumConfig.text, List.drop_zero]
  refine ⟨?_, ?_, ?_⟩
  · simp [List.append_assoc]
  · rw [List.append_assoc, List.append_assoc, List.drop_left, List.take_left]
  · rw [List.drop_left, List.take_of_length_le]
    rw [npos]
    omega

/-- The characters between two positions of a text, each on its own. -/
theorem charsBetween_natCast {loop : List Char} {start stop : Nat} (inside : stop ≤ loop.length)
    (small : loop.length < 2 ^ 63) :
    charsBetween loop start stop = ((loop.drop start).take (stop - start)).map String.singleton := by
  have turns : ((stop : Int) - start).toNat = stop - start := by omega
  rw [charsBetween, turns]
  apply List.ext_getElem
  · simp only [List.length_map, List.length_range, List.length_take, List.length_drop]
    omega
  · intro turn below _
    rw [List.length_map, List.length_range] at below
    have position : sizeT ((start : Int) + turn) = start + turn := by
      rw [sizeT]
      omega
    have there : start + turn < loop.length := by omega
    simp only [List.getElem_map, List.getElem_range, List.getElem_take, List.getElem_drop,
      position, substr]
    rw [List.drop_eq_getElem_cons there]
    rfl

namespace EinsumSide

variable {side : EinsumSide} {rank : Nat}

/-- The length of a text is the number of its letters, and three for an ellipsis. -/
theorem length_text (before after : List Char) :
    (ellipsis before after).text.length = before.length + 3 + after.length := by
  simp [text, kEllipsis]
  omega

/-- How many labels are made out of the text of a part. -/
def expandedRank (side : EinsumSide) (rank : Nat) : Nat :=
  match side with
  | letters labels => labels.length
  | ellipsis before after =>
    before.length + (rank - (before.length + after.length)) +
      ((before.length + 3 + after.length : Nat) -
        signedInt 32 (before.length + kEllipsis.length)).toNat

/-- Labels in front of the ellipsis, numbers, and labels from the position behind it on. -/
theorem getEinsumConfigAsVector_ellipsis {before after : List Char}
    (alpha : ∀ char ∈ before ++ after, char.isAlpha = true)
    (small : (ellipsis before after).text.length < 2 ^ 63) (rankSmall : rank < 2 ^ 63) :
    getEinsumConfigAsVector (ellipsis before after).text rank =
      before.map String.singleton ++
        (List.range (rank - (before.length + after.length))).map toString ++
          charsBetween (ellipsis before after).text
            (signedInt 32 (before.length + kEllipsis.length))
            (before.length + 3 + after.length : Nat) := by
  have length := length_text before after
  have noDot : '.' ∉ before := by
    intro listed
    cases alpha _ (List.mem_append_left after listed)
  have found : find kEllipsis (ellipsis before after).text = some before.length :=
    find_append noDot
  rw [length] at small
  have front : charsBetween (ellipsis before after).text 0 (signedInt 64 before.length) =
      before.map String.singleton := by
    rw [signedInt_natCast (by omega)]
    refine (@charsBetween_natCast _ 0 before.length (by omega) (by omega)).trans ?_
    rw [List.drop_zero, Nat.sub_zero, text, List.append_assoc, List.take_left]
  -- The unsigned difference of the ranks is taken for a signed one, so none is below zero.
  have batch : (signedInt 64 ((rank : Int) -
      ((ellipsis before after).text.length - kEllipsis.length))).toNat =
      rank - (before.length + after.length) := by
    have difference : (rank : Int) - ((ellipsis before after).text.length - kEllipsis.length) =
        (rank : Int) - (before.length + after.length : Nat) := by
      rw [length, kEllipsis]
      simp only [List.length_cons, List.length_nil]
      omega
    rw [difference, signedInt_sub rankSmall (by omega)]
    omega
  have stop : signedInt 64 (ellipsis before after).text.length =
      (before.length + 3 + after.length : Nat) := by
    rw [length, signedInt_natCast small]
  rw [getEinsumConfigAsVector, found]
  dsimp only
  rw [front, batch, stop]

/-- As many labels as that are made out of a text. -/
theorem length_getEinsumConfigAsVector (alpha : ∀ char ∈ side.chars, char.isAlpha = true)
    (small : side.text.length < 2 ^ 63) (rankSmall : rank < 2 ^ 63) :
    (getEinsumConfigAsVector side.text rank).length = side.expandedRank rank := by
  cases side with
  | letters labels =>
    have noDot : '.' ∉ labels := by
      intro listed
      cases alpha _ listed
    have missing : find kEllipsis (letters labels).text = none := find_eq_none noDot
    rw [getEinsumConfigAsVector, missing]
    dsimp only
    rw [signedInt_natCast small, charsBetween, List.length_map, List.length_range, expandedRank, text]
    omega
  | ellipsis before after =>
    rw [getEinsumConfigAsVector_ellipsis alpha small rankSmall]
    simp [charsBetween, expandedRank, Nat.add_assoc]

/-- A short text is expanded to the labels. -/
theorem getEinsumConfigAsVector_text (alpha : ∀ char ∈ side.chars, char.isAlpha = true)
    (small : side.text.length < 2 ^ 63) (rankSmall : rank < 2 ^ 63) (short : side.Short) :
    getEinsumConfigAsVector side.text rank = side.labels rank := by
  cases side with
  | letters labels =>
    have noDot : '.' ∉ labels := by
      intro listed
      cases alpha _ listed
    have missing : find kEllipsis (letters labels).text = none := find_eq_none noDot
    rw [getEinsumConfigAsVector, missing]
    dsimp only
    rw [signedInt_natCast small]
    refine (@charsBetween_natCast _ 0 _ le_rfl small).trans ?_
    rw [List.drop_zero, Nat.sub_zero, List.take_length]
    rfl
  | ellipsis before after =>
    have length := length_text before after
    rw [getEinsumConfigAsVector_ellipsis alpha small rankSmall]
    have rest : charsBetween (ellipsis before after).text
        (signedInt 32 (before.length + kEllipsis.length))
        (before.length + 3 + after.length : Nat) = after.map String.singleton := by
      rw [signedInt_behind short, charsBetween_natCast (by omega) small]
      have dots : before.length + 3 = (before ++ kEllipsis).length := by
        simp [kEllipsis]
      rw [Nat.add_sub_cancel_left, dots, text, List.drop_left, List.take_length]
    rw [rest]
    rfl

/-- Only a short text is expanded to as many labels as there are dimensions. -/
theorem short_of_expandedRank (fits : side.Fits rank) (same : side.expandedRank rank = rank)
    (small : side.text.length < 2 ^ 63) : side.Short := by
  cases side with
  | letters labels => trivial
  | ellipsis before after =>
    have enough : before.length + after.length ≤ rank := fits
    rw [length_text] at small
    rw [expandedRank, signedInt, Int.bmod_def, kEllipsis] at same
    rw [Short, kEllipsis]
    simp only [List.length_cons, List.length_nil] at same ⊢
    omega

/-- There is a label for each dimension. -/
theorem length_labels (fits : side.Fits rank) : (side.labels rank).length = rank := by
  cases side with
  | letters labels => exact (List.length_map _).trans fits
  | ellipsis before after =>
    have enough : before.length + after.length ≤ rank := fits
    simp only [labels, List.length_append, List.length_map, List.length_range]
    omega

end EinsumSide

end Texts

end Linalg

end Stablehlo
