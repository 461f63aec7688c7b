import Mathlib.Data.List.Perm.Subperm
import Stablehlo.Support.MixedRadix

/-! Reading the positions of an array in another order of its axes. -/

namespace MixedRadix

/-- The digits of a number, each computed on its own from the weight of its place. -/
def digits (radices : List Nat) (number : Nat) : List Nat :=
  List.zipWith (fun weight radix => number / weight % radix) (weights radices) radices

/-- The radices, taken in an order of the axes. -/
def reorder (radices order : List Nat) : List Nat := order.map fun axis => radices.getD axis 1

/-- The position in the array that a position in the transposed array is read from. -/
def transpose (radices order : List Nat) (number : Nat) : Nat :=
  (List.zipWith (fun digit axis => digit * (weights radices).getD axis 1)
    (digits (reorder radices order) number) order).sum

/-- There is one digit for each radix. -/
@[simp] theorem length_digits (radices : List Nat) (number : Nat) :
    (digits radices number).length = radices.length := by
  simp [digits]

/-- Reordered radices are as many as the axes of the order. -/
@[simp] theorem length_reorder (radices order : List Nat) :
    (reorder radices order).length = order.length := by
  simp [reorder]

/-- Radices are reordered part by part. -/
theorem reorder_append (radices first second : List Nat) :
    reorder radices (first ++ second) = reorder radices first ++ reorder radices second :=
  List.map_append

/-- Digits are below their radices. -/
theorem digits_within {radices : List Nat} (positive : ∀ radix ∈ radices, 0 < radix)
    (number : Nat) : Within radices (digits radices number) := by
  induction radices with
  | nil => exact .nil
  | cons radix radices ih =>
    exact .cons (Nat.mod_lt _ (positive radix (by simp)))
      (ih fun other listed => positive other (by simp [listed]))

/-- Only the rest by the product of the radices matters for the digits. -/
theorem digits_mod (radices : List Nat) (number factor : Nat) :
    digits radices (number % (factor * radices.prod)) = digits radices number := by
  induction radices generalizing factor with
  | nil => rfl
  | cons radix radices ih =>
    have tail : digits radices (number % (factor * (radix * radices.prod))) =
        digits radices number := by
      rw [← Nat.mul_assoc]
      exact ih (factor * radix)
    have head : number % (factor * (radix * radices.prod)) / radices.prod % radix =
        number / radices.prod % radix := by
      rw [← Nat.mul_assoc, Nat.mod_mul_left_div_self, Nat.mod_mul_left_mod]
    simp only [digits, weights, List.zipWith_cons_cons, List.prod_cons, List.cons.injEq] at tail ⊢
    exact ⟨head, tail⟩

/-- The digits of a number below the product are those of its numeral. -/
theorem digits_eq_decode {radices : List Nat} {number : Nat} (below : number < radices.prod) :
    digits radices number = decode radices number := by
  induction radices generalizing number with
  | nil => rfl
  | cons radix radices ih =>
    rw [List.prod_cons] at below
    have positive : 0 < radices.prod := Nat.pos_of_ne_zero fun zero => by simp [zero] at below
    have head : number / radices.prod % radix = number / radices.prod :=
      Nat.mod_eq_of_lt ((Nat.div_lt_iff_lt_mul positive).mpr below)
    have tail : digits radices number = decode radices (number % radices.prod) := by
      rw [← ih (Nat.mod_lt _ positive)]
      simpa using (digits_mod radices number 1).symm
    simp only [digits, weights, List.zipWith_cons_cons, decode, head, List.cons.injEq, true_and]
    exact tail

/-- The digits of a numeral are the ones it was made of. -/
theorem digits_encode {radices places : List Nat} (within : Within radices places) :
    digits radices (encode radices places) = places := by
  rw [digits_eq_decode (encode_lt within), decode_encode within]

/-- A block and an offset in it have their digits one after the other. -/
theorem digits_append (first second : List Nat) (block : Nat) {offset : Nat}
    (small : offset < second.prod) :
    digits (first ++ second) (block * second.prod + offset) =
      digits first block ++ digits second offset := by
  have positive : 0 < second.prod := Nat.lt_of_le_of_lt (Nat.zero_le _) small
  induction first with
  | nil =>
    rw [List.nil_append, ← digits_mod second _ 1, Nat.one_mul, Nat.mul_add_mod_self_right,
      Nat.mod_eq_of_lt small]
    rfl
  | cons radix first ih =>
    have head : (block * second.prod + offset) / (first ++ second).prod = block / first.prod := by
      rw [List.prod_append, Nat.mul_comm first.prod, ← Nat.div_div_eq_div_mul,
        Nat.mul_comm block, Nat.mul_add_div positive, Nat.div_eq_of_lt small, Nat.add_zero]
    simp only [digits, weights, List.cons_append, List.zipWith_cons_cons, head] at ih ⊢
    rw [ih]

section Order

variable {radices order places : List Nat}

/-- The digits of the axes in their order, from digits in another order of the axes. -/
def spread (order places : List Nat) (count : Nat) : List Nat :=
  (List.range count).map fun axis => places.getD (order.idxOf axis) 0

/-- Pairing digits with axes looks every digit up at the place of its axis. -/
theorem sum_zipWith_idxOf (nodup : order.Nodup) (same : places.length = order.length)
    (weight : Nat → Nat) :
    (List.zipWith (fun digit axis => digit * weight axis) places order).sum =
      (order.map fun axis => places.getD (order.idxOf axis) 0 * weight axis).sum := by
  congr 1
  refine List.ext_getElem (by simp [same]) fun place first second => ?_
  have inside : place < order.length := by simpa using second
  have digit : place < places.length := same ▸ inside
  simp [nodup.idxOf_getElem, digit]

/-- A numeral is the sum over the axes, whatever the digits of the axes are. -/
theorem sum_range_weights (radices : List Nat) (digit : Nat → Nat) :
    ((List.range radices.length).map fun axis =>
        digit axis * (weights radices).getD axis 1).sum =
      encode radices ((List.range radices.length).map digit) := by
  induction radices generalizing digit with
  | nil => rfl
  | cons radix radices ih =>
    -- The leading axis comes first, and the others are the axes of the rest.
    rw [List.length_cons, List.range_succ_eq_map, List.map_cons, List.map_cons, List.sum_cons,
      List.map_map, List.map_map, encode]
    exact congrArg (digit 0 * radices.prod + ·) (ih fun axis => digit (axis + 1))

/-- The transposed position is the numeral of the digits in the order of the axes. -/
theorem transpose_eq_encode (permuted : order.Perm (List.range radices.length)) (number : Nat) :
    transpose radices order number =
      encode radices (spread order (digits (reorder radices order) number) radices.length) := by
  have nodup : order.Nodup := permuted.nodup_iff.mpr List.nodup_range
  rw [transpose, sum_zipWith_idxOf nodup (by simp), spread, ← sum_range_weights]
  exact (permuted.map _).sum_eq

/-- Digits below reordered radices are below the radices of their axes. -/
theorem spread_within (permuted : order.Perm (List.range radices.length))
    (within : Within (reorder radices order) places) :
    Within radices (spread order places radices.length) := by
  obtain ⟨same, below⟩ := List.forall₂_iff_get.mp within
  refine List.forall₂_iff_get.mpr ⟨by simp [spread], fun axis first second => ?_⟩
  have listed : axis ∈ order := permuted.mem_iff.mpr (List.mem_range.mpr second)
  have place : order.idxOf axis < order.length := List.idxOf_lt_length_of_mem listed
  have inside : order.idxOf axis < places.length := by
    rw [same, length_reorder]
    exact place
  have bound := below (order.idxOf axis) inside (by simpa using place)
  simpa [spread, reorder, inside, second] using bound

/-- The product of the radices does not depend on the order of the axes. -/
theorem prod_reorder (permuted : order.Perm (List.range radices.length)) :
    (reorder radices order).prod = radices.prod := by
  rw [reorder, (permuted.map _).prod_eq, map_getD_range]

/-- Reordered radices are positive too. -/
theorem reorder_positive (positive : ∀ radix ∈ radices, 0 < radix) (order : List Nat) :
    ∀ radix ∈ reorder radices order, 0 < radix := by
  intro radix listed
  obtain ⟨axis, -, rfl⟩ := List.mem_map.mp listed
  rcases Nat.lt_or_ge axis radices.length with inside | beyond
  · simpa [inside] using positive _ (List.getElem_mem inside)
  · simp [beyond]

/-- Every transposed position is a position of the array. -/
theorem transpose_lt (permuted : order.Perm (List.range radices.length))
    (positive : ∀ radix ∈ radices, 0 < radix) (number : Nat) :
    transpose radices order number < radices.prod := by
  rw [transpose_eq_encode permuted]
  exact encode_lt (spread_within permuted (digits_within (reorder_positive positive order) number))

/-- Along each axis, a transposed position has the digit at the place of that axis. -/
theorem digit_transpose (permuted : order.Perm (List.range radices.length))
    (positive : ∀ radix ∈ radices, 0 < radix) (number : Nat) {place axis : Nat}
    (found : order[place]? = some axis) :
    transpose radices order number / (weights radices).getD axis 1 % radices.getD axis 1 =
      (digits (reorder radices order) number).getD place 0 := by
  have nodup : order.Nodup := permuted.nodup_iff.mpr List.nodup_range
  obtain ⟨inside, rfl⟩ := List.getElem?_eq_some_iff.mp found
  have axisInside : order[place] < radices.length :=
    List.mem_range.mp (permuted.mem_iff.mp (List.getElem_mem inside))
  have recovered : digits radices (transpose radices order number) =
      spread order (digits (reorder radices order) number) radices.length := by
    rw [transpose_eq_encode permuted]
    exact digits_encode
      (spread_within permuted (digits_within (reorder_positive positive order) number))
  -- Both sides are the digit at this axis.
  have at_axis := congrArg (fun places => places.getD order[place] 0) recovered
  simpa [digits, spread, axisInside, nodup.idxOf_getElem] using at_axis

/-- Transposing is a permutation of the positions. -/
theorem transpose_perm (permuted : order.Perm (List.range radices.length))
    (positive : ∀ radix ∈ radices, 0 < radix) :
    ((List.range radices.prod).map (transpose radices order)).Perm (List.range radices.prod) := by
  have injective : ∀ first ∈ List.range radices.prod, ∀ second ∈ List.range radices.prod,
      transpose radices order first = transpose radices order second → first = second := by
    intro first below second otherBelow same
    rw [List.mem_range, ← prod_reorder permuted] at below otherBelow
    -- Both numbers have the same digits.
    have equal : digits (reorder radices order) first = digits (reorder radices order) second := by
      refine List.ext_getElem (by simp) fun place inside otherInside => ?_
      rw [length_digits, length_reorder] at inside
      have found : order[place]? = some order[place] := List.getElem?_eq_getElem inside
      have digit := digit_transpose permuted positive first found
      rw [same, digit_transpose permuted positive second found] at digit
      simpa [inside] using digit.symm
    rw [digits_eq_decode below, digits_eq_decode otherBelow] at equal
    rw [← encode_decode below, equal, encode_decode otherBelow]
  have nodup : ((List.range radices.prod).map (transpose radices order)).Nodup :=
    List.nodup_range.map_on fun first below second otherBelow same =>
      injective first below second otherBelow same
  refine (List.subperm_of_subset nodup fun position listed => ?_).perm_of_length_le (by simp)
  obtain ⟨number, -, rfl⟩ := List.mem_map.mp listed
  exact List.mem_range.mpr (transpose_lt permuted positive number)

/-- The leading axes move a whole block, and the others move the offset within it. -/
theorem transpose_append (radices outer inner : List Nat) (block : Nat) {offset : Nat}
    (small : offset < (reorder radices inner).prod) :
    transpose radices (outer ++ inner) (block * (reorder radices inner).prod + offset) =
      transpose radices outer block + transpose radices inner offset := by
  rw [transpose, reorder_append, digits_append _ _ _ small,
    List.zipWith_append (by simp), List.sum_append]
  rfl

/-- Along the axes that move the offset, a transposed position has the digits of the offset. -/
theorem digits_transpose_inner {outer inner : List Nat}
    (permuted : (outer ++ inner).Perm (List.range radices.length))
    (positive : ∀ radix ∈ radices, 0 < radix) (block : Nat) {offset : Nat}
    (small : offset < (reorder radices inner).prod) :
    (inner.map fun axis =>
      transpose radices (outer ++ inner) (block * (reorder radices inner).prod + offset) /
        (weights radices).getD axis 1 % radices.getD axis 1) =
      digits (reorder radices inner) offset := by
  refine List.ext_getElem (by simp) fun place first second => ?_
  have inside : place < inner.length := by simpa using first
  have found : (outer ++ inner)[outer.length + place]? = some inner[place] := by
    rw [List.getElem?_append_right (Nat.le_add_right _ _), Nat.add_sub_cancel_left,
      List.getElem?_eq_getElem inside]
  -- The digits of the offset stand behind those of the block.
  have behind : (digits (reorder radices outer) block).length ≤ outer.length + place := by
    simp
  rw [List.getElem_map, digit_transpose permuted positive _ found, reorder_append,
    digits_append _ _ _ small, List.getD_eq_getElem?_getD, List.getElem?_append_right behind]
  simp [inside]

/-- Digits in an order of the axes are below the radices in this order. -/
theorem reorder_within (permuted : order.Perm (List.range radices.length))
    (within : Within radices places) :
    Within (reorder radices order) (order.map fun axis => places.getD axis 0) := by
  -- Axis by axis, the digit is below the radix.
  rw [reorder, Within, List.forall₂_map_left_iff, List.forall₂_map_right_iff]
  refine List.forall₂_same.mpr fun axis listed => ?_
  have inside : axis < radices.length := List.mem_range.mp (permuted.mem_iff.mp listed)
  obtain ⟨digit, found, below⟩ := exists_digit within (List.getElem?_eq_getElem inside)
  simpa [List.getD_eq_getElem?_getD, found, inside] using below

/-- Digits that were spread over the axes are found again in the order of the axes. -/
theorem map_spread (permuted : order.Perm (List.range radices.length))
    (count : places.length = order.length) :
    (order.map fun axis => (spread order places radices.length).getD axis 0) = places := by
  have nodup : order.Nodup := permuted.nodup_iff.mpr List.nodup_range
  apply List.ext_getElem
  · rw [List.length_map, count]
  intro place first second
  have inside : place < order.length := by omega
  have axis : order[place] < radices.length :=
    List.mem_range.mp (permuted.mem_iff.mp (List.getElem_mem inside))
  simp [spread, axis, nodup.idxOf_getElem, second]

/-- Every list of digits below reordered radices is the reordering of digits. -/
theorem exists_reordered (permuted : order.Perm (List.range radices.length))
    (within : Within (reorder radices order) places) :
    ∃ digits, Within radices digits ∧ (order.map fun axis => digits.getD axis 0) = places :=
  ⟨_, spread_within permuted within,
    map_spread permuted (within.length_eq.trans (length_reorder radices order))⟩

/-- Lists with an item for each axis are the same when they are in an order of the axes. -/
theorem map_getD_injective {count default : Nat} (permuted : order.Perm (List.range count))
    {first second : List Nat} (firstCount : first.length = count) (secondCount : second.length = count)
    (same : order.map (first.getD · default) = order.map (second.getD · default)) :
    first = second := by
  apply List.ext_getElem (by omega)
  intro axis below other
  -- Every axis is one of the order.
  have listed : axis ∈ order := permuted.mem_iff.mpr (List.mem_range.mpr (by omega))
  have item := List.map_inj_left.mp same axis listed
  simpa [below, other] using item

/-- An order that is looked up in another order is an order. -/
theorem perm_map_getD {count : Nat} {first second : List Nat}
    (firstPermuted : first.Perm (List.range count)) (secondPermuted : second.Perm (List.range count)) :
    (second.map (first.getD · 0)).Perm (List.range count) := by
  have length : first.length = count := by simpa using firstPermuted.length_eq
  -- All items of the first order are looked up, in some order.
  have all := secondPermuted.map (first.getD · 0)
  rw [← length, map_getD_range] at all
  exact all.trans firstPermuted

end Order

section Units

variable {size : Nat → Nat} {kept : Nat → Bool} {axes : List Nat}

/-- Axes with a single position leave the number of positions as it is. -/
theorem prod_filter_kept (unit : ∀ axis ∈ axes, kept axis = false → size axis = 1) :
    ((axes.filter kept).map size).prod = (axes.map size).prod := by
  induction axes with
  | nil => rfl
  | cons axis axes ih =>
    obtain ⟨here, unit⟩ := List.forall_mem_cons.mp unit
    cases keeps : kept axis with
    | true => rw [List.filter_cons_of_pos keeps, List.map_cons, List.map_cons, List.prod_cons,
        List.prod_cons, ih unit]
    | false =>
      rw [List.filter_cons_of_neg (by simp [keeps]), ih unit, List.map_cons, List.prod_cons,
        here keeps, Nat.one_mul]

/-- Axes with a single position leave numerals as they are. -/
theorem encode_filter_kept {coordinate : Nat → Nat}
    (unit : ∀ axis ∈ axes, kept axis = false → size axis = 1)
    (below : ∀ axis ∈ axes, coordinate axis < size axis) :
    encode ((axes.filter kept).map size) ((axes.filter kept).map coordinate) =
      encode (axes.map size) (axes.map coordinate) := by
  induction axes with
  | nil => rfl
  | cons axis axes ih =>
    obtain ⟨here, unit⟩ := List.forall_mem_cons.mp unit
    obtain ⟨first, below⟩ := List.forall_mem_cons.mp below
    cases keeps : kept axis with
    | true =>
      rw [List.filter_cons_of_pos keeps, List.map_cons, List.map_cons, List.map_cons,
        List.map_cons, encode, encode, ih unit below, prod_filter_kept unit]
    | false =>
      -- The only position is the first one, which adds nothing.
      have only := here keeps
      have zero : coordinate axis = 0 := by omega
      rw [List.filter_cons_of_neg (by simp [keeps]), ih unit below, List.map_cons, List.map_cons,
        encode, zero, Nat.zero_mul, Nat.zero_add]

/-- Lists of axes with the same ones of more than one position, in the same order, have the same
numerals. -/
theorem encode_eq_of_filter_eq {others : List Nat} {coordinate : Nat → Nat}
    (below : ∀ axis ∈ axes, coordinate axis < size axis)
    (otherBelow : ∀ axis ∈ others, coordinate axis < size axis)
    (same : axes.filter (size · != 1) = others.filter (size · != 1)) :
    encode (axes.map size) (axes.map coordinate) =
      encode (others.map size) (others.map coordinate) := by
  have unit (axis : Nat) (dropped : (size axis != 1) = false) : size axis = 1 := by
    simpa using dropped
  calc encode (axes.map size) (axes.map coordinate)
      = encode ((axes.filter (size · != 1)).map size)
          ((axes.filter (size · != 1)).map coordinate) :=
        (encode_filter_kept (fun axis _ => unit axis) below).symm
    _ = encode (others.map size) (others.map coordinate) := by
        rw [same]
        exact encode_filter_kept (fun axis _ => unit axis) otherBelow

end Units

end MixedRadix
