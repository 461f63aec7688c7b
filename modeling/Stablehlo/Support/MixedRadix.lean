import Mathlib.Algebra.BigOperators.Group.List.Basic
import Mathlib.Algebra.GroupWithZero.Nat
import Mathlib.Algebra.Order.BigOperators.Group.List
import Mathlib.Data.List.Forall2
import Mathlib.Data.List.Nodup

/-! Mixed radix numerals: digit lists, the most significant digit first, and their values. -/

namespace MixedRadix

/-- One digit below each radix. -/
abbrev Within (radices digits : List Nat) : Prop := List.Forall₂ (· < ·) digits radices

/-- The number a digit list stands for. -/
def encode : List Nat → List Nat → Nat
  | _ :: radices, digit :: digits => digit * radices.prod + encode radices digits
  | _, _ => 0

/-- The digits of a number. -/
def decode : List Nat → Nat → List Nat
  | [], _ => []
  | _ :: radices, number => number / radices.prod :: decode radices (number % radices.prod)

/-- What one unit of each digit is worth. -/
def weights : List Nat → List Nat
  | [] => []
  | _ :: radices => radices.prod :: weights radices

/-- All digit lists, in lexicographic order. -/
def all : List Nat → List (List Nat)
  | [] => [[]]
  | radix :: radices => (List.range radix).flatMap fun digit => (all radices).map (digit :: ·)

/-- Digits within their radices stand for a number below the product. -/
theorem encode_lt {radices digits : List Nat} (within : Within radices digits) :
    encode radices digits < radices.prod := by
  induction within with
  | nil => simp [encode]
  | @cons digit radix digits radices below _ ih =>
    -- The leading digit leaves room for one more block of the remaining radices.
    simp only [encode, List.prod_cons]
    calc digit * radices.prod + encode radices digits
        < (digit + 1) * radices.prod := by rw [Nat.succ_mul]; omega
      _ ≤ radix * radices.prod := Nat.mul_le_mul_right _ below

/-- There is one weight for each radix. -/
@[simp] theorem length_weights (radices : List Nat) :
    (weights radices).length = radices.length := by
  induction radices with
  | nil => rfl
  | cons radix radices ih => rw [weights, List.length_cons, List.length_cons, ih]

/-- Further minor digits make the weights of the digits before them larger. -/
theorem weights_append (first second : List Nat) :
    weights (first ++ second) = (weights first).map (· * second.prod) ++ weights second := by
  induction first with
  | nil => rfl
  | cons radix first ih =>
    simp only [List.cons_append, weights, List.map_cons, List.prod_append, ih]

/-- A numeral stands for the sum of its digits by their weights. -/
theorem sum_weights {radices digits : List Nat} (within : Within radices digits) :
    (List.zipWith (· * ·) (weights radices) digits).sum = encode radices digits := by
  induction within with
  | nil => rfl
  | @cons digit radix digits radices _ _ ih =>
    simp only [weights, List.zipWith_cons_cons, List.sum_cons, encode, ih]
    rw [Nat.mul_comm]

/-- A number below the product has its digits within the radices. -/
theorem decode_within {radices : List Nat} {number : Nat} (below : number < radices.prod) :
    Within radices (decode radices number) := by
  induction radices generalizing number with
  | nil => exact List.Forall₂.nil
  | cons radix radices ih =>
    rw [List.prod_cons] at below
    have positive : 0 < radices.prod := Nat.pos_of_ne_zero fun zero => by simp [zero] at below
    exact .cons ((Nat.div_lt_iff_lt_mul positive).mpr below) (ih (Nat.mod_lt _ positive))

/-- The digits of a number below the product stand for it. -/
theorem encode_decode {radices : List Nat} {number : Nat} (below : number < radices.prod) :
    encode radices (decode radices number) = number := by
  induction radices generalizing number with
  | nil =>
    rw [List.prod_nil, Nat.lt_one_iff] at below
    exact below.symm
  | cons radix radices ih =>
    rw [List.prod_cons] at below
    have positive : 0 < radices.prod := Nat.pos_of_ne_zero fun zero => by simp [zero] at below
    rw [decode, encode, ih (Nat.mod_lt _ positive)]
    exact Nat.div_add_mod' number radices.prod

/-- Digits within their radices are the digits of their number. -/
theorem decode_encode {radices digits : List Nat} (within : Within radices digits) :
    decode radices (encode radices digits) = digits := by
  induction within with
  | nil => rfl
  | @cons digit radix digits radices _ rest ih =>
    -- The remaining digits stand for less than one unit of the leading digit.
    have small := encode_lt rest
    have positive : 0 < radices.prod := by omega
    rw [encode, decode, Nat.mul_comm, Nat.mul_add_div positive, Nat.div_eq_of_lt small,
      Nat.mul_add_mod, Nat.mod_eq_of_lt small, ih, Nat.add_zero]

/-- Digit lists within the same radices are equal when their numbers are. -/
theorem encode_injective {radices digits others : List Nat} (within : Within radices digits)
    (otherWithin : Within radices others) (same : encode radices digits = encode radices others) :
    digits = others := by
  rw [← decode_encode within, same, decode_encode otherWithin]

/-- The enumeration lists exactly the digit lists within the radices. -/
theorem mem_all {radices digits : List Nat} : digits ∈ all radices ↔ Within radices digits := by
  induction radices generalizing digits with
  | nil => cases digits <;> simp [all]
  | cons radix radices ih => cases digits <;> simp [all, ih]

/-- Counting through a product of two factors counts through the second factor again and again. -/
theorem range_mul (first second : Nat) :
    List.range (first * second) =
      (List.range first).flatMap fun block => (List.range second).map (block * second + ·) := by
  induction first with
  | zero => simp
  | succ first ih =>
    rw [Nat.succ_mul, List.range_add, ih, List.range_succ, List.flatMap_append]
    simp

/-- Blocks of equal size, one after the other, are numbered through. -/
theorem flatten_blocks {α : Type} (count size : Nat) (item : Nat → α) :
    ((List.range count).map fun block =>
        (List.range size).map fun offset => item (block * size + offset)).flatten =
      (List.range (count * size)).map item := by
  rw [range_mul, List.map_flatMap, List.flatMap_def]
  simp only [List.map_map]
  rfl

/-- The enumeration lists the numbers below the product in their order. -/
theorem map_encode_all (radices : List Nat) :
    (all radices).map (encode radices) = List.range radices.prod := by
  induction radices with
  | nil => rfl
  | cons radix radices ih =>
    -- Each leading digit shifts the numbers of the remaining digits by one more block.
    rw [List.prod_cons, range_mul, ← ih, all, List.map_flatMap]
    simp only [List.map_map]
    rfl

/-- There are as many digit lists as the product of the radices. -/
@[simp] theorem length_all (radices : List Nat) : (all radices).length = radices.prod := by
  rw [← List.length_map (encode radices), map_encode_all, List.length_range]

/-- The digit list at each place of the enumeration is that of the place's number. -/
theorem getElem?_all {radices : List Nat} {number : Nat} (below : number < radices.prod) :
    (all radices)[number]? = some (decode radices number) := by
  have short : number < (all radices).length := by rw [length_all]; exact below
  rw [List.getElem?_eq_getElem short]
  -- The entry stands for the number of its place, so it consists of that number's digits.
  have place : encode radices (all radices)[number] = number := by
    have mapped : ((all radices).map (encode radices))[number]? = some number := by
      rw [map_encode_all, List.getElem?_range below]
    simpa [List.getElem?_eq_getElem short] using mapped
  have within : Within radices (all radices)[number] := mem_all.mp (List.getElem_mem short)
  rw [← decode_encode within, place]

/-- Each digit list is there once. -/
theorem nodup_all (radices : List Nat) : (all radices).Nodup := by
  refine List.Nodup.of_map (encode radices) ?_
  rw [map_encode_all]
  exact List.nodup_range

/-- The enumeration is in lexicographic order. -/
theorem pairwise_all (radices : List Nat) : (all radices).Pairwise (· < ·) := by
  induction radices with
  | nil => exact List.pairwise_singleton _ _
  | cons radix radices ih =>
    rw [all, List.pairwise_flatMap]
    constructor
    · -- Behind the same leading digit, the remaining digits are in order.
      intro digit _
      rw [List.pairwise_map]
      exact ih.imp fun less => List.Lex.cons less
    · refine List.pairwise_lt_range.imp ?_
      intro digit other less first firstListed second secondListed
      obtain ⟨digits, -, rfl⟩ := List.mem_map.mp firstListed
      obtain ⟨others, -, rfl⟩ := List.mem_map.mp secondListed
      exact List.Lex.rel less

/-- The digits of two parts are enumerated part by part. -/
theorem all_append (first second : List Nat) :
    all (first ++ second) = (all first).flatMap fun digits => (all second).map (digits ++ ·) := by
  induction first with
  | nil => simp [all]
  | cons radix first ih =>
    rw [List.cons_append, all, ih, all, List.flatMap_assoc]
    refine List.flatMap_congr fun digit _ => ?_
    rw [List.map_flatMap, List.flatMap_map]
    refine List.flatMap_congr fun digits _ => ?_
    rw [List.map_map]
    rfl

/-- Digits that begin in one way are enumerated like the rest of them. -/
theorem filter_take_all {first second digits : List Nat} (within : Within first digits) :
    ((all (first ++ second)).filter fun together => decide (together.take first.length = digits)) =
      (all second).map (digits ++ ·) := by
  rw [all_append, List.filter_flatMap]
  -- Only one of the first parts is the one that is wanted.
  have parts : ∀ front ∈ all first, ((all second).map (front ++ ·)).filter
      (fun together => decide (together.take first.length = digits)) =
        if front = digits then (all second).map (digits ++ ·) else [] := by
    intro front listed
    have long : front.length = first.length := (mem_all.1 listed).length_eq
    split
    · next same =>
      subst same
      refine List.filter_eq_self.2 fun together member => ?_
      obtain ⟨back, -, rfl⟩ := List.mem_map.1 member
      rw [← long, List.take_left, decide_eq_true_eq]
    · next other =>
      refine List.filter_eq_nil_iff.2 fun together member => ?_
      obtain ⟨back, -, rfl⟩ := List.mem_map.1 member
      rw [← long, List.take_left, decide_eq_true_eq]
      exact other
  rw [List.flatMap_congr parts]
  have once := nodup_all first
  have member := mem_all.2 within
  generalize all first = fronts at once member
  clear parts
  induction fronts with
  | nil => cases member
  | cons front fronts ih =>
    obtain ⟨fresh, once⟩ := List.nodup_cons.1 once
    rw [List.flatMap_cons]
    by_cases here : front = digits
    · subst here
      have others : ∀ other ∈ fronts,
          (if other = front then (all second).map (front ++ ·) else []) = [] := by
        intro other listed
        refine if_neg ?_
        rintro rfl
        exact fresh listed
      rw [if_pos rfl, List.flatMap_congr others]
      simp
    · rcases List.mem_cons.1 member with same | later
      · exact absurd same.symm here
      · rw [if_neg here, List.nil_append, ih once later]

/-- A digit may be replaced by another one below its radix. -/
theorem within_set {radices digits : List Nat} (within : Within radices digits)
    {place radix digit : Nat} (found : radices[place]? = some radix) (below : digit < radix) :
    Within radices (digits.set place digit) := by
  induction within generalizing place with
  | nil => cases found
  | @cons first bound digits radices small rest ih =>
    cases place with
    | zero =>
      cases found
      exact .cons below rest
    | succ place => exact .cons small (ih found)

/-- A radix may be replaced, together with its digit. -/
theorem within_set_set {radices digits : List Nat} (within : Within radices digits) (place : Nat)
    {radix digit : Nat} (below : digit < radix) :
    Within (radices.set place radix) (digits.set place digit) := by
  induction within generalizing place with
  | nil => exact .nil
  | cons small rest ih =>
    cases place with
    | zero => exact .cons below rest
    | succ place => exact .cons small (ih place)

/-- Every radix has its digit. -/
theorem exists_digit {radices digits : List Nat} (within : Within radices digits)
    {place radix : Nat} (found : radices[place]? = some radix) :
    ∃ digit, digits[place]? = some digit ∧ digit < radix := by
  induction within generalizing place with
  | nil => cases found
  | @cons first bound digits radices small rest ih =>
    cases place with
    | zero =>
      cases found
      exact ⟨first, rfl, small⟩
    | succ place => exact ih found

/-- Every digit is below the radix at its place. -/
theorem getD_lt {radices digits : List Nat} (within : Within radices digits) {place : Nat}
    (inside : place < radices.length) : digits.getD place 0 < radices.getD place 1 := by
  obtain ⟨digit, found, below⟩ := exists_digit within (List.getElem?_eq_getElem inside)
  simpa [List.getD_eq_getElem?_getD, found, inside] using below

/-- All items of a list, place by place. -/
theorem map_getD_range (items : List Nat) (default : Nat) :
    (List.range items.length).map (items.getD · default) = items := by
  apply List.ext_getElem (by simp)
  intro place below inside
  simp [inside]

/-- There are digits for radices all of which leave room for one. -/
theorem exists_within_iff {radices : List Nat} :
    (∃ digits, Within radices digits) ↔ 0 ∉ radices := by
  constructor
  · rintro ⟨digits, within⟩ empty
    obtain ⟨place, found⟩ := List.getElem?_of_mem empty
    obtain ⟨digit, -, below⟩ := exists_digit within found
    exact absurd below (Nat.not_lt_zero digit)
  · intro positive
    refine ⟨radices.map fun _ => 0, ?_⟩
    rw [Within, List.forall₂_map_left_iff]
    -- Each digit may be zero.
    refine List.forall₂_same.mpr fun radix listed => Nat.pos_of_ne_zero ?_
    rintro rfl
    exact positive listed

end MixedRadix
