import Mathlib.Algebra.BigOperators.Ring.List
import Mathlib.Algebra.Ring.Nat
import Stablehlo.Reference.Tensor

/-! Iterators over index spaces, and the order in which they visit the indices of a shape. -/

namespace Stablehlo

/-- An iterator over the indices of a shape: the index it stands at, or none past the end. -/
structure IndexSpaceIterator where
  shape : Sizes
  index : Option Index
  deriving DecidableEq, Repr

/-- The iterator at the first index. -/
def Sizes.indexBegin (shape : Sizes) : IndexSpaceIterator :=
  if shape.any fun dimSize => dimSize == 0 then
    -- Without an index, the first iterator is past the end already.
    { shape, index := none }
  else
    { shape, index := some (List.replicate shape.length 0) }

/-- The index after an index, or none after the last. -/
def successor : Sizes → Index → Option Index
  | size :: shape, coordinate :: index =>
    match successor shape index with
    | some next => some (coordinate :: next)
    -- The coordinates behind start over, and this one goes up unless it does as well.
    | none =>
      if coordinate + 1 ≥ size then none
      else some ((coordinate + 1) :: List.replicate shape.length 0)
  | _, _ => none

namespace IndexSpaceIterator

/-- The index an iterator stands at. -/
def dereference (iterator : IndexSpaceIterator) : Except Failure Index :=
  match iterator.index with
  | none => .error (.fatalError "Dereferencing a past-the-end iterator.")
  | some index => .ok index

/-- The iterator at the next index. -/
def increment (iterator : IndexSpaceIterator) : Except Failure IndexSpaceIterator :=
  match iterator.index with
  | none => .error (.fatalError "Incrementing a past-the-end iterator.")
  | some index => .ok { iterator with index := successor iterator.shape index }

/-- The index an iterator stands at, and the iterator at the next index. -/
def postIncrement (iterator : IndexSpaceIterator) :
    Except Failure (Index × IndexSpaceIterator) := do
  -- The iterator is moved before the copy of it is read.
  let next ← iterator.increment
  let index ← iterator.dereference
  .ok (index, next)

/-- The indices a loop visits up to the end, when it takes at most as many turns. -/
def visited : Nat → IndexSpaceIterator → List Index
  | 0, _ => []
  | turns + 1, iterator =>
    match iterator.index with
    | none => []
    | some index =>
      index :: visited turns { iterator with index := successor iterator.shape index }

/-- The iterator at the place in the index space. -/
def place (shape : Sizes) (number : Nat) : IndexSpaceIterator :=
  { shape, index := (indexSpace shape)[number]? }

end IndexSpaceIterator

attribute [local simp] successor

/-- The digits of zero are zeros. -/
theorem decode_zero (shape : Sizes) :
    MixedRadix.decode shape 0 = List.replicate shape.length 0 := by
  induction shape with
  | nil => rfl
  | cons size shape ih =>
    rw [MixedRadix.decode, Nat.zero_div, Nat.zero_mod, ih, List.length_cons, List.replicate_succ]

/-- The index after the one at some place is at the next place. -/
theorem successor_decode {shape : Sizes} {number : Nat} (below : number < shape.prod) :
    successor shape (MixedRadix.decode shape number) =
      if number + 1 < shape.prod then some (MixedRadix.decode shape (number + 1)) else none := by
  induction shape generalizing number with
  | nil =>
    rw [List.prod_nil] at below
    rw [if_neg (by rw [List.prod_nil]; omega)]
    rfl
  | cons size shape ih =>
    rw [List.prod_cons] at below ⊢
    have positive : 0 < shape.prod := Nat.pos_of_ne_zero fun zero => by simp [zero] at below
    have digit : number / shape.prod < size := (Nat.div_lt_iff_lt_mul positive).mpr below
    have remainder := Nat.mod_lt number positive
    have whole := Nat.div_add_mod number shape.prod
    simp only [MixedRadix.decode, successor, ih remainder]
    by_cases room : number % shape.prod + 1 < shape.prod
    · -- The coordinates behind have a next index.
      have quotient : (number + 1) / shape.prod = number / shape.prod :=
        Nat.div_eq_of_lt_le (by rw [Nat.mul_comm]; omega)
          (by rw [Nat.succ_mul, Nat.mul_comm]; omega)
      have rest : (number + 1) % shape.prod = number % shape.prod + 1 := by
        rw [Nat.add_mod, Nat.mod_eq_of_lt (show 1 < shape.prod by omega), Nat.mod_eq_of_lt room]
      have bound : number + 1 < size * shape.prod := by
        rw [← Nat.div_lt_iff_lt_mul positive, quotient]
        exact digit
      simp only [if_pos room, if_pos bound, quotient, rest]
    · -- They start over, and the coordinate before them goes up.
      have last : number + 1 = (number / shape.prod + 1) * shape.prod := by
        rw [Nat.succ_mul, Nat.mul_comm]
        omega
      have quotient : (number + 1) / shape.prod = number / shape.prod + 1 := by
        rw [last, Nat.mul_div_cancel _ positive]
      have rest : (number + 1) % shape.prod = 0 := by rw [last, Nat.mul_mod_left]
      simp only [if_neg room, quotient, rest, decode_zero]
      by_cases more : number / shape.prod + 1 < size
      · have bound : number + 1 < size * shape.prod := by
          rw [← Nat.div_lt_iff_lt_mul positive, quotient]
          exact more
        rw [if_pos bound, if_neg (by omega)]
      · have bound : ¬ number + 1 < size * shape.prod := by
          rw [← Nat.div_lt_iff_lt_mul positive, quotient]
          exact more
        rw [if_neg bound, if_pos (by omega)]

/-- The next index has a coordinate for each dimension. -/
theorem length_successor {shape : Sizes} {index next : Index}
    (same : index.length = shape.length) (found : successor shape index = some next) :
    next.length = shape.length := by
  induction shape generalizing index next with
  | nil => cases found
  | cons size shape ih =>
    cases index with
    | nil => cases found
    | cons coordinate index =>
      rw [successor] at found
      split at found
      · next rest behind =>
        cases found
        exact congrArg Nat.succ (ih (by simpa using same) behind)
      · split at found
        · cases found
        · cases found
          rw [List.length_cons, List.length_replicate, List.length_cons]

/-- The last coordinate goes up, or starts over with the next index of those before it. -/
theorem successor_snoc {shape : Sizes} {index : Index} (same : index.length = shape.length)
    (size coordinate : Nat) :
    successor (shape ++ [size]) (index ++ [coordinate]) =
      if coordinate + 1 < size then some (index ++ [coordinate + 1])
      else (successor shape index).map (· ++ [0]) := by
  -- The last coordinate decides whether the ones before it change at all.
  induction shape generalizing index with
  | nil =>
    rw [List.length_nil, List.length_eq_zero_iff] at same
    rw [same]
    by_cases more : coordinate + 1 < size
    · simp [successor, more]
    · simp [successor, more, not_lt.mp more]
  | cons first shape ih =>
    cases index with
    | nil => cases same
    | cons head index =>
      rw [List.cons_append, List.cons_append, successor, ih (by simpa using same)]
      by_cases more : coordinate + 1 < size
      · rw [if_pos more, if_pos more]
        rfl
      · rw [if_neg more, if_neg more, successor]
        cases successor shape index with
        | some next => rfl
        | none =>
          -- All coordinates behind the first one start over.
          have zeros : List.replicate (shape ++ [size]).length 0 =
              List.replicate shape.length 0 ++ [0] := by
            rw [List.length_append, List.length_singleton, List.replicate_succ']
          simp only [Option.map_none, zeros]
          split <;> rfl

/-- A loop over the index space from some place on has the index of the place first. -/
theorem indexSpace_drop {shape : Sizes} {number : Nat} (below : number < shape.prod) :
    (indexSpace shape).drop number =
      MixedRadix.decode shape number :: (indexSpace shape).drop (number + 1) := by
  have length : number < (indexSpace shape).length := by
    rw [indexSpace, MixedRadix.length_all]
    exact below
  have current : (indexSpace shape)[number]? = some (MixedRadix.decode shape number) :=
    MixedRadix.getElem?_all below
  rw [List.getElem?_eq_getElem length, Option.some.injEq] at current
  rw [List.drop_eq_getElem_cons length, current]

/-- One more index of the index space comes after those before it. -/
theorem indexSpace_take {shape : Sizes} {number : Nat} (below : number < shape.prod) :
    (indexSpace shape).take (number + 1) =
      (indexSpace shape).take number ++ [MixedRadix.decode shape number] := by
  rw [List.take_add_one, show (indexSpace shape)[number]? = _ from MixedRadix.getElem?_all below]
  rfl

namespace IndexSpaceIterator

variable {shape : Sizes} {number : Nat}

/-- The index at a place of the index space is that of its number. -/
theorem place_of_lt (below : number < shape.prod) :
    place shape number = { shape, index := some (MixedRadix.decode shape number) } := by
  rw [place, indexSpace, MixedRadix.getElem?_all below]

/-- Behind the index space, an iterator is past the end. -/
theorem place_of_ge (beyond : shape.prod ≤ number) :
    place shape number = { shape, index := none } := by
  rw [place, indexSpace, List.getElem?_eq_none (by rw [MixedRadix.length_all]; exact beyond)]

/-- A shape without indices is one with a size of zero. -/
theorem any_eq_zero_iff (shape : Sizes) :
    (shape.any fun dimSize => dimSize == 0) = true ↔ shape.prod = 0 := by
  have zero : shape.prod = 0 ↔ 0 ∈ shape := List.prod_eq_zero_iff
  rw [zero, List.any_eq_true]
  simp

/-- The first iterator is at the first place. -/
theorem indexBegin_eq (shape : Sizes) : shape.indexBegin = place shape 0 := by
  rcases Nat.eq_zero_or_pos shape.prod with empty | positive
  · rw [Sizes.indexBegin, if_pos ((any_eq_zero_iff shape).mpr empty), place_of_ge (by omega)]
  · have nonzero : ¬ (shape.any fun dimSize => dimSize == 0) = true := by
      rw [any_eq_zero_iff]
      omega
    rw [Sizes.indexBegin, if_neg nonzero, place_of_lt positive, decode_zero]

/-- Iterators go through the places one after the other. -/
theorem successor_place (below : number < shape.prod) :
    { shape, index := successor shape (MixedRadix.decode shape number) } =
      place shape (number + 1) := by
  rw [successor_decode below]
  by_cases more : number + 1 < shape.prod
  · rw [if_pos more, place_of_lt more]
  · rw [if_neg more, place_of_ge (by omega)]

/-- An iterator in the index space hands out its index and moves on. -/
theorem postIncrement_place (below : number < shape.prod) :
    (place shape number).postIncrement =
      .ok (MixedRadix.decode shape number, place shape (number + 1)) := by
  rw [← successor_place below, place_of_lt below]
  rfl

/-- From any place, a loop visits the rest of the index space. -/
theorem visited_place {turns : Nat} (enough : shape.prod ≤ number + turns) :
    (place shape number).visited turns = (indexSpace shape).drop number := by
  have length : (indexSpace shape).length = shape.prod := MixedRadix.length_all shape
  induction turns generalizing number with
  | zero =>
    rw [List.drop_eq_nil_of_le (by omega)]
    rfl
  | succ turns ih =>
    rcases Nat.lt_or_ge number shape.prod with below | beyond
    · have next := @ih (number + 1) (by omega)
      rw [place_of_lt below, visited]
      dsimp only
      rw [successor_place below, next, indexSpace_drop below]
    · rw [place_of_ge beyond, List.drop_eq_nil_of_le (by omega)]
      rfl

/-- A loop from the first iterator to the end visits the index space in its order. -/
theorem visited_indexBegin (shape : Sizes) :
    shape.indexBegin.visited shape.prod = indexSpace shape := by
  rw [indexBegin_eq, visited_place (by omega), List.drop_zero]

end IndexSpaceIterator

end Stablehlo
