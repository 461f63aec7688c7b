import Stablehlo.Reference.Concatenate
import Stablehlo.Reference.ElementOperations
import Stablehlo.Reference.Reshape
import Stablehlo.Reference.StridedSlice

/-! Tensors with one dimension, and operations on the elements of tensors in order. -/

namespace Stablehlo.Tensor

variable {α β : Type}

/-- The tensor with one dimension that has the elements. -/
def vector (elements : List α) : Tensor α :=
  ⟨[elements.length], elements, by rw [List.prod_cons, List.prod_nil, Nat.mul_one]⟩

/-- A tensor with one dimension is the one that has its elements. -/
theorem eq_vector {tensor : Tensor α} {size : Nat} (shape : tensor.shape = [size]) :
    tensor = vector tensor.data := by
  obtain ⟨own, data, complete⟩ := tensor
  dsimp only at shape
  subst shape
  rw [List.prod_cons, List.prod_nil, Nat.mul_one] at complete
  subst complete
  rfl

/-- A tensor without dimensions has a single element. -/
theorem exists_constant {tensor : Tensor α} (shape : tensor.shape = []) :
    ∃ value, tensor = constant value := by
  obtain ⟨own, data, complete⟩ := tensor
  dsimp only at shape
  subst shape
  obtain ⟨value, rfl⟩ := List.length_eq_one_iff.mp complete
  exact ⟨value, rfl⟩

/-- The element at an index is the one at its place in order. -/
theorem get_eq_ok_iff {tensor : Tensor α} {index : Index}
    (within : MixedRadix.Within tensor.shape index) {value : α} :
    tensor.get index = .ok value ↔
      tensor.data[MixedRadix.encode tensor.shape index]? = some value := by
  obtain ⟨element, got, stored⟩ := get_eq within
  rw [got, stored, Except.ok.injEq, Option.some.injEq]

/-- The element of a tensor with one dimension. -/
theorem get_vector {elements : List α} {i : Nat} {value : α}
    (found : elements[i]? = some value) : (vector elements).get [i] = .ok value := by
  obtain ⟨below, _⟩ := List.getElem?_eq_some_iff.mp found
  refine (get_eq_ok_iff (.cons below .nil)).mpr ?_
  show elements[i * 1 + 0]? = _
  rw [Nat.mul_one, Nat.add_zero, found]

/-- Tensors that are combined element by element have their elements combined in order. -/
theorem zipOp_eq {combine : α → α → β} {lhs rhs : Tensor α} (same : lhs.shape = rhs.shape) :
    zipOp (fun left right => .ok (combine left right)) lhs rhs lhs.shape =
      .ok ⟨lhs.shape, List.zipWith combine lhs.data rhs.data, by
        rw [List.length_zipWith, lhs.complete, rhs.complete, same, Nat.min_self]⟩ := by
  refine build_eq_ok_iff.mpr ⟨rfl, fun index within => ?_⟩
  obtain ⟨left, leftGot, leftStored⟩ := get_eq within
  obtain ⟨right, rightGot, rightStored⟩ := get_eq (same ▸ within)
  rw [leftGot, rightGot]
  rw [← same] at rightStored
  refine ((@get_eq_ok_iff β ⟨lhs.shape, List.zipWith combine lhs.data rhs.data, _⟩ index within
    _).mpr ?_).symm
  exact List.getElem?_zipWith_eq_some.mpr ⟨left, right, leftStored, rightStored, rfl⟩

/-- A tensor whose elements are computed one by one has them in order. -/
theorem mapOp_eq (compute : α → β) (operand : Tensor α) :
    mapOp (fun element => .ok (compute element)) operand operand.shape =
      .ok (operand.map compute) := by
  refine build_eq_ok_iff.mpr ⟨rfl, fun index within => ?_⟩
  obtain ⟨element, got, -⟩ := get_eq within
  rw [get_map, got]
  rfl

/-- An element of lists in a row is one of the list that it falls in. -/
theorem exists_split {lists : List (List α)} {i : Nat} (below : i < lists.flatten.length) :
    ∃ front list back, lists = front ++ list :: back ∧ front.flatten.length ≤ i ∧
      i < front.flatten.length + list.length ∧
        lists.flatten[i]? = list[i - front.flatten.length]? := by
  induction lists generalizing i with
  | nil => exact absurd below (Nat.not_lt_zero i)
  | cons first lists ih =>
    rcases Nat.lt_or_ge i first.length with here | later
    · refine ⟨[], first, lists, rfl, Nat.zero_le _, by simpa using here, ?_⟩
      rw [List.flatten_cons, List.getElem?_append_left here]
      rfl
    · rw [List.flatten_cons, List.length_append] at below
      obtain ⟨front, list, back, same, low, high, found⟩ := ih (show i - first.length < _ by omega)
      refine ⟨first :: front, list, back, by rw [same]; rfl, ?_, ?_, ?_⟩
      · rw [List.flatten_cons, List.length_append]
        omega
      · rw [List.flatten_cons, List.length_append]
        omega
      · rw [List.flatten_cons, List.getElem?_append_right later, found, List.flatten_cons,
          List.length_append, Nat.sub_sub]

/-- Tensors with one dimension, put one after the other, have their elements in a row. -/
theorem concatenateOp_vectors (content : α) (lists : List (List α)) :
    concatenateOp content (lists.map vector) 0 [lists.flatten.length] =
      .ok (vector lists.flatten) := by
  have extent : ∀ lists : List (List α),
      extentAlong 0 (lists.map vector) = lists.flatten.length := by
    intro lists
    induction lists with
    | nil => rfl
    | cons first lists ih =>
      rw [List.map_cons, extentAlong_cons, ih, List.flatten_cons, List.length_append]
      rfl
  have alike : Alike [lists.flatten.length] 0 (lists.map vector) := by
    intro input listed
    obtain ⟨list, -, rfl⟩ := List.mem_map.mp listed
    exact ⟨list.length, rfl⟩
  obtain ⟨result, concatenated, shape, elements, -⟩ :=
    concatenateOp_spec content rfl alike (Nat.le_of_eq (extent lists))
  rw [concatenated]
  congr 1
  refine ext_get shape fun index within => ?_
  rw [shape] at within
  obtain ⟨i, rfl⟩ : ∃ i, index = [i] := by
    cases within with
    | cons _ rest =>
      cases rest
      exact ⟨_, rfl⟩
  cases within with
  | cons below _ =>
    obtain ⟨front, list, back, split, low, high, found⟩ := exists_split below
    have inside : i - front.flatten.length < list.length := by omega
    have here := List.getElem?_eq_getElem inside
    rw [here] at found
    have there := elements (front.map vector) (vector list) (back.map vector)
      (by rw [split, List.map_append, List.map_cons]) [i] i (.cons below .nil) rfl
      (by rwa [extent]) (by rwa [extent])
    rw [there, extent, get_vector found]
    exact get_vector here

/-- A scalar becomes the only element of a tensor with one dimension. -/
theorem reshapeOp_constant (value : α) :
    (constant value).reshapeOp [1] = .ok (vector [value]) :=
  @reshapeOp_eq α (constant value) [1] rfl

/-- A slice at a single index that is made a scalar is the element there. -/
theorem sliceOp_element {operand : Tensor α} {index : Index} {value : α}
    (got : operand.get index = .ok value) :
    ∃ slice, operand.sliceOp (index.map Nat.cast) (index.map fun (i : Nat) => (i + 1 : Int))
        (List.replicate index.length 1) = .ok slice ∧
      slice.reshapeOp [] = .ok (constant value) := by
  have within := within_of_get got
  -- There is a single position in each dimension of the slice.
  have inferred : inferSliceShape operand.shape (index.map Nat.cast)
      (index.map fun (i : Nat) => (i + 1 : Int)) (List.replicate index.length 1) =
        some (List.replicate index.length 1) := by
    clear got
    generalize operand.shape = shape at within
    induction within with
    | nil => rfl
    | @cons i size index shape below _ ih =>
      refine inferSliceShape_cons.mpr ⟨1, _, rfl, ?_, ih⟩
      show inferSliceDim size (i : Int) ((i : Int) + 1) 1 = some 1
      rw [inferSliceDim, if_neg (by omega)]
      congr 1
      omega
  have origin : MixedRadix.Within (List.replicate index.length 1)
      (List.replicate index.length 0) := by
    clear got within inferred
    induction index with
    | nil => exact .nil
    | cons _ index ih => exact .cons Nat.one_pos ih
  have place : index.map (Nat.cast : Nat → Int) =
      List.zipWith (fun (start step : Int) => start + step) (index.map Nat.cast)
        (List.zipWith (fun (coordinate : Nat) (stride : Int) => coordinate * stride)
          (List.replicate index.length 0) (List.replicate index.length 1)) := by
    clear got within inferred origin
    induction index with
    | nil => rfl
    | cons i index ih =>
      rw [List.map_cons, List.length_cons, List.replicate_succ, List.replicate_succ,
        List.zipWith_cons_cons, List.zipWith_cons_cons, ← ih]
      simp
  obtain ⟨slice, sliced, shape, elements⟩ := sliceOp_spec inferred
  have count : slice.shape.prod = [].prod := by
    rw [shape, List.prod_replicate, Nat.one_pow]
    rfl
  refine ⟨slice, sliced, ?_⟩
  have reshaped := reshapeOp_eq slice count
  rw [reshaped]
  congr 1
  refine ext_get rfl fun empty inside => ?_
  cases inside
  have same := get_reshapeOp count reshaped .nil (shape ▸ origin) (by
    rw [shape]
    have below := MixedRadix.encode_lt origin
    rw [List.prod_replicate, Nat.one_pow] at below
    show _ = 0
    omega)
  rw [same, elements _ origin index place, got]
  rfl

end Stablehlo.Tensor
