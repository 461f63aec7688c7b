import Mathlib.Data.List.Nodup
import Mathlib.Data.List.Range

/-! Coordinates that are spread over some of the axes of an index. -/

namespace AxisMap

variable {α : Type}

/-- The axes below the rank that are not listed, in order. -/
def rest (axes : List Nat) (rank : Nat) : List Nat :=
  (List.range rank).filter fun axis => !axes.contains axis

/-- The coordinate of an axis: the value at its place among the axes, or the default. -/
def placed (axes : List Nat) (values : List α) (default : α) (axis : Nat) : α :=
  match axes.idxOf? axis with
  | some place => values.getD place default
  | none => default

/-- Spread values over the axes that are not skipped, in order. -/
def spread (skipped : List Nat) (default : α) : List Nat → List α → Option (List α)
  | [], _ => some []
  | axis :: axes, values =>
    if skipped.contains axis then
      (spread skipped default axes values).map (default :: ·)
    else
      match values with
      | [] => none
      | value :: values => (spread skipped default axes values).map (value :: ·)

/-- Set the coordinates of some axes, one after the other. -/
def assign : List α → List Nat → List α → List α
  | index, axis :: axes, value :: values => assign (index.set axis value) axes values
  | index, _, _ => index

attribute [local simp] assign

/-- An axis is listed at its place. -/
theorem idxOf?_eq_some {axes : List Nat} {axis place : Nat}
    (found : axes.idxOf? axis = some place) : axes[place]? = some axis := by
  -- The search stops at an axis that equals the one it is for.
  rw [List.idxOf?, List.findIdx?_eq_some_iff_getElem] at found
  obtain ⟨below, same, -⟩ := found
  rw [List.getElem?_eq_getElem below, eq_of_beq same]

/-- Distinct axes are found where they are listed. -/
theorem idxOf?_of_getElem? {axes : List Nat} (unique : axes.Nodup) {axis place : Nat}
    (listed : axes[place]? = some axis) : axes.idxOf? axis = some place := by
  obtain ⟨below, same⟩ := List.getElem?_eq_some_iff.mp listed
  rw [List.idxOf?, List.findIdx?_eq_some_iff_getElem]
  refine ⟨below, by simp [same], fun earlier before => ?_⟩
  -- An earlier place of the same axis would be a second one.
  simp only [beq_iff_eq]
  intro again
  have places := (List.Nodup.getElem_inj_iff unique).mp (again.trans same.symm)
  omega

/-- An axis that is not listed has no place. -/
theorem idxOf?_eq_none {axes : List Nat} {axis : Nat} (missing : axis ∉ axes) :
    axes.idxOf? axis = none := by
  rw [List.idxOf?, List.findIdx?_eq_none_iff]
  intro other listed
  rw [beq_eq_false_iff_ne]
  rintro rfl
  exact missing listed

/-- Every listed axis has a place. -/
theorem exists_place {axes : List Nat} {axis : Nat} (listed : axis ∈ axes) :
    ∃ place, axes.idxOf? axis = some place ∧ axes[place]? = some axis := by
  cases found : axes.idxOf? axis with
  | some place => exact ⟨place, rfl, idxOf?_eq_some found⟩
  | none =>
    rw [List.idxOf?, List.findIdx?_eq_none_iff] at found
    have differs := found axis listed
    rw [beq_self_eq_true] at differs
    cases differs

/-- Values are found before or after they are changed. -/
theorem map_placed {β : Type} (change : α → β) {axes : List Nat} {values : List α}
    {default : α} (axis : Nat) :
    change (placed axes values default axis) =
      placed axes (values.map change) (change default) axis := by
  rw [placed, placed]
  cases axes.idxOf? axis with
  | none => rfl
  | some place =>
    simp only [List.getD_eq_getElem?_getD, List.getElem?_map]
    cases values[place]? <;> rfl

/-- The remaining axes are distinct. -/
theorem nodup_rest (axes : List Nat) (rank : Nat) : (rest axes rank).Nodup :=
  List.nodup_range.filter _

/-- The remaining axes are those below the rank that are not listed. -/
theorem mem_rest {axes : List Nat} {rank axis : Nat} :
    axis ∈ rest axes rank ↔ axis < rank ∧ axis ∉ axes := by
  simp [rest]

/-- Listed and remaining axes are all of them. -/
theorem length_rest {axes : List Nat} {rank : Nat} (unique : axes.Nodup)
    (below : ∀ axis ∈ axes, axis < rank) : (rest axes rank).length + axes.length = rank := by
  -- Together, both lists have the same members as the range, without duplicates.
  have together : (rest axes rank ++ axes).Perm (List.range rank) := by
    refine (List.perm_ext_iff_of_nodup ?_ List.nodup_range).mpr fun axis => ?_
    · refine List.Nodup.append (nodup_rest axes rank) unique fun axis remaining listed => ?_
      exact (mem_rest.mp remaining).2 listed
    · rw [List.mem_append, mem_rest, List.mem_range]
      constructor
      · rintro (⟨small, -⟩ | listed)
        · exact small
        · exact below axis listed
      · intro small
        by_cases listed : axis ∈ axes
        · exact .inr listed
        · exact .inl ⟨small, listed⟩
  have lengths := together.length_eq
  rwa [List.length_append, List.length_range] at lengths

/-- Behind the listed axes, all axes remain. -/
theorem rest_eq_append {axes : List Nat} {bound rank : Nat} (below : ∀ axis ∈ axes, axis < bound)
    (least : bound ≤ rank) :
    rest axes rank = rest axes bound ++ List.range' bound (rank - bound) := by
  -- The range up to the rank is split at the bound.
  have split : List.range rank = List.range bound ++ List.range' bound (rank - bound) := by
    have whole := @List.range'_append_1 0 bound (rank - bound)
    rw [Nat.zero_add, Nat.add_sub_cancel' least] at whole
    rw [List.range_eq_range', List.range_eq_range', whole]
  rw [rest, split, List.filter_append, ← rest]
  congr 1
  refine List.filter_eq_self.mpr fun axis listed => ?_
  rw [List.mem_range'_1] at listed
  have fresh : axis ∉ axes := fun member => by
    have before := below axis member
    omega
  simpa using fresh

/-- Behind the listed axes, the axes that remain are as many places further as axes are listed. -/
theorem getElem?_rest_behind {axes : List Nat} {bound rank place : Nat} (unique : axes.Nodup)
    (below : ∀ axis ∈ axes, axis < bound) (least : bound ≤ rank)
    (behind : (rest axes bound).length ≤ place) (short : place + axes.length < rank) :
    (rest axes rank)[place]? = some (place + axes.length) := by
  have count := length_rest unique below
  rw [rest_eq_append below least, List.getElem?_append_right behind,
    List.getElem?_range' (by omega)]
  congr 1
  omega

/-- Up to the bound of the listed axes, the axes that remain do not depend on the rank. -/
theorem getElem?_rest_before {axes : List Nat} {bound rank place : Nat}
    (below : ∀ axis ∈ axes, axis < bound) (least : bound ≤ rank)
    (before : place < (rest axes bound).length) :
    (rest axes rank)[place]? = (rest axes bound)[place]? := by
  -- They are a prefix of all axes that remain.
  rw [rest_eq_append below least, List.getElem?_append_left before]

/-- Values are spread to the places of their axes among those that are not skipped. -/
theorem spread_eq {skipped : List Nat} {default : α} {axes : List Nat} {values : List α}
    (unique : axes.Nodup)
    (enough : (axes.filter fun axis => !skipped.contains axis).length ≤ values.length) :
    spread skipped default axes values = some (axes.map
      (placed (axes.filter fun axis => !skipped.contains axis) values default)) := by
  induction axes generalizing values with
  | nil => rfl
  | cons axis axes ih =>
    obtain ⟨fresh, unique⟩ := List.nodup_cons.mp unique
    unfold spread
    by_cases skip : skipped.contains axis = true
    · -- The axis has no value, and the others keep theirs.
      have same : (axis :: axes).filter (fun axis => !skipped.contains axis) =
          axes.filter fun axis => !skipped.contains axis := by
        rw [List.filter_cons_of_neg (by simpa using skip)]
      rw [same] at enough ⊢
      have missing : axis ∉ axes.filter fun axis => !skipped.contains axis :=
        fun listed => fresh (List.mem_filter.mp listed).1
      rw [if_pos skip, ih unique enough, List.map_cons, Option.map_some,
        placed, idxOf?_eq_none missing]
    · have kept : (axis :: axes).filter (fun axis => !skipped.contains axis) =
          axis :: axes.filter fun axis => !skipped.contains axis := by
        rw [List.filter_cons_of_pos (by simpa using skip)]
      rw [kept] at enough ⊢
      rw [if_neg skip]
      cases values with
      | nil => simp at enough
      | cons value values =>
        simp only [List.length_cons, Nat.add_le_add_iff_right] at enough
        dsimp only
        rw [ih unique enough, List.map_cons, Option.map_some]
        congr 2
        · simp [placed, List.idxOf?, List.findIdx?_cons]
        · -- The places of the axes behind are one further.
          refine List.map_congr_left fun other listed => ?_
          have differs : (axis == other) = false := by
            rw [beq_eq_false_iff_ne]
            rintro rfl
            exact fresh listed
          simp only [placed, List.idxOf?, List.findIdx?_cons, differs]
          cases (axes.filter fun axis => !skipped.contains axis).findIdx? (· == other) <;> rfl

@[simp] theorem length_assign (index : List α) (axes : List Nat) (values : List α) :
    (assign index axes values).length = index.length := by
  induction axes generalizing index values with
  | nil => cases values <;> rfl
  | cons axis axes ih =>
    cases values with
    | nil => rfl
    | cons value values => rw [assign, ih, List.length_set]

/-- More axes are set after the others. -/
theorem assign_append {index : List α} {axes others : List Nat} {values more : List α}
    (same : values.length = axes.length) :
    assign index (axes ++ others) (values ++ more) =
      assign (assign index axes values) others more := by
  induction axes generalizing index values with
  | nil =>
    rw [List.length_nil, List.length_eq_zero_iff] at same
    rw [same]
    rfl
  | cons axis axes ih =>
    cases values with
    | nil => cases same
    | cons value values => exact ih (by simpa using same)

/-- The last axis is set after the others. -/
theorem assign_snoc {index : List α} {axes : List Nat} {values : List α} {axis : Nat} {value : α}
    (same : values.length = axes.length) :
    assign index (axes ++ [axis]) (values ++ [value]) = (assign index axes values).set axis value :=
  assign_append same

/-- The order in which different axes are set does not matter. -/
theorem assign_set {index : List α} {axes : List Nat} {values : List α} {axis : Nat} {value : α}
    (other : axis ∉ axes) :
    assign (index.set axis value) axes values = (assign index axes values).set axis value := by
  induction axes generalizing index values with
  | nil => cases values <;> rfl
  | cons first axes ih =>
    rw [List.mem_cons, not_or] at other
    cases values with
    | nil => rfl
    | cons head values => rw [assign, assign, List.set_comm _ _ other.1, ih other.2]

/-- The coordinate of an axis that is not set stays. -/
theorem getElem?_assign_of_notMem {index : List α} {axes : List Nat} {values : List α} {axis : Nat}
    (other : axis ∉ axes) : (assign index axes values)[axis]? = index[axis]? := by
  induction axes generalizing index values with
  | nil => cases values <;> rfl
  | cons first axes ih =>
    rw [List.mem_cons, not_or] at other
    cases values with
    | nil => rfl
    | cons head values => rw [assign, ih other.2, List.getElem?_set_ne (Ne.symm other.1)]

/-- The coordinate of an axis is the value at its place. -/
theorem getElem?_assign {index : List α} {axes : List Nat} {values : List α} {axis place : Nat}
    {value : α} (unique : axes.Nodup) (listed : axes[place]? = some axis)
    (given : values[place]? = some value) (inside : axis < index.length) :
    (assign index axes values)[axis]? = some value := by
  induction axes generalizing index values place with
  | nil => cases listed
  | cons first axes ih =>
    obtain ⟨fresh, unique⟩ := List.nodup_cons.mp unique
    cases values with
    | nil => cases given
    | cons head values =>
      cases place with
      | zero =>
        cases listed
        cases given
        rw [assign, getElem?_assign_of_notMem fresh, List.getElem?_set_self inside]
      | succ place => exact ih unique listed given (by rwa [List.length_set])

/-- Axes that have a value already are not changed by it. -/
theorem assign_of_own {index : List α} {axes : List Nat} {value : α}
    (own : ∀ axis ∈ axes, index[axis]? = some value) :
    assign index axes (List.replicate axes.length value) = index := by
  induction axes with
  | nil => rfl
  | cons axis axes ih =>
    rw [List.forall_mem_cons] at own
    obtain ⟨below, here⟩ := List.getElem?_eq_some_iff.mp own.1
    have unchanged : index.set axis value = index := by rw [← here, List.set_getElem_self]
    rw [List.length_cons, List.replicate_succ, assign, unchanged, ih own.2]

/-- Axes of which all others have a default are set to the values at their places. -/
theorem assign_replicate {axes : List Nat} {values : List α} {default : α} {rank : Nat}
    (unique : axes.Nodup) (same : values.length = axes.length) :
    assign (List.replicate rank default) axes values =
      (List.range rank).map (placed axes values default) := by
  refine List.ext_getElem (by simp) fun axis inside _ => ?_
  rw [length_assign, List.length_replicate] at inside
  rw [List.getElem_map, List.getElem_range, placed]
  apply Option.some.inj
  rw [← List.getElem?_eq_getElem]
  by_cases listed : axis ∈ axes
  · obtain ⟨place, found, stored⟩ := exists_place listed
    obtain ⟨below, -⟩ := List.getElem?_eq_some_iff.mp stored
    have given : values[place]? = some (values.getD place default) := by
      rw [List.getD_eq_getElem?_getD, List.getElem?_eq_getElem (same ▸ below)]
      rfl
    rw [getElem?_assign unique stored given (by simpa using inside), found]
  · rw [getElem?_assign_of_notMem listed, idxOf?_eq_none listed]
    simp [inside]

end AxisMap
