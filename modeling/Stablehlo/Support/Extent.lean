import Mathlib.Data.List.Forall2
import Mathlib.Data.List.Induction
import Mathlib.Order.Lattice

/-! What is known of a size, how two such things are merged, and what merging a list of them
comes to. -/

universe u

/-- What is known of a size. -/
inductive Extent (α : Type u) where
  /-- The size itself. -/
  | static (size : α)
  /-- A size that the size does not exceed. -/
  | bounded (bound : α)
  /-- Nothing. -/
  | unbounded
  deriving DecidableEq, Repr

namespace Extent

variable {α : Type u}

section Rows

/-- Merge what is known of the sizes of the same dimensions. -/
def merge (op : Extent α → Extent α → Option (Extent α)) :
    List (Extent α) → List (Extent α) → Option (List (Extent α))
  | [], [] => some []
  | left :: lefts, right :: rights => do
    let merged ← op left right
    let rest ← merge op lefts rights
    some (merged :: rest)
  | _, _ => none

/-- Merge the rows of a list, one after the other, into the first. -/
def mergeAll (op : Extent α → Extent α → Option (Extent α)) (first : List (Extent α))
    (rest : List (List (Extent α))) : Option (List (Extent α)) :=
  rest.foldlM (merge op) first

/-- Merge the rows of a list, in their order. -/
def mergeRows (op : Extent α → Extent α → Option (Extent α)) :
    List (List (Extent α)) → Option (List (Extent α))
  | [] => none
  | first :: rest => mergeAll op first rest

/-- An extent that one of the rows has at the dimension. -/
def At (rows : List (List (Extent α))) (dim : Nat) (extent : Extent α) : Prop :=
  ∃ row ∈ rows, row[dim]? = some extent

variable {op : Extent α → Extent α → Option (Extent α)}

/-- A merge of rows merges each dimension. -/
theorem getElem?_of_merge {left right row : List (Extent α)} (merged : merge op left right = some row) :
    row.length = left.length ∧
      ∀ (dim : Nat) extent, row[dim]? = some extent → ∃ first second, left[dim]? = some first ∧
        right[dim]? = some second ∧ op first second = some extent := by
  induction left generalizing right row with
  | nil =>
    cases right with
    | nil => cases merged; simp
    | cons => cases merged
  | cons first lefts ih =>
    cases right with
    | nil => cases merged
    | cons second rights =>
      simp only [merge, Option.bind_eq_bind, Option.bind_eq_some_iff] at merged
      obtain ⟨extent, head, rest, tail, same⟩ := merged
      cases same
      obtain ⟨long, each⟩ := ih tail
      refine ⟨by simp [long], fun dim other there => ?_⟩
      cases dim with
      | zero =>
        simp only [List.getElem?_cons_zero, Option.some.injEq] at there
        exact ⟨first, second, rfl, rfl, there ▸ head⟩
      | succ dim =>
        simp only [List.getElem?_cons_succ] at there ⊢
        exact each dim other there

/-- Rows of the same length have no merge when some dimension has none. -/
theorem merge_eq_none {left right : List (Extent α)} (same : left.length = right.length) :
    merge op left right = none ↔ ∃ (dim : Nat), ∃ first second, left[dim]? = some first ∧
      right[dim]? = some second ∧ op first second = none := by
  induction left generalizing right with
  | nil =>
    cases right with
    | nil => simp [merge]
    | cons => simp at same
  | cons first lefts ih =>
    cases right with
    | nil => simp at same
    | cons second rights =>
      have tails := @ih rights (by simpa using same)
      constructor
      · intro fails
        -- Either the heads have no merge, or the tails have none.
        cases head : op first second with
        | none => exact ⟨0, first, second, rfl, rfl, head⟩
        | some extent =>
          have : merge op lefts rights = none := by
            cases tail : merge op lefts rights with
            | none => rfl
            | some rest => simp [merge, head, tail] at fails
          obtain ⟨dim, one, two, left, right, none⟩ := tails.mp this
          exact ⟨dim + 1, one, two, by simpa using left, by simpa using right, none⟩
      · rintro ⟨dim, one, two, left, right, fails⟩
        cases dim with
        | zero =>
          simp only [List.getElem?_cons_zero, Option.some.injEq] at left right
          subst left right
          simp [merge, fails]
        | succ dim =>
          simp only [List.getElem?_cons_succ] at left right
          have := tails.mpr ⟨dim, one, two, left, right, fails⟩
          simp [merge, this]

/-- The last row is merged into the merge of those before it. -/
theorem mergeAll_concat (first row : List (Extent α)) (rest : List (List (Extent α))) :
    mergeAll op first (rest ++ [row]) = (mergeAll op first rest).bind (merge op · row) := by
  simp [mergeAll, List.foldlM_append]

/-- One more row has one more extent at each of its dimensions. -/
theorem at_concat {rows : List (List (Extent α))} {row : List (Extent α)} {dim : Nat}
    {extent : Extent α} (there : row[dim]? = some extent) :
    At (rows ++ [row]) dim = fun candidate => At rows dim candidate ∨ candidate = extent := by
  funext candidate
  simp [At, or_and_right, exists_or, there, eq_comm (a := extent)]

/-- The order of the rows does not matter to the extents they have. -/
theorem at_perm {rows order : List (List (Extent α))} (perm : order.Perm rows) (dim : Nat) :
    At order dim = At rows dim := by
  funext extent
  simp only [At, perm.mem_iff]

/-- What merging gives at each dimension, from what it gives for one extent and for one more. -/
theorem mergeAll_spec {Is : (Extent α → Prop) → Extent α → Prop}
    (single : ∀ extent, Is (· = extent) extent)
    (step : ∀ {known extent other merged}, Is known extent → op extent other = some merged →
      Is (fun candidate => known candidate ∨ candidate = other) merged)
    {first row : List (Extent α)} {rest : List (List (Extent α))}
    (merged : mergeAll op first rest = some row) :
    row.length = first.length ∧
      ∀ (dim : Nat) extent, row[dim]? = some extent → Is (At (first :: rest) dim) extent := by
  induction rest using List.reverseRecOn generalizing row with
  | nil =>
    cases merged
    refine ⟨rfl, fun dim extent there => ?_⟩
    have alone : At [first] dim = (· = extent) := by
      funext candidate
      simp [At, there, eq_comm]
    rw [alone]
    exact single extent
  | append_singleton rest last ih =>
    rw [mergeAll_concat, Option.bind_eq_some_iff] at merged
    obtain ⟨before, earlier, final⟩ := merged
    obtain ⟨long, each⟩ := ih earlier
    obtain ⟨same, dims⟩ := getElem?_of_merge final
    refine ⟨same.trans long, fun dim extent there => ?_⟩
    obtain ⟨one, two, left, right, put⟩ := dims dim extent there
    rw [← List.cons_append, at_concat right]
    exact step (each dim one left) put

end Rows

section Disagreement

/-- The row has another size than all of the group at one of its dimensions. -/
def Disagrees (group : List (List (Extent α))) (row : List (Extent α)) : Prop :=
  ∃ (dim : Nat) (size other : α), (∀ member ∈ group, member[dim]? = some (.static size)) ∧
    row[dim]? = some (.static other) ∧ size ≠ other

/-- Whichever row is the first, a group around it is closed to all other rows. -/
def Blocked (rows : List (List (Extent α))) : Prop :=
  ∀ start ∈ rows, ∃ group : List (List (Extent α)), start ∈ group ∧ group ⊆ rows ∧
    ¬ rows ⊆ group ∧ ∀ row ∈ rows, row ∉ group → Disagrees group row

/-- A row that disagrees with a group disagrees with each part of it. -/
theorem Disagrees.mono {group part : List (List (Extent α))} {row : List (Extent α)}
    (differ : Disagrees group row) (within : part ⊆ group) : Disagrees part row := by
  obtain ⟨dim, size, other, all, there, ne⟩ := differ
  exact ⟨dim, size, other, fun member listed => all member (within listed), there, ne⟩

/-- A row does not disagree with a group that it is in. -/
theorem Disagrees.not_mem {group : List (List (Extent α))} {row : List (Extent α)}
    (differ : Disagrees group row) : row ∉ group := by
  intro listed
  obtain ⟨dim, size, other, all, there, ne⟩ := differ
  have same := all row listed
  grind

/-- The order of the rows does not matter to whether they are blocked. -/
theorem Blocked.perm {rows order : List (List (Extent α))} (blocked : Blocked rows)
    (perm : order.Perm rows) : Blocked order := by
  intro start listed
  obtain ⟨group, starts, within, outside, closed⟩ := blocked start (perm.mem_iff.mp listed)
  refine ⟨group, starts, List.Subset.trans within perm.symm.subset, fun every => ?_,
    fun row present => ?_⟩
  · exact outside (List.Subset.trans perm.symm.subset every)
  · exact closed row (perm.mem_iff.mp present)

end Disagreement

variable [LinearOrder α]

/-- A size that agrees with what is known. -/
def Admits : Extent α → α → Prop
  | .static size, actual => actual = size
  | .bounded bound, actual => actual ≤ bound
  | .unbounded, _ => True

/-- What is known of a size of which two things are known. -/
def meet : Extent α → Extent α → Option (Extent α)
  | .static size, .static other => if size = other then some (.static size) else none
  | .static size, .bounded bound | .bounded bound, .static size =>
    if size ≤ bound then some (.static size) else none
  | .bounded bound, .bounded other => some (.bounded (min bound other))
  | extent, .unbounded | .unbounded, extent => some extent

/-- What is known of a size of which one of two things is known, where two sizes are not the
size of anything. -/
def join : Extent α → Extent α → Option (Extent α)
  | .static size, .static other => if size = other then some (.static size) else none
  | .static size, .bounded bound | .bounded bound, .static size =>
    some (.bounded (max size bound))
  | .bounded bound, .bounded other => some (.bounded (max bound other))
  | _, .unbounded | .unbounded, _ => some .unbounded

@[simp] theorem meet_unbounded (extent : Extent α) : extent.meet .unbounded = some extent := by
  cases extent <;> rfl

@[simp] theorem unbounded_meet (extent : Extent α) : meet .unbounded extent = some extent := by
  cases extent <;> rfl

@[simp] theorem join_unbounded (extent : Extent α) : extent.join .unbounded = some .unbounded := by
  cases extent <;> rfl

@[simp] theorem unbounded_join (extent : Extent α) : join .unbounded extent = some .unbounded := by
  cases extent <;> rfl

/-- A meet admits what both parts admit. -/
theorem admits_meet {left right merged : Extent α} {size : α}
    (met : left.meet right = some merged) (first : left.Admits size)
    (second : right.Admits size) : merged.Admits size := by
  cases left <;> cases right <;> grind [meet, Admits]

/-- Whatever is known in the second extent is known in the first. -/
def Refines : Extent α → Extent α → Prop
  | .static size, .static other => size = other
  | .static size, .bounded bound => size ≤ bound
  | .bounded bound, .bounded other => bound ≤ other
  | _, .unbounded => True
  | .bounded _, .static _ | .unbounded, .static _ | .unbounded, .bounded _ => False

/-- An extent without its bound. -/
def withoutBound : Extent α → Extent α
  | .static size => .static size
  | .bounded _ | .unbounded => .unbounded

@[simp] theorem Refines.refl (extent : Extent α) : extent.Refines extent := by
  cases extent <;> simp [Refines]

/-- A meet knows what both parts know. -/
theorem refines_of_meet {left right merged : Extent α} (met : left.meet right = some merged) :
    merged.Refines left ∧ merged.Refines right := by
  cases left <;> cases right <;> grind [meet, Refines]

/-- An extent that knows what another one knows is their meet. -/
theorem meet_of_refines {left right : Extent α} (refines : left.Refines right) :
    left.meet right = some left := by
  cases left <;> cases right <;> grind [meet, Refines]

/-- Two extents that know the same are the same. -/
theorem Refines.antisymm {left right : Extent α} (first : left.Refines right)
    (second : right.Refines left) : left = right := by
  cases left <;> cases right <;> grind [Refines]

/-- The first part knows what the meet knows when it knows what the second part knows. -/
theorem refines_meet_iff {left right merged : Extent α} (met : left.meet right = some merged) :
    left.Refines merged ↔ left.Refines right := by
  constructor
  · intro refines
    rw [refines.antisymm (refines_of_meet met).1]
    exact (refines_of_meet met).2
  · intro refines
    rw [meet_of_refines refines, Option.some.injEq] at met
    rw [met]
    exact Refines.refl merged

/-- An extent with or without its bound. -/
def keepBound (keeps : Bool) (extent : Extent α) : Extent α :=
  if keeps then extent else extent.withoutBound

/-- The bound of the second part is not lost: bounds are kept, or the first part is a size. -/
def BoundKept (keeps : Bool) (left right : Extent α) : Prop :=
  keeps = true ∨ ∀ bound, right = .bounded bound → ∃ size, left = .static size

/-- Only bounds that the first part does not have are lost in a meet. -/
theorem keepBound_refines_left {keeps : Bool} {left right merged : Extent α}
    (met : left.meet right = some merged)
    (boundless : keeps = false → ∀ bound, left ≠ .bounded bound) :
    (merged.keepBound keeps).Refines left := by
  cases keeps with
  | true => exact (refines_of_meet met).1
  | false =>
    have absent := boundless rfl
    cases left <;> cases right <;> grind [meet, Refines, keepBound, withoutBound]

/-- What the second part knows is kept when its bound is. -/
theorem keepBound_refines_right_iff {keeps : Bool} {left right merged : Extent α}
    (met : left.meet right = some merged)
    (boundless : keeps = false → ∀ bound, left ≠ .bounded bound) :
    (merged.keepBound keeps).Refines right ↔ BoundKept keeps left right := by
  cases keeps with
  | true => exact iff_of_true (refines_of_meet met).2 (.inl rfl)
  | false =>
    have absent := boundless rfl
    cases left <;> cases right <;> grind [meet, Refines, keepBound, withoutBound, BoundKept]

/-- The first part knew it all when it knew what the second part knows. -/
theorem refines_keepBound_iff {keeps : Bool} {left right merged : Extent α}
    (met : left.meet right = some merged) (kept : BoundKept keeps left right) :
    left.Refines (merged.keepBound keeps) ↔ left.Refines right := by
  cases keeps with
  | true => exact refines_meet_iff met
  | false =>
    cases left <;> cases right <;> grind [meet, Refines, keepBound, withoutBound, BoundKept]

section MergedRows

variable {keeps : Bool} {lefts rights row : List (Extent α)}

/-- A merge of rows is one of their first extents and of the others. -/
theorem merge_cons {left right : Extent α} :
    merge meet (left :: lefts) (right :: rights) = some row ↔
      ∃ merged rest, left.meet right = some merged ∧ merge meet lefts rights = some rest ∧
        row = merged :: rest := by
  simp only [merge, Option.bind_eq_bind, Option.bind_eq_some_iff, Option.some.injEq]
  constructor
  · intro ⟨merged, met, rest, same, built⟩
    exact ⟨merged, rest, met, same, built.symm⟩
  · intro ⟨merged, rest, met, same, built⟩
    exact ⟨merged, met, rest, same, built.symm⟩

/-- Only bounds that the first row does not have are lost in a merge. -/
theorem merge_refines_left (merged : merge meet lefts rights = some row)
    (boundless : keeps = false → ∀ extent ∈ lefts, ∀ bound, extent ≠ .bounded bound) :
    List.Forall₂ Refines (row.map (keepBound keeps)) lefts := by
  -- The induction is on the rows, which have the same length.
  induction lefts generalizing rights row with
  | nil =>
    cases rights with
    | nil =>
      cases merged
      exact .nil
    | cons right rights => contradiction
  | cons left lefts ih =>
    cases rights with
    | nil => contradiction
    | cons right rights =>
      obtain ⟨first, rest, met, others, rfl⟩ := merge_cons.1 merged
      refine .cons (keepBound_refines_left met ?_) (ih others ?_)
      · exact fun loses => boundless loses left (List.mem_cons_self ..)
      · exact fun loses extent listed => boundless loses extent (List.mem_cons_of_mem _ listed)

/-- What the second row knows is kept when its bounds are. -/
theorem merge_refines_right_iff (merged : merge meet lefts rights = some row)
    (boundless : keeps = false → ∀ extent ∈ lefts, ∀ bound, extent ≠ .bounded bound) :
    List.Forall₂ Refines (row.map (keepBound keeps)) rights ↔
      List.Forall₂ (BoundKept keeps) lefts rights := by
  induction lefts generalizing rights row with
  | nil =>
    cases rights with
    | nil =>
      cases merged
      exact iff_of_true .nil .nil
    | cons right rights => contradiction
  | cons left lefts ih =>
    cases rights with
    | nil => contradiction
    | cons right rights =>
      obtain ⟨first, rest, met, others, rfl⟩ := merge_cons.1 merged
      rw [List.map_cons, List.forall₂_cons, List.forall₂_cons, keepBound_refines_right_iff met,
        ih others]
      · exact fun loses extent listed => boundless loses extent (List.mem_cons_of_mem _ listed)
      · exact fun loses => boundless loses left (List.mem_cons_self ..)

/-- The first row knew it all when it knew what the second row knows. -/
theorem refines_merge_iff (merged : merge meet lefts rights = some row)
    (kept : List.Forall₂ (BoundKept keeps) lefts rights) :
    List.Forall₂ Refines lefts (row.map (keepBound keeps)) ↔
      List.Forall₂ Refines lefts rights := by
  induction kept generalizing row with
  | nil =>
    cases merged
    exact iff_of_true .nil .nil
  | cons first _ ih =>
    obtain ⟨extent, rest, met, others, rfl⟩ := merge_cons.1 merged
    rw [List.map_cons, List.forall₂_cons, List.forall₂_cons, refines_keepBound_iff met first,
      ih others]

end MergedRows

section Collections

/-- The extents that are known of one size contradict each other. -/
def Conflict (known : Extent α → Prop) : Prop :=
  ∃ size, known (.static size) ∧
    ((∃ other, known (.static other) ∧ size ≠ other) ∨ ∃ bound, known (.bounded bound) ∧ bound < size)

/-- All that follows from the extents that are known of one size. -/
def IsMeet (known : Extent α → Prop) : Extent α → Prop
  | .static size => known (.static size) ∧ (∀ other, known (.static other) → other = size) ∧
      ∀ bound, known (.bounded bound) → size ≤ bound
  | .bounded bound => known (.bounded bound) ∧ (∀ size, ¬ known (.static size)) ∧
      ∀ other, known (.bounded other) → bound ≤ other
  | .unbounded => (∀ size, ¬ known (.static size)) ∧ ∀ bound, ¬ known (.bounded bound)

/-- All that each of several extents says. -/
def IsJoin (known : Extent α → Prop) : Extent α → Prop
  | .static size => known (.static size) ∧ ∀ extent, known extent → extent = .static size
  | .bounded bound => ¬ known .unbounded ∧ (known (.static bound) ∨ known (.bounded bound)) ∧
      (∃ other, known (.bounded other)) ∧
      (∀ size, known (.static size) → size ≤ bound) ∧ ∀ other, known (.bounded other) → other ≤ bound
  | .unbounded => known .unbounded

variable {known : Extent α → Prop} {extent other : Extent α}

/-- There is one meet at most. -/
theorem IsMeet.unique (first : IsMeet known extent) (second : IsMeet known other) :
    extent = other := by
  cases extent <;> cases other <;> grind [IsMeet]

/-- There is one join at most. -/
theorem IsJoin.unique (first : IsJoin known extent) (second : IsJoin known other) :
    extent = other := by
  cases extent <;> cases other <;> grind [IsJoin]

/-- Extents with a meet do not contradict each other. -/
theorem IsMeet.not_conflict (met : IsMeet known extent) : ¬ Conflict known := by
  cases extent <;> grind [IsMeet, Conflict]

/-- One extent is its own meet. -/
theorem IsMeet.single (extent : Extent α) : IsMeet (· = extent) extent := by
  cases extent <;> simp [IsMeet]

/-- One extent is its own join. -/
theorem IsJoin.single (extent : Extent α) : IsJoin (· = extent) extent := by
  cases extent <;> simp [IsJoin]

/-- One more extent is merged into a meet. -/
theorem IsMeet.step {merged : Extent α} (met : IsMeet known extent)
    (next : extent.meet other = some merged) :
    IsMeet (fun candidate => known candidate ∨ candidate = other) merged := by
  cases extent <;> cases other <;> grind [IsMeet, meet]

/-- An extent that cannot be merged into a meet contradicts one that has been. -/
theorem IsMeet.conflict (met : IsMeet known extent) (next : extent.meet other = none) :
    Conflict (fun candidate => known candidate ∨ candidate = other) := by
  cases extent <;> cases other <;> grind [IsMeet, meet, Conflict]

/-- One more extent is merged into a join. -/
theorem IsJoin.step {merged : Extent α} (joined : IsJoin known extent)
    (next : extent.join other = some merged) :
    IsJoin (fun candidate => known candidate ∨ candidate = other) merged := by
  cases extent <;> cases other <;> grind [IsJoin, join]

/-- An extent cannot be merged into a join of one size when it is another size. -/
theorem IsJoin.join_eq_none (joined : IsJoin known extent) :
    extent.join other = none ↔
      ∃ size different, (∀ candidate, known candidate → candidate = .static size) ∧
        other = .static different ∧ size ≠ different := by
  constructor
  · intro next
    cases extent with
    | static size =>
      cases other with
      | static different =>
        exact ⟨size, different, joined.2, rfl, by grind [join]⟩
      | bounded bound => cases next
      | unbounded => cases next
    | bounded bound => cases other <;> cases next
    | unbounded => cases other <;> cases next
  · rintro ⟨size, different, all, rfl, differ⟩
    -- Something is known, so it is the one size.
    cases extent <;> grind [IsJoin, join]

/-- A size that agrees with all that is known agrees with all that follows from it. -/
theorem IsMeet.admits {size : α} (met : IsMeet known extent)
    (every : ∀ candidate, known candidate → candidate.Admits size) : extent.Admits size := by
  cases extent with
  | static exact => exact every _ met.1
  | bounded bound => exact every _ met.1
  | unbounded => trivial

/-- A size that agrees with one of several extents agrees with all that each of them says. -/
theorem IsJoin.admits {size : α} {candidate : Extent α} (joined : IsJoin known extent)
    (member : known candidate) (admitted : candidate.Admits size) : extent.Admits size := by
  cases extent with
  | static exact =>
    rw [joined.2 candidate member] at admitted
    exact admitted
  | bounded bound =>
    obtain ⟨finite, -, -, statics, bounds⟩ := joined
    cases candidate with
    | static exact => exact admitted.trans_le (statics exact member)
    | bounded other => exact le_trans admitted (bounds other member)
    | unbounded => exact absurd member finite
  | unbounded => trivial

end Collections


section Meets

variable {first : List (Extent α)} {rest : List (List (Extent α))}

/-- The merge by meets holds all that follows at each dimension. -/
theorem mergeAll_meet {row : List (Extent α)} (merged : mergeAll meet first rest = some row) :
    row.length = first.length ∧
      ∀ (dim : Nat) extent, row[dim]? = some extent → IsMeet (At (first :: rest) dim) extent :=
  mergeAll_spec IsMeet.single IsMeet.step merged

/-- Rows of the same length have no merge by meets when they contradict each other somewhere. -/
theorem mergeAll_meet_eq_none (same : ∀ row ∈ rest, row.length = first.length) :
    mergeAll meet first rest = none ↔ ∃ dim, Conflict (At (first :: rest) dim) := by
  constructor
  · intro fails
    induction rest using List.reverseRecOn with
    | nil => cases fails
    | append_singleton rest last ih =>
      cases earlier : mergeAll meet first rest with
      | none =>
        -- What contradicted each other before still does.
        obtain ⟨dim, conflict⟩ := ih (fun row listed => same row (by simp [listed])) earlier
        refine ⟨dim, ?_⟩
        have more : ∀ candidate, At (first :: rest) dim candidate →
            At (first :: (rest ++ [last])) dim candidate := by
          rintro candidate ⟨row, listed, there⟩
          exact ⟨row, by grind, there⟩
        grind [Conflict]
      | some before =>
        obtain ⟨long, each⟩ := mergeAll_meet earlier
        rw [mergeAll_concat, earlier, Option.bind_some,
          merge_eq_none (by rw [long, same last (by simp)])] at fails
        obtain ⟨dim, one, two, left, right, none⟩ := fails
        refine ⟨dim, ?_⟩
        rw [← List.cons_append, at_concat right]
        exact (each dim one left).conflict none
  · rintro ⟨dim, conflict⟩
    cases merged : mergeAll meet first rest with
    | none => rfl
    | some row =>
      exfalso
      obtain ⟨long, each⟩ := mergeAll_meet merged
      -- The dimension is one of the rows, so it is one of the merge.
      obtain ⟨size, ⟨member, listed, there⟩, -⟩ := id conflict
      have short : dim < row.length := by
        rw [long]
        have := (List.getElem?_eq_some_iff.mp there).1
        rcases List.mem_cons.mp listed with rfl | other
        · exact this
        · rwa [same member other] at this
      exact (each dim _ (List.getElem?_eq_getElem short)).not_conflict conflict

/-- The order of the rows does not matter to their merge by meets. -/
theorem mergeRows_meet_perm {rows order : List (List (Extent α))} {length : Nat}
    (same : ∀ row ∈ rows, row.length = length) (perm : order.Perm rows) :
    mergeRows meet order = mergeRows meet rows := by
  have moved := at_perm perm
  cases rows with
  | nil => rw [perm.eq_nil]
  | cons first rest =>
    cases order with
    | nil => exact absurd perm.symm.eq_nil (by simp)
    | cons first' rest' =>
      have lengths : ∀ row ∈ first' :: rest', row.length = length := fun row listed =>
        same row (perm.mem_iff.mp listed)
      have lengthFirst := same first (by simp)
      have lengthFirst' := lengths first' (by simp)
      have fails := @mergeAll_meet_eq_none α _ first rest fun row listed =>
        (same row (by simp [listed])).trans lengthFirst.symm
      have fails' := @mergeAll_meet_eq_none α _ first' rest' fun row listed =>
        (lengths row (by simp [listed])).trans lengthFirst'.symm
      simp only [moved] at fails'
      simp only [mergeRows]
      cases merged : mergeAll meet first rest with
      | none => exact fails'.mpr (fails.mp merged)
      | some row =>
        cases merged' : mergeAll meet first' rest' with
        | none => exact absurd (fails.mpr (fails'.mp merged')) (by simp [merged])
        | some row' =>
          -- Both merges hold all that follows from the same extents.
          obtain ⟨long, each⟩ := mergeAll_meet merged
          obtain ⟨long', each'⟩ := mergeAll_meet merged'
          have sameLength : row'.length = row.length := by
            rw [long, long', lengthFirst, lengthFirst']
          refine congrArg some (List.ext_getElem sameLength fun dim short short' => ?_)
          have there := each dim _ (List.getElem?_eq_getElem short')
          have there' := each' dim _ (List.getElem?_eq_getElem short)
          rw [moved] at there'
          exact there'.unique there

end Meets

section Joins

/-- The merge by joins holds all that each row says at each dimension. -/
theorem mergeRows_join {rows : List (List (Extent α))} {row : List (Extent α)}
    (merged : mergeRows join rows = some row) :
    (∀ first ∈ rows.head?, row.length = first.length) ∧
      ∀ (dim : Nat) extent, row[dim]? = some extent → IsJoin (At rows dim) extent := by
  cases rows with
  | nil => cases merged
  | cons first rest =>
    simpa using mergeAll_spec IsJoin.single IsJoin.step merged

/-- One more row can be merged unless it disagrees with those before it. -/
theorem mergeRows_join_concat {rows : List (List (Extent α))} {row last : List (Extent α)}
    (merged : mergeRows join rows = some row) (same : ∀ member ∈ rows, member.length = last.length) :
    mergeRows join (rows ++ [last]) = none ↔ Disagrees rows last := by
  cases rows with
  | nil => cases merged
  | cons first rest =>
    have earlier : mergeAll join first rest = some row := merged
    obtain ⟨head, each⟩ := mergeRows_join merged
    have long : row.length = last.length := (head first rfl).trans (same first (by simp))
    rw [List.cons_append, mergeRows, mergeAll_concat, earlier, Option.bind_some, merge_eq_none long]
    constructor
    · rintro ⟨dim, one, two, left, right, fails⟩
      obtain ⟨size, other, all, rfl, ne⟩ := (each dim one left).join_eq_none.mp fails
      refine ⟨dim, size, other, fun member listed => ?_, right, ne⟩
      -- Every row has the dimension, and nothing but the size there.
      have short : dim < member.length := by
        rw [same member listed]
        exact (List.getElem?_eq_some_iff.mp right).1
      have there : member[dim]? = some member[dim] := List.getElem?_eq_getElem short
      rw [there, all _ ⟨member, listed, there⟩]
    · rintro ⟨dim, size, other, all, there, ne⟩
      have short : dim < row.length := by
        rw [long]
        exact (List.getElem?_eq_some_iff.mp there).1
      have left : row[dim]? = some row[dim] := List.getElem?_eq_getElem short
      refine ⟨dim, row[dim], .static other, left, there, ?_⟩
      refine (each dim _ left).join_eq_none.mpr ⟨size, other, ?_, rfl, ne⟩
      rintro candidate ⟨member, listed, here⟩
      exact Option.some.inj (here.symm.trans (all member listed))

/-- A merge that fails at some row fails with the rows after it too. -/
theorem mergeRows_join_append {rows more : List (List (Extent α))} (nonempty : rows ≠ [])
    (fails : mergeRows join rows = none) : mergeRows join (rows ++ more) = none := by
  cases rows with
  | nil => exact absurd rfl nonempty
  | cons first rest =>
    have earlier : rest.foldlM (merge join) first = none := fails
    simp [mergeRows, mergeAll, List.foldlM_append, earlier]

/-- Rows of which no two disagree can be merged in their order. -/
theorem mergeRows_join_ne_none {rows : List (List (Extent α))} {length : Nat} (nonempty : rows ≠ [])
    (same : ∀ row ∈ rows, row.length = length)
    (agree : ∀ row ∈ rows, ∀ other ∈ rows, ¬ Disagrees [row] other) : mergeRows join rows ≠ none := by
  induction rows using List.reverseRecOn with
  | nil => exact absurd rfl nonempty
  | append_singleton rows last ih =>
    cases rows with
    | nil => simp [mergeRows, mergeAll]
    | cons first rest =>
      have before := ih (by simp) (fun row listed => same row (by grind))
        (fun row listed other also => agree row (by grind) other (by grind))
      obtain ⟨row, merged⟩ := Option.ne_none_iff_exists'.mp before
      intro fails
      rw [mergeRows_join_concat merged fun member listed =>
        (same member (by grind)).trans (same last (by simp)).symm] at fails
      exact agree first (by simp) last (by simp) (fails.mono (by simp))

/-- Rows of which two disagree cannot be merged in every order. -/
theorem exists_order_mergeRows_join_eq_none [DecidableEq α] {rows : List (List (Extent α))}
    {row other : List (Extent α)} {length : Nat} (same : ∀ row ∈ rows, row.length = length)
    (listed : row ∈ rows) (also : other ∈ rows) (differ : Disagrees [row] other) :
    ∃ order, order.Perm rows ∧ mergeRows join order = none := by
  -- The two rows come first.
  have apart : other ≠ row := fun equal => differ.not_mem (by simp [equal])
  have rest : other ∈ rows.erase row := (List.mem_erase_of_ne apart).mpr also
  refine ⟨[row, other] ++ (rows.erase row).erase other, ?_, ?_⟩
  · exact ((List.perm_cons_erase listed).trans ((List.perm_cons_erase rest).cons row)).symm
  · refine mergeRows_join_append (by simp) ?_
    have alone : mergeRows join [row] = some row := rfl
    refine (mergeRows_join_concat alone fun member there => ?_).mpr differ
    rw [List.mem_singleton.mp there, same row listed, same other also]

/-- Blocked rows cannot be merged, in whichever order they come. -/
theorem Blocked.mergeRows_join {rows : List (List (Extent α))} {length : Nat}
    (same : ∀ row ∈ rows, row.length = length) (blocked : Blocked rows) : mergeRows join rows = none := by
  cases rows with
  | nil => rfl
  | cons first rest =>
    obtain ⟨group, starts, -, outside, closed⟩ := blocked first (by simp)
    -- The rows before some row are in the group, and it is not.
    have split : ∀ done todo : List (List (Extent α)), first :: rest = done ++ todo → done ≠ [] →
        done ⊆ group → mergeRows join (first :: rest) = none := by
      intro done todo whole nonempty within
      induction todo generalizing done with
      | nil =>
        rw [List.append_nil] at whole
        exact absurd (whole ▸ within) outside
      | cons next todo ih =>
        by_cases inside : next ∈ group
        · exact ih (done ++ [next]) (by simp [whole]) (by simp)
            (by simp [List.append_subset, within, inside])
        · have differ : Disagrees done next :=
            (closed next (by simp [whole]) inside).mono within
          rw [whole, List.append_cons]
          refine mergeRows_join_append (by simp) ?_
          cases merged : mergeRows join done with
          | none => exact mergeRows_join_append nonempty merged
          | some row =>
            refine (mergeRows_join_concat merged fun member listed => ?_).mpr differ
            rw [same member (by simp [whole, listed]), same next (by simp [whole])]
    exact split [first] rest rfl (by simp) (by simpa using starts)

/-- Rows that cannot be merged in any order are blocked. -/
theorem blocked_of_forall_order {rows : List (List (Extent α))} {length : Nat}
    (same : ∀ row ∈ rows, row.length = length)
    (fails : ∀ order, order.Perm rows → mergeRows join order = none) : Blocked rows := by
  intro start listed
  -- Rows are moved behind those that have been merged, as long as one of them can be.
  have extend : ∀ (count : Nat) (done todo : List (List (Extent α))) (row : List (Extent α)),
      todo.length = count → (done ++ todo).Perm rows → start ∈ done → mergeRows join done = some row →
        ∃ group : List (List (Extent α)), start ∈ group ∧ group ⊆ rows ∧ ¬ rows ⊆ group ∧
          ∀ row ∈ rows, row ∉ group → Disagrees group row := by
    intro count
    induction count with
    | zero =>
      intro done todo row none whole starts merged
      rw [List.length_eq_zero_iff.mp none, List.append_nil] at whole
      rw [fails done whole] at merged
      cases merged
    | succ count ih =>
      intro done todo row long whole starts merged
      have uniform : ∀ member ∈ done, ∀ next ∈ todo, member.length = next.length := by
        intro member before next after
        rw [same member (whole.mem_iff.mp (by simp [before])),
          same next (whole.mem_iff.mp (by simp [after]))]
      by_cases stuck : ∀ next ∈ todo, Disagrees done next
      · obtain ⟨next, after⟩ := List.exists_mem_of_length_pos (by omega : 0 < todo.length)
        refine ⟨done, starts, fun member before => whole.mem_iff.mp (by simp [before]), ?_, ?_⟩
        · intro every
          exact (stuck next after).not_mem (every (whole.mem_iff.mp (by simp [after])))
        · intro other present outside
          have either := whole.mem_iff.mpr present
          exact stuck other ((List.mem_append.mp either).resolve_left outside)
      · obtain ⟨next, free⟩ := Classical.not_forall.mp stuck
        obtain ⟨after, agrees⟩ := Classical.not_imp.mp free
        obtain ⟨front, back, rfl⟩ := List.append_of_mem after
        cases more : mergeRows join (done ++ [next]) with
        | none =>
          rw [mergeRows_join_concat merged fun member before =>
            uniform member before next after] at more
          exact absurd more agrees
        | some longer =>
          refine ih (done ++ [next]) (front ++ back) longer ?_ ?_ (by simp [starts]) more
          · simp only [List.length_append, List.length_cons] at long ⊢
            omega
          · refine List.Perm.trans ?_ whole
            rw [List.append_assoc, List.singleton_append]
            exact (List.perm_middle.symm).append_left done
  obtain ⟨front, back, rfl⟩ := List.append_of_mem listed
  have whole : ([start] ++ (front ++ back)).Perm (front ++ start :: back) := by
    rw [List.singleton_append]
    exact List.perm_middle.symm
  exact extend _ [start] (front ++ back) start rfl whole (by simp) rfl

/-- The order of the rows does not matter to their merge by joins, where there is one. -/
theorem mergeRows_join_perm {rows order : List (List (Extent α))} {length : Nat}
    (same : ∀ row ∈ rows, row.length = length) (perm : order.Perm rows)
    {row row' : List (Extent α)} (merged : mergeRows join rows = some row)
    (merged' : mergeRows join order = some row') : row' = row := by
  obtain ⟨long, each⟩ := mergeRows_join merged
  obtain ⟨long', each'⟩ := mergeRows_join merged'
  have moved := at_perm perm
  have sameLength : row'.length = row.length := by
    cases rows with
    | nil => cases merged
    | cons first rest =>
      cases order with
      | nil => cases merged'
      | cons first' rest' =>
        rw [long first rfl, long' first' rfl, same first (by simp),
          same first' (perm.mem_iff.mp (by simp))]
  refine List.ext_getElem sameLength fun dim short short' => ?_
  have there := each dim _ (List.getElem?_eq_getElem short')
  have there' := each' dim _ (List.getElem?_eq_getElem short)
  rw [moved] at there'
  exact there'.unique there

end Joins

end Extent
