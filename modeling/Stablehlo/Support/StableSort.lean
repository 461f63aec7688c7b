import Mathlib.Data.List.Perm.Basic
import Stablehlo.Support.Fallible

/-! Sorting by a comparison that may fail. -/

universe u v

namespace Sorting

/-- A comparison ranks the items of a domain: it is a strict weak order of them. -/
structure StrictWeakOrder {α : Type v} (domain : α → Prop) (less : α → α → Bool) : Prop where
  irrefl : ∀ a, domain a → less a a = false
  trans : ∀ a b c, domain a → domain b → domain c → less a b = true → less b c = true →
    less a c = true
  /-- Items that are not ranked among each other are of one rank. -/
  incomparable_trans : ∀ a b c, domain a → domain b → domain c →
    less a b = false → less b a = false → less b c = false → less c b = false → less a c = false

namespace StrictWeakOrder

variable {α β : Type v} {domain : α → Prop} {less : α → α → Bool}

/-- No two items are ranked below each other. -/
theorem asymm (order : StrictWeakOrder domain less) {a b : α} (first : domain a)
    (second : domain b) (below : less a b = true) : less b a = false := by
  by_contra both
  have same := order.trans a b a first second first below (Bool.not_eq_false _ ▸ both)
  rw [order.irrefl a first] at same
  cases same

/-- An item that is not below one that is not below another is not below that. -/
theorem not_less_trans (order : StrictWeakOrder domain less) {a b c : α} (first : domain a)
    (second : domain b) (third : domain c) (upper : less b a = false) (lower : less c b = false) :
    less c a = false := by
  by_contra below
  rw [Bool.not_eq_false] at below
  -- The item in the middle would be of the rank of both others.
  have left : less a b = false := by
    by_contra above
    have := order.trans c a b third first second below (Bool.not_eq_false _ ▸ above)
    rw [lower] at this
    cases this
  have right : less b c = false := by
    by_contra above
    have := order.trans b c a second third first (Bool.not_eq_false _ ▸ above) below
    rw [upper] at this
    cases this
  have equal := order.incomparable_trans c b a third second first lower right upper left
  rw [below] at equal
  cases equal

/-- Items are ranked by what they stand for. -/
theorem comp (order : StrictWeakOrder domain less) {inside : β → Prop} {key : β → α}
    (keys : ∀ b, inside b → domain (key b)) :
    StrictWeakOrder inside fun a b => less (key a) (key b) where
  irrefl a first := order.irrefl _ (keys a first)
  trans a b c first second third :=
    order.trans _ _ _ (keys a first) (keys b second) (keys c third)
  incomparable_trans a b c first second third :=
    order.incomparable_trans _ _ _ (keys a first) (keys b second) (keys c third)

end StrictWeakOrder

variable {ε : Type u} {α : Type v}

/-- Insert an item before the first one of a list that is not below it. -/
def insertBefore (compare : α → α → Except ε Bool) (item : α) : List α → Except ε (List α)
  | [] => .ok [item]
  | other :: rest =>
    match compare other item with
    | .error failure => .error failure
    | .ok true =>
      match insertBefore compare item rest with
      | .error failure => .error failure
      | .ok inserted => .ok (other :: inserted)
    | .ok false => .ok (item :: other :: rest)

/-- Sort a list, where items that are not ranked keep their order. -/
def stableSort (compare : α → α → Except ε Bool) : List α → Except ε (List α)
  | [] => .ok []
  | item :: items =>
    match stableSort compare items with
    | .error failure => .error failure
    | .ok sorted => insertBefore compare item sorted

/-- The items are ranked in order, and those of one rank have the order they had before. -/
def Ranked (less : α → α → Bool) (before : α → α → Prop) (items : List α) : Prop :=
  items.Pairwise fun a b => less b a = false ∧ (less a b = false → before a b)

variable {compare : α → α → Except ε Bool} {domain : α → Prop} {less : α → α → Bool}
  {before : α → α → Prop}

/-- An item from before all others is inserted into a ranked list. -/
theorem insertBefore_spec (order : StrictWeakOrder domain less)
    (compares : ∀ a b, domain a → domain b → compare a b = .ok (less a b)) {item : α}
    (own : domain item) {items : List α} (inside : ∀ a ∈ items, domain a)
    (first : ∀ a ∈ items, before item a) (ranked : Ranked less before items) :
    ∃ inserted, insertBefore compare item items = .ok inserted ∧
      inserted.Perm (item :: items) ∧ Ranked less before inserted := by
  induction items with
  | nil => exact ⟨[item], rfl, .refl _, List.pairwise_singleton ..⟩
  | cons other rest ih =>
    rw [List.forall_mem_cons] at inside first
    obtain ⟨least, others⟩ := List.pairwise_cons.mp ranked
    rw [insertBefore, compares other item inside.1 own]
    cases below : less other item with
    | true =>
      -- The item comes further back, and the first one stays the least.
      obtain ⟨inserted, done, perm, ranks⟩ := ih inside.2 first.2 others
      refine ⟨other :: inserted, by rw [done], ?_, List.pairwise_cons.mpr ⟨?_, ranks⟩⟩
      · exact (perm.cons other).trans (.swap ..)
      · intro a listed
        rcases List.mem_cons.mp (perm.mem_iff.mp listed) with rfl | later
        · exact ⟨order.asymm inside.1 own below, fun equal => by rw [below] at equal; cases equal⟩
        · exact least a later
    | false =>
      refine ⟨item :: other :: rest, rfl, .refl _, List.pairwise_cons.mpr ⟨?_, ranked⟩⟩
      intro a listed
      rcases List.mem_cons.mp listed with rfl | later
      · exact ⟨below, fun _ => first.1⟩
      · exact ⟨order.not_less_trans own inside.1 (inside.2 a later) below (least a later).1,
          fun _ => first.2 a later⟩

/-- A list is sorted to a permutation that is ranked, and stable. -/
theorem stableSort_spec (order : StrictWeakOrder domain less)
    (compares : ∀ a b, domain a → domain b → compare a b = .ok (less a b)) {items : List α}
    (inside : ∀ a ∈ items, domain a) (ordered : items.Pairwise before) :
    ∃ sorted, stableSort compare items = .ok sorted ∧ sorted.Perm items ∧
      Ranked less before sorted := by
  induction items with
  | nil => exact ⟨[], rfl, .refl _, .nil⟩
  | cons item items ih =>
    rw [List.forall_mem_cons] at inside
    obtain ⟨first, others⟩ := List.pairwise_cons.mp ordered
    obtain ⟨sorted, done, perm, ranked⟩ := ih inside.2 others
    -- What was before all others is before all sorted ones.
    obtain ⟨inserted, placed, same, ranks⟩ := insertBefore_spec order compares inside.1
      (fun a listed => inside.2 a (perm.mem_iff.mp listed))
      (fun a listed => first a (perm.mem_iff.mp listed)) ranked
    exact ⟨inserted, by rw [stableSort, done]; exact placed, same.trans (perm.cons item), ranks⟩

end Sorting
