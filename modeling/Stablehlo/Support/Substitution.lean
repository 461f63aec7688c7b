import Mathlib.Algebra.BigOperators.Group.List.Basic
import Mathlib.Algebra.Field.Basic
import Mathlib.Data.List.Induction
import Mathlib.Logic.Function.Basic
import Mathlib.Tactic.FieldSimp
import Mathlib.Tactic.Ring

/-! Systems of equations that are solved one after the other, by substitution. -/

universe u v

namespace Substitution

/-- Equations, each of them for an unknown of its own and for those that are solved before it. -/
structure System (K : Type u) (ι : Type v) where
  /-- The unknowns, in the order they are solved. -/
  rows : List ι
  before : ι → List ι
  coefficient : ι → ι → K
  diagonal : ι → K
  constant : ι → K

namespace System

variable {K : Type u} {ι : Type v} [Field K] (system : System K ι)

/-- What is left of the constant of an equation without the unknowns that are solved before. -/
def remainder (x : ι → K) (i : ι) : K :=
  (system.before i).foldl (fun value j => value - system.coefficient i j * x j) (system.constant i)

/-- Solve an equation for its own unknown. -/
def solveRow [DecidableEq ι] (x : ι → K) (i : ι) : ι → K :=
  Function.update x i (system.remainder x i / system.diagonal i)

/-- The equation for an unknown holds. -/
def Holds (x : ι → K) (i : ι) : Prop :=
  ((system.before i).map fun j => system.coefficient i j * x j).sum + system.diagonal i * x i =
    system.constant i

/-- The equations can be solved in order. -/
structure Ordered : Prop where
  nodup : system.rows.Nodup
  earlier : ∀ done i rest, system.rows = done ++ i :: rest → ∀ j ∈ system.before i, j ∈ done
  nonzero : ∀ i ∈ system.rows, system.diagonal i ≠ 0

variable {system} {x : ι → K} {i : ι}

/-- The unknowns that are solved before are subtracted. -/
theorem remainder_eq : system.remainder x i =
    system.constant i - ((system.before i).map fun j => system.coefficient i j * x j).sum := by
  -- The induction is on the unknowns, for any constant.
  have subtract : ∀ (unknowns : List ι) (value : K),
      unknowns.foldl (fun value j => value - system.coefficient i j * x j) value =
        value - (unknowns.map fun j => system.coefficient i j * x j).sum := by
    intro unknowns
    induction unknowns with
    | nil => intro value; simp
    | cons j unknowns ih =>
      intro value
      rw [List.foldl_cons, ih, List.map_cons, List.sum_cons]
      ring
  exact subtract _ _

/-- Whether an equation holds depends only on its unknowns. -/
theorem Holds.congr {other : ι → K} (holds : system.Holds x i) (own : other i = x i)
    (same : ∀ j ∈ system.before i, other j = x j) : system.Holds other i := by
  have terms : ((system.before i).map fun j => system.coefficient i j * other j) =
      (system.before i).map fun j => system.coefficient i j * x j :=
    List.map_congr_left fun j listed => by rw [same j listed]
  rw [Holds, terms, own]
  exact holds

variable [DecidableEq ι]

/-- The equations that have been solved hold. -/
theorem holds_of_prefix (ordered : system.Ordered) {done rest : List ι}
    (split : system.rows = done ++ rest) :
    ∀ i ∈ done, system.Holds (done.foldl system.solveRow x) i := by
  -- One equation after the other is solved, and those before it go on to hold.
  induction done using List.reverseRecOn generalizing rest with
  | nil => nofun
  | append_singleton done last ih =>
    have split : system.rows = done ++ last :: rest := by
      rw [split, List.append_assoc, List.singleton_append]
    have nodup := ordered.nodup
    rw [split, List.nodup_append] at nodup
    have fresh : last ∉ done := fun listed => nodup.2.2 last listed last (by simp) rfl
    have before := ordered.earlier done last rest split
    have unchanged (j : ι) (member : j ∈ done) :
        system.solveRow (done.foldl system.solveRow x) last j = done.foldl system.solveRow x j := by
      rw [solveRow, Function.update_of_ne]
      rintro rfl
      exact fresh member
    rw [List.foldl_append, List.foldl_cons, List.foldl_nil]
    intro i listed
    rcases List.mem_append.mp listed with earlier | own
    · -- The unknowns of the equation were solved before, and are not changed.
      obtain ⟨front, back, same⟩ := List.append_of_mem earlier
      have others := ordered.earlier front i (back ++ last :: rest) (by rw [split, same]; simp)
      refine Holds.congr (ih split i earlier) (unchanged i earlier) fun j member => unchanged j ?_
      rw [same]
      exact List.mem_append_left _ (others j member)
    · -- The equation is the one that is solved last.
      rw [List.mem_singleton.mp own]
      have terms : ((system.before last).map fun j => system.coefficient last j *
          system.solveRow (done.foldl system.solveRow x) last j) =
            (system.before last).map fun j => system.coefficient last j *
              done.foldl system.solveRow x j :=
        List.map_congr_left fun j member => by rw [unchanged j (before j member)]
      have nonzero := ordered.nonzero last (by rw [split]; simp)
      rw [Holds, terms, solveRow, Function.update_self, remainder_eq, mul_div_cancel₀ _ nonzero,
        add_sub_cancel]

/-- All equations hold after they have been solved in order. -/
theorem holds_of_solved (ordered : system.Ordered) :
    ∀ i ∈ system.rows, system.Holds (system.rows.foldl system.solveRow x) i :=
  holds_of_prefix ordered (List.append_nil _).symm

end System

end Substitution
