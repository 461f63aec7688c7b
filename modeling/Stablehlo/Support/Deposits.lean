import Mathlib.Logic.Function.Basic
import Stablehlo.Support.Fallible

/-! Runs over items that each update the value at one place, or at none. -/

universe u v w

namespace Deposits

variable {ε : Type u} {P V : Type v} {ι : Type w} [DecidableEq P]
  (place : ι → Option P) (update : V → ι → Except ε V)

/-- Update the value at the place of an item. -/
def deposit (state : P → V) (item : ι) : Except ε (P → V) :=
  match place item with
  | none => .ok state
  | some p => do
    let value ← update (state p) item
    .ok (Function.update state p value)

/-- The items for a place, in order. -/
def itemsAt (p : P) (items : List ι) : List ι := items.filter fun item => place item = some p

variable {place update} {state final : P → V} {items : List ι}

/-- A run succeeds exactly when the items for each place turn its value into the final one. -/
theorem foldlM_eq_ok_iff :
    items.foldlM (deposit place update) state = .ok final ↔
      ∀ p, (itemsAt place p items).foldlM update (state p) = .ok (final p) := by
  induction items generalizing state with
  | nil =>
    -- Nothing is updated, at any place.
    show Except.ok state = .ok final ↔ ∀ p, Except.ok (state p) = .ok (final p)
    simp only [Except.ok.injEq, funext_iff]
  | cons item items ih =>
    rw [List.foldlM_cons, deposit]
    cases target : place item with
    | none =>
      -- The item is for no place, so no place has it among its own.
      have skipped : ∀ p, itemsAt place p (item :: items) = itemsAt place p items := fun p =>
        List.filter_cons_of_neg (by simp [target])
      simp only [skipped]
      exact ih
    | some q =>
      have own : itemsAt place q (item :: items) = item :: itemsAt place q items :=
        List.filter_cons_of_pos (by simp [target])
      have others : ∀ p, p ≠ q → itemsAt place p (item :: items) = itemsAt place p items :=
        fun p different => List.filter_cons_of_neg (by simp [target, different.symm])
      dsimp only
      cases updated : update (state q) item with
      | error failure =>
        -- The run fails, and so do the updates at the place.
        refine iff_of_false (fun run => by cases run) fun all => ?_
        have there := all q
        rw [own, List.foldlM_cons, updated] at there
        cases there
      | ok value =>
        show items.foldlM (deposit place update) (Function.update state q value) = _ ↔ _
        rw [ih]
        refine forall_congr' fun p => ?_
        by_cases same : p = q
        · subst same
          rw [own, List.foldlM_cons, updated, Function.update_self]
          rfl
        · rw [others p same, Function.update_of_ne same]

/-- A run that fails is stopped by the update for one of the items. -/
theorem error_of_foldlM {failure : ε}
    (run : items.foldlM (deposit place update) state = .error failure) :
    ∃ item ∈ items, ∃ value, update value item = .error failure := by
  induction items generalizing state with
  | nil => cases run
  | cons item items ih =>
    rw [List.foldlM_cons] at run
    cases deposited : deposit place update state item with
    | error early =>
      -- The failure is that of the first item.
      rw [deposited] at run
      cases run
      unfold deposit at deposited
      split at deposited
      · cases deposited
      · next p _ =>
        cases updated : update (state p) item with
        | error other =>
          rw [updated] at deposited
          cases deposited
          exact ⟨item, by simp, state p, updated⟩
        | ok value =>
          rw [updated] at deposited
          cases deposited
    | ok next =>
      rw [deposited] at run
      obtain ⟨other, listed, value, failed⟩ := ih run
      exact ⟨other, by simp [listed], value, failed⟩

end Deposits

namespace Fallible

variable {ε : Type u} {σ τ : Type v} {ι : Type w}

/-- Runs that proceed step by step as others do end as they end. -/
theorem foldlM_simulates {step : σ → ι → Except ε σ} {other : τ → ι → Except ε τ}
    {related : σ → τ → Prop} {items : List ι}
    (simulated : ∀ item ∈ items, ∀ state abstract, related state abstract →
      (∀ next, other abstract item = .ok next → ∃ result, step state item = .ok result ∧
        related result next) ∧
      (∀ failure, other abstract item = .error failure → step state item = .error failure))
    {state : σ} {abstract : τ} (start : related state abstract) :
    (∀ final, items.foldlM other abstract = .ok final → ∃ result,
      items.foldlM step state = .ok result ∧ related result final) ∧
    (∀ failure, items.foldlM other abstract = .error failure →
      items.foldlM step state = .error failure) := by
  induction items generalizing state abstract with
  | nil =>
    refine ⟨fun final run => ?_, fun failure run => (nomatch run)⟩
    cases run
    exact ⟨state, rfl, start⟩
  | cons item items ih =>
    obtain ⟨proceeds, fails⟩ := simulated item (by simp) state abstract start
    rw [List.foldlM_cons, List.foldlM_cons]
    cases stepped : other abstract item with
    | error failure =>
      rw [fails failure stepped]
      refine ⟨fun final run => (nomatch run), fun later run => ?_⟩
      cases run
      rfl
    | ok next =>
      -- After the step, the states are related again.
      obtain ⟨result, same, related⟩ := proceeds next stepped
      rw [same]
      exact ih (fun later listed => simulated later (by simp [listed])) related

end Fallible
