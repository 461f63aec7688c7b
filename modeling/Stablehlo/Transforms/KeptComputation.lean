import Stablehlo.Reference.Reduce
import Stablehlo.Transforms.UnusedResults

/-! What is computed for kept values: parts of a body, and reductions with them. -/

namespace Stablehlo

open Ssa

section Cloned

variable {κ V : Type} {denote : Denotation κ V} {names : Nat → Prop} {env env' : Env V}

/-- Binding the flagged names to the flagged values binds all names that matter. -/
theorem bind_keep (agree : AgreeOn names env env') {flags : List Bool} {bound : List Nat}
    {values : List V} {entered : Env V} (count : flags.length = bound.length)
    (dropped : ∀ (place : Nat) (name : Nat), flags[place]? = some false →
      bound[place]? = some name → ¬ names name)
    (binds : env.bind bound values = some entered) :
    ∃ entered', env'.bind (keep flags bound) (keep flags values) = some entered' ∧
      AgreeOn names entered entered' := by
  induction flags generalizing env env' bound values with
  | nil =>
    rw [List.length_nil, eq_comm, List.length_eq_zero_iff] at count
    subst count
    cases values with
    | nil =>
      cases binds
      exact ⟨env', rfl, agree⟩
    | cons value values => cases binds
  | cons flag flags ih =>
    cases bound with
    | nil => cases count
    | cons name bound =>
      cases values with
      | nil => cases binds
      | cons value values =>
        have behind (place other : Nat) (flagged : flags[place]? = some false)
            (found : bound[place]? = some other) : ¬ names other :=
          dropped (place + 1) other (by simpa using flagged) (by simpa using found)
        cases flag with
        | true =>
          refine @ih _ _ (fun other inside => ?_) _ _ (by simpa using count) behind binds
          by_cases same : other = name
          · rw [if_pos same, if_pos same]
          · rw [if_neg same, if_neg same]
            exact agree other inside
        | false =>
          -- The name is not one of those that matter.
          refine @ih _ _ (fun other inside => ?_) _ _ (by simpa using count) behind binds
          have differs : other ≠ name := by
            rintro rfl
            exact dropped 0 other rfl rfl inside
          rw [if_neg differs]
          exact agree other inside

end Cloned

section Tensors

variable {α β : Type} {flags : List Bool}

/-- What is computed for flagged items is what is computed for all, where flagged. -/
theorem mapM_keep {ε : Type} {compute : α → Except ε β} {items : List α} {values : List β}
    (computed : items.mapM compute = .ok values) :
    (keep flags items).mapM compute = .ok (keep flags values) := by
  induction items generalizing flags values with
  | nil =>
    cases computed
    cases flags with
    | nil => rfl
    | cons flag flags => cases flag <;> rfl
  | cons item items ih =>
    rw [List.mapM_cons] at computed
    obtain ⟨value, here, rest⟩ := Fallible.bind_eq_ok.mp computed
    obtain ⟨others, behind, same⟩ := Fallible.bind_eq_ok.mp rest
    cases same
    cases flags with
    | nil => rfl
    | cons flag flags =>
      cases flag with
      | true =>
        rw [keep, keep, List.mapM_cons, here, ih behind]
        rfl
      | false => exact ih behind

/-- Pairs of flagged items are the flagged pairs. -/
theorem keep_zip (items : List α) (others : List β) :
    keep flags (items.zip others) = (keep flags items).zip (keep flags others) := by
  induction flags generalizing items others with
  | nil => simp [keep]
  | cons flag flags ih =>
    cases items with
    | nil => simp [keep]
    | cons item items =>
      cases others with
      | nil => cases flag <;> simp [keep]
      | cons other others => cases flag <;> simp [keep, ih]

end Tensors

end Stablehlo
