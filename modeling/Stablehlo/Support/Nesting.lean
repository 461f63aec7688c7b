import Mathlib.Logic.Relation

/-! What is nested in a value that has members of its own kind. -/

namespace Nesting

variable {α : Type*}

/-- A value that is itself, or is nested anywhere in, another one. -/
def Nested (members : α → List α) (inner outer : α) : Prop :=
  Relation.ReflTransGen (fun value member => member ∈ members value) outer inner

variable {members : α → List α}

/-- A value is nested in itself. -/
theorem Nested.refl (value : α) : Nested members value value := by
  exact Relation.ReflTransGen.refl

/-- What is nested in a member is nested in the value. -/
theorem Nested.of_member {inner member outer : α} (listed : member ∈ members outer)
    (nested : Nested members inner member) : Nested members inner outer := by
  exact Relation.ReflTransGen.head listed nested

/-- What is nested in a value is the value, or it is nested in a member. -/
theorem nested_cases {inner outer : α} (nested : Nested members inner outer) :
    inner = outer ∨ ∃ member ∈ members outer, Nested members inner member := by
  rcases Relation.ReflTransGen.cases_head nested with rfl | ⟨member, listed, rest⟩
  · exact .inl rfl
  · exact .inr ⟨member, listed, rest⟩

/-- What holds of a value as soon as it does of its members holds of all values. -/
theorem induction (size : α → Nat)
    (smaller : ∀ value, ∀ member ∈ members value, size member < size value) {P : α → Prop}
    (step : ∀ value, (∀ member ∈ members value, P member) → P value) (value : α) : P value := by
  induction measured : size value using Nat.strongRecOn generalizing value with
  | _ bound ih =>
    apply step
    intro member listed
    exact ih (size member) (measured ▸ smaller value member listed) member rfl

/--
A property that asks something of a value itself and the same property of its members.

It asks that something of everything nested in the value.
-/
theorem iff_forall_nested_of (size : α → Nat)
    (smaller : ∀ value, ∀ member ∈ members value, size member < size value) {P own : α → Prop}
    (outer : α)
    (step : ∀ value, Nested members value outer →
      (P value ↔ own value ∧ ∀ member ∈ members value, P member)) :
    P outer ↔ ∀ inner, Nested members inner outer → own inner := by
  induction outer using induction size smaller with
  | step value ih =>
    rw [step value (.refl value)]
    -- The members ask the same of what is nested in them.
    have ofMember : ∀ member ∈ members value,
        (P member ↔ ∀ inner, Nested members inner member → own inner) := by
      intro member listed
      apply ih member listed
      intro inner nested
      exact step inner (nested.of_member listed)
    constructor
    · intro ⟨ownValue, ofMembers⟩ inner nested
      rcases nested_cases nested with rfl | ⟨member, listed, rest⟩
      · exact ownValue
      · exact (ofMember member listed).mp (ofMembers member listed) inner rest
    · intro all
      refine ⟨all value (.refl value), fun member listed => ?_⟩
      apply (ofMember member listed).mpr
      intro inner nested
      exact all inner (nested.of_member listed)

/-- The same for a property that asks this of every value. -/
theorem iff_forall_nested (size : α → Nat)
    (smaller : ∀ value, ∀ member ∈ members value, size member < size value) {P own : α → Prop}
    (step : ∀ value, P value ↔ own value ∧ ∀ member ∈ members value, P member) (value : α) :
    P value ↔ ∀ inner, Nested members inner value → own inner :=
  iff_forall_nested_of size smaller value fun inner _ => step inner

end Nesting
