import Mathlib.Algebra.BigOperators.Group.Finset.Basic
import Mathlib.Algebra.Order.BigOperators.Group.Finset
import Mathlib.Order.OrderIsoNat
import Stablehlo.Dialect.Specificity

/-! The refinement of the types of values, and what it leaves behind when it fails. -/

namespace Stablehlo

/-- The operations that use a value, as far as refinement tells them apart. -/
inductive UserKind where
  | chlo | stablehlo | sdy
  | funcReturn | funcCall
  | unrealizedConversionCast
  | other
  deriving DecidableEq, Repr

/-- An operand of an operation that uses a value. -/
structure ValueUse where
  owner : Nat
  operandNumber : Nat
  user : UserKind
  deriving DecidableEq

/-- A value: its type and its uses. -/
structure TypedValue where
  type : StablehloType
  uses : List ValueUse

/-- The values of a program, by number; the numbers of further values and operations are free. -/
structure TypedProgram where
  value : Nat → TypedValue
  nextValue : Nat
  nextOperation : Nat

namespace TypedProgram

/-- The type of a value. -/
def typeOf (program : TypedProgram) (id : Nat) : StablehloType := (program.value id).type

end TypedProgram

/-- The types of the program are well formed. -/
def TypedProgram.WellFormed (program : TypedProgram) : Prop :=
  ∀ id, (program.typeOf id).WellFormed

section Loop

variable {program : TypedProgram} {id other : Nat} {refinedType : StablehloType}

end Loop

section Inference

/-- Types of which the source infers the most specific one, each with it. -/
abbrev Infers (pair : StablehloType × StablehloType) (refinedType : StablehloType) : Prop :=
  inferMostSpecificType [pair.1, pair.2] = .ok refinedType

end Inference

section Members

variable {α : Type}

end Members

section Calls

variable {program : TypedProgram} {values : List Nat} {types refinedTypes : List StablehloType}

/-- The refined type of each value, beside the type that is proposed for it. -/
def Refined (program : TypedProgram) (values : List Nat)
    (types refinedTypes : List StablehloType) : Prop :=
  List.Forall₂ (fun change refined => refined.1 = change.1 ∧
    Infers (program.typeOf change.1, change.2) refined.2)
    (values.zip types) (values.zip refinedTypes)

/-- The new type of a value is the most specific one. -/
theorem Refined.specializes (refined : Refined program values types refinedTypes)
    (wellFormed : program.WellFormed) (also : ∀ type ∈ types, type.WellFormed)
    {after : TypedProgram}
    (set : ∀ change ∈ values.zip refinedTypes, after.typeOf change.1 = change.2) :
    ∀ value ∈ values.zip types,
      Infers (program.typeOf value.1, value.2) (after.typeOf value.1) ∧
      Specializes StablehloType.Keeps StablehloType.slack StablehloType.WellFormed
        (program.typeOf value.1) value.2 (after.typeOf value.1) := by
  intro value listed
  obtain ⟨place, short, rfl⟩ := List.mem_iff_getElem.1 listed
  have shortToo : place < (values.zip refinedTypes).length := refined.length_eq ▸ short
  obtain ⟨same, inferred⟩ := (List.forall₂_iff_get.1 refined).2 place short shortToo
  have given := set _ (List.getElem_mem shortToo)
  rw [List.get_eq_getElem, List.get_eq_getElem] at same inferred
  rw [← given, same] at inferred
  refine ⟨inferred, ?_⟩
  have formed : (values.zip types)[place].2.WellFormed := also _ (List.of_mem_zip listed).2
  cases inferMostSpecificType_pair (wellFormed (values.zip types)[place].1) formed with
  | inl succeeds =>
    obtain ⟨specific, built, specializes⟩ := succeeds
    rw [Infers, built, Except.ok.injEq] at inferred
    rwa [inferred] at specializes
  | inr fails =>
    obtain ⟨message, failed⟩ := fails
    rw [Infers, failed] at inferred
    contradiction

end Calls

section Runs

variable {program : TypedProgram}

/-- What the types of the first values of a program leave open. -/
def TypedProgram.slack (program : TypedProgram) (count : Nat) : ℕ ×ₗ ℕ :=
  ∑ id ∈ Finset.range count, (program.typeOf id).slack

end Runs

end Stablehlo
