import Stablehlo.Transforms.KeptComputation

/-! When a reduction without its unused results is closed and has the used ones. -/

namespace Stablehlo

open Ssa

section Reduction

variable {κ V : Type}

/-- The computation of a region, given the values around it. -/
def regionReducer (denote : Denotation κ V) (env : Env V) (body : Region κ) :
    Reducer V body.returned.length where
  run args :=
    match body.call denote env args with
    | some values => .ok values
    | none => .error .undefinedBehavior
  counted args values run := by
    obtain ⟨arguments, operations, returned⟩ := body
    split at run
    · next called =>
      cases run
      rw [Region.call] at called
      obtain ⟨_, -, called⟩ := Option.bind_eq_some_iff.mp called
      obtain ⟨_, -, called⟩ := Option.bind_eq_some_iff.mp called
      exact Env.length_read called
    · cases run

/-- A reduction of several inputs, whose body is any region, with the values around it. -/
structure MultiReduce (κ V : Type) where
  denote : Denotation κ V
  env : Env V
  body : Region κ
  inputs : List (Tensor V)
  initValues : List (Tensor V)
  dimensions : List Nat
  /-- Whether each of the results has uses. -/
  used : List Bool

/-- The results of a reduction. -/
def MultiReduce.results (op : MultiReduce κ V) : Except Failure (List (Tensor V)) :=
  inferAndReduceOp op.inputs op.initValues op.dimensions (regionReducer op.denote op.env op.body)

/-- The values are an identity of the body, for all values of the types. -/
def IsIdentity (op : MultiReduce κ V) (types : List (V → Prop)) (init : List V) : Prop :=
  ∀ values, List.Forall₂ (fun type value => type value) types values →
    op.body.call op.denote op.env (init ++ values) = some values ∧
      op.body.call op.denote op.env (values ++ init) = some values

/-- The verifiers accept the reduction, and its init values are an identity of its body. -/
structure MultiReduce.Accepted (op : MultiReduce κ V) : Prop where
  verified : BodyVerified op.body op.used.length
  inputs : op.inputs.length = op.used.length
  initValues : op.initValues.length = op.used.length
  identity : ∃ (types : List (V → Prop)) (init : List V), types.length = op.used.length ∧
    -- Every type has two values at least.
    (∀ type ∈ types, ∃ value other, type value ∧ type other ∧ value ≠ other) ∧
    readTogether op.initValues [] = .ok init ∧ IsIdentity op types init

/-- The smaller body refers to no value of the body that it has no value for. -/
def MultiReduce.Closes (op : MultiReduce κ V) (made : SmallerReduce κ) : Prop :=
  ∀ name ∈ made.body.mentions, name ∈ ownValues op.body → name ∈ ownValues made.body

/-- The smaller reduction has the results that are used. -/
def MultiReduce.KeepsResults (op : MultiReduce κ V) (made : SmallerReduce κ) : Prop :=
  ∀ results, op.results = .ok results → true ∈ op.used →
    inferAndReduceOp (keep made.usedPairs op.inputs) (keep made.usedPairs op.initValues)
      op.dimensions (regionReducer op.denote op.env made.body) = .ok (keep op.used results)

/-- The reduction stays as it is, or becomes one with a closed body and the results that are
used. -/
def MultiReduce.SimplifiesExactly (op : MultiReduce κ V) : Prop :=
  ∃ outcome, reduceOpUnusedResultCanon op.body op.used = .ok outcome ∧
    ∀ made, outcome = some made → op.Closes made ∧ op.KeepsResults made

/-- What the used results are computed from, by way of operands, and what comes with it: the other
argument of a pair, and the other results of an operation. -/
def Survives (body : Region κ) (numOperandPairs : Nat) (roots : List Nat) (value : Nat) : Prop :=
  (∃ (argNumber otherNumber : Nat) (other : Nat), body.arguments[argNumber]? = some value ∧
    body.arguments[otherNumber]? = some other ∧ Reached body roots other ∧
    argNumber % numOperandPairs = otherNumber % numOperandPairs) ∨
  ∃ operation ∈ body.operations, value ∈ operation.results ∧
    ∃ other ∈ operation.results, Reached body roots other

/-- The values that nested regions capture survive, where their operation is needed. -/
def CapturesSurvive (body : Region κ) (numOperandPairs : Nat) (roots : List Nat) : Prop :=
  ∀ operation ∈ body.operations, ∀ result ∈ operation.results, Reached body roots result →
    ∀ value ∈ Region.allMentions operation.regions, value ∈ ownValues body →
      Survives body numOperandPairs roots value

/-- Captured values survive when some result has no uses, and the others are computed from as many
pairs of arguments as there are such results. -/
def MultiReduce.Exact (op : MultiReduce κ V) : Prop :=
  false ∈ op.used → ∀ pairs : List Nat, pairs.Nodup →
    (∀ pair, pair ∈ pairs ↔ ∃ argNumber value, op.body.arguments[argNumber]? = some value ∧
      Reached op.body (keep op.used op.body.returned) value ∧
      argNumber % op.used.length = pair) →
    pairs.length = op.used.count true →
      CapturesSurvive op.body op.used.length (keep op.used op.body.returned)

end Reduction

section Outcome

variable {κ V : Type} {body : Region κ} {numOperandPairs : Nat} {roots : List Nat}
  {parts : UsedParts}

/-- The value of another region is returned whatever the arguments are. -/
theorem getElem?_call_other {denote : Denotation κ V} {env : Env V} {args values : List V}
    (called : body.call denote env args = some values) {place value : Nat}
    (returned : body.returned[place]? = some value) (other : value ∉ ownValues body) :
    values[place]? = env value := by
  obtain ⟨arguments, operations, returnedNames⟩ := body
  rw [Region.call] at called
  obtain ⟨entered, binds, called⟩ := Option.bind_eq_some_iff.mp called
  obtain ⟨left, runs, reads⟩ := Option.bind_eq_some_iff.mp called
  rw [ownValues, List.mem_append, not_or] at other
  rw [Env.getElem?_read reads returned, Operation.run_other runs other.2,
    Env.bind_other binds other.1]

variable {op : MultiReduce κ V}

end Outcome

end Stablehlo
