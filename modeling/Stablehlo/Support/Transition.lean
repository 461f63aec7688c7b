import Mathlib.Logic.Relation

/-! Transition systems: reachable states, inductive invariants, and schedules of actors. -/

universe u v

/-- A system is given by the states it may start in and the steps it may take. -/
structure TransitionSystem (State : Type u) where
  /-- The states a run may start in. -/
  Initial : State → Prop
  /-- One step of a run. -/
  Step : State → State → Prop

namespace TransitionSystem

variable {State : Type u} {Actor : Type v} {system : TransitionSystem State}

/-- The states some finite run arrives at. -/
inductive Reachable (system : TransitionSystem State) : State → Prop
  /-- A run may stop before its first step. -/
  | initial {state : State} (start : system.Initial state) : Reachable system state
  /-- A run may take one more step. -/
  | step {before after : State} (reached : Reachable system before)
      (taken : system.Step before after) : Reachable system after

/-- Any finite number of steps, from any state. -/
def Steps (system : TransitionSystem State) : State → State → Prop :=
  Relation.ReflTransGen system.Step

/-- A state some step leaves. -/
def CanStep (system : TransitionSystem State) (state : State) : Prop :=
  ∃ after, system.Step state after

/-- A run continued by further steps is again a run. -/
theorem Reachable.steps {before after : State} (reached : system.Reachable before)
    (taken : system.Steps before after) : system.Reachable after := by
  -- The added steps are appended one at a time to the run already made.
  induction taken with
  | refl => exact reached
  | tail _ last ih => exact ih.step last

/-- What holds at every start and survives every step holds in every reachable state. -/
theorem Reachable.invariant {Inv : State → Prop}
    (base : ∀ state, system.Initial state → Inv state)
    (preserved : ∀ before after, Inv before → system.Step before after → Inv after)
    {state : State} (reached : system.Reachable state) : Inv state := by
  -- The induction follows the run.
  induction reached with
  | initial start => exact base _ start
  | step _ taken ih => exact preserved _ _ ih taken

/-- What survives every step survives every finite sequence of steps. -/
theorem Steps.invariant {Inv : State → Prop}
    (preserved : ∀ before after, Inv before → system.Step before after → Inv after)
    {before after : State} (taken : system.Steps before after) (holds : Inv before) :
    Inv after := by
  induction taken with
  | refl => exact holds
  | tail _ last ih => exact preserved _ _ ih last

/-- The system in which each actor, when it is scheduled, has at most one move. -/
def ofMoves (start : State) (move : Actor → State → Option State) : TransitionSystem State where
  Initial state := state = start
  -- The scheduler may pick any actor whose move is enabled.
  Step before after := ∃ actor, move actor before = some after

/-- Let the actors of a schedule move one after the other. -/
def follow (move : Actor → State → Option State) : List Actor → State → Option State
  | [], state => some state
  | actor :: rest, state => (move actor state).bind (follow move rest)

/-- A schedule made of two parts is followed part by part. -/
theorem follow_append (move : Actor → State → Option State) (first second : List Actor)
    (state : State) :
    follow move (first ++ second) state = (follow move first state).bind (follow move second) := by
  -- The induction is on the first part, whose head moves before everything else.
  induction first generalizing state with
  | nil => rfl
  | cons actor rest ih =>
    simp only [List.cons_append, follow]
    cases move actor state with
    | none => rfl
    | some next => exact ih next

/-- Following a schedule takes only steps of the system. -/
theorem steps_of_follow {start : State} {move : Actor → State → Option State}
    {schedule : List Actor} {before after : State}
    (followed : follow move schedule before = some after) :
    (ofMoves start move).Steps before after := by
  induction schedule generalizing before with
  | nil =>
    simp only [follow, Option.some.injEq] at followed
    exact followed ▸ Relation.ReflTransGen.refl
  | cons actor rest ih =>
    obtain ⟨next, moved, continued⟩ := Option.bind_eq_some_iff.mp followed
    exact Relation.ReflTransGen.head ⟨actor, moved⟩ (ih continued)

/-- The end of a schedule followed from the start is reachable. -/
theorem reachable_of_follow {start : State} {move : Actor → State → Option State}
    {schedule : List Actor} {state : State} (followed : follow move schedule start = some state) :
    (ofMoves start move).Reachable state :=
  -- The start is initial, and the schedule supplies the remaining steps.
  (Reachable.initial rfl).steps (steps_of_follow followed)

end TransitionSystem
