import Mathlib.Init

/-! Loops that go on as long as a condition holds, and when one loop does what another one does. -/

namespace WhileLoop

variable {State Image : Type}

/-- Take turns as long as the condition holds, at most as many as there is fuel for: the number of
the turns, and the last state. -/
def run (cond : State → Option Bool) (turn : State → Option State) :
    Nat → State → Option (Nat × State)
  | 0, _ => none
  | fuel + 1, state => do
    let goes ← cond state
    if goes then
      let next ← turn state
      let (turns, last) ← run cond turn fuel next
      some (turns + 1, last)
    else
      some (0, state)

/-- The state after a number of turns, whatever the condition is. -/
def after (turn : State → Option State) : Nat → State → Option State
  | 0, state => some state
  | turns + 1, state => (after turn turns state).bind turn

variable {cond : State → Option Bool} {turn : State → Option State}
  {condImage : Image → Option Bool} {turnImage : Image → Option Image} {Inv : State → Prop}

/-- What each turn keeps is kept by any number of turns. -/
theorem after_keeps (keeps : ∀ state next, Inv state → turn state = some next → Inv next)
    {turns : Nat} {state last : State} (holds : Inv state)
    (reached : after turn turns state = some last) : Inv last := by
  -- The last turn is taken from a state that is reached with one turn less.
  induction turns generalizing last with
  | zero =>
    cases reached
    exact holds
  | succ turns ih =>
    rw [after, Option.bind_eq_some_iff] at reached
    obtain ⟨before, earlier, taken⟩ := reached
    exact keeps before last (ih earlier) taken

/-- The first of several turns comes before the others. -/
theorem after_succ {turns : Nat} {state next : State} (taken : turn state = some next) :
    after turn (turns + 1) state = after turn turns next := by
  induction turns with
  | zero => exact taken
  | succ turns ih => rw [after, ih, after]

/-- The last state of a run is one that is reached with the turns of the run. -/
theorem after_of_run {fuel turns : Nat} {state last : State}
    (done : run cond turn fuel state = some (turns, last)) : after turn turns state = some last := by
  induction fuel generalizing state turns with
  | zero => contradiction
  | succ fuel ih =>
    simp only [run, Option.bind_eq_bind, Option.bind_eq_some_iff] at done
    obtain ⟨goes, _, rest⟩ := done
    cases goes with
    | false =>
      cases rest
      rfl
    | true =>
      simp only [if_true, Option.bind_eq_some_iff, Option.some.injEq] at rest
      obtain ⟨next, taken, ⟨others, final⟩, continued, same⟩ := rest
      cases same
      rw [after_succ taken]
      exact ih continued

/-- The condition holds before the last turn of a run. -/
theorem cond_of_run {fuel turns : Nat} {state last : State}
    (done : run cond turn fuel state = some (turns + 1, last)) :
    ∃ before, after turn turns state = some before ∧ cond before = some true := by
  induction fuel generalizing state turns with
  | zero => contradiction
  | succ fuel ih =>
    simp only [run, Option.bind_eq_bind, Option.bind_eq_some_iff] at done
    obtain ⟨goes, holds, rest⟩ := done
    cases goes with
    | false => cases rest
    | true =>
      simp only [if_true, Option.bind_eq_some_iff, Option.some.injEq] at rest
      obtain ⟨next, taken, ⟨others, final⟩, continued, same⟩ := rest
      rw [Prod.mk.injEq, Nat.add_right_cancel_iff] at same
      obtain ⟨rfl, rfl⟩ := same
      cases others with
      | zero => exact ⟨state, rfl, holds⟩
      | succ others =>
        -- The last turn is one of those after the first.
        obtain ⟨before, reached, goesOn⟩ := ih continued
        exact ⟨before, (after_succ taken).trans reached, goesOn⟩

/-- A loop on the images of states takes as many turns as the loop on the states, and ends in the
image of its last state, when conditions and turns do as they do on the states. -/
theorem run_image (image : State → Image)
    (sameCond : ∀ state, Inv state → condImage (image state) = cond state)
    (sameTurn : ∀ state, Inv state → turnImage (image state) = (turn state).map image)
    (keeps : ∀ state next, Inv state → turn state = some next → Inv next) (fuel : Nat)
    {state : State} (holds : Inv state) :
    run condImage turnImage fuel (image state) =
      (run cond turn fuel state).map fun (turns, last) => (turns, image last) := by
  induction fuel generalizing state with
  | zero => rfl
  | succ fuel ih =>
    rw [run, run, sameCond state holds]
    cases cond state with
    | none => rfl
    | some goes =>
      cases goes with
      | false => rfl
      | true =>
        simp only [Option.bind_eq_bind, Option.bind_some, if_true, sameTurn state holds]
        cases taken : turn state with
        | none => rfl
        | some next =>
          simp only [Option.map_some, Option.bind_some, ih (keeps state next holds taken)]
          cases run cond turn fuel next <;> rfl

end WhileLoop
