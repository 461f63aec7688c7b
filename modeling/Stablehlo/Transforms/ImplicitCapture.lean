import Stablehlo.Support.WhileLoop
import Stablehlo.Transforms.UnusedResults

/-! The simplification of a while loop some of whose values are the same in every iteration. -/

namespace Stablehlo

open Ssa

section Pattern

variable {κ : Type}

/-- A while loop: the values that it starts with, its results, and its two regions. -/
structure WhileOp (κ : Type) where
  operands : List Nat
  results : List Nat
  cond : Region κ
  body : Region κ

/-- Let all uses of a value in a region be uses of another one. -/
def replaceAllUsesWith (value replacement : Nat) (region : Region κ) : Region κ :=
  region.rename fun name => if name = value then replacement else name

/-- The regions of a loop while values are captured, and which values were. -/
structure Capturing (κ : Type) where
  cond : Region κ
  body : Region κ
  invariantArgs : List Bool

/-- Capture the value at a place, if what is returned for it now is the value that the loop starts
with, or the argument itself. -/
def captureArgument (place whileOperand condBlockArg bodyBlockArg : Nat) (state : Capturing κ) :
    Capturing κ :=
  let bodyReturnOperand := state.body.returned[place]?
  if some whileOperand = bodyReturnOperand ∨ some bodyBlockArg = bodyReturnOperand then
    { cond := replaceAllUsesWith condBlockArg whileOperand state.cond
      body := replaceAllUsesWith bodyBlockArg whileOperand state.body
      invariantArgs := state.invariantArgs ++ [true] }
  else
    { state with invariantArgs := state.invariantArgs ++ [false] }

/-- Capture values from a place on. -/
def captureArguments : Nat → List (Nat × Nat × Nat) → Capturing κ → Capturing κ
  | _, [], state => state
  | place, (whileOperand, condBlockArg, bodyBlockArg) :: rest, state =>
    captureArguments (place + 1) rest
      (captureArgument place whileOperand condBlockArg bodyBlockArg state)

/-- What the uses of a result become uses of. -/
inductive ResultReplacement where
  /-- The value that the loop starts with. -/
  | operand (name : Nat)
  /-- A result of the new loop. -/
  | result (place : Nat)

/-- The replacements of the results from a result of the new loop on. -/
def replaceResults : Nat → List Bool → List Nat → List ResultReplacement
  | place, true :: flags, name :: operands => .operand name :: replaceResults place flags operands
  | place, false :: flags, _ :: operands => .result place :: replaceResults (place + 1) flags operands
  | _, _, _ => []

/-- A loop in place of another one. -/
structure CapturedWhile (κ : Type) where
  operands : List Nat
  cond : Region κ
  body : Region κ
  replacements : List ResultReplacement

/-- Turn values that are the same in every iteration into implicit captures. -/
def whileOpImplicitCapture (whileOp : WhileOp κ) : Option (CapturedWhile κ) :=
  if (whileOp.operands.zip (whileOp.body.arguments.zip whileOp.body.returned)).any
      fun (operand, argument, returned) => operand == returned || argument == returned then
    let state := captureArguments 0
      (whileOp.operands.zip (whileOp.cond.arguments.zip whileOp.body.arguments))
      ⟨whileOp.cond, whileOp.body, []⟩
    let kept := state.invariantArgs.map not
    some {
      operands := keep kept whileOp.operands
      cond := .node (keep kept state.cond.arguments) state.cond.operations state.cond.returned
      body := .node (keep kept state.body.arguments) state.body.operations
        (keep kept state.body.returned)
      replacements := replaceResults 0 state.invariantArgs whileOp.operands }
  else
    none

/-- What is verified of a loop: a value of each kind at each place, and each value is defined
once. -/
structure WhileOp.Verified (whileOp : WhileOp κ) : Prop where
  condArguments : whileOp.cond.arguments.length = whileOp.operands.length
  bodyArguments : whileOp.body.arguments.length = whileOp.operands.length
  returned : whileOp.body.returned.length = whileOp.operands.length
  condDefinitions : whileOp.cond.definitions.Nodup
  bodyDefinitions : whileOp.body.definitions.Nodup
  condOperands : ∀ name ∈ whileOp.operands, name ∉ whileOp.cond.definitions
  bodyOperands : ∀ name ∈ whileOp.operands, name ∉ whileOp.body.definitions

end Pattern

section Values

variable {κ V : Type} (denote : Denotation κ V) (getBooleanValue : List V → Option Bool)

/-- Run the body of a loop on its values as long as its condition holds for them: the number of
the iterations and the results. -/
def whileOp (env : Env V) (cond body : Region κ) : Nat → List V → Option (Nat × List V) :=
  WhileLoop.run (fun results => (cond.call denote env results).bind getBooleanValue)
    (body.call denote env)

/-- The values that a loop carries after a number of iterations. -/
def carried (env : Env V) (body : Region κ) : Nat → List V → Option (List V) :=
  WhileLoop.after (body.call denote env)

/-- The value of what replaces a result. -/
def ResultReplacement.value (env : Env V) (results : List V) : ResultReplacement → Option V
  | .operand name => env name
  | .result place => results[place]?

/-- What is asked of a loop in place of another one, for the values that are in scope. With any
number of iterations that the loops may take, both take the same number of them or neither ends;
the results have the values of what replaces them; and a value is only left out when it is the
first one after every number of iterations. -/
def SameLoop (env : Env V) (loop : WhileOp κ) (captured : CapturedWhile κ) (init : List V) : Prop :=
  ∃ start, env.read captured.operands = some start ∧
    (∀ fuel, (whileOp denote getBooleanValue env captured.cond captured.body fuel start).map Prod.fst
      = (whileOp denote getBooleanValue env loop.cond loop.body fuel init).map Prod.fst) ∧
    (∀ fuel iterations results newResults,
      whileOp denote getBooleanValue env loop.cond loop.body fuel init =
          some (iterations, results) →
      whileOp denote getBooleanValue env captured.cond captured.body fuel start =
          some (iterations, newResults) →
      captured.replacements.mapM (·.value env newResults) = some results) ∧
    ∀ (place name : Nat), captured.replacements[place]? = some (.operand name) →
      ∀ iterations values, carried denote env loop.body iterations init = some values →
        values[place]? = init[place]?

end Values

section Names

variable {arguments operands : List Nat} {flags : List Bool} {names : Nat → Nat}

/-- Other names for the arguments at the flagged places: those of the operands there. -/
structure Moves (arguments operands : List Nat) (flags : List Bool) (names : Nat → Nat) : Prop where
  moved : ∀ (place argument operand : Nat), flags[place]? = some true →
    arguments[place]? = some argument → operands[place]? = some operand → names argument = operand
  others : ∀ name, (∀ place : Nat, flags[place]? = some true → arguments[place]? ≠ some name) →
    names name = name

/-- At first, no argument has another name. -/
theorem moves_nil : Moves arguments operands [] id where
  moved := by
    intro place argument operand flagged
    contradiction
  others := fun _ _ => rfl

/-- One more place that is not flagged has no other name. -/
theorem Moves.skip (moves : Moves arguments operands flags names) :
    Moves arguments operands (flags ++ [false]) names where
  moved := by
    intro place argument operand flagged
    apply moves.moved
    grind
  others := by
    intro name apart
    apply moves.others
    intro place flagged
    apply apart
    grind

/-- One more place that is flagged has the name of its operand. -/
theorem Moves.capture (moves : Moves arguments operands flags names) (nodup : arguments.Nodup)
    (apart : ∀ operand ∈ operands, operand ∉ arguments) {argument operand : Nat}
    (here : arguments[flags.length]? = some argument)
    (there : operands[flags.length]? = some operand) :
    Moves arguments operands (flags ++ [true])
      ((fun name => if name = argument then operand else name) ∘ names) where
  moved := by
    intro place other target flagged found targeted
    rw [Function.comp_apply]
    by_cases last : place = flags.length
    · -- The argument had no other name before, since it is at no other place.
      rw [last, here, Option.some.injEq] at found
      rw [last, there, Option.some.injEq] at targeted
      subst found targeted
      have fresh : names argument = argument := by
        apply moves.others
        intro earlier flaggedToo same
        have inside : earlier < flags.length := (List.getElem?_eq_some_iff.1 flaggedToo).1
        have equal := (List.getElem?_inj (List.getElem?_eq_some_iff.1 same).1 nodup).1
          (same.trans here.symm)
        omega
      rw [fresh, if_pos rfl]
    · have flaggedBefore : flags[place]? = some true := by grind
      rw [moves.moved place other target flaggedBefore found targeted, if_neg]
      intro same
      exact apart target (List.mem_of_getElem? targeted) (same ▸ List.mem_of_getElem? here)
  others := by
    intro name notFlagged
    have before : names name = name := by
      apply moves.others
      intro place flagged
      apply notFlagged
      grind
    rw [Function.comp_apply, before, if_neg]
    intro same
    exact notFlagged flags.length (by simp) (same ▸ here)

/-- A definition that is no argument and no operand has its own name, and no other value has it. -/
theorem Moves.unmoved (moves : Moves arguments operands flags names) {definition : Nat}
    (count : flags.length ≤ operands.length) (notOperand : definition ∉ operands)
    (kept : ∀ place : Nat, flags[place]? = some true → arguments[place]? ≠ some definition) :
    Unmoved names definition := by
  intro name
  constructor
  · intro same
    by_cases flagged : ∀ place : Nat, flags[place]? = some true → arguments[place]? ≠ some name
    · rwa [moves.others name flagged] at same
    · -- A moved argument has the name of an operand.
      simp only [Classical.not_forall, not_not] at flagged
      obtain ⟨place, marked, found⟩ := flagged
      have inside : place < operands.length :=
        lt_of_lt_of_le (List.getElem?_eq_some_iff.1 marked).1 count
      rw [moves.moved place name operands[place] marked found
        (List.getElem?_eq_getElem inside)] at same
      exact absurd (same ▸ List.getElem_mem inside) notOperand
  · intro same
    rw [same]
    exact moves.others definition kept

end Names

section Loop

variable {κ : Type} {loop : WhileOp κ}

/-- The names of the arguments of a region. -/
theorem rename_arguments (names : Nat → Nat) (region : Region κ) :
    (region.rename names).arguments = region.arguments := by
  cases region with
  | node arguments operations returned => rfl

/-- The names of what a region returns. -/
theorem rename_returned (names : Nat → Nat) (region : Region κ) :
    (region.rename names).returned = region.returned.map names := by
  cases region with
  | node arguments operations returned => rfl

/-- The arguments of a region are defined once when all that it defines is. -/
theorem arguments_nodup {region : Region κ} (nodup : region.definitions.Nodup) :
    region.arguments.Nodup := by
  cases region with
  | node arguments operations returned => exact (List.nodup_append.1 nodup).1

/-- The arguments of a region are among its definitions. -/
theorem mem_definitions {region : Region κ} {name : Nat} (listed : name ∈ region.arguments) :
    name ∈ region.definitions := by
  cases region with
  | node arguments operations returned => exact List.mem_append_left _ listed

/-- What is known of a loop after the values at some places have been captured or not. -/
structure Captures (loop : WhileOp κ) (state : Capturing κ) : Prop where
  count : state.invariantArgs.length ≤ loop.operands.length
  cond : ∃ names, state.cond = loop.cond.rename names ∧
    Moves loop.cond.arguments loop.operands state.invariantArgs names
  /-- What is returned at a captured place is what the loop starts with. -/
  body : ∃ names, state.body = loop.body.rename names ∧
    Moves loop.body.arguments loop.operands state.invariantArgs names ∧
    ∀ (place operand returned : Nat), state.invariantArgs[place]? = some true →
      loop.operands[place]? = some operand → loop.body.returned[place]? = some returned →
      names returned = operand

/-- At first, nothing is captured. -/
theorem captures_nil : Captures loop ⟨loop.cond, loop.body, []⟩ where
  count := Nat.zero_le _
  cond := ⟨id, (Region.rename_id loop.cond).symm, moves_nil⟩
  body := by
    refine ⟨id, (Region.rename_id loop.body).symm, moves_nil, ?_⟩
    intro place operand returned flagged
    contradiction

/-- The value at the next place is captured, or it is not. -/
theorem Captures.next {state : Capturing κ} (captures : Captures loop state)
    (verified : loop.Verified) {operand condArgument bodyArgument : Nat}
    (operandThere : loop.operands[state.invariantArgs.length]? = some operand)
    (condThere : loop.cond.arguments[state.invariantArgs.length]? = some condArgument)
    (bodyThere : loop.body.arguments[state.invariantArgs.length]? = some bodyArgument) :
    Captures loop (captureArgument state.invariantArgs.length operand condArgument bodyArgument
      state) ∧
    (captureArgument state.invariantArgs.length operand condArgument bodyArgument
      state).invariantArgs.length = state.invariantArgs.length + 1 := by
  obtain ⟨count, ⟨condNames, condSame, condMoves⟩, bodyNames, bodySame, bodyMoves, returned⟩ :=
    captures
  have inside : state.invariantArgs.length < loop.operands.length :=
    (List.getElem?_eq_some_iff.1 operandThere).1
  have condApart : ∀ operand ∈ loop.operands, operand ∉ loop.cond.arguments :=
    fun operand listed argument => verified.condOperands operand listed (mem_definitions argument)
  have bodyApart : ∀ operand ∈ loop.operands, operand ∉ loop.body.arguments :=
    fun operand listed argument => verified.bodyOperands operand listed (mem_definitions argument)
  rw [captureArgument]
  by_cases forwarded : some operand = state.body.returned[state.invariantArgs.length]? ∨
      some bodyArgument = state.body.returned[state.invariantArgs.length]?
  · rw [if_pos forwarded]
    refine ⟨⟨by rw [List.length_append]; exact inside, ?_, ?_⟩, List.length_append⟩
    · refine ⟨_, ?_, condMoves.capture (arguments_nodup verified.condDefinitions) condApart
        condThere operandThere⟩
      show replaceAllUsesWith condArgument operand state.cond = _
      rw [replaceAllUsesWith, condSame, Region.rename_rename]
    · refine ⟨_, ?_, bodyMoves.capture (arguments_nodup verified.bodyDefinitions) bodyApart
        bodyThere operandThere, ?_⟩
      · show replaceAllUsesWith bodyArgument operand state.body = _
        rw [replaceAllUsesWith, bodySame, Region.rename_rename]
      · -- An operand is no argument, so it stays what it is.
        have stays : ∀ other ∈ loop.operands,
            (if other = bodyArgument then operand else other) = other := by
          intro other listed
          rw [if_neg]
          intro same
          exact bodyApart other listed (same ▸ List.mem_of_getElem? bodyThere)
        intro place target value flagged targeted found
        rw [Function.comp_apply]
        by_cases last : place = state.invariantArgs.length
        · rw [last] at targeted found
          rw [operandThere, Option.some.injEq] at targeted
          rw [bodySame, rename_returned, List.getElem?_map, found, Option.map_some,
            Option.some.injEq, Option.some.injEq] at forwarded
          subst targeted
          cases forwarded with
          | inl same =>
            rw [← same]
            exact stays operand (List.mem_of_getElem? operandThere)
          | inr same => rw [← same, if_pos rfl]
        · have before : state.invariantArgs[place]? = some true := by grind
          rw [returned place target value before targeted found]
          exact stays target (List.mem_of_getElem? targeted)
  · rw [if_neg forwarded]
    refine ⟨⟨by rw [List.length_append]; exact inside, ?_, ?_⟩, List.length_append⟩
    · exact ⟨condNames, condSame, condMoves.skip⟩
    · refine ⟨bodyNames, bodySame, bodyMoves.skip, ?_⟩
      intro place target value flagged
      apply returned place target value
      grind

/-- All places are gone through. -/
theorem Captures.captureArguments {state : Capturing κ} (captures : Captures loop state)
    (verified : loop.Verified) {rest : List (Nat × Nat × Nat)}
    (behind : (loop.operands.zip (loop.cond.arguments.zip loop.body.arguments)).drop
      state.invariantArgs.length = rest) :
    Captures loop (captureArguments state.invariantArgs.length rest state) ∧
      (captureArguments state.invariantArgs.length rest state).invariantArgs.length =
        loop.operands.length := by
  -- The places that are left are those behind the flags.
  induction rest generalizing state with
  | nil =>
    refine ⟨captures, ?_⟩
    have most := captures.count
    have none := List.drop_eq_nil_iff.1 behind
    rw [List.length_zip, List.length_zip, verified.condArguments, verified.bodyArguments] at none
    rw [Stablehlo.captureArguments]
    omega
  | cons item rest ih =>
    obtain ⟨operand, condArgument, bodyArgument⟩ := item
    have here : (loop.operands.zip (loop.cond.arguments.zip loop.body.arguments))[
        state.invariantArgs.length]? = some (operand, condArgument, bodyArgument) := by
      rw [← List.head?_drop, behind]
      rfl
    have others : (loop.operands.zip (loop.cond.arguments.zip loop.body.arguments)).drop
        (state.invariantArgs.length + 1) = rest := by
      rw [← List.tail_drop, behind]
      rfl
    rw [List.getElem?_zip_eq_some, List.getElem?_zip_eq_some] at here
    obtain ⟨operandThere, condThere, bodyThere⟩ := here
    obtain ⟨next, count⟩ := captures.next verified operandThere condThere bodyThere
    rw [Stablehlo.captureArguments, ← count]
    apply ih next
    rw [count]
    exact others

end Loop

section Simulation

variable {κ V : Type} {denote : Denotation κ V} {names : Nat → Nat} {first second env : Env V}

/-- Binding the arguments that are kept is binding all, when the others stand for what has their
new names. -/
theorem bind_captured {flags : List Bool} {bound : List Nat} {values : List V}
    (sameFlags : flags.length = bound.length) (sameValues : values.length = bound.length)
    (renamed : ∀ name, name ∉ bound → first (names name) = second name)
    (unmoved : ∀ (place name : Nat), flags[place]? = some false → bound[place]? = some name →
      Unmoved names name)
    (captured : ∀ (place name : Nat), flags[place]? = some true → bound[place]? = some name →
      names name ∉ bound ∧ first (names name) = values[place]?) :
    RenamedOutcome names (first.bind (keep (flags.map not) bound) (keep (flags.map not) values))
      (second.bind bound values) := by
  induction flags generalizing first second bound values with
  | nil =>
    rw [List.length_nil, eq_comm, List.length_eq_zero_iff] at sameFlags
    subst sameFlags
    rw [List.length_nil, List.length_eq_zero_iff] at sameValues
    subst sameValues
    intro name
    apply renamed
    exact List.not_mem_nil
  | cons flag flags ih =>
    cases bound with
    | nil => cases sameFlags
    | cons argument bound =>
      cases values with
      | nil => cases sameValues
      | cons value values =>
        have flagsBehind : flags.length = bound.length := by simpa using sameFlags
        have valuesBehind : values.length = bound.length := by simpa using sameValues
        have unmovedBehind (place name : Nat) (flagged : flags[place]? = some false)
            (found : bound[place]? = some name) : Unmoved names name :=
          unmoved (place + 1) name (by simpa using flagged) (by simpa using found)
        have capturedBehind (place name : Nat) (flagged : flags[place]? = some true)
            (found : bound[place]? = some name) :
            names name ∉ argument :: bound ∧ first (names name) = values[place]? := by
          simpa using captured (place + 1) name (by simpa using flagged) (by simpa using found)
        cases flag with
        | false =>
          have stays : Unmoved names argument := unmoved 0 argument rfl rfl
          refine ih flagsBehind valuesBehind ?_ unmovedBehind ?_
          · intro name other
            by_cases same : name = argument
            · rw [if_pos ((stays name).2 same), if_pos same]
            · rw [if_neg (mt (stays name).1 same), if_neg same]
              apply renamed
              rw [List.mem_cons, not_or]
              exact ⟨same, other⟩
          · intro place name flagged found
            obtain ⟨apart, known⟩ := capturedBehind place name flagged found
            rw [List.mem_cons, not_or] at apart
            rw [if_neg apart.1]
            exact ⟨apart.2, known⟩
        | true =>
          -- Only the second environment gets a value for the argument.
          refine ih flagsBehind valuesBehind ?_ unmovedBehind ?_
          · intro name other
            by_cases same : name = argument
            · rw [if_pos same, same]
              exact (captured 0 argument rfl rfl).2
            · rw [if_neg same]
              apply renamed
              rw [List.mem_cons, not_or]
              exact ⟨same, other⟩
          · intro place name flagged found
            obtain ⟨apart, known⟩ := capturedBehind place name flagged found
            rw [List.mem_cons, not_or] at apart
            exact ⟨apart.2, known⟩

/-- What is not kept is flagged. -/
theorem flagged_of_dropped {flags : List Bool} {place : Nat}
    (dropped : (flags.map not)[place]? = some false) : flags[place]? = some true := by
  rw [List.getElem?_map, Option.map_eq_some_iff] at dropped
  obtain ⟨flag, found, flips⟩ := dropped
  cases flag with
  | true => exact found
  | false => contradiction

/-- Where names that are left out are defined, the kept names are read for the kept values. -/
theorem read_defined {flags : List Bool} {listed : List Nat}
    (count : flags.length = listed.length)
    (defined : ∀ (place name : Nat), flags[place]? = some false → listed[place]? = some name →
      ∃ value, env name = some value) :
    env.read (keep flags listed) = (env.read listed).map (keep flags) := by
  induction flags generalizing listed with
  | nil =>
    rw [List.length_nil, eq_comm, List.length_eq_zero_iff] at count
    subst count
    rfl
  | cons flag flags ih =>
    cases listed with
    | nil => cases count
    | cons name listed =>
      have rest := ih (by simpa using count) fun place other flagged found =>
        defined (place + 1) other (by simpa using flagged) (by simpa using found)
      rw [Env.read, Env.read] at rest
      cases flag with
      | true =>
        rw [keep, Env.read, Env.read, List.mapM_cons, List.mapM_cons, rest]
        cases env name with
        | none => rfl
        | some value => cases List.mapM env listed <;> rfl
      | false =>
        obtain ⟨value, here⟩ := defined 0 name rfl rfl
        rw [keep, Env.read, Env.read, List.mapM_cons, rest, here]
        cases List.mapM env listed <;> rfl

/-- Names that are not defined in a region mean in it what they mean outside. -/
theorem left_other {region : Region κ} {values : List V} {entered left : Env V}
    (binds : env.bind region.arguments values = some entered)
    (runs : Operation.run denote entered region.operations = some left) {name : Nat}
    (other : name ∉ region.definitions) : left name = env name := by
  cases region with
  | node arguments operations returned =>
    rw [Region.definitions, List.mem_append, not_or] at other
    rw [Operation.run_other runs, Env.bind_other binds other.1]
    intro listed
    exact other.2 (Operation.results_subset operations listed)

section Captured

variable {region : Region κ} {operands : List Nat} {flags : List Bool} {values : List V}
  (moves : Moves region.arguments operands flags names) (nodup : region.definitions.Nodup)
  (apart : ∀ operand ∈ operands, operand ∉ region.definitions)
  (sameFlags : flags.length = operands.length)
  (sameArguments : region.arguments.length = operands.length)

include moves nodup apart sameFlags sameArguments

/-- The operations of a region compute the same when arguments are replaced by what has their
values. -/
theorem run_captured (sameValues : values.length = operands.length)
    (known : ∀ (place operand : Nat), flags[place]? = some true →
      operands[place]? = some operand → values[place]? = env operand) :
    RenamedOutcome names
      ((env.bind (keep (flags.map not) region.arguments) (keep (flags.map not) values)).bind
        (Operation.run denote · (Operation.renameAll names region.operations)))
      ((env.bind region.arguments values).bind (Operation.run denote · region.operations)) := by
  cases region with
  | node arguments operations returned =>
    rw [Region.definitions] at nodup
    obtain ⟨distinct, _, disjoint⟩ := List.nodup_append.1 nodup
    have most : flags.length ≤ operands.length := sameFlags.le
    have bound : RenamedOutcome names
        (env.bind (keep (flags.map not) arguments) (keep (flags.map not) values))
        (env.bind arguments values) := by
      refine bind_captured (sameFlags.trans sameArguments.symm)
        (sameValues.trans sameArguments.symm) ?_ ?_ ?_
      · intro name other
        rw [moves.others name]
        intro place flagged found
        exact other (List.mem_of_getElem? found)
      · intro place name flagged found
        have listed : name ∈ arguments := List.mem_of_getElem? found
        apply moves.unmoved most
        · intro operand
          exact apart name operand (List.mem_append_left _ listed)
        · -- The name is at no other place, and this one is not flagged.
          intro other flaggedToo same
          have equal := (List.getElem?_inj (List.getElem?_eq_some_iff.1 same).1 distinct).1
            (same.trans found.symm)
          rw [equal, flagged] at flaggedToo
          contradiction
      · intro place name flagged found
        have inside : place < operands.length := by
          have := (List.getElem?_eq_some_iff.1 flagged).1
          omega
        have there : operands[place]? = some operands[place] := List.getElem?_eq_getElem inside
        rw [moves.moved place name _ flagged found there]
        refine ⟨?_, (known place _ flagged there).symm⟩
        intro listed
        exact apart _ (List.getElem_mem inside) (List.mem_append_left _ listed)
    have others : ∀ definition ∈ Operation.allDefinitions operations, Unmoved names definition := by
      intro definition listed
      apply moves.unmoved most
      · intro operand
        exact apart definition operand (List.mem_append_right _ listed)
      · intro place _ found
        exact disjoint definition (List.mem_of_getElem? found) definition listed rfl
    show RenamedOutcome names ((env.bind (keep (flags.map not) arguments) _).bind _)
      ((env.bind arguments values).bind _)
    revert bound
    cases env.bind (keep (flags.map not) arguments) (keep (flags.map not) values) with
    | none =>
      cases env.bind arguments values with
      | none => exact fun _ => trivial
      | some latter => exact False.elim
    | some former =>
      cases env.bind arguments values with
      | none => exact False.elim
      | some latter => exact fun entered => Operation.run_rename entered operations others

end Captured

/-- What a region of given parts returns is read after its operations. -/
theorem call_node (arguments returned : List Nat) (operations : List (Operation κ))
    (values : List V) :
    (Region.node arguments operations returned).call denote env values =
      ((env.bind arguments values).bind (Operation.run denote · operations)).bind
        (·.read returned) := by
  rw [Region.call]
  exact (Option.bind_assoc _ _ _).symm

/-- What a region returns is read after its operations. -/
theorem call_eq (region : Region κ) (values : List V) :
    region.call denote env values =
      ((env.bind region.arguments values).bind (Operation.run denote · region.operations)).bind
        (·.read region.returned) := by
  cases region with
  | node arguments operations returned => exact call_node arguments returned operations values

/-- The operations of a region with other names. -/
theorem rename_operations (region : Region κ) :
    (region.rename names).operations = Operation.renameAll names region.operations := by
  cases region with
  | node arguments operations returned => rfl

/-- The values at the flagged places are those that a loop starts with. -/
structure Unchanged (env : Env V) (operands : List Nat) (flags : List Bool) (values : List V) :
    Prop where
  count : values.length = operands.length
  known : ∀ (place operand : Nat), flags[place]? = some true →
    operands[place]? = some operand → values[place]? = env operand

/-- A loop starts with its operands. -/
theorem unchanged_of_read {operands : List Nat} {flags : List Bool} {init : List V}
    (reads : env.read operands = some init) : Unchanged env operands flags init where
  count := Env.length_read reads
  known := fun _ _ _ found => Env.getElem?_read reads found

variable {loop : WhileOp κ} {state : Capturing κ}

/-- The condition is the same for the values that are kept. -/
theorem Captures.call_cond (captures : Captures loop state) (verified : loop.Verified)
    (sameFlags : state.invariantArgs.length = loop.operands.length) {values : List V}
    (unchanged : Unchanged env loop.operands state.invariantArgs values) :
    (Region.node (keep (state.invariantArgs.map not) state.cond.arguments) state.cond.operations
      state.cond.returned).call denote env (keep (state.invariantArgs.map not) values) =
      loop.cond.call denote env values := by
  obtain ⟨names, renamed, moves⟩ := captures.cond
  have outcome := @run_captured _ _ denote _ env _ _ _ _ moves verified.condDefinitions
    verified.condOperands sameFlags verified.condArguments unchanged.count unchanged.known
  rw [renamed, rename_arguments, rename_operations, rename_returned, call_node, call_eq]
  refine outcome.bind fun former latter left => ?_
  exact left.read loop.cond.returned

/-- What is returned at a flagged place is what the loop starts with. -/
theorem returned_known {operands : List Nat} {flags : List Bool} {region : Region κ}
    (moves : Moves region.arguments operands flags names)
    (apart : ∀ operand ∈ operands, operand ∉ region.definitions)
    {values : List V} {entered left : Env V}
    (binds : env.bind region.arguments values = some entered)
    (runs : Operation.run denote entered region.operations = some left) {former : Env V}
    (renamed : RenamedEnv names former left) {operand returned : Nat}
    (there : operand ∈ operands) (same : names returned = operand) : left returned = env operand := by
  have stays : names operand = operand := by
    apply moves.others
    intro place _ found
    exact apart operand there (mem_definitions (List.mem_of_getElem? found))
  calc left returned = former (names returned) := (renamed returned).symm
    _ = former (names operand) := by rw [same, stays]
    _ = left operand := renamed operand
    _ = env operand := left_other binds runs (apart operand there)

/-- The body returns the kept ones of the values that it returned, and the others are the same
after it. -/
theorem Captures.call_body (captures : Captures loop state) (verified : loop.Verified)
    (sameFlags : state.invariantArgs.length = loop.operands.length) {init values : List V}
    (reads : env.read loop.operands = some init)
    (unchanged : Unchanged env loop.operands state.invariantArgs values) :
    (Region.node (keep (state.invariantArgs.map not) state.body.arguments) state.body.operations
      (keep (state.invariantArgs.map not) state.body.returned)).call denote env
        (keep (state.invariantArgs.map not) values) =
      (loop.body.call denote env values).map (keep (state.invariantArgs.map not)) ∧
    ∀ next, loop.body.call denote env values = some next →
      Unchanged env loop.operands state.invariantArgs next := by
  obtain ⟨names, renamed, moves, forwarded⟩ := captures.body
  have outcome := @run_captured _ _ denote _ env _ _ _ _ moves verified.bodyDefinitions
    verified.bodyOperands sameFlags verified.bodyArguments unchanged.count unchanged.known
  rw [renamed, rename_arguments, rename_operations, rename_returned, call_node, call_eq, keep_map]
  cases computed : (env.bind loop.body.arguments values).bind
      (Operation.run denote · loop.body.operations) with
  | none =>
    rw [computed] at outcome
    rw [outcome.of_none]
    refine ⟨rfl, ?_⟩
    intro next failed
    contradiction
  | some left =>
    rw [computed] at outcome
    obtain ⟨former, here, renamedLeft⟩ := outcome.of_some
    obtain ⟨entered, binds, runs⟩ := Option.bind_eq_some_iff.1 computed
    have returnedKnown (place operand returned : Nat)
        (flagged : state.invariantArgs[place]? = some true)
        (there : loop.operands[place]? = some operand)
        (found : loop.body.returned[place]? = some returned) : left returned = env operand :=
      returned_known moves verified.bodyOperands binds runs renamedLeft
        (List.mem_of_getElem? there) (forwarded place operand returned flagged there found)
    rw [here, Option.bind_some, Option.bind_some, renamedLeft.read]
    refine ⟨read_defined ?_ ?_, ?_⟩
    · rw [List.length_map, sameFlags, verified.returned]
    · intro place returned dropped found
      have flagged := flagged_of_dropped dropped
      have inside : place < loop.operands.length := by
        have := (List.getElem?_eq_some_iff.1 flagged).1
        omega
      have there := List.getElem?_eq_getElem inside
      have reached : place < init.length := by
        rw [Env.length_read reads]
        exact inside
      refine ⟨init[place], ?_⟩
      rw [returnedKnown place _ returned flagged there found, ← Env.getElem?_read reads there,
        List.getElem?_eq_getElem reached]
    · intro next returns
      refine ⟨(Env.length_read returns).trans verified.returned, ?_⟩
      intro place operand flagged there
      have inside : place < loop.body.returned.length := by
        have := (List.getElem?_eq_some_iff.1 there).1
        rw [verified.returned]
        exact this
      have found := List.getElem?_eq_getElem inside
      rw [Env.getElem?_read returns found]
      exact returnedKnown place operand _ flagged there found

/-- Flagged results have the values of their operands, and the others are those of the new loop. -/
theorem mapM_replaceResults {flags : List Bool} {operands : List Nat}
    {results newResults : List V} {place : Nat} (sameFlags : flags.length = operands.length)
    (unchanged : Unchanged env operands flags results)
    (behind : newResults.drop place = keep (flags.map not) results) :
    (replaceResults place flags operands).mapM (·.value env newResults) = some results := by
  obtain ⟨count, known⟩ := unchanged
  induction flags generalizing place operands results with
  | nil =>
    rw [List.length_nil, eq_comm, List.length_eq_zero_iff] at sameFlags
    subst sameFlags
    rw [List.length_nil, List.length_eq_zero_iff] at count
    subst count
    rfl
  | cons flag flags ih =>
    cases operands with
    | nil => cases sameFlags
    | cons name operands =>
      cases results with
      | nil => cases count
      | cons result results =>
        have rest (start : Nat) (there : newResults.drop start = keep (flags.map not) results) :
            (replaceResults start flags operands).mapM (·.value env newResults) = some results := by
          apply ih (by simpa using sameFlags) there (by simpa using count)
          intro other operand flagged found
          simpa using known (other + 1) operand (by simpa using flagged) (by simpa using found)
        cases flag with
        | true =>
          have here : env name = some result := (known 0 name rfl rfl).symm
          rw [replaceResults, List.mapM_cons, rest place behind]
          show (env name >>= _) = _
          rw [here]
          rfl
        | false =>
          -- The result is the next one of the new loop.
          have kept : newResults.drop place = result :: keep (flags.map not) results := behind
          have here : newResults[place]? = some result := by
            rw [← List.head?_drop, kept]
            rfl
          have others : newResults.drop (place + 1) = keep (flags.map not) results := by
            rw [← List.tail_drop, kept]
            rfl
          rw [replaceResults, List.mapM_cons, rest (place + 1) others]
          show (newResults[place]? >>= _) = _
          rw [here]
          rfl

/-- Only the results at flagged places are replaced by operands. -/
theorem flagged_of_operand {flags : List Bool} {operands : List Nat} {start place name : Nat}
    (found : (replaceResults start flags operands)[place]? = some (.operand name)) :
    flags[place]? = some true ∧ operands[place]? = some name := by
  induction flags generalizing start operands place with
  | nil =>
    cases operands <;> contradiction
  | cons flag flags ih =>
    cases operands with
    | nil => cases flag <;> contradiction
    | cons operand operands =>
      cases place with
      | zero =>
        cases flag with
        | true =>
          cases found
          exact ⟨rfl, rfl⟩
        | false => cases found
      | succ place => cases flag <;> exact ih found

/-- The loop with implicit captures takes the same turns and has the same results, and the values
that it leaves out are the same in every iteration. -/
theorem whileOpImplicitCapture_correct (getBooleanValue : List V → Option Bool)
    {captured : CapturedWhile κ} {init : List V} (verified : loop.Verified)
    (rewritten : whileOpImplicitCapture loop = some captured)
    (reads : env.read loop.operands = some init) :
    SameLoop denote getBooleanValue env loop captured init := by
  have reached : Captures loop (captureArguments 0
      (loop.operands.zip (loop.cond.arguments.zip loop.body.arguments)) ⟨loop.cond, loop.body, []⟩) ∧
      _ := captures_nil.captureArguments verified List.drop_zero
  rw [whileOpImplicitCapture] at rewritten
  generalize captureArguments 0 _ _ = state at rewritten reached
  obtain ⟨captures, sameFlags⟩ := reached
  split at rewritten
  next forwarded =>
    cases rewritten
    have unchanged : Unchanged env loop.operands state.invariantArgs init := unchanged_of_read reads
    have body (values : List V) (holds : Unchanged env loop.operands state.invariantArgs values) :=
      @Captures.call_body _ _ denote _ _ _ captures verified sameFlags _ _ reads holds
    have keeps (values next : List V)
        (holds : Unchanged env loop.operands state.invariantArgs values)
        (turn : loop.body.call denote env values = some next) := (body values holds).2 next turn
    -- The new loop carries the kept ones of the values in every iteration.
    have simulated (fuel : Nat) : whileOp denote getBooleanValue env
        (.node (keep (state.invariantArgs.map not) state.cond.arguments) state.cond.operations
          state.cond.returned)
        (.node (keep (state.invariantArgs.map not) state.body.arguments) state.body.operations
          (keep (state.invariantArgs.map not) state.body.returned)) fuel
        (keep (state.invariantArgs.map not) init) =
        (whileOp denote getBooleanValue env loop.cond loop.body fuel init).map
          fun (turns, last) => (turns, keep (state.invariantArgs.map not) last) := by
      apply WhileLoop.run_image (keep (state.invariantArgs.map not)) _ _ keeps fuel unchanged
      · intro values holds
        rw [captures.call_cond verified sameFlags holds]
      · exact fun values holds => (body values holds).1
    refine ⟨keep (state.invariantArgs.map not) init, ?_, ?_, ?_, ?_⟩
    · show env.read (keep (state.invariantArgs.map not) loop.operands) = _
      rw [read_defined, reads, Option.map_some]
      · rw [List.length_map, sameFlags]
      · intro place operand dropped found
        rw [← Env.getElem?_read reads found]
        have inside : place < init.length := by
          rw [Env.length_read reads]
          exact (List.getElem?_eq_some_iff.1 found).1
        exact ⟨init[place], List.getElem?_eq_getElem inside⟩
    · intro fuel
      refine (congrArg (Option.map Prod.fst) (simulated fuel)).trans ?_
      rw [Option.map_map]
      rfl
    · intro fuel iterations results newResults done newDone
      have final : Unchanged env loop.operands state.invariantArgs results :=
        WhileLoop.after_keeps keeps unchanged (WhileLoop.after_of_run done)
      have last := (simulated fuel).symm.trans newDone
      rw [done, Option.map_some, Option.some.injEq, Prod.mk.injEq] at last
      apply mapM_replaceResults sameFlags final
      rw [← last.2, List.drop_zero]
    · intro place name replaced iterations values reached
      obtain ⟨flagged, found⟩ := flagged_of_operand replaced
      have last : Unchanged env loop.operands state.invariantArgs values :=
        WhileLoop.after_keeps keeps unchanged reached
      rw [last.known place name flagged found, unchanged.known place name flagged found]
  next => contradiction

end Simulation

/-- What the operations of a countdown do. -/
inductive CountdownKind where
  | compareGT
  | subtract

/-- Compute with numbers, where one stands for true. -/
def countdownDenote : Denotation CountdownKind Int
  | .compareGT, [value], [] => some [if 0 < value then 1 else 0]
  | .subtract, [lhs, rhs], [] => some [lhs - rhs]
  | _, _, _ => none

/-- Count down by a step that each iteration returns as it is. -/
def countdown : WhileOp CountdownKind where
  operands := [0, 1]
  results := [2, 3]
  cond := .node [10, 11] [.node .compareGT [11] [12] []] [12]
  body := .node [20, 21] [.node .subtract [21, 20] [22] []] [20, 22]

/-- Counting down from five by two takes three iterations, with the step as an implicit capture
too. -/
theorem whileOpImplicitCapture_countdown :
    ∃ captured, whileOpImplicitCapture countdown = some captured ∧ captured.operands = [1] ∧
      captured.body = .node [21] [.node .subtract [21, 0] [22] []] [22] ∧
      SameLoop countdownDenote (fun results => some (results = [1]))
        (fun name => [2, 5][name]?) countdown captured [2, 5] ∧
      whileOp countdownDenote (fun results => some (results = [1])) (fun name => [2, 5][name]?)
        captured.cond captured.body 4 [5] = some (3, [-1]) :=
  ⟨_, rfl, rfl, rfl, whileOpImplicitCapture_correct _
    ⟨rfl, rfl, rfl, by decide, by decide, by decide, by decide⟩ rfl rfl, rfl⟩

end Stablehlo
