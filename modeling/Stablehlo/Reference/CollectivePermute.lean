import Mathlib.Order.WellFounded
import Stablehlo.Dialect.ReplicaGroups
import Stablehlo.Reference.Ops
import Stablehlo.Reference.Rendezvous
import Stablehlo.Support.Transition

/-! The collective permute operation, run by all processes of a grid at the same time. -/

namespace Stablehlo

/-- Where one process stands in its walk over the process groups. -/
structure PermuteProcess (α : Type) where
  /-- The number of process groups it has left behind. -/
  position : Nat
  /-- Whether it waits in the rendezvous of the current process group. -/
  waiting : Bool
  /-- What it has received. -/
  result : Option (Tensor α)
  /-- What its operation returned. -/
  returned : Option (Tensor α)

/-- A program run in which every process executes one collective permute operation. -/
structure PermuteState (α : Type) where
  /-- The storage of the process grid. -/
  channels : Channels (Tensor α)
  /-- Where each process stands. -/
  processes : ProcessId → PermuteProcess α
  /-- Why the program stopped, if it did. -/
  failure : Option Failure

namespace PermuteState

variable {α : Type} [Zero α]

/-- All processes of a fresh grid are about to execute the operation. -/
def start : PermuteState α := ⟨Channels.fresh, fun _ => ⟨0, false, none, none⟩, none⟩

/-- Give a process its next standing. -/
def setProcess (processId : ProcessId) (process : PermuteProcess α) (state : PermuteState α) :
    PermuteState α :=
  { state with processes := Function.update state.processes processId process }

/-- Go on after a critical section of the rendezvous between the two processes. -/
def settle (fromId toId processId : ProcessId) (state : PermuteState α) :
    CallOutcome (Tensor α) × Channels (Tensor α) → PermuteState α
  | (.blocks, channels) =>
    { state with channels }.setProcess processId
      { state.processes processId with waiting := true }
  | (.fails failure, channels) => { state with channels, failure := some failure }
  | (.returns rendezvousResult, channels) =>
    let state := { state with channels }
    let process := state.processes processId
    let next := { process with position := process.position + 1, waiting := false }
    if toId ≠ processId then
      state.setProcess processId next
    else
      match rendezvousResult.lookup fromId with
      | front :: _ => state.setProcess processId { next with result := some front }
      -- An empty vector has no front.
      | [] => { state with failure := some .undefinedBehavior }

/-- Return what was received, or zeros. -/
def finish (operand : Tensor α) (processId : ProcessId) (state : PermuteState α) :
    PermuteState α :=
  let process := state.processes processId
  match process.result with
  | some result => state.setProcess processId { process with returned := some result }
  | none =>
    match Tensor.broadcastInDimOp (Tensor.constant 0) [] operand.shape with
    | .ok zeros => state.setProcess processId { process with returned := some zeros }
    | .error failure => { state with failure := some failure }

/-- One pass of the loop over the process groups, up to a wait or from a wait on. -/
def visit (channelId : ChannelId) (operand : Tensor α) (processId : ProcessId)
    (processGroup : ProcessGroup) (state : PermuteState α) : Option (PermuteState α) :=
  let process := state.processes processId
  let next := { process with position := process.position + 1 }
  match processGroup with
  | fromId :: toId :: _ =>
    if fromId ≠ processId ∧ toId ≠ processId then
      some (state.setProcess processId next)
    else if fromId = toId then
      -- A self-loop does not invoke the rendezvous.
      some (state.setProcess processId { next with result := some operand })
    else if process.waiting then
      (state.channels.wake processGroup channelId).map (state.settle fromId toId processId)
    else
      some (state.settle fromId toId processId
        (state.channels.enter processGroup channelId processId [operand]))
  | _ => some { state with failure := some .undefinedBehavior }

/-- The next step of a process, if it can take one now. -/
def move (grid : ProcessGrid) (channelId : ChannelId) (processGroups : ProcessGroups)
    (operands : ProcessId → Tensor α) (processId : ProcessId) (state : PermuteState α) :
    Option (PermuteState α) :=
  let process := state.processes processId
  if state.failure.isSome ∨ process.returned.isSome ∨ ¬grid.Contains processId then
    none
  else
    match processGroups[process.position]? with
    | some processGroup => state.visit channelId (operands processId) processId processGroup
    | none => some (state.finish (operands processId) processId)

end PermuteState

section Plan

variable {α : Type} {grid : ProcessGrid} {plan : List (ProcessId × ProcessId)}

/-- The process groups of a list of pairs of processes. -/
def planGroups (plan : List (ProcessId × ProcessId)) : ProcessGroups :=
  plan.map fun pair => [pair.1, pair.2]

/-- Pairs of processes of the grid in which no process sends or receives twice. -/
structure PermutePlan (grid : ProcessGrid) (plan : List (ProcessId × ProcessId)) : Prop where
  /-- Both processes of a pair are in the grid. -/
  inGrid : ∀ pair ∈ plan, grid.Contains pair.1 ∧ grid.Contains pair.2
  /-- No process is the source of two pairs. -/
  sources : (plan.map Prod.fst).Nodup
  /-- No process is the target of two pairs. -/
  targets : (plan.map Prod.snd).Nodup

/-- What a process has received after the given number of pairs. -/
def received (plan : List (ProcessId × ProcessId)) (operands : ProcessId → Tensor α)
    (count : Nat) (processId : ProcessId) : Option (Tensor α) :=
  (plan.take count).foldl
    (fun result pair => if pair.2 = processId then some (operands pair.1) else result) none

/-- One more pair changes what its target has received, and nothing else. -/
theorem received_succ (operands : ProcessId → Tensor α) {position : Nat}
    {pair : ProcessId × ProcessId} (found : plan[position]? = some pair) (processId : ProcessId) :
    received plan operands (position + 1) processId =
      if pair.2 = processId then some (operands pair.1)
      else received plan operands position processId := by
  simp [received, List.take_add_one, found, List.foldl_append]

/-- Past the last pair nothing more is received. -/
theorem received_of_length_le (operands : ProcessId → Tensor α) {count : Nat}
    (past : plan.length ≤ count) (processId : ProcessId) :
    received plan operands count processId = received plan operands plan.length processId := by
  simp [received, List.take_of_length_le past]

/-- Different places of the plan have different process groups. -/
theorem PermutePlan.place_unique (valid : PermutePlan grid plan) {first second : Nat}
    {pair other : ProcessId × ProcessId} (found : plan[first]? = some pair)
    (otherFound : plan[second]? = some other)
    (same : [pair.1, pair.2] = [other.1, other.2]) : first = second := by
  -- The sources of the two places are the same already.
  have short : first < (plan.map Prod.fst).length := by
    rw [List.length_map]
    exact (List.getElem?_eq_some_iff.mp found).1
  refine (List.getElem?_inj short valid.sources).mp ?_
  simp only [List.getElem?_map, found, otherFound, Option.map_some, Option.some.injEq]
  exact (List.cons.inj same).1

end Plan

namespace PermuteState

variable {α : Type}

/-- Whether the process has entered the rendezvous of the place. -/
def arrivedAt (state : PermuteState α) (place : Nat) (processId : ProcessId) : Bool :=
  place < (state.processes processId).position + (state.processes processId).waiting.toNat

/-- Whether the process waits in the rendezvous of the place. -/
def waitsAt (state : PermuteState α) (place : Nat) (processId : ProcessId) : Bool :=
  (state.processes processId).position == place && (state.processes processId).waiting

variable {state : PermuteState α} {processId : ProcessId} {process : PermuteProcess α}
  {channels : Channels (Tensor α)}

/-- Entering or leaving the rendezvous of a place makes the process arrive there only. -/
theorem arrivedAt_setProcess
    (entered : process.position + process.waiting.toNat =
      (state.processes processId).position + 1) (place : Nat) :
    (({ state with channels } : PermuteState α).setProcess processId process).arrivedAt place =
      if place = (state.processes processId).position then
        Function.update (state.arrivedAt place) processId true
      else state.arrivedAt place := by
  funext other
  by_cases same : other = processId
  · -- For the process itself, the flag of a place is a comparison with its standing.
    subst same
    have flag := Bool.toNat_le (state.processes other).waiting
    by_cases here : place = (state.processes other).position
    · simp only [here, if_true, Function.update_self]
      simp only [arrivedAt, setProcess, Function.update_self, entered, decide_eq_true_eq]
      omega
    · simp only [here, if_false, arrivedAt, setProcess, Function.update_self, entered,
        decide_eq_decide]
      omega
  · by_cases here : place = (state.processes processId).position <;>
      simp [here, arrivedAt, setProcess, same]

/-- Entering or leaving the rendezvous of a place changes who waits there only. -/
theorem waitsAt_setProcess
    (entered : process.position + process.waiting.toNat =
      (state.processes processId).position + 1) (place : Nat) :
    (({ state with channels } : PermuteState α).setProcess processId process).waitsAt place =
      if place = (state.processes processId).position then
        Function.update (state.waitsAt place) processId process.waiting
      else state.waitsAt place := by
  funext other
  by_cases same : other = processId
  · subst same
    cases waits : process.waiting with
    | false =>
      by_cases here : place = (state.processes other).position
      · simp [here, waitsAt, setProcess, waits]
      · have apart : ((state.processes other).position == place) = false := by
          simpa using Ne.symm here
        simp [here, waitsAt, setProcess, waits, apart]
    | true =>
      -- A process that waits has not moved on.
      have stays : process.position = (state.processes other).position := by
        rw [waits, Bool.toNat_true] at entered
        omega
      by_cases here : place = (state.processes other).position
      · simp [here, waitsAt, setProcess, waits, stays]
      · have apart : ((state.processes other).position == place) = false := by
          simpa using Ne.symm here
        simp [here, waitsAt, setProcess, stays, apart]
  · by_cases here : place = (state.processes processId).position <;>
      simp [here, waitsAt, setProcess, same]

end PermuteState

section Runs

variable {α : Type} [Zero α] {grid : ProcessGrid} {channelId : ChannelId}
  {plan : List (ProcessId × ProcessId)} {operands : ProcessId → Tensor α}
  {state after : PermuteState α} {processId : ProcessId}

/-- What every run keeps true about the walks of the processes. -/
structure PermuteInvariant (channelId : ChannelId) (plan : List (ProcessId × ProcessId))
    (operands : ProcessId → Tensor α) (state : PermuteState α) : Prop where
  /-- The program has not stopped early. -/
  running : state.failure = none
  /-- The storage of every key belongs to one round of its two processes. -/
  keys : ∀ place pair, plan[place]? = some pair → pair.1 ≠ pair.2 →
    KeyInvariant [pair.1, pair.2] (fun member => [operands member]) (state.arrivedAt place)
      (state.waitsAt place) (state.channels ([pair.1, pair.2], channelId))
  /-- A process waits for another process, in a pair of its own. -/
  waits : ∀ processId, (state.processes processId).waiting = true →
    ∃ pair, plan[(state.processes processId).position]? = some pair ∧ pair.1 ≠ pair.2 ∧
      processId ∈ [pair.1, pair.2]
  /-- A process has received what the pairs behind it say. -/
  result : ∀ processId, (state.processes processId).result =
    received plan operands (state.processes processId).position processId
  /-- An operation that is over has no pair ahead of it. -/
  finished : ∀ processId, (state.processes processId).returned.isSome →
    plan.length ≤ (state.processes processId).position
  /-- An operation that is over returned what the plan says. -/
  returned : ∀ processId tensor, (state.processes processId).returned = some tensor →
    tensor = (received plan operands plan.length processId).getD
      (Tensor.makeSplat (operands processId).shape 0)

/-- The run starts in the invariant. -/
theorem PermuteInvariant.start :
    PermuteInvariant channelId plan operands (PermuteState.start : PermuteState α) where
  running := rfl
  keys place pair _ _ := KeyInvariant.fresh
    (fun processId _ => by simp [PermuteState.arrivedAt, PermuteState.start])
    (fun processId _ => by simp [PermuteState.waitsAt, PermuteState.start])
  waits processId waits := by cases waits
  result processId := by simp [PermuteState.start, received]
  finished processId returned := by cases returned
  returned processId tensor returned := by cases returned

omit [Zero α] in
/-- The two processes of a pair contribute one tensor each. -/
theorem pair_matchingCounts (pair : ProcessId × ProcessId) :
    MatchingCounts [pair.1, pair.2] fun member => [operands member] :=
  fun _ _ _ _ => rfl

/-- A process that enters or leaves its place keeps the invariant. -/
theorem PermuteInvariant.setProcess {pair : ProcessId × ProcessId} {process : PermuteProcess α}
    (channels : Channels (Tensor α)) (valid : PermutePlan grid plan)
    (invariant : PermuteInvariant channelId plan operands state)
    (found : plan[(state.processes processId).position]? = some pair)
    (entered : process.position + process.waiting.toNat =
      (state.processes processId).position + 1)
    (frame : ∀ key, key ≠ ([pair.1, pair.2], channelId) → channels key = state.channels key)
    (key : pair.1 ≠ pair.2 →
      KeyInvariant [pair.1, pair.2] (fun member => [operands member])
        (Function.update (state.arrivedAt (state.processes processId).position) processId true)
        (Function.update (state.waitsAt (state.processes processId).position) processId
          process.waiting)
        (channels ([pair.1, pair.2], channelId)))
    (waits : process.waiting = true → pair.1 ≠ pair.2 ∧ processId ∈ [pair.1, pair.2])
    (result : process.result = received plan operands process.position processId)
    (unreturned : process.returned = none) :
    PermuteInvariant channelId plan operands
      (({ state with channels } : PermuteState α).setProcess processId process) := by
  refine ⟨invariant.running, ?_, ?_, ?_, ?_, ?_⟩
  · -- Only the flags and the storage of the place itself have changed.
    intro place other otherFound apart
    rw [PermuteState.arrivedAt_setProcess entered, PermuteState.waitsAt_setProcess entered]
    by_cases here : place = (state.processes processId).position
    · subst here
      rw [found, Option.some.injEq] at otherFound
      subst otherFound
      simpa [PermuteState.setProcess] using key apart
    · have different : (([other.1, other.2], channelId) : ChannelKey) ≠
          ([pair.1, pair.2], channelId) := by
        intro same
        exact here (valid.place_unique otherFound found (Prod.mk.inj same).1)
      simp only [here, if_false, PermuteState.setProcess, frame _ different]
      exact invariant.keys place other otherFound apart
  · intro other otherWaits
    by_cases same : other = processId
    · subst same
      simp only [PermuteState.setProcess, Function.update_self] at otherWaits ⊢
      have stays : process.position = (state.processes other).position := by
        rw [otherWaits, Bool.toNat_true] at entered
        omega
      exact ⟨pair, by rw [stays, found], waits otherWaits⟩
    · simp only [PermuteState.setProcess, Function.update_of_ne same] at otherWaits ⊢
      exact invariant.waits other otherWaits
  · intro other
    by_cases same : other = processId
    · subst same
      simpa [PermuteState.setProcess] using result
    · simpa [PermuteState.setProcess, Function.update_of_ne same] using invariant.result other
  · intro other returned
    by_cases same : other = processId
    · subst same
      simp [PermuteState.setProcess, unreturned] at returned
    · simp only [PermuteState.setProcess, Function.update_of_ne same] at returned ⊢
      exact invariant.finished other returned
  · intro other tensor returned
    by_cases same : other = processId
    · subst same
      simp [PermuteState.setProcess, unreturned] at returned
    · simp only [PermuteState.setProcess, Function.update_of_ne same] at returned
      exact invariant.returned other tensor returned

/-- A process that skips a pair keeps the invariant. -/
theorem PermuteInvariant.skip {pair : ProcessId × ProcessId} {result : Option (Tensor α)}
    (valid : PermutePlan grid plan) (invariant : PermuteInvariant channelId plan operands state)
    (found : plan[(state.processes processId).position]? = some pair)
    (aside : pair.1 ≠ pair.2 → processId ∉ [pair.1, pair.2])
    (idle : (state.processes processId).waiting = false)
    (unreturned : (state.processes processId).returned = none)
    (same : result = received plan operands ((state.processes processId).position + 1) processId) :
    PermuteInvariant channelId plan operands (state.setProcess processId
      { state.processes processId with
        position := (state.processes processId).position + 1, result }) := by
  refine invariant.setProcess state.channels valid found (by simp [idle])
    (fun _ _ => rfl) (fun apart => ?_) (fun waits => ?_) same unreturned
  · -- The flags that change are those of an outsider.
    refine (invariant.keys _ pair found apart).congr (fun member inside => ?_)
      fun member inside => ?_
    all_goals
      have other : member ≠ processId := fun equal => aside apart (equal ▸ inside)
      rw [Function.update_of_ne other]
  · simp [idle] at waits

/-- A call that returns the round's result keeps the invariant. -/
theorem PermuteInvariant.settle_returns {pair : ProcessId × ProcessId}
    {next : RendezvousState (Tensor α)} (valid : PermutePlan grid plan)
    (invariant : PermuteInvariant channelId plan operands state)
    (found : plan[(state.processes processId).position]? = some pair)
    (unreturned : (state.processes processId).returned = none)
    (key : KeyInvariant [pair.1, pair.2] (fun member => [operands member])
      (Function.update (state.arrivedAt (state.processes processId).position) processId true)
      (Function.update (state.waitsAt (state.processes processId).position) processId false)
      next) :
    PermuteInvariant channelId plan operands (state.settle pair.1 pair.2 processId
      (.returns (roundResult [pair.1, pair.2] fun member => [operands member]),
        Function.update state.channels ([pair.1, pair.2], channelId) next)) := by
  have lookup : (roundResult [pair.1, pair.2] fun member => [operands member]).lookup pair.1 =
      [operands pair.1] :=
    roundResult_lookup (fun member => [operands member]) (by simp)
  have frame : ∀ other, other ≠ ([pair.1, pair.2], channelId) →
      Function.update state.channels ([pair.1, pair.2], channelId) next other =
        state.channels other :=
    fun other different => Function.update_of_ne different _ _
  have advanced := received_succ operands found processId
  -- The target takes the source's operand, and the source goes on with what it had.
  by_cases target : pair.2 = processId
  · subst target
    simp only [PermuteState.settle, ne_eq, not_true_eq_false, if_false, lookup]
    refine invariant.setProcess _ valid found (by simp) frame (fun _ => ?_) (fun waits => ?_) ?_
      unreturned
    · rw [Function.update_self]
      exact key
    · cases waits
    · rw [advanced, if_pos rfl]
  · simp only [PermuteState.settle, ne_eq, target, not_false_eq_true, if_true]
    refine invariant.setProcess _ valid found (by simp) frame (fun _ => ?_) (fun waits => ?_) ?_
      unreturned
    · rw [Function.update_self]
      exact key
    · cases waits
    · rw [advanced, if_neg target]
      exact invariant.result processId

/-- One pass of the loop over the process groups keeps the invariant. -/
theorem PermuteInvariant.visit {pair : ProcessId × ProcessId} (valid : PermutePlan grid plan)
    (invariant : PermuteInvariant channelId plan operands state)
    (found : plan[(state.processes processId).position]? = some pair)
    (unreturned : (state.processes processId).returned = none)
    (visited : state.visit channelId (operands processId) processId [pair.1, pair.2] = some after) :
    PermuteInvariant channelId plan operands after := by
  have advanced := received_succ operands found processId
  have several : 2 ≤ [pair.1, pair.2].length := Nat.le_refl 2
  simp only [PermuteState.visit] at visited
  split at visited
  · -- The process takes no part in this pair.
    rename_i aside
    cases visited
    have outside : processId ∉ [pair.1, pair.2] := by
      simpa [eq_comm] using aside
    refine invariant.skip valid found (fun _ => outside) ?_ unreturned ?_
    · -- A waiting process takes part in the pair it is at.
      by_contra waits
      obtain ⟨other, otherFound, -, inside⟩ := invariant.waits processId (by simpa using waits)
      rw [found, Option.some.injEq] at otherFound
      exact outside (otherFound ▸ inside)
    · rw [advanced, if_neg aside.2]
      exact invariant.result processId
  rename_i part
  have inside : processId ∈ [pair.1, pair.2] := by
    by_contra outside
    exact part (by simpa [eq_comm] using outside)
  split at visited
  · -- A self-loop gives the process its own operand.
    rename_i loop
    cases visited
    have self : pair.2 = processId := by
      rw [loop] at inside
      simpa [eq_comm] using inside
    refine invariant.skip valid found (fun apart => absurd loop apart) ?_ unreturned ?_
    · by_contra waits
      obtain ⟨other, otherFound, apart, -⟩ := invariant.waits processId (by simpa using waits)
      rw [found, Option.some.injEq] at otherFound
      exact apart (otherFound ▸ loop)
    · rw [advanced, if_pos self, loop, self]
  rename_i apart
  have distinct : [pair.1, pair.2].Nodup := by simpa using apart
  have key := invariant.keys _ pair found apart
  split at visited
  · -- A waiting process can only have woken because its partner arrived.
    rename_i waits
    obtain ⟨ended, woken, rfl⟩ := Option.map_eq_some_iff.mp visited
    have all : ∀ other ∈ [pair.1, pair.2],
        state.arrivedAt (state.processes processId).position other = true := by
      by_contra missing
      push Not at missing
      obtain ⟨other, member, absent⟩ := missing
      have asleep := key.wake_eq_none distinct ⟨other, member, by simpa using absent⟩
      simp [Channels.wake_eq_none asleep] at woken
    obtain ⟨next, wakes, keyAfter⟩ := key.wake_returns distinct (pair_matchingCounts pair) inside
      (by simp [PermuteState.waitsAt, waits]) all
    rw [Channels.wake_eq wakes, Option.some.injEq] at woken
    subst woken
    refine invariant.settle_returns valid found unreturned
      (keyAfter.congr (fun other member => ?_) fun _ _ => rfl)
    by_cases same : other = processId
    · subst same
      simp [all other member]
    · rw [Function.update_of_ne same]
  · rename_i idle
    cases visited
    have notWaiting : state.waitsAt (state.processes processId).position processId = false := by
      simpa [PermuteState.waitsAt] using idle
    by_cases all : ∀ other ∈ [pair.1, pair.2], Function.update
        (state.arrivedAt (state.processes processId).position) processId true other = true
    · -- The partner waits already, so the round is published.
      obtain ⟨next, enters, keyAfter⟩ :=
        key.enter_returns distinct several (pair_matchingCounts pair) inside all
      rw [Channels.enter_eq enters]
      refine invariant.settle_returns valid found unreturned
        (keyAfter.congr (fun _ _ => rfl) fun other _ => ?_)
      by_cases same : other = processId
      · subst same
        simp [notWaiting]
      · rw [Function.update_of_ne same]
    · -- The process is the first of the two, and waits.
      push Not at all
      have missing : ∃ other ∈ [pair.1, pair.2], Function.update
          (state.arrivedAt (state.processes processId).position) processId true other = false := by
        simpa using all
      obtain ⟨next, enters, keyAfter⟩ :=
        key.enter_blocks distinct several inside notWaiting missing
      rw [Channels.enter_eq enters]
      refine invariant.setProcess _ valid found (by simp) (fun other different =>
        Function.update_of_ne different _ _) (fun _ => ?_) (fun _ => ⟨apart, inside⟩) ?_ unreturned
      · rw [Function.update_self]
        exact keyAfter
      · exact invariant.result processId

/-- A process at the end of the loop returns what it received, or zeros. -/
theorem PermuteInvariant.finish (invariant : PermuteInvariant channelId plan operands state)
    (past : plan.length ≤ (state.processes processId).position) :
    PermuteInvariant channelId plan operands (state.finish (operands processId) processId) := by
  -- Either way the process returns what the whole plan says.
  have returns : ∃ tensor,
      state.finish (operands processId) processId = state.setProcess processId
        { state.processes processId with returned := some tensor } ∧
      tensor = (received plan operands plan.length processId).getD
        (Tensor.makeSplat (operands processId).shape 0) := by
    have whole := received_of_length_le operands past processId
    rw [← invariant.result processId] at whole
    unfold PermuteState.finish
    cases got : (state.processes processId).result with
    | some tensor =>
      rw [got] at whole
      exact ⟨tensor, by simp only [got], by rw [← whole, Option.getD_some]⟩
    | none =>
      rw [got] at whole
      exact ⟨Tensor.makeSplat (operands processId).shape 0,
        by simp only [got, Tensor.broadcastInDimOp_constant], by rw [← whole, Option.getD_none]⟩
  obtain ⟨tensor, finished, expected⟩ := returns
  rw [finished]
  have flags : ∀ place,
      (state.setProcess processId
        { state.processes processId with returned := some tensor }).arrivedAt place =
          state.arrivedAt place ∧
      (state.setProcess processId
        { state.processes processId with returned := some tensor }).waitsAt place =
          state.waitsAt place := by
    intro place
    constructor <;> funext other <;> by_cases same : other = processId <;>
      simp [PermuteState.arrivedAt, PermuteState.waitsAt, PermuteState.setProcess, same]
  refine ⟨invariant.running, ?_, ?_, ?_, ?_, ?_⟩
  · intro place pair found apart
    rw [(flags place).1, (flags place).2]
    exact invariant.keys place pair found apart
  · intro other waits
    have before : (state.processes other).waiting = true := by
      by_cases same : other = processId
      · subst same
        simpa [PermuteState.setProcess] using waits
      · simpa [PermuteState.setProcess, same] using waits
    by_cases same : other = processId
    · subst same
      simpa [PermuteState.setProcess] using invariant.waits other before
    · simpa [PermuteState.setProcess, same] using invariant.waits other before
  · intro other
    by_cases same : other = processId
    · subst same
      simpa [PermuteState.setProcess] using invariant.result other
    · simpa [PermuteState.setProcess, same] using invariant.result other
  · intro other ended
    by_cases same : other = processId
    · subst same
      simpa [PermuteState.setProcess] using past
    · simp only [PermuteState.setProcess, Function.update_of_ne same] at ended ⊢
      exact invariant.finished other ended
  · intro other result returned
    by_cases same : other = processId
    · subst same
      simp only [PermuteState.setProcess, Function.update_self, Option.some.injEq] at returned
      rw [← returned, expected]
    · simp only [PermuteState.setProcess, Function.update_of_ne same] at returned
      exact invariant.returned other result returned

/-- Every step keeps the invariant. -/
theorem PermuteInvariant.move (valid : PermutePlan grid plan)
    (invariant : PermuteInvariant channelId plan operands state)
    (moved : state.move grid channelId (planGroups plan) operands processId = some after) :
    PermuteInvariant channelId plan operands after := by
  simp only [PermuteState.move, planGroups, List.getElem?_map] at moved
  split at moved
  · cases moved
  rename_i enabled
  push Not at enabled
  have unreturned : (state.processes processId).returned = none := by
    simpa using enabled.2.1
  cases found : plan[(state.processes processId).position]? with
  | some pair =>
    rw [found] at moved
    exact invariant.visit valid found unreturned moved
  | none =>
    rw [found, Option.map_none, Option.some.injEq] at moved
    rw [← moved]
    exact invariant.finish (List.getElem?_eq_none_iff.mp found)

/-- In every reachable state the invariant holds. -/
theorem PermuteInvariant.reachable (valid : PermutePlan grid plan)
    (reached : (TransitionSystem.ofMoves PermuteState.start
      (PermuteState.move grid channelId (planGroups plan) operands)).Reachable state) :
    PermuteInvariant channelId plan operands state := by
  refine reached.invariant ?_ ?_
  · intro start initial
    rw [initial]
    exact PermuteInvariant.start
  · intro before next holds taken
    obtain ⟨processId, moved⟩ := taken
    exact holds.move valid moved

/-- A process that does not wait and has not returned can always take a step. -/
theorem PermuteInvariant.move_of_idle (invariant : PermuteInvariant channelId plan operands state)
    (inside : grid.Contains processId)
    (unreturned : (state.processes processId).returned = none)
    (idle : (state.processes processId).waiting = false) :
    ∃ next, state.move grid channelId (planGroups plan) operands processId = some next := by
  simp only [PermuteState.move, planGroups, List.getElem?_map, invariant.running, unreturned,
    inside, Option.isSome_none, Bool.false_eq_true, not_true_eq_false, or_self, if_false]
  cases found : plan[(state.processes processId).position]? with
  | some pair =>
    -- Only a waiting process can be kept from its next pass.
    simp only [Option.map_some, PermuteState.visit, idle, Bool.false_eq_true, if_false]
    split
    · exact ⟨_, rfl⟩
    split
    · exact ⟨_, rfl⟩
    · exact ⟨_, rfl⟩
  | none => exact ⟨_, rfl⟩

/-- A process whose partner has arrived can wake. -/
theorem PermuteInvariant.move_of_waiting
    (invariant : PermuteInvariant channelId plan operands state)
    (inside : grid.Contains processId)
    (unreturned : (state.processes processId).returned = none)
    (waits : (state.processes processId).waiting = true)
    (all : ∀ pair, plan[(state.processes processId).position]? = some pair →
      ∀ other ∈ [pair.1, pair.2],
        state.arrivedAt (state.processes processId).position other = true) :
    ∃ next, state.move grid channelId (planGroups plan) operands processId = some next := by
  obtain ⟨pair, found, apart, part⟩ := invariant.waits processId waits
  have distinct : [pair.1, pair.2].Nodup := by simpa using apart
  obtain ⟨storage, wakes, -⟩ := (invariant.keys _ pair found apart).wake_returns distinct
    (pair_matchingCounts pair) part (by simp [PermuteState.waitsAt, waits]) (all pair found)
  have takesPart : ¬(pair.1 ≠ processId ∧ pair.2 ≠ processId) := by
    rintro ⟨notFrom, notTo⟩
    simp [Ne.symm notFrom, Ne.symm notTo] at part
  simp [PermuteState.move, planGroups, invariant.running, unreturned, inside, found,
    PermuteState.visit, takesPart, apart, waits, Channels.wake_eq wakes]

/-- As long as a process has not returned, some process can take a step. -/
theorem PermuteInvariant.canStep (valid : PermutePlan grid plan)
    (invariant : PermuteInvariant channelId plan operands state)
    (unfinished : ∃ processId, grid.Contains processId ∧
      (state.processes processId).returned = none) :
    ∃ processId next,
      state.move grid channelId (planGroups plan) operands processId = some next := by
  -- Among the processes that have not returned, take one that is least far in its walk.
  obtain ⟨processId, ⟨inside, unreturned⟩, least⟩ :=
    (measure fun processId => (state.processes processId).position).wf.has_min
      {processId | grid.Contains processId ∧ (state.processes processId).returned = none}
      unfinished
  cases waits : (state.processes processId).waiting with
  | false => exact ⟨processId, invariant.move_of_idle inside unreturned waits⟩
  | true =>
    by_cases all : ∀ pair, plan[(state.processes processId).position]? = some pair →
        ∀ other ∈ [pair.1, pair.2],
          state.arrivedAt (state.processes processId).position other = true
    · exact ⟨processId, invariant.move_of_waiting inside unreturned waits all⟩
    · -- The partner has not arrived, so it is at the same place and does not wait.
      push Not at all
      obtain ⟨pair, found, other, part, absent⟩ := all
      have behind : (state.processes other).position + (state.processes other).waiting.toNat ≤
          (state.processes processId).position := by
        simpa [PermuteState.arrivedAt] using absent
      have place : (state.processes processId).position < plan.length :=
        (List.getElem?_eq_some_iff.mp found).1
      have otherInside : grid.Contains other := by
        have both := valid.inGrid pair (List.mem_of_getElem? found)
        rcases List.mem_pair.mp part with rfl | rfl
        · exact both.1
        · exact both.2
      have otherUnreturned : (state.processes other).returned = none := by
        by_contra ended
        have past := invariant.finished other (Option.isSome_iff_ne_none.mpr ended)
        omega
      have level : ¬(state.processes other).position < (state.processes processId).position :=
        least other ⟨otherInside, otherUnreturned⟩
      have idle : (state.processes other).waiting = false := by
        rw [← Bool.toNat_eq_zero]
        omega
      exact ⟨other, invariant.move_of_idle otherInside otherUnreturned idle⟩

end Runs

section GridPlan

variable {grid : ProcessGrid} {channelId : ChannelId}

/-- The size of the grid in the other dimension. -/
def otherSize (grid : ProcessGrid) (channelId : ChannelId) : UInt32 :=
  if channelId ≤ 0 then grid.numPartitions else grid.numReplicas

end GridPlan

end Stablehlo
