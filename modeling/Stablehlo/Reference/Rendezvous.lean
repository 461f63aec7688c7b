import Mathlib.Logic.Function.Basic
import Stablehlo.Reference.ProcessGrid
import Stablehlo.Reference.Tensor

/-! The rendezvous barrier of the process grid, one critical section at a time. -/

namespace Stablehlo

/-- How a critical section of a rendezvous call ends. -/
inductive CallOutcome (Tensor : Type) where
  /-- The call waits on the condition variable and has released the mutex. -/
  | blocks
  /-- The call is over. -/
  | returns (result : RendezvousResult Tensor)
  /-- The program is over. -/
  | fails (failure : Failure)

/-- Internal storage used in `rendezvous` to manage access to the shared resource. -/
structure RendezvousState (Tensor : Type) where
  /-- The data contributed by the processes. -/
  values : ProcessMap (List Tensor)
  /-- The number of calls that contributed and have not left. -/
  useCount : Nat
  /-- The result the processes read from. -/
  result : RendezvousResult Tensor

/-- Each combination of process group and channel id has its own key. -/
abbrev ChannelKey := ProcessGroup × ChannelId

/-- The storage of all keys. -/
abbrev Channels (Tensor : Type) := ChannelKey → RendezvousState Tensor

namespace RendezvousState

variable {Tensor : Type}

/-- The storage a key has when it is first used. -/
def fresh : RendezvousState Tensor := ⟨∅, 0, RendezvousResult.empty⟩

/-- The end of a rendezvous call, after its wait or its publication. -/
def leave (state : RendezvousState Tensor) : CallOutcome Tensor × RendezvousState Tensor :=
  let useCount := state.useCount - 1
  match state.result.hasMatchingOperandsCount with
  | none => (.fails .undefinedBehavior, { state with useCount })
  | some false =>
    (.fails (.fatalError "Mismatched number of operands per process"), { state with useCount })
  | some true =>
    -- The last call to leave moves the result out, and a moved-from map is empty.
    let result := if 0 < useCount then state.result else RendezvousResult.empty
    (.returns state.result, { state with useCount, result })

/-- A rendezvous call up to its wait, or to its end when it does not wait. -/
def enter (processGroup : ProcessGroup) (processId : ProcessId) (operands : List Tensor)
    (state : RendezvousState Tensor) : CallOutcome Tensor × RendezvousState Tensor :=
  if processGroup.length = 1 then
    (.returns ⟨(∅ : ProcessMap (List Tensor)).insert processId operands⟩, state)
  else
    let values := state.values.insert processId operands
    let useCount := state.useCount + 1
    if values.size < processGroup.length then
      (.blocks, { state with values, useCount })
    else
      -- The assignment goes through a constructor that takes a constant reference to the map.
      -- So the move is a copy, and the contributions stay in place.
      leave { values, useCount, result := ⟨values⟩ }

/-- The rest of a waiting rendezvous call, once its wait predicate holds. -/
def wake (processGroup : ProcessGroup) (state : RendezvousState Tensor) :
    Option (CallOutcome Tensor × RendezvousState Tensor) :=
  if state.values.size = processGroup.length then some state.leave else none

/-- Leaving keeps the contributions, and either fails or returns a result of matching counts. -/
theorem leave_cases (state : RendezvousState Tensor) :
    state.leave.2.values = state.values ∧
      ((∃ failure, state.leave.1 = .fails failure) ∨
        state.leave.1 = .returns state.result ∧
          state.result.hasMatchingOperandsCount = some true) := by
  -- The cases are the three answers of the count check.
  unfold leave
  cases checked : state.result.hasMatchingOperandsCount with
  | none => exact ⟨rfl, .inl ⟨_, rfl⟩⟩
  | some matching =>
    cases matching with
    | false => exact ⟨rfl, .inl ⟨_, rfl⟩⟩
    | true => exact ⟨rfl, .inr ⟨rfl, rfl⟩⟩

end RendezvousState

namespace Channels

variable {Tensor : Type}

/-- No key has been used. -/
def fresh : Channels Tensor := fun _ => RendezvousState.fresh

/-- Enter a rendezvous on the storage of its key. -/
def enter (processGroup : ProcessGroup) (channelId : ChannelId) (processId : ProcessId)
    (operands : List Tensor) (channels : Channels Tensor) :
    CallOutcome Tensor × Channels Tensor :=
  let key := (processGroup, channelId)
  let (outcome, state) := (channels key).enter processGroup processId operands
  (outcome, Function.update channels key state)

/-- Continue a waiting rendezvous on the storage of its key. -/
def wake (processGroup : ProcessGroup) (channelId : ChannelId) (channels : Channels Tensor) :
    Option (CallOutcome Tensor × Channels Tensor) :=
  let key := (processGroup, channelId)
  (channels key).wake processGroup |>.map fun (outcome, state) =>
    (outcome, Function.update channels key state)

variable {processGroup : ProcessGroup} {channelId : ChannelId} {processId : ProcessId}
  {channels : Channels Tensor}

/-- Entering changes the storage of the entered key only. -/
theorem enter_eq {tensors : List Tensor} {outcome : CallOutcome Tensor}
    {next : RendezvousState Tensor}
    (entered : (channels (processGroup, channelId)).enter processGroup processId tensors =
      (outcome, next)) :
    channels.enter processGroup channelId processId tensors =
      (outcome, Function.update channels (processGroup, channelId) next) := by
  simp only [Channels.enter, entered]

/-- Waking changes the storage of the waiting key only. -/
theorem wake_eq {outcome : CallOutcome Tensor} {next : RendezvousState Tensor}
    (woken : (channels (processGroup, channelId)).wake processGroup = some (outcome, next)) :
    channels.wake processGroup channelId =
      some (outcome, Function.update channels (processGroup, channelId) next) := by
  simp only [Channels.wake, woken, Option.map_some]

/-- A waiting key that cannot wake stays as it is. -/
theorem wake_eq_none
    (asleep : (channels (processGroup, channelId)).wake processGroup = none) :
    channels.wake processGroup channelId = none := by
  simp only [Channels.wake, asleep, Option.map_none]

end Channels

/-- Setting a flag that was not set counts one more member. -/
theorem countP_update_true {processGroup : ProcessGroup} (distinct : processGroup.Nodup)
    {flag : ProcessId → Bool} {processId : ProcessId} (member : processId ∈ processGroup)
    (unset : flag processId = false) :
    processGroup.countP (Function.update flag processId true) = processGroup.countP flag + 1 := by
  -- The member occurs once, and the flags of all others are as before.
  induction processGroup with
  | nil => simp at member
  | cons head rest ih =>
    obtain ⟨fresh, restDistinct⟩ := List.nodup_cons.mp distinct
    by_cases same : head = processId
    · subst same
      have others : rest.countP (Function.update flag head true) = rest.countP flag := by
        refine List.countP_congr fun other inside => ?_
        have different : other ≠ head := fun equal => fresh (equal ▸ inside)
        rw [Function.update_of_ne different]
      simp [others, unset]
    · have inside : processId ∈ rest := by simpa [Ne.symm same] using member
      simp only [List.countP_cons, Function.update_of_ne same, ih restDistinct inside]
      omega

/-- Clearing a flag that was set counts one member less. -/
theorem countP_update_false {processGroup : ProcessGroup} (distinct : processGroup.Nodup)
    {flag : ProcessId → Bool} {processId : ProcessId} (member : processId ∈ processGroup)
    (set : flag processId = true) :
    processGroup.countP (Function.update flag processId false) + 1 =
      processGroup.countP flag := by
  -- Setting the cleared flag again restores the flags, so the other count applies.
  rw [← countP_update_true distinct member (Function.update_self ..), Function.update_idem,
    ← set, Function.update_eq_self]

section KeyInvariant

variable {Tensor : Type} {processGroup : ProcessGroup} {operands : ProcessId → List Tensor}
  {arrived waiting : ProcessId → Bool} {state : RendezvousState Tensor} {processId : ProcessId}

/-- What the storage of a key holds when every call of a member passes the same operands. -/
structure KeyInvariant (processGroup : ProcessGroup) (operands : ProcessId → List Tensor)
    (arrived waiting : ProcessId → Bool) (state : RendezvousState Tensor) : Prop where
  /-- The contributions are those of the members that arrived. -/
  contributed : ∀ processId : ProcessId, state.values[processId]? =
    if processId ∈ processGroup ∧ arrived processId = true then some (operands processId) else none
  /-- The use count is the number of waiting members. -/
  counted : state.useCount = processGroup.countP waiting
  /-- A member waits only after it arrived. -/
  waitingArrived : ∀ processId ∈ processGroup,
    waiting processId = true → arrived processId = true
  /-- Once everyone arrived, the result is there for as long as someone waits for it. -/
  published : (∀ processId ∈ processGroup, arrived processId = true) →
    (∃ processId ∈ processGroup, waiting processId = true) →
    state.result = roundResult processGroup operands

/-- A key that nobody has used satisfies its invariant. -/
theorem KeyInvariant.fresh (idle : ∀ processId ∈ processGroup, arrived processId = false)
    (notWaiting : ∀ processId ∈ processGroup, waiting processId = false) :
    KeyInvariant processGroup operands arrived waiting RendezvousState.fresh where
  contributed processId := by
    have absent : ¬(processId ∈ processGroup ∧ arrived processId = true) := by
      rintro ⟨member, present⟩
      simp [idle processId member] at present
    simp [RendezvousState.fresh, absent]
  counted := by
    have none : processGroup.countP waiting = 0 :=
      List.countP_eq_zero.mpr fun processId member => by simp [notWaiting processId member]
    simp [RendezvousState.fresh, none]
  waitingArrived processId member waits := by simp [notWaiting processId member] at waits
  published := by
    rintro - ⟨processId, member, waits⟩
    simp [notWaiting processId member] at waits

/-- Only the flags of the members matter to the invariant. -/
theorem KeyInvariant.congr {arrived' waiting' : ProcessId → Bool}
    (invariant : KeyInvariant processGroup operands arrived waiting state)
    (sameArrived : ∀ processId ∈ processGroup, arrived processId = arrived' processId)
    (sameWaiting : ∀ processId ∈ processGroup, waiting processId = waiting' processId) :
    KeyInvariant processGroup operands arrived' waiting' state where
  contributed processId := by
    rw [invariant.contributed]
    by_cases member : processId ∈ processGroup
    · simp [member, sameArrived processId member]
    · simp [member]
  counted := by
    rw [invariant.counted]
    exact List.countP_congr fun processId member => by rw [sameWaiting processId member]
  waitingArrived processId member := by
    rw [← sameArrived processId member, ← sameWaiting processId member]
    exact invariant.waitingArrived processId member
  published all := by
    rintro ⟨processId, member, waits⟩
    refine invariant.published (fun other inside => ?_) ⟨processId, member, ?_⟩
    · rw [sameArrived other inside]
      exact all other inside
    · rw [sameWaiting processId member]
      exact waits

/-- The contributions are complete exactly when every member arrived. -/
theorem size_eq_countP {values : ProcessMap (List Tensor)} (distinct : processGroup.Nodup)
    (contributed : ∀ processId : ProcessId, values[processId]? =
      if processId ∈ processGroup ∧ arrived processId = true then some (operands processId)
      else none) :
    values.size = processGroup.countP arrived := by
  -- The keys of the map are the members that the counter counts.
  rw [List.countP_eq_length_filter]
  refine ProcessMap.size_eq_length (distinct.filter _) fun key => ?_
  rw [← Std.ExtTreeMap.isSome_getElem?_iff_mem, contributed, List.mem_filter]
  split <;> simp_all

/-- The contributions of a complete round are its result. -/
theorem complete_eq_roundResult {values : ProcessMap (List Tensor)}
    (contributed : ∀ processId : ProcessId, values[processId]? =
      if processId ∈ processGroup ∧ arrived processId = true then some (operands processId)
      else none)
    (all : ∀ processId ∈ processGroup, arrived processId = true) :
    (⟨values⟩ : RendezvousResult Tensor) = roundResult processGroup operands := by
  refine RendezvousResult.ext_getElem? fun key => ?_
  rw [roundResult_getElem?]
  show values[key]? = _
  rw [contributed]
  by_cases member : key ∈ processGroup
  · simp [member, all key member]
  · simp [member]

/-- Leaving with a complete result of matching counts returns that result. -/
theorem leave_of_roundResult (nonempty : processGroup ≠ [])
    (matching : MatchingCounts processGroup operands)
    (complete : state.result = roundResult processGroup operands) :
    state.leave = (.returns (roundResult processGroup operands),
      { state with
        useCount := state.useCount - 1
        result := if 0 < state.useCount - 1 then state.result else RendezvousResult.empty }) := by
  obtain ⟨accepted, checked, exact⟩ :=
    roundResult_hasMatchingOperandsCount operands nonempty
  have accepted : accepted = true := exact.mpr matching
  simp only [RendezvousState.leave, complete, checked, accepted]

/-- A first or repeated contribution changes only the map entry of its process. -/
theorem contributed_insert {values : ProcessMap (List Tensor)} (member : processId ∈ processGroup)
    (contributed : ∀ processId : ProcessId, values[processId]? =
      if processId ∈ processGroup ∧ arrived processId = true then some (operands processId)
      else none)
    (key : ProcessId) :
    (values.insert processId (operands processId))[key]? =
      if key ∈ processGroup ∧ Function.update arrived processId true key = true then
        some (operands key)
      else none := by
  by_cases same : processId = key
  · subst same
    simp [member]
  · simp [Std.ExtTreeMap.getElem?_insert, same, Function.update_of_ne (Ne.symm same), contributed]

/-- A member entering before the last member arrived waits. -/
theorem KeyInvariant.enter_blocks
    (invariant : KeyInvariant processGroup operands arrived waiting state)
    (distinct : processGroup.Nodup) (several : 2 ≤ processGroup.length)
    (member : processId ∈ processGroup) (idle : waiting processId = false)
    (missing : ∃ other ∈ processGroup, Function.update arrived processId true other = false) :
    ∃ after, state.enter processGroup processId (operands processId) = (.blocks, after) ∧
      KeyInvariant processGroup operands (Function.update arrived processId true)
        (Function.update waiting processId true) after := by
  have contributed := contributed_insert member invariant.contributed
  have incomplete : (state.values.insert processId (operands processId)).size <
      processGroup.length := by
    rw [size_eq_countP distinct contributed]
    obtain ⟨other, inside, absent⟩ := missing
    refine lt_of_le_of_ne List.countP_le_length fun full => ?_
    simp [List.countP_eq_length.mp full other inside] at absent
  have notSingle : processGroup.length ≠ 1 := by omega
  have entered : state.enter processGroup processId (operands processId) = (.blocks,
      { state with
        values := state.values.insert processId (operands processId)
        useCount := state.useCount + 1 }) := by
    simp only [RendezvousState.enter, notSingle, if_false, incomplete, if_true]
  refine ⟨_, entered, contributed, ?_, ?_, ?_⟩
  · -- The new waiting member is the one the use count was raised for.
    simp [invariant.counted, countP_update_true distinct member idle]
  · intro other inside waits
    by_cases same : other = processId
    · simp [same]
    · rw [Function.update_of_ne same] at waits ⊢
      exact invariant.waitingArrived other inside waits
  · intro all
    obtain ⟨other, inside, absent⟩ := missing
    simp [all other inside] at absent

/-- A member entering after every other member arrived publishes the round and returns. -/
theorem KeyInvariant.enter_returns
    (invariant : KeyInvariant processGroup operands arrived waiting state)
    (distinct : processGroup.Nodup) (several : 2 ≤ processGroup.length)
    (matching : MatchingCounts processGroup operands) (member : processId ∈ processGroup)
    (all : ∀ other ∈ processGroup, Function.update arrived processId true other = true) :
    ∃ after, state.enter processGroup processId (operands processId) =
        (.returns (roundResult processGroup operands), after) ∧
      KeyInvariant processGroup operands (Function.update arrived processId true) waiting after := by
  have contributed := contributed_insert member invariant.contributed
  have complete : ¬(state.values.insert processId (operands processId)).size <
      processGroup.length := by
    rw [size_eq_countP distinct contributed, List.countP_eq_length.mpr all]
    omega
  have notSingle : processGroup.length ≠ 1 := by omega
  have nonempty : processGroup ≠ [] := List.ne_nil_of_mem member
  have published := complete_eq_roundResult contributed all
  have entered : state.enter processGroup processId (operands processId) =
      RendezvousState.leave {
        values := state.values.insert processId (operands processId)
        useCount := state.useCount + 1
        result := ⟨state.values.insert processId (operands processId)⟩ } := by
    simp only [RendezvousState.enter, notSingle, if_false, complete]
  rw [leave_of_roundResult nonempty matching published] at entered
  refine ⟨_, entered, contributed, ?_, ?_, ?_⟩
  · -- The count goes up on entry and down again on the way out.
    simp [invariant.counted]
  · intro other inside _
    exact all other inside
  · -- A waiting member keeps the count positive, so the result has not been moved out.
    rintro - ⟨other, inside, waits⟩
    have positive : 0 < processGroup.countP waiting :=
      List.countP_pos_iff.mpr ⟨other, inside, waits⟩
    simp [invariant.counted, positive, published]

/-- Nobody wakes before the last member arrived. -/
theorem KeyInvariant.wake_eq_none
    (invariant : KeyInvariant processGroup operands arrived waiting state)
    (distinct : processGroup.Nodup)
    (missing : ∃ other ∈ processGroup, arrived other = false) :
    state.wake processGroup = none := by
  have incomplete : state.values.size ≠ processGroup.length := by
    rw [size_eq_countP distinct invariant.contributed]
    obtain ⟨other, inside, absent⟩ := missing
    intro full
    simp [List.countP_eq_length.mp full other inside] at absent
  simp [RendezvousState.wake, incomplete]

/-- A waiting member that wakes returns the round. -/
theorem KeyInvariant.wake_returns
    (invariant : KeyInvariant processGroup operands arrived waiting state)
    (distinct : processGroup.Nodup) (matching : MatchingCounts processGroup operands)
    (member : processId ∈ processGroup) (waits : waiting processId = true)
    (all : ∀ other ∈ processGroup, arrived other = true) :
    ∃ after, state.wake processGroup =
        some (.returns (roundResult processGroup operands), after) ∧
      KeyInvariant processGroup operands arrived (Function.update waiting processId false)
        after := by
  have complete : state.values.size = processGroup.length := by
    rw [size_eq_countP distinct invariant.contributed, List.countP_eq_length.mpr all]
  have published := invariant.published all ⟨processId, member, waits⟩
  have nonempty : processGroup ≠ [] := List.ne_nil_of_mem member
  have counted := countP_update_false distinct member waits
  have woken : state.wake processGroup = some state.leave := by
    simp only [RendezvousState.wake, complete, if_true]
  rw [leave_of_roundResult nonempty matching published] at woken
  refine ⟨_, woken, invariant.contributed, ?_, ?_, ?_⟩
  · simp only [invariant.counted]
    omega
  · intro other inside _
    exact all other inside
  · -- As long as another member waits, the result stays in the storage.
    rintro - ⟨other, inside, stillWaits⟩
    have positive : 0 < processGroup.countP (Function.update waiting processId false) :=
      List.countP_pos_iff.mpr ⟨other, inside, stillWaits⟩
    have remains : 0 < state.useCount - 1 := by
      rw [invariant.counted]
      omega
    simp [remains, published]

end KeyInvariant

end Stablehlo
