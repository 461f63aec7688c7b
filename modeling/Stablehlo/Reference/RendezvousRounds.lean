import Mathlib.Data.List.Induction
import Stablehlo.Reference.Rendezvous
import Stablehlo.Support.Transition

/-! Repeated rendezvous calls of the members of one process group on one channel. -/

namespace Stablehlo

/-- Where one process stands in its sequence of rendezvous calls. -/
structure CallerState (Tensor : Type) where
  /-- The results of its calls so far, the oldest first. -/
  returned : List (RendezvousResult Tensor)
  /-- Whether its current call waits. -/
  waiting : Bool

/-- A program run in which the members of a group call `rendezvous` again and again. -/
structure RoundsState (Tensor : Type) where
  /-- The storage of the process grid. -/
  channels : Channels Tensor
  /-- Where each process stands. -/
  callers : ProcessId → CallerState Tensor
  /-- Why the program stopped, if it did. -/
  failure : Option Failure

namespace RoundsState

variable {Tensor : Type}

/-- Nobody has called anything. -/
def start : RoundsState Tensor := ⟨Channels.fresh, fun _ => ⟨[], false⟩, none⟩

/-- Record how a critical section of the process ended. -/
def settle (processId : ProcessId) (state : RoundsState Tensor) :
    CallOutcome Tensor × Channels Tensor → RoundsState Tensor
  | (.blocks, channels) =>
    let caller := { state.callers processId with waiting := true }
    { state with channels, callers := Function.update state.callers processId caller }
  | (.returns result, channels) =>
    let caller := ⟨(state.callers processId).returned ++ [result], false⟩
    { state with channels, callers := Function.update state.callers processId caller }
  | (.fails failure, channels) => { state with channels, failure := some failure }

/-- The next critical section of a process, if it can run now. -/
def move (processGroup : ProcessGroup) (channelId : ChannelId)
    (operands : ProcessId → Nat → List Tensor) (rounds : Nat) (processId : ProcessId)
    (state : RoundsState Tensor) : Option (RoundsState Tensor) :=
  let caller := state.callers processId
  if state.failure.isSome || !processGroup.contains processId then
    none
  else if caller.waiting then
    (state.channels.wake processGroup channelId).map (state.settle processId)
  else if caller.returned.length < rounds then
    -- The call after the given number of returned calls passes the operands of that round.
    let round := caller.returned.length
    some (state.settle processId
      (state.channels.enter processGroup channelId processId (operands processId round)))
  else
    none

end RoundsState

/-- All interleavings of the given number of calls by each member. -/
def rendezvousRounds {Tensor : Type} (processGroup : ProcessGroup) (channelId : ChannelId)
    (operands : ProcessId → Nat → List Tensor) (rounds : Nat) :
    TransitionSystem (RoundsState Tensor) :=
  TransitionSystem.ofMoves RoundsState.start
    (RoundsState.move processGroup channelId operands rounds)

/-- Every call returns the operands of its own round, and no call is left behind. -/
structure RendezvousCorrect {Tensor : Type} (processGroup : ProcessGroup) (channelId : ChannelId)
    (operands : ProcessId → Nat → List Tensor) (rounds : Nat) : Prop where
  /-- The program never stops early. -/
  running : ∀ state,
    (rendezvousRounds processGroup channelId operands rounds).Reachable state →
    state.failure = none
  /-- A call returns what every member passed to its call of the same number. -/
  exact : ∀ state,
    (rendezvousRounds processGroup channelId operands rounds).Reachable state →
    ∀ processId ∈ processGroup, ∀ round result,
      (state.callers processId).returned[round]? = some result →
      result = roundResult processGroup fun member => operands member round
  /-- As long as a call is missing, some process can move. -/
  live : ∀ state,
    (rendezvousRounds processGroup channelId operands rounds).Reachable state →
    (∃ processId ∈ processGroup, (state.callers processId).returned.length < rounds) →
    (rendezvousRounds processGroup channelId operands rounds).CanStep state

section Moves

variable {Tensor : Type} {processGroup : ProcessGroup} {channelId : ChannelId}
  {operands : ProcessId → Nat → List Tensor} {rounds : Nat} {processId : ProcessId}
  {state after : RoundsState Tensor}

/-- A move is the wake-up of a waiting member or the next call of a member that does not wait. -/
theorem RoundsState.move_cases
    (moved : state.move processGroup channelId operands rounds processId = some after) :
    state.failure = none ∧ processId ∈ processGroup ∧
      (((state.callers processId).waiting = true ∧
        ∃ ended, state.channels.wake processGroup channelId = some ended ∧
          after = state.settle processId ended) ∨
      ((state.callers processId).waiting = false ∧
        (state.callers processId).returned.length < rounds ∧
        after = state.settle processId (state.channels.enter processGroup channelId processId
          (operands processId (state.callers processId).returned.length)))) := by
  simp only [RoundsState.move] at moved
  split at moved
  · cases moved
  · rename_i enabled
    simp only [Bool.or_eq_true, Bool.not_eq_true', not_or, Bool.not_eq_true,
      Option.isSome_eq_false_iff, Option.isNone_iff_eq_none, Bool.not_eq_false,
      List.contains_iff_mem] at enabled
    refine ⟨enabled.1, enabled.2, ?_⟩
    split at moved
    · rename_i waits
      obtain ⟨ended, woken, settled⟩ := Option.map_eq_some_iff.mp moved
      exact .inl ⟨waits, ended, woken, settled.symm⟩
    · rename_i idle
      split at moved
      · rename_i next
        exact .inr ⟨by simpa using idle, next, (Option.some.inj moved).symm⟩
      · cases moved

/-- A member that waits moves when its key can wake. -/
theorem RoundsState.move_wake {ended : CallOutcome Tensor × Channels Tensor}
    (running : state.failure = none) (member : processId ∈ processGroup)
    (waits : (state.callers processId).waiting = true)
    (woken : state.channels.wake processGroup channelId = some ended) :
    state.move processGroup channelId operands rounds processId =
      some (state.settle processId ended) := by
  simp [RoundsState.move, running, member, waits, woken]

/-- A member that does not wait and has calls left can always make its next call. -/
theorem RoundsState.move_enter (channelId : ChannelId)
    (operands : ProcessId → Nat → List Tensor) (running : state.failure = none)
    (member : processId ∈ processGroup) (idle : (state.callers processId).waiting = false)
    (next : (state.callers processId).returned.length < rounds) :
    state.move processGroup channelId operands rounds processId =
      some (state.settle processId (state.channels.enter processGroup channelId processId
        (operands processId (state.callers processId).returned.length))) := by
  simp [RoundsState.move, running, member, idle, next]

end Moves

section SameOperands

variable {Tensor : Type} {processGroup : ProcessGroup} {channelId : ChannelId}
  {operands : ProcessId → Nat → List Tensor} {rounds : Nat} {state after : RoundsState Tensor}

/-- Whether the process has made its first contribution. -/
def RoundsState.arrived (state : RoundsState Tensor) (processId : ProcessId) : Bool :=
  (state.callers processId).waiting || !(state.callers processId).returned.isEmpty

/-- Whether the process waits in a call. -/
def RoundsState.waits (state : RoundsState Tensor) (processId : ProcessId) : Bool :=
  (state.callers processId).waiting

/-- What every run keeps true when all rounds pass the operands of the first one. -/
structure RoundsInvariant (processGroup : ProcessGroup) (channelId : ChannelId)
    (operands : ProcessId → Nat → List Tensor) (rounds : Nat) (state : RoundsState Tensor) :
    Prop where
  /-- The program has not stopped early. -/
  running : state.failure = none
  /-- The storage of the key belongs to one endless round. -/
  key : KeyInvariant processGroup (fun member => operands member 0) state.arrived state.waits
    (state.channels (processGroup, channelId))
  /-- Nobody returned before everybody arrived. -/
  barrier : ∀ processId ∈ processGroup, (state.callers processId).returned ≠ [] →
    ∀ member ∈ processGroup, state.arrived member = true
  /-- Every call so far returned the operands of the first round. -/
  returned : ∀ processId ∈ processGroup, ∀ result ∈ (state.callers processId).returned,
    result = roundResult processGroup fun member => operands member 0
  /-- Returned and waiting calls together stay within the number of rounds. -/
  bounded : ∀ processId ∈ processGroup,
    (state.callers processId).returned.length + (state.waits processId).toNat ≤ rounds

/-- A blocked call arrives and waits. -/
theorem RoundsState.settle_blocks_flags (state : RoundsState Tensor) (processId : ProcessId)
    (channels : Channels Tensor) :
    (state.settle processId (.blocks, channels)).arrived =
        Function.update state.arrived processId true ∧
      (state.settle processId (.blocks, channels)).waits =
        Function.update state.waits processId true := by
  -- Both flags read the updated caller at the process and the old caller elsewhere.
  constructor <;> funext other <;> by_cases same : other = processId
  · simp [same, RoundsState.arrived, RoundsState.settle]
  · simp [same, RoundsState.arrived, RoundsState.settle]
  · simp [same, RoundsState.waits, RoundsState.settle]
  · simp [same, RoundsState.waits, RoundsState.settle]

/-- A returned call has arrived and does not wait. -/
theorem RoundsState.settle_returns_flags (state : RoundsState Tensor) (processId : ProcessId)
    (result : RendezvousResult Tensor) (channels : Channels Tensor) :
    (state.settle processId (.returns result, channels)).arrived =
        Function.update state.arrived processId true ∧
      (state.settle processId (.returns result, channels)).waits =
        Function.update state.waits processId false := by
  constructor <;> funext other <;> by_cases same : other = processId
  · simp [same, RoundsState.arrived, RoundsState.settle]
  · simp [same, RoundsState.arrived, RoundsState.settle]
  · simp [same, RoundsState.waits, RoundsState.settle]
  · simp [same, RoundsState.waits, RoundsState.settle]

/-- A run starts in the invariant. -/
theorem RoundsInvariant.start :
    RoundsInvariant processGroup channelId operands rounds (RoundsState.start : RoundsState Tensor)
    where
  running := rfl
  key := KeyInvariant.fresh (fun _ _ => rfl) (fun _ _ => rfl)
  barrier processId _ returned := absurd rfl returned
  returned processId _ result listed := by cases listed
  bounded processId _ := Nat.zero_le rounds

/-- A call that returns the first round's result keeps the invariant. -/
theorem RoundsInvariant.settle_returns {processId : ProcessId} {channels : Channels Tensor}
    (invariant : RoundsInvariant processGroup channelId operands rounds state)
    (member : processId ∈ processGroup)
    (all : ∀ other ∈ processGroup, Function.update state.arrived processId true other = true)
    (key : KeyInvariant processGroup (fun member => operands member 0)
      (Function.update state.arrived processId true) (Function.update state.waits processId false)
      (channels (processGroup, channelId)))
    (room : (state.callers processId).returned.length < rounds) :
    RoundsInvariant processGroup channelId operands rounds (state.settle processId
      (.returns (roundResult processGroup fun member => operands member 0), channels)) := by
  obtain ⟨arrived, waits⟩ := RoundsState.settle_returns_flags state processId
    (roundResult processGroup fun member => operands member 0) channels
  refine ⟨invariant.running, ?_, ?_, ?_, ?_⟩
  · rw [arrived, waits]
    exact key
  · intro other _ _
    rw [arrived]
    exact all
  · -- The new result is the round's result, and the older ones were before.
    intro other inside result listed
    by_cases same : other = processId
    · subst same
      simp only [RoundsState.settle, Function.update_self, List.mem_append,
        List.mem_singleton] at listed
      rcases listed with older | newest
      · exact invariant.returned other inside result older
      · exact newest
    · simp only [RoundsState.settle, Function.update_of_ne same] at listed
      exact invariant.returned other inside result listed
  · intro other inside
    rw [waits]
    by_cases same : other = processId
    · subst same
      simpa [RoundsState.settle, Nat.succ_le_iff] using room
    · simpa [RoundsState.settle, Function.update_of_ne same] using invariant.bounded other inside

/-- A member whose call waits has a call left to return. -/
theorem RoundsInvariant.room_of_waits {processId : ProcessId}
    (invariant : RoundsInvariant processGroup channelId operands rounds state)
    (member : processId ∈ processGroup) (waits : state.waits processId = true) :
    (state.callers processId).returned.length < rounds := by
  have bounded := invariant.bounded processId member
  rw [waits, Bool.toNat_true] at bounded
  omega

/-- Every move keeps the invariant when the rounds repeat the operands of the first one. -/
theorem RoundsInvariant.move {processId : ProcessId} (distinct : processGroup.Nodup)
    (several : 2 ≤ processGroup.length)
    (matching : MatchingCounts processGroup fun member => operands member 0)
    (repeated : ∀ member ∈ processGroup, ∀ round < rounds,
      operands member round = operands member 0)
    (invariant : RoundsInvariant processGroup channelId operands rounds state)
    (moved : state.move processGroup channelId operands rounds processId = some after) :
    RoundsInvariant processGroup channelId operands rounds after := by
  obtain ⟨-, member, ⟨waits, ended, woken, rfl⟩ | ⟨idle, room, rfl⟩⟩ := RoundsState.move_cases moved
  · -- A waiting member can only have woken because everybody arrived.
    have all : ∀ other ∈ processGroup, state.arrived other = true := by
      by_contra missing
      push Not at missing
      obtain ⟨other, inside, absent⟩ := missing
      have asleep := invariant.key.wake_eq_none distinct ⟨other, inside, by simpa using absent⟩
      simp [Channels.wake_eq_none asleep] at woken
    obtain ⟨next, wakes, key⟩ := invariant.key.wake_returns distinct matching member waits all
    rw [Channels.wake_eq wakes] at woken
    cases woken
    refine invariant.settle_returns member ?_ ?_ (invariant.room_of_waits member waits)
    · intro other inside
      by_cases same : other = processId <;> simp [same, all other inside]
    · rw [Function.update_self]
      refine key.congr (fun other inside => ?_) fun _ _ => rfl
      by_cases same : other = processId <;> simp [same, all other inside, all processId member]
  · rw [repeated processId member _ room]
    by_cases all : ∀ other ∈ processGroup, Function.update state.arrived processId true other = true
    · -- The last member to arrive publishes the round.
      obtain ⟨next, enters, key⟩ :=
        invariant.key.enter_returns distinct several matching member all
      rw [Channels.enter_eq enters]
      refine invariant.settle_returns member all ?_ room
      rw [Function.update_self]
      refine key.congr (fun _ _ => rfl) fun other inside => ?_
      by_cases same : other = processId
      · simp [same, RoundsState.waits, idle]
      · simp [same]
    · -- An earlier member waits, and nobody has returned yet.
      push Not at all
      have missing : ∃ other ∈ processGroup,
          Function.update state.arrived processId true other = false := by
        simpa using all
      obtain ⟨next, enters, key⟩ :=
        invariant.key.enter_blocks distinct several member idle missing
      rw [Channels.enter_eq enters]
      obtain ⟨arrived, waits⟩ := RoundsState.settle_blocks_flags state processId
        (Function.update state.channels (processGroup, channelId) next)
      obtain ⟨absentee, absenteeMember, absent⟩ := missing
      have never : ∀ other ∈ processGroup, (state.callers other).returned = [] := by
        intro other inside
        by_contra some
        have everyone := invariant.barrier other inside some absentee absenteeMember
        by_cases same : absentee = processId <;> simp_all
      refine ⟨invariant.running, ?_, ?_, ?_, ?_⟩
      · rw [arrived, waits]
        simpa [RoundsState.settle] using key
      · intro other inside returned
        by_cases same : other = processId
        · subst same
          simp [RoundsState.settle, never other inside] at returned
        · simp [RoundsState.settle, same, never other inside] at returned
      · intro other inside result listed
        by_cases same : other = processId
        · subst same
          simp [RoundsState.settle, never other inside] at listed
        · simp [RoundsState.settle, same, never other inside] at listed
      · intro other inside
        rw [waits]
        by_cases same : other = processId
        · subst same
          simpa [RoundsState.settle, Nat.succ_le_iff] using room
        · simpa [RoundsState.settle, same] using invariant.bounded other inside

/-- In every reachable state of repeated equal rounds the invariant holds. -/
theorem RoundsInvariant.reachable (distinct : processGroup.Nodup)
    (several : 2 ≤ processGroup.length)
    (matching : MatchingCounts processGroup fun member => operands member 0)
    (repeated : ∀ member ∈ processGroup, ∀ round < rounds,
      operands member round = operands member 0)
    (reached : (rendezvousRounds processGroup channelId operands rounds).Reachable state) :
    RoundsInvariant processGroup channelId operands rounds state := by
  refine reached.invariant ?_ ?_
  · rintro _ rfl
    exact RoundsInvariant.start
  · rintro before after holds ⟨processId, moved⟩
    exact holds.move distinct several matching repeated moved

/-- As long as a call is missing, the invariant leaves some process able to move. -/
theorem RoundsInvariant.canStep (distinct : processGroup.Nodup)
    (matching : MatchingCounts processGroup fun member => operands member 0)
    (invariant : RoundsInvariant processGroup channelId operands rounds state)
    (unfinished : ∃ processId ∈ processGroup, (state.callers processId).returned.length < rounds) :
    (rendezvousRounds processGroup channelId operands rounds).CanStep state := by
  obtain ⟨processId, member, room⟩ := unfinished
  by_cases all : ∀ other ∈ processGroup, state.arrived other = true
  · -- Everybody arrived, so the unfinished member can wake or start its next call.
    cases waits : (state.callers processId).waiting with
    | true =>
      obtain ⟨next, wakes, -⟩ := invariant.key.wake_returns distinct matching member waits all
      exact ⟨_, processId, RoundsState.move_wake invariant.running member waits
        (Channels.wake_eq wakes)⟩
    | false => exact ⟨_, processId, RoundsState.move_enter _ _ invariant.running member waits room⟩
  · -- A member that has not arrived is not waiting either, so it can make its first call.
    push Not at all
    obtain ⟨other, inside, absent⟩ := all
    have absent : (state.callers other).waiting = false ∧ (state.callers other).returned = [] := by
      simpa [RoundsState.arrived] using absent
    have first : (state.callers other).returned.length < rounds := by
      rw [absent.2, List.length_nil]
      omega
    exact ⟨_, other, RoundsState.move_enter _ _ invariant.running inside absent.1 first⟩

/-- Rounds that repeat the operands of the first one run correctly. -/
theorem rendezvousCorrect_of_repeated (distinct : processGroup.Nodup)
    (several : 2 ≤ processGroup.length)
    (matching : MatchingCounts processGroup fun member => operands member 0)
    (repeated : ∀ member ∈ processGroup, ∀ round < rounds,
      operands member round = operands member 0) :
    RendezvousCorrect processGroup channelId operands rounds where
  running state reached :=
    (RoundsInvariant.reachable distinct several matching repeated reached).running
  exact state reached processId member round result listed := by
    have invariant := RoundsInvariant.reachable distinct several matching repeated reached
    have within : round < rounds := by
      have short := (List.getElem?_eq_some_iff.mp listed).1
      have bounded := invariant.bounded processId member
      omega
    rw [invariant.returned processId member result (List.mem_of_getElem? listed)]
    -- The operands of this round are those of the first one, member by member.
    refine RendezvousResult.ext_getElem? fun key => ?_
    simp only [roundResult_getElem?]
    split
    · rename_i inside
      rw [repeated key inside round within]
    · rfl
  live state reached unfinished :=
    (RoundsInvariant.reachable distinct several matching repeated reached).canStep distinct
      matching unfinished

end SameOperands

section EarlyMember

variable {Tensor : Type} {processGroup : ProcessGroup} {channelId : ChannelId}
  {operands : ProcessId → Nat → List Tensor} {rounds : Nat} {state after : RoundsState Tensor}

/-- The members of a list, one after the other, make their first calls and wait. -/
theorem firstCalls_follow (channelId : ChannelId) (operands : ProcessId → Nat → List Tensor)
    (distinct : processGroup.Nodup) (several : 2 ≤ processGroup.length)
    (positive : 0 < rounds) {processId : ProcessId} (member : processId ∈ processGroup) :
    ∀ callers : List ProcessId, callers.Nodup → (∀ caller ∈ callers, caller ∈ processGroup) →
      processId ∉ callers →
      ∃ state, TransitionSystem.follow
          (RoundsState.move processGroup channelId operands rounds) callers
          RoundsState.start = some state ∧
        state.failure = none ∧
        KeyInvariant processGroup (fun member => operands member 0) (callers.contains ·)
          (callers.contains ·) (state.channels (processGroup, channelId)) ∧
        ∀ other, state.callers other = ⟨[], callers.contains other⟩ := by
  -- The induction adds the last caller, who finds the given process still missing.
  intro callers
  induction callers using List.reverseRecOn with
  | nil =>
    intro _ _ _
    exact ⟨_, rfl, rfl, KeyInvariant.fresh (fun _ _ => rfl) (fun _ _ => rfl), fun _ => rfl⟩
  | append_singleton earlier caller ih =>
    intro once inside absent
    have onceEarlier := (List.nodup_append.mp once).1
    have fresh : caller ∉ earlier := by
      intro again
      exact (List.nodup_append.mp once).2.2 caller again caller (by simp) rfl
    obtain ⟨state, followed, running, key, standing⟩ := ih onceEarlier
      (fun other listed => inside other (by simp [listed])) (fun listed => absent (by simp [listed]))
    have callerMember := inside caller (by simp)
    have idle : earlier.contains caller = false := by simpa using fresh
    have different : processId ≠ caller := fun same => absent (by simp [same])
    have missing : ∃ other ∈ processGroup,
        Function.update (earlier.contains ·) caller true other = false := by
      refine ⟨processId, member, ?_⟩
      rw [Function.update_of_ne different]
      simpa using fun listed => absent (by simp [listed])
    obtain ⟨next, enters, key⟩ := key.enter_blocks distinct several callerMember idle missing
    have flags : Function.update (earlier.contains ·) caller true =
        ((earlier ++ [caller]).contains ·) := by
      funext other
      by_cases same : other = caller <;> simp [same]
    have room : (state.callers caller).returned.length < rounds := by
      rw [standing caller]
      exact positive
    have waitsNot : (state.callers caller).waiting = false := by
      rw [standing caller]
      exact idle
    have moved := RoundsState.move_enter channelId operands running
      callerMember waitsNot room
    rw [standing caller, List.length_nil, Channels.enter_eq enters] at moved
    have continued : TransitionSystem.follow
        (RoundsState.move processGroup channelId operands rounds) (earlier ++ [caller])
        RoundsState.start = some (state.settle caller
          (.blocks, Function.update state.channels (processGroup, channelId) next)) := by
      rw [TransitionSystem.follow_append, followed, Option.bind_some, TransitionSystem.follow,
        moved]
      rfl
    refine ⟨_, continued, running, ?_, ?_⟩
    · rw [flags] at key
      simpa [RoundsState.settle] using key
    · intro other
      by_cases same : other = caller
      · subst same
        simp [RoundsState.settle, standing]
      · simp [RoundsState.settle, same, standing]

/-- One member goes ahead while the others have only made their first contributions. -/
structure EarlyInvariant (processGroup : ProcessGroup) (channelId : ChannelId)
    (operands : ProcessId → Nat → List Tensor) (processId : ProcessId) (calls : Nat)
    (state : RoundsState Tensor) : Prop where
  /-- The member is between two calls. -/
  idle : (state.callers processId).waiting = false
  /-- The number of its calls so far. -/
  counted : (state.callers processId).returned.length = calls
  /-- The others' contributions are those of the first round. -/
  stale : ∀ key : ProcessId, key ≠ processId →
    (state.channels (processGroup, channelId)).values[key]? =
      if key ∈ processGroup then some (operands key 0) else none

/-- The member ahead finds every contribution in place, whatever it contributes itself. -/
theorem EarlyInvariant.complete {processId : ProcessId} {calls : Nat}
    (early : EarlyInvariant processGroup channelId operands processId calls state)
    (distinct : processGroup.Nodup) (member : processId ∈ processGroup) (tensors : List Tensor) :
    ((state.channels (processGroup, channelId)).values.insert processId tensors).size =
      processGroup.length := by
  refine ProcessMap.size_eq_length distinct fun key => ?_
  by_cases same : processId = key
  · subst same
    simp [member]
  · rw [Std.ExtTreeMap.mem_insert, ← Std.ExtTreeMap.isSome_getElem?_iff_mem,
      early.stale key (Ne.symm same)]
    by_cases inside : key ∈ processGroup <;> simp [inside, same]

/-- In a correct run the member ahead makes one more call, with the others' first operands. -/
theorem EarlyInvariant.step {processId : ProcessId} {calls : Nat}
    (distinct : processGroup.Nodup) (several : 2 ≤ processGroup.length)
    (correct : RendezvousCorrect processGroup channelId operands rounds)
    (member : processId ∈ processGroup) (room : calls < rounds)
    (reached : (rendezvousRounds processGroup channelId operands rounds).Reachable state)
    (early : EarlyInvariant processGroup channelId operands processId calls state) :
    ∃ after, (rendezvousRounds processGroup channelId operands rounds).Reachable after ∧
      EarlyInvariant processGroup channelId operands processId (calls + 1) after ∧
      MatchingCounts processGroup (fun other => operands other calls) ∧
      ∀ other ∈ processGroup, other ≠ processId → operands other calls = operands other 0 := by
  have notSingle : processGroup.length ≠ 1 := by omega
  let values := (state.channels (processGroup, channelId)).values.insert processId
    (operands processId calls)
  let published : RendezvousState Tensor :=
    ⟨values, (state.channels (processGroup, channelId)).useCount + 1, ⟨values⟩⟩
  have entered : (state.channels (processGroup, channelId)).enter processGroup processId
      (operands processId calls) = (published.leave.1, published.leave.2) := by
    simp only [RendezvousState.enter, notSingle, if_false,
      early.complete distinct member (operands processId calls), lt_irrefl]
    rfl
  have moved := RoundsState.move_enter channelId operands
    (correct.running state reached) member early.idle (early.counted ▸ room)
  rw [early.counted, Channels.enter_eq entered] at moved
  obtain ⟨kept, ⟨failure, fails⟩ | ⟨returns, matching⟩⟩ := published.leave_cases
  · -- A correct run has no failing call.
    rw [fails] at moved
    have impossible := correct.running _ (reached.step ⟨processId, moved⟩)
    simp [RoundsState.settle] at impossible
  · rw [returns] at moved
    have arrives := reached.step ⟨processId, moved⟩
    -- The result of this call is exact, so it holds everyone's operands of this round.
    have exact : published.result = roundResult processGroup fun other => operands other calls := by
      refine correct.exact _ arrives processId member calls published.result ?_
      simp [RoundsState.settle, ← early.counted]
    refine ⟨_, arrives, ⟨by simp [RoundsState.settle], by simp [RoundsState.settle, early.counted],
      ?_⟩, ?_, ?_⟩
    · intro key different
      simp only [RoundsState.settle, Function.update_self, kept]
      rw [Std.ExtTreeMap.getElem?_insert, ← early.stale key different]
      simp [Ne.symm different]
    · obtain ⟨accepted, checked, means⟩ := roundResult_hasMatchingOperandsCount
        (fun other => operands other calls) (List.ne_nil_of_mem member)
      rw [← exact, matching, Option.some.injEq] at checked
      exact means.mp checked.symm
    · intro other inside different
      have found := roundResult_getElem? processGroup (fun other => operands other calls) other
      rw [← exact, if_pos inside] at found
      have stale := early.stale other different
      rw [if_pos inside] at stale
      have apart : ¬compare processId other = .eq := fun tie =>
        different (Std.LawfulEqOrd.eq_of_compare tie).symm
      simp only [published, values, Std.ExtTreeMap.getElem?_insert, apart, if_false, stale,
        Option.some.injEq] at found
      exact found.symm

/-- In a correct run the member ahead can make all of its calls. -/
theorem EarlyInvariant.steps {processId : ProcessId} (distinct : processGroup.Nodup)
    (several : 2 ≤ processGroup.length)
    (correct : RendezvousCorrect processGroup channelId operands rounds)
    (member : processId ∈ processGroup)
    (reached : (rendezvousRounds processGroup channelId operands rounds).Reachable state)
    (early : EarlyInvariant processGroup channelId operands processId 0 state) :
    ∀ calls ≤ rounds, ∃ after,
      (rendezvousRounds processGroup channelId operands rounds).Reachable after ∧
      EarlyInvariant processGroup channelId operands processId calls after := by
  intro calls
  induction calls with
  | zero => exact fun _ => ⟨state, reached, early⟩
  | succ calls ih =>
    intro room
    obtain ⟨before, reachedBefore, earlyBefore⟩ := ih (by omega)
    obtain ⟨after, reachedAfter, earlyAfter, -⟩ :=
      earlyBefore.step distinct several correct member (by omega) reachedBefore
    exact ⟨after, reachedAfter, earlyAfter⟩

/-- Any member can be the last one to arrive in the first round. -/
theorem EarlyInvariant.exists (channelId : ChannelId) (operands : ProcessId → Nat → List Tensor)
    {processId : ProcessId} (distinct : processGroup.Nodup)
    (several : 2 ≤ processGroup.length) (positive : 0 < rounds)
    (member : processId ∈ processGroup) :
    ∃ state : RoundsState Tensor,
      (rendezvousRounds processGroup channelId operands rounds).Reachable state ∧
      EarlyInvariant processGroup channelId operands processId 0 state := by
  -- Everybody else makes the first call before the member does.
  obtain ⟨state, followed, running, key, standing⟩ :=
    firstCalls_follow channelId operands distinct several positive
      member (processGroup.erase processId) (distinct.erase _)
      (fun _ listed => List.mem_of_mem_erase listed) (distinct.not_mem_erase)
  refine ⟨state, TransitionSystem.reachable_of_follow followed, ?_, ?_, ?_⟩
  · rw [standing]
    simpa using distinct.not_mem_erase
  · rw [standing]
    rfl
  · intro other different
    rw [key.contributed]
    simp [distinct.mem_erase_iff, different]

/-- Every member of a group of two or more has another member next to it. -/
theorem exists_other_member (distinct : processGroup.Nodup) (several : 2 ≤ processGroup.length)
    (processId : ProcessId) : ∃ other ∈ processGroup, processId ≠ other := by
  -- The first two members differ, so one of them is not the given process.
  match processGroup, several with
  | first :: second :: rest, _ =>
    by_cases same : processId = first
    · subst same
      have different : processId ≠ second := by
        rintro rfl
        simp at distinct
      exact ⟨second, by simp, different⟩
    · exact ⟨first, by simp, same⟩

/-- In a correct run every round repeats the operands of the first one. -/
theorem repeated_of_rendezvousCorrect (distinct : processGroup.Nodup)
    (several : 2 ≤ processGroup.length) (positive : 0 < rounds)
    (correct : RendezvousCorrect processGroup channelId operands rounds) :
    MatchingCounts processGroup (fun member => operands member 0) ∧
      ∀ member ∈ processGroup, ∀ round < rounds, operands member round = operands member 0 := by
  constructor
  · -- Whoever arrives last in the first round checks the counts.
    have nonempty : processGroup ≠ [] := by
      rintro rfl
      simp at several
    obtain ⟨last, member⟩ := List.exists_mem_of_ne_nil _ nonempty
    obtain ⟨state, reached, early⟩ := EarlyInvariant.exists channelId operands distinct several positive member
    obtain ⟨-, -, -, matching, -⟩ := early.step distinct several correct member positive reached
    exact matching
  · -- Some other member can go ahead of the given one, up to the round in question.
    intro member inside round within
    obtain ⟨other, otherInside, different⟩ := exists_other_member distinct several member
    obtain ⟨state, reached, early⟩ := EarlyInvariant.exists channelId operands distinct several positive otherInside
    obtain ⟨before, reachedBefore, earlyBefore⟩ :=
      early.steps distinct several correct otherInside reached round (by omega)
    obtain ⟨-, -, -, -, same⟩ :=
      earlyBefore.step distinct several correct otherInside within reachedBefore
    exact same member inside different

end EarlyMember

/-- Without any call, the run never leaves its start. -/
theorem rendezvousCorrect_zero {Tensor : Type} {processGroup : ProcessGroup}
    {channelId : ChannelId} {operands : ProcessId → Nat → List Tensor} :
    RendezvousCorrect processGroup channelId operands 0 := by
  have still : ∀ state, (rendezvousRounds processGroup channelId operands 0).Reachable state →
      state = RoundsState.start := by
    intro state reached
    refine reached.invariant (fun _ start => start) ?_
    rintro _ after rfl ⟨processId, moved⟩
    -- Nobody waits at the start, and nobody has a call to make.
    obtain ⟨-, -, ⟨waits, -⟩ | ⟨-, room, -⟩⟩ := RoundsState.move_cases moved
    · simp [RoundsState.start] at waits
    · omega
  refine ⟨?_, ?_, ?_⟩
  · intro state reached
    rw [still state reached]
    rfl
  · intro state reached processId _ round result listed
    rw [still state reached] at listed
    simp [RoundsState.start] at listed
  · rintro state - ⟨processId, -, room⟩
    omega

/--
Repeated rendezvous calls are correct exactly when every round passes the same operands.

The contributions of a round are never cleared, so whoever is first in the next round finds them.
-/
theorem rendezvousCorrect_iff {Tensor : Type} (processGroup : ProcessGroup) (channelId : ChannelId)
    (operands : ProcessId → Nat → List Tensor) (rounds : Nat) (distinct : processGroup.Nodup)
    (several : 2 ≤ processGroup.length) :
    RendezvousCorrect processGroup channelId operands rounds ↔
      rounds = 0 ∨ (MatchingCounts processGroup (fun member => operands member 0) ∧
        ∀ member ∈ processGroup, ∀ round < rounds,
          operands member round = operands member 0) := by
  constructor
  · intro correct
    rcases Nat.eq_zero_or_pos rounds with none | positive
    · exact .inl none
    · exact .inr (repeated_of_rendezvousCorrect distinct several positive correct)
  · rintro (rfl | ⟨matching, repeated⟩)
    · exact rendezvousCorrect_zero
    · exact rendezvousCorrect_of_repeated distinct several matching repeated

/-- Two replicas that pass the same operands twice run correctly. -/
theorem rendezvousCorrect_iff_two_replicas :
    RendezvousCorrect [⟨0, 0⟩, ⟨1, 0⟩] 0 (fun member _ => [member.replicaId]) 2 :=
  (rendezvousCorrect_iff [⟨0, 0⟩, ⟨1, 0⟩] 0 (fun member _ => [member.replicaId]) 2 (by decide)
    (by decide)).mpr (.inr ⟨fun _ _ _ _ => rfl, fun _ _ _ _ => rfl⟩)

/-- The second replica's second call returns what the first replica passed to its first call. -/
theorem rendezvous_stale_operands :
    ¬RendezvousCorrect [⟨0, 0⟩, ⟨1, 0⟩] 0 (fun _ round => [round]) 2 := by
  intro correct
  -- The first replica waits, the second one publishes, and the second one calls again.
  let schedule : List ProcessId := [⟨0, 0⟩, ⟨1, 0⟩, ⟨1, 0⟩]
  have followed : ∃ state, TransitionSystem.follow
      (RoundsState.move [⟨0, 0⟩, ⟨1, 0⟩] 0 (fun _ round => [round]) 2) schedule
      RoundsState.start = some state ∧
      ((state.callers ⟨1, 0⟩).returned[1]?.map fun result => result.lookup ⟨0, 0⟩) =
        some [0] := ⟨_, rfl, by decide⟩
  obtain ⟨state, taken, read⟩ := followed
  obtain ⟨result, listed, stale⟩ := Option.map_eq_some_iff.mp read
  have exact := correct.exact state (TransitionSystem.reachable_of_follow taken) ⟨1, 0⟩ (by simp)
    1 result listed
  rw [exact, roundResult_lookup _ (by simp)] at stale
  cases stale

end Stablehlo
