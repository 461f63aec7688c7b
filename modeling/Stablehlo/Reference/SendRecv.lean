import Stablehlo.Support.Transition

/-! The send and recv channels of the process grid, one critical section at a time. -/

namespace Stablehlo

/-- All that `send` and `recv` share about one channel id. -/
structure SendRecvState (Tensor : Type) where
  /-- The data on its way. -/
  result : List Tensor
  /-- Whether the channel id is in the set of ready channels. -/
  ready : Bool

namespace SendRecvState

variable {Tensor : Type}

/-- A recv call up to its wait: the channel becomes ready. -/
def recvReady (channel : SendRecvState Tensor) : SendRecvState Tensor :=
  { channel with ready := true }

/-- A recv call from its wait on, once the wait predicate holds. -/
def recvTake (channel : SendRecvState Tensor) : Option (List Tensor × SendRecvState Tensor) :=
  if channel.result.isEmpty then none
  else some (channel.result, { channel with result := [] })

/-- A send call from its wait on, once the wait predicate holds. -/
def sendPut (inputs : List Tensor) (channel : SendRecvState Tensor) :
    Option (SendRecvState Tensor) :=
  if channel.ready then some { channel with result := inputs, ready := false } else none

end SendRecvState

/-- The two processes that use the channel. -/
inductive Party where
  /-- The process that calls `send` once for every payload. -/
  | sender
  /-- The process that calls `recv` once for every payload. -/
  | receiver
  deriving DecidableEq, Repr

/-- A program run in which the payloads go through one channel. -/
structure TransferState (Tensor : Type) where
  /-- The storage of the channel. -/
  channel : SendRecvState Tensor
  /-- The number of send calls that are over. -/
  sent : Nat
  /-- Whether the current send call waits. -/
  sending : Bool
  /-- The results of the recv calls that are over. -/
  received : List (List Tensor)
  /-- Whether the current recv call waits. -/
  receiving : Bool

namespace TransferState

variable {Tensor : Type}

/-- Nothing has been sent or received. -/
def start : TransferState Tensor := ⟨⟨[], false⟩, 0, false, [], false⟩

/-- Finish the current send call, or wait until the receiver is ready. -/
def finishSend (inputs : List Tensor) (state : TransferState Tensor) : TransferState Tensor :=
  match state.channel.sendPut inputs with
  | some channel => { state with channel, sent := state.sent + 1, sending := false }
  | none => { state with sending := true }

/-- Finish the current recv call, or wait until there is data. -/
def finishRecv (state : TransferState Tensor) : TransferState Tensor :=
  match state.channel.recvTake with
  | some (result, channel) =>
    { state with channel, received := state.received ++ [result], receiving := false }
  | none => { state with receiving := true }

/-- The next critical section of a party, if it can run now. -/
def move (payloads : List (List Tensor)) (party : Party) (state : TransferState Tensor) :
    Option (TransferState Tensor) :=
  match party with
  | .sender =>
    match payloads[state.sent]? with
    | none => none
    | some inputs =>
      -- A waiting call goes on only when its wait predicate holds.
      if state.sending && !state.channel.ready then none else some (state.finishSend inputs)
  | .receiver =>
    if payloads.length ≤ state.received.length then none
    else if state.receiving then
      if state.channel.result.isEmpty then none else some state.finishRecv
    else
      -- A new call marks the channel ready before its wait predicate is looked at.
      some ({ state with channel := state.channel.recvReady }).finishRecv

end TransferState

/-- All interleavings of one send and one recv call for every payload. -/
def transfers {Tensor : Type} (payloads : List (List Tensor)) :
    TransitionSystem (TransferState Tensor) :=
  TransitionSystem.ofMoves TransferState.start (TransferState.move payloads)

/-- Every payload arrives once and in order, and no transfer is left behind. -/
structure SendRecvCorrect {Tensor : Type} (payloads : List (List Tensor)) : Prop where
  /-- A recv call returns the payload of the send call of the same number. -/
  exact : ∀ state, (transfers payloads).Reachable state →
    ∀ (number : Nat) (result : List Tensor),
      state.received[number]? = some result → payloads[number]? = some result
  /-- A payload is received after it was sent, and only one can be on its way. -/
  once : ∀ state, (transfers payloads).Reachable state →
    state.received.length ≤ state.sent ∧ state.sent ≤ state.received.length + 1
  /-- A payload that was sent and not received yet is in the channel. -/
  kept : ∀ state, (transfers payloads).Reachable state →
    state.received.length < state.sent →
    payloads[state.received.length]? = some state.channel.result
  /-- The recv call of a finished send call can still find its wait predicate true. -/
  live : ∀ state, (transfers payloads).Reachable state → ∀ number < state.sent,
    state.received.length ≤ number →
    ∃ after, (transfers payloads).Steps state after ∧ after.received.length = number ∧
      after.channel.result ≠ []

section Delivery

variable {Tensor : Type} {payloads : List (List Tensor)} {state after : TransferState Tensor}

/-- Where a transfer of a payload that is not empty stands. -/
inductive TransferPhase (payloads : List (List Tensor)) (state : TransferState Tensor) : Prop
  /-- The next recv call has not been made. -/
  | rest (empty : state.channel.result = []) (unready : state.channel.ready = false)
      (idle : state.receiving = false) (level : state.sent = state.received.length)
  /-- The receiver waits for the next send call. -/
  | ready (empty : state.channel.result = []) (marked : state.channel.ready = true)
      (waits : state.receiving = true) (level : state.sent = state.received.length)
  /-- The payload is in the channel and the receiver has not woken. -/
  | full (stored : payloads[state.received.length]? = some state.channel.result)
      (unready : state.channel.ready = false) (waits : state.receiving = true)
      (ahead : state.sent = state.received.length + 1)

/-- What every run keeps true when no payload is empty. -/
structure TransferInvariant (payloads : List (List Tensor)) (state : TransferState Tensor) :
    Prop where
  /-- The received payloads are the first ones. -/
  received : state.received <+: payloads
  /-- The channel is in one of the phases of a transfer. -/
  phase : TransferPhase payloads state

/-- Appending the next element of a list to a proper start of it gives a longer start. -/
theorem prefix_append_next {α : Type} {start whole : List α} {next : α} (isStart : start <+: whole)
    (found : whole[start.length]? = some next) : start ++ [next] <+: whole := by
  obtain ⟨rest, rfl⟩ := isStart
  -- The element behind the start is the first of the rest.
  cases rest with
  | nil => simp at found
  | cons head rest =>
    simp only [List.getElem?_append_right (Nat.le_refl _), Nat.sub_self,
      List.getElem?_cons_zero, Option.some.injEq] at found
    subst found
    exact ⟨rest, by simp⟩

/-- A move of the sender either waits or puts the next payload into a ready channel. -/
theorem TransferInvariant.send (invariant : TransferInvariant payloads state)
    (moved : state.move payloads .sender = some after) : TransferInvariant payloads after := by
  simp only [TransferState.move] at moved
  cases next : payloads[state.sent]? with
  | none => simp [next] at moved
  | some inputs =>
    simp only [next, Option.ite_none_left_eq_some, Option.some.injEq] at moved
    obtain ⟨-, rfl⟩ := moved
    cases invariant.phase with
    | rest empty unready idle level =>
      -- The channel is not ready, so the call waits.
      simp only [TransferState.finishSend, SendRecvState.sendPut, unready]
      exact ⟨invariant.received, .rest empty unready idle level⟩
    | ready empty marked waits level =>
      simp only [TransferState.finishSend, SendRecvState.sendPut, marked, if_true]
      exact ⟨invariant.received, .full (level ▸ next) rfl waits (by simp [level])⟩
    | full stored unready waits ahead =>
      simp only [TransferState.finishSend, SendRecvState.sendPut, unready]
      exact ⟨invariant.received, .full stored unready waits ahead⟩

/-- A move of the receiver makes the channel ready or takes the payload out of it. -/
theorem TransferInvariant.recv (nonempty : ∀ payload ∈ payloads, payload ≠ [])
    (invariant : TransferInvariant payloads state)
    (moved : state.move payloads .receiver = some after) : TransferInvariant payloads after := by
  simp only [TransferState.move] at moved
  split at moved
  · cases moved
  cases invariant.phase with
  | rest empty unready idle level =>
    -- A new call finds no data, so it waits in a ready channel.
    simp only [idle, Bool.false_eq_true, if_false, TransferState.finishRecv,
      SendRecvState.recvReady, SendRecvState.recvTake, empty, List.isEmpty_nil, if_true,
      Option.some.injEq] at moved
    subst moved
    exact ⟨invariant.received, .ready rfl rfl rfl level⟩
  | ready empty marked waits level => simp [waits, empty] at moved
  | full stored unready waits ahead =>
    have present : state.channel.result ≠ [] := nonempty _ (List.mem_of_getElem? stored)
    simp only [waits, if_true, List.isEmpty_iff, present, if_false, TransferState.finishRecv,
      SendRecvState.recvTake, Option.some.injEq] at moved
    subst moved
    exact ⟨prefix_append_next invariant.received stored,
      .rest rfl unready rfl (by simp [ahead])⟩

/-- In every reachable state the invariant holds, when no payload is empty. -/
theorem TransferInvariant.reachable (nonempty : ∀ payload ∈ payloads, payload ≠ [])
    (reached : (transfers payloads).Reachable state) : TransferInvariant payloads state := by
  refine reached.invariant ?_ ?_
  · rintro _ rfl
    exact ⟨List.nil_prefix, .rest rfl rfl rfl rfl⟩
  · rintro before after holds ⟨party, moved⟩
    cases party with
    | sender => exact holds.send moved
    | receiver => exact holds.recv nonempty moved

/-- Payloads that are not empty are transferred correctly. -/
theorem sendRecvCorrect_of_nonempty (nonempty : ∀ payload ∈ payloads, payload ≠ []) :
    SendRecvCorrect payloads where
  exact state reached number result listed := by
    obtain ⟨rest, whole⟩ := (TransferInvariant.reachable nonempty reached).received
    have short := (List.getElem?_eq_some_iff.mp listed).1
    rw [← whole, List.getElem?_append_left short]
    exact listed
  once state reached := by
    cases (TransferInvariant.reachable nonempty reached).phase with
    | rest _ _ _ level => omega
    | ready _ _ _ level => omega
    | full _ _ _ ahead => omega
  kept state reached onTheWay := by
    cases (TransferInvariant.reachable nonempty reached).phase with
    | rest _ _ _ level => omega
    | ready _ _ _ level => omega
    | full stored _ _ _ => exact stored
  live state reached number finished pending := by
    -- Only the last finished send can be pending, and its payload is in the channel already.
    cases (TransferInvariant.reachable nonempty reached).phase with
    | rest _ _ _ level => omega
    | ready _ _ _ level => omega
    | full stored _ _ ahead =>
      exact ⟨state, Relation.ReflTransGen.refl, by omega,
        nonempty _ (List.mem_of_getElem? stored)⟩

end Delivery

section EmptyPayload

variable {Tensor : Type} {payloads : List (List Tensor)} {state after : TransferState Tensor}

/-- The run at rest after the given number of complete transfers. -/
def TransferState.atRest (payloads : List (List Tensor)) (transferred : Nat) :
    TransferState Tensor :=
  ⟨⟨[], false⟩, transferred, false, payloads.take transferred, false⟩

/-- The run after the send call that put an empty payload into the channel. -/
structure TransferStuck (number : Nat) (state : TransferState Tensor) : Prop where
  /-- The channel looks as if nothing had been sent. -/
  empty : state.channel.result = []
  /-- The ready mark is gone. -/
  unready : state.channel.ready = false
  /-- The receiver still waits for the payload. -/
  waits : state.receiving = true
  /-- The payloads before it have been received. -/
  counted : state.received.length = number

/-- A payload that is not empty goes through the channel in three moves. -/
theorem atRest_next {transferred : Nat} {payload : List Tensor}
    (next : payloads[transferred]? = some payload) (nonempty : payload ≠ []) :
    TransitionSystem.follow (TransferState.move payloads) [.receiver, .sender, .receiver]
      (TransferState.atRest payloads transferred) =
        some (TransferState.atRest payloads (transferred + 1)) := by
  -- The receiver waits, the sender puts the payload, and the receiver takes it.
  have short : transferred < payloads.length := (List.getElem?_eq_some_iff.mp next).1
  have extended : payloads.take transferred ++ [payload] = payloads.take (transferred + 1) := by
    rw [List.take_add_one, next, Option.toList_some]
  have length : (payloads.take transferred).length = transferred := by
    rw [List.length_take]
    omega
  have unfinished : ¬payloads.length ≤ transferred := by omega
  simp [TransitionSystem.follow, TransferState.move, TransferState.atRest, length, unfinished,
    TransferState.finishRecv, TransferState.finishSend, SendRecvState.recvReady,
    SendRecvState.recvTake, SendRecvState.sendPut, next, nonempty, extended]

/-- After an empty payload was sent, nothing changes for the receiver any more. -/
theorem TransferStuck.step {number : Nat} (stuck : TransferStuck number state)
    (taken : (transfers payloads).Step state after) : TransferStuck number after := by
  obtain ⟨party, moved⟩ := taken
  cases party with
  | sender =>
    -- A further send call finds the channel not ready and waits.
    simp only [TransferState.move] at moved
    cases next : payloads[state.sent]? with
    | none => simp [next] at moved
    | some inputs =>
      simp only [next, Option.ite_none_left_eq_some, Option.some.injEq, TransferState.finishSend,
        SendRecvState.sendPut, stuck.unready] at moved
      obtain ⟨-, rfl⟩ := moved
      exact ⟨stuck.empty, stuck.unready, stuck.waits, stuck.counted⟩
  | receiver => simp [TransferState.move, stuck.waits, stuck.empty] at moved

/-- The transfers before an empty payload can all be completed. -/
theorem atRest_reachable (payloads : List (List Tensor)) (number : Nat)
    (nonempty : ∀ earlier < number, ∃ payload, payloads[earlier]? = some payload ∧ payload ≠ []) :
    (transfers payloads).Reachable (TransferState.atRest payloads number) := by
  induction number with
  | zero => exact .initial rfl
  | succ transferred ih =>
    obtain ⟨payload, next, present⟩ := nonempty transferred (by omega)
    exact (ih fun earlier before => nonempty earlier (by omega)).steps
      (TransitionSystem.steps_of_follow (atRest_next next present))

/-- In a correct run the first payloads are not empty, up to any number. -/
theorem nonempty_of_sendRecvCorrect (correct : SendRecvCorrect payloads) (number : Nat)
    {payload : List Tensor} (found : payloads[number]? = some payload) : payload ≠ [] := by
  -- By strong induction, all earlier payloads get through before this one is sent.
  induction number using Nat.strongRecOn generalizing payload with
  | _ number ih =>
    rintro rfl
    have short : number < payloads.length := (List.getElem?_eq_some_iff.mp found).1
    have length : (payloads.take number).length = number := by
      rw [List.length_take]
      omega
    have rest := atRest_reachable payloads number fun earlier before =>
      ⟨payloads[earlier], by simp, ih earlier before (by simp)⟩
    let sentEmpty : TransferState Tensor :=
      ⟨⟨[], false⟩, number + 1, false, payloads.take number, true⟩
    have followed : TransitionSystem.follow (TransferState.move payloads) [.receiver, .sender]
        (TransferState.atRest payloads number) = some sentEmpty := by
      have unfinished : ¬payloads.length ≤ number := by omega
      simp [TransitionSystem.follow, TransferState.move, TransferState.atRest, length, unfinished,
        TransferState.finishRecv, TransferState.finishSend, SendRecvState.recvReady,
        SendRecvState.recvTake, SendRecvState.sendPut, found, sentEmpty]
    have reached := rest.steps (TransitionSystem.steps_of_follow followed)
    -- The recv call that belongs to the empty payload can never go on.
    obtain ⟨after, taken, -, predicate⟩ :=
      correct.live sentEmpty reached number (by simp [sentEmpty]) (by simp [sentEmpty, length])
    have stuck : TransferStuck number after :=
      taken.invariant (fun _ _ stuck step => stuck.step step) ⟨rfl, rfl, rfl, length⟩
    exact predicate stuck.empty

end EmptyPayload

/--
A channel transfers a sequence of payloads correctly exactly when none of them is empty.

An empty payload looks like no data to the receiver that waits for it.
-/
theorem sendRecvCorrect_iff {Tensor : Type} (payloads : List (List Tensor)) :
    SendRecvCorrect payloads ↔ ∀ payload ∈ payloads, payload ≠ [] := by
  constructor
  · intro correct payload member
    obtain ⟨number, found⟩ := List.mem_iff_getElem?.mp member
    exact nonempty_of_sendRecvCorrect correct number found
  · exact sendRecvCorrect_of_nonempty

/-- A single empty payload is sent, and its receiver never gets it. -/
theorem sendRecv_empty_payload : ¬SendRecvCorrect ([[]] : List (List Nat)) := by
  intro correct
  let sentEmpty : TransferState Nat := ⟨⟨[], false⟩, 1, false, [], true⟩
  have followed : TransitionSystem.follow (TransferState.move [[]]) [.receiver, .sender]
      TransferState.start = some sentEmpty := rfl
  have reached := TransitionSystem.reachable_of_follow followed
  obtain ⟨after, taken, -, predicate⟩ := correct.live sentEmpty reached 0 Nat.one_pos (Nat.le_refl 0)
  have stuck : TransferStuck 0 after :=
    taken.invariant (fun _ _ stuck step => stuck.step step) ⟨rfl, rfl, rfl, rfl⟩
  exact predicate stuck.empty

end Stablehlo
