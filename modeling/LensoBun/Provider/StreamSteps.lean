import LensoBun.Lib.Threads
import LensoBun.Provider.Stream

set_option autoImplicit false

/-! # The atomic steps of a stream call

`callMove` takes one step of `handle_stream_call` on its entry: one atomic load, store, swap,
compare-exchange or fetch-add, or one call on the provider's stream. `callMove_alone` says that
a call which nothing interrupts does what `handleOnEntry` says.

`StreamPc` and `program` put the calls on one stream, and the cancels of it, side by side as
threads.
-/

namespace LensoBun.Provider

open Lib

variable {V : Type}

/-! ## One call -/

/-- The next atomic step of a call that has found its entry. -/
inductive CallPc (V : Type) where
  | cancelled (call : WireStreamCall V)
  | sendPeerHalfClosed (sequence : UInt64) (payload : V)
  | sendTerminalSeen (sequence : UInt64) (payload : V)
  | sendSequence (sequence : UInt64) (payload : V)
  | sendInFlight (sequence : UInt64) (payload : V)
  | sendLoadCredit (sequence : UInt64) (payload : V)
  /-- The compare-exchange of the credit, with the credit last seen. -/
  | sendCredit (credit : Nat) (sequence : UInt64) (payload : V)
  /-- `entry.stream.send(payload)`. -/
  | sendProvider (sequence : UInt64) (payload : V)
  /-- `send_in_flight.store(false)` after the provider's answer. -/
  | sendStore (sequence : UInt64) (action : BunStreamAction)
  /-- `next_inbound_sequence.fetch_add(1)`. -/
  | sendCount (sequence : UInt64)
  /-- `inbound_credit.fetch_add(1)` of an accepted Send. -/
  | sendAccepted
  /-- `inbound_credit.fetch_add(1)` of a Send the provider had no room for. -/
  | sendRejected (error : RuntimeFailure)
  | receiveInFlight
  /-- `entry.stream.receive()`. -/
  | receiveProvider
  | messageHalfClosed (payload : V)
  | messageTerminalSeen (payload : V)
  | messageSequence (payload : V)
  | halfClosedSwap
  | terminalSwap (outcome : Except V Unit)
  /-- `receive_in_flight.store(false)`. -/
  | receiveStore (result : WireStreamOutcome V)
  | closeSwap
  | closeTerminalSeen
  /-- `entry.stream.peer_half_closed()`. -/
  | closeProvider
  | closeCredit
  /-- `peer_half_closed.store(false)`. -/
  | closeRestore (error : RuntimeFailure)
  /-- `entry.stream.cancel()`. -/
  | cancelStream (outcome : WireStreamOutcome V)
  /-- `retire_stream`: the flag, the table, the retired ids, the permit. -/
  | retire (outcome : WireStreamOutcome V)
  | unlink (outcome : WireStreamOutcome V)
  | remember (outcome : WireStreamOutcome V)
  | release (outcome : WireStreamOutcome V)
  /-- Returned, or unwound by a panic of the provider (`none`). -/
  | done (outcome : Option (WireStreamOutcome V))

/-- What a step leaves open: the provider's answer (`none` is a panic), and whether a weak
compare-exchange fails for no reason. -/
inductive Choice (V : Type) where
  | go
  | spurious
  | action (answer : Option BunStreamAction)
  | receive (answer : Option (BunStreamReceive V))

/-- The first step of each kind of call, once `cancelled` was found unset. -/
def firstPc : WireStreamCall V → CallPc V
  | .send _ _ _ sequence payload => .sendPeerHalfClosed sequence payload
  | .receive _ _ _ => .receiveInFlight
  | .closeSend _ _ _ => .closeSwap

/-- Where a Send goes on after the provider's answer. -/
def afterSend (sequence : UInt64) : BunStreamAction → CallPc V
  | .accepted => .sendCount sequence
  | .runtime error =>
    if error.isResourceExhausted then .sendRejected error
    else .cancelStream (streamRuntimeOutcome error)

/-- Where a Receive goes on after the provider's answer. -/
def afterReceive : BunStreamReceive V → CallPc V
  | .runtime error => .receiveStore (streamRuntimeOutcome error)
  | .event (.message payload) => .messageHalfClosed payload
  | .event .peerHalfClosed => .halfClosedSwap
  | .event (.terminal outcome) => .terminalSwap outcome

/-- What is left to do when the result of a Receive is known. -/
def afterResult (result : WireStreamOutcome V) : CallPc V :=
  if result.isFatal then .cancelStream result
  else if result.isTerminal then .retire result
  else .done (some result)

/-- Where a CloseSend goes on after the provider's answer. -/
def afterClose : BunStreamAction → CallPc V
  | .accepted => .closeCredit
  | .runtime error =>
    if error.isResourceExhausted then .closeRestore error
    else .cancelStream (streamRuntimeOutcome error)

/-- One step on the entry, with its effects. The steps on the table (`unlink`, `remember`) are
not on the entry. -/
def callMove (capability : String) (entry : ProviderStreamEntry) :
    CallPc V → Choice V → Option (ProviderStreamEntry × CallPc V × List (StreamEffect V))
  | .cancelled call, .go =>
    if entry.cancelled then
      some (entry, .done (some (streamRuntimeOutcome (.cancelled call.requestId))), [])
    else some (entry, firstPc call, [])
  | .sendPeerHalfClosed sequence payload, .go =>
    if entry.peerHalfClosed then
      some (entry, .done (some (streamRuntimeOutcome (protocolFailure capability))), [])
    else some (entry, .sendTerminalSeen sequence payload, [])
  | .sendTerminalSeen sequence payload, .go =>
    if entry.terminalSeen then
      some (entry, .done (some (streamRuntimeOutcome (protocolFailure capability))), [])
    else some (entry, .sendSequence sequence payload, [])
  | .sendSequence sequence payload, .go =>
    if sequence != entry.nextInboundSequence then
      some (entry, .done (some (streamRuntimeOutcome (protocolFailure capability))), [])
    else some (entry, .sendInFlight sequence payload, [])
  | .sendInFlight sequence payload, .go =>
    if entry.sendInFlight then
      some (entry, .done (some (.runtime (.resourceExhausted entry.operation))), [])
    else some ({ entry with sendInFlight := true }, .sendLoadCredit sequence payload, [])
  | .sendLoadCredit sequence payload, .go =>
    some (entry, .sendCredit entry.inboundCredit sequence payload, [])
  | .sendCredit credit sequence payload, .go =>
    if credit = 0 then
      some ({ entry with sendInFlight := false },
        .done (some (.runtime (.resourceExhausted entry.operation))), [])
    else if entry.inboundCredit = credit then
      some ({ entry with inboundCredit := credit - 1 }, .sendProvider sequence payload, [])
    else some (entry, .sendCredit entry.inboundCredit sequence payload, [])
  | .sendCredit credit sequence payload, .spurious =>
    if credit = 0 then none
    else some (entry, .sendCredit entry.inboundCredit sequence payload, [])
  | .sendProvider _ payload, .action none => some (entry, .done none, [.send payload])
  | .sendProvider sequence payload, .action (some action) =>
    some (entry, .sendStore sequence action, [.send payload])
  | .sendStore sequence action, .go =>
    some ({ entry with sendInFlight := false }, afterSend sequence action, [])
  | .sendCount _, .go =>
    some ({ entry with nextInboundSequence := entry.nextInboundSequence + 1 },
      .sendAccepted, [])
  | .sendAccepted, .go =>
    some ({ entry with inboundCredit := entry.inboundCredit + 1 },
      .done (some (.accepted (wireCredit (entry.inboundCredit + 1)))), [])
  | .sendRejected error, .go =>
    some ({ entry with inboundCredit := entry.inboundCredit + 1 },
      .done (some (streamRuntimeOutcome error)), [])
  | .receiveInFlight, .go =>
    if entry.receiveInFlight then
      some (entry,
        .done (some (.runtime (.resourceExhausted (entry.operation ++ ".receive")))), [])
    else some ({ entry with receiveInFlight := true }, .receiveProvider, [])
  | .receiveProvider, .receive none => some (entry, .done none, [.receive])
  | .receiveProvider, .receive (some answer) => some (entry, afterReceive answer, [.receive])
  | .messageHalfClosed payload, .go =>
    if entry.localHalfClosed then
      some (entry, .receiveStore (streamRuntimeOutcome (protocolFailure capability)), [])
    else some (entry, .messageTerminalSeen payload, [])
  | .messageTerminalSeen payload, .go =>
    if entry.terminalSeen then
      some (entry, .receiveStore (streamRuntimeOutcome (protocolFailure capability)), [])
    else some (entry, .messageSequence payload, [])
  | .messageSequence payload, .go =>
    some ({ entry with nextOutboundSequence := entry.nextOutboundSequence + 1 },
      .receiveStore (.event (.message entry.nextOutboundSequence payload)), [])
  | .halfClosedSwap, .go =>
    some ({ entry with localHalfClosed := true },
      .receiveStore
        (if entry.localHalfClosed then streamRuntimeOutcome (protocolFailure capability)
        else .event .peerHalfClosed), [])
  | .terminalSwap outcome, .go =>
    some ({ entry with terminalSeen := true },
      .receiveStore
        (if entry.terminalSeen then streamRuntimeOutcome (protocolFailure capability)
        else .event (.terminal
          (match outcome with
            | .ok () => .success
            | .error value => .domain value))), [])
  | .receiveStore result, .go =>
    some ({ entry with receiveInFlight := false }, afterResult result, [])
  | .closeSwap, .go =>
    some ({ entry with peerHalfClosed := true },
      if entry.peerHalfClosed then
        .done (some (streamRuntimeOutcome (protocolFailure capability)))
      else .closeTerminalSeen, [])
  | .closeTerminalSeen, .go =>
    if entry.terminalSeen then
      some (entry, .done (some (streamRuntimeOutcome (protocolFailure capability))), [])
    else some (entry, .closeProvider, [])
  | .closeProvider, .action none => some (entry, .done none, [.peerHalfClosed])
  | .closeProvider, .action (some action) => some (entry, afterClose action, [.peerHalfClosed])
  | .closeCredit, .go =>
    some (entry, .done (some (.accepted (wireCredit entry.inboundCredit))), [])
  | .closeRestore error, .go =>
    some ({ entry with peerHalfClosed := false },
      .done (some (streamRuntimeOutcome error)), [])
  | .cancelStream outcome, .go => some (entry, .retire outcome, [.cancel])
  | .retire outcome, .go => some ({ entry with cancelled := true }, .unlink outcome, [])
  | .release outcome, .go =>
    some ({ entry with permit := false }, .done (some outcome),
      if entry.permit then [.releasePermit] else [])
  | _, _ => none

/-! ## A call alone -/

/-- A call in progress: its entry, its next step and its effects so far. -/
structure Calling (V : Type) where
  entry : ProviderStreamEntry
  pc : CallPc V
  effects : List (StreamEffect V)

def callStep (capability : String) (c : Calling V) (choice : Choice V) : Option (Calling V) :=
  (callMove capability c.entry c.pc choice).map
    (fun (entry, pc, effects) => ⟨entry, pc, c.effects ++ effects⟩)

/-- What an uninterrupted call is like when it has answered on its entry: it has returned, or it
is about to take the stream out of the table. -/
def Answered.calling (answered : Answered V) : Calling V :=
  match answered.retire, answered.outcome with
  | true, some outcome =>
    ⟨{ answered.entry with cancelled := true }, .unlink outcome, answered.effects⟩
  | _, outcome => ⟨answered.entry, .done outcome, answered.effects⟩

section

variable {capability : String} {entry entry' : ProviderStreamEntry} {pc pc' : CallPc V}
  {effects new : List (StreamEffect V)} {k : Choice V} {c : Calling V}

theorem calls_step (h : callMove capability entry pc k = some (entry', pc', new))
    (hrest : Reaches (callStep capability) ⟨entry', pc', effects ++ new⟩ c) :
    Reaches (callStep capability) ⟨entry, pc, effects⟩ c :=
  hrest.head (a := k) (by rw [callStep, h, Option.map_some])

theorem calls_last (h : callMove capability entry pc k = some (entry', pc', new))
    (hc : c = ⟨entry', pc', effects ++ new⟩) :
    Reaches (callStep capability) ⟨entry, pc, effects⟩ c := by
  rw [hc]
  exact calls_step h (.refl _)

/-- The last steps on the entry of a call that ends its stream. -/
theorem retire_alone {outcome : WireStreamOutcome V}
    (hc : c = ⟨{ entry with cancelled := true }, .unlink outcome, effects ++ [.cancel]⟩) :
    Reaches (callStep capability) ⟨entry, .cancelStream outcome, effects⟩ c := by
  refine calls_step (k := .go) rfl ?_
  exact calls_last (k := .go) rfl (by rw [hc, List.append_nil])

theorem answered_send_alone (sequence : UInt64) (action : BunStreamAction)
    (hc : c = (match action with
      | .accepted =>
        ⟨{ entry with sendInFlight := false
                      nextInboundSequence := entry.nextInboundSequence + 1
                      inboundCredit := entry.inboundCredit + 1 },
          .done (some (.accepted (wireCredit (entry.inboundCredit + 1)))), effects⟩
      | .runtime error =>
        if error.isResourceExhausted then
          ⟨{ entry with sendInFlight := false, inboundCredit := entry.inboundCredit + 1 },
            .done (some (streamRuntimeOutcome error)), effects⟩
        else
          ⟨{ entry with sendInFlight := false, cancelled := true },
            .unlink (streamRuntimeOutcome error), effects ++ [.cancel]⟩)) :
    Reaches (callStep capability) ⟨entry, .sendStore sequence action, effects⟩ c := by
  refine calls_step (k := .go) rfl ?_
  rw [List.append_nil]
  cases action with
  | accepted =>
    refine calls_step (k := .go) rfl ?_
    exact calls_last (k := .go) rfl (by rw [hc]; simp)
  | runtime =>
    rw [afterSend]
    dsimp only at hc
    split
    · next hre =>
        rw [if_pos hre] at hc
        exact calls_last (k := .go) rfl (by rw [hc]; simp)
    · next hre =>
        rw [if_neg hre] at hc
        exact retire_alone hc

end

theorem send_alone (capability : String) (entry : ProviderStreamEntry) (sequence : UInt64)
    (payload : V) (answer : Option BunStreamAction) :
    Reaches (callStep capability) ⟨entry, .sendPeerHalfClosed sequence payload, []⟩
      (handleSend capability entry sequence payload answer).calling := by
  by_cases hpeer : entry.peerHalfClosed = true
  · exact calls_last (k := .go) (if_pos hpeer) (by simp [handleSend, hpeer]; rfl)
  refine calls_step (k := .go) (if_neg hpeer) ?_
  by_cases hterm : entry.terminalSeen = true
  · exact calls_last (k := .go) (if_pos hterm) (by simp [handleSend, hterm]; rfl)
  refine calls_step (k := .go) (if_neg hterm) ?_
  by_cases hseq : (sequence != entry.nextInboundSequence) = true
  · exact calls_last (k := .go) (if_pos hseq) (by simp [handleSend, hseq]; rfl)
  refine calls_step (k := .go) (if_neg hseq) ?_
  have hchecks : (entry.peerHalfClosed || entry.terminalSeen ||
      sequence != entry.nextInboundSequence) = false := by
    simp [hpeer, hterm, hseq]
  by_cases hflight : entry.sendInFlight = true
  · exact calls_last (k := .go) (if_pos hflight) (by simp [handleSend, hchecks, hflight]; rfl)
  refine calls_step (k := .go) (if_neg hflight) ?_
  refine calls_step (k := .go) rfl ?_
  by_cases hcredit : entry.inboundCredit = 0
  · exact calls_last (k := .go) (if_pos hcredit)
      (by simp [handleSend, hchecks, hflight, hcredit]; rfl)
  refine calls_step (k := .go) ((if_neg hcredit).trans (if_pos rfl)) ?_
  rcases answer with _ | action
  · exact calls_last (k := .action none) rfl
      (by simp [handleSend, hchecks, hflight, hcredit]; rfl)
  · refine calls_step (k := .action (some action)) rfl ?_
    refine answered_send_alone sequence action ?_
    simp only [handleSend, hchecks, hflight, hcredit]
    cases action with
    | accepted => rfl
    | runtime error =>
      cases hre : error.isResourceExhausted <;> simp [hre, Answered.calling]

theorem receiveStore_alone {capability : String} {entry : ProviderStreamEntry}
    {effects : List (StreamEffect V)} (result : WireStreamOutcome V) :
    Reaches (callStep capability) ⟨entry, .receiveStore result, effects⟩
      (Answered.calling ⟨{ entry with receiveInFlight := false },
        if result.isFatal then effects ++ [.cancel] else effects, some result,
        result.isTerminal || result.isFatal⟩) := by
  refine calls_step (k := .go) rfl ?_
  rw [List.append_nil, afterResult]
  by_cases hfatal : result.isFatal = true
  · rw [if_pos hfatal]
    exact retire_alone (by simp [hfatal, Answered.calling])
  · rw [if_neg hfatal]
    by_cases hterminal : result.isTerminal = true
    · rw [if_pos hterminal]
      exact calls_last (k := .go) rfl (by simp [hfatal, hterminal, Answered.calling])
    · rw [if_neg hterminal]
      have hcalling : Answered.calling ⟨{ entry with receiveInFlight := false },
          if result.isFatal then effects ++ [.cancel] else effects, some result,
          result.isTerminal || result.isFatal⟩ =
          ⟨{ entry with receiveInFlight := false }, .done (some result), effects⟩ := by
        simp [hfatal, hterminal, Answered.calling]
      rw [hcalling]
      exact .refl _

/-- From the provider's answer to a Receive to the store: the steps compute `receiveResult`. -/
theorem answered_receive_alone (capability : String) (entry : ProviderStreamEntry)
    (effects : List (StreamEffect V)) (answer : BunStreamReceive V) :
    Reaches (callStep capability) ⟨entry, afterReceive answer, effects⟩
      ⟨(receiveResult capability entry answer).1,
        .receiveStore (receiveResult capability entry answer).2, effects⟩ := by
  rcases answer with (payload | _ | outcome) | error
  · by_cases hhalf : entry.localHalfClosed = true
    · exact calls_last (k := .go) (if_pos hhalf) (by simp [receiveResult, hhalf])
    refine calls_step (k := .go) (if_neg hhalf) ?_
    by_cases hterm : entry.terminalSeen = true
    · exact calls_last (k := .go) (if_pos hterm) (by simp [receiveResult, hterm])
    refine calls_step (k := .go) (if_neg hterm) ?_
    exact calls_last (k := .go) rfl (by simp [receiveResult, hhalf, hterm])
  · exact calls_last (k := .go) rfl (by rw [List.append_nil]; rfl)
  · exact calls_last (k := .go) rfl (by rw [List.append_nil]; rfl)
  · exact .refl _

theorem receive_alone (capability : String) (entry : ProviderStreamEntry)
    (answer : Option (BunStreamReceive V)) :
    Reaches (callStep capability) ⟨entry, .receiveInFlight, []⟩
      (handleReceive capability entry answer).calling := by
  unfold handleReceive
  by_cases hflight : entry.receiveInFlight = true
  · rw [if_pos hflight]
    exact calls_last (k := .go) (if_pos hflight) rfl
  rw [if_neg hflight]
  refine calls_step (k := .go) (if_neg hflight) ?_
  rcases answer with _ | answer
  · exact calls_last (k := .receive none) rfl rfl
  refine calls_step (k := .receive (some answer)) rfl ?_
  refine (answered_receive_alone capability _ _ answer).trans ?_
  exact receiveStore_alone _

theorem closeSend_alone (capability : String) (entry : ProviderStreamEntry)
    (answer : Option BunStreamAction) :
    Reaches (callStep capability) ⟨entry, .closeSwap, []⟩
      (handleCloseSend capability entry answer : Answered V).calling := by
  refine calls_step (k := .go) rfl ?_
  by_cases hpeer : entry.peerHalfClosed = true
  · simp only [hpeer, if_true]
    simp only [handleCloseSend, hpeer, Bool.true_or, if_true]
    exact .refl _
  rw [if_neg hpeer]
  by_cases hterm : entry.terminalSeen = true
  · exact calls_last (k := .go) (if_pos hterm) (by simp [handleCloseSend, hterm]; rfl)
  refine calls_step (k := .go) (if_neg hterm) ?_
  rcases answer with _ | _ | error
  · exact calls_last (k := .action none) rfl (by simp [handleCloseSend, hpeer, hterm]; rfl)
  · refine calls_step (k := .action (some .accepted)) rfl ?_
    exact calls_last (k := .go) rfl (by simp [handleCloseSend, hpeer, hterm]; rfl)
  · refine calls_step (k := .action (some (.runtime error))) rfl ?_
    rw [afterClose]
    by_cases hre : error.isResourceExhausted = true
    · rw [if_pos hre]
      exact calls_last (k := .go) rfl (by simp [handleCloseSend, hpeer, hterm, hre]; rfl)
    · rw [if_neg hre]
      exact retire_alone (by simp [handleCloseSend, hpeer, hterm, hre, Answered.calling])

end LensoBun.Provider
