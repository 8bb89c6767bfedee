import LensoBun.Lib.NatMap
import LensoBun.Wire.Failure

set_option autoImplicit false

/-! # Streams of the provider server

The stream part of `server.rs`: the entry kept for a live stream, `handle_stream_call` on it and
on the table of streams, `retire_stream` and `handle_stream_cancel`. This file gives each handler
as one function, for calls that do not overlap; `Provider/StreamSteps.lean` gives its atomic
steps.

The provider's stream object answers from outside: each call gets the answers the provider would
give during it (`ProviderAnswers`), where `none` is a panic. What a handler asks of the provider
and when it releases the stream's admission permit is recorded as a list of `StreamEffect`s.
-/

namespace LensoBun.Provider

open Std Lib

variable {V : Type}

/-! ## Wire types -/

/-- The portable result of a stream, as its `Terminal` event carries it. -/
inductive WireStreamTerminal (V : Type) where
  | success
  | domain (value : V)
  deriving DecidableEq, Repr

inductive WireStreamEvent (V : Type) where
  | message (sequence : UInt64) (payload : V)
  | peerHalfClosed
  | terminal (outcome : WireStreamTerminal V)
  deriving DecidableEq, Repr

inductive WireStreamOutcome (V : Type) where
  | opened (streamId credit : Nat)
  | accepted (credit : Nat)
  | event (event : WireStreamEvent V)
  | domain (value : V)
  | runtime (failure : WireFailure)
  deriving DecidableEq, Repr

inductive WireStreamCall (V : Type) where
  | send (requestId streamId : Nat) (session : String) (sequence : UInt64) (payload : V)
  | receive (requestId streamId : Nat) (session : String)
  | closeSend (requestId streamId : Nat) (session : String)
  deriving DecidableEq, Repr

def WireStreamCall.requestId : WireStreamCall V → Nat
  | .send requestId _ _ _ _ | .receive requestId _ _ | .closeSend requestId _ _ => requestId

def WireStreamCall.streamId : WireStreamCall V → Nat
  | .send _ streamId _ _ _ | .receive _ streamId _ | .closeSend _ streamId _ => streamId

def WireStreamCall.session : WireStreamCall V → String
  | .send _ _ session _ _ | .receive _ _ session | .closeSend _ _ session => session

/-! ## The provider's side -/

inductive BunStreamAction where
  | accepted
  | runtime (error : RuntimeFailure)
  deriving DecidableEq, Repr

inductive BunStreamEvent (V : Type) where
  | message (payload : V)
  | peerHalfClosed
  | terminal (outcome : Except V Unit)

inductive BunStreamReceive (V : Type) where
  | event (event : BunStreamEvent V)
  | runtime (error : RuntimeFailure)

/-- What the provider's stream would answer during one call; `none` is a panic. -/
structure ProviderAnswers (V : Type) where
  send : Option BunStreamAction
  receive : Option (BunStreamReceive V)
  peerHalfClosed : Option BunStreamAction

/-- What a handler does beyond the table: calls on the provider's stream, and the release of the
stream's admission permit. -/
inductive StreamEffect (V : Type) where
  | send (payload : V)
  | receive
  | peerHalfClosed
  | cancel
  | releasePermit
  deriving DecidableEq, Repr

/-! ## Entries and the table -/

/-- `ProviderStreamEntry`; `permit` says whether the admission permit is still there. -/
structure ProviderStreamEntry where
  operation : String
  permit : Bool
  inboundCredit : Nat
  nextInboundSequence : UInt64
  nextOutboundSequence : UInt64
  sendInFlight : Bool
  receiveInFlight : Bool
  peerHalfClosed : Bool
  localHalfClosed : Bool
  terminalSeen : Bool
  cancelled : Bool
  deriving DecidableEq, Repr

/-- `DEFAULT_STREAM_CREDIT`. -/
def defaultStreamCredit : Nat := 16

/-- The entry `handle_stream_open` stores when the provider has opened the stream. -/
def ProviderStreamEntry.opened (operation : String) (requestedCredit : Nat) :
    ProviderStreamEntry :=
  { operation := operation
    permit := true
    inboundCredit := min requestedCredit defaultStreamCredit
    nextInboundSequence := 0
    nextOutboundSequence := 0
    sendInFlight := false
    receiveInFlight := false
    peerHalfClosed := false
    localHalfClosed := false
    terminalSeen := false
    cancelled := false }

abbrev IdSet := ExtTreeMap Nat Unit

/-- `MAX_RETIRED_REQUEST_IDS`. -/
def maxRetiredRequestIds : Nat := 1024

/-- `remember_request_id`: make room, then insert. -/
def rememberRequestId (ids : IdSet) (requestId limit : Nat) : IdSet :=
  (evict limit ids).insert requestId ()

/-- The part of `ProviderState` that stream calls use; `active` is the admission counter. -/
structure StreamState where
  capability : String
  session : Option String
  streams : ExtTreeMap Nat ProviderStreamEntry
  retiredStreams : IdSet
  active : Nat

/-- `u32::try_from(credit).unwrap_or(u32::MAX)`. -/
def wireCredit (credit : Nat) : Nat := min credit (2 ^ 32 - 1)

/-- `stream_runtime_outcome`. -/
def streamRuntimeOutcome (error : RuntimeFailure) : WireStreamOutcome V :=
  .runtime (toWireFailure error)

/-- `protocol_failure`. -/
def protocolFailure (capability : String) : RuntimeFailure := .protocolViolation capability

/-! ## Calls on an entry -/

/-- What a call leaves on its entry: its effects so far, its outcome (`none` when the provider
panicked) and whether `retire_stream` is still to run. -/
structure Answered (V : Type) where
  entry : ProviderStreamEntry
  effects : List (StreamEffect V)
  outcome : Option (WireStreamOutcome V)
  retire : Bool

/-- A call that returns without having touched the entry. -/
def Answered.refused (entry : ProviderStreamEntry) (outcome : WireStreamOutcome V) :
    Answered V := ⟨entry, [], some outcome, false⟩

/-- The `Send` arm of `handle_stream_call`. -/
def handleSend (capability : String) (entry : ProviderStreamEntry) (sequence : UInt64)
    (payload : V) (answer : Option BunStreamAction) : Answered V :=
  if entry.peerHalfClosed || entry.terminalSeen || sequence != entry.nextInboundSequence then
    .refused entry (streamRuntimeOutcome (protocolFailure capability))
  else if entry.sendInFlight then
    .refused entry (.runtime (.resourceExhausted entry.operation))
  else if entry.inboundCredit = 0 then
    -- the flag was set before the credit was looked at, and is cleared again
    .refused { entry with sendInFlight := false }
      (.runtime (.resourceExhausted entry.operation))
  else
    let taken := { entry with sendInFlight := true, inboundCredit := entry.inboundCredit - 1 }
    let back := { taken with sendInFlight := false }
    match answer with
    | none => ⟨taken, [.send payload], none, false⟩
    | some .accepted =>
      let counted :=
        { back with nextInboundSequence := back.nextInboundSequence + 1
                    inboundCredit := back.inboundCredit + 1 }
      ⟨counted, [.send payload], some (.accepted (wireCredit counted.inboundCredit)), false⟩
    | some (.runtime error) =>
      if error.isResourceExhausted then
        ⟨{ back with inboundCredit := back.inboundCredit + 1 }, [.send payload],
          some (streamRuntimeOutcome error), false⟩
      else
        ⟨back, [.send payload, .cancel], some (streamRuntimeOutcome error), true⟩

/-- The outcome of a `Receive` and the entry, once the provider has answered. -/
def receiveResult (capability : String) (entry : ProviderStreamEntry) :
    BunStreamReceive V → ProviderStreamEntry × WireStreamOutcome V
  | .runtime error => (entry, streamRuntimeOutcome error)
  | .event (.message payload) =>
    if entry.localHalfClosed || entry.terminalSeen then
      (entry, streamRuntimeOutcome (protocolFailure capability))
    else
      ({ entry with nextOutboundSequence := entry.nextOutboundSequence + 1 },
        .event (.message entry.nextOutboundSequence payload))
  | .event .peerHalfClosed =>
    ({ entry with localHalfClosed := true },
      if entry.localHalfClosed then streamRuntimeOutcome (protocolFailure capability)
      else .event .peerHalfClosed)
  | .event (.terminal outcome) =>
    ({ entry with terminalSeen := true },
      if entry.terminalSeen then streamRuntimeOutcome (protocolFailure capability)
      else .event (.terminal
        (match outcome with
          | .ok () => .success
          | .error value => .domain value)))

def WireStreamOutcome.isTerminal : WireStreamOutcome V → Bool
  | .event (.terminal _) => true
  | _ => false

/-- A runtime failure that is not `ResourceExhausted`. -/
def WireStreamOutcome.isFatal : WireStreamOutcome V → Bool
  | .runtime failure => !failure.isResourceExhausted
  | _ => false

/-- The `Receive` arm. -/
def handleReceive (capability : String) (entry : ProviderStreamEntry)
    (answer : Option (BunStreamReceive V)) : Answered V :=
  if entry.receiveInFlight then
    .refused entry (.runtime (.resourceExhausted (entry.operation ++ ".receive")))
  else
    match answer with
    | none => ⟨{ entry with receiveInFlight := true }, [.receive], none, false⟩
    | some answer =>
      let (received, result) :=
        receiveResult capability { entry with receiveInFlight := true } answer
      ⟨{ received with receiveInFlight := false },
        if result.isFatal then [.receive, .cancel] else [.receive],
        some result, result.isTerminal || result.isFatal⟩

/-- The `CloseSend` arm. -/
def handleCloseSend (capability : String) (entry : ProviderStreamEntry)
    (answer : Option BunStreamAction) : Answered V :=
  let closed := { entry with peerHalfClosed := true }
  if entry.peerHalfClosed || entry.terminalSeen then
    .refused closed (streamRuntimeOutcome (protocolFailure capability))
  else
    match answer with
    | none => ⟨closed, [.peerHalfClosed], none, false⟩
    | some .accepted =>
      ⟨closed, [.peerHalfClosed], some (.accepted (wireCredit closed.inboundCredit)), false⟩
    | some (.runtime error) =>
      if error.isResourceExhausted then
        ⟨{ closed with peerHalfClosed := false }, [.peerHalfClosed],
          some (streamRuntimeOutcome error), false⟩
      else
        ⟨closed, [.peerHalfClosed, .cancel], some (streamRuntimeOutcome error), true⟩

/-- The body of `handle_stream_call` on the entry it found. -/
def handleOnEntry (capability : String) (entry : ProviderStreamEntry) (call : WireStreamCall V)
    (provider : ProviderAnswers V) : Answered V :=
  if entry.cancelled then
    .refused entry (streamRuntimeOutcome (.cancelled call.requestId))
  else
    match call with
    | .send _ _ _ sequence payload =>
      handleSend capability entry sequence payload provider.send
    | .receive _ _ _ => handleReceive capability entry provider.receive
    | .closeSend _ _ _ => handleCloseSend capability entry provider.peerHalfClosed

/-! ## Calls on the table -/

/-- `permit.take()`, with the drop of what was taken. -/
def takePermit (state : StreamState) (entry : ProviderStreamEntry) :
    StreamState × List (StreamEffect V) :=
  if entry.permit then ({ state with active := state.active - 1 }, [.releasePermit])
  else (state, [])

/-- The stream is out of the table and its id remembered. -/
def StreamState.unlink (state : StreamState) (streamId : Nat) : StreamState :=
  { state with
    streams := state.streams.erase streamId
    retiredStreams := rememberRequestId state.retiredStreams streamId maxRetiredRequestIds }

/-- `retire_stream`. The entry is dropped with its last reference. -/
def retireStream (state : StreamState) (streamId : Nat) (entry : ProviderStreamEntry) :
    StreamState × List (StreamEffect V) :=
  takePermit (state.unlink streamId) { entry with cancelled := true }

/-- `valid_session`. -/
def validSession (session : Option String) (state : StreamState) : Bool :=
  state.session == session

/-- `handle_stream_call`. -/
def handleStreamCall (state : StreamState) (call : WireStreamCall V)
    (provider : ProviderAnswers V) :
    StreamState × Option (WireStreamOutcome V) × List (StreamEffect V) :=
  if !validSession (some call.session) state then
    (state, some (streamRuntimeOutcome (protocolFailure state.capability)), [])
  else
    match state.streams[call.streamId]? with
    | none => (state, some (streamRuntimeOutcome (protocolFailure state.capability)), [])
    | some entry =>
      let answered := handleOnEntry state.capability entry call provider
      if answered.retire then
        let (retired, effects) := retireStream state call.streamId answered.entry
        (retired, answered.outcome, answered.effects ++ effects)
      else
        ({ state with streams := state.streams.insert call.streamId answered.entry },
          answered.outcome, answered.effects)

/-- `handle_stream_cancel`: the new state, whether the cancel was acknowledged, and the effects. -/
def handleStreamCancel (state : StreamState) (streamId : Nat) (session : String) :
    StreamState × Bool × List (StreamEffect V) :=
  if !validSession (some session) state then (state, false, [])
  else
    match state.streams[streamId]? with
    | none => (state, true, [])
    | some entry =>
      let (retired, effects) := takePermit (state.unlink streamId) { entry with cancelled := true }
      (retired, true, .cancel :: effects)

end LensoBun.Provider
