import LensoBun.Lib.Threads
import LensoBun.Provider.Stream

set_option autoImplicit false

/-! # Stream sessions of the host

`TransportStreamSession` (`transport/stream_session.rs`) and the futures that its `send`,
`receive` and `close_send` return. The futures are local, so what one of them does between two
awaits is one step: a thread here is a call on the session, its first step the call itself, its
later ones the polls that get further. A future may be dropped while it waits.

The calls issued to the peer stand in `calls`, in the order of issue, until the future has taken
the answer. The peer is a parameter (`Peer`): thread 0 lets it answer a call.
-/

namespace LensoBun.Transport.StreamSession

open Std Lib Provider

variable {V β κ : Type}

/-! ## State -/

/-- `TransportStreamState`. The futures that wait for credit stand in `creditWaiters`, for the
senders of their channels: the sender is taken out to wake the future. -/
structure TransportStreamState where
  streamId : Nat
  session : String
  capability : String
  operation : String
  sendCredit : Nat
  nextSendSequence : UInt64
  nextReceiveSequence : UInt64
  receiveInFlight : Bool
  localHalfClosed : Bool
  peerHalfClosed : Bool
  terminalSeen : Bool
  cancelled : Bool
  creditWaiters : List Nat
  deriving DecidableEq, Repr

/-- `TransportStreamSession::new`. -/
def TransportStreamState.new (streamId : Nat) (session capability operation : String)
    (credit : Nat) : TransportStreamState :=
  { streamId := streamId
    session := session
    capability := capability
    operation := operation
    sendCredit := credit
    nextSendSequence := 0
    nextReceiveSequence := 0
    receiveInFlight := false
    localHalfClosed := false
    peerHalfClosed := false
    terminalSeen := false
    cancelled := false
    creditWaiters := [] }

/-- The result of a stream call: a failure of the transport, or what the peer has answered. -/
abbrev StreamWireResult (V : Type) := Except RuntimeFailure (WireStreamOutcome V)

/-- A call that has been issued and whose answer has not been taken. -/
structure Issued (V : Type) where
  future : Nat
  call : WireStreamCall V
  awaited : Bool
  answer : Option (StreamWireResult V)
  deriving DecidableEq

structure Shared (β V : Type) where
  state : TransportStreamState
  calls : List (Issued V)
  peer : β

/-- What the peer makes of the calls that it has been sent: the future it answers, and how. -/
structure Peer (β κ V : Type) where
  serve : β → List (Issued V) → κ → Option (β × Nat × StreamWireResult V)

inductive NativeStreamItem (V : Type) where
  | message (payload : V)
  | peerHalfClosed
  | terminal (outcome : Except V Unit)
  deriving DecidableEq

/-! ## Operations on the state -/

/-- `MAX_STREAM_CREDIT_WAITERS`. -/
def maxStreamCreditWaiters : Nat := 64

/-- `protocol_violation`. -/
def TransportStreamState.violation (s : TransportStreamState) : RuntimeFailure :=
  .protocolViolation s.capability

/-- `next_call_id`; the counter is shared by all sessions. -/
def nextCallId (count : Nat) : Nat := 2 ^ 52 ||| count

/-- `wake_credit_waiters`. -/
def TransportStreamState.wakeCreditWaiters (s : TransportStreamState) : TransportStreamState :=
  { s with creditWaiters := [] }

/-- `saturating_add(1)`. -/
def saturatingSucc (n : UInt64) : UInt64 := if n + 1 = 0 then n else n + 1

/-- `restore_rejected_send`: the state, and whether the send could be taken back. -/
def TransportStreamState.restoreRejectedSend (s : TransportStreamState) (sequence : UInt64) :
    TransportStreamState × Except RuntimeFailure Unit :=
  if s.nextSendSequence = saturatingSucc sequence then
    (TransportStreamState.wakeCreditWaiters
      { s with nextSendSequence := sequence, sendCredit := s.sendCredit + 1 }, .ok ())
  else (s, .error s.violation)

/-- `register_credit_waiter`; `none` when there is credit. -/
def TransportStreamState.registerCreditWaiter (s : TransportStreamState) (future : Nat) :
    Except RuntimeFailure (Option TransportStreamState) :=
  if s.cancelled || s.terminalSeen then .error s.violation
  else if 0 < s.sendCredit then .ok none
  else if maxStreamCreditWaiters ≤ s.creditWaiters.length then
    .error (.resourceExhausted s.capability s.operation)
  else .ok (some { s with creditWaiters := s.creditWaiters ++ [future] })

/-- A send takes credit and a sequence number. -/
def TransportStreamState.reserve (s : TransportStreamState) : TransportStreamState :=
  { s with sendCredit := s.sendCredit - 1, nextSendSequence := s.nextSendSequence + 1 }

/-- What a send does with the answer to its call. -/
def TransportStreamState.endSend (s : TransportStreamState) (sequence : UInt64) :
    StreamWireResult V → TransportStreamState × Except RuntimeFailure Unit
  | .error error => (s, .error error)
  | .ok (.accepted credit) =>
    (TransportStreamState.wakeCreditWaiters { s with sendCredit := credit }, .ok ())
  | .ok (.runtime failure) =>
    if failure.isResourceExhausted then
      match s.restoreRejectedSend sequence with
      | (restored, .ok ()) => (restored, .error (fromWireFailure s.capability failure))
      | (kept, .error error) => (kept, .error error)
    else (s, .error (fromWireFailure s.capability failure))
  | .ok _ => (s, .error s.violation)

/-- What a receive does with an event of the peer. -/
def TransportStreamState.takeEvent (s : TransportStreamState) :
    WireStreamEvent V → TransportStreamState × Except RuntimeFailure (NativeStreamItem V)
  | .message sequence payload =>
    if s.peerHalfClosed || sequence != s.nextReceiveSequence then (s, .error s.violation)
    else ({ s with nextReceiveSequence := s.nextReceiveSequence + 1 }, .ok (.message payload))
  | .peerHalfClosed =>
    ({ s with peerHalfClosed := true },
      if s.peerHalfClosed then .error s.violation else .ok .peerHalfClosed)
  | .terminal outcome =>
    if s.terminalSeen then (s, .error s.violation)
    else
      (TransportStreamState.wakeCreditWaiters { s with terminalSeen := true },
        .ok (.terminal (match outcome with
          | .success => .ok ()
          | .domain value => .error value)))

/-- What a receive does with the answer to its call. -/
def TransportStreamState.endReceive (s : TransportStreamState) (answer : StreamWireResult V) :
    TransportStreamState × Except RuntimeFailure (NativeStreamItem V) :=
  let (taken, result) :=
    match answer with
    | .ok (.event event) => s.takeEvent event
    | .ok (.runtime failure) => (s, .error (fromWireFailure s.capability failure))
    | .ok _ => (s, .error s.violation)
    | .error error => (s, .error error)
  ({ taken with receiveInFlight := false }, result)

/-- What a `close_send` does with the answer to its call. -/
def TransportStreamState.endCloseSend (s : TransportStreamState) (answer : StreamWireResult V) :
    TransportStreamState × Except RuntimeFailure Unit :=
  let result : Except RuntimeFailure Unit :=
    match answer with
    | .ok (.accepted _) => .ok ()
    | .ok (.runtime failure) => .error (fromWireFailure s.capability failure)
    | .ok _ => .error s.violation
    | .error error => .error error
  let exhausted :=
    match result with
    | .error error => error.isResourceExhausted
    | .ok () => false
  (if exhausted then { s with localHalfClosed := false } else s, result)

/-- `cancel`. The cancel message to the peer is the transport's. -/
def TransportStreamState.cancel (s : TransportStreamState) : TransportStreamState :=
  if s.cancelled then s else TransportStreamState.wakeCreditWaiters { s with cancelled := true }

/-! ## Calls under way -/

/-- The future that awaits a call stops waiting for it. -/
def Issued.abandon (i : Issued V) : Option (Issued V) :=
  if i.answer.isSome then none else some { i with awaited := false }

/-- A call is answered; nobody takes the answer of an abandoned one. -/
def Issued.resolve (i : Issued V) (result : StreamWireResult V) : Option (Issued V) :=
  if i.awaited then some { i with answer := some result } else none

/-- The answer to the call that a future awaits. -/
def answerTo (calls : List (Issued V)) (t : Nat) : Option (StreamWireResult V) :=
  (calls.find? (fun i => i.future = t)).bind (·.answer)

def taken (calls : List (Issued V)) (t : Nat) : List (Issued V) :=
  calls.filter (fun i => i.future ≠ t)

def abandoned (calls : List (Issued V)) (t : Nat) : List (Issued V) :=
  calls.filterMap (fun i => if i.future = t then i.abandon else some i)

def resolved (calls : List (Issued V)) (t : Nat) (result : StreamWireResult V) :
    List (Issued V) :=
  calls.filterMap (fun i =>
    if i.future = t ∧ i.answer.isNone then i.resolve result else some i)

/-! ## Futures -/

inductive Pc (V : Type) where
  | peer
  /-- `send`; a message that is no JSON value cannot be sent. -/
  | send (message : Option V)
  | parked (payload : V)
  | sending (sequence : UInt64)
  | sent (result : Except RuntimeFailure Unit)
  | receive
  | receiving
  | received (result : Except RuntimeFailure (NativeStreamItem V))
  | closeSend
  | closing
  | closed (result : Except RuntimeFailure Unit)
  | cancel
  | cancelled
  | dropped
  deriving DecidableEq

inductive Input (κ : Type) where
  /-- The next number for a call, and what `stream_call` says if it does not issue it. -/
  | go (count : Nat) (refusal : Option RuntimeFailure)
  | serve (choice : κ)
  | drop

/-- `stream_call` has issued a call for the future `t`. -/
def Shared.issue (s : Shared β V) (t : Nat) (call : WireStreamCall V) : Shared β V :=
  { s with calls := s.calls ++ [⟨t, call, true, none⟩] }

/-- `send` from the credit on. -/
def issueSend (s : Shared β V) (t count : Nat) (refusal : Option RuntimeFailure) (payload : V) :
    Shared β V × Pc V :=
  let sequence := s.state.nextSendSequence
  match refusal with
  | none =>
    (Shared.issue { s with state := s.state.reserve } t
      (.send (nextCallId count) s.state.streamId s.state.session sequence payload),
      .sending sequence)
  | some error =>
    if error.isResourceExhausted then
      match s.state.reserve.restoreRejectedSend sequence with
      | (restored, .ok ()) => ({ s with state := restored }, .sent (.error error))
      | (kept, .error rollback) => ({ s with state := kept }, .sent (.error rollback))
    else ({ s with state := s.state.reserve }, .sent (.error error))

/-- `send`, up to the first await. -/
def callSend (s : Shared β V) (t count : Nat) (refusal : Option RuntimeFailure)
    (message : Option V) : Shared β V × Pc V :=
  if s.state.localHalfClosed || s.state.terminalSeen || s.state.cancelled then
    (s, .sent (.error s.state.violation))
  else
    match message with
    | none => (s, .sent (.error s.state.violation))
    | some payload =>
      if s.state.sendCredit = 0 then
        match s.state.registerCreditWaiter t with
        | .ok (some registered) => ({ s with state := registered }, .parked payload)
        | .ok none => issueSend s t count refusal payload
        | .error error => (s, .sent (.error error))
      else issueSend s t count refusal payload

/-- `receive`, up to the await. -/
def callReceive (s : Shared β V) (t count : Nat) (refusal : Option RuntimeFailure) :
    Shared β V × Pc V :=
  if s.state.terminalSeen || s.state.cancelled then (s, .received (.error s.state.violation))
  else if s.state.receiveInFlight then
    (s, .received (.error
      (.resourceExhausted s.state.capability (s.state.operation ++ ".receive"))))
  else
    match refusal with
    | none =>
      (Shared.issue { s with state := { s.state with receiveInFlight := true } } t
        (.receive (nextCallId count) s.state.streamId s.state.session), .receiving)
    | some error =>
      ({ s with state := { s.state with receiveInFlight := false } }, .received (.error error))

/-- `close_send`, up to the await. -/
def callCloseSend (s : Shared β V) (t count : Nat) (refusal : Option RuntimeFailure) :
    Shared β V × Pc V :=
  -- `swap` is not reached on a session that has ended
  if s.state.terminalSeen || s.state.cancelled || s.state.localHalfClosed then
    (s, .closed (.error s.state.violation))
  else
    match refusal with
    | none =>
      (Shared.issue { s with state := { s.state with localHalfClosed := true } } t
        (.closeSend (nextCallId count) s.state.streamId s.state.session), .closing)
    | some error =>
      ({ s with state := { s.state with localHalfClosed := !error.isResourceExhausted } },
        .closed (.error error))

def move (P : Peer β κ V) (s : Shared β V) (t : Nat) :
    Pc V → Input κ → Option (Moved (Shared β V) (Pc V))
  | .peer, .serve choice =>
    (P.serve s.peer s.calls choice).map fun (peer, future, result) =>
      ⟨{ s with peer := peer, calls := resolved s.calls future result }, .peer, none⟩
  | .send message, .go count refusal =>
    let (s', pc) := callSend s t count refusal message
    some ⟨s', pc, none⟩
  -- woken
  | .parked payload, .go count refusal =>
    if t ∈ s.state.creditWaiters then none
    else
      let (s', pc) := callSend s t count refusal (some payload)
      some ⟨s', pc, none⟩
  | .sending sequence, .go _ _ =>
    (answerTo s.calls t).map fun answer =>
      let (state, result) := s.state.endSend sequence answer
      ⟨{ s with state := state, calls := taken s.calls t }, .sent result, none⟩
  | .receive, .go count refusal =>
    let (s', pc) := callReceive s t count refusal
    some ⟨s', pc, none⟩
  | .receiving, .go _ _ =>
    (answerTo s.calls t).map fun answer =>
      let (state, result) := s.state.endReceive answer
      ⟨{ s with state := state, calls := taken s.calls t }, .received result, none⟩
  | .closeSend, .go count refusal =>
    let (s', pc) := callCloseSend s t count refusal
    some ⟨s', pc, none⟩
  | .closing, .go _ _ =>
    (answerTo s.calls t).map fun answer =>
      let (state, result) := s.state.endCloseSend answer
      ⟨{ s with state := state, calls := taken s.calls t }, .closed result, none⟩
  | .cancel, .go _ _ => some ⟨{ s with state := s.state.cancel }, .cancelled, none⟩
  -- the sender of a parked future stays where it is
  | .parked _, .drop => some ⟨s, .dropped, none⟩
  | .sending _, .drop | .receiving, .drop | .closing, .drop =>
    some ⟨{ s with calls := abandoned s.calls t }, .dropped, none⟩
  | _, _ => none

def Pc.starts : Pc V → Bool
  | .send _ | .receive | .closeSend | .cancel => true
  | _ => false

def program (P : Peer β κ V) : Program (Shared β V) (Pc V) (Input κ) := ⟨Pc.starts, move P⟩

def init (state : TransportStreamState) (peer : β) : Threads (Shared β V) (Pc V) :=
  { shared := { state := state, calls := [], peer := peer }
    pool := ExtTreeMap.insert ∅ 0 .peer }

/-- A peer that answers any call it has been sent, at any time and in any way. -/
def anyPeer : Peer Unit (Nat × StreamWireResult V) V where
  serve _ calls choice :=
    if calls.any (fun i => i.future = choice.1 ∧ i.answer.isNone) then
      some ((), choice.1, choice.2)
    else none

/-! ## What a step does -/

/-- The future waits for the answer to its call. -/
def Pc.waits : Pc V → Bool
  | .sending _ | .receiving | .closing => true
  | _ => false

def Pc.message : Pc V → Option V
  | .send message => message
  | .parked payload => some payload
  | _ => none

/-- The future is at an end and has got nothing. -/
def Pc.ended : Pc V → Bool
  | .sent (.error _) | .received (.error _) | .closed (.error _) | .cancelled | .dropped => true
  | _ => false

/-- The steps that do something, with what they do; `rest` are those that do not. -/
inductive Moves (P : Peer β κ V) (s : Shared β V) (t : Nat) :
    Pc V → Input κ → Shared β V → Pc V → Prop
  | serve (choice : κ) (peer : β) (future : Nat) (result : StreamWireResult V)
      (served : P.serve s.peer s.calls choice = some (peer, future, result)) :
      Moves P s t .peer (.serve choice)
        { s with peer := peer, calls := resolved s.calls future result } .peer
  | rest (pc : Pc V) (k : Input κ) (next : Pc V) (free : pc.waits = false)
      (ended : next.ended = true) : Moves P s t pc k s next
  | park (pc : Pc V) (k : Input κ) (payload : V) (message : pc.message = some payload)
      (credit : s.state.sendCredit = 0) (terminal : s.state.terminalSeen = false)
      (cancelled : s.state.cancelled = false) :
      Moves P s t pc k
        { s with state := { s.state with creditWaiters := s.state.creditWaiters ++ [t] } }
        (.parked payload)
  | send (pc : Pc V) (count : Nat) (payload : V) (message : pc.message = some payload)
      (credit : 0 < s.state.sendCredit) :
      Moves P s t pc (.go count none)
        (Shared.issue { s with state := s.state.reserve } t
          (.send (nextCallId count) s.state.streamId s.state.session s.state.nextSendSequence
            payload))
        (.sending s.state.nextSendSequence)
  /-- The transport refuses the call, and the send is taken back. -/
  | spare (pc : Pc V) (count : Nat) (error : RuntimeFailure) (message : pc.message.isSome = true)
      (exhausted : error.isResourceExhausted = true) :
      Moves P s t pc (.go count (some error)) { s with state := s.state.wakeCreditWaiters }
        (.sent (.error error))
  /-- The transport refuses the call, and the send is not taken back. -/
  | spend (pc : Pc V) (count : Nat) (refusal error : RuntimeFailure)
      (message : pc.message.isSome = true) (credit : 0 < s.state.sendCredit)
      (lost : refusal.isResourceExhausted = false ∨ s.state.nextSendSequence + 1 = 0) :
      Moves P s t pc (.go count (some refusal)) { s with state := s.state.reserve }
        (.sent (.error error))
  | accept (sequence : UInt64) (count : Nat) (refusal : Option RuntimeFailure) (credit : Nat)
      (answer : answerTo s.calls t = some (.ok (.accepted credit))) :
      Moves P s t (.sending sequence) (.go count refusal)
        { s with
          state := TransportStreamState.wakeCreditWaiters { s.state with sendCredit := credit }
          calls := taken s.calls t } (.sent (.ok ()))
  | restore (sequence : UInt64) (count : Nat) (refusal : Option RuntimeFailure)
      (failure : WireFailure) (error : RuntimeFailure)
      (answer : answerTo s.calls t = some (.ok (.runtime failure)))
      (exhausted : failure.isResourceExhausted = true)
      (current : s.state.nextSendSequence = saturatingSucc sequence) :
      Moves P s t (.sending sequence) (.go count refusal)
        { s with
          state := TransportStreamState.wakeCreditWaiters { s.state with
            nextSendSequence := sequence, sendCredit := s.state.sendCredit + 1 }
          calls := taken s.calls t } (.sent (.error error))
  | fail (sequence : UInt64) (count : Nat) (refusal : Option RuntimeFailure)
      (answer : StreamWireResult V) (error : RuntimeFailure)
      (found : answerTo s.calls t = some answer)
      (refused : ∀ credit, answer ≠ .ok (.accepted credit))
      (lost : ∀ failure, answer = .ok (.runtime failure) → failure.isResourceExhausted = true →
        s.state.nextSendSequence ≠ saturatingSucc sequence) :
      Moves P s t (.sending sequence) (.go count refusal)
        { s with calls := taken s.calls t } (.sent (.error error))
  | receive (count : Nat) (idle : s.state.receiveInFlight = false)
      (terminal : s.state.terminalSeen = false) :
      Moves P s t .receive (.go count none)
        (Shared.issue { s with state := { s.state with receiveInFlight := true } } t
          (.receive (nextCallId count) s.state.streamId s.state.session)) .receiving
  | receiveFailed (k : Input κ) (answer : StreamWireResult V) (error : RuntimeFailure)
      (found : answerTo s.calls t = some answer) :
      Moves P s t .receiving k
        { s with state := { s.state with receiveInFlight := false }, calls := taken s.calls t }
        (.received (.error error))
  | receiveMessage (k : Input κ) (payload : V)
      (found : answerTo s.calls t =
        some (.ok (.event (.message s.state.nextReceiveSequence payload))))
      (open_ : s.state.peerHalfClosed = false) :
      Moves P s t .receiving k
        { s with
          state := { s.state with
            nextReceiveSequence := s.state.nextReceiveSequence + 1, receiveInFlight := false }
          calls := taken s.calls t } (.received (.ok (.message payload)))
  | receiveHalfClosed (k : Input κ)
      (found : answerTo s.calls t = some (.ok (.event .peerHalfClosed)))
      (open_ : s.state.peerHalfClosed = false) :
      Moves P s t .receiving k
        { s with
          state := { s.state with peerHalfClosed := true, receiveInFlight := false }
          calls := taken s.calls t } (.received (.ok .peerHalfClosed))
  | receiveTerminal (k : Input κ) (outcome : WireStreamTerminal V) (item : Except V Unit)
      (found : answerTo s.calls t = some (.ok (.event (.terminal outcome))))
      (open_ : s.state.terminalSeen = false) :
      Moves P s t .receiving k
        { s with
          state := TransportStreamState.wakeCreditWaiters { s.state with
            terminalSeen := true, receiveInFlight := false }
          calls := taken s.calls t } (.received (.ok (.terminal item)))
  | closeSend (count : Nat) :
      Moves P s t .closeSend (.go count none)
        (Shared.issue { s with state := { s.state with localHalfClosed := true } } t
          (.closeSend (nextCallId count) s.state.streamId s.state.session)) .closing
  | halfClose (k : Input κ) (closed : Bool) (error : RuntimeFailure) :
      Moves P s t .closeSend k { s with state := { s.state with localHalfClosed := closed } }
        (.closed (.error error))
  | endCloseSend (k : Input κ) (closed : Bool) (result : Except RuntimeFailure Unit)
      (answer : StreamWireResult V) (found : answerTo s.calls t = some answer) :
      Moves P s t .closing k
        { s with
          state := { s.state with localHalfClosed := closed }
          calls := taken s.calls t } (.closed result)
  | cancel (k : Input κ) :
      Moves P s t .cancel k
        { s with state := TransportStreamState.wakeCreditWaiters { s.state with
          cancelled := true } } .cancelled
  | drop (pc : Pc V) (waits : pc.waits = true) :
      Moves P s t pc .drop { s with calls := abandoned s.calls t } .dropped

section

variable {P : Peer β κ V} {s : Shared β V} {t : Nat} {pc : Pc V} {k : Input κ}

/-- Taking back what has just been reserved leaves the waiters woken. -/
theorem restore_reserve (state : TransportStreamState) (hcredit : 0 < state.sendCredit)
    (hlast : state.nextSendSequence + 1 ≠ 0) :
    state.reserve.restoreRejectedSend state.nextSendSequence =
      (state.wakeCreditWaiters, .ok ()) := by
  have hsucc : state.reserve.nextSendSequence = saturatingSucc state.nextSendSequence := by
    rw [saturatingSucc, if_neg hlast]
    rfl
  have hback : state.sendCredit - 1 + 1 = state.sendCredit := by omega
  rw [TransportStreamState.restoreRejectedSend, if_pos hsucc]
  simp only [TransportStreamState.reserve, TransportStreamState.wakeCreditWaiters, hback]

theorem issueSend_moves {count : Nat} {refusal : Option RuntimeFailure} {payload : V}
    (hpc : pc.message = some payload) (hcredit : 0 < s.state.sendCredit) :
    Moves P s t pc (.go count refusal) (issueSend s t count refusal payload).1
      (issueSend s t count refusal payload).2 := by
  have hsome : pc.message.isSome = true := by rw [hpc]; rfl
  cases refusal with
  | none => exact .send pc count payload hpc hcredit
  | some error =>
    simp only [issueSend]
    split
    · next hexhausted =>
        by_cases hlast : s.state.nextSendSequence + 1 = 0
        · -- the last number: the counter has wrapped, so the exchange fails
          have hkept : s.state.reserve.restoreRejectedSend s.state.nextSendSequence =
              (s.state.reserve, .error s.state.violation) := by
            have hne : s.state.reserve.nextSendSequence ≠
                saturatingSucc s.state.nextSendSequence := by
              rw [saturatingSucc, if_pos hlast]
              show s.state.nextSendSequence + 1 ≠ s.state.nextSendSequence
              intro h
              rw [hlast] at h
              rw [← h] at hlast
              exact absurd hlast (by decide)
            rw [TransportStreamState.restoreRejectedSend, if_neg hne]
            rfl
          rw [hkept]
          exact .spend pc count error _ hsome hcredit (Or.inr hlast)
        · rw [restore_reserve s.state hcredit hlast]
          exact .spare pc count error hsome hexhausted
    · next hexhausted =>
        exact .spend pc count error error hsome hcredit
          (Or.inl (Bool.eq_false_iff.mpr hexhausted))

theorem callSend_moves {count : Nat} {refusal : Option RuntimeFailure} {message : Option V}
    (hfree : pc.waits = false) (hpc : pc.message = message) :
    Moves P s t pc (.go count refusal) (callSend s t count refusal message).1
      (callSend s t count refusal message).2 := by
  unfold callSend
  split
  · exact .rest pc _ _ hfree rfl
  · next hopen =>
      simp only [Bool.or_eq_true, not_or, Bool.not_eq_true] at hopen
      obtain ⟨⟨-, hterminal⟩, hcancelled⟩ := hopen
      cases message with
      | none => exact .rest pc _ _ hfree rfl
      | some payload =>
        simp only
        by_cases hzero : s.state.sendCredit = 0
        · have hnone : ¬ 0 < s.state.sendCredit := by omega
          have hrunning : (s.state.cancelled || s.state.terminalSeen) = false := by
            rw [hcancelled, hterminal, Bool.or_self]
          rw [if_pos hzero, TransportStreamState.registerCreditWaiter, hrunning,
            if_neg Bool.false_ne_true, if_neg hnone]
          by_cases hroom : maxStreamCreditWaiters ≤ s.state.creditWaiters.length
          · rw [if_pos hroom]
            exact .rest pc _ _ hfree rfl
          · rw [if_neg hroom]
            exact .park pc _ payload hpc hzero hterminal hcancelled
        · grind [issueSend_moves]

theorem endSend_moves {sequence : UInt64} {count : Nat} {refusal : Option RuntimeFailure}
    {answer : StreamWireResult V} (hanswer : answerTo s.calls t = some answer) :
    Moves P s t (.sending sequence) (.go count refusal)
      { s with state := (s.state.endSend sequence answer).1, calls := taken s.calls t }
      (.sent (s.state.endSend sequence answer).2) := by
  rcases answer with error | outcome
  · exact .fail sequence _ _ _ error hanswer (fun _ h => by cases h) (fun _ h => by cases h)
  · cases outcome with
    | accepted credit => exact .accept sequence _ _ credit hanswer
    | runtime failure =>
      simp only [TransportStreamState.endSend]
      by_cases hexhausted : failure.isResourceExhausted = true
      · rw [if_pos hexhausted, TransportStreamState.restoreRejectedSend]
        by_cases hcurrent : s.state.nextSendSequence = saturatingSucc sequence
        · rw [if_pos hcurrent]
          exact .restore sequence _ _ failure _ hanswer hexhausted hcurrent
        · rw [if_neg hcurrent]
          exact .fail sequence _ _ _ _ hanswer (fun _ h => by cases h) (fun _ _ _ => hcurrent)
      · rw [if_neg hexhausted]
        refine .fail sequence _ _ _ _ hanswer (fun _ h => by cases h) (fun failure' h h' => ?_)
        cases h
        exact absurd h' hexhausted
    | _ => exact .fail sequence _ _ _ _ hanswer (fun _ h => by cases h) (fun _ h => by cases h)

theorem endReceive_moves {answer : StreamWireResult V}
    (hanswer : answerTo s.calls t = some answer) :
    Moves P s t .receiving k
      { s with state := (s.state.endReceive answer).1, calls := taken s.calls t }
      (.received (s.state.endReceive answer).2) := by
  rcases answer with error | outcome
  · exact .receiveFailed k _ error hanswer
  · cases outcome with
    | event event =>
      simp only [TransportStreamState.endReceive]
      cases event with
      | message sequence payload =>
        simp only [TransportStreamState.takeEvent]
        by_cases hbad : (s.state.peerHalfClosed ||
            sequence != s.state.nextReceiveSequence) = true
        · rw [if_pos hbad]
          exact .receiveFailed k _ _ hanswer
        · rw [if_neg hbad]
          simp only [Bool.or_eq_true, not_or, Bool.not_eq_true, bne_eq_false_iff_eq] at hbad
          obtain ⟨hopen, rfl⟩ := hbad
          exact .receiveMessage k payload hanswer hopen
      | peerHalfClosed =>
        simp only [TransportStreamState.takeEvent]
        by_cases hclosed : s.state.peerHalfClosed = true
        · rw [if_pos hclosed, ← hclosed]
          exact .receiveFailed k _ _ hanswer
        · rw [if_neg hclosed]
          exact .receiveHalfClosed k hanswer (Bool.eq_false_iff.mpr hclosed)
      | terminal outcome =>
        simp only [TransportStreamState.takeEvent]
        by_cases hseen : s.state.terminalSeen = true
        · rw [if_pos hseen]
          exact .receiveFailed k _ _ hanswer
        · rw [if_neg hseen]
          exact .receiveTerminal k outcome _ hanswer (Bool.eq_false_iff.mpr hseen)
    | _ => exact .receiveFailed k _ _ hanswer

theorem callReceive_moves {count : Nat} {refusal : Option RuntimeFailure} :
    Moves P s t .receive (.go count refusal) (callReceive s t count refusal).1
      (callReceive s t count refusal).2 := by
  unfold callReceive
  split
  · exact .rest _ _ _ rfl rfl
  · next hopen =>
      simp only [Bool.or_eq_true, not_or, Bool.not_eq_true] at hopen
      split
      · exact .rest _ _ _ rfl rfl
      · next hidle =>
          have hidle : s.state.receiveInFlight = false := Bool.eq_false_iff.mpr hidle
          cases refusal with
          | none => exact .receive count hidle hopen.1
          | some =>
            have hsame : { s.state with receiveInFlight := false } = s.state := by
              rw [← hidle]
            simp only [hsame]
            exact .rest _ _ _ rfl rfl

theorem callCloseSend_moves {count : Nat} {refusal : Option RuntimeFailure} :
    Moves P s t .closeSend (.go count refusal) (callCloseSend s t count refusal).1
      (callCloseSend s t count refusal).2 := by
  unfold callCloseSend
  split
  · exact .rest _ _ _ rfl rfl
  · cases refusal with
    | none => exact .closeSend count
    | some error => exact .halfClose _ _ error

theorem endCloseSend_moves {answer : StreamWireResult V}
    (hanswer : answerTo s.calls t = some answer) :
    Moves P s t .closing k
      { s with state := (s.state.endCloseSend answer).1, calls := taken s.calls t }
      (.closed (s.state.endCloseSend answer).2) := by
  obtain ⟨closed, hclosed⟩ : ∃ closed, (s.state.endCloseSend answer).1 =
      { s.state with localHalfClosed := closed } := by
    simp only [TransportStreamState.endCloseSend]
    split_ifs
    · exact ⟨false, rfl⟩
    · exact ⟨s.state.localHalfClosed, rfl⟩
  rw [hclosed]
  exact .endCloseSend k closed _ answer hanswer

theorem move_moves {m : Moved (Shared β V) (Pc V)} (hm : move P s t pc k = some m) :
    Moves P s t pc k m.shared m.next ∧ m.child = none := by
  cases pc with
  | peer =>
    cases k with
    | serve choice =>
      obtain ⟨⟨peer, future, result⟩, hserve, hm⟩ := Option.map_eq_some_iff.mp hm
      cases hm
      exact ⟨.serve choice peer future result hserve, rfl⟩
    | _ => cases hm
  | send =>
    cases k with
    | go =>
      cases hm
      exact ⟨callSend_moves rfl rfl, rfl⟩
    | _ => cases hm
  | parked =>
    cases k with
    | go =>
      simp only [move] at hm
      split at hm
      · cases hm
      · cases hm
        exact ⟨callSend_moves rfl rfl, rfl⟩
    | drop =>
      cases hm
      exact ⟨.rest _ _ _ rfl rfl, rfl⟩
    | serve => cases hm
  | sending =>
    cases k with
    | go =>
      obtain ⟨answer, hanswer, hm⟩ := Option.map_eq_some_iff.mp hm
      cases hm
      exact ⟨endSend_moves hanswer, rfl⟩
    | drop =>
      cases hm
      exact ⟨.drop _ rfl, rfl⟩
    | serve => cases hm
  | receive =>
    cases k with
    | go =>
      cases hm
      exact ⟨callReceive_moves, rfl⟩
    | _ => cases hm
  | receiving =>
    cases k with
    | go =>
      obtain ⟨answer, hanswer, hm⟩ := Option.map_eq_some_iff.mp hm
      cases hm
      exact ⟨endReceive_moves hanswer, rfl⟩
    | drop =>
      cases hm
      exact ⟨.drop _ rfl, rfl⟩
    | serve => cases hm
  | closeSend =>
    cases k with
    | go =>
      cases hm
      exact ⟨callCloseSend_moves, rfl⟩
    | _ => cases hm
  | closing =>
    cases k with
    | go =>
      obtain ⟨answer, hanswer, hm⟩ := Option.map_eq_some_iff.mp hm
      cases hm
      exact ⟨endCloseSend_moves hanswer, rfl⟩
    | drop =>
      cases hm
      exact ⟨.drop _ rfl, rfl⟩
    | serve => cases hm
  | cancel =>
    cases k with
    | go =>
      cases hm
      refine ⟨?_, rfl⟩
      simp only [TransportStreamState.cancel]
      split
      · exact .rest _ _ _ rfl rfl
      · exact .cancel _
    | _ => cases hm
  | _ => cases k <;> cases hm

end

/-! ## Whose calls they are -/

/-- The place of a future that waits for the answer to `call`. -/
def Pc.awaits : Pc V → WireStreamCall V → Prop
  | .sending sequence, .send _ _ _ sequence' _ => sequence' = sequence
  | .receiving, .receive _ _ _ => True
  | .closing, .closeSend _ _ _ => True
  | _, _ => False

def Issued.Live (i : Issued V) : Prop := i.awaited = true ∨ i.answer.isSome = true

variable {calls : List (Issued V)} {t : Nat}

theorem answerTo_some {answer : StreamWireResult V} (h : answerTo calls t = some answer) :
    ∃ i ∈ calls, i.future = t ∧ i.answer = some answer := by
  obtain ⟨i, hi, hanswer⟩ := Option.bind_eq_some_iff.mp h
  have hfuture : i.future = t := by simpa using List.find?_some hi
  exact ⟨i, List.mem_of_find?_eq_some hi, hfuture, hanswer⟩

theorem mem_taken {i : Issued V} : i ∈ taken calls t ↔ i ∈ calls ∧ i.future ≠ t := by
  simp [taken]

theorem mem_resolved {result : StreamWireResult V} {j : Issued V} (h : j ∈ resolved calls t result)
    :
    ∃ i ∈ calls, i.future = j.future ∧ i.call = j.call ∧ i.awaited = j.awaited ∧
      (j.Live → i.Live) := by
  obtain ⟨i, hi, hj⟩ := List.mem_filterMap.mp h
  refine ⟨i, hi, ?_⟩
  split at hj
  · rw [Issued.resolve] at hj
    split at hj
    · next hawaited =>
        cases hj
        exact ⟨rfl, rfl, rfl, fun _ => Or.inl hawaited⟩
    · cases hj
  · cases hj
    exact ⟨rfl, rfl, rfl, id⟩

theorem mem_abandoned {j : Issued V} (h : j ∈ abandoned calls t) (hlive : j.Live) :
    j ∈ calls ∧ j.future ≠ t := by
  obtain ⟨i, hi, hj⟩ := List.mem_filterMap.mp h
  split at hj
  · rw [Issued.abandon] at hj
    split at hj
    · cases hj
    · next hunanswered =>
        cases hj
        rcases hlive with hawaited | hanswered
        · cases hawaited
        · exact absurd hanswered hunanswered
  · grind

theorem not_awaits_of_free {pc : Pc V} (h : pc.waits = false) (call : WireStreamCall V) :
    ¬ pc.awaits call := by
  intro hawaits
  cases pc <;> cases call <;> first | exact hawaits | cases h

theorem free_of_message {pc : Pc V} (h : pc.message.isSome = true) : pc.waits = false := by
  cases pc <;> first | rfl | cases h

/-- **A call whose answer is still to be taken belongs to the future that waits for it.** -/
theorem calls_backed (P : Peer β κ V) :
    Backs (program P) (fun s i => i ∈ s.calls ∧ i.Live) Issued.future
      (fun pc i => pc.awaits i.call) where
  move s t pc k m hm hown x hx := by
    -- a mover that does not wait has no call
    have hkept : pc.waits = false → x ∈ s.calls → x.Live →
        x.future ≠ t ∧ ∃ y, (y ∈ s.calls ∧ y.Live) ∧ y.future = x.future ∧
          ∀ pc' : Pc V, pc'.awaits y.call → pc'.awaits x.call := by grind [not_awaits_of_free]
    -- one that has its answer, or is dropped, gives its call up
    have hothers : x ∈ s.calls → x.Live → x.future ≠ t →
        x.future ≠ t ∧ ∃ y, (y ∈ s.calls ∧ y.Live) ∧ y.future = x.future ∧
          ∀ pc' : Pc V, pc'.awaits y.call → pc'.awaits x.call :=
      fun hmem hlive hne => ⟨hne, x, ⟨hmem, hlive⟩, rfl, fun _ h => h⟩
    obtain ⟨hmem, hlive⟩ := hx
    have hmoves := (move_moves hm).1
    generalize m.shared = s' at hmoves hmem
    generalize m.next = next at hmoves ⊢
    cases hmoves with
    | serve => grind [mem_resolved, not_awaits_of_free]
    | rest _ _ _ hfree => exact Or.inl (hkept hfree hmem hlive)
    | park _ _ payload hmessage =>
      exact Or.inl (hkept (free_of_message (by rw [hmessage]; rfl)) hmem hlive)
    | send _ count payload hmessage =>
      rcases List.mem_append.mp hmem with hmem | hnew
      · exact Or.inl (hkept (free_of_message (by rw [hmessage]; rfl)) hmem hlive)
      · rw [List.mem_singleton.mp hnew]
        exact Or.inr ⟨rfl, rfl⟩
    | spare _ _ _ hmessage | spend _ _ _ _ hmessage =>
      exact Or.inl (hkept (free_of_message hmessage) hmem hlive)
    | receive | closeSend =>
      rcases List.mem_append.mp hmem with hmem | hnew
      · exact Or.inl (hkept rfl hmem hlive)
      · rw [List.mem_singleton.mp hnew]
        exact Or.inr ⟨rfl, trivial⟩
    | halfClose | cancel => exact Or.inl (hkept rfl hmem hlive)
    | drop => grind [mem_abandoned]
    | _ =>
      obtain ⟨hmem, hne⟩ := mem_taken.mp hmem
      exact Or.inl (hothers hmem hlive hne)

/-! ## Counting calls -/

def isSend : WireStreamCall V → Bool
  | .send _ _ _ _ _ => true
  | _ => false

def isReceive : WireStreamCall V → Bool
  | .receive _ _ _ => true
  | _ => false

/-- The calls under way of the kind `q`. -/
def count (q : WireStreamCall V → Bool) (calls : List (Issued V)) : Nat :=
  calls.countP (fun i => q i.call)

section

variable {q : WireStreamCall V → Bool} {calls : List (Issued V)} {t : Nat}

theorem count_issue (s : Shared β V) (call : WireStreamCall V) :
    count q (s.issue t call).calls = count q s.calls + if q call then 1 else 0 := by
  simp [Shared.issue, count, List.countP_append, List.countP_singleton]

theorem count_filterMap_le {f : Issued V → Option (Issued V)}
    (hf : ∀ i j, f i = some j → j.call = i.call) :
    count q (calls.filterMap f) ≤ count q calls := by
  induction calls with
  | nil => exact Nat.le_refl _
  | cons i calls ih =>
    have hcons : count q (i :: calls) = count q calls + if q i.call then 1 else 0 := by
      simp [count, List.countP_cons]
    cases hi : f i with
    | none =>
      rw [List.filterMap_cons_none hi, hcons]
      omega
    | some j =>
      have hcons' : count q (j :: calls.filterMap f) =
          count q (calls.filterMap f) + if q j.call then 1 else 0 := by
        simp [count, List.countP_cons]
      rw [List.filterMap_cons_some hi, hcons, hcons', hf i j hi]
      omega

theorem count_resolved_le (result : StreamWireResult V) :
    count q (resolved calls t result) ≤ count q calls := by
  refine count_filterMap_le (fun i j h => ?_)
  split at h
  · grind [Issued.resolve]
  · cases h
    rfl

theorem count_abandoned_le : count q (abandoned calls t) ≤ count q calls := by
  refine count_filterMap_le (fun i j h => ?_)
  split at h
  · grind [Issued.abandon]
  · cases h
    rfl

theorem count_taken_le : count q (taken calls t) ≤ count q calls :=
  List.Sublist.countP_le List.filter_sublist

theorem count_taken_lt {i : Issued V} (hi : i ∈ calls) (ht : i.future = t)
    (hq : q i.call = true) : count q (taken calls t) < count q calls := by
  induction calls with
  | nil => cases hi
  | cons j calls ih =>
    have hcons : count q (j :: calls) = count q calls + if q j.call then 1 else 0 := by
      simp [count, List.countP_cons]
    have hle : count q (taken calls t) ≤ count q calls := count_taken_le
    by_cases hj : j.future = t
    · have htaken : taken (j :: calls) t = taken calls t := by simp [taken, hj]
      rw [htaken, hcons]
      rcases List.mem_cons.mp hi with rfl | hi
      · rw [if_pos hq]
        omega
      · have hlt := ih hi
        omega
    · have htaken : taken (j :: calls) t = j :: taken calls t := by simp [taken, hj]
      have hcons' : count q (j :: taken calls t) =
          count q (taken calls t) + if q j.call then 1 else 0 := by
        simp [count, List.countP_cons]
      have hi : i ∈ calls := by grind
      have hlt := ih hi
      rw [htaken, hcons, hcons']
      omega

end

end LensoBun.Transport.StreamSession
