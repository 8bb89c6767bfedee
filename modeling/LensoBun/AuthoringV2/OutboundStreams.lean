import LensoBun.Lib.Threads

set_option autoImplicit false

/-! # Outbound streams of an Authoring V2 child

`#outboundStream` of `v2.ts`, with the closures of its binding and what `#stop` does with the table, and
the host bridge that serves them (`dispatch_bridge` of `adapter_v2.rs`). Every use of a stream by the
plugin is a thread: the child's part up to the callback is one step, the host's answer is the next, and
what the child does with the answer is the last. A cancel is sent without waiting for its answer.

The host's imports give a new stream a number of its own, and a stream is alive there until it delivers
its Terminal, is cancelled, or a failure ends it; other failures, such as the retryable
ResourceExhausted, leave it alive. Which failures there are comes from outside.

A child closes a stream when it gets a Terminal or any runtime failure, and does not send a cancel then
or later. So a stream whose failure does not end it stays alive without anybody to use it. If the host
fails only what it has ended with a Terminal or what has been cancelled, every stream that the child has
dropped is over, and a stream that is alive is in the child's table or has its cancel on the way.

Correlation ids and payloads are left out; the sequence number of a message is the one in the host's
table. `events` is not part of the source.
-/

namespace LensoBun.AuthoringV2.Outbound

open Std Lib

/-! ## State -/

structure Limits where
  maxActiveOutboundCalls : Nat
  maxUnfinishedExecutions : Nat
  deriving DecidableEq, Repr

inductive Use where
  | send
  | receive
  | closeSend
  deriving DecidableEq, Repr

inductive Failure where
  | cancelled
  | resourceExhausted
  | protocolViolation
  | other
  deriving DecidableEq, Repr

/-- The host's outcomes of send, close_send and receive. -/
inductive Answer where
  | accepted
  | message
  | peerHalfClosed
  | terminal
  | runtime (failure : Failure)
  deriving DecidableEq, Repr

inductive OpenAnswer where
  | opened (streamId : Nat)
  | domain
  | runtime (failure : Failure)
  deriving DecidableEq, Repr

inductive Event where
  | terminal (streamId : Nat)
  /-- The child has sent `lenso.stream.cancel`. -/
  | cancelSent (streamId : Nat)
  deriving DecidableEq, Repr

structure Shared where
  activeOutboundCalls : Nat
  stopAttempted : Bool
  /-- `closed` of each binding there is. -/
  bindings : ExtTreeMap Nat Bool
  /-- The keys of `#outboundStreams`, in order. -/
  outboundStreams : List Nat
  /-- The streams that are alive in the host's imports, and the next number. -/
  live : List Nat
  nextStreamId : Nat
  outboundReceiveSequences : ExtTreeMap Nat Nat
  events : List Event

def Shared.init : Shared where
  activeOutboundCalls := 0
  stopAttempted := false
  bindings := ∅
  outboundStreams := []
  live := []
  nextStreamId := 0
  outboundReceiveSequences := ∅
  events := []

inductive Result where
  | opened (streamId : Nat)
  | domain
  | answered (answer : Answer)
  | refused (failure : Failure)
  | threw
  | done
  deriving DecidableEq, Repr

inductive Input where
  | go
  | aborted
  /-- There are other invocations when `stop` comes. -/
  | unfinished
  | opens
  | opensNot (answer : OpenAnswer)
  /-- The host answers; a failure may end the stream. -/
  | answers (answer : Answer) (ends : Bool)
  /-- The callback is rejected, or its result does not validate. -/
  | rejects
  /-- The host handles one of the cancels on the way. -/
  | cancels (streamId : Nat)
  deriving DecidableEq, Repr

inductive Pc where
  | openStream
  | opening
  | openAnswered (answer : OpenAnswer)
  | use (streamId : Nat) (use : Use)
  | acting (streamId : Nat) (use : Use)
  | acted (streamId : Nat) (use : Use) (answer : Answer)
  | cancel (streamId : Nat)
  /-- `lenso.stream.cancel` has been sent for these and not been handled. -/
  | cancelling (streamIds : List Nat)
  | call
  | calling
  | stop
  | finished (result : Result)
  deriving DecidableEq, Repr

/-! ## The child -/

def Shared.callStarts (s : Shared) : Shared :=
  { s with activeOutboundCalls := s.activeOutboundCalls + 1 }

def Shared.callEnds (s : Shared) : Shared :=
  { s with activeOutboundCalls := s.activeOutboundCalls - 1 }

/-- `finish`. -/
def Shared.finish (s : Shared) (streamId : Nat) : Shared :=
  { s with
    bindings := s.bindings.modify streamId fun _ => true
    outboundStreams := s.outboundStreams.filter (· != streamId) }

def Shared.sendCancel (s : Shared) (streamId : Nat) : Shared :=
  { s with events := s.events ++ [.cancelSent streamId] }

/-- `#outboundStream` up to the callback. -/
def onOpenStream (c : Limits) (s : Shared) : Input → Option (Shared × Pc)
  | .aborted => some (s, .finished (.refused .cancelled))
  | .go =>
    if c.maxActiveOutboundCalls ≤ s.activeOutboundCalls ∨
        c.maxUnfinishedExecutions ≤ s.outboundStreams.length then
      some (s, .finished (.refused .resourceExhausted))
    else
      some (s.callStarts, .opening)
  | _ => none

/-- The binding is made and entered in the table. -/
def Shared.bind (s : Shared) (streamId : Nat) : Shared :=
  { s with
    bindings := s.bindings.insert streamId false
    outboundStreams := if streamId ∈ s.outboundStreams then s.outboundStreams
      else s.outboundStreams ++ [streamId] }

/-- `#outboundStream` after the callback. -/
def onOpenAnswered (s : Shared) (answer : OpenAnswer) : Input → Option (Shared × Pc)
  | .rejects => some (s.callEnds, .finished .threw)
  | .go =>
    match answer with
    | .opened streamId => some ((s.bind streamId).callEnds, .finished (.opened streamId))
    | .domain => some (s.callEnds, .finished .domain)
    | .runtime failure => some (s.callEnds, .finished (.answered (.runtime failure)))
  | _ => none

/-- `send`, `receive` and `closeSend` up to the callback. -/
def onUse (c : Limits) (s : Shared) (streamId : Nat) (use : Use) : Option (Shared × Pc) :=
  match s.bindings[streamId]? with
  | none => none
  | some true => some (s, .finished (.refused .protocolViolation))
  | some false =>
    if c.maxActiveOutboundCalls ≤ s.activeOutboundCalls then
      some (s, .finished (.refused .resourceExhausted))
    else
      some (s.callStarts, .acting streamId use)

/-- The answers on which a binding is finished. -/
def Answer.finishes : Answer → Bool
  | .terminal | .runtime _ => true
  | _ => false

/-- `send`, `receive` and `closeSend` after the callback. -/
def onActed (s : Shared) (streamId : Nat) (answer : Answer) : Input → Option (Shared × Pc)
  | .rejects => some (s.callEnds, .finished .threw)
  | .go =>
    some ((if answer.finishes then s.finish streamId else s).callEnds,
      .finished (.answered answer))
  | _ => none

/-- `cancel` of a binding. -/
def onCancel (s : Shared) (streamId : Nat) : Option (Shared × Pc) :=
  match s.bindings[streamId]? with
  | none => none
  | some true => some (s, .finished .done)
  | some false => some ((s.finish streamId).sendCancel streamId, .cancelling [streamId])

/-- The streams of the table that are not closed. -/
def Shared.openStreams (s : Shared) : List Nat :=
  s.outboundStreams.filter fun streamId => s.bindings[streamId]? == some false

/-- The loop of `#stop` over the table. -/
def Shared.cancelAll (s : Shared) : Shared :=
  { s with
    bindings := s.bindings.map fun streamId closed => closed || s.outboundStreams.contains streamId
    outboundStreams := []
    events := s.events ++ s.openStreams.map .cancelSent }

/-- `#stop` as far as outbound streams go. -/
def onStop (s : Shared) : Input → Option (Shared × Pc)
  | .unfinished =>
    if s.stopAttempted then
      some (s, .finished .threw)
    else
      some ({ s with stopAttempted := true }, .finished .threw)
  | .go =>
    if s.stopAttempted then
      some (s, .finished .threw)
    else if 0 < s.activeOutboundCalls then
      some ({ s with stopAttempted := true }, .finished .threw)
    else
      some ({ s with stopAttempted := true }.cancelAll, .cancelling s.openStreams)
  | _ => none

/-! ## The host -/

def Shared.endStream (s : Shared) (streamId : Nat) : Shared :=
  { s with live := s.live.filter (· != streamId) }

def Shared.forgetSequence (s : Shared) (streamId : Nat) : Shared :=
  { s with outboundReceiveSequences := s.outboundReceiveSequences.erase streamId }

/-- The number in the answer that carries a message. -/
def Shared.sequence (s : Shared) (streamId : Nat) : Nat :=
  s.outboundReceiveSequences[streamId]?.getD 0

/-- `saturating_add`. -/
def Shared.nextSequence (s : Shared) (streamId : Nat) : Shared :=
  { s with
    outboundReceiveSequences := s.outboundReceiveSequences.insert streamId
      (min (s.sequence streamId + 1) (2 ^ 64 - 1)) }

/-- `BridgeRequest::StreamOpen`. -/
def bridgeOpen (s : Shared) : Input → Option (Shared × Pc)
  | .opens =>
    some ({ s with
        live := s.nextStreamId :: s.live
        nextStreamId := s.nextStreamId + 1
        outboundReceiveSequences := s.outboundReceiveSequences.insert s.nextStreamId 0 },
      .openAnswered (.opened s.nextStreamId))
  | .opensNot .domain => some (s, .openAnswered .domain)
  | .opensNot (.runtime failure) => some (s, .openAnswered (.runtime failure))
  | .rejects => some (s.callEnds, .finished .threw)
  | _ => none

/-- `BridgeRequest::StreamSend`, `StreamReceive` and `StreamClose`: what the host does for an answer.
A stream that is not alive can only fail. -/
def bridgeAnswer (s : Shared) (streamId : Nat) (use : Use) (answer : Answer) (ends : Bool) :
    Option Shared :=
  match answer with
  | .runtime _ =>
    let s := if use = .receive then s.forgetSequence streamId else s
    some (if ends then s.endStream streamId else s)
  | .accepted => if use ≠ .receive ∧ streamId ∈ s.live then some s else none
  | .message => if use = .receive ∧ streamId ∈ s.live then some (s.nextSequence streamId) else none
  | .peerHalfClosed => if use = .receive ∧ streamId ∈ s.live then some s else none
  | .terminal =>
    if use = .receive ∧ streamId ∈ s.live then
      some { (s.endStream streamId).forgetSequence streamId with
        events := s.events ++ [.terminal streamId] }
    else
      none

def bridgeAct (s : Shared) (streamId : Nat) (use : Use) : Input → Option (Shared × Pc)
  | .answers answer ends =>
    (bridgeAnswer s streamId use answer ends).map fun s => (s, .acted streamId use answer)
  | .rejects => some (s.callEnds, .finished .threw)
  | _ => none

/-- `BridgeRequest::StreamCancel`. -/
def bridgeCancel (s : Shared) (streamIds : List Nat) : Input → Option (Shared × Pc)
  | .cancels streamId =>
    if streamId ∈ streamIds then
      some ((s.endStream streamId).forgetSequence streamId,
        .cancelling (streamIds.filter (· != streamId)))
    else
      none
  | _ => none

/-! ## The program -/

def next (c : Limits) (s : Shared) (pc : Pc) (k : Input) : Option (Shared × Pc) :=
  match pc with
  | .openStream => onOpenStream c s k
  | .opening => bridgeOpen s k
  | .openAnswered answer => onOpenAnswered s answer k
  | .use streamId use => onUse c s streamId use
  | .acting streamId use => bridgeAct s streamId use k
  | .acted streamId _ answer => onActed s streamId answer k
  | .cancel streamId => onCancel s streamId
  | .cancelling streamIds => bridgeCancel s streamIds k
  | .call =>
    if c.maxActiveOutboundCalls ≤ s.activeOutboundCalls then
      some (s, .finished (.refused .resourceExhausted))
    else
      some (s.callStarts, .calling)
  | .calling => some (s.callEnds, .finished .done)
  | .stop => onStop s k
  | .finished _ => none

def Pc.isEntry : Pc → Bool
  | .openStream | .use _ _ | .cancel _ | .call | .stop => true
  | _ => false

def program (c : Limits) : Program Shared Pc Input where
  entry := Pc.isEntry
  move s _ pc k := (next c s pc k).map fun p => ⟨p.1, p.2, none⟩

def init : Threads Shared Pc := ⟨.init, ∅⟩

/-! ## What a step can do -/

/-- The host has delivered a Terminal for the stream, or a cancel for it has been sent. -/
def Over (s : Shared) (streamId : Nat) : Prop :=
  .terminal streamId ∈ s.events ∨ .cancelSent streamId ∈ s.events

instance (s : Shared) (streamId : Nat) : Decidable (Over s streamId) :=
  inferInstanceAs (Decidable (_ ∨ _))

def Pc.isCancelling : Pc → Bool
  | .cancelling _ => true
  | _ => false

/-- The host's answer to a use, or a new stream, is on the way. -/
def Pc.isAnswer : Pc → Bool
  | .acted _ _ _ | .openAnswered (.opened _) => true
  | _ => false

/-- Nothing that matters to the life of a stream differs. -/
structure Same (s s' : Shared) : Prop where
  bindings : s'.bindings = s.bindings
  table : s'.outboundStreams = s.outboundStreams
  live : s'.live = s.live
  number : s'.nextStreamId = s.nextStreamId
  events : s'.events = s.events

theorem Same.refl (s : Shared) : Same s s := ⟨rfl, rfl, rfl, rfl, rfl⟩

/-- Everything a thread can do at a place, up to counters and sequence numbers. -/
inductive Moves (s : Shared) : Pc → Input → Shared → Pc → Prop where
  | quiet {pc pc' : Pc} {k : Input} {s' : Shared} (hsame : Same s s')
      (hpc : pc.isCancelling = false) (hpc' : pc'.isAnswer = false) : Moves s pc k s' pc'
  | opens {k : Input} {s' : Shared} (hbindings : s'.bindings = s.bindings)
      (htable : s'.outboundStreams = s.outboundStreams) (hlive : s'.live = s.nextStreamId :: s.live)
      (hnumber : s'.nextStreamId = s.nextStreamId + 1) (hevents : s'.events = s.events) :
      Moves s .opening k s' (.openAnswered (.opened s.nextStreamId))
  | binds {k : Input} {s₁ s' : Shared} {streamId : Nat} {result : Result}
      (hs₁ : s₁ = s.bind streamId) (hsame : Same s₁ s') :
      Moves s (.openAnswered (.opened streamId)) k s' (.finished result)
  | answers {s' : Shared} {streamId : Nat} {use : Use} {answer : Answer} {ends : Bool}
      (hanswer : answer.finishes = false) (hsame : Same s s') :
      Moves s (.acting streamId use) (.answers answer ends) s' (.acted streamId use answer)
  | fails {s₁ s' : Shared} {streamId : Nat} {use : Use} {failure : Failure} {ends : Bool}
      (hs₁ : s₁ = s ∨ s₁ = s.endStream streamId) (hsame : Same s₁ s') :
      Moves s (.acting streamId use) (.answers (.runtime failure) ends) s'
        (.acted streamId use (.runtime failure))
  | terminates {s₁ s' : Shared} {streamId : Nat} {use : Use} {ends : Bool}
      (hlive : streamId ∈ s.live)
      (hs₁ : s₁ = { s.endStream streamId with events := s.events ++ [.terminal streamId] })
      (hsame : Same s₁ s') :
      Moves s (.acting streamId use) (.answers .terminal ends) s' (.acted streamId use .terminal)
  | finishes {k : Input} {s₁ s' : Shared} {streamId : Nat} {use : Use} {answer : Answer}
      {result : Result} (hanswer : answer.finishes = true) (hs₁ : s₁ = s.finish streamId)
      (hsame : Same s₁ s') : Moves s (.acted streamId use answer) k s' (.finished result)
  | cancels {k : Input} {streamId : Nat} (hopen : s.bindings[streamId]? = some false) :
      Moves s (.cancel streamId) k ((s.finish streamId).sendCancel streamId) (.cancelling [streamId])
  | handles {k : Input} {s₁ s' : Shared} {streamId : Nat} {streamIds : List Nat}
      (hs₁ : s₁ = s.endStream streamId) (hsame : Same s₁ s') :
      Moves s (.cancelling streamIds) k s' (.cancelling (streamIds.filter (· != streamId)))
  | stops {k : Input} {s₁ s' : Shared} (hs₁ : s₁ = s.cancelAll) (hsame : Same s₁ s') :
      Moves s .stop k s' (.cancelling s.openStreams)

section

variable {c : Limits} {s s' : Shared} {pc pc' : Pc} {k : Input}

theorem Moves.ends {result : Result} (hsame : Same s s')
    (hpc : pc.isCancelling = false) : Moves s pc k s' (.finished result) :=
  .quiet hsame hpc rfl

theorem moves_onOpenStream (h : onOpenStream c s k = some (s', pc')) :
    Moves s .openStream k s' pc' := by
  rw [onOpenStream.eq_def] at h
  split at h
  · cases h
    exact .ends (.refl s) rfl
  · split at h
    · cases h
      exact .ends (.refl s) rfl
    · cases h
      exact .quiet ⟨rfl, rfl, rfl, rfl, rfl⟩ rfl rfl
  · cases h

theorem moves_bridgeOpen (h : bridgeOpen s k = some (s', pc')) : Moves s .opening k s' pc' := by
  rw [bridgeOpen.eq_def] at h
  split at h
  · cases h
    exact .opens rfl rfl rfl rfl rfl
  · cases h
    exact .quiet (.refl s) rfl rfl
  · cases h
    exact .quiet (.refl s) rfl rfl
  · cases h
    exact .ends ⟨rfl, rfl, rfl, rfl, rfl⟩ rfl
  · cases h

theorem moves_onOpenAnswered {answer : OpenAnswer} (h : onOpenAnswered s answer k = some (s', pc')) :
    Moves s (.openAnswered answer) k s' pc' := by
  rw [onOpenAnswered.eq_def] at h
  split at h
  · cases h
    exact .ends ⟨rfl, rfl, rfl, rfl, rfl⟩ rfl
  · cases answer with
    | opened =>
      cases h
      exact .binds rfl ⟨rfl, rfl, rfl, rfl, rfl⟩
    | domain | runtime =>
      cases h
      exact .ends ⟨rfl, rfl, rfl, rfl, rfl⟩ rfl
  · cases h

variable {streamId : Nat} {use : Use}

theorem moves_onUse (h : onUse c s streamId use = some (s', pc')) :
    Moves s (.use streamId use) k s' pc' := by
  rw [onUse] at h
  split at h
  · cases h
  · cases h
    exact .ends (.refl s) rfl
  · split at h
    · cases h
      exact .ends (.refl s) rfl
    · cases h
      exact .quiet ⟨rfl, rfl, rfl, rfl, rfl⟩ rfl rfl

theorem moves_bridgeAnswer {answer : Answer} {ends : Bool}
    (h : bridgeAnswer s streamId use answer ends = some s') :
    Moves s (.acting streamId use) (.answers answer ends) s' (.acted streamId use answer) := by
  cases answer with
  | runtime =>
    simp only [bridgeAnswer, Option.some.injEq] at h
    rw [← h]
    -- the sequence number goes with a failed receive, whether the stream ends or not
    cases ends with
    | false => exact .fails (.inl rfl) (by cases use <;> exact ⟨rfl, rfl, rfl, rfl, rfl⟩)
    | true => exact .fails (.inr rfl) (by cases use <;> exact ⟨rfl, rfl, rfl, rfl, rfl⟩)
  | accepted | peerHalfClosed =>
    simp only [bridgeAnswer] at h
    split at h
    · cases h
      exact .answers rfl (.refl s)
    · cases h
  | message =>
    simp only [bridgeAnswer] at h
    split at h
    · cases h
      exact .answers rfl ⟨rfl, rfl, rfl, rfl, rfl⟩
    · cases h
  | terminal =>
    simp only [bridgeAnswer] at h
    split at h
    · next hlive =>
        cases h
        exact .terminates hlive.2 rfl ⟨rfl, rfl, rfl, rfl, rfl⟩
    · cases h

theorem moves_bridgeAct (h : bridgeAct s streamId use k = some (s', pc')) :
    Moves s (.acting streamId use) k s' pc' := by
  rw [bridgeAct.eq_def] at h
  split at h
  · obtain ⟨s₁, hs₁, heq⟩ := Option.map_eq_some_iff.mp h
    cases heq
    exact moves_bridgeAnswer hs₁
  · cases h
    exact .ends ⟨rfl, rfl, rfl, rfl, rfl⟩ rfl
  · cases h

theorem moves_onActed {answer : Answer} (h : onActed s streamId answer k = some (s', pc')) :
    Moves s (.acted streamId use answer) k s' pc' := by
  rw [onActed.eq_def] at h
  split at h
  · cases h
    exact .ends ⟨rfl, rfl, rfl, rfl, rfl⟩ rfl
  · cases hanswer : answer.finishes with
    | true =>
      rw [hanswer] at h
      cases h
      exact .finishes hanswer rfl ⟨rfl, rfl, rfl, rfl, rfl⟩
    | false =>
      rw [hanswer] at h
      cases h
      exact .ends ⟨rfl, rfl, rfl, rfl, rfl⟩ rfl
  · cases h

theorem moves_onCancel (h : onCancel s streamId = some (s', pc')) :
    Moves s (.cancel streamId) k s' pc' := by
  rw [onCancel] at h
  split at h
  · cases h
  · cases h
    exact .ends (.refl s) rfl
  · next hopen =>
      cases h
      exact .cancels hopen

theorem moves_bridgeCancel {streamIds : List Nat} (h : bridgeCancel s streamIds k = some (s', pc')) :
    Moves s (.cancelling streamIds) k s' pc' := by
  rw [bridgeCancel.eq_def] at h
  split at h
  · split at h
    · cases h
      exact .handles rfl ⟨rfl, rfl, rfl, rfl, rfl⟩
    · cases h
  · cases h

theorem moves_onStop (h : onStop s k = some (s', pc')) : Moves s .stop k s' pc' := by
  rw [onStop.eq_def] at h
  split at h
  · split at h
    · cases h
      exact .ends (.refl s) rfl
    · cases h
      exact .ends ⟨rfl, rfl, rfl, rfl, rfl⟩ rfl
  · split at h
    · cases h
      exact .ends (.refl s) rfl
    · split at h
      · cases h
        exact .ends ⟨rfl, rfl, rfl, rfl, rfl⟩ rfl
      · cases h
        exact .stops rfl ⟨rfl, rfl, rfl, rfl, rfl⟩
  · cases h

/-- **Every move is one of these.** -/
theorem moves_of_next (h : next c s pc k = some (s', pc')) : Moves s pc k s' pc' := by
  cases pc with
  | openStream => exact moves_onOpenStream h
  | opening => exact moves_bridgeOpen h
  | openAnswered => exact moves_onOpenAnswered h
  | use => exact moves_onUse h
  | acting => exact moves_bridgeAct h
  | acted => exact moves_onActed h
  | cancel => exact moves_onCancel h
  | cancelling => exact moves_bridgeCancel h
  | call =>
    simp only [next] at h
    split at h
    · cases h
      exact .ends (.refl s) rfl
    · cases h
      exact .quiet ⟨rfl, rfl, rfl, rfl, rfl⟩ rfl rfl
  | calling =>
    cases h
    exact .ends ⟨rfl, rfl, rfl, rfl, rfl⟩ rfl
  | stop => exact moves_onStop h
  | finished => cases h

end

/-! ## The condition -/

/-- The stream of which the host is about to fail a use. -/
def Pc.fails : Pc → Input → Option Nat
  | .acting streamId _, .answers (.runtime _) _ => some streamId
  | _, _ => none

/-- The host fails a use only of a stream for which it has delivered a Terminal or a cancel has been
sent. -/
def failsOver : Guard Shared Pc Input where
  self s _ pc k := ∀ streamId ∈ pc.fails k, Over s streamId

instance (c : Threads Shared Pc) (a : Act Pc Input) :
    Decidable (failsOver.Allows c a) := Guard.decidable c a

/-! ## The invariant -/

/-- A cancel for the stream has been sent and not been handled. -/
def CancelOnWay (pool : ExtTreeMap Nat Pc) (streamId : Nat) : Prop :=
  ∃ (t : Nat) (streamIds : List Nat), pool[t]? = some (.cancelling streamIds) ∧ streamId ∈ streamIds

/-- The table holds the open bindings; a closed one is over, and what is over is not alive or has its
cancel on the way. -/
structure Tended (x : Threads Shared Pc) : Prop where
  table : ∀ id, id ∈ x.shared.outboundStreams ↔ x.shared.bindings[id]? = some false
  dropped : ∀ id, x.shared.bindings[id]? = some true → Over x.shared id
  answered : ∀ (t id : Nat) (use : Use) (answer : Answer), x.pool[t]? = some (.acted id use answer) →
    answer.finishes = true → Over x.shared id
  terminal : ∀ id, .terminal id ∈ x.shared.events → id ∉ x.shared.live
  cancelled : ∀ id, .cancelSent id ∈ x.shared.events → id ∈ x.shared.live → CancelOnWay x.pool id
  live_lt : ∀ id ∈ x.shared.live, id < x.shared.nextStreamId
  over_lt : ∀ id, Over x.shared id → id < x.shared.nextStreamId
  bound_lt : ∀ id ∈ x.shared.bindings, id < x.shared.nextStreamId
  opened_lt : ∀ t id : Nat, x.pool[t]? = some (.openAnswered (.opened id)) → id < x.shared.nextStreamId

theorem tended_init : Tended init where
  table id := by simp [init, Shared.init]
  dropped id h := by simp [init, Shared.init] at h
  answered t id use answer h := by simp [init] at h
  terminal id h := by cases h
  cancelled id h := by cases h
  live_lt id h := by cases h
  over_lt id h := by rcases h with h | h <;> cases h
  bound_lt id h := by simp [init, Shared.init] at h
  opened_lt t id h := by simp [init] at h

section

variable {s s' : Shared} {pool : ExtTreeMap Nat Pc} {t id : Nat} {pc pc' : Pc}

theorem over_of_events {es : List Event} (hevents : s'.events = s.events ++ es) (h : Over s id) :
    Over s' id := by
  rw [Over, hevents]
  exact h.imp (List.mem_append_left _) (List.mem_append_left _)

theorem Tended.same (h : Tended ⟨s, pool⟩) (hsame : Same s s') : Tended ⟨s', pool⟩ := by
  have hover : ∀ id, Over s' id ↔ Over s id := fun id => by rw [Over, Over, hsame.events]
  constructor
  · simp only [hsame.table, hsame.bindings]
    exact h.table
  · simp only [hsame.bindings, hover]
    exact h.dropped
  · simp only [hover]
    exact h.answered
  · simp only [hsame.events, hsame.live]
    exact h.terminal
  · simp only [hsame.events, hsame.live]
    exact h.cancelled
  · simp only [hsame.live, hsame.number]
    exact h.live_lt
  · simp only [hover, hsame.number]
    exact h.over_lt
  · simp only [hsame.bindings, hsame.number]
    exact h.bound_lt
  · simp only [hsame.number]
    exact h.opened_lt

/-- A thread goes to another place; cancels on the way stay so. -/
theorem Tended.place (h : Tended ⟨s, pool⟩)
    (hpc : ∀ streamIds, pool[t]? = some (.cancelling streamIds) →
      ∀ id ∈ streamIds, id ∈ s.live → ∃ streamIds', pc' = .cancelling streamIds' ∧ id ∈ streamIds')
    (hanswered : ∀ id use answer, pc' = .acted id use answer → answer.finishes = true → Over s id)
    (hopened : ∀ id, pc' = .openAnswered (.opened id) → id < s.nextStreamId) :
    Tended ⟨s, pool.insert t pc'⟩ := by
  refine { h with answered := ?_, cancelled := ?_, opened_lt := ?_ }
  · grind [getElem?_insert_nat, h.answered]
  · intro id hsent hlive
    obtain ⟨u, streamIds, hu, hid⟩ := h.cancelled id hsent hlive
    by_cases htu : t = u
    · subst htu
      obtain ⟨streamIds', hpc', hid'⟩ := hpc streamIds hu id hid hlive
      exact ⟨t, streamIds', by rw [getElem?_insert_nat, if_pos rfl, hpc'], hid'⟩
    · exact ⟨u, streamIds, by rw [getElem?_insert_nat, if_neg htu]; exact hu, hid⟩
  · grind [getElem?_insert_nat, h.opened_lt]

/-- The same for a thread that has no cancels on the way and gets no answer. -/
theorem Tended.place_quiet (h : Tended ⟨s, pool⟩) (hpool : pool[t]? = some pc)
    (hpc : pc.isCancelling = false) (hpc' : pc'.isAnswer = false) :
    Tended ⟨s, pool.insert t pc'⟩ := by
  refine h.place (fun streamIds hcancelling => ?_) (fun id use answer heq => ?_) fun id heq => ?_
  · cases hpool.symm.trans hcancelling
    cases hpc
  · subst heq
    cases hpc'
  · subst heq
    cases hpc'

theorem Tended.endStream (h : Tended ⟨s, pool⟩) (id : Nat) : Tended ⟨s.endStream id, pool⟩ := by
  have hlive : ∀ id', id' ∈ (s.endStream id).live → id' ∈ s.live := fun _ hid' =>
    List.mem_of_mem_filter hid'
  exact { h with
    terminal := fun id' hterminal hid' => h.terminal id' hterminal (hlive id' hid')
    cancelled := fun id' hsent hid' => h.cancelled id' hsent (hlive id' hid')
    live_lt := fun id' hid' => h.live_lt id' (hlive id' hid') }

/-- The host opens a stream, with a number that nothing has been said about. -/
theorem Tended.opens (h : Tended ⟨s, pool⟩) (hbindings : s'.bindings = s.bindings)
    (htable : s'.outboundStreams = s.outboundStreams) (hlive : s'.live = s.nextStreamId :: s.live)
    (hnumber : s'.nextStreamId = s.nextStreamId + 1) (hevents : s'.events = s.events) :
    Tended ⟨s', pool⟩ := by
  have hover : ∀ id, Over s' id ↔ Over s id := fun id => by rw [Over, Over, hevents]
  have hnew : ¬ Over s s.nextStreamId := fun hsaid => Nat.lt_irrefl _ (h.over_lt _ hsaid)
  have hlt : ∀ id, id < s.nextStreamId → id < s'.nextStreamId := fun id hid => by omega
  constructor
  · simp only [htable, hbindings]
    exact h.table
  · simp only [hbindings, hover]
    exact h.dropped
  · simp only [hover]
    exact h.answered
  · intro id hterminal hid
    simp only [hevents] at hterminal
    simp only [hlive] at hid
    rcases List.mem_cons.mp hid with rfl | hid
    · exact hnew (.inl hterminal)
    · exact h.terminal id hterminal hid
  · intro id hsent hid
    simp only [hevents] at hsent
    simp only [hlive] at hid
    rcases List.mem_cons.mp hid with rfl | hid
    · exact absurd (.inr hsent) hnew
    · exact h.cancelled id hsent hid
  · intro id hid
    simp only [hlive] at hid
    rcases List.mem_cons.mp hid with rfl | hid
    · simp only [hnumber]
      omega
    · exact hlt id (h.live_lt id hid)
  · exact fun id hid => hlt id (h.over_lt id ((hover id).mp hid))
  · simp only [hbindings]
    exact fun id hid => hlt id (h.bound_lt id hid)
  · exact fun u id hu => hlt id (h.opened_lt u id hu)

theorem Tended.bind (h : Tended ⟨s, pool⟩) (hid : id < s.nextStreamId) :
    Tended ⟨s.bind id, pool⟩ := by
  have hbindings : ∀ id' : Nat, (s.bind id).bindings[id']? =
      if id = id' then some false else s.bindings[id']? := fun id' => getElem?_insert_nat ..
  have htable : ∀ id', id' ∈ (s.bind id).outboundStreams ↔ id' = id ∨ id' ∈ s.outboundStreams := by
    intro id'
    simp only [Shared.bind]
    split
    · grind
    · rw [List.mem_append, List.mem_singleton, or_comm]
  refine { h with table := fun id' => ?_, dropped := fun id' hclosed => ?_, bound_lt := fun id' hid' => ?_ }
  · show id' ∈ (s.bind id).outboundStreams ↔ (s.bind id).bindings[id']? = some false
    rw [htable, hbindings]
    by_cases heq : id = id'
    · simp [heq]
    · rw [if_neg heq, or_iff_right (Ne.symm heq)]
      exact h.table id'
  · change (s.bind id).bindings[id']? = some true at hclosed
    rw [hbindings] at hclosed
    split at hclosed
    · cases hclosed
    · exact h.dropped id' hclosed
  · have hmem : id' ∈ s.bindings.insert id false := hid'
    rw [mem_insert_nat] at hmem
    rcases hmem with rfl | hmem
    · exact hid
    · exact h.bound_lt id' hmem

theorem Tended.finish (h : Tended ⟨s, pool⟩) (hover : Over s id) : Tended ⟨s.finish id, pool⟩ := by
  have hbindings : ∀ id' : Nat, (s.finish id).bindings[id']? =
      if id = id' then s.bindings[id]?.map fun _ => true else s.bindings[id']? :=
    fun id' => getElem?_modify_nat ..
  refine { h with table := fun id' => ?_, dropped := fun id' hclosed => ?_, bound_lt := fun id' hid' => ?_ }
  · show id' ∈ s.outboundStreams.filter (· != id) ↔ (s.finish id).bindings[id']? = some false
    rw [hbindings, List.mem_filter, bne_iff_ne]
    by_cases heq : id = id'
    · simp [heq]
    · rw [if_neg heq, and_iff_left (Ne.symm heq)]
      exact h.table id'
  · change (s.finish id).bindings[id']? = some true at hclosed
    rw [hbindings] at hclosed
    split at hclosed
    · next heq => exact heq ▸ hover
    · exact h.dropped id' hclosed
  · have hmem : id' ∈ s.bindings.modify id fun _ => true := hid'
    exact h.bound_lt id' (ExtTreeMap.mem_modify.mp hmem)

theorem Tended.send (h : Tended ⟨s, pool⟩) {ids : List Nat}
    (hbound : ∀ id ∈ ids, id < s.nextStreamId) (hway : ∀ id ∈ ids, CancelOnWay pool id) :
    Tended ⟨{ s with events := s.events ++ ids.map .cancelSent }, pool⟩ := by
  have hkept : ∀ id, Over s id → Over { s with events := s.events ++ ids.map .cancelSent } id :=
    fun id => over_of_events rfl
  have hsent : ∀ id, .cancelSent id ∈ s.events ++ ids.map Event.cancelSent →
      .cancelSent id ∈ s.events ∨ id ∈ ids := by grind
  have hterminal : ∀ id, .terminal id ∈ s.events ++ ids.map Event.cancelSent →
      .terminal id ∈ s.events := by grind
  refine { h with
    dropped := fun id hclosed => hkept id (h.dropped id hclosed)
    answered := fun u id use answer hu hfinishes => hkept id (h.answered u id use answer hu hfinishes)
    terminal := fun id hmem => h.terminal id (hterminal id hmem)
    cancelled := fun id hmem hlive => ?_
    over_lt := fun id hover => ?_ }
  · grind [h.cancelled]
  · rcases hover with hmem | hmem
    · exact h.over_lt id (.inl (hterminal id hmem))
    · rcases hsent id hmem with hmem | hid
      · exact h.over_lt id (.inr hmem)
      · exact hbound id hid

theorem Tended.terminates (h : Tended ⟨s, pool⟩) (hlive : id ∈ s.live) :
    Tended ⟨{ s.endStream id with events := s.events ++ [.terminal id] }, pool⟩ := by
  have hended := h.endStream id
  have hkept : ∀ id', Over s id' → Over { s.endStream id with events := s.events ++ [.terminal id] } id' :=
    fun id' => over_of_events rfl
  refine { hended with
    dropped := fun id' hclosed => hkept id' (h.dropped id' hclosed)
    answered := fun u id' use answer hu hfinishes => hkept id' (h.answered u id' use answer hu hfinishes)
    terminal := fun id' hmem => ?_
    cancelled := fun id' hmem hid' => ?_
    over_lt := fun id' hover => ?_ }
  · grind [Shared.endStream, Tended.endStream, hended.terminal]
  · rcases List.mem_append.mp hmem with hmem | hmem
    · exact hended.cancelled id' hmem hid'
    · cases List.mem_singleton.mp hmem
  · rcases hover with hmem | hmem
    · rcases List.mem_append.mp hmem with hmem | hmem
      · exact h.over_lt id' (.inl hmem)
      · cases List.mem_singleton.mp hmem
        exact h.live_lt id hlive
    · rcases List.mem_append.mp hmem with hmem | hmem
      · exact h.over_lt id' (.inr hmem)
      · cases List.mem_singleton.mp hmem

theorem Tended.clear (h : Tended ⟨s, pool⟩) (hover : ∀ id ∈ s.outboundStreams, Over s id) :
    Tended ⟨{ s with
      bindings := s.bindings.map fun streamId closed => closed || s.outboundStreams.contains streamId
      outboundStreams := [] }, pool⟩ := by
  refine { h with table := fun id => ?_, dropped := fun id hclosed => ?_, bound_lt := fun id hid => ?_ }
  · grind [h.table]
  · rw [ExtTreeMap.getElem?_map, Option.map_eq_some_iff] at hclosed
    obtain ⟨closed, hbinding, htrue⟩ := hclosed
    rw [Bool.or_eq_true_iff] at htrue
    rcases htrue with rfl | hmem
    · exact h.dropped id hbinding
    · exact hover id (by simpa using hmem)
  · exact h.bound_lt id (ExtTreeMap.mem_map.mp hid)

/-- `cancel` of an open binding, with its cancel on the way. -/
theorem Tended.cancel (h : Tended ⟨s, pool⟩) (hopen : s.bindings[id]? = some false)
    (hway : CancelOnWay pool id) : Tended ⟨(s.finish id).sendCancel id, pool⟩ := by
  have hbound : id < s.nextStreamId := h.bound_lt id (mem_of_getElem? hopen)
  have hsent : Tended ⟨s.sendCancel id, pool⟩ :=
    h.send (List.forall_mem_singleton.mpr hbound) (List.forall_mem_singleton.mpr hway)
  exact hsent.finish (.inr (List.mem_append_right _ (List.mem_singleton_self _)))

/-- The loop of `#stop`, with its cancels on the way. -/
theorem Tended.cancelAll (h : Tended ⟨s, pool⟩) (hway : ∀ id ∈ s.openStreams, CancelOnWay pool id) :
    Tended ⟨s.cancelAll, pool⟩ := by
  have hopen : ∀ id ∈ s.outboundStreams, s.bindings[id]? = some false := fun id => (h.table id).mp
  have hbound : ∀ id ∈ s.openStreams, id < s.nextStreamId := fun id hid =>
    h.bound_lt id (mem_of_getElem? (hopen id (List.mem_of_mem_filter hid)))
  refine (h.send hbound hway).clear fun id hid => ?_
  have hid' : id ∈ s.openStreams := List.mem_filter.mpr ⟨hid, beq_iff_eq.mpr (hopen id hid)⟩
  exact .inr (List.mem_append_right _ (List.mem_map_of_mem hid'))

theorem Tended.start (h : Tended ⟨s, pool⟩) (hpc : pc.isEntry = true) (ht : t ∉ pool) :
    Tended ⟨s, pool.insert t pc⟩ := by
  refine h.place (fun streamIds hcancelling => ?_) (fun id use answer heq => ?_) fun id heq => ?_
  · exact absurd (mem_of_getElem? hcancelling) ht
  · subst heq
    cases hpc
  · subst heq
    cases hpc

theorem cancelOnWay_insert {streamIds : List Nat} (hid : id ∈ streamIds) :
    CancelOnWay (pool.insert t (.cancelling streamIds)) id :=
  ⟨t, streamIds, by rw [getElem?_insert_nat, if_pos rfl], hid⟩

theorem Tended.move {k : Input} (h : Tended ⟨s, pool⟩) (hpool : pool[t]? = some pc)
    (hmove : Moves s pc k s' pc') (hfails : ∀ id ∈ pc.fails k, Over s id) :
    Tended ⟨s', pool.insert t pc'⟩ := by
  cases hmove with
  | quiet hsame hpc hpc' => exact (h.place_quiet hpool hpc hpc').same hsame
  | opens hbindings htable hlive hnumber hevents =>
    refine (h.opens hbindings htable hlive hnumber hevents).place ?_ (fun _ _ _ heq => ?_) fun id heq => ?_
    · grind
    · cases heq
    · grind
  | binds hs₁ hsame =>
    have hid := h.opened_lt _ _ hpool
    subst hs₁
    exact ((h.bind hid).place_quiet hpool rfl rfl).same hsame
  | answers hanswer hsame =>
    refine (h.place ?_ (fun _ _ _ heq hfinishes => ?_) fun _ heq => ?_).same hsame
    · grind
    · grind
    · cases heq
  | @fails s₁ _ streamId _ _ _ hs₁ hsame =>
    have hover : Over s streamId := hfails streamId rfl
    have hkept : Tended ⟨s₁, pool⟩ ∧ Over s₁ streamId := by
      rcases hs₁ with rfl | rfl
      · exact ⟨h, hover⟩
      · exact ⟨h.endStream streamId, hover⟩
    refine (hkept.1.place ?_ (fun _ _ _ heq _ => ?_) fun _ heq => ?_).same hsame
    · grind
    · cases heq
      exact hkept.2
    · cases heq
  | terminates hlive hs₁ hsame =>
    subst hs₁
    refine ((h.terminates hlive).place ?_ (fun _ _ _ heq _ => ?_) fun _ heq => ?_).same hsame
    · grind
    · cases heq
      exact .inl (List.mem_append_right _ (List.mem_singleton_self _))
    · cases heq
  | finishes hanswer hs₁ hsame =>
    have hover := h.answered _ _ _ _ hpool hanswer
    subst hs₁
    exact ((h.finish hover).place_quiet hpool rfl rfl).same hsame
  | cancels hopen =>
    exact (h.place_quiet hpool rfl rfl).cancel hopen (cancelOnWay_insert (List.mem_singleton_self _))
  | @handles _ s₁ _ streamId streamIds hs₁ hsame =>
    subst hs₁
    refine ((h.endStream streamId).place ?_ (fun _ _ _ heq => ?_) fun _ heq => ?_).same hsame
    · -- the handled one is no longer alive, the others are still on the way
      intro streamIds' hcancelling id hid hlive
      cases hpool.symm.trans hcancelling
      have hne : (id != streamId) = true := (List.mem_filter.mp hlive).2
      exact ⟨_, rfl, List.mem_filter.mpr ⟨hid, hne⟩⟩
    · cases heq
    · cases heq
  | stops hs₁ hsame =>
    subst hs₁
    exact ((h.place_quiet hpool rfl rfl).cancelAll fun _ => cancelOnWay_insert).same hsame

theorem Tended.step {c : Limits} {x x' : Threads Shared Pc} {a : Act Pc Input} (h : Tended x)
    (hfails : failsOver.Allows x a) (hstep : (program c).step x a = some x') : Tended x' := by
  rcases (program c).step_cases hstep with ⟨t, pc, rfl, hentry, ht, rfl⟩ |
    ⟨t, k, child, pc, m, rfl, hpc, hm, hshared, hpool⟩
  · exact h.start hentry ht
  · obtain ⟨hnext, hchild⟩ := moved_of_map hm
    rcases hpool with ⟨-, hpool⟩ | ⟨pc', hsome, -, -⟩
    · obtain ⟨s', pool'⟩ := x'
      cases hshared
      cases hpool
      exact h.move hpc (moves_of_next hnext) (hfails pc hpc).1
    · rw [hchild] at hsome
      cases hsome

theorem tended_of_run {c : Limits} {acts : List (Act Pc Input)} {x : Threads Shared Pc}
    (hfails : Meets (program c).step failsOver.Allows init acts)
    (hx : run (program c).step init acts = some x) : Tended x :=
  run_invariant_of_meets (fun _ _ _ h hfails hstep => h.step hfails hstep) tended_init hfails hx

end

/-- **If the host fails a use only of a stream that it has ended with a Terminal or that has been
cancelled, then the child's table holds the bindings that are not closed; of every closed one the host
has delivered a Terminal or been sent a cancel; and a stream of a binding that is alive on the host is in
the table or has its cancel on the way.** -/
theorem dropped_streams_are_over (c : Limits) (acts : List (Act Pc Input)) (x : Threads Shared Pc)
    (hfails : Meets (program c).step failsOver.Allows init acts)
    (hx : run (program c).step init acts = some x) (id : Nat) (closed : Bool)
    (hbinding : x.shared.bindings[id]? = some closed) :
    (closed = true ↔ id ∉ x.shared.outboundStreams) ∧
      (closed = true → .terminal id ∈ x.shared.events ∨ .cancelSent id ∈ x.shared.events) ∧
      (id ∈ x.shared.live → id ∈ x.shared.outboundStreams ∨ CancelOnWay x.pool id) := by
  have h := tended_of_run hfails hx
  have hdropped : closed = true → Over x.shared id := fun hclosed => h.dropped id (hclosed ▸ hbinding)
  refine ⟨?_, hdropped, fun hlive => ?_⟩
  · rw [h.table, hbinding]
    cases closed <;> simp
  · cases closed with
    | false => exact .inl ((h.table id).mpr hbinding)
    | true =>
      rcases hdropped rfl with hterminal | hsent
      · exact absurd hlive (h.terminal id hterminal)
      · exact .inr (h.cancelled id hsent hlive)

/-- Stream 0 ends with a Terminal, stream 1 is cancelled and a send on it then fails, and stream 2 is
left to `stop`. -/
def sampleTended : List (Act Pc Input) :=
  [.start 0 .openStream, .move 0 .go 99, .move 0 .opens 99, .move 0 .go 99,
    .start 1 .openStream, .move 1 .go 99, .move 1 .opens 99, .move 1 .go 99,
    .start 2 .openStream, .move 2 .go 99, .move 2 .opens 99, .move 2 .go 99,
    .start 3 (.use 0 .receive), .move 3 .go 99, .move 3 (.answers .terminal false) 99, .move 3 .go 99,
    .start 4 (.use 1 .send), .move 4 .go 99,
    .start 5 (.cancel 1), .move 5 .go 99, .move 5 (.cancels 1) 99,
    .move 4 (.answers (.runtime .cancelled) false) 99, .move 4 .go 99,
    .start 6 .stop, .move 6 .go 99]

def sampleLimits : Limits := ⟨4, 4⟩

/-- Stream 2 is alive, and its cancel is on the way. -/
theorem dropped_streams_are_over_sample :
    ∃ x, run (program sampleLimits).step init sampleTended = some x ∧ 2 ∈ x.shared.live ∧
      2 ∉ x.shared.outboundStreams ∧
      (.terminal 2 ∈ x.shared.events ∨ .cancelSent 2 ∈ x.shared.events) ∧
      (2 ∈ x.shared.outboundStreams ∨ CancelOnWay x.pool 2) := by
  refine exists_run (by decide +kernel) ?_
  obtain ⟨htable, hover, hway⟩ := dropped_streams_are_over sampleLimits sampleTended _
    (by decide +kernel) (run_get (by decide +kernel)) 2 true (by decide +kernel)
  exact ⟨by decide +kernel, htable.mp rfl, hover rfl, hway (by decide +kernel)⟩

/-- A send fails with ResourceExhausted, which does not end the stream; the plugin then cancels. -/
def sampleDropped : List (Act Pc Input) :=
  [.start 0 .openStream, .move 0 .go 99, .move 0 .opens 99, .move 0 .go 99,
    .start 1 (.use 0 .send), .move 1 .go 99, .move 1 (.answers (.runtime .resourceExhausted) false) 99,
    .move 1 .go 99, .start 2 (.cancel 0), .move 2 .go 99]

/-- **A stream is closed and out of the table, every use of it has come to its end, the last a cancel,
and it is alive on the host with neither a Terminal nor a cancel.** -/
theorem exhausted_send_drops_live_stream :
    ∃ x, run (program sampleLimits).step init sampleDropped = some x ∧
      x.shared.bindings[0]? = some true ∧ 0 ∉ x.shared.outboundStreams ∧ 0 ∈ x.shared.live ∧
      x.shared.events = [] ∧
      x.pool.toList.map Prod.snd = [.finished (.opened 0),
        .finished (.answered (.runtime .resourceExhausted)), .finished .done] := by
  exact exists_run (by decide +kernel) (by decide +kernel)

end LensoBun.AuthoringV2.Outbound
