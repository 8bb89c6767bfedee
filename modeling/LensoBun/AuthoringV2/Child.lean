import LensoBun.AuthoringV2.Host
import LensoBun.Lib.Threads

set_option autoImplicit false

/-! # The Authoring V2 child

`BunAuthoringServer` of `v2.ts` once its session is initialised. Every RPC the host makes, and every
outbound interaction the plugin makes, is a thread; what runs between two awaits is one step. The
plugin's own code decides what a handler returns, whether it throws (at once or later) and which
context it passes to an outbound call; the host decides which messages arrive. Both come from
outside, as `Input` and as the threads that start.

A context, its controller and its entry in `#contexts` are known by the number of the thread that
has made them. Ids are numbers, as in the model of the host. Texts of errors come as `boundedError`
leaves them. A proof is always made, and a message is sent when `fetch` is called.

`events` is not part of the source: it records the handlers started, the settlements sent, the
answers given and the messages handed to streams, in order.
-/

namespace LensoBun.AuthoringV2.Child

open Std Lib

variable {V : Type}

/-! ## State -/

structure Limits where
  maxActiveInvocations : Nat
  maxRetiredIds : Nat
  maxUnfinishedExecutions : Nat
  maxQueuedCalls : Nat
  maxActiveOutboundCalls : Nat
  deriving DecidableEq, Repr

/-- What is read of `InvokeParams`, `EventPublishParams` and `StreamOpenParams`. -/
structure Params where
  correlationId : Nat
  scopeId : Nat
  endpointId : Nat
  capabilityId : String
  operation : String
  deriving DecidableEq, Repr

/-- An entry of `#active`: the thread that runs the handler, and the scope of its params. -/
structure Active where
  thread : Nat
  scopeId : Nat
  deriving DecidableEq, Repr

/-- The optional handlers of a `CapabilityProviderBinding`. -/
structure Binding where
  publishesEvents : Bool
  opensStreams : Bool
  deriving DecidableEq, Repr

inductive Event where
  | started (thread correlationId : Nat)
  | settled (thread : Nat) (settlement : Nat × Nat) (state : SettlementState)
  | answered (thread correlationId : Nat)
  | handed (thread streamId sequence : Nat)
  deriving DecidableEq, Repr

structure Shared where
  limits : Limits
  /-- What `bindProviders` binds, and `#providers`. -/
  declared : ExtTreeMap Nat Binding
  providers : ExtTreeMap Nat Binding
  /-- `#instance` is there. -/
  constructed : Bool
  constructionAttempted : Bool
  stopAttempted : Bool
  active : ExtTreeMap Nat Active
  retired : ExtTreeMap Nat Unit
  /-- `#contexts`, with the request id a context shows. -/
  contexts : ExtTreeMap Nat Nat
  /-- The contexts whose controller has been aborted. -/
  aborted : ExtTreeMap Nat Unit
  /-- `#streams`, with the context a stream was opened under. -/
  streams : ExtTreeMap Nat Nat
  /-- The counters of the streams. They outlive the entry, since a send or a receive under way holds
  on to its stream. -/
  nextSendSequence : Nat → Nat
  nextReceiveSequence : Nat → Nat
  nextStreamId : Nat
  outboundStreams : ExtTreeMap Nat Unit
  activeOutboundCalls : Nat
  activeEventPublications : Nat
  events : List Event

/-! ## Outcomes -/

/-- `RuntimeFailure` of the contract runtime, as `normalizeRuntimeFailure` tells it apart. -/
inductive ProviderFailure where
  | cancelled
  | deadlineExceeded
  | resourceExhausted
  | unknownOperation
  | protocolViolation
  | admissionClosed
  | other (detail : String)
  deriving DecidableEq, Repr

inductive ProviderOutcome (V : Type) where
  | success (value : V)
  | domain (value : V)
  | runtime (failure : ProviderFailure)
  deriving DecidableEq, Repr

inductive ProviderOpen (V : Type) where
  | opened
  | domain (value : V)
  | runtime (failure : ProviderFailure)
  deriving DecidableEq, Repr

inductive ProviderAction where
  | accepted
  | runtime (failure : ProviderFailure)
  deriving DecidableEq, Repr

inductive ProviderItem (V : Type) where
  | message (value : V)
  | peerHalfClosed
  | terminalSuccess
  | terminalDomain (value : V)
  | runtime (failure : ProviderFailure)
  deriving DecidableEq, Repr

inductive Answer (V : Type) where
  | constructed
  | failed (detail : String)
  | success (value : V)
  | domain (error : V)
  | opened (streamId : Nat)
  | accepted
  | message (sequence : Nat) (value : V)
  | peerHalfClosed
  | terminalSuccess
  | terminalDomain (error : V)
  | runtime (failure : AuthoringFailure)
  | cancelAck (accepted : Bool)
  | stopped (hook : String)
  deriving DecidableEq, Repr

/-- How a call ends: it returns, it throws, or it throws because the host has refused the settlement
of what it would have returned. -/
inductive Ending (V : Type) where
  | answered (answer : Answer V)
  | threw (error : String)
  | unsettled (answer : Answer V) (error : String)
  deriving DecidableEq, Repr

/-- `normalizeRuntimeFailure`. -/
def normalizeRuntimeFailure (p : Params) : ProviderFailure → AuthoringFailure
  | .cancelled => .cancelled (toString p.correlationId)
  | .deadlineExceeded => .deadlineExceeded (toString p.correlationId)
  | .resourceExhausted => .resourceExhausted p.capabilityId p.operation
  | .unknownOperation => .unknownOperation p.capabilityId p.operation
  | .protocolViolation => .protocolViolation p.capabilityId
  | .admissionClosed => .admissionClosed
  | .other detail => .pluginFailure detail

/-- The params `wireFailure` falls back to in the stream actions. -/
def streamParams : Params := ⟨0, 0, 0, "lenso.bun-authoring", "stream"⟩

/-- `toWireOutcome`. -/
def toWireOutcome (p : Params) : ProviderOutcome V → Answer V
  | .success value => .success value
  | .domain value => .domain value
  | .runtime failure => .runtime (normalizeRuntimeFailure p failure)

def ProviderAction.answer (p : Params) : ProviderAction → Answer V
  | .accepted => .accepted
  | .runtime failure => .runtime (normalizeRuntimeFailure p failure)

/-- The answer to an action on a stream that is not there. -/
def unknownStream : Answer V := .runtime (.protocolViolation "lenso.bun-authoring")

/-! ## Threads -/

/-- The calls that are admitted through `#active`. -/
inductive Work where
  | invoke
  | openStream
  deriving DecidableEq, Repr

inductive Interaction where
  | call
  | stream
  | event
  deriving DecidableEq, Repr

/-- What the plugin passes to a bound client, with the capability of the client's route. -/
structure Outbound where
  kind : Interaction
  context : Nat
  capabilityId : String
  operation : String
  deriving DecidableEq, Repr

/-- What a thread executes. Of an event publish it matters whether the provider has been called. -/
inductive Method where
  | construct
  | work (work : Work)
  | publishEvent (called : Bool)
  | sendStream
  | receiveStream
  | closeStreamSend
  | cancelStream
  | cancel
  | stop
  | outbound (kind : Interaction)
  | outboundAction
  deriving DecidableEq, Repr

inductive Input (V : Type) where
  | go
  | invalid (error : String)
  /-- The plugin's code throws, at the call or when it is awaited. -/
  | throws (error : String)
  /-- `cancel` of a stream throws when `stop` has come past `cancelled` others. -/
  | cancelThrows (cancelled : Nat) (error : String)
  | created
  | invoked (outcome : ProviderOutcome V)
  | opened (outcome : ProviderOpen V)
  | acted (outcome : ProviderAction)
  | received (item : ProviderItem V)
  /-- A `stop` hook is declared and called. -/
  | hook
  /-- The host's answer to a settlement: its error, if there is one. -/
  | callback (error : Option String)
  /-- An outbound interaction ends, with the stream it has opened or finished. -/
  | outbound (ending : Ending V) (stream : Option Nat)

inductive Pc (V : Type) where
  | construct (scopeId : Nat)
  | creating
  | begin (work : Work) (params : Params)
  | running (work : Work) (params : Params)
  /-- `#settled`: the proof is made, the message is sent. -/
  | proving (work : Work) (params : Params) (state : SettlementState) (answer : Answer V)
  | settling (work : Work) (params : Params) (answer : Answer V)
  | publishEvent (params : Params)
  | publishing (params : Params)
  | sendStream (streamId sequence : Nat)
  | sending (streamId : Nat)
  | receiveStream (streamId : Nat)
  | receiving (streamId context : Nat)
  | closeStreamSend (streamId : Nat)
  | closing
  | cancelStream (streamId : Nat)
  | cancel (correlationId scopeId : Nat)
  | stop (scopeId : Nat)
  | stopping
  | outbound (outbound : Outbound)
  | outboundWaiting (kind : Interaction)
  | outboundAction (streamId : Nat) (capabilityId : String)
  | outboundActing (streamId : Nat)
  | outboundCancel (streamId : Nat)
  | finished (method : Method) (ending : Ending V)
  deriving DecidableEq, Repr

/-! ## Updates -/

def Shared.addContext (s : Shared) (t requestId : Nat) : Shared :=
  { s with contexts := s.contexts.insert t requestId }

def Shared.deleteContext (s : Shared) (t : Nat) : Shared :=
  { s with contexts := s.contexts.erase t }

/-- A call comes into `#active` and `#contexts`. -/
def Shared.activate (s : Shared) (t : Nat) (p : Params) : Shared :=
  { s with
    active := s.active.insert p.correlationId ⟨t, p.scopeId⟩
    contexts := s.contexts.insert t p.correlationId }

def Shared.handlerStarts (s : Shared) (t : Nat) (p : Params) : Shared :=
  { s with events := s.events ++ [.started t p.correlationId] }

/-- The end of a handler: `#active.delete` and `#retired.add`. A stream open that has opened nothing
deletes its context as well; an invocation never does. -/
def Shared.handlerEnds (s : Shared) (t : Nat) (work : Work) (p : Params) : Shared :=
  { s with
    active := s.active.erase p.correlationId
    retired := s.retired.insert p.correlationId ()
    contexts := if work = .openStream then s.contexts.erase t else s.contexts }

/-- The end of a handler that has opened a stream, which keeps the context. -/
def Shared.streamOpens (s : Shared) (t : Nat) (p : Params) : Shared :=
  { s with
    active := s.active.erase p.correlationId
    retired := s.retired.insert p.correlationId ()
    streams := s.streams.insert s.nextStreamId t
    nextStreamId := s.nextStreamId + 1 }

def Shared.deleteStream (s : Shared) (streamId context : Nat) : Shared :=
  { s with streams := s.streams.erase streamId, contexts := s.contexts.erase context }

/-- The state a handler settles with when it has returned. -/
def Shared.returnedState (s : Shared) (t : Nat) : SettlementState :=
  if s.aborted[t]?.isSome then .cancelled else .completed

/-! ## Construct -/

def Shared.attemptConstruction (s : Shared) : Shared := { s with constructionAttempted := true }

def Shared.construct (s : Shared) : Shared :=
  { s with constructed := true, providers := s.declared }

/-- `#construct`: without a factory there is nothing to wait for. -/
def construct (s : Shared) (t scopeId : Nat) : Input V → Option (Shared × Pc V)
  | .invalid error => some (s, .finished .construct (.threw error))
  | k =>
    if s.constructionAttempted then
      some (s, .finished .construct (.threw "Bun Plugin constructed more than once"))
    else
      let s := s.attemptConstruction.addContext t scopeId
      match k with
      | .throws error =>
        some (s.deleteContext t, .finished .construct (.answered (.failed error)))
      | .created =>
        some (s.construct.deleteContext t, .finished .construct (.answered .constructed))
      | .go => some (s, .creating)
      | _ => none

def creating (s : Shared) (t : Nat) : Input V → Option (Shared × Pc V)
  | .throws error => some (s.deleteContext t, .finished .construct (.answered (.failed error)))
  | .created =>
    some (s.construct.deleteContext t, .finished .construct (.answered .constructed))
  | _ => none

/-! ## Invoke and stream open -/

/-- What becomes of a call before its handler is looked up. -/
inductive Admission where
  | threw (error : String)
  | exhausted
  | admitted
  deriving DecidableEq, Repr

def Shared.used (s : Shared) (correlationId : Nat) : Bool :=
  s.active[correlationId]?.isSome || s.retired[correlationId]?.isSome

/-- The checks of `#invoke`. -/
def Shared.admitInvoke (s : Shared) (p : Params) : Admission :=
  if s.constructed = false then .threw "Bun Plugin invoked before construction"
  else if s.used p.correlationId then .threw "Bun Plugin reused a correlation id"
  else if s.limits.maxRetiredIds ≤ s.retired.size then
    .threw "Bun Plugin retired identity limit exhausted"
  else if s.limits.maxActiveInvocations ≤ s.active.size then .exhausted
  else .admitted

/-- The checks of `#openStream`: all three limits give the same answer. -/
def Shared.admitOpen (s : Shared) (p : Params) : Admission :=
  if s.constructed = false then .threw "Bun Plugin streamed to before construction"
  else if s.used p.correlationId then .threw "Bun Plugin reused a correlation id"
  else if s.limits.maxRetiredIds ≤ s.retired.size ∨
      s.limits.maxActiveInvocations ≤ s.active.size ∨
      s.limits.maxUnfinishedExecutions ≤ s.streams.size then .exhausted
  else .admitted

def Shared.admission (s : Shared) (p : Params) : Work → Admission
  | .invoke => s.admitInvoke p
  | .openStream => s.admitOpen p

def Shared.missingHandler (s : Shared) (p : Params) (work : Work) : Option String :=
  match s.providers[p.endpointId]?, work with
  | none, _ => some "unknown admitted endpoint"
  | some _, .invoke => none
  | some binding, .openStream =>
    if binding.opensStreams then none else some "Stream operation has no provider binding"

/-- An admitted call comes to its handler, which throws at once or gives a promise. -/
def startHandler (s : Shared) (t : Nat) (work : Work) (p : Params) (k : Input V) :
    Option (Shared × Pc V) :=
  match s.missingHandler p work, k with
  | some error, _ =>
    some ((s.activate t p).handlerEnds t work p,
      .proving work p .abandoned (.runtime (.pluginFailure error)))
  | none, .throws error =>
    some (((s.activate t p).handlerStarts t p).handlerEnds t work p,
      .proving work p .abandoned (.runtime (.pluginFailure error)))
  | none, .go => some ((s.activate t p).handlerStarts t p, .running work p)
  | none, _ => none

def admitWork (s : Shared) (t : Nat) (work : Work) (p : Params) (k : Input V) :
    Option (Shared × Pc V) :=
  match s.admission p work with
  | .threw error => some (s, .finished (.work work) (.threw error))
  | .exhausted =>
    some (s, .proving work p .completed
      (.runtime (.resourceExhausted p.capabilityId p.operation)))
  | .admitted => startHandler s t work p k

/-- The first segment of `#invoke` and `#openStream`, up to the provider's promise or, when there is
none, up to the proof of the settlement. -/
def begin (s : Shared) (t : Nat) (work : Work) (p : Params) : Input V → Option (Shared × Pc V)
  | .invalid error => some (s, .finished (.work work) (.threw error))
  | k => admitWork s t work p k

def runInvocation (s : Shared) (t : Nat) (p : Params) : Input V → Option (Shared × Pc V)
  | .invoked outcome =>
    some (s.handlerEnds t .invoke p,
      .proving .invoke p (s.returnedState t) (toWireOutcome p outcome))
  | .throws error =>
    some (s.handlerEnds t .invoke p,
      .proving .invoke p .abandoned (.runtime (.pluginFailure error)))
  | _ => none

/-- The end of the handler of a stream open. A stream that comes after the abort is cancelled, and
`throws` covers that its `cancel` throws. -/
def runOpenStream (s : Shared) (t : Nat) (p : Params) : Input V → Option (Shared × Pc V)
  | .opened .opened =>
    if s.aborted[t]?.isSome then
      some (s.handlerEnds t .openStream p,
        .proving .openStream p .cancelled (.runtime (.cancelled (toString p.correlationId))))
    else
      some (s.streamOpens t p, .proving .openStream p .completed (.opened s.nextStreamId))
  | .opened (.domain value) =>
    some (s.handlerEnds t .openStream p,
      .proving .openStream p (s.returnedState t) (.domain value))
  | .opened (.runtime failure) =>
    some (s.handlerEnds t .openStream p, .proving .openStream p (s.returnedState t)
      (.runtime (normalizeRuntimeFailure p failure)))
  | .throws error =>
    some (s.handlerEnds t .openStream p,
      .proving .openStream p .abandoned (.runtime (.pluginFailure error)))
  | _ => none

/-- `#settled` sends its message. -/
def Shared.settle (s : Shared) (t : Nat) (p : Params) (state : SettlementState) : Shared :=
  { s with events := s.events ++ [.settled t (p.correlationId, p.scopeId) state] }

def Shared.answer (s : Shared) (t : Nat) (p : Params) : Shared :=
  { s with events := s.events ++ [.answered t p.correlationId] }

/-! ## Event publish -/

def Shared.publishStarts (s : Shared) : Shared :=
  { s with activeEventPublications := s.activeEventPublications + 1 }

def Shared.publishEnds (s : Shared) : Shared :=
  { s with activeEventPublications := s.activeEventPublications - 1 }

/-- Why the provider is not called: the two throws and the answer at the limit. -/
def Shared.publishRefusal (s : Shared) (p : Params) : Option (Ending V) :=
  match s.providers[p.endpointId]? with
  | none => some (.threw "unknown admitted endpoint")
  | some binding =>
    if binding.publishesEvents = false then
      some (.threw "Event operation has no provider binding")
    else if s.limits.maxQueuedCalls ≤ s.activeEventPublications then
      some (.answered (.runtime (.resourceExhausted p.capabilityId p.operation)))
    else none

/-- `#publishEvent`: the context is there before anything is looked up. -/
def publishEvent (s : Shared) (t : Nat) (p : Params) : Input V → Option (Shared × Pc V)
  | .invalid error => some (s, .finished (.publishEvent false) (.threw error))
  | k =>
    if s.constructed = false then
      some (s, .finished (.publishEvent false)
        (.threw "Bun Plugin published to before construction"))
    else
      match s.publishRefusal p, k with
      | some ending, _ => some (s.addContext t p.correlationId, .finished (.publishEvent false) ending)
      | none, .throws error =>
        some ((s.addContext t p.correlationId).deleteContext t,
          .finished (.publishEvent true) (.answered (.runtime (.pluginFailure error))))
      | none, .go => some ((s.addContext t p.correlationId).publishStarts, .publishing p)
      | none, _ => none

def publishing (s : Shared) (t : Nat) (p : Params) : Input V → Option (Shared × Pc V)
  | .acted outcome =>
    some (s.publishEnds.deleteContext t,
      .finished (.publishEvent true) (.answered (outcome.answer p)))
  | .throws error =>
    some (s.publishEnds.deleteContext t,
      .finished (.publishEvent true) (.answered (.runtime (.pluginFailure error))))
  | _ => none

/-! ## Stream actions -/

/-- The message is handed to the provider's stream. -/
def Shared.hand (s : Shared) (t streamId sequence : Nat) : Shared :=
  { s with events := s.events ++ [.handed t streamId sequence] }

def Shared.sendAccepted (s : Shared) (streamId : Nat) : Shared :=
  { s with nextSendSequence :=
      Function.update s.nextSendSequence streamId (s.nextSendSequence streamId + 1) }

def Shared.messageReceived (s : Shared) (streamId : Nat) : Shared :=
  { s with nextReceiveSequence :=
      Function.update s.nextReceiveSequence streamId (s.nextReceiveSequence streamId + 1) }

/-- `#sendStream`. -/
def sendStream (s : Shared) (t streamId sequence : Nat) : Input V → Option (Shared × Pc V)
  | .invalid error => some (s, .finished .sendStream (.threw error))
  | k =>
    match s.streams[streamId]? with
    | none => some (s, .finished .sendStream (.answered unknownStream))
    | some _ =>
      if sequence ≠ s.nextSendSequence streamId then
        some (s, .finished .sendStream (.threw "Bun Stream send sequence is not contiguous"))
      else
        match k with
        | .throws error =>
          some (s.hand t streamId sequence, .finished .sendStream (.threw error))
        | .go => some (s.hand t streamId sequence, .sending streamId)
        | _ => none

/-- The counter advances when the stream has accepted the message. -/
def sending (s : Shared) (streamId : Nat) : Input V → Option (Shared × Pc V)
  | .acted .accepted =>
    some (s.sendAccepted streamId, .finished .sendStream (.answered .accepted))
  | .acted (.runtime failure) =>
    some (s, .finished .sendStream
      (.answered (.runtime (normalizeRuntimeFailure streamParams failure))))
  | .throws error => some (s, .finished .sendStream (.threw error))
  | _ => none

/-- `#receiveStream`. -/
def receiveStream (s : Shared) (streamId : Nat) : Input V → Option (Shared × Pc V)
  | .invalid error => some (s, .finished .receiveStream (.threw error))
  | k =>
    match s.streams[streamId]? with
    | none => some (s, .finished .receiveStream (.answered unknownStream))
    | some context =>
      match k with
      | .throws error => some (s, .finished .receiveStream (.threw error))
      | .go => some (s, .receiving streamId context)
      | _ => none

/-- A terminal item ends the stream that was looked up before, whatever has become of it. -/
def receiving (s : Shared) (streamId context : Nat) : Input V → Option (Shared × Pc V)
  | .received (.message value) =>
    some (s.messageReceived streamId,
      .finished .receiveStream (.answered (.message (s.nextReceiveSequence streamId) value)))
  | .received .peerHalfClosed => some (s, .finished .receiveStream (.answered .peerHalfClosed))
  | .received .terminalSuccess =>
    some (s.deleteStream streamId context, .finished .receiveStream (.answered .terminalSuccess))
  | .received (.terminalDomain value) =>
    some (s.deleteStream streamId context,
      .finished .receiveStream (.answered (.terminalDomain value)))
  | .received (.runtime failure) =>
    some (s, .finished .receiveStream
      (.answered (.runtime (normalizeRuntimeFailure streamParams failure))))
  | .throws error => some (s, .finished .receiveStream (.threw error))
  | _ => none

/-- `#closeStreamSend`. -/
def closeStreamSend (s : Shared) (streamId : Nat) : Input V → Option (Shared × Pc V)
  | .invalid error => some (s, .finished .closeStreamSend (.threw error))
  | k =>
    match s.streams[streamId]? with
    | none => some (s, .finished .closeStreamSend (.answered unknownStream))
    | some _ =>
      match k with
      | .throws error => some (s, .finished .closeStreamSend (.threw error))
      | .go => some (s, .closing)
      | _ => none

def closing (s : Shared) : Input V → Option (Shared × Pc V)
  | .acted outcome =>
    some (s, .finished .closeStreamSend (.answered (outcome.answer streamParams)))
  | .throws error => some (s, .finished .closeStreamSend (.threw error))
  | _ => none

/-- `#cancelStream`. -/
def cancelStream (s : Shared) (streamId : Nat) : Input V → Option (Shared × Pc V)
  | .invalid error => some (s, .finished .cancelStream (.threw error))
  | k =>
    match s.streams[streamId]?, k with
    | none, _ => some (s, .finished .cancelStream (.answered .accepted))
    | some _, .throws error => some (s, .finished .cancelStream (.threw error))
    | some context, _ =>
      some (s.deleteStream streamId context, .finished .cancelStream (.answered .accepted))

/-! ## Cancel and stop -/

/-- `#cancel`: a message for the scope of an active call aborts its controller. -/
def cancel (s : Shared) (correlationId scopeId : Nat) : Input V → Option (Shared × Pc V)
  | .invalid error => some (s, .finished .cancel (.threw error))
  | _ =>
    match s.active[correlationId]? with
    | none => some (s, .finished .cancel (.answered (.cancelAck false)))
    | some active =>
      if active.scopeId = scopeId then
        some ({ s with aborted := s.aborted.insert active.thread () },
          .finished .cancel (.answered (.cancelAck true)))
      else some (s, .finished .cancel (.answered (.cancelAck false)))

def Shared.deleteContexts (s : Shared) (contexts : List Nat) : Shared :=
  { s with contexts := contexts.foldl (fun kept context => kept.erase context) s.contexts }

/-- The contexts of the streams, in the order in which `#stop` cancels them. -/
def Shared.streamContexts (s : Shared) : List Nat := s.streams.toList.map Prod.snd

/-- The outbound streams go, then every stream with its context. -/
def Shared.cancelStreams (s : Shared) : Shared :=
  { s with outboundStreams := ∅, streams := ∅ }.deleteContexts s.streamContexts

/-- `#stop` with nothing unfinished. When the `cancel` of a stream throws, the streams stay, and the
contexts of those before it are gone. -/
def stopIdle (s : Shared) (t scopeId : Nat) : Input V → Option (Shared × Pc V)
  | .cancelThrows cancelled error =>
    some ({ s with outboundStreams := ∅ }.deleteContexts (s.streamContexts.take cancelled),
      .finished .stop (.threw error))
  | k =>
    if s.constructed = false then
      some (s.cancelStreams, .finished .stop (.threw "Bun Plugin stopped before construction"))
    else
      match k with
      | .go => some (s.cancelStreams, .finished .stop (.answered (.stopped "not_declared")))
      | .hook => some (s.cancelStreams.addContext t scopeId, .stopping)
      | .throws _ => some ((s.cancelStreams.addContext t scopeId).deleteContext t,
          .finished .stop (.answered (.stopped "failed")))
      | _ => none

/-- `#stop`. -/
def stop (s : Shared) (t scopeId : Nat) : Input V → Option (Shared × Pc V)
  | .invalid error => some (s, .finished .stop (.threw error))
  | k =>
    if s.stopAttempted then
      some (s, .finished .stop (.threw "Bun Plugin stopped more than once"))
    else if 0 < s.active.size ∨ 0 < s.activeOutboundCalls then
      some ({ s with stopAttempted := true },
        .finished .stop (.threw "Bun Plugin stopped with unfinished work"))
    else stopIdle { s with stopAttempted := true } t scopeId k

def stopping (s : Shared) (t : Nat) : Input V → Option (Shared × Pc V)
  | .created => some (s.deleteContext t, .finished .stop (.answered (.stopped "completed")))
  | .throws _ => some (s.deleteContext t, .finished .stop (.answered (.stopped "failed")))
  | _ => none

/-! ## Outbound interactions -/

def Shared.outboundStarts (s : Shared) : Shared :=
  { s with activeOutboundCalls := s.activeOutboundCalls + 1 }

def Shared.outboundEnds (s : Shared) : Shared :=
  { s with activeOutboundCalls := s.activeOutboundCalls - 1 }

/-- The text with which `#boundClient` refuses. -/
def inactiveContext : String := "Host calls require the active invocation context"

/-- The limits of `#outboundCall`, `#outboundEvent` and `#outboundStream`. -/
def Shared.outboundFull (s : Shared) (kind : Interaction) : Bool :=
  decide (s.limits.maxActiveOutboundCalls ≤ s.activeOutboundCalls) ||
    (kind = .stream && decide (s.limits.maxUnfinishedExecutions ≤ s.outboundStreams.size))

/-- At the limit; `#outboundCall` names the operation only. -/
def Outbound.exhausted (o : Outbound) : AuthoringFailure :=
  match o.kind with
  | .call => .resourceExhausted "" o.operation
  | .stream | .event => .resourceExhausted o.capabilityId o.operation

/-- `#boundClient` and the first segment of the interaction. -/
def outbound (s : Shared) (o : Outbound) : Shared × Pc V :=
  match s.contexts[o.context]? with
  | none => (s, .finished (.outbound o.kind) (.threw inactiveContext))
  | some requestId =>
    if s.aborted[o.context]?.isSome then
      (s, .finished (.outbound o.kind) (.answered (.runtime (.cancelled (toString requestId)))))
    else if s.outboundFull o.kind then
      (s, .finished (.outbound o.kind) (.answered (.runtime o.exhausted)))
    else (s.outboundStarts, .outboundWaiting o.kind)

/-- The host's answer; to a stream open it may bring a stream. -/
def outboundWaiting (s : Shared) (kind : Interaction) : Input V → Option (Shared × Pc V)
  | .outbound ending opened =>
    some ({ s.outboundEnds with outboundStreams := match kind, opened with
        | .stream, some streamId => s.outboundStreams.insert streamId ()
        | _, _ => s.outboundStreams },
      .finished (.outbound kind) ending)
  | _ => none

/-- `send`, `receive` and `closeSend` of an outbound stream. -/
def outboundAction (s : Shared) (streamId : Nat) (capabilityId : String) : Shared × Pc V :=
  if s.outboundStreams[streamId]?.isNone then
    (s, .finished .outboundAction (.answered (.runtime (.protocolViolation capabilityId))))
  else if s.limits.maxActiveOutboundCalls ≤ s.activeOutboundCalls then
    (s, .finished .outboundAction (.answered (.runtime (.resourceExhausted capabilityId ""))))
  else (s.outboundStarts, .outboundActing streamId)

/-- The host's answer; it may end the stream. -/
def outboundActing (s : Shared) (streamId : Nat) : Input V → Option (Shared × Pc V)
  | .outbound ending finished =>
    some ({ s.outboundEnds with outboundStreams :=
        if finished.isSome then s.outboundStreams.erase streamId else s.outboundStreams },
      .finished .outboundAction ending)
  | _ => none

/-! ## The program -/

def pcMove (s : Shared) (t : Nat) : Pc V → Input V → Option (Shared × Pc V)
  | .construct scopeId, k => construct s t scopeId k
  | .creating, k => creating s t k
  | .begin work p, k => begin s t work p k
  | .running .invoke p, k => runInvocation s t p k
  | .running .openStream p, k => runOpenStream s t p k
  | .proving work p state answer, _ => some (s.settle t p state, .settling work p answer)
  | .settling work p answer, .callback error =>
    some (s.answer t p, .finished (.work work) (match error with
      | none => .answered answer
      | some error => .unsettled answer error))
  | .publishEvent p, k => publishEvent s t p k
  | .publishing p, k => publishing s t p k
  | .sendStream streamId sequence, k => sendStream s t streamId sequence k
  | .sending streamId, k => sending s streamId k
  | .receiveStream streamId, k => receiveStream s streamId k
  | .receiving streamId context, k => receiving s streamId context k
  | .closeStreamSend streamId, k => closeStreamSend s streamId k
  | .closing, k => closing s k
  | .cancelStream streamId, k => cancelStream s streamId k
  | .cancel correlationId scopeId, k => cancel s correlationId scopeId k
  | .stop scopeId, k => stop s t scopeId k
  | .stopping, k => stopping s t k
  | .outbound o, _ => some (outbound s o)
  | .outboundWaiting kind, k => outboundWaiting s kind k
  | .outboundAction streamId capabilityId, _ => some (outboundAction s streamId capabilityId)
  | .outboundActing streamId, k => outboundActing s streamId k
  | .outboundCancel streamId, _ =>
    some ({ s with outboundStreams := s.outboundStreams.erase streamId },
      .finished .outboundAction (.answered .accepted))
  | _, _ => none

/-- Messages of the host, and what the plugin does with its clients. -/
def Pc.starts : Pc V → Bool
  | .construct _ | .begin _ _ | .publishEvent _ | .sendStream _ _ | .receiveStream _
  | .closeStreamSend _ | .cancelStream _ | .cancel _ _ | .stop _ | .outbound _
  | .outboundAction _ _ | .outboundCancel _ => true
  | _ => false

def program : Program Shared (Pc V) (Input V) :=
  ⟨Pc.starts, fun s t pc k => (pcMove s t pc k).map fun p => ⟨p.1, p.2, none⟩⟩

/-- The session is initialised; nothing has been constructed. -/
def init (limits : Limits) (declared : ExtTreeMap Nat Binding) : Threads Shared (Pc V) :=
  { shared :=
      { limits := limits, declared := declared, providers := ∅, constructed := false
        constructionAttempted := false, stopAttempted := false, active := ∅, retired := ∅
        contexts := ∅, aborted := ∅, streams := ∅, nextSendSequence := fun _ => 0
        nextReceiveSequence := fun _ => 0, nextStreamId := 1, outboundStreams := ∅
        activeOutboundCalls := 0, activeEventPublications := 0, events := [] }
    pool := ∅ }

/-! ## What a step can be -/

/-- The fields that the properties of the child are about are the same. -/
structure Quiet (s s' : Shared) : Prop where
  limits : s'.limits = s.limits
  active : s'.active = s.active
  retired : s'.retired = s.retired
  contexts : s'.contexts = s.contexts
  aborted : s'.aborted = s.aborted
  streams : s'.streams = s.streams
  nextStreamId : s'.nextStreamId = s.nextStreamId
  nextSendSequence : s'.nextSendSequence = s.nextSendSequence
  events : s'.events = s.events

theorem Quiet.refl (s : Shared) : Quiet s s := ⟨rfl, rfl, rfl, rfl, rfl, rfl, rfl, rfl, rfl⟩

def Answer.stream : Answer V → Option Nat
  | .opened streamId => some streamId
  | _ => none

/-- The answer a thread has come to for its `#invoke` or `#openStream`. -/
def Pc.outcome : Pc V → Option (Answer V)
  | .proving _ _ _ answer | .settling _ _ answer => some answer
  | .finished (.work _) (.answered answer) | .finished (.work _) (.unsettled answer _) => some answer
  | _ => none

/-- The thread has a context of its own in hand. -/
def Pc.enters : Pc V → Bool
  | .creating | .publishing _ | .stopping | .finished (.publishEvent false) _ => true
  | _ => false

/-- The thread has not finished, has no context of its own in hand and is not in a call admitted
through `#active`. -/
def Pc.free : Pc V → Bool
  | .creating | .publishing _ | .stopping | .running _ _ | .proving _ _ _ _ | .settling _ _ _
  | .finished _ _ => false
  | _ => true

/-- The thread has come to a place that says nothing of a context, a stream or an outcome. -/
def Pc.aside : Pc V → Bool
  | .closing | .outboundWaiting _ | .outboundActing _ | .finished (.work _) (.threw _) => true
  | .finished (.work _) _ => false
  | .finished _ _ => true
  | _ => false

/-- The steps of a thread by what they do to the tables. -/
inductive Moves (s : Shared) (t : Nat) : Pc V → Input V → Shared → Pc V → Prop
  | quiet {pc pc' : Pc V} {s' : Shared} (k : Input V) (same : Quiet s s') (here : pc.free = true)
      (next : pc'.aside = true) : Moves s t pc k s' pc'
  -- construct, event publish and the hook of stop
  | enter {pc pc' : Pc V} {s' : Shared} (k : Input V) (requestId : Nat)
      (same : Quiet (s.addContext t requestId) s') (here : pc.free = true)
      (next : pc'.enters = true) : Moves s t pc k s' pc'
  | leave {pc pc' : Pc V} {s' : Shared} (k : Input V) (same : Quiet (s.deleteContext t) s')
      (here : pc.free = true ∨ pc.enters = true) (next : pc'.aside = true) : Moves s t pc k s' pc'
  -- invoke and stream open
  | exhausted (work : Work) (p : Params) (k : Input V)
      (admission : s.admission p work = .exhausted) :
      Moves s t (.begin work p) k s (.proving work p .completed
        (.runtime (.resourceExhausted p.capabilityId p.operation)))
  | unhandled (work : Work) (p : Params) (k : Input V) (error : String)
      (admission : s.admission p work = .admitted) :
      Moves s t (.begin work p) k ((s.activate t p).handlerEnds t work p)
        (.proving work p .abandoned (.runtime (.pluginFailure error)))
  | handlerThrows (work : Work) (p : Params) (error : String)
      (admission : s.admission p work = .admitted) :
      Moves s t (.begin work p) (.throws error)
        (((s.activate t p).handlerStarts t p).handlerEnds t work p)
        (.proving work p .abandoned (.runtime (.pluginFailure error)))
  | handlerStarts (work : Work) (p : Params) (admission : s.admission p work = .admitted) :
      Moves s t (.begin work p) .go ((s.activate t p).handlerStarts t p) (.running work p)
  | handlerEnds (work : Work) (p : Params) (k : Input V) (state : SettlementState)
      (answer : Answer V) (none : answer.stream = none) :
      Moves s t (.running work p) k (s.handlerEnds t work p) (.proving work p state answer)
  | streamOpens (p : Params) (live : s.aborted[t]? = none) :
      Moves s t (.running .openStream p) (.opened .opened) (s.streamOpens t p)
        (.proving .openStream p .completed (.opened s.nextStreamId))
  | settle (work : Work) (p : Params) (state : SettlementState) (answer : Answer V) (k : Input V) :
      Moves s t (.proving work p state answer) k (s.settle t p state) (.settling work p answer)
  | answer (work : Work) (p : Params) (answer : Answer V) (ending : Ending V) (k : Input V)
      (ends : (Pc.finished (.work work) ending).outcome = some answer) :
      Moves s t (.settling work p answer) k (s.answer t p) (.finished (.work work) ending)
  -- streams
  | hand (streamId : Nat) {pc' : Pc V} (k : Input V) (there : s.streams[streamId]?.isSome = true)
      (next : pc' = .sending streamId ∨ ∃ error, pc' = .finished .sendStream (.threw error)) :
      Moves s t (.sendStream streamId (s.nextSendSequence streamId)) k
        (s.hand t streamId (s.nextSendSequence streamId)) pc'
  | accept (streamId : Nat) :
      Moves s t (.sending streamId) (.acted .accepted) (s.sendAccepted streamId)
        (.finished .sendStream (.answered .accepted))
  | receive (streamId context : Nat) (found : s.streams[streamId]? = some context) :
      Moves s t (.receiveStream streamId) .go s (.receiving streamId context)
  | terminal (streamId context : Nat) (k : Input V) (ending : Ending V) :
      Moves s t (.receiving streamId context) k (s.deleteStream streamId context)
        (.finished .receiveStream ending)
  | cancelStream (streamId context : Nat) (k : Input V)
      (found : s.streams[streamId]? = some context) :
      Moves s t (.cancelStream streamId) k (s.deleteStream streamId context)
        (.finished .cancelStream (.answered .accepted))
  -- cancel and stop
  | abort (correlationId : Nat) (active : Active) (k : Input V)
      (found : s.active[correlationId]? = some active) :
      Moves s t (.cancel correlationId active.scopeId) k
        { s with aborted := s.aborted.insert active.thread () }
        (.finished .cancel (.answered (.cancelAck true)))
  | stopPartly (scopeId : Nat) {s' : Shared} {pc' : Pc V} (k : Input V) (cancelled : Nat)
      (same : Quiet (s.deleteContexts (s.streamContexts.take cancelled)) s')
      (next : pc'.aside = true) : Moves s t (.stop scopeId) k s' pc'
  | stop (scopeId : Nat) {s' : Shared} {pc' : Pc V} (k : Input V) (same : Quiet s.cancelStreams s')
      (next : pc'.aside = true) : Moves s t (.stop scopeId) k s' pc'
  | stopHook (scopeId : Nat) {s' : Shared} (k : Input V)
      (same : Quiet (s.cancelStreams.addContext t scopeId) s') :
      Moves s t (.stop scopeId) k s' .stopping
  | stopHookThrows (scopeId : Nat) {s' : Shared} {pc' : Pc V} (k : Input V)
      (same : Quiet (s.cancelStreams.deleteContext t) s') (next : pc'.aside = true) :
      Moves s t (.stop scopeId) k s' pc'

section

variable {s s' : Shared} {t : Nat} {pc pc' : Pc V} {k : Input V}

theorem erase_insert_context (contexts : ExtTreeMap Nat Nat) (t requestId : Nat) :
    (contexts.insert t requestId).erase t = contexts.erase t := by
  refine ExtTreeMap.ext_getElem? fun u => ?_
  simp only [getElem?_erase_nat, getElem?_insert_nat]
  split <;> rfl

theorem Moves.same (k : Input V) (here : pc.free = true) (next : pc'.aside = true) :
    Moves s t pc k s pc' := .quiet k (.refl s) here next

variable {scopeId streamId : Nat} {p : Params}

theorem construct_moves (h : construct s t scopeId k = some (s', pc')) :
    Moves s t (.construct scopeId) k s' pc' := by
  cases k with
  | invalid =>
    cases h
    exact .same _ rfl rfl
  | _ =>
    simp only [construct] at h
    split at h
    · cases h
      exact .same _ rfl rfl
    · first
        | (cases h; done)
        | (cases h
           exact .leave _ ⟨rfl, rfl, rfl, erase_insert_context _ _ _, rfl, rfl, rfl, rfl, rfl⟩
             (.inl rfl) rfl)
        | (cases h
           exact .enter _ scopeId ⟨rfl, rfl, rfl, rfl, rfl, rfl, rfl, rfl, rfl⟩ rfl rfl)

theorem creating_moves (h : creating s t k = some (s', pc')) : Moves s t .creating k s' pc' := by
  cases k <;> cases h <;>
    exact .leave _ ⟨rfl, rfl, rfl, rfl, rfl, rfl, rfl, rfl, rfl⟩ (.inr rfl) rfl

theorem startHandler_moves {work : Work} (hadmitted : s.admission p work = .admitted)
    (h : startHandler s t work p k = some (s', pc')) : Moves s t (.begin work p) k s' pc' := by
  unfold startHandler at h
  split at h
  · cases h
    exact .unhandled work p _ _ hadmitted
  · cases h
    exact .handlerThrows work p _ hadmitted
  · cases h
    exact .handlerStarts work p hadmitted
  · cases h

theorem begin_moves {work : Work} (h : begin s t work p k = some (s', pc')) :
    Moves s t (.begin work p) k s' pc' := by
  cases k with
  | invalid =>
    cases h
    exact .same _ rfl rfl
  | _ =>
    simp only [begin, admitWork] at h
    split at h
    · cases h
      exact .same _ rfl rfl
    · next hexhausted =>
        cases h
        exact .exhausted work p _ hexhausted
    · next hadmitted => exact startHandler_moves hadmitted h

theorem runInvocation_moves (h : runInvocation s t p k = some (s', pc')) :
    Moves s t (.running .invoke p) k s' pc' := by
  cases k with
  | invoked outcome =>
    cases h
    exact .handlerEnds .invoke p _ _ _ (by cases outcome <;> rfl)
  | throws =>
    cases h
    exact .handlerEnds .invoke p _ _ _ rfl
  | _ => cases h

theorem runOpenStream_moves (h : runOpenStream s t p k = some (s', pc')) :
    Moves s t (.running .openStream p) k s' pc' := by
  unfold runOpenStream at h
  repeat' split at h
  all_goals cases h
  all_goals first
    | exact .handlerEnds .openStream _ _ _ _ rfl
    | exact .streamOpens _ (by simpa using (by simp_all))

theorem publishEvent_moves (h : publishEvent s t p k = some (s', pc')) :
    Moves s t (.publishEvent p) k s' pc' := by
  cases k with
  | invalid =>
    cases h
    exact .same _ rfl rfl
  | _ =>
    simp only [publishEvent] at h
    split at h
    · cases h
      exact .same _ rfl rfl
    · split at h <;>
        first
          | (cases h; done)
          | (cases h
             exact .enter _ p.correlationId ⟨rfl, rfl, rfl, rfl, rfl, rfl, rfl, rfl, rfl⟩ rfl rfl)
          | (cases h
             exact .leave _ ⟨rfl, rfl, rfl, erase_insert_context _ _ _, rfl, rfl, rfl, rfl, rfl⟩
               (.inl rfl) rfl)

theorem publishing_moves (h : publishing s t p k = some (s', pc')) :
    Moves s t (.publishing p) k s' pc' := by
  cases k <;> cases h <;>
    exact .leave _ ⟨rfl, rfl, rfl, rfl, rfl, rfl, rfl, rfl, rfl⟩ (.inr rfl) rfl

theorem sendStream_moves {sequence : Nat} (h : sendStream s t streamId sequence k = some (s', pc'))
    : Moves s t (.sendStream streamId sequence) k s' pc' := by
  cases k with
  | invalid =>
    cases h
    exact .same _ rfl rfl
  | _ =>
    simp only [sendStream] at h
    split at h
    · cases h
      exact .same _ rfl rfl
    · next hfound =>
        split at h
        · cases h
          exact .same _ rfl rfl
        · next hsequence =>
            obtain rfl := Decidable.not_not.mp hsequence
            first
              | (cases h; done)
              | (cases h
                 exact .hand streamId _ (by rw [hfound]; rfl) (.inl rfl))
              | (cases h
                 exact .hand streamId _ (by rw [hfound]; rfl) (.inr ⟨_, rfl⟩))

theorem sending_moves (h : sending s streamId k = some (s', pc')) :
    Moves s t (.sending streamId) k s' pc' := by
  unfold sending at h
  repeat' split at h
  all_goals cases h
  all_goals first
    | exact .accept _
    | exact .same _ rfl rfl

theorem receiveStream_moves (h : receiveStream s streamId k = some (s', pc')) :
    Moves s t (.receiveStream streamId) k s' pc' := by
  unfold receiveStream at h
  repeat' split at h
  all_goals cases h
  all_goals first
    | exact .same _ rfl rfl
    | exact .receive _ _ (by simp_all)

theorem receiving_moves {context : Nat} (h : receiving s streamId context k = some (s', pc')) :
    Moves s t (.receiving streamId context) k s' pc' := by
  unfold receiving at h
  repeat' split at h
  all_goals cases h
  all_goals first
    | exact .quiet _ ⟨rfl, rfl, rfl, rfl, rfl, rfl, rfl, rfl, rfl⟩ rfl rfl
    | exact .same _ rfl rfl
    | exact .terminal _ _ _ _

theorem closeStreamSend_moves (h : closeStreamSend s streamId k = some (s', pc')) :
    Moves s t (.closeStreamSend streamId) k s' pc' := by
  unfold closeStreamSend at h
  repeat' split at h
  all_goals cases h
  all_goals exact .same _ rfl rfl

theorem closing_moves (h : closing s k = some (s', pc')) : Moves s t .closing k s' pc' := by
  cases k <;> cases h <;> exact .same _ rfl rfl

theorem cancelStream_moves (h : cancelStream s streamId k = some (s', pc')) :
    Moves s t (.cancelStream streamId) k s' pc' := by
  cases k with
  | invalid =>
    cases h
    exact .same _ rfl rfl
  | _ =>
    simp only [cancelStream] at h
    split at h <;> cases h <;>
      first | exact .same _ rfl rfl | exact .cancelStream streamId _ _ ‹_›

theorem cancel_moves {correlationId : Nat} (h : cancel s correlationId scopeId k = some (s', pc')) :
    Moves s t (.cancel correlationId scopeId) k s' pc' := by
  cases k with
  | invalid =>
    cases h
    exact .same _ rfl rfl
  | _ =>
    simp only [cancel] at h
    split at h
    · cases h
      exact .same _ rfl rfl
    · next hfound =>
        split at h <;> cases h
        · next hscope =>
            obtain rfl := hscope
            exact .abort correlationId _ _ hfound
        · exact .same _ rfl rfl

theorem stopIdle_moves {s₀ : Shared} (hs : s = { s₀ with stopAttempted := true })
    (h : stopIdle s t scopeId k = some (s', pc')) : Moves s₀ t (.stop scopeId) k s' pc' := by
  subst hs
  cases k with
  | cancelThrows cancelled =>
    cases h
    exact .stopPartly scopeId _ cancelled ⟨rfl, rfl, rfl, rfl, rfl, rfl, rfl, rfl, rfl⟩ rfl
  | _ =>
    simp only [stopIdle] at h
    split at h
    · cases h
      exact .stop scopeId _ ⟨rfl, rfl, rfl, rfl, rfl, rfl, rfl, rfl, rfl⟩ rfl
    · first
        | (cases h; done)
        | (cases h
           exact .stop scopeId _ ⟨rfl, rfl, rfl, rfl, rfl, rfl, rfl, rfl, rfl⟩ rfl)
        | (cases h
           exact .stopHook scopeId _ ⟨rfl, rfl, rfl, rfl, rfl, rfl, rfl, rfl, rfl⟩)
        | (cases h
           exact .stopHookThrows scopeId _
             ⟨rfl, rfl, rfl, erase_insert_context _ _ _, rfl, rfl, rfl, rfl, rfl⟩ rfl)

theorem stop_moves (h : stop s t scopeId k = some (s', pc')) :
    Moves s t (.stop scopeId) k s' pc' := by
  cases k with
  | invalid =>
    cases h
    exact .same _ rfl rfl
  | _ =>
    simp only [stop] at h
    split at h
    · cases h
      exact .same _ rfl rfl
    · split at h
      · cases h
        exact .quiet _ ⟨rfl, rfl, rfl, rfl, rfl, rfl, rfl, rfl, rfl⟩ rfl rfl
      · exact stopIdle_moves rfl h

theorem stopping_moves (h : stopping s t k = some (s', pc')) : Moves s t .stopping k s' pc' := by
  cases k <;> cases h <;>
    exact .leave _ ⟨rfl, rfl, rfl, rfl, rfl, rfl, rfl, rfl, rfl⟩ (.inr rfl) rfl

theorem outbound_moves {o : Outbound} (h : outbound s o = (s', pc')) :
    Moves s t (.outbound o) k s' pc' := by
  unfold outbound at h
  repeat' split at h
  all_goals cases h
  all_goals first
    | exact .same _ rfl rfl
    | exact .quiet _ ⟨rfl, rfl, rfl, rfl, rfl, rfl, rfl, rfl, rfl⟩ rfl rfl

theorem outboundWaiting_moves {kind : Interaction}
    (h : outboundWaiting s kind k = some (s', pc')) :
    Moves s t (.outboundWaiting kind) k s' pc' := by
  cases k <;> cases h
  exact .quiet _ ⟨rfl, rfl, rfl, rfl, rfl, rfl, rfl, rfl, rfl⟩ rfl rfl

theorem outboundAction_moves {capabilityId : String}
    (h : outboundAction s streamId capabilityId = (s', pc')) :
    Moves s t (.outboundAction streamId capabilityId) k s' pc' := by
  unfold outboundAction at h
  split at h
  · cases h
    exact .same _ rfl rfl
  · split at h <;> cases h
    · exact .same _ rfl rfl
    · exact .quiet _ ⟨rfl, rfl, rfl, rfl, rfl, rfl, rfl, rfl, rfl⟩ rfl rfl

theorem outboundActing_moves (h : outboundActing s streamId k = some (s', pc')) :
    Moves s t (.outboundActing streamId) k s' pc' := by
  cases k <;> cases h
  exact .quiet _ ⟨rfl, rfl, rfl, rfl, rfl, rfl, rfl, rfl, rfl⟩ rfl rfl

theorem pcMove_moves (h : pcMove s t pc k = some (s', pc')) : Moves s t pc k s' pc' := by
  cases pc with
  | construct => exact construct_moves h
  | creating => exact creating_moves h
  | begin => exact begin_moves h
  | running work =>
    cases work with
    | invoke => exact runInvocation_moves h
    | openStream => exact runOpenStream_moves h
  | proving work p state answer =>
    cases h
    exact .settle work p state answer k
  | settling work p answer =>
    cases k with
    | callback error =>
      cases h
      cases error <;> exact .answer work p answer _ _ rfl
    | _ => cases h
  | publishEvent => exact publishEvent_moves h
  | publishing => exact publishing_moves h
  | sendStream => exact sendStream_moves h
  | sending => exact sending_moves h
  | receiveStream => exact receiveStream_moves h
  | receiving => exact receiving_moves h
  | closeStreamSend => exact closeStreamSend_moves h
  | closing => exact closing_moves h
  | cancelStream => exact cancelStream_moves h
  | cancel => exact cancel_moves h
  | stop => exact stop_moves h
  | stopping => exact stopping_moves h
  | outbound => exact outbound_moves (Option.some.inj h)
  | outboundWaiting => exact outboundWaiting_moves h
  | outboundAction => exact outboundAction_moves (Option.some.inj h)
  | outboundActing => exact outboundActing_moves h
  | outboundCancel =>
    cases h
    exact .quiet _ ⟨rfl, rfl, rfl, rfl, rfl, rfl, rfl, rfl, rfl⟩ rfl rfl
  | finished => cases h

theorem move_moves {m : Moved Shared (Pc V)} (h : program.move s t pc k = some m) :
    Moves s t pc k m.shared m.next :=
  pcMove_moves (moved_of_map h).1

end

end LensoBun.AuthoringV2.Child
