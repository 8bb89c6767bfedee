import LensoBun.Lib.Threads
import LensoBun.Transport.Process

set_option autoImplicit false

/-! # The framed-stdio transport as threads

Callers, cancels, the writer, the reader and whoever finds the process dead, over the tables of
`FramedTransport` (`transport/framed.rs`). Each section under a lock, each send on a channel, each
atomic access, each write to the child and each frame read is one step; a section that looks into
other tables while it holds a registry is one step as well.

What the tables do not decide comes from outside: whether a frame fits `max_frame_bytes`, whether
a write fails, what the reader reads, whether the child has exited, and when an owner polls or
drops its call.

`Trace` is not part of the source. It records what the properties are about: what the peer has
been sent and has not answered, to which call an id was given, which calls were dropped, what
became of the frames read, and how far `fail_all` has come.
-/

namespace LensoBun.Transport.Framed

open Std Lib

variable {V : Type}

/-! ## State -/

inductive Frame where
  | call (call : Call)
  | cancel (requestId : Nat)
  | streamCancel (streamId : Nat)
  | shutdown
  deriving DecidableEq, Repr

/-- The id under which the peer is to answer the frame. -/
def Frame.key? : Frame → Option Key
  | .call c => some c.key
  | _ => none

/-- What `read_frame` gives the reader. -/
inductive Message (V : Type) where
  | response (requestId : Nat) (outcome : V)
  | streamResponse (requestId : Nat) (outcome : V)
  | other
  | error (failure : RuntimeFailure)

structure Trace where
  /-- The frames written to the child, in order. -/
  written : List Frame
  /-- The calls among them that the peer has not answered yet. -/
  unanswered : List Key
  /-- The thread whose call an id was given to. -/
  owner : Key → Option Nat
  /-- The frame is queued or has been sent, and its answer has not found its call yet. -/
  expected : Key → Bool
  /-- A cancel has taken the id from its registry and has not put it into `cancelled` yet. -/
  leaving : Key → Bool
  dropped : Key → Bool
  /-- The answers read, and what became of those that are finished: the call they were handed
  to, or none. -/
  received : List Key
  handled : List (Key × Option Nat)
  /-- The registries `fail_all` has emptied, and whether it has returned. -/
  drained : PerLane Bool
  failedAll : Bool
  /-- The threads on their way to a send on the control channel. -/
  controlling : RequestIds

structure Shared (V : Type) where
  process : ProcessState
  sender : BoundedChannel Frame
  eventSender : BoundedChannel Frame
  controlSender : BoundedChannel Frame
  /-- `pending`, `event_pending` and `stream_pending`. -/
  pending : PerLane PendingResponses
  /-- `cancelled` and `stream_cancelled`. -/
  cancelled : PerGroup RequestIds
  /-- `retired` and `stream_retired`. -/
  retired : PerGroup RequestIds
  admissionCapacity : PerLane Nat
  capability : String
  slots : ExtTreeMap Nat (Resolution V)
  trace : Trace

/-- The channel the frames of a lane are sent on. -/
def Shared.wireSender (s : Shared V) : Lane → BoundedChannel Frame
  | .request | .stream => s.sender
  | .event => s.eventSender

def Shared.setWireSender (s : Shared V) (lane : Lane) (ch : BoundedChannel Frame) : Shared V :=
  { s with
    sender := if lane = .event then s.sender else ch
    eventSender := if lane = .event then ch else s.eventSender }

def Shared.resolve (s : Shared V) (call : Nat) (resolution : Resolution V) : Shared V :=
  { s with slots := s.slots.insert call resolution }

/-! ## Threads -/

inductive Input (V : Type) where
  | go
  /-- Whether `encode_frame` succeeds. -/
  | encoded (fits : Bool)
  /-- What a look at the child finds: its exit status, if it has exited. -/
  | exited (status : Option String)
  | written (error : Option String)
  | read (message : Message V)
  | poll
  | drop

/-- `call_on` and `stream_request`, and their owner with the call. -/
inductive CallerPc where
  | enter (call : Call)
  | refuse (call : Call)
  | encode (call : Call)
  | insert (call : Call)
  | send (call : Call)
  | undo (call : Call) (error : TrySendError)
  | stopped (call : Call)
  | holding (call : Call)
  deriving DecidableEq, Repr

/-- `cancel`, `cancel_stream_call`, `cancel_stream` and `shutdown`. A stream session cancels its
stream without a call. -/
inductive CancelPc where
  | pending (requestId : Nat)
  | eventPending (requestId : Nat)
  | alive (requestId : Nat)
  | streamPending (requestId streamId : Nat)
  | remember (x : Cancelled)
  | retire (x : Cancelled)
  | streamAlive (streamId : Nat)
  | send (frame : Frame)
  | session (streamId : Nat)
  | shutdown
  | shutdownSend
  deriving DecidableEq, Repr

inductive WriterPc where
  | control
  | event
  | request
  | wait
  | write (frame : Frame)
  | exit
  deriving DecidableEq, Repr

inductive ReaderPc (V : Type) where
  | read
  | pending (requestId : Nat) (outcome : V)
  | eventPending (requestId : Nat) (outcome : V)
  | streamPending (requestId : Nat) (outcome : V)
  | cancelled (key : Key)
  /-- `remember_request_id`, and then the answer for the call, if it is not a late one. -/
  | retire (key : Key) (answer : Option (Nat × V))
  | deliver (key : Key) (call : Nat) (outcome : V)
  deriving DecidableEq, Repr

/-- `mark_dead`, with `fail_all` as its failure handler. -/
inductive Stage where
  | swap
  | store
  | pending
  | eventPending
  | cancelled
  | streamPending
  | streamCancelled
  | notify
  deriving DecidableEq, Repr

/-- Who has called `mark_dead`. -/
inductive After where
  | monitor
  | caller (failure : RuntimeFailure)
  | cancel
  | writer
  | reader
  deriving DecidableEq, Repr

inductive Pc (V : Type) where
  | caller (pc : CallerPc)
  | cancel (pc : CancelPc)
  | writer (pc : WriterPc)
  | reader (pc : ReaderPc V)
  | monitor
  | dying (stage : Stage) (failure : RuntimeFailure) (after : After)
  | refused (failure : RuntimeFailure)
  | done
  deriving DecidableEq, Repr

/-- Where a thread goes on when `mark_dead` has returned. The writer drops its receivers. -/
def After.pc : After → Pc V
  | .caller failure => .refused failure
  | .writer => .writer .exit
  | .monitor | .cancel | .reader => .done

/-! ## Callers -/

/-- The section of `call_on` under the registry's lock: the looks into the registry and
`cancelled`, the admission count, the look into `retired`. -/
def callOnCheck (s : Shared V) (call : Call) : Option RuntimeFailure :=
  if (s.pending.get call.lane)[call.requestId]?.isSome ||
      s.cancelled.call[call.requestId]?.isSome then
    some (protocolViolation (some s.capability))
  else if s.admissionCapacity.get call.lane ≤ (s.pending.get call.lane).size then
    some (.resourceExhausted call.capability call.operation)
  else if s.retired.call[call.requestId]?.isSome then
    some (protocolViolation (some s.capability))
  else none

/-- The section of `stream_request`: all looks come before the count, and the violation names
the capability of the call. -/
def streamRequestCheck (s : Shared V) (call : Call) : Option RuntimeFailure :=
  if (s.pending.get call.lane)[call.requestId]?.isSome ||
      s.cancelled.stream[call.requestId]?.isSome || s.retired.stream[call.requestId]?.isSome then
    some (protocolViolation (some call.capability))
  else if s.admissionCapacity.get call.lane ≤ (s.pending.get call.lane).size then
    some (.resourceExhausted call.capability call.operation)
  else none

def insertCheck (s : Shared V) (call : Call) : Option RuntimeFailure :=
  match call.lane with
  | .request | .event => callOnCheck s call
  | .stream => streamRequestCheck s call

/-- The call of thread `t` is put into its registry. -/
def Shared.insertCall (s : Shared V) (t : Nat) (call : Call) : Shared V :=
  { s with
    pending := s.pending.set call.lane ((s.pending.get call.lane).insert call.requestId t)
    trace := { s.trace with owner := Function.update s.trace.owner call.key (some t) } }

/-- The frame of the call has been queued on `ch`. -/
def Shared.queueCall (s : Shared V) (call : Call) (ch : BoundedChannel Frame) : Shared V :=
  let s := s.setWireSender call.lane ch
  { s with trace := { s.trace with expected := Function.update s.trace.expected call.key true } }

/-- The entry of an id is taken out of its registry, and the sender in it is dropped. -/
def Shared.dropEntry (s : Shared V) (lane : Lane) (requestId : Nat) : Shared V :=
  { s with
    pending := s.pending.set lane ((s.pending.get lane).erase requestId)
    slots := match (s.pending.get lane)[requestId]? with
      | none => s.slots
      | some call => s.slots.insert call .closed }

/-- The thread begins to cancel or to shut down. -/
def Shared.beginControl (s : Shared V) (t : Nat) : Shared V :=
  { s with trace := { s.trace with controlling := s.trace.controlling.insert t () } }

def Shared.endControl (s : Shared V) (t : Nat) : Shared V :=
  { s with trace := { s.trace with controlling := s.trace.controlling.erase t } }

def Shared.dropCall (s : Shared V) (t : Nat) (call : Call) : Shared V :=
  let s := s.beginControl t
  { s with trace := { s.trace with dropped := Function.update s.trace.dropped call.key true } }

/-- What `WireCall::drop` and `StreamCall::drop` call. -/
def dropPc (call : Call) : CancelPc :=
  match call.kind with
  | .request | .event => .pending call.requestId
  | .streamOpen streamId | .streamCall streamId => .streamPending call.requestId streamId

def callerMove (s : Shared V) (t : Nat) : CallerPc → Input V → Option (Shared V × Pc V)
  | .enter call, _ =>
    some (s, .caller (if s.process.alive then .encode call else .refuse call))
  | .refuse _, _ => some (s, .refused (s.process.refusal s.capability))
  | .encode call, .encoded fits =>
    some (s, if fits then .caller (.insert call) else .refused (protocolViolation none))
  | .insert call, _ =>
    match insertCheck s call with
    | some failure => some (s, .refused failure)
    | none => some (s.insertCall t call, .caller (.send call))
  | .send call, _ =>
    match (s.wireSender call.lane).trySend (.call call) with
    | .ok ch => some (s.queueCall call ch, .caller (.holding call))
    | .error error => some (s, .caller (.undo call error))
  | .undo call .full, _ =>
    some (s.dropEntry call.lane call.requestId,
      .refused (.resourceExhausted call.capability call.operation))
  | .undo call .disconnected, _ =>
    some (s.dropEntry call.lane call.requestId, .caller (.stopped call))
  | .stopped _, .exited status =>
    let failure := s.process.failureOrExit status
      (.pluginFailure "Bun framed-stdio writer stopped")
    some (s, .dying .swap failure (.caller failure))
  | .holding _, .poll => if s.slots[t]?.isSome then some (s, .done) else none
  | .holding call, .drop => some (s.dropCall t call, .cancel (dropPc call))
  | _, _ => none

/-! ## Cancels -/

/-- A cancel takes the entry out of its registry. -/
def Shared.takeEntry (s : Shared V) (lane : Lane) (requestId : Nat) : Shared V :=
  let s := s.dropEntry lane requestId
  { s with
    trace := { s.trace with
      leaving := Function.update s.trace.leaving (lane.group, requestId) true } }

/-- The id is put into `cancelled`, which is kept below its limit. -/
def Shared.rememberCancelled (s : Shared V) (key : Key) : Shared V :=
  { s with
    cancelled := s.cancelled.set key.1
      ((evict maxCancelledRequestIds (s.cancelled.get key.1)).insert key.2 ())
    trace := { s.trace with leaving := Function.update s.trace.leaving key false } }

def Shared.retire (s : Shared V) (key : Key) : Shared V :=
  { s with retired := s.retired.set key.1 (rememberRequestId (s.retired.get key.1) key.2) }

/-- What is left to do when the id is in `cancelled` and `retired`. -/
def lastPc : Cancelled → CancelPc
  | .call requestId => .send (.cancel requestId)
  | .stream _ streamId => .streamAlive streamId

/-- The failure of a send on the control channel. -/
def controlFailure : Frame → RuntimeFailure
  | .streamCancel _ =>
    .pluginFailure "Bun framed-stdio stream cancellation channel stopped"
  | _ => .pluginFailure "Bun framed-stdio cancellation channel stopped"

/-- Look for an entry to cancel: go on with `found` if there is one, else with `missing`. -/
def takeMove (s : Shared V) (t : Nat) (lane : Lane) (requestId : Nat) (found : CancelPc)
    (missing : Option CancelPc) : Shared V × Pc V :=
  match (s.pending.get lane)[requestId]?, missing with
  | some _, _ => (s.takeEntry lane requestId, .cancel found)
  | none, some pc => (s, .cancel pc)
  | none, none => (s.endControl t, .done)

def cancelMove (s : Shared V) (t : Nat) : CancelPc → Input V → Option (Shared V × Pc V)
  | .pending requestId, _ =>
    some (takeMove s t .request requestId (.alive requestId) (some (.eventPending requestId)))
  | .eventPending requestId, _ =>
    some (takeMove s t .event requestId (.alive requestId) none)
  | .alive requestId, _ =>
    if s.process.alive then some (s, .cancel (.remember (.call requestId)))
    else some (s.endControl t, .done)
  | .streamPending requestId streamId, _ =>
    some (takeMove s t .stream requestId (.remember (.stream requestId streamId)) none)
  | .remember x, _ => some (s.rememberCancelled x.key, .cancel (.retire x))
  | .retire x, _ => some (s.retire x.key, .cancel (lastPc x))
  | .streamAlive streamId, _ =>
    if s.process.alive then some (s, .cancel (.send (.streamCancel streamId)))
    else some (s.endControl t, .done)
  | .send frame, .encoded fits =>
    if fits then
      match s.controlSender.trySend frame with
      | .ok ch => some ({ s with controlSender := ch }.endControl t, .done)
      -- a full channel is taken for a stopped one
      | .error _ => some (s.endControl t, .dying .swap (controlFailure frame) .cancel)
    else some (s.endControl t, .done)
  | .session streamId, _ => some (s.beginControl t, .cancel (.streamAlive streamId))
  | .shutdown, _ =>
    if s.process.alive then some (s.beginControl t, .cancel .shutdownSend) else some (s, .done)
  | .shutdownSend, .encoded fits =>
    if fits then
      match s.controlSender.trySend .shutdown with
      | .ok ch => some ({ s with controlSender := ch }.endControl t, .done)
      | .error _ => some (s.endControl t, .done)
    else some (s.endControl t, .done)
  | _, _ => none

/-! ## Writer and reader -/

/-- The frame is written to the child; a call is then the peer's to answer. -/
def Shared.write (s : Shared V) (frame : Frame) : Shared V :=
  { s with
    trace := { s.trace with
      written := s.trace.written ++ [frame]
      unanswered := s.trace.unanswered ++ frame.key?.toList } }

def Shared.closeWriter (s : Shared V) : Shared V :=
  { s with
    sender := s.sender.close
    eventSender := s.eventSender.close
    controlSender := s.controlSender.close }

def writerMove (s : Shared V) : WriterPc → Input V → Option (Shared V × Pc V)
  | .control, _ =>
    match s.controlSender.tryRecv with
    | some (frame, ch) => some ({ s with controlSender := ch }, .writer (.write frame))
    | none => some (s, .writer .event)
  | .event, _ =>
    match s.eventSender.tryRecv with
    | some (frame, ch) => some ({ s with eventSender := ch }, .writer (.write frame))
    | none => some (s, .writer .request)
  | .request, _ =>
    match s.sender.tryRecv with
    | some (frame, ch) => some ({ s with sender := ch }, .writer (.write frame))
    | none => some (s, .writer .wait)
  -- `recv_timeout`: a frame in time, or the next round
  | .wait, _ =>
    match s.sender.tryRecv with
    | some (frame, ch) => some ({ s with sender := ch }, .writer (.write frame))
    | none => some (s, .writer .control)
  | .write frame, .written none => some (s.write frame, .writer .control)
  | .write _, .written (some error) =>
    some (s, .dying .swap (.pluginFailure ("Bun framed-stdio write failed: " ++ error)) .writer)
  | .exit, _ => some (s.closeWriter, .done)
  | _, _ => none

def Shared.receive (s : Shared V) (key : Key) : Shared V :=
  { s with
    trace := { s.trace with
      unanswered := s.trace.unanswered.erase key
      received := s.trace.received ++ [key] } }

/-- The answer has found its call in the registry: the entry is taken out. -/
def Shared.answerCall (s : Shared V) (lane : Lane) (requestId : Nat) : Shared V :=
  { s with
    pending := s.pending.set lane ((s.pending.get lane).erase requestId)
    trace := { s.trace with
      expected := Function.update s.trace.expected (lane.group, requestId) false } }

/-- The answer to a call that has been cancelled. -/
def Shared.absorb (s : Shared V) (key : Key) : Shared V :=
  { s with
    cancelled := s.cancelled.set key.1 ((s.cancelled.get key.1).erase key.2)
    trace := { s.trace with expected := Function.update s.trace.expected key false } }

def Shared.finish (s : Shared V) (key : Key) (call : Option Nat) : Shared V :=
  { s with trace := { s.trace with handled := s.trace.handled ++ [(key, call)] } }

/-- Look for the call of an answer; without one go on at `missing`. -/
def answerMove (s : Shared V) (lane : Lane) (requestId : Nat) (outcome : V)
    (missing : ReaderPc V) : Shared V × Pc V :=
  match (s.pending.get lane)[requestId]? with
  | some call => (s.answerCall lane requestId,
      .reader (.retire (lane.group, requestId) (some (call, outcome))))
  | none => (s, .reader missing)

def readMessage (s : Shared V) : Message V → Shared V × Pc V
  | .response requestId outcome =>
    (s.receive (.call, requestId), .reader (.pending requestId outcome))
  | .streamResponse requestId outcome =>
    (s.receive (.stream, requestId), .reader (.streamPending requestId outcome))
  | .other => (s, .dying .swap (protocolViolation (some s.capability)) .reader)
  | .error failure => (s, .dying .swap (s.process.failure.getD failure) .reader)

def readerMove (s : Shared V) : ReaderPc V → Input V → Option (Shared V × Pc V)
  | .read, .read message => some (readMessage s message)
  | .pending requestId outcome, _ =>
    some (answerMove s .request requestId outcome (.eventPending requestId outcome))
  | .eventPending requestId outcome, _ =>
    some (answerMove s .event requestId outcome (.cancelled (.call, requestId)))
  | .streamPending requestId outcome, _ =>
    some (answerMove s .stream requestId outcome (.cancelled (.stream, requestId)))
  | .cancelled key, _ =>
    if (s.cancelled.get key.1)[key.2]?.isSome then
      some (s.absorb key, .reader (.retire key none))
    else some (s, .dying .swap (protocolViolation (some s.capability)) .reader)
  | .retire key none, _ => some ((s.retire key).finish key none, .reader .read)
  | .retire key (some (call, outcome)), _ =>
    some (s.retire key, .reader (.deliver key call outcome))
  | .deliver key call outcome, _ =>
    some ((s.resolve call (.answered outcome)).finish key (some call), .reader .read)
  | _, _ => none

/-! ## The end of the process -/

/-- `fail_all` empties one registry and resolves the calls in it. -/
def Shared.drain (s : Shared V) (lane : Lane) (failure : RuntimeFailure) : Shared V :=
  { s with
    pending := s.pending.set lane ∅
    slots := (s.pending.get lane).foldl (fun slots _ call => slots.insert call (.failed failure))
      s.slots
    trace := { s.trace with drained := s.trace.drained.set lane true } }

def dyingMove (s : Shared V) (failure : RuntimeFailure) (after : After) :
    Stage → Shared V × Pc V
  | .swap =>
    if s.process.alive then
      ({ s with process := { s.process with alive := false } }, .dying .store failure after)
    else (s, after.pc)
  | .store =>
    ({ s with process := { s.process with failure := some failure } },
      .dying .pending failure after)
  | .pending => (s.drain .request failure, .dying .eventPending failure after)
  | .eventPending => (s.drain .event failure, .dying .cancelled failure after)
  | .cancelled =>
    ({ s with cancelled := s.cancelled.set .call ∅ }, .dying .streamPending failure after)
  | .streamPending => (s.drain .stream failure, .dying .streamCancelled failure after)
  | .streamCancelled =>
    ({ s with cancelled := s.cancelled.set .stream ∅
              trace := { s.trace with failedAll := true } }, .dying .notify failure after)
  | .notify => (s, after.pc)

/-! ## The program -/

def pcMove (s : Shared V) (t : Nat) : Pc V → Input V → Option (Shared V × Pc V)
  | .caller pc, k => callerMove s t pc k
  | .cancel pc, k => cancelMove s t pc k
  | .writer pc, k => writerMove s pc k
  | .reader pc, k => readerMove s pc k
  | .monitor, .exited (some status) =>
    some (s, .dying .swap (.pluginFailure ("Bun process exited with status " ++ status)) .monitor)
  | .dying stage failure after, _ => some (dyingMove s failure after stage)
  | _, _ => none

def move (s : Shared V) (t : Nat) (pc : Pc V) (k : Input V) :
    Option (Moved (Shared V) (Pc V)) :=
  (pcMove s t pc k).map (fun p => ⟨p.1, p.2, none⟩)

/-- Calls are made, sessions cancel their streams, the transport is shut down, the monitor
looks. -/
def Pc.starts : Pc V → Bool
  | .caller (.enter _) | .cancel (.session _) | .cancel .shutdown | .monitor => true
  | _ => false

def program : Program (Shared V) (Pc V) (Input V) := ⟨Pc.starts, move⟩

def Trace.init : Trace :=
  { written := [], unanswered := [], owner := fun _ => none, expected := fun _ => false
    leaving := fun _ => false, dropped := fun _ => false, received := [], handled := []
    drained := ⟨false, false, false⟩, failedAll := false, controlling := ∅ }

/-- `open_framed` when the handshake is done. -/
def Shared.init (queueCapacity eventQueueCapacity : Nat) (capability : String) : Shared V :=
  let queueCapacity := max queueCapacity 1
  let eventQueueCapacity := max eventQueueCapacity 1
  { process := .start
    sender := .empty queueCapacity
    eventSender := .empty eventQueueCapacity
    controlSender := .empty (queueCapacity + 1)
    pending := ⟨∅, ∅, ∅⟩
    cancelled := ⟨∅, ∅⟩
    retired := ⟨∅, ∅⟩
    admissionCapacity := ⟨queueCapacity, eventQueueCapacity, max queueCapacity 2⟩
    capability := capability
    slots := ∅
    trace := .init }

/-- The writer is thread 0 and the reader thread 1. -/
def init (queueCapacity eventQueueCapacity : Nat) (capability : String) :
    Threads (Shared V) (Pc V) :=
  { shared := .init queueCapacity eventQueueCapacity capability
    pool := (ExtTreeMap.insert ∅ 0 (.writer .control)).insert 1 (.reader .read) }

theorem init_pool {queueCapacity eventQueueCapacity : Nat} {capability : String} {t : Nat} {pc : Pc V}
    (h : (init queueCapacity eventQueueCapacity capability).pool[t]? = some pc) :
    (t = 1 ∧ pc = .reader .read) ∨ (t = 0 ∧ pc = .writer .control) := by
  simp only [init, getElem?_insert_nat] at h
  split at h
  · next ht => exact .inl ⟨ht.symm, (Option.some.inj h).symm⟩
  · grind

theorem move_eq_some {s : Shared V} {t : Nat} {pc : Pc V} {k : Input V}
    {m : Moved (Shared V) (Pc V)} (h : move s t pc k = some m) :
    pcMove s t pc k = some (m.shared, m.next) ∧ m.child = none := by
  unfold move at h
  obtain ⟨p, hp, rfl⟩ := Option.map_eq_some_iff.mp h
  exact ⟨hp, rfl⟩

/-! ## What a step can be -/

/-- The steps of a thread, one by one: where it stands, what comes from outside, the state after
it and where the thread goes on. -/
inductive Moves (s : Shared V) (t : Nat) : Pc V → Input V → Shared V → Pc V → Prop
  -- `call_on` and `stream_request`
  | enter (call : Call) (k : Input V) (alive : s.process.alive = true) :
      Moves s t (.caller (.enter call)) k s (.caller (.encode call))
  | enterDead (call : Call) (k : Input V) (dead : s.process.alive = false) :
      Moves s t (.caller (.enter call)) k s (.caller (.refuse call))
  | refuse (call : Call) (k : Input V) :
      Moves s t (.caller (.refuse call)) k s (.refused (s.process.refusal s.capability))
  | encode (call : Call) :
      Moves s t (.caller (.encode call)) (.encoded true) s (.caller (.insert call))
  | tooLarge (call : Call) :
      Moves s t (.caller (.encode call)) (.encoded false) s (.refused (protocolViolation none))
  | insert (call : Call) (k : Input V) (check : insertCheck s call = none) :
      Moves s t (.caller (.insert call)) k (s.insertCall t call) (.caller (.send call))
  | insertRefused (call : Call) (k : Input V) (failure : RuntimeFailure)
      (check : insertCheck s call = some failure) :
      Moves s t (.caller (.insert call)) k s (.refused failure)
  | queue (call : Call) (k : Input V) (ch : BoundedChannel Frame)
      (sent : (s.wireSender call.lane).trySend (.call call) = .ok ch) :
      Moves s t (.caller (.send call)) k (s.queueCall call ch) (.caller (.holding call))
  | sendFails (call : Call) (k : Input V) (error : TrySendError)
      (failed : (s.wireSender call.lane).trySend (.call call) = .error error) :
      Moves s t (.caller (.send call)) k s (.caller (.undo call error))
  | undoFull (call : Call) (k : Input V) :
      Moves s t (.caller (.undo call .full)) k (s.dropEntry call.lane call.requestId)
        (.refused (.resourceExhausted call.capability call.operation))
  | undoStopped (call : Call) (k : Input V) :
      Moves s t (.caller (.undo call .disconnected)) k (s.dropEntry call.lane call.requestId)
        (.caller (.stopped call))
  | stopped (call : Call) (status : Option String) (failure : RuntimeFailure) :
      Moves s t (.caller (.stopped call)) (.exited status) s
        (.dying .swap failure (.caller failure))
  | poll (call : Call) : Moves s t (.caller (.holding call)) .poll s .done
  | drop (call : Call) :
      Moves s t (.caller (.holding call)) .drop (s.dropCall t call) (.cancel (dropPc call))
  -- cancels
  | takeRequest (requestId u : Nat) (k : Input V)
      (found : s.pending.request[requestId]? = some u) :
      Moves s t (.cancel (.pending requestId)) k (s.takeEntry .request requestId)
        (.cancel (.alive requestId))
  | missRequest (requestId : Nat) (k : Input V) (missing : s.pending.request[requestId]? = none) :
      Moves s t (.cancel (.pending requestId)) k s (.cancel (.eventPending requestId))
  | takeEvent (requestId u : Nat) (k : Input V) (found : s.pending.event[requestId]? = some u) :
      Moves s t (.cancel (.eventPending requestId)) k (s.takeEntry .event requestId)
        (.cancel (.alive requestId))
  | missEvent (requestId : Nat) (k : Input V) (missing : s.pending.event[requestId]? = none) :
      Moves s t (.cancel (.eventPending requestId)) k (s.endControl t) .done
  | takeStream (requestId streamId u : Nat) (k : Input V)
      (found : s.pending.stream[requestId]? = some u) :
      Moves s t (.cancel (.streamPending requestId streamId)) k (s.takeEntry .stream requestId)
        (.cancel (.remember (.stream requestId streamId)))
  | missStream (requestId streamId : Nat) (k : Input V)
      (missing : s.pending.stream[requestId]? = none) :
      Moves s t (.cancel (.streamPending requestId streamId)) k (s.endControl t) .done
  | cancelAlive (requestId : Nat) (k : Input V) (alive : s.process.alive = true) :
      Moves s t (.cancel (.alive requestId)) k s (.cancel (.remember (.call requestId)))
  | cancelDead (requestId : Nat) (k : Input V) (dead : s.process.alive = false) :
      Moves s t (.cancel (.alive requestId)) k (s.endControl t) .done
  | remember (x : Cancelled) (k : Input V) :
      Moves s t (.cancel (.remember x)) k (s.rememberCancelled x.key) (.cancel (.retire x))
  | retireCancelled (x : Cancelled) (k : Input V) :
      Moves s t (.cancel (.retire x)) k (s.retire x.key) (.cancel (lastPc x))
  | streamAlive (streamId : Nat) (k : Input V) (alive : s.process.alive = true) :
      Moves s t (.cancel (.streamAlive streamId)) k s (.cancel (.send (.streamCancel streamId)))
  | streamDead (streamId : Nat) (k : Input V) (dead : s.process.alive = false) :
      Moves s t (.cancel (.streamAlive streamId)) k (s.endControl t) .done
  | control (frame : Frame) (ch : BoundedChannel Frame) (sent : s.controlSender.trySend frame = .ok ch) :
      Moves s t (.cancel (.send frame)) (.encoded true)
        ({ s with controlSender := ch }.endControl t) .done
  | controlFails (frame : Frame) (error : TrySendError)
      (failed : s.controlSender.trySend frame = .error error) :
      Moves s t (.cancel (.send frame)) (.encoded true) (s.endControl t)
        (.dying .swap (controlFailure frame) .cancel)
  | controlTooLarge (frame : Frame) :
      Moves s t (.cancel (.send frame)) (.encoded false) (s.endControl t) .done
  | session (streamId : Nat) (k : Input V) :
      Moves s t (.cancel (.session streamId)) k (s.beginControl t)
        (.cancel (.streamAlive streamId))
  | shutdown (k : Input V) (alive : s.process.alive = true) :
      Moves s t (.cancel .shutdown) k (s.beginControl t) (.cancel .shutdownSend)
  | shutdownDead (k : Input V) (dead : s.process.alive = false) :
      Moves s t (.cancel .shutdown) k s .done
  | shutdownSend (ch : BoundedChannel Frame) (sent : s.controlSender.trySend .shutdown = .ok ch) :
      Moves s t (.cancel .shutdownSend) (.encoded true)
        ({ s with controlSender := ch }.endControl t) .done
  | shutdownLost (k : Input V) : Moves s t (.cancel .shutdownSend) k (s.endControl t) .done
  -- the writer
  | writerControl (frame : Frame) (ch : BoundedChannel Frame) (k : Input V)
      (taken : s.controlSender.tryRecv = some (frame, ch)) :
      Moves s t (.writer .control) k { s with controlSender := ch } (.writer (.write frame))
  | noControl (k : Input V) : Moves s t (.writer .control) k s (.writer .event)
  | writerEvent (frame : Frame) (ch : BoundedChannel Frame) (k : Input V)
      (taken : s.eventSender.tryRecv = some (frame, ch)) :
      Moves s t (.writer .event) k { s with eventSender := ch } (.writer (.write frame))
  | noEvent (k : Input V) : Moves s t (.writer .event) k s (.writer .request)
  | writerRequest (frame : Frame) (ch : BoundedChannel Frame) (k : Input V)
      (taken : s.sender.tryRecv = some (frame, ch)) :
      Moves s t (.writer .request) k { s with sender := ch } (.writer (.write frame))
  | noRequest (k : Input V) : Moves s t (.writer .request) k s (.writer .wait)
  | writerWait (frame : Frame) (ch : BoundedChannel Frame) (k : Input V)
      (taken : s.sender.tryRecv = some (frame, ch)) :
      Moves s t (.writer .wait) k { s with sender := ch } (.writer (.write frame))
  | timeout (k : Input V) : Moves s t (.writer .wait) k s (.writer .control)
  | write (frame : Frame) :
      Moves s t (.writer (.write frame)) (.written none) (s.write frame) (.writer .control)
  | writeFails (frame : Frame) (error : String) :
      Moves s t (.writer (.write frame)) (.written (some error)) s
        (.dying .swap (.pluginFailure ("Bun framed-stdio write failed: " ++ error)) .writer)
  | exit (k : Input V) : Moves s t (.writer .exit) k s.closeWriter .done
  -- the reader
  | response (requestId : Nat) (outcome : V) :
      Moves s t (.reader .read) (.read (.response requestId outcome)) (s.receive (.call, requestId))
        (.reader (.pending requestId outcome))
  | streamResponse (requestId : Nat) (outcome : V) :
      Moves s t (.reader .read) (.read (.streamResponse requestId outcome))
        (s.receive (.stream, requestId)) (.reader (.streamPending requestId outcome))
  | other : Moves s t (.reader .read) (.read .other) s
      (.dying .swap (protocolViolation (some s.capability)) .reader)
  | error (failure : RuntimeFailure) : Moves s t (.reader .read) (.read (.error failure)) s
      (.dying .swap (s.process.failure.getD failure) .reader)
  | answerRequest (requestId u : Nat) (outcome : V) (k : Input V)
      (found : s.pending.request[requestId]? = some u) :
      Moves s t (.reader (.pending requestId outcome)) k (s.answerCall .request requestId)
        (.reader (.retire (.call, requestId) (some (u, outcome))))
  | notRequest (requestId : Nat) (outcome : V) (k : Input V)
      (missing : s.pending.request[requestId]? = none) :
      Moves s t (.reader (.pending requestId outcome)) k s
        (.reader (.eventPending requestId outcome))
  | answerEvent (requestId u : Nat) (outcome : V) (k : Input V)
      (found : s.pending.event[requestId]? = some u) :
      Moves s t (.reader (.eventPending requestId outcome)) k (s.answerCall .event requestId)
        (.reader (.retire (.call, requestId) (some (u, outcome))))
  | notEvent (requestId : Nat) (outcome : V) (k : Input V)
      (missing : s.pending.event[requestId]? = none) :
      Moves s t (.reader (.eventPending requestId outcome)) k s
        (.reader (.cancelled (.call, requestId)))
  | answerStream (requestId u : Nat) (outcome : V) (k : Input V)
      (found : s.pending.stream[requestId]? = some u) :
      Moves s t (.reader (.streamPending requestId outcome)) k (s.answerCall .stream requestId)
        (.reader (.retire (.stream, requestId) (some (u, outcome))))
  | notStream (requestId : Nat) (outcome : V) (k : Input V)
      (missing : s.pending.stream[requestId]? = none) :
      Moves s t (.reader (.streamPending requestId outcome)) k s
        (.reader (.cancelled (.stream, requestId)))
  | absorb (key : Key) (k : Input V) (found : (s.cancelled.get key.1)[key.2]?.isSome = true) :
      Moves s t (.reader (.cancelled key)) k (s.absorb key) (.reader (.retire key none))
  | violation (key : Key) (k : Input V) (missing : (s.cancelled.get key.1)[key.2]? = none) :
      Moves s t (.reader (.cancelled key)) k s
        (.dying .swap (protocolViolation (some s.capability)) .reader)
  | retireLate (key : Key) (k : Input V) :
      Moves s t (.reader (.retire key none)) k ((s.retire key).finish key none) (.reader .read)
  | retireAnswered (key : Key) (u : Nat) (outcome : V) (k : Input V) :
      Moves s t (.reader (.retire key (some (u, outcome)))) k (s.retire key)
        (.reader (.deliver key u outcome))
  | deliver (key : Key) (u : Nat) (outcome : V) (k : Input V) :
      Moves s t (.reader (.deliver key u outcome)) k
        ((s.resolve u (.answered outcome)).finish key (some u)) (.reader .read)
  -- `mark_dead`
  | exited (status : String) : Moves s t .monitor (.exited (some status)) s
      (.dying .swap (.pluginFailure ("Bun process exited with status " ++ status)) .monitor)
  | kill (failure : RuntimeFailure) (after : After) (k : Input V)
      (alive : s.process.alive = true) :
      Moves s t (.dying .swap failure after) k
        { s with process := { s.process with alive := false } } (.dying .store failure after)
  | killed (failure : RuntimeFailure) (after : After) (k : Input V)
      (dead : s.process.alive = false) :
      Moves s t (.dying .swap failure after) k s after.pc
  | store (failure : RuntimeFailure) (after : After) (k : Input V) :
      Moves s t (.dying .store failure after) k
        { s with process := { s.process with failure := some failure } }
        (.dying .pending failure after)
  | failPending (failure : RuntimeFailure) (after : After) (k : Input V) :
      Moves s t (.dying .pending failure after) k (s.drain .request failure)
        (.dying .eventPending failure after)
  | failEvent (failure : RuntimeFailure) (after : After) (k : Input V) :
      Moves s t (.dying .eventPending failure after) k (s.drain .event failure)
        (.dying .cancelled failure after)
  | clearCancelled (failure : RuntimeFailure) (after : After) (k : Input V) :
      Moves s t (.dying .cancelled failure after) k
        { s with cancelled := s.cancelled.set .call ∅ } (.dying .streamPending failure after)
  | failStream (failure : RuntimeFailure) (after : After) (k : Input V) :
      Moves s t (.dying .streamPending failure after) k (s.drain .stream failure)
        (.dying .streamCancelled failure after)
  | clearStreamCancelled (failure : RuntimeFailure) (after : After) (k : Input V) :
      Moves s t (.dying .streamCancelled failure after) k
        { s with cancelled := s.cancelled.set .stream ∅
                 trace := { s.trace with failedAll := true } } (.dying .notify failure after)
  | notify (failure : RuntimeFailure) (after : After) (k : Input V) :
      Moves s t (.dying .notify failure after) k s after.pc

section

variable {s s' : Shared V} {t : Nat} {pc pc' : Pc V} {k : Input V}

theorem callerMove_moves {pc : CallerPc} (h : callerMove s t pc k = some (s', pc')) :
    Moves s t (.caller pc) k s' pc' := by
  unfold callerMove at h
  repeat' split at h
  all_goals grind [Moves]

theorem cancelMove_moves {pc : CancelPc} (h : cancelMove s t pc k = some (s', pc')) :
    Moves s t (.cancel pc) k s' pc' := by
  unfold cancelMove takeMove at h
  repeat' split at h
  all_goals grind [Moves, PerLane.get]

theorem writerMove_moves {pc : WriterPc} (h : writerMove s pc k = some (s', pc')) :
    Moves s t (.writer pc) k s' pc' := by
  unfold writerMove at h
  repeat' split at h
  all_goals grind [Moves]

theorem readerMove_moves {pc : ReaderPc V} (h : readerMove s pc k = some (s', pc')) :
    Moves s t (.reader pc) k s' pc' := by
  unfold readerMove readMessage answerMove at h
  repeat' split at h
  all_goals grind [Moves, PerLane.get, Lane.group]

theorem dyingMove_moves {stage : Stage} {failure : RuntimeFailure} {after : After}
    (h : dyingMove s failure after stage = (s', pc')) :
    Moves s t (.dying stage failure after) k s' pc' := by
  unfold dyingMove at h
  repeat' split at h
  all_goals grind [Moves]

theorem pcMove_moves (h : pcMove s t pc k = some (s', pc')) : Moves s t pc k s' pc' := by
  cases pc with
  | caller => exact callerMove_moves h
  | cancel => exact cancelMove_moves h
  | writer => exact writerMove_moves h
  | reader => exact readerMove_moves h
  | monitor =>
    cases k with
    | exited status =>
      cases status <;> cases h
      exact .exited _
    | _ => cases h
  | dying => exact dyingMove_moves (Option.some.inj h)
  | _ => cases h

theorem move_moves {m : Moved (Shared V) (Pc V)} (h : move s t pc k = some m) :
    Moves s t pc k m.shared m.next :=
  pcMove_moves (move_eq_some h).1

theorem dead_mono (h : Moves s t pc k s' pc') (hd : s.process.alive = false) :
    s'.process.alive = false := by
  cases h with
  | kill => rfl
  | _ => exact hd

end

end LensoBun.Transport.Framed
