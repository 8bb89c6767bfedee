import LensoBun.Lib.Threads
import LensoBun.Transport.Process

set_option autoImplicit false

/-! # The JSON-RPC transport as threads

Callers, cancels, the workers with the calls they execute, the cancellation workers and whoever
finds the process dead, over the tables of `JsonRpcTransport` (`transport/json_rpc.rs`). Steps are
taken as in `Transport.Framed`. The futures of a worker are threads of their own; a worker counts
those that have not finished.

`cancellations` maps an id to the flag its call carries; the flag, like the call, is known by the
number of the thread that made the call. The workers' runtimes are taken to have started.

`controlling` is not part of the source: it records the threads on their way to a send on a
cancellation channel.
-/

namespace LensoBun.Transport.JsonRpc

open Std Lib

variable {V : Type}

/-! ## State -/

/-- `HttpCall` and `HttpStreamCall`: the call and its flag. -/
structure HttpCall where
  call : Call
  flag : Nat
  deriving DecidableEq, Repr

structure Shared (V : Type) where
  process : ProcessState
  /-- `sender`, `event_sender` and `stream_sender`. -/
  senders : PerLane (BoundedChannel HttpCall)
  /-- `cancel_sender` with request ids, `stream_cancel_sender` with stream ids. -/
  cancelSenders : PerGroup (BoundedChannel Nat)
  /-- `pending`, `event_pending` and `stream_pending`. -/
  pending : PerLane PendingResponses
  /-- `cancellations` and `stream_cancellations`. -/
  cancellations : PerGroup (ExtTreeMap Nat Nat)
  flags : ExtTreeMap Nat Bool
  /-- `retired` and `stream_retired`. -/
  retired : PerGroup RequestIds
  admissionCapacity : PerLane Nat
  /-- How many calls a worker executes at a time, and how many it is executing. -/
  maxInFlight : PerLane Nat
  inFlight : PerLane Nat
  capability : String
  slots : ExtTreeMap Nat (Resolution V)
  controlling : PerGroup RequestIds

/-! ## Threads -/

inductive Input (V : Type) where
  | go
  /-- Whether the encoded request fits `max_frame_bytes`. -/
  | encoded (fits : Bool)
  /-- What a look at the child finds: its exit status, if it has exited. -/
  | exited (status : Option String)
  | outcome (outcome : V)
  | httpError (failure : RuntimeFailure)
  | poll
  | drop

/-- `call` and `stream_request`, and their owner with the call. -/
inductive CallerPc where
  | enter (call : Call)
  | refuse (call : Call)
  | encode (call : Call)
  | retired (call : Call)
  | cancellations (call : Call)
  | pending (call : Call)
  | send (call : Call)
  | undoCancellation (call : Call) (error : TrySendError)
  | undoPending (call : Call) (error : TrySendError)
  | stopped (call : Call)
  | holding (call : Call)
  deriving DecidableEq, Repr

/-- `cancel`, `cancel_stream_call` and `cancel_stream`. A stream session cancels its stream
without a call. -/
inductive CancelPc where
  | cancellations (x : Cancelled)
  | flag (x : Cancelled) (flag : Nat)
  | pending (requestId : Nat)
  | eventPending (requestId : Nat)
  | streamPending (requestId streamId : Nat)
  | retire (x : Cancelled)
  | streamAlive (streamId : Nat)
  | send (group : Group) (id : Nat)
  | session (streamId : Nat)
  deriving DecidableEq, Repr

/-- `execute_json_rpc_call` and `execute_json_rpc_stream_call`. -/
inductive ExecutePc (V : Type) where
  | encode (call : HttpCall)
  | check (call : HttpCall)
  | request (call : HttpCall)
  | recheck (call : HttpCall) (outcome : V)
  | failed (call : HttpCall) (failure : RuntimeFailure)
  | finish (call : HttpCall) (result : Resolution V)
  | finishPending (call : HttpCall) (result : Resolution V)
  | finishEvent (call : HttpCall) (result : Resolution V)
  | finishRetire (call : HttpCall)
  deriving DecidableEq, Repr

inductive ControlPc where
  | recv
  | check (id : Nat)
  | request (id : Nat)
  deriving DecidableEq, Repr

/-- `mark_dead`, with `fail_all` as its failure handler. -/
inductive Stage where
  | swap
  | store
  | cancellations
  | pending
  | eventPending
  | streamCancellations
  | streamPending
  | notify
  deriving DecidableEq, Repr

/-- Who has called `mark_dead`. -/
inductive After where
  | monitor
  | caller (failure : RuntimeFailure)
  | cancel
  | execute (call : HttpCall) (failure : RuntimeFailure)
  deriving DecidableEq, Repr

inductive Pc (V : Type) where
  | caller (pc : CallerPc)
  | cancel (pc : CancelPc)
  | worker (lane : Lane)
  | execute (pc : ExecutePc V)
  | control (group : Group) (pc : ControlPc)
  | monitor
  | dying (stage : Stage) (failure : RuntimeFailure) (after : After)
  | refused (failure : RuntimeFailure)
  | done
  deriving DecidableEq, Repr

/-- Where a thread goes on when `mark_dead` has returned. -/
def After.pc : After → Pc V
  | .caller failure => .refused failure
  | .execute call failure => .execute (.finish call (.failed failure))
  | .monitor | .cancel => .done

/-! ## Callers -/

def Shared.beginControl (s : Shared V) (group : Group) (t : Nat) : Shared V :=
  { s with controlling :=
      s.controlling.set group ((s.controlling.get group).insert t ()) }

def Shared.endControl (s : Shared V) (group : Group) (t : Nat) : Shared V :=
  { s with controlling := s.controlling.set group ((s.controlling.get group).erase t) }

/-- The flag of the call is entered under its id. -/
def Shared.insertFlag (s : Shared V) (t : Nat) (call : Call) : Shared V :=
  { s with
    cancellations := s.cancellations.set call.lane.group
      ((s.cancellations.get call.lane.group).insert call.requestId t)
    flags := s.flags.insert t false }

def Shared.removeFlag (s : Shared V) (key : Key) : Shared V :=
  { s with
    cancellations := s.cancellations.set key.1 ((s.cancellations.get key.1).erase key.2) }

def Shared.insertCall (s : Shared V) (t : Nat) (call : Call) : Shared V :=
  { s with
    pending := s.pending.set call.lane ((s.pending.get call.lane).insert call.requestId t) }

/-- The entry of an id is taken out of its registry, and its call gets the result; without one
the sender in the entry is dropped. -/
def Shared.takeEntry (s : Shared V) (lane : Lane) (requestId : Nat) (result : Resolution V) :
    Shared V :=
  { s with
    pending := s.pending.set lane ((s.pending.get lane).erase requestId)
    slots := match (s.pending.get lane)[requestId]? with
      | none => s.slots
      | some call => s.slots.insert call result }

/-- The failure of a call for which there is no room. A stream call names the capability of the
transport, the others their own. -/
def exhausted (s : Shared V) (call : Call) : RuntimeFailure :=
  match call.lane with
  | .request | .event => .resourceExhausted call.capability call.operation
  | .stream => .resourceExhausted s.capability call.operation

/-- What a worker that is gone is reported as. -/
def stoppedFailure (call : Call) : RuntimeFailure :=
  match call.lane with
  | .request | .event => .pluginFailure "Bun JSON-RPC worker stopped"
  | .stream => .pluginFailure "Bun JSON-RPC stream worker stopped"

/-- What `WireCall::drop` and `StreamCall::drop` call. -/
def dropped (call : Call) : Cancelled :=
  match call.kind with
  | .request | .event => .call call.requestId
  | .streamOpen streamId | .streamCall streamId => .stream call.requestId streamId

def callerMove (s : Shared V) (t : Nat) : CallerPc → Input V → Option (Shared V × Pc V)
  | .enter call, _ =>
    some (s, .caller (if s.process.alive then .encode call else .refuse call))
  | .refuse _, _ => some (s, .refused (s.process.refusal s.capability))
  | .encode call, .encoded fits =>
    some (s, if fits then .caller (.retired call)
      else .refused (protocolViolation (some s.capability)))
  | .retired call, _ =>
    if (s.retired.get call.lane.group)[call.requestId]?.isSome then
      some (s, .refused (protocolViolation (some s.capability)))
    else some (s, .caller (.cancellations call))
  | .cancellations call, _ =>
    if (s.cancellations.get call.lane.group)[call.requestId]?.isSome then
      some (s, .refused (protocolViolation (some s.capability)))
    else some (s.insertFlag t call, .caller (.pending call))
  -- the flag is taken out again under the lock of the registry
  | .pending call, _ =>
    if (s.pending.get call.lane)[call.requestId]?.isSome then
      some (s.removeFlag call.key, .refused (protocolViolation (some s.capability)))
    else if s.admissionCapacity.get call.lane ≤ (s.pending.get call.lane).size then
      some (s.removeFlag call.key, .refused (exhausted s call))
    else some (s.insertCall t call, .caller (.send call))
  | .send call, _ =>
    match (s.senders.get call.lane).trySend ⟨call, t⟩ with
    | .ok ch =>
      some ({ s with senders := s.senders.set call.lane ch }, .caller (.holding call))
    | .error error => some (s, .caller (.undoCancellation call error))
  | .undoCancellation call error, _ =>
    some (s.removeFlag call.key, .caller (.undoPending call error))
  | .undoPending call .full, _ =>
    some (s.takeEntry call.lane call.requestId .closed, .refused (exhausted s call))
  | .undoPending call .disconnected, _ =>
    some (s.takeEntry call.lane call.requestId .closed, .caller (.stopped call))
  | .stopped call, .exited status =>
    let failure := s.process.failureOrExit status (stoppedFailure call)
    some (s, .dying .swap failure (.caller failure))
  | .holding _, .poll => if s.slots[t]?.isSome then some (s, .done) else none
  | .holding call, .drop =>
    some (s.beginControl call.lane.group t, .cancel (.cancellations (dropped call)))
  | _, _ => none

/-! ## Cancels -/

def Shared.retire (s : Shared V) (key : Key) : Shared V :=
  { s with retired := s.retired.set key.1 (rememberRequestId (s.retired.get key.1) key.2) }

/-- The registry in which a cancel looks first. -/
def firstPending : Cancelled → CancelPc
  | .call requestId => .pending requestId
  | .stream requestId streamId => .streamPending requestId streamId

/-- What is left to do when the id has been retired. -/
def lastPc : Cancelled → CancelPc
  | .call requestId => .send .call requestId
  | .stream _ streamId => .streamAlive streamId

def controlFailure : Group → RuntimeFailure
  | .call => .pluginFailure "Bun JSON-RPC cancellation channel stopped"
  | .stream => .pluginFailure "Bun JSON-RPC stream cancellation channel stopped"

def cancelMove (s : Shared V) (t : Nat) : CancelPc → Input V → Option (Shared V × Pc V)
  | .cancellations x, _ =>
    match (s.cancellations.get x.key.1)[x.key.2]? with
    | none => some (s.endControl x.key.1 t, .done)
    | some flag => some (s.removeFlag x.key, .cancel (.flag x flag))
  | .flag x flag, _ =>
    some ({ s with flags := s.flags.insert flag true }, .cancel (firstPending x))
  | .pending requestId, _ =>
    match s.pending.request[requestId]? with
    | none => some (s, .cancel (.eventPending requestId))
    | some _ =>
      some (s.takeEntry .request requestId .closed, .cancel (.retire (.call requestId)))
  | .eventPending requestId, _ =>
    some (s.takeEntry .event requestId .closed, .cancel (.retire (.call requestId)))
  | .streamPending requestId streamId, _ =>
    some (s.takeEntry .stream requestId .closed,
      .cancel (.retire (.stream requestId streamId)))
  | .retire x, _ => some (s.retire x.key, .cancel (lastPc x))
  | .streamAlive streamId, _ =>
    if s.process.alive then some (s, .cancel (.send .stream streamId))
    else some (s.endControl .stream t, .done)
  | .send group id, _ =>
    match (s.cancelSenders.get group).trySend id with
    | .ok ch =>
      some ({ s with cancelSenders := s.cancelSenders.set group ch }.endControl group t, .done)
    -- a full channel is taken for a stopped one
    | .error _ => some (s.endControl group t, .dying .swap (controlFailure group) .cancel)
  | .session streamId, _ => some (s.beginControl .stream t, .cancel (.streamAlive streamId))

/-! ## Workers -/

/-- A worker takes the next call if it may execute one more. -/
def workerMove (s : Shared V) (lane : Lane) : Option (Shared V × HttpCall) :=
  if s.inFlight.get lane < s.maxInFlight.get lane then
    (s.senders.get lane).tryRecv.map (fun (call, ch) =>
      ({ s with senders := s.senders.set lane ch
                inFlight := s.inFlight.set lane (s.inFlight.get lane + 1) }, call))
  else none

/-- Requests and events are serialised first. -/
def executeStart (call : HttpCall) : ExecutePc V :=
  match call.call.lane with
  | .request | .event => .encode call
  | .stream => .check call

def cancelledResult (call : HttpCall) : Resolution V :=
  .failed (.cancelled call.call.requestId)

/-- The registry `finish` and `finish_stream` look into first. -/
def finishLane (call : HttpCall) : Lane :=
  match call.call.lane with
  | .request | .event => .request
  | .stream => .stream

def Shared.endExecution (s : Shared V) (lane : Lane) : Shared V :=
  { s with inFlight := s.inFlight.set lane (s.inFlight.get lane - 1) }

def executeMove (s : Shared V) : ExecutePc V → Input V → Option (Shared V × Pc V)
  | .encode call, .encoded fits =>
    some (s, .execute (if fits then .check call
      else .finish call (.failed (protocolViolation none))))
  | .check call, _ =>
    some (s, .execute (if s.flags[call.flag]? = some true then .finish call (cancelledResult call)
      else .request call))
  | .request call, .outcome outcome => some (s, .execute (.recheck call outcome))
  | .request call, .httpError failure => some (s, .execute (.failed call failure))
  | .recheck call outcome, _ =>
    some (s, .execute (.finish call
      (if s.flags[call.flag]? = some true then cancelledResult call else .answered outcome)))
  | .failed call failure, .exited status =>
    some (s, .dying .swap (s.process.failureOrExit status failure) (.execute call failure))
  | .finish call result, _ =>
    some (s.removeFlag call.call.key, .execute (.finishPending call result))
  | .finishPending call result, _ =>
    if (s.pending.get (finishLane call))[call.call.requestId]?.isSome ∨
        call.call.lane = .stream then
      some (s.takeEntry (finishLane call) call.call.requestId result,
        .execute (.finishRetire call))
    else some (s, .execute (.finishEvent call result))
  | .finishEvent call result, _ =>
    some (s.takeEntry .event call.call.requestId result, .execute (.finishRetire call))
  | .finishRetire call, _ => some ((s.retire call.call.key).endExecution call.call.lane, .done)
  | _, _ => none

/-- A cancellation worker takes an id and, while the process is alive, waits for the answer to
its request. -/
def controlMove (s : Shared V) (group : Group) : ControlPc → Input V → Option (Shared V × Pc V)
  | .recv, _ =>
    (s.cancelSenders.get group).tryRecv.map (fun (id, ch) =>
      ({ s with cancelSenders := s.cancelSenders.set group ch }, .control group (.check id)))
  | .check id, _ =>
    some (s, .control group (if s.process.alive then .request id else .recv))
  | .request _, _ => some (s, .control group .recv)

/-! ## The end of the process -/

/-- `fail_all` sets the flags of a group and forgets them. -/
def Shared.clearFlags (s : Shared V) (group : Group) : Shared V :=
  { s with
    cancellations := s.cancellations.set group ∅
    flags := (s.cancellations.get group).foldl (fun flags _ flag => flags.insert flag true)
      s.flags }

def Shared.drain (s : Shared V) (lane : Lane) (failure : RuntimeFailure) : Shared V :=
  { s with
    pending := s.pending.set lane ∅
    slots := (s.pending.get lane).foldl (fun slots _ call => slots.insert call (.failed failure))
      s.slots }

def dyingMove (s : Shared V) (failure : RuntimeFailure) (after : After) :
    Stage → Shared V × Pc V
  | .swap =>
    if s.process.alive then
      ({ s with process := { s.process with alive := false } }, .dying .store failure after)
    else (s, after.pc)
  | .store =>
    ({ s with process := { s.process with failure := some failure } },
      .dying .cancellations failure after)
  | .cancellations => (s.clearFlags .call, .dying .pending failure after)
  | .pending => (s.drain .request failure, .dying .eventPending failure after)
  | .eventPending => (s.drain .event failure, .dying .streamCancellations failure after)
  | .streamCancellations => (s.clearFlags .stream, .dying .streamPending failure after)
  | .streamPending => (s.drain .stream failure, .dying .notify failure after)
  | .notify => (s, after.pc)

/-! ## The program -/

def pcMove (s : Shared V) (t : Nat) : Pc V → Input V → Option (Shared V × Pc V)
  | .caller pc, k => callerMove s t pc k
  | .cancel pc, k => cancelMove s t pc k
  | .execute pc, k => executeMove s pc k
  | .control group pc, k => controlMove s group pc k
  | .monitor, .exited (some status) =>
    some (s, .dying .swap (.pluginFailure ("Bun process exited with status " ++ status)) .monitor)
  | .dying stage failure after, _ => some (dyingMove s failure after stage)
  | _, _ => none

def move (s : Shared V) (t : Nat) (pc : Pc V) (k : Input V) :
    Option (Moved (Shared V) (Pc V)) :=
  match pc with
  | .worker lane =>
    (workerMove s lane).map (fun p => ⟨p.1, .worker lane, some (.execute (executeStart p.2))⟩)
  | pc => (pcMove s t pc k).map (fun p => ⟨p.1, p.2, none⟩)

/-- Calls are made, sessions cancel their streams, the monitor looks. -/
def Pc.starts : Pc V → Bool
  | .caller (.enter _) | .cancel (.session _) | .monitor => true
  | _ => false

def program : Program (Shared V) (Pc V) (Input V) := ⟨Pc.starts, move⟩

/-- `open_json_rpc` when the handshake is done. -/
def Shared.init (queueCapacity eventQueueCapacity : Nat) (capability : String) : Shared V :=
  let queueCapacity := max queueCapacity 1
  let eventQueueCapacity := max eventQueueCapacity 1
  let streamCapacity := max queueCapacity 2
  { process := .start
    senders := ⟨.empty queueCapacity, .empty eventQueueCapacity, .empty streamCapacity⟩
    cancelSenders := ⟨.empty (queueCapacity + 1), .empty (queueCapacity + 1)⟩
    pending := ⟨∅, ∅, ∅⟩
    cancellations := ⟨∅, ∅⟩
    flags := ∅
    retired := ⟨∅, ∅⟩
    admissionCapacity := ⟨queueCapacity, eventQueueCapacity, streamCapacity⟩
    maxInFlight := ⟨queueCapacity, 1, streamCapacity⟩
    inFlight := ⟨0, 0, 0⟩
    capability := capability
    slots := ∅
    controlling := ⟨∅, ∅⟩ }

/-- The workers of the requests, the events and the streams are threads 0, 1 and 2, the
cancellation workers threads 3 and 4. -/
def init (queueCapacity eventQueueCapacity : Nat) (capability : String) :
    Threads (Shared V) (Pc V) :=
  { shared := .init queueCapacity eventQueueCapacity capability
    pool := ((((ExtTreeMap.insert ∅ 0 (.worker .request)).insert 1 (.worker .event)).insert 2
      (.worker .stream)).insert 3 (.control .call .recv)).insert 4 (.control .stream .recv) }

/-! ## What a step can be -/

/-- The steps of a thread other than a worker's, one by one: where it stands, what comes from
outside, the state after it and where the thread goes on. -/
inductive Moves (s : Shared V) (t : Nat) : Pc V → Input V → Shared V → Pc V → Prop
  -- `call` and `stream_request`
  | enter (call : Call) (k : Input V) (alive : s.process.alive = true) :
      Moves s t (.caller (.enter call)) k s (.caller (.encode call))
  | enterDead (call : Call) (k : Input V) (dead : s.process.alive = false) :
      Moves s t (.caller (.enter call)) k s (.caller (.refuse call))
  | refuse (call : Call) (k : Input V) :
      Moves s t (.caller (.refuse call)) k s (.refused (s.process.refusal s.capability))
  | encode (call : Call) :
      Moves s t (.caller (.encode call)) (.encoded true) s (.caller (.retired call))
  | tooLarge (call : Call) :
      Moves s t (.caller (.encode call)) (.encoded false) s
        (.refused (protocolViolation (some s.capability)))
  | retiredId (call : Call) (k : Input V)
      (found : (s.retired.get call.lane.group)[call.requestId]?.isSome = true) :
      Moves s t (.caller (.retired call)) k s (.refused (protocolViolation (some s.capability)))
  | notRetired (call : Call) (k : Input V)
      (missing : (s.retired.get call.lane.group)[call.requestId]? = none) :
      Moves s t (.caller (.retired call)) k s (.caller (.cancellations call))
  | flagged (call : Call) (k : Input V)
      (found : (s.cancellations.get call.lane.group)[call.requestId]?.isSome = true) :
      Moves s t (.caller (.cancellations call)) k s
        (.refused (protocolViolation (some s.capability)))
  | insertFlag (call : Call) (k : Input V)
      (missing : (s.cancellations.get call.lane.group)[call.requestId]? = none) :
      Moves s t (.caller (.cancellations call)) k (s.insertFlag t call) (.caller (.pending call))
  | pendingId (call : Call) (k : Input V)
      (found : (s.pending.get call.lane)[call.requestId]?.isSome = true) :
      Moves s t (.caller (.pending call)) k (s.removeFlag call.key)
        (.refused (protocolViolation (some s.capability)))
  | noRoom (call : Call) (k : Input V)
      (full : s.admissionCapacity.get call.lane ≤ (s.pending.get call.lane).size) :
      Moves s t (.caller (.pending call)) k (s.removeFlag call.key) (.refused (exhausted s call))
  | insertCall (call : Call) (k : Input V)
      (missing : (s.pending.get call.lane)[call.requestId]? = none)
      (room : (s.pending.get call.lane).size < s.admissionCapacity.get call.lane) :
      Moves s t (.caller (.pending call)) k (s.insertCall t call) (.caller (.send call))
  | queue (call : Call) (k : Input V) (ch : BoundedChannel HttpCall)
      (sent : (s.senders.get call.lane).trySend ⟨call, t⟩ = .ok ch) :
      Moves s t (.caller (.send call)) k { s with senders := s.senders.set call.lane ch }
        (.caller (.holding call))
  | sendFails (call : Call) (k : Input V) (error : TrySendError)
      (failed : (s.senders.get call.lane).trySend ⟨call, t⟩ = .error error) :
      Moves s t (.caller (.send call)) k s (.caller (.undoCancellation call error))
  | undoCancellation (call : Call) (k : Input V) (error : TrySendError) :
      Moves s t (.caller (.undoCancellation call error)) k (s.removeFlag call.key)
        (.caller (.undoPending call error))
  | undoFull (call : Call) (k : Input V) :
      Moves s t (.caller (.undoPending call .full)) k
        (s.takeEntry call.lane call.requestId .closed) (.refused (exhausted s call))
  | undoStopped (call : Call) (k : Input V) :
      Moves s t (.caller (.undoPending call .disconnected)) k
        (s.takeEntry call.lane call.requestId .closed) (.caller (.stopped call))
  | stopped (call : Call) (status : Option String) (failure : RuntimeFailure) :
      Moves s t (.caller (.stopped call)) (.exited status) s
        (.dying .swap failure (.caller failure))
  | poll (call : Call) : Moves s t (.caller (.holding call)) .poll s .done
  | drop (call : Call) :
      Moves s t (.caller (.holding call)) .drop (s.beginControl call.lane.group t)
        (.cancel (.cancellations (dropped call)))
  -- cancels
  | notFlagged (x : Cancelled) (k : Input V)
      (missing : (s.cancellations.get x.key.1)[x.key.2]? = none) :
      Moves s t (.cancel (.cancellations x)) k (s.endControl x.key.1 t) .done
  | takeFlag (x : Cancelled) (k : Input V) (flag : Nat)
      (found : (s.cancellations.get x.key.1)[x.key.2]? = some flag) :
      Moves s t (.cancel (.cancellations x)) k (s.removeFlag x.key) (.cancel (.flag x flag))
  | setFlag (x : Cancelled) (k : Input V) (flag : Nat) :
      Moves s t (.cancel (.flag x flag)) k { s with flags := s.flags.insert flag true }
        (.cancel (firstPending x))
  | takeRequest (requestId u : Nat) (k : Input V)
      (found : s.pending.request[requestId]? = some u) :
      Moves s t (.cancel (.pending requestId)) k (s.takeEntry .request requestId .closed)
        (.cancel (.retire (.call requestId)))
  | missRequest (requestId : Nat) (k : Input V) (missing : s.pending.request[requestId]? = none) :
      Moves s t (.cancel (.pending requestId)) k s (.cancel (.eventPending requestId))
  | takeEvent (requestId : Nat) (k : Input V) :
      Moves s t (.cancel (.eventPending requestId)) k (s.takeEntry .event requestId .closed)
        (.cancel (.retire (.call requestId)))
  | takeStream (requestId streamId : Nat) (k : Input V) :
      Moves s t (.cancel (.streamPending requestId streamId)) k
        (s.takeEntry .stream requestId .closed) (.cancel (.retire (.stream requestId streamId)))
  | retire (x : Cancelled) (k : Input V) :
      Moves s t (.cancel (.retire x)) k (s.retire x.key) (.cancel (lastPc x))
  | streamAlive (streamId : Nat) (k : Input V) (alive : s.process.alive = true) :
      Moves s t (.cancel (.streamAlive streamId)) k s (.cancel (.send .stream streamId))
  | streamDead (streamId : Nat) (k : Input V) (dead : s.process.alive = false) :
      Moves s t (.cancel (.streamAlive streamId)) k (s.endControl .stream t) .done
  | control (group : Group) (id : Nat) (k : Input V) (ch : BoundedChannel Nat)
      (sent : (s.cancelSenders.get group).trySend id = .ok ch) :
      Moves s t (.cancel (.send group id)) k
        ({ s with cancelSenders := s.cancelSenders.set group ch }.endControl group t) .done
  | controlFails (group : Group) (id : Nat) (k : Input V) (error : TrySendError)
      (failed : (s.cancelSenders.get group).trySend id = .error error) :
      Moves s t (.cancel (.send group id)) k (s.endControl group t)
        (.dying .swap (controlFailure group) .cancel)
  | session (streamId : Nat) (k : Input V) :
      Moves s t (.cancel (.session streamId)) k (s.beginControl .stream t)
        (.cancel (.streamAlive streamId))
  -- the calls a worker executes
  | serialise (call : HttpCall) :
      Moves s t (.execute (.encode call)) (.encoded true) s (.execute (.check call))
  | notSerialised (call : HttpCall) :
      Moves s t (.execute (.encode call)) (.encoded false) s
        (.execute (.finish call (.failed (protocolViolation none))))
  | wasCancelled (call : HttpCall) (k : Input V) (set : s.flags[call.flag]? = some true) :
      Moves s t (.execute (.check call)) k s (.execute (.finish call (cancelledResult call)))
  | notCancelled (call : HttpCall) (k : Input V) (unset : s.flags[call.flag]? ≠ some true) :
      Moves s t (.execute (.check call)) k s (.execute (.request call))
  | outcome (call : HttpCall) (outcome : V) :
      Moves s t (.execute (.request call)) (.outcome outcome) s (.execute (.recheck call outcome))
  | httpError (call : HttpCall) (failure : RuntimeFailure) :
      Moves s t (.execute (.request call)) (.httpError failure) s
        (.execute (.failed call failure))
  | recheck (call : HttpCall) (outcome : V) (k : Input V) (result : Resolution V) :
      Moves s t (.execute (.recheck call outcome)) k s (.execute (.finish call result))
  | failed (call : HttpCall) (failure failure' : RuntimeFailure) (status : Option String) :
      Moves s t (.execute (.failed call failure)) (.exited status) s
        (.dying .swap failure' (.execute call failure))
  | finish (call : HttpCall) (result : Resolution V) (k : Input V) :
      Moves s t (.execute (.finish call result)) k (s.removeFlag call.call.key)
        (.execute (.finishPending call result))
  | finishPending (call : HttpCall) (result : Resolution V) (k : Input V) :
      Moves s t (.execute (.finishPending call result)) k
        (s.takeEntry (finishLane call) call.call.requestId result) (.execute (.finishRetire call))
  | notPending (call : HttpCall) (result : Resolution V) (k : Input V)
      (missing : s.pending.request[call.call.requestId]? = none)
      (lane : call.call.lane ≠ .stream) :
      Moves s t (.execute (.finishPending call result)) k s (.execute (.finishEvent call result))
  | finishEvent (call : HttpCall) (result : Resolution V) (k : Input V) :
      Moves s t (.execute (.finishEvent call result)) k
        (s.takeEntry .event call.call.requestId result) (.execute (.finishRetire call))
  | finishRetire (call : HttpCall) (k : Input V) :
      Moves s t (.execute (.finishRetire call)) k
        ((s.retire call.call.key).endExecution call.call.lane) .done
  -- the cancellation workers
  | controlRecv (group : Group) (id : Nat) (ch : BoundedChannel Nat) (k : Input V)
      (taken : (s.cancelSenders.get group).tryRecv = some (id, ch)) :
      Moves s t (.control group .recv) k { s with cancelSenders := s.cancelSenders.set group ch }
        (.control group (.check id))
  | controlAlive (group : Group) (id : Nat) (k : Input V) (alive : s.process.alive = true) :
      Moves s t (.control group (.check id)) k s (.control group (.request id))
  | controlDead (group : Group) (id : Nat) (k : Input V) (dead : s.process.alive = false) :
      Moves s t (.control group (.check id)) k s (.control group .recv)
  | controlRequest (group : Group) (id : Nat) (k : Input V) :
      Moves s t (.control group (.request id)) k s (.control group .recv)
  -- `mark_dead`
  | exited (status : String) : Moves s t .monitor (.exited (some status)) s
      (.dying .swap (.pluginFailure ("Bun process exited with status " ++ status)) .monitor)
  | kill (failure : RuntimeFailure) (after : After) (k : Input V)
      (alive : s.process.alive = true) :
      Moves s t (.dying .swap failure after) k
        { s with process := { s.process with alive := false } } (.dying .store failure after)
  | killed (failure : RuntimeFailure) (after : After) (k : Input V)
      (dead : s.process.alive = false) :
      Moves s t (.dying .swap failure after) k s after.pc
  | store (failure : RuntimeFailure) (after : After) (k : Input V) :
      Moves s t (.dying .store failure after) k
        { s with process := { s.process with failure := some failure } }
        (.dying .cancellations failure after)
  | clearFlags (failure : RuntimeFailure) (after : After) (k : Input V) :
      Moves s t (.dying .cancellations failure after) k (s.clearFlags .call)
        (.dying .pending failure after)
  | failPending (failure : RuntimeFailure) (after : After) (k : Input V) :
      Moves s t (.dying .pending failure after) k (s.drain .request failure)
        (.dying .eventPending failure after)
  | failEvent (failure : RuntimeFailure) (after : After) (k : Input V) :
      Moves s t (.dying .eventPending failure after) k (s.drain .event failure)
        (.dying .streamCancellations failure after)
  | clearStreamFlags (failure : RuntimeFailure) (after : After) (k : Input V) :
      Moves s t (.dying .streamCancellations failure after) k (s.clearFlags .stream)
        (.dying .streamPending failure after)
  | failStream (failure : RuntimeFailure) (after : After) (k : Input V) :
      Moves s t (.dying .streamPending failure after) k (s.drain .stream failure)
        (.dying .notify failure after)
  | notify (failure : RuntimeFailure) (after : After) (k : Input V) :
      Moves s t (.dying .notify failure after) k s after.pc

section

variable {s s' : Shared V} {t : Nat} {pc pc' : Pc V} {k : Input V}

theorem callerMove_moves {pc : CallerPc} (h : callerMove s t pc k = some (s', pc')) :
    Moves s t (.caller pc) k s' pc' := by
  unfold callerMove at h
  repeat' split at h
  all_goals grind [Moves]

theorem cancelMove_moves {pc : CancelPc} (h : cancelMove s t pc k = some (s', pc')) :
    Moves s t (.cancel pc) k s' pc' := by
  unfold cancelMove at h
  repeat' split at h
  all_goals grind [Moves]

theorem executeMove_moves {pc : ExecutePc V} (h : executeMove s pc k = some (s', pc')) :
    Moves s t (.execute pc) k s' pc' := by
  unfold executeMove at h
  repeat' split at h
  all_goals grind [Moves, PerLane.get, finishLane]

theorem controlMove_moves {group : Group} {pc : ControlPc}
    (h : controlMove s group pc k = some (s', pc')) : Moves s t (.control group pc) k s' pc' := by
  cases pc with
  | recv =>
    simp only [controlMove, Option.map_eq_some_iff] at h
    obtain ⟨⟨id, ch⟩, htaken, heq⟩ := h
    cases heq
    exact .controlRecv group id ch k htaken
  | check id =>
    cases h
    split
    · next halive => exact .controlAlive group id k halive
    · next hdead => exact .controlDead group id k (by simpa using hdead)
  | request id =>
    cases h
    exact .controlRequest group id k

theorem dyingMove_moves {stage : Stage} {failure : RuntimeFailure} {after : After}
    (h : dyingMove s failure after stage = (s', pc')) :
    Moves s t (.dying stage failure after) k s' pc' := by
  unfold dyingMove at h
  repeat' split at h
  all_goals grind [Moves]

theorem pcMove_moves (h : pcMove s t pc k = some (s', pc')) : Moves s t pc k s' pc' := by
  cases pc with
  | caller => exact callerMove_moves h
  | cancel => exact cancelMove_moves h
  | execute => exact executeMove_moves h
  | control => exact controlMove_moves h
  | monitor =>
    cases k with
    | exited status =>
      cases status <;> cases h
      exact .exited _
    | _ => cases h
  | dying => exact dyingMove_moves (Option.some.inj h)
  | _ => cases h

/-- A step is a worker's, which starts the call it takes, or one of `Moves`, which starts
nothing. -/
theorem move_cases {m : Moved (Shared V) (Pc V)} (h : move s t pc k = some m) :
    (∃ lane call ch, pc = .worker lane ∧ (s.senders.get lane).tryRecv = some (call, ch) ∧
      m = ⟨{ s with senders := s.senders.set lane ch
                    inFlight := s.inFlight.set lane (s.inFlight.get lane + 1) },
        .worker lane, some (.execute (executeStart call))⟩) ∨
      (Moves s t pc k m.shared m.next ∧ m.child = none) := by
  cases pc with
  | worker lane =>
    simp only [move, workerMove, Option.map_eq_some_iff] at h
    obtain ⟨p, hp, rfl⟩ := h
    split at hp
    · obtain ⟨⟨call, ch⟩, htaken, rfl⟩ := Option.map_eq_some_iff.mp hp
      exact Or.inl ⟨lane, call, ch, rfl, htaken, rfl⟩
    · cases hp
  | _ =>
    simp only [move, Option.map_eq_some_iff] at h
    obtain ⟨p, hp, rfl⟩ := h
    exact Or.inr ⟨pcMove_moves hp, rfl⟩

end

end LensoBun.Transport.JsonRpc
