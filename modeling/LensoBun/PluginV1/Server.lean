import LensoBun.Lib.Threads
import LensoBun.PluginV1.Deadlines

set_option autoImplicit false

/-! # The V1 plugin server

The HTTP server that `startPlugin` of `index.ts` starts. Every message is a thread: it has been read
and parsed when it is there, what runs up to the first await is one step, and what runs after it is
another. The plugin's code decides what `create`, `stop` and the handlers do and when they end; the
values of `crypto.randomUUID` come from outside, and so does the firing of a timer.

A message keeps the number of the peer that has sent it, and a thread that has ended keeps its message
and the reply. Of the instance it matters whether it is there. The values of requests and outcomes are
of a type `V`.

`events` is not part of the source: it records what is started, answered and completed, in order.
-/

namespace LensoBun.PluginV1.Server

open Std Lib

variable {V : Type}

/-! ## Definition and options -/

/-- The definition and the options that `startPlugin` is given. -/
structure Config where
  maxFrameBytes : Nat
  maxConcurrentRequests : Nat
  maxRetiredRequestIds : Nat
  managedLifecycle : Bool
  hasCreate : Bool
  hasStop : Bool
  dependencies : Dependencies
  pluginEndpoints : List EndpointDescriptor
  expectedEndpoints : List EndpointDescriptor
  retired_pos : 0 < maxRetiredRequestIds

/-! ## Messages -/

/-- A handshake; `endpoints` is `none` if they are no array. -/
structure Handshake where
  protocolVersion : Nat
  valueProfile : String
  maxFrameBytes : Nat
  endpoints : Option (List EndpointDescriptor)
  deriving DecidableEq, Repr

structure ActivationRequest where
  session : Option String
  activation : Activation
  deriving DecidableEq, Repr

/-- What a message asks for. `none` stands for params that are no object or, in a request, have a
field of a wrong type. -/
inductive Call (V : Type) where
  | notPost
  | tooLarge
  | unparsable
  | notJsonRpc
  | handshake (handshake : Option Handshake)
  | cancel (session : Option String) (requestId : Option Nat)
  | activate (activation : Option ActivationRequest)
  | shutdown (session : Option String)
  | request (request : Option (WireRequest V))
  | other
  deriving DecidableEq, Repr

structure Message (V : Type) where
  peer : Nat
  id : Option String
  call : Call V
  deriving DecidableEq, Repr

/-! ## Replies -/

structure Ack where
  accepted : Bool
  maxFrameBytes : Nat
  endpoints : List EndpointDescriptor
  managedLifecycle : Bool
  session : Option String
  deriving DecidableEq, Repr

/-- The failures of an outcome; the last is one that the plugin has returned. -/
inductive Failure (V : Type) where
  | protocolViolation (detail : String)
  | pluginFailure (detail : String)
  | resourceExhausted (operation : String)
  | unknownOperation (operation : String)
  | deadlineExceeded (requestId : Nat)
  | cancelled (requestId : Nat)
  | provided (failure : V)
  deriving DecidableEq, Repr

inductive Outcome (V : Type) where
  | success (value : V)
  | domain (value : V)
  | runtime (failure : Failure V)
  deriving DecidableEq, Repr

inductive Body (V : Type) where
  | ack (ack : Ack)
  | done
  | outcome (outcome : Outcome V)
  deriving DecidableEq, Repr

inductive Reply (V : Type) where
  | http (status : Nat) (text : String)
  | error (id : Option String) (code : Int) (message : String)
  | result (id : Option String) (body : Body V)
  deriving DecidableEq, Repr

/-- `protocolViolation`. -/
def protocolViolation (detail : String) : Outcome V := .runtime (.protocolViolation detail)

def Call.session : Call V → Option String
  | .cancel x _ => x
  | .activate a => a.bind (·.session)
  | .shutdown x => x
  | .request r => r.bind (·.session)
  | _ => none

def Reply.session : Reply V → Option String
  | .result _ (.ack ack) => ack.session
  | _ => none

/-! ## State -/

structure RequestState where
  cancelled : Bool
  deadlineExceeded : Bool
  deriving DecidableEq, Repr

inductive Event where
  | accepted (thread peer : Nat) (session : String)
  | honoured (thread peer : Nat) (session : String)
  | createStarted (thread : Nat)
  | createEnded (thread : Nat)
  | activated (thread : Nat)
  | stopStarted (thread : Nat)
  | handlerStarted (thread requestId : Nat)
  | completed (requestId : Nat)
  deriving DecidableEq, Repr

structure Shared where
  /-- `activeRequests`. -/
  active : ExtTreeMap Nat RequestState
  /-- `retiredRequestIds`, the oldest first. -/
  retired : List Nat
  session : Option String
  /-- `admittedHandshake` is there. -/
  handshaken : Bool
  accepting : Bool
  /-- `instance` is there. -/
  constructed : Bool
  events : List Event

/-- Without a managed lifecycle, dependencies and `create` the instance is there from the start. -/
def Shared.init (c : Config) : Shared where
  active := ∅
  retired := []
  session := none
  handshaken := false
  accepting := true
  constructed := !c.managedLifecycle && c.dependencies.entries.isEmpty && !c.hasCreate
  events := []

inductive Input (V : Type) where
  | go
  /-- What `crypto.randomUUID` gives, if it is called. -/
  | uuid (value : String)
  /-- The plugin's code throws: `decodeConfig` or `parse`, or the function called next. -/
  | configThrows (error : String)
  | throws (error : String)
  /-- `create` returns, `undefined` if not `complete`. -/
  | created (complete : Bool)
  | stopped
  | invoked (outcome : Outcome V)
  | expire

inductive Pc (V : Type) where
  | message (m : Message V)
  | creating (m : Message V)
  | stopping (m : Message V)
  | invoking (m : Message V) (request : WireRequest V)
  | finished (m : Message V) (reply : Reply V)
  /-- `stop` of the server itself. -/
  | stop
  | stopped
  deriving DecidableEq, Repr

def reply (m : Message V) (body : Body V) : Pc V := .finished m (.result m.id body)

def fail (m : Message V) (failure : Failure V) : Pc V := reply m (.outcome (.runtime failure))

/-! ## Updates -/

def Shared.record (s : Shared) (events : List Event) : Shared :=
  { s with events := s.events ++ events }

/-- `state.cancelled = true` for one request, if it is active. -/
def Shared.cancel (s : Shared) (requestId : Nat) : Shared :=
  { s with active := s.active.modify requestId fun state => { state with cancelled := true } }

def Shared.expire (s : Shared) (requestId : Nat) : Shared :=
  { s with active := s.active.modify requestId fun state => { state with deadlineExceeded := true } }

/-- No more requests, and those there are cancelled. -/
def Shared.close (s : Shared) : Shared :=
  { s with
    accepting := false
    active := s.active.map fun _ state => { state with cancelled := true } }

/-- The loop of `retire`. -/
def evictOldest (limit : Nat) : List Nat → List Nat
  | [] => []
  | oldest :: rest => if limit ≤ rest.length + 1 then evictOldest limit rest else oldest :: rest

/-- `retire`; a value that is in a set already keeps its place. -/
def retire (limit : Nat) (retired : List Nat) (requestId : Nat) : List Nat :=
  let kept := evictOldest limit retired
  if requestId ∈ kept then kept else kept ++ [requestId]

/-- The `finally` of a request. -/
def Shared.complete (c : Config) (s : Shared) (requestId : Nat) : Shared :=
  { s with
    active := s.active.erase requestId
    retired := retire c.maxRetiredRequestIds s.retired requestId
    events := s.events ++ [.completed requestId] }

/-! ## Handshake, cancel, activate and shutdown -/

/-- `accepted` of a handshake, with `validHandshake`. -/
def accepts (c : Config) (s : Shared) : Option Handshake → Bool
  | some ⟨protocolVersion, valueProfile, maxFrameBytes, some endpoints⟩ =>
    s.accepting && s.active.size == 0 && protocolVersion == 1 &&
      valueProfile == "lenso-json-value-v1" && maxFrameBytes == c.maxFrameBytes &&
      sameEndpoints endpoints c.expectedEndpoints && sameEndpoints endpoints c.pluginEndpoints
  | _ => false

/-- The acknowledgement shows the session there is, whether the handshake is accepted or not. -/
def ack (c : Config) (handshake : Option Handshake) (accepted : Bool) (session : Option String) :
    Body V :=
  .ack ⟨accepted, c.maxFrameBytes, (handshake.bind (·.endpoints)).getD [], c.managedLifecycle,
    session⟩

def Shared.admitSession (s : Shared) (t peer : Nat) (session : String) : Shared :=
  { s with
    session := some session
    handshaken := true
    events := s.events ++ [.accepted t peer session] }

def onHandshake (c : Config) (s : Shared) (t : Nat) (m : Message V) (handshake : Option Handshake)
    (uuid : String) : Shared × Pc V :=
  if accepts c s handshake then
    (s.admitSession t m.peer uuid, reply m (ack c handshake true (some uuid)))
  else
    (s, reply m (ack c handshake false s.session))

/-- `hasSession`, with the session when it is there. -/
def hasSession (s : Shared) (candidate : Option String) : Option String :=
  if s.handshaken ∧ candidate = s.session then s.session else none

def Shared.honour (s : Shared) (t : Nat) (m : Message V) (session : String) : Shared :=
  s.record [.honoured t m.peer session]

def onCancel (s : Shared) (t : Nat) (m : Message V) (session : Option String)
    (requestId : Option Nat) : Shared × Pc V :=
  match hasSession s session with
  | none => (s, reply m (.outcome (protocolViolation "request session mismatch")))
  | some x =>
    ((match requestId with
      | some id => (s.honour t m x).cancel id
      | none => s.honour t m x), reply m .done)

/-- `lenso.activate` up to the call of `create`. -/
def onActivate (c : Config) (s : Shared) (t : Nat) (m : Message V)
    (activation : Option ActivationRequest) (k : Input V) : Option (Shared × Pc V) :=
  match activation.bind fun a => (hasSession s a.session).map fun x => (a.activation, x) with
  | none => some (s, reply m (.outcome (protocolViolation "invalid activation")))
  | some (a, x) =>
    if !c.managedLifecycle || s.constructed || s.active.size != 0 then
      some (s, reply m (.outcome (protocolViolation "invalid activation")))
    else
      let s := s.honour t m x
      match createDependencyClients c.dependencies a with
      | .error error => some (s, fail m (.pluginFailure error))
      | .ok _ =>
        match k with
        | .configThrows error => some (s, fail m (.pluginFailure error))
        | .throws error =>
          if c.hasCreate then
            some (s.record [.createStarted t, .createEnded t], fail m (.pluginFailure error))
          else
            none
        | .go =>
          if c.hasCreate then
            some (s.record [.createStarted t], .creating m)
          else
            some ({ s with constructed := true }.record [.activated t], reply m .done)
        | _ => none

/-- `lenso.activate` after the await. -/
def onCreated (s : Shared) (t : Nat) (m : Message V) : Input V → Option (Shared × Pc V)
  | .created true =>
    some ({ s with constructed := true }.record [.createEnded t, .activated t], reply m .done)
  | .created false =>
    some ({ s with constructed := false }.record [.createEnded t],
      fail m (.pluginFailure "Plugin create must return a complete instance"))
  | .throws error => some (s.record [.createEnded t], fail m (.pluginFailure error))
  | _ => none

def onShutdown (c : Config) (s : Shared) (t : Nat) (m : Message V) (session : Option String)
    (k : Input V) : Option (Shared × Pc V) :=
  match hasSession s session with
  | none => some (s, reply m (.outcome (protocolViolation "shutdown session mismatch")))
  | some x =>
    let s := (s.honour t m x).close
    if s.constructed && c.hasStop then
      match k with
      | .go => some (s.record [.stopStarted t], .stopping m)
      | .throws error => some (s.record [.stopStarted t], fail m (.pluginFailure error))
      | _ => none
    else
      match k with
      | .go => some (s, reply m .done)
      | _ => none

def onStopped (s : Shared) (m : Message V) : Input V → Option (Shared × Pc V)
  | .stopped => some (s, reply m .done)
  | .throws error => some (s, fail m (.pluginFailure error))
  | _ => none

/-! ## Requests -/

/-- `Number.MAX_SAFE_INTEGER`. -/
def maxSafeInteger : Nat := 2 ^ 53 - 1

/-- `validWireRequest`, of params whose fields have the right types. -/
def validWireRequest (s : Shared) (r : WireRequest V) : Bool :=
  r.requestId ≤ maxSafeInteger && r.session == s.session &&
    r.deadlineNanos.all fun deadline => deadline ≤ maxSafeInteger

def Shared.activate (s : Shared) (r : WireRequest V) : Shared :=
  { s with active := s.active.insert r.requestId ⟨false, r.deadlineNanos == some 0⟩ }

/-- A request that has been admitted, up to the await of its handler. -/
def beginRequest (c : Config) (s : Shared) (t : Nat) (m : Message V) (r : WireRequest V)
    (k : Input V) : Option (Shared × Pc V) :=
  let s := s.activate r
  match invocationContext r with
  | .error error => some (s.complete c r.requestId, fail m (.pluginFailure error))
  | .ok _ =>
    if r.deadlineNanos = some 0 then
      some (s.complete c r.requestId, fail m (.deadlineExceeded r.requestId))
    else
      let s := s.record [.handlerStarted t r.requestId]
      match k with
      | .go => some (s, .invoking m r)
      | .throws error => some (s.complete c r.requestId, fail m (.pluginFailure error))
      | _ => none

def refusal (c : Config) (s : Shared) (r : WireRequest V) : Option (Failure V) :=
  if r.requestId ∈ s.active ∨ r.requestId ∈ s.retired then
    some (.protocolViolation "duplicate or retired request id")
  else if c.maxConcurrentRequests ≤ s.active.size then
    some (.resourceExhausted r.operation)
  else if r.capabilityId ∉ c.pluginEndpoints.map (·.capabilityId) then
    some (.unknownOperation r.operation)
  else
    none

/-- `lenso.request` up to the await of its handler. -/
def onRequest (c : Config) (s : Shared) (t : Nat) (m : Message V) (request : Option (WireRequest V))
    (k : Input V) : Option (Shared × Pc V) :=
  if s.accepting && s.handshaken && s.constructed then
    match request.filter (validWireRequest s), s.session with
    | some r, some x =>
      match refusal c s r with
      | some failure => some (s.honour t m x, fail m failure)
      | none => beginRequest c (s.honour t m x) t m r k
    | _, _ => some (s, reply m (.outcome (protocolViolation "invalid request envelope")))
  else
    some (s, reply m (.outcome (protocolViolation "request before handshake")))

/-- What a handler's outcome becomes when the request has been cancelled or has expired. -/
def settle (s : Shared) (requestId : Nat) (outcome : Outcome V) : Outcome V :=
  match s.active[requestId]? with
  | some ⟨_, true⟩ => .runtime (.deadlineExceeded requestId)
  | some ⟨true, false⟩ => .runtime (.cancelled requestId)
  | _ => outcome

/-- `lenso.request` after the await. -/
def onInvoked (c : Config) (s : Shared) (m : Message V) (r : WireRequest V) :
    Input V → Option (Shared × Pc V)
  | .invoked outcome =>
    some (s.complete c r.requestId, reply m (.outcome (settle s r.requestId outcome)))
  | .throws error => some (s.complete c r.requestId, fail m (.pluginFailure error))
  | .expire =>
    if r.deadlineNanos = none then none else some (s.expire r.requestId, .invoking m r)
  | _ => none

/-! ## The program -/

def onMessage (c : Config) (s : Shared) (t : Nat) (m : Message V) (k : Input V) :
    Option (Shared × Pc V) :=
  match m.call, k with
  | .notPost, _ => some (s, .finished m (.http 405 "method not allowed"))
  | .tooLarge, _ => some (s, .finished m (.http 413 "request too large"))
  | .unparsable, _ => some (s, .finished m (.error none (-32700) "Parse error"))
  | .notJsonRpc, _ => some (s, .finished m (.error m.id (-32600) "Invalid Request"))
  | .handshake handshake, .uuid uuid => some (onHandshake c s t m handshake uuid)
  | .handshake _, _ => none
  | .cancel session requestId, _ => some (onCancel s t m session requestId)
  | .activate activation, k => onActivate c s t m activation k
  | .shutdown session, k => onShutdown c s t m session k
  | .request request, k => onRequest c s t m request k
  | .other, _ => some (s, reply m (.outcome (protocolViolation "request before handshake")))

def next (c : Config) (s : Shared) (t : Nat) (pc : Pc V) (k : Input V) : Option (Shared × Pc V) :=
  match pc with
  | .message m => onMessage c s t m k
  | .creating m => onCreated s t m k
  | .stopping m => onStopped s m k
  | .invoking m r => onInvoked c s m r k
  | .stop => some (s.close, .stopped)
  | .finished _ _ | .stopped => none

def Pc.isEntry : Pc V → Bool
  | .message _ | .stop => true
  | _ => false

def program (c : Config) : Program Shared (Pc V) (Input V) where
  entry := Pc.isEntry
  move s t pc k := (next c s t pc k).map fun p => ⟨p.1, p.2, none⟩

def init (c : Config) : Threads Shared (Pc V) := ⟨.init c, ∅⟩

variable {c : Config} {k : Input V} {pc pc' : Pc V} {s s' : Shared} {t : Nat} {m : Message V}
  {session : Option String}

/-! ## What a step can do -/

/-- The message carries the session there is. -/
def Honours (s : Shared) (m : Message V) (x : String) : Prop :=
  s.session = some x ∧ m.call.session = some x

/-- `lenso.activate` passes its checks. -/
def Activates (c : Config) (s : Shared) (m : Message V) : Prop :=
  (∃ a, m.call = .activate a) ∧ c.managedLifecycle = true ∧ s.constructed = false

def Shutdown (m : Message V) : Prop := ∃ session, m.call = .shutdown session

/-- Everything a thread can do at a place: the state and the place after it. -/
inductive Moves (c : Config) (s : Shared) (t : Nat) : Pc V → Shared → Pc V → Prop where
  | answered {m : Message V} {r : Reply V} (hsession : r.session = none) :
      Moves c s t (.message m) s (.finished m r)
  | refused {m : Message V} {handshake : Option Handshake} (hcall : m.call = .handshake handshake)
      (haccepts : accepts c s handshake = false) :
      Moves c s t (.message m) s (reply m (ack c handshake false s.session))
  | accepted {m : Message V} {handshake : Option Handshake} (uuid : String)
      (hcall : m.call = .handshake handshake) (haccepts : accepts c s handshake = true) :
      Moves c s t (.message m) (s.admitSession t m.peer uuid)
        (reply m (ack c handshake true (some uuid)))
  | passed {m : Message V} {x : String} (hx : Honours s m x) {r : Reply V}
      (hsession : r.session = none) :
      Moves c s t (.message m) (s.honour t m x) (.finished m r)
  | cancelled {m : Message V} {x : String} (hx : Honours s m x) (id : Nat) :
      Moves c s t (.message m) ((s.honour t m x).cancel id) (reply m .done)
  | createThrew {m : Message V} {x : String} (hx : Honours s m x) (ha : Activates c s m)
      (error : String) :
      Moves c s t (.message m) ((s.honour t m x).record [.createStarted t, .createEnded t])
        (fail m (.pluginFailure error))
  | creating {m : Message V} {x : String} (hx : Honours s m x) (ha : Activates c s m) :
      Moves c s t (.message m) ((s.honour t m x).record [.createStarted t]) (.creating m)
  | constructed {m : Message V} {x : String} (hx : Honours s m x) (ha : Activates c s m) :
      Moves c s t (.message m) ({ s.honour t m x with constructed := true }.record [.activated t])
        (reply m .done)
  | created {m : Message V} :
      Moves c s t (.creating m)
        ({ s with constructed := true }.record [.createEnded t, .activated t]) (reply m .done)
  | incomplete {m : Message V} {r : Reply V} (hsession : r.session = none) :
      Moves c s t (.creating m) ({ s with constructed := false }.record [.createEnded t])
        (.finished m r)
  | createFailed {m : Message V} {r : Reply V} (hsession : r.session = none) :
      Moves c s t (.creating m) (s.record [.createEnded t]) (.finished m r)
  | shutDown {m : Message V} {x : String} (hx : Honours s m x) (hm : Shutdown m) :
      Moves c s t (.message m) (s.honour t m x).close (reply m .done)
  | stopThrew {m : Message V} {x : String} (hx : Honours s m x) (hm : Shutdown m) (error : String) :
      Moves c s t (.message m) ((s.honour t m x).close.record [.stopStarted t])
        (fail m (.pluginFailure error))
  | stopping {m : Message V} {x : String} (hx : Honours s m x) (hm : Shutdown m) :
      Moves c s t (.message m) ((s.honour t m x).close.record [.stopStarted t]) (.stopping m)
  | stopped {m : Message V} {r : Reply V} (hsession : r.session = none) :
      Moves c s t (.stopping m) s (.finished m r)
  | ended {m : Message V} {x : String} (hx : Honours s m x) {request : WireRequest V}
      (hrefusal : refusal c s request = none) {r : Reply V} (hsession : r.session = none) :
      Moves c s t (.message m) (((s.honour t m x).activate request).complete c request.requestId)
        (.finished m r)
  | handlerThrew {m : Message V} {x : String} (hx : Honours s m x) {request : WireRequest V}
      (hrefusal : refusal c s request = none) (error : String) :
      Moves c s t (.message m)
        ((((s.honour t m x).activate request).record
          [.handlerStarted t request.requestId]).complete c request.requestId)
        (fail m (.pluginFailure error))
  | invoking {m : Message V} {x : String} (hx : Honours s m x) {request : WireRequest V}
      (hrefusal : refusal c s request = none) :
      Moves c s t (.message m)
        (((s.honour t m x).activate request).record [.handlerStarted t request.requestId])
        (.invoking m request)
  | completed {m : Message V} {request : WireRequest V} {r : Reply V} (hsession : r.session = none) :
      Moves c s t (.invoking m request) (s.complete c request.requestId) (.finished m r)
  | expired {m : Message V} {request : WireRequest V} :
      Moves c s t (.invoking m request) (s.expire request.requestId) (.invoking m request)
  | closed : Moves c s t .stop s.close .stopped

theorem hasSession_eq_some {candidate : Option String} {x : String}
    (h : hasSession s candidate = some x) : s.session = some x ∧ candidate = some x := by
  rw [hasSession] at h
  split at h
  · next hc => exact ⟨h, hc.2.trans h⟩
  · cases h

theorem moves_onHandshake {handshake : Option Handshake} {uuid : String}
    (hcall : m.call = .handshake handshake) (h : onHandshake c s t m handshake uuid = (s', pc')) :
    Moves c s t (.message m) s' pc' := by
  rw [onHandshake] at h
  split at h
  · next haccepts =>
      cases h
      exact .accepted uuid hcall haccepts
  · next haccepts =>
      cases h
      exact .refused hcall (Bool.not_eq_true _ ▸ haccepts)

theorem moves_onCancel {requestId : Option Nat} (hcall : m.call = .cancel session requestId)
    (h : onCancel s t m session requestId = (s', pc')) : Moves c s t (.message m) s' pc' := by
  rw [onCancel] at h
  split at h
  · cases h
    exact .answered rfl
  · next x hx =>
      obtain ⟨hs, hc⟩ := hasSession_eq_some hx
      have hhonours : Honours s m x := ⟨hs, by rw [hcall]; exact hc⟩
      cases requestId with
      | none =>
        cases h
        exact .passed hhonours rfl
      | some id =>
        cases h
        exact .cancelled hhonours id

theorem moves_onActivate {activation : Option ActivationRequest}
    (hcall : m.call = .activate activation) (h : onActivate c s t m activation k = some (s', pc')) :
    Moves c s t (.message m) s' pc' := by
  rw [onActivate] at h
  split at h
  · cases h
    exact .answered rfl
  · next a x hax =>
      obtain ⟨request, hrequest, hmap⟩ := Option.bind_eq_some_iff.mp hax
      obtain ⟨y, hy, heq⟩ := Option.map_eq_some_iff.mp hmap
      cases heq
      obtain ⟨hs, hcandidate⟩ := hasSession_eq_some hy
      have hhonours : Honours s m x := by
        refine ⟨hs, ?_⟩
        rw [hcall, hrequest]
        exact hcandidate
      split at h
      · cases h
        exact .answered rfl
      · next hguard =>
          simp only [Bool.or_eq_true, Bool.not_eq_true', bne_iff_ne, not_or, Bool.not_eq_false,
            Bool.not_eq_true] at hguard
          have hactivates : Activates c s m := ⟨⟨_, hcall⟩, hguard.1.1, hguard.1.2⟩
          split at h
          · cases h
            exact .passed hhonours rfl
          · split at h
            · cases h
              exact .passed hhonours rfl
            · split at h
              · cases h
                exact .createThrew hhonours hactivates _
              · cases h
            · split at h
              · cases h
                exact .creating hhonours hactivates
              · cases h
                exact .constructed hhonours hactivates
            · cases h

theorem moves_onCreated (h : onCreated s t m k = some (s', pc')) :
    Moves c s t (.creating m) s' pc' := by
  rw [onCreated.eq_def] at h
  split at h
  · cases h
    exact .created
  · cases h
    exact .incomplete rfl
  · cases h
    exact .createFailed rfl
  · cases h

theorem moves_onShutdown (hcall : m.call = .shutdown session)
    (h : onShutdown c s t m session k = some (s', pc')) : Moves c s t (.message m) s' pc' := by
  simp only [onShutdown] at h
  split at h
  · cases h
    exact .answered rfl
  · next x hx =>
      obtain ⟨hs, hcandidate⟩ := hasSession_eq_some hx
      have hhonours : Honours s m x := ⟨hs, by rw [hcall]; exact hcandidate⟩
      have hshutdown : Shutdown m := ⟨session, hcall⟩
      split at h
      · split at h
        · cases h
          exact .stopping hhonours hshutdown
        · cases h
          exact .stopThrew hhonours hshutdown _
        · cases h
      · split at h
        · cases h
          exact .shutDown hhonours hshutdown
        · cases h

theorem moves_onStopped (h : onStopped s m k = some (s', pc')) :
    Moves c s t (.stopping m) s' pc' := by
  rw [onStopped.eq_def] at h
  split at h
  · cases h
    exact .stopped rfl
  · cases h
    exact .stopped rfl
  · cases h

theorem moves_onRequest {request : Option (WireRequest V)} (hcall : m.call = .request request)
    (h : onRequest c s t m request k = some (s', pc')) : Moves c s t (.message m) s' pc' := by
  rw [onRequest] at h
  split at h
  · split at h
    · next r x hr hx =>
        obtain ⟨hrequest, hvalid⟩ := Option.filter_eq_some_iff.mp hr
        have hhonours : Honours s m x := by
          refine ⟨hx, ?_⟩
          simp only [validWireRequest, Bool.and_eq_true, beq_iff_eq] at hvalid
          rw [hcall, hrequest, ← hx]
          exact hvalid.1.2
        split at h
        · cases h
          exact .passed hhonours rfl
        · next hrefusal =>
            simp only [beginRequest] at h
            split at h
            · cases h
              exact .ended hhonours hrefusal rfl
            · split at h
              · cases h
                exact .ended hhonours hrefusal rfl
              · split at h
                · cases h
                  exact .invoking hhonours hrefusal
                · cases h
                  exact .handlerThrew hhonours hrefusal _
                · cases h
    · cases h
      exact .answered rfl
  · cases h
    exact .answered rfl

theorem moves_onInvoked {request : WireRequest V} (h : onInvoked c s m request k = some (s', pc')) :
    Moves c s t (.invoking m request) s' pc' := by
  rw [onInvoked.eq_def] at h
  split at h
  · cases h
    exact .completed rfl
  · cases h
    exact .completed rfl
  · split at h
    · cases h
    · cases h
      exact .expired
  · cases h

theorem moves_onMessage (h : onMessage c s t m k = some (s', pc')) :
    Moves c s t (.message m) s' pc' := by
  rw [onMessage.eq_def] at h
  split at h
  · cases h
    exact .answered rfl
  · cases h
    exact .answered rfl
  · cases h
    exact .answered rfl
  · cases h
    exact .answered rfl
  · next hcall => exact moves_onHandshake hcall (Option.some.inj h)
  · cases h
  · next hcall => exact moves_onCancel hcall (Option.some.inj h)
  · next hcall => exact moves_onActivate hcall h
  · next hcall => exact moves_onShutdown hcall h
  · next hcall => exact moves_onRequest hcall h
  · cases h
    exact .answered rfl

/-- **Every move is one of these.** -/
theorem moves_of_next (h : next c s t pc k = some (s', pc')) : Moves c s t pc s' pc' := by
  unfold next at h
  repeat' split at h
  all_goals grind [Moves, moves_onMessage, moves_onCreated, moves_onStopped, moves_onInvoked]

theorem program_moves {m : Moved Shared (Pc V)} (h : (program c).move s t pc k = some m) :
    Moves c s t pc m.shared m.next ∧ m.child = none := by
  obtain ⟨hnext, hchild⟩ := moved_of_map h
  exact ⟨moves_of_next hnext, hchild⟩

end LensoBun.PluginV1.Server
