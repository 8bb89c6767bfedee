import LensoBun.Lib.Threads

set_option autoImplicit false

/-! # The Process V1 child

The control and the data listener that `startProcessV1` of `process-v1.ts` starts. Every HTTP request
is a thread; what runs between two awaits is one step. The providers' code decides what `invokeRequest`
does and when it ends; the random bytes of a session and the firing of a timer come from outside, and
so do the digests of the handshake (`Config`). The validators of the protocol package are not part of
the source: params that they refuse are `none`.

Ids, which are strings in the source, are numbers here; they are only compared. The state object of a
request is named by its thread, `active` leads from a correlation id to it, and `cancelled` holds the
flag of each. A thread waits for a data slot as long as it is among `dataWaiters`.

`events` is not part of the source: it records attempts, slots, refusals and invocations, in order.
-/

namespace LensoBun.ProcessV1.Child

open Std Lib

variable {V : Type}

/-! ## Identity and options -/

structure ProvidedCapability where
  capabilityId : String
  descriptorVersion : String
  descriptorDigest : String
  operations : List String
  deriving DecidableEq, Repr

structure PeerLimits where
  maxConcurrentRequests : Nat
  childRequestQueueCapacity : Nat
  maxRetiredCorrelationIds : Nat
  controlQueueCapacity : Nat
  maxHttpBodyBytes : Nat
  maxControlHttpBodyBytes : Nat
  deriving DecidableEq, Repr

/-- `rest` is what only the proof and the comparison of identities read. -/
structure HandshakeIdentity where
  providedCapabilities : List ProvidedCapability
  peerLimits : PeerLimits
  rest : String
  deriving DecidableEq, Repr

/-- `hostProof` is `none` if it does not decode. -/
structure HandshakeParams where
  identity : HandshakeIdentity
  hostNonce : String
  hostProof : Option (List UInt8)
  deriving DecidableEq, Repr

/-- A provider has request operations only; `collectProviders` refuses others. -/
structure ProviderDescriptor where
  capabilityId : String
  descriptorVersion : String
  descriptorDigest : String
  operations : List String
  deriving DecidableEq, Repr

structure RequestParams (V : Type) where
  session : String
  correlationId : Nat
  capabilityId : String
  descriptorVersion : String
  descriptorDigest : String
  operation : String
  remainingTimeoutNanos : Option Nat
  payload : V
  deriving DecidableEq, Repr

inductive Outcome (V : Type) where
  | success (value : V)
  | domain (error : V)
  | resourceExhausted (operation : String)
  | pluginFailure (detail : String)
  deriving DecidableEq, Repr

inductive Reply (V : Type) where
  | http (status : Nat) (text : String)
  | error (id : Option Nat) (code : Int) (message : String)
  | handshake (id : Nat) (identity : HandshakeIdentity) (session : String) (childProof : List UInt8)
  | accepted (id : Nat) (session : String)
  | outcome (session : String) (correlationId : Nat) (outcome : Outcome V)
  deriving DecidableEq, Repr

/-- The options, with what `collectProviders` has checked, and the functions that are not modelled:
`handshakeProofPayload`, the two proofs and the length of an encoded response. -/
structure Config (V : Type) where
  identity : Option HandshakeIdentity
  bootstrapSecret : List UInt8
  providers : List ProviderDescriptor
  payload : HandshakeIdentity → String → String
  hostProof : List UInt8 → String → List UInt8
  childProof : List UInt8 → String → String → List UInt8
  encodedLength : Reply V → Nat
  secret_length : bootstrapSecret.length = 32
  distinct : (providers.map (·.capabilityId)).Nodup
  nonempty : providers ≠ []

/-! ## HTTP requests -/

inductive Parsed (β : Type) where
  | undecodable
  | unparsable
  | invalid
  | envelope (id : Nat) (call : β)
  deriving DecidableEq, Repr

structure Http (β : Type) where
  pathname : String
  search : String
  method : String
  contentType : Option String
  length : Nat
  body : Parsed β
  deriving DecidableEq, Repr

inductive ControlCall where
  | handshake (params : Option HandshakeParams)
  | cancel (params : Option (String × Nat))
  | shutdown (session : Option String)
  | other
  deriving DecidableEq, Repr

inductive DataCall (V : Type) where
  | request (params : Option (RequestParams V))
  | other
  deriving DecidableEq, Repr

def rejectHttpShape {β : Type} (request : Http β) (path : String) : Option (Reply V) :=
  if request.pathname ≠ path ∨ request.search ≠ "" then
    some (.http 404 "not found")
  else if request.method ≠ "POST" then
    some (.http 405 "method not allowed")
  else if request.contentType.map String.toLower ≠ some "application/json" then
    some (.http 415 "unsupported media type")
  else
    none

/-- `parseEnvelope`, with `readBounded`. -/
def parseEnvelope {β : Type} (request : Http β) (maximumBytes : Nat) : Except (Reply V) (Nat × β) :=
  if maximumBytes < request.length then
    .error (.http 413 "request too large")
  else
    match request.body with
    | .undecodable => .error (.http 413 "request too large")
    | .unparsable => .error (.error none (-32700) "Parse error")
    | .invalid => .error (.error none (-32600) "Invalid Request")
    | .envelope id call => .ok (id, call)

def rpcError (id : Nat) (code : Int) (message : String) : Reply V := .error (some id) code message

/-- `requestResult`. -/
def requestResult (c : Config V) (p : RequestParams V) (outcome : Outcome V) (maximumBytes : Nat) :
    Reply V :=
  let reply := Reply.outcome p.session p.correlationId outcome
  if maximumBytes < c.encodedLength reply then .http 413 "response too large" else reply

/-! ## State -/

inductive Event where
  | attempted (thread : Nat)
  | handshaken (thread : Nat) (params : HandshakeParams) (session : String)
  | shutdown (thread : Nat) (session : String)
  | refused (thread correlationId : Nat)
  | acquired (thread : Nat)
  | queued (thread : Nat)
  | granted (thread : Nat)
  | released (thread : Nat)
  | invoked (thread correlationId : Nat) (session : String)
  deriving DecidableEq, Repr

structure Shared where
  secret : List UInt8
  active : ExtTreeMap Nat Nat
  cancelled : ExtTreeMap Nat Bool
  retired : List Nat
  accepting : Bool
  handshakeAttempted : Bool
  session : Option String
  admittedIdentity : Option HandshakeIdentity
  controlInFlight : Nat
  runningDataRequests : Nat
  dataWaiters : List Nat
  events : List Event

def Shared.init (c : Config V) : Shared where
  secret := c.bootstrapSecret
  active := ∅
  cancelled := ∅
  retired := []
  accepting := true
  handshakeAttempted := false
  session := none
  admittedIdentity := none
  controlInFlight := 0
  runningDataRequests := 0
  dataWaiters := []
  events := []

inductive Input (V : Type) where
  | go
  | random (session : String)
  /-- `validateRequest` throws. -/
  | validateThrows (error : String)
  /-- `invokeRequest` throws, or what it returns is rejected. -/
  | throws (error : String)
  /-- `invokeRequest` gives an outcome; `invalid` is what its validation throws. -/
  | invoked (outcome : Outcome V) (invalid : Option String)
  | expire

inductive Pc (V : Type) where
  | control (request : Http ControlCall)
  | controlReading (request : Http ControlCall) (maximumBytes : Nat)
  | data (request : Http (DataCall V))
  | dataReading (request : Http (DataCall V)) (maximumBytes : Nat)
  /-- `acquireDataSlot` has been called: it has refused, or gives a slot now or later. -/
  | denied (p : RequestParams V)
  | acquiring (p : RequestParams V)
  | invoking (p : RequestParams V)
  /-- `cancelObserved` is awaited. -/
  | settling (p : RequestParams V) (outcome : Outcome V) (invalid : Option String)
  | finished (reply : Reply V)
  | stop
  | stopped
  deriving DecidableEq, Repr

/-! ## Updates -/

def Shared.record (s : Shared) (events : List Event) : Shared :=
  { s with events := s.events ++ events }

/-- `accepting = false`. -/
def Shared.close (s : Shared) : Shared := { s with accepting := false }

/-- The state object of a thread is cancelled. -/
def Shared.cancel (s : Shared) (t : Nat) : Shared :=
  { s with cancelled := s.cancelled.modify t fun _ => true }

/-- Some request that is active has this state object. -/
def Shared.isActive (s : Shared) (t : Nat) : Bool := s.active.toList.any fun entry => entry.2 == t

/-- No more requests, and those there are cancelled. -/
def Shared.shutDown (s : Shared) : Shared :=
  { s with
    accepting := false
    cancelled := s.cancelled.map fun t flag => flag || s.isActive t }

/-- `retired.add`. -/
def addRetired (retired : List Nat) (id : Nat) : List Nat :=
  if id ∈ retired then retired else retired ++ [id]

def Shared.enter (s : Shared) (t : Nat) (p : RequestParams V) : Shared :=
  { s with
    active := s.active.insert p.correlationId t
    cancelled := s.cancelled.insert t false }

/-- `active.delete` and `retired.add`. -/
def Shared.retire (s : Shared) (p : RequestParams V) : Shared :=
  { s with
    active := s.active.erase p.correlationId
    retired := addRetired s.retired p.correlationId }

/-- `acquireDataSlot` up to its await. -/
def acquireDataSlot (s : Shared) (t : Nat) (p : RequestParams V) (limits : PeerLimits) :
    Shared × Pc V :=
  if s.runningDataRequests < limits.maxConcurrentRequests then
    ({ s with runningDataRequests := s.runningDataRequests + 1 }.record [.acquired t], .acquiring p)
  else if limits.childRequestQueueCapacity ≤ s.dataWaiters.length then
    (s, .denied p)
  else
    ({ s with dataWaiters := s.dataWaiters ++ [t] }.record [.queued t], .acquiring p)

/-- `releaseDataSlot`: the slot is handed to the first waiter. -/
def Shared.releaseDataSlot (s : Shared) (t : Nat) : Shared :=
  match s.dataWaiters with
  | waiter :: rest => { s with dataWaiters := rest }.record [.released t, .granted waiter]
  | [] => { s with runningDataRequests := s.runningDataRequests - 1 }.record [.released t]

/-- The `finally` of a request. -/
def Shared.finish (s : Shared) (t : Nat) (p : RequestParams V) : Shared :=
  (s.retire p).releaseDataSlot t

/-! ## The control listener -/

def zeroBytes : String := "AAAAAAAAAAAAAAAAAAAAAAAAAAAAAAAAAAAAAAAAAAA"

def sameIdentity (c : Config V) (left right : HandshakeIdentity) : Bool :=
  c.payload left zeroBytes == c.payload right zeroBytes

/-- `validateProviderIdentity`; of two capabilities with one id the last one counts. -/
def validateProviderIdentity (c : Config V) (identity : HandshakeIdentity) : Bool :=
  let expected := identity.providedCapabilities
  (c.providers.all fun provider =>
    (expected.reverse.find? (·.capabilityId == provider.capabilityId)).any fun descriptor =>
      descriptor.descriptorVersion == provider.descriptorVersion &&
        descriptor.descriptorDigest == provider.descriptorDigest &&
        descriptor.operations == provider.operations) &&
    c.providers.length == (expected.map (·.capabilityId)).dedup.length

/-- The checks of a handshake, with the message of the error. -/
def checkHandshake (c : Config V) (secret : List UInt8) (params : Option HandshakeParams) :
    Except String HandshakeParams :=
  match params with
  | none => .error "Invalid params"
  | some params =>
    if c.identity.any fun identity => !sameIdentity c params.identity identity then
      .error "handshake identity mismatch"
    else if !validateProviderIdentity c params.identity then
      .error "Invalid params"
    else
      match params.hostProof with
      | none => .error "Invalid params"
      | some actual =>
        if c.hostProof secret (c.payload params.identity params.hostNonce) = actual then
          .ok params
        else
          .error "host proof mismatch"

/-- The attempt is made and the secret is erased. -/
def Shared.attempt (s : Shared) (t : Nat) : Shared :=
  { s with
    handshakeAttempted := true
    secret := List.replicate 32 0
    events := s.events ++ [.attempted t] }

def Shared.handshake (s : Shared) (t : Nat) (params : HandshakeParams) (session : String) : Shared :=
  { s.attempt t with
    session := some session
    admittedIdentity := some params.identity
    events := s.events ++ [.attempted t, .handshaken t params session] }

def onHandshake (c : Config V) (s : Shared) (t id : Nat) (params : Option HandshakeParams)
    (k : Input V) : Option (Shared × Reply V) :=
  if s.handshakeAttempted then
    some (s, rpcError id (-32602) "handshake already attempted")
  else
    match checkHandshake c s.secret params with
    | .error message => some (s.attempt t, rpcError id (-32602) message)
    | .ok params =>
      match k with
      | .random session =>
        some (s.handshake t params session, .handshake id params.identity session
          (c.childProof s.secret (c.payload params.identity params.hostNonce) session))
      | _ => none

def onCancel (s : Shared) (id : Nat) (params : Option (String × Nat)) : Shared × Reply V :=
  match params with
  | none => (s, rpcError id (-32602) "Invalid params")
  | some (session, correlationId) =>
    if s.session = some session then
      match s.active[correlationId]? with
      | some u => (s.cancel u, .accepted id session)
      | none => (s, .accepted id session)
    else
      (s, rpcError id (-32602) "Invalid params")

def onShutdown (s : Shared) (t id : Nat) (session : Option String) : Shared × Reply V :=
  match session with
  | none => (s, rpcError id (-32602) "Invalid params")
  | some session =>
    if s.session = some session then
      (s.shutDown.record [.shutdown t session], .accepted id session)
    else
      (s, rpcError id (-32602) "Invalid params")

def onControl (c : Config V) (s : Shared) (t id : Nat) (call : ControlCall) (k : Input V) :
    Option (Shared × Reply V) :=
  match call with
  | .handshake params => onHandshake c s t id params k
  | .cancel params => some (onCancel s id params)
  | .shutdown session => some (onShutdown s t id session)
  | .other => some (s, rpcError id (-32601) "Method not found")

/-- The control listener up to its await; a request that is refused at once gives its place back. -/
def onControlRequest (s : Shared) (request : Http ControlCall) : Shared × Pc V :=
  let limits := s.admittedIdentity.map (·.peerLimits)
  if (limits.map (·.controlQueueCapacity)).getD 32 ≤ s.controlInFlight then
    (s, .finished (.http 503 "control queue full"))
  else
    match rejectHttpShape request "/control" with
    | some reply => (s, .finished reply)
    | none =>
      ({ s with controlInFlight := s.controlInFlight + 1 },
        .controlReading request ((limits.map (·.maxControlHttpBodyBytes)).getD 16384))

/-- The `finally` of the control listener. -/
def Shared.leaveControl (s : Shared) : Shared := { s with controlInFlight := s.controlInFlight - 1 }

def onControlRead (c : Config V) (s : Shared) (t : Nat) (request : Http ControlCall)
    (maximumBytes : Nat) (k : Input V) : Option (Shared × Pc V) :=
  match parseEnvelope request maximumBytes with
  | .error reply => some (s.leaveControl, .finished reply)
  | .ok (id, call) => (onControl c s t id call k).map fun p => (p.1.leaveControl, .finished p.2)

/-! ## The data listener -/

/-- The provider and the descriptor that has been admitted for a request. -/
def serves (c : Config V) (identity : HandshakeIdentity) (p : RequestParams V) : Bool :=
  match c.providers.find? (·.capabilityId == p.capabilityId),
    identity.providedCapabilities.find? (·.capabilityId == p.capabilityId) with
  | some provider, some descriptor =>
    p.descriptorVersion == descriptor.descriptorVersion &&
      p.descriptorDigest == descriptor.descriptorDigest && provider.operations.contains p.operation
  | _, _ => false

/-- A request with valid params up to the await of its slot. -/
def onRequest (c : Config V) (s : Shared) (t id : Nat) (p : RequestParams V) : Shared × Pc V :=
  match s.accepting, s.session, s.admittedIdentity with
  | true, some session, some identity =>
    let limits := identity.peerLimits
    if p.session ≠ session ∨ id ≠ p.correlationId then
      (s, .finished (rpcError id (-32602) "request identity mismatch"))
    else if p.correlationId ∈ s.active ∨ p.correlationId ∈ s.retired then
      (s.close, .finished (rpcError id (-32602) "duplicate or retired correlation ID"))
    else if limits.maxRetiredCorrelationIds ≤ s.retired.length then
      (s.close, .finished (rpcError id (-32602) "retired correlation ID capacity reached"))
    else if limits.maxConcurrentRequests ≤ s.active.size ∧
        limits.childRequestQueueCapacity ≤ s.dataWaiters.length then
      (s.record [.refused t p.correlationId],
        .finished (requestResult c p (.resourceExhausted p.operation) limits.maxHttpBodyBytes))
    else if !serves c identity p then
      (s.close, .finished (rpcError id (-32602) "operation is absent from admitted identity"))
    else
      acquireDataSlot (s.enter t p) t p limits
  | _, _, _ =>
    (s, .finished (rpcError id (-32602) "request before handshake or after shutdown"))

def onDataRequest (s : Shared) (request : Http (DataCall V)) : Pc V :=
  match rejectHttpShape request "/rpc" with
  | some reply => .finished reply
  | none =>
    .dataReading request ((s.admittedIdentity.map (·.peerLimits.maxHttpBodyBytes)).getD 65536)

def onDataRead (c : Config V) (s : Shared) (t : Nat) (request : Http (DataCall V))
    (maximumBytes : Nat) : Shared × Pc V :=
  match parseEnvelope request maximumBytes with
  | .error reply => (s, .finished reply)
  | .ok (id, .other) => (s, .finished (rpcError id (-32601) "Method not found"))
  | .ok (id, .request none) => (s, .finished (rpcError id (-32602) "Invalid params"))
  | .ok (id, .request (some p)) => onRequest c s t id p

/-- The response to a request, with the limit of the admitted identity. -/
def answer (c : Config V) (s : Shared) (p : RequestParams V) (outcome : Outcome V) : Pc V :=
  .finished (requestResult c p outcome
    ((s.admittedIdentity.map (·.peerLimits.maxHttpBodyBytes)).getD 0))

/-- `acquireDataSlot` has refused. -/
def onDenied (c : Config V) (s : Shared) (t : Nat) (p : RequestParams V) : Shared × Pc V :=
  ((s.retire p).record [.refused t p.correlationId], answer c s p (.resourceExhausted p.operation))

/-- The `catch` and the `finally` of a request. -/
def fail (c : Config V) (s : Shared) (t : Nat) (p : RequestParams V) (error : String) :
    Shared × Pc V :=
  ((s.close).finish t p, answer c s p (.pluginFailure error))

/-- `provider.invokeRequest` is called. -/
def Shared.invoke (s : Shared) (t : Nat) (p : RequestParams V) : Shared :=
  s.record [.invoked t p.correlationId p.session]

/-- A request that has its slot, up to the await of the provider. -/
def onAcquired (c : Config V) (s : Shared) (t : Nat) (p : RequestParams V) (k : Input V) :
    Option (Shared × Pc V) :=
  if s.cancelled[t]? = some true then
    some (s.finish t p, answer c s p (.resourceExhausted p.operation))
  else
    match k with
    | .validateThrows error => some (fail c s t p error)
    | .throws error => some (fail c (s.invoke t p) t p error)
    | .go => some (s.invoke t p, .invoking p)
    | _ => none

/-- What is answered when the outcome has been validated. -/
def settle (c : Config V) (s : Shared) (t : Nat) (p : RequestParams V) (outcome : Outcome V)
    (invalid : Option String) : Shared × Pc V :=
  match invalid with
  | some error => fail c s t p error
  | none => (s.finish t p, answer c s p outcome)

def onInvoked (c : Config V) (s : Shared) (t : Nat) (p : RequestParams V) (k : Input V) :
    Option (Shared × Pc V) :=
  match k with
  | .throws error => some (fail c s t p error)
  | .invoked outcome invalid =>
    if s.cancelled[t]? = some true then
      some (s, .settling p outcome invalid)
    else
      some (settle c s t p outcome invalid)
  | _ => none

/-! ## The program -/

def onExpire (s : Shared) (t : Nat) (p : RequestParams V) (pc : Pc V) : Option (Shared × Pc V) :=
  if p.remainingTimeoutNanos = none then none else some (s.cancel t, pc)

def next (c : Config V) (s : Shared) (t : Nat) (pc : Pc V) (k : Input V) : Option (Shared × Pc V) :=
  match pc, k with
  | .control request, _ => some (onControlRequest s request)
  | .controlReading request maximumBytes, k => onControlRead c s t request maximumBytes k
  | .data request, _ => some (s, onDataRequest s request)
  | .dataReading request maximumBytes, _ => some (onDataRead c s t request maximumBytes)
  | .denied p, .expire => onExpire s t p (.denied p)
  | .denied p, _ => some (onDenied c s t p)
  | .acquiring p, .expire => onExpire s t p (.acquiring p)
  | .acquiring p, k => if t ∈ s.dataWaiters then none else onAcquired c s t p k
  | .invoking p, .expire => onExpire s t p (.invoking p)
  | .invoking p, k => onInvoked c s t p k
  | .settling p outcome invalid, .expire => onExpire s t p (.settling p outcome invalid)
  | .settling p outcome invalid, _ => some (settle c s t p outcome invalid)
  | .stop, _ => some (s.shutDown, .stopped)
  | .finished _, _ => none
  | .stopped, _ => none

def Pc.isEntry : Pc V → Bool
  | .control _ | .data _ | .stop => true
  | _ => false

def program (c : Config V) : Program Shared (Pc V) (Input V) where
  entry := Pc.isEntry
  move s t pc k := (next c s t pc k).map fun p => ⟨p.1, p.2, none⟩

def init (c : Config V) : Threads Shared (Pc V) := ⟨.init c, ∅⟩

/-! ## What a step can do -/

/-- The HTTP request has not been admitted as a request. -/
def Pc.isBefore : Pc V → Bool
  | .control _ | .controlReading _ _ | .data _ | .dataReading _ _ | .stop => true
  | _ => false

def Pc.request : Pc V → Option (RequestParams V)
  | .denied p | .acquiring p | .invoking p | .settling p _ _ => some p
  | _ => none

/-- The request for which `invokeRequest` has been called. -/
def Pc.invoked : Pc V → Option (RequestParams V)
  | .invoking p | .settling p _ _ => some p
  | _ => none

/-- The request has passed all checks before its slot. -/
structure Enters (s : Shared) (p : RequestParams V) (identity : HandshakeIdentity) : Prop where
  accepting : s.accepting = true
  session : s.session = some p.session
  admitted : s.admittedIdentity = some identity
  inactive : p.correlationId ∉ s.active
  unretired : p.correlationId ∉ s.retired
  room : s.active.size < identity.peerLimits.maxConcurrentRequests ∨
    s.dataWaiters.length < identity.peerLimits.childRequestQueueCapacity

/-- The thread has its slot and the request has not been cancelled. -/
structure Starts (s : Shared) (t : Nat) : Prop where
  slot : t ∉ s.dataWaiters
  uncancelled : s.cancelled[t]? ≠ some true

/-- Everything a thread can do at a place: the state and the place after it. -/
inductive Moves (c : Config V) (s : Shared) (t : Nat) : Pc V → Shared → Pc V → Prop where
  | quiet {pc pc' : Pc V} (hpc : pc.isBefore = true) (hpc' : pc'.request = none) (n : Nat) :
      Moves c s t pc { s with controlInFlight := n } pc'
  | closed {pc : Pc V} (hpc : pc.isBefore = true) (reply : Reply V) :
      Moves c s t pc s.close (.finished reply)
  | attempted {pc : Pc V} (hpc : pc.isBefore = true) (hfirst : s.handshakeAttempted = false)
      (n : Nat) (reply : Reply V) :
      Moves c s t pc { s.attempt t with controlInFlight := n } (.finished reply)
  | handshaken {pc : Pc V} (hpc : pc.isBefore = true) (hfirst : s.handshakeAttempted = false)
      {params : HandshakeParams} (hcheck : checkHandshake c s.secret (some params) = .ok params)
      (session : String) (n : Nat) (reply : Reply V) :
      Moves c s t pc { s.handshake t params session with controlInFlight := n } (.finished reply)
  | cancelled {pc : Pc V} (hpc : pc.isBefore = true) {id u : Nat} (hactive : s.active[id]? = some u)
      (n : Nat) (reply : Reply V) :
      Moves c s t pc { s.cancel u with controlInFlight := n } (.finished reply)
  | shutDown {pc : Pc V} (hpc : pc.isBefore = true) {session : String}
      (hsession : s.session = some session) (n : Nat) (reply : Reply V) :
      Moves c s t pc { s.shutDown.record [.shutdown t session] with controlInFlight := n }
        (.finished reply)
  | refused {pc : Pc V} (hpc : pc.isBefore = true) {id : Nat} (hinactive : id ∉ s.active)
      (hunretired : id ∉ s.retired) (reply : Reply V) :
      Moves c s t pc (s.record [.refused t id]) (.finished reply)
  | acquired {pc : Pc V} (hpc : pc.isBefore = true) {p : RequestParams V}
      {identity : HandshakeIdentity} (henters : Enters s p identity)
      (hroom : s.runningDataRequests < identity.peerLimits.maxConcurrentRequests) :
      Moves c s t pc
        ({ s.enter t p with runningDataRequests := s.runningDataRequests + 1 }.record [.acquired t])
        (.acquiring p)
  | denied {pc : Pc V} (hpc : pc.isBefore = true) {p : RequestParams V}
      {identity : HandshakeIdentity} (henters : Enters s p identity)
      (hfull : identity.peerLimits.maxConcurrentRequests ≤ s.runningDataRequests)
      (hqueue : identity.peerLimits.childRequestQueueCapacity ≤ s.dataWaiters.length) :
      Moves c s t pc (s.enter t p) (.denied p)
  | queued {pc : Pc V} (hpc : pc.isBefore = true) {p : RequestParams V}
      {identity : HandshakeIdentity} (henters : Enters s p identity)
      (hfull : identity.peerLimits.maxConcurrentRequests ≤ s.runningDataRequests)
      (hqueue : s.dataWaiters.length < identity.peerLimits.childRequestQueueCapacity) :
      Moves c s t pc ({ s.enter t p with dataWaiters := s.dataWaiters ++ [t] }.record [.queued t])
        (.acquiring p)
  | dismissed {p : RequestParams V} (reply : Reply V) :
      Moves c s t (.denied p) ((s.retire p).record [.refused t p.correlationId]) (.finished reply)
  | expired {pc : Pc V} {p : RequestParams V} (hpc : pc.request = some p) :
      Moves c s t pc (s.cancel t) pc
  | dropped {p : RequestParams V} (hslot : t ∉ s.dataWaiters) (reply : Reply V) :
      Moves c s t (.acquiring p) (s.finish t p) (.finished reply)
  | rejected {p : RequestParams V} (hstarts : Starts s t) (reply : Reply V) :
      Moves c s t (.acquiring p) (s.close.finish t p) (.finished reply)
  | threw {p : RequestParams V} (hstarts : Starts s t) (reply : Reply V) :
      Moves c s t (.acquiring p) ((s.invoke t p).close.finish t p) (.finished reply)
  | invoking {p : RequestParams V} (hstarts : Starts s t) :
      Moves c s t (.acquiring p) (s.invoke t p) (.invoking p)
  | settling {p : RequestParams V} (outcome : Outcome V) (invalid : Option String) :
      Moves c s t (.invoking p) s (.settling p outcome invalid)
  | completed {pc : Pc V} {p : RequestParams V} (hpc : pc.invoked = some p) (reply : Reply V) :
      Moves c s t pc (s.finish t p) (.finished reply)
  | failed {pc : Pc V} {p : RequestParams V} (hpc : pc.invoked = some p) (reply : Reply V) :
      Moves c s t pc (s.close.finish t p) (.finished reply)
  | stopped : Moves c s t .stop s.shutDown .stopped

section

variable {c : Config V} {s s' : Shared} {t : Nat} {pc pc' : Pc V} {k : Input V}

variable {params : Option HandshakeParams} {id maximumBytes : Nat} {request : Http ControlCall}
  {p : RequestParams V}

theorem checkHandshake_eq_ok {secret : List UInt8} {p : HandshakeParams}
    (h : checkHandshake c secret params = .ok p) : params = some p := by
  rw [checkHandshake.eq_def] at h
  split at h
  · cases h
  · split at h
    · cases h
    · grind

theorem moves_onHandshake {reply : Reply V} (hpc : pc.isBefore = true)
    (h : onHandshake c s t id params k = some (s', reply)) :
    Moves c s t pc s'.leaveControl (.finished reply) := by
  rw [onHandshake] at h
  split at h
  · cases h
    exact .quiet hpc rfl _
  · next hfirst =>
      have hfirst : s.handshakeAttempted = false := by simpa using hfirst
      split at h
      · cases h
        exact .attempted hpc hfirst _ _
      · next p hcheck =>
          split at h
          · cases h
            have hparams := checkHandshake_eq_ok hcheck
            rw [hparams] at hcheck
            exact .handshaken hpc hfirst hcheck _ _ _
          · cases h

theorem moves_onCancel {params : Option (String × Nat)} {reply : Reply V} (hpc : pc.isBefore = true)
    (h : onCancel s id params = (s', reply)) :
    Moves c s t pc s'.leaveControl (.finished reply) := by
  rw [onCancel.eq_def] at h
  split at h
  · cases h
    exact .quiet hpc rfl _
  · split at h
    · split at h
      · next u hactive =>
          cases h
          exact .cancelled hpc hactive _ _
      · cases h
        exact .quiet hpc rfl _
    · cases h
      exact .quiet hpc rfl _

theorem moves_onShutdown {session : Option String} {reply : Reply V} (hpc : pc.isBefore = true)
    (h : onShutdown s t id session = (s', reply)) :
    Moves c s t pc s'.leaveControl (.finished reply) := by
  rw [onShutdown.eq_def] at h
  split at h
  · cases h
    exact .quiet hpc rfl _
  · split at h
    · next hsession =>
        cases h
        exact .shutDown hpc hsession _ _
    · cases h
      exact .quiet hpc rfl _

theorem moves_onControl {call : ControlCall} {reply : Reply V} (hpc : pc.isBefore = true)
    (h : onControl c s t id call k = some (s', reply)) :
    Moves c s t pc s'.leaveControl (.finished reply) := by
  cases call with
  | handshake => exact moves_onHandshake hpc h
  | cancel => exact moves_onCancel hpc (Option.some.inj h)
  | shutdown => exact moves_onShutdown hpc (Option.some.inj h)
  | other =>
    cases h
    exact .quiet hpc rfl _

theorem moves_onControlRequest (h : onControlRequest s request = (s', pc')) :
    Moves c s t (.control request) s' pc' := by
  simp only [onControlRequest] at h
  split at h
  · cases h
    exact .quiet rfl rfl s.controlInFlight
  · split at h
    · cases h
      exact .quiet rfl rfl s.controlInFlight
    · cases h
      exact .quiet rfl rfl _

theorem moves_onControlRead (h : onControlRead c s t request maximumBytes k = some (s', pc')) :
    Moves c s t (.controlReading request maximumBytes) s' pc' := by
  rw [onControlRead] at h
  split at h
  · cases h
    exact .quiet rfl rfl _
  · obtain ⟨p, hp, heq⟩ := Option.map_eq_some_iff.mp h
    cases heq
    exact moves_onControl rfl hp

theorem moves_acquireDataSlot {identity : HandshakeIdentity} (hpc : pc.isBefore = true)
    (henters : Enters s p identity)
    (h : acquireDataSlot (s.enter t p) t p identity.peerLimits = (s', pc')) :
    Moves c s t pc s' pc' := by
  rw [acquireDataSlot] at h
  split at h
  · next hroom =>
      cases h
      exact .acquired hpc henters hroom
  · next hfull =>
      split at h
      · next hqueue =>
          cases h
          exact .denied hpc henters (Nat.le_of_not_lt hfull) hqueue
      · next hqueue =>
          cases h
          exact .queued hpc henters (Nat.le_of_not_lt hfull) (Nat.lt_of_not_le hqueue)

theorem moves_onRequest (hpc : pc.isBefore = true) (h : onRequest c s t id p = (s', pc')) :
    Moves c s t pc s' pc' := by
  simp only [onRequest] at h
  split at h
  · next session identity haccepting hsession hidentity =>
      split at h
      · cases h
        exact .quiet hpc rfl s.controlInFlight
      · next hmatch =>
          split at h
          · cases h
            exact .closed hpc _
          · next hused =>
              split at h
              · cases h
                exact .closed hpc _
              · rw [not_or] at hused
                split at h
                · cases h
                  exact .refused hpc hused.1 hused.2 _
                · next hroom =>
                    split at h
                    · cases h
                      exact .closed hpc _
                    · have hp : p.session = session := by grind
                      have henters : Enters s p identity :=
                        ⟨haccepting, by rw [hsession, hp], hidentity, hused.1, hused.2, by omega⟩
                      exact moves_acquireDataSlot hpc henters h
  · cases h
    exact .quiet hpc rfl s.controlInFlight

theorem moves_onDataRead {request : Http (DataCall V)}
    (h : onDataRead c s t request maximumBytes = (s', pc')) :
    Moves c s t (.dataReading request maximumBytes) s' pc' := by
  rw [onDataRead] at h
  split at h
  · cases h
    exact .quiet rfl rfl s.controlInFlight
  · cases h
    exact .quiet rfl rfl s.controlInFlight
  · cases h
    exact .quiet rfl rfl s.controlInFlight
  · exact moves_onRequest rfl h

theorem request_onDataRequest (request : Http (DataCall V)) :
    (onDataRequest s request).request = none := by
  rw [onDataRequest]
  split <;> rfl

theorem moves_onAcquired (hslot : t ∉ s.dataWaiters) (h : onAcquired c s t p k = some (s', pc')) :
    Moves c s t (.acquiring p) s' pc' := by
  unfold onAcquired at h
  split at h
  · cases h
    exact .dropped hslot _
  · next huncancelled =>
      split at h
      · cases h
        exact .rejected ⟨hslot, huncancelled⟩ _
      · cases h
        exact .threw ⟨hslot, huncancelled⟩ _
      · cases h
        exact .invoking ⟨hslot, huncancelled⟩
      · cases h

theorem moves_settle {outcome : Outcome V} {invalid : Option String} (hpc : pc.invoked = some p)
    (h : settle c s t p outcome invalid = (s', pc')) : Moves c s t pc s' pc' := by
  rw [settle.eq_def] at h
  split at h
  · cases h
    exact .failed hpc _
  · cases h
    exact .completed hpc _

theorem moves_onInvoked (h : onInvoked c s t p k = some (s', pc')) :
    Moves c s t (.invoking p) s' pc' := by
  rw [onInvoked.eq_def] at h
  split at h
  · cases h
    exact .failed rfl _
  · split at h
    · cases h
      exact .settling _ _
    · exact moves_settle rfl (Option.some.inj h)
  · cases h

theorem moves_onExpire (hpc : pc.request = some p) (h : onExpire s t p pc = some (s', pc')) :
    Moves c s t pc s' pc' := by
  rw [onExpire] at h
  split at h
  · cases h
  · cases h
    exact .expired hpc

/-- **Every move is one of these.** -/
theorem moves_of_next (h : next c s t pc k = some (s', pc')) : Moves c s t pc s' pc' := by
  rw [next.eq_def] at h
  split at h
  · exact moves_onControlRequest (Option.some.inj h)
  · exact moves_onControlRead h
  · cases h
    exact .quiet rfl (request_onDataRequest _) s.controlInFlight
  · exact moves_onDataRead (Option.some.inj h)
  · exact moves_onExpire rfl h
  · cases h
    exact .dismissed _
  · exact moves_onExpire rfl h
  · grind [moves_onAcquired]
  · exact moves_onExpire rfl h
  · exact moves_onInvoked h
  · exact moves_onExpire rfl h
  · exact moves_settle rfl (Option.some.inj h)
  · cases h
    exact .stopped
  · cases h
  · cases h

theorem program_moves {m : Moved Shared (Pc V)} (h : (program c).move s t pc k = some m) :
    Moves c s t pc m.shared m.next ∧ m.child = none := by
  obtain ⟨hnext, hchild⟩ := moved_of_map h
  exact ⟨moves_of_next hnext, hchild⟩

theorem step_moves {x x' : Threads Shared (Pc V)} {a : Act (Pc V) (Input V)}
    (h : (program c).step x a = some x') :
    (∃ t pc, pc.isEntry = true ∧ t ∉ x.pool ∧ x' = { x with pool := x.pool.insert t pc }) ∨
    ∃ t pc pc', x.pool[t]? = some pc ∧ Moves c x.shared t pc x'.shared pc' ∧
      x'.pool = x.pool.insert t pc' := by
  rcases (program c).step_cases h with ⟨t, pc, -, hentry, hfresh, heq⟩ |
    ⟨t, k, child, pc, m, -, hpc, hm, hshared, ⟨-, hpool⟩ | ⟨pc', hsome, -, -⟩⟩
  · exact .inl ⟨t, pc, hentry, hfresh, heq⟩
  · refine .inr ⟨t, pc, m.next, hpc, ?_, hpool⟩
    rw [hshared]
    exact (program_moves hm).1
  · rw [(program_moves hm).2] at hsome
    cases hsome

end

end LensoBun.ProcessV1.Child
