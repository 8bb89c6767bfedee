import LensoBun.AuthoringV2.Host
import LensoBun.Wire.Extensions

set_option autoImplicit false

/-! # What a message shows of the caller's context

The six ways in which the host calls a child: request, event publish and stream open, on the V1 wires
(`adapter.rs` with `protocol.rs`) and in Authoring V2 (`adapter_v2.rs`). A sealed extension is meant
for its audience; `InvocationContext.visibleTo` is what is left of a context for one operation.

The V1 messages depend on no more than that. The scope of a V2 message has every extension of the
context.
-/

namespace LensoBun

/-- The part of a context that is meant for the operation: its sealed extensions are those that cover
it. -/
def InvocationContext.visibleTo (c : InvocationContext) (capabilityId operation : String) :
    InvocationContext :=
  { c with
    sealedExtensions := c.sealedExtensions.filter (·.covers capabilityId operation)
    distinct := by
      have hsub : (attachedKeys c.extensions
          (c.sealedExtensions.filter (·.covers capabilityId operation))).Sublist
          (attachedKeys c.extensions c.sealedExtensions) :=
        (List.Sublist.refl _).append (List.filter_sublist.map _)
      exact c.distinct.sublist hsub
    named := by
      have hsub : (attachedKeys c.extensions
          (c.sealedExtensions.filter (·.covers capabilityId operation))).Sublist
          (attachedKeys c.extensions c.sealedExtensions) :=
        (List.Sublist.refl _).append (List.filter_sublist.map _)
      exact fun hempty => c.named (hsub.subset hempty) }

/-- A context all of whose sealed extensions cover the operation. -/
def InvocationContext.AllCover (c : InvocationContext) (capabilityId operation : String) : Prop :=
  ∀ e ∈ c.sealedExtensions, e.covers capabilityId operation = true

theorem InvocationContext.visibleTo_of_allCover {c : InvocationContext}
    {capabilityId operation : String} (h : c.AllCover capabilityId operation) :
    c.visibleTo capabilityId operation = c := by
  have hfilter : c.sealedExtensions.filter (·.covers capabilityId operation) =
      c.sealedExtensions := List.filter_eq_self.mpr h
  simp only [InvocationContext.visibleTo, hfilter]

theorem encodeInvocationExtensions_visibleTo (c : InvocationContext)
    (capabilityId operation : String) :
    encodeInvocationExtensions (c.visibleTo capabilityId operation) capabilityId operation =
      encodeInvocationExtensions c capabilityId operation := by
  simp only [encodeInvocationExtensions, InvocationContext.visibleTo, List.filter_filter,
    Bool.and_self]

/-- **A V1 request shows what is meant for its operation.** -/
theorem wireRequest_visibleTo {V : Type} (c : InvocationContext) (capabilityId operation : String)
    (payload : V) :
    wireRequest (c.visibleTo capabilityId operation) capabilityId operation payload =
      wireRequest c capabilityId operation payload := by
  simp only [wireRequest, encodeInvocationExtensions_visibleTo]
  rfl

end LensoBun

namespace LensoBun.AuthoringV2.Calls

variable {V : Type}

/-! ## The scope of an invocation -/

/-- The alphabet of `base64::engine::general_purpose::STANDARD`. -/
def base64Alphabet : List Char :=
  "ABCDEFGHIJKLMNOPQRSTUVWXYZabcdefghijklmnopqrstuvwxyz0123456789+/".toList

def base64Digit (n : Nat) : Char := base64Alphabet.getD (n % 64) '='

/-- `STANDARD.encode`, with padding. -/
def base64Chars : List UInt8 → List Char
  | [] => []
  | [a] => [base64Digit (a.toNat / 4), base64Digit (a.toNat * 16), '=', '=']
  | [a, b] =>
    [base64Digit (a.toNat / 4), base64Digit (a.toNat * 16 + b.toNat / 16),
      base64Digit (b.toNat * 4), '=']
  | a :: b :: c :: rest =>
    [base64Digit (a.toNat / 4), base64Digit (a.toNat * 16 + b.toNat / 16),
      base64Digit (b.toNat * 4 + c.toNat / 64), base64Digit c.toNat] ++ base64Chars rest

def base64Encode (bytes : List UInt8) : String := String.ofList (base64Chars bytes)

example : base64Encode [108, 101, 110, 115, 111] = "bGVuc28=" := by decide

/-- `lenso_process_protocol::InvocationExtension`. -/
structure ScopeExtension where
  key : String
  value : String
  issuer : Option String
  audience : List String
  proof : Option String
  isSealed : Bool
  deriving DecidableEq, Repr

structure InvocationScope where
  scopeId : String
  parentScopeId : Option String
  remainingBudgetNanos : String
  permissions : List String
  extensions : List ScopeExtension
  deriving DecidableEq, Repr

def scopeExtension (e : InvocationExtension) : ScopeExtension :=
  ⟨e.key, base64Encode e.value, none, [], none, false⟩

def sealedScopeExtension (e : SealedInvocationExtension) : ScopeExtension :=
  ⟨e.key, base64Encode e.value, some e.issuer, e.audience, some e.proof, true⟩

/-- The extensions of a scope: all of the context, sorted by key. -/
def scopeExtensions (c : InvocationContext) : List ScopeExtension :=
  (c.extensions.map scopeExtension ++ c.sealedExtensions.map sealedScopeExtension).insertionSort
    (fun left right => left.key ≤ right.key)

/-- `duration_nanos`. -/
def durationNanos (duration : Option Nat) : String :=
  match duration with
  | none => toString (2 ^ 64 - 1)
  | some value => toString (min value (2 ^ 64 - 1))

/-- The scope that `invocation_scope` builds. -/
def scopeOf (c : InvocationContext) : InvocationScope :=
  ⟨"invoke-" ++ toString c.requestId, none, durationNanos c.remainingBudget, [], scopeExtensions c⟩

/-- `invocation_scope`; `scopeError` is what the protocol's own `validate` finds wrong. -/
def invocationScope (scopeError : InvocationScope → Option String) (c : InvocationContext) :
    Except RuntimeFailure InvocationScope :=
  match scopeError (scopeOf c) with
  | some error => .error (protocol error)
  | none => .ok (scopeOf c)

/-! ## Messages -/

structure Endpoint where
  endpointId : String
  descriptorVersion : String
  descriptorDigest : String
  deriving DecidableEq, Repr

/-- `InvokeParams`, `EventPublishParams` and `StreamOpenParams`: the last field is their `payload`,
`event` and `request`. -/
structure CallParams (V : Type) where
  session : String
  correlationId : String
  endpointId : String
  capabilityId : String
  descriptorVersion : String
  descriptorDigest : String
  operation : String
  scope : InvocationScope
  payload : V
  deriving DecidableEq, Repr

/-- What a `BunGenerationV2` brings to a message. The two checks are the protocol's: `validate` of a
scope, and `validate_against` with the generation's initialization. -/
structure Target (V : Type) where
  /-- `initialization` and `host` are there. -/
  initialized : Bool
  session : String
  endpoints : String → Option Endpoint
  scopeError : InvocationScope → Option String
  paramsError : CallParams V → Option String

inductive Interaction where
  | request
  | event
  | streamOpen
  deriving DecidableEq, Repr

def Interaction.unknownEndpoint : Interaction → RuntimeFailure
  | .request => .protocolViolation executionClass
  | .event => protocol "unknown Bun Event endpoint"
  | .streamOpen => protocol "unknown Bun Stream endpoint"

def Interaction.invalidPayload : Interaction → RuntimeFailure
  | .request => .protocolViolation executionClass
  | .event => protocol "invalid Bun Event payload"
  | .streamOpen => protocol "invalid Bun Stream open payload"

def Target.params (g : Target V) (endpoint : Endpoint) (c : InvocationContext)
    (capabilityId operation : String) (scope : InvocationScope) (payload : V) : CallParams V :=
  ⟨g.session, toString c.requestId, endpoint.endpointId, capabilityId, endpoint.descriptorVersion,
    endpoint.descriptorDigest, operation, scope, payload⟩

def Target.validateAgainst (g : Target V) (params : CallParams V) :
    Except RuntimeFailure (CallParams V) :=
  match g.paramsError params with
  | some error => .error (protocol error)
  | none => .ok params

/-- The params that `invoke`, `publish` and `open` send. -/
def Target.callParams (g : Target V) (kind : Interaction) (c : InvocationContext)
    (capabilityId operation : String) (payload : Except RuntimeFailure V) :
    Except RuntimeFailure (CallParams V) :=
  if g.initialized then
    match g.endpoints capabilityId with
    | none => .error kind.unknownEndpoint
    | some endpoint =>
      match invocationScope g.scopeError c with
      | .error failure => .error failure
      | .ok scope =>
        match payload with
        | .error _ => .error kind.invalidPayload
        | .ok payload =>
          g.validateAgainst (g.params endpoint c capabilityId operation scope payload)
  else
    .error .admissionClosed

/-- The child that a call goes to: a V1 process, by the session of its handshake, or a generation. -/
inductive Peer (V : Type) where
  | v1 (session : String)
  | v2 (generation : Target V)

def Peer.isV2 : Peer V → Bool
  | .v1 _ => false
  | .v2 _ => true

inductive Message (V : Type) where
  | request (request : WireRequest V)
  | event (event : WireEventPublish V)
  | streamOpen (request : WireStreamOpen V)
  | call (kind : Interaction) (params : CallParams V)
  deriving DecidableEq, Repr

/-- The V1 messages, with the session that the transport puts in. -/
def v1Message (session : String) (c : InvocationContext) (capabilityId operation : String)
    (payload : V) : Interaction → Message V
  | .request => .request { wireRequest c capabilityId operation payload with session := some session }
  | .event => .event { wireEvent c capabilityId operation payload with session := some session }
  | .streamOpen =>
    .streamOpen { wireStreamOpen c capabilityId operation payload with session := some session }

/-- The message that the host sends for a call; `payload` is what the codec makes of the caller's
value. -/
def Peer.message (peer : Peer V) (kind : Interaction) (c : InvocationContext)
    (capabilityId operation : String) (payload : Except RuntimeFailure V) :
    Except RuntimeFailure (Message V) :=
  match peer with
  | .v1 session =>
    match payload with
    | .error failure => .error failure
    | .ok payload => .ok (v1Message session c capabilityId operation payload kind)
  | .v2 g =>
    match g.callParams kind c capabilityId operation payload with
    | .error failure => .error failure
    | .ok params => .ok (.call kind params)

theorem v1Message_visibleTo (session : String) (c : InvocationContext)
    (capabilityId operation : String) (payload : V) (kind : Interaction) :
    v1Message session (c.visibleTo capabilityId operation) capabilityId operation payload kind =
      v1Message session c capabilityId operation payload kind := by
  have hrequest := wireRequest_visibleTo c capabilityId operation payload
  cases kind with
  | request => simp only [v1Message, hrequest]
  | event => simp only [v1Message, wireEvent, hrequest]
  | streamOpen =>
    have hid : (c.visibleTo capabilityId operation).requestId = c.requestId := rfl
    simp only [v1Message, wireStreamOpen, hrequest, hid]

variable {c : InvocationContext} {g : Target V} {capabilityId operation : String}
  {kind : Interaction} {payload : Except RuntimeFailure V}

theorem invocationScope_ok {scopeError : InvocationScope → Option String} {scope : InvocationScope}
    (h : invocationScope scopeError c = .ok scope) : scope = scopeOf c := by
  rw [invocationScope] at h
  split at h
  · cases h
  · cases h
    rfl

theorem Target.validateAgainst_ok {params params' : CallParams V}
    (h : g.validateAgainst params = .ok params') : params' = params := by
  rw [Target.validateAgainst] at h
  split at h
  · cases h
  · cases h
    rfl

/-- The scope of params that are sent is the whole scope of the context. -/
theorem Target.callParams_scope {params : CallParams V}
    (h : g.callParams kind c capabilityId operation payload = .ok params) :
    params.scope = scopeOf c := by
  rw [Target.callParams] at h
  split at h
  · split at h
    · cases h
    · split at h
      · cases h
      · next scope hscope =>
          split at h
          · cases h
          · rw [Target.validateAgainst_ok h]
            exact invocationScope_ok hscope
  · cases h

theorem message_scope {m : Message V}
    (h : (Peer.v2 g).message kind c capabilityId operation payload = .ok m) :
    ∃ params, m = .call kind params ∧ params.scope = scopeOf c := by
  rw [Peer.message] at h
  split at h
  · cases h
  · grind [Target.callParams_scope]

/-- **One V2 message comes only from contexts with the same extensions**: whatever a context carries
for other operations can be read off the message. -/
theorem scopeExtensions_eq_of_message {c' : InvocationContext} {m : Message V}
    (h : (Peer.v2 g).message kind c capabilityId operation payload = .ok m)
    (h' : (Peer.v2 g).message kind c' capabilityId operation payload = .ok m) :
    scopeExtensions c = scopeExtensions c' := by
  obtain ⟨params, rfl, hscope⟩ := message_scope h
  obtain ⟨params', hparams, hscope'⟩ := message_scope h'
  cases hparams
  exact congrArg InvocationScope.extensions (hscope.symm.trans hscope')

def plainContext : InvocationContext := ⟨7, none, none, none, [], [], by decide, by decide⟩

/-- The same caller, who also holds a proof for another operation. -/
def sealedContext : InvocationContext :=
  ⟨7, none, none, none, [], [⟨"example.identity", "issuer", ["example.vault@1:open"], [42], "proof"⟩],
    by decide, by decide⟩

def sampleTarget : Target Nat where
  initialized := true
  session := "session"
  endpoints _ := some ⟨"endpoint-0", "1.0.0", "sha256:0"⟩
  scopeError _ := none
  paramsError _ := none

end LensoBun.AuthoringV2.Calls
