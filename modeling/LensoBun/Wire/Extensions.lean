import LensoBun.Wire.Failure

set_option autoImplicit false

/-! # Invocation contexts and their extensions on the V1 wire

The Kernel's `InvocationContext` as far as the adapter reads it, and what `protocol.rs` makes of it:
`encode_invocation_extensions` and the messages that carry its result, and `validate_extensions`,
the check of a list of extensions that has arrived.

A context keeps its plain and its sealed extensions in the order in which they were attached. The
Kernel refuses a key that is empty or already there, and nothing else; this is a field of the
context. Durations are in nanoseconds.
-/

namespace LensoBun

/-! ## The Kernel's context -/

structure InvocationExtension where
  key : String
  value : List UInt8
  deriving DecidableEq, Repr

structure SealedInvocationExtension where
  key : String
  issuer : String
  audience : List String
  value : List UInt8
  proof : String
  deriving DecidableEq, Repr

def audienceOf (capabilityId operation : String) : String := capabilityId ++ ":" ++ operation

/-- `SealedInvocationExtension::covers`. -/
def SealedInvocationExtension.covers (capabilityId operation : String)
    (e : SealedInvocationExtension) : Bool :=
  e.audience.contains (audienceOf capabilityId operation)

def attachedKeys (extensions : List InvocationExtension)
    (sealedExtensions : List SealedInvocationExtension) : List String :=
  extensions.map (·.key) ++ sealedExtensions.map (·.key)

structure InvocationContext where
  requestId : Nat
  deadline : Option Nat
  remainingBudget : Option Nat
  callerInstance : Option String
  extensions : List InvocationExtension
  sealedExtensions : List SealedInvocationExtension
  distinct : (attachedKeys extensions sealedExtensions).Nodup
  named : "" ∉ attachedKeys extensions sealedExtensions
  deriving DecidableEq

def InvocationContext.keys (c : InvocationContext) : List String :=
  attachedKeys c.extensions c.sealedExtensions

/-- The context with one more plain extension, under a key that may be attached. -/
def InvocationContext.attach (c : InvocationContext) (e : InvocationExtension)
    (h : e.key ≠ "" ∧ e.key ∉ c.keys) : InvocationContext :=
  { c with
    extensions := c.extensions ++ [e]
    distinct := by
      have hperm : (attachedKeys (c.extensions ++ [e]) c.sealedExtensions).Perm
          (e.key :: c.keys) := by
        simp only [attachedKeys, InvocationContext.keys, List.map_append, List.map_cons,
          List.map_nil, List.append_assoc, List.singleton_append]
        exact List.perm_middle
      exact hperm.nodup_iff.mpr (List.nodup_cons.mpr ⟨h.2, c.distinct⟩)
    named := by
      have hold := c.named
      simp only [attachedKeys, List.mem_append, List.map_append, List.map_cons, List.map_nil,
        List.mem_singleton, not_or] at hold ⊢
      exact ⟨⟨hold.1, Ne.symm h.1⟩, hold.2⟩ }

def InvocationContext.attachSealed (c : InvocationContext) (e : SealedInvocationExtension)
    (h : e.key ≠ "" ∧ e.key ∉ c.keys) : InvocationContext :=
  { c with
    sealedExtensions := c.sealedExtensions ++ [e]
    distinct := by
      have hperm : (attachedKeys c.extensions (c.sealedExtensions ++ [e])).Perm
          (e.key :: c.keys) := by
        simp only [attachedKeys, InvocationContext.keys, List.map_append, List.map_cons,
          List.map_nil, ← List.append_assoc]
        exact List.perm_append_singleton _ _
      exact hperm.nodup_iff.mpr (List.nodup_cons.mpr ⟨h.2, c.distinct⟩)
    named := by
      have hold := c.named
      simp only [attachedKeys, List.mem_append, List.map_append, List.map_cons, List.map_nil,
        List.mem_singleton, not_or] at hold ⊢
      exact ⟨hold.1, hold.2, Ne.symm h.1⟩ }

/-- `InvocationContext::with_extension`; the text of a refusal is the Kernel's. -/
def InvocationContext.withExtension (refusal : String → String) (c : InvocationContext)
    (e : InvocationExtension) : Except String InvocationContext :=
  if h : e.key ≠ "" ∧ e.key ∉ c.keys then .ok (c.attach e h) else .error (refusal e.key)

/-- `InvocationContext::with_sealed_extension`. -/
def InvocationContext.withSealedExtension (refusal : String → String) (c : InvocationContext)
    (e : SealedInvocationExtension) : Except String InvocationContext :=
  if h : e.key ≠ "" ∧ e.key ∉ c.keys then .ok (c.attachSealed e h) else .error (refusal e.key)

/-! ## Extensions on the wire -/

structure BunInvocationExtension where
  key : String
  value : List UInt8
  issuer : Option String
  audience : List String
  proof : Option String
  isSealed : Bool
  deriving DecidableEq, Repr

def InvocationExtension.encode (e : InvocationExtension) : BunInvocationExtension :=
  ⟨e.key, e.value, none, [], none, false⟩

def SealedInvocationExtension.encode (e : SealedInvocationExtension) : BunInvocationExtension :=
  ⟨e.key, e.value, some e.issuer, e.audience, some e.proof, true⟩

/-- `encode_invocation_extensions`. -/
def encodeInvocationExtensions (c : InvocationContext) (capabilityId operation : String) :
    List BunInvocationExtension :=
  c.extensions.map InvocationExtension.encode ++
    (c.sealedExtensions.filter (·.covers capabilityId operation)).map
      SealedInvocationExtension.encode

/-- The failure of every check of `validate_extensions`. -/
def extensionViolation : RuntimeFailure := .protocolViolation "lenso.bun-process@1"

/-- What `validate_extensions` asks of an extension, its key apart. -/
def BunInvocationExtension.wellFormed (expectedAudience : String) (e : BunInvocationExtension) :
    Bool :=
  if e.isSealed then
    !(e.issuer.all String.isEmpty || e.audience.isEmpty || e.proof.all String.isEmpty ||
      !e.audience.contains expectedAudience || e.audience.any String.isEmpty)
  else
    !(e.issuer.isSome || !e.audience.isEmpty || e.proof.isSome)

/-- The loop of `validate_extensions`, with the keys it has come past. -/
def validateFrom (expectedAudience : String) :
    List String → List BunInvocationExtension → Except RuntimeFailure Unit
  | _, [] => .ok ()
  | keys, e :: rest =>
    if e.key = "" ∨ e.key ∈ keys then .error extensionViolation
    else if e.wellFormed expectedAudience then validateFrom expectedAudience (e.key :: keys) rest
    else .error extensionViolation

/-- `validate_extensions`. -/
def validateExtensions (extensions : List BunInvocationExtension) (capabilityId operation : String) :
    Except RuntimeFailure Unit :=
  validateFrom (audienceOf capabilityId operation) [] extensions

theorem validateFrom_ok_iff (expectedAudience : String) (keys : List String)
    (extensions : List BunInvocationExtension) :
    validateFrom expectedAudience keys extensions = .ok () ↔
      (extensions.map (·.key)).Nodup ∧ (∀ e ∈ extensions, e.key ≠ "" ∧ e.key ∉ keys) ∧
        ∀ e ∈ extensions, e.wellFormed expectedAudience = true := by
  induction extensions generalizing keys with
  | nil => simp [validateFrom]
  | cons e rest ih =>
    rw [validateFrom]
    by_cases hkey : e.key = "" ∨ e.key ∈ keys
    · grind
    · rw [if_neg hkey]
      by_cases hwell : e.wellFormed expectedAudience = true
      · grind
      · grind

/-- **The lists that `validate_extensions` accepts.** -/
theorem validateExtensions_ok_iff (extensions : List BunInvocationExtension)
    (capabilityId operation : String) :
    validateExtensions extensions capabilityId operation = .ok () ↔
      (extensions.map (·.key)).Nodup ∧ (∀ e ∈ extensions, e.key ≠ "") ∧
        ∀ e ∈ extensions, e.wellFormed (audienceOf capabilityId operation) = true := by
  rw [validateExtensions, validateFrom_ok_iff]
  simp

/-! ## Messages -/

section

variable {V : Type}

/-- `WireRequest`, and `WireEventPublish` with the same fields. -/
structure WireRequest (V : Type) where
  requestId : Nat
  capabilityId : String
  operation : String
  deadlineNanos : Option Nat
  callerInstance : Option String
  session : Option String
  extensions : List BunInvocationExtension
  payload : V
  deriving DecidableEq, Repr

abbrev WireEventPublish (V : Type) := WireRequest V

structure WireStreamOpen (V : Type) extends WireRequest V where
  streamId : Nat
  credit : Nat
  deriving DecidableEq, Repr

/-- `DEFAULT_STREAM_CREDIT`. -/
def defaultStreamCredit : Nat := 16

/-- `deadline_nanos`. -/
def deadlineNanos (deadline : Option Nat) : Option Nat := deadline.map (min · (2 ^ 64 - 1))

/-- `wire_request`. -/
def wireRequest (c : InvocationContext) (capabilityId operation : String) (payload : V) :
    WireRequest V where
  requestId := c.requestId
  capabilityId := capabilityId
  operation := operation
  deadlineNanos := deadlineNanos c.deadline
  callerInstance := c.callerInstance
  session := none
  extensions := encodeInvocationExtensions c capabilityId operation
  payload := payload

/-- `wire_event`. -/
def wireEvent (c : InvocationContext) (capabilityId operation : String) (payload : V) :
    WireEventPublish V :=
  wireRequest c capabilityId operation payload

/-- `wire_stream_open`. -/
def wireStreamOpen (c : InvocationContext) (capabilityId operation : String) (payload : V) :
    WireStreamOpen V where
  toWireRequest := wireRequest c capabilityId operation payload
  streamId := c.requestId
  credit := defaultStreamCredit

end

end LensoBun
