import LensoBun.Wire.Failure
import Std.Data.ExtTreeMap
import Std.Data.ExtTreeSet

set_option autoImplicit false

/-! # The Authoring V2 host: outcomes and the tables of a generation

What a `BunGenerationV2` shares between its running invocations (`adapter_v2.rs`): the senders
of the awaited settlements, the contexts and the scopes of the running work, and the handle of
the child. The ids are decimal strings in the source (a correlation id is the request id
printed); here they are the numbers.
-/

namespace LensoBun.AuthoringV2

open Std

/-! ## Failures and outcomes -/

/-- `EXECUTION_CLASS`. -/
def executionClass : String := "bun-child-process"

/-- The failures of the V2 wire which `from_wire_failure` tells apart; every other one is known
by its debug text only. -/
inductive AuthoringFailure where
  | unknownOperation (capability operation : String)
  | ambiguousBinding (capability : String) (providers : Nat)
  | protocolViolation (capability : String)
  | admissionClosed
  | resourceExhausted (capability operation : String)
  | deadlineExceeded (requestId : String)
  | cancelled (requestId : String)
  | pluginFailure (detail : String)
  | other (debug : String)
  deriving DecidableEq, Repr

/-- Decimal digits read as a number, most significant first. -/
def digitsValue (digits : List Char) : Nat :=
  digits.foldl (fun acc c => 10 * acc + (c.toNat - '0'.toNat)) 0

/-- `str::parse::<u64>`: an optional plus sign, then decimal digits, below `2^64`. -/
def parseU64 (text : String) : Option Nat :=
  let digits := match text.toList with
    | '+' :: rest => rest
    | chars => chars
  if digits ≠ [] ∧ digits.all Char.isDigit ∧ digitsValue digits < 2 ^ 64 then
    some (digitsValue digits)
  else
    none

/-- `protocol`. -/
def protocol (detail : String) : RuntimeFailure := .pluginFailure detail

/-- `unavailable`. -/
def unavailable : RuntimeFailure := .pluginFailure "Bun Authoring V2 Plugin is unavailable"

/-- `from_wire_failure` of `adapter_v2.rs`. -/
def fromAuthoringFailure : AuthoringFailure → RuntimeFailure
  | .unknownOperation _ operation => .unknownOperation executionClass operation
  | .ambiguousBinding _ providers => .ambiguousBinding executionClass providers
  | .protocolViolation _ => protocol "Bun reported a protocol violation"
  | .admissionClosed => .admissionClosed
  | .resourceExhausted _ operation => .resourceExhausted executionClass operation
  | .deadlineExceeded requestId => .deadlineExceeded ((parseU64 requestId).getD 0)
  | .cancelled requestId => .cancelled ((parseU64 requestId).getD 0)
  | .pluginFailure detail => .pluginFailure detail
  | .other debug => .pluginFailure debug

/-- The outcome a child reports for an invocation. -/
inductive InvocationOutcome (Value : Type) where
  | success (value : Value)
  | domain (error : Value)
  | runtime (failure : AuthoringFailure)
  deriving DecidableEq

inductive JsonInvocationOutcome (Value : Type) where
  | success (value : Value)
  | domainError (error : Value)
  deriving DecidableEq

/-- The outcome a child reports for a stream open. -/
inductive StreamOpenOutcome (Value : Type) where
  | opened (streamId : String)
  | domain (error : Value)
  | runtime (failure : AuthoringFailure)
  deriving DecidableEq

/-- `from_wire_outcome`. -/
def fromWireOutcome {Value : Type} :
    InvocationOutcome Value → Except RuntimeFailure (JsonInvocationOutcome Value)
  | .success value => .ok (.success value)
  | .domain error => .ok (.domainError error)
  | .runtime failure => .error (fromAuthoringFailure failure)

/-! ## Settlements -/

inductive SettlementState where
  | completed
  | cancelled
  | abandoned
  deriving DecidableEq, Repr

structure Settlement where
  session : String
  scopeId : Nat
  correlationId : Nat
  state : SettlementState
  deriving DecidableEq, Repr

/-! ## The tables of a generation -/

/-- The shared tables of a generation. A settlement sender is known by the number of the
invocation that waits on it; `host` says whether the child's handle is still there. -/
structure Generation where
  host : Bool
  settlements : ExtTreeMap Nat Nat
  sharedScopes : ExtTreeSet Nat
  contexts : ExtTreeSet Nat

/-- `retire_invocation`. -/
def Generation.retireInvocation (g : Generation) (correlationId scopeId : Nat) : Generation :=
  { g with
    settlements := g.settlements.erase correlationId
    sharedScopes := g.sharedScopes.erase scopeId
    contexts := g.contexts.erase scopeId }

/-- `terminate`: the handle goes and every table is cleared. -/
def Generation.terminate (_g : Generation) : Generation :=
  { host := false, settlements := ∅, sharedScopes := ∅, contexts := ∅ }

end LensoBun.AuthoringV2
