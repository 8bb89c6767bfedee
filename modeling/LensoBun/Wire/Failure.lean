import Mathlib.Tactic

set_option autoImplicit false

/-! # Runtime failures and their wire form

`RuntimeFailure` is the Kernel's failure type as the adapter matches on it, `WireFailure` its
JSON form (`protocol.rs`). `toWireFailure` drops the capability, which `fromWireFailure`
restores from the endpoint the answer belongs to.
-/

namespace LensoBun

/-- The Kernel failures, with the fields the adapter reads and builds. -/
inductive RuntimeFailure where
  | unavailable (capability : String)
  | unknownOperation (capability operation : String)
  | ambiguousBinding (capability : String) (providers : Nat)
  | protocolViolation (capability : String)
  | missingPluginFactory (inst packageId : String)
  | unavailableExecutionClass (instanceKey executionClass : String)
  | invalidResolvedPlan (detail : String)
  | admissionClosed
  | resourceExhausted (capability operation : String)
  | deadlineExceeded (requestId : Nat)
  | cancelled (requestId : Nat)
  | internal (detail : String)
  | pluginFailure (detail : String)
  | pluginRestartExhausted (inst : String) (attempts : Nat)
  deriving DecidableEq, Repr

inductive WireFailure where
  | unavailable
  | unknownOperation (operation : String)
  | ambiguousBinding (providers : Nat)
  | protocolViolation (detail : Option String)
  | missingPluginFactory (inst packageId : String)
  | unavailableExecutionClass (instanceKey executionClass : String)
  | invalidResolvedPlan (detail : String)
  | admissionClosed
  | resourceExhausted (operation : String)
  | deadlineExceeded (requestId : Nat)
  | cancelled (requestId : Nat)
  | internal (detail : String)
  | pluginFailure (detail : String)
  | pluginRestartExhausted (inst : String) (attempts : Nat)
  deriving DecidableEq, Repr

/-- `to_wire_failure`. -/
def toWireFailure : RuntimeFailure → WireFailure
  | .unavailable _ => .unavailable
  | .unknownOperation _ operation => .unknownOperation operation
  | .ambiguousBinding _ providers => .ambiguousBinding providers
  | .protocolViolation capability => .protocolViolation (some capability)
  | .missingPluginFactory inst packageId => .missingPluginFactory inst packageId
  | .unavailableExecutionClass key cls => .unavailableExecutionClass key cls
  | .invalidResolvedPlan detail => .invalidResolvedPlan detail
  | .admissionClosed => .admissionClosed
  | .resourceExhausted _ operation => .resourceExhausted operation
  | .deadlineExceeded requestId => .deadlineExceeded requestId
  | .cancelled requestId => .cancelled requestId
  | .internal detail => .internal detail
  | .pluginFailure detail => .pluginFailure detail
  | .pluginRestartExhausted inst attempts => .pluginRestartExhausted inst attempts

/-- `from_wire_failure`: the failure as the caller of `capability` sees it. -/
def fromWireFailure (capability : String) : WireFailure → RuntimeFailure
  | .unavailable => .unavailable capability
  | .unknownOperation operation => .unknownOperation capability operation
  | .ambiguousBinding providers => .ambiguousBinding capability providers
  | .protocolViolation _ => .protocolViolation capability
  | .missingPluginFactory inst packageId => .missingPluginFactory inst packageId
  | .unavailableExecutionClass key cls => .unavailableExecutionClass key cls
  | .invalidResolvedPlan detail => .invalidResolvedPlan detail
  | .admissionClosed => .admissionClosed
  | .resourceExhausted operation => .resourceExhausted capability operation
  | .deadlineExceeded requestId => .deadlineExceeded requestId
  | .cancelled requestId => .cancelled requestId
  | .internal detail => .internal detail
  | .pluginFailure detail => .pluginFailure detail
  | .pluginRestartExhausted inst attempts => .pluginRestartExhausted inst attempts

/-- `protocol_violation`. -/
def protocolViolation (capability : Option String) : RuntimeFailure :=
  .protocolViolation (capability.getD "lenso.bun-process@1")

/-- The failure after which a stream, a send or a close may be retried. -/
def RuntimeFailure.isResourceExhausted : RuntimeFailure → Bool
  | .resourceExhausted _ _ => true
  | _ => false

def WireFailure.isResourceExhausted : WireFailure → Bool
  | .resourceExhausted _ => true
  | _ => false

/-- The wire form keeps which failures are retryable: the provider server tests this on the
wire form after a receive and on the Kernel form after a send. -/
@[simp] theorem isResourceExhausted_toWireFailure (error : RuntimeFailure) :
    (toWireFailure error).isResourceExhausted = error.isResourceExhausted := by
  cases error <;> rfl

/-- The capability a failure carries, when it carries one. -/
def RuntimeFailure.capability? : RuntimeFailure → Option String
  | .unavailable capability => some capability
  | .unknownOperation capability _ => some capability
  | .ambiguousBinding capability _ => some capability
  | .protocolViolation capability => some capability
  | .resourceExhausted capability _ => some capability
  | _ => none

/-- **Every failure has a wire round trip** under the capability it names, if it names one. -/
theorem fromWireFailure_toWireFailure (capability : String) (error : RuntimeFailure)
    (h : ∀ c, error.capability? = some c → c = capability) :
    fromWireFailure capability (toWireFailure error) = error := by
  cases error <;> simp_all [RuntimeFailure.capability?, toWireFailure, fromWireFailure]

end LensoBun
