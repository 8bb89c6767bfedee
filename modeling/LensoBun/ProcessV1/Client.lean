import LensoBun.Lib.Threads
import LensoBun.ProcessV1.Terminal

set_option autoImplicit false

/-! # Requests and cancellations of a Process V1 session

`ProcessV1Session::request` and `ProcessV1Session::cancel` (`process_v1/client.rs`) as threads over
the session: the arbiter, the flag `accepting`, the child and the clock. Each lock section and
each atomic access is one step; so are the HTTP exchange and the return of a request. Thread 0 is
the clock.

What the HTTP exchange gives, and the verdict on the parameters and on the peer's answers, comes
from outside. A request that has been admitted takes down, when it returns, what the arbiter holds
for its id at that moment (`held`).
-/

namespace LensoBun.ProcessV1.Client

open Std Lib

variable {V : Type}

/-! ## State -/

inductive ClientError where
  | random
  | transport
  | protocol
  | authentication
  | outboundTooLarge
  | inboundTooLarge
  | cancelled
  | deadlineExceeded
  | retired
  | internal
  deriving DecidableEq, Repr

/-- What the checks of the parameters against the session, its descriptors and the value codec
give. -/
inductive Verdict where
  | passed
  | refused
  /-- No descriptor fits: the process is retired. -/
  | mismatch
  deriving DecidableEq, Repr

/-- The parameters of a request, as far as `request` looks at them. -/
structure RequestParams where
  checks : Verdict
  /-- `correlation_id.parse()`. -/
  correlationId : Option Nat
  /-- `remaining_timeout_nanos`, and what it parses to. -/
  remainingTimeoutNanos : Option (Option Nat)
  deriving DecidableEq, Repr

structure RequestResult (V : Type) where
  value : V
  /-- The outcome is a runtime failure of the kind `PluginFailure`. -/
  pluginFailure : Bool
  deriving DecidableEq, Repr

structure Shared where
  terminal : TerminalArbiter
  accepting : Bool
  /-- The child has not been taken by `retire`. -/
  child : Bool
  clock : Nat

/-! ## Threads -/

abbrev Outcome (V : Type) := Except ClientError (RequestResult V)

/-- Who has called `retire`, and what it returns then. -/
inductive Exit (V : Type) where
  | request (id : Nat) (outcome : Outcome V)
  | refused (error : ClientError)
  | cancel (error : ClientError)
  deriving DecidableEq

inductive Pc (V : Type) where
  | clock
  /-- `request`, up to its admission. -/
  | enter (params : RequestParams)
  | check (params : RequestParams)
  | deadline (id : Nat) (nanos : Option Nat)
  | admitId (id : Nat) (deadline : Option Nat)
  | remaining (id : Nat) (deadline : Option Nat)
  | expireNow (id : Nat)
  | send (id : Nat)
  | failed (id : Nat) (error : ClientError)
  | respond (id : Nat) (result : RequestResult V)
  /-- The response came too late for the arbiter: what has it committed? -/
  | lookup (id : Nat)
  /-- `cancel`. -/
  | cancelEnter (id : Option Nat)
  | cancelTerminal (id : Nat)
  | cancelSend (id : Nat)
  /-- `retire`: the flag, then the child. -/
  | retire (exit : Exit V)
  | retireChild (exit : Exit V)
  /-- An admitted request is about to return; has it retired the process? -/
  | leave (id : Nat) (outcome : Outcome V) (retired : Bool)
  | returned (id : Nat) (outcome : Outcome V) (retired : Bool) (held : Option TerminalKind)
  /-- A request that was not admitted has returned. -/
  | refused (error : ClientError)
  | cancelReturned (answer : Except ClientError Unit)
  deriving DecidableEq

/-- What the HTTP exchange of a request gives: a failure, or a response with the result of the
protocol checks on it. -/
inductive Exchange (V : Type) where
  | failed (error : ClientError)
  | response (checked : Bool) (result : RequestResult V)
  deriving DecidableEq, Repr

inductive Input (V : Type) where
  | go
  | tick (nanos : Nat)
  /-- Whether the deadline is an `Instant` (`checked_add`). -/
  | fits (fits : Bool)
  | exchange (exchange : Exchange V)
  /-- The acknowledgement of a cancel: a failure, or whether it is in order. -/
  | acknowledged (ack : Except ClientError Bool)

/-- Where a thread goes on when the process is retired. -/
def Exit.pc : Exit V → Pc V
  | .request id outcome => .leave id outcome true
  | .refused error => .refused error
  | .cancel error => .cancelReturned (.error error)

def afterChecks (params : RequestParams) : Pc V :=
  match params.checks with
  | .refused => .refused .protocol
  | .mismatch => .retire (.refused .protocol)
  | .passed =>
    match params.correlationId, params.remainingTimeoutNanos with
    | some id, none => .deadline id none
    | some id, some (some nanos) => .deadline id (some nanos)
    | _, _ => .refused .protocol

/-- `saturating_duration_since` is zero from the deadline on. -/
def afterRemaining (id clock : Nat) : Option Nat → Pc V
  | none => .send id
  | some deadline => if deadline ≤ clock then .expireNow id else .send id

/-- What the arbiter says about a request whose exchange has failed. -/
def afterFailure (id : Nat) (error : ClientError) : Answer (RequestResult V) → Pc V
  | .error _ => .leave id (.error .protocol) false
  | .ok (some _) => .leave id (.error .deadlineExceeded) false
  | .ok none => .retire (.request id (.error error))

def afterRespond (id : Nat) :
    Except TerminalError (InvocationTerminal (RequestResult V)) → Pc V
  | .ok (.response result) =>
    if result.pluginFailure then .retire (.request id (.ok result))
    else .leave id (.ok result) false
  | .ok .cancelled => .leave id (.error .cancelled) false
  | .ok .deadlineExceeded => .leave id (.error .deadlineExceeded) false
  | .error _ => .lookup id

def afterLookup (id : Nat) : Option TerminalKind → Pc V
  | some .cancelled => .leave id (.error .cancelled) false
  | some .deadlineExceeded => .leave id (.error .deadlineExceeded) false
  | _ => .retire (.request id (.error .protocol))

def afterAck : Except ClientError Bool → Pc V
  | .error error => .retire (.cancel error)
  | .ok true => .cancelReturned (.ok ())
  | .ok false => .retire (.cancel .protocol)

/-- One step of a thread. The clock is read under the lock of the arbiter. -/
def move (s : Shared) : Pc V → Input V → Option (Moved Shared (Pc V))
  | .clock, .tick nanos => some ⟨{ s with clock := s.clock + nanos }, .clock, none⟩
  | .enter params, _ =>
    some ⟨s, if s.accepting then .check params else .refused .retired, none⟩
  | .check params, _ => some ⟨s, afterChecks params, none⟩
  | .deadline id nanos, .fits fits =>
    some ⟨s, .admitId id (if fits then nanos.map (s.clock + ·) else none), none⟩
  | .admitId id deadline, _ =>
    let admitted := s.terminal.admitId id deadline
    some ⟨{ s with terminal := admitted.1 },
      match admitted.2 with
      | .ok () => .remaining id deadline
      | .error _ => .refused .protocol, none⟩
  | .remaining id deadline, _ => some ⟨s, afterRemaining id s.clock deadline, none⟩
  -- what `expire` returns is not looked at
  | .expireNow id, _ =>
    some ⟨{ s with terminal := (s.terminal.expire (T := RequestResult V) id s.clock).1 },
      .leave id (.error .deadlineExceeded) false, none⟩
  | .send id, .exchange (.failed error) => some ⟨s, .failed id error, none⟩
  | .send id, .exchange (.response true result) => some ⟨s, .respond id result, none⟩
  | .send id, .exchange (.response false _) =>
    some ⟨s, .retire (.request id (.error .protocol)), none⟩
  | .failed id error, _ =>
    let expired := s.terminal.expire (T := RequestResult V) id s.clock
    some ⟨{ s with terminal := expired.1 }, afterFailure id error expired.2, none⟩
  | .respond id result, _ =>
    let responded := s.terminal.respond id result s.clock
    some ⟨{ s with terminal := responded.1 }, afterRespond id responded.2, none⟩
  | .lookup id, _ => some ⟨s, afterLookup id (s.terminal.retiredTerminal id), none⟩
  | .cancelEnter none, _ => some ⟨s, .cancelReturned (.error .protocol), none⟩
  | .cancelEnter (some id), _ => some ⟨s, .cancelTerminal id, none⟩
  | .cancelTerminal id, _ =>
    let cancelled := s.terminal.cancel (T := RequestResult V) id
    some ⟨{ s with terminal := cancelled.1 },
      match cancelled.2 with
      | .ok _ => .cancelSend id
      | .error _ => .cancelReturned (.error .protocol), none⟩
  | .cancelSend _, .acknowledged ack => some ⟨s, afterAck ack, none⟩
  | .retire exit, _ => some ⟨{ s with accepting := false }, .retireChild exit, none⟩
  | .retireChild exit, _ => some ⟨{ s with child := false }, exit.pc, none⟩
  | .leave id outcome retired, _ =>
    some ⟨s, .returned id outcome retired (s.terminal.retiredTerminal id), none⟩
  | _, _ => none

def Pc.starts : Pc V → Bool
  | .enter _ | .cancelEnter _ => true
  | _ => false

def program : Program Shared (Pc V) (Input V) := ⟨Pc.starts, fun s _ pc k => move s pc k⟩

def init (maximumRetired : Nat) : Threads Shared (Pc V) :=
  { shared :=
      { terminal := .new maximumRetired, accepting := true, child := true, clock := 0 }
    pool := ExtTreeMap.insert ∅ 0 .clock }

/-! ## What a step does to the arbiter -/

/-- The id of an admitted request that has not returned. -/
def Pc.owns : Pc V → Option Nat
  | .remaining id _ | .expireNow id | .send id | .failed id _ | .respond id _ | .lookup id
  | .leave id _ _ | .retire (.request id _) | .retireChild (.request id _) => some id
  | _ => none

/-- The arbiter after a step: left alone, asked about the own id, asked to admit an id, or asked
to cancel one. -/
inductive Touches (s : Shared) : Pc V → TerminalArbiter → Prop
  | none (pc : Pc V) : Touches s pc s.terminal
  | own (pc : Pc V) (call : Call (RequestResult V)) (a : TerminalArbiter)
      (answer : Answer (RequestResult V)) (owns : pc.owns = some call.id)
      (applies : Applies s.terminal call a answer) : Touches s pc a
  | enter (id : Nat) (deadline : Option Nat) (inactive : s.terminal.active[id]? = none)
      (fresh : s.terminal.retired[id]? = none) :
      Touches s (.admitId id deadline)
        { s.terminal with
          active := s.terminal.active.insert id { deadline := deadline, cancelled := false } }
  | cancel (id : Nat) (a : TerminalArbiter) (answer : Answer (RequestResult V))
      (applies : Applies s.terminal (.cancel id) a answer) : Touches s (.cancelTerminal id) a

theorem admitId_cases (a : TerminalArbiter) (id : Nat) (deadline : Option Nat) :
    (a.active[id]? = none ∧ a.retired[id]? = none ∧ a.admitId id deadline =
      ({ a with active := a.active.insert id { deadline := deadline, cancelled := false } },
        .ok ())) ∨
    ∃ error, a.admitId id deadline = (a, .error error) := by
  unfold TerminalArbiter.admitId
  split
  · exact Or.inr ⟨_, rfl⟩
  · grind

theorem move_touches {s : Shared} {pc : Pc V} {k : Input V} {m : Moved Shared (Pc V)}
    (hm : move s pc k = some m) : Touches s pc m.shared.terminal := by
  cases pc with
  | admitId id deadline =>
    cases hm
    rcases admitId_cases s.terminal id deadline with ⟨hactive, hretired, h⟩ | ⟨error, h⟩
    · rw [h]
      exact .enter id deadline hactive hretired
    · rw [h]
      exact .none _
  | expireNow id | failed id =>
    cases hm
    exact .own _ (.expire id s.clock) _ _ rfl (expire_applies _ _ _)
  | respond id result =>
    cases hm
    exact .own _ (.respond id result s.clock) _ _ rfl (respond_applies _ _ _ _)
  | cancelTerminal id =>
    cases hm
    exact .cancel id _ _ (cancel_applies _ _)
  | clock | deadline | cancelSend =>
    cases k <;> cases hm
    exact .none _
  | send =>
    cases k with
    | exchange exchange =>
      rcases exchange with error | ⟨checked, result⟩
      · cases hm
        exact .none _
      · cases checked <;> cases hm <;> exact .none _
    | _ => cases hm
  | cancelEnter id =>
    cases id <;> cases hm <;> exact .none _
  | returned => cases hm
  | refused => cases hm
  | cancelReturned => cases hm
  | _ =>
    cases hm
    exact .none _

theorem move_child {s : Shared} {pc : Pc V} {k : Input V} {m : Moved Shared (Pc V)}
    (hm : move s pc k = some m) : m.child = none := by
  unfold move at hm
  split at hm <;> cases hm <;> rfl

end LensoBun.ProcessV1.Client
