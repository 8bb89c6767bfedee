import LensoBun.Lib.Channel
import LensoBun.Wire.Failure

set_option autoImplicit false

/-! # What the two transports share

The process a transport talks to (`ProcessState` in `transport/mod.rs`), the calls that go
through it, and the registries that both transports keep: for requests, events and stream calls
the calls that wait for a response, and for requests and events together and for stream calls
the ids that have been used.

A call is known by the number of the thread that made it; `Resolution` is what its oneshot
channel has brought it. The diagnostic output of the child that `failure` appends to a text is
left out.
-/

namespace LensoBun.Transport

open Std Lib

/-! ## Lanes and groups -/

/-- The registries of waiting calls: `pending`, `event_pending` and `stream_pending`. -/
inductive Lane where
  | request
  | event
  | stream
  deriving DecidableEq, Repr

/-- Requests and events share their sets of used ids; stream calls have their own. -/
inductive Group where
  | call
  | stream
  deriving DecidableEq, Repr

def Lane.group : Lane → Group
  | .request | .event => .call
  | .stream => .stream

abbrev Key := Group × Nat

structure PerLane (α : Type) where
  request : α
  event : α
  stream : α
  deriving DecidableEq, Repr

structure PerGroup (α : Type) where
  call : α
  stream : α
  deriving DecidableEq, Repr

section

variable {α : Type}

def PerLane.get (x : PerLane α) : Lane → α
  | .request => x.request
  | .event => x.event
  | .stream => x.stream

def PerLane.set (x : PerLane α) (lane : Lane) (a : α) : PerLane α :=
  match lane with
  | .request => { x with request := a }
  | .event => { x with event := a }
  | .stream => { x with stream := a }

def PerGroup.get (x : PerGroup α) : Group → α
  | .call => x.call
  | .stream => x.stream

def PerGroup.set (x : PerGroup α) (group : Group) (a : α) : PerGroup α :=
  match group with
  | .call => { x with call := a }
  | .stream => { x with stream := a }

theorem PerLane.get_set (x : PerLane α) (lane lane' : Lane) (a : α) :
    (x.set lane a).get lane' = if lane = lane' then a else x.get lane' := by
  cases lane <;> cases lane' <;> rfl

theorem PerGroup.get_set (x : PerGroup α) (group group' : Group) (a : α) :
    (x.set group a).get group' = if group = group' then a else x.get group' := by
  cases group <;> cases group' <;> rfl

end

/-! ## Calls -/

inductive CallKind where
  | request
  | event
  | streamOpen (streamId : Nat)
  | streamCall (streamId : Nat)
  deriving DecidableEq, Repr

def CallKind.lane : CallKind → Lane
  | .request => .request
  | .event => .event
  | .streamOpen _ | .streamCall _ => .stream

/-- A request, an event, a stream open or a stream call, with the capability as `capability_id`
gives it. -/
structure Call where
  kind : CallKind
  requestId : Nat
  capability : String
  operation : String
  deriving DecidableEq, Repr

def Call.lane (call : Call) : Lane := call.kind.lane

def Call.key (call : Call) : Key := (call.lane.group, call.requestId)

inductive Cancelled where
  | call (requestId : Nat)
  | stream (requestId streamId : Nat)
  deriving DecidableEq, Repr

def Cancelled.key : Cancelled → Key
  | .call requestId => (.call, requestId)
  | .stream requestId _ => (.stream, requestId)

/-- What the owner of a call finds in its oneshot channel. -/
inductive Resolution (V : Type) where
  | answered (outcome : V)
  | failed (failure : RuntimeFailure)
  | closed
  deriving DecidableEq, Repr

/-- Calls that wait for a response: the request id, and the thread that made the call. -/
abbrev PendingResponses := ExtTreeMap Nat Nat

abbrev RequestIds := ExtTreeMap Nat Unit

def maxCancelledRequestIds : Nat := 1024

def maxRetiredRequestIds : Nat := 1024

/-- `remember_request_id`. -/
def rememberRequestId (ids : RequestIds) (requestId : Nat) : RequestIds :=
  (evict maxRetiredRequestIds ids).insert requestId ()

section

variable (x : PerLane PendingResponses) (lane lane' : Lane) (id id' u : Nat)

theorem getElem?_set_insert :
    ((x.set lane ((x.get lane).insert id u)).get lane')[id']? =
      if lane = lane' ∧ id = id' then some u else (x.get lane')[id']? := by
  rw [PerLane.get_set]
  by_cases hlane : lane = lane'
  · grind
  · simp only [hlane, if_false, false_and]

theorem getElem?_set_erase :
    ((x.set lane ((x.get lane).erase id)).get lane')[id']? =
      if lane = lane' ∧ id = id' then none else (x.get lane')[id']? := by
  rw [PerLane.get_set]
  by_cases hlane : lane = lane'
  · grind
  · simp only [hlane, if_false, false_and]

theorem getElem?_set_empty :
    ((x.set lane ∅).get lane')[id']? = if lane = lane' then none else (x.get lane')[id']? := by
  rw [PerLane.get_set]
  split
  · rfl
  · rfl

variable {x lane lane' id id' u}

theorem getElem?_of_set_erase
    (h : ((x.set lane ((x.get lane).erase id)).get lane')[id']? = some u) :
    (x.get lane')[id']? = some u := by
  rw [getElem?_set_erase] at h
  split at h
  · cases h
  · exact h

/-- An entry left when one registry has been emptied was there before. -/
theorem getElem?_of_set_empty (h : ((x.set lane ∅).get lane')[id']? = some u) :
    (x.get lane')[id']? = some u := by
  rw [getElem?_set_empty] at h
  split at h
  · cases h
  · exact h

end

section

variable (x : PerGroup (ExtTreeMap Nat Nat)) (group group' : Group) (id id' u : Nat)

theorem getElem?_setGroup_insert :
    ((x.set group ((x.get group).insert id u)).get group')[id']? =
      if group = group' ∧ id = id' then some u else (x.get group')[id']? := by
  rw [PerGroup.get_set]
  by_cases hgroup : group = group'
  · grind
  · simp only [hgroup, if_false, false_and]

theorem getElem?_setGroup_erase :
    ((x.set group ((x.get group).erase id)).get group')[id']? =
      if group = group' ∧ id = id' then none else (x.get group')[id']? := by
  rw [PerGroup.get_set]
  by_cases hgroup : group = group'
  · grind
  · simp only [hgroup, if_false, false_and]

theorem getElem?_setGroup_empty :
    ((x.set group ∅).get group')[id']? =
      if group = group' then none else (x.get group')[id']? := by
  rw [PerGroup.get_set]
  split
  · rfl
  · rfl

variable {x group group' id id' u}

theorem getElem?_of_setGroup_erase
    (h : ((x.set group ((x.get group).erase id)).get group')[id']? = some u) :
    (x.get group')[id']? = some u := by
  rw [getElem?_setGroup_erase] at h
  split at h
  · cases h
  · exact h

theorem getElem?_of_setGroup_empty (h : ((x.set group ∅).get group')[id']? = some u) :
    (x.get group')[id']? = some u := by
  rw [getElem?_setGroup_empty] at h
  split at h
  · cases h
  · exact h

end

/-! ## The process -/

structure ProcessState where
  alive : Bool
  failure : Option RuntimeFailure
  deriving DecidableEq, Repr

def ProcessState.start : ProcessState := ⟨true, none⟩

/-- The failure a call is refused with when the process is dead. -/
def ProcessState.refusal (process : ProcessState) (capability : String) : RuntimeFailure :=
  process.failure.getD (.unavailable capability)

/-- `failure_or_exit` with a default: the stored failure, or the exit of the child if the look at
it has found one. -/
def ProcessState.failureOrExit (process : ProcessState) (exit : Option String)
    (fallback : RuntimeFailure) : RuntimeFailure :=
  match process.failure, exit with
  | some failure, _ => failure
  | none, some status => .pluginFailure ("Bun process exited with status " ++ status)
  | none, none => fallback

end LensoBun.Transport
