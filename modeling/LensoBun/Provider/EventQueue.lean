import LensoBun.Lib.Threads

set_option autoImplicit false

/-! # The event queues of the provider server

One `ProviderEventQueue` serves the events of one caller instance (`server.rs`). A handler
enqueues its event and, when the queue tells it to, spawns a worker; a worker pops events and
runs the provider's `publish_event` on them until it finds the queue empty. The flag `draining`
says that a worker is at work, but the worker that clears it pops once more before it returns.

Handlers and workers are threads over the queue (`Lib.Threads`); each lock section of the source
is one step, and so are the provider's callback and the removal of the request's id. No section
of the queue panics, so its lock is never poisoned.
-/

namespace LensoBun.Provider.EventQueue

open Lib

/-! ## The queue -/

/-- A queued event. `ordinal` counts the accepted events: it is the event's place in the order
of acceptance. -/
structure QueuedEvent where
  requestId : Nat
  ordinal : Nat
  deriving DecidableEq, Repr

structure ProviderEventQueueState where
  pending : List QueuedEvent
  admitted : Nat
  draining : Bool
  deriving DecidableEq, Repr

def ProviderEventQueueState.default : ProviderEventQueueState :=
  { pending := [], admitted := 0, draining := false }

/-- The capacity of a new queue: at least one. -/
def newCapacity (capacity : Nat) : Nat := max capacity 1

/-- `try_enqueue`: nothing when the queue is full, else whether the caller has to start a
worker. -/
def tryEnqueue (capacity : Nat) (state : ProviderEventQueueState) (event : QueuedEvent) :
    Option (ProviderEventQueueState × Bool) :=
  if state.admitted ≥ capacity then none
  else
    some ({ pending := state.pending ++ [event], admitted := state.admitted + 1,
            draining := true }, !state.draining)

/-- `pop`. -/
def pop (state : ProviderEventQueueState) : Option (QueuedEvent × ProviderEventQueueState) :=
  match state.pending with
  | [] => none
  | event :: rest => some (event, { state with pending := rest })

/-- `complete`. -/
def complete (state : ProviderEventQueueState) : ProviderEventQueueState :=
  { state with
    admitted := state.admitted - 1
    draining := if state.pending.isEmpty then false else state.draining }

/-- `abort`: the state afterwards and the events it drained. -/
def abort (state : ProviderEventQueueState) : ProviderEventQueueState × List QueuedEvent :=
  ({ pending := [], admitted := 0, draining := false }, state.pending)

/-! ## Handlers and workers -/

inductive Pc where
  /-- `handle_event`, registered, about to call `try_enqueue`. -/
  | enqueue (requestId : Nat)
  /-- The queue was full: the id is still to be removed. -/
  | refused (requestId : Nat)
  | spawn
  /-- The thread could not be spawned: `abort` comes next. -/
  | abort
  /-- The ids of the drained events are still to be removed. -/
  | removeAborted (events : List QueuedEvent)
  /-- `spawn_event_worker`, at the top of its loop. -/
  | workerPop
  /-- Popped, before `is_cancelled`. -/
  | workerCheck (event : QueuedEvent)
  /-- Inside `publish_event`. -/
  | workerRun (event : QueuedEvent)
  /-- Before `remove_request`. -/
  | workerRemove (event : QueuedEvent)
  /-- Before `complete`. -/
  | workerComplete (event : QueuedEvent)
  | done
  deriving DecidableEq, Repr

/-- The queue, with what has happened to it: how many events were accepted, which were popped
and which started, in order, and which are popped and not completed. -/
structure Shared where
  capacity : Nat
  queue : ProviderEventQueueState
  accepted : Nat
  popped : List Nat
  started : List Nat
  inHand : List Nat
  deriving DecidableEq, Repr

/-- An accepted handler spawns a worker if it was told to, and is done otherwise. -/
def afterEnqueue : Bool → Pc
  | true => .spawn
  | false => .done

/-- One step of a thread. The choice is whether the spawn succeeds (at `spawn`) and whether the
event's token is set (at `workerCheck`); elsewhere it is not looked at. -/
def move (s : Shared) : Pc → Bool → Option (Moved Shared Pc)
  | .enqueue requestId, _ =>
    match tryEnqueue s.capacity s.queue { requestId := requestId, ordinal := s.accepted } with
    | none => some ⟨s, .refused requestId, none⟩
    | some (queue, shouldStart) =>
      some ⟨{ s with queue := queue, accepted := s.accepted + 1 },
        afterEnqueue shouldStart, none⟩
  | .refused _, _ => some ⟨s, .done, none⟩
  | .spawn, started =>
    if started then some ⟨s, .done, some .workerPop⟩ else some ⟨s, .abort, none⟩
  | .abort, _ =>
    let (queue, aborted) := EventQueue.abort s.queue
    some ⟨{ s with queue := queue }, .removeAborted aborted, none⟩
  | .removeAborted [], _ => some ⟨s, .done, none⟩
  | .removeAborted (_ :: events), _ => some ⟨s, .removeAborted events, none⟩
  | .workerPop, _ =>
    match pop s.queue with
    | none => some ⟨s, .done, none⟩
    | some (event, queue) =>
      some ⟨{ s with queue := queue, popped := s.popped ++ [event.ordinal],
                     inHand := s.inHand ++ [event.ordinal] }, .workerCheck event, none⟩
  | .workerCheck event, isCancelled =>
    if isCancelled then some ⟨s, .workerRemove event, none⟩
    else some ⟨{ s with started := s.started ++ [event.ordinal] }, .workerRun event, none⟩
  -- a panic of the provider is caught, so the callback always comes back
  | .workerRun event, _ => some ⟨s, .workerRemove event, none⟩
  | .workerRemove event, _ => some ⟨s, .workerComplete event, none⟩
  | .workerComplete event, _ =>
    some ⟨{ s with queue := complete s.queue, inHand := s.inHand.erase event.ordinal },
      .workerPop, none⟩
  | .done, _ => none

def Pc.isEnqueue : Pc → Bool
  | .enqueue _ => true
  | _ => false

/-- The handlers and workers of one binding queue. Handlers start at their enqueue; workers are
only ever spawned. -/
def program : Program Shared Pc Bool := ⟨Pc.isEnqueue, fun s _ pc choice => move s pc choice⟩

def init (capacity : Nat) : Threads Shared Pc :=
  { shared :=
      { capacity := newCapacity capacity, queue := .default, accepted := 0, popped := []
        started := [], inHand := [] }
    pool := ∅ }

def Pc.isWorker : Pc → Bool
  | .workerPop | .workerCheck _ | .workerRun _ | .workerRemove _ | .workerComplete _ => true
  | _ => false

/-! ## What the steps do -/

variable {event : QueuedEvent} {state state' : ProviderEventQueueState} {m : Moved Shared Pc}

theorem tryEnqueue_some {capacity : Nat} {shouldStart : Bool}
    (h : tryEnqueue capacity state event = some (state', shouldStart)) :
    state.admitted < capacity ∧
      state' = { pending := state.pending ++ [event], admitted := state.admitted + 1,
                 draining := true } ∧
      shouldStart = !state.draining := by
  unfold tryEnqueue at h
  split at h
  · cases h
  · grind

theorem pop_some (h : pop state = some (event, state')) :
    ∃ rest, state.pending = event :: rest ∧ state' = { state with pending := rest } := by
  unfold pop at h
  split at h
  · cases h
  · grind

theorem pop_none (h : pop state = none) : state.pending = [] := by
  unfold pop at h
  split at h
  · assumption
  · cases h

/-- Every step there is, one constructor for each branch of `move`. -/
inductive Moves (s : Shared) : Pc → Bool → Moved Shared Pc → Prop
  | full (requestId : Nat) (k : Bool) : Moves s (.enqueue requestId) k ⟨s, .refused requestId, none⟩
  | accept (requestId : Nat) (k : Bool) (room : s.queue.admitted < s.capacity) :
      Moves s (.enqueue requestId) k
        ⟨{ s with
            queue :=
              { pending := s.queue.pending ++ [{ requestId := requestId, ordinal := s.accepted }]
                admitted := s.queue.admitted + 1, draining := true }
            accepted := s.accepted + 1 }, afterEnqueue (!s.queue.draining), none⟩
  | refused (requestId : Nat) (k : Bool) : Moves s (.refused requestId) k ⟨s, .done, none⟩
  | spawned : Moves s .spawn true ⟨s, .done, some .workerPop⟩
  | spawnFails : Moves s .spawn false ⟨s, .abort, none⟩
  | abort (k : Bool) :
      Moves s .abort k
        ⟨{ s with queue := { pending := [], admitted := 0, draining := false } },
          .removeAborted s.queue.pending, none⟩
  | removedAll (k : Bool) : Moves s (.removeAborted []) k ⟨s, .done, none⟩
  | removeAborted (event : QueuedEvent) (events : List QueuedEvent) (k : Bool) :
      Moves s (.removeAborted (event :: events)) k ⟨s, .removeAborted events, none⟩
  | idle (k : Bool) (empty : s.queue.pending = []) : Moves s .workerPop k ⟨s, .done, none⟩
  | pop (event : QueuedEvent) (rest : List QueuedEvent) (k : Bool)
      (pending : s.queue.pending = event :: rest) :
      Moves s .workerPop k
        ⟨{ s with queue := { s.queue with pending := rest }
                  popped := s.popped ++ [event.ordinal]
                  inHand := s.inHand ++ [event.ordinal] }, .workerCheck event, none⟩
  | cancelled (event : QueuedEvent) : Moves s (.workerCheck event) true ⟨s, .workerRemove event, none⟩
  | publish (event : QueuedEvent) :
      Moves s (.workerCheck event) false
        ⟨{ s with started := s.started ++ [event.ordinal] }, .workerRun event, none⟩
  | published (event : QueuedEvent) (k : Bool) :
      Moves s (.workerRun event) k ⟨s, .workerRemove event, none⟩
  | removed (event : QueuedEvent) (k : Bool) :
      Moves s (.workerRemove event) k ⟨s, .workerComplete event, none⟩
  | complete (event : QueuedEvent) (k : Bool) :
      Moves s (.workerComplete event) k
        ⟨{ s with queue := EventQueue.complete s.queue
                  inHand := s.inHand.erase event.ordinal }, .workerPop, none⟩

theorem move_moves {s : Shared} {pc : Pc} {k : Bool} (hm : move s pc k = some m) :
    Moves s pc k m := by
  cases pc with
  | enqueue requestId =>
    simp only [move] at hm
    split at hm
    · cases hm
      exact .full requestId k
    · next queue shouldStart hq =>
        obtain ⟨hroom, rfl, rfl⟩ := tryEnqueue_some hq
        cases hm
        exact .accept requestId k hroom
  | workerPop =>
    simp only [move] at hm
    split at hm
    · next hq =>
        cases hm
        exact .idle k (pop_none hq)
    · next event queue hq =>
        obtain ⟨rest, hp, rfl⟩ := pop_some hq
        cases hm
        exact .pop event rest k hp
  | spawn | workerCheck => cases k <;> cases hm <;> constructor
  | removeAborted events => cases events <;> cases hm <;> constructor
  | done => cases hm
  | _ =>
    cases hm
    constructor

theorem move_child {s : Shared} {pc pc' : Pc} {k : Bool} (hm : move s pc k = some m)
    (hc : m.child = some pc') :
    pc = .spawn ∧ k = true ∧ pc' = .workerPop ∧ m = ⟨s, .done, some .workerPop⟩ := by
  cases move_moves hm with
  | spawned =>
    cases hc
    exact ⟨rfl, rfl, rfl, rfl⟩
  | _ => cases hc

/-! ## The order of acceptance -/

/-- The pending events stand in the order of acceptance, behind all those `seen`. -/
structure InLine (seen : List Nat) (pending : List QueuedEvent) (accepted : Nat) : Prop where
  sorted : pending.Pairwise (fun a b => a.ordinal < b.ordinal)
  pending_lt : ∀ e ∈ pending, e.ordinal < accepted
  seen_lt : ∀ n ∈ seen, n < accepted
  seen_pending : ∀ n ∈ seen, ∀ e ∈ pending, n < e.ordinal

namespace InLine

variable {seen : List Nat} {pending rest : List QueuedEvent} {event : QueuedEvent}
  {accepted : Nat}

/-- An accepted event has the next ordinal, so its place is behind all others. -/
theorem enqueue (h : InLine seen pending accepted) (requestId : Nat) :
    InLine seen (pending ++ [{ requestId := requestId, ordinal := accepted }])
      (accepted + 1) := by
  -- every event of the longer list is an old one or the new one
  have hcases : ∀ P : Nat → Prop, (∀ e ∈ pending, P e.ordinal) → P accepted →
      ∀ e ∈ pending ++ [{ requestId := requestId, ordinal := accepted }], P e.ordinal := by grind
  refine ⟨?_, ?_, ?_, ?_⟩
  · grind [h.sorted, h.pending_lt]
  · exact hcases (· < accepted + 1) (fun e he => Nat.lt_succ_of_lt (h.pending_lt e he))
      (Nat.lt_succ_self _)
  · intro n hn
    exact Nat.lt_succ_of_lt (h.seen_lt n hn)
  · intro n hn
    exact hcases (n < ·) (h.seen_pending n hn) (h.seen_lt n hn)

theorem tail (h : InLine seen (event :: rest) accepted) : InLine seen rest accepted where
  sorted := h.sorted.of_cons
  pending_lt e he := h.pending_lt e (List.mem_cons_of_mem _ he)
  seen_lt := h.seen_lt
  seen_pending n hn e he := h.seen_pending n hn e (List.mem_cons_of_mem _ he)

/-- The first event stands before the others and behind those seen. -/
theorem head (h : InLine seen (event :: rest) accepted) :
    event.ordinal < accepted ∧ (∀ n ∈ seen, n < event.ordinal) ∧
      ∀ e ∈ rest, event.ordinal < e.ordinal :=
  ⟨h.pending_lt event List.mem_cons_self, fun n hn => h.seen_pending n hn event List.mem_cons_self,
    (List.pairwise_cons.mp h.sorted).1⟩

/-- An ordinal that all pending events come after may be counted among those seen. -/
theorem see (h : InLine seen pending accepted) {n : Nat} (hlt : n < accepted)
    (hbefore : ∀ e ∈ pending, n < e.ordinal) : InLine (seen ++ [n]) pending accepted where
  sorted := h.sorted
  pending_lt := h.pending_lt
  seen_lt k hk := by
    rcases List.mem_append.mp hk with hk | hk
    · exact h.seen_lt k hk
    · rwa [List.mem_singleton.mp hk]
  seen_pending k hk := by
    rcases List.mem_append.mp hk with hk | hk
    · exact h.seen_pending k hk
    · rwa [List.mem_singleton.mp hk]

end InLine

end LensoBun.Provider.EventQueue
