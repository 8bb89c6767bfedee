import LensoBun.Lib.Census
import LensoBun.Lib.Channel
import LensoBun.Wire.Failure

set_option autoImplicit false

/-! # The worker of the embedded runtime

`WorkerControl` of `lenso-libbun-adapter` and `EmbeddedRequestEndpoint::invoke`. The worker is one
thread that opens the engine, takes commands from a bounded queue while the shutdown flag is not set,
shuts the engine down and drops the queue. An `invoke` puts its call into the queue, if there is room,
and waits for the response channel. `begin_shutdown`, called by `release` and by the drop of the
control, sets the flag, tries to put a `Shutdown` command into the queue and takes the join handle; any
number of them may run.

Every access to the flag, the queue, the handle and a response channel is one step, so runs are all
interleavings. What the engine gives, when a context is cancelled, and what building a call or decoding
a result gives come from outside; `engine.call` and `engine.shutdown` return. A response channel is
known by the number of the thread that waits for it.
-/

namespace LensoBun.Embedded

open Std Lib

/-! ## State -/

/-- The bytes of a detail that are kept, up to a character boundary. -/
def takeBytes : Nat → List Char → List Char
  | _, [] => []
  | n, c :: cs => if c.utf8Size ≤ n then c :: takeBytes (n - c.utf8Size) cs else []

/-- `bounded_detail`. -/
def boundedDetail (detail : String) : String :=
  if detail.utf8ByteSize ≤ 4096 then detail
  else String.ofList (takeBytes 4096 detail.toList) ++ "…"

/-- `EmbeddedRequestEndpoint`: requests `Q`, calls `C` of the engine, its results `R` and decoded
results `D`. -/
structure Endpoint (Q C R D : Type) where
  capability : String
  operations : List String
  buildCall : String → Q → Nat → Except RuntimeFailure C
  decodeResult : String → R → Except RuntimeFailure D

/-- `WorkerCommand`; a call names the thread whose response channel it carries. -/
inductive Command (C : Type) where
  | call (thread : Nat) (call : C)
  | shutdown
  deriving DecidableEq, Repr

inductive Response (R : Type) where
  | pending
  | answered (result : Except String R)
  | dropped
  deriving DecidableEq, Repr

/-- Where the worker is; `result` is what its thread will return. -/
inductive Worker (C : Type) where
  | opening
  | testing
  | receiving
  | calling (thread : Nat) (call : C)
  | stopping
  | dropping (result : Except String Unit)
  | ended (result : Except String Unit)
  deriving DecidableEq, Repr

/-- The `WorkerControl` with its sender. -/
inductive Control where
  | starting
  | live
  | gone
  deriving DecidableEq, Repr

structure Shared (C R : Type) where
  queue : BoundedChannel (Command C)
  control : Control
  shutdown : Bool
  join : Bool
  worker : Worker C
  opened : Bool
  /-- How often `engine.shutdown` has been run. -/
  engineShutdowns : Nat
  responses : ExtTreeMap Nat (Response R)

inductive Caller where
  | release
  | drop
  deriving DecidableEq, Repr

/-- Of a caller of `begin_shutdown` that is through, `joined` says whether it has got the handle. -/
inductive Pc (Q D : Type) where
  | worker
  | invoke (endpoint : Nat) (operation : String) (request : Q) (requestId : Nat)
  | waiting (endpoint : Nat) (operation : String) (requestId : Nat)
  | invoked (outcome : Except RuntimeFailure D)
  | abandoned
  | beginShutdown (caller : Caller)
  | announcing (caller : Caller)
  | taking (caller : Caller)
  | joining
  | released (result : Except RuntimeFailure Unit) (joined : Bool)
  | droppingControl (joined : Bool)
  | dropped (joined : Bool)
  deriving DecidableEq, Repr

inductive Input (R : Type) where
  | go
  /-- The context of the invocation is cancelled. -/
  | cancelled
  | abandons
  | spawnFails (error : String)
  | opened
  | openFails (error : String)
  | returned (result : Except String R)
  | stopped (result : Except String Unit)

variable {Q C R D : Type}

/-! ## The worker -/

def Command.caller : Command C → Option Nat
  | .call t _ => some t
  | .shutdown => none

/-- The threads whose calls are in the queue. -/
def Shared.queued (s : Shared C R) : List Nat := s.queue.items.filterMap Command.caller

def dropResponses (callers : List Nat) (responses : ExtTreeMap Nat (Response R)) :
    ExtTreeMap Nat (Response R) :=
  callers.foldl (fun responses t => responses.insert t .dropped) responses

/-- The receiver goes, and with it the response channels of what is queued. -/
def Shared.dropQueue (s : Shared C R) : Shared C R :=
  { s with queue := s.queue.close, responses := dropResponses s.queued s.responses }

/-- `recv`, which waits while the queue is empty and its sender there. -/
def receive (s : Shared C R) : Option (Shared C R) :=
  match s.queue.tryRecv with
  | some (.call t call, queue) => some { s with queue := queue, worker := .calling t call }
  | some (.shutdown, queue) => some { s with queue := queue, worker := .stopping }
  | none => if s.control = .gone then some { s with worker := .stopping } else none

def workerMove (s : Shared C R) (k : Input R) : Option (Shared C R) :=
  match s.worker, k with
  | .opening, .opened => some { s with worker := .testing, opened := true, control := .live }
  | .opening, .openFails error => some { s with worker := .dropping (.error error) }
  | .testing, .go => some { s with worker := if s.shutdown then .stopping else .receiving }
  | .receiving, .go => receive s
  | .calling t _, .returned result =>
    some { s with responses := s.responses.insert t (.answered result), worker := .testing }
  | .stopping, .stopped result =>
    some { s with engineShutdowns := s.engineShutdowns + 1, worker := .dropping result }
  | .dropping result, .go => some { s.dropQueue with worker := .ended result }
  | _, _ => none

/-! ## Invocations -/

/-- `invoke`, up to the future it returns. -/
def invoke (e : Endpoint Q C R D) (s : Shared C R) (t endpoint : Nat) (operation : String)
    (request : Q) (requestId : Nat) (k : Input R) : Option (Shared C R × Pc Q D) :=
  if s.control ≠ .live then none
  else if operation ∉ e.operations then
    some (s, .invoked (.error (.unknownOperation e.capability operation)))
  else
    match k with
    | .cancelled => some (s, .invoked (.error (.cancelled requestId)))
    | .go =>
      match e.buildCall operation request requestId with
      | .error failure => some (s, .invoked (.error failure))
      | .ok call =>
        match s.queue.trySend (.call t call) with
        | .ok queue =>
          some ({ s with queue := queue, responses := s.responses.insert t .pending },
            .waiting endpoint operation requestId)
        | .error .full =>
          some (s, .invoked (.error (.resourceExhausted e.capability operation)))
        | .error .disconnected =>
          some (s, .invoked
            (.error (.pluginFailure "embedded Bun runtime worker is unavailable")))
    | _ => none

def outcome (e : Endpoint Q C R D) (operation : String) :
    Except String R → Except RuntimeFailure D
  | .ok result => e.decodeResult operation result
  | .error detail => .error (.pluginFailure
      (boundedDetail ("embedded Bun provider execution failed: " ++ detail)))

/-- The failure of an invocation whose response channel has been dropped. -/
def stoppedBeforeReplying : RuntimeFailure :=
  .pluginFailure "embedded Bun runtime worker stopped before replying"

/-- The future: the response comes before the cancellation. -/
def waiting (e : Endpoint Q C R D) (s : Shared C R) (t : Nat) (operation : String)
    (requestId : Nat) : Input R → Option (Pc Q D)
  | .abandons => some .abandoned
  | k =>
    match s.responses[t]?, k with
    | some (.answered result), _ => some (.invoked (outcome e operation result))
    | some .dropped, _ => some (.invoked (.error stoppedBeforeReplying))
    | _, .cancelled => some (.invoked (.error (.cancelled requestId)))
    | _, _ => none

/-! ## Shutdown -/

/-- `begin_shutdown` puts `Shutdown` into the queue, or leaves it when it cannot. -/
def Shared.announce (s : Shared C R) : Shared C R :=
  match s.queue.trySend .shutdown with
  | .ok queue => { s with queue := queue }
  | .error _ => s

/-- The end of `begin_shutdown`, and what its caller does with the handle. -/
def taken (s : Shared C R) (caller : Caller) (k : Input R) : Pc Q D :=
  match caller, s.join, k with
  | .release, false, _ => .released (.ok ()) false
  | .release, true, .spawnFails error => .released
      (.error (.internal ("failed to join embedded Bun runtime worker: " ++ error))) true
  | .release, true, _ => .joining
  | .drop, joined, _ => .droppingControl joined

/-- What `release` reports when the worker has ended. -/
def joinResult : Except String Unit → Except RuntimeFailure Unit
  | .ok () => .ok ()
  | .error detail => .error (.pluginFailure
      (boundedDetail ("embedded Bun runtime shutdown failed: " ++ detail)))

/-! ## The program -/

def pcMove (endpoints : Nat → Endpoint Q C R D) (s : Shared C R) (t : Nat) :
    Pc Q D → Input R → Option (Shared C R × Pc Q D)
  | .worker, k => (workerMove s k).map fun s => (s, .worker)
  | .invoke endpoint operation request requestId, k =>
    invoke (endpoints endpoint) s t endpoint operation request requestId k
  | .waiting endpoint operation requestId, k =>
    (waiting (endpoints endpoint) s t operation requestId k).map fun pc => (s, pc)
  | .beginShutdown caller, _ =>
    if s.control ≠ .live then none
    else if s.shutdown then some (s, .taking caller)
    else some ({ s with shutdown := true }, .announcing caller)
  | .announcing caller, _ => some (s.announce, .taking caller)
  | .taking caller, k => some ({ s with join := false }, taken s caller k)
  | .joining, _ =>
    match s.worker with
    | .ended result => some (s, .released (joinResult result) true)
    | _ => none
  | .droppingControl joined, _ => some ({ s with control := .gone }, .dropped joined)
  | _, _ => none

/-- The worker has been spawned; the endpoints and the resource make the other threads. -/
def Pc.starts : Pc Q D → Bool
  | .invoke _ _ _ _ | .beginShutdown _ => true
  | _ => false

def program (endpoints : Nat → Endpoint Q C R D) : Program (Shared C R) (Pc Q D) (Input R) :=
  ⟨Pc.starts, fun s t pc k => (pcMove endpoints s t pc k).map fun p => ⟨p.1, p.2, none⟩⟩

/-- `WorkerControl::start` has spawned the worker as thread 0. -/
def init (queueCapacity : Nat) : Threads (Shared C R) (Pc Q D) where
  shared :=
    { queue := .empty (max queueCapacity 1), control := .starting, shutdown := false, join := true
      worker := .opening, opened := false, engineShutdowns := 0, responses := ∅ }
  pool := ExtTreeMap.insert ∅ 0 .worker

/-! ## What a step can be -/

inductive WorkerMoves (s : Shared C R) : Shared C R → Prop
  | opens (here : s.worker = .opening) :
      WorkerMoves s { s with worker := .testing, opened := true, control := .live }
  | openFails (error : String) (here : s.worker = .opening) :
      WorkerMoves s { s with worker := .dropping (.error error) }
  | leaves (here : s.worker = .testing) (flag : s.shutdown = true) :
      WorkerMoves s { s with worker := .stopping }
  | stays (here : s.worker = .testing) (flag : s.shutdown = false) :
      WorkerMoves s { s with worker := .receiving }
  | takes (t : Nat) (call : C) (rest : List (Command C)) (here : s.worker = .receiving)
      (queued : s.queue.items = .call t call :: rest) :
      WorkerMoves s { s with queue := { s.queue with items := rest }, worker := .calling t call }
  | told (rest : List (Command C)) (here : s.worker = .receiving)
      (queued : s.queue.items = .shutdown :: rest) :
      WorkerMoves s { s with queue := { s.queue with items := rest }, worker := .stopping }
  | alone (here : s.worker = .receiving) (empty : s.queue.items = []) :
      WorkerMoves s { s with worker := .stopping }
  | answers (t : Nat) (call : C) (result : Except String R) (here : s.worker = .calling t call) :
      WorkerMoves s
        { s with responses := s.responses.insert t (.answered result), worker := .testing }
  | stops (result : Except String Unit) (here : s.worker = .stopping) :
      WorkerMoves s
        { s with engineShutdowns := s.engineShutdowns + 1, worker := .dropping result }
  | drops (result : Except String Unit) (here : s.worker = .dropping result) :
      WorkerMoves s { s.dropQueue with worker := .ended result }

inductive Moves (s : Shared C R) (t : Nat) : Pc Q D → Shared C R → Pc Q D → Prop
  | worker {s' : Shared C R} (moves : WorkerMoves s s') : Moves s t .worker s' .worker
  -- invocations
  | refuse (endpoint : Nat) (operation : String) (request : Q) (requestId : Nat)
      (outcome : Except RuntimeFailure D) :
      Moves s t (.invoke endpoint operation request requestId) s (.invoked outcome)
  | accept (endpoint : Nat) (operation : String) (request : Q) (requestId : Nat) (call : C)
      (live : s.control = .live) (connected : s.queue.connected = true)
      (room : s.queue.items.length < s.queue.capacity) :
      Moves s t (.invoke endpoint operation request requestId)
        { s with
          queue := { s.queue with items := s.queue.items ++ [.call t call] }
          responses := s.responses.insert t .pending }
        (.waiting endpoint operation requestId)
  | ends (endpoint : Nat) (operation : String) (requestId : Nat) {pc' : Pc Q D}
      (next : pc' = .abandoned ∨ ∃ outcome, pc' = .invoked outcome) :
      Moves s t (.waiting endpoint operation requestId) s pc'
  -- shutdown
  | first (caller : Caller) (live : s.control = .live) (flag : s.shutdown = false) :
      Moves s t (.beginShutdown caller) { s with shutdown := true } (.announcing caller)
  | again (caller : Caller) (live : s.control = .live) (flag : s.shutdown = true) :
      Moves s t (.beginShutdown caller) s (.taking caller)
  | announce (caller : Caller) : Moves s t (.announcing caller) s.announce (.taking caller)
  | take (caller : Caller) (k : Input R) :
      Moves s t (.taking caller) { s with join := false } (taken s caller k)
  | join (result : Except RuntimeFailure Unit) : Moves s t .joining s (.released result true)
  | gone (joined : Bool) :
      Moves s t (.droppingControl joined) { s with control := .gone } (.dropped joined)

section

variable {endpoints : Nat → Endpoint Q C R D} {s s' : Shared C R} {t : Nat} {pc pc' : Pc Q D}
  {k : Input R}

theorem receive_moves (hhere : s.worker = .receiving) (h : receive s = some s') :
    WorkerMoves s s' := by
  unfold receive at h
  split at h
  · next hrecv =>
      obtain ⟨rest, hitems, rfl⟩ := BoundedChannel.tryRecv_some hrecv
      cases h
      exact .takes _ _ rest hhere hitems
  · next hrecv =>
      obtain ⟨rest, hitems, rfl⟩ := BoundedChannel.tryRecv_some hrecv
      cases h
      exact .told rest hhere hitems
  · next hrecv =>
      split at h
      · cases h
        refine .alone hhere ?_
        unfold BoundedChannel.tryRecv at hrecv
        split at hrecv
        · next hitems => exact hitems
        · cases hrecv
      · cases h

theorem workerMove_moves (h : workerMove s k = some s') : WorkerMoves s s' := by
  unfold workerMove at h
  repeat' split at h
  all_goals grind [WorkerMoves, receive_moves]

variable {e : Endpoint Q C R D} {endpoint requestId : Nat} {operation : String}

theorem invoke_moves {request : Q}
    (h : invoke e s t endpoint operation request requestId k = some (s', pc')) :
    Moves s t (.invoke endpoint operation request requestId) s' pc' := by
  unfold invoke at h
  split at h
  · cases h
  · next hlive =>
      split at h
      · cases h
        exact .refuse _ _ _ _ _
      · split at h
        · cases h
          exact .refuse _ _ _ _ _
        · split at h
          · cases h
            exact .refuse _ _ _ _ _
          · split at h
            · next hsent =>
                obtain ⟨hconnected, hroom, rfl⟩ := BoundedChannel.trySend_ok hsent
                cases h
                exact .accept _ _ _ _ _ (Decidable.not_not.mp hlive) hconnected hroom
            · cases h
              exact .refuse _ _ _ _ _
            · cases h
              exact .refuse _ _ _ _ _
        · cases h

theorem waiting_moves (h : waiting e s t operation requestId k = some pc') :
    Moves s t (.waiting endpoint operation requestId) s pc' := by
  refine .ends endpoint operation requestId ?_
  unfold waiting at h
  split at h
  · cases h
    exact .inl rfl
  · split at h <;> cases h <;> exact .inr ⟨_, rfl⟩

theorem pcMove_moves (h : pcMove endpoints s t pc k = some (s', pc')) : Moves s t pc s' pc' := by
  cases pc with
  | worker =>
    obtain ⟨s₁, hmove, heq⟩ := Option.map_eq_some_iff.mp h
    cases heq
    exact .worker (workerMove_moves hmove)
  | invoke => exact invoke_moves h
  | waiting =>
    obtain ⟨pc₁, hmove, heq⟩ := Option.map_eq_some_iff.mp h
    cases heq
    exact waiting_moves hmove
  | beginShutdown caller =>
    simp only [pcMove] at h
    split at h
    · cases h
    · next hlive =>
        split at h
        · next hflag =>
            cases h
            exact .again caller (Decidable.not_not.mp hlive) hflag
        · next hflag =>
            cases h
            exact .first caller (Decidable.not_not.mp hlive) (Bool.not_eq_true _ ▸ hflag)
  | announcing caller =>
    cases h
    exact .announce caller
  | taking caller =>
    cases h
    exact .take caller k
  | joining =>
    simp only [pcMove] at h
    split at h
    · cases h
      exact .join _
    · cases h
  | droppingControl joined =>
    cases h
    exact .gone joined
  | invoked | abandoned | released | dropped => cases h

theorem move_moves {m : Moved (Shared C R) (Pc Q D)}
    (h : (program endpoints).move s t pc k = some m) : Moves s t pc m.shared m.next :=
  pcMove_moves (moved_of_map h).1

end

/-! ## The phases of the worker -/

def Worker.hasEnded : Worker C → Bool
  | .ended _ => true
  | _ => false

/-- How often the engine has been shut down, by where the worker is. -/
def Worker.shutdowns (opened : Bool) : Worker C → Nat
  | .dropping _ | .ended _ => opened.toNat
  | _ => 0

def Worker.works : Worker C → Bool
  | .testing | .receiving | .calling _ _ | .stopping => true
  | _ => false

structure Phased (s : Shared C R) : Prop where
  room : 0 < s.queue.capacity
  fits : s.queue.items.length ≤ s.queue.capacity
  connected : s.queue.connected = !s.worker.hasEnded
  /-- Before the engine is open, and after the receiver has gone, nothing is queued. -/
  unopened : s.opened = false → s.queue.items = [] ∧ s.control = .starting
  ended : s.worker.hasEnded = true → s.queue.items = []
  opening : s.worker = .opening → s.opened = false
  works : s.worker.works = true → s.opened = true
  shutdowns : s.engineShutdowns = s.worker.shutdowns s.opened

section

variable {s s' : Shared C R} {t : Nat} {pc pc' : Pc Q D}

theorem Phased.goOn (hs : Phased s) {worker : Worker C} (hhere : s.worker.works = true)
    (hnext : worker.works = true) {items : List (Command C)}
    (hitems : items.length ≤ s.queue.items.length) (responses : ExtTreeMap Nat (Response R)) :
    Phased { s with
      queue := { s.queue with items := items }
      worker := worker, responses := responses } := by
  have hopened := hs.works hhere
  have hended : s.worker.hasEnded = false := by
    cases hw : s.worker <;> rw [hw] at hhere <;> first | rfl | cases hhere
  have hended' : worker.hasEnded = false := by
    cases worker <;> first | rfl | cases hnext
  have hzero : s.worker.shutdowns s.opened = 0 := by
    cases hw : s.worker <;> rw [hw] at hhere <;> first | rfl | cases hhere
  refine ⟨hs.room, hitems.trans hs.fits, ?_, ?_, ?_, ?_, fun _ => hopened, ?_⟩
  · show s.queue.connected = !worker.hasEnded
    rw [hs.connected, hended, hended']
  · grind
  · grind
  · rintro rfl
    cases hnext
  · show s.engineShutdowns = worker.shutdowns s.opened
    rw [hs.shutdowns, hzero]
    cases worker <;> first | rfl | cases hnext

theorem Phased.worker (hs : Phased s) (h : WorkerMoves s s') : Phased s' := by
  cases h with
  | opens here =>
    refine ⟨hs.room, hs.fits, ?_, nofun, nofun, nofun, fun _ => rfl, ?_⟩
    · show s.queue.connected = true
      rw [hs.connected, here]
      rfl
    · show s.engineShutdowns = 0
      rw [hs.shutdowns, here]
      rfl
  | openFails error here =>
    have hstart := hs.opening here
    refine ⟨hs.room, hs.fits, ?_, hs.unopened, nofun, nofun, nofun, ?_⟩
    · show s.queue.connected = true
      rw [hs.connected, here]
      rfl
    · show s.engineShutdowns = s.opened.toNat
      rw [hs.shutdowns, here, hstart]
      rfl
  | leaves here | stays here | alone here =>
    exact hs.goOn (by rw [here]; rfl) rfl le_rfl s.responses
  | takes t call rest here queued | told rest here queued =>
    exact hs.goOn (by rw [here]; rfl) rfl (by rw [queued]; exact Nat.le_succ _) s.responses
  | answers t call result here =>
    exact hs.goOn (by rw [here]; rfl) rfl le_rfl _
  | stops result here =>
    have hopened := hs.works (by rw [here]; rfl)
    refine ⟨hs.room, hs.fits, ?_, ?_, nofun, nofun, nofun, ?_⟩
    · show s.queue.connected = true
      rw [hs.connected, here]
      rfl
    · grind
    · show s.engineShutdowns + 1 = s.opened.toNat
      rw [hs.shutdowns, here, hopened]
      rfl
  | drops result here =>
    refine ⟨hs.room, Nat.zero_le _, rfl, ?_, fun _ => rfl, nofun, nofun, ?_⟩
    · intro hunopened
      exact ⟨rfl, (hs.unopened hunopened).2⟩
    · show s.engineShutdowns = s.opened.toNat
      rw [hs.shutdowns, here]
      rfl

theorem Phased.send (hs : Phased s) (hopened : s.opened = true)
    (hconnected : s.queue.connected = true) (hroom : s.queue.items.length < s.queue.capacity)
    (command : Command C) (responses : ExtTreeMap Nat (Response R)) :
    Phased { s with
      queue := { s.queue with items := s.queue.items ++ [command] }
      responses := responses } := by
  refine ⟨hs.room, ?_, hs.connected, ?_, ?_, hs.opening, hs.works, hs.shutdowns⟩
  · grind
  · grind
  · intro hended
    rw [hs.connected, show s.worker.hasEnded = true from hended] at hconnected
    cases hconnected

/-- `Shutdown` is in the queue, or the queue is as it was: full, or without its receiver. -/
theorem announce_cases (s : Shared C R) :
    (s.queue.connected = true ∧ s.queue.items.length < s.queue.capacity ∧
      s.announce = { s with queue := { s.queue with items := s.queue.items ++ [.shutdown] } }) ∨
    (s.announce = s ∧ (s.queue.connected = false ∨ s.queue.capacity ≤ s.queue.items.length)) := by
  unfold Shared.announce BoundedChannel.trySend
  by_cases hconnected : s.queue.connected = false
  · grind
  · grind

end

/-! ## The calls -/

/-- The thread whose call the engine works on. -/
def Worker.serves : Worker C → Option Nat
  | .calling t _ => some t
  | _ => none

/-- The call of thread `t` is in the queue, or the engine works on it. -/
def Shared.Open (s : Shared C R) (t : Nat) : Prop := t ∈ s.queued ∨ s.worker.serves = some t

structure Tracked (s : Shared C R) : Prop where
  known : ∀ t, s.Open t → s.responses[t]?.isSome = true
  pending : ∀ t, s.responses[t]? = some .pending → s.Open t

theorem getElem?_dropResponses (callers : List Nat) (responses : ExtTreeMap Nat (Response R))
    (t : Nat) :
    (t ∈ callers ∧ (dropResponses callers responses)[t]? = some .dropped) ∨
      (t ∉ callers ∧ (dropResponses callers responses)[t]? = responses[t]?) := by
  induction callers generalizing responses with
  | nil => exact .inr ⟨List.not_mem_nil, rfl⟩
  | cons u callers ih =>
    rcases ih (responses.insert u .dropped) with ⟨hmem, hdropped⟩ | ⟨hmem, hsame⟩
    · exact .inl ⟨List.mem_cons_of_mem u hmem, hdropped⟩
    · by_cases htu : u = t
      · subst htu
        refine .inl ⟨List.mem_cons_self, ?_⟩
        show (dropResponses callers (responses.insert u .dropped))[u]? = _
        rw [hsame, getElem?_insert_nat, if_pos rfl]
      · refine .inr ⟨?_, ?_⟩
        · grind
        · show (dropResponses callers (responses.insert u .dropped))[t]? = _
          rw [hsame, getElem?_insert_nat, if_neg htu]

section

variable {s s' : Shared C R} {t : Nat}

theorem Tracked.congr (hs : Tracked s) (hopen : ∀ t, s'.Open t ↔ s.Open t)
    (hresponses : s'.responses = s.responses) : Tracked s' where
  known t ht := by
    rw [hresponses]
    exact hs.known t ((hopen t).mp ht)
  pending t ht := by
    rw [hresponses] at ht
    exact (hopen t).mpr (hs.pending t ht)

theorem Tracked.accept (hs : Tracked s) (t : Nat) (call : C) :
    Tracked { s with
      queue := { s.queue with items := s.queue.items ++ [.call t call] }
      responses := s.responses.insert t .pending } := by
  have hopen : ∀ u, Shared.Open { s with
      queue := { s.queue with items := s.queue.items ++ [.call t call] }
      responses := s.responses.insert t .pending } u ↔ s.Open u ∨ u = t := by
    intro u
    simp only [Shared.Open, Shared.queued, List.filterMap_append, List.mem_append]
    have hlast : u ∈ List.filterMap Command.caller [Command.call t call] ↔ u = t :=
      List.mem_singleton
    rw [hlast]
    tauto
  refine ⟨fun u hu => ?_, fun u hu => ?_⟩
  · grind [getElem?_insert_nat, hs.known]
  · grind [getElem?_insert_nat, hs.pending]

theorem Tracked.answer (hs : Tracked s) (hserves : s.worker.serves = some t)
    (result : Except String R) :
    Tracked { s with responses := s.responses.insert t (.answered result), worker := .testing } := by
  refine ⟨fun u hu => ?_, fun u hu => ?_⟩
  · show (s.responses.insert t _)[u]?.isSome = true
    rw [getElem?_insert_nat]
    split
    · rfl
    · rcases hu with hqueued | hnone
      · exact hs.known u (.inl hqueued)
      · cases hnone
  · change (s.responses.insert t _)[u]? = _ at hu
    rw [getElem?_insert_nat] at hu
    split at hu
    · cases hu
    · next hne =>
        rcases hs.pending u hu with hqueued | hcalled
        · exact .inl hqueued
        · grind

theorem Tracked.drop (hs : Tracked s) (hserves : s.worker.serves = none)
    (result : Except String Unit) : Tracked { s.dropQueue with worker := .ended result } := by
  refine ⟨fun u hu => ?_, fun u hu => ?_⟩
  · rcases hu with hqueued | hnone
    · cases hqueued
    · cases hnone
  · change (dropResponses s.queued s.responses)[u]? = _ at hu
    rcases getElem?_dropResponses s.queued s.responses u with ⟨-, hdropped⟩ | ⟨hqueued, hsame⟩
    · rw [hdropped] at hu
      cases hu
    · rw [hsame] at hu
      rcases hs.pending u hu with hmem | hcalled
      · exact absurd hmem hqueued
      · rw [hserves] at hcalled
        cases hcalled

theorem Tracked.worker (hs : Tracked s) (h : WorkerMoves s s') : Tracked s' := by
  cases h with
  | opens here | openFails error here | leaves here | stays here | alone here
  | stops result here =>
    refine hs.congr (fun t => ?_) rfl
    simp only [Shared.Open, Shared.queued, here, Worker.serves]
  | told rest here queued =>
    refine hs.congr (fun t => ?_) rfl
    have hsame : s.queued = rest.filterMap Command.caller := by
      rw [Shared.queued, queued]
      rfl
    simp only [Shared.Open, hsame, here, Worker.serves]
    rfl
  | takes t call rest here queued =>
    refine hs.congr (fun u => ?_) rfl
    have hsame : s.queued = t :: rest.filterMap Command.caller := by
      rw [Shared.queued, queued]
      rfl
    simp only [Shared.Open, hsame, here, Worker.serves, List.mem_cons, Option.some.injEq]
    show u ∈ rest.filterMap Command.caller ∨ t = u ↔ _
    constructor
    · grind
    · grind
  | answers t call result here => exact hs.answer (by rw [here]; rfl) result
  | drops result here => exact hs.drop (by rw [here]; rfl) result

theorem WorkerMoves.known (h : WorkerMoves s s') (ht : s.responses[t]?.isSome = true) :
    s'.responses[t]?.isSome = true := by
  cases h with
  | answers u => grind
  | drops =>
    show (dropResponses s.queued s.responses)[t]?.isSome = true
    rcases getElem?_dropResponses s.queued s.responses t with ⟨-, hdropped⟩ | ⟨-, hsame⟩
    · rw [hdropped]
      rfl
    · rw [hsame]
      exact ht
  | _ => exact ht

/-- A thread without a response channel gets none from the worker. -/
theorem WorkerMoves.fresh (hs : Tracked s) (h : WorkerMoves s s') (ht : s.responses[t]? = none) :
    s'.responses[t]? = none := by
  have hclosed : ¬ s.Open t := by
    intro hopen
    have hsome := hs.known t hopen
    rw [ht] at hsome
    cases hsome
  cases h with
  | answers u call result here =>
    show (s.responses.insert u _)[t]? = none
    rw [getElem?_insert_nat, if_neg]
    · exact ht
    · rintro rfl
      exact hclosed (.inr (by rw [here]; rfl))
  | drops =>
    show (dropResponses s.queued s.responses)[t]? = none
    rcases getElem?_dropResponses s.queued s.responses t with ⟨hqueued, -⟩ | ⟨-, hsame⟩
    · exact absurd (.inl hqueued) hclosed
    · exact hsame.trans ht
  | _ => exact ht

end

/-! ## Threads -/

/-- The thread has set the flag or found it set. -/
def Pc.begun : Pc Q D → Bool
  | .announcing _ | .taking _ | .joining | .released _ _ | .droppingControl _ | .dropped _ => true
  | _ => false

/-- The thread is in `begin_shutdown`. -/
def Pc.executing : Pc Q D → Bool
  | .beginShutdown _ | .announcing _ | .taking _ => true
  | _ => false

def Pc.asks : Pc Q D → Bool
  | .invoke _ _ _ _ => true
  | _ => false

def Pc.joined : Pc Q D → Bool
  | .joining => true
  | .released _ joined | .droppingControl joined | .dropped joined => joined
  | _ => false

structure HoldsAt (s : Shared C R) (pc : Pc Q D) : Prop where
  flag : pc.begun = true → s.shutdown = true
  opened : pc.begun = true → s.opened = true

section

variable {s s' : Shared C R} {t u : Nat} {pc pc' pcU : Pc Q D} {k : Input R}

theorem taken_begun (s : Shared C R) (caller : Caller) (k : Input R) :
    (taken s caller k : Pc Q D).begun = true ∧ (taken s caller k : Pc Q D).asks = false ∧
      (taken s caller k : Pc Q D).joined = s.join := by
  unfold taken
  split <;> simp_all [Pc.begun, Pc.asks, Pc.joined]

theorem Phased.opened_of_live (hs : Phased s) (hlive : s.control = .live) : s.opened = true := by
  by_contra hopened
  have hstarting := (hs.unopened (Bool.not_eq_true _ ▸ hopened)).2
  rw [hlive] at hstarting
  cases hstarting

theorem Moves.phased (hs : Phased s) (hat : HoldsAt s pc) (h : Moves s t pc s' pc') :
    Phased s' := by
  cases h with
  | worker moves => exact hs.worker moves
  | accept endpoint operation request requestId call live connected room =>
    exact hs.send (hs.opened_of_live live) connected room _ _
  | announce =>
    rcases announce_cases s with ⟨hconnected, hroom, heq⟩ | ⟨heq, -⟩
    · rw [heq]
      exact hs.send (hat.opened rfl) hconnected hroom _ _
    · rw [heq]
      exact hs
  | first | take =>
    exact ⟨hs.room, hs.fits, hs.connected, hs.unopened, hs.ended, hs.opening, hs.works, hs.shutdowns⟩
  | gone =>
    refine ⟨hs.room, hs.fits, hs.connected, ?_, hs.ended, hs.opening, hs.works, hs.shutdowns⟩
    intro hunopened
    rw [show s.opened = true from hat.opened rfl] at hunopened
    cases hunopened
  | refuse | ends | again | join => exact hs

theorem Moves.tracked (hs : Tracked s) (h : Moves s t pc s' pc') : Tracked s' := by
  cases h with
  | worker moves => exact hs.worker moves
  | accept endpoint operation request requestId call => exact hs.accept t call
  | announce caller =>
    rcases announce_cases s with ⟨-, -, heq⟩ | ⟨heq, -⟩
    · rw [heq]
      refine hs.congr (fun u => ?_) rfl
      simp only [Shared.Open, Shared.queued, List.filterMap_append, List.mem_append]
      have hlast : u ∉ List.filterMap Command.caller [(Command.shutdown : Command C)] :=
        List.not_mem_nil
      tauto
    · rw [heq]
      exact hs
  | first | take | gone => exact ⟨hs.known, hs.pending⟩
  | refuse | ends | again | join => exact hs

theorem announce_fields (s : Shared C R) :
    s.announce.shutdown = s.shutdown ∧ s.announce.opened = s.opened ∧
      s.announce.responses = s.responses ∧ s.announce.worker = s.worker := by
  rcases announce_cases s with ⟨-, -, heq⟩ | ⟨heq, -⟩ <;> rw [heq] <;> exact ⟨rfl, rfl, rfl, rfl⟩

theorem Moves.flags (h : Moves s t pc s' pc') :
    (s.shutdown = true → s'.shutdown = true) ∧ (s.opened = true → s'.opened = true) := by
  cases h with
  | worker moves =>
    cases moves with
    | opens => exact ⟨id, fun _ => rfl⟩
    | _ => exact ⟨id, id⟩
  | first => exact ⟨fun _ => rfl, id⟩
  | announce => grind [announce_fields]
  | _ => exact ⟨id, id⟩

theorem Moves.holdsAt (hs : Phased s) (hat : HoldsAt s pc) (h : Moves s t pc s' pc') :
    HoldsAt s' pc' := by
  cases h with
  | first caller live => exact ⟨fun _ => rfl, fun _ => hs.opened_of_live live⟩
  | again caller live flag => exact ⟨fun _ => flag, fun _ => hs.opened_of_live live⟩
  | announce =>
    obtain ⟨hflag, hopened, -, -⟩ := announce_fields s
    exact ⟨fun _ => hflag.trans (hat.flag rfl), fun _ => hopened.trans (hat.opened rfl)⟩
  | take | join | gone => exact ⟨fun _ => hat.flag rfl, fun _ => hat.opened rfl⟩
  | ends endpoint operation requestId next =>
    rcases next with rfl | ⟨outcome, rfl⟩ <;> exact ⟨nofun, nofun⟩
  | worker | refuse | accept => exact ⟨nofun, nofun⟩

theorem Moves.holdsAt_other (hatU : HoldsAt s pcU) (h : Moves s t pc s' pc') : HoldsAt s' pcU where
  flag hbegun := h.flags.1 (hatU.flag hbegun)
  opened hbegun := h.flags.2 (hatU.opened hbegun)

theorem Moves.not_asks (h : Moves s t pc s' pc') : pc'.asks = false := by
  cases h with
  | take caller k => exact (taken_begun s caller k).2.1
  | ends endpoint operation requestId next =>
    rcases next with rfl | ⟨outcome, rfl⟩ <;> rfl
  | _ => rfl

/-- A response channel is made by the thread that waits for it. -/
theorem Moves.known_before (hs : Tracked s) (htu : u ≠ t) (h : Moves s t pc s' pc')
    (hu : s'.responses[u]?.isSome = true) : s.responses[u]?.isSome = true := by
  cases h with
  | worker moves => grind [moves.fresh]
  | accept => grind
  | announce =>
    rw [(announce_fields s).2.2.1] at hu
    exact hu
  | _ => exact hu

end

section

variable {endpoints : Nat → Endpoint Q C R D}

theorem child_none (s : Shared C R) (t : Nat) (pc : Pc Q D) (k : Input R)
    (m : Moved (Shared C R) (Pc Q D)) (h : (program endpoints).move s t pc k = some m) :
    m.child = none := (moved_of_map h).2

def outline : Outline (Shared C R) (Pc Q D) :=
  Outline.plain (fun s => Phased s ∧ Tracked s) fun s _ pc => HoldsAt s pc

theorem outline_valid : (outline (Q := Q) (C := C) (R := R) (D := D)).Valid (program endpoints)
    Guard.any := by
  refine Outline.plain_valid child_none ?_ ?_ ?_
  · rintro s t pc - hentry -
    cases pc with
    | invoke | beginShutdown => exact ⟨nofun, nofun⟩
    | _ => cases hentry
  · rintro s t pc k m ⟨hphased, htracked⟩ hat - hm
    have hmoves := move_moves hm
    exact ⟨⟨hmoves.phased hphased hat, hmoves.tracked htracked⟩, hmoves.holdsAt hphased hat⟩
  · intro s t pc k m u pcU _ _ hatU _ _ _ hm
    exact (move_moves hm).holdsAt_other hatU

/-- Every response channel belongs to a thread that has made its call. -/
def Waited (c : Threads (Shared C R) (Pc Q D)) : Prop :=
  Backed (fun s t => s.responses[t]?.isSome = true) id (fun pc _ => pc.asks = false) c

theorem waited_moves (s : Shared C R) (t : Nat) (pc : Pc Q D) (k : Input R)
    (m : Moved (Shared C R) (Pc Q D)) (hs : Phased s ∧ Tracked s) (_ : HoldsAt s pc)
    (_ : True) (hm : (program endpoints).move s t pc k = some m)
    (_ : ∀ u, s.responses[u]?.isSome = true → id u = t → pc.asks = false) :
    m.Backs (fun s t => s.responses[t]?.isSome = true) id (fun pc _ => pc.asks = false) s t := by
  intro u hu
  have hmoves := move_moves hm
  by_cases htu : u = t
  · exact .inr ⟨htu, hmoves.not_asks⟩
  · exact .inl ⟨htu, u, hmoves.known_before hs.2 htu hu, rfl, fun _ h => h⟩

end

end LensoBun.Embedded
