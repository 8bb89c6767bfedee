import LensoBun.Provider.EventQueue

set_option autoImplicit false

/-! # One worker at a time, in the order of acceptance

`Pc.drains` are the places of a thread that is, or is about to start, a worker. As long as no
handler finds `draining` cleared while a worker is still there, there is at most one such
thread, and it starts the events in the order of their ordinals.

The condition is needed: a worker that has completed the last event clears the flag and pops
once more. An enqueue in between starts a second worker, and then both may have an event.
-/

namespace LensoBun.Provider.EventQueue

open Lib

def Pc.drains : Pc → Bool
  | .spawn | .abort => true
  | pc => pc.isWorker

/-- An enqueue that is going to be told to start a worker finds no worker there. -/
def lastPopDone : Guard Shared Pc Bool where
  self _ _ _ _ := True
  other s _ pc _ _ pc' := pc.isEnqueue = true → s.queue.admitted < s.capacity →
    s.queue.draining = false → pc'.isWorker = false

instance (c : Threads Shared Pc) (a : Act Pc Bool) :
    Decidable (lastPopDone.Allows c a) := Guard.decidable c a

/-- The pending events, in the order of acceptance, after all that have started. -/
structure Ordered (s : Shared) : Prop where
  pending : s.queue.pending.Pairwise (fun a b => a.ordinal < b.ordinal)
  pending_lt : ∀ e ∈ s.queue.pending, e.ordinal < s.accepted
  started : s.started.Pairwise (· < ·)
  started_lt : ∀ n ∈ s.started, n < s.accepted
  started_pending : ∀ n ∈ s.started, ∀ e ∈ s.queue.pending, n < e.ordinal

/-- What a thread of the one-worker regime may assume. -/
def serialAt (s : Shared) : Pc → Prop
  | .spawn | .abort => s.queue.draining = true
  | .workerCheck event => event.ordinal < s.accepted ∧ (∀ n ∈ s.started, n < event.ordinal) ∧
      ∀ e ∈ s.queue.pending, event.ordinal < e.ordinal
  | _ => True

def serial : Outline Shared Pc where
  Shared := Ordered
  At s _ pc := serialAt s pc
  Pair _ pc _ pc' := pc.drains = true → pc'.drains = true → False

theorem serial_init (capacity : Nat) : serial.Holds (init capacity) := by
  refine ⟨⟨?_, ?_, ?_, ?_, ?_⟩, ?_, ?_⟩ <;>
    simp [init, ProviderEventQueueState.default]

variable {s : Shared} {pc : Pc} {m : Moved Shared Pc}

theorem Ordered.inLine (h : Ordered s) : InLine s.started s.queue.pending s.accepted :=
  ⟨h.pending, h.pending_lt, h.started_lt, h.started_pending⟩

theorem InLine.ordered (h : InLine s.started s.queue.pending s.accepted)
    (started : s.started.Pairwise (· < ·)) : Ordered s :=
  ⟨h.sorted, h.pending_lt, started, h.seen_lt, h.seen_pending⟩

theorem Ordered.start (h : Ordered s) {event : QueuedEvent} (ha : event.ordinal < s.accepted)
    (hs : ∀ n ∈ s.started, n < event.ordinal)
    (hp : ∀ e ∈ s.queue.pending, event.ordinal < e.ordinal) :
    Ordered { s with started := s.started ++ [event.ordinal] } := by
  refine InLine.ordered (h.inLine.see ha hp) (List.pairwise_append.mpr ?_)
  refine ⟨h.started, List.pairwise_singleton _ _, ?_⟩
  intro n hn k hk
  rw [List.mem_singleton.mp hk]
  exact hs n hn

theorem serialAt_of_not_drains (h : pc.drains = false) : serialAt s pc := by
  cases pc <;> simp_all [serialAt, Pc.drains, Pc.isWorker]

/-- A thread that does not pop yet asks only that the flag is set. -/
theorem serialAt_of_not_worker (h : pc.isWorker = false) (hd : s.queue.draining = true) :
    serialAt s pc := by
  cases pc <;> trivial

theorem draining_of_drains (hpc : serialAt s pc) (hd : pc.drains = true) (hw : pc.isWorker = false) :
    s.queue.draining = true := by
  cases pc <;> simp_all [Pc.drains, Pc.isWorker, serialAt]

theorem afterEnqueue_not_worker (shouldStart : Bool) :
    (afterEnqueue shouldStart).isWorker = false := by
  cases shouldStart <;> rfl

theorem afterEnqueue_drains (shouldStart : Bool) :
    (afterEnqueue shouldStart).drains = shouldStart := by
  cases shouldStart <;> rfl

/-- The moving thread keeps the order and reaches its next assertion. -/
theorem serial_move {k : Bool} (hs : Ordered s) (hpc : serialAt s pc) (hm : move s pc k = some m) :
    Ordered m.shared ∧ serialAt m.shared m.next := by
  cases move_moves hm with
  | accept requestId =>
    exact ⟨InLine.ordered (hs.inLine.enqueue requestId) hs.started,
      serialAt_of_not_worker (afterEnqueue_not_worker _) rfl⟩
  | spawnFails => exact ⟨hs, hpc⟩
  | abort =>
    refine ⟨InLine.ordered ⟨List.Pairwise.nil, List.forall_mem_nil _, hs.started_lt, ?_⟩
      hs.started, trivial⟩
    exact fun _ _ => List.forall_mem_nil _
  | pop event rest _ hp =>
    have hline := hs.inLine
    rw [hp] at hline
    exact ⟨InLine.ordered hline.tail hs.started, hline.head⟩
  | publish =>
    obtain ⟨haccepted, hstarted, hpending⟩ := hpc
    exact ⟨hs.start haccepted hstarted hpending, trivial⟩
  | complete => exact ⟨InLine.ordered hs.inLine hs.started, trivial⟩
  | _ => exact ⟨hs, trivial⟩

/-- An accepted event stands behind the one a worker has in hand. -/
theorem serialAt_accept (hpc : serialAt s pc) (requestId : Nat) :
    serialAt
      { s with
        queue :=
          { pending := s.queue.pending ++ [{ requestId := requestId, ordinal := s.accepted }]
            admitted := s.queue.admitted + 1, draining := true }
        accepted := s.accepted + 1 } pc := by
  cases pc with
  | workerCheck =>
    obtain ⟨haccepted, hstarted, hpending⟩ := hpc
    refine ⟨Nat.lt_succ_of_lt haccepted, hstarted, ?_⟩
    intro e he
    rcases List.mem_append.mp he with he | he
    · exact hpending e he
    · grind
  | spawn => rfl
  | abort => rfl
  | _ => trivial

/-- A thread that neither is nor becomes a worker leaves the worker's assertion alone; one that
becomes a worker found none. -/
theorem serial_other {t u : Nat} {pc' : Pc} {k : Bool} (hpc' : serialAt s pc')
    (hpair : pc.drains = true → pc'.drains = true → False) (hg : lastPopDone.other s t pc k u pc')
    (hm : move s pc k = some m) :
    serialAt m.shared pc' ∧ (m.next.drains = true → pc'.drains = true → False) := by
  by_cases hd : pc.drains = true
  · grind [serialAt_of_not_drains]
  · cases move_moves hm with
    | accept requestId _ hroom =>
      refine ⟨serialAt_accept hpc' requestId, ?_⟩
      intro hnext hdrains
      -- it becomes a worker's parent only if the flag was cleared; then there is no worker,
      -- and a thread about to start one would have the flag set
      rw [afterEnqueue_drains] at hnext
      have hclear : s.queue.draining = false := by simpa using hnext
      have hdraining := draining_of_drains hpc' hdrains (hg rfl hroom hclear)
      rw [hclear] at hdraining
      cases hdraining
    | full | refused | removedAll | removeAborted => exact ⟨hpc', fun h => by cases h⟩
    | _ => exact absurd rfl hd

theorem serial_valid : serial.Valid program lastPopDone where
  start _ _ pc _ hpc _ := by
    cases pc <;> trivial
  start_pair _ _ pc _ pc' _ hpc _ _ _ := by
    have hd : pc.drains = false := by
      cases pc <;> first | rfl | cases hpc
    exact ⟨by simp [serial, hd], by simp [serial, hd]⟩
  move _ _ _ _ _ hs hpc _ hm := serial_move hs hpc hm
  child _ _ _ _ _ _ _ _ _ _ hm hc _ := by
    obtain ⟨rfl, rfl, rfl, rfl⟩ := move_child hm hc
    exact ⟨trivial, nofun, fun _ h => by cases h⟩
  other _ _ _ _ _ _ _ _ _ hpc' _ hpair _ _ hg hm := by
    obtain ⟨h1, h2⟩ := serial_other hpc' hpair hg hm
    exact ⟨h1, h2, fun hd' hd => h2 hd hd'⟩
  child_pair _ _ _ _ _ _ _ _ _ _ _ _ _ _ hpair _ _ _ hm hc := by
    obtain ⟨rfl, rfl, rfl, rfl⟩ := move_child hm hc
    exact ⟨fun _ hd => hpair rfl hd, fun hd _ => hpair rfl hd⟩

/-- **Callbacks of one binding never overlap and start in the order of acceptance**, in every
run in which no enqueue finds `draining` cleared while a worker is still there. -/
theorem publish_event_serial (capacity : Nat) (acts : List (Act Pc Bool))
    (c : Threads Shared Pc)
    (hg : Meets program.step lastPopDone.Allows (init capacity) acts)
    (h : run program.step (init capacity) acts = some c) :
    (∀ (t u : Nat) (event event' : QueuedEvent), c.pool[t]? = some (.workerRun event) →
      c.pool[u]? = some (.workerRun event') → t = u) ∧
    c.shared.started.Pairwise (· < ·) := by
  have hc := Outline.run serial_valid (serial_init capacity) hg h
  refine ⟨?_, hc.shared.started⟩
  intro t u event event' ht hu
  by_contra hne
  exact hc.pair t u _ _ hne ht hu rfl rfl

/-- One event handled to the end; the next handler comes when its worker has returned. -/
def workerReturnsFirst : List (Act Pc Bool) :=
  [.start 0 (.enqueue 7), .move 0 true 0, .move 0 true 10, .move 10 true 0, .move 10 false 0,
   .move 10 true 0, .move 10 true 0, .move 10 true 0, .move 10 true 0,
   .start 1 (.enqueue 8), .move 1 true 0, .move 1 true 11, .move 11 true 0, .move 11 false 0]

theorem publish_event_serial_sample :
    ∃ c, run program.step (init 2) workerReturnsFirst = some c ∧ c.shared.started = [0, 1] ∧
      c.shared.started.Pairwise (· < ·) := by
  have hg : Meets program.step lastPopDone.Allows (init 2) workerReturnsFirst := by decide
  obtain ⟨c, hc⟩ := Option.isSome_iff_exists.mp
    (by decide : (run program.step (init 2) workerReturnsFirst).isSome = true)
  have hstarted : (run program.step (init 2) workerReturnsFirst).map
      (fun c => c.shared.started) = some [0, 1] := by decide
  rw [hc, Option.map_some, Option.some.injEq] at hstarted
  exact ⟨c, hc, hstarted, (publish_event_serial 2 _ c hg hc).2⟩

/-- The worker of the first event (thread 10) has completed it and not popped again. The handler
of the second event is told to start a worker; thread 10 pops the second event meanwhile, and
the new worker (thread 11) the third. -/
def workerPopsAgain : List (Act Pc Bool) :=
  [.start 0 (.enqueue 7), .move 0 true 0, .move 0 true 10, .move 10 true 0, .move 10 false 0,
   .move 10 true 0, .move 10 true 0, .move 10 true 0,
   .start 1 (.enqueue 8), .move 1 true 0, .move 10 true 0,
   .start 2 (.enqueue 9), .move 2 true 0, .move 1 true 11, .move 11 true 0, .move 11 false 0,
   .move 10 false 0]

/-- Two callbacks run at once, and the third event has started before the second. -/
theorem publish_event_overlap :
    (run program.step (init 2) workerPopsAgain).map (fun c => (c.pool[10]?, c.pool[11]?)) =
      some (some (.workerRun { requestId := 8, ordinal := 1 }),
        some (.workerRun { requestId := 9, ordinal := 2 })) ∧
    (run program.step (init 2) workerPopsAgain).map (fun c => c.shared.started) =
      some [0, 2, 1] := by
  decide

end LensoBun.Provider.EventQueue
