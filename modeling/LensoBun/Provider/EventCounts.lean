import LensoBun.Provider.EventQueue

set_option autoImplicit false

/-! # What is counted, and who will serve the pending events

Without any condition on the enqueues there may be several workers. Still every event in hand is
held by one of them, `admitted` counts the pending events and those in hand, and a pending event
always has a worker to come.
-/

namespace LensoBun.Provider.EventQueue

open Lib

/-- Every path of the thread's own steps leads to a pop. -/
inductive Pc.WillPop : Pc → Prop
  | pop : WillPop .workerPop
  | step {pc : Pc} (enabled : ∀ s, ∃ k m, move s pc k = some m)
      (next : ∀ s k m, move s pc k = some m → WillPop m.next) : WillPop pc

variable {pc : Pc} {s : Shared} {k : Bool} {m : Moved Shared Pc}

theorem willPop_of_isWorker (h : pc.isWorker = true) : pc.WillPop := by
  have complete : ∀ event, Pc.WillPop (.workerComplete event) := by
    intro event
    refine .step (fun s => ⟨true, _, rfl⟩) ?_
    intro s k m hm
    cases hm
    exact .pop
  have remove : ∀ event, Pc.WillPop (.workerRemove event) := by
    intro event
    refine .step (fun s => ⟨true, _, rfl⟩) ?_
    intro s k m hm
    cases hm
    exact complete event
  have run : ∀ event, Pc.WillPop (.workerRun event) := by
    intro event
    refine .step (fun s => ⟨true, _, rfl⟩) ?_
    intro s k m hm
    cases hm
    exact remove event
  cases pc with
  | workerPop => exact .pop
  | workerCheck event =>
    refine .step (fun s => ⟨true, _, rfl⟩) ?_
    intro s k m hm
    cases k <;> cases hm
    · exact run event
    · exact remove event
  | workerRun event => exact run event
  | workerRemove event => exact remove event
  | workerComplete event => exact complete event
  | _ => cases h

/-- The ordinal of the event a worker has popped and not completed. -/
def Pc.inHand : Pc → Option Nat
  | .workerCheck event | .workerRun event | .workerRemove event | .workerComplete event =>
    some event.ordinal
  | _ => none

theorem isWorker_of_inHand {n : Nat} (h : pc.inHand = some n) : pc.isWorker = true := by
  cases pc <;> first | rfl | cases h

def Pc.aborting : Pc → Bool
  | .abort | .removeAborted _ => true
  | _ => false

def spawnSucceeds : Guard Shared Pc Bool where
  self _ _ pc started := pc = .spawn → started = true

instance (c : Threads Shared Pc) (a : Act Pc Bool) :
    Decidable (spawnSucceeds.Allows c a) := Guard.decidable c a

structure Counted (s : Shared) : Prop where
  admitted : s.queue.admitted = s.queue.pending.length + s.inHand.length
  le_capacity : s.queue.admitted ≤ s.capacity
  pending : s.queue.pending.Pairwise (fun a b => a.ordinal < b.ordinal)
  pending_lt : ∀ e ∈ s.queue.pending, e.ordinal < s.accepted
  popped_nodup : s.popped.Nodup
  popped_lt : ∀ n ∈ s.popped, n < s.accepted
  popped_pending : ∀ n ∈ s.popped, ∀ e ∈ s.queue.pending, n < e.ordinal
  inHand_nodup : s.inHand.Nodup
  inHand_popped : ∀ n ∈ s.inHand, n ∈ s.popped
  draining_of_pending : s.queue.pending ≠ [] → s.queue.draining = true
  busy_of_draining : s.queue.draining = true → s.queue.pending ≠ [] ∨ s.inHand ≠ []

/-- The counts, the events the workers hold, and that no two hold the same. -/
def counted : Outline Shared Pc where
  Shared := Counted
  At s _ pc := pc.aborting = false ∧ ∀ n, pc.inHand = some n → n ∈ s.inHand
  Pair _ pc _ pc' := ∀ n, pc.inHand = some n → pc'.inHand ≠ some n

theorem counted_init (capacity : Nat) : counted.Holds (init capacity) := by
  refine ⟨⟨?_, ?_, ?_, ?_, ?_, ?_, ?_, ?_, ?_, ?_, ?_⟩, ?_, ?_⟩ <;>
    simp [init, ProviderEventQueueState.default]

/-! ## The operations keep the counts -/

theorem Counted.inLine (h : Counted s) : InLine s.popped s.queue.pending s.accepted :=
  ⟨h.pending, h.pending_lt, h.popped_lt, h.popped_pending⟩

theorem Counted.enqueue (h : Counted s) (requestId : Nat) (hlt : s.queue.admitted < s.capacity) :
    Counted { s with
      queue := { pending := s.queue.pending ++ [{ requestId := requestId, ordinal := s.accepted }],
                 admitted := s.queue.admitted + 1, draining := true }
      accepted := s.accepted + 1 } := by
  have hline := h.inLine.enqueue requestId
  refine ⟨?_, hlt, hline.sorted, hline.pending_lt, h.popped_nodup, hline.seen_lt,
    hline.seen_pending, h.inHand_nodup, h.inHand_popped, fun _ => rfl, fun _ => Or.inl (by simp)⟩
  have hadm := h.admitted
  simp only [List.length_append, List.length_singleton]
  omega

/-- The popped event is new: it was pending, and everything popped came before. -/
theorem Counted.pop (h : Counted s) {event : QueuedEvent} {rest : List QueuedEvent}
    (hp : s.queue.pending = event :: rest) :
    Counted { s with queue := { s.queue with pending := rest }
                     popped := s.popped ++ [event.ordinal]
                     inHand := s.inHand ++ [event.ordinal] } ∧
      event.ordinal ∉ s.inHand := by
  have hline := h.inLine
  rw [hp] at hline
  obtain ⟨haccepted, hpopped, hrest⟩ := hline.head
  have hline' := hline.tail.see haccepted hrest
  have hnew : event.ordinal ∉ s.popped := fun hn => Nat.lt_irrefl _ (hpopped _ hn)
  have hnew' : event.ordinal ∉ s.inHand := fun hn => hnew (h.inHand_popped _ hn)
  refine ⟨⟨?_, h.le_capacity, hline'.sorted, hline'.pending_lt, ?_, hline'.seen_lt,
    hline'.seen_pending, ?_, ?_, ?_, ?_⟩, hnew'⟩
  · have hadm := h.admitted
    rw [hp] at hadm
    simp only [List.length_append, List.length_cons, List.length_nil] at hadm ⊢
    omega
  · grind [h.popped_nodup]
  · grind [h.inHand_nodup]
  · grind [h.inHand_popped]
  · grind [h.draining_of_pending]
  · intro _
    exact Or.inr (by simp)

theorem Counted.start (h : Counted s) (started : List Nat) :
    Counted { s with started := started } :=
  ⟨h.admitted, h.le_capacity, h.pending, h.pending_lt, h.popped_nodup, h.popped_lt,
    h.popped_pending, h.inHand_nodup, h.inHand_popped, h.draining_of_pending, h.busy_of_draining⟩

/-- `complete` takes the event out of hand; the subtraction does not saturate. -/
theorem Counted.complete (h : Counted s) {n : Nat} (hn : n ∈ s.inHand) :
    Counted { s with queue := EventQueue.complete s.queue, inHand := s.inHand.erase n } := by
  have hlen := List.length_erase_of_mem hn
  have hpos : 0 < s.inHand.length := List.length_pos_of_mem hn
  have hadm := h.admitted
  have hle := h.le_capacity
  refine ⟨?_, ?_, h.pending, h.pending_lt, h.popped_nodup, h.popped_lt, h.popped_pending,
    h.inHand_nodup.erase _, ?_, ?_, ?_⟩
  · show s.queue.admitted - 1 = s.queue.pending.length + (s.inHand.erase n).length
    omega
  · show s.queue.admitted - 1 ≤ s.capacity
    omega
  · intro k hk
    exact h.inHand_popped k (List.mem_of_mem_erase hk)
  · intro hp
    have hp' : s.queue.pending ≠ [] := hp
    simp only [EventQueue.complete, List.isEmpty_iff, hp', if_false]
    exact h.draining_of_pending hp'
  · intro hd
    left
    intro hp
    have hp' : s.queue.pending = [] := hp
    simp [EventQueue.complete, hp'] at hd

theorem holds_nothing {inHand : List Nat} (h : pc.inHand = none) :
    ∀ n, pc.inHand = some n → n ∈ inHand := by
  intro n hn
  rw [h] at hn
  cases hn

theorem afterEnqueue_inHand (shouldStart : Bool) : (afterEnqueue shouldStart).inHand = none := by
  cases shouldStart <;> rfl

theorem afterEnqueue_aborting (shouldStart : Bool) :
    (afterEnqueue shouldStart).aborting = false := by
  cases shouldStart <;> rfl

/-- The moving thread keeps the counts and holds what its place says. -/
theorem counted_move (hs : Counted s) (hab : pc.aborting = false)
    (hin : ∀ n, pc.inHand = some n → n ∈ s.inHand) (hg : pc = .spawn → k = true)
    (hm : move s pc k = some m) :
    Counted m.shared ∧ m.next.aborting = false ∧
      ∀ n, m.next.inHand = some n → n ∈ m.shared.inHand := by
  cases move_moves hm with
  | accept requestId _ hroom =>
    exact ⟨hs.enqueue requestId hroom, afterEnqueue_aborting _,
      holds_nothing (afterEnqueue_inHand _)⟩
  | spawnFails => cases hg rfl
  | abort => cases hab
  | removedAll => cases hab
  | removeAborted => cases hab
  | pop event rest _ hp =>
    refine ⟨(hs.pop hp).1, rfl, ?_⟩
    intro n hn
    rw [← Option.some.inj hn]
    exact List.mem_append_right _ (List.mem_singleton_self _)
  | cancelled => exact ⟨hs, rfl, hin⟩
  | publish => exact ⟨hs.start _, rfl, hin⟩
  | published => exact ⟨hs, rfl, hin⟩
  | removed => exact ⟨hs, rfl, hin⟩
  | complete => exact ⟨hs.complete (hin _ rfl), rfl, holds_nothing rfl⟩
  | _ => exact ⟨hs, rfl, holds_nothing rfl⟩

/-- What is in hand changes only by a pop of the mover and by its completion. -/
theorem inHand_move (hs : Counted s) (hm : move s pc k = some m) :
    (m.shared.inHand = s.inHand ∧ m.next.inHand = pc.inHand) ∨
    (∃ n, pc.inHand = none ∧ n ∉ s.inHand ∧ m.shared.inHand = s.inHand ++ [n] ∧
      m.next.inHand = some n) ∨
    (∃ n, pc.inHand = some n ∧ m.shared.inHand = s.inHand.erase n ∧ m.next.inHand = none) := by
  cases move_moves hm with
  | accept => exact Or.inl ⟨rfl, afterEnqueue_inHand _⟩
  | pop event rest _ hp => exact Or.inr (Or.inl ⟨event.ordinal, rfl, (hs.pop hp).2, rfl, rfl⟩)
  | complete event => exact Or.inr (Or.inr ⟨event.ordinal, rfl, rfl, rfl⟩)
  | _ => exact Or.inl ⟨rfl, rfl⟩

theorem counted_other {pc' : Pc} (hs : Counted s) (hin' : ∀ n, pc'.inHand = some n → n ∈ s.inHand)
    (hpair : ∀ n, pc.inHand = some n → pc'.inHand ≠ some n) (hm : move s pc k = some m) :
    (∀ n, pc'.inHand = some n → n ∈ m.shared.inHand) ∧
      ∀ n, m.next.inHand = some n → pc'.inHand ≠ some n := by
  rcases inHand_move hs hm with
    ⟨hsh, hnext⟩ | ⟨n, -, hnew, hsh, hnext⟩ | ⟨n, hold, hsh, hnext⟩
  · rw [hsh, hnext]
    exact ⟨hin', hpair⟩
  · grind
  · grind

theorem counted_valid : counted.Valid program spawnSucceeds where
  start _ _ pc _ hpc _ := by
    cases pc with
    | enqueue => exact ⟨rfl, nofun⟩
    | _ => cases hpc
  start_pair _ _ pc _ pc' _ hpc _ _ _ := by
    cases pc with
    | enqueue => exact ⟨nofun, fun _ _ => nofun⟩
    | _ => cases hpc
  move _ _ _ _ _ hs hpc hg hm := counted_move hs hpc.1 hpc.2 hg hm
  child _ _ _ _ _ _ _ _ _ _ hm hc _ := by
    obtain ⟨rfl, rfl, rfl, rfl⟩ := move_child hm hc
    exact ⟨⟨rfl, nofun⟩, nofun, nofun⟩
  other _ _ _ _ _ _ _ hs _ hpc' _ hpair _ _ _ hm := by
    obtain ⟨h1, h2⟩ := counted_other hs hpc'.2 hpair hm
    exact ⟨⟨hpc'.1, h1⟩, h2, fun n hn hn' => h2 n hn' hn⟩
  child_pair _ _ _ _ _ _ _ _ _ _ _ _ _ _ _ _ _ _ hm hc := by
    obtain ⟨rfl, rfl, rfl, rfl⟩ := move_child hm hc
    exact ⟨nofun, fun _ _ => nofun⟩

/-! ## A worker to come -/

/-- A thread that is about to start a worker, or is one. -/
def Pc.serves : Pc → Bool
  | .spawn => true
  | pc => pc.isWorker

theorem Pc.willPop_of_serves (h : pc.serves = true) : pc = .spawn ∨ pc.WillPop := by
  by_cases hs : pc = .spawn
  · exact Or.inl hs
  · refine Or.inr (willPop_of_isWorker ?_)
    cases pc <;> first | exact absurd rfl hs | exact h

theorem Pc.serves_of_isWorker (h : pc.isWorker = true) : pc.serves = true := by
  cases pc <;> first | rfl | cases h

/-- Beside the counts: every event in hand is held by a thread, and pending events have a worker
to come. -/
structure Served (capacity : Nat) (c : Threads Shared Pc) : Prop where
  counts : counted.Holds c
  capacity : c.shared.capacity = capacity
  inHand : ∀ n ∈ c.shared.inHand, ∃ (t : Nat) (pc : Pc), c.pool[t]? = some pc ∧
    pc.inHand = some n
  pending : c.shared.queue.pending ≠ [] → ∃ (t : Nat) (pc : Pc), c.pool[t]? = some pc ∧
    pc.serves = true

theorem served_init (capacity : Nat) : Served (newCapacity capacity) (init capacity) :=
  ⟨counted_init capacity, rfl, by simp [init], by simp [init, ProviderEventQueueState.default]⟩

section

variable {capacity : Nat} {c c' : Threads Shared Pc}

theorem Served.of_draining (h : Served capacity c) (hd : c.shared.queue.draining = true) :
    ∃ (t : Nat) (pc : Pc), c.pool[t]? = some pc ∧ pc.serves = true := by
  rcases h.counts.shared.busy_of_draining hd with hp | hi
  · exact h.pending hp
  · obtain ⟨n, hn⟩ := List.exists_mem_of_ne_nil _ hi
    obtain ⟨t, pc, ht, hpc⟩ := h.inHand n hn
    exact ⟨t, pc, ht, Pc.serves_of_isWorker (isWorker_of_inHand hpc)⟩

variable {k : Bool} {m : Moved Shared Pc} {t child : Nat}

/-- After a move that leaves events pending, the mover or its child serves the queue, unless
the mover never did and a server was there before. -/
theorem serves_move {s : Shared} {pc : Pc} (hab : pc.aborting = false) (hg : pc = .spawn → k = true)
    (hm : move s pc k = some m) (hp : m.shared.queue.pending ≠ []) :
    m.next.serves = true ∨ m.child = some .workerPop ∨
      (pc.serves = false ∧ (s.queue.pending ≠ [] ∨ s.queue.draining = true)) := by
  cases move_moves hm with
  | full | refused => exact Or.inr (Or.inr ⟨rfl, Or.inl hp⟩)
  | accept =>
    -- told to spawn, unless the flag was set
    cases hd : s.queue.draining with
    | false => exact Or.inl rfl
    | true => exact Or.inr (Or.inr ⟨rfl, Or.inr rfl⟩)
  | spawned => exact Or.inr (Or.inl rfl)
  | spawnFails => cases hg rfl
  | abort => cases hab
  | removedAll => cases hab
  | removeAborted => cases hab
  | idle _ hempty => exact absurd hempty hp
  | _ => exact Or.inl rfl

theorem move_capacity {s : Shared} {pc : Pc} (hm : move s pc k = some m) :
    m.shared.capacity = s.capacity := by
  cases move_moves hm <;> rfl

theorem Served.start (h : Served capacity c) {pc : Pc} (ht : t ∉ c.pool)
    (hc : counted.Holds { c with pool := c.pool.insert t pc }) :
    Served capacity { c with pool := c.pool.insert t pc } := by
  have hkeep : ∀ (u : Nat) pc', c.pool[u]? = some pc' → (c.pool.insert t pc)[u]? = some pc' := by
    grind
  refine ⟨hc, h.capacity, ?_, ?_⟩
  · grind [h.inHand]
  · intro hp
    obtain ⟨u, pc', hu, hpc'⟩ := h.pending hp
    exact ⟨u, pc', hkeep u pc' hu, hpc'⟩

theorem Served.inHand_move (h : Served capacity c)
    (hstep : program.step c (.move t k child) = some c') :
    ∀ n ∈ c'.shared.inHand, ∃ (u : Nat) (pc : Pc), c'.pool[u]? = some pc ∧
      pc.inHand = some n := by
  obtain ⟨pc, m, hpc, hm, hsh, hnext, hkeep, -⟩ := Program.move_pool hstep
  -- the holder of an event that the mover does not hold stays where it is
  have hholder : ∀ n ∈ c.shared.inHand, pc.inHand ≠ some n →
      ∃ (u : Nat) (pc' : Pc), c'.pool[u]? = some pc' ∧ pc'.inHand = some n := by grind [h.inHand]
  intro n hn
  rw [hsh] at hn
  rcases EventQueue.inHand_move h.counts.shared hm with
    ⟨hin, hpcs⟩ | ⟨k', hnone, -, hin, hpcs⟩ | ⟨k', hold, hin, -⟩
  · grind
  · grind
  · rw [hin] at hn
    obtain ⟨hne, hmem⟩ := (List.Nodup.mem_erase_iff h.counts.shared.inHand_nodup).mp hn
    refine hholder n hmem ?_
    rw [hold]
    exact fun h => hne (Option.some.inj h).symm

theorem Served.pending_move (h : Served capacity c) (hg : spawnSucceeds.Allows c (.move t k child))
    (hstep : program.step c (.move t k child) = some c') (hp : c'.shared.queue.pending ≠ []) :
    ∃ (u : Nat) (pc : Pc), c'.pool[u]? = some pc ∧ pc.serves = true := by
  obtain ⟨pc, m, hpc, hm, hsh, hnext, hkeep, hchild⟩ := Program.move_pool hstep
  rw [hsh] at hp
  rcases serves_move (h.counts.at_ t pc hpc).1 (hg pc hpc).1 hm hp with hs | hs | ⟨hpcs, hbefore⟩
  · exact ⟨t, m.next, hnext, hs⟩
  · exact ⟨child, .workerPop, hchild _ hs, rfl⟩
  · grind [Served.of_draining, h.pending, h.of_draining]

theorem Served.step (h : Served capacity c) {a : Act Pc Bool} (hg : spawnSucceeds.Allows c a)
    (hs : program.step c a = some c') : Served capacity c' := by
  have hc := h.counts.step counted_valid hg hs
  cases a with
  | start => grind [Program.step_cases, h.start]
  | move =>
    refine ⟨hc, ?_, h.inHand_move hs, h.pending_move hg hs⟩
    obtain ⟨pc, m, hpc, hm, hsh, -⟩ := Program.move_pool hs
    rw [hsh, move_capacity hm, h.capacity]

end

/-- The counts and the workers to come, along every run whose spawns succeed. -/
theorem served_of_run (capacity : Nat) {acts : List (Act Pc Bool)} {c : Threads Shared Pc}
    (hg : Meets program.step spawnSucceeds.Allows (init capacity) acts)
    (h : run program.step (init capacity) acts = some c) : Served (newCapacity capacity) c :=
  run_invariant_of_meets (fun _ _ _ hc hg hs => hc.step hg hs) (served_init capacity) hg h

/-- **No accepted event is popped twice or left without a worker.** As long as spawns succeed,
`admitted` counts the pending events and those in hand, within the capacity, and pending events
have a worker that is about to be spawned or that will pop before it returns. -/
theorem event_queue_counts (capacity : Nat) {acts : List (Act Pc Bool)} {c : Threads Shared Pc}
    (hg : Meets program.step spawnSucceeds.Allows (init capacity) acts)
    (h : run program.step (init capacity) acts = some c) :
    c.shared.popped.Nodup ∧
    c.shared.queue.admitted = c.shared.queue.pending.length + c.shared.inHand.length ∧
    (∀ n, n ∈ c.shared.inHand ↔ ∃ (t : Nat) (pc : Pc), c.pool[t]? = some pc ∧
      pc.inHand = some n) ∧
    c.shared.queue.admitted ≤ newCapacity capacity ∧
    (c.shared.queue.pending ≠ [] → ∃ (t : Nat) (pc : Pc), c.pool[t]? = some pc ∧
      (pc = .spawn ∨ pc.WillPop)) := by
  have hserved := served_of_run capacity hg h
  have hcount := hserved.counts.shared
  refine ⟨hcount.popped_nodup, hcount.admitted, ?_, ?_, ?_⟩
  · intro n
    constructor
    · exact hserved.inHand n
    · rintro ⟨t, pc, ht, hpc⟩
      exact (hserved.counts.at_ t pc ht).2 n hpc
  · rw [← hserved.capacity]
    exact hcount.le_capacity
  · intro hp
    obtain ⟨t, pc, ht, hpc⟩ := hserved.pending hp
    exact ⟨t, pc, ht, Pc.willPop_of_serves hpc⟩

/-- Two events: the first is popped, the second pending behind it. -/
def oneInHandOnePending : List (Act Pc Bool) :=
  [.start 0 (.enqueue 7), .move 0 true 0, .move 0 true 1, .move 1 true 0,
   .start 2 (.enqueue 8), .move 2 true 0]

theorem event_queue_counts_sample :
    ∃ c, run program.step (init 2) oneInHandOnePending = some c ∧
      c.shared.queue.pending.length = 1 ∧ c.shared.inHand = [0] ∧
      c.shared.queue.admitted = c.shared.queue.pending.length + c.shared.inHand.length ∧
      ∃ (t : Nat) (pc : Pc), c.pool[t]? = some pc ∧ (pc = .spawn ∨ pc.WillPop) := by
  have hg : Meets program.step spawnSucceeds.Allows (init 2) oneInHandOnePending := by decide
  obtain ⟨c, hc⟩ := Option.isSome_iff_exists.mp
    (by decide : (run program.step (init 2) oneInHandOnePending).isSome = true)
  have hlen : (run program.step (init 2) oneInHandOnePending).map
      (fun c => (c.shared.queue.pending.length, c.shared.inHand)) = some (1, [0]) := by decide
  rw [hc, Option.map_some, Option.some.injEq, Prod.mk.injEq] at hlen
  obtain ⟨-, hadm, -, -, hserve⟩ := event_queue_counts 2 hg hc
  refine ⟨c, hc, hlen.1, hlen.2, hadm, hserve ?_⟩
  exact List.ne_nil_of_length_pos (by omega)

end LensoBun.Provider.EventQueue
