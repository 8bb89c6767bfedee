import LensoBun.Wire.Failure
import LensoBun.Lib.Run

set_option autoImplicit false

/-! # The event queue of a binding

`BunEventQueue` (`adapter.rs`) lets the publishes of one binding into the transport one at a time. A
publish takes a ticket; the queue serves one ticket and keeps a oneshot channel for each of the
others. A permit that is dropped, at whatever point, gives its place back: the served one passes the
turn on, a waiting one takes itself out of the queue.

A publish is known by a number, and so is the sender of its oneshot channel. `wait_turn` goes on
when the sender has been used or dropped, that is, when it is no longer among the waiters.

What the queue is for is a line: whoever comes joins at the end, whoever leaves takes nothing with
them, and the first in line has the turn. `Serves` says that a queue state stands for a line, and
the operations are shown to do to the line what they are meant to. Tickets are `u64` and wrap
around; a queue stands for its line as long as the tickets in it are different.
-/

namespace LensoBun.Adapter

/-! ## The queue -/

structure BunEventQueueState where
  active : Nat
  nextTicket : UInt64
  serving : Option UInt64
  /-- The tickets that wait, each with its sender. -/
  waiters : List (UInt64 × Nat)
  deriving DecidableEq, Repr

structure BunEventQueue where
  capacity : Nat
  state : BunEventQueueState
  deriving DecidableEq, Repr

structure BunEventPermit where
  ticket : UInt64
  turn : Bool
  started : Bool
  deriving DecidableEq, Repr

def BunEventQueue.new (capacity : Nat) : BunEventQueue := ⟨capacity, 0, 0, none, []⟩

/-- `try_acquire` for the publish `n`. -/
def BunEventQueue.tryAcquire (queue : BunEventQueue) (n : Nat) :
    Option (BunEventQueue × BunEventPermit) :=
  let state := queue.state
  if queue.capacity ≤ state.active then none
  else
    let ticket := state.nextTicket
    let taken := { state with active := state.active + 1, nextTicket := ticket + 1 }
    match state.serving with
    | none => some ({ queue with state := { taken with serving := some ticket } },
        ⟨ticket, false, false⟩)
    | some _ => some ({ queue with state := { taken with waiters := state.waiters ++ [(ticket, n)] } },
        ⟨ticket, true, false⟩)

/-- The turn goes to the first waiter, if there is one. -/
def BunEventQueueState.passOn (state : BunEventQueueState) : BunEventQueueState :=
  match state.waiters with
  | (ticket, _) :: rest => { state with serving := some ticket, waiters := rest }
  | [] => { state with serving := none }

/-- `release`. -/
def BunEventQueueState.release (state : BunEventQueueState) (ticket : UInt64) (started : Bool) :
    BunEventQueueState :=
  let state := { state with active := state.active - 1 }
  if started = true ∨ state.serving = some ticket then
    if state.serving ≠ some ticket then state else state.passOn
  else { state with waiters := state.waiters.eraseP (fun waiter => waiter.1 = ticket) }

def BunEventQueue.release (queue : BunEventQueue) (ticket : UInt64) (started : Bool) :
    BunEventQueue :=
  { queue with state := queue.state.release ticket started }

/-- `wait_turn` goes through for the publish `n`: there is no receiver, or its sender has gone. -/
def BunEventQueue.grants (queue : BunEventQueue) (n : Nat) (permit : BunEventPermit) : Bool :=
  !permit.turn || queue.state.waiters.all (fun waiter => waiter.2 ≠ n)

/-- The permit after `wait_turn`. -/
def BunEventPermit.begun (permit : BunEventPermit) : BunEventPermit :=
  { permit with turn := false, started := true }

/-! ## The line -/

/-- A place in line: a ticket, the publish that has it, and the number of publishes of the binding
that were admitted before. -/
structure Place where
  ticket : UInt64
  number : Nat
  serial : Nat
  deriving DecidableEq, Repr

def Place.waiter (x : Place) : UInt64 × Nat := (x.ticket, x.number)

/-- The queue stands for the line: the first is served, the others wait. -/
structure BunEventQueueState.Serves (state : BunEventQueueState) (line : List Place) : Prop where
  active : state.active = line.length
  serving : state.serving = line.head?.map Place.ticket
  waiters : state.waiters = line.tail.map Place.waiter

section

variable {state : BunEventQueueState} {queue queue' : BunEventQueue} {permit : BunEventPermit}
  {line : List Place} {n : Nat}

theorem serves_new (capacity : Nat) : (BunEventQueue.new capacity).state.Serves [] :=
  ⟨rfl, rfl, rfl⟩

/-- What `try_acquire` gives: the next ticket, and a receiver unless there is nobody before it. -/
theorem tryAcquire_permit (h : queue.tryAcquire n = some (queue', permit)) :
    permit = ⟨queue.state.nextTicket, queue.state.serving.isSome, false⟩ := by
  simp only [BunEventQueue.tryAcquire] at h
  split at h
  · cases h
  · split at h <;> next hserving => cases h; rw [hserving]; rfl

theorem BunEventQueueState.Serves.tryAcquire (hline : queue.state.Serves line)
    (h : queue.tryAcquire n = some (queue', permit)) (serial : Nat) :
    queue'.state.Serves (line ++ [⟨permit.ticket, n, serial⟩]) := by
  have hserving := hline.serving
  have hwaiters := hline.waiters
  simp only [BunEventQueue.tryAcquire] at h
  split at h
  · cases h
  · split at h
    · next hnone =>
        cases h
        -- nobody is served: the line is empty
        cases line with
        | nil => exact ⟨by simp [hline.active], rfl, hwaiters⟩
        | cons =>
          rw [hnone] at hserving
          cases hserving
    · next ticket hsome =>
        cases h
        cases line with
        | nil =>
          rw [hsome] at hserving
          cases hserving
        | cons =>
          refine ⟨by simp [hline.active], hserving, ?_⟩
          simp [hwaiters, Place.waiter]

theorem BunEventQueueState.Serves.passOn {x : Place} {rest : List Place} (active : Nat)
    (hactive : active = rest.length) (hline : state.Serves (x :: rest)) :
    ({ state with active := active } : BunEventQueueState).passOn.Serves rest := by
  have hwaiters : state.waiters = rest.map Place.waiter := hline.waiters
  cases rest with
  | nil =>
    simp only [BunEventQueueState.passOn, hwaiters, List.map_nil]
    exact ⟨hactive, rfl, rfl⟩
  | cons =>
    simp only [BunEventQueueState.passOn, hwaiters, List.map_cons]
    exact ⟨hactive, rfl, rfl⟩

/-- The waiter with the ticket of `x` is `x`. -/
theorem eraseP_ticket {x : Place} (hx : x ∈ line) (htickets : (line.map Place.ticket).Nodup) :
    (line.map Place.waiter).eraseP (fun waiter => waiter.1 = x.ticket) =
      (line.erase x).map Place.waiter := by
  induction line with
  | nil => cases hx
  | cons y rest ih =>
    rw [List.map_cons, List.nodup_cons] at htickets
    by_cases hyx : y = x
    · subst hyx
      rw [List.erase_cons_head, List.map_cons, List.eraseP_cons_of_pos (by simp [Place.waiter])]
    · have hmem : x ∈ rest := (List.mem_cons.mp hx).resolve_left (Ne.symm hyx)
      have hticket : y.ticket ≠ x.ticket := by grind
      rw [List.erase_cons_tail (by simpa using hyx), List.map_cons, List.map_cons,
        List.eraseP_cons_of_neg (by simp [Place.waiter, hticket]), ih hmem htickets.2]

/-- A permit that is dropped leaves the line, wherever it stands. -/
theorem BunEventQueueState.Serves.release {x : Place} {started : Bool} (hline : state.Serves line)
    (htickets : (line.map Place.ticket).Nodup) (hx : x ∈ line)
    (hstarted : started = true → line.head? = some x) :
    (state.release x.ticket started).Serves (line.erase x) := by
  have hlength : state.active - 1 = (line.erase x).length := by
    rw [List.length_erase_of_mem hx, hline.active]
  cases line with
  | nil => cases hx
  | cons y rest =>
    have hserving : state.serving = some y.ticket := hline.serving
    by_cases hyx : y = x
    · grind [BunEventQueueState.release, BunEventQueueState.Serves.passOn]
    · have hmem : x ∈ rest := (List.mem_cons.mp hx).resolve_left (Ne.symm hyx)
      have hticket : y.ticket ≠ x.ticket := by grind
      have hwaiting : started = false := by grind
      have hwaiters : state.waiters = rest.map Place.waiter := hline.waiters
      have herase : (y :: rest).erase x = y :: rest.erase x :=
        List.erase_cons_tail (by simpa using hyx)
      simp only [BunEventQueueState.release, hserving, hwaiting, Option.some.injEq, hticket,
        Bool.false_eq_true, or_self, if_false]
      rw [herase] at hlength ⊢
      refine ⟨hlength, rfl, ?_⟩
      rw [hwaiters]
      exact eraseP_ticket hmem (List.nodup_cons.mp htickets).2

theorem BunEventQueueState.Serves.first {x : Place} (hline : queue.state.Serves line) (hx : x ∈ line)
    (hturn : permit.turn = true) (hgrants : queue.grants x.number permit = true) :
    line.head? = some x := by
  cases line with
  | nil => cases hx
  | cons y rest =>
    rcases List.mem_cons.mp hx with rfl | hmem
    · rfl
    · -- a place further back has its sender among the waiters
      have hwaiters : queue.state.waiters = rest.map Place.waiter := hline.waiters
      simp only [BunEventQueue.grants, hturn, Bool.not_true, Bool.false_or, hwaiters,
        List.all_eq_true, List.mem_map, decide_eq_true_eq] at hgrants
      exact absurd rfl (hgrants x.waiter ⟨x, hmem, rfl⟩)

end

/-! ## The permits

A queue by itself, under any order of acquisitions, turns and drops. A permit is known by the number
of acquisitions before it, and so is its ticket until the `u64` comes round. -/

structure Permits where
  queue : BunEventQueue
  /-- The permits that live, in the order they were acquired. -/
  live : List (Nat × BunEventPermit)
  acquired : Nat

namespace Permits

open Lib

inductive Act where
  | tryAcquire
  | waitTurn (n : Nat)
  /-- `drop`, whether the permit waits, has been given its turn or has started. -/
  | drop (n : Nat)

def step (x : Permits) : Act → Option Permits
  | .tryAcquire =>
    match x.queue.tryAcquire x.acquired with
    | none => some x
    | some (queue, permit) => some ⟨queue, x.live ++ [(x.acquired, permit)], x.acquired + 1⟩
  | .waitTurn n =>
    match x.live.find? (·.1 = n) with
    | none => none
    | some (_, permit) =>
      if x.queue.grants n permit then
        some { x with live := x.live.map (fun e => if e.1 = n then (n, e.2.begun) else e) }
      else none
  | .drop n =>
    match x.live.find? (·.1 = n) with
    | none => none
    | some (_, permit) =>
      some { x with
        queue := x.queue.release permit.ticket permit.started
        live := x.live.filter (·.1 ≠ n) }

def place (e : Nat × BunEventPermit) : Place := ⟨e.2.ticket, e.1, e.1⟩

/-- The permits stand in line, and all but the first still wait for their turn. -/
structure Orderly (capacity : Nat) (x : Permits) : Prop where
  serves : x.queue.state.Serves (x.live.map place)
  next : x.queue.state.nextTicket = .ofNat x.acquired
  tickets : ∀ e ∈ x.live, e.1 < x.acquired ∧ e.2.ticket = .ofNat e.1
  waiting : x.live.Pairwise (fun e f => e.1 < f.1 ∧ f.2.turn = true ∧ f.2.started = false)
  bounded : x.queue.capacity = capacity ∧ x.live.length ≤ capacity

section

variable {capacity : Nat} {x x' : Permits} {e : Nat × BunEventPermit}

theorem Orderly.increasing (h : Orderly capacity x) (hx : x.acquired < 2 ^ 64) :
    (x.live.map (·.2.ticket)).Pairwise (· < ·) := by
  rw [List.pairwise_map]
  refine h.waiting.imp_of_mem fun he hf hlt => ?_
  rw [(h.tickets _ he).2, (h.tickets _ hf).2]
  have hf := (h.tickets _ hf).1.trans hx
  exact (UInt64.ofNat_lt_iff_lt (hlt.1.trans hf) hf).mpr hlt.1

theorem Orderly.nodup (h : Orderly capacity x) (hx : x.acquired < 2 ^ 64) :
    ((x.live.map place).map Place.ticket).Nodup := by
  rw [List.map_map]
  exact (h.increasing hx).imp fun hlt => UInt64.ne_of_lt hlt

/-- A permit is the first in line, or it is behind the first and waits. -/
theorem Orderly.first_or_waits (h : Orderly capacity x) (he : e ∈ x.live) :
    x.live.head? = some e ∨
      (∃ f, x.live.head? = some f ∧ f.1 < e.1) ∧ e.2.turn = true ∧ e.2.started = false := by
  have hwaiting := h.waiting
  cases hlive : x.live with
  | nil => simp [hlive] at he
  | cons f rest =>
    rw [hlive, List.pairwise_cons] at hwaiting
    rcases List.mem_cons.mp (hlive ▸ he) with rfl | hrest
    · exact .inl rfl
    · exact .inr ⟨⟨f, rfl, (hwaiting.1 e hrest).1⟩, (hwaiting.1 e hrest).2⟩

theorem Orderly.started_first (h : Orderly capacity x) (he : e ∈ x.live)
    (hstarted : e.2.started = true) : x.live.head? = some e :=
  (h.first_or_waits he).resolve_right fun hwaits => by simp [hstarted] at hwaits

/-- The first in line is not among the waiters. -/
theorem Orderly.granted (h : Orderly capacity x) (he : x.live.head? = some e) :
    x.queue.grants e.1 e.2 = true := by
  have hwaiting := h.waiting
  obtain ⟨rest, hlive⟩ := List.head?_eq_some_iff.mp he
  rw [hlive, List.pairwise_cons] at hwaiting
  simp only [BunEventQueue.grants, h.serves.waiters, hlive, List.map_cons, List.tail_cons,
    List.map_map, Bool.or_eq_true, List.all_eq_true, List.mem_map]
  refine .inr ?_
  rintro _ ⟨f, hf, rfl⟩
  exact decide_eq_true (hwaiting.1 f hf).1.ne'

theorem Orderly.tryAcquire {queue : BunEventQueue} {permit : BunEventPermit}
    (h : Orderly capacity x)
    (hqueue : x.queue.tryAcquire x.acquired = some (queue, permit)) :
    Orderly capacity ⟨queue, x.live ++ [(x.acquired, permit)], x.acquired + 1⟩ := by
  have hserves := h.serves.tryAcquire hqueue x.acquired
  have hpermit := tryAcquire_permit hqueue
  have hroom : x.queue.state.active < x.queue.capacity ∧ queue.capacity = x.queue.capacity ∧
      queue.state.nextTicket = x.queue.state.nextTicket + 1 := by
    grind [BunEventQueue.tryAcquire]
  refine ⟨by simpa [place] using hserves, ?_, ?_, ?_, hroom.2.1.trans h.bounded.1, ?_⟩
  · rw [hroom.2.2, h.next, UInt64.ofNat_add]
    rfl
  · intro e he
    rcases List.mem_append.mp he with he | he
    · exact ⟨(h.tickets e he).1.trans (Nat.lt_succ_self _), (h.tickets e he).2⟩
    · obtain rfl := List.mem_singleton.mp he
      exact ⟨Nat.lt_succ_self _, hpermit ▸ h.next⟩
  · refine List.pairwise_append.mpr ⟨h.waiting, List.pairwise_singleton .., fun e he f hf => ?_⟩
    obtain rfl := List.mem_singleton.mp hf
    -- somebody is before the new permit, so the queue serves somebody
    have hserving : x.queue.state.serving.isSome = true := by
      rw [h.serves.serving]
      cases hlive : x.live with
      | nil => simp [hlive] at he
      | cons => rfl
    exact ⟨(h.tickets e he).1, hpermit ▸ hserving, hpermit ▸ rfl⟩
  · have hactive := h.serves.active
    have hcapacity := h.bounded.1
    simp only [List.length_map, List.length_append, List.length_singleton] at hactive ⊢
    omega

theorem Orderly.granted_first (h : Orderly capacity x) (he : e ∈ x.live)
    (hgrants : x.queue.grants e.1 e.2 = true) : x.live.head? = some e := by
  refine (h.first_or_waits he).resolve_right ?_
  rintro ⟨⟨f, hf, hlt⟩, hturn, -⟩
  have hplace := h.serves.first (x := place e) (List.mem_map_of_mem he) hturn hgrants
  rw [List.head?_map, hf] at hplace
  simp only [Option.map_some, Option.some.injEq, place, Place.mk.injEq] at hplace
  exact hlt.ne hplace.2.1

theorem Orderly.waitTurn (h : Orderly capacity x) (he : e ∈ x.live)
    (hgrants : x.queue.grants e.1 e.2 = true) :
    Orderly capacity
      { x with live := x.live.map (fun f => if f.1 = e.1 then (e.1, f.2.begun) else f) } := by
  have hfirst := h.granted_first he hgrants
  obtain ⟨queue, live, acquired⟩ := x
  obtain ⟨rest, rfl⟩ := List.head?_eq_some_iff.mp hfirst
  have hwaiting := List.pairwise_cons.mp h.waiting
  have hrest : rest.map (fun f => if f.1 = e.1 then (e.1, f.2.begun) else f) = rest := by
    rw [List.map_congr_left fun f hf => if_neg (hwaiting.1 f hf).1.ne', List.map_id']
  rw [List.map_cons, if_pos rfl, hrest]
  exact ⟨h.serves, h.next, by simpa [BunEventPermit.begun] using h.tickets,
    List.pairwise_cons.mpr hwaiting, h.bounded⟩

theorem Orderly.drop (h : Orderly capacity x) (hx : x.acquired < 2 ^ 64) (he : e ∈ x.live) :
    Orderly capacity { x with
      queue := x.queue.release e.2.ticket e.2.started
      live := x.live.filter (·.1 ≠ e.1) } := by
  have hserves := h.serves.release (h.nodup hx) (List.mem_map_of_mem he) fun hstarted => by
    rw [List.head?_map, h.started_first he hstarted, Option.map_some]
  have herase : (x.live.map place).erase (place e) = (x.live.filter (·.1 ≠ e.1)).map place := by
    rw [(h.nodup hx).of_map.erase_eq_filter, List.filter_map]
    congr 1
    refine List.filter_congr fun f hf => ?_
    grind [place, h.tickets f hf, h.tickets e he]
  have hnext : (x.queue.release e.2.ticket e.2.started).state.nextTicket =
      x.queue.state.nextTicket := by
    grind [BunEventQueue.release, BunEventQueueState.release, BunEventQueueState.passOn]
  exact ⟨herase ▸ hserves, hnext.trans h.next, fun f hf => h.tickets f (List.mem_filter.mp hf).1,
    h.waiting.filter _, h.bounded.1, (List.length_filter_le ..).trans h.bounded.2⟩

theorem Orderly.step (h : Orderly capacity x) (hx : x.acquired < 2 ^ 64) {a : Act}
    (ha : x.step a = some x') : Orderly capacity x' := by
  cases a with
  | tryAcquire =>
    simp only [Permits.step] at ha
    split at ha
    · exact Option.some.inj ha ▸ h
    · next hqueue => exact Option.some.inj ha ▸ h.tryAcquire hqueue
  | waitTurn n =>
    simp only [Permits.step] at ha
    split at ha
    · cases ha
    · next m _ he =>
      obtain rfl : m = n := by simpa using List.find?_some he
      split at ha
      · next hgrants => exact Option.some.inj ha ▸ h.waitTurn (List.mem_of_find?_eq_some he) hgrants
      · cases ha
  | drop n =>
    simp only [Permits.step] at ha
    split at ha
    · cases ha
    · next m _ he =>
      obtain rfl : m = n := by simpa using List.find?_some he
      exact Option.some.inj ha ▸ h.drop hx (List.mem_of_find?_eq_some he)

theorem acquired_mono {a : Act} (ha : x.step a = some x') : x.acquired ≤ x'.acquired := by
  cases a <;> grind [Permits.step]

theorem orderly_of_run {as : List Act} (hrun : run step ⟨.new capacity, [], 0⟩ as = some x)
    (hx : x.acquired < 2 ^ 64) : Orderly capacity x := by
  have hkept : ∀ x a x', (x.acquired < 2 ^ 64 → Orderly capacity x) → step x a = some x' →
      x'.acquired < 2 ^ 64 → Orderly capacity x' := by
    intro x a x' h ha hx'
    have hx := (acquired_mono ha).trans_lt hx'
    exact (h hx).step hx ha
  refine run_invariant hkept (fun _ => ?_) hrun hx
  exact ⟨serves_new capacity, rfl, nofun, .nil, rfl, Nat.zero_le _⟩

end

/-- **However permits are acquired, given their turn and dropped, the queue serves the oldest, the
others wait in order, and the turn is not lost.** -/
theorem turn_never_lost (capacity : Nat) {as : List Act} {x : Permits}
    (hrun : run step ⟨.new capacity, [], 0⟩ as = some x) (hx : x.acquired < 2 ^ 64) :
    x.queue.state.active = x.live.length ∧ x.live.length ≤ capacity ∧
      x.queue.state.serving = x.live.head?.map (·.2.ticket) ∧
      x.queue.state.waiters.map Prod.fst = x.live.tail.map (·.2.ticket) ∧
      (x.live.map (·.2.ticket)).Pairwise (· < ·) ∧
      (∀ e ∈ x.live, e.2.started = true → x.live.head? = some e) ∧
      ∀ e, x.live.head? = some e → e.2.started = true ∨ x.queue.grants e.1 e.2 = true := by
  have horderly := orderly_of_run hrun hx
  have hserves := horderly.serves
  refine ⟨by simpa using hserves.active, horderly.bounded.2, ?_, ?_, horderly.increasing hx,
    fun e he => horderly.started_first he, fun e he => .inr (horderly.granted he)⟩
  · rw [hserves.serving, List.head?_map, Option.map_map]
    rfl
  · rw [hserves.waiters, ← List.map_tail, List.map_map, List.map_map]
    rfl

theorem turn_never_lost_sample :
    ∃ x, run step ⟨.new 2, [], 0⟩
        [.tryAcquire, .tryAcquire, .tryAcquire, .waitTurn 0, .drop 0] = some x ∧
      x.queue.state.serving = some 1 := by
  refine exists_run (by decide +kernel) ?_
  exact (turn_never_lost 2 (run_get _) (by decide +kernel)).2.2.1

/-- **Permits start in the order they were acquired**: who starts finds no older permit alive. -/
theorem turns_in_order (capacity n : Nat) {as : List Act} {x x' : Permits}
    (hrun : run step ⟨.new capacity, [], 0⟩ as = some x) (hx : x.acquired < 2 ^ 64)
    (hstep : x.step (.waitTurn n) = some x') : ∀ e ∈ x.live, n ≤ e.1 := by
  have horderly := orderly_of_run hrun hx
  simp only [step] at hstep
  split at hstep
  · cases hstep
  next m permit hfound =>
  obtain rfl : m = n := by simpa using List.find?_some hfound
  split at hstep
  next hgrants =>
    have hfirst := horderly.granted_first (List.mem_of_find?_eq_some hfound) hgrants
    intro e he
    rcases horderly.first_or_waits he with hhead | ⟨⟨f, hf, hlt⟩, -⟩ <;> grind
  · cases hstep

theorem turns_in_order_sample :
    ∃ x, run step ⟨.new 2, [], 0⟩ [.tryAcquire, .tryAcquire, .drop 0] = some x ∧
      ∀ e ∈ x.live, 1 ≤ e.1 := by
  refine exists_run (by decide +kernel) ?_
  exact turns_in_order 2 1 (run_get _) (by decide +kernel) (Option.some_get (by decide +kernel)).symm

end Permits

end LensoBun.Adapter
