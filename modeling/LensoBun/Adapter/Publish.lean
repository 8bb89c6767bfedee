import LensoBun.Adapter.EventQueue
import LensoBun.Lib.Threads
import LensoBun.Transport.Process

set_option autoImplicit false

/-! # Publishing events through a transport

`BunEventEndpoint::publish` (`adapter.rs`) over the event queues of all bindings and a transport of
either kind. A publish is admitted or refused when it is called; its future waits for its turn, then
calls `publish_event` and holds the call until it is over, and only then drops its permit. The future
can be dropped while it waits; when it is dropped with the call in hand, the call is cancelled first
and the permit is dropped after it.

A `Wire` is what a publish sees of a transport: a program whose threads make the calls. The publish
with the number `n` makes its call as thread `n`. Everything else that goes on in the transport, its
own threads and the calls of other endpoints, are steps of the wire. A number is given back when the
future is dropped before its call.

`serial` and `admitted` are not part of the source: they count the publishes of a binding in the
order in which they were admitted.
-/

namespace LensoBun.Adapter

open Std Lib Transport

variable {β σ π κ : Type}

/-! ## The queues of an instance -/

/-- A binding with the capacity its plan gives it gets a new queue. -/
def enterQueue [DecidableEq β] (queues : β → Option BunEventQueue) (binding : β × Nat) :
    β → Option BunEventQueue :=
  Function.update queues binding.1 (some (.new binding.2))

/-- What `prepare_instance` enters for the bindings it finds. -/
def eventQueues [DecidableEq β] (bindings : List (β × Nat)) : β → Option BunEventQueue :=
  bindings.foldl enterQueue (fun _ => none)

/-- `event_queue_capacity`: the number of queues. -/
def eventQueueCapacity [DecidableEq β] (bindings : List (β × Nat)) : Nat :=
  max (bindings.map Prod.fst).dedup.length 1

theorem eventQueues_some [DecidableEq β] {bindings : List (β × Nat)} {b : β} {queue : BunEventQueue}
    (h : eventQueues bindings b = some queue) :
    ∃ capacity, (b, capacity) ∈ bindings ∧ queue = .new capacity := by
  -- the queues entered so far are those before the loop or new ones
  have key : ∀ (rest : List (β × Nat)) (queues : β → Option BunEventQueue),
      rest.foldl enterQueue queues b = some queue →
      queues b = some queue ∨ ∃ capacity, (b, capacity) ∈ rest ∧ queue = .new capacity := by
    intro rest
    induction rest with
    | nil => exact fun queues h => .inl h
    | cons binding rest ih =>
      intro queues h
      rcases ih _ h with hold | ⟨capacity, hmem, heq⟩
      · by_cases hb : b = binding.1
        · subst hb
          rw [enterQueue, Function.update_self] at hold
          exact .inr ⟨binding.2, List.mem_cons_self, (Option.some.inj hold).symm⟩
        · rw [enterQueue, Function.update_of_ne hb] at hold
          exact .inl hold
      · exact .inr ⟨capacity, List.mem_cons_of_mem _ hmem, heq⟩
  rcases key bindings _ h with hnone | hsome
  · cases hnone
  · exact hsome

/-! ## The system -/

structure Wire (σ π κ : Type) where
  program : Program σ π κ
  /-- The start of `publish_event`. -/
  publishEvent : Call → π
  /-- A thread that starts here makes an event call. -/
  opens : π → Bool
  /-- `publish_event` has returned this failure. -/
  refusal : π → Option RuntimeFailure
  /-- The call is over: it was refused or answered, or its cancel has returned. -/
  ended : π → Bool
  alive : σ → Bool
  /-- The threads whose events are in the event channel, in its order. -/
  queued : σ → List Nat

structure Codec where
  capabilityId : String
  eventOperations : List String

structure Publish (β : Type) where
  binding : β
  serial : Nat
  call : Call
  permit : BunEventPermit
  /-- The future has returned or was dropped, and the permit is gone. -/
  finished : Bool

def Publish.waiting (p : Publish β) : Bool := !p.permit.started && !p.finished

/-- The publish has its turn and is in the transport. -/
def Publish.calling (p : Publish β) : Bool := p.permit.started && !p.finished

theorem waiting_iff {p : Publish β} :
    p.waiting = true ↔ p.permit.started = false ∧ p.finished = false := by
  simp [Publish.waiting]

theorem calling_iff {p : Publish β} :
    p.calling = true ↔ p.permit.started = true ∧ p.finished = false := by
  simp [Publish.calling]

def Publish.place (p : Publish β) (n : Nat) : Place := ⟨p.permit.ticket, n, p.serial⟩

@[ext]
structure System (β σ π : Type) where
  codecs : β → Codec
  queues : β → Option BunEventQueue
  admitted : β → Nat
  publishes : ExtTreeMap Nat (Publish β)
  wire : Threads σ π

/-- The publish `n` with the queue of its binding. -/
def System.find (s : System β σ π) (n : Nat) : Option (Publish β × BunEventQueue) :=
  s.publishes[n]?.bind fun p => (s.queues p.binding).map fun queue => (p, queue)

theorem find_some {s : System β σ π} {n : Nat} {p : Publish β} {queue : BunEventQueue}
    (h : s.find n = some (p, queue)) :
    s.publishes[n]? = some p ∧ s.queues p.binding = some queue := by
  obtain ⟨p', hp, hmap⟩ := Option.bind_eq_some_iff.mp h
  obtain ⟨queue', hqueue, heq⟩ := Option.map_eq_some_iff.mp hmap
  cases heq
  exact ⟨hp, hqueue⟩

/-- `publish` up to the future it returns. -/
def publish (codec : Codec) (queue : Option BunEventQueue) (n : Nat) (operation : String)
    (encodeError : Option RuntimeFailure) : Except RuntimeFailure (BunEventQueue × BunEventPermit) :=
  if operation ∉ codec.eventOperations then
    .error (.unknownOperation codec.capabilityId operation)
  else
    match encodeError, queue with
    | some error, _ => .error error
    | none, none => .error (.unavailable codec.capabilityId)
    | none, some queue =>
      match queue.tryAcquire n with
      | none => .error (.resourceExhausted codec.capabilityId operation)
      | some admitted => .ok admitted

def System.begun (s : System β σ π) (n : Nat) (p : Publish β) (wire : Threads σ π) :
    System β σ π :=
  { s with publishes := s.publishes.insert n { p with permit := p.permit.begun }, wire := wire }

def Wire.opensAct (W : Wire σ π κ) : Lib.Act π κ → Bool
  | .start _ pc => W.opens pc
  | .move _ _ _ => false

inductive Act (β π κ : Type) where
  /-- An event of the binding is published; `encode_event` may fail. -/
  | publish (n : Nat) (binding : β) (requestId : Nat) (operation : String)
      (encodeError : Option RuntimeFailure)
  /-- The future is polled and has its turn: it calls `publish_event`. -/
  | begin (n : Nat)
  | drop (n : Nat)
  | finish (n : Nat)
  | wire (a : Lib.Act π κ)

section

variable [DecidableEq β]

def System.setQueue (s : System β σ π) (b : β) (queue : BunEventQueue) : System β σ π :=
  { s with queues := Function.update s.queues b (some queue) }

def System.enter (s : System β σ π) (n : Nat) (b : β) (call : Call) (queue : BunEventQueue)
    (permit : BunEventPermit) : System β σ π :=
  { s.setQueue b queue with
    admitted := Function.update s.admitted b (s.admitted b + 1)
    publishes := s.publishes.insert n ⟨b, s.admitted b, call, permit, false⟩ }

/-- The permit is dropped, the number is given back. -/
def System.dropped (s : System β σ π) (n : Nat) (p : Publish β) (queue : BunEventQueue) :
    System β σ π :=
  { s.setQueue p.binding (queue.release p.permit.ticket p.permit.started) with
    publishes := s.publishes.erase n }

def System.finished (s : System β σ π) (n : Nat) (p : Publish β) (queue : BunEventQueue) :
    System β σ π :=
  { s.setQueue p.binding (queue.release p.permit.ticket p.permit.started) with
    publishes := s.publishes.insert n { p with finished := true } }

def step (W : Wire σ π κ) (s : System β σ π) : Act β π κ → Option (System β σ π)
  | .publish n b requestId operation encodeError =>
    match s.publishes[n]?, publish (s.codecs b) (s.queues b) n operation encodeError with
    | none, .ok (queue, permit) =>
      some (s.enter n b ⟨.event, requestId, (s.codecs b).capabilityId, operation⟩ queue permit)
    | _, _ => none
  | .begin n =>
    match s.find n with
    | none => none
    | some (p, queue) =>
      if p.waiting = true ∧ queue.grants n p.permit = true then
        (W.program.step s.wire (.start n (W.publishEvent p.call))).map (s.begun n p)
      else none
  | .drop n =>
    match s.find n with
    | none => none
    | some (p, queue) => if p.waiting = true then some (s.dropped n p queue) else none
  | .finish n =>
    match s.find n, s.wire.pool[n]? with
    | some (p, queue), some pc =>
      if p.calling = true ∧ W.ended pc = true then some (s.finished n p queue) else none
    | _, _ => none
  | .wire a =>
    if W.opensAct a = true then none
    else (W.program.step s.wire a).map fun wire => { s with wire := wire }

def System.init (codecs : β → Codec) (bindings : List (β × Nat)) (wire : Threads σ π) :
    System β σ π :=
  { codecs := codecs
    queues := eventQueues bindings
    admitted := fun _ => 0
    publishes := ∅
    wire := wire }

/-! ## What a step can be -/

inductive Steps (W : Wire σ π κ) (s : System β σ π) : Act β π κ → System β σ π → Prop
  | publish (n : Nat) (b : β) (requestId : Nat) (operation : String) (call : Call)
      (queue queue' : BunEventQueue) (permit : BunEventPermit) (free : s.publishes[n]? = none)
      (bound : s.queues b = some queue) (acquired : queue.tryAcquire n = some (queue', permit))
      (event : call.kind = .event) :
      Steps W s (.publish n b requestId operation none) (s.enter n b call queue' permit)
  | begin (n : Nat) (p : Publish β) (queue : BunEventQueue) (wire : Threads σ π)
      (found : s.publishes[n]? = some p) (bound : s.queues p.binding = some queue)
      (waiting : p.waiting = true) (granted : queue.grants n p.permit = true)
      (started : W.program.step s.wire (.start n (W.publishEvent p.call)) = some wire) :
      Steps W s (.begin n) (s.begun n p wire)
  | drop (n : Nat) (p : Publish β) (queue : BunEventQueue) (found : s.publishes[n]? = some p)
      (bound : s.queues p.binding = some queue) (waiting : p.waiting = true) :
      Steps W s (.drop n) (s.dropped n p queue)
  | finish (n : Nat) (p : Publish β) (queue : BunEventQueue) (pc : π)
      (found : s.publishes[n]? = some p) (bound : s.queues p.binding = some queue)
      (calling : p.calling = true) (here : s.wire.pool[n]? = some pc) (ended : W.ended pc = true) :
      Steps W s (.finish n) (s.finished n p queue)
  | wire (a : Lib.Act π κ) (wire : Threads σ π) (other : W.opensAct a = false)
      (moved : W.program.step s.wire a = some wire) : Steps W s (.wire a) { s with wire := wire }

variable {W : Wire σ π κ} {s s' : System β σ π} {a : Act β π κ}

theorem publish_ok {codec : Codec} {queue : Option BunEventQueue} {n : Nat} {operation : String}
    {encodeError : Option RuntimeFailure} {admitted : BunEventQueue × BunEventPermit}
    (h : publish codec queue n operation encodeError = .ok admitted) :
    encodeError = none ∧ ∃ queue₀, queue = some queue₀ ∧ queue₀.tryAcquire n = some admitted := by
  unfold publish at h
  split at h
  · cases h
  · grind

theorem step_steps (h : step W s a = some s') : Steps W s a s' := by
  cases a with
  | publish n b requestId operation =>
    simp only [step] at h
    split at h
    · next queue permit hfree hpublish =>
        cases h
        obtain ⟨rfl, queue₀, hbound, hacquired⟩ := publish_ok hpublish
        exact .publish n b requestId operation _ queue₀ queue permit hfree hbound hacquired rfl
    · cases h
  | begin n =>
    simp only [step] at h
    split at h
    · cases h
    · next p queue hfind =>
        obtain ⟨hfound, hbound⟩ := find_some hfind
        split at h
        · next hcond =>
            obtain ⟨wire, hwire, rfl⟩ := Option.map_eq_some_iff.mp h
            exact .begin n p queue wire hfound hbound hcond.1 hcond.2 hwire
        · cases h
  | drop n =>
    simp only [step] at h
    split at h
    · cases h
    · next p queue hfind =>
        obtain ⟨hfound, hbound⟩ := find_some hfind
        split at h <;> cases h
        next hwaiting => exact .drop n p queue hfound hbound hwaiting
  | finish n =>
    simp only [step] at h
    split at h
    · next p queue pc hfind hpc =>
        obtain ⟨hfound, hbound⟩ := find_some hfind
        split at h <;> cases h
        next hcond => exact .finish n p queue pc hfound hbound hcond.1 hpc hcond.2
    · cases h
  | wire a =>
    simp only [step] at h
    split at h
    · cases h
    · next hother =>
        obtain ⟨wire, hwire, rfl⟩ := Option.map_eq_some_iff.mp h
        exact .wire a wire (by simpa using hother) hwire

theorem Steps.wire_step (h : Steps W s a s') :
    s'.wire = s.wire ∨ ∃ a', W.program.step s.wire a' = some s'.wire := by
  cases h with
  | begin n p queue wire _ _ _ _ hstarted => exact .inr ⟨_, hstarted⟩
  | wire a wire _ hmoved => exact .inr ⟨a, hmoved⟩
  | _ => exact .inl rfl

end

/-! ## Whose turn it is -/

/-- The queue of the binding stands for the line of its publishes, in the order in which they were
admitted. -/
structure System.Turns (s : System β σ π) (b : β) (queue : BunEventQueue) (line : List Place) :
    Prop where
  serves : queue.state.Serves line
  tickets : (line.map Place.ticket).Nodup
  ordered : line.Pairwise (fun x y => x.serial < y.serial)
  mem : ∀ x, x ∈ line ↔ ∃ p, s.publishes[x.number]? = some p ∧ p.binding = b ∧
    p.finished = false ∧ x = p.place x.number
  first : ∀ (n : Nat) (p : Publish β), s.publishes[n]? = some p → p.binding = b →
    p.finished = false → p.permit.turn = false → line.head? = some (p.place n)

structure System.InTurn (s : System β σ π) : Prop where
  bound : ∀ (n : Nat) (p : Publish β), s.publishes[n]? = some p →
    ∃ queue, s.queues p.binding = some queue
  line : ∀ b queue, s.queues b = some queue → ∃ line, s.Turns b queue line
  serial : ∀ (n : Nat) (p : Publish β), s.publishes[n]? = some p → p.serial < s.admitted p.binding
  started : ∀ (n : Nat) (p : Publish β), s.publishes[n]? = some p → p.permit.started = true →
    p.permit.turn = false

section

variable {s s' : System β σ π} {b : β} {n : Nat} {p : Publish β} {queue : BunEventQueue}
  {line : List Place}

/-- What happens to the publishes of other bindings does not matter. -/
theorem System.Turns.of_same (h : s.Turns b queue line)
    (hsame : ∀ (m : Nat) (p : Publish β), p.binding = b →
      (s'.publishes[m]? = some p ↔ s.publishes[m]? = some p)) : s'.Turns b queue line := by
  refine ⟨h.serves, h.tickets, h.ordered, fun x => ?_, fun m p hp hb => ?_⟩
  · rw [h.mem x]
    constructor
    · grind
    · grind
  · exact h.first m p ((hsame m p hb).mp hp) hb

theorem System.Turns.place_mem (h : s.Turns b queue line) (hp : s.publishes[n]? = some p)
    (hb : p.binding = b) (hopen : p.finished = false) : p.place n ∈ line :=
  (h.mem _).mpr ⟨p, hp, hb, hopen, rfl⟩

/-- The publish with the turn begins its call: the line stays as it is. -/
theorem System.Turns.begun (h : s.Turns b queue line) {wire : Threads σ π}
    (hp : s.publishes[n]? = some p) (hb : p.binding = b) (hopen : p.finished = false)
    (hgrants : queue.grants n p.permit = true) : (s.begun n p wire).Turns b queue line := by
  have hpublishes : ∀ m : Nat, (s.begun n p wire).publishes[m]? =
      if n = m then some { p with permit := p.permit.begun } else s.publishes[m]? :=
    fun m => getElem?_insert_nat _ _ _ _
  refine ⟨h.serves, h.tickets, h.ordered, fun x => ?_, fun m p' hp' hb' hopen' hturn => ?_⟩
  · rw [h.mem x, hpublishes]
    split
    · next hn =>
        subst hn
        rw [hp]
        constructor
        · rintro ⟨p', hp', hrest⟩
          cases hp'
          exact ⟨_, rfl, hrest⟩
        · rintro ⟨p', hp', hrest⟩
          cases hp'
          exact ⟨_, rfl, hrest⟩
    · exact Iff.rfl
  · rw [hpublishes] at hp'
    split at hp'
    · next hn =>
        subst hn
        cases hp'
        change line.head? = some (p.place n)
        cases hwaits : p.permit.turn with
        | false => exact h.first n p hp hb hopen hwaits
        | true => exact h.serves.first (h.place_mem hp hb hopen) hwaits hgrants
    · exact h.first m p' hp' hb' hopen' hturn

theorem System.Turns.leave (h : s.Turns b queue line) (hp : s.publishes[n]? = some p)
    (hb : p.binding = b) (hopen : p.finished = false)
    (hstarted : p.permit.started = true → p.permit.turn = false)
    (hothers : ∀ (m : Nat) (p' : Publish β), p'.finished = false →
      (s'.publishes[m]? = some p' ↔ m ≠ n ∧ s.publishes[m]? = some p')) :
    s'.Turns b (queue.release p.permit.ticket p.permit.started) (line.erase (p.place n)) := by
  have hmem := h.place_mem hp hb hopen
  have hnodup : line.Nodup := List.Nodup.of_map _ h.tickets
  refine ⟨?_, ?_, ?_, fun x => ?_, fun m p' hp' hb' hopen' hturn => ?_⟩
  · exact h.serves.release h.tickets hmem fun hs => h.first n p hp hb hopen (hstarted hs)
  · exact h.tickets.sublist (List.erase_sublist.map _)
  · exact h.ordered.sublist List.erase_sublist
  · rw [hnodup.mem_erase_iff, h.mem x]
    constructor
    · grind
    · rintro ⟨p', hp', hb', hopen', heq⟩
      obtain ⟨hne, hp'⟩ := (hothers _ p' hopen').mp hp'
      refine ⟨?_, p', hp', hb', hopen', heq⟩
      rintro rfl
      exact hne rfl
  · obtain ⟨hne, hp'⟩ := (hothers m p' hopen').mp hp'
    have hhead := h.first m p' hp' hb' hopen' hturn
    cases line with
    | nil => cases hhead
    | cons =>
      cases hhead
      have hplace : p'.place m ≠ p.place n := fun heq => hne (congrArg Place.number heq)
      rw [List.erase_cons_tail (by simpa using hplace)]
      rfl

/-- Of two publishes of a binding, the one that has its turn was admitted first. -/
theorem System.InTurn.serial_lt (h : s.InTurn) {m : Nat} {p' : Publish β}
    (hp : s.publishes[n]? = some p) (hcalling : p.calling = true) (hp' : s.publishes[m]? = some p')
    (hopen : p'.finished = false) (hb : p'.binding = p.binding) (hne : m ≠ n) :
    p.serial < p'.serial := by
  obtain ⟨hstarted, hfinished⟩ := calling_iff.mp hcalling
  obtain ⟨queue, hqueue⟩ := h.bound n p hp
  obtain ⟨line, hline⟩ := h.line _ queue hqueue
  have hhead := hline.first n p hp rfl hfinished (h.started n p hp hstarted)
  have hmem := hline.place_mem hp' hb hopen
  have hordered := hline.ordered
  cases line with
  | nil => cases hhead
  | cons =>
    cases hhead
    rcases List.mem_cons.mp hmem with heq | hmem
    · exact absurd (congrArg Place.number heq) hne
    · exact (List.pairwise_cons.mp hordered).1 _ hmem

theorem System.InTurn.eq_of_calling (h : s.InTurn) {m : Nat} {p' : Publish β}
    (hp : s.publishes[n]? = some p) (hcalling : p.calling = true) (hp' : s.publishes[m]? = some p')
    (hcalling' : p'.calling = true) (hb : p'.binding = p.binding) : m = n := by
  by_contra hne
  have hlt := h.serial_lt hp hcalling hp' (calling_iff.mp hcalling').2 hb hne
  have hgt := h.serial_lt hp' hcalling' hp (calling_iff.mp hcalling).2 hb.symm (Ne.symm hne)
  omega

end

/-! ## The turns along a run -/

section

variable [DecidableEq β] {W : Wire σ π κ} {s s' : System β σ π} {a : Act β π κ} {b : β} {n : Nat}
  {p : Publish β} {queue queue' : BunEventQueue} {permit : BunEventPermit} {line : List Place}

/-- No publish is admitted under a ticket that another one of its binding still has. -/
def freshTicket (s : System β σ π) : Act β π κ → Prop
  | .publish _ b _ _ _ => ∀ (n : Nat) (p : Publish β), s.publishes[n]? = some p →
      p.binding = b ∧ p.finished = false →
      (s.queues b).map (fun queue => queue.state.nextTicket) ≠ some p.permit.ticket
  | _ => True

instance : ∀ (s : System β σ π) (a : Act β π κ), Decidable (freshTicket s a)
  | s, .publish _ b _ _ _ => decidablePool s.publishes fun _ p => p.binding = b ∧ p.finished = false →
      (s.queues b).map (fun queue => queue.state.nextTicket) ≠ some p.permit.ticket
  | _, .begin _ | _, .drop _ | _, .finish _ | _, .wire _ => isTrue trivial

theorem System.Turns.enter (h : s.Turns b queue line) {call : Call}
    (hserial : ∀ x ∈ line, x.serial < s.admitted b) (hfree : s.publishes[n]? = none)
    (hacquired : queue.tryAcquire n = some (queue', permit))
    (hfresh : ∀ x ∈ line, x.ticket ≠ permit.ticket) :
    (s.enter n b call queue' permit).Turns b queue' (line ++ [⟨permit.ticket, n, s.admitted b⟩]) := by
  have hpublishes : ∀ m : Nat, (s.enter n b call queue' permit).publishes[m]? =
      if n = m then some ⟨b, s.admitted b, call, permit, false⟩ else s.publishes[m]? :=
    fun m => getElem?_insert_nat _ _ _ _
  refine ⟨h.serves.tryAcquire hacquired _, ?_, ?_, fun x => ?_, fun m p hp hb hopen hturn => ?_⟩
  · rw [List.map_append, List.nodup_append]
    refine ⟨h.tickets, List.nodup_singleton _, ?_⟩
    rintro _ hmem _ hnew rfl
    obtain ⟨x, hx, hticket⟩ := List.mem_map.mp hmem
    rw [List.map_singleton, List.mem_singleton] at hnew
    exact hfresh x hx (hticket.trans hnew)
  · rw [List.pairwise_append]
    refine ⟨h.ordered, List.pairwise_singleton _ _, ?_⟩
    intro x hx y hy
    rw [List.mem_singleton.mp hy]
    exact hserial x hx
  · rw [List.mem_append, List.mem_singleton, h.mem x, hpublishes]
    constructor
    · rintro (⟨p, hp, hrest⟩ | rfl)
      · grind
      · exact ⟨_, if_pos rfl, rfl, rfl, rfl⟩
    · rintro ⟨p, hp, hb, hopen, heq⟩
      split at hp
      · next hn =>
          cases hp
          right
          rw [heq, ← hn]
          rfl
      · exact .inl ⟨p, hp, hb, hopen, heq⟩
  · rw [hpublishes] at hp
    split at hp
    · next hn =>
        cases hp
        -- it does not wait, so nobody is served
        have hserving : queue.state.serving = none := by
          rw [tryAcquire_permit hacquired] at hturn
          exact Option.not_isSome_iff_eq_none.mp (Bool.eq_false_iff.mp hturn)
        cases hline : line with
        | nil => rw [← hn]; rfl
        | cons =>
          rw [h.serves.serving, hline] at hserving
          cases hserving
    · have hhead := h.first m p hp hb hopen hturn
      rw [List.head?_append, hhead]
      rfl

theorem System.InTurn.enter (h : s.InTurn) {call : Call} (hfree : s.publishes[n]? = none)
    (hbound : s.queues b = some queue) (hacquired : queue.tryAcquire n = some (queue', permit))
    (hfresh : ∀ (m : Nat) (p : Publish β), s.publishes[m]? = some p →
      p.binding = b ∧ p.finished = false → p.permit.ticket ≠ permit.ticket) :
    (s.enter n b call queue' permit).InTurn := by
  have hpublishes : ∀ (m : Nat) (p : Publish β),
      (s.enter n b call queue' permit).publishes[m]? = some p →
      (n = m ∧ p = ⟨b, s.admitted b, call, permit, false⟩) ∨ n ≠ m ∧ s.publishes[m]? = some p := by
    grind [System.enter, getElem?_insert_nat]
  refine ⟨fun m p hp => ?_, fun b' queue₁ hqueue => ?_, fun m p hp => ?_, fun m p hp => ?_⟩
  · change ∃ queue, Function.update s.queues b (some queue') p.binding = some queue
    by_cases hb : p.binding = b
    · grind
    · rw [Function.update_of_ne hb]
      rcases hpublishes m p hp with ⟨-, rfl⟩ | ⟨-, hp⟩
      · exact absurd rfl hb
      · exact h.bound m p hp
  · change Function.update s.queues b (some queue') b' = some queue₁ at hqueue
    by_cases hb : b' = b
    · subst hb
      rw [Function.update_self] at hqueue
      cases hqueue
      obtain ⟨line, hline⟩ := h.line b' queue hbound
      refine ⟨_, hline.enter (fun x hx => ?_) hfree hacquired fun x hx => ?_⟩
      · obtain ⟨p, hp, rfl, -, heq⟩ := (hline.mem x).mp hx
        rw [heq]
        exact h.serial _ p hp
      · obtain ⟨p, hp, hb, hopen, heq⟩ := (hline.mem x).mp hx
        rw [heq]
        exact hfresh _ p hp ⟨hb, hopen⟩
    · rw [Function.update_of_ne hb] at hqueue
      obtain ⟨line, hline⟩ := h.line b' queue₁ hqueue
      refine ⟨line, hline.of_same fun m p hp => ⟨fun hm => ?_, fun hm => ?_⟩⟩
      · grind
      · have hne : n ≠ m := by
          rintro rfl
          rw [hfree] at hm
          cases hm
        exact (getElem?_insert_nat _ _ _ _).trans ((if_neg hne).trans hm)
  · change p.serial < Function.update s.admitted b (s.admitted b + 1) p.binding
    rcases hpublishes m p hp with ⟨-, rfl⟩ | ⟨-, hp⟩
    · grind
    · have hlt := h.serial m p hp
      by_cases hb : p.binding = b
      · grind
      · rw [Function.update_of_ne hb]
        exact hlt
  · rcases hpublishes m p hp with ⟨-, rfl⟩ | ⟨-, hp⟩
    · rw [tryAcquire_permit hacquired]
      exact nofun
    · exact h.started m p hp

theorem System.InTurn.begun (h : s.InTurn) {wire : Threads σ π} (hp : s.publishes[n]? = some p)
    (hbound : s.queues p.binding = some queue) (hwaiting : p.waiting = true)
    (hgrants : queue.grants n p.permit = true) : (s.begun n p wire).InTurn := by
  obtain ⟨-, hopen⟩ := waiting_iff.mp hwaiting
  have hpublishes : ∀ (m : Nat) (p' : Publish β), (s.begun n p wire).publishes[m]? = some p' →
      (n = m ∧ p' = { p with permit := p.permit.begun }) ∨ n ≠ m ∧ s.publishes[m]? = some p' := by
    grind [System.begun, getElem?_insert_nat]
  refine ⟨fun m p' hp' => ?_, fun b' queue₁ hqueue => ?_, fun m p' hp' => ?_, fun m p' hp' => ?_⟩
  · rcases hpublishes m p' hp' with ⟨-, rfl⟩ | ⟨-, hp'⟩
    · exact ⟨queue, hbound⟩
    · exact h.bound m p' hp'
  · obtain ⟨line, hline⟩ := h.line b' queue₁ hqueue
    by_cases hb : p.binding = b'
    · subst hb
      cases hbound.symm.trans hqueue
      exact ⟨line, hline.begun hp rfl hopen hgrants⟩
    · refine ⟨line, hline.of_same fun m p' hb' => ⟨fun hm => ?_, fun hm => ?_⟩⟩
      · grind
      · have hne : n ≠ m := by grind
        exact (getElem?_insert_nat _ _ _ _).trans ((if_neg hne).trans hm)
  · rcases hpublishes m p' hp' with ⟨-, rfl⟩ | ⟨-, hp'⟩
    · exact h.serial n p hp
    · exact h.serial m p' hp'
  · rcases hpublishes m p' hp' with ⟨-, rfl⟩ | ⟨-, hp'⟩
    · exact fun _ => rfl
    · exact h.started m p' hp'

theorem System.InTurn.leave (h : s.InTurn) (hp : s.publishes[n]? = some p)
    (hbound : s.queues p.binding = some queue) (hopen : p.finished = false)
    (hqueues : s'.queues = Function.update s.queues p.binding
      (some (queue.release p.permit.ticket p.permit.started)))
    (hadmitted : s'.admitted = s.admitted)
    (hn : ∀ p', s'.publishes[n]? = some p' → p' = { p with finished := true })
    (hothers : ∀ m : Nat, m ≠ n → s'.publishes[m]? = s.publishes[m]?) : s'.InTurn := by
  have hpublishes : ∀ (m : Nat) (p' : Publish β), s'.publishes[m]? = some p' →
      p' = { p with finished := true } ∨ m ≠ n ∧ s.publishes[m]? = some p' := by grind
  refine ⟨fun m p' hp' => ?_, fun b' queue₁ hqueue => ?_, fun m p' hp' => ?_, fun m p' hp' => ?_⟩
  · rw [hqueues]
    by_cases hb : p'.binding = p.binding
    · grind
    · rw [Function.update_of_ne hb]
      rcases hpublishes m p' hp' with rfl | ⟨-, hp'⟩
      · exact absurd rfl hb
      · exact h.bound m p' hp'
  · rw [hqueues] at hqueue
    by_cases hb : b' = p.binding
    · subst hb
      rw [Function.update_self] at hqueue
      cases hqueue
      obtain ⟨line, hline⟩ := h.line _ queue hbound
      refine ⟨_, hline.leave hp rfl hopen (h.started n p hp) fun m p' hopen' => ⟨fun hm => ?_, ?_⟩⟩
      · grind
      · grind
    · rw [Function.update_of_ne hb] at hqueue
      obtain ⟨line, hline⟩ := h.line b' queue₁ hqueue
      refine ⟨line, hline.of_same fun m p' hb' => ⟨fun hm => ?_, fun hm => ?_⟩⟩
      · grind
      · grind
  · rw [hadmitted]
    rcases hpublishes m p' hp' with rfl | ⟨-, hp'⟩
    · exact h.serial n p hp
    · exact h.serial m p' hp'
  · grind [h.started]

/-- **The turns are kept by every step.** -/
theorem System.InTurn.step (h : s.InTurn) (hfresh : freshTicket s a) (hstep : Steps W s a s') :
    s'.InTurn := by
  cases hstep with
  | publish n b requestId operation call queue queue' permit hfree hbound hacquired =>
    refine h.enter hfree hbound hacquired fun m p hp hopen heq => ?_
    refine hfresh m p hp hopen ?_
    rw [hbound, heq, tryAcquire_permit hacquired]
    rfl
  | begin n p queue wire hp hbound hwaiting hgrants => exact h.begun hp hbound hwaiting hgrants
  | drop n p queue hp hbound hwaiting =>
    obtain ⟨-, hopen⟩ := waiting_iff.mp hwaiting
    refine h.leave hp hbound hopen rfl rfl (fun p' hp' => ?_) fun m hm => ?_
    · simp only [System.dropped, getElem?_erase_nat, if_true] at hp'
      cases hp'
    · simp only [System.dropped, getElem?_erase_nat, if_neg (Ne.symm hm), System.setQueue]
  | finish n p queue pc hp hbound hcalling =>
    obtain ⟨-, hopen⟩ := calling_iff.mp hcalling
    refine h.leave hp hbound hopen rfl rfl (fun p' hp' => ?_) fun m hm => ?_
    · simp only [System.finished, getElem?_insert_nat, if_true] at hp'
      exact (Option.some.inj hp').symm
    · simp only [System.finished, getElem?_insert_nat, if_neg (Ne.symm hm), System.setQueue]
  | wire =>
    refine ⟨h.bound, fun b queue hqueue => ?_, h.serial, h.started⟩
    obtain ⟨line, hline⟩ := h.line b queue hqueue
    exact ⟨line, hline.of_same fun m p _ => Iff.rfl⟩

theorem System.InTurn.init (codecs : β → Codec) (bindings : List (β × Nat)) (wire : Threads σ π) :
    (System.init codecs bindings wire).InTurn := by
  refine ⟨nofun, fun b queue hqueue => ?_, nofun, nofun⟩
  obtain ⟨capacity, -, rfl⟩ := eventQueues_some hqueue
  exact ⟨[], serves_new capacity, List.nodup_nil, .nil, fun x => ⟨nofun, nofun⟩, nofun⟩

end

end LensoBun.Adapter
