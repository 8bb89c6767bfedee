import LensoBun.Transport.Framed

set_option autoImplicit false

/-! # One id, one call

Requests and events are answered by the same `Response` frames, and the reader looks for the call
of an answer in `pending` and then in `event_pending`. So an id must not stand for a request and an
event at once. `call_on` looks for the id in the registry of its own lane, in `cancelled` and in
`retired`; it does not look into the other registry, and while the reader carries an answer from the
registry to the call the id is in none of the three.

A call is outstanding as long as the sender of its oneshot channel is there: in a registry, or with
the reader. The argument is that such a call is the last one its id was given to.
-/

namespace LensoBun.Transport.Framed

open Std Lib

variable {V : Type}

/-! ## Outstanding calls -/

/-- The id and the call of an answer that the reader has taken from a registry and not sent yet. -/
def Pc.delivers : Pc V → Option (Key × Nat)
  | .reader (.retire key (some (call, _))) | .reader (.deliver key call _) => some (key, call)
  | _ => none

/-- The call of thread `t` waits for a response under the id. -/
def Outstanding (c : Threads (Shared V) (Pc V)) (key : Key) (t : Nat) : Prop :=
  (∃ lane, lane.group = key.1 ∧ (c.shared.pending.get lane)[key.2]? = some t) ∨
  ∃ (r : Nat) (pc : Pc V), c.pool[r]? = some pc ∧ pc.delivers = some (key, t)

/-! ## The condition -/

/-- The registry `call_on` does not look into has an entry under the id of the call. -/
def takenByOther (s : Shared V) (call : Call) : Bool :=
  match call.lane with
  | .request => s.pending.event[call.requestId]?.isSome
  | .event => s.pending.request[call.requestId]?.isSome
  | .stream => false

/-- A call is put into its registry only when the other one has no entry under its id. -/
def admitsFree (s : Shared V) : Pc V → Bool
  | .caller (.insert call) => !takenByOther s call
  | _ => true

/-- And only when no other thread carries an answer under its id. -/
def admitsBeside (other : Pc V) : Pc V → Bool
  | .caller (.insert call) => decide (other.delivers.map Prod.fst ≠ some call.key)
  | _ => true

/-- Thread `t` makes the call `calls t`. -/
def makes (calls : Nat → Call) (t : Nat) : Pc V → Bool
  | .caller (.enter call) => decide (call = calls t)
  | _ => true

def looksEverywhere (calls : Nat → Call) : Guard (Shared V) (Pc V) (Input V) where
  self s _ pc _ := admitsFree s pc = true
  other _ _ pc _ _ pc' := admitsBeside pc' pc = true
  start _ t pc := makes calls t pc = true

instance (calls : Nat → Call) (c : Threads (Shared V) (Pc V)) (a : Act (Pc V) (Input V)) :
    Decidable ((looksEverywhere calls).Allows c a) := Guard.decidable c a

/-! ## The outline -/

/-- The call with which a thread is on its way to its registry. -/
def Pc.admitting : Pc V → Option Call
  | .caller (.enter call) | .caller (.encode call) | .caller (.insert call) => some call
  | _ => none

/-- The id has been given to the call of thread `u` last, and it is the id of this call. -/
def Owns (calls : Nat → Call) (s : Shared V) (key : Key) (u : Nat) : Prop :=
  s.trace.owner key = some u ∧ (calls u).key = key

structure OwnedIds (calls : Nat → Call) (s : Shared V) : Prop where
  entries : ∀ (lane : Lane) (id u : Nat), (s.pending.get lane)[id]? = some u →
    Owns calls s (lane.group, id) u
  handled : ∀ key u, (key, some u) ∈ s.trace.handled → (calls u).key = key

def ownedAt (calls : Nat → Call) (s : Shared V) (t : Nat) (pc : Pc V) : Prop :=
  (∀ call, pc.admitting = some call → call = calls t) ∧
  ∀ key u, pc.delivers = some (key, u) → Owns calls s key u

section Steps

variable {calls : Nat → Call} {s s' : Shared V} {t : Nat} {pc pc' : Pc V} {k : Input V}

/-- A call that passes the check finds its id in none of the registries of its group. -/
theorem no_entry_of_check {call : Call} (hcheck : insertCheck s call = none)
    (hother : takenByOther s call = false) {lane : Lane} (hgroup : lane.group = call.lane.group) :
    (s.pending.get lane)[call.requestId]? = none := by
  have hown : (s.pending.get call.lane)[call.requestId]? = none := by
    grind [insertCheck, callOnCheck, streamRequestCheck]
  by_cases hsame : lane = call.lane
  · rw [hsame]
    exact hown
  · -- then the lanes are those of requests and events, and the other registry was looked into
    have hnone : ∀ registry : PendingResponses, registry[call.requestId]?.isSome = false →
        registry[call.requestId]? = none :=
      fun registry h => Option.isNone_iff_eq_none.mp (by rwa [← Option.not_isSome, Bool.not_eq_true'])
    unfold takenByOther at hother
    cases hlane : call.lane <;> rw [hlane] at hgroup hother hsame <;> cases lane <;>
      first | exact absurd rfl hsame | exact hnone _ hother | cases hgroup

theorem entry_of_move (h : Moves s t pc k s' pc') {lane : Lane} {id u : Nat}
    (he : (s'.pending.get lane)[id]? = some u) :
    (s.pending.get lane)[id]? = some u ∨
      ∃ call, pc = .caller (.insert call) ∧ u = t ∧ call.lane = lane ∧ call.requestId = id := by
  cases h with
  | insert call => grind [Shared.insertCall, getElem?_set_insert]
  | undoFull | undoStopped | takeRequest | takeEvent | takeStream | answerRequest | answerEvent
  | answerStream => exact .inl (getElem?_of_set_erase he)
  | failPending | failEvent | failStream => exact .inl (getElem?_of_set_empty he)
  | _ => exact .inl he

theorem owner_move (h : Moves s t pc k s' pc') :
    (∃ call, pc = .caller (.insert call) ∧ insertCheck s call = none ∧
      s'.trace.owner = Function.update s.trace.owner call.key (some t)) ∨
    ((∀ call, pc = .caller (.insert call) → s'.pending = s.pending) ∧
      s'.trace.owner = s.trace.owner) := by
  cases h with
  | insert call k check => exact .inl ⟨call, rfl, check, rfl⟩
  | insertRefused => exact .inr ⟨fun _ _ => rfl, rfl⟩
  | _ => exact .inr ⟨nofun, rfl⟩

theorem delivered_move (h : Moves s t pc k s' pc') {key : Key} {u : Nat}
    (hmem : (key, some u) ∈ s'.trace.handled) :
    (key, some u) ∈ s.trace.handled ∨ pc.delivers = some (key, u) := by
  cases h with
  | retireLate =>
    rcases List.mem_append.mp hmem with h | h
    · exact .inl h
    · simp at h
  | deliver =>
    rcases List.mem_append.mp hmem with h | h
    · exact .inl h
    · simp only [List.mem_singleton, Prod.mk.injEq, Option.some.injEq] at h
      obtain ⟨rfl, rfl⟩ := h
      exact .inr rfl
  | _ => exact .inl hmem

theorem delivers_move (h : Moves s t pc k s' pc') {key : Key} {u : Nat}
    (hdelivers : pc'.delivers = some (key, u)) :
    pc.delivers = some (key, u) ∨
      ∃ lane : Lane, lane.group = key.1 ∧ (s.pending.get lane)[key.2]? = some u := by
  cases h with
  | answerRequest id u' outcome k found =>
    cases hdelivers
    exact .inr ⟨.request, rfl, found⟩
  | answerEvent id u' outcome k found =>
    cases hdelivers
    exact .inr ⟨.event, rfl, found⟩
  | answerStream id u' outcome k found =>
    cases hdelivers
    exact .inr ⟨.stream, rfl, found⟩
  | retireAnswered => exact .inl hdelivers
  | killed failure after | notify failure after => cases after <;> cases hdelivers
  | _ => cases hdelivers

theorem admitting_move (h : Moves s t pc k s' pc') {call : Call}
    (hcall : pc'.admitting = some call) : pc.admitting = some call := by
  cases h with
  | enter | encode => exact hcall
  | killed failure after | notify failure after => cases after <;> cases hcall
  | _ => cases hcall

theorem OwnedIds.move (hs : OwnedIds calls s) (hat : ownedAt calls s t pc)
    (hg : (looksEverywhere calls).self s t pc k) (h : Moves s t pc k s' pc') :
    OwnedIds calls s' ∧ ownedAt calls s' t pc' := by
  have hhandled : ∀ key u, (key, some u) ∈ s'.trace.handled → (calls u).key = key := by
    intro key u hmem
    rcases delivered_move h hmem with hmem | hdelivers
    · exact hs.handled key u hmem
    · exact (hat.2 key u hdelivers).2
  have hadmitting : ∀ call, pc'.admitting = some call → call = calls t :=
    fun call hcall => hat.1 call (admitting_move h hcall)
  rcases owner_move h with ⟨call, rfl, hcheck, howner⟩ | ⟨hpending, howner⟩
  · obtain rfl : call = calls t := hat.1 call rfl
    refine ⟨⟨fun lane id u he => ?_, hhandled⟩, hadmitting, fun key u hdelivers => ?_⟩
    · unfold Owns
      rw [howner]
      rcases entry_of_move h he with hold | ⟨call, hcall, rfl, rfl, rfl⟩
      · -- an older entry is under another id
        have hne : (lane.group, id) ≠ (calls t).key := by
          intro heq
          obtain ⟨hgroup, rfl⟩ := Prod.mk.inj heq
          rw [no_entry_of_check hcheck (Bool.not_eq_true' _ ▸ hg) hgroup] at hold
          cases hold
        rw [Function.update_of_ne hne]
        exact hs.entries lane id u hold
      · cases hcall
        exact ⟨Function.update_self .., rfl⟩
    · -- a caller carries nothing
      cases h <;> cases hdelivers
  · have hkeep : ∀ {key u}, Owns calls s key u → Owns calls s' key u := by
      intro key u hown
      exact ⟨(congrFun howner key).trans hown.1, hown.2⟩
    refine ⟨⟨fun lane id u he => ?_, hhandled⟩, hadmitting, fun key u hdelivers => ?_⟩
    · rcases entry_of_move h he with hold | ⟨call, rfl, -, -, -⟩
      · exact hkeep (hs.entries lane id u hold)
      · rw [hpending call rfl] at he
        exact hkeep (hs.entries lane id u he)
    · rcases delivers_move h hdelivers with hold | ⟨lane, hgroup, hfound⟩
      · exact hkeep (hat.2 key u hold)
      · have hown := hs.entries lane key.2 u hfound
        rw [hgroup] at hown
        exact hkeep hown

/-- What another thread carries keeps its owner: no call is admitted under its id. -/
theorem ownedAt_other {u : Nat} {pcU : Pc V} (hat : ownedAt calls s u pcU)
    (hg : (looksEverywhere calls).other s t pc k u pcU) (h : Moves s t pc k s' pc') :
    ownedAt calls s' u pcU := by
  refine ⟨hat.1, fun key v hdelivers => ?_⟩
  have hown := hat.2 key v hdelivers
  refine ⟨?_, hown.2⟩
  rcases owner_move h with ⟨call, rfl, -, howner⟩ | ⟨-, howner⟩
  · have hne : key ≠ call.key := by
      rintro rfl
      exact of_decide_eq_true hg (by rw [hdelivers]; rfl)
    rw [howner, Function.update_of_ne hne]
    exact hown.1
  · rw [howner]
    exact hown.1

end Steps

theorem owned_valid (calls : Nat → Call) :
    (Outline.plain (OwnedIds calls) (ownedAt calls)).Valid (program (V := V))
      (looksEverywhere calls) := by
  refine Outline.plain_valid ?_ ?_ ?_ ?_
  · intro s t pc k m hm
    exact (move_eq_some hm).2
  · intro s t pc _ hentry hstart
    refine ⟨fun call hcall => ?_, fun key u hdelivers => ?_⟩
    · cases pc with
      | caller pc =>
        cases pc with
        | enter =>
          cases hcall
          exact of_decide_eq_true hstart
        | _ => cases hentry
      | _ => cases hcall
    · cases pc with
      | reader => cases hentry
      | _ => cases hdelivers
  · intro s t pc k m hs hat hg hm
    exact hs.move hat hg (move_moves hm)
  · intro s t pc k m u pc' _ _ hat' _ _ hg hm
    exact ownedAt_other hat' hg (move_moves hm)

theorem owned_init (calls : Nat → Call) (queueCapacity eventQueueCapacity : Nat)
    (capability : String) :
    (Outline.plain (OwnedIds calls) (ownedAt calls)).Holds
      (init (V := V) queueCapacity eventQueueCapacity capability) := by
  refine Outline.plain_holds ⟨?_, nofun⟩ fun t pc hpc => ?_
  · intro lane id u he
    cases lane <;> cases he
  · rcases init_pool hpc with ⟨-, rfl⟩ | ⟨-, rfl⟩ <;> exact ⟨nofun, nofun⟩

/-- **An id stands for one call**, in every run in which a call is admitted only when neither the
other registry nor the reader has its id: two outstanding calls under one id are the same call, it is
the call whose frame carries the id, and every answer that has been handed over was handed to the
call with its id. -/
theorem outstanding_ids_are_distinct (calls : Nat → Call)
    (queueCapacity eventQueueCapacity : Nat) (capability : String)
    {acts : List (Act (Pc V) (Input V))} {c : Threads (Shared V) (Pc V)}
    (hids : Meets program.step (looksEverywhere calls).Allows
      (init queueCapacity eventQueueCapacity capability) acts)
    (hrun : run program.step (init queueCapacity eventQueueCapacity capability) acts = some c) :
    (∀ key t u, Outstanding c key t → Outstanding c key u → t = u) ∧
    (∀ key t, Outstanding c key t → (calls t).key = key) ∧
    ∀ key t, (key, some t) ∈ c.shared.trace.handled → (calls t).key = key := by
  obtain ⟨hs, hat, -⟩ := Outline.run (owned_valid calls)
    (owned_init calls queueCapacity eventQueueCapacity capability) hids hrun
  have howns : ∀ key t, Outstanding c key t → Owns calls c.shared key t := by
    rintro key t (⟨lane, hgroup, he⟩ | ⟨r, pc, hpc, hdelivers⟩)
    · have hown := hs.entries lane key.2 t he
      rwa [hgroup] at hown
    · exact (hat r pc hpc).2 key t hdelivers
  refine ⟨fun key t u ht hu => ?_, fun key t ht => (howns key t ht).2, hs.handled⟩
  exact Option.some.inj ((howns key t ht).1.symm.trans (howns key u hu).1)

/-! ## Sample runs -/

def storeRequest : Call := ⟨.request, 5, "example.store@1", "get"⟩

def storeEvent (id : Nat) : Call := ⟨.event, id, "example.store@1", "changed"⟩

/-- The call of thread `t` from the look at `alive` to its queued frame. -/
def queueing (t : Nat) (call : Call) : List (Act (Pc Nat) (Input Nat)) :=
  [.start t (.caller (.enter call)), .move t .go 0, .move t (.encoded true) 0, .move t .go 0,
    .move t .go 0]

/-- The writer finds no control frame and writes the first event. -/
def writesEvent : List (Act (Pc Nat) (Input Nat)) :=
  [.move 0 .go 0, .move 0 .go 0, .move 0 (.written none) 0]

/-- Thread 2 makes the request, the others make the event. -/
def storeCalls (t : Nat) : Call := if t = 2 then storeRequest else storeEvent 6

theorem outstanding_ids_are_distinct_sample :
    let acts := queueing 2 storeRequest ++ queueing 3 (storeEvent 6) ++ writesEvent ++
      [.move 1 (.read (.response 6 10)) 0, .move 1 .go 0, .move 1 .go 0]
    let c := (run program.step (init 1 1 "example.store@1") acts).get (by decide +kernel)
    Outstanding c (.call, 6) 3 ∧ Outstanding c (.call, 5) 2 ∧
      ∀ t, Outstanding c (.call, 6) t → t = 3 := by
  intro acts c
  have hevent : Outstanding c (.call, 6) 3 :=
    .inr ⟨1, .reader (.retire (.call, 6) (some (3, 10))), by decide +kernel, rfl⟩
  have hrequest : Outstanding c (.call, 5) 2 := .inl ⟨.request, rfl, by decide +kernel⟩
  have hdistinct := outstanding_ids_are_distinct (c := c) storeCalls 1 1 "example.store@1"
    (by decide +kernel) (run_get _)
  exact ⟨hevent, hrequest, fun t ht => hdistinct.1 _ t 3 ht hevent⟩

/-- A request and an event with one id are both admitted. The answer to the event, the only frame
the peer has been sent, resolves the request; the event stays outstanding. -/
theorem event_answer_resolves_request :
    ∃ c, run program.step (init 1 1 "example.store@1") (queueing 2 storeRequest ++
        queueing 3 (storeEvent 5)) = some c ∧
      (c.shared.pending.request[5]? = some 2 ∧ c.shared.pending.event[5]? = some 3) ∧
      ∃ c', run program.step c (writesEvent ++ [.move 1 (.read (.response 5 10)) 0,
          .move 1 .go 0, .move 1 .go 0, .move 1 .go 0]) = some c' ∧
        c'.shared.trace.written = [.call (storeEvent 5)] ∧
        c'.shared.slots[2]? = some (.answered 10) ∧ c'.shared.pending.event[5]? = some 3 := by
  refine exists_run (by decide +kernel) ⟨by decide +kernel, ?_⟩
  exact exists_run (by decide +kernel) (by decide +kernel)

end LensoBun.Transport.Framed
