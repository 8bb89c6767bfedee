import LensoBun.Adapter.FramedRoom
import LensoBun.Adapter.RpcEventOrder

set_option autoImplicit false

/-! # Room for the events on the JSON-RPC wire

An event takes its entry in `event_pending` and its place in the event channel. A call in the channel
carries the number of its thread, so no log is needed; the workers do not stop, so a send fails for want
of room only.
-/

namespace LensoBun.Adapter

open Std Lib Transport Transport.JsonRpc

variable {V : Type}

/-! ## The places -/

def rpcEntries : Places (Logged (Shared V) ChannelEvent) (Pc V) where
  held s := valueList s.state.pending.event
  before pc := pc.early && isEvent pc.made

def rpcQueue : Places (Logged (Shared V) ChannelEvent) (Pc V) where
  held s := s.state.eventFlags
  before := unsent

section

variable {s s' : Shared V} {t : Nat} {pc next : Pc V} {k : Input V}

theorem rpc_entry_of_move (h : Moves s t pc k s' next) {id u : Nat}
    (he : s'.pending.event[id]? = some u) :
    s.pending.event[id]? = some u ∨
      ∃ call, pc = .caller (.pending call) ∧ next = .caller (.send call) ∧ u = t ∧
        call.lane = .event ∧ call.requestId = id := by
  have he' : (s'.pending.get .event)[id]? = some u := he
  have htouch := moves_touch (m := ⟨s', next, none⟩) h
  simp only at htouch
  generalize callEvents s t pc k ⟨s', next, none⟩ = events at htouch
  generalize s'.pending = pending at htouch he'
  cases htouch with
  | keep => exact .inl he'
  | enter call hpc hnext =>
    rw [Shared.insertCall, getElem?_set_insert] at he'
    split at he'
    · grind
    · exact .inl he'
  | close | resolve => exact .inl (getElem?_of_set_erase he')
  | drain => exact .inl (getElem?_of_set_empty he')

theorem unsent_moves (h : Moves s t pc k s' next) (hunsent : unsent next = true) :
    unsent pc = true := by
  cases h with
  | killed failure after | notify failure after => cases after <;> cases hunsent
  | _ => first | exact hunsent | cases hunsent

theorem isEvent_made_moves (h : Moves s t pc k s' next)
    (hnext : (next.early && isEvent next.made) = true) : (pc.early && isEvent pc.made) = true := by
  rw [Bool.and_eq_true] at hnext ⊢
  exact ⟨early_moves h hnext.1, isEvent_of (fun call => made_moves h) hnext.2⟩

theorem unsent_of_early (h : (pc.early && isEvent pc.made) = true) : unsent pc = true := by
  rw [Bool.and_eq_true] at h
  obtain ⟨hearly, hevent⟩ := h
  cases pc with
  | caller pc' => cases pc' <;> first | exact hevent | cases hearly
  | _ => cases hearly

theorem not_unsent_of_entry (hentry : pc.starts = true) (hopens : jsonRpcOpens pc = false) :
    unsent pc = false := by
  cases pc with
  | caller pc' =>
    cases pc' with
    | enter => exact hopens
    | _ => cases hentry
  | _ => rfl

theorem not_unsent_of_ended (hended : jsonRpcEnded pc = true) : unsent pc = false := by
  cases pc with
  | caller => cases hended
  | _ => rfl

end

section

variable {s : Logged (Shared V) ChannelEvent} {t : Nat} {pc : Pc V} {k : Input V}
  {m' : Moved (Logged (Shared V) ChannelEvent) (Pc V)}

/-- What a step of the wire does to the entries of events and to where its thread stands: a worker
leaves both alone, and what it starts executes a call. -/
theorem jsonRpcWire_move (h : jsonRpcWire.program.move s t pc k = some m') :
    (∃ lane call, pc = .worker lane ∧ m'.next = .worker lane ∧
      m'.child = some (.execute (executeStart call)) ∧ m'.shared.state.pending = s.state.pending) ∨
    (Moves s.state t pc k m'.shared.state m'.next ∧ m'.child = none) := by
  obtain ⟨m, hm, rfl⟩ := logged_move h
  rcases move_cases hm with ⟨lane, call, ch, rfl, -, rfl⟩ | hmoves
  · exact .inl ⟨lane, call, rfl, rfl, rfl, rfl⟩
  · exact .inr hmoves

theorem rpc_before_next (h : jsonRpcWire.program.move s t pc k = some m')
    (hnext : unsent m'.next = true) : unsent pc = true := by
  rcases jsonRpcWire_move h with ⟨lane, call, rfl, hworker, -⟩ | ⟨hmoves, -⟩
  · rw [hworker] at hnext
    cases hnext
  · exact unsent_moves hmoves hnext

theorem rpc_before_child (h : jsonRpcWire.program.move s t pc k = some m') {pc' : Pc V}
    (hchild : m'.child = some pc') : unsent pc' = false := by
  rcases jsonRpcWire_move h with ⟨lane, call, -, -, hstarted, -⟩ | ⟨-, hnone⟩
  · rw [hstarted] at hchild
    cases hchild
    rfl
  · rw [hnone] at hchild
    cases hchild

theorem rpcEntries_sound : (rpcEntries (V := V)).Sound jsonRpcWire where
  entry pc hentry hopens := by
    have hnot := not_unsent_of_entry hentry hopens
    exact Bool.eq_false_iff.mpr fun hbefore => Bool.eq_false_iff.mp hnot (unsent_of_early hbefore)
  ended pc hended := by
    have hnot := not_unsent_of_ended hended
    exact Bool.eq_false_iff.mpr fun hbefore => Bool.eq_false_iff.mp hnot (unsent_of_early hbefore)
  next s t pc k m h hnext := by
    rcases jsonRpcWire_move h with ⟨lane, call, rfl, hworker, -⟩ | ⟨hmoves, -⟩
    · rw [hworker] at hnext
      cases hnext
    · exact isEvent_made_moves hmoves hnext
  child s t pc k m pc' h hchild := by
    have hnot := rpc_before_child h hchild
    exact Bool.eq_false_iff.mpr fun hbefore => Bool.eq_false_iff.mp hnot (unsent_of_early hbefore)
  held s t pc k m h u hu := by
    rcases jsonRpcWire_move h with ⟨lane, call, -, -, -, hpending⟩ | ⟨hmoves, -⟩
    · have hsame : rpcEntries.held m.shared = rpcEntries.held s :=
        congrArg (fun pending : PerLane PendingResponses => valueList pending.event) hpending
      exact .inl (hsame ▸ hu)
    · obtain ⟨id, hid⟩ := mem_valueList.mp hu
      rcases rpc_entry_of_move hmoves hid with hold | ⟨call, rfl, hnext, rfl, hlane, -⟩
      · exact .inl (mem_valueList.mpr ⟨id, hold⟩)
      · refine .inr ⟨rfl, decide_eq_true hlane, ?_⟩
        rw [hnext]
        rfl
  nodup s t pc k m h hnodup hnew := by
    rcases jsonRpcWire_move h with ⟨lane, call, -, -, -, hpending⟩ | ⟨hmoves, -⟩
    · have hsame : rpcEntries.held m.shared = rpcEntries.held s :=
        congrArg (fun pending : PerLane PendingResponses => valueList pending.event) hpending
      exact hsame ▸ hnodup
    · by_cases hinsert : ∃ call, pc = .caller (.pending call) ∧ call.lane = .event
      · obtain ⟨call, rfl, hlane⟩ := hinsert
        have hone : ∀ id u : Nat, m.shared.state.pending.event[id]? = some u →
            s.state.pending.event[id]? = some u ∨ (id = call.requestId ∧ u = t) := by
          grind [rpc_entry_of_move]
        exact nodup_valueList_of_new hone hnodup (hnew (decide_eq_true hlane))
      · refine nodup_valueList_of_old (fun id u hid => ?_) hnodup
        rcases rpc_entry_of_move hmoves hid with hold | ⟨call', hcall, -, -, hlane, -⟩
        · exact hold
        · exact absurd ⟨call', hcall, hlane⟩ hinsert

theorem eventFlags_move (h : jsonRpcWire.program.move s t pc k = some m') :
    m'.shared.state.eventFlags <:+ s.state.eventFlags ∨
      ∃ call, pc = .caller (.send call) ∧ m'.next = .caller (.holding call) ∧ call.lane = .event ∧
        m'.shared.state.eventFlags = s.state.eventFlags ++ [t] := by
  obtain ⟨m, hm, rfl⟩ := logged_move h
  have hsame : m.shared.senders.event = s.state.senders.event →
      m.shared.eventFlags <:+ s.state.eventFlags := by grind [Shared.eventFlags]
  cases move_eventMove hm with
  | keep hsenders | issue _ _ _ _ hsenders | retire _ _ _ _ hsenders => exact .inl (hsame hsenders)
  | send call hhere hlane hnext hitems => grind [Shared.eventFlags]
  | take call _ _ _ hitems => grind [Shared.eventFlags]

theorem rpcQueue_sound : (rpcQueue (V := V)).Sound jsonRpcWire where
  entry pc := not_unsent_of_entry
  ended pc := not_unsent_of_ended
  next s t pc k m := rpc_before_next
  child s t pc k m pc' h hchild := rpc_before_child h hchild
  held s t pc k m h u hu := by
    rcases eventFlags_move h with hsuffix | ⟨call, rfl, hnext, hlane, hflags⟩
    · exact .inl (hsuffix.subset hu)
    · have hmem : u ∈ s.state.eventFlags ++ [t] := hflags ▸ hu
      rcases List.mem_append.mp hmem with hold | hnew
      · exact .inl hold
      · refine .inr ⟨List.mem_singleton.mp hnew, decide_eq_true hlane, ?_⟩
        rw [hnext]
        rfl
  nodup s t pc k m h hnodup hnew := by
    rcases eventFlags_move h with hsuffix | ⟨call, rfl, hnext, hlane, hflags⟩
    · exact hnodup.sublist hsuffix.sublist
    · show m.shared.state.eventFlags.Nodup
      rw [hflags, ← List.concat_eq_append]
      exact hnodup.concat (hnew (decide_eq_true hlane))

end

/-! ## The rest of the transport -/

/-- The channel and the registry are of the size that `open_json_rpc` gives them, and the worker is
there. -/
structure RpcSized (capacity : Nat) (s : Logged (Shared V) ChannelEvent) : Prop where
  admission : s.state.admissionCapacity.event = capacity
  channel : s.state.senders.event.capacity = capacity
  connected : s.state.senders.event.connected = true

theorem RpcSized.move {capacity : Nat} {s : Logged (Shared V) ChannelEvent} {t : Nat} {pc : Pc V}
    {k : Input V} {m : Moved (Logged (Shared V) ChannelEvent) (Pc V)} (hs : RpcSized capacity s)
    (h : jsonRpcWire.program.move s t pc k = some m) : RpcSized capacity m.shared := by
  obtain ⟨m, hm, rfl⟩ := logged_move h
  -- what a send or a receive leaves of a channel
  have hset : ∀ (lane : Lane) (items : List HttpCall),
      ((s.state.senders.set lane { s.state.senders.get lane with items := items }).event.capacity =
        capacity) ∧
      (s.state.senders.set lane { s.state.senders.get lane with items := items }).event.connected =
        true := by
    intro lane items
    cases lane with
    | event => exact ⟨hs.channel, hs.connected⟩
    | _ => exact ⟨hs.channel, hs.connected⟩
  rcases move_cases hm with ⟨lane, call, ch, rfl, htaken, rfl⟩ | ⟨hmoves, -⟩
  · obtain ⟨rest, -, rfl⟩ := BoundedChannel.tryRecv_some htaken
    exact ⟨hs.admission, (hset lane rest).1, (hset lane rest).2⟩
  · obtain ⟨s', next, child⟩ := m
    have hmoves : Moves s.state t pc k s' next := hmoves
    cases hmoves with
    | queue call k ch hsent =>
      obtain ⟨-, -, rfl⟩ := BoundedChannel.trySend_ok hsent
      exact ⟨hs.admission, (hset call.lane _).1, (hset call.lane _).2⟩
    | _ => exact ⟨hs.admission, hs.channel, hs.connected⟩

def rpcSized (capacity : Nat) : Outline (Logged (Shared V) ChannelEvent) (Pc V) :=
  .plain (RpcSized capacity) fun _ _ _ => True

theorem rpcSized_valid (capacity : Nat) :
    (rpcSized (V := V) capacity).Valid jsonRpcWire.program Guard.any where
  start _ _ _ _ _ _ := trivial
  start_pair _ _ _ _ _ _ _ _ _ _ := ⟨trivial, trivial⟩
  move _ _ _ _ _ hs _ _ hm := ⟨hs.move hm, trivial⟩
  child _ _ _ _ _ _ _ _ _ _ _ _ _ := ⟨trivial, trivial, trivial⟩
  other _ _ _ _ _ _ _ _ _ _ _ _ _ _ _ _ := ⟨trivial, trivial, trivial⟩
  child_pair _ _ _ _ _ _ _ _ _ _ _ _ _ _ _ _ _ _ _ _ := ⟨trivial, trivial⟩

/-! ## Where a publish can stand -/

/-- The thread of a publish: it makes an event call and its send does not fail, and it is refused for
want of room only when the process is dead. -/
def rpcFine (s : Logged (Shared V) ChannelEvent) : Pc V → Prop
  | .caller (.refuse _) | .refused (.resourceExhausted _ _) => s.state.process.alive = false
  | .caller (.undoCancellation _ _) | .caller (.undoPending _ _) | .caller (.stopped _)
  | .dying _ _ (.caller _) => False
  | .caller (.holding _) => True
  | .caller pc => pc.call.lane = .event
  | _ => True

section

variable {s : Logged (Shared V) ChannelEvent} {t : Nat} {pc next : Pc V} {k : Input V} {capacity : Nat}

theorem rpcFine_after (after : After) (hafter : ∀ failure, after ≠ .caller failure) :
    rpcFine s after.pc := by
  cases after with
  | caller failure => exact absurd rfl (hafter failure)
  | _ => trivial

theorem not_caller_of_rpcFine {stage : Stage} {failure failure' : RuntimeFailure} {after : After}
    (h : rpcFine s (.dying stage failure after)) : after ≠ .caller failure' := by
  rintro rfl
  exact h

/-- A step of a publish that has room wherever it is about to take a place. -/
theorem rpcFine_move {s' : Shared V} {log' : List ChannelEvent} (hs : RpcSized capacity s)
    (hfine : rpcFine s pc)
    (hentries : (pc.early && isEvent pc.made) = true →
      (valueList s.state.pending.event).length < capacity)
    (hqueue : unsent pc = true → s.state.eventFlags.length < capacity)
    (h : Moves s.state t pc k s' next) : rpcFine ⟨s', log'⟩ next := by
  cases h with
  | enter | encode | notRetired | insertFlag | insertCall => exact hfine
  | enterDead call k dead => exact dead
  | refuse =>
    generalize s.state.process.refusal s.state.capability = failure
    cases failure with
    | resourceExhausted => exact hfine
    | _ => trivial
  | noRoom call k full =>
    have hlane : call.lane = .event := hfine
    have hroom := hentries (decide_eq_true hlane)
    rw [length_valueList] at hroom
    rw [hlane] at full
    have hfull : capacity ≤ s.state.pending.event.size := hs.admission ▸ full
    omega
  | sendFails call k error failed =>
    have hlane : call.lane = .event := hfine
    have hroom := hqueue (decide_eq_true hlane)
    rw [Shared.eventFlags, List.length_map, ← hs.channel] at hroom
    rw [hlane] at failed
    have hgone : s.state.senders.event.connected = false :=
      BoundedChannel.not_connected_of_error hroom failed
    rw [hs.connected] at hgone
    cases hgone
  | undoCancellation | undoFull | undoStopped | stopped => exact hfine.elim
  | killed failure after | notify failure after =>
    exact rpcFine_after after fun _ => not_caller_of_rpcFine hfine
  | kill failure after | store failure after | clearFlags failure after | failPending failure after
  | failEvent failure after | clearStreamFlags failure after | failStream failure after =>
    cases after with
    | caller => exact hfine
    | _ => trivial
  | _ => trivial

theorem rpcFine_other {s' : Logged (Shared V) ChannelEvent}
    (hdead : s.state.process.alive = false → s'.state.process.alive = false)
    (hfine : rpcFine s pc) : rpcFine s' pc := by
  cases pc with
  | caller pc =>
    cases pc with
    | refuse => exact hdead hfine
    | _ => exact hfine
  | dying stage failure after =>
    cases after with
    | caller => exact hfine
    | _ => trivial
  | refused failure =>
    cases failure with
    | resourceExhausted => exact hdead hfine
    | _ => trivial
  | _ => trivial

theorem rpc_dead_mono {m : Moved (Logged (Shared V) ChannelEvent) (Pc V)}
    (h : jsonRpcWire.program.move s t pc k = some m) (hdead : s.state.process.alive = false) :
    m.shared.state.process.alive = false := by
  obtain ⟨m, hm, rfl⟩ := logged_move h
  rcases move_cases hm with ⟨lane, call, ch, rfl, -, rfl⟩ | ⟨hmoves, -⟩
  · exact hdead
  · obtain ⟨s', next, child⟩ := m
    have hmoves : Moves s.state t pc k s' next := hmoves
    cases hmoves with
    | kill => rfl
    | _ => exact hdead

end

theorem rpc_welcomes (capacity : Nat) :
    Welcomes (jsonRpcWire (V := V)) rpcEntries rpcQueue capacity (rpcSized capacity) rpcFine where
  soundEntries := rpcEntries_sound
  soundQueue := rpcQueue_sound
  valid := rpcSized_valid capacity
  start s call hkind := congrArg CallKind.lane hkind
  move s t pc k m hs _ hfine hentries hqueue h := by
    rcases jsonRpcWire_move h with ⟨lane, call, rfl, hworker, -⟩ | ⟨hmoves, -⟩
    · rw [hworker]
      trivial
    · exact rpcFine_move hs hfine hentries hqueue hmoves
  other s t pc k m pc' h hfine := rpcFine_other (rpc_dead_mono h) hfine
  refusal s pc capability operation hfine hrefusal := by
    cases pc with
    | refused =>
      cases hrefusal
      exact hfine
    | _ => cases hrefusal

theorem rpc_roomy {β : Type} [DecidableEq β] (codecs : β → Codec) (bindings : List (β × Nat))
    (queueCapacity : Nat) (capability : String) :
    (rpcInit (V := V) codecs bindings queueCapacity capability).Roomy rpcEntries rpcQueue
      (rpcSized (eventQueueCapacity bindings)) rpcFine bindings := by
  have hcapacity : max (eventQueueCapacity bindings) 1 = eventQueueCapacity bindings :=
    Nat.max_eq_left (Nat.le_max_right _ _)
  refine .init codecs (Outline.plain_holds ⟨hcapacity, hcapacity, rfl⟩ fun _ _ _ => trivial) rfl rfl ?_
  intro t pc hpc
  simp only [Threads.logged, init, getElem?_insert_nat] at hpc
  repeat' split at hpc
  all_goals cases hpc <;> exact ⟨rfl, rfl⟩

/-! ## The theorem -/

/-- **On either wire a publish that has its turn is not refused for want of room while the process is
alive**, if no ticket is handed out again while its first owner has it and a publish ends only when its
event is neither in the event channel nor in `event_pending`. -/
theorem events_find_room {β : Type} [DecidableEq β] (codecs : β → Codec) (bindings : List (β × Nat))
    (queueCapacity : Nat) (capability : String) :
    (∀ (acts : List (Act β (Framed.Pc V) (Framed.Input V))) (s : FramedSystem β V),
      Meets (step framedWire) (endsEmpty framedEntries framedQueue)
        (framedInit codecs bindings queueCapacity capability) acts →
      run (step framedWire) (framedInit codecs bindings queueCapacity capability) acts = some s →
      framedWire.alive s.wire.shared = true → ¬ s.Exhausted framedWire) ∧
    ∀ (acts : List (Act β (Pc V) (Input V))) (s : RpcSystem β V),
      Meets (step jsonRpcWire) (endsEmpty rpcEntries rpcQueue)
        (rpcInit codecs bindings queueCapacity capability) acts →
      run (step jsonRpcWire) (rpcInit codecs bindings queueCapacity capability) acts = some s →
      jsonRpcWire.alive s.wire.shared = true → ¬ s.Exhausted jsonRpcWire := by
  refine ⟨fun acts s hends hrun halive => ?_, fun acts s hends hrun halive => ?_⟩
  · have hroomy := run_invariant_of_meets
      (fun _ _ _ h hends hstep => h.step (framed_welcomes _) hends hstep)
      (framed_roomy codecs bindings queueCapacity capability) hends hrun
    exact hroomy.not_exhausted (framed_welcomes _) halive
  · have hroomy := run_invariant_of_meets
      (fun _ _ _ h hends hstep => h.step (rpc_welcomes _) hends hstep)
      (rpc_roomy codecs bindings queueCapacity capability) hends hrun
    exact hroomy.not_exhausted (rpc_welcomes _) halive

/-! ## Sample runs -/

/-- One binding whose queue has room for three. -/
def framedSample : FramedSystem Unit Nat := framedInit sampleCodec [((), 3)] 1 "example.events@1"

def framedPublish (n : Nat) : Act Unit (Framed.Pc Nat) (Framed.Input Nat) :=
  .publish n () n "changed" none

/-- A publish that has its turn puts its event into the channel. -/
def framedSend (n : Nat) : List (Act Unit (Framed.Pc Nat) (Framed.Input Nat)) :=
  [.begin n, .wire (.move n .go 0), .wire (.move n (.encoded true) 0), .wire (.move n .go 0),
    .wire (.move n .go 0)]

/-- The writer writes the event, the reader reads its answer and publish `n` returns. -/
def framedAnswer (n : Nat) : List (Act Unit (Framed.Pc Nat) (Framed.Input Nat)) :=
  [.wire (.move 0 .go 0), .wire (.move 0 .go 0), .wire (.move 0 (.written none) 0),
    .wire (.move 1 (.read (.response n 0)) 0)] ++ List.replicate 4 (.wire (.move 1 .go 0)) ++
    [.wire (.move n .poll 0), .finish n]

/-- Two publishes of one binding, one after the other, on each wire. -/
theorem events_find_room_sample :
    (∃ s, run (step framedWire) framedSample ([framedPublish 10, framedPublish 11] ++ framedSend 10 ++
        framedAnswer 10 ++ framedSend 11) = some s ∧
      s.wire.pool[11]? = some (.caller (.holding ⟨.event, 11, "example.events@1", "changed"⟩)) ∧
      ¬ s.Exhausted framedWire) ∧
    ∃ s, run (step jsonRpcWire) sampleInit ([samplePublish 10, samplePublish 11] ++ sendActs 10 ++
        answerActs 10 20 ++ sendActs 11) = some s ∧
      s.wire.pool[11]? = some (.caller (.holding ⟨.event, 11, "example.events@1", "changed"⟩)) ∧
      ¬ s.Exhausted jsonRpcWire := by
  have hroom := events_find_room (V := Nat) sampleCodec [((), 3)] 1 "example.events@1"
  constructor
  · refine exists_run (by decide +kernel) ⟨by decide +kernel, ?_⟩
    exact hroom.1 _ _ (by decide +kernel) (run_get _) (by decide +kernel)
  · refine exists_run (by decide +kernel) ⟨by decide +kernel, ?_⟩
    exact hroom.2 _ _ (by decide +kernel) (run_get _) (by decide +kernel)

/-- The owner of a publish drops it with the event in the channel: the cancel takes the entry out, and
the publish ends. -/
def framedDrop (n : Nat) : List (Act Unit (Framed.Pc Nat) (Framed.Input Nat)) :=
  [.wire (.move n .drop 0)] ++ List.replicate 5 (.wire (.move n .go 0)) ++
    [.wire (.move n (.encoded true) 0), .finish n]

def rpcDrop (n : Nat) : List (Act Unit (Pc Nat) (Input Nat)) :=
  [.wire (.move n .drop 0)] ++ List.replicate 6 (.wire (.move n .go 0)) ++ [.finish n]

/-- **On either wire, an event that was dropped before it was taken from the channel keeps its place
there, and the next publish of the binding is refused although it has its turn.** -/
theorem dropped_event_keeps_its_place :
    (∃ acts s, Meets (step framedWire) freshTicket framedSample acts ∧
      run (step framedWire) framedSample acts = some s ∧ framedWire.alive s.wire.shared = true ∧
      s.Exhausted framedWire) ∧
    ∃ acts s, Meets (step jsonRpcWire) freshTicket sampleInit acts ∧
      run (step jsonRpcWire) sampleInit acts = some s ∧ jsonRpcWire.alive s.wire.shared = true ∧
      s.Exhausted jsonRpcWire := by
  let framedActs := [framedPublish 10, framedPublish 11] ++ framedSend 10 ++ framedDrop 10 ++
    framedSend 11 ++ [.wire (.move 11 .go 0)]
  let rpcActs := [samplePublish 10, samplePublish 11] ++ sendActs 10 ++ rpcDrop 10 ++ sendActs 11 ++
    [.wire (.move 11 .go 0), .wire (.move 11 .go 0)]
  let s := (run (step framedWire) framedSample framedActs).get (by decide +kernel)
  let r := (run (step jsonRpcWire) sampleInit rpcActs).get (by decide +kernel)
  have hrefused : s.wire.pool[11]? = some (.refused (.resourceExhausted "example.events@1" "changed")) := by
    decide +kernel
  have hrefused' : r.wire.pool[11]? = some (.refused (.resourceExhausted "example.events@1" "changed")) := by
    decide +kernel
  have hstarted : (s.publishes[11]?.map fun p => p.permit.started) = some true := by decide +kernel
  have hstarted' : (r.publishes[11]?.map fun p => p.permit.started) = some true := by decide +kernel
  obtain ⟨p, hp, hpstarted⟩ := Option.map_eq_some_iff.mp hstarted
  obtain ⟨q, hq, hqstarted⟩ := Option.map_eq_some_iff.mp hstarted'
  exact ⟨⟨framedActs, s, by decide +kernel, run_get _, by decide +kernel,
      ⟨11, p, _, "example.events@1", "changed", hp, hpstarted, hrefused, rfl⟩⟩,
    rpcActs, r, by decide +kernel, run_get _, by decide +kernel,
    ⟨11, q, _, "example.events@1", "changed", hq, hqstarted, hrefused', rfl⟩⟩

end LensoBun.Adapter
