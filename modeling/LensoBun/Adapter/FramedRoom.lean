import LensoBun.Adapter.EventRoom
import LensoBun.Lib.History
import LensoBun.Transport.SharedIds

set_option autoImplicit false

/-! # Room for the events on the framed wire

The framed transport as publishes see it, and the places an event takes there: its entry in
`event_pending` and its frame in the event channel. Frames do not say which thread has queued them. The
log records the threads that have put an event into the channel, in order; what is in the channel is the
last that was put there.
-/

namespace LensoBun.Adapter

open Std Lib Transport Transport.Framed

variable {V : Type}

/-! ## The wire -/

/-- The thread that puts an event into the channel in the step. -/
def eventSent (_ : Shared V) (t : Nat) (pc : Pc V) (_ : Input V) (m : Moved (Shared V) (Pc V)) :
    List Nat :=
  match pc, m.next with
  | .caller (.send call), .caller (.holding _) => if call.lane = .event then [t] else []
  | _, _ => []

/-- The last `n` of a list. -/
def lastOf (n : Nat) (l : List Nat) : List Nat := l.drop (l.length - n)

def framedQueued (s : Logged (Shared V) Nat) : List Nat :=
  lastOf s.state.eventSender.items.length s.log

def framedOpens : Pc V → Bool
  | .caller (.enter call) => decide (call.lane = .event)
  | _ => false

def framedRefusal : Pc V → Option RuntimeFailure
  | .refused failure => some failure
  | _ => none

def framedEnded : Pc V → Bool
  | .refused _ | .done => true
  | _ => false

/-- The framed transport as publishes see it. -/
def framedWire : Wire (Logged (Shared V) Nat) (Pc V) (Input V) where
  program := program.logged eventSent
  publishEvent call := .caller (.enter call)
  opens := framedOpens
  refusal := framedRefusal
  ended := framedEnded
  alive s := s.state.process.alive
  queued := framedQueued

abbrev FramedSystem (β V : Type) := System β (Logged (Shared V) Nat) (Pc V)

def framedInit {β : Type} [DecidableEq β] (codecs : β → Codec) (bindings : List (β × Nat))
    (queueCapacity : Nat) (capability : String) : FramedSystem β V :=
  .init codecs bindings (init queueCapacity (eventQueueCapacity bindings) capability).logged

/-! ## The last of a list -/

section

variable {n : Nat} {l : List Nat}

theorem lastOf_append (n t : Nat) (l : List Nat) : lastOf (n + 1) (l ++ [t]) = lastOf n l ++ [t] := by
  have hlength : (l ++ [t]).length - (n + 1) = l.length - n := by grind
  rw [lastOf, hlength, List.drop_append_of_le_length (Nat.sub_le _ _), lastOf]

theorem lastOf_suffix {m : Nat} (h : m ≤ n) (l : List Nat) : lastOf m l <:+ lastOf n l :=
  List.drop_suffix_drop_left l (Nat.sub_le_sub_left h l.length)

theorem length_lastOf (h : n ≤ l.length) : (lastOf n l).length = n := by
  rw [lastOf, List.length_drop]
  omega

end

/-! ## The places -/

/-- The call with which a thread is on its way into the channel. -/
def Framed.Pc.unqueued : Pc V → Option Call
  | .caller (.enter call) | .caller (.encode call) | .caller (.insert call)
  | .caller (.send call) => some call
  | _ => none

def isEvent (call : Option Call) : Bool := call.any fun call => call.lane = .event

def framedEntries : Places (Logged (Shared V) Nat) (Pc V) where
  held s := valueList s.state.pending.event
  before pc := isEvent pc.admitting

def framedQueue : Places (Logged (Shared V) Nat) (Pc V) where
  held := framedQueued
  before pc := isEvent (Framed.Pc.unqueued pc)

section

variable {s s' : Shared V} {t : Nat} {pc pc' : Pc V} {k : Input V}

theorem unqueued_move (h : Moves s t pc k s' pc') {call : Call}
    (hcall : Framed.Pc.unqueued pc' = some call) : Framed.Pc.unqueued pc = some call := by
  cases h with
  | enter | encode | insert => exact hcall
  | killed failure after | notify failure after => cases after <;> cases hcall
  | _ => cases hcall

theorem isEvent_of {call call' : Option Call} (h : ∀ c, call = some c → call' = some c)
    (hevent : isEvent call = true) : isEvent call' = true := by
  cases call with
  | none => cases hevent
  | some c =>
    rw [h c rfl]
    exact hevent

theorem eventSender_move (h : Moves s t pc k s' pc') :
    (s'.eventSender.items.length ≤ s.eventSender.items.length ∧
      s'.eventSender.capacity = s.eventSender.capacity ∧
      eventSent s t pc k ⟨s', pc', none⟩ = []) ∨
    ∃ call, pc = .caller (.send call) ∧ pc' = .caller (.holding call) ∧ call.lane = .event ∧
      s'.eventSender.items.length = s.eventSender.items.length + 1 ∧
      s'.eventSender.capacity = s.eventSender.capacity ∧
      eventSent s t pc k ⟨s', pc', none⟩ = [t] := by
  cases h with
  | queue call k ch sent =>
    obtain ⟨-, -, rfl⟩ := BoundedChannel.trySend_ok sent
    by_cases hlane : call.lane = .event
    · refine .inr ⟨call, rfl, rfl, hlane, ?_, ?_, ?_⟩
      · simp [Shared.queueCall, Shared.setWireSender, Shared.wireSender, hlane]
      · simp [Shared.queueCall, Shared.setWireSender, Shared.wireSender, hlane]
      · simp [eventSent, hlane]
    · refine .inl ⟨?_, ?_, ?_⟩
      · simp [Shared.queueCall, Shared.setWireSender, hlane]
      · simp [Shared.queueCall, Shared.setWireSender, hlane]
      · simp [eventSent, hlane]
  | writerEvent frame ch k taken =>
    obtain ⟨rest, hitems, rfl⟩ := BoundedChannel.tryRecv_some taken
    refine .inl ⟨?_, rfl, rfl⟩
    rw [hitems]
    exact Nat.le_succ _
  | exit => exact .inl ⟨Nat.zero_le _, rfl, rfl⟩
  | killed failure after | notify failure after => exact .inl ⟨Nat.le_refl _, rfl, by cases after <;> rfl⟩
  | sendFails => exact .inl ⟨Nat.le_refl _, rfl, rfl⟩
  | _ => exact .inl ⟨Nat.le_refl _, rfl, rfl⟩

end

section

variable {s : Logged (Shared V) Nat} {t : Nat} {pc : Pc V} {k : Input V}
  {m' : Moved (Logged (Shared V) Nat) (Pc V)}

/-- A step of the wire is a step of the transport with its entry in the log. -/
theorem framedWire_move (h : framedWire.program.move s t pc k = some m') :
    ∃ s' pc', m' = ⟨⟨s', s.log ++ eventSent s.state t pc k ⟨s', pc', none⟩⟩, pc', none⟩ ∧
      Moves s.state t pc k s' pc' := by
  obtain ⟨⟨s', pc', child⟩, hm, rfl⟩ := logged_move h
  obtain ⟨hmove, hchild⟩ := move_eq_some hm
  cases hchild
  exact ⟨s', pc', rfl, pcMove_moves hmove⟩

theorem unqueued_of_isEvent (h : isEvent (Framed.Pc.unqueued pc) = true) :
    ∃ pc' : CallerPc, pc = .caller pc' := by
  cases pc with
  | caller pc' => exact ⟨pc', rfl⟩
  | _ => cases h

theorem unqueued_of_admitting (h : isEvent pc.admitting = true) :
    isEvent (Framed.Pc.unqueued pc) = true := by
  cases pc with
  | caller pc' => cases pc' <;> first | exact h | cases h
  | _ => cases h

theorem not_unqueued_of_entry (hentry : framedWire.program.entry pc = true)
    (hopens : framedWire.opens pc = false) : isEvent (Framed.Pc.unqueued pc) = false := by
  by_contra hevent
  obtain ⟨pc', rfl⟩ := unqueued_of_isEvent (Bool.eq_true_of_not_eq_false hevent)
  cases pc' with
  | enter => exact hevent hopens
  | _ => cases hentry

theorem not_unqueued_of_ended (hended : framedWire.ended pc = true) :
    isEvent (Framed.Pc.unqueued pc) = false := by
  by_contra hevent
  obtain ⟨pc', rfl⟩ := unqueued_of_isEvent (Bool.eq_true_of_not_eq_false hevent)
  cases hended

theorem no_child (h : framedWire.program.move s t pc k = some m') {pc' : Pc V} :
    m'.child ≠ some pc' := by
  obtain ⟨s', pc₁, rfl, -⟩ := framedWire_move h
  exact nofun

theorem framedEntries_sound : (framedEntries (V := V)).Sound framedWire where
  entry pc hentry hopens := by
    have hnot := not_unqueued_of_entry hentry hopens
    exact Bool.eq_false_iff.mpr fun hevent => Bool.eq_false_iff.mp hnot (unqueued_of_admitting hevent)
  ended pc hended := by
    have hnot := not_unqueued_of_ended hended
    exact Bool.eq_false_iff.mpr fun hevent => Bool.eq_false_iff.mp hnot (unqueued_of_admitting hevent)
  next s t pc k m h hnext := by
    obtain ⟨s', pc', rfl, hmoves⟩ := framedWire_move h
    exact isEvent_of (fun call => admitting_move hmoves) hnext
  child s t pc k m pc' h hchild := absurd hchild (no_child h)
  held s t pc k m h u hu := by
    obtain ⟨s', pc', rfl, hmoves⟩ := framedWire_move h
    obtain ⟨id, hid⟩ := mem_valueList.mp hu
    have hid : (s'.pending.get .event)[id]? = some u := hid
    rcases entry_of_move hmoves hid with hold | ⟨call, rfl, rfl, hlane, -⟩
    · exact .inl (mem_valueList.mpr ⟨id, hold⟩)
    · refine .inr ⟨rfl, decide_eq_true hlane, ?_⟩
      cases hmoves <;> rfl
  nodup s t pc k m h hnodup hnew := by
    obtain ⟨s', pc', rfl, hmoves⟩ := framedWire_move h
    have hentry : ∀ id u : Nat, (s'.pending.get .event)[id]? = some u →
        (s.state.pending.get .event)[id]? = some u ∨ ∃ call, pc = .caller (.insert call) ∧ u = t ∧
          call.lane = .event ∧ call.requestId = id := fun id u => entry_of_move hmoves
    by_cases hinsert : ∃ call, pc = .caller (.insert call) ∧ call.lane = .event
    · obtain ⟨call, rfl, hlane⟩ := hinsert
      have hone : ∀ id u : Nat, (s'.pending.get .event)[id]? = some u →
          (s.state.pending.get .event)[id]? = some u ∨ (id = call.requestId ∧ u = t) := by grind
      exact nodup_valueList_of_new hone hnodup (hnew (decide_eq_true hlane))
    · refine nodup_valueList_of_old (fun id u hid => ?_) hnodup
      rcases hentry id u hid with hold | ⟨call', hcall, -, hlane, -⟩
      · exact hold
      · exact absurd ⟨call', hcall, hlane⟩ hinsert

theorem framedQueued_move (h : framedWire.program.move s t pc k = some m') :
    framedQueued m'.shared <:+ framedQueued s ∨
      ∃ call, pc = .caller (.send call) ∧ m'.next = .caller (.holding call) ∧ call.lane = .event ∧
        framedQueued m'.shared = framedQueued s ++ [t] := by
  obtain ⟨s', pc', rfl, hmoves⟩ := framedWire_move h
  rcases eventSender_move hmoves with ⟨hlength, -, hlog⟩ | ⟨call, rfl, rfl, hlane, hlength, -, hlog⟩
  · grind [framedQueued, lastOf_suffix]
  · grind [framedQueued, lastOf_append]

theorem framedQueue_sound : (framedQueue (V := V)).Sound framedWire where
  entry pc := not_unqueued_of_entry
  ended pc := not_unqueued_of_ended
  next s t pc k m h hnext := by
    obtain ⟨s', pc', rfl, hmoves⟩ := framedWire_move h
    exact isEvent_of (fun call => unqueued_move hmoves) hnext
  child s t pc k m pc' h hchild := absurd hchild (no_child h)
  held s t pc k m h u hu := by
    rcases framedQueued_move h with hsuffix | ⟨call, rfl, hnext, hlane, hqueued⟩
    · exact .inl (hsuffix.subset hu)
    · have hmem : u ∈ framedQueued s ++ [t] := hqueued ▸ hu
      rcases List.mem_append.mp hmem with hold | hnew
      · exact .inl hold
      · refine .inr ⟨List.mem_singleton.mp hnew, decide_eq_true hlane, ?_⟩
        rw [hnext]
        rfl
  nodup s t pc k m h hnodup hnew := by
    rcases framedQueued_move h with hsuffix | ⟨call, rfl, hnext, hlane, hqueued⟩
    · exact hnodup.sublist hsuffix.sublist
    · show (framedQueued m.shared).Nodup
      rw [hqueued, ← List.concat_eq_append]
      exact hnodup.concat (hnew (decide_eq_true hlane))

end

/-! ## The rest of the transport -/

/-- The channels and registries are of the size that `open_framed` gives them, and the writer has
stopped on a dead process only. -/
structure FramedSized (capacity : Nat) (s : Logged (Shared V) Nat) : Prop where
  admission : s.state.admissionCapacity.event = capacity
  channel : s.state.eventSender.capacity = capacity
  logged : s.state.eventSender.items.length ≤ s.log.length
  stopped : s.state.eventSender.connected = false → s.state.process.alive = false

/-- Where a thread stands only when the process is dead. -/
def Framed.Pc.posthumous : Pc V → Bool
  | .writer .exit => true
  | .dying .swap _ _ => false
  | .dying _ _ _ => true
  | _ => false

def framedSized (capacity : Nat) : Outline (Logged (Shared V) Nat) (Pc V) :=
  .plain (FramedSized capacity) fun s _ pc =>
    Framed.Pc.posthumous pc = true → s.state.process.alive = false

section

variable {s s' : Shared V} {t : Nat} {pc pc' : Pc V} {k : Input V}

theorem posthumous_move (h : Moves s t pc k s' pc')
    (hpc : Framed.Pc.posthumous pc = true → s.process.alive = false)
    (hpc' : Framed.Pc.posthumous pc' = true) : s'.process.alive = false := by
  cases h with
  | kill => rfl
  | killed failure after k dead => exact dead
  | store | failPending | failEvent | clearCancelled | failStream | clearStreamCancelled
  | notify => exact hpc rfl
  | _ => cases hpc'

theorem admissionCapacity_move (h : Moves s t pc k s' pc') :
    s'.admissionCapacity = s.admissionCapacity := by
  cases h <;> rfl

theorem stopped_event_move (h : Moves s t pc k s' pc')
    (hpc : Framed.Pc.posthumous pc = true → s.process.alive = false)
    (hs : s.eventSender.connected = false → s.process.alive = false)
    (hstopped : s'.eventSender.connected = false) : s'.process.alive = false := by
  cases h with
  | queue call k ch sent =>
    obtain ⟨hconnected, -, rfl⟩ := BoundedChannel.trySend_ok sent
    refine hs ?_
    by_cases hlane : call.lane = .event
    · simp [Shared.queueCall, Shared.setWireSender, Shared.wireSender, hlane] at hstopped
      exact hstopped
    · simp [Shared.queueCall, Shared.setWireSender, hlane] at hstopped
      exact hstopped
  | writerEvent frame ch k taken =>
    obtain ⟨rest, -, rfl⟩ := BoundedChannel.tryRecv_some taken
    exact hs hstopped
  | exit => exact hpc rfl
  | kill => rfl
  | _ => exact hs hstopped

end

theorem framedSized_valid (capacity : Nat) :
    (framedSized (V := V) capacity).Valid framedWire.program Guard.any := by
  refine Outline.plain_valid ?_ ?_ ?_ ?_
  · intro s t pc k m h
    obtain ⟨s', pc', rfl, -⟩ := framedWire_move h
    rfl
  · intro s t pc _ hentry _ hposthumous
    have hstarts : pc.starts = true := hentry
    cases pc with
    | writer | dying => cases hstarts
    | _ => cases hposthumous
  · intro s t pc k m hs hat _ h
    obtain ⟨s', pc', rfl, hmoves⟩ := framedWire_move h
    refine ⟨⟨?_, ?_, ?_, stopped_event_move hmoves hat hs.stopped⟩, posthumous_move hmoves hat⟩
    · exact (congrArg PerLane.event (admissionCapacity_move hmoves)).trans hs.admission
    · rcases eventSender_move hmoves with ⟨-, hcapacity, -⟩ | ⟨_, _, _, _, _, hcapacity, -⟩
      · exact hcapacity.trans hs.channel
      · exact hcapacity.trans hs.channel
    · have hlogged := hs.logged
      rcases eventSender_move hmoves with ⟨hlength, -, hlog⟩ | ⟨_, _, _, _, hlength, -, hlog⟩
      · simp only [hlog, List.append_nil]
        omega
      · grind
  · intro s t pc k m u pcU _ _ hatU _ _ _ h hposthumous
    obtain ⟨s', pc', rfl, hmoves⟩ := framedWire_move h
    exact dead_mono hmoves (hatU hposthumous)

/-! ## Where a publish can stand -/

/-- The thread of a publish: it makes an event call, and it is refused for want of room, or comes to a
place where it finds the writer gone, only when the process is dead. -/
def framedFine (s : Logged (Shared V) Nat) : Pc V → Prop
  | .caller (.enter call) | .caller (.encode call) | .caller (.insert call) | .caller (.send call) =>
    call.lane = .event
  | .caller (.undo _ .full) => False
  | .caller (.undo _ .disconnected) | .caller (.refuse _) | .caller (.stopped _)
  | .dying _ _ (.caller _) | .refused (.resourceExhausted _ _) => s.state.process.alive = false
  | _ => True

section

variable {s : Logged (Shared V) Nat} {t : Nat} {pc pc' : Pc V} {k : Input V} {capacity : Nat}

theorem framedFine_refused (failure : RuntimeFailure) (hdead : s.state.process.alive = false) :
    framedFine s (.refused failure) := by
  cases failure with
  | resourceExhausted => exact hdead
  | _ => trivial

theorem framedFine_after (after : After) (hafter : ∀ failure, after = .caller failure →
    s.state.process.alive = false) : framedFine s after.pc := by
  cases after with
  | caller failure => exact framedFine_refused failure (hafter failure rfl)
  | _ => trivial

theorem framedFine_dying {stage : Stage} {failure : RuntimeFailure} {after : After}
    (h : framedFine s (.dying stage failure after)) (failure' : RuntimeFailure)
    (hafter : after = .caller failure') : s.state.process.alive = false := by
  subst hafter
  exact h

/-- An event that is not admitted although there is room has an id that was used. -/
theorem callOnCheck_of_room {call : Call} {failure : RuntimeFailure} (hlane : call.lane = .event)
    (hroom : s.state.pending.event.size < s.state.admissionCapacity.event)
    (hcheck : insertCheck s.state call = some failure) :
    failure = protocolViolation (some s.state.capability) := by
  rw [insertCheck, hlane] at hcheck
  simp only [callOnCheck, hlane, PerLane.get] at hcheck
  split at hcheck
  · exact (Option.some.inj hcheck).symm
  · grind

/-- A step of a publish that has room wherever it is about to take a place. -/
theorem framedFine_move {s' : Shared V} {log' : List Nat} (hs : FramedSized capacity s)
    (hfine : framedFine s pc)
    (hentries : isEvent pc.admitting = true → (valueList s.state.pending.event).length < capacity)
    (hqueue : isEvent (Framed.Pc.unqueued pc) = true → (framedQueued s).length < capacity)
    (h : Moves s.state t pc k s' pc') : framedFine ⟨s', log'⟩ pc' := by
  cases h with
  | enter => exact hfine
  | enterDead call k dead => exact dead
  | refuse => exact framedFine_refused _ hfine
  | encode => exact hfine
  | tooLarge => trivial
  | insert => exact hfine
  | insertRefused call k failure check =>
    have hroom := hentries (decide_eq_true hfine)
    rw [length_valueList, ← hs.admission] at hroom
    rw [callOnCheck_of_room hfine hroom check]
    trivial
  | queue => trivial
  | sendFails call k error failed =>
    have hlane : call.lane = .event := hfine
    have hroom := hqueue (decide_eq_true hlane)
    rw [framedQueued, length_lastOf hs.logged, ← hs.channel] at hroom
    have hsender : s.state.wireSender call.lane = s.state.eventSender := by rw [hlane]; rfl
    rw [hsender] at failed
    have hgone := BoundedChannel.not_connected_of_error hroom failed
    cases error with
    | full => grind [BoundedChannel.trySend]
    | disconnected => exact hs.stopped hgone
  | undoFull => exact hfine.elim
  | undoStopped => exact hfine
  | stopped => exact hfine
  | kill failure after =>
    cases after with
    | caller => rfl
    | _ => trivial
  | killed failure after k dead => exact framedFine_after after fun _ _ => dead
  | notify failure after => exact framedFine_after after (framedFine_dying hfine)
  | store failure after | failPending failure after | failEvent failure after
  | clearCancelled failure after | failStream failure after | clearStreamCancelled failure after =>
    cases after with
    | caller => exact hfine
    | _ => trivial
  | _ => trivial

/-- A process that has died does not come back for a publish either. -/
theorem framedFine_other {s' : Logged (Shared V) Nat}
    (hdead : s.state.process.alive = false → s'.state.process.alive = false)
    (hfine : framedFine s pc) : framedFine s' pc := by
  cases pc with
  | caller pc =>
    cases pc with
    | undo call error =>
      cases error with
      | full => exact hfine
      | disconnected => exact hdead hfine
    | refuse | stopped => exact hdead hfine
    | holding => trivial
    | _ => exact hfine
  | dying stage failure after =>
    cases after with
    | caller => exact hdead hfine
    | _ => trivial
  | refused failure =>
    cases failure with
    | resourceExhausted => exact hdead hfine
    | _ => trivial
  | _ => trivial

end

theorem framed_welcomes (capacity : Nat) :
    Welcomes (framedWire (V := V)) framedEntries framedQueue capacity (framedSized capacity)
      framedFine where
  soundEntries := framedEntries_sound
  soundQueue := framedQueue_sound
  valid := framedSized_valid capacity
  start s call hkind := congrArg CallKind.lane hkind
  move s t pc k m hs _ hfine hentries hqueue h := by
    obtain ⟨s', pc', rfl, hmoves⟩ := framedWire_move h
    exact framedFine_move hs hfine hentries hqueue hmoves
  other s t pc k m pcU h hfine := by
    obtain ⟨s', pc', rfl, hmoves⟩ := framedWire_move h
    exact framedFine_other (dead_mono hmoves) hfine
  refusal s pc capability operation hfine hrefusal := by
    cases pc with
    | refused =>
      cases hrefusal
      exact hfine
    | _ => cases hrefusal

theorem framed_roomy {β : Type} [DecidableEq β] (codecs : β → Codec) (bindings : List (β × Nat))
    (queueCapacity : Nat) (capability : String) :
    (framedInit (V := V) codecs bindings queueCapacity capability).Roomy framedEntries framedQueue
      (framedSized (eventQueueCapacity bindings)) framedFine bindings := by
  have hcapacity : max (eventQueueCapacity bindings) 1 = eventQueueCapacity bindings :=
    Nat.max_eq_left (Nat.le_max_right _ _)
  refine .init codecs (Outline.plain_holds ⟨hcapacity, hcapacity, Nat.zero_le _, nofun⟩ ?_) rfl rfl ?_
  · intro t pc hpc hposthumous
    change (init queueCapacity (eventQueueCapacity bindings) capability).pool[t]? = some pc at hpc
    rcases init_pool hpc with ⟨-, rfl⟩ | ⟨-, rfl⟩ <;> cases hposthumous
  · intro t pc hpc
    change (init queueCapacity (eventQueueCapacity bindings) capability).pool[t]? = some pc at hpc
    rcases init_pool hpc with ⟨-, rfl⟩ | ⟨-, rfl⟩ <;> exact ⟨rfl, rfl⟩

end LensoBun.Adapter
