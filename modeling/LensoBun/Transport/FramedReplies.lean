import LensoBun.Transport.Framed

set_option autoImplicit false

/-! # Answers of a well-behaved peer

A peer that answers each call frame once and sends nothing else must not be taken for a faulty
one, and its answers must reach the calls they are for. The reader looks for the call of an
answer in the registries and then in `cancelled`. A cancel moves an id from the one to the other
in two sections, so there is a moment at which the id is in neither; and `cancelled` drops its
smallest ids when it is full.

The argument follows a call frame. `inFlight` counts the frames of an id that are queued or with
the peer; the writer and the reader carry one more each. `Flow` is the conservation law: a step
adds a frame only when a call is queued, and an id stops being expected only when the reader has
found it. With this an expected id is carried by one party at a time, and it is in a registry, in
`cancelled`, or on the way between the two.
-/

namespace LensoBun.Transport.Framed

open Std Lib

variable {V : Type}

/-! ## Conditions -/

/-- The peer answers calls it has been sent and has not answered yet, and sends nothing else. -/
def Message.answers (s : Shared V) : Message V → Bool
  | .response requestId _ => decide ((.call, requestId) ∈ s.trace.unanswered)
  | .streamResponse requestId _ => decide ((.stream, requestId) ∈ s.trace.unanswered)
  | .other | .error _ => false

def fromPeer (s : Shared V) : Pc V → Input V → Bool
  | .reader .read, .read message => message.answers s
  | _, _ => true

/-- An id is given to one call only; `cancelled` has room for an id that is put into it; the
reader does not look into `cancelled` for an id that a cancel has taken out of its registry and
not put there yet. -/
def orderly (s : Shared V) : Pc V → Bool
  | .caller (.insert call) => (s.trace.owner call.key).isNone
  | .cancel (.remember x) => decide ((s.cancelled.get x.key.1).size < maxCancelledRequestIds)
  | .reader (.cancelled key) => !s.trace.leaving key
  | _ => true

def honestPeer : Guard (Shared V) (Pc V) (Input V) where
  self s _ pc k := fromPeer s pc k = true

def orderlyAnswers : Guard (Shared V) (Pc V) (Input V) where
  self s _ pc k := fromPeer s pc k = true ∧ orderly s pc = true

section

variable (c : Threads (Shared V) (Pc V)) (a : Act (Pc V) (Input V))

instance : Decidable (honestPeer.Allows c a) := Guard.decidable c a

instance : Decidable (orderlyAnswers.Allows c a) := Guard.decidable c a

end

/-! ## Frames in flight -/

/-- The frames among `frames` that are to be answered under the id. -/
def frameCount (frames : List Frame) (key : Key) : Nat :=
  frames.countP (fun frame => frame.key? = some key)

/-- The frames of an id that are queued or with the peer. -/
def Shared.inFlight (s : Shared V) (key : Key) : Nat :=
  frameCount s.sender.items key + frameCount s.eventSender.items key +
    frameCount s.controlSender.items key + s.trace.unanswered.count key

/-- The id of the frame the writer holds, or of the answer whose call the reader looks for. -/
def Pc.carries : Pc V → Option Key
  | .writer (.write frame) => frame.key?
  | .reader (.pending requestId _) | .reader (.eventPending requestId _) => some (.call, requestId)
  | .reader (.streamPending requestId _) => some (.stream, requestId)
  | .reader (.cancelled key) => some key
  | _ => none

/-- What is in flight and what the thread carries. -/
def load (s : Shared V) (pc : Pc V) (key : Key) : Nat :=
  s.inFlight key + if pc.carries = some key then 1 else 0

theorem frameCount_append (frames : List Frame) (frame : Frame) (key : Key) :
    frameCount (frames ++ [frame]) key =
      frameCount frames key + if frame.key? = some key then 1 else 0 := by
  simp [frameCount, List.countP_append, List.countP_cons]

theorem frameCount_cons (frames : List Frame) (frame : Frame) (key : Key) :
    frameCount (frame :: frames) key =
      frameCount frames key + if frame.key? = some key then 1 else 0 := by
  simp [frameCount, List.countP_cons]

section

variable {s : Shared V} {ch : BoundedChannel Frame} {frame : Frame}

theorem inFlight_queueCall {call : Call}
    (sent : (s.wireSender call.lane).trySend (.call call) = .ok ch) (key : Key) :
    (s.queueCall call ch).inFlight key = s.inFlight key + if call.key = key then 1 else 0 := by
  obtain ⟨-, -, rfl⟩ := BoundedChannel.trySend_ok sent
  have hkey : (Frame.call call).key? = some key ↔ call.key = key := by
    simp [Frame.key?]
  by_cases hlane : call.lane = .event
  · simp only [Shared.inFlight, Shared.queueCall, Shared.setWireSender, Shared.wireSender, hlane,
      if_true, frameCount_append, hkey]
    omega
  · have hsender : s.wireSender call.lane = s.sender := by
      cases h : call.lane <;> first | rfl | exact absurd h hlane
    simp only [Shared.inFlight, Shared.queueCall, Shared.setWireSender, hsender, hlane, if_false,
      frameCount_append, hkey]
    omega

theorem inFlight_control (hkey : frame.key? = none) (sent : s.controlSender.trySend frame = .ok ch)
    (key : Key) : { s with controlSender := ch }.inFlight key = s.inFlight key := by
  obtain ⟨-, -, rfl⟩ := BoundedChannel.trySend_ok sent
  simp [Shared.inFlight, frameCount_append, hkey]

theorem inFlight_takeControl (taken : s.controlSender.tryRecv = some (frame, ch)) (key : Key) :
    s.inFlight key = { s with controlSender := ch }.inFlight key +
      if frame.key? = some key then 1 else 0 := by
  obtain ⟨rest, hitems, rfl⟩ := BoundedChannel.tryRecv_some taken
  simp only [Shared.inFlight, hitems, frameCount_cons]
  omega

theorem inFlight_takeEvent (taken : s.eventSender.tryRecv = some (frame, ch)) (key : Key) :
    s.inFlight key = { s with eventSender := ch }.inFlight key +
      if frame.key? = some key then 1 else 0 := by
  obtain ⟨rest, hitems, rfl⟩ := BoundedChannel.tryRecv_some taken
  simp only [Shared.inFlight, hitems, frameCount_cons]
  omega

theorem inFlight_takeRequest (taken : s.sender.tryRecv = some (frame, ch)) (key : Key) :
    s.inFlight key = { s with sender := ch }.inFlight key +
      if frame.key? = some key then 1 else 0 := by
  obtain ⟨rest, hitems, rfl⟩ := BoundedChannel.tryRecv_some taken
  simp only [Shared.inFlight, hitems, frameCount_cons]
  omega

theorem inFlight_write (s : Shared V) (frame : Frame) (key : Key) :
    (s.write frame).inFlight key = s.inFlight key + if frame.key? = some key then 1 else 0 := by
  simp only [Shared.inFlight, Shared.write, List.count_append]
  cases hkey : frame.key? with
  | none => simp
  | some => grind

theorem inFlight_closeWriter (s : Shared V) (key : Key) :
    s.closeWriter.inFlight key ≤ s.inFlight key := by
  simp only [Shared.inFlight, Shared.closeWriter, BoundedChannel.close, frameCount, List.countP_nil]
  omega

theorem inFlight_receive {key : Key} (h : key ∈ s.trace.unanswered) (key' : Key) :
    s.inFlight key' = (s.receive key).inFlight key' + if key = key' then 1 else 0 := by
  simp only [Shared.inFlight, Shared.receive, List.count_erase]
  by_cases heq : key = key'
  · grind
  · grind

end

/-! ## The conservation law -/

/-- What a step does to the frames in flight and the ids expected. -/
inductive Flow (s : Shared V) (pc : Pc V) (s' : Shared V) (pc' : Pc V) : Prop
  | queued (call : Call) (before : pc = .caller (.send call))
      (expected : s'.trace.expected = Function.update s.trace.expected call.key true)
      (load_eq : ∀ key, load s' pc' key = load s pc key + if call.key = key then 1 else 0)
  | found (key : Key) (before : pc.carries = some key) (after : pc'.carries = none)
      (expected : s'.trace.expected = Function.update s.trace.expected key false)
      (inFlight : ∀ key, s'.inFlight key = s.inFlight key)
  | kept (expected : s'.trace.expected = s.trace.expected)
      (load_le : ∀ key, load s' pc' key ≤ load s pc key)

section

variable {s s' : Shared V} {t : Nat} {pc pc' : Pc V} {k : Input V}

theorem Flow.of_taken {frame : Frame} (before : pc.carries = none)
    (after : pc'.carries = frame.key?) (expected : s'.trace.expected = s.trace.expected)
    (h : ∀ key, s.inFlight key = s'.inFlight key + if frame.key? = some key then 1 else 0) :
    Flow s pc s' pc' := by
  refine .kept expected (fun key => ?_)
  simp only [load, before, after, reduceCtorEq, if_false, h key]
  omega

theorem flow_of_move (h : Moves s t pc k s' pc') (hk : fromPeer s pc k = true)
    (hsend : ∀ frame, pc = .cancel (.send frame) → frame.key? = none) : Flow s pc s' pc' := by
  cases h with
  | queue call k ch sent =>
    refine .queued call rfl rfl (fun key => ?_)
    simp only [load, Pc.carries, reduceCtorEq, if_false, inFlight_queueCall sent]
    omega
  | control frame ch sent =>
    refine .kept rfl (fun key => ?_)
    exact (inFlight_control (hsend frame rfl) sent key).le
  | shutdownSend ch sent =>
    refine .kept rfl (fun key => ?_)
    exact (inFlight_control rfl sent key).le
  | writerControl frame ch k taken => exact .of_taken rfl rfl rfl (inFlight_takeControl taken)
  | writerEvent frame ch k taken => exact .of_taken rfl rfl rfl (inFlight_takeEvent taken)
  | writerRequest frame ch k taken | writerWait frame ch k taken =>
    exact .of_taken rfl rfl rfl (inFlight_takeRequest taken)
  | write frame =>
    refine .kept rfl (fun key => ?_)
    by_cases hkey : frame.key? = some key <;>
      simp [load, Pc.carries, inFlight_write, hkey]
  | writeFails | violation key =>
    refine .kept rfl (fun key => ?_)
    simp [load, Pc.carries]
  | exit =>
    refine .kept rfl (fun key => ?_)
    simpa [load, Pc.carries] using inFlight_closeWriter s key
  | response | streamResponse =>
    refine .kept rfl (fun key => ?_)
    have hmem := of_decide_eq_true hk
    simp only [load, Pc.carries, inFlight_receive hmem key, Option.some.injEq, reduceCtorEq,
      if_false]
    omega
  | answerRequest requestId u outcome k found | answerEvent requestId u outcome k found
  | answerStream requestId u outcome k found => exact .found _ rfl rfl rfl (fun _ => rfl)
  | absorb key k found => exact .found key rfl rfl rfl (fun _ => rfl)
  | killed failure after | notify failure after =>
    refine .kept rfl (fun key => ?_)
    cases after <;> exact le_rfl
  | retireCancelled x =>
    refine .kept rfl (fun key => ?_)
    cases x <;> exact le_rfl
  | _ => exact .kept rfl (fun _ => le_rfl)

end

/-! ## The outline -/

def Shared.Registered (s : Shared V) (key : Key) : Prop :=
  ∃ lane : Lane, lane.group = key.1 ∧ (s.pending.get lane)[key.2]?.isSome = true

def Shared.isCancelled (s : Shared V) (key : Key) : Bool :=
  (s.cancelled.get key.1)[key.2]?.isSome

/-- A finished answer was handed to the call its id was given to, or that call was dropped. -/
def Trace.Rightly (trace : Trace) : Key × Option Nat → Prop
  | (key, some u) => trace.owner key = some u
  | (key, none) => trace.dropped key = true

structure Accounted (s : Shared V) : Prop where
  /-- A frame is in flight for an expected id only, and once. -/
  inFlight : ∀ key, s.inFlight key ≤ (s.trace.expected key).toNat
  /-- An expected id can be found, unless a cancel is moving it. -/
  waiting : s.process.alive = true → ∀ key, s.trace.expected key = true →
    s.Registered key ∨ s.trace.leaving key = true ∨ s.isCancelled key = true
  entries : ∀ (lane : Lane) (id u : Nat), (s.pending.get lane)[id]? = some u →
    s.trace.owner (lane.group, id) = some u
  owned : ∀ key, s.trace.expected key = true → s.trace.owner key ≠ none
  dropped : ∀ key, s.trace.dropped key = true → s.trace.owner key ≠ none
  cancelled : ∀ key, s.trace.leaving key = true ∨ s.isCancelled key = true →
    s.trace.dropped key = true
  handled : ∀ p ∈ s.trace.handled, s.trace.Rightly p

/-- The reader is at work on the answer with the id `key`, the last one received. -/
def Shared.handling (s : Shared V) (key : Key) : Prop :=
  s.trace.received = s.trace.handled.map Prod.fst ++ [key]

/-- What a thread relies on at its place, apart from what it carries. -/
def repliesAt (s : Shared V) (t : Nat) : Pc V → Prop
  | .caller (.send call) => s.trace.owner call.key = some t ∧ s.trace.expected call.key = false ∧
      s.trace.dropped call.key = false ∧
      (s.process.alive = true → (s.pending.get call.lane)[call.requestId]? = some t)
  | .caller (.undo call _) =>
    s.trace.owner call.key = some t ∧ s.trace.expected call.key = false
  | .caller (.holding call) => s.trace.owner call.key = some t
  | .cancel (.pending requestId) | .cancel (.eventPending requestId) =>
    s.trace.dropped (.call, requestId) = true
  | .cancel (.streamPending requestId _) => s.trace.dropped (.stream, requestId) = true
  | .cancel (.alive requestId) => s.trace.dropped (.call, requestId) = true
  | .cancel (.remember x) => s.trace.dropped x.key = true
  | .cancel (.send frame) => frame.key? = none
  | .reader .read => s.trace.received = s.trace.handled.map Prod.fst
  | .reader (.pending requestId _) => s.handling (.call, requestId)
  | .reader (.eventPending requestId _) =>
    s.handling (.call, requestId) ∧ s.pending.request[requestId]? = none
  | .reader (.streamPending requestId _) => s.handling (.stream, requestId)
  | .reader (.cancelled key) => s.handling key ∧
      ∀ lane : Lane, lane.group = key.1 → (s.pending.get lane)[key.2]? = none
  | .reader (.retire key none) => s.handling key ∧ s.trace.dropped key = true
  | .reader (.retire key (some (u, _))) => s.handling key ∧ s.trace.owner key = some u
  | .reader (.deliver key u _) => s.handling key ∧ s.trace.owner key = some u
  | .dying .swap _ .reader => s.process.alive = false
  | .dying .swap _ _ => True
  | .dying _ _ _ => s.process.alive = false
  | _ => True

/-- What a thread carries is expected and not in flight. -/
def Shared.Carried (s : Shared V) (pc : Pc V) : Prop :=
  ∀ key, pc.carries = some key → s.trace.expected key = true ∧ s.inFlight key = 0

def Pc.isReader : Pc V → Bool
  | .reader _ => true
  | _ => false

/-- Two threads do not carry the same id, and there is one reader. -/
def replies : Outline (Shared V) (Pc V) where
  Shared := Accounted
  At s t pc := repliesAt s t pc ∧ s.Carried pc
  Pair _ pc _ pc' := (∀ key, pc.carries = some key → pc'.carries ≠ some key) ∧
    (pc.isReader = true → pc'.isReader = false)

/-! ## What a step leaves to the others -/

section

variable {s s' : Shared V} {t u : Nat} {pc pc' : Pc V} {k : Input V} {key : Key}

/-- The load of a thread that meets its assertion: at most one frame, and only if expected. -/
theorem load_le (hs : Accounted s) (hpc : s.Carried pc) (key : Key) :
    load s pc key ≤ (s.trace.expected key).toNat := by
  unfold load
  by_cases hkey : pc.carries = some key
  · obtain ⟨hexp, hzero⟩ := hpc key hkey
    rw [if_pos hkey, hexp, hzero]
    exact le_rfl
  · rw [if_neg hkey]
    exact hs.inFlight key

theorem Flow.inFlight_le (h : Flow s pc s' pc') (hs : Accounted s) (hpc : s.Carried pc)
    (hsend : ∀ call, pc = .caller (.send call) → s.trace.expected call.key = false) (key : Key) :
    load s' pc' key ≤ (s'.trace.expected key).toNat := by
  have hload := load_le hs hpc key
  cases h with
  | queued call before expected load_eq =>
    rw [load_eq key, expected, Function.update_apply]
    have hnew := hsend call before
    by_cases heq : call.key = key
    · subst heq
      rw [hnew] at hload
      simp only [if_true, Bool.toNat_true]
      have : load s pc call.key = 0 := Nat.le_zero.mp hload
      omega
    · grind
  | found key₀ before after expected inFlight =>
    obtain ⟨hexp, hzero⟩ := hpc key₀ before
    rw [load, after, if_neg (by simp), inFlight key, expected, Function.update_apply]
    by_cases heq : key = key₀
    · grind
    · rw [if_neg heq]
      exact hs.inFlight key
  | kept expected load_le => grind

/-- What the thread carries after its step is expected and not in flight. -/
theorem Flow.carried (h : Flow s pc s' pc') (hs : Accounted s) (hpc : s.Carried pc)
    (hsend : ∀ call, pc = .caller (.send call) → s.trace.expected call.key = false) :
    s'.Carried pc' := by
  intro key hkey
  have hle := h.inFlight_le hs hpc hsend key
  rw [load, if_pos hkey] at hle
  cases hexp : s'.trace.expected key with
  | false =>
    rw [hexp] at hle
    simp at hle
  | true => grind

/-- What another thread carries stays expected and not in flight. -/
theorem Flow.carried_other (h : Flow s pc s' pc') (hne : pc.carries ≠ some key)
    (hsend : ∀ call, pc = .caller (.send call) → s.trace.expected call.key = false)
    (hexp : s.trace.expected key = true) (hzero : s.inFlight key = 0) :
    s'.trace.expected key = true ∧ s'.inFlight key = 0 ∧ pc'.carries ≠ some key := by
  have hload : load s pc key = 0 := by rw [load, hzero, if_neg hne]
  have hcarries : load s' pc' key = 0 → s'.inFlight key = 0 ∧ pc'.carries ≠ some key := by
    grind [load]
  cases h with
  | queued call before expected load_eq =>
    have hcall : call.key ≠ key := by
      rintro rfl
      rw [hsend call before] at hexp
      cases hexp
    rw [expected, Function.update_apply, if_neg (Ne.symm hcall)]
    refine ⟨hexp, hcarries ?_⟩
    rw [load_eq, hload, if_neg hcall]
  | found key₀ before after expected inFlight =>
    have hkey : key ≠ key₀ := by
      rintro rfl
      exact hne before
    rw [expected, Function.update_apply, if_neg hkey, inFlight, after]
    exact ⟨hexp, hzero, by simp⟩
  | kept expected load_le => grind

/-- A call that has not been queued is not queued by another thread. -/
theorem Flow.unsent (h : Flow s pc s' pc') (hne : u ≠ t) (howner : s.trace.owner key = some u)
    (hsend : ∀ call, pc = .caller (.send call) → s.trace.owner call.key = some t)
    (hexp : s.trace.expected key = false) : s'.trace.expected key = false := by
  cases h with
  | queued call before expected =>
    have hcall : key ≠ call.key := by
      rintro rfl
      rw [hsend call before, Option.some.injEq] at howner
      exact hne howner.symm
    rw [expected, Function.update_apply, if_neg hcall]
    exact hexp
  | found key₀ before after expected =>
    rw [expected, Function.update_apply]
    split
    · rfl
    · exact hexp
  | kept expected =>
    rw [expected]
    exact hexp

theorem owner_mono (h : Moves s t pc k s' pc') (hg : orderly s pc = true)
    (howner : s.trace.owner key = some u) : s'.trace.owner key = some u := by
  cases h with
  | insert call =>
    have hfresh : s.trace.owner call.key = none := by simpa [orderly] using hg
    have hne : key ≠ call.key := by
      rintro rfl
      rw [hfresh] at howner
      cases howner
    change Function.update s.trace.owner call.key (some t) key = some u
    rw [Function.update_apply, if_neg hne]
    exact howner
  | _ => exact howner

theorem dropped_mono (h : Moves s t pc k s' pc') (hd : s.trace.dropped key = true) :
    s'.trace.dropped key = true := by
  cases h with
  | drop call =>
    change Function.update s.trace.dropped call.key true key = true
    rw [Function.update_apply, hd, ite_self]
  | _ => exact hd

theorem undropped_move (h : Moves s t pc k s' pc') (hpc : repliesAt s t pc) (hne : u ≠ t)
    (howner : s.trace.owner key = some u) (hd : s.trace.dropped key = false) :
    s'.trace.dropped key = false := by
  cases h with
  | drop call =>
    have hkey : key ≠ call.key := by
      rintro rfl
      rw [show s.trace.owner call.key = some t from hpc, Option.some.injEq] at howner
      exact hne howner.symm
    change Function.update s.trace.dropped call.key true key = false
    rw [Function.update_apply, if_neg hkey]
    exact hd
  | _ => exact hd

theorem log_move (h : Moves s t pc k s' pc') (hpc : pc.isReader = false) :
    s'.trace.received = s.trace.received ∧ s'.trace.handled = s.trace.handled := by
  cases h with
  | response | streamResponse | retireLate | deliver => cases hpc
  | _ => exact ⟨rfl, rfl⟩

variable {id id₁ : Nat} {lane lane₁ : Lane}

theorem absent_move (h : Moves s t pc k s' pc') (hg : orderly s pc = true) (hs : Accounted s)
    (hexp : s.trace.expected (lane.group, id) = true) (hnone : (s.pending.get lane)[id]? = none) :
    (s'.pending.get lane)[id]? = none := by
  cases h with
  | insert call =>
    have hfresh : s.trace.owner call.key = none := by simpa [orderly] using hg
    rw [Shared.insertCall, getElem?_set_insert, if_neg]
    · exact hnone
    · rintro ⟨rfl, rfl⟩
      exact hs.owned _ hexp hfresh
  | undoFull | undoStopped | takeRequest | takeEvent | takeStream | answerRequest | answerEvent
  | answerStream =>
    refine (getElem?_set_erase _ _ _ _ _).trans ?_
    rw [hnone, ite_self]
  | failPending | failEvent | failStream =>
    refine (getElem?_set_empty _ _ _ _).trans ?_
    rw [hnone, ite_self]
  | _ => exact hnone

/-- The entry of a call that another thread has not queued yet stays while the process is
alive. -/
theorem entry_kept (h : Moves s t pc k s' pc') (hg : orderly s pc = true) (hpc : repliesAt s t pc)
    (hcarried : s.Carried pc) {v : Nat} (howner : s.trace.owner (lane.group, id) = some u)
    (hne : u ≠ t) (hexp : s.trace.expected (lane.group, id) = false)
    (hdropped : s.trace.dropped (lane.group, id) = false)
    (hentry : (s.pending.get lane)[id]? = some v) (halive : s'.process.alive = true) :
    (s'.pending.get lane)[id]? = some v := by
  -- an erase concerns this entry only if its id is the mover's own, dropped, or expected
  have herase : ∀ lane₁ id₁, (s.trace.owner (lane₁.group, id₁) = some t ∨
      s.trace.dropped (lane₁.group, id₁) = true ∨ s.trace.expected (lane₁.group, id₁) = true) →
      ((s.pending.set lane₁ ((s.pending.get lane₁).erase id₁)).get lane)[id]? = some v := by
    intro lane₁ id₁ hcase
    rw [getElem?_set_erase, if_neg]
    · exact hentry
    · grind
  cases h with
  | insert call =>
    have hfresh : s.trace.owner call.key = none := by simpa [orderly] using hg
    rw [Shared.insertCall, getElem?_set_insert, if_neg]
    · exact hentry
    · rintro ⟨rfl, rfl⟩
      rw [show s.trace.owner (call.lane.group, call.requestId) = none from hfresh] at howner
      cases howner
  | undoFull call | undoStopped call => exact herase call.lane call.requestId (Or.inl hpc.1)
  | takeRequest requestId => exact herase .request requestId (Or.inr (Or.inl hpc))
  | takeEvent requestId => exact herase .event requestId (Or.inr (Or.inl hpc))
  | takeStream requestId => exact herase .stream requestId (Or.inr (Or.inl hpc))
  | answerRequest requestId =>
    exact herase .request requestId (Or.inr (Or.inr (hcarried _ rfl).1))
  | answerEvent requestId => exact herase .event requestId (Or.inr (Or.inr (hcarried _ rfl).1))
  | answerStream requestId => exact herase .stream requestId (Or.inr (Or.inr (hcarried _ rfl).1))
  | failPending | failEvent | failStream =>
    have hdead : s.process.alive = false := hpc
    rw [show s.process.alive = true from halive] at hdead
    cases hdead
  | _ => exact hentry

theorem repliesAt_other (h : Moves s t pc k s' pc') (hk : fromPeer s pc k = true)
    (hg : orderly s pc = true) (hs : Accounted s) (hpc : repliesAt s t pc)
    (hcarried : s.Carried pc) {pc₁ : Pc V} (hne : u ≠ t) (hreader : pc₁.isReader = true →
      pc.isReader = false) (hpc₁ : repliesAt s u pc₁) (hcarried₁ : s.Carried pc₁) :
    repliesAt s' u pc₁ := by
  have hflow : Flow s pc s' pc' := flow_of_move h hk (by rintro frame rfl; exact hpc)
  have howner : ∀ {key}, s.trace.owner key = some u → s'.trace.owner key = some u :=
    fun ho => owner_mono h hg ho
  have hunsent : ∀ {key}, s.trace.owner key = some u → s.trace.expected key = false →
      s'.trace.expected key = false :=
    fun ho he => hflow.unsent hne ho (by rintro call rfl; exact hpc.1) he
  have hdropped : ∀ {key}, s.trace.dropped key = true → s'.trace.dropped key = true :=
    fun hd => dropped_mono h hd
  have hhandling : pc₁.isReader = true → ∀ {key}, s.handling key → s'.handling key := by
    grind [Shared.handling, log_move]
  cases pc₁ with
  | caller pc₁ =>
    cases pc₁ with
    | send =>
      obtain ⟨ho, he, hd, hp⟩ := hpc₁
      refine ⟨howner ho, hunsent ho he, undropped_move h hpc hne ho hd, fun halive => ?_⟩
      have halive₀ : s.process.alive = true := by
        by_contra hdead
        rw [dead_mono h (by simpa using hdead)] at halive
        cases halive
      exact entry_kept h hg hpc hcarried ho hne he hd (hp halive₀) halive
    | undo => exact ⟨howner hpc₁.1, hunsent hpc₁.1 hpc₁.2⟩
    | holding => exact howner hpc₁
    | _ => trivial
  | cancel pc₁ =>
    cases pc₁ with
    | pending | eventPending | streamPending | alive | remember => exact hdropped hpc₁
    | send => exact hpc₁
    | _ => trivial
  | reader pc₁ =>
    cases pc₁ with
    | read =>
      obtain ⟨hrec, hhand⟩ := log_move h (hreader rfl)
      change s'.trace.received = s'.trace.handled.map Prod.fst
      rw [hrec, hhand]
      exact hpc₁
    | pending | streamPending => exact hhandling rfl hpc₁
    | eventPending requestId =>
      have hexp := (hcarried₁ (.call, requestId) rfl).1
      refine ⟨hhandling rfl hpc₁.1, ?_⟩
      show (s'.pending.get .request)[requestId]? = none
      exact absent_move h hg hs hexp hpc₁.2
    | cancelled key =>
      refine ⟨hhandling rfl hpc₁.1, fun lane hlane => ?_⟩
      have hexp := (hcarried₁ key rfl).1
      exact absent_move h hg hs (by rw [hlane]; exact hexp) (hpc₁.2 lane hlane)
    | retire key answer =>
      cases answer with
      | none => exact ⟨hhandling rfl hpc₁.1, hdropped hpc₁.2⟩
      | some => exact ⟨hhandling rfl hpc₁.1, owner_mono h hg hpc₁.2⟩
    | deliver => exact ⟨hhandling rfl hpc₁.1, owner_mono h hg hpc₁.2⟩
  | dying stage failure after =>
    cases stage with
    | swap =>
      cases after with
      | reader => exact dead_mono h hpc₁
      | _ => trivial
    | _ => exact dead_mono h hpc₁
  | _ => trivial

/-! ## What a step keeps of the accounts -/

theorem registered_erase (hp : s'.pending = s.pending.set lane₁ ((s.pending.get lane₁).erase id₁))
    (hne : key ≠ (lane₁.group, id₁)) (h : s.Registered key) : s'.Registered key := by
  obtain ⟨lane, hlane, hentry⟩ := h
  refine ⟨lane, hlane, ?_⟩
  rw [hp, getElem?_set_erase, if_neg]
  · exact hentry
  · grind

/-- An id that a cancel has put into `cancelled`, or that was there before. -/
theorem isCancelled_remember {key₁ : Key}
    (hroom : (s.cancelled.get key₁.1).size < maxCancelledRequestIds) :
    (s.rememberCancelled key₁).isCancelled key = (decide (key₁ = key) || s.isCancelled key) := by
  obtain ⟨group₁, id₁⟩ := key₁
  obtain ⟨group, id⟩ := key
  simp only [Shared.isCancelled, Shared.rememberCancelled, evict_of_lt hroom, PerGroup.get_set]
  by_cases hgroup : group₁ = group
  · grind
  · simp [hgroup]

theorem isCancelled_absorb {key₁ : Key} :
    (s.absorb key₁).isCancelled key = (!decide (key₁ = key) && s.isCancelled key) := by
  obtain ⟨group₁, id₁⟩ := key₁
  obtain ⟨group, id⟩ := key
  simp only [Shared.isCancelled, Shared.absorb, PerGroup.get_set]
  by_cases hgroup : group₁ = group
  · grind
  · simp [hgroup]

theorem waiting_erase (hs : Accounted s)
    (hp : s'.pending = s.pending.set lane₁ ((s.pending.get lane₁).erase id₁))
    (halive : s.process.alive = true) (hexp : s.trace.expected key = true)
    (hne : key ≠ (lane₁.group, id₁)) :
    s'.Registered key ∨ s.trace.leaving key = true ∨ s.isCancelled key = true := by
  rcases hs.waiting halive key hexp with hr | hr | hr
  · exact Or.inl (registered_erase hp hne hr)
  · exact Or.inr (Or.inl hr)
  · exact Or.inr (Or.inr hr)

theorem waiting_takeEntry (hs : Accounted s) (lane₁ : Lane) (id₁ : Nat)
    (halive : s.process.alive = true) (hexp : s.trace.expected key = true) :
    (s.takeEntry lane₁ id₁).Registered key ∨ (s.takeEntry lane₁ id₁).trace.leaving key = true ∨
      (s.takeEntry lane₁ id₁).isCancelled key = true := by
  change _ ∨ Function.update s.trace.leaving (lane₁.group, id₁) true key = true ∨ _
  rw [Function.update_apply]
  by_cases heq : key = (lane₁.group, id₁)
  · exact Or.inr (Or.inl (if_pos heq))
  · rw [if_neg heq]
    exact waiting_erase hs rfl halive hexp heq

/-- An id whose call the reader has found is not expected any more. -/
theorem waiting_answerCall (hs : Accounted s) (lane₁ : Lane) (id₁ : Nat)
    (halive : s.process.alive = true) (hexp : (s.answerCall lane₁ id₁).trace.expected key = true) :
    (s.answerCall lane₁ id₁).Registered key ∨ s.trace.leaving key = true ∨
      s.isCancelled key = true := by
  change Function.update s.trace.expected (lane₁.group, id₁) false key = true at hexp
  rw [Function.update_apply] at hexp
  split at hexp
  · cases hexp
  · next hne => exact waiting_erase hs rfl halive hexp hne

theorem waiting_move (h : Moves s t pc k s' pc') (hg : orderly s pc = true) (hs : Accounted s)
    (hpc : repliesAt s t pc) (halive : s'.process.alive = true)
    (hexp : s'.trace.expected key = true) :
    s'.Registered key ∨ s'.trace.leaving key = true ∨ s'.isCancelled key = true := by
  cases h with
  | insert =>
    rcases hs.waiting halive key hexp with ⟨lane, hlane, hr⟩ | hr
    · refine Or.inl ⟨lane, hlane, ?_⟩
      rw [Shared.insertCall, getElem?_set_insert]
      split
      · rfl
      · exact hr
    · exact Or.inr hr
  | queue call =>
    change Function.update s.trace.expected call.key true key = true at hexp
    rw [Function.update_apply] at hexp
    split at hexp
    · next heq =>
        subst heq
        have hentry := hpc.2.2.2 halive
        exact Or.inl ⟨call.lane, rfl, by
          change (s.pending.get call.lane)[call.requestId]?.isSome = true
          rw [hentry]
          rfl⟩
    · exact hs.waiting halive key hexp
  | undoFull | undoStopped =>
    change _ ∨ s.trace.leaving key = true ∨ s.isCancelled key = true
    refine waiting_erase hs rfl halive hexp ?_
    rintro rfl
    exact Bool.false_ne_true (hpc.2.symm.trans hexp)
  | takeRequest requestId => exact waiting_takeEntry hs .request requestId halive hexp
  | takeEvent requestId => exact waiting_takeEntry hs .event requestId halive hexp
  | takeStream requestId => exact waiting_takeEntry hs .stream requestId halive hexp
  | remember x =>
    have hroom := of_decide_eq_true hg
    change _ ∨ Function.update s.trace.leaving x.key false key = true ∨ _
    rw [isCancelled_remember hroom, Function.update_apply]
    rcases hs.waiting halive key hexp with hr | hr | hr
    · exact Or.inl hr
    · grind
    · simp [hr]
  | answerRequest requestId => exact waiting_answerCall hs .request requestId halive hexp
  | answerEvent requestId => exact waiting_answerCall hs .event requestId halive hexp
  | answerStream requestId => exact waiting_answerCall hs .stream requestId halive hexp
  | absorb key₁ =>
    change Function.update s.trace.expected key₁ false key = true at hexp
    rw [Function.update_apply] at hexp
    split at hexp
    · cases hexp
    · next hne =>
        rw [isCancelled_absorb]
        rcases hs.waiting halive key hexp with hr | hr | hr
        · exact Or.inl hr
        · exact Or.inr (Or.inl hr)
        · grind
  | kill => cases halive
  | failPending | failEvent | failStream | clearCancelled | clearStreamCancelled =>
    have hdead : s.process.alive = false := hpc
    rw [show s.process.alive = true from halive] at hdead
    cases hdead
  | _ => exact hs.waiting halive key hexp

/-- The entries of the registries belong to the calls their ids were given to. -/
theorem entries_move (h : Moves s t pc k s' pc') (hg : orderly s pc = true) (hs : Accounted s)
    (he : (s'.pending.get lane)[id]? = some u) : s'.trace.owner (lane.group, id) = some u := by
  cases h with
  | insert call k check =>
    rw [Shared.insertCall, getElem?_set_insert] at he
    change Function.update s.trace.owner call.key (some t) (lane.group, id) = some u
    split at he
    · next heq =>
        obtain ⟨rfl, rfl⟩ := heq
        rw [← he]
        exact Function.update_self ..
    · exact owner_mono (.insert call k check) hg (hs.entries lane id u he)
  | undoFull | undoStopped | takeRequest | takeEvent | takeStream | answerRequest | answerEvent
  | answerStream => exact hs.entries lane id u (getElem?_of_set_erase he)
  | failPending | failEvent | failStream =>
    exact hs.entries lane id u (getElem?_of_set_empty he)
  | _ => exact hs.entries lane id u he

theorem owned_move (h : Moves s t pc k s' pc') (hk : fromPeer s pc k = true)
    (hg : orderly s pc = true) (hs : Accounted s) (hpc : repliesAt s t pc)
    (hexp : s'.trace.expected key = true) : s'.trace.owner key ≠ none := by
  have hflow : Flow s pc s' pc' := flow_of_move h hk (by rintro frame rfl; exact hpc)
  have hkeep : s.trace.expected key = true → s'.trace.owner key ≠ none := by
    intro he
    obtain ⟨u, hu⟩ := Option.ne_none_iff_exists'.mp (hs.owned key he)
    rw [owner_mono h hg hu]
    exact Option.some_ne_none u
  cases hflow with
  | queued call before expected =>
    rw [expected, Function.update_apply] at hexp
    split at hexp
    · next heq =>
        subst heq before
        rw [owner_mono h hg hpc.1]
        exact Option.some_ne_none t
    · exact hkeep hexp
  | found key₀ before after expected =>
    rw [expected, Function.update_apply] at hexp
    split at hexp
    · cases hexp
    · exact hkeep hexp
  | kept expected =>
    rw [expected] at hexp
    exact hkeep hexp

theorem dropped_owned_move (h : Moves s t pc k s' pc') (hg : orderly s pc = true)
    (hs : Accounted s) (hpc : repliesAt s t pc) (hd : s'.trace.dropped key = true) :
    s'.trace.owner key ≠ none := by
  have hkeep : s.trace.dropped key = true → s'.trace.owner key ≠ none := by
    intro hd₀
    obtain ⟨u, hu⟩ := Option.ne_none_iff_exists'.mp (hs.dropped key hd₀)
    rw [owner_mono h hg hu]
    exact Option.some_ne_none u
  cases h with
  | drop call =>
    change Function.update s.trace.dropped call.key true key = true at hd
    rw [Function.update_apply] at hd
    split at hd
    · next heq =>
        subst heq
        rw [owner_mono (.drop call) hg hpc]
        exact Option.some_ne_none t
    · exact hkeep hd
  | _ => exact hkeep hd

theorem cancelled_move (h : Moves s t pc k s' pc') (hg : orderly s pc = true) (hs : Accounted s)
    (hpc : repliesAt s t pc)
    (hc : s'.trace.leaving key = true ∨ s'.isCancelled key = true) :
    s'.trace.dropped key = true := by
  have htake : ∀ (lane₁ : Lane) (id₁ : Nat), s.trace.dropped (lane₁.group, id₁) = true →
      (Function.update s.trace.leaving (lane₁.group, id₁) true key = true ∨
        s.isCancelled key = true) → s.trace.dropped key = true := by
    intro lane₁ id₁ hd hc
    rw [Function.update_apply] at hc
    split at hc
    · next heq => rw [heq]; exact hd
    · exact hs.cancelled key hc
  cases h with
  | drop call => exact dropped_mono (.drop call) (hs.cancelled key hc)
  | takeRequest requestId => exact htake .request requestId hpc hc
  | takeEvent requestId => exact htake .event requestId hpc hc
  | takeStream requestId => exact htake .stream requestId hpc hc
  | remember x =>
    rw [isCancelled_remember (of_decide_eq_true hg)] at hc
    change Function.update s.trace.leaving x.key false key = true ∨ _ at hc
    by_cases heq : x.key = key
    · rw [← heq]
      exact hpc
    · rw [Function.update_apply, if_neg (Ne.symm heq), decide_eq_false heq,
        Bool.false_or] at hc
      exact hs.cancelled key hc
  | absorb =>
    rw [isCancelled_absorb] at hc
    refine hs.cancelled key (hc.imp id fun hcan => ?_)
    exact (Bool.and_eq_true_iff.mp hcan).2
  | clearCancelled | clearStreamCancelled =>
    refine hs.cancelled key (hc.imp id fun hcan => ?_)
    simp only [Shared.isCancelled, PerGroup.get_set] at hcan
    split at hcan
    · cases hcan
    · exact hcan
  | _ => exact hs.cancelled key hc

theorem Trace.Rightly.mono (h : Moves s t pc k s' pc') (hg : orderly s pc = true)
    {p : Key × Option Nat} (hp : s.trace.Rightly p) : s'.trace.Rightly p := by
  obtain ⟨key, call⟩ := p
  cases call with
  | none => exact dropped_mono h hp
  | some => exact owner_mono h hg hp

theorem handled_move (h : Moves s t pc k s' pc') (hg : orderly s pc = true) (hs : Accounted s)
    (hpc : repliesAt s t pc) : ∀ p ∈ s'.trace.handled, s'.trace.Rightly p := by
  have hold : ∀ p ∈ s.trace.handled, s'.trace.Rightly p :=
    fun p hp => (hs.handled p hp).mono h hg
  have hnew : ∀ q, s.trace.Rightly q → ∀ p ∈ s.trace.handled ++ [q], s'.trace.Rightly p := by
    intro q hq p hp
    rcases List.mem_append.mp hp with hp | hp
    · exact hold p hp
    · rw [List.mem_singleton.mp hp]
      exact hq.mono h hg
  cases h with
  | retireLate key => exact hnew (key, none) hpc.2
  | deliver key u => exact hnew (key, some u) hpc.2
  | _ => exact hold

theorem accounted_move (h : Moves s t pc k s' pc') (hk : fromPeer s pc k = true)
    (hg : orderly s pc = true) (hs : Accounted s) (hpc : repliesAt s t pc)
    (hcarried : s.Carried pc) : Accounted s' where
  inFlight key := by
    have hflow : Flow s pc s' pc' := flow_of_move h hk (by rintro frame rfl; exact hpc)
    have hle := hflow.inFlight_le hs hcarried (by rintro call rfl; exact hpc.2.1) key
    exact (Nat.le_add_right _ _).trans hle
  waiting halive _ hexp := waiting_move h hg hs hpc halive hexp
  entries _ _ _ he := entries_move h hg hs he
  owned _ hexp := owned_move h hk hg hs hpc hexp
  dropped _ hd := dropped_owned_move h hg hs hpc hd
  cancelled _ hc := cancelled_move h hg hs hpc hc
  handled := handled_move h hg hs hpc

/-! ## The thread that moves -/

theorem key_dropPc (call : Call) (hd : s.trace.dropped call.key = true) :
    repliesAt s t (.cancel (dropPc call)) := by
  obtain ⟨kind, requestId, capability, operation⟩ := call
  cases kind <;> exact hd

theorem repliesAt_last (x : Cancelled) : repliesAt s t (.cancel (lastPc x)) := by
  cases x with
  | call => rfl
  | stream => trivial

/-- A thread that has left `mark_dead` relies on nothing. -/
theorem repliesAt_after (after : After) : repliesAt s t after.pc := by
  cases after <;> trivial

theorem repliesAt_move (h : Moves s t pc k s' pc') (hk : fromPeer s pc k = true)
    (hg : orderly s pc = true) (hs : Accounted s) (hpc : repliesAt s t pc)
    (hcarried : s.Carried pc) : repliesAt s' t pc' := by
  cases h with
  | insert call =>
    have hfresh : s.trace.owner call.key = none := by simpa [orderly] using hg
    refine ⟨Function.update_self .., ?_, ?_, fun _ => ?_⟩
    · -- an id that was given to nobody is neither expected nor dropped
      change s.trace.expected call.key = false
      by_contra hexp
      exact hs.owned _ (by simpa using hexp) hfresh
    · change s.trace.dropped call.key = false
      by_contra hdropped
      exact hs.dropped _ (by simpa using hdropped) hfresh
    · exact (getElem?_set_insert ..).trans (if_pos ⟨rfl, rfl⟩)
  | queue => exact hpc.1
  | sendFails => exact ⟨hpc.1, hpc.2.1⟩
  | drop call => exact key_dropPc call (Function.update_self ..)
  | missRequest => exact hpc
  | takeRequest | takeEvent => exact hpc
  | takeStream => exact hpc
  | cancelAlive => exact hpc
  | retireCancelled x => exact repliesAt_last x
  | streamAlive => rfl
  | response | streamResponse =>
    change s.trace.received ++ [_] = s.trace.handled.map Prod.fst ++ [_]
    rw [show s.trace.received = s.trace.handled.map Prod.fst from hpc]
  | other | error => cases hk
  | answerRequest requestId u outcome k found =>
    exact ⟨hpc, hs.entries .request requestId u found⟩
  | answerEvent requestId u outcome k found =>
    exact ⟨hpc.1, hs.entries .event requestId u found⟩
  | answerStream requestId u outcome k found =>
    exact ⟨hpc, hs.entries .stream requestId u found⟩
  | notRequest requestId outcome k missing => exact ⟨hpc, missing⟩
  | notEvent requestId outcome k missing =>
    refine ⟨hpc.1, fun lane hlane => ?_⟩
    cases lane with
    | request => exact hpc.2
    | event => exact missing
    | stream => cases hlane
  | notStream requestId outcome k missing =>
    refine ⟨hpc, fun lane hlane => ?_⟩
    cases lane with
    | stream => exact missing
    | _ => cases hlane
  | absorb key k found => exact ⟨hpc.1, hs.cancelled key (Or.inr found)⟩
  | violation key k missing =>
    -- on a live process the id would be in `cancelled`, or a cancel would be moving it
    change s.process.alive = false
    by_contra halive
    rcases hs.waiting (by simpa using halive) key (hcarried key rfl).1 with
      ⟨lane, hlane, hentry⟩ | hleaving | hcancelled
    · rw [hpc.2 lane hlane] at hentry
      cases hentry
    · grind [orderly]
    · rw [Shared.isCancelled, missing] at hcancelled
      cases hcancelled
  | retireLate key =>
    change s.trace.received = (s.trace.handled ++ [(key, none)]).map Prod.fst
    rw [List.map_append]
    exact hpc.1
  | retireAnswered => exact hpc
  | deliver key u =>
    change s.trace.received = (s.trace.handled ++ [(key, some u)]).map Prod.fst
    rw [List.map_append]
    exact hpc.1
  | kill => rfl
  | killed failure after | notify failure after => exact repliesAt_after after
  | store => exact hpc
  | failPending | failEvent | failStream =>
    exact hpc
  | clearCancelled | clearStreamCancelled => exact hpc
  | _ => trivial

theorem isReader_move (h : Moves s t pc k s' pc') (hr : pc'.isReader = true) :
    pc.isReader = true := by
  cases h with
  | killed failure after | notify failure after => cases after <;> cases hr
  | _ => first | rfl | cases hr

end

theorem replies_init (queueCapacity eventQueueCapacity : Nat) (capability : String) :
    replies.Holds (init (V := V) queueCapacity eventQueueCapacity capability) := by
  refine ⟨?_, ?_, ?_⟩
  · refine ⟨fun _ => Nat.zero_le _, nofun, ?_, nofun, nofun, ?_, nofun⟩
    · intro lane id u he
      cases lane <;> cases he
    · intro key hc
      obtain ⟨group, id⟩ := key
      rcases hc with hc | hc
      · cases hc
      · cases group <;> cases hc
  · intro t pc hpc
    rcases init_pool hpc with ⟨-, rfl⟩ | ⟨-, rfl⟩
    · exact ⟨rfl, nofun⟩
    · exact ⟨trivial, nofun⟩
  · intro t u pc pc' htu ht hu
    rcases init_pool ht with ⟨rfl, rfl⟩ | ⟨rfl, rfl⟩ <;>
      rcases init_pool hu with ⟨rfl, rfl⟩ | ⟨rfl, rfl⟩
    · exact absurd rfl htu
    · exact ⟨nofun, fun _ => rfl⟩
    · exact ⟨nofun, nofun⟩
    · exact absurd rfl htu

theorem starts_free {pc : Pc V} (h : pc.starts = true) (s : Shared V) (t : Nat) :
    repliesAt s t pc ∧ pc.carries = none ∧ pc.isReader = false := by
  cases pc with
  | caller pc | cancel pc => cases pc <;> first | exact ⟨trivial, rfl, rfl⟩ | cases h
  | monitor => exact ⟨trivial, rfl, rfl⟩
  | _ => cases h

theorem replies_valid : (replies (V := V)).Valid program orderlyAnswers where
  start s t pc _ hpc _ := by
    obtain ⟨hat, hcarries, -⟩ := starts_free hpc s t
    refine ⟨hat, fun key hkey => ?_⟩
    rw [hcarries] at hkey
    cases hkey
  start_pair s t pc u pc' _ hpc _ _ _ := by
    obtain ⟨-, hcarries, hreader⟩ := starts_free hpc s t
    refine ⟨⟨fun key hkey => ?_, fun hr => ?_⟩, fun key _ => ?_, fun _ => hreader⟩
    · rw [hcarries] at hkey
      cases hkey
    · rw [hreader] at hr
      cases hr
    · rw [hcarries]
      exact nofun
  move s t pc k m hs hpc hg hm := by
    have h := move_moves hm
    have hflow := flow_of_move h hg.1 (by rintro frame rfl; exact hpc.1)
    exact ⟨accounted_move h hg.1 hg.2 hs hpc.1 hpc.2,
      repliesAt_move h hg.1 hg.2 hs hpc.1 hpc.2,
      hflow.carried hs hpc.2 (by rintro call rfl; exact hpc.1.2.1)⟩
  child s t pc k m u pc' _ _ _ hm hc _ := by
    rw [(move_eq_some hm).2] at hc
    cases hc
  other s t pc k m u pc' hs hpc hpc' htu hpair hpair' hg _ hm := by
    have h := move_moves hm
    have hsend : ∀ call, pc = .caller (.send call) → s.trace.expected call.key = false := by
      rintro call rfl
      exact hpc.1.2.1
    have hflow := flow_of_move h hg.1 (by rintro frame rfl; exact hpc.1)
    -- what the other thread carries stays its own
    have hother : ∀ key, pc'.carries = some key → m.shared.trace.expected key = true ∧
        m.shared.inFlight key = 0 ∧ m.next.carries ≠ some key := by
      intro key hkey
      obtain ⟨hexp, hzero⟩ := hpc'.2 key hkey
      exact hflow.carried_other (hpair'.1 key hkey) hsend hexp hzero
    refine ⟨⟨?_, fun key hkey => ?_⟩, ⟨fun key hkey hkey' => ?_, fun hr => ?_⟩, ?_, fun hr => ?_⟩
    · exact repliesAt_other h hg.1 hg.2 hs hpc.1 hpc.2 (Ne.symm htu) hpair'.2 hpc'.1 hpc'.2
    · exact ⟨(hother key hkey).1, (hother key hkey).2.1⟩
    · exact (hother key hkey').2.2 hkey
    · exact hpair.2 (isReader_move h hr)
    · exact fun key hkey => (hother key hkey).2.2
    · by_contra hnext
      have hreader := isReader_move h (by simpa using hnext)
      rw [hpair'.2 hr] at hreader
      cases hreader
  child_pair s t pc k m v pc'' u pc' _ _ _ _ _ _ _ _ _ hm hc := by
    rw [(move_eq_some hm).2] at hc
    cases hc

/-- A request of thread `t` up to its queued frame, which the writer then writes. -/
def requestWritten (t requestId : Nat) : List (Act (Pc Nat) (Input Nat)) :=
  [.start t (.caller (.enter ⟨.request, requestId, "example.store@1", "get"⟩)), .move t .go 0,
    .move t (.encoded true) 0, .move t .go 0, .move t .go 0] ++
  [.move 0 .go 0, .move 0 .go 0, .move 0 .go 0, .move 0 (.written none) 0]

/-- The owner drops its call, and the cancel takes it out of `pending`; then the rest of the
cancel. -/
def dropTakes (t : Nat) : List (Act (Pc Nat) (Input Nat)) := [.move t .drop 0, .move t .go 0]

def cancelGoesOn (t : Nat) : List (Act (Pc Nat) (Input Nat)) :=
  [.move t .go 0, .move t .go 0, .move t .go 0, .move t (.encoded true) 0]

/-- The peer answers, and the reader makes `n` steps with the answer. -/
def answered (requestId n : Nat) : List (Act (Pc Nat) (Input Nat)) :=
  .move 1 (.read (.response requestId 0)) 0 :: List.replicate n (.move 1 .go 0)

end LensoBun.Transport.Framed
