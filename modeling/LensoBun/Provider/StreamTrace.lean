import LensoBun.Provider.Stream

set_option autoImplicit false

/-! # The life of a stream under calls that do not overlap

Calls and cancels, on any stream ids, are performed one after the other (`perform`,
`transcript`), with any answers of the provider. The events returned for one stream are its
messages in sequence, then at most one half-close, then at most one terminal; and the exchange
that ends the stream releases its permit and takes it out of the table, so that nothing reaches
the provider's stream afterwards.
-/

namespace LensoBun.Provider

open Std Lib

variable {V : Type}

/-! ## Exchanges -/

inductive StreamOp (V : Type) where
  | call (call : WireStreamCall V) (provider : ProviderAnswers V)
  | cancel (streamId : Nat) (session : String)

def StreamOp.streamId : StreamOp V → Nat
  | .call c _ => c.streamId
  | .cancel streamId _ => streamId

inductive Reply (V : Type) where
  /-- The outcome of a call; `none` when it ended in a panic of the provider. -/
  | outcome (outcome : Option (WireStreamOutcome V))
  | cancelled (acknowledged : Bool)

structure Exchange (V : Type) where
  op : StreamOp V
  reply : Reply V
  effects : List (StreamEffect V)

def perform (state : StreamState) : StreamOp V → StreamState × Exchange V
  | .call call provider =>
    let answer := handleStreamCall state call provider
    (answer.1, ⟨.call call provider, .outcome answer.2.1, answer.2.2⟩)
  | .cancel streamId session =>
    let answer := handleStreamCancel state streamId session
    (answer.1, ⟨.cancel streamId session, .cancelled answer.2.1, answer.2.2⟩)

/-- The state after a list of calls and cancels. -/
def performAll (state : StreamState) : List (StreamOp V) → StreamState
  | [] => state
  | op :: ops => performAll (perform state op).1 ops

/-- The exchanges of a list of calls and cancels. -/
def transcript (state : StreamState) : List (StreamOp V) → List (Exchange V)
  | [] => []
  | op :: ops => (perform state op).2 :: transcript (perform state op).1 ops

def eventOf : Option (WireStreamOutcome V) → Option (WireStreamEvent V)
  | some (.event event) => some event
  | _ => none

def Exchange.event? (x : Exchange V) : Option (WireStreamEvent V) :=
  match x.reply with
  | .outcome outcome => eventOf outcome
  | .cancelled _ => none

def StreamEffect.isRelease : StreamEffect V → Bool
  | .releasePermit => true
  | _ => false

/-- A call on the provider's stream that gets an answer. -/
def StreamEffect.asks : StreamEffect V → Bool
  | .send _ | .receive | .peerHalfClosed => true
  | _ => false

/-- An outcome that ends the stream: a terminal, or a fatal failure in a call that has asked the
provider. -/
def endsWith (outcome : Option (WireStreamOutcome V)) (effects : List (StreamEffect V)) : Bool :=
  match outcome with
  | none => false
  | some outcome => outcome.isTerminal || (outcome.isFatal && effects.any StreamEffect.asks)

def Exchange.ends (x : Exchange V) : Bool :=
  match x.reply with
  | .outcome outcome => endsWith outcome x.effects
  | .cancelled acknowledged => acknowledged

/-- The exchange had no effect, and if it is a call, it was refused. -/
def Exchange.Refused (capability : String) (x : Exchange V) : Prop :=
  x.effects = [] ∧ ∀ call provider, x.op = .call call provider →
    x.reply = .outcome (some (streamRuntimeOutcome (protocolFailure capability)))

def onStream (streamId : Nat) (xs : List (Exchange V)) : List (Exchange V) :=
  xs.filter (fun x => x.op.streamId == streamId)

def releases (xs : List (Exchange V)) : Nat :=
  (xs.flatMap Exchange.effects).countP StreamEffect.isRelease

/-- Messages numbered from zero, then possibly a half-close, then possibly a terminal. -/
def eventHistory (payloads : List V) (halfClosed : Bool)
    (terminal : Option (WireStreamTerminal V)) : List (WireStreamEvent V) :=
  payloads.mapIdx (fun i payload => .message (UInt64.ofNat i) payload) ++
    (if halfClosed then [.peerHalfClosed] else []) ++ (terminal.map .terminal).toList

theorem eventHistory_message (payloads : List V) (payload : V) :
    eventHistory (payloads ++ [payload]) false none =
      eventHistory payloads false none ++
        [.message (UInt64.ofNat payloads.length) payload] := by
  simp [eventHistory, List.mapIdx_append]

theorem eventHistory_halfClosed (payloads : List V) :
    eventHistory payloads true none = eventHistory payloads false none ++ [.peerHalfClosed] := by
  simp [eventHistory]

theorem eventHistory_terminal (payloads : List V) (halfClosed : Bool)
    (terminal : WireStreamTerminal V) :
    eventHistory payloads halfClosed (some terminal) =
      eventHistory payloads halfClosed none ++ [.terminal terminal] := by
  simp [eventHistory]

@[simp] theorem perform_op (state : StreamState) (op : StreamOp V) :
    (perform state op).2.op = op := by
  cases op <;> rfl

theorem transcript_append (state : StreamState) (ops ops' : List (StreamOp V)) :
    transcript state (ops ++ ops') =
      transcript state ops ++ transcript (performAll state ops) ops' := by
  induction ops generalizing state with
  | nil => rfl
  | cons op ops ih => simp only [List.cons_append, transcript, performAll, ih]

theorem performAll_append (state : StreamState) (ops ops' : List (StreamOp V)) :
    performAll state (ops ++ ops') = performAll (performAll state ops) ops' := by
  induction ops generalizing state with
  | nil => rfl
  | cons op ops ih => simp only [List.cons_append, performAll, ih]

/-! ## What one call does to a live entry -/

@[simp] theorem isTerminal_streamRuntimeOutcome (error : RuntimeFailure) :
    (streamRuntimeOutcome error : WireStreamOutcome V).isTerminal = false := rfl

@[simp] theorem isFatal_streamRuntimeOutcome (error : RuntimeFailure) :
    (streamRuntimeOutcome error : WireStreamOutcome V).isFatal = !error.isResourceExhausted := by
  rw [← isResourceExhausted_toWireFailure]
  rfl

@[simp] theorem isResourceExhausted_protocolFailure (capability : String) :
    (protocolFailure capability).isResourceExhausted = false := rfl

@[simp] theorem eventOf_streamRuntimeOutcome (error : RuntimeFailure) :
    eventOf (some (streamRuntimeOutcome error : WireStreamOutcome V)) = none := rfl

@[simp] theorem isTerminal_event (event : WireStreamEvent V) :
    (WireStreamOutcome.event event).isTerminal =
      match event with
      | .terminal _ => true
      | _ => false := by
  cases event <;> rfl

@[simp] theorem isFatal_event (event : WireStreamEvent V) :
    (WireStreamOutcome.event event).isFatal = false := rfl

/-- The four things a call can do on an entry whose terminal has not been seen. -/
inductive Progress (entry : ProviderStreamEntry) (answered : Answered V) : Prop where
  | message (payload : V)
      (outcome : answered.outcome =
        some (.event (.message entry.nextOutboundSequence payload)))
      (unclosed : entry.localHalfClosed = false)
      (next : answered.entry.nextOutboundSequence = entry.nextOutboundSequence + 1)
      (half : answered.entry.localHalfClosed = false)
      (terminal : answered.entry.terminalSeen = false)
      (stays : answered.retire = false)
  | halfClosed
      (outcome : answered.outcome = some (.event .peerHalfClosed))
      (unclosed : entry.localHalfClosed = false)
      (next : answered.entry.nextOutboundSequence = entry.nextOutboundSequence)
      (half : answered.entry.localHalfClosed = true)
      (terminal : answered.entry.terminalSeen = false)
      (stays : answered.retire = false)
  | terminal (terminal : WireStreamTerminal V)
      (outcome : answered.outcome = some (.event (.terminal terminal)))
      (retires : answered.retire = true)
  | quiet (event : eventOf answered.outcome = none)
      (kept : answered.retire = false →
        answered.entry.nextOutboundSequence = entry.nextOutboundSequence ∧
        answered.entry.localHalfClosed = entry.localHalfClosed ∧
        answered.entry.terminalSeen = false)

variable {entry entry' : ProviderStreamEntry} {failure : WireFailure}
  {streamId requestedCredit : Nat} {state : StreamState} {operation : String}

theorem progress_refused (hnext : entry'.nextOutboundSequence = entry.nextOutboundSequence)
    (hhalf : entry'.localHalfClosed = entry.localHalfClosed) (hterm : entry'.terminalSeen = false) :
    Progress entry (Answered.refused entry' (.runtime failure) : Answered V) :=
  .quiet rfl (fun _ => ⟨hnext, hhalf, hterm⟩)

theorem progress_send (capability : String) (entry : ProviderStreamEntry) (sequence : UInt64)
    (payload : V) (answer : Option BunStreamAction) (h : entry.terminalSeen = false) :
    Progress entry (handleSend capability entry sequence payload answer) := by
  unfold handleSend
  split
  · exact progress_refused rfl rfl h
  split
  · exact progress_refused rfl rfl h
  split
  · exact progress_refused rfl rfl h
  rcases answer with _ | _ | error
  · exact .quiet rfl (fun _ => ⟨rfl, rfl, h⟩)
  · exact .quiet rfl (fun _ => ⟨rfl, rfl, h⟩)
  · dsimp only
    split
    · exact .quiet rfl (fun _ => ⟨rfl, rfl, h⟩)
    · exact .quiet rfl nofun

theorem progress_closeSend (capability : String) (entry : ProviderStreamEntry)
    (answer : Option BunStreamAction) (h : entry.terminalSeen = false) :
    Progress entry (handleCloseSend capability entry answer : Answered V) := by
  unfold handleCloseSend
  dsimp only
  split
  · exact progress_refused rfl rfl h
  rcases answer with _ | _ | error
  · exact .quiet rfl (fun _ => ⟨rfl, rfl, h⟩)
  · exact .quiet rfl (fun _ => ⟨rfl, rfl, h⟩)
  · dsimp only
    split
    · exact .quiet rfl (fun _ => ⟨rfl, rfl, h⟩)
    · exact .quiet rfl nofun

theorem progress_receive (capability : String) (entry : ProviderStreamEntry)
    (answer : Option (BunStreamReceive V)) (h : entry.terminalSeen = false) :
    Progress entry (handleReceive capability entry answer) := by
  unfold handleReceive
  split
  · exact progress_refused rfl rfl h
  rcases answer with _ | (payload | _ | outcome) | error
  · exact .quiet rfl (fun _ => ⟨rfl, rfl, h⟩)
  · by_cases hhalf : entry.localHalfClosed = true
    · -- a message after the half-close is a protocol violation, and fatal
      refine .quiet ?_ ?_ <;> simp [receiveResult, hhalf]
    · rw [Bool.not_eq_true] at hhalf
      refine .message payload ?_ hhalf ?_ ?_ ?_ ?_ <;> simp [receiveResult, hhalf, h]
  · by_cases hhalf : entry.localHalfClosed = true
    · refine .quiet ?_ ?_ <;> simp [receiveResult, hhalf]
    · rw [Bool.not_eq_true] at hhalf
      refine .halfClosed ?_ hhalf ?_ ?_ ?_ ?_ <;> simp [receiveResult, hhalf, h]
  · cases outcome with
    | ok => refine .terminal .success ?_ ?_ <;> simp [receiveResult, h]
    | error value => refine .terminal (.domain value) ?_ ?_ <;> simp [receiveResult, h]
  · exact .quiet rfl (fun _ => ⟨rfl, rfl, h⟩)

theorem progress_onEntry (capability : String) (entry : ProviderStreamEntry)
    (call : WireStreamCall V) (provider : ProviderAnswers V) (h : entry.terminalSeen = false) :
    Progress entry (handleOnEntry capability entry call provider) := by
  unfold handleOnEntry
  split
  · exact progress_refused rfl rfl h
  cases call with
  | send requestId streamId session sequence payload =>
    exact progress_send capability entry sequence payload provider.send h
  | receive =>
    exact progress_receive capability entry provider.receive h
  | closeSend =>
    exact progress_closeSend capability entry provider.peerHalfClosed h

/-- What every call on an entry respects: it does not touch the permit, and it asks for the
stream to be retired exactly when its outcome ends the stream. -/
structure Sound (entry : ProviderStreamEntry) (answered : Answered V) : Prop where
  permit : answered.entry.permit = entry.permit
  noRelease : answered.effects.countP StreamEffect.isRelease = 0
  retires : answered.retire = endsWith answered.outcome answered.effects

theorem sound_refused (h : entry'.permit = entry.permit) :
    Sound entry (Answered.refused entry' (.runtime failure) : Answered V) :=
  ⟨h, rfl, by simp [Answered.refused, endsWith, WireStreamOutcome.isTerminal]⟩

theorem sound_send (capability : String) (entry : ProviderStreamEntry) (sequence : UInt64)
    (payload : V) (answer : Option BunStreamAction) :
    Sound entry (handleSend capability entry sequence payload answer) := by
  unfold handleSend
  split
  · exact sound_refused rfl
  split
  · exact sound_refused rfl
  split
  · exact sound_refused rfl
  rcases answer with _ | _ | error
  · exact ⟨rfl, rfl, rfl⟩
  · exact ⟨rfl, rfl, rfl⟩
  · dsimp only
    split
    · next hre => exact ⟨rfl, rfl, by simp [endsWith, hre]⟩
    · next hre => exact ⟨rfl, rfl, by simp [endsWith, hre, StreamEffect.asks]⟩

theorem sound_closeSend (capability : String) (entry : ProviderStreamEntry)
    (answer : Option BunStreamAction) :
    Sound entry (handleCloseSend capability entry answer : Answered V) := by
  unfold handleCloseSend
  dsimp only
  split
  · exact sound_refused rfl
  rcases answer with _ | _ | error
  · exact ⟨rfl, rfl, rfl⟩
  · exact ⟨rfl, rfl, rfl⟩
  · dsimp only
    split
    · next hre => exact ⟨rfl, rfl, by simp [endsWith, hre]⟩
    · next hre => exact ⟨rfl, rfl, by simp [endsWith, hre, StreamEffect.asks]⟩

theorem receiveResult_permit (capability : String) (entry : ProviderStreamEntry)
    (answer : BunStreamReceive V) :
    (receiveResult capability entry answer).1.permit = entry.permit := by
  rcases answer with (payload | _ | outcome) | error
  · simp only [receiveResult]
    split <;> rfl
  all_goals rfl

theorem sound_receive (capability : String) (entry : ProviderStreamEntry)
    (answer : Option (BunStreamReceive V)) :
    Sound entry (handleReceive capability entry answer) := by
  unfold handleReceive
  split
  · exact sound_refused rfl
  cases answer with
  | none => exact ⟨rfl, rfl, rfl⟩
  | some answer =>
    have hpermit := receiveResult_permit capability { entry with receiveInFlight := true } answer
    dsimp only
    generalize receiveResult capability { entry with receiveInFlight := true } answer = r at hpermit ⊢
    refine ⟨hpermit, ?_, ?_⟩ <;> cases hfatal : r.2.isFatal <;>
      simp [endsWith, hfatal, StreamEffect.asks, StreamEffect.isRelease]

theorem sound_onEntry (capability : String) (entry : ProviderStreamEntry)
    (call : WireStreamCall V) (provider : ProviderAnswers V) :
    Sound entry (handleOnEntry capability entry call provider) := by
  unfold handleOnEntry
  split
  · exact sound_refused rfl
  cases call with
  | send => exact sound_send ..
  | receive => exact sound_receive ..
  | closeSend => exact sound_closeSend ..

/-! ## What one exchange does to the table -/

/-- Everything `handle_stream_call` can do: refuse, answer and keep the stream, or answer and
retire it. -/
theorem handleStreamCall_cases (state : StreamState) (call : WireStreamCall V)
    (provider : ProviderAnswers V) :
    handleStreamCall state call provider =
      (state, some (streamRuntimeOutcome (protocolFailure state.capability)), []) ∨
    ∃ entry answered, state.streams[call.streamId]? = some entry ∧
      answered = handleOnEntry state.capability entry call provider ∧
      ((answered.retire = false ∧ handleStreamCall state call provider =
          ({ state with streams := state.streams.insert call.streamId answered.entry },
            answered.outcome, answered.effects)) ∨
      (answered.retire = true ∧ handleStreamCall state call provider =
          ((retireStream (V := V) state call.streamId answered.entry).1, answered.outcome,
            answered.effects ++ (retireStream state call.streamId answered.entry).2))) := by
  unfold handleStreamCall
  split
  · exact Or.inl rfl
  cases hfound : state.streams[call.streamId]? with
  | none => exact Or.inl rfl
  | some entry => grind

/-- The same for `handle_stream_cancel`. -/
theorem handleStreamCancel_cases (state : StreamState) (streamId : Nat) (session : String) :
    handleStreamCancel (V := V) state streamId session = (state, false, []) ∨
    (state.streams[streamId]? = none ∧
      handleStreamCancel (V := V) state streamId session = (state, true, [])) ∨
    ∃ entry, state.streams[streamId]? = some entry ∧
      handleStreamCancel (V := V) state streamId session =
        ((retireStream (V := V) state streamId entry).1, true,
          .cancel :: (retireStream state streamId entry).2) := by
  unfold handleStreamCancel
  split
  · exact Or.inl rfl
  cases hfound : state.streams[streamId]? with
  | none => exact Or.inr (Or.inl ⟨rfl, rfl⟩)
  | some entry => exact Or.inr (Or.inr ⟨entry, rfl, rfl⟩)

theorem retireStream_capability (state : StreamState) (streamId : Nat)
    (entry : ProviderStreamEntry) :
    (retireStream (V := V) state streamId entry).1.capability = state.capability := by
  unfold retireStream takePermit
  split <;> rfl

theorem retireStream_getElem? (state : StreamState) (streamId : Nat)
    (entry : ProviderStreamEntry) (id : Nat) :
    (retireStream (V := V) state streamId entry).1.streams[id]? =
      if streamId = id then none else state.streams[id]? := by
  have hstreams : (retireStream (V := V) state streamId entry).1.streams =
      state.streams.erase streamId := by
    unfold retireStream takePermit
    split <;> rfl
  rw [hstreams, getElem?_erase_nat]

theorem retireStream_effects (h : entry.permit = true) (state : StreamState) (streamId : Nat) :
    (retireStream (V := V) state streamId entry).2 = [.releasePermit] := by
  unfold retireStream takePermit
  rw [if_pos h]

theorem perform_capability (state : StreamState) (op : StreamOp V) :
    (perform state op).1.capability = state.capability := by
  cases op with
  | call call provider => grind [perform, handleStreamCall_cases, retireStream_capability]
  | cancel streamId session => grind [perform, handleStreamCancel_cases, retireStream_capability]

theorem performAll_capability (state : StreamState) (ops : List (StreamOp V)) :
    (performAll state ops).capability = state.capability := by
  induction ops generalizing state with
  | nil => rfl
  | cons op ops ih => rw [performAll, ih, perform_capability]

theorem perform_other {op : StreamOp V} (hop : op.streamId ≠ streamId) (state : StreamState) :
    (perform state op).1.streams[streamId]? = state.streams[streamId]? := by
  cases op with
  | call call provider =>
    unfold perform
    rcases handleStreamCall_cases state call provider with
      h | ⟨entry, answered, -, -, ⟨-, h⟩ | ⟨-, h⟩⟩ <;> simp only [h]
    · exact (getElem?_insert_nat _ _ _ _).trans (if_neg hop)
    · exact (retireStream_getElem? _ _ _ _).trans (if_neg hop)
  | cancel id session =>
    unfold perform
    rcases handleStreamCancel_cases (V := V) state id session with
      h | ⟨-, h⟩ | ⟨entry, -, h⟩ <;> simp only [h]
    exact (retireStream_getElem? _ _ _ _).trans (if_neg hop)

/-- A stream that is not in the table stays out, and exchanges on it are refused. -/
theorem perform_missing {op : StreamOp V} (h : state.streams[op.streamId]? = none) :
    (perform state op).1 = state ∧ (perform state op).2.Refused state.capability ∧
      (perform state op).2.event? = none := by
  cases op with
  | call call provider =>
    change state.streams[call.streamId]? = none at h
    rcases handleStreamCall_cases state call provider with hcall | ⟨entry, _, hfound, -⟩
    · have hperform : perform state (.call call provider) = (state, ⟨.call call provider,
          .outcome (some (streamRuntimeOutcome (protocolFailure state.capability))), []⟩) := by
        rw [perform, hcall]
      rw [hperform]
      exact ⟨rfl, ⟨rfl, fun _ _ _ => rfl⟩, rfl⟩
    · rw [h] at hfound
      cases hfound
  | cancel id session =>
    change state.streams[id]? = none at h
    have hperform : ∃ acknowledged, perform (V := V) state (.cancel id session) =
        (state, ⟨.cancel id session, .cancelled acknowledged, []⟩) := by
      rcases handleStreamCancel_cases (V := V) state id session with
        hcancel | ⟨-, hcancel⟩ | ⟨entry, hfound, -⟩
      · exact ⟨false, by rw [perform, hcancel]⟩
      · exact ⟨true, by rw [perform, hcancel]⟩
      · rw [h] at hfound
        cases hfound
    obtain ⟨acknowledged, hperform⟩ := hperform
    rw [hperform]
    exact ⟨rfl, ⟨rfl, fun _ _ hop => by cases hop⟩, rfl⟩

/-! ## Alive or gone -/

/-- The stream is in the table, `payloads` have been returned for it, and it holds its permit. -/
structure Alive (streamId : Nat) (state : StreamState) (xs : List (Exchange V))
    (entry : ProviderStreamEntry) (payloads : List V) : Prop where
  found : state.streams[streamId]? = some entry
  permit : entry.permit = true
  terminal : entry.terminalSeen = false
  next : entry.nextOutboundSequence = UInt64.ofNat payloads.length
  events : xs.filterMap Exchange.event? = eventHistory payloads entry.localHalfClosed none
  held : releases xs = 0

/-- The stream has left the table and given back its permit. -/
structure Gone (streamId : Nat) (state : StreamState) (xs : List (Exchange V)) : Prop where
  missing : state.streams[streamId]? = none
  events : ∃ payloads halfClosed terminal,
    xs.filterMap Exchange.event? = eventHistory payloads halfClosed terminal
  released : releases xs = 1

theorem releases_append (xs : List (Exchange V)) (x : Exchange V) :
    releases (xs ++ [x]) = releases xs + x.effects.countP StreamEffect.isRelease := by
  simp [releases]

theorem filterMap_event_append (xs : List (Exchange V)) (x : Exchange V) :
    (xs ++ [x]).filterMap Exchange.event? =
      xs.filterMap Exchange.event? ++ x.event?.toList := by
  rw [List.filterMap_append]
  cases h : x.event? <;> simp [h]

section

variable {streamId : Nat} {state : StreamState} {xs : List (Exchange V)}
  {entry : ProviderStreamEntry} {payloads : List V}

theorem Alive.stays (h : Alive streamId state xs entry payloads) {answered : Answered V}
    (hp : Progress entry answered) (hs : Sound entry answered) (hr : answered.retire = false)
    (state' : StreamState) (hfound : state'.streams[streamId]? = some answered.entry)
    (x : Exchange V) (hx : x.reply = .outcome answered.outcome) (he : x.effects = answered.effects) :
    ∃ payloads', Alive streamId state' (xs ++ [x]) answered.entry payloads' := by
  have hevent : x.event? = eventOf answered.outcome := by rw [Exchange.event?, hx]
  have hpermit := hs.permit.trans h.permit
  have hheld : releases (xs ++ [x]) = 0 := by
    rw [releases_append, h.held, he, hs.noRelease]
  cases hp with
  | message payload outcome unclosed next half terminal =>
    refine ⟨payloads ++ [payload], hfound, hpermit, terminal, ?_, ?_, hheld⟩
    · rw [next, h.next, List.length_append, List.length_singleton, UInt64.ofNat_add]
      rfl
    · rw [filterMap_event_append, h.events, hevent, outcome, unclosed, half,
        eventHistory_message, ← h.next]
      rfl
  | halfClosed outcome unclosed next half terminal =>
    refine ⟨payloads, hfound, hpermit, terminal, next.trans h.next, ?_, hheld⟩
    rw [filterMap_event_append, h.events, hevent, outcome, unclosed, half,
      eventHistory_halfClosed]
    rfl
  | terminal terminal outcome retires =>
    rw [hr] at retires
    cases retires
  | quiet event kept =>
    obtain ⟨hnext, hhalf, hterm⟩ := kept hr
    refine ⟨payloads, hfound, hpermit, hterm, hnext.trans h.next, ?_, hheld⟩
    rw [filterMap_event_append, h.events, hevent, event, hhalf]
    exact List.append_nil _

theorem Alive.retires (h : Alive streamId state xs entry payloads) {answered : Answered V}
    (hp : Progress entry answered) (hr : answered.retire = true)
    (x : Exchange V) (hx : x.reply = .outcome answered.outcome) :
    ∃ halfClosed terminal,
      (xs ++ [x]).filterMap Exchange.event? = eventHistory payloads halfClosed terminal := by
  have hevent : x.event? = eventOf answered.outcome := by rw [Exchange.event?, hx]
  cases hp with
  | message payload outcome unclosed next half terminal stays
  | halfClosed outcome unclosed next half terminal stays =>
    rw [hr] at stays
    cases stays
  | terminal terminal outcome =>
    refine ⟨entry.localHalfClosed, some terminal, ?_⟩
    rw [filterMap_event_append, h.events, hevent, outcome, eventHistory_terminal]
    rfl
  | quiet event =>
    refine ⟨entry.localHalfClosed, none, ?_⟩
    rw [filterMap_event_append, h.events, hevent, event]
    exact List.append_nil _

variable {x : Exchange V} {state' : StreamState}

theorem Alive.unchanged (h : Alive streamId state xs entry payloads) (hevent : x.event? = none)
    (heffects : x.effects = []) : Alive streamId state (xs ++ [x]) entry payloads := by
  refine ⟨h.found, h.permit, h.terminal, h.next, ?_, ?_⟩
  · rw [filterMap_event_append, h.events, hevent]
    exact List.append_nil _
  · rw [releases_append, h.held, heffects]
    rfl

/-- What one call on a live stream does: the stream goes on, or it ends there and then. -/
theorem Alive.call {call : WireStreamCall V} (h : Alive call.streamId state xs entry payloads)
    (provider : ProviderAnswers V) (hx : perform state (.call call provider) = (state', x)) :
    (x.ends = false ∧
      ∃ entry' payloads', Alive call.streamId state' (xs ++ [x]) entry' payloads') ∨
    (x.ends = true ∧ Gone call.streamId state' (xs ++ [x])) := by
  have hp := progress_onEntry state.capability entry call provider h.terminal
  have hs := sound_onEntry state.capability entry call provider
  rw [perform] at hx
  rcases handleStreamCall_cases state call provider with
    hcall | ⟨entry', answered, hfound, rfl, hcall⟩
  · -- the session is not valid
    rw [hcall] at hx
    cases hx
    exact Or.inl ⟨by simp [Exchange.ends, endsWith], entry, payloads, h.unchanged rfl rfl⟩
  rw [h.found, Option.some.injEq] at hfound
  subst hfound
  rcases hcall with ⟨hretire, hcall⟩ | ⟨hretire, hcall⟩
  · rw [hcall] at hx
    cases hx
    refine Or.inl ⟨hs.retires.symm.trans hretire,
      (handleOnEntry state.capability entry call provider).entry, ?_⟩
    refine h.stays hp hs hretire _ ?_ _ rfl rfl
    exact (getElem?_insert_nat _ _ _ _).trans (if_pos rfl)
  · rw [hcall, retireStream_effects (hs.permit.trans h.permit)] at hx
    cases hx
    refine Or.inr ⟨?_, ?_, ?_, ?_⟩
    · rw [← hretire, hs.retires]
      simp [Exchange.ends, endsWith, StreamEffect.asks]
    · exact (retireStream_getElem? _ _ _ _).trans (if_pos rfl)
    · exact ⟨payloads, h.retires hp hretire _ rfl⟩
    · rw [releases_append, h.held, List.countP_append, hs.noRelease]
      rfl

/-- A cancel ends a live stream if the session is valid, and does nothing otherwise. -/
theorem Alive.cancel (h : Alive streamId state xs entry payloads) (session : String)
    (hx : perform state (.cancel streamId session) = (state', x)) :
    (x.ends = false ∧ Alive streamId state' (xs ++ [x]) entry payloads) ∨
    (x.ends = true ∧ Gone streamId state' (xs ++ [x])) := by
  rw [perform] at hx
  rcases handleStreamCancel_cases (V := V) state streamId session with
    hcancel | ⟨hfound, -⟩ | ⟨entry', hfound, hcancel⟩
  · rw [hcancel] at hx
    cases hx
    exact Or.inl ⟨rfl, h.unchanged rfl rfl⟩
  · rw [h.found] at hfound
    cases hfound
  · rw [h.found, Option.some.injEq] at hfound
    subst hfound
    rw [hcancel, retireStream_effects h.permit] at hx
    cases hx
    refine Or.inr ⟨rfl, ?_, ⟨payloads, entry.localHalfClosed, none, ?_⟩, ?_⟩
    · exact (retireStream_getElem? _ _ _ _).trans (if_pos rfl)
    · rw [filterMap_event_append, h.events]
      exact List.append_nil _
    · rw [releases_append, h.held]
      rfl

theorem Gone.perform (h : Gone streamId state xs) {op : StreamOp V} (hop : op.streamId = streamId)
    (hx : Provider.perform state op = (state', x)) : Gone streamId state' (xs ++ [x]) := by
  subst hop
  obtain ⟨hstate, ⟨heffects, -⟩, hevent⟩ := perform_missing h.missing
  rw [hx] at hstate heffects hevent
  dsimp only at hstate heffects hevent
  subst hstate
  refine ⟨h.missing, ?_, ?_⟩
  · obtain ⟨payloads, halfClosed, terminal, hevents⟩ := h.events
    refine ⟨payloads, halfClosed, terminal, ?_⟩
    rw [filterMap_event_append, hevents, hevent]
    exact List.append_nil _
  · rw [releases_append, h.released, heffects]
    rfl

end

/-! ## Whole histories -/

/-- The stream is alive or gone, after the exchanges `xs` on it. -/
def Life (streamId : Nat) (state : StreamState) (xs : List (Exchange V)) : Prop :=
  (∃ entry payloads, Alive streamId state xs entry payloads) ∨ Gone streamId state xs

section

variable {streamId : Nat} {state : StreamState} {xs : List (Exchange V)}

variable {state' : StreamState}

/-- One exchange on the stream keeps it alive or ends it; if the exchange ends it, it is gone. -/
theorem Life.perform (h : Life streamId state xs) {op : StreamOp V} (hop : op.streamId = streamId)
    {x : Exchange V} (hx : Provider.perform state op = (state', x)) :
    Life streamId state' (xs ++ [x]) ∧ (x.ends = true → Gone streamId state' (xs ++ [x])) := by
  rcases h with ⟨entry, payloads, halive⟩ | hgone
  · have hstep : (x.ends = false ∧
        ∃ entry' payloads', Alive streamId state' (xs ++ [x]) entry' payloads') ∨
        (x.ends = true ∧ Gone streamId state' (xs ++ [x])) := by
      subst hop
      cases op with
      | call call provider => exact halive.call provider hx
      | cancel id session =>
        rcases halive.cancel session hx with ⟨hends, halive'⟩ | hgone
        · exact Or.inl ⟨hends, entry, payloads, halive'⟩
        · exact Or.inr hgone
    rcases hstep with ⟨hends, halive'⟩ | ⟨-, hgone⟩
    · exact ⟨Or.inl halive', fun h => by rw [hends] at h; cases h⟩
    · exact ⟨Or.inr hgone, fun _ => hgone⟩
  · have hgone' := hgone.perform hop hx
    exact ⟨Or.inr hgone', fun _ => hgone'⟩

theorem Life.other (h : Life streamId state xs)
    (hstreams : state'.streams[streamId]? = state.streams[streamId]?) :
    Life streamId state' xs := by
  rcases h with ⟨entry, payloads, halive⟩ | hgone
  · exact Or.inl ⟨entry, payloads, hstreams.trans halive.found, halive.permit, halive.terminal,
      halive.next, halive.events, halive.held⟩
  · exact Or.inr ⟨hstreams.trans hgone.missing, hgone.events, hgone.released⟩

theorem onStream_snoc (xs : List (Exchange V)) (x : Exchange V) :
    onStream streamId (xs ++ [x]) =
      onStream streamId xs ++ if x.op.streamId = streamId then [x] else [] := by
  by_cases hx : x.op.streamId = streamId <;> simp [onStream, hx]

end

theorem life_opened (h : state.streams[streamId]? = some (.opened operation requestedCredit)) :
    Life (V := V) streamId state [] :=
  Or.inl ⟨_, [], h, rfl, rfl, rfl, rfl, rfl⟩

/-- From an opened stream on, it is alive or gone after every history. -/
theorem life_of_history (h : state.streams[streamId]? = some (.opened operation requestedCredit))
    (ops : List (StreamOp V)) :
    Life streamId (performAll state ops) (onStream streamId (transcript state ops)) := by
  induction ops using List.reverseRecOn with
  | nil => exact life_opened h
  | append_singleton ops op ih =>
    rw [performAll_append, transcript_append]
    change Life streamId (perform (performAll state ops) op).1
      (onStream streamId (transcript state ops ++ [(perform (performAll state ops) op).2]))
    rw [onStream_snoc, perform_op]
    by_cases hop : op.streamId = streamId
    · rw [if_pos hop]
      exact (ih.perform hop rfl).1
    · rw [if_neg hop, List.append_nil]
      exact ih.other (perform_other hop _)

/-- Once the stream is out of the table, every further exchange on it is refused. -/
theorem refused_of_missing (h : state.streams[streamId]? = none) (ops : List (StreamOp V)) :
    ∀ y ∈ onStream streamId (transcript state ops), y.Refused state.capability := by
  induction ops generalizing state with
  | nil => simp [onStream, transcript]
  | cons op ops ih =>
    intro y hy
    have hmissing : (perform state op).1.streams[streamId]? = none := by
      grind [perform_missing, perform_other]
    have hrest := ih hmissing
    rw [perform_capability] at hrest
    simp only [onStream, transcript, List.mem_filter, List.mem_cons, beq_iff_eq] at hy hrest
    obtain ⟨rfl | hy, hid⟩ := hy
    · rw [perform_op] at hid
      exact (perform_missing (hid ▸ h)).2.1
    · exact hrest y ⟨hy, hid⟩

/-- **A stream returns messages in sequence, then at most one half-close, then at most one
terminal, and nothing reaches the provider once it has ended.** For any calls and cancels one
after the other, with any answers of the provider: an exchange that ends the stream leaves its
permit released exactly once, and every later exchange on that id is refused with no effect. -/
theorem stream_life {state : StreamState} {streamId requestedCredit : Nat} {operation : String}
    (h : state.streams[streamId]? = some (.opened operation requestedCredit))
    (ops : List (StreamOp V)) :
    (∃ payloads halfClosed terminal,
      (onStream streamId (transcript state ops)).filterMap Exchange.event? =
        eventHistory payloads halfClosed terminal) ∧
    ∀ before op after, ops = before ++ op :: after → op.streamId = streamId →
      (perform (performAll state before) op).2.ends = true →
      releases (onStream streamId (transcript state (before ++ [op]))) = 1 ∧
      ∀ y ∈ onStream streamId (transcript (performAll state (before ++ [op])) after),
        y.Refused state.capability := by
  refine ⟨?_, ?_⟩
  · rcases life_of_history h ops with ⟨entry, payloads, halive⟩ | hgone
    · exact ⟨payloads, _, none, halive.events⟩
    · exact hgone.events
  · intro before op after hops hop hends
    have hlife := life_of_history h before
    have hgone : Gone streamId (perform (performAll state before) op).1
        (onStream streamId (transcript state before) ++
          [(perform (performAll state before) op).2]) := (hlife.perform hop rfl).2 hends
    have hlast : performAll state (before ++ [op]) = (perform (performAll state before) op).1 := by
      rw [performAll_append]
      rfl
    refine ⟨?_, ?_⟩
    · rw [transcript_append, transcript, transcript, onStream_snoc, perform_op, if_pos hop]
      exact hgone.released
    · rw [← hlast] at hgone
      have hrefused := refused_of_missing hgone.missing after
      rw [performAll_capability] at hrefused
      exact hrefused

/-- A stream 3 just opened in the session `s`. -/
def justOpened : StreamState :=
  { capability := "example.chat@1"
    session := some "s"
    streams := (∅ : ExtTreeMap Nat ProviderStreamEntry).insert 3 (.opened "chat" 4)
    retiredStreams := ∅
    active := 1 }

/-- A receive on stream 3 that the provider answers with `event`. -/
def receives (event : BunStreamEvent Nat) : StreamOp Nat :=
  .call (.receive 1 3 "s")
    { send := none, receive := some (.event event), peerHalfClosed := none }

theorem stream_life_sample :
    (perform (performAll justOpened [receives (.message 7)]) (receives (.terminal (.ok ())))).2.ends
      = true ∧
    releases (onStream 3 (transcript justOpened
      [receives (.message 7), receives (.terminal (.ok ()))])) = 1 ∧
    ∀ y ∈ onStream 3 (transcript (performAll justOpened
        [receives (.message 7), receives (.terminal (.ok ()))]) [receives (.message 8)]),
      y.Refused "example.chat@1" := by
  have hends : (perform (performAll justOpened [receives (.message 7)])
      (receives (.terminal (.ok ())))).2.ends = true := by decide
  have hopened : justOpened.streams[3]? = some (.opened "chat" 4) := by decide
  exact ⟨hends, (stream_life hopened [receives (.message 7), receives (.terminal (.ok ())),
    receives (.message 8)]).2 [receives (.message 7)] (receives (.terminal (.ok ())))
    [receives (.message 8)] rfl rfl hends⟩

end LensoBun.Provider
