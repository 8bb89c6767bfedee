import LensoBun.Transport.SessionReceive

set_option autoImplicit false

/-! # Sends of a stream session and the provider server

A session whose peer is the provider server: it takes the calls in the order of issue, one at a
time, and answers each as `handle_stream_call` does. The session counts its Sends before they are
answered and takes a rejected one back only if no other has been counted since; the server counts
the Sends it has accepted. So the two agree whenever no Send is under way, as long as a Send that
the provider rejects overlaps no other.
-/

namespace LensoBun.Transport.StreamSession

open Std Lib Provider

variable {V : Type}

/-! ## The provider server as the peer -/

/-- The provider server: the first call that it has not answered is next. A call during which
the provider panics is never answered. -/
def providerPeer : Peer StreamState (ProviderAnswers V) V where
  serve peer calls answers :=
    match calls.find? (·.answer.isNone) with
    | none => none
    | some i =>
      let (peer', outcome, _) := handleStreamCall peer i.call answers
      outcome.map fun outcome => (peer', i.future, .ok outcome)

inductive SendEvent where
  | issued (future : Nat)
  | ended (future : Nat)
  deriving DecidableEq, Repr

def issues (t : Nat) : Pc V → List SendEvent
  | .sending _ => [.issued t]
  | _ => []

def ends (t : Nat) : Pc V → List SendEvent
  | .sending _ => [.ended t]
  | _ => []

/-- The Sends that are issued, and those that are no longer awaited. -/
def sendEvents {β κ : Type} (_ : Shared β V) (t : Nat) (pc : Pc V) (_ : Input κ)
    (m : Moved (Shared β V) (Pc V)) : List SendEvent :=
  issues t m.next ++ ends t pc

/-- The peer has rejected the Send, and its future has not been told. -/
def Issued.rejected (i : Issued V) : Bool :=
  match i.answer with
  | some (.ok (.runtime failure)) => failure.isResourceExhausted
  | _ => false

/-- The one call under way was issued after all others had ended. -/
def alone (calls : List (Issued V)) (log : List SendEvent) : Bool :=
  match calls.map Issued.future with
  | [future] => log.getLast? == some (.issued future)
  | _ => false

/-- A call is issued while no rejection is to be told, or refused for want of room. -/
def mayCall (calls : List (Issued V)) : Option RuntimeFailure → Bool
  | none => !calls.any Issued.rejected
  | some error => error.isResourceExhausted

/-- Whether a step is one of sends and of a provider that accepts them or is exhausted, and does
not make a rejected Send overlap with another: the provider rejects a Send only if it is alone,
and no Send is issued until the future of a rejected one has been told. The last number of the
sequence is not used. -/
def sendsRetry (s : Logged (Shared StreamState V) SendEvent) : Pc V → Input (ProviderAnswers V) →
    Bool
  | .peer, .serve answers =>
    match answers.send with
    | some .accepted => true
    | some (.runtime error) => error.isResourceExhausted && alone s.state.calls s.log
    | none => false
  | .send _, .go _ refusal | .parked _, .go _ refusal =>
    s.state.state.nextSendSequence + 1 != 0 && mayCall s.state.calls refusal
  | .sending _, .go _ _ => true
  | _, _ => false

def rejectedAlone :
    Guard (Logged (Shared StreamState V) SendEvent) (Pc V) (Input (ProviderAnswers V)) where
  self s _ pc k := sendsRetry s pc k = true

instance (c : Threads (Logged (Shared StreamState V) SendEvent) (Pc V)) (a : Act (Pc V) (Input (ProviderAnswers V))) :
    Decidable (rejectedAlone.Allows c a) := Guard.decidable c a

/-! ## The two counters -/

def sequenceOf : WireStreamCall V → UInt64
  | .send _ _ _ sequence _ => sequence
  | _ => 0

/-- The calls that the peer has still to answer. -/
def waiting (calls : List (Issued V)) : List (Issued V) := calls.filter (·.answer.isNone)

/-- The calls have the numbers from `first` on, and `last` is the next one. -/
def Numbered (first : UInt64) : List (Issued V) → UInt64 → Prop
  | [], last => last = first
  | i :: calls, last => sequenceOf i.call = first ∧ Numbered (first + 1) calls last

theorem numbered_append {first last : UInt64} {calls : List (Issued V)} {i : Issued V}
    (h : Numbered first calls last) (hi : sequenceOf i.call = last) :
    Numbered first (calls ++ [i]) (last + 1) := by
  induction calls generalizing first with
  | nil =>
    have hlast : last = first := h
    exact ⟨hi.trans hlast, by rw [hlast]; rfl⟩
  | cons j calls ih => exact ⟨h.1, ih h.2⟩

/-- The provider server's side of an open stream with this credit, between calls. -/
structure Serves (credit : Nat) (entry : ProviderStreamEntry) : Prop where
  credit : entry.inboundCredit = credit
  idle : entry.sendInFlight = false
  open_ : entry.peerHalfClosed = false
  running : entry.terminalSeen = false
  live : entry.cancelled = false

/-- How the counters of the two sides stand to each other: apart by the Sends that the server has
still to answer, which it will all accept; or by the one it has rejected. -/
inductive InStep (credit : Nat) (entry : ProviderStreamEntry) (s : Shared StreamState V) : Prop
  | running (accepted : ∀ i ∈ s.calls, ∀ answer, i.answer = some answer →
      answer = .ok (.accepted credit))
      (numbered : Numbered entry.nextInboundSequence (waiting s.calls) s.state.nextSendSequence)
  | rejected (i : Issued V) (failure : WireFailure) (only : s.calls = [i])
      (answer : i.answer = some (.ok (.runtime failure)))
      (exhausted : failure.isResourceExhausted = true)
      (number : sequenceOf i.call = entry.nextInboundSequence)
      (next : s.state.nextSendSequence = entry.nextInboundSequence + 1)
      (credit : s.state.sendCredit + 1 = credit)

/-- A call under way is a Send on the stream, not with the last number. -/
structure Ordinary (streamId : Nat) (session : String) (i : Issued V) : Prop where
  awaited : i.awaited = true
  send : ∃ id payload, i.call = .send id streamId session (sequenceOf i.call) payload
  notLast : sequenceOf i.call + 1 ≠ 0

structure Synced (credit : Nat) (s : Logged (Shared StreamState V) SendEvent) : Prop where
  open_ : s.state.state.localHalfClosed = false ∧ s.state.state.terminalSeen = false ∧
    s.state.state.cancelled = false
  valid : s.state.peer.session = some s.state.state.session
  ordinary : ∀ i ∈ s.state.calls, Ordinary s.state.state.streamId s.state.state.session i
  futures : (s.state.calls.map Issued.future).Nodup
  stream : ∃ entry, s.state.peer.streams[s.state.state.streamId]? = some entry ∧
    Serves credit entry ∧ InStep credit entry s.state
  full : s.state.calls = [] → s.state.state.sendCredit = credit
  fresh : alone s.state.calls s.log = true → s.state.state.sendCredit + 1 = credit

/-! ## The server's steps -/

section

variable {peer peer' : StreamState} {calls : List (Issued V)} {answers : ProviderAnswers V}
  {future : Nat} {result : StreamWireResult V}

theorem serve_some (h : providerPeer.serve peer calls answers = some (peer', future, result)) :
    ∃ i outcome, calls.find? (·.answer.isNone) = some i ∧ future = i.future ∧
      peer' = (handleStreamCall peer i.call answers).1 ∧
      (handleStreamCall peer i.call answers).2.1 = some outcome ∧ result = .ok outcome := by
  simp only [providerPeer] at h
  split at h
  · cases h
  · next i hi =>
      obtain ⟨outcome, houtcome, h⟩ := Option.map_eq_some_iff.mp h
      cases h
      exact ⟨i, outcome, hi, rfl, rfl, houtcome, rfl⟩

variable {entry : ProviderStreamEntry} {credit : Nat}

theorem handleSend_accepted (hserves : Serves credit entry) (hcredit : 0 < credit)
    (hsmall : credit < 2 ^ 32) (capability : String) (payload : V) :
    handleSend capability entry entry.nextInboundSequence payload (some .accepted) =
      ⟨{ entry with nextInboundSequence := entry.nextInboundSequence + 1 }, [.send payload],
        some (.accepted credit), false⟩ := by
  obtain ⟨hc, hidle, hopen, hrunning, -⟩ := hserves
  have hne : ¬ entry.inboundCredit = 0 := by omega
  have hback : entry.inboundCredit - 1 + 1 = entry.inboundCredit := by omega
  have hwire : wireCredit entry.inboundCredit = credit := by
    rw [wireCredit, hc]
    omega
  simp [handleSend, hopen, hrunning, hidle, hne, hback, hwire]

/-- A Send with the next number, for which the provider has no room. -/
theorem handleSend_rejected (hserves : Serves credit entry) (hcredit : 0 < credit)
    (capability : String) (payload : V) {error : RuntimeFailure}
    (herror : error.isResourceExhausted = true) :
    handleSend capability entry entry.nextInboundSequence payload (some (.runtime error)) =
      ⟨entry, [.send payload], some (streamRuntimeOutcome error), false⟩ := by
  obtain ⟨hc, hidle, hopen, hrunning, -⟩ := hserves
  cases entry
  simp only at hc hidle hopen hrunning
  subst hc hidle hopen hrunning
  have hback := Nat.sub_add_cancel (Nat.succ_le_of_lt hcredit)
  simp [handleSend, Nat.ne_of_gt hcredit, hback, herror]

theorem handleStreamCall_send {streamId : Nat} {session : String} {sequence : UInt64}
    {payload : V} {answered : Answered V} (id : Nat) (hvalid : peer.session = some session)
    (hentry : peer.streams[streamId]? = some entry) (hlive : entry.cancelled = false)
    (hsend : handleSend peer.capability entry sequence payload answers.send = answered)
    (hstays : answered.retire = false) :
    handleStreamCall peer (.send id streamId session sequence payload) answers =
      ({ peer with streams := peer.streams.insert streamId answered.entry },
        answered.outcome, answered.effects) := by
  have hvalid' : validSession (some session) peer = true := by simp [validSession, hvalid]
  simp [handleStreamCall, WireStreamCall.session, WireStreamCall.streamId, hvalid', hentry,
    handleOnEntry, hlive, hsend, hstays]

theorem resolved_cons {i : Issued V} (hi : i.future = future) (hwaits : i.answer.isNone = true)
    (hawaited : i.awaited = true) :
    resolved (i :: calls) future result =
      { i with answer := some result } :: resolved calls future result := by
  simp only [resolved, List.filterMap_cons, if_pos (And.intro hi hwaits), Issued.resolve,
    if_pos hawaited]

theorem resolved_cons_other {i : Issued V} (h : ¬ (i.future = future ∧ i.answer.isNone = true)) :
    resolved (i :: calls) future result = i :: resolved calls future result := by
  simp only [resolved, List.filterMap_cons, if_neg h]

theorem resolved_of_ne (h : ∀ i ∈ calls, i.future ≠ future) :
    resolved calls future result = calls := by
  induction calls with
  | nil => rfl
  | cons i calls ih => grind [resolved_cons_other]

/-- The call that is answered is the first that waits, and it waits no longer. -/
theorem waiting_resolved {i : Issued V} (hnodup : (calls.map Issued.future).Nodup)
    (hawaited : ∀ j ∈ calls, j.awaited = true) (hi : calls.find? (·.answer.isNone) = some i)
    (result : StreamWireResult V) :
    waiting calls = i :: waiting (resolved calls i.future result) := by
  induction calls with
  | nil => cases hi
  | cons j calls ih =>
    obtain ⟨hnew, hnodup⟩ := List.nodup_cons.mp hnodup
    rw [List.find?_cons] at hi
    cases hj : j.answer.isNone with
    | true =>
      -- the first one waits, and the others have other futures
      rw [hj] at hi
      cases hi
      have hrest : resolved calls i.future result = calls :=
        resolved_of_ne (fun k hk heq => hnew (heq ▸ List.mem_map_of_mem hk))
      rw [resolved_cons rfl hj (hawaited i List.mem_cons_self), hrest]
      simp [waiting, hj]
    | false => grind [waiting, resolved_cons_other]

theorem mem_resolved_cases {i : Issued V} (h : i ∈ resolved calls future result) :
    i ∈ calls ∨ i.answer = some result := by
  obtain ⟨j, hj, hi⟩ := List.mem_filterMap.mp h
  split at hi
  · grind [Issued.resolve]
  · cases hi
    exact Or.inl hj

theorem futures_resolved (hawaited : ∀ j ∈ calls, j.awaited = true) :
    (resolved calls future result).map Issued.future = calls.map Issued.future := by
  induction calls with
  | nil => rfl
  | cons i calls ih => grind [resolved_cons, resolved_cons_other]

theorem alone_congr {calls' : List (Issued V)} (log : List SendEvent)
    (h : calls'.map Issued.future = calls.map Issued.future) :
    alone calls' log = alone calls log := by
  rw [alone, alone, h]

theorem calls_of_alone {log : List SendEvent} (h : alone calls log = true) :
    ∃ i, calls = [i] := by
  rw [alone] at h
  split at h
  · next future hmap =>
      have hlength : calls.length = 1 := by
        have hlength := congrArg List.length hmap
        simpa using hlength
      exact List.length_eq_one_iff.mp hlength
  · cases h

theorem not_alone_of_ended (t : Nat) (log : List SendEvent) :
    alone calls (log ++ [.ended t]) = false := by
  rw [alone]
  split
  · simp
  · rfl

end

/-! ## The steps keep the two sides in step -/

section

variable {s : Shared StreamState V} {log : List SendEvent} {credit t : Nat}

theorem InStep.accept {entry : ProviderStreamEntry} {i : Issued V} (peer : StreamState)
    (haccepted : ∀ j ∈ s.calls, ∀ answer, j.answer = some answer → answer = .ok (.accepted credit))
    (hnumbered : Numbered (entry.nextInboundSequence + 1)
      (waiting (resolved s.calls i.future (.ok (.accepted credit)))) s.state.nextSendSequence) :
    InStep credit { entry with nextInboundSequence := entry.nextInboundSequence + 1 } { s with
      peer := peer, calls := resolved s.calls i.future (.ok (.accepted credit)) } := by
  refine .running ?_ hnumbered
  intro j hj answer hanswer
  rcases mem_resolved_cases hj with hj | hnew
  · exact haccepted j hj answer hanswer
  · rw [hnew] at hanswer
    cases hanswer
    rfl

theorem InStep.reject {entry : ProviderStreamEntry} {i : Issued V} {error : RuntimeFailure}
    (peer : StreamState) (honly : s.calls = [i]) (hwaits : i.answer.isNone = true)
    (hawaited : i.awaited = true) (hnumber : sequenceOf i.call = entry.nextInboundSequence)
    (hnumbered : Numbered (entry.nextInboundSequence + 1)
      (waiting (resolved s.calls i.future (.ok (streamRuntimeOutcome error))))
      s.state.nextSendSequence)
    (herror : error.isResourceExhausted = true) (hcredit : s.state.sendCredit + 1 = credit) :
    InStep credit entry { s with
      peer := peer, calls := resolved s.calls i.future (.ok (streamRuntimeOutcome error)) } := by
  have hresolved : resolved s.calls i.future (.ok (streamRuntimeOutcome error)) =
      [{ i with answer := some (.ok (streamRuntimeOutcome error)) }] := by
    rw [honly, resolved_cons rfl hwaits hawaited]
    rfl
  have hexhausted : (toWireFailure error).isResourceExhausted = true := by
    rw [isResourceExhausted_toWireFailure]
    exact herror
  rw [hresolved] at hnumbered
  exact .rejected _ (toWireFailure error) hresolved rfl hexhausted hnumber hnumbered hcredit

theorem Synced.answer {i : Issued V} {answers : ProviderAnswers V} {outcome : WireStreamOutcome V}
    (h : Synced credit ⟨s, log⟩) (hcredit : 0 < credit) (hsmall : credit < 2 ^ 32)
    (hg : sendsRetry ⟨s, log⟩ .peer (.serve answers) = true)
    (hi : s.calls.find? (·.answer.isNone) = some i)
    (houtcome : (handleStreamCall s.peer i.call answers).2.1 = some outcome) :
    (handleStreamCall s.peer i.call answers).1.session = s.peer.session ∧
      ∃ entry, (handleStreamCall s.peer i.call answers).1.streams[s.state.streamId]? =
          some entry ∧ Serves credit entry ∧
        InStep credit entry { s with
          peer := (handleStreamCall s.peer i.call answers).1
          calls := resolved s.calls i.future (.ok outcome) } := by
  obtain ⟨entry, hentry, hserves, hstep⟩ := h.stream
  have hawaited : ∀ j ∈ s.calls, j.awaited = true := fun j hj => (h.ordinary j hj).awaited
  have hmem : i ∈ s.calls := List.mem_of_find?_eq_some hi
  cases hstep with
  | rejected j failure honly hanswer =>
    -- the one call under way has its answer
    simp only at honly
    rw [honly, List.find?_cons_of_neg (by simp [hanswer])] at hi
    cases hi
  | running haccepted hnumbered =>
    have hwaiting := waiting_resolved h.futures hawaited hi (.ok outcome)
    simp only [hwaiting] at hnumbered
    obtain ⟨hnumber, hnumbered⟩ := hnumbered
    obtain ⟨id, payload, hcall⟩ := (h.ordinary i hmem).send
    rw [hnumber] at hcall
    cases hsend : answers.send with
    | none => simp [sendsRetry, hsend] at hg
    | some action =>
      cases action with
      | accepted =>
        have hsent := hsend ▸
          handleSend_accepted hserves hcredit hsmall s.peer.capability payload
        rw [hcall, handleStreamCall_send id h.valid hentry hserves.live hsent rfl] at houtcome ⊢
        cases houtcome
        exact ⟨rfl, { entry with nextInboundSequence := entry.nextInboundSequence + 1 },
          by simp, ⟨hserves.credit, hserves.idle, hserves.open_, hserves.running,
            hserves.live⟩, .accept _ haccepted hnumbered⟩
      | runtime =>
        simp only [sendsRetry, hsend, Bool.and_eq_true] at hg
        obtain ⟨herror, halone⟩ := hg
        have hsent := hsend ▸
          handleSend_rejected hserves hcredit s.peer.capability payload herror
        rw [hcall, handleStreamCall_send id h.valid hentry hserves.live hsent rfl] at houtcome ⊢
        cases houtcome
        -- it is the only call, and the last that was counted
        obtain ⟨j, honly⟩ := calls_of_alone halone
        rw [honly] at hmem
        obtain rfl := List.mem_singleton.mp hmem
        exact ⟨rfl, entry, by simp, hserves, .reject _ honly (by simpa using List.find?_some hi)
          (hawaited i (honly ▸ hmem)) hnumber hnumbered herror (h.fresh halone)⟩

theorem Synced.serve {answers : ProviderAnswers V} {peer : StreamState} {future : Nat}
    {result : StreamWireResult V} (h : Synced credit ⟨s, log⟩) (hcredit : 0 < credit)
    (hsmall : credit < 2 ^ 32) (hg : sendsRetry ⟨s, log⟩ .peer (.serve answers) = true)
    (hserve : providerPeer.serve s.peer s.calls answers = some (peer, future, result)) :
    Synced credit ⟨{ s with peer := peer, calls := resolved s.calls future result }, log⟩ := by
  obtain ⟨i, outcome, hi, rfl, rfl, houtcome, rfl⟩ := serve_some hserve
  have hawaited : ∀ j ∈ s.calls, j.awaited = true := fun j hj => (h.ordinary j hj).awaited
  have hfutures : (resolved s.calls i.future (.ok outcome)).map Issued.future =
      s.calls.map Issued.future := futures_resolved hawaited
  obtain ⟨hsession, hstream⟩ := h.answer hcredit hsmall hg hi houtcome
  refine ⟨h.open_, ?_, ?_, ?_, hstream, ?_, ?_⟩
  · exact hsession.trans h.valid
  · intro j hj
    obtain ⟨k, hk, -, hcall, hawaits, -⟩ := mem_resolved hj
    obtain ⟨hk₁, hk₂, hk₃⟩ := h.ordinary k hk
    rw [hcall] at hk₂ hk₃
    exact ⟨hawaits ▸ hk₁, hk₂, hk₃⟩
  · exact hfutures ▸ h.futures
  · intro hnil
    exact h.full (List.map_eq_nil_iff.mp (hfutures.symm.trans (congrArg (List.map _) hnil)))
  · intro halone
    exact h.fresh (alone_congr log hfutures ▸ halone)

theorem Synced.waiters (h : Synced credit ⟨s, log⟩) (waiters : List Nat) :
    Synced credit ⟨{ s with state := { s.state with creditWaiters := waiters } }, log⟩ := by
  obtain ⟨entry, hentry, hserves, hstep⟩ := h.stream
  refine ⟨h.open_, h.valid, h.ordinary, h.futures, ⟨entry, hentry, hserves, ?_⟩, h.full, h.fresh⟩
  cases hstep with
  | running haccepted hnumbered => exact .running haccepted hnumbered
  | rejected i failure honly hanswer hexhausted hnumber hnext hcredit =>
    exact .rejected i failure honly hanswer hexhausted hnumber hnext hcredit

theorem Synced.issue (h : Synced credit ⟨s, log⟩) (hcredit : 0 < s.state.sendCredit)
    (hfree : ∀ i ∈ s.calls, i.future ≠ t) (hlast : s.state.nextSendSequence + 1 ≠ 0)
    (hnone : s.calls.any Issued.rejected = false) (id : Nat) (payload : V) :
    Synced credit ⟨Shared.issue { s with state := s.state.reserve } t
      (.send id s.state.streamId s.state.session s.state.nextSendSequence payload),
      log ++ [.issued t]⟩ := by
  obtain ⟨entry, hentry, hserves, hstep⟩ := h.stream
  refine ⟨h.open_, h.valid, ?_, ?_, ⟨entry, hentry, hserves, ?_⟩, ?_, ?_⟩
  · intro i hi
    rcases List.mem_append.mp hi with hi | hi
    · exact h.ordinary i hi
    · rw [List.mem_singleton.mp hi]
      exact ⟨rfl, ⟨id, payload, rfl⟩, hlast⟩
  · have hnew : t ∉ s.calls.map Issued.future := by grind
    show (List.map Issued.future (s.calls ++ [_])).Nodup
    rw [List.map_append, List.map_singleton, List.nodup_append_comm]
    exact List.nodup_cons.mpr ⟨hnew, h.futures⟩
  · cases hstep with
    | rejected i failure honly hanswer hexhausted => grind [Issued.rejected]
    | running haccepted hnumbered =>
      refine .running ?_ ?_
      · intro i hi answer hanswer
        rcases List.mem_append.mp hi with hi | hi
        · exact haccepted i hi answer hanswer
        · rw [List.mem_singleton.mp hi] at hanswer
          cases hanswer
      · show Numbered _ (waiting (s.calls ++ [_])) (s.state.nextSendSequence + 1)
        rw [waiting, List.filter_append]
        exact numbered_append hnumbered rfl
  · intro hnil
    simp [Shared.issue] at hnil
  · intro halone
    -- it is alone only if no other was under way
    obtain ⟨i, hcalls⟩ := calls_of_alone halone
    have hempty : s.calls = [] := by
      have hlength := congrArg List.length hcalls
      simp only [Shared.issue, List.length_append, List.length_singleton] at hlength
      exact List.eq_nil_of_length_eq_zero (by omega)
    have hfull : s.state.sendCredit = credit := h.full hempty
    show s.state.sendCredit - 1 + 1 = credit
    omega

/-- The calls that wait are not touched when a future takes its answer. -/
theorem waiting_taken {calls : List (Issued V)} {i : Issued V}
    (hnodup : (calls.map Issued.future).Nodup) (hi : i ∈ calls) (ht : i.future = t)
    (hanswered : i.answer.isSome = true) : waiting (taken calls t) = waiting calls := by
  rw [waiting, waiting, taken, List.filter_filter]
  refine List.filter_congr (fun j hj => ?_)
  cases hwaits : j.answer.isNone with
  | false => rfl
  | true =>
    have hne : j.future ≠ t := by
      intro heq
      have hsame : j = i := List.inj_on_of_nodup_map hnodup hj hi (heq.trans ht.symm)
      rw [hsame] at hwaits
      rw [Option.isNone_iff_eq_none] at hwaits
      rw [hwaits] at hanswered
      cases hanswered
    simp [hne]

/-- A future takes its answer: what is left to say is how the counters stand then. -/
theorem Synced.take {state : TransportStreamState} (h : Synced credit ⟨s, log⟩)
    (hopen : state.localHalfClosed = s.state.localHalfClosed ∧
      state.terminalSeen = s.state.terminalSeen ∧ state.cancelled = s.state.cancelled)
    (hstream : state.streamId = s.state.streamId ∧ state.session = s.state.session)
    (hcredit : state.sendCredit = credit)
    (hstep : ∀ entry, s.peer.streams[s.state.streamId]? = some entry → Serves credit entry →
      InStep credit entry s → InStep credit entry { s with
        state := state, calls := taken s.calls t }) :
    Synced credit ⟨{ s with state := state, calls := taken s.calls t }, log ++ [.ended t]⟩ := by
  obtain ⟨hclosed, hterminal, hcancelled⟩ := hopen
  obtain ⟨hstreamId, hsession⟩ := hstream
  obtain ⟨entry, hentry, hserves, hin⟩ := h.stream
  refine ⟨?_, ?_, ?_, ?_, ⟨entry, ?_, hserves, hstep entry hentry hserves hin⟩, ?_, ?_⟩
  · rw [hclosed, hterminal, hcancelled]
    exact h.open_
  · rw [hsession]
    exact h.valid
  · intro i hi
    rw [hstreamId, hsession]
    exact h.ordinary i (mem_taken.mp hi).1
  · exact h.futures.sublist (List.filter_sublist.map _)
  · rw [hstreamId]
    exact hentry
  · exact fun _ => hcredit
  · intro halone
    rw [not_alone_of_ended] at halone
    cases halone

theorem sequenceOf_awaited {sequence : UInt64} {call : WireStreamCall V}
    (h : (Pc.sending sequence).awaits call) : sequenceOf call = sequence := by
  cases call <;> first | exact h | exact h.elim

variable {pc next : Pc V} {k : Input (ProviderAnswers V)} {s' : Shared StreamState V}

/-- The answer that a send takes: its acknowledgement, or the rejection of the one Send. -/
theorem Synced.cases_answer {sequence : UInt64} {answer : StreamWireResult V}
    (h : Synced credit ⟨s, log⟩)
    (hown : ∀ i, i ∈ s.calls ∧ i.Live → i.future = t → (Pc.sending sequence).awaits i.call)
    (hanswer : answerTo s.calls t = some answer) :
    answer = .ok (.accepted credit) ∨
    ∃ i entry failure, s.calls = [i] ∧ i.future = t ∧
      s.peer.streams[s.state.streamId]? = some entry ∧
      answer = .ok (.runtime failure) ∧ failure.isResourceExhausted = true ∧
      sequence = entry.nextInboundSequence ∧ sequence + 1 ≠ 0 ∧
      s.state.nextSendSequence = sequence + 1 ∧ s.state.sendCredit + 1 = credit := by
  obtain ⟨i, hi, ht, hianswer, hawaits⟩ := call_of_answer hown hanswer
  obtain ⟨entry, hentry, -, hstep⟩ := h.stream
  cases hstep with
  | running haccepted => exact Or.inl (haccepted i hi answer hianswer)
  | rejected j failure honly hjanswer hexhausted hnumber hnext hcredit =>
    simp only at honly
    obtain rfl : i = j := List.mem_singleton.mp (honly ▸ hi)
    rw [hianswer, Option.some.injEq] at hjanswer
    have hsequence := sequenceOf_awaited hawaits
    have hlast := (h.ordinary i hi).notLast
    rw [hsequence] at hnumber hlast
    refine Or.inr ⟨i, entry, failure, honly, ht, hentry, hjanswer, hexhausted, hnumber, hlast,
      ?_, hcredit⟩
    rw [hnumber]
    exact hnext

theorem ends_of_free (h : pc.waits = false) : ends t pc = [] := by
  cases pc <;> first | rfl | cases h

theorem issues_of_ended (h : next.ended = true) : issues t next = [] := by
  cases next <;> first | rfl | cases h

/-- What the condition says of a step that starts a send, or goes on with one. -/
theorem retry_of_message {number : Nat} {refusal : Option RuntimeFailure}
    (hpc : pc.message.isSome = true) (hg : sendsRetry ⟨s, log⟩ pc (.go number refusal) = true) :
    s.state.nextSendSequence + 1 ≠ 0 ∧
      (refusal = none → s.calls.any Issued.rejected = false) ∧
      ∀ error, refusal = some error → error.isResourceExhausted = true := by
  have hand : (s.state.nextSendSequence + 1 != 0 && mayCall s.calls refusal) = true := by
    cases pc with
    | send => exact hg
    | parked => exact hg
    | _ => cases hpc
  obtain ⟨hlast, hrest⟩ := Bool.and_eq_true_iff.mp hand
  refine ⟨bne_iff_ne.mp hlast, ?_, ?_⟩
  · rintro rfl
    simpa only [mayCall, Bool.not_eq_true'] using hrest
  · rintro error rfl
    exact hrest

theorem saturatingSucc_of_ne {n : UInt64} (h : n + 1 ≠ 0) : saturatingSucc n = n + 1 := if_neg h

theorem synced_moves (hcredit : 0 < credit) (hsmall : credit < 2 ^ 32)
    (hown : ∀ i, i ∈ s.calls ∧ i.Live → i.future = t → pc.awaits i.call)
    (h : Synced credit ⟨s, log⟩) (hg : sendsRetry ⟨s, log⟩ pc k = true)
    (hmoves : Moves providerPeer s t pc k s' next) :
    Synced credit ⟨s', log ++ (issues t next ++ ends t pc)⟩ := by
  cases hmoves with
  | serve answers peer future result hserve => grind [issues, ends, Synced.serve]
  | rest _ _ _ hfree hended => grind [issues_of_ended, ends_of_free]
  | park _ _ payload hmessage =>
    grind [issues, free_of_message, ends_of_free, Synced.waiters, h.waiters]
  | send _ number payload hmessage hpos =>
    have hsome : pc.message.isSome = true := by rw [hmessage]; rfl
    have hfree := free_of_message hsome
    obtain ⟨hlast, hnone, -⟩ := retry_of_message hsome hg
    have hothers : ∀ i ∈ s.calls, i.future ≠ t := by
      intro i hi ht
      have hlive : i.Live := Or.inl (h.ordinary i hi).awaited
      exact not_awaits_of_free hfree _ (hown i ⟨hi, hlive⟩ ht)
    rw [ends_of_free hfree, List.append_nil]
    exact h.issue hpos hothers hlast (hnone rfl) (nextCallId number) payload
  | spare _ number error hmessage =>
    rw [ends_of_free (free_of_message hmessage), List.append_nil]
    exact (List.append_nil log).symm ▸ h.waiters []
  | spend _ number refusal error hmessage _ hlost =>
    obtain ⟨hlast, -, hexhausted⟩ := retry_of_message hmessage hg
    rcases hlost with hnot | hwrapped
    · rw [hexhausted refusal rfl] at hnot
      cases hnot
    · exact absurd hwrapped hlast
  | accept sequence number refusal credit' hanswer =>
    rcases h.cases_answer hown hanswer with haccepted | ⟨_, _, _, _, _, _, hrejected, _⟩
    · cases haccepted
      refine h.take ⟨rfl, rfl, rfl⟩ ⟨rfl, rfl⟩ rfl (fun entry _ _ hstep => ?_)
      obtain ⟨i, hi, ht, hianswer⟩ := answerTo_some hanswer
      cases hstep with
      | running haccepted hnumbered =>
        refine .running (fun j hj => haccepted j (mem_taken.mp hj).1) ?_
        have hanswered : i.answer.isSome = true := by rw [hianswer]; rfl
        show Numbered _ (waiting (taken s.calls t)) s.state.nextSendSequence
        rw [waiting_taken h.futures hi ht hanswered]
        exact hnumbered
      | rejected j failure honly hjanswer => grind
    · cases hrejected
  | restore sequence number refusal failure error hanswer _ _ =>
    rcases h.cases_answer hown hanswer with haccepted |
      ⟨i, entry, failure', honly, ht, hentry, -, -, hnumber, -, -, hback⟩
    · cases haccepted
    · have hnone : taken s.calls t = [] := by simp [taken, honly, ht]
      refine h.take ⟨rfl, rfl, rfl⟩ ⟨rfl, rfl⟩ hback (fun entry' hentry' _ _ => ?_)
      rw [hentry] at hentry'
      cases hentry'
      rw [hnone]
      exact .running (fun j hj => by cases hj) hnumber
  | fail sequence number refusal answer error hanswer hrefused hlost =>
    rcases h.cases_answer hown hanswer with haccepted |
      ⟨-, -, failure, -, -, -, hrejected, hexhausted, -, hlast, hnext, -⟩
    · exact absurd haccepted (hrefused credit)
    · exact absurd (hnext.trans (saturatingSucc_of_ne hlast).symm)
        (hlost failure hrejected hexhausted)
  | drop =>
    cases pc <;> cases hg
  | _ => cases hg

end

/-! ## Quiet sessions -/

/-- A session on a stream that the provider server has just opened. -/
def connected (peer : StreamState) (streamId : Nat) (session operation : String)
    (requestedCredit : Nat) : Threads (Shared StreamState V) (Pc V) :=
  let entry := ProviderStreamEntry.opened operation requestedCredit
  init (.new streamId session peer.capability operation entry.inboundCredit)
    { peer with
      session := some session
      streams := peer.streams.insert streamId entry }

theorem synced_connected (peer : StreamState) (streamId : Nat) (session operation : String)
    (requestedCredit : Nat) :
    Synced (min requestedCredit defaultStreamCredit)
      (connected (V := V) peer streamId session operation requestedCredit).logged.shared := by
  refine ⟨⟨rfl, rfl, rfl⟩, rfl, (fun i hi => by cases hi), List.nodup_nil, ?_, fun _ => rfl,
    fun h => by cases h⟩
  refine ⟨ProviderStreamEntry.opened operation requestedCredit, ?_, ⟨rfl, rfl, rfl, rfl, rfl⟩,
    .running (fun i hi => by cases hi) rfl⟩
  simp [connected, Threads.logged, init, TransportStreamState.new]

theorem peer_stays {c c' : Threads (Logged (Shared StreamState V) SendEvent) (Pc V)}
    {a : Act (Pc V) (Input (ProviderAnswers V))} (hc : c.pool[0]? = some .peer)
    (h : ((program providerPeer).logged sendEvents).step c a = some c') :
    c'.pool[0]? = some .peer := by
  cases a with
  | start t => grind [Program.step_cases, getElem?_insert_nat]
  | move t k =>
    obtain ⟨pc, m', hpc, hm', -, hnext, hothers, -⟩ := Program.move_pool h
    by_cases ht : t = 0
    · subst ht
      rw [hc] at hpc
      cases hpc
      obtain ⟨m, hm, rfl⟩ := logged_move hm'
      cases k with
      | serve =>
        obtain ⟨_, -, rfl⟩ := Option.map_eq_some_iff.mp hm
        exact hnext
      | _ => cases hm
    · exact hothers 0 _ (Ne.symm ht) hc

theorem callSend_issues {s : Shared StreamState V} {log : List SendEvent} {credit : Nat}
    (h : Synced credit ⟨s, log⟩) (hcredit : 0 < s.state.sendCredit) (t : Nat) (payload : V) :
    callSend s t 0 none (some payload) = issueSend s t 0 none payload := by
  obtain ⟨hclosed, hterminal, hcancelled⟩ := h.open_
  simp only at hclosed hterminal hcancelled
  have hne : s.state.sendCredit ≠ 0 := by omega
  simp [callSend, hclosed, hterminal, hcancelled, hne]

theorem serve_single {peer : StreamState} {entry : ProviderStreamEntry} {credit streamId : Nat}
    {session : String} (hvalid : peer.session = some session)
    (hentry : peer.streams[streamId]? = some entry) (hserves : Serves credit entry)
    (hcredit : 0 < credit) (hsmall : credit < 2 ^ 32) (t id : Nat) (payload : V) :
    ∃ peer', providerPeer.serve peer
        [⟨t, .send id streamId session entry.nextInboundSequence payload, true, none⟩]
        ⟨some .accepted, none, none⟩ = some (peer', t, .ok (.accepted credit)) := by
  let counted := { entry with nextInboundSequence := entry.nextInboundSequence + 1 }
  have hsent : handleSend peer.capability entry entry.nextInboundSequence payload
      (ProviderAnswers.mk (some .accepted) none none : ProviderAnswers V).send =
      ⟨counted, [.send payload], some (.accepted credit), false⟩ :=
    handleSend_accepted hserves hcredit hsmall peer.capability payload
  refine ⟨{ peer with streams := peer.streams.insert streamId counted }, ?_⟩
  simp only [providerPeer, List.find?_cons, Option.isNone_none,
    handleStreamCall_send id hvalid hentry hserves.live hsent rfl, Option.map_some]

/-- **A send from a quiet state can be accepted.** -/
theorem accepted_of_quiet {c : Threads (Shared StreamState V) (Pc V)} {log : List SendEvent}
    {credit t : Nat} (h : Synced credit ⟨c.shared, log⟩) (hcredit : 0 < credit)
    (hsmall : credit < 2 ^ 32) (hquiet : c.shared.calls = []) (hpeer : c.pool[0]? = some .peer)
    (ht : t ∉ c.pool) (payload : V) :
    ∃ c', Reaches (program providerPeer).step
        { c with pool := c.pool.insert t (.send (some payload)) } c' ∧
      c'.pool[t]? = some (.sent (.ok ())) := by
  have hpos : 0 < c.shared.state.sendCredit := by grind [h.full]
  have hne : t ≠ 0 := by grind
  obtain ⟨entry, hentry, hserves, hstep⟩ := h.stream
  -- the call has the number that the peer expects
  have hnext : c.shared.state.nextSendSequence = entry.nextInboundSequence := by
    cases hstep with
    | running _ hnumbered =>
      simp only [hquiet] at hnumbered
      exact hnumbered
    | rejected i _ honly => grind
  obtain ⟨peer', hserve⟩ := serve_single h.valid hentry hserves hcredit hsmall t (nextCallId 0)
    payload
  let call : WireStreamCall V := .send (nextCallId 0) c.shared.state.streamId
    c.shared.state.session entry.nextInboundSequence payload
  let issued : Shared StreamState V := { c.shared with
    state := c.shared.state.reserve, calls := [⟨t, call, true, none⟩] }
  have hissue : (program providerPeer).move c.shared t (.send (some payload)) (.go 0 none) =
      some ⟨issued, .sending entry.nextInboundSequence, none⟩ := by
    simp only [program, move, callSend_issues h hpos, issueSend, hnext, Shared.issue, hquiet]
    rfl
  let answered : Shared StreamState V := { issued with
    peer := peer', calls := [⟨t, call, true, some (.ok (.accepted credit))⟩] }
  have hserved : (program providerPeer).move issued 0 .peer
      (.serve ⟨some .accepted, none, none⟩) = some ⟨answered, .peer, none⟩ := by
    have hresolved : resolved issued.calls t (.ok (.accepted credit)) = answered.calls :=
      resolved_cons rfl rfl rfl
    simp only [program, move]
    rw [hserve, Option.map_some, hresolved]
  have hended : ∃ s, (program providerPeer).move answered t
      (.sending entry.nextInboundSequence) (.go 0 none) = some ⟨s, .sent (.ok ()), none⟩ := by
    have hanswer : answerTo answered.calls t = some (.ok (.accepted credit)) := by
      simp [answerTo, answered]
    simp only [program, move, hanswer, Option.map_some]
    exact ⟨_, rfl⟩
  obtain ⟨s, hended⟩ := hended
  let step := (program (V := V) providerPeer).step
  let c₁ : Threads (Shared StreamState V) (Pc V) :=
    { c with pool := c.pool.insert t (.send (some payload)) }
  let c₂ : Threads (Shared StreamState V) (Pc V) :=
    ⟨issued, c₁.pool.insert t (.sending entry.nextInboundSequence)⟩
  let c₃ : Threads (Shared StreamState V) (Pc V) := ⟨answered, c₂.pool.insert 0 .peer⟩
  have h₂ : step c₁ (.move t (.go 0 none) 0) = some c₂ :=
    Program.step_move (c := c₁) (by simp [c₁]) hissue rfl
  have h₃ : step c₂ (.move 0 (.serve ⟨some .accepted, none, none⟩) 0) = some c₃ :=
    Program.step_move (c := c₂) (by simp [c₁, c₂, getElem?_insert_nat, hne, hpeer]) hserved rfl
  have hpool : c₃.pool[t]? = some (.sending entry.nextInboundSequence) := by
    simp only [c₃, c₂, getElem?_insert_nat, if_neg hne.symm, if_true]
  have h₄ : step c₃ (.move t (.go 0 none) 0) = some ⟨s, c₃.pool.insert t (.sent (.ok ()))⟩ :=
    Program.step_move hpool hended rfl
  exact ⟨_, .head h₂ (.head h₃ (.head h₄ (.refl _))), by simp⟩

/-- **The two sides agree whenever no Send is under way**, the session has all of its credit
back, and the next send can be accepted, in every run in which a Send that the provider rejects
overlaps no other. -/
theorem sends_stay_in_step (peer : StreamState) (streamId : Nat) (session operation : String)
    (requestedCredit : Nat) (hrequested : 0 < requestedCredit)
    {acts : List (Act (Pc V) (Input (ProviderAnswers V)))}
    {c : Threads (Logged (Shared StreamState V) SendEvent) (Pc V)}
    (hg : Meets ((program providerPeer).logged sendEvents).step rejectedAlone.Allows
      (connected peer streamId session operation requestedCredit).logged acts)
    (hrun : run ((program providerPeer).logged sendEvents).step
      (connected peer streamId session operation requestedCredit).logged acts = some c)
    (hquiet : count isSend c.shared.state.calls = 0) :
    (∃ entry, c.shared.state.peer.streams[c.shared.state.state.streamId]? = some entry ∧
      c.shared.state.state.nextSendSequence = entry.nextInboundSequence) ∧
    c.shared.state.state.sendCredit = min requestedCredit defaultStreamCredit ∧
    ∀ (t : Nat) (payload : V), t ∉ c.pool → ∃ c', Reaches (program providerPeer).step
        { c.forget with pool := c.pool.insert t (.send (some payload)) } c' ∧
      c'.pool[t]? = some (.sent (.ok ())) := by
  let credit := min requestedCredit defaultStreamCredit
  have hcredit : 0 < credit := by
    simp only [credit, defaultStreamCredit]
    omega
  have hsmall : credit < 2 ^ 32 := by
    simp only [credit, defaultStreamCredit]
    omega
  have hmoves : ∀ (s : Logged (Shared StreamState V) SendEvent) t pc k m,
      (∀ i, i ∈ s.state.calls ∧ i.Live → i.future = t → pc.awaits i.call) → Synced credit s →
      rejectedAlone.self s t pc k →
      ((program providerPeer).logged sendEvents).move s t pc k = some m →
      Synced credit m.shared := by
    intro s t pc k m hown hs hg hm
    obtain ⟨m', hm', rfl⟩ := logged_move hm
    exact synced_moves hcredit hsmall hown hs hg (move_moves hm').1
  have hbacked : CallsBacked (connected (V := V) peer streamId session operation
      requestedCredit) := init_backed _ _
  have hsynced : Synced credit c.shared :=
    (((calls_backed providerPeer).logged sendEvents).run hmoves hbacked.logged
      (synced_connected peer streamId session operation requestedCredit) hg hrun).2
  have hpeer : c.pool[0]? = some .peer :=
    run_invariant (fun _ _ _ => peer_stays) (by simp [connected, init, Threads.logged]) hrun
  have hempty : c.shared.state.calls = [] := by
    refine List.eq_nil_iff_forall_not_mem.mpr (fun i hi => ?_)
    obtain ⟨id, payload, hcall⟩ := (hsynced.ordinary i hi).send
    have hnone := List.countP_eq_zero.mp hquiet i hi
    rw [hcall] at hnone
    exact hnone rfl
  refine ⟨?_, hsynced.full hempty, fun t payload ht => ?_⟩
  · obtain ⟨entry, hentry, -, hstep⟩ := hsynced.stream
    refine ⟨entry, hentry, ?_⟩
    cases hstep with
    | running _ hnumbered =>
      rw [hempty] at hnumbered
      exact hnumbered
    | rejected i _ honly =>
      rw [hempty] at honly
      cases honly
  · exact accepted_of_quiet (c := c.forget) hsynced hcredit hsmall hempty hpeer ht payload

def idleProvider : StreamState :=
  { capability := "example.store@1", session := none, streams := ∅, retiredStreams := ∅,
    active := 0 }

def accepting : ProviderAnswers Nat := ⟨some .accepted, none, none⟩

def exhausted : ProviderAnswers Nat :=
  ⟨some (.runtime (.resourceExhausted "example.store@1" "watch")), none, none⟩

/-- Two sends are accepted while both are under way; then one is rejected. -/
def rejectedLater : List (Act (Pc Nat) (Input (ProviderAnswers Nat))) :=
  [.start 1 (.send (some 10)), .move 1 (.go 0 none) 0,
    .start 2 (.send (some 20)), .move 2 (.go 1 none) 0,
    .move 0 (.serve accepting) 0, .move 0 (.serve accepting) 0,
    .move 2 (.go 0 none) 0, .move 1 (.go 0 none) 0,
    .start 3 (.send (some 30)), .move 3 (.go 2 none) 0,
    .move 0 (.serve exhausted) 0, .move 3 (.go 0 none) 0]

theorem sends_stay_in_step_sample :
    ∃ c, run ((program providerPeer).logged sendEvents).step
        (connected idleProvider 5 "session" "watch" 2).logged rejectedLater = some c ∧
      c.shared.state.state.nextSendSequence = 2 ∧ c.shared.state.state.sendCredit = 2 := by
  refine exists_run (by decide +kernel) ⟨by decide +kernel, ?_⟩
  exact (sends_stay_in_step idleProvider 5 "session" "watch" 2 (by decide) (by decide +kernel)
    (run_get _) (by decide +kernel)).2.1

/-- Two sends are under way when the provider rejects the first: the second does not have the
number that the server expects, and the first cannot be taken back. -/
theorem sends_get_out_of_step :
    ∃ c entry, run (program providerPeer).step (connected idleProvider 5 "session" "watch" 2)
        [.start 1 (.send (some 10)), .move 1 (.go 0 none) 0,
          .start 2 (.send (some 20)), .move 2 (.go 1 none) 0,
          .move 0 (.serve exhausted) 0, .move 0 (.serve accepting) 0,
          .move 1 (.go 0 none) 0, .move 2 (.go 0 none) 0] = some c ∧
      c.shared.calls = [] ∧ c.shared.peer.streams[5]? = some entry ∧
      c.shared.state.nextSendSequence = 2 ∧ entry.nextInboundSequence = 0 ∧
      c.shared.state.sendCredit = 0 := by
  refine ⟨_, _, run_get (by decide +kernel), by decide +kernel,
    (Option.some_get (by decide +kernel)).symm, by decide +kernel, by decide +kernel,
    by decide +kernel⟩

end LensoBun.Transport.StreamSession
