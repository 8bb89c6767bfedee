import LensoBun.Transport.StreamSession

set_option autoImplicit false

/-! # Credit of a stream session

A send takes one unit of credit and gives it back when it is rejected, but an acknowledgement
replaces the credit at hand by the credit it carries, whatever is under way then. So the Sends
under way stay within the credit of the session as long as each acknowledgement leaves room for
them.

A send that finds no credit is parked. Every step that brings credit or ends the session wakes
all parked sends; a Send that fails otherwise, or is dropped, wakes nobody. So a parked send has
a Send under way to wait for as long as no Send that ends this way was the last one and took the
last credit with it.
-/

namespace LensoBun.Transport.StreamSession

open Std Lib Provider

variable {V β κ : Type}

/-- The calls whose answers are still to be taken, as things that belong to futures. -/
abbrev CallsBacked (c : Threads (Shared β V) (Pc V)) : Prop :=
  Backed (fun s i => i ∈ s.calls ∧ i.Live) Issued.future (fun pc i => pc.awaits i.call) c

theorem init_backed (state : TransportStreamState) (peer : β) :
    CallsBacked (init (V := V) state peer) := by
  intro i hi
  cases hi.1

theorem call_of_answer {s : Shared β V} {t : Nat} {pc : Pc V} {answer : StreamWireResult V}
    (hown : ∀ i, i ∈ s.calls ∧ i.Live → i.future = t → pc.awaits i.call)
    (h : answerTo s.calls t = some answer) :
    ∃ i ∈ s.calls, i.future = t ∧ i.answer = some answer ∧ pc.awaits i.call := by
  obtain ⟨i, hi, ht, hanswer⟩ := answerTo_some h
  have hlive : i.Live := Or.inr (by rw [hanswer]; rfl)
  exact ⟨i, hi, ht, hanswer, hown i ⟨hi, hlive⟩ ht⟩

theorem isSend_of_awaits {sequence : UInt64} {call : WireStreamCall V}
    (h : (Pc.sending sequence).awaits call) : isSend call = true := by
  cases call <;> first | rfl | exact h.elim

/-! ## The window -/

/-- The Sends that have been issued and not been answered. -/
def unanswered (calls : List (Issued V)) : Nat :=
  calls.countP (fun i => isSend i.call && i.answer.isNone)

theorem unanswered_le (calls : List (Issued V)) : unanswered calls ≤ count isSend calls := by
  refine List.countP_mono_left (fun i _ h => ?_)
  exact (Bool.and_eq_true_iff.mp h).1

/-- The credit that a send is about to take over from its acknowledgement. -/
def granted : Pc V → Input κ → Option (StreamWireResult V) → Option Nat
  | .sending _, .go _ _, some (.ok (.accepted credit)) => some credit
  | _, _, _ => none

/-- The credit of an acknowledgement, when it is taken, and the other Sends that are under way
are within the credit of the session. -/
def acksLeaveRoom (credit : Nat) : Guard (Shared β V) (Pc V) (Input κ) where
  self s t pc k := ∀ credit' ∈ granted pc k (answerTo s.calls t),
    credit' + count isSend (taken s.calls t) ≤ credit

instance (credit : Nat) (c : Threads (Shared β V) (Pc V)) (a : Act (Pc V) (Input κ)) :
    Decidable ((acksLeaveRoom credit).Allows c a) := Guard.decidable c a

section

variable {P : Peer β κ V} {s s' : Shared β V} {t : Nat} {pc next : Pc V} {k : Input κ}

/-- Credit at hand and Sends under way do not grow together, but for acknowledgements. -/
theorem window_moves {credit : Nat}
    (hown : ∀ i, i ∈ s.calls ∧ i.Live → i.future = t → pc.awaits i.call)
    (hwindow : s.state.sendCredit + count isSend s.calls ≤ credit)
    (hg : (acksLeaveRoom credit).self s t pc k) (h : Moves P s t pc k s' next) :
    s'.state.sendCredit + count isSend s'.calls ≤ credit := by
  have htaken : count isSend (taken s.calls t) ≤ count isSend s.calls := count_taken_le
  cases h with
  | serve choice peer future result =>
    have hle : count isSend (resolved s.calls future result) ≤ count isSend s.calls :=
      count_resolved_le result
    show s.state.sendCredit + count isSend (resolved s.calls future result) ≤ credit
    omega
  | send =>
    rw [count_issue]
    show s.state.sendCredit - 1 + (count isSend s.calls + 1) ≤ credit
    omega
  | spend =>
    show s.state.sendCredit - 1 + count isSend s.calls ≤ credit
    omega
  | accept sequence number refusal credit' hanswer => exact hg credit' (by rw [hanswer]; rfl)
  | restore sequence number refusal failure error hanswer =>
    -- the rejected Send is no longer under way
    obtain ⟨i, hi, ht, -, hawaits⟩ := call_of_answer hown hanswer
    have hlt := count_taken_lt hi ht (isSend_of_awaits hawaits)
    show s.state.sendCredit + 1 + count isSend (taken s.calls t) ≤ credit
    omega
  | receive | closeSend =>
    rw [count_issue]
    exact hwindow
  | drop =>
    have hle : count isSend (abandoned s.calls t) ≤ count isSend s.calls := count_abandoned_le
    show s.state.sendCredit + count isSend (abandoned s.calls t) ≤ credit
    omega
  | rest | park | spare | halfClose | cancel => exact hwindow
  | _ =>
    show s.state.sendCredit + count isSend (taken s.calls t) ≤ credit
    omega

end

/-- **The Sends that have not been answered are at most the credit of the session**, in every
run in which the acknowledgements leave room for the Sends under way. -/
theorem sends_within_credit (P : Peer β κ V) (peer : β) (streamId : Nat)
    (session capability operation : String) (credit : Nat)
    {acts : List (Act (Pc V) (Input κ))} {c : Threads (Shared β V) (Pc V)}
    (hg : Meets (program P).step (acksLeaveRoom credit).Allows
      (init (.new streamId session capability operation credit) peer) acts)
    (hrun : run (program P).step
      (init (.new streamId session capability operation credit) peer) acts = some c) :
    unanswered c.shared.calls ≤ credit := by
  let start := TransportStreamState.new streamId session capability operation credit
  have hstart : start.sendCredit + count isSend ([] : List (Issued V)) ≤ credit := Nat.le_refl _
  have hwindow : c.shared.state.sendCredit + count isSend c.shared.calls ≤ credit :=
    ((calls_backed P).run
      (fun s t pc k m hown hs hg hm => window_moves hown hs hg (move_moves hm).1)
      (init_backed start peer) hstart hg hrun).2
  have hle := unanswered_le c.shared.calls
  omega

def twoSends : List (Act (Pc Nat) (Input (Nat × StreamWireResult Nat))) :=
  [.start 1 (.send (some 10)), .move 1 (.go 0 none) 0,
    .start 2 (.send (some 20)), .move 2 (.go 1 none) 0]

/-- The first is acknowledged with credit 1, and a third is sent. -/
theorem sends_within_credit_sample :
    ∃ c, run (program anyPeer).step (init (.new 5 "session" "example.store@1" "watch" 2) ())
        (twoSends ++ [.move 0 (.serve (1, .ok (.accepted 1))) 0, .move 1 (.go 2 none) 0,
          .start 3 (.send (some 30)), .move 3 (.go 3 none) 0]) = some c ∧
      unanswered c.shared.calls ≤ 2 := by
  refine exists_run (by decide +kernel) ?_
  exact sends_within_credit anyPeer () 5 "session" "example.store@1" "watch" 2 (by decide +kernel)
    (run_get _)

/-- The first is acknowledged with credit 2 while the second is under way: two more are sent,
and three wait for their answers. -/
theorem sends_exceed_credit :
    ∃ c, run (program anyPeer).step (init (.new 5 "session" "example.store@1" "watch" 2) ())
        (twoSends ++ [.move 0 (.serve (1, .ok (.accepted 2))) 0, .move 1 (.go 2 none) 0,
          .start 3 (.send (some 30)), .move 3 (.go 3 none) 0,
          .start 4 (.send (some 40)), .move 4 (.go 4 none) 0]) = some c ∧
      unanswered c.shared.calls = 3 := by
  exact exists_run (by decide +kernel) (by decide +kernel)

/-! ## Parked sends -/

/-- A Send is under way and its future waits for the answer. -/
def InFlight (calls : List (Issued V)) : Prop :=
  ∃ i ∈ calls, isSend i.call = true ∧ i.awaited = true

instance (calls : List (Issued V)) : Decidable (InFlight calls) :=
  inferInstanceAs (Decidable (∃ i ∈ calls, isSend i.call = true ∧ i.awaited = true))

/-- What a Send that gets this answer brings: credit, unless it fails and is not taken back. -/
def brings (s : TransportStreamState) (sequence : UInt64) : StreamWireResult V → Bool
  | .ok (.accepted credit) => 0 < credit
  | .ok (.runtime failure) =>
    failure.isResourceExhausted && s.nextSendSequence == saturatingSucc sequence
  | _ => false

/-- The transport's refusal of a call lets the send take its credit back. -/
def givesBack (s : TransportStreamState) (error : RuntimeFailure) : Bool :=
  error.isResourceExhausted && s.nextSendSequence + 1 != 0

/-- The steps that end a Send without bringing credit, and what is left then: the credit, and
the calls under way. An acknowledgement without credit leaves none. -/
def endsEmpty (s : Shared β V) (t : Nat) :
    Pc V → Input κ → Option (StreamWireResult V) → Option (Nat × List (Issued V))
  | .sending _, .drop, _ => some (s.state.sendCredit, taken s.calls t)
  | .sending sequence, .go _ _, some answer =>
    if brings s.state sequence answer then none
    else
      match answer with
      | .ok (.accepted credit) => some (credit, taken s.calls t)
      | _ => some (s.state.sendCredit, taken s.calls t)
  | .send _, .go _ (some error), _ | .parked _, .go _ (some error), _ =>
    if givesBack s.state error then none else some (s.state.sendCredit - 1, s.calls)
  | _, _, _ => none

/-- A Send that ends without bringing credit, failed or dropped, leaves credit or another Send in
flight. -/
def sendsLeaveHope : Guard (Shared β V) (Pc V) (Input κ) where
  self s t pc k := ∀ left ∈ endsEmpty s t pc k (answerTo s.calls t),
    0 < left.1 ∨ InFlight left.2

instance (s : Shared β V) (t : Nat) (pc : Pc V) (k : Input κ) :
    Decidable (sendsLeaveHope.self s t pc k) :=
  Option.decidableForallMem (endsEmpty s t pc k (answerTo s.calls t))

instance (s : Shared β V) (t : Nat) (pc : Pc V) (k : Input κ) (u : Nat) (pc' : Pc V) :
    Decidable (sendsLeaveHope.other s t pc k u pc') :=
  inferInstanceAs (Decidable True)

instance (s : Shared β V) (t : Nat) (pc : Pc V) :
    Decidable ((sendsLeaveHope (κ := κ)).start s t pc) :=
  inferInstanceAs (Decidable True)

section

variable {P : Peer β κ V} {s s' : Shared β V} {t : Nat} {pc next : Pc V} {k : Input κ}

/-- Nobody is parked while there is credit or after the session has ended. -/
def Waiting (state : TransportStreamState) : Prop :=
  state.creditWaiters ≠ [] →
    state.sendCredit = 0 ∧ state.terminalSeen = false ∧ state.cancelled = false

/-- Every step that brings credit, or ends the session, wakes those that are parked. -/
theorem waiting_moves (hs : Waiting s.state) (h : Moves P s t pc k s' next) :
    Waiting s'.state := by
  cases h with
  | park _ _ payload _ hcredit hterminal hcancelled =>
    exact fun _ => ⟨hcredit, hterminal, hcancelled⟩
  | send | spend =>
    intro hwaiters
    have hzero := (hs hwaiters).1
    omega
  | spare | accept | restore | receiveTerminal | cancel => exact fun hwaiters => absurd rfl hwaiters
  | _ => exact hs

theorem inFlight_resolved {calls : List (Issued V)} (future : Nat) (result : StreamWireResult V)
    (h : InFlight calls) : InFlight (resolved calls future result) := by
  obtain ⟨i, hi, hsend, hawaited⟩ := h
  by_cases hanswered : i.future = future ∧ i.answer.isNone
  · refine ⟨{ i with answer := some result }, List.mem_filterMap.mpr ⟨i, hi, ?_⟩, hsend, hawaited⟩
    rw [if_pos hanswered, Issued.resolve, if_pos hawaited]
  · exact ⟨i, List.mem_filterMap.mpr ⟨i, hi, if_neg hanswered⟩, hsend, hawaited⟩

/-- A future that does not wait for a Send leaves the Sends in flight when it is done. -/
theorem inFlight_taken (hown : ∀ i, i ∈ s.calls ∧ i.Live → i.future = t → pc.awaits i.call)
    (hpc : ∀ call, pc.awaits call → isSend call = false) (h : InFlight s.calls) :
    InFlight (taken s.calls t) := by
  obtain ⟨i, hi, hsend, hawaited⟩ := h
  refine ⟨i, mem_taken.mpr ⟨hi, fun ht => ?_⟩, hsend, hawaited⟩
  have hawaits := hown i ⟨hi, Or.inl hawaited⟩ ht
  rw [hpc _ hawaits] at hsend
  cases hsend

theorem inFlight_abandoned (h : InFlight (taken s.calls t)) : InFlight (abandoned s.calls t) := by
  obtain ⟨i, hi, hsend, hawaited⟩ := h
  obtain ⟨hi, hne⟩ := mem_taken.mp hi
  exact ⟨i, List.mem_filterMap.mpr ⟨i, hi, if_neg hne⟩, hsend, hawaited⟩

theorem inFlight_issue (call : WireStreamCall V) (h : InFlight s.calls) :
    InFlight (s.issue t call).calls := by
  obtain ⟨i, hi, hsend, hawaited⟩ := h
  exact ⟨i, List.mem_append_left _ hi, hsend, hawaited⟩

/-- There is credit, or a Send that may bring some. -/
def Hopeful (s : Shared β V) : Prop := 0 < s.state.sendCredit ∨ InFlight s.calls

theorem not_isSend_of_receiving (call : WireStreamCall V) (h : Pc.receiving.awaits call) :
    isSend call = false := by
  cases call <;> first | rfl | exact h.elim

theorem not_isSend_of_closing (call : WireStreamCall V) (h : Pc.closing.awaits call) :
    isSend call = false := by
  cases call <;> first | rfl | exact h.elim

theorem hopeful_moves
    (hown : ∀ i, i ∈ s.calls ∧ i.Live → i.future = t → pc.awaits i.call)
    (hs : Hopeful s) (hg : sendsLeaveHope.self s t pc k) (h : Moves P s t pc k s' next) :
    Hopeful s' := by
  cases h with
  | serve choice peer future result => exact hs.imp_right (inFlight_resolved future result)
  | send _ number payload _ _ =>
    refine Or.inr ⟨_, List.mem_append_right _ (List.mem_singleton.mpr rfl), rfl, rfl⟩
  | spend _ number refusal error hmessage _ hlost =>
    have hnot : givesBack s.state refusal = false := by
      rcases hlost with hrefusal | hlast
      · simp [givesBack, hrefusal]
      · simp [givesBack, hlast]
    cases pc with
    | send | parked =>
      exact hg (s.state.sendCredit - 1, s.calls) (by simp [endsEmpty, hnot])
    | _ => cases hmessage
  | accept sequence number refusal credit hanswer =>
    by_cases hcredit : 0 < credit
    · exact Or.inl hcredit
    · exact hg (credit, taken s.calls t) (by simp [endsEmpty, hanswer, brings, hcredit])
  | restore => exact Or.inl (Nat.succ_pos _)
  | fail sequence number refusal answer error hanswer hrefused hlost =>
    have hnot : brings s.state sequence answer = false := by
      rcases answer with error | outcome
      · rfl
      · cases outcome with
        | accepted credit => exact absurd rfl (hrefused credit)
        | runtime failure =>
          have hlost := hlost failure rfl
          simpa [brings] using hlost
        | _ => rfl
    refine hg (s.state.sendCredit, taken s.calls t) ?_
    rw [hanswer]
    rcases answer with error | outcome
    · rfl
    · cases outcome with
      | accepted credit => exact absurd rfl (hrefused credit)
      | _ => simp [endsEmpty, hnot]
  | receive number _ _ | closeSend => exact hs.imp_right (inFlight_issue _)
  | receiveFailed | receiveMessage | receiveHalfClosed | receiveTerminal =>
    exact hs.imp_right (inFlight_taken hown not_isSend_of_receiving)
  | endCloseSend => exact hs.imp_right (inFlight_taken hown not_isSend_of_closing)
  | drop _ hwaits =>
    have hleft : 0 < s.state.sendCredit ∨ InFlight (taken s.calls t) := by
      cases pc with
      | sending => exact hg (s.state.sendCredit, taken s.calls t) rfl
      | receiving => exact hs.imp_right (inFlight_taken hown not_isSend_of_receiving)
      | closing => exact hs.imp_right (inFlight_taken hown not_isSend_of_closing)
      | _ => cases hwaits
    exact hleft.imp_right inFlight_abandoned
  | _ => exact hs

end

/-- **A parked send that has not been woken has no credit, and the session is going on; and a
Send is in flight** in every run in which each Send that ends without bringing credit leaves
credit or another Send in flight. -/
theorem parked_send_has_hope (P : Peer β κ V) (peer : β) (streamId : Nat)
    (session capability operation : String) (credit : Nat) (hcredit : 0 < credit)
    {acts : List (Act (Pc V) (Input κ))} {c : Threads (Shared β V) (Pc V)}
    (hg : Meets (program P).step sendsLeaveHope.Allows
      (init (.new streamId session capability operation credit) peer) acts)
    (hrun : run (program P).step
      (init (.new streamId session capability operation credit) peer) acts = some c) :
    ∀ (t : Nat) payload, c.pool[t]? = some (.parked payload) →
      t ∈ c.shared.state.creditWaiters →
      (∃ (u : Nat) (sequence : UInt64), c.pool[u]? = some (.sending sequence)) ∧
      c.shared.state.sendCredit = 0 ∧ c.shared.state.terminalSeen = false ∧
      c.shared.state.cancelled = false := by
  intro t payload _ hparked
  let start := TransportStreamState.new streamId session capability operation credit
  have hstart : Hopeful (init (V := V) start peer).shared ∧ Waiting start :=
    ⟨Or.inl hcredit, fun h => absurd rfl h⟩
  obtain ⟨hbacked, hhope, hwaiting⟩ := (calls_backed P).run
    (J := fun s => Hopeful s ∧ Waiting s.state)
    (fun s t pc k m hown hs hg hm => ⟨hopeful_moves hown hs.1 hg (move_moves hm).1,
      waiting_moves hs.2 (move_moves hm).1⟩)
    (init_backed start peer) hstart hg hrun
  have hnone := hwaiting (List.ne_nil_of_mem hparked)
  refine ⟨?_, hnone⟩
  rcases hhope with hpos | ⟨i, hi, hsend, hawaited⟩
  · omega
  · -- the future of the Send in flight
    obtain ⟨pc, hpc, hawaits⟩ := hbacked i ⟨hi, Or.inl hawaited⟩
    cases pc with
    | sending sequence => exact ⟨i.future, sequence, hpc⟩
    | receiving =>
      rw [not_isSend_of_receiving _ hawaits] at hsend
      cases hsend
    | closing =>
      rw [not_isSend_of_closing _ hawaits] at hsend
      cases hsend
    | _ => exact (not_awaits_of_free rfl _ hawaits).elim

/-- Two sends with credit for one: the second is parked. -/
theorem parked_send_has_hope_sample :
    ∃ c, run (program anyPeer).step (init (.new 5 "session" "example.store@1" "watch" 1) ())
        twoSends = some c ∧
      (∃ (u : Nat) (sequence : UInt64), c.pool[u]? = some (.sending sequence)) ∧
      c.shared.state.sendCredit = 0 := by
  refine exists_run (by decide +kernel) ?_
  exact And.imp_right And.left (parked_send_has_hope anyPeer () 5 "session" "example.store@1" "watch" 1
    (by decide) (by decide +kernel) (run_get _) 2 20 (by decide +kernel) (by decide +kernel))

/-- The Send in flight fails: the parked send is left with nothing to wait for. -/
theorem parked_send_is_forgotten :
    ∃ c, run (program anyPeer).step (init (.new 5 "session" "example.store@1" "watch" 1) ())
        (twoSends ++ [.move 0 (.serve (1, .ok (.runtime (.pluginFailure "lost")))) 0,
          .move 1 (.go 2 none) 0]) = some c ∧
      c.pool[2]? = some (.parked 20) ∧ 2 ∈ c.shared.state.creditWaiters ∧
      c.pool[1]? = some (.sent (.error (.pluginFailure "lost"))) ∧ c.shared.calls = [] := by
  exact exists_run (by decide +kernel) (by decide +kernel)

end LensoBun.Transport.StreamSession
