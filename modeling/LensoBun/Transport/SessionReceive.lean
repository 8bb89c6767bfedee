import LensoBun.Lib.History
import LensoBun.Transport.SessionCredit

set_option autoImplicit false

/-! # What a stream session delivers

Whatever the peer answers, the events that `receive` hands out are the messages with the numbers
0, 1, 2 and so on, then possibly the peer's half-close, then possibly the terminal. The flag
`receive_in_flight` lets one Receive be under way at a time, so that the checks and updates of one
answer are not interleaved with those of another; a dropped `receive` leaves it set for good.
-/

namespace LensoBun.Transport.StreamSession

open Std Lib Provider

variable {V β κ : Type}

/-- The event of the peer that a future hands out when it gets to `next`. -/
def handsOut (s : Shared β V) (t : Nat) (next : Pc V) : List (WireStreamEvent V) :=
  match next, answerTo s.calls t with
  | .received (.ok _), some (.ok (.event event)) => [event]
  | _, _ => []

def delivers (s : Shared β V) (t : Nat) (_ : Pc V) (_ : Input κ)
    (m : Moved (Shared β V) (Pc V)) : List (WireStreamEvent V) := handsOut s t m.next

/-- Messages in the peer's numbering, which is by 64-bit numbers. -/
def numbered (payloads : List V) : List (WireStreamEvent V) :=
  payloads.zipIdx.map (fun p => .message (UInt64.ofNat p.2) p.1)

/-- All messages, then the half-close if there was one, then the terminal if there was one. -/
def inOrder (payloads : List V) (closed : Bool) (outcome : Option (WireStreamTerminal V)) :
    List (WireStreamEvent V) :=
  numbered payloads ++ (if closed then [.peerHalfClosed] else []) ++
    outcome.toList.map .terminal

theorem numbered_concat (payloads : List V) (payload : V) :
    numbered (payloads ++ [payload]) =
      numbered payloads ++ [.message (UInt64.ofNat payloads.length) payload] := by
  simp [numbered, List.zipIdx_append]

/-- What has been delivered, and what the session knows of it. -/
structure Delivered (s : Logged (Shared β V) (WireStreamEvent V)) : Prop where
  ordered : ∃ payloads outcome,
    s.log = inOrder payloads s.state.state.peerHalfClosed outcome ∧
    s.state.state.nextReceiveSequence = UInt64.ofNat payloads.length ∧
    outcome.isSome = s.state.state.terminalSeen
  single : count isReceive s.state.calls ≤ if s.state.state.receiveInFlight then 1 else 0
  last : s.state.state.terminalSeen = true → count isReceive s.state.calls = 0

section

variable {P : Peer β κ V} {s s' : Shared β V} {log : List (WireStreamEvent V)} {t : Nat}
  {pc next : Pc V} {k : Input κ}

theorem isReceive_of_receiving {call : WireStreamCall V} (h : Pc.receiving.awaits call) :
    isReceive call = true := by
  cases call <;> first | rfl | exact h.elim

/-- A step that delivers nothing and makes no difference to `receive`. -/
theorem Delivered.same (h : Delivered ⟨s, log⟩)
    (hclosed : s'.state.peerHalfClosed = s.state.peerHalfClosed)
    (hnext : s'.state.nextReceiveSequence = s.state.nextReceiveSequence)
    (hseen : s'.state.terminalSeen = s.state.terminalSeen)
    (hflight : s'.state.receiveInFlight = s.state.receiveInFlight)
    (hcalls : count isReceive s'.calls ≤ count isReceive s.calls)
    (hout : handsOut s t next = []) : Delivered ⟨s', log ++ handsOut s t next⟩ := by
  obtain ⟨hordered, hsingle, hlast⟩ := h
  rw [hout, List.append_nil]
  refine ⟨?_, ?_, ?_⟩
  · simpa only [hclosed, hnext, hseen] using hordered
  · grind
  · grind

/-- The `receive` that takes its answer was the only one. -/
theorem Delivered.none_left (h : Delivered ⟨s, log⟩)
    (hown : ∀ i, i ∈ s.calls ∧ i.Live → i.future = t → Pc.receiving.awaits i.call)
    {answer : StreamWireResult V} (hanswer : answerTo s.calls t = some answer) :
    count isReceive (taken s.calls t) = 0 ∧ s.state.terminalSeen = false := by
  obtain ⟨i, hi, ht, -, hawaits⟩ := call_of_answer hown hanswer
  have hlt := count_taken_lt hi ht (isReceive_of_receiving hawaits)
  have hsingle : count isReceive s.calls ≤ 1 := by
    have hle := h.single
    simp only at hle
    split at hle <;> omega
  refine ⟨by omega, Bool.eq_false_iff.mpr (fun hterminal => ?_)⟩
  have hzero : count isReceive s.calls = 0 := h.last hterminal
  omega

/-- Only a `receive` that ends well hands something out. -/
theorem handsOut_of_ended (h : next.ended = true) : handsOut s t next = [] := by
  cases next with
  | received result => cases result <;> first | rfl | cases h
  | _ => rfl

theorem handsOut_event {event : WireStreamEvent V}
    (h : answerTo s.calls t = some (.ok (.event event))) (item : NativeStreamItem V) :
    handsOut s t (.received (.ok item)) = [event] := by
  simp only [handsOut, h]

/-- A `receive` that takes its answer leaves none under way. -/
theorem Delivered.taken (h : Delivered ⟨s, log⟩)
    (hown : ∀ i, i ∈ s.calls ∧ i.Live → i.future = t → Pc.receiving.awaits i.call)
    {answer : StreamWireResult V} (hanswer : answerTo s.calls t = some answer)
    {state : TransportStreamState} {log' : List (WireStreamEvent V)}
    (hordered : ∃ payloads outcome, log' = inOrder payloads state.peerHalfClosed outcome ∧
      state.nextReceiveSequence = UInt64.ofNat payloads.length ∧
      outcome.isSome = state.terminalSeen) :
    Delivered ⟨{ s with state := state, calls := taken s.calls t }, log'⟩ := by
  have hnone := (h.none_left hown hanswer).1
  refine ⟨hordered, ?_, fun _ => hnone⟩
  show count isReceive (StreamSession.taken s.calls t) ≤ _
  rw [hnone]
  exact Nat.zero_le _

/-- What has been delivered before a `receive` takes its answer. -/
theorem Delivered.so_far (h : Delivered ⟨s, log⟩)
    (hown : ∀ i, i ∈ s.calls ∧ i.Live → i.future = t → Pc.receiving.awaits i.call)
    {answer : StreamWireResult V} (hanswer : answerTo s.calls t = some answer) :
    ∃ payloads, log = inOrder payloads s.state.peerHalfClosed none ∧
      s.state.nextReceiveSequence = UInt64.ofNat payloads.length := by
  obtain ⟨payloads, outcome, hlog, hnext, houtcome⟩ := h.ordered
  have hseen := (h.none_left hown hanswer).2
  simp only [hseen, Option.isSome_eq_false_iff, Option.isNone_iff_eq_none] at houtcome
  subst houtcome
  exact ⟨payloads, hlog, hnext⟩

theorem delivered_moves
    (hown : ∀ i, i ∈ s.calls ∧ i.Live → i.future = t → pc.awaits i.call)
    (h : Delivered ⟨s, log⟩) (hmoves : Moves P s t pc k s' next) :
    Delivered ⟨s', log ++ handsOut s t next⟩ := by
  cases hmoves with
  | receiveMessage _ payload hanswer hopen =>
    obtain ⟨payloads, hlog, hnext⟩ := h.so_far hown hanswer
    have hseen := (h.none_left hown hanswer).2
    refine h.taken hown hanswer ⟨payloads ++ [payload], none, ?_, ?_, hseen.symm⟩
    · rw [handsOut_event hanswer, hlog, hnext]
      simp [inOrder, hopen, numbered_concat]
    · show s.state.nextReceiveSequence + 1 = _
      rw [hnext, List.length_append, List.length_singleton, UInt64.ofNat_add]
      rfl
  | receiveHalfClosed _ hanswer hopen =>
    obtain ⟨payloads, hlog, hnext⟩ := h.so_far hown hanswer
    have hseen := (h.none_left hown hanswer).2
    refine h.taken hown hanswer ⟨payloads, none, ?_, hnext, hseen.symm⟩
    rw [handsOut_event hanswer, hlog]
    simp [inOrder, hopen]
  | receiveTerminal _ outcome item hanswer _ =>
    obtain ⟨payloads, hlog, hnext⟩ := h.so_far hown hanswer
    refine h.taken hown hanswer ⟨payloads, some outcome, ?_, hnext, rfl⟩
    rw [handsOut_event hanswer, hlog]
    show inOrder payloads s.state.peerHalfClosed none ++ [.terminal outcome] =
      inOrder payloads s.state.peerHalfClosed (some outcome)
    simp [inOrder]
  | receiveFailed _ answer error hanswer =>
    rw [handsOut_of_ended rfl, List.append_nil]
    exact h.taken hown hanswer h.ordered
  | receive number hidle hopen =>
    have hnone : count isReceive s.calls = 0 := by
      have hle := h.single
      simp only [hidle, Bool.false_eq_true, if_false] at hle
      omega
    rw [show handsOut s t (.receiving : Pc V) = [] from rfl, List.append_nil]
    refine ⟨h.ordered, ?_, ?_⟩
    · rw [count_issue]
      show count isReceive s.calls + 1 ≤ 1
      omega
    · intro hterminal
      rw [show s.state.terminalSeen = true from hterminal] at hopen
      cases hopen
  | rest _ _ _ _ hended =>
    exact h.same rfl rfl rfl rfl (Nat.le_refl _) (handsOut_of_ended hended)
  | halfClose | park | spare | spend | cancel => exact h.same rfl rfl rfl rfl (Nat.le_refl _) rfl
  | serve choice peer future result =>
    exact h.same rfl rfl rfl rfl (count_resolved_le result) rfl
  | drop => exact h.same rfl rfl rfl rfl count_abandoned_le rfl
  | send | closeSend => exact h.same rfl rfl rfl rfl (Nat.le_of_eq (count_issue _ _)) rfl
  | _ => exact h.same rfl rfl rfl rfl count_taken_le rfl

end

/-- A message, a message whose number was used before, the half-close and the terminal. -/
def fourReceives : List (Act (Pc Nat) (Input (Nat × StreamWireResult Nat))) :=
  [.start 1 .receive, .move 1 (.go 0 none) 0,
    .move 0 (.serve (1, .ok (.event (.message 0 7)))) 0, .move 1 (.go 0 none) 0,
    .start 2 .receive, .move 2 (.go 1 none) 0,
    .move 0 (.serve (2, .ok (.event (.message 0 8)))) 0, .move 2 (.go 0 none) 0,
    .start 3 .receive, .move 3 (.go 2 none) 0,
    .move 0 (.serve (3, .ok (.event .peerHalfClosed))) 0, .move 3 (.go 0 none) 0,
    .start 4 .receive, .move 4 (.go 3 none) 0,
    .move 0 (.serve (4, .ok (.event (.terminal .success)))) 0, .move 4 (.go 0 none) 0]

end LensoBun.Transport.StreamSession
