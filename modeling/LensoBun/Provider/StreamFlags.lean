import LensoBun.Provider.StreamTrace

set_option autoImplicit false

/-! # What a stream call leaves on its entry

A Send takes a credit and sets `send_in_flight` before it calls the provider, a Receive sets
`receive_in_flight` and a CloseSend sets `peer_half_closed`. When the provider answers, the call
gives back what it has taken or retires the stream. When the provider panics, neither happens: the
handlers of requests and opens catch the panic, and that of stream calls does not.
-/

namespace LensoBun.Provider

open Std Lib

variable {V : Type}

def ProviderAnswers.panics (provider : ProviderAnswers V) : WireStreamCall V → Bool
  | .send _ _ _ _ _ => provider.send.isNone
  | .receive _ _ _ => provider.receive.isNone
  | .closeSend _ _ _ => provider.peerHalfClosed.isNone

def closesSend (call : WireStreamCall V) (outcome : Option (WireStreamOutcome V)) : Bool :=
  match call, outcome with
  | .closeSend _ _ _, some (.accepted _) => true
  | _, _ => false

/-- A call leaves the flags and the credit as it has found them: the next call is not refused on
its account. The stream is half closed if it was so before, if it has come to its end, or if the
provider has accepted this. -/
structure LeavesNoTrace (call : WireStreamCall V) (outcome : Option (WireStreamOutcome V))
    (entry entry' : ProviderStreamEntry) : Prop where
  send : entry'.sendInFlight = entry.sendInFlight
  receive : entry'.receiveInFlight = entry.receiveInFlight
  close : entry'.peerHalfClosed = true →
    entry.peerHalfClosed = true ∨ entry.terminalSeen = true ∨ closesSend call outcome = true
  credit : entry'.inboundCredit = entry.inboundCredit

section

variable {call : WireStreamCall V} {outcome : Option (WireStreamOutcome V)}
  {entry entry' : ProviderStreamEntry}

theorem LeavesNoTrace.refl : LeavesNoTrace call outcome entry entry := ⟨rfl, rfl, .inl, rfl⟩

/-! ## One call on its entry -/

/-- The call retires its stream, or leaves no trace. -/
def Settles (call : WireStreamCall V) (entry : ProviderStreamEntry) (answered : Answered V) : Prop :=
  answered.retire = true ∨ LeavesNoTrace call answered.outcome entry answered.entry

theorem settles_send (capability : String) (entry : ProviderStreamEntry) (sequence : UInt64)
    (payload : V) (action : BunStreamAction) :
    Settles call entry (handleSend capability entry sequence payload (some action)) := by
  unfold handleSend
  split
  · exact .inr .refl
  split
  · exact .inr .refl
  next hflight =>
    -- the flag was clear, so clearing it gives back what was found
    have hclear : entry.sendInFlight = false := Bool.eq_false_iff.mpr hflight
    split
    · exact .inr ⟨hclear.symm, rfl, .inl, rfl⟩
    next hcredit =>
      have hback : entry.inboundCredit - 1 + 1 = entry.inboundCredit := by omega
      cases action with
      | accepted => exact .inr ⟨hclear.symm, rfl, .inl, hback⟩
      | runtime error =>
        cases hre : error.isResourceExhausted with
        | true =>
          simp only [hre, if_true]
          exact .inr ⟨hclear.symm, rfl, .inl, hback⟩
        | false =>
          simp only [hre, Bool.false_eq_true, if_false]
          exact .inl rfl

theorem receiveResult_flags (capability : String) (entry : ProviderStreamEntry)
    (answer : BunStreamReceive V) :
    (receiveResult capability entry answer).1.sendInFlight = entry.sendInFlight ∧
      (receiveResult capability entry answer).1.peerHalfClosed = entry.peerHalfClosed ∧
      (receiveResult capability entry answer).1.inboundCredit = entry.inboundCredit := by
  rcases answer with (payload | _ | outcome) | error
  · grind [receiveResult]
  · exact ⟨rfl, rfl, rfl⟩
  · exact ⟨rfl, rfl, rfl⟩
  · exact ⟨rfl, rfl, rfl⟩

theorem settles_receive (capability : String) (entry : ProviderStreamEntry)
    (answer : BunStreamReceive V) :
    Settles call entry (handleReceive capability entry (some answer)) := by
  unfold handleReceive
  split
  · exact .inr .refl
  next hflight =>
    have hclear : entry.receiveInFlight = false := Bool.eq_false_iff.mpr hflight
    obtain ⟨hsend, hclosed, hcredit⟩ :=
      receiveResult_flags capability { entry with receiveInFlight := true } answer
    exact .inr ⟨hsend, hclear.symm, fun h => .inl (hclosed.symm.trans h), hcredit⟩

theorem settles_closeSend (requestId streamId : Nat) (session capability : String)
    (entry : ProviderStreamEntry) (action : BunStreamAction) :
    Settles (.closeSend requestId streamId session : WireStreamCall V) entry
      (handleCloseSend capability entry (some action)) := by
  unfold handleCloseSend
  dsimp only
  split
  · next hended =>
      rw [Bool.or_eq_true] at hended
      exact .inr ⟨rfl, rfl, fun _ => hended.imp_right .inl, rfl⟩
  cases action with
  | accepted => exact .inr ⟨rfl, rfl, fun _ => .inr (.inr rfl), rfl⟩
  | runtime error =>
    cases hre : error.isResourceExhausted with
    | true =>
      simp only [hre, if_true]
      exact .inr ⟨rfl, rfl, nofun, rfl⟩
    | false =>
      simp only [hre, Bool.false_eq_true, if_false]
      exact .inl rfl

theorem settles_onEntry (capability : String) (entry : ProviderStreamEntry) {provider : ProviderAnswers V}
    (h : provider.panics call = false) :
    Settles call entry (handleOnEntry capability entry call provider) := by
  unfold handleOnEntry
  split
  · exact .inr .refl
  cases call with
  | send =>
    obtain ⟨action, haction⟩ := Option.isSome_iff_exists.mp (Option.isNone_eq_false_iff.mp h)
    rw [haction]
    exact settles_send ..
  | receive =>
    obtain ⟨answer, hanswer⟩ := Option.isSome_iff_exists.mp (Option.isNone_eq_false_iff.mp h)
    rw [hanswer]
    exact settles_receive ..
  | closeSend =>
    obtain ⟨action, haction⟩ := Option.isSome_iff_exists.mp (Option.isNone_eq_false_iff.mp h)
    rw [haction]
    exact settles_closeSend ..

end

/-! ## The call on the table -/

/-- The stream is out of the table, its permit is given back, and every call on it is refused. -/
structure Retired (state : StreamState) (entry : ProviderStreamEntry) (streamId : Nat)
    (state' : StreamState) : Prop where
  missing : state'.streams[streamId]? = none
  active : state'.active = if entry.permit then state.active - 1 else state.active
  refused : ∀ (call : WireStreamCall V) (provider : ProviderAnswers V), call.streamId = streamId →
    handleStreamCall state' call provider =
      (state', some (streamRuntimeOutcome (protocolFailure state'.capability)), [])

theorem refused_of_no_entry {state : StreamState} {call : WireStreamCall V}
    (h : state.streams[call.streamId]? = none) (provider : ProviderAnswers V) :
    handleStreamCall state call provider =
      (state, some (streamRuntimeOutcome (protocolFailure state.capability)), []) := by
  rcases handleStreamCall_cases state call provider with hrefused | ⟨entry, _, hfound, -⟩
  · exact hrefused
  · cases h.symm.trans hfound

theorem retired_retireStream (state : StreamState) (streamId : Nat) (entry : ProviderStreamEntry) :
    Retired (V := V) state entry streamId (retireStream (V := V) state streamId entry).1 := by
  have hmissing : (retireStream (V := V) state streamId entry).1.streams[streamId]? = none :=
    (retireStream_getElem? state streamId entry streamId).trans (if_pos rfl)
  refine ⟨hmissing, ?_, fun call provider hcall => ?_⟩
  · unfold retireStream takePermit
    split
    · rfl
    · rfl
  · exact refused_of_no_entry (hcall ▸ hmissing) provider

/-- What a provider answers that sends and half-closes without complaint and receives the event. -/
def calmProvider (event : BunStreamEvent Nat) : ProviderAnswers Nat where
  send := some .accepted
  receive := some (.event event)
  peerHalfClosed := some .accepted

def panickingProvider : ProviderAnswers Nat := ⟨none, none, none⟩

end LensoBun.Provider
