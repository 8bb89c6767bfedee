import LensoBun.Lib.History
import LensoBun.AuthoringV2.OutboundStreams

set_option autoImplicit false

/-! # The sequence numbers of outbound messages

The bridge of the host on its own: requests to open, use and cancel streams arrive in any order and
from any child, and each is answered when the imports have a result. An answer with a message carries
the number in the table of the host and counts it up.

A receive that fails takes the number out of the table, also when the stream survives the failure, and
the next message starts again at zero. While no receive fails in that way, the numbers of a stream
count its messages.
-/

namespace LensoBun.AuthoringV2.Outbound

open Std Lib

/-! ## The bridge -/

/-- A request that the bridge has been given. -/
def Pc.isRequest : Pc → Bool
  | .opening | .acting _ _ | .cancelling _ => true
  | _ => false

def bridgeNext (s : Shared) (pc : Pc) (k : Input) : Option (Shared × Pc) :=
  match pc, k with
  | _, .rejects => none
  | .opening, k => bridgeOpen s k
  | .acting streamId use, k => bridgeAct s streamId use k
  | .cancelling streamIds, k => bridgeCancel s streamIds k
  | _, _ => none

def bridge : Program Shared Pc Input where
  entry := Pc.isRequest
  move s _ pc k := (bridgeNext s pc k).map fun p => ⟨p.1, p.2, none⟩

/-- The number of the message that a step answers with, and its stream. -/
def numbered (s : Shared) (_ : Nat) (pc : Pc) (k : Input) (_ : Moved Shared Pc) : List (Nat × Nat) :=
  match pc, k with
  | .acting streamId _, .answers .message _ => [(streamId, s.sequence streamId)]
  | _, _ => []

/-- The bridge, with the numbers it answers written down. -/
def numbering : Program (Logged Shared (Nat × Nat)) Pc Input := bridge.logged numbered

def numbersOf (streamId : Nat) (log : List (Nat × Nat)) : List Nat :=
  (log.filter (·.1 == streamId)).map (·.2)

theorem numbersOf_append (streamId : Nat) (log log' : List (Nat × Nat)) :
    numbersOf streamId (log ++ log') = numbersOf streamId log ++ numbersOf streamId log' := by
  simp [numbersOf]

/-- A receive of the stream fails, and the stream stays alive. -/
def forgets (streamId : Nat) (x : Threads Shared Pc) : Act Pc Input → Bool
  | .move t (.answers (.runtime _) false) _ =>
    x.pool[t]? == some (.acting streamId .receive) && x.shared.live.contains streamId
  | _ => false

/-! ## What a step does to a stream -/

/-- The moves as far as they concern the table of one stream. -/
inductive Numbers (streamId : Nat) (s : Shared) : Shared → List (Nat × Nat) → Prop where
  | other {s' : Shared} {es : List (Nat × Nat)} (hes : numbersOf streamId es = [])
      (hnumber : s.nextStreamId ≤ s'.nextStreamId)
      (hlive : streamId ∈ s'.live → streamId ∈ s.live)
      (hsequence : streamId ∈ s'.live →
        s'.outboundReceiveSequences[streamId]? = s.outboundReceiveSequences[streamId]?) :
      Numbers streamId s s' es
  | opened {s' : Shared} (hid : streamId = s.nextStreamId) (hnumber : s'.nextStreamId = streamId + 1)
      (hsequence : s'.outboundReceiveSequences[streamId]? = some 0) : Numbers streamId s s' []
  | message {s' : Shared} (hlive : streamId ∈ s.live) (hnumber : s'.nextStreamId = s.nextStreamId)
      (hsequence : s'.outboundReceiveSequences[streamId]? =
        some (min (s.sequence streamId + 1) (2 ^ 64 - 1))) :
      Numbers streamId s s' [(streamId, s.sequence streamId)]

section

variable {streamId : Nat} {s s' : Shared} {log es : List (Nat × Nat)} {t : Nat} {pc : Pc} {k : Input}
  {m : Moved Shared Pc}

theorem Numbers.same (hes : numbersOf streamId es = []) : Numbers streamId s s es :=
  .other hes (Nat.le_refl _) id fun _ => rfl

theorem Numbers.ended {id : Nat} (hes : numbersOf streamId es = [])
    (hnumber : s'.nextStreamId = s.nextStreamId) (hlive : s'.live = s.live.filter (· != id))
    (hsequences : s'.outboundReceiveSequences = s.outboundReceiveSequences ∨
      s'.outboundReceiveSequences = s.outboundReceiveSequences.erase id) :
    Numbers streamId s s' es := by
  have hkept : streamId ∈ s'.live → streamId ∈ s.live ∧ streamId ≠ id := by grind
  refine .other hes (Nat.le_of_eq hnumber.symm) (fun hmem => (hkept hmem).1) fun hmem => ?_
  have hne := (hkept hmem).2
  rcases hsequences with hsame | herased
  · rw [hsame]
  · rw [herased, getElem?_erase_nat, if_neg (Ne.symm hne)]

theorem numbers_bridgeOpen {pc' : Pc} (h : bridgeOpen s k = some (s', pc')) (hk : k ≠ .rejects) :
    Numbers streamId s s' [] := by
  rw [bridgeOpen.eq_def] at h
  split at h
  · cases h
    by_cases hid : streamId = s.nextStreamId
    · refine .opened hid (by rw [hid]) ?_
      rw [hid, getElem?_insert_nat, if_pos rfl]
    · refine .other rfl (Nat.le_succ _) (fun hmem => ?_) fun _ => ?_
      · exact (List.mem_cons.mp hmem).resolve_left hid
      · rw [getElem?_insert_nat, if_neg (Ne.symm hid)]
  · cases h
    exact .same rfl
  · cases h
    exact .same rfl
  · exact absurd rfl hk
  · cases h

theorem numbers_bridgeCancel {pc' : Pc} {streamIds : List Nat}
    (h : bridgeCancel s streamIds k = some (s', pc')) : Numbers streamId s s' [] := by
  rw [bridgeCancel.eq_def] at h
  split at h
  · split at h
    · cases h
      exact .ended rfl rfl rfl (.inr rfl)
    · cases h
  · cases h

theorem numbers_bridgeAnswer {id : Nat} {use : Use} {answer : Answer} {ends : Bool}
    (h : bridgeAnswer s id use answer ends = some s')
    (hends : ∀ failure, id = streamId → use = .receive → answer = .runtime failure →
      streamId ∈ s.live → ends = true) :
    Numbers streamId s s' (numbered s t (.acting id use) (.answers answer ends) m) := by
  cases answer with
  | runtime failure =>
    simp only [bridgeAnswer, Option.some.injEq] at h
    rw [← h]
    cases ends with
    | true =>
      cases use with
      | receive => exact .ended rfl rfl rfl (.inr rfl)
      | send | closeSend => exact .ended rfl rfl rfl (.inl rfl)
    | false =>
      cases use with
      | receive =>
        refine .other rfl (Nat.le_refl _) (fun hmem => hmem) fun hlive => ?_
        have hne : id ≠ streamId := by
          intro hid
          cases hends failure hid rfl rfl hlive
        exact (getElem?_erase_nat _ _ _).trans (if_neg hne)
      | send => exact .same rfl
      | closeSend => exact .same rfl
  | accepted | peerHalfClosed =>
    simp only [bridgeAnswer] at h
    split at h
    · cases h
      exact .same rfl
    · cases h
  | message =>
    simp only [bridgeAnswer] at h
    split at h
    · next hlive =>
        cases h
        by_cases hid : id = streamId
        · subst hid
          refine .message hlive.2 rfl ?_
          rw [Shared.nextSequence, getElem?_insert_nat, if_pos rfl]
        · refine .other ?_ (Nat.le_refl _) (fun hmem => hmem) fun _ => ?_
          · simp [numbersOf, numbered, hid]
          · rw [Shared.nextSequence, getElem?_insert_nat, if_neg hid]
    · cases h
  | terminal =>
    simp only [bridgeAnswer] at h
    split at h
    · cases h
      exact .ended rfl rfl rfl (.inr rfl)
    · cases h

theorem numbers_of_move (hm : bridge.move s t pc k = some m)
    (hends : ∀ failure, pc = .acting streamId .receive → k = .answers (.runtime failure) false →
      streamId ∉ s.live) :
    Numbers streamId s m.shared (numbered s t pc k m) := by
  obtain ⟨⟨s', pc'⟩, hnext, rfl⟩ := Option.map_eq_some_iff.mp hm
  unfold bridgeNext at hnext
  split at hnext
  · cases hnext
  · next hk => exact numbers_bridgeOpen hnext hk
  · next id use k hk =>
      rw [bridgeAct.eq_def] at hnext
      split at hnext
      · next answer ends =>
          obtain ⟨s₁, hs₁, heq⟩ := Option.map_eq_some_iff.mp hnext
          cases heq
          refine numbers_bridgeAnswer hs₁ ?_
          rintro failure rfl rfl rfl hlive
          cases ends with
          | true => rfl
          | false => exact absurd hlive (hends failure rfl rfl)
      · exact absurd rfl hk
      · cases hnext
  · exact numbers_bridgeCancel hnext
  · cases hnext

/-! ## The numbers of a stream -/

/-- The numbers answered so far count the messages, and the table has the next one. -/
structure InOrder (streamId : Nat) (s : Shared) (log : List (Nat × Nat)) : Prop where
  fresh : s.nextStreamId ≤ streamId → numbersOf streamId log = [] ∧ streamId ∉ s.live
  table : streamId ∈ s.live → s.outboundReceiveSequences[streamId]? =
    some (min (numbersOf streamId log).length (2 ^ 64 - 1))
  counted : numbersOf streamId log =
    (List.range (numbersOf streamId log).length).map (min · (2 ^ 64 - 1))

theorem InOrder.move (h : InOrder streamId s log) (hmove : Numbers streamId s s' es) :
    InOrder streamId s' (log ++ es) := by
  cases hmove with
  | other hes hnumber hlive hsequence =>
    have hsame : numbersOf streamId (log ++ es) = numbersOf streamId log := by
      rw [numbersOf_append, hes, List.append_nil]
    refine ⟨fun hnew => ?_, fun hmem => ?_, ?_⟩
    · grind [h.fresh]
    · rw [hsame, hsequence hmem]
      exact h.table (hlive hmem)
    · rw [hsame]
      exact h.counted
  | opened hid hnumber hsequence =>
    have hnone := (h.fresh (Nat.le_of_eq hid.symm)).1
    rw [List.append_nil]
    refine ⟨fun hnew => by omega, fun _ => ?_, h.counted⟩
    rw [hsequence, hnone]
    rfl
  | message hlive hnumber hsequence =>
    have hcurrent : s.sequence streamId = min (numbersOf streamId log).length (2 ^ 64 - 1) := by
      rw [Shared.sequence, h.table hlive]
      rfl
    have hlog : numbersOf streamId (log ++ [(streamId, s.sequence streamId)]) =
        numbersOf streamId log ++ [min (numbersOf streamId log).length (2 ^ 64 - 1)] := by
      rw [numbersOf_append, hcurrent]
      simp [numbersOf]
    have hlength : (numbersOf streamId (log ++ [(streamId, s.sequence streamId)])).length =
        (numbersOf streamId log).length + 1 := by
      rw [hlog, List.length_append, List.length_singleton]
    refine ⟨fun hnew => ?_, fun _ => ?_, ?_⟩
    · rw [hnumber] at hnew
      exact absurd hlive (h.fresh hnew).2
    · grind
    · rw [hlength, hlog, List.range_succ, List.map_append]
      congr 1
      exact h.counted

theorem InOrder.step {x x' : Threads (Logged Shared (Nat × Nat)) Pc} {a : Act Pc Input}
    (h : InOrder streamId x.shared.state x.shared.log) (hkept : forgets streamId x.forget a = false)
    (hstep : numbering.step x a = some x') : InOrder streamId x'.shared.state x'.shared.log := by
  rcases numbering.step_cases hstep with ⟨t, pc, -, -, -, rfl⟩ |
    ⟨t, k, child, pc, m', rfl, hpc, hm', hshared, -⟩
  · exact h
  · obtain ⟨m, hm, rfl⟩ := logged_move hm'
    rw [hshared]
    refine h.move (numbers_of_move hm ?_)
    rintro failure rfl rfl hlive
    simp [forgets, Threads.forget, hpc, hlive] at hkept

end

/-- **The sequence numbers of an outbound stream.** In every run of the bridge in which no receive of
the stream fails while the stream survives, the messages that have been answered for the stream, up to
`2 ^ 64` of them, carry the numbers `0, 1, 2, …` in the order in which they were obtained. -/
theorem sequences_in_order (streamId : Nat) (acts : List (Act Pc Input))
    (x : Threads (Logged Shared (Nat × Nat)) Pc) (hrun : run numbering.step init.logged acts = some x)
    (hkept : Meets numbering.step (fun y a => forgets streamId y.forget a = false) init.logged acts)
    (hmany : (numbersOf streamId x.shared.log).length ≤ 2 ^ 64) :
    numbersOf streamId x.shared.log = List.range (numbersOf streamId x.shared.log).length := by
  have hinit : InOrder streamId Shared.init [] := ⟨fun _ => ⟨rfl, by simp [Shared.init]⟩, by simp [Shared.init], rfl⟩
  have hstep : ∀ (y : Threads (Logged Shared (Nat × Nat)) Pc) (a : Act Pc Input)
      (y' : Threads (Logged Shared (Nat × Nat)) Pc),
      InOrder streamId y.shared.state y.shared.log → forgets streamId y.forget a = false →
      numbering.step y a = some y' → InOrder streamId y'.shared.state y'.shared.log :=
    fun _ _ _ h hkept hstep => h.step hkept hstep
  have h := run_invariant_of_meets hstep hinit hkept hrun
  refine h.counted.trans ((List.map_congr_left fun n hn => ?_).trans (List.map_id _))
  have hlt := List.mem_range.mp hn
  exact Nat.min_eq_left (by omega)

/-- Two messages of one stream, a send that fails, and a message of another one. -/
theorem sequences_in_order_sample :
    ∃ x, run numbering.step init.logged
        [.start 0 .opening, .move 0 .opens 0, .start 1 .opening, .move 1 .opens 0,
          .start 2 (.acting 0 .receive), .start 3 (.acting 1 .receive), .start 4 (.acting 0 .receive),
          .start 5 (.acting 0 .send), .move 4 (.answers .message false) 0,
          .move 5 (.answers (.runtime .resourceExhausted) false) 0,
          .move 3 (.answers .message false) 0, .move 2 (.answers .message false) 0] = some x ∧
      x.shared.log = [(0, 0), (1, 0), (0, 1)] ∧
      numbersOf 0 x.shared.log = List.range (numbersOf 0 x.shared.log).length := by
  refine exists_run (by decide +kernel) ⟨by decide +kernel, ?_⟩
  exact sequences_in_order 0 _ _ (run_get _) (by decide +kernel) (by decide +kernel)

/-- Two receives overlap after a first message; one of them fails and the stream survives, and the
message of the other carries the number zero again. -/
theorem sequence_starts_again :
    ∃ x, run numbering.step init.logged
        [.start 0 .opening, .move 0 .opens 0, .start 1 (.acting 0 .receive),
          .move 1 (.answers .message false) 0, .start 2 (.acting 0 .receive),
          .start 3 (.acting 0 .receive), .move 3 (.answers (.runtime .resourceExhausted) false) 0,
          .move 2 (.answers .message false) 0] = some x ∧
      0 ∈ x.shared.state.live ∧ numbersOf 0 x.shared.log = [0, 0] := by
  exact exists_run (by decide +kernel) (by decide +kernel)

end LensoBun.AuthoringV2.Outbound
