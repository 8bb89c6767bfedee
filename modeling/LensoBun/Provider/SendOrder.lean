import LensoBun.Provider.StreamSteps

set_option autoImplicit false

/-! # The Sends of one stream

The calls on one stream and its cancels, as threads over the stream's entry. `send_in_flight`
keeps two Sends from being between its compare-exchange and its store at the same time. The
sequence number is checked before the flag is taken, though, and counted after it is given back:
a Send that was checked in time can take the flag while the number it carries has been accepted
already. As long as no Send takes the flag with a number that is not the next one, the accepted
numbers are 0, 1, 2 and so on.
-/

namespace LensoBun.Provider

open Lib

variable {V : Type}

/-! ## One stream -/

/-- One stream: its entry, whether the table still holds it, the sequence numbers the provider
has accepted in the order of its `send` calls, and how many of them `next_inbound_sequence` has
counted. -/
structure StreamShared where
  capability : String
  entry : ProviderStreamEntry
  live : Bool
  accepted : List UInt64
  counted : Nat
  deriving DecidableEq, Repr

/-- Where a call on the stream, or a cancel of it, stands. -/
inductive StreamPc (V : Type) where
  | lookup (call : WireStreamCall V)
  | call (pc : CallPc V)
  /-- `handle_stream_cancel`: the table, the flag, the provider, the retired ids, the permit. -/
  | cancelRemove
  | cancelStore
  | cancelProvider
  | cancelRemember
  | cancelRelease
  | done

/-- What a step of a call adds to the record of accepted and counted numbers. -/
def StreamShared.note (s : StreamShared) : CallPc V → Choice V → StreamShared
  | .sendProvider sequence _, .action (some .accepted) =>
    { s with accepted := s.accepted ++ [sequence] }
  | .sendCount _, _ => { s with counted := s.counted + 1 }
  | _, _ => s

def streamMove (s : StreamShared) :
    StreamPc V → Choice V → Option (Moved StreamShared (StreamPc V))
  | .lookup call, _ =>
    if s.live then some ⟨s, .call (.cancelled call), none⟩ else some ⟨s, .done, none⟩
  | .call (.unlink outcome), _ => some ⟨{ s with live := false }, .call (.remember outcome), none⟩
  | .call (.remember outcome), _ => some ⟨s, .call (.release outcome), none⟩
  | .call pc, choice =>
    (callMove s.capability s.entry pc choice).map
      (fun (entry, pc', _) => ⟨{ s.note pc choice with entry := entry }, .call pc', none⟩)
  | .cancelRemove, _ =>
    if s.live then some ⟨{ s with live := false }, .cancelStore, none⟩
    else some ⟨s, .done, none⟩
  | .cancelStore, _ =>
    some ⟨{ s with entry := { s.entry with cancelled := true } }, .cancelProvider, none⟩
  | .cancelProvider, _ => some ⟨s, .cancelRemember, none⟩
  | .cancelRemember, _ => some ⟨s, .cancelRelease, none⟩
  | .cancelRelease, _ =>
    some ⟨{ s with entry := { s.entry with permit := false } }, .done, none⟩
  | .done, _ => none

def StreamPc.starts : StreamPc V → Bool
  | .lookup _ | .cancelRemove => true
  | _ => false

def streamProgram : Program StreamShared (StreamPc V) (Choice V) :=
  ⟨StreamPc.starts, fun s _ pc choice => streamMove s pc choice⟩

def openedStream (capability operation : String) (requestedCredit : Nat) :
    Threads StreamShared (StreamPc V) :=
  { shared :=
      { capability := capability, entry := .opened operation requestedCredit, live := true
        accepted := [], counted := 0 }
    pool := ∅ }

/-! ## What the steps do to the flag and the record -/

/-- Between taking `send_in_flight` and giving it back. -/
def CallPc.inside : CallPc V → Bool
  | .sendLoadCredit _ _ | .sendCredit _ _ _ | .sendProvider _ _ | .sendStore _ _ => true
  | _ => false

/-- The number a Send is going to offer to the provider. -/
def CallPc.offers : CallPc V → Option UInt64
  | .sendLoadCredit sequence _ | .sendCredit _ sequence _ | .sendProvider sequence _ =>
    some sequence
  | _ => none

def StreamPc.inside : StreamPc V → Bool
  | .call pc => pc.inside
  | _ => false

def StreamPc.offers : StreamPc V → Option UInt64
  | .call pc => pc.offers
  | _ => none

/-- The four ways in which a step can concern the flag. -/
inductive FlagStep (s : StreamShared) (pc : StreamPc V) (m : Moved StreamShared (StreamPc V)) :
    Prop where
  | outside (before : pc.inside = false) (after : m.next.inside = false)
      (flag : m.shared.entry.sendInFlight = s.entry.sendInFlight)
      (accepted : m.shared.accepted = s.accepted)
  | enter (sequence : UInt64) (payload : V)
      (before : pc = .call (.sendInFlight sequence payload))
      (unset : s.entry.sendInFlight = false)
      (after : m.next = .call (.sendLoadCredit sequence payload))
      (flag : m.shared.entry.sendInFlight = true)
      (accepted : m.shared.accepted = s.accepted)
  /-- Inside, with the same number still to be offered. -/
  | within (before : pc.inside = true) (after : m.next.inside = true)
      (flag : m.shared.entry.sendInFlight = s.entry.sendInFlight)
      (offers : m.next.offers = pc.offers)
      (accepted : m.shared.accepted = s.accepted)
  /-- The provider has answered and the flag is still held. -/
  | offered (sequence : UInt64) (before : pc.inside = true) (offers : pc.offers = some sequence)
      (after : m.next.inside = true) (spent : m.next.offers = none)
      (flag : m.shared.entry.sendInFlight = s.entry.sendInFlight)
      (accepted : m.shared.accepted = s.accepted ∨
        m.shared.accepted = s.accepted ++ [sequence])
  /-- The flag is given back, or the provider has panicked. -/
  | leave (before : pc.inside = true) (after : m.next.inside = false)
      (accepted : m.shared.accepted = s.accepted)

@[simp] theorem afterSend_inside (sequence : UInt64) (action : BunStreamAction) :
    (afterSend sequence action : CallPc V).inside = false := by
  cases action with
  | accepted => rfl
  | runtime =>
    rw [afterSend]
    split <;> rfl

@[simp] theorem afterClose_inside (action : BunStreamAction) :
    (afterClose action : CallPc V).inside = false := by
  cases action with
  | accepted => rfl
  | runtime =>
    rw [afterClose]
    split <;> rfl

@[simp] theorem afterReceive_inside (answer : BunStreamReceive V) :
    (afterReceive answer).inside = false := by
  rcases answer with (_ | _ | _) | _ <;> rfl

@[simp] theorem afterResult_inside (result : WireStreamOutcome V) :
    (afterResult result).inside = false := by
  unfold afterResult
  split
  · rfl
  · split <;> rfl

@[simp] theorem firstPc_inside (call : WireStreamCall V) : (firstPc call).inside = false := by
  cases call <;> rfl

variable {effects : List (StreamEffect V)} {entry : ProviderStreamEntry} {k : Choice V}
  {s : StreamShared} {m : Moved StreamShared (StreamPc V)} {pc : StreamPc V}

/-- Outside of the flag, only the successful compare-exchange concerns it. -/
theorem callMove_outside {capability : String} {entry' : ProviderStreamEntry} {pc pc' : CallPc V}
    (hin : pc.inside = false)
    (henter : ∀ sequence payload, pc = .sendInFlight sequence payload → entry.sendInFlight = true)
    (h : callMove capability entry pc k = some (entry', pc', effects)) :
    pc'.inside = false ∧ entry'.sendInFlight = entry.sendInFlight := by
  cases pc with
  | sendInFlight sequence payload =>
    cases k with
    | go =>
      simp only [callMove, if_pos (henter sequence payload rfl)] at h
      cases h
      exact ⟨rfl, rfl⟩
    | _ => cases h
  | sendLoadCredit => cases hin
  | sendCredit => cases hin
  | sendProvider => cases hin
  | sendStore => cases hin
  | closeSwap =>
    cases k with
    | go =>
      cases h
      refine ⟨?_, rfl⟩
      split <;> rfl
    | _ => cases h
  | receiveProvider =>
    rcases k with _ | _ | _ | (_ | answer) <;> cases h
    · exact ⟨rfl, rfl⟩
    · exact ⟨afterReceive_inside answer, rfl⟩
  | closeProvider =>
    rcases k with _ | _ | (_ | answer) | _ <;> cases h
    · exact ⟨rfl, rfl⟩
    · exact ⟨afterClose_inside answer, rfl⟩
  | unlink => cases k <;> cases h
  | remember => cases k <;> cases h
  | done => cases k <;> cases h
  | _ =>
    cases k with
    | go =>
      simp only [callMove] at h
      try split at h
      all_goals
        cases h
        exact ⟨by first | rfl | simp, rfl⟩
    | _ => cases h

theorem note_accepted_outside (s : StreamShared) {pc : CallPc V} (hin : pc.inside = false)
    (k : Choice V) : (s.note pc k).accepted = s.accepted := by
  cases pc with
  | sendProvider => cases hin
  | sendCount => rfl
  | _ => cases k <;> rfl

theorem flagStep_inside {pc pc' : CallPc V} (hin : pc.inside = true)
    (h : callMove s.capability s.entry pc k = some (entry, pc', effects)) :
    FlagStep s (.call pc) ⟨{ s.note pc k with entry := entry }, .call pc', none⟩ := by
  cases pc with
  | sendLoadCredit =>
    cases k <;> cases h
    exact .within rfl rfl rfl rfl rfl
  | sendCredit =>
    cases k with
    | go =>
      simp only [callMove] at h
      split at h
      · cases h
        exact .leave rfl rfl rfl
      · split at h <;> cases h <;> exact .within rfl rfl rfl rfl rfl
    | spurious =>
      simp only [callMove] at h
      split at h <;> cases h
      exact .within rfl rfl rfl rfl rfl
    | _ => cases h
  | sendProvider sequence =>
    rcases k with _ | _ | (_ | _ | error) | _ <;> cases h
    · exact .leave rfl rfl rfl
    · exact .offered sequence rfl rfl rfl rfl rfl (Or.inr rfl)
    · exact .offered sequence rfl rfl rfl rfl rfl (Or.inl rfl)
  | sendStore sequence action =>
    cases k <;> cases h
    exact .leave rfl (afterSend_inside sequence action) rfl
  | _ => cases hin

theorem streamMove_call {pc : CallPc V} (h : streamMove s (.call pc) k = some m) :
    (∃ outcome, pc = .unlink outcome ∧
      m = ⟨{ s with live := false }, .call (.remember outcome), none⟩) ∨
    (∃ outcome, pc = .remember outcome ∧ m = ⟨s, .call (.release outcome), none⟩) ∨
    ∃ entry pc' effects, callMove s.capability s.entry pc k = some (entry, pc', effects) ∧
      m = ⟨{ s.note pc k with entry := entry }, .call pc', none⟩ := by
  cases pc with
  | unlink outcome =>
    cases h
    exact Or.inl ⟨outcome, rfl, rfl⟩
  | remember outcome =>
    cases h
    exact Or.inr (Or.inl ⟨outcome, rfl, rfl⟩)
  | done => cases k <;> cases h
  | _ =>
    obtain ⟨⟨entry, pc', effects⟩, hmove, rfl⟩ := Option.map_eq_some_iff.mp h
    exact Or.inr (Or.inr ⟨entry, pc', effects, hmove, rfl⟩)

/-- What a step of any thread does to the flag and to the accepted numbers. -/
theorem flagStep (h : streamMove s pc k = some m) : FlagStep s pc m := by
  cases pc with
  | lookup | cancelRemove =>
    simp only [streamMove] at h
    split at h <;> cases h <;> exact .outside rfl rfl rfl rfl
  | done => cases h
  | call pc =>
    rcases streamMove_call h with ⟨outcome, rfl, rfl⟩ | ⟨outcome, rfl, rfl⟩ |
      ⟨entry, pc', effects, hmove, rfl⟩
    · exact .outside rfl rfl rfl rfl
    · exact .outside rfl rfl rfl rfl
    by_cases hin : pc.inside = true
    · exact flagStep_inside hin hmove
    · rw [Bool.not_eq_true] at hin
      by_cases henter : ∃ sequence payload, pc = .sendInFlight sequence payload ∧
          s.entry.sendInFlight = false
      · obtain ⟨sequence, payload, rfl, hunset⟩ := henter
        cases k with
        | go =>
          simp only [callMove, hunset] at hmove
          cases hmove
          exact .enter sequence payload rfl hunset rfl rfl rfl
        | _ => cases hmove
      · have houtside := callMove_outside hin (fun sequence payload hpc => by
          by_contra hflag
          exact henter ⟨sequence, payload, hpc, Bool.eq_false_iff.mpr hflag⟩) hmove
        exact .outside hin houtside.1 houtside.2 (note_accepted_outside s hin k)
  | _ =>
    cases h
    exact .outside rfl rfl rfl rfl

/-- `next_inbound_sequence` and the count of its increments move together. -/
theorem callMove_next {pc pc' : CallPc V}
    (h : callMove s.capability s.entry pc k = some (entry, pc', effects)) :
    (entry.nextInboundSequence = s.entry.nextInboundSequence ∧
      (s.note pc k).counted = s.counted) ∨
    (entry.nextInboundSequence = s.entry.nextInboundSequence + 1 ∧
      (s.note pc k).counted = s.counted + 1) := by
  cases pc with
  | sendCount =>
    cases k <;> cases h
    exact Or.inr ⟨rfl, rfl⟩
  | sendProvider =>
    rcases k with _ | _ | (_ | _ | error) | _ <;> cases h <;> exact Or.inl ⟨rfl, rfl⟩
  | receiveProvider =>
    rcases k with _ | _ | _ | (_ | answer) <;> cases h <;> exact Or.inl ⟨rfl, rfl⟩
  | closeProvider =>
    rcases k with _ | _ | (_ | answer) | _ <;> cases h <;> exact Or.inl ⟨rfl, rfl⟩
  | unlink => cases k <;> cases h
  | remember => cases k <;> cases h
  | done => cases k <;> cases h
  | sendCredit =>
    refine Or.inl ⟨?_, by cases k <;> rfl⟩
    cases k with
    | go => grind [callMove]
    | spurious => grind [callMove]
    | _ => cases h
  | _ =>
    cases k with
    | go =>
      simp only [callMove] at h
      try split at h
      all_goals
        cases h
        exact Or.inl ⟨rfl, rfl⟩
    | _ => cases h

/-! ## The outline -/

/-- The number of a Send that is about to take the flag. -/
def StreamPc.taking : StreamPc V → Option UInt64
  | .call (.sendInFlight sequence _) => some sequence
  | _ => none

/-- A Send that takes the flag carries the next sequence number, and every accepted Send has been
counted in it. -/
def freshSequence : Guard StreamShared (StreamPc V) (Choice V) where
  self s _ pc _ := ∀ sequence ∈ pc.taking, s.entry.sendInFlight = false →
    sequence = s.entry.nextInboundSequence ∧ s.counted = s.accepted.length

instance (s : StreamShared) (t : Nat) (pc : StreamPc V) (k : Choice V) :
    Decidable (freshSequence.self s t pc k) :=
  -- By the one number the Send carries; the instance for finite types runs through all 2^64.
  Option.decidableForallMem pc.taking

instance (s : StreamShared) (t : Nat) (pc : StreamPc V) (k : Choice V) (u : Nat)
    (pc' : StreamPc V) : Decidable (freshSequence.other s t pc k u pc') :=
  inferInstanceAs (Decidable True)

instance (s : StreamShared) (t : Nat) (pc : StreamPc V) : Decidable (freshSequence.start s t pc) :=
  inferInstanceAs (Decidable True)

/-- The accepted numbers are in order, and `next_inbound_sequence` is its count. -/
structure InSequence (s : StreamShared) : Prop where
  accepted : s.accepted = (List.range s.accepted.length).map UInt64.ofNat
  next : s.entry.nextInboundSequence = UInt64.ofNat s.counted

/-- Inside, the flag is set and the number to be offered is the number of those accepted. -/
def inOrder : Outline StreamShared (StreamPc V) where
  Shared := InSequence
  At s _ pc := pc.inside = true → s.entry.sendInFlight = true ∧
    ∀ sequence, pc.offers = some sequence → sequence = UInt64.ofNat s.accepted.length
  Pair _ pc _ pc' := pc.inside = true → pc'.inside = true → False

theorem inOrder_next (h : InSequence s) (hm : streamMove s pc k = some m) :
    m.shared.entry.nextInboundSequence = UInt64.ofNat m.shared.counted := by
  cases pc with
  | call =>
    rcases streamMove_call hm with ⟨outcome, rfl, rfl⟩ | ⟨outcome, rfl, rfl⟩ |
      ⟨entry, pc', effects, hmove, rfl⟩
    · exact h.next
    · exact h.next
    · rcases callMove_next hmove with ⟨hnext, hcounted⟩ | ⟨hnext, hcounted⟩
      · rw [hnext, hcounted, h.next]
      · rw [hnext, hcounted, h.next, UInt64.ofNat_add]
        rfl
  | lookup | cancelRemove =>
    simp only [streamMove] at hm
    split at hm <;> cases hm <;> exact h.next
  | done => cases hm
  | _ =>
    cases hm
    exact h.next

theorem InSequence.append (h : InSequence s) :
    s.accepted ++ [UInt64.ofNat s.accepted.length] =
      (List.range (s.accepted.length + 1)).map UInt64.ofNat := by
  rw [List.range_succ, List.map_append, ← h.accepted]
  rfl

/-- A move keeps the record in order and establishes its own assertion. -/
theorem inOrder_move {t : Nat} (hs : InSequence s) (hpc : inOrder.At s t pc)
    (hg : freshSequence.self s t pc k) (hm : streamMove s pc k = some m) :
    InSequence m.shared ∧ inOrder.At m.shared t m.next := by
  have hnext := inOrder_next hs hm
  rcases flagStep hm with ⟨before, after, flag, accepted⟩ |
    ⟨sequence, payload, rfl, unset, after, flag, accepted⟩ |
    ⟨before, after, flag, offers, accepted⟩ |
    ⟨sequence, before, offers, after, spent, flag, accepted⟩ | ⟨before, after, accepted⟩
  · refine ⟨⟨by rw [accepted, ← hs.accepted], hnext⟩, fun hin => ?_⟩
    rw [after] at hin
    cases hin
  · refine ⟨⟨by rw [accepted, ← hs.accepted], hnext⟩, fun _ => ⟨flag, ?_⟩⟩
    obtain ⟨hfresh, hcounted⟩ := hg sequence rfl unset
    intro sequence' hoffers
    rw [after] at hoffers
    cases hoffers
    rw [accepted, hfresh, hs.next, hcounted]
  · obtain ⟨hflag, hoffer⟩ := hpc before
    refine ⟨⟨by rw [accepted, ← hs.accepted], hnext⟩, fun _ => ⟨flag.trans hflag, ?_⟩⟩
    rw [offers, accepted]
    exact hoffer
  · obtain ⟨hflag, hoffer⟩ := hpc before
    refine ⟨⟨?_, hnext⟩, fun _ => ⟨flag.trans hflag, ?_⟩⟩
    · rcases accepted with accepted | accepted
      · rw [accepted, ← hs.accepted]
      · rw [accepted, hoffer sequence offers, List.length_append, List.length_singleton]
        exact hs.append
    · rw [spent]
      nofun
  · refine ⟨⟨by rw [accepted, ← hs.accepted], hnext⟩, fun hin => ?_⟩
    rw [after] at hin
    cases hin

/-- A move does not disturb another thread: of two threads at most one is inside, and the flag
and the record change only inside. -/
theorem inOrder_other {u : Nat} {pc' : StreamPc V} (hu : inOrder.At s u pc')
    (hpair : pc.inside = true → pc'.inside = true → False) (hm : streamMove s pc k = some m) :
    inOrder.At m.shared u pc' ∧ (m.next.inside = true → pc'.inside = true → False) := by
  rcases flagStep hm with ⟨before, after, flag, accepted⟩ |
    ⟨sequence, payload, rfl, unset, after, flag, accepted⟩ |
    ⟨before, after, flag, offers, accepted⟩ |
    ⟨sequence, before, offers, after, spent, flag, accepted⟩ | ⟨before, after, accepted⟩
  · refine ⟨fun hin => ?_, fun hin _ => ?_⟩
    · rw [flag, accepted]
      exact hu hin
    · rw [after] at hin
      cases hin
  · -- the compare-exchange succeeds only when nobody is inside
    have hout : pc'.inside = true → False := by
      intro hin
      have hflag := (hu hin).1
      rw [unset] at hflag
      cases hflag
    exact ⟨fun hin => (hout hin).elim, fun _ hin => hout hin⟩
  · exact ⟨fun hin => (hpair before hin).elim, fun _ hin => hpair before hin⟩
  · exact ⟨fun hin => (hpair before hin).elim, fun _ hin => hpair before hin⟩
  · exact ⟨fun hin => (hpair before hin).elim, fun _ hin => hpair before hin⟩

theorem streamMove_child (hm : streamMove s pc k = some m) : m.child = none := by
  cases pc with
  | call =>
    rcases streamMove_call hm with ⟨outcome, rfl, rfl⟩ | ⟨outcome, rfl, rfl⟩ |
      ⟨entry, pc', effects, -, rfl⟩ <;> rfl
  | lookup | cancelRemove => grind [streamMove]
  | done => cases hm
  | _ =>
    cases hm
    rfl

theorem starts_outside (h : pc.starts = true) : pc.inside = false := by
  cases pc <;> first | rfl | cases h

theorem inOrder_valid : inOrder.Valid (streamProgram (V := V)) freshSequence where
  start s t pc _ hpc _ hin := by
    rw [starts_outside hpc] at hin
    cases hin
  start_pair s t pc u pc' _ hpc _ _ _ := by
    refine ⟨fun hin _ => ?_, fun _ hin => ?_⟩ <;>
    · rw [starts_outside hpc] at hin
      cases hin
  move s t pc k m hs hpc hg hm := inOrder_move hs hpc hg hm
  child s t pc k m u pc' _ _ _ hm hc := by
    rw [streamMove_child hm] at hc
    cases hc
  other s t pc k m u pc' _ _ hu _ hpair _ _ _ hm := by
    obtain ⟨hat, hnext⟩ := inOrder_other hu hpair hm
    exact ⟨hat, hnext, fun hin' hin => hnext hin hin'⟩
  child_pair s t pc k m v pc'' u pc' _ _ _ _ _ _ _ _ _ hm hc := by
    rw [streamMove_child hm] at hc
    cases hc

theorem inOrder_opened (capability operation : String) (requestedCredit : Nat) :
    inOrder.Holds (openedStream (V := V) capability operation requestedCredit) := by
  refine ⟨⟨rfl, rfl⟩, ?_, ?_⟩ <;> simp [openedStream]

/-- **The accepted Sends of a stream carry the numbers 0, 1, 2 and so on, in the order of the
provider's `send` calls**, in every run in which no Send takes `send_in_flight` with a number
that is not the next one. -/
theorem accepted_sends_in_sequence (capability operation : String) (requestedCredit : Nat)
    (acts : List (Act (StreamPc V) (Choice V))) (c : Threads StreamShared (StreamPc V))
    (hg : Meets streamProgram.step freshSequence.Allows
      (openedStream capability operation requestedCredit) acts)
    (h : run streamProgram.step (openedStream capability operation requestedCredit) acts =
      some c) :
    c.shared.accepted = (List.range c.shared.accepted.length).map UInt64.ofNat :=
  (Outline.run inOrder_valid (inOrder_opened _ _ _) hg h).shared.accepted

/-- A Send on stream 3 in the session `s`. -/
def sendCall (requestId : Nat) (sequence : UInt64) : StreamPc Nat :=
  .lookup (.send requestId 3 "s" sequence 7)

/-- Thread `t` takes `n` steps that leave nothing open. -/
def goes (t n : Nat) : List (Act (StreamPc Nat) (Choice Nat)) := List.replicate n (.move t .go 0)

/-- Two Sends, the second after the first has returned. -/
def sendsInTurn : List (Act (StreamPc Nat) (Choice Nat)) :=
  [.start 0 (sendCall 1 0)] ++ goes 0 8 ++ [.move 0 (.action (some .accepted)) 0] ++ goes 0 3 ++
  [.start 1 (sendCall 2 1)] ++ goes 1 8 ++ [.move 1 (.action (some .accepted)) 0]

theorem accepted_sends_in_sequence_sample :
    ∃ c, run streamProgram.step (openedStream "example.chat@1" "chat" 4) sendsInTurn = some c ∧
      c.shared.accepted.length = 2 ∧
      c.shared.accepted = (List.range c.shared.accepted.length).map UInt64.ofNat := by
  have hg : Meets streamProgram.step freshSequence.Allows
      (openedStream "example.chat@1" "chat" 4) sendsInTurn := by decide +kernel
  obtain ⟨c, hc⟩ := Option.isSome_iff_exists.mp
    (by decide +kernel : (run streamProgram.step (openedStream "example.chat@1" "chat" 4)
      sendsInTurn).isSome = true)
  have hlen : (run streamProgram.step (openedStream "example.chat@1" "chat" 4) sendsInTurn).map
      (fun c => c.shared.accepted.length) = some 2 := by decide +kernel
  rw [hc, Option.map_some, Option.some.injEq] at hlen
  exact ⟨c, hc, hlen, accepted_sends_in_sequence _ _ 4 _ c hg hc⟩

/-- Two Sends with the number 0. The second has passed the check of the number before the first
takes the flag, and takes it when the first has given it back and not counted its number yet. -/
def sendsTwice : List (Act (StreamPc Nat) (Choice Nat)) :=
  [.start 0 (sendCall 1 0), .start 1 (sendCall 2 0)] ++ goes 1 5 ++
  goes 0 8 ++ [.move 0 (.action (some .accepted)) 0] ++ goes 0 1 ++
  goes 1 3 ++ [.move 1 (.action (some .accepted)) 0]

/-- The provider accepts the number 0 twice. -/
theorem accepted_sends_repeat :
    (run streamProgram.step (openedStream "example.chat@1" "chat" 4) sendsTwice).map
      (fun c => c.shared.accepted) = some [0, 0] := by
  decide

end LensoBun.Provider
