import LensoBun.Lib.Census
import LensoBun.Lib.History
import LensoBun.Transport.StreamSession

set_option autoImplicit false

/-! # The flag of a `receive` under way

`receive` sets `receive_in_flight` before it returns its future, and the future clears the flag when
it has its answer. A future that is dropped before that, polled or not, gives its call up and leaves
the flag. So the flag counts the futures that wait together with those that were dropped while they
waited (`flight_run`), and says that a `receive` is pending exactly when none was dropped
(`receive_flag_exact`). After a drop every later `receive` is refused, on a session that is open and
has nothing pending (`dropped_receive_keeps_flag`).
-/

namespace LensoBun.Transport.StreamSession

open Std Lib Provider

variable {V β κ : Type}

/-! ## The flag counts -/

/-- A `receive` whose future has neither completed nor been dropped. -/
def isReceiving : Pc V → Bool
  | .receiving => true
  | _ => false

/-- The step drops the future of a `receive` that waits. -/
def dropsReceive : Pc V → Input κ → Bool
  | .receiving, .drop => true
  | _, _ => false

/-- The futures of `receive` that have been dropped while they waited. -/
def droppedReceives (_ : Shared β V) (t : Nat) (pc : Pc V) (k : Input κ)
    (_ : Moved (Shared β V) (Pc V)) : List Nat :=
  if dropsReceive pc k then [t] else []

/-- The flag is set for each future that waits and each that was dropped so. -/
def Flight (c : Threads (Logged (Shared β V) Nat) (Pc V)) : Prop :=
  c.shared.state.state.receiveInFlight.toNat = census isReceiving c.pool + c.shared.log.length

/-- What a step does to the flag, the count of futures that wait and that of the dropped ones. -/
def Balanced (s s' : Shared β V) (pc next : Pc V) (drops : Bool) : Prop :=
  s'.state.receiveInFlight.toNat + (isReceiving pc).toNat =
    s.state.receiveInFlight.toNat + (isReceiving next).toNat + drops.toNat

section

variable {P : Peer β κ V} {s s' : Shared β V} {t : Nat} {pc next : Pc V} {k : Input κ}

/-- A step of something else than a `receive` that waits. -/
theorem balanced_aside (hpc : isReceiving pc = false) (hnext : isReceiving next = false)
    (hflag : s'.state.receiveInFlight = s.state.receiveInFlight) : Balanced s s' pc next false := by
  rw [Balanced, hpc, hnext, hflag]
  rfl

theorem eq_true_of_toNat_pos {b : Bool} (h : 0 < b.toNat) : b = true := by
  cases b with
  | true => rfl
  | false => cases h

/-- A `receive` that waited has its answer, and clears the flag. -/
theorem balanced_ends (hpos : 0 < s.state.receiveInFlight.toNat) (hnext : isReceiving next = false)
    (hflag : s'.state.receiveInFlight = false) : Balanced s s' .receiving next false := by
  rw [Balanced, hnext, hflag, eq_true_of_toNat_pos hpos]
  rfl

theorem not_receiving_of_free (h : pc.waits = false) : isReceiving pc = false := by
  cases pc <;> first | rfl | cases h

theorem not_receiving_of_message (h : pc.message.isSome = true) : isReceiving pc = false :=
  not_receiving_of_free (free_of_message h)

/-- **What a step does to the flag.** -/
theorem balanced_move {m : Moved (Shared β V) (Pc V)}
    (hpos : isReceiving pc = true → 0 < s.state.receiveInFlight.toNat)
    (hm : move P s t pc k = some m) : Balanced s m.shared pc m.next (dropsReceive pc k) := by
  cases hdrops : dropsReceive pc k with
  | true =>
    -- the future of a `receive` that waits is dropped
    rw [dropsReceive.eq_def] at hdrops
    split at hdrops
    · cases hm
      rfl
    · cases hdrops
  | false =>
    have hmoves := (move_moves hm).1
    generalize m.shared = s' at hmoves
    generalize m.next = next at hmoves
    cases hmoves with
    | rest _ _ _ hfree hended =>
      refine balanced_aside (not_receiving_of_free hfree) ?_ rfl
      cases next <;> first | rfl | cases hended
    | park _ _ payload hmessage | send _ count payload hmessage =>
      exact balanced_aside (not_receiving_of_message (by rw [hmessage]; rfl)) rfl rfl
    | spare _ _ _ hmessage | spend _ _ _ _ hmessage =>
      exact balanced_aside (not_receiving_of_message hmessage) rfl rfl
    | receive count hidle =>
      rw [Balanced, hidle]
      rfl
    | receiveFailed | receiveMessage | receiveHalfClosed | receiveTerminal =>
      exact balanced_ends (hpos rfl) rfl rfl
    | drop _ =>
      refine balanced_aside ?_ rfl rfl
      cases pc <;> first | rfl | cases hdrops
    | _ => exact balanced_aside rfl rfl rfl

end

/-! ## Every run -/

section

variable {P : Peer β κ V} {c c' : Threads (Logged (Shared β V) Nat) (Pc V)}

theorem flight_step {act : Act (Pc V) (Input κ)} (hflight : Flight c)
    (h : ((program P).logged droppedReceives).step c act = some c') : Flight c' := by
  have hchild : ∀ (s : Logged (Shared β V) Nat) t pc k m,
      ((program P).logged droppedReceives).move s t pc k = some m → m.child = none := by
    intro s t pc k m hm
    obtain ⟨m', hm', rfl⟩ := logged_move hm
    exact (move_moves hm').2
  have hentry : ∀ pc : Pc V, ((program P).logged droppedReceives).entry pc = true →
      isReceiving pc = false := by
    intro pc hpc
    cases pc <;> first | rfl | cases hpc
  unfold Flight at hflight ⊢
  rcases Program.census_step hchild hentry h with ⟨hshared, hcensus⟩ |
    ⟨t, k, child, pc, m, rfl, hpc, hm, hshared, hcensus⟩
  · rw [hshared, hcensus]
    exact hflight
  · obtain ⟨m', hm', rfl⟩ := logged_move hm
    have hpos : isReceiving pc = true → 0 < c.shared.state.state.receiveInFlight.toNat := by
      grind [census_pos]
    have hbalanced : Balanced _ _ _ _ _ := balanced_move hpos hm'
    have hlog : (droppedReceives c.shared.state t pc k m').length = (dropsReceive pc k).toNat := by
      rw [droppedReceives]
      cases dropsReceive pc k <;> rfl
    rw [Balanced] at hbalanced
    rw [hshared, List.length_append, hlog]
    simp only at hcensus ⊢
    omega

/-- **The flag is set for each future of `receive` that waits and each that was dropped while it
waited**, in every run. -/
theorem flight_run {peer : β} {state : TransportStreamState} {acts : List (Act (Pc V) (Input κ))}
    (hidle : state.receiveInFlight = false)
    (h : run ((program P).logged droppedReceives).step (init state peer).logged acts = some c) :
    Flight c := by
  have hpool : census isReceiving (init (V := V) state peer).pool = 0 := by
    have hnew : census isReceiving (ExtTreeMap.insert ∅ 0 (Pc.peer : Pc V)) =
        census isReceiving (∅ : ExtTreeMap Nat (Pc V)) + 0 :=
      census_insert_new ExtTreeMap.getElem?_empty
    rw [census_empty] at hnew
    exact hnew
  have hinit : Flight ((init state peer : Threads (Shared β V) (Pc V)).logged (ω := Nat)) := by
    change state.receiveInFlight.toNat = census isReceiving (init (V := V) state peer).pool + 0
    rw [hpool, hidle]
    rfl
  exact run_invariant (fun _ _ _ hc hs => flight_step hc hs) hinit h

end

/-- A `receive` that the session itself refuses with `ResourceExhausted` has found the flag set. -/
theorem receive_exhausted {s : Shared β V} {t count : Nat} {refusal : Option RuntimeFailure}
    {error : RuntimeFailure} (h : (callReceive s t count refusal).2 = .received (.error error))
    (hexhausted : error.isResourceExhausted = true) :
    refusal = some error ∨ s.state.receiveInFlight = true := by
  unfold callReceive at h
  split at h
  · cases h
    cases hexhausted
  · grind

/-- **As long as no `receive` has been dropped while it waited**, `receive_in_flight` is set exactly
when the future of a `receive` exists that has neither completed nor been dropped, and a `receive` is
refused with `ResourceExhausted` only by the transport or while another one is pending. -/
theorem receive_flag_exact (P : Peer β κ V) (peer : β) (streamId : Nat)
    (session capability operation : String) (credit : Nat) {acts : List (Act (Pc V) (Input κ))}
    {c : Threads (Logged (Shared β V) Nat) (Pc V)}
    (hrun : run ((program P).logged droppedReceives).step
      (init (.new streamId session capability operation credit) peer).logged acts = some c)
    (hdrops : c.shared.log = []) :
    (c.shared.state.state.receiveInFlight = true ↔ ∃ t : Nat, c.pool[t]? = some .receiving) ∧
    ∀ (t count : Nat) (refusal : Option RuntimeFailure) (m : Moved (Shared β V) (Pc V))
      (error : RuntimeFailure), c.pool[t]? = some .receive →
      move P c.shared.state t .receive (.go count refusal) = some m →
      m.next = .received (.error error) → error.isResourceExhausted = true →
      refusal = some error ∨ ∃ u : Nat, u ≠ t ∧ c.pool[u]? = some .receiving := by
  have hflight : Flight c := flight_run rfl hrun
  rw [Flight, hdrops, List.length_nil, Nat.add_zero] at hflight
  have hflag : c.shared.state.state.receiveInFlight = true ↔
      ∃ t : Nat, c.pool[t]? = some .receiving := by
    constructor
    · intro hset
      rw [hset] at hflight
      have hpos : 0 < census isReceiving c.pool := by
        rw [← hflight]
        exact Nat.one_pos
      obtain ⟨t, pc, hpc, hreceiving⟩ := exists_of_census_pos hpos
      cases pc <;> first | exact ⟨t, hpc⟩ | cases hreceiving
    · rintro ⟨t, hpc⟩
      have hpos : 0 < census isReceiving c.pool := census_pos hpc rfl
      rw [← hflight] at hpos
      exact eq_true_of_toNat_pos hpos
  refine ⟨hflag, fun t count refusal m error hpc hm hnext hexhausted => ?_⟩
  cases hm
  rcases receive_exhausted hnext hexhausted with hrefusal | hset
  · exact .inl hrefusal
  · grind

/-- A `receive` that has completed, one that waits, and one that is refused because of it. -/
def secondWaits : List (Act (Pc Nat) (Input (Nat × StreamWireResult Nat))) :=
  [.start 1 .receive, .move 1 (.go 0 none) 0,
    .move 0 (.serve (1, .ok (.event (.message 0 7)))) 0, .move 1 (.go 0 none) 0,
    .start 2 .receive, .move 2 (.go 1 none) 0, .start 3 .receive]

theorem receive_flag_exact_sample :
    ∃ c, run ((program anyPeer).logged droppedReceives).step
        (init (.new 5 "session" "example.store@1" "watch" 1) ()).logged secondWaits = some c ∧
      c.shared.state.state.receiveInFlight = true ∧ ∃ t : Nat, c.pool[t]? = some .receiving := by
  refine exists_run (by decide +kernel) ⟨by decide +kernel, ?_⟩
  exact (receive_flag_exact anyPeer () 5 "session" "example.store@1" "watch" 1 (run_get _)
    (by decide +kernel)).1.mp (by decide +kernel)

/-- The future of the first `receive` is dropped while it waits; then there is another `receive`. -/
def dropThenReceive : List (Act (Pc Nat) (Input (Nat × StreamWireResult Nat))) :=
  [.start 1 .receive, .move 1 (.go 0 none) 0, .move 1 .drop 0, .start 2 .receive,
    .move 2 (.go 1 none) 0]

/-- The session is neither terminal nor cancelled and no `receive` is pending, but the flag is set
and `receive` is refused. -/
theorem dropped_receive_keeps_flag :
    ∃ c, run (program anyPeer).step (init (.new 5 "session" "example.store@1" "watch" 1) ())
        dropThenReceive = some c ∧
      c.shared.state.receiveInFlight = true ∧ (∀ t : Nat, c.pool[t]? ≠ some .receiving) ∧
      c.shared.state.terminalSeen = false ∧ c.shared.state.cancelled = false ∧
      c.pool[2]? = some (.received (.error (.resourceExhausted "example.store@1" "watch.receive"))) := by
  refine exists_run (by decide +kernel) ⟨by decide +kernel, fun t ht => ?_, by decide +kernel⟩
  have hpos := census_pos (p := isReceiving) ht rfl
  revert hpos
  decide +kernel

end LensoBun.Transport.StreamSession
