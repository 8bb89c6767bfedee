import LensoBun.Lib.History
import LensoBun.ProcessV1.ChildSlots

set_option autoImplicit false

/-! # The retired ids of a Process V1 child

An id that has been admitted is in the table until its request ends, and from then on it is retired;
nothing takes it out. The limit of the retired ids is compared with those that are retired already
when a request is admitted, and the ids in the table are on their way there. So the number of retired
ids stays within the limit where no request is admitted unless both kinds together are below it, and
otherwise it may pass the limit.
-/

namespace LensoBun.ProcessV1.Child

open Std Lib

variable {V : Type}

/-- `max_retired_correlation_ids` of the admitted identity. -/
def Shared.maxRetiredCorrelationIds (s : Shared) : Nat :=
  (s.admittedIdentity.map (·.peerLimits.maxRetiredCorrelationIds)).getD 0

def Shared.spent (s : Shared) : Nat := s.active.size + s.retired.length

/-! ## What a step does to the ids -/

/-- The moves as far as they concern the table and the retired ids. -/
inductive Spends (s : Shared) (t : Nat) : Pc V → Shared → Pc V → Prop where
  | idle {s' : Shared} {pc pc' : Pc V} (hactive : s'.active = s.active)
      (hretired : s'.retired = s.retired)
      (hidentity : s'.admittedIdentity = s.admittedIdentity ∨ s.admittedIdentity = none)
      (hpc : pc'.request = pc.request) : Spends s t pc s' pc'
  | enters {s' : Shared} {pc pc' : Pc V} {p : RequestParams V} (hpc : pc.request = none)
      (hinactive : p.correlationId ∉ s.active)
      (hactive : s'.active = s.active.insert p.correlationId t) (hretired : s'.retired = s.retired)
      (hidentity : s'.admittedIdentity = s.admittedIdentity) (hpc' : pc'.request = some p) :
      Spends s t pc s' pc'
  | retires {s' : Shared} {pc pc' : Pc V} {p : RequestParams V} (hpc : pc.request = some p)
      (hactive : s'.active = s.active.erase p.correlationId)
      (hretired : s'.retired = addRetired s.retired p.correlationId)
      (hidentity : s'.admittedIdentity = s.admittedIdentity) (hpc' : pc'.request = none) :
      Spends s t pc s' pc'

section

variable {c : Config V} {x : Threads Shared (Pc V)} {s' : Shared} {holders : List Nat} {t : Nat}
  {pc pc' : Pc V} {p : RequestParams V}

theorem Seated.spends (h : Seated x holders) (hpc : x.pool[t]? = some pc)
    (hmove : Seats x.shared t pc s' pc') : Spends x.shared t pc s' pc' := by
  cases hmove with
  | idle _ hactive hretired hidentity hrequest =>
    exact .idle hactive hretired hidentity hrequest
  | takes hbefore henters _ _ hactive hretired hidentity
  | queues hbefore henters _ _ _ hactive hretired hidentity =>
    exact .enters (request_of_isBefore hbefore) henters.inactive hactive hretired hidentity rfl
  | denies henters hfull hqueue => exact (h.not_denied henters hfull hqueue).elim
  | dismisses p => exact absurd hpc (h.undenied t p)
  | lets reply hrequest _ _ hactive hretired hidentity =>
    exact .retires hrequest hactive hretired hidentity rfl

/-! ## The number of ids -/

def admits (c : Config V) (x : Threads Shared (Pc V)) (a : Act (Pc V) (Input V)) : Bool :=
  ((program c).step x a).any fun x' => x.shared.active.size < x'.shared.active.size

/-- If the step admits a request, there are fewer ids than may be retired. -/
def leavesRoom (c : Config V) (x : Threads Shared (Pc V)) (a : Act (Pc V) (Input V)) : Bool :=
  !admits c x a || x.shared.spent < x.shared.maxRetiredCorrelationIds

theorem length_addRetired_le (retired : List Nat) (id : Nat) :
    (addRetired retired id).length ≤ retired.length + 1 := by
  rw [addRetired]
  split
  · exact Nat.le_succ _
  · rw [List.length_append, List.length_singleton]

variable {s : Shared} {entry : Nat × Nat} {pool : ExtTreeMap Nat (Pc V)}

theorem maxRetired_of_identity (h : s'.admittedIdentity = s.admittedIdentity) :
    s'.maxRetiredCorrelationIds = s.maxRetiredCorrelationIds := by
  rw [Shared.maxRetiredCorrelationIds, h, Shared.maxRetiredCorrelationIds]

/-- The ids stay within the limit, where an admission finds them below it. -/
theorem spent_move (hseated : Seated x holders) (hpc : x.pool[t]? = some pc)
    (hroom : x.shared.active.size < s'.active.size →
      x.shared.spent < x.shared.maxRetiredCorrelationIds)
    (hspent : x.shared.spent ≤ x.shared.maxRetiredCorrelationIds)
    (hmove : Spends x.shared t pc s' pc') : s'.spent ≤ s'.maxRetiredCorrelationIds := by
  cases hmove with
  | idle hactive hretired hidentity =>
    have hsame : s'.spent = x.shared.spent := by
      rw [Shared.spent, Shared.spent, hactive, hretired]
    rcases hidentity with hidentity | hnone
    · rw [hsame, maxRetired_of_identity hidentity]
      exact hspent
    · -- before the handshake there is no id at all
      have hzero : x.shared.maxRetiredCorrelationIds = 0 := by
        rw [Shared.maxRetiredCorrelationIds, hnone]
        rfl
      omega
  | @enters _ _ _ p hnone hinactive hactive hretired hidentity hpc' =>
    grind [Shared.spent, maxRetired_of_identity]
  | @retires _ _ _ p hrequest hactive hretired hidentity hpc' =>
    have hentry : x.shared.active[p.correlationId]? = some t :=
      (hseated.table _ _).mpr ⟨p, ⟨pc, hpc, hrequest⟩, rfl⟩
    have hsize : s'.active.size + 1 = x.shared.active.size := by
      rw [hactive]
      exact size_erase_of_some hentry
    have hlength : s'.retired.length ≤ x.shared.retired.length + 1 := by
      rw [hretired]
      exact length_addRetired_le _ _
    rw [maxRetired_of_identity hidentity]
    simp only [Shared.spent] at hspent ⊢
    omega

theorem spent_step {x' : Threads Shared (Pc V)} {a : Act (Pc V) (Input V)}
    (hseated : ∃ holders, Seated x holders) (hunattempted : Unattempted c x.shared)
    (hspent : x.shared.spent ≤ x.shared.maxRetiredCorrelationIds) (hroom : leavesRoom c x a = true)
    (hstep : (program c).step x a = some x') :
    x'.shared.spent ≤ x'.shared.maxRetiredCorrelationIds := by
  obtain ⟨holders, hseated⟩ := hseated
  have hbelow : x.shared.active.size < x'.shared.active.size →
      x.shared.spent < x.shared.maxRetiredCorrelationIds := by grind [leavesRoom, admits]
  rcases step_moves hstep with ⟨t, pc, -, -, rfl⟩ | ⟨t, pc, pc', hpc, hmoves, hpool⟩
  · exact hspent
  · have hseats := hmoves.seats fun hfirst => (hunattempted hfirst).2.1
    exact spent_move hseated hpc hbelow hspent (hseated.spends hpc hseats)

/-! ## The ids that have been admitted -/

/-- The id of the request that a move admits, with its thread. -/
def admitted (_ : Shared) (t : Nat) (pc : Pc V) (_ : Input V) (m : Moved Shared (Pc V)) :
    List (Nat × Nat) :=
  match pc.request, m.next.request with
  | none, some p => [(t, p.correlationId)]
  | _, _ => []

/-- The thread is still at work on the request with this id, or the id is retired. -/
def Remembered (s : Shared) (pool : ExtTreeMap Nat (Pc V)) (entry : Nat × Nat) : Prop :=
  (∃ p, Occupies pool entry.1 p ∧ p.correlationId = entry.2) ∨ entry.2 ∈ s.retired

theorem Remembered.move (hpc : x.pool[t]? = some pc) (hmove : Spends x.shared t pc s' pc')
    (h : Remembered x.shared x.pool entry) : Remembered s' (x.pool.insert t pc') entry := by
  obtain ⟨u, id⟩ := entry
  cases hmove with
  | idle hactive hretired hidentity hrequest =>
    rcases h with ⟨q, hq, hid⟩ | hid
    · exact .inl ⟨q, (occupies_insert_same hpc hrequest).mpr hq, hid⟩
    · exact .inr (hretired ▸ hid)
  | enters hnone hinactive hactive hretired =>
    rcases h with ⟨q, hq, hid⟩ | hid
    · have hne : u ≠ t := by
        rintro rfl
        obtain ⟨pc₁, hpc₁, hq⟩ := hq
        cases hpc.symm.trans hpc₁
        cases hnone.symm.trans hq
      exact .inl ⟨q, occupies_insert.mpr (.inr ⟨hne, hq⟩), hid⟩
    · exact .inr (hretired ▸ hid)
  | @retires _ _ _ p hrequest hactive hretired hidentity hpc' =>
    rcases h with ⟨q, hq, hid⟩ | hid
    · by_cases hut : u = t
      · -- the request that ends is the one of the entry
        subst hut
        obtain ⟨pc₁, hpc₁, hq⟩ := hq
        cases hpc.symm.trans hpc₁
        cases hrequest.symm.trans hq
        exact .inr (hretired ▸ mem_addRetired.mpr (.inl hid.symm))
      · exact .inl ⟨q, occupies_insert.mpr (.inr ⟨hut, hq⟩), hid⟩
    · exact .inr (hretired ▸ mem_addRetired.mpr (.inr hid))

theorem remembered_admitted {k : Input V} {m : Moved Shared (Pc V)}
    (h : entry ∈ admitted s t pc k m) : Remembered s' (pool.insert t m.next) entry := by
  rw [admitted] at h
  split at h
  · next p hnone hsome =>
      cases List.mem_singleton.mp h
      exact .inl ⟨p, occupies_insert.mpr (.inl ⟨rfl, hsome⟩), rfl⟩
  · cases h

theorem Remembered.start (hfresh : t ∉ pool) (h : Remembered s pool entry) :
    Remembered s (pool.insert t pc) entry := by
  refine h.imp_left ?_
  rintro ⟨q, hq, hid⟩
  have hne : entry.1 ≠ t := by
    rintro rfl
    obtain ⟨pc₁, hpc₁, -⟩ := hq
    exact hfresh (mem_of_getElem? hpc₁)
  exact ⟨q, occupies_insert.mpr (.inr ⟨hne, hq⟩), hid⟩

end

/-- The child, with the ids it admits written down. -/
def recorded (c : Config V) : Program (Logged Shared (Nat × Nat)) (Pc V) (Input V) :=
  (program c).logged admitted

theorem remembered_step {c : Config V} {x x' : Threads (Logged Shared (Nat × Nat)) (Pc V)}
    {a : Act (Pc V) (Input V)} (hseated : ∃ holders, Seated x.forget holders)
    (hunattempted : Unattempted c x.shared.state)
    (h : ∀ entry ∈ x.shared.log, Remembered x.shared.state x.pool entry)
    (hstep : (recorded c).step x a = some x') :
    ∀ entry ∈ x'.shared.log, Remembered x'.shared.state x'.pool entry := by
  obtain ⟨holders, hseated⟩ := hseated
  rcases (recorded c).step_cases hstep with ⟨t, pc, -, -, hfresh, rfl⟩ |
    ⟨t, k, child, pc, m', -, hpc, hm', hshared, hpool⟩
  · exact fun entry hentry => (h entry hentry).start hfresh
  · obtain ⟨m, hm, rfl⟩ := logged_move hm'
    obtain ⟨hmoves, hchild⟩ := program_moves hm
    have hpool : x'.pool = x.pool.insert t m.next := by grind
    have hspends : Spends x.shared.state t pc m.shared m.next :=
      hseated.spends hpc (hmoves.seats fun hfirst => (hunattempted hfirst).2.1)
    rw [hshared, hpool]
    intro entry hentry
    rcases List.mem_append.mp hentry with hold | hnew
    · exact Remembered.move (x := x.forget) hpc hspends (h entry hold)
    · exact remembered_admitted hnew

/-- **The retired ids of a Process V1 child.** In every run, the ids that are retired are within the
limit of the handshake, if no request is admitted unless the active and the retired ids together are
below it; and the thread of a request that has been admitted is still at work on it, or the id is
retired. -/
theorem retired_within_limit_and_complete (c : Config V) (acts : List (Act (Pc V) (Input V)))
    (x : Threads (Logged Shared (Nat × Nat)) (Pc V))
    (hrun : run (recorded c).step (init c).logged acts = some x) :
    (Meets (program c).step (fun y a => leavesRoom c y a = true) (init c) acts →
      ∀ identity, x.shared.state.admittedIdentity = some identity →
        x.shared.state.retired.length ≤ identity.peerLimits.maxRetiredCorrelationIds) ∧
    ∀ t id, (t, id) ∈ x.shared.log →
      (∃ p, Occupies x.pool t p ∧ p.correlationId = id) ∨ id ∈ x.shared.state.retired := by
  have hplain : run (program c).step (init c) acts = some x.forget := by
    have hsame : (run (recorded c).step (init c).logged acts).map Threads.forget =
        run (program c).step (init c) acts := run_logged _ acts
    exact hsame.symm.trans (congrArg (Option.map Threads.forget) hrun)
  constructor
  · intro hroom identity hidentity
    have hkept : ∀ (y : Threads Shared (Pc V)) (a : Act (Pc V) (Input V)) (y' : Threads Shared (Pc V)),
        ((∃ holders, Seated y holders) ∧ Unattempted c y.shared) ∧
          y.shared.spent ≤ y.shared.maxRetiredCorrelationIds →
        leavesRoom c y a = true → (program c).step y a = some y' →
        ((∃ holders, Seated y' holders) ∧ Unattempted c y'.shared) ∧
          y'.shared.spent ≤ y'.shared.maxRetiredCorrelationIds := by
      rintro y a y' ⟨⟨hseated, hunattempted⟩, hspent⟩ hroom hstep
      exact ⟨⟨Seated.step hseated hunattempted hstep, hunattempted.step hstep⟩,
        spent_step hseated hunattempted hspent hroom hstep⟩
    obtain ⟨-, hspent⟩ := run_invariant_of_meets hkept
      ⟨⟨⟨[], seated_init c⟩, fun _ => ⟨rfl, rfl, rfl⟩⟩, Nat.zero_le _⟩ hroom hplain
    have hlimit : x.forget.shared.maxRetiredCorrelationIds =
        identity.peerLimits.maxRetiredCorrelationIds := by
      have hidentity : x.forget.shared.admittedIdentity = some identity := hidentity
      rw [Shared.maxRetiredCorrelationIds, hidentity]
      rfl
    calc x.shared.state.retired.length ≤ x.forget.shared.spent := Nat.le_add_left _ _
      _ ≤ x.forget.shared.maxRetiredCorrelationIds := hspent
      _ = identity.peerLimits.maxRetiredCorrelationIds := hlimit
  · have hkept : ∀ (y : Threads (Logged Shared (Nat × Nat)) (Pc V)) (a : Act (Pc V) (Input V))
        (y' : Threads (Logged Shared (Nat × Nat)) (Pc V)),
        ((∃ holders, Seated y.forget holders) ∧ Unattempted c y.shared.state) ∧
          (∀ entry ∈ y.shared.log, Remembered y.shared.state y.pool entry) →
        (recorded c).step y a = some y' →
        ((∃ holders, Seated y'.forget holders) ∧ Unattempted c y'.shared.state) ∧
          ∀ entry ∈ y'.shared.log, Remembered y'.shared.state y'.pool entry := by
      rintro y a y' ⟨⟨hseated, hunattempted⟩, h⟩ hstep
      have hplain : (program c).step y.forget a = some y'.forget := by
        have hsame : ((recorded c).step y a).map Threads.forget = (program c).step y.forget a :=
          step_logged y a
        exact hsame.symm.trans (congrArg (Option.map Threads.forget) hstep)
      exact ⟨⟨Seated.step hseated hunattempted hplain, Unattempted.step hunattempted hplain⟩,
        remembered_step hseated hunattempted h hstep⟩
    have hinit : ((∃ holders, Seated ((init c).logged : Threads (Logged Shared (Nat × Nat)) _).forget
        holders) ∧ Unattempted c (init c).shared) ∧
        ∀ entry ∈ ([] : List (Nat × Nat)), Remembered (init c).shared (init c).pool entry :=
      ⟨⟨⟨[], seated_init c⟩, fun _ => ⟨rfl, rfl, rfl⟩⟩, fun _ hentry => by cases hentry⟩
    obtain ⟨-, h⟩ := run_invariant hkept hinit hrun
    exact fun t id hentry => h (t, id) hentry

/-- Two requests, one after the other in the one slot. -/
theorem retired_within_limit_and_complete_sample :
    ∃ x, run (recorded sampleConfig).step (init sampleConfig).logged
        (sampleHandshake ++ handled 2 (dataRequest 10) .go ++ handled 3 (dataRequest 11) .go ++
          [.move 2 .go 0, .move 2 (.invoked (.success 6) none) 0]) = some x ∧
      x.shared.log = [(2, 10), (3, 11)] ∧ x.shared.state.retired.length ≤ 8 ∧
      ((∃ p, Occupies x.pool 2 p ∧ p.correlationId = 10) ∨ 10 ∈ x.shared.state.retired) := by
  refine exists_run (by decide +kernel) ⟨by decide +kernel, ?_⟩
  obtain ⟨hwithin, hcomplete⟩ := retired_within_limit_and_complete sampleConfig _ _ (run_get _)
  exact ⟨hwithin (by decide +kernel) sampleIdentity (by decide +kernel),
    hcomplete 2 10 (by decide +kernel)⟩

/-- A request that is admitted, invoked and answered. -/
def served (i : Nat) : List (Act (Pc Nat) (Input Nat)) :=
  handled (2 + i) (dataRequest i) .go ++
    [.move (2 + i) .go 0, .move (2 + i) (.invoked (.success 6) none) 0]

/-- With a limit of eight and seven ids retired, two requests are admitted, one of them to the queue:
nine ids are retired in the end. -/
theorem retired_exceed_limit :
    ∃ x, run (recorded sampleConfig).step (init sampleConfig).logged
        (sampleHandshake ++ (List.range 7).flatMap served ++ handled 20 (dataRequest 10) .go ++
          handled 21 (dataRequest 11) .go ++ [.move 20 .go 0, .move 20 (.invoked (.success 6) none) 0,
            .move 21 .go 0, .move 21 (.invoked (.success 6) none) 0]) = some x ∧
      x.shared.state.admittedIdentity = some sampleIdentity ∧
      sampleIdentity.peerLimits.maxRetiredCorrelationIds = 8 ∧
      x.shared.state.retired = [0, 1, 2, 3, 4, 5, 6, 10, 11] := by
  exact exists_run (by decide +kernel) (by decide +kernel)

end LensoBun.ProcessV1.Child
