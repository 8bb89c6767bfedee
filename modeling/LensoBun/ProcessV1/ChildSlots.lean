import LensoBun.Lib.Slots
import LensoBun.ProcessV1.Child

set_option autoImplicit false

/-! # The data slots of a Process V1 child

The counter, the waiters and the history of a child are slots that are handed over (`Lib/Slots.lean`),
whose holders are the requests that have called `acquireDataSlot` and do not wait. Every active request
holds a slot or waits for one, so the table has as many entries as there are holders and waiters; the
check of the table before a request is admitted then leaves `acquireDataSlot` nothing to refuse.
-/

namespace LensoBun.ProcessV1.Child

open Std Lib

variable {V : Type}

/-! ## The slots of a state -/

def Event.slot : Event → Option (SlotEvent Nat)
  | .acquired t => some (.acquired t)
  | .queued t => some (.queued t)
  | .granted t => some (.granted t)
  | .released t => some (.released t)
  | _ => none

def Shared.slots (s : Shared) : Slots Nat :=
  ⟨s.runningDataRequests, s.dataWaiters, s.events.filterMap Event.slot⟩

/-- The limits of the admitted identity; before a handshake nothing is allowed. -/
def Shared.maxConcurrentRequests (s : Shared) : Nat :=
  (s.admittedIdentity.map (·.peerLimits.maxConcurrentRequests)).getD 0

def Shared.childRequestQueueCapacity (s : Shared) : Nat :=
  (s.admittedIdentity.map (·.peerLimits.childRequestQueueCapacity)).getD 0

theorem slots_record {s s' : Shared} {es : List Event}
    (hrunning : s'.runningDataRequests = s.runningDataRequests)
    (hwaiters : s'.dataWaiters = s.dataWaiters) (hevents : s'.events = s.events ++ es)
    (hes : es.filterMap Event.slot = []) : s'.slots = s.slots := by
  simp only [Shared.slots, hrunning, hwaiters, hevents, List.filterMap_append, hes, List.append_nil]

theorem slots_releaseDataSlot (s : Shared) (t : Nat) :
    (s.releaseDataSlot t).slots = s.slots.release t := by
  cases hwaiters : s.dataWaiters with
  | nil | cons =>
    simp [Shared.releaseDataSlot, Slots.release, Shared.slots, hwaiters, Shared.record, Event.slot]

theorem active_releaseDataSlot (s : Shared) (t : Nat) :
    (s.releaseDataSlot t).active = s.active ∧ (s.releaseDataSlot t).retired = s.retired ∧
      (s.releaseDataSlot t).admittedIdentity = s.admittedIdentity := by
  rw [Shared.releaseDataSlot]
  split
  · exact ⟨rfl, rfl, rfl⟩
  · exact ⟨rfl, rfl, rfl⟩

/-! ## What a step does to the slots -/

/-- The moves as far as they concern the slots and the table. -/
inductive Seats (s : Shared) (t : Nat) : Pc V → Shared → Pc V → Prop where
  | idle {s' : Shared} {pc pc' : Pc V} (hslots : s'.slots = s.slots) (hactive : s'.active = s.active)
      (hretired : s'.retired = s.retired)
      (hidentity : s'.admittedIdentity = s.admittedIdentity ∨ s.admittedIdentity = none)
      (hpc : pc'.request = pc.request) (hdenied : ∀ p, pc' = .denied p → pc = .denied p)
      (hwaits : ∀ q, pc = .acquiring q → t ∈ s.dataWaiters → pc' = pc)
      (hbefore : pc'.isBefore = true → pc.isBefore = true) : Seats s t pc s' pc'
  | takes {s' : Shared} {pc : Pc V} {p : RequestParams V} {identity : HandshakeIdentity}
      (hpc : pc.isBefore = true) (henters : Enters s p identity)
      (hroom : s.runningDataRequests < identity.peerLimits.maxConcurrentRequests)
      (hslots : s'.slots = s.slots.take t)
      (hactive : s'.active = s.active.insert p.correlationId t) (hretired : s'.retired = s.retired)
      (hidentity : s'.admittedIdentity = s.admittedIdentity) : Seats s t pc s' (.acquiring p)
  | queues {s' : Shared} {pc : Pc V} {p : RequestParams V} {identity : HandshakeIdentity}
      (hpc : pc.isBefore = true) (henters : Enters s p identity)
      (hfull : identity.peerLimits.maxConcurrentRequests ≤ s.runningDataRequests)
      (hqueue : s.dataWaiters.length < identity.peerLimits.childRequestQueueCapacity)
      (hslots : s'.slots = s.slots.queue t)
      (hactive : s'.active = s.active.insert p.correlationId t) (hretired : s'.retired = s.retired)
      (hidentity : s'.admittedIdentity = s.admittedIdentity) : Seats s t pc s' (.acquiring p)
  | denies {s' : Shared} {pc pc' : Pc V} {p : RequestParams V} {identity : HandshakeIdentity}
      (henters : Enters s p identity)
      (hfull : identity.peerLimits.maxConcurrentRequests ≤ s.runningDataRequests)
      (hqueue : identity.peerLimits.childRequestQueueCapacity ≤ s.dataWaiters.length) :
      Seats s t pc s' pc'
  | dismisses {s' : Shared} {pc' : Pc V} (p : RequestParams V) : Seats s t (.denied p) s' pc'
  | lets {s' : Shared} {pc : Pc V} {p : RequestParams V} (reply : Reply V)
      (hpc : pc.request = some p) (hslot : t ∈ s.dataWaiters → ∀ q, pc ≠ .acquiring q)
      (hslots : s'.slots = s.slots.release t)
      (hactive : s'.active = s.active.erase p.correlationId)
      (hretired : s'.retired = addRetired s.retired p.correlationId)
      (hidentity : s'.admittedIdentity = s.admittedIdentity) : Seats s t pc s' (.finished reply)

theorem request_of_isBefore {pc : Pc V} (h : pc.isBefore = true) : pc.request = none := by
  cases pc <;> first | rfl | cases h

theorem request_of_invoked {pc : Pc V} {p : RequestParams V} (h : pc.invoked = some p) :
    pc.request = some p ∧ ∀ q, pc ≠ .acquiring q := by
  cases pc with
  | invoking | settling => exact ⟨h, fun _ heq => by cases heq⟩
  | _ => cases h

/-- A move from a place before a request that leaves slots and table alone. -/
theorem Seats.before {s s' : Shared} {t : Nat} {pc pc' : Pc V} {es : List Event}
    (hpc : pc.isBefore = true) (hpc' : pc'.request = none)
    (hrunning : s'.runningDataRequests = s.runningDataRequests)
    (hwaiters : s'.dataWaiters = s.dataWaiters) (hevents : s'.events = s.events ++ es)
    (hes : es.filterMap Event.slot = []) (hactive : s'.active = s.active)
    (hretired : s'.retired = s.retired)
    (hidentity : s'.admittedIdentity = s.admittedIdentity ∨ s.admittedIdentity = none) :
    Seats s t pc s' pc' := by
  have hnone := request_of_isBefore hpc
  refine .idle (slots_record hrunning hwaiters hevents hes) hactive hretired hidentity
    (hpc'.trans hnone.symm) (fun p hp => ?_) (fun q hq => ?_) fun _ => hpc
  · rw [hp] at hpc'
    cases hpc'
  · rw [hq] at hnone
    cases hnone

theorem Seats.finish {s s₁ : Shared} {t : Nat} {pc : Pc V} {p : RequestParams V} (reply : Reply V)
    (hpc : pc.request = some p) (hslot : t ∈ s.dataWaiters → ∀ q, pc ≠ .acquiring q)
    (hslots : s₁.slots = s.slots) (hactive : s₁.active = s.active) (hretired : s₁.retired = s.retired)
    (hidentity : s₁.admittedIdentity = s.admittedIdentity) :
    Seats s t pc (s₁.finish t p) (.finished reply) := by
  obtain ⟨ha, hr, hi⟩ := active_releaseDataSlot (s₁.retire p) t
  have hslots' : (s₁.finish t p).slots = s.slots.release t := by
    rw [Shared.finish, slots_releaseDataSlot, ← hslots]
    rfl
  refine .lets reply hpc hslot hslots' ?_ ?_ ?_
  · rw [Shared.finish, ha, ← hactive]
    rfl
  · rw [Shared.finish, hr, ← hretired]
    rfl
  · rw [Shared.finish, hi, ← hidentity]
    rfl

theorem Moves.seats {c : Config V} {s s' : Shared} {t : Nat} {pc pc' : Pc V}
    (hidentity : s.handshakeAttempted = false → s.admittedIdentity = none)
    (h : Moves c s t pc s' pc') : Seats s t pc s' pc' := by
  cases h with
  | quiet hpc hpc' =>
    exact .before hpc hpc' rfl rfl (List.append_nil _).symm rfl rfl rfl (.inl rfl)
  | closed hpc | cancelled hpc =>
    exact .before hpc rfl rfl rfl (List.append_nil _).symm rfl rfl rfl (.inl rfl)
  | attempted hpc | shutDown hpc | refused hpc =>
    exact .before hpc rfl rfl rfl rfl rfl rfl rfl (.inl rfl)
  | handshaken hpc hfirst =>
    exact .before hpc rfl rfl rfl rfl rfl rfl rfl (.inr (hidentity hfirst))
  | acquired hpc henters hroom =>
    refine .takes hpc henters hroom ?_ rfl rfl rfl
    simp [Shared.slots, Slots.take, Shared.record, Shared.enter, Event.slot]
  | denied hpc henters hfull hqueue => exact .denies henters hfull hqueue
  | queued hpc henters hfull hqueue =>
    refine .queues hpc henters hfull hqueue ?_ rfl rfl rfl
    simp [Shared.slots, Slots.queue, Shared.record, Shared.enter, Event.slot]
  | dismissed => exact .dismisses _
  | expired =>
    exact .idle rfl rfl rfl (.inl rfl) rfl (fun _ => id) (fun _ _ _ => rfl) id
  | dropped hslot => exact .finish _ rfl (fun hwaits => absurd hwaits hslot) rfl rfl rfl rfl
  | rejected hstarts =>
    exact .finish _ rfl (fun hwaits => absurd hwaits hstarts.slot) rfl rfl rfl rfl
  | threw hstarts =>
    refine .finish _ rfl (fun hwaits => absurd hwaits hstarts.slot) ?_ rfl rfl rfl
    exact slots_record rfl rfl rfl rfl
  | invoking hstarts =>
    refine .idle (slots_record rfl rfl rfl rfl) rfl rfl (.inl rfl) rfl (fun _ heq => by cases heq)
      (fun _ _ hwaits => absurd hwaits hstarts.slot) ?_
    intro hbefore
    cases hbefore
  | settling =>
    refine .idle rfl rfl rfl (.inl rfl) rfl (fun _ heq => by cases heq) (fun _ heq => by cases heq) ?_
    intro hbefore
    cases hbefore
  | completed hpc | failed hpc =>
    obtain ⟨hrequest, hnot⟩ := request_of_invoked hpc
    exact .finish _ hrequest (fun _ => hnot) rfl rfl rfl rfl
  | stopped => exact .before rfl rfl rfl rfl (List.append_nil _).symm rfl rfl rfl (.inl rfl)

/-! ## The invariant -/

def Occupies (pool : ExtTreeMap Nat (Pc V)) (t : Nat) (p : RequestParams V) : Prop :=
  ∃ pc, pool[t]? = some pc ∧ pc.request = some p

/-- The holders are the requests that do not wait; holders and waiters are the entries of the
table. -/
structure Seated (x : Threads Shared (Pc V)) (holders : List Nat) : Prop where
  accounts : Slots.Accounts x.shared.maxConcurrentRequests x.shared.childRequestQueueCapacity
    x.shared.slots holders
  occupied : ∀ t, t ∈ holders ∨ t ∈ x.shared.dataWaiters ↔ ∃ p, Occupies x.pool t p
  waiting : ∀ t ∈ x.shared.dataWaiters, ∃ p, x.pool[t]? = some (.acquiring p)
  undenied : ∀ (t : Nat) (p : RequestParams V), x.pool[t]? ≠ some (.denied p)
  table : ∀ id t, x.shared.active[id]? = some t ↔ ∃ p, Occupies x.pool t p ∧ p.correlationId = id
  size : x.shared.active.size = holders.length + x.shared.dataWaiters.length
  disjoint : ∀ id ∈ x.shared.active, id ∉ x.shared.retired
  began : ∀ t ∈ Slots.taken x.shared.slots.log, ∃ pc, x.pool[t]? = some pc ∧ pc.isBefore = false

theorem seated_init (c : Config V) : Seated (init c : Threads Shared (Pc V)) [] where
  accounts := Slots.Accounts.empty 0 0
  occupied t := by simp [init, Shared.init, Occupies]
  waiting t h := by cases h
  undenied t p := by simp [init]
  table id t := by simp [init, Shared.init, Occupies]
  size := by simp [init, Shared.init]
  disjoint id h := by simp [init, Shared.init] at h
  began t h := by simp [init, Shared.init, Shared.slots, Slots.taken] at h

section

variable {c : Config V} {x : Threads Shared (Pc V)} {s' : Shared} {holders : List Nat} {t : Nat}
  {pc pc' : Pc V} {p : RequestParams V}

theorem occupies_insert {pool : ExtTreeMap Nat (Pc V)} {u : Nat} :
    Occupies (pool.insert t pc) u p ↔
      u = t ∧ pc.request = some p ∨ u ≠ t ∧ Occupies pool u p := by
  simp only [Occupies, getElem?_insert_nat]
  by_cases htu : t = u
  · subst htu
    simp
  · simp [htu, Ne.symm htu]

theorem occupies_insert_same {pool : ExtTreeMap Nat (Pc V)} {u : Nat} (hpc : pool[t]? = some pc)
    (hrequest : pc'.request = pc.request) : Occupies (pool.insert t pc') u p ↔ Occupies pool u p := by
  rw [occupies_insert, hrequest]
  constructor
  · rintro (⟨rfl, hp⟩ | ⟨-, hu⟩)
    · exact ⟨pc, hpc, hp⟩
    · exact hu
  · intro hu
    by_cases hut : u = t
    · subst hut
      obtain ⟨pc₁, hpc₁, hp⟩ := hu
      cases hpc.symm.trans hpc₁
      exact .inl ⟨rfl, hp⟩
    · exact .inr ⟨hut, hu⟩

theorem limits_of_admitted {s : Shared} {identity : HandshakeIdentity}
    (h : s.admittedIdentity = some identity) :
    s.maxConcurrentRequests = identity.peerLimits.maxConcurrentRequests ∧
      s.childRequestQueueCapacity = identity.peerLimits.childRequestQueueCapacity := by
  simp [Shared.maxConcurrentRequests, Shared.childRequestQueueCapacity, h]

theorem accounts_of_identity {s : Shared} (hidentity : s'.admittedIdentity = s.admittedIdentity)
    (h : Slots.Accounts s.maxConcurrentRequests s.childRequestQueueCapacity s'.slots holders) :
    Slots.Accounts s'.maxConcurrentRequests s'.childRequestQueueCapacity s'.slots holders := by
  have hmax : s'.maxConcurrentRequests = s.maxConcurrentRequests := by
    rw [Shared.maxConcurrentRequests, hidentity, Shared.maxConcurrentRequests]
  have hcapacity : s'.childRequestQueueCapacity = s.childRequestQueueCapacity := by
    rw [Shared.childRequestQueueCapacity, hidentity, Shared.childRequestQueueCapacity]
  rw [hmax, hcapacity]
  exact h

theorem Seated.start (h : Seated x holders) (hentry : pc.isEntry = true) (ht : t ∉ x.pool) :
    Seated { x with pool := x.pool.insert t pc } holders := by
  have hnone : x.pool[t]? = none := ExtTreeMap.getElem?_eq_none ht
  have hbefore : pc.isBefore = true := by
    cases pc <;> first | rfl | cases hentry
  have hrequest := request_of_isBefore hbefore
  have hsame : ∀ (u : Nat) (p : RequestParams V),
      Occupies (x.pool.insert t pc) u p ↔ Occupies x.pool u p := by
    intro u p
    rw [occupies_insert, hrequest]
    constructor
    · grind
    · intro hu
      refine .inr ⟨?_, hu⟩
      rintro rfl
      obtain ⟨pc₁, hpc₁, -⟩ := hu
      cases hnone.symm.trans hpc₁
  have hkept : ∀ (u : Nat) (pc₁ : Pc V), x.pool[u]? = some pc₁ →
      (x.pool.insert t pc)[u]? = some pc₁ := by grind
  refine ⟨h.accounts, fun u => ?_, fun u hu => (h.waiting u hu).imp fun p => hkept u _,
    fun u p hu => ?_, fun id u => ?_, h.size, h.disjoint, fun u hu => ?_⟩
  · simp only [hsame]
    exact h.occupied u
  · rcases new_or_old_of_insert hu with ⟨-, rfl⟩ | ⟨-, hu⟩
    · cases hbefore
    · exact h.undenied u p hu
  · simp only [hsame]
    exact h.table id u
  · grind [h.began]

theorem getElem?_insert_of_ne {pool : ExtTreeMap Nat (Pc V)} {u : Nat} (hne : u ≠ t) :
    (pool.insert t pc')[u]? = pool[u]? := by
  rw [getElem?_insert_nat, if_neg (Ne.symm hne)]

theorem getElem?_insert_same {pool : ExtTreeMap Nat (Pc V)} :
    (pool.insert t pc')[t]? = some pc' := by
  rw [getElem?_insert_nat, if_pos rfl]

theorem Seated.idle (h : Seated x holders) (hpc : x.pool[t]? = some pc)
    (hslots : s'.slots = x.shared.slots) (hactive : s'.active = x.shared.active)
    (hretired : s'.retired = x.shared.retired)
    (hidentity : s'.admittedIdentity = x.shared.admittedIdentity ∨ x.shared.admittedIdentity = none)
    (hrequest : pc'.request = pc.request) (hdenied : ∀ p, pc' = .denied p → pc = .denied p)
    (hwaits : ∀ q, pc = .acquiring q → t ∈ x.shared.dataWaiters → pc' = pc)
    (hbefore : pc'.isBefore = true → pc.isBefore = true) :
    Seated ⟨s', x.pool.insert t pc'⟩ holders := by
  have hwaiters : s'.dataWaiters = x.shared.dataWaiters := congrArg Slots.waiters hslots
  refine ⟨?_, fun u => ?_, fun u hu => ?_, fun u p hu => ?_, fun id u => ?_, ?_, ?_, fun u hu => ?_⟩
  · rcases hidentity with hsame | hnone
    · refine accounts_of_identity hsame ?_
      rw [hslots]
      exact h.accounts
    · -- the limits are set, when there is nothing yet
      have hnothing := h.accounts
      simp only [Shared.maxConcurrentRequests, Shared.childRequestQueueCapacity, hnone] at hnothing
      rw [hslots]
      exact hnothing.limits _ _
  · simp only [occupies_insert_same hpc hrequest, hwaiters]
    exact h.occupied u
  · grind [getElem?_insert_of_ne, h.waiting]
  · grind [getElem?_insert_of_ne, h.undenied]
  · simp only [occupies_insert_same hpc hrequest, hactive]
    exact h.table id u
  · rw [hactive, hwaiters]
    exact h.size
  · rw [hactive, hretired]
    exact h.disjoint
  · rw [hslots] at hu
    obtain ⟨pc₁, hpc₁, hnot⟩ := h.began u hu
    by_cases hut : u = t
    · grind
    · exact ⟨pc₁, (getElem?_insert_of_ne hut).trans hpc₁, hnot⟩

theorem Seated.idle_at (h : Seated x holders) (hpc : x.pool[t]? = some pc)
    (hbefore : pc.isBefore = true) : t ∉ holders ∧ t ∉ x.shared.dataWaiters ∧
      t ∉ Slots.taken x.shared.slots.log := by
  have hfree : ¬ ∃ p, Occupies x.pool t p := by
    rintro ⟨p, pc₁, hpc₁, hp⟩
    cases hpc.symm.trans hpc₁
    rw [request_of_isBefore hbefore] at hp
    cases hp
  rw [← h.occupied t, not_or] at hfree
  refine ⟨hfree.1, hfree.2, fun htaken => ?_⟩
  obtain ⟨pc₁, hpc₁, hnot⟩ := h.began t htaken
  cases hpc.symm.trans hpc₁
  rw [hbefore] at hnot
  cases hnot

theorem Seated.enter (h : Seated x holders) (hpc : x.pool[t]? = some pc)
    (hbefore : pc.isBefore = true) (hinactive : p.correlationId ∉ x.shared.active)
    (hunretired : p.correlationId ∉ x.shared.retired) {holders' : List Nat}
    (haccounts : Slots.Accounts s'.maxConcurrentRequests s'.childRequestQueueCapacity s'.slots
      holders')
    (hactive : s'.active = x.shared.active.insert p.correlationId t)
    (hretired : s'.retired = x.shared.retired)
    (hmem : ∀ u, u ∈ holders' ∨ u ∈ s'.dataWaiters ↔
      u = t ∨ u ∈ holders ∨ u ∈ x.shared.dataWaiters)
    (hwaiting : ∀ u ∈ s'.dataWaiters, u = t ∨ u ∈ x.shared.dataWaiters)
    (htaken : ∀ u ∈ Slots.taken s'.slots.log, u = t ∨ u ∈ Slots.taken x.shared.slots.log)
    (hsize : holders'.length + s'.dataWaiters.length =
      holders.length + x.shared.dataWaiters.length + 1) :
    Seated ⟨s', x.pool.insert t (.acquiring p)⟩ holders' := by
  have hnone : x.shared.active[p.correlationId]? = none := ExtTreeMap.getElem?_eq_none hinactive
  have hfree : ∀ q, ¬ Occupies x.pool t q := by
    rintro q ⟨pc₁, hpc₁, hq⟩
    cases hpc.symm.trans hpc₁
    rw [request_of_isBefore hbefore] at hq
    cases hq
  have hoccupies : ∀ (u : Nat) (q : RequestParams V),
      Occupies (x.pool.insert t (.acquiring p)) u q ↔ u = t ∧ p = q ∨ Occupies x.pool u q := by
    intro u q
    rw [occupies_insert]
    constructor
    · rintro (⟨rfl, hq⟩ | ⟨-, hu⟩)
      · exact .inl ⟨rfl, Option.some.inj hq⟩
      · exact .inr hu
    · rintro (⟨rfl, rfl⟩ | hu)
      · exact .inl ⟨rfl, rfl⟩
      · grind
  refine ⟨haccounts, fun u => ?_, fun u hu => ?_, fun u q hu => ?_, fun id u => ?_, ?_,
    fun id hid => ?_, fun u hu => ?_⟩
  · rw [hmem u, h.occupied u]
    constructor
    · rintro (rfl | ⟨q, hq⟩)
      · exact ⟨p, (hoccupies u p).mpr (.inl ⟨rfl, rfl⟩)⟩
      · exact ⟨q, (hoccupies u q).mpr (.inr hq)⟩
    · grind
  · grind [getElem?_insert_same, getElem?_insert_of_ne, h.waiting]
  · grind [getElem?_insert_of_ne, h.undenied]
  · simp only [hactive, getElem?_insert_nat, hoccupies]
    by_cases hid : p.correlationId = id
    · rw [if_pos hid]
      constructor
      · grind
      · rintro ⟨q, ⟨rfl, -⟩ | hq, hqid⟩
        · rfl
        · rw [(h.table p.correlationId u).mpr ⟨q, hq, hqid.trans hid.symm⟩] at hnone
          cases hnone
    · grind [h.table]
  · show s'.active.size = _
    rw [hactive, size_insert_of_none hnone, h.size, hsize]
  · grind [mem_insert_nat, h.disjoint]
  · by_cases hut : u = t
    · subst hut
      exact ⟨_, getElem?_insert_same, rfl⟩
    · obtain ⟨pc₁, hpc₁, hnot⟩ := h.began u ((htaken u hu).resolve_left hut)
      exact ⟨pc₁, (getElem?_insert_of_ne hut).trans hpc₁, hnot⟩

theorem mem_addRetired {retired : List Nat} {id id' : Nat} :
    id' ∈ addRetired retired id ↔ id' = id ∨ id' ∈ retired := by
  rw [addRetired]
  split
  · grind
  · rw [List.mem_append, List.mem_singleton, or_comm]

theorem Seated.finish (h : Seated x holders) (hpc : x.pool[t]? = some pc)
    (hrequest : pc.request = some p) (hslot : t ∈ x.shared.dataWaiters → ∀ q, pc ≠ .acquiring q)
    (reply : Reply V) (hslots : s'.slots = x.shared.slots.release t)
    (hactive : s'.active = x.shared.active.erase p.correlationId)
    (hretired : s'.retired = addRetired x.shared.retired p.correlationId)
    (hidentity : s'.admittedIdentity = x.shared.admittedIdentity) :
    Seated ⟨s', x.pool.insert t (.finished reply)⟩ (x.shared.slots.heirs holders t) := by
  have hwaits : t ∉ x.shared.dataWaiters := by grind [h.waiting]
  have ht : t ∈ holders := ((h.occupied t).mpr ⟨p, pc, hpc, hrequest⟩).resolve_right hwaits
  have hwaiters : s'.dataWaiters = (x.shared.slots.release t).waiters := congrArg Slots.waiters hslots
  have hown : x.shared.active[p.correlationId]? = some t :=
    (h.table _ _).mpr ⟨p, ⟨pc, hpc, hrequest⟩, rfl⟩
  have hoccupies : ∀ (u : Nat) (q : RequestParams V),
      Occupies (x.pool.insert t (.finished reply)) u q ↔ u ≠ t ∧ Occupies x.pool u q := by
    intro u q
    rw [occupies_insert]
    constructor
    · rintro (⟨-, hq⟩ | hu)
      · cases hq
      · exact hu
    · exact .inr
  -- whoever waits or has got a slot after this is another thread, and was there before
  have hbefore : ∀ u, u ∈ s'.dataWaiters → u ∈ x.shared.dataWaiters := by
    intro u hu
    rw [hwaiters, Slots.release] at hu
    split at hu
    · next w rest hw =>
        rw [show x.shared.dataWaiters = w :: rest from hw]
        exact List.mem_cons_of_mem _ hu
    · exact hu
  have hsame : ∀ u, u ≠ t → ∀ pc₁ : Pc V, x.pool[u]? = some pc₁ →
      (x.pool.insert t (.finished reply))[u]? = some pc₁ :=
    fun u hne pc₁ hu => (getElem?_insert_of_ne hne).trans hu
  refine ⟨?_, fun u => ?_, fun u hu => ?_, fun u q hu => ?_, fun id u => ?_, ?_, fun id hid => ?_,
    fun u hu => ?_⟩
  · refine accounts_of_identity hidentity ?_
    rw [hslots]
    exact h.accounts.release ht
  · rw [hwaiters, h.accounts.mem_release ht u]
    simp only [hoccupies, exists_and_left]
    exact and_congr_right fun _ => h.occupied u
  · grind [h.waiting]
  · grind [getElem?_insert_of_ne, h.undenied]
  · simp only [hactive, getElem?_erase_nat, hoccupies]
    by_cases hid : p.correlationId = id
    · rw [if_pos hid]
      constructor
      · intro hnone
        cases hnone
      · rintro ⟨q, ⟨hne, hq⟩, hqid⟩
        rw [(h.table p.correlationId u).mpr ⟨q, hq, hqid.trans hid.symm⟩] at hown
        exact absurd (Option.some.inj hown) hne
    · rw [if_neg hid, h.table id u]
      constructor
      · rintro ⟨q, hq, hqid⟩
        refine ⟨q, ⟨?_, hq⟩, hqid⟩
        rintro rfl
        obtain ⟨pc₁, hpc₁, hq⟩ := hq
        cases hpc.symm.trans hpc₁
        cases hrequest.symm.trans hq
        exact hid hqid
      · grind
  · show s'.active.size = _
    have hlength := Slots.length_release (S := x.shared.slots) ht
    have herase := size_erase_of_some hown
    have hsize := h.size
    rw [hactive, hwaiters]
    simp only [Shared.slots] at hlength ⊢
    omega
  · grind [mem_erase_nat, mem_addRetired, h.disjoint]
  · rw [hslots] at hu
    have hold : u ∈ Slots.taken x.shared.slots.log ∨ u ∈ x.shared.dataWaiters := by
      rw [Slots.release] at hu
      split at hu
      · next w rest hw =>
          rw [Slots.taken, List.filterMap_append] at hu
          rcases List.mem_append.mp hu with hu | hu
          · exact .inl hu
          · rw [List.mem_singleton.mp hu]
            exact .inr ((show x.shared.dataWaiters = w :: rest from hw) ▸ List.mem_cons_self)
      · rw [Slots.taken, List.filterMap_append] at hu
        exact .inl ((List.mem_append.mp hu).resolve_right List.not_mem_nil)
    by_cases hut : u = t
    · subst hut
      exact ⟨_, getElem?_insert_same, rfl⟩
    · rcases hold with hold | hold
      · obtain ⟨pc₁, hpc₁, hnot⟩ := h.began u hold
        exact ⟨pc₁, hsame u hut pc₁ hpc₁, hnot⟩
      · obtain ⟨q, hq⟩ := h.waiting u hold
        exact ⟨_, hsame u hut _ hq, rfl⟩

/-- The table is checked before a slot is asked for, so that none is refused. -/
theorem Seated.not_denied (h : Seated x holders) {identity : HandshakeIdentity}
    (henters : Enters x.shared p identity)
    (hfull : identity.peerLimits.maxConcurrentRequests ≤ x.shared.runningDataRequests)
    (hqueue : identity.peerLimits.childRequestQueueCapacity ≤ x.shared.dataWaiters.length) :
    False := by
  have hroom := henters.room
  have hcount : holders.length = x.shared.runningDataRequests := h.accounts.count
  have hsize := h.size
  omega

theorem Seated.move (h : Seated x holders) (hpc : x.pool[t]? = some pc)
    (hmove : Seats x.shared t pc s' pc') :
    ∃ holders', Seated ⟨s', x.pool.insert t pc'⟩ holders' := by
  cases hmove with
  | idle hslots hactive hretired hidentity hrequest hdenied hwaits hbefore =>
    exact ⟨holders, h.idle hpc hslots hactive hretired hidentity hrequest hdenied hwaits hbefore⟩
  | takes hbefore henters hroom hslots hactive hretired hidentity =>
    obtain ⟨-, -, htaken⟩ := h.idle_at hpc hbefore
    obtain ⟨hmax, -⟩ := limits_of_admitted henters.admitted
    have haccounts := h.accounts.take htaken (hmax ▸ hroom)
    have hwaiters : s'.dataWaiters = x.shared.dataWaiters := congrArg Slots.waiters hslots
    have hlog : Slots.taken s'.slots.log = Slots.taken x.shared.slots.log ++ [t] := by
      rw [hslots]
      exact List.filterMap_append
    refine ⟨t :: holders, h.enter hpc hbefore henters.inactive henters.unretired
      (accounts_of_identity hidentity (hslots ▸ haccounts)) hactive hretired ?_ ?_ ?_ ?_⟩
    · grind
    · exact fun u hu => .inr (hwaiters ▸ hu)
    · grind
    · rw [hwaiters, List.length_cons]
      omega
  | queues hbefore henters hfull hqueue hslots hactive hretired hidentity =>
    obtain ⟨-, hnot, htaken⟩ := h.idle_at hpc hbefore
    obtain ⟨hmax, hcapacity⟩ := limits_of_admitted henters.admitted
    have haccounts := h.accounts.queue htaken hnot (hmax ▸ hfull) (hcapacity ▸ hqueue)
    have hwaiters : s'.dataWaiters = x.shared.dataWaiters ++ [t] := congrArg Slots.waiters hslots
    have hlog : Slots.taken s'.slots.log = Slots.taken x.shared.slots.log := by
      rw [hslots]
      exact List.filterMap_append.trans (List.append_nil _)
    refine ⟨holders, h.enter hpc hbefore henters.inactive henters.unretired
      (accounts_of_identity hidentity (hslots ▸ haccounts)) hactive hretired ?_ ?_ ?_ ?_⟩
    · grind
    · grind
    · exact fun u hu => .inr (hlog ▸ hu)
    · grind
  | denies henters hfull hqueue => exact (h.not_denied henters hfull hqueue).elim
  | dismisses p => exact absurd hpc (h.undenied t p)
  | lets reply hrequest hslot hslots hactive hretired hidentity =>
    exact ⟨_, h.finish hpc hrequest hslot reply hslots hactive hretired hidentity⟩

end

/-! ## Before the handshake -/

def Shared.admission (s : Shared) : Bool × Option String × Option HandshakeIdentity × List UInt8 :=
  (s.handshakeAttempted, s.session, s.admittedIdentity, s.secret)

theorem admission_finish (s : Shared) (t : Nat) (p : RequestParams V) :
    (s.finish t p).admission = s.admission := by
  rw [Shared.finish, Shared.releaseDataSlot]
  split
  · rfl
  · rfl

theorem Moves.admission {c : Config V} {s s' : Shared} {t : Nat} {pc pc' : Pc V}
    (h : Moves c s t pc s' pc') :
    s'.admission = s.admission ∨ s.handshakeAttempted = false ∧ s'.handshakeAttempted = true := by
  cases h with
  | attempted _ hfirst => exact .inr ⟨hfirst, rfl⟩
  | handshaken _ hfirst => exact .inr ⟨hfirst, rfl⟩
  | dropped | rejected | threw | completed | failed => exact .inl (admission_finish _ _ _)
  | _ => exact .inl rfl

/-- Until a handshake has been attempted there is no session, and the secret is there. -/
def Unattempted (c : Config V) (s : Shared) : Prop :=
  s.handshakeAttempted = false →
    s.session = none ∧ s.admittedIdentity = none ∧ s.secret = c.bootstrapSecret

theorem Unattempted.step {c : Config V} {x x' : Threads Shared (Pc V)} {a : Act (Pc V) (Input V)}
    (h : Unattempted c x.shared) (hstep : (program c).step x a = some x') :
    Unattempted c x'.shared := by
  rcases step_moves hstep with ⟨t, pc, -, -, rfl⟩ | ⟨t, pc, pc', -, hmoves, -⟩
  · exact h
  · rcases hmoves.admission with hsame | ⟨-, hattempted⟩
    · simp only [Shared.admission, Prod.mk.injEq] at hsame
      obtain ⟨hattempted, hsession, hidentity, hsecret⟩ := hsame
      intro hfirst
      rw [hattempted] at hfirst
      rw [hsession, hidentity, hsecret]
      exact h hfirst
    · intro hfirst
      rw [hattempted] at hfirst
      cases hfirst

/-! ## Runs -/

theorem Seated.step {c : Config V} {x x' : Threads Shared (Pc V)} {a : Act (Pc V) (Input V)}
    (h : ∃ holders, Seated x holders) (hunattempted : Unattempted c x.shared)
    (hstep : (program c).step x a = some x') : ∃ holders, Seated x' holders := by
  obtain ⟨holders, h⟩ := h
  rcases step_moves hstep with ⟨t, pc, hentry, hfresh, rfl⟩ | ⟨t, pc, pc', hpc, hmoves, hpool⟩
  · exact ⟨holders, h.start hentry hfresh⟩
  · obtain ⟨s', pool'⟩ := x'
    cases hpool
    exact h.move hpc (hmoves.seats fun hfirst => (hunattempted hfirst).2.1)

theorem seated_run {c : Config V} {acts : List (Act (Pc V) (Input V))} {x : Threads Shared (Pc V)}
    (hrun : run (program c).step (init c) acts = some x) :
    (∃ holders, Seated x holders) ∧ Unattempted c x.shared := by
  have hkept : ∀ (x : Threads Shared (Pc V)) (a : Act (Pc V) (Input V)) (x' : Threads Shared (Pc V)),
      (∃ holders, Seated x holders) ∧ Unattempted c x.shared → (program c).step x a = some x' →
      (∃ holders, Seated x' holders) ∧ Unattempted c x'.shared :=
    fun _ _ _ hx hstep => ⟨Seated.step hx.1 hx.2 hstep, hx.2.step hstep⟩
  exact run_invariant hkept ⟨⟨[], seated_init c⟩, fun _ => ⟨rfl, rfl, rfl⟩⟩ hrun

/-- The request has asked for a slot and does not wait for it. -/
def Holds (x : Threads Shared (Pc V)) (t : Nat) : Prop :=
  (∃ p, Occupies x.pool t p) ∧ t ∉ x.shared.dataWaiters

theorem events_finish (s : Shared) (t : Nat) (p : RequestParams V) :
    (s.finish t p).events =
      s.events ++ .released t :: s.dataWaiters.head?.toList.map Event.granted := by
  cases hwaiters : s.dataWaiters with
  | nil | cons =>
    simp [Shared.finish, Shared.releaseDataSlot, Shared.retire, hwaiters, Shared.record]

/-- A request is refused for want of room before it is admitted, unless `acquireDataSlot` has
refused. -/
theorem Moves.refused_cases {c : Config V} {s s' : Shared} {t u id : Nat} {pc pc' : Pc V}
    (h : Moves c s t pc s' pc') (hid : .refused u id ∈ s'.events.drop s.events.length) :
    (s'.active = s.active ∧ s'.retired = s.retired ∧ id ∉ s.active ∧ id ∉ s.retired) ∨
      ∃ p, pc = .denied p := by
  cases h with
  | refused hpc hinactive hunretired =>
    simp only [Shared.record, List.drop_left, List.mem_singleton, Event.refused.injEq] at hid
    rw [hid.2]
    exact .inl ⟨rfl, rfl, hinactive, hunretired⟩
  | dismissed => exact .inr ⟨_, rfl⟩
  | dropped | completed => simp [events_finish] at hid
  | rejected | failed => simp [events_finish, Shared.close] at hid
  | threw => simp [events_finish, Shared.close, Shared.invoke, Shared.record] at hid
  | _ =>
    simp [Shared.close, Shared.attempt, Shared.handshake, Shared.cancel, Shared.shutDown,
      Shared.record, Shared.enter, Shared.invoke] at hid

/-- **The slots of a Process V1 child.** In every state of every run the requests that hold a slot are
as many as `runningDataRequests`, at most `max_concurrent_requests`; at most
`child_request_queue_capacity` wait, and only while all slots are held; slots are granted in the order
of the queue; every slot taken is held or has been given back, once; and a step that refuses a request
for want of room leaves its id neither active nor retired. -/
theorem slots_held_and_handed_over (c : Config V) (acts : List (Act (Pc V) (Input V)))
    (x : Threads Shared (Pc V)) (hrun : run (program c).step (init c) acts = some x) :
    (∃ holders : List Nat, holders.Nodup ∧ (∀ t, t ∈ holders ↔ Holds x t) ∧
      holders.length = x.shared.runningDataRequests ∧
      (holders ++ Slots.released x.shared.slots.log).Perm (Slots.taken x.shared.slots.log)) ∧
    (Slots.taken x.shared.slots.log).Nodup ∧
    x.shared.runningDataRequests ≤ x.shared.maxConcurrentRequests ∧
    x.shared.dataWaiters.length ≤ x.shared.childRequestQueueCapacity ∧
    (∀ t ∈ x.shared.dataWaiters, (∃ p, x.pool[t]? = some (.acquiring p)) ∧
      x.shared.runningDataRequests = x.shared.maxConcurrentRequests) ∧
    Slots.queued x.shared.slots.log =
      Slots.granted x.shared.slots.log ++ x.shared.dataWaiters ∧
    ∀ a x', (program c).step x a = some x' → ∀ t id,
      .refused t id ∈ x'.shared.events.drop x.shared.events.length →
      id ∉ x'.shared.active ∧ id ∉ x'.shared.retired := by
  obtain ⟨⟨holders, h⟩, -⟩ := seated_run hrun
  have haccounts := h.accounts
  refine ⟨⟨holders, haccounts.nodup, fun t => ⟨fun ht => ?_, fun ht => ?_⟩, haccounts.count,
    haccounts.balance⟩, haccounts.once, haccounts.within, haccounts.room, fun t ht => ?_,
    haccounts.order, fun a x' hstep t id hid => ?_⟩
  · exact ⟨(h.occupied t).mp (.inl ht), haccounts.not_mem_waiters ht⟩
  · exact ((h.occupied t).mpr ht.1).resolve_right ht.2
  · exact ⟨h.waiting t ht, haccounts.full (List.ne_nil_of_mem ht)⟩
  · rcases step_moves hstep with ⟨t, pc, -, -, rfl⟩ | ⟨t, pc, pc', hpc, hmoves, -⟩
    · simp at hid
    · rcases hmoves.refused_cases hid with ⟨hactive, hretired, hfree⟩ | ⟨p, rfl⟩
      · rw [hactive, hretired]
        exact hfree
      · exact absurd hpc (h.undenied t p)

/-! ## A sample run -/

/-- A child with one provider; its proofs are the secret itself. -/
def sampleConfig : Config Nat where
  identity := none
  bootstrapSecret := List.replicate 32 7
  providers := [⟨"example.greeting@1", "1.0.0", "sha256:0", ["greet"]⟩]
  payload _ nonce := nonce
  hostProof secret _ := secret
  childProof secret _ _ := secret
  encodedLength _ := 0
  secret_length := rfl
  distinct := by decide
  nonempty := by decide

def sampleIdentity : HandshakeIdentity where
  providedCapabilities := [⟨"example.greeting@1", "1.0.0", "sha256:0", ["greet"]⟩]
  peerLimits := ⟨1, 1, 8, 4, 1000, 1000⟩
  rest := ""

def controlRequest (call : ControlCall) : Pc Nat :=
  .control ⟨"/control", "", "POST", some "application/json", 10, .envelope 1 call⟩

def dataRequest (correlationId : Nat) : Pc Nat :=
  .data ⟨"/rpc", "", "POST", some "application/json", 10, .envelope correlationId
    (.request (some ⟨"s-1", correlationId, "example.greeting@1", "1.0.0", "sha256:0", "greet", none, 5⟩))⟩

/-- An HTTP request arrives, is read and handled up to its next await. -/
def handled (t : Nat) (pc : Pc Nat) (k : Input Nat) : List (Act (Pc Nat) (Input Nat)) :=
  [.start t pc, .move t .go 0, .move t k 0]

def sampleHandshake : List (Act (Pc Nat) (Input Nat)) :=
  handled 1 (controlRequest (.handshake (some ⟨sampleIdentity, "nonce",
    some (List.replicate 32 7)⟩))) (.random "s-1")

/-- The second request waits, the third is refused, and the slot goes to the second when the first is
done. -/
theorem slots_held_and_handed_over_sample :
    ∃ x, run (program sampleConfig).step (init sampleConfig)
        (sampleHandshake ++ handled 2 (dataRequest 10) .go ++ handled 3 (dataRequest 11) .go ++
          handled 4 (dataRequest 12) .go ++ [.move 2 .go 0, .move 2 (.invoked (.success 6) none) 0]) =
        some x ∧
      x.shared.runningDataRequests = 1 ∧ 12 ∉ x.shared.active ∧ 12 ∉ x.shared.retired ∧
      (Slots.taken x.shared.slots.log).Nodup := by
  refine exists_run (by decide +kernel)
    ⟨by decide +kernel, by decide +kernel, by decide +kernel, ?_⟩
  exact (slots_held_and_handed_over sampleConfig _ _ (run_get _)).2.1

end LensoBun.ProcessV1.Child
