import LensoBun.ProcessV1.ChildSlots

set_option autoImplicit false

/-! # When a Process V1 child calls its providers

`invokeRequest` is called for a correlation id at most once, for a request that carries the session of
the one handshake that has passed its checks, and never after a SHUTDOWN has been handled. A request
that has been admitted is in the table until it ends, so a SHUTDOWN reaches also those that wait for a
slot: their state is cancelled, and that is tested when they get it.
-/

namespace LensoBun.ProcessV1.Child

open Std Lib

variable {V : Type}

/-! ## Histories -/

/-- The correlation ids for which `invokeRequest` has been called. -/
def invocations (events : List Event) : List Nat :=
  events.filterMap fun e => match e with
    | .invoked _ correlationId _ => some correlationId
    | _ => none

def Event.isInvoked : Event → Bool
  | .invoked _ _ _ => true
  | _ => false

def Event.isShutdown : Event → Bool
  | .shutdown _ _ => true
  | _ => false

def Event.isAttempted : Event → Bool
  | .attempted _ => true
  | _ => false

def Event.isHandshaken : Event → Bool
  | .handshaken _ _ _ => true
  | _ => false

def Event.isOther : Event → Bool
  | .invoked _ _ _ | .shutdown _ _ | .attempted _ | .handshaken _ _ _ => false
  | _ => true

def Silent (events : List Event) : Prop :=
  events.Pairwise fun e e' => ¬ (e.isShutdown = true ∧ e'.isInvoked = true)

theorem mem_invocations {events : List Event} {id : Nat} :
    id ∈ invocations events ↔ ∃ t session, .invoked t id session ∈ events := by
  simp only [invocations, List.mem_filterMap]
  constructor
  · grind
  · grind

/-! ## What a step does to invocations -/

/-- What no step takes back: a retired id, the end of accepting, and a cancellation. -/
structure Keeps (s s' : Shared) : Prop where
  retired : ∀ id ∈ s.retired, id ∈ s'.retired
  accepting : s.accepting = false → s'.accepting = false
  cancelled : ∀ u : Nat, s.cancelled[u]? = some true → s'.cancelled[u]? = some true
  known : ∀ u ∈ s.cancelled, u ∈ s'.cancelled

theorem Keeps.refl (s : Shared) : Keeps s s := ⟨fun _ => id, id, fun _ => id, fun _ => id⟩

variable {s s' : Shared} {pc pc' : Pc V} {c : Config V}

theorem Keeps.trans {s'' : Shared} (h : Keeps s s') (h' : Keeps s' s'') : Keeps s s'' where
  retired id hid := h'.retired id (h.retired id hid)
  accepting haccepting := h'.accepting (h.accepting haccepting)
  cancelled u hu := h'.cancelled u (h.cancelled u hu)
  known u hu := h'.known u (h.known u hu)

theorem keeps_close (s : Shared) : Keeps s s.close :=
  ⟨fun _ => id, fun _ => rfl, fun _ => id, fun _ => id⟩

theorem keeps_record (s : Shared) (es : List Event) : Keeps s (s.record es) :=
  ⟨fun _ => id, id, fun _ => id, fun _ => id⟩

theorem keeps_cancel (s : Shared) (t : Nat) : Keeps s (s.cancel t) where
  retired _ := id
  accepting := id
  cancelled u hu := by
    simp only [Shared.cancel, getElem?_modify_nat]
    split
    · next htu => rw [htu, hu, Option.map_some]
    · exact hu
  known u hu := ExtTreeMap.mem_modify.mpr hu

theorem getElem?_shutDown (s : Shared) (u : Nat) :
    s.shutDown.cancelled[u]? = s.cancelled[u]?.map fun flag => flag || s.isActive u := by
  simp [Shared.shutDown]

theorem keeps_shutDown (s : Shared) : Keeps s s.shutDown where
  retired _ := id
  accepting _ := rfl
  cancelled u hu := by
    rw [getElem?_shutDown, hu]
    rfl
  known u hu := ExtTreeMap.mem_map.mpr hu

theorem keeps_finish (s : Shared) (t : Nat) (p : RequestParams V) :
    Keeps s (s.finish t p) ∧ p.correlationId ∈ (s.finish t p).retired := by
  have hretired : (s.finish t p).retired = addRetired s.retired p.correlationId :=
    (active_releaseDataSlot (s.retire p) t).2.1
  have hrest : (s.finish t p).accepting = s.accepting ∧ (s.finish t p).cancelled = s.cancelled := by
    rw [Shared.finish, Shared.releaseDataSlot]
    split
    · exact ⟨rfl, rfl⟩
    · exact ⟨rfl, rfl⟩
  refine ⟨⟨fun id hid => ?_, fun h => hrest.1.trans h, fun u hu => ?_, fun u hu => ?_⟩, ?_⟩
  · rw [hretired]
    exact mem_addRetired.mpr (.inr hid)
  · rw [hrest.2]
    exact hu
  · rw [hrest.2]
    exact hu
  · rw [hretired]
    exact mem_addRetired.mpr (.inl rfl)

/-- The moves as far as they concern invocations. -/
inductive Begins (c : Config V) (s : Shared) (t : Nat) : Pc V → Shared → Pc V → Prop where
  | keeps {s' : Shared} {pc pc' : Pc V} {es : List Event} (hevents : s'.events = s.events ++ es)
      (hes : ∀ e ∈ es, e.isOther = true) (hsession : s'.session = s.session)
      (hattempted : s'.handshakeAttempted = s.handshakeAttempted) (hkeeps : Keeps s s')
      (hrequest : ∀ p, pc'.request = some p → pc.request = some p)
      (hinvoked : ∀ p, pc.invoked = some p → pc'.invoked = some p ∨ p.correlationId ∈ s'.retired)
      (hacquiring : ∀ p, pc' = .acquiring p → pc = .acquiring p) : Begins c s t pc s' pc'
  | enters {s' : Shared} {pc pc' : Pc V} {p : RequestParams V} {identity : HandshakeIdentity}
      {es : List Event} (hpc : pc.isBefore = true) (henters : Enters s p identity)
      (hevents : s'.events = s.events ++ es) (hes : ∀ e ∈ es, e.isOther = true)
      (hsession : s'.session = s.session)
      (hattempted : s'.handshakeAttempted = s.handshakeAttempted) (hretired : s'.retired = s.retired)
      (hcancelled : s'.cancelled = s.cancelled.insert t false) (hpc' : pc'.request = some p) :
      Begins c s t pc s' pc'
  | starts {s' : Shared} {p : RequestParams V} {pc' : Pc V} {es : List Event} (hstarts : Starts s t)
      (hevents : s'.events = s.events ++ .invoked t p.correlationId p.session :: es)
      (hes : ∀ e ∈ es, e.isOther = true) (hsession : s'.session = s.session)
      (hattempted : s'.handshakeAttempted = s.handshakeAttempted) (hkeeps : Keeps s s')
      (hrequest : ∀ q, pc'.request = some q → q = p)
      (hinvoked : pc'.invoked = some p ∨ p.correlationId ∈ s'.retired) :
      Begins c s t (.acquiring p) s' pc'
  | attempts {s' : Shared} {pc : Pc V}
      (hfirst : s.handshakeAttempted = false) (hevents : s'.events = s.events ++ [.attempted t])
      (hsession : s'.session = s.session) (hattempted : s'.handshakeAttempted = true)
      (hkeeps : Keeps s s') (reply : Reply V) : Begins c s t pc s' (.finished reply)
  | handshakes {s' : Shared} {pc : Pc V}
      (hfirst : s.handshakeAttempted = false) {params : HandshakeParams}
      (hcheck : checkHandshake c s.secret (some params) = .ok params) (session : String)
      (hevents : s'.events = s.events ++ [.attempted t, .handshaken t params session])
      (hsession : s'.session = some session) (hattempted : s'.handshakeAttempted = true)
      (hkeeps : Keeps s s') (reply : Reply V) : Begins c s t pc s' (.finished reply)
  | shuts {s' : Shared} {pc : Pc V} (hpc : pc.isBefore = true) (session : String)
      (hevents : s'.events = s.events ++ [.shutdown t session]) (hsession : s'.session = s.session)
      (hattempted : s'.handshakeAttempted = s.handshakeAttempted) (hkeeps : Keeps s s')
      (haccepting : s'.accepting = false) (hcancelled : s'.cancelled = s.shutDown.cancelled)
      (reply : Reply V) : Begins c s t pc s' (.finished reply)

theorem invoked_of_isBefore (h : pc.isBefore = true) : pc.invoked = none := by
  cases pc <;> first | rfl | cases h

theorem Begins.before {t : Nat} {es : List Event} (hpc : pc.isBefore = true)
    (hpc' : pc'.request = none) (hevents : s'.events = s.events ++ es)
    (hes : ∀ e ∈ es, e.isOther = true) (hsession : s'.session = s.session)
    (hattempted : s'.handshakeAttempted = s.handshakeAttempted) (hkeeps : Keeps s s') :
    Begins c s t pc s' pc' := by
  refine .keeps hevents hes hsession hattempted hkeeps (fun p hp => ?_) (fun p hp => ?_)
    fun p hp => ?_
  · rw [hpc'] at hp
    cases hp
  · rw [invoked_of_isBefore hpc] at hp
    cases hp
  · rw [hp] at hpc'
    cases hpc'

theorem others_finish (s : Shared) (t : Nat) :
    ∀ e ∈ .released t :: s.dataWaiters.head?.toList.map Event.granted, e.isOther = true := by
  intro e he
  rcases List.mem_cons.mp he with rfl | he
  · rfl
  · obtain ⟨w, -, rfl⟩ := List.mem_map.mp he
    rfl

theorem Begins.finish {s₁ : Shared} {t : Nat} {p : RequestParams V} (reply : Reply V)
    (hpc : ∀ q, pc.invoked = some q → q = p) (hevents : s₁.events = s.events)
    (hadmission : s₁.admission = s.admission) (hkeeps : Keeps s s₁) :
    Begins c s t pc (s₁.finish t p) (.finished reply) := by
  obtain ⟨hfinish, hretired⟩ := keeps_finish s₁ t p
  have hsame := (admission_finish s₁ t p).trans hadmission
  simp only [Shared.admission, Prod.mk.injEq] at hsame
  refine .keeps ((events_finish s₁ t p).trans (by rw [hevents])) (others_finish s₁ t) hsame.2.1 hsame.1
    (hkeeps.trans hfinish) (fun q hq => by cases hq) (fun q hq => .inr ?_) fun q hq => by cases hq
  rw [hpc q hq]
  exact hretired

theorem Moves.begins {t : Nat} (h : Moves c s t pc s' pc') : Begins c s t pc s' pc' := by
  cases h with
  | quiet hpc hpc' =>
    exact .before hpc hpc' (List.append_nil _).symm (by simp) rfl rfl
      ⟨fun _ => id, id, fun _ => id, fun _ => id⟩
  | closed hpc => exact .before hpc rfl (List.append_nil _).symm (by simp) rfl rfl (keeps_close s)
  | attempted _ hfirst n reply =>
    refine .attempts hfirst ?_ ?_ ?_ ?_ reply
    · rfl
    · rfl
    · rfl
    · exact ⟨fun _ => id, id, fun _ => id, fun _ => id⟩
  | handshaken _ hfirst hcheck session n reply =>
    refine .handshakes hfirst hcheck session ?_ ?_ ?_ ?_ reply
    · rfl
    · rfl
    · rfl
    · exact ⟨fun _ => id, id, fun _ => id, fun _ => id⟩
  | @cancelled _ hpc id u hactive n reply =>
    have hkeeps := keeps_cancel s u
    exact .before hpc rfl (List.append_nil _).symm (by simp) rfl rfl
      ⟨hkeeps.retired, hkeeps.accepting, hkeeps.cancelled, hkeeps.known⟩
  | @shutDown _ hpc session hsession n reply =>
    have hkeeps := keeps_shutDown s
    refine .shuts hpc session ?_ ?_ ?_ ?_ ?_ ?_ reply
    · rfl
    · rfl
    · rfl
    · exact ⟨hkeeps.retired, hkeeps.accepting, hkeeps.cancelled, hkeeps.known⟩
    · rfl
    · rfl
  | refused hpc =>
    exact .before hpc rfl rfl (by simp [Event.isOther]) rfl rfl (keeps_record s _)
  | acquired hpc henters | queued hpc henters =>
    exact .enters hpc henters rfl (by simp [Event.isOther]) rfl rfl rfl rfl rfl
  | denied hpc henters =>
    exact .enters hpc henters (List.append_nil _).symm (by simp) rfl rfl rfl rfl rfl
  | @dismissed p reply =>
    refine .keeps rfl (by simp [Event.isOther]) rfl rfl ?_ (fun _ hq => by cases hq)
      (fun _ hq => by cases hq) fun _ hq => by cases hq
    exact ⟨fun id hid => mem_addRetired.mpr (.inr hid), id, fun _ => id, fun _ => id⟩
  | expired =>
    exact .keeps (List.append_nil _).symm (by simp) rfl rfl (keeps_cancel s t) (fun _ => id)
      (fun _ => .inl) fun _ => id
  | dropped => exact .finish _ (fun _ hq => by cases hq) rfl rfl (.refl s)
  | rejected => exact .finish _ (fun _ hq => by cases hq) rfl rfl (keeps_close s)
  | @threw p hstarts reply =>
    obtain ⟨hfinish, hretired⟩ := keeps_finish (s.invoke t p).close t p
    have hsame := admission_finish (s.invoke t p).close t p
    simp only [Shared.admission, Prod.mk.injEq] at hsame
    refine .starts hstarts ?_ (others_finish (s.invoke t p).close t) hsame.2.1 hsame.1
      (((keeps_record s _).trans (keeps_close _)).trans hfinish) (fun _ hq => by cases hq) (.inr hretired)
    rw [events_finish]
    exact List.append_assoc _ _ _
  | invoking hstarts =>
    exact .starts hstarts rfl (by simp) rfl rfl (keeps_record s _)
      (fun _ hq => (Option.some.inj hq).symm) (.inl rfl)
  | settling =>
    exact .keeps (List.append_nil _).symm (by simp) rfl rfl (.refl s) (fun _ => id)
      (fun _ => .inl) fun _ hq => by cases hq
  | completed hpc =>
    exact .finish _ (fun _ hq => (Option.some.inj (hpc.symm.trans hq)).symm) rfl rfl (.refl s)
  | failed hpc =>
    exact .finish _ (fun _ hq => (Option.some.inj (hpc.symm.trans hq)).symm) rfl rfl (keeps_close s)
  | stopped =>
    exact .before rfl rfl (List.append_nil _).symm (by simp) rfl rfl (keeps_shutDown s)

/-! ## The invariant -/

/-- What the history has to do with the flags: at most one attempt and one handshake, and nothing is
invoked after a shutdown or twice. -/
structure Recorded (events : List Event) (attempted : Bool) : Prop where
  attempts : (events.filter Event.isAttempted).length ≤ 1
  handshakes : (events.filter Event.isHandshaken).length ≤ 1
  first : attempted = false →
    events.filter Event.isAttempted = [] ∧ events.filter Event.isHandshaken = []
  once : (invocations events).Nodup
  silent : Silent events

section

variable {events es : List Event} {attempted : Bool} {t id : Nat} {session : String}

theorem Recorded.nil : Recorded [] attempted :=
  ⟨by simp, by simp, by simp, List.nodup_nil, List.Pairwise.nil⟩

theorem invocations_of_others (hes : ∀ e ∈ es, e.isOther = true) : invocations es = [] := by
  refine List.filterMap_eq_nil_iff.mpr fun e he => ?_
  have hother := hes e he
  cases e <;> first | rfl | cases hother

theorem invocations_append (events es : List Event) :
    invocations (events ++ es) = invocations events ++ invocations es :=
  List.filterMap_append

theorem Silent.append (h : Silent events) (hes : ∀ e ∈ es, e.isInvoked = false) :
    Silent (events ++ es) := by
  refine List.pairwise_append.mpr ⟨h, List.pairwise_of_forall_mem_list fun e he e' he' hboth => ?_,
    fun e he e' he' hboth => ?_⟩
  · rw [hes e' he'] at hboth
    cases hboth.2
  · rw [hes e' he'] at hboth
    cases hboth.2

theorem Recorded.others (h : Recorded events attempted) (hes : ∀ e ∈ es, e.isOther = true) :
    Recorded (events ++ es) attempted := by
  have hattempts : es.filter Event.isAttempted = [] := by
    refine List.filter_eq_nil_iff.mpr fun e he htrue => ?_
    have hother := hes e he
    cases e <;> simp [Event.isAttempted, Event.isOther] at htrue hother
  have hhandshakes : es.filter Event.isHandshaken = [] := by
    refine List.filter_eq_nil_iff.mpr fun e he htrue => ?_
    have hother := hes e he
    cases e <;> simp [Event.isHandshaken, Event.isOther] at htrue hother
  have hinvoked : ∀ e ∈ es, e.isInvoked = false := by
    intro e he
    have hother := hes e he
    cases e <;> first | rfl | cases hother
  constructor
  · rw [List.filter_append, hattempts, List.append_nil]
    exact h.attempts
  · rw [List.filter_append, hhandshakes, List.append_nil]
    exact h.handshakes
  · rw [List.filter_append, hattempts, List.append_nil, List.filter_append, hhandshakes,
      List.append_nil]
    exact h.first
  · rw [invocations_append, invocations_of_others hes, List.append_nil]
    exact h.once
  · exact h.silent.append hinvoked

theorem Recorded.attempt (h : Recorded events false) (hone : es.filter Event.isAttempted = [.attempted t])
    (hhandshakes : (es.filter Event.isHandshaken).length ≤ 1) (hes : ∀ e ∈ es, e.isInvoked = false)
    (hnone : invocations es = []) : Recorded (events ++ es) true := by
  obtain ⟨hattempts, hnot⟩ := h.first rfl
  constructor
  · grind
  · grind
  · intro hfalse
    cases hfalse
  · rw [invocations_append, hnone, List.append_nil]
    exact h.once
  · exact h.silent.append hes

theorem Recorded.invoke (h : Recorded events attempted) (hid : id ∉ invocations events)
    (hopen : ∀ u session, .shutdown u session ∉ events) :
    Recorded (events ++ [.invoked t id session]) attempted := by
  constructor
  · simpa [Event.isAttempted] using h.attempts
  · simpa [Event.isHandshaken] using h.handshakes
  · simpa [Event.isAttempted, Event.isHandshaken] using h.first
  · rw [invocations_append]
    exact h.once.append (List.nodup_singleton id) (List.disjoint_singleton.mpr hid)
  · refine List.pairwise_append.mpr ⟨h.silent, List.pairwise_singleton _ _, fun e he e' _ hboth => ?_⟩
    cases e with
    | shutdown u y => exact hopen u y he
    | _ => cases hboth.1

theorem Recorded.shutdown (h : Recorded events attempted) :
    Recorded (events ++ [.shutdown t session]) attempted := by
  constructor
  · simpa [Event.isAttempted] using h.attempts
  · simpa [Event.isHandshaken] using h.handshakes
  · simpa [Event.isAttempted, Event.isHandshaken] using h.first
  · rw [invocations_append]
    exact (List.append_nil _).symm ▸ h.once
  · exact h.silent.append (by simp [Event.isInvoked])

end

/-- What holds of sessions, invocations and shutdowns in every state. -/
structure Started (c : Config V) (x : Threads Shared (Pc V)) : Prop where
  recorded : Recorded x.shared.events x.shared.handshakeAttempted
  session : ∀ session, x.shared.session = some session →
    ∃ u params, .handshaken u params session ∈ x.shared.events ∧
      checkHandshake c c.bootstrapSecret (some params) = .ok params
  carried : ∀ t p, Occupies x.pool t p → x.shared.session = some p.session
  known : ∀ t p, Occupies x.pool t p → t ∈ x.shared.cancelled
  invoked : ∀ t id session, .invoked t id session ∈ x.shared.events →
    x.shared.session = some session ∧ (id ∈ x.shared.retired ∨
      ∃ pc p, x.pool[t]? = some pc ∧ pc.invoked = some p ∧ p.correlationId = id)
  closed : ∀ t session, .shutdown t session ∈ x.shared.events →
    x.shared.accepting = false ∧ ∀ (u : Nat) (p : RequestParams V), x.pool[u]? = some (.acquiring p) →
      x.shared.cancelled[u]? = some true

theorem started_init (c : Config V) : Started c (init c) where
  recorded := Recorded.nil
  session session h := by cases h
  carried t p h := by simp [init, Occupies] at h
  known t p h := by simp [init, Occupies] at h
  invoked t id session h := by cases h
  closed t session h := by cases h

section

variable {c : Config V} {x : Threads Shared (Pc V)} {s' : Shared} {holders : List Nat} {t : Nat}
  {pc pc' : Pc V} {p : RequestParams V}

theorem Started.start (h : Started c x) (hentry : pc.isEntry = true) (ht : t ∉ x.pool) :
    Started c { x with pool := x.pool.insert t pc } := by
  have hbefore : pc.isBefore = true := by
    cases pc <;> first | rfl | cases hentry
  have hold : ∀ u q, Occupies (x.pool.insert t pc) u q → Occupies x.pool u q := by
    intro u q hu
    rcases occupies_insert.mp hu with ⟨-, hq⟩ | ⟨-, hu⟩
    · rw [request_of_isBefore hbefore] at hq
      cases hq
    · exact hu
  refine ⟨h.recorded, h.session, fun u q hu => h.carried u q (hold u q hu),
    fun u q hu => h.known u q (hold u q hu), fun u id session he => ?_, fun u session he => ?_⟩
  · grind [getElem?_insert_of_ne, h.invoked]
  · obtain ⟨haccepting, hcancelled⟩ := h.closed u session he
    refine ⟨haccepting, fun v q hv => ?_⟩
    by_cases hvt : v = t
    · subst hvt
      cases getElem?_insert_same.symm.trans hv
      cases hbefore
    · exact hcancelled v q ((getElem?_insert_of_ne hvt).symm.trans hv)

variable {es : List Event} {session : String} {u : Nat}

/-- The events after the history are not among those that matter here. -/
theorem mem_of_others {e : Event} (hes : ∀ e ∈ es, e.isOther = true) (he : e.isOther = false)
    {events : List Event} (hmem : e ∈ events ++ es) : e ∈ events := by
  rcases List.mem_append.mp hmem with hmem | hmem
  · exact hmem
  · rw [hes e hmem] at he
    cases he

theorem Started.invoked_move (h : Started c x) (hpc : x.pool[t]? = some pc)
    (hretired : ∀ id ∈ x.shared.retired, id ∈ s'.retired)
    (hinvoked : ∀ p, pc.invoked = some p → pc'.invoked = some p ∨ p.correlationId ∈ s'.retired)
    {id : Nat} (he : .invoked u id session ∈ x.shared.events) :
    id ∈ s'.retired ∨ ∃ pc₁ p, (x.pool.insert t pc')[u]? = some pc₁ ∧ pc₁.invoked = some p ∧
      p.correlationId = id := by
  obtain ⟨-, hdone | ⟨pc₁, q, hpc₁, hq, hid⟩⟩ := h.invoked u id session he
  · exact .inl (hretired id hdone)
  · grind

/-- After a shutdown the requests that have not started stay cancelled. -/
theorem Started.closed_move (h : Started c x) (hpc : x.pool[t]? = some pc)
    (hkeeps : Keeps x.shared s') (hacquiring : ∀ p, pc' = .acquiring p → pc = .acquiring p)
    (he : .shutdown u session ∈ x.shared.events) :
    s'.accepting = false ∧ ∀ (v : Nat) (p : RequestParams V),
      (x.pool.insert t pc')[v]? = some (.acquiring p) → s'.cancelled[v]? = some true := by
  obtain ⟨haccepting, hcancelled⟩ := h.closed u session he
  refine ⟨hkeeps.accepting haccepting, fun v q hv => hkeeps.cancelled v ?_⟩
  by_cases hvt : v = t
  · subst hvt
    cases getElem?_insert_same.symm.trans hv
    exact hcancelled v q (hpc.trans (congrArg some (hacquiring q rfl)))
  · exact hcancelled v q ((getElem?_insert_of_ne hvt).symm.trans hv)

theorem occupies_of_insert (hpc : x.pool[t]? = some pc)
    (hrequest : ∀ p, pc'.request = some p → pc.request = some p) {q : RequestParams V}
    (hu : Occupies (x.pool.insert t pc') u q) : Occupies x.pool u q := by
  rcases occupies_insert.mp hu with ⟨rfl, hq⟩ | ⟨-, hu⟩
  · exact ⟨pc, hpc, hrequest q hq⟩
  · exact hu

theorem Started.keeps (h : Started c x) (hpc : x.pool[t]? = some pc)
    (hevents : s'.events = x.shared.events ++ es) (hes : ∀ e ∈ es, e.isOther = true)
    (hsession : s'.session = x.shared.session)
    (hattempted : s'.handshakeAttempted = x.shared.handshakeAttempted) (hkeeps : Keeps x.shared s')
    (hrequest : ∀ p, pc'.request = some p → pc.request = some p)
    (hinvoked : ∀ p, pc.invoked = some p → pc'.invoked = some p ∨ p.correlationId ∈ s'.retired)
    (hacquiring : ∀ p, pc' = .acquiring p → pc = .acquiring p) :
    Started c ⟨s', x.pool.insert t pc'⟩ := by
  refine ⟨?_, fun session hs => ?_, fun u q hu => ?_, fun u q hu => ?_, fun u id session he => ?_,
    fun u session he => ?_⟩
  · rw [hevents, hattempted]
    exact h.recorded.others hes
  · grind [h.session]
  · exact hsession.trans (h.carried u q (occupies_of_insert hpc hrequest hu))
  · exact hkeeps.known u (h.known u q (occupies_of_insert hpc hrequest hu))
  · rw [hevents] at he
    have hold := mem_of_others hes rfl he
    exact ⟨hsession.trans (h.invoked u id session hold).1,
      h.invoked_move hpc hkeeps.retired hinvoked hold⟩
  · rw [hevents] at he
    exact h.closed_move hpc hkeeps hacquiring (mem_of_others hes rfl he)

theorem Started.enters (h : Started c x) (hpc : x.pool[t]? = some pc) (hbefore : pc.isBefore = true)
    {identity : HandshakeIdentity} (henters : Enters x.shared p identity)
    (hevents : s'.events = x.shared.events ++ es) (hes : ∀ e ∈ es, e.isOther = true)
    (hsession : s'.session = x.shared.session)
    (hattempted : s'.handshakeAttempted = x.shared.handshakeAttempted)
    (hretired : s'.retired = x.shared.retired)
    (hcancelled : s'.cancelled = x.shared.cancelled.insert t false) (hpc' : pc'.request = some p) :
    Started c ⟨s', x.pool.insert t pc'⟩ := by
  have hnone := invoked_of_isBefore hbefore
  refine ⟨?_, fun session hs => ?_, fun u q hu => ?_, fun u q hu => ?_, fun u id session he => ?_,
    fun u session he => ?_⟩
  · rw [hevents, hattempted]
    exact h.recorded.others hes
  · grind [h.session]
  · rw [hsession]
    rcases occupies_insert.mp hu with ⟨-, hq⟩ | ⟨-, hu⟩
    · cases hpc'.symm.trans hq
      exact henters.session
    · exact h.carried u q hu
  · rw [hcancelled, mem_insert_nat]
    rcases occupies_insert.mp hu with ⟨rfl, -⟩ | ⟨-, hu⟩
    · exact .inl rfl
    · exact .inr (h.known u q hu)
  · rw [hevents] at he
    have hold := mem_of_others hes rfl he
    refine ⟨hsession.trans (h.invoked u id session hold).1, h.invoked_move hpc ?_ ?_ hold⟩
    · rw [hretired]
      exact fun _ hid => hid
    · intro q hq
      rw [hnone] at hq
      cases hq
  · rw [hevents] at he
    have hclosed := (h.closed u session (mem_of_others hes rfl he)).1
    rw [henters.accepting] at hclosed
    cases hclosed

/-- `invokeRequest` is called: the id has not been used for it, and there has been no shutdown. -/
theorem Started.starts (h : Started c x) (hseated : Seated x holders)
    (hpc : x.pool[t]? = some (.acquiring p)) (hstarts : Starts x.shared t)
    (hevents : s'.events = x.shared.events ++ .invoked t p.correlationId p.session :: es)
    (hes : ∀ e ∈ es, e.isOther = true) (hsession : s'.session = x.shared.session)
    (hattempted : s'.handshakeAttempted = x.shared.handshakeAttempted) (hkeeps : Keeps x.shared s')
    (hrequest : ∀ q, pc'.request = some q → q = p)
    (hinvoked : pc'.invoked = some p ∨ p.correlationId ∈ s'.retired) :
    Started c ⟨s', x.pool.insert t pc'⟩ := by
  have hoccupies : Occupies x.pool t p := ⟨_, hpc, rfl⟩
  have hactive : x.shared.active[p.correlationId]? = some t :=
    (hseated.table _ _).mpr ⟨p, hoccupies, rfl⟩
  have hnew : p.correlationId ∉ invocations x.shared.events := by
    rw [mem_invocations]
    rintro ⟨u, session, he⟩
    obtain ⟨-, hretired | ⟨pc₁, q, hpc₁, hq, hid⟩⟩ := h.invoked u _ session he
    · exact hseated.disjoint _ (mem_of_getElem? hactive) hretired
    · -- the thread that has started it has its entry of the table, and is not at this place
      have hother : x.shared.active[p.correlationId]? = some u :=
        (hseated.table _ _).mpr ⟨q, ⟨pc₁, hpc₁, (request_of_invoked hq).1⟩, hid⟩
      cases hactive.symm.trans hother
      cases hpc.symm.trans hpc₁
      cases hq
  have hopen : ∀ u session, .shutdown u session ∉ x.shared.events := by
    grind [hstarts.uncancelled, h.closed]
  have hevents' : s'.events =
      (x.shared.events ++ [.invoked t p.correlationId p.session]) ++ es := by
    rw [hevents, List.append_assoc]
    rfl
  have hold : ∀ u q, Occupies (x.pool.insert t pc') u q → Occupies x.pool u q := by
    intro u q hu
    refine occupies_of_insert hpc (fun q' hq' => ?_) hu
    rw [hrequest q' hq']
    rfl
  refine ⟨?_, fun session hs => ?_, fun u q hu => ?_, fun u q hu => ?_, fun u id session he => ?_,
    fun u session he => ?_⟩
  · rw [hevents', hattempted]
    exact (h.recorded.invoke hnew hopen).others hes
  · grind [h.session]
  · exact hsession.trans (h.carried u q (hold u q hu))
  · exact hkeeps.known u (h.known u q (hold u q hu))
  · rw [hevents'] at he
    rcases List.mem_append.mp (mem_of_others hes rfl he) with he | he
    · refine ⟨hsession.trans (h.invoked u id session he).1, h.invoked_move hpc hkeeps.retired ?_ he⟩
      intro q hq
      cases hq
    · cases List.mem_singleton.mp he
      refine ⟨hsession.trans (h.carried t p hoccupies), ?_⟩
      rcases hinvoked with hpc' | hretired
      · exact .inr ⟨pc', p, getElem?_insert_same, hpc', rfl⟩
      · exact .inl hretired
  · rw [hevents'] at he
    rcases List.mem_append.mp (mem_of_others hes rfl he) with he | he
    · exact absurd he (hopen u session)
    · cases List.mem_singleton.mp he

/-- The first attempt of a handshake: there is no session yet, hence no request. -/
theorem Started.attempt (h : Started c x) (hpc : x.pool[t]? = some pc)
    (hnone : x.shared.session = none) (reply : Reply V)
    (hevents : s'.events = x.shared.events ++ es)
    (hes : ∀ e ∈ es, e.isInvoked = false ∧ e.isShutdown = false)
    (hrecorded : Recorded (x.shared.events ++ es) s'.handshakeAttempted)
    (hkeeps : Keeps x.shared s')
    (hsession : ∀ session, s'.session = some session → ∃ u params, .handshaken u params session ∈ es ∧ checkHandshake c c.bootstrapSecret (some params) = .ok params)
    : Started c ⟨s', x.pool.insert t (.finished reply)⟩ := by
  have hfree : ∀ u q, ¬ Occupies (x.pool.insert t (.finished reply)) u q := by
    intro u q hu
    have hold := occupies_of_insert hpc (fun _ hq => by cases hq) hu
    have hcarried := h.carried u q hold
    rw [hnone] at hcarried
    cases hcarried
  refine ⟨hevents ▸ hrecorded, fun session hs => ?_, fun u q hu => absurd hu (hfree u q),
    fun u q hu => absurd hu (hfree u q), fun u id session he => ?_, fun u session he => ?_⟩
  · grind
  · rw [hevents] at he
    rcases List.mem_append.mp he with he | he
    · have hnothing := (h.invoked u id session he).1
      rw [hnone] at hnothing
      cases hnothing
    · cases (hes _ he).1
  · rw [hevents] at he
    rcases List.mem_append.mp he with he | he
    · exact h.closed_move hpc hkeeps (fun _ hq => by cases hq) he
    · cases (hes _ he).2

theorem cancelled_shutDown (h : Started c x) (hseated : Seated x holders)
    (hu : x.pool[u]? = some (.acquiring p)) : x.shared.shutDown.cancelled[u]? = some true := by
  have hoccupies : Occupies x.pool u p := ⟨_, hu, rfl⟩
  have hactive : x.shared.isActive u = true := by
    rw [Shared.isActive, List.any_eq_true]
    refine ⟨(p.correlationId, u), ?_, by simp⟩
    exact ExtTreeMap.mem_toList_iff_getElem?_eq_some.mpr
      ((hseated.table _ _).mpr ⟨p, hoccupies, rfl⟩)
  have hknown := h.known u p hoccupies
  rw [ExtTreeMap.mem_iff_isSome_getElem?, Option.isSome_iff_exists] at hknown
  obtain ⟨flag, hflag⟩ := hknown
  rw [getElem?_shutDown, hflag, Option.map_some, hactive, Bool.or_true]

theorem Started.shuts (h : Started c x) (hseated : Seated x holders) (hpc : x.pool[t]? = some pc)
    (hbefore : pc.isBefore = true) (reply : Reply V)
    (hevents : s'.events = x.shared.events ++ [.shutdown t session])
    (hsession : s'.session = x.shared.session)
    (hattempted : s'.handshakeAttempted = x.shared.handshakeAttempted) (hkeeps : Keeps x.shared s')
    (haccepting : s'.accepting = false) (hcancelled : s'.cancelled = x.shared.shutDown.cancelled) :
    Started c ⟨s', x.pool.insert t (.finished reply)⟩ := by
  have hold : ∀ u q, Occupies (x.pool.insert t (.finished reply)) u q → Occupies x.pool u q :=
    fun u q hu => occupies_of_insert hpc (fun _ hq => by cases hq) hu
  refine ⟨?_, fun session hs => ?_, fun u q hu => ?_, fun u q hu => ?_, fun u id session he => ?_,
    fun u session he => ⟨haccepting, fun v q hv => ?_⟩⟩
  · rw [hevents, hattempted]
    exact h.recorded.shutdown
  · grind [h.session]
  · exact hsession.trans (h.carried u q (hold u q hu))
  · exact hkeeps.known u (h.known u q (hold u q hu))
  · rw [hevents] at he
    rcases List.mem_append.mp he with he | he
    · refine ⟨hsession.trans (h.invoked u id session he).1, h.invoked_move hpc hkeeps.retired ?_ he⟩
      intro q hq
      rw [invoked_of_isBefore hbefore] at hq
      cases hq
    · cases List.mem_singleton.mp he
  · grind [cancelled_shutDown, getElem?_insert_of_ne]

theorem Started.move (h : Started c x) (hseated : Seated x holders)
    (hunattempted : Unattempted c x.shared) (hpc : x.pool[t]? = some pc)
    (hmove : Begins c x.shared t pc s' pc') : Started c ⟨s', x.pool.insert t pc'⟩ := by
  cases hmove with
  | keeps hevents hes hsession hattempted hkeeps hrequest hinvoked hacquiring =>
    exact h.keeps hpc hevents hes hsession hattempted hkeeps hrequest hinvoked hacquiring
  | enters hbefore henters hevents hes hsession hattempted hretired hcancelled hpc' =>
    exact h.enters hpc hbefore henters hevents hes hsession hattempted hretired hcancelled hpc'
  | starts hstarts hevents hes hsession hattempted hkeeps hrequest hinvoked =>
    exact h.starts hseated hpc hstarts hevents hes hsession hattempted hkeeps hrequest hinvoked
  | attempts hfirst hevents hsession hattempted hkeeps reply =>
    have hnone := (hunattempted hfirst).1
    have hrecorded := h.recorded
    rw [hfirst] at hrecorded
    refine h.attempt hpc hnone reply hevents (by simp [Event.isInvoked, Event.isShutdown])
      ?_ hkeeps fun session hs => ?_
    · rw [hattempted]
      exact hrecorded.attempt (t := t) rfl (by simp [Event.isHandshaken]) (by simp [Event.isInvoked]) rfl
    · rw [hsession, hnone] at hs
      cases hs
  | @handshakes _ _ hfirst params hcheck session hevents hsession hattempted hkeeps reply =>
    obtain ⟨hnone, -, hsecret⟩ := hunattempted hfirst
    have hrecorded := h.recorded
    rw [hfirst] at hrecorded
    refine h.attempt hpc hnone reply hevents (by simp [Event.isInvoked, Event.isShutdown])
      ?_ hkeeps fun y hs => ?_
    · rw [hattempted]
      exact hrecorded.attempt (t := t) rfl (Nat.le_refl 1) (by simp [Event.isInvoked]) rfl
    · grind
  | shuts hbefore session hevents hsession hattempted hkeeps haccepting hcancelled reply =>
    exact h.shuts hseated hpc hbefore reply hevents hsession hattempted hkeeps haccepting hcancelled

theorem Started.step {x' : Threads Shared (Pc V)} {a : Act (Pc V) (Input V)} (h : Started c x)
    (hseated : Seated x holders) (hunattempted : Unattempted c x.shared)
    (hstep : (program c).step x a = some x') : Started c x' := by
  rcases step_moves hstep with ⟨t, pc, hentry, hfresh, rfl⟩ | ⟨t, pc, pc', hpc, hmoves, hpool⟩
  · exact h.start hentry hfresh
  · obtain ⟨s', pool'⟩ := x'
    cases hpool
    exact h.move hseated hunattempted hpc hmoves.begins

end

/-- **`invokeRequest` is called at most once for a correlation id, only for a request with the session
of the one handshake that has passed the identity and proof checks, and never after a shutdown has been
handled.** -/
theorem invocations_once_and_before_shutdown (c : Config V) (acts : List (Act (Pc V) (Input V)))
    (x : Threads Shared (Pc V)) (hrun : run (program c).step (init c) acts = some x) :
    (invocations x.shared.events).Nodup ∧
    (∀ t id session, .invoked t id session ∈ x.shared.events →
      ∃ u params, .handshaken u params session ∈ x.shared.events ∧
        checkHandshake c c.bootstrapSecret (some params) = .ok params) ∧
    (x.shared.events.filter Event.isAttempted).length ≤ 1 ∧
    (x.shared.events.filter Event.isHandshaken).length ≤ 1 ∧
    Silent x.shared.events := by
  have hkept : ∀ (x : Threads Shared (Pc V)) (a : Act (Pc V) (Input V)) (x' : Threads Shared (Pc V)),
      ((∃ holders, Seated x holders) ∧ Unattempted c x.shared) ∧ Started c x →
      (program c).step x a = some x' →
      ((∃ holders, Seated x' holders) ∧ Unattempted c x'.shared) ∧ Started c x' := by
    rintro x a x' ⟨⟨⟨holders, hseated⟩, hunattempted⟩, h⟩ hstep
    exact ⟨⟨Seated.step ⟨holders, hseated⟩ hunattempted hstep, hunattempted.step hstep⟩,
      h.step hseated hunattempted hstep⟩
  obtain ⟨-, h⟩ := run_invariant hkept
    ⟨⟨⟨[], seated_init c⟩, fun _ => ⟨rfl, rfl, rfl⟩⟩, started_init c⟩ hrun
  refine ⟨h.recorded.once, fun t id session he => ?_, h.recorded.attempts, h.recorded.handshakes,
    h.recorded.silent⟩
  exact h.session session (h.invoked t id session he).1

/-- A shutdown while the second request waits: it gets its slot and ends without an invocation. -/
theorem invocations_once_and_before_shutdown_sample :
    ∃ x, run (program sampleConfig).step (init sampleConfig)
        (sampleHandshake ++ handled 2 (dataRequest 10) .go ++ handled 3 (dataRequest 11) .go ++
          [.move 2 .go 0] ++ handled 4 (controlRequest (.shutdown (some "s-1"))) .go ++
          [.move 2 (.invoked (.success 6) none) 0, .move 2 .go 0, .move 3 .go 0]) = some x ∧
      invocations x.shared.events = [10] ∧ x.shared.retired = [10, 11] ∧ Silent x.shared.events := by
  refine exists_run (by decide +kernel) ⟨by decide +kernel, by decide +kernel, ?_⟩
  exact (invocations_once_and_before_shutdown sampleConfig _ _ (run_get _)).2.2.2.2

end LensoBun.ProcessV1.Child
