import LensoBun.Adapter.Publish

set_option autoImplicit false

/-! # Room for the events

`prepare_instance` gives the transport as much room for events as there are event queues, and a queue
lets one publish into the transport at a time; so a publish that has its turn should find room, in
`event_pending` and in the event channel, on either wire.

What keeps an event in one of the two takes a place there. A publish takes each place once, and there
are as many places as bindings. So there is room as long as everybody who has a place also has the turn
of its binding, and that is what can fail: a cancel takes the entry out of `event_pending` and leaves
the event in the channel, and on the JSON-RPC wire a cancel that comes when the worker has begun to
finish the call leaves the entry as well. The publish then ends, its turn goes on, and the next one of
the binding finds no room. If a publish ends only when nothing of it is left in the transport, there is
room for every publish that has its turn.
-/

namespace LensoBun.Adapter

open Std Lib Transport

variable {β σ π κ : Type}

/-! ## Places -/

/-- A kind of place that an event call takes in a transport. -/
structure Places (σ π : Type) where
  held : σ → List Nat
  /-- The thread makes an event call and has not taken its place. -/
  before : π → Bool

/-- Event calls take such places, one each, and nobody else. -/
structure Places.Sound (S : Places σ π) (W : Wire σ π κ) : Prop where
  entry : ∀ pc, W.program.entry pc = true → W.opens pc = false → S.before pc = false
  ended : ∀ pc, W.ended pc = true → S.before pc = false
  next : ∀ s t pc k m, W.program.move s t pc k = some m → S.before m.next = true → S.before pc = true
  child : ∀ s t pc k m pc', W.program.move s t pc k = some m → m.child = some pc' →
    S.before pc' = false
  held : ∀ s t pc k m, W.program.move s t pc k = some m → ∀ u ∈ S.held m.shared,
    u ∈ S.held s ∨ (u = t ∧ S.before pc = true ∧ S.before m.next = false)
  nodup : ∀ s t pc k m, W.program.move s t pc k = some m → (S.held s).Nodup →
    (S.before pc = true → t ∉ S.held s) → (S.held m.shared).Nodup

/-- A publish ends only when it has no such place left. -/
def leaves (S : Places σ π) (s : System β σ π) : Act β π κ → Prop
  | .finish n => n ∉ S.held s.wire.shared
  | _ => True

instance (S : Places σ π) (s : System β σ π) : ∀ a : Act β π κ, Decidable (leaves S s a)
  | .finish n => inferInstanceAs (Decidable (n ∉ S.held s.wire.shared))
  | .publish _ _ _ _ _ | .begin _ | .drop _ | .wire _ => isTrue trivial

/-- The publish has its turn and is in the transport. -/
def System.Calling (s : System β σ π) (n : Nat) : Prop :=
  ∃ p, s.publishes[n]? = some p ∧ p.calling = true

/-- Whoever has a place or is on the way to one has its turn. -/
structure System.Seated (S : Places σ π) (s : System β σ π) : Prop where
  callers : ∀ (t : Nat) (pc : π), s.wire.pool[t]? = some pc → S.before pc = true → s.Calling t
  nodup : (S.held s.wire.shared).Nodup
  holders : ∀ t ∈ S.held s.wire.shared,
    s.Calling t ∧ ∃ pc, s.wire.pool[t]? = some pc ∧ S.before pc = false

section

variable {S : Places σ π} {W : Wire σ π κ} {s s' : System β σ π} {a : Act β π κ} {t : Nat} {pc : π}

theorem System.Seated.not_held (h : s.Seated S) (hpc : s.wire.pool[t]? = some pc)
    (hbefore : S.before pc = true) : t ∉ S.held s.wire.shared := by
  intro hheld
  obtain ⟨-, pc', hpc', hafter⟩ := h.holders t hheld
  cases hpc.symm.trans hpc'
  rw [hbefore] at hafter
  cases hafter

theorem Steps.calling [DecidableEq β] (h : Steps W s a s') (ht : s.Calling t) (hne : a ≠ .finish t) :
    s'.Calling t := by
  obtain ⟨p, hp, hcalling⟩ := ht
  obtain ⟨hstarted, hopen⟩ := calling_iff.mp hcalling
  cases h with
  | publish n b _ _ call queue queue' permit hfree =>
    have hnt : n ≠ t := by
      rintro rfl
      rw [hfree] at hp
      cases hp
    exact ⟨p, (getElem?_insert_nat ..).trans ((if_neg hnt).trans hp), hcalling⟩
  | begin n q _ _ hq _ hwaiting =>
    have hnt : n ≠ t := by
      rintro rfl
      cases hp.symm.trans hq
      rw [(waiting_iff.mp hwaiting).1] at hstarted
      cases hstarted
    exact ⟨p, (getElem?_insert_nat ..).trans ((if_neg hnt).trans hp), hcalling⟩
  | drop n q _ hq _ hwaiting =>
    have hnt : n ≠ t := by
      rintro rfl
      cases hp.symm.trans hq
      rw [(waiting_iff.mp hwaiting).1] at hstarted
      cases hstarted
    exact ⟨p, (getElem?_erase_nat ..).trans ((if_neg hnt).trans hp), hcalling⟩
  | finish n =>
    have hnt : n ≠ t := by
      rintro rfl
      exact hne rfl
    exact ⟨p, (getElem?_insert_nat ..).trans ((if_neg hnt).trans hp), hcalling⟩
  | wire => exact ⟨p, hp, hcalling⟩

/-- The places after a step of the wire. The calls that start are those of publishes. -/
theorem System.Seated.wire_step (hS : S.Sound W) (h : s.Seated S) {a' : Lib.Act π κ}
    (hcalling : ∀ t, s.Calling t → s'.Calling t)
    (hopens : W.opensAct a' = false ∨ ∃ n pc, a' = .start n pc ∧ s'.Calling n)
    (hstep : W.program.step s.wire a' = some s'.wire) : s'.Seated S := by
  have hafter : ∀ (u : Nat) (pc : π), s.wire.pool[u]? = some pc → S.before pc = false →
      ∃ pc', s'.wire.pool[u]? = some pc' ∧ S.before pc' = false := by
    intro u pc hpc hfalse
    rcases W.program.thread_of_step hstep hpc with hkept | ⟨k, child, m, rfl, hm, -, hnext⟩
    · exact ⟨pc, hkept, hfalse⟩
    · grind [hS.next]
  refine ⟨fun u pc' hu hbefore => ?_, ?_, fun u hu => ?_⟩
  · rcases W.program.thread_before_step hstep hu with hold | ⟨rfl, hentry⟩ |
      ⟨t, k, child, pc, m, rfl, hpc, hm, hnew⟩
    · exact hcalling u (h.callers u pc' hold hbefore)
    · rcases hopens with hother | ⟨n, pc, heq, hn⟩
      · rw [hS.entry pc' hentry hother] at hbefore
        cases hbefore
      · cases heq
        exact hn
    · rcases hnew with ⟨rfl, rfl⟩ | hchild
      · exact hcalling u (h.callers u pc hpc (hS.next _ _ _ _ _ hm hbefore))
      · rw [hS.child _ _ _ _ _ _ hm hchild] at hbefore
        cases hbefore
  · rcases W.program.step_cases hstep with ⟨t, pc, -, -, -, heq⟩ |
      ⟨t, k, child, pc, m, -, hpc, hm, hshared, -⟩
    · rw [heq]
      exact h.nodup
    · rw [hshared]
      exact hS.nodup _ _ _ _ _ hm h.nodup fun hbefore => h.not_held hpc hbefore
  · have hold : u ∈ S.held s.wire.shared →
        s'.Calling u ∧ ∃ pc, s'.wire.pool[u]? = some pc ∧ S.before pc = false := by
      intro hheld
      obtain ⟨hu, pc, hpc, hfalse⟩ := h.holders u hheld
      exact ⟨hcalling u hu, hafter u pc hpc hfalse⟩
    cases a' with
    | start => grind [Program.step_cases]
    | move =>
      obtain ⟨pc, m, hpc, hm, hshared, hnext, -, -⟩ := W.program.move_pool hstep
      rw [hshared] at hu
      rcases hS.held _ _ _ _ _ hm u hu with hheld | ⟨rfl, hbefore, hfalse⟩
      · exact hold hheld
      · exact ⟨hcalling u (h.callers u pc hpc hbefore), m.next, hnext, hfalse⟩

/-- **The places are kept by every step in which nobody ends and leaves one behind.** -/
theorem System.Seated.step [DecidableEq β] (hS : S.Sound W) (h : s.Seated S) (hleaves : leaves S s a)
    (hstep : Steps W s a s') : s'.Seated S := by
  -- without a step of the wire, only whoever finishes is no longer calling
  have hsame : s'.wire = s.wire → (∀ t, a = .finish t → t ∉ S.held s.wire.shared ∧
      ∀ pc, s.wire.pool[t]? = some pc → S.before pc = false) → s'.Seated S := by
    intro hwire hfinish
    refine ⟨fun t pc hpc hbefore => ?_, hwire ▸ h.nodup, fun t ht => ?_⟩
    · grind [Steps.calling, hstep.calling, h.callers]
    · grind [Steps.calling, h.holders, hstep.calling]
  have hcalling : ∀ t, a ≠ .finish t → s.Calling t → s'.Calling t := fun t hne ht =>
    hstep.calling ht hne
  cases hstep with
  | publish | drop => exact hsame rfl (by rintro _ ⟨⟩)
  | finish n p queue pc _ _ _ hhere hended =>
    refine hsame rfl fun t heq => ?_
    cases heq
    refine ⟨hleaves, fun pc' hpc' => ?_⟩
    cases hhere.symm.trans hpc'
    exact hS.ended pc hended
  | begin n p queue wire hp hbound hwaiting hgrants hstarted =>
    refine h.wire_step hS (fun t => hcalling t (by rintro ⟨⟩)) (.inr ⟨n, _, rfl, ?_⟩) hstarted
    refine ⟨_, (getElem?_insert_nat ..).trans (if_pos rfl), calling_iff.mpr ⟨rfl, ?_⟩⟩
    exact (waiting_iff.mp hwaiting).2
  | wire a' wire hother hmoved => exact h.wire_step hS (fun t => hcalling t (by rintro ⟨⟩)) (.inl hother) hmoved

/-! ## The count -/

variable [DecidableEq β]

/-- The publishes that have their turn are no more than there are bindings. -/
theorem System.InTurn.length_le (h : s.InTurn) {bindings : List (β × Nat)}
    (hbound : ∀ b queue, s.queues b = some queue → b ∈ bindings.map Prod.fst) {ns : List Nat}
    (hnodup : ns.Nodup) (hcalling : ∀ n ∈ ns, s.Calling n) :
    ns.length ≤ eventQueueCapacity bindings := by
  let binding : Nat → Option β := fun n => s.publishes[n]?.map Publish.binding
  have hbinding : ∀ n ∈ ns, ∃ p, s.publishes[n]? = some p ∧ p.calling = true ∧
      binding n = some p.binding := by
    intro n hn
    obtain ⟨p, hp, hcalling⟩ := hcalling n hn
    exact ⟨p, hp, hcalling, congrArg (Option.map Publish.binding) hp⟩
  have hdistinct : (ns.map binding).Nodup := by
    refine List.Nodup.map_on (fun n hn m hm heq => ?_) hnodup
    obtain ⟨p, hp, hcallingN, hb⟩ := hbinding n hn
    obtain ⟨q, hq, hcallingM, hb'⟩ := hbinding m hm
    rw [hb, hb'] at heq
    exact h.eq_of_calling hq hcallingM hp hcallingN (Option.some.inj heq)
  have hsub : ns.map binding ⊆ (bindings.map Prod.fst).dedup.map some := by
    intro b hb
    obtain ⟨n, hn, rfl⟩ := List.mem_map.mp hb
    obtain ⟨p, hp, -, hb⟩ := hbinding n hn
    obtain ⟨queue, hqueue⟩ := h.bound n p hp
    rw [hb]
    exact List.mem_map_of_mem (List.mem_dedup.mpr (hbound p.binding queue hqueue))
  calc ns.length = (ns.map binding).length := (List.length_map binding).symm
    _ ≤ ((bindings.map Prod.fst).dedup.map some).length := (List.subperm_of_subset hdistinct hsub).length_le
    _ = (bindings.map Prod.fst).dedup.length := List.length_map some
    _ ≤ eventQueueCapacity bindings := Nat.le_max_left _ _

theorem System.Seated.room (h : s.Seated S) (hturn : s.InTurn) {bindings : List (β × Nat)}
    (hbound : ∀ b queue, s.queues b = some queue → b ∈ bindings.map Prod.fst)
    (hpc : s.wire.pool[t]? = some pc) (hbefore : S.before pc = true) :
    (S.held s.wire.shared).length < eventQueueCapacity bindings := by
  have hnodup : (t :: S.held s.wire.shared).Nodup :=
    List.nodup_cons.mpr ⟨h.not_held hpc hbefore, h.nodup⟩
  refine hturn.length_le hbound hnodup fun n hn => ?_
  rcases List.mem_cons.mp hn with rfl | hn
  · exact h.callers n pc hpc hbefore
  · exact (h.holders n hn).1

end

/-! ## No refusal for want of room -/

/-- What is known of a wire that refuses an event for want of room only when there is none: `fine` says
where the thread of a publish can stand, and `O` what it takes of the rest. -/
structure Welcomes (W : Wire σ π κ) (entries queue : Places σ π) (capacity : Nat) (O : Outline σ π)
    (fine : σ → π → Prop) : Prop where
  soundEntries : entries.Sound W
  soundQueue : queue.Sound W
  valid : O.Valid W.program Guard.any
  start : ∀ s call, call.kind = .event → fine s (W.publishEvent call)
  /-- A step of the publish itself, with room wherever it is about to take a place. -/
  move : ∀ s t pc k m, O.Shared s → O.At s t pc → fine s pc →
    (entries.before pc = true → (entries.held s).length < capacity) →
    (queue.before pc = true → (queue.held s).length < capacity) →
    W.program.move s t pc k = some m → fine m.shared m.next
  other : ∀ s t pc k m pc', W.program.move s t pc k = some m → fine s pc' → fine m.shared pc'
  refusal : ∀ s pc capability operation, fine s pc →
    W.refusal pc = some (.resourceExhausted capability operation) → W.alive s = false

/-- Tickets are not handed out again too early, and a publish ends only when nothing of it is left in
the transport. -/
def endsEmpty (entries queue : Places σ π) (s : System β σ π) (a : Act β π κ) : Prop :=
  freshTicket s a ∧ leaves entries s a ∧ leaves queue s a

instance [DecidableEq β] (entries queue : Places σ π) (s : System β σ π) (a : Act β π κ) :
    Decidable (endsEmpty entries queue s a) :=
  inferInstanceAs (Decidable (_ ∧ _ ∧ _))

structure System.Roomy (entries queue : Places σ π) (O : Outline σ π) (fine : σ → π → Prop)
    (bindings : List (β × Nat)) (s : System β σ π) : Prop where
  turns : s.InTurn
  bound : ∀ b queue, s.queues b = some queue → b ∈ bindings.map Prod.fst
  entries : s.Seated entries
  queue : s.Seated queue
  outline : O.Holds s.wire
  event : ∀ (n : Nat) (p : Publish β), s.publishes[n]? = some p → p.call.kind = .event
  fine : ∀ (n : Nat) (p : Publish β), s.publishes[n]? = some p → p.permit.started = true →
    ∃ pc, s.wire.pool[n]? = some pc ∧ fine s.wire.shared pc

section

variable [DecidableEq β] {W : Wire σ π κ} {entries queue : Places σ π} {O : Outline σ π}
  {fine : σ → π → Prop} {bindings : List (β × Nat)} {s s' : System β σ π} {a : Act β π κ}

theorem Steps.bound (h : Steps W s a s')
    (hbound : ∀ b queue, s.queues b = some queue → b ∈ bindings.map Prod.fst) :
    ∀ b queue, s'.queues b = some queue → b ∈ bindings.map Prod.fst := by
  have hupdate : ∀ (b₀ : β) (queue₀ new : BunEventQueue), s.queues b₀ = some queue₀ →
      ∀ b queue, Function.update s.queues b₀ (some new) b = some queue → b ∈ bindings.map Prod.fst := by
    grind
  cases h with
  | publish n b _ _ call queue queue' permit _ hb => exact hupdate b queue _ hb
  | drop n p queue _ hb | finish n p queue pc _ hb => exact hupdate p.binding queue _ hb
  | begin | wire => exact hbound

theorem Steps.event (h : Steps W s a s')
    (hevent : ∀ (n : Nat) (p : Publish β), s.publishes[n]? = some p → p.call.kind = .event) :
    ∀ (n : Nat) (p : Publish β), s'.publishes[n]? = some p → p.call.kind = .event := by
  intro m p hp
  cases h with
  | publish n b _ _ call queue queue' permit _ _ _ hcall =>
    rcases new_or_old_of_insert hp with ⟨-, rfl⟩ | ⟨-, hp⟩
    · exact hcall
    · exact hevent m p hp
  | begin n q _ wire hq =>
    rcases new_or_old_of_insert hp with ⟨-, rfl⟩ | ⟨-, hp⟩
    · exact hevent n q hq
    · exact hevent m p hp
  | drop => grind [System.dropped, old_of_erase]
  | finish n q _ _ hq =>
    rcases new_or_old_of_insert hp with ⟨-, rfl⟩ | ⟨-, hp⟩
    · exact hevent n q hq
    · exact hevent m p hp
  | wire => exact hevent m p hp

/-- A publish that has its turn after a step had it before, or gets it in the step. -/
theorem Steps.started (h : Steps W s a s') {n : Nat} {p : Publish β} (hp : s'.publishes[n]? = some p)
    (hstarted : p.permit.started = true) :
    (∃ q, s.publishes[n]? = some q ∧ q.permit.started = true) ∨
      ∃ q, s.publishes[n]? = some q ∧
        W.program.step s.wire (.start n (W.publishEvent q.call)) = some s'.wire := by
  cases h with
  | publish m b _ _ call queue queue' permit _ _ hacquired =>
    rcases new_or_old_of_insert hp with ⟨-, rfl⟩ | ⟨-, hp⟩
    · rw [tryAcquire_permit hacquired] at hstarted
      cases hstarted
    · exact .inl ⟨p, hp, hstarted⟩
  | begin m q _ wire hq _ _ _ hwire =>
    rcases new_or_old_of_insert hp with ⟨rfl, -⟩ | ⟨-, hp⟩
    · exact .inr ⟨q, hq, hwire⟩
    · exact .inl ⟨p, hp, hstarted⟩
  | drop => grind [System.dropped, old_of_erase]
  | finish m q _ _ hq =>
    rcases new_or_old_of_insert hp with ⟨rfl, rfl⟩ | ⟨-, hp⟩
    · exact .inl ⟨q, hq, hstarted⟩
    · exact .inl ⟨p, hp, hstarted⟩
  | wire => exact .inl ⟨p, hp, hstarted⟩

theorem System.Roomy.fine_step (hW : Welcomes W entries queue (eventQueueCapacity bindings) O fine)
    (h : s.Roomy entries queue O fine bindings) {a' : Lib.Act π κ} {c : Threads σ π}
    (hstep : W.program.step s.wire a' = some c) {n : Nat} {pc : π} (hpc : s.wire.pool[n]? = some pc)
    (hfine : fine s.wire.shared pc) : ∃ pc', c.pool[n]? = some pc' ∧ fine c.shared pc' := by
  rcases W.program.thread_of_step hstep hpc with hkept | ⟨k, child, m, rfl, hm, hshared, hnext⟩
  · grind [Program.step_cases, hW.other]
  · refine ⟨m.next, hnext, ?_⟩
    rw [hshared]
    exact hW.move _ n pc k m h.outline.shared (h.outline.at_ n pc hpc) hfine
      (fun hbefore => h.entries.room h.turns h.bound hpc hbefore)
      (fun hbefore => h.queue.room h.turns h.bound hpc hbefore) hm

/-- **Room is kept by every step after which nothing is left behind.** -/
theorem System.Roomy.step (hW : Welcomes W entries queue (eventQueueCapacity bindings) O fine)
    (h : s.Roomy entries queue O fine bindings) (hends : endsEmpty entries queue s a)
    (hstep : Adapter.step W s a = some s') : s'.Roomy entries queue O fine bindings := by
  obtain ⟨hfresh, hentries, hqueue⟩ := hends
  have hsteps := step_steps hstep
  refine ⟨h.turns.step hfresh hsteps, hsteps.bound h.bound, h.entries.step hW.soundEntries hentries hsteps,
    h.queue.step hW.soundQueue hqueue hsteps, ?_, hsteps.event h.event, fun n p hp hstarted => ?_⟩
  · rcases hsteps.wire_step with hsame | ⟨a', ha'⟩
    · rw [hsame]
      exact h.outline
    · exact h.outline.step hW.valid (Guard.any_allows s.wire a') ha'
  · rcases hsteps.started hp hstarted with ⟨q, hq, hstarted⟩ | ⟨q, hq, hstart⟩
    · obtain ⟨pc, hpc, hfine⟩ := h.fine n q hq hstarted
      rcases hsteps.wire_step with hsame | ⟨a', ha'⟩
      · rw [hsame]
        exact ⟨pc, hpc, hfine⟩
      · exact h.fine_step hW ha' hpc hfine
    · rcases W.program.step_cases hstart with ⟨t, pc, hact, -, -, heq⟩ | ⟨_, _, _, _, _, hact, _⟩
      · cases hact
        rw [heq]
        refine ⟨W.publishEvent q.call, (getElem?_insert_nat ..).trans (if_pos rfl), ?_⟩
        exact hW.start _ q.call (h.event n q hq)
      · cases hact

theorem System.Roomy.init (codecs : β → Codec) {wire : Threads σ π}
    (hO : O.Holds wire) (hentries : entries.held wire.shared = []) (hqueue : queue.held wire.shared = [])
    (hbefore : ∀ (t : Nat) (pc : π), wire.pool[t]? = some pc →
      entries.before pc = false ∧ queue.before pc = false) :
    (System.init codecs bindings wire).Roomy entries queue O fine bindings := by
  have hseated : ∀ S : Places σ π, S.held wire.shared = [] →
      (∀ (t : Nat) (pc : π), wire.pool[t]? = some pc → S.before pc = false) →
      (System.init codecs bindings wire).Seated S := by
    intro S hheld hfalse
    refine ⟨fun t pc hpc htrue => ?_, ?_, fun t ht => ?_⟩
    · rw [hfalse t pc hpc] at htrue
      cases htrue
    · exact hheld ▸ List.nodup_nil
    · have hmem : t ∈ S.held wire.shared := ht
      rw [hheld] at hmem
      cases hmem
  refine ⟨.init codecs bindings wire, fun b queue hb => ?_,
    hseated entries hentries fun t pc hpc => (hbefore t pc hpc).1,
    hseated queue hqueue fun t pc hpc => (hbefore t pc hpc).2, hO, nofun, nofun⟩
  obtain ⟨capacity, hmem, -⟩ := eventQueues_some hb
  exact List.mem_map_of_mem hmem

/-- A publish that has its turn has been refused for want of room. -/
def System.Exhausted (W : Wire σ π κ) (s : System β σ π) : Prop :=
  ∃ (n : Nat) (p : Publish β) (pc : π) (capability operation : String), s.publishes[n]? = some p ∧
    p.permit.started = true ∧ s.wire.pool[n]? = some pc ∧
    W.refusal pc = some (.resourceExhausted capability operation)

/-- While the process is alive, nobody is refused for want of room. -/
theorem System.Roomy.not_exhausted (hW : Welcomes W entries queue (eventQueueCapacity bindings) O fine)
    (h : s.Roomy entries queue O fine bindings) (halive : W.alive s.wire.shared = true) :
    ¬ s.Exhausted W := by
  rintro ⟨n, p, pc, capability, operation, hp, hstarted, hpc, hrefusal⟩
  obtain ⟨pc', hpc', hfine⟩ := h.fine n p hp hstarted
  cases hpc.symm.trans hpc'
  rw [hW.refusal _ pc capability operation hfine hrefusal] at halive
  cases halive

end

end LensoBun.Adapter
