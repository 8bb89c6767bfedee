import LensoBun.PluginV1.Server

set_option autoImplicit false

/-! # Create and stop of a V1 plugin

The guards of `lenso.activate` are read before `create` is awaited, and what they test is written
after it; `lenso.shutdown` has no guard against a second one. So `create` may run twice at a time and
`stop` may be called twice. If no activation is handled while a create is running and no shutdown
after the server has stopped accepting, then creates follow one another, none follows an activation
that has answered true, and `stop` is called at most once.
-/

namespace LensoBun.PluginV1.Server

open Std Lib

variable {V : Type}

/-! ## The condition -/

def Pc.isActivate : Pc V → Bool
  | .message ⟨_, _, .activate _⟩ => true
  | _ => false

def Pc.isShutdown : Pc V → Bool
  | .message ⟨_, _, .shutdown _⟩ => true
  | _ => false

def Pc.isCreating : Pc V → Bool
  | .creating _ => true
  | _ => false

/-- Activations are handled one at a time, and shutdowns while the server is accepting. -/
def orderly : Guard Shared (Pc V) (Input V) where
  self s _ pc _ := pc.isShutdown = true → s.accepting = true
  other _ _ pc _ _ pc' := pc.isActivate = true → pc'.isCreating = false

instance (c : Threads Shared (Pc V)) (a : Act (Pc V) (Input V)) :
    Decidable (orderly.Allows c a) := Guard.decidable c a

/-! ## Histories -/

def Event.isActivated : Event → Bool
  | .activated _ => true
  | _ => false

def Event.isStopStarted : Event → Bool
  | .stopStarted _ => true
  | _ => false

/-- The events that are not about create and stop. -/
def Event.isOther : Event → Bool
  | .createStarted _ | .createEnded _ | .activated _ | .stopStarted _ => false
  | _ => true

/-- Whenever a create is started, those started before have ended and no activation has answered
true. -/
def Sequential (events : List Event) : Prop :=
  ∀ before t after, events = before ++ .createStarted t :: after →
    (∀ u, .createStarted u ∈ before → .createEnded u ∈ before) ∧ ∀ u, .activated u ∉ before

theorem Sequential.nil : Sequential [] := by
  intro before t after h
  simp at h

variable {e : Event} {events es extra fs : List Event} {c : Config} {s s' : Shared} {pc pc' : Pc V}
  {t : Nat} {x : Threads Shared (Pc V)}

/-- One more event, which starts a create only after the others. -/
theorem Sequential.append (h : Sequential events)
    (he : ∀ t, e = .createStarted t → (∀ u, .createStarted u ∈ events → .createEnded u ∈ events) ∧ ∀ u, .activated u ∉ events)
    : Sequential (events ++ [e]) := by
  intro before t after heq
  rcases List.eq_nil_or_concat after with rfl | ⟨after, last, rfl⟩
  · obtain ⟨rfl, hlast⟩ := List.append_inj' heq rfl
    exact he t (List.singleton_inj.mp hlast)
  · have heq' : events ++ [e] = (before ++ .createStarted t :: after) ++ [last] := by
      rw [heq]
      simp
    obtain ⟨hevents, -⟩ := List.append_inj' heq' rfl
    exact h before t after hevents

theorem Sequential.append_other (h : Sequential events) (hes : ∀ e ∈ es, ∀ t, e ≠ .createStarted t) :
    Sequential (events ++ es) := by
  induction es generalizing events with
  | nil =>
    rw [List.append_nil]
    exact h
  | cons e es ih =>
    have hone : Sequential (events ++ [e]) :=
      h.append fun t heq => absurd heq (hes e List.mem_cons_self t)
    have hrest := ih hone fun e' he' => hes e' (List.mem_cons_of_mem e he')
    rwa [List.append_assoc, List.singleton_append] at hrest

/-! ## What a step does to the lifecycle -/

/-- The moves as far as they concern create and stop. -/
inductive Lives (s : Shared) (t : Nat) : Pc V → Shared → Pc V → Prop where
  | idle {s' : Shared} {pc pc' : Pc V} {es : List Event} (hevents : s'.events = s.events ++ es)
      (hother : ∀ e ∈ es, e.isOther = true) (hconstructed : s'.constructed = s.constructed)
      (haccepting : s.accepting = false → s'.accepting = false) (hpc : pc.isCreating = false)
      (hpc' : pc'.isCreating = false) : Lives s t pc s' pc'
  | threw {s' : Shared} {pc pc' : Pc V} {es : List Event}
      (hevents : s'.events = s.events ++ es ++ [.createStarted t, .createEnded t])
      (hother : ∀ e ∈ es, e.isOther = true) (hactivate : pc.isActivate = true)
      (hfalse : s.constructed = false) (hconstructed : s'.constructed = s.constructed)
      (haccepting : s'.accepting = s.accepting) (hpc' : pc'.isCreating = false) : Lives s t pc s' pc'
  | creates {s' : Shared} {pc pc' : Pc V} {es : List Event}
      (hevents : s'.events = s.events ++ es ++ [.createStarted t])
      (hother : ∀ e ∈ es, e.isOther = true) (hactivate : pc.isActivate = true)
      (hfalse : s.constructed = false) (hconstructed : s'.constructed = s.constructed)
      (haccepting : s'.accepting = s.accepting) (hpc' : pc'.isCreating = true) : Lives s t pc s' pc'
  | constructs {s' : Shared} {pc pc' : Pc V} {es : List Event}
      (hevents : s'.events = s.events ++ es ++ [.activated t])
      (hother : ∀ e ∈ es, e.isOther = true) (hactivate : pc.isActivate = true)
      (hfalse : s.constructed = false) (hconstructed : s'.constructed = true)
      (haccepting : s'.accepting = s.accepting) (hpc' : pc'.isCreating = false) : Lives s t pc s' pc'
  | created {s' : Shared} {pc pc' : Pc V}
      (hevents : s'.events = s.events ++ [.createEnded t, .activated t])
      (hconstructed : s'.constructed = true) (haccepting : s'.accepting = s.accepting)
      (hpc : pc.isCreating = true) (hpc' : pc'.isCreating = false) : Lives s t pc s' pc'
  | failed {s' : Shared} {pc pc' : Pc V} (hevents : s'.events = s.events ++ [.createEnded t])
      (hconstructed : s.constructed = false → s'.constructed = false)
      (haccepting : s'.accepting = s.accepting) (hpc : pc.isCreating = true)
      (hpc' : pc'.isCreating = false) : Lives s t pc s' pc'
  | stops {s' : Shared} {pc pc' : Pc V} {es : List Event}
      (hevents : s'.events = s.events ++ es ++ [.stopStarted t])
      (hother : ∀ e ∈ es, e.isOther = true) (hshutdown : pc.isShutdown = true)
      (hconstructed : s'.constructed = s.constructed) (haccepting : s'.accepting = false)
      (hpc : pc.isCreating = false) (hpc' : pc'.isCreating = false) : Lives s t pc s' pc'

theorem Activates.isActivate {m : Message V} (h : Activates c s m) :
    (Pc.message m).isActivate = true := by
  obtain ⟨⟨a, ha⟩, -, -⟩ := h
  obtain ⟨_, _, call⟩ := m
  cases ha
  rfl

theorem Shutdown.isShutdown {m : Message V} (h : Shutdown m) :
    (Pc.message m).isShutdown = true := by
  obtain ⟨x, hx⟩ := h
  obtain ⟨_, _, call⟩ := m
  cases hx
  rfl

theorem Moves.lives (h : Moves c s t pc s' pc') : Lives s t pc s' pc' := by
  cases h with
  | answered | refused | stopped | expired =>
    exact .idle (List.append_nil _).symm (by simp) rfl id rfl rfl
  | accepted | passed | cancelled | completed =>
    exact .idle rfl (by simp [Event.isOther]) rfl id rfl rfl
  | createThrew _ ha => exact .threw rfl (by simp [Event.isOther]) ha.isActivate ha.2.2 rfl rfl rfl
  | creating _ ha => exact .creates rfl (by simp [Event.isOther]) ha.isActivate ha.2.2 rfl rfl rfl
  | constructed _ ha =>
    exact .constructs rfl (by simp [Event.isOther]) ha.isActivate ha.2.2 rfl rfl rfl
  | created => exact .created rfl rfl rfl rfl rfl
  | incomplete => exact .failed rfl (fun _ => rfl) rfl rfl rfl
  | createFailed => exact .failed rfl id rfl rfl rfl
  | shutDown => exact .idle rfl (by simp [Event.isOther]) rfl (fun _ => rfl) rfl rfl
  | stopThrew _ hm | stopping _ hm =>
    exact .stops rfl (by simp [Event.isOther]) hm.isShutdown rfl rfl rfl rfl
  | ended | invoking =>
    exact .idle (List.append_assoc _ _ _) (by simp [Event.isOther]) rfl id rfl rfl
  | handlerThrew =>
    exact .idle ((List.append_assoc _ _ _).trans (List.append_assoc _ _ _))
      (by simp [Event.isOther]) rfl id rfl rfl
  | closed => exact .idle (List.append_nil _).symm (by simp) rfl (fun _ => rfl) rfl rfl

/-! ## The invariant -/

/-- What the history has to do with the instance and with accepting. -/
structure History (events : List Event) (constructed accepting : Bool) : Prop where
  activated : ∀ u, .activated u ∈ events → constructed = true
  once : (events.filter Event.isActivated).length ≤ 1
  stopped : events.filter Event.isStopStarted ≠ [] → accepting = false
  stops : (events.filter Event.isStopStarted).length ≤ 1
  sequential : Sequential events

section

variable {events es : List Event} {constructed accepting accepting' : Bool} {t : Nat}

theorem History.nil : History [] constructed accepting :=
  ⟨by simp, by simp, by simp, by simp, Sequential.nil⟩

theorem History.others (h : History events constructed accepting)
    (hes : ∀ e ∈ es, e.isOther = true) (haccepting : accepting = false → accepting' = false) :
    History (events ++ es) constructed accepting' := by
  have hactivated : es.filter Event.isActivated = [] := by
    rw [List.filter_eq_nil_iff]
    intro e he hactivated
    have hother := hes e he
    cases e <;> simp [Event.isActivated, Event.isOther] at hactivated hother
  have hstopped : es.filter Event.isStopStarted = [] := by
    rw [List.filter_eq_nil_iff]
    intro e he hstopped
    have hother := hes e he
    cases e <;> simp [Event.isStopStarted, Event.isOther] at hstopped hother
  refine ⟨fun u hu => ?_, ?_, fun hne => ?_, ?_, ?_⟩
  · rcases List.mem_append.mp hu with hu | hu
    · exact h.activated u hu
    · have hother := hes _ hu
      cases hother
  · grind [h.once]
  · grind [h.stopped]
  · grind [h.stops]
  · refine h.sequential.append_other fun e he t heq => ?_
    have hother := hes e he
    rw [heq] at hother
    cases hother

theorem History.createStarted (h : History events false accepting)
    (hquiet : ∀ u, .createStarted u ∈ events → .createEnded u ∈ events) :
    History (events ++ [.createStarted t]) false accepting := by
  have hnone : ∀ u, .activated u ∉ events := fun u hu => by cases h.activated u hu
  refine ⟨?_, ?_, ?_, ?_, h.sequential.append fun _ _ => ⟨hquiet, hnone⟩⟩
  · simpa using h.activated
  · simpa [Event.isActivated] using h.once
  · simpa [Event.isStopStarted] using h.stopped
  · simpa [Event.isStopStarted] using h.stops

theorem History.createEnded (h : History events constructed accepting) :
    History (events ++ [.createEnded t]) constructed accepting := by
  refine ⟨?_, ?_, ?_, ?_, h.sequential.append fun _ heq => by cases heq⟩
  · simpa using h.activated
  · simpa [Event.isActivated] using h.once
  · simpa [Event.isStopStarted] using h.stopped
  · simpa [Event.isStopStarted] using h.stops

/-- An activation answers true: it is the first, since the instance was missing. -/
theorem History.activates (h : History events false accepting) :
    History (events ++ [.activated t]) true accepting := by
  have hnone : events.filter Event.isActivated = [] := by
    rw [List.filter_eq_nil_iff]
    intro e he hactivated
    cases e <;> simp [Event.isActivated] at hactivated
    cases h.activated _ he
  refine ⟨fun _ _ => rfl, ?_, ?_, ?_, h.sequential.append fun _ heq => by cases heq⟩
  · simp [List.filter_append, hnone, List.filter_cons, Event.isActivated]
  · simpa [Event.isStopStarted] using h.stopped
  · simpa [Event.isStopStarted] using h.stops

/-- `stop` is called: for the first time, since the server was accepting. -/
theorem History.stopStarted (h : History events constructed true) :
    History (events ++ [.stopStarted t]) constructed false := by
  have hnone : events.filter Event.isStopStarted = [] := by
    by_contra hne
    cases h.stopped hne
  refine ⟨?_, ?_, fun _ => rfl, ?_, h.sequential.append fun _ heq => by cases heq⟩
  · simpa using h.activated
  · simpa [Event.isActivated] using h.once
  · simp [List.filter_append, hnone, List.filter_cons, Event.isStopStarted]

end

/-- What holds of create and stop in every state: a create that has not ended is run by a thread,
the only one that does so. -/
structure Lifecycle (x : Threads Shared (Pc V)) : Prop where
  history : History x.shared.events x.shared.constructed x.shared.accepting
  running : ∀ u, .createStarted u ∈ x.shared.events → .createEnded u ∉ x.shared.events →
    ∃ pc, x.pool[u]? = some pc ∧ pc.isCreating = true
  single : ∀ (u v : Nat) (pc pc' : Pc V), x.pool[u]? = some pc → x.pool[v]? = some pc' →
    pc.isCreating = true → pc'.isCreating = true → u = v
  busy : ∀ (u : Nat) (pc : Pc V), x.pool[u]? = some pc → pc.isCreating = true →
    x.shared.constructed = false

theorem lifecycle_init (c : Config) : Lifecycle (init c : Threads Shared (Pc V)) where
  history := History.nil
  running u h := by cases h
  single u v pc pc' h := by simp [init] at h
  busy u pc h := by simp [init] at h

theorem Lifecycle.start (h : Lifecycle x) (hpc : pc.isCreating = false) (ht : t ∉ x.pool) :
    Lifecycle { x with pool := x.pool.insert t pc } := by
  have hold : ∀ (u : Nat) (pc' : Pc V), (x.pool.insert t pc)[u]? = some pc' →
      pc'.isCreating = true → x.pool[u]? = some pc' := by grind
  refine ⟨h.history, fun u hs he => ?_, fun u v pc₁ pc₂ hu hv hc hc' => ?_, fun u pc' hu hc => ?_⟩
  · obtain ⟨pc', hu, hcreating⟩ := h.running u hs he
    refine ⟨pc', ?_, hcreating⟩
    have hne : t ≠ u := by grind
    simp only [getElem?_insert_nat, if_neg hne]
    exact hu
  · exact h.single u v pc₁ pc₂ (hold u pc₁ hu hc) (hold v pc₂ hv hc') hc hc'
  · exact h.busy u pc' (hold u pc' hu hc) hc

/-- A move after which the thread is not creating: it ends what it starts, and its own create. -/
theorem Lifecycle.leave (h : Lifecycle x) (hpc : x.pool[t]? = some pc)
    (hpc' : pc'.isCreating = false) (hevents : s'.events = x.shared.events ++ extra)
    (hhistory : History (x.shared.events ++ extra) s'.constructed s'.accepting)
    (hextra : ∀ u, .createStarted u ∈ extra → .createEnded u ∈ extra)
    (hown : pc.isCreating = true → .createEnded t ∈ extra)
    (hbusy : ∀ (u : Nat) (pc₁ : Pc V), u ≠ t → x.pool[u]? = some pc₁ → pc₁.isCreating = true → s'.constructed = false)
    : Lifecycle ⟨s', x.pool.insert t pc'⟩ := by
  have hold : ∀ (u : Nat) (pc₁ : Pc V), (x.pool.insert t pc')[u]? = some pc₁ →
      pc₁.isCreating = true → u ≠ t ∧ x.pool[u]? = some pc₁ := by grind
  refine ⟨hevents ▸ hhistory, fun u hs he => ?_, fun u v pc₁ pc₂ hu hv hc hc' => ?_,
    fun u pc₁ hu hc => ?_⟩
  · simp only [hevents, List.mem_append, not_or] at hs he
    rcases hs with hs | hs
    · obtain ⟨pc₁, hu, hcreating⟩ := h.running u hs he.1
      have hne : t ≠ u := by grind
      exact ⟨pc₁, by simp only [getElem?_insert_nat, if_neg hne]; exact hu, hcreating⟩
    · exact absurd (hextra u hs) he.2
  · exact h.single u v pc₁ pc₂ (hold u pc₁ hu hc).2 (hold v pc₂ hv hc').2 hc hc'
  · exact hbusy u pc₁ (hold u pc₁ hu hc).1 (hold u pc₁ hu hc).2 hc

theorem Lifecycle.create (h : Lifecycle x) (hpc' : pc'.isCreating = true)
    (hevents : s'.events = x.shared.events ++ extra)
    (hhistory : History (x.shared.events ++ extra) s'.constructed s'.accepting)
    (hextra : ∀ u, .createStarted u ∈ extra → u = t) (hfalse : s'.constructed = false)
    (hothers : ∀ (u : Nat) (pc₁ : Pc V), u ≠ t → x.pool[u]? = some pc₁ → pc₁.isCreating = false) :
    Lifecycle ⟨s', x.pool.insert t pc'⟩ := by
  have hown : ∀ (u : Nat) (pc₁ : Pc V), (x.pool.insert t pc')[u]? = some pc₁ →
      pc₁.isCreating = true → u = t := by grind
  refine ⟨hevents ▸ hhistory, fun u hs he => ?_, fun u v pc₁ pc₂ hu hv hc hc' => ?_,
    fun _ _ _ _ => hfalse⟩
  · simp only [hevents, List.mem_append, not_or] at hs he
    have hut : u = t := by
      rcases hs with hs | hs
      · obtain ⟨pc₁, hu, hcreating⟩ := h.running u hs he.1
        by_contra hne
        rw [hothers u pc₁ hne hu] at hcreating
        cases hcreating
      · exact hextra u hs
    subst hut
    exact ⟨pc', by simp only [getElem?_insert_nat, if_pos], hpc'⟩
  · exact (hown u pc₁ hu hc).trans (hown v pc₂ hv hc').symm

theorem not_isCreating_of_isActivate (h : pc.isActivate = true) : pc.isCreating = false := by
  cases pc with
  | creating => cases h
  | _ => rfl

theorem Lifecycle.quiet (h : Lifecycle x) (hpc : x.pool[t]? = some pc)
    (hactivate : pc.isActivate = true)
    (hothers : ∀ (u : Nat) (pc₁ : Pc V), u ≠ t → x.pool[u]? = some pc₁ → pc₁.isCreating = false)
    (u : Nat) (hs : .createStarted u ∈ x.shared.events) : .createEnded u ∈ x.shared.events := by
  by_contra he
  obtain ⟨pc₁, hu, hcreating⟩ := h.running u hs he
  by_cases hut : u = t
  · grind [not_isCreating_of_isActivate]
  · grind

theorem not_mem_of_isOther (hes : ∀ e ∈ es, e.isOther = true) (he : e.isOther = false) :
    e ∉ es := by
  intro h
  rw [hes e h] at he
  cases he

theorem mem_others_append (hes : ∀ e ∈ es, e.isOther = true) (he : e.isOther = false) :
    e ∈ es ++ fs ↔ e ∈ fs := by
  rw [List.mem_append, or_iff_right (not_mem_of_isOther hes he)]

theorem mem_append_others (hes : ∀ e ∈ es, e.isOther = true) (he : e.isOther = false) :
    e ∈ fs ++ es ↔ e ∈ fs := by
  rw [List.mem_append, or_iff_left (not_mem_of_isOther hes he)]

theorem Lifecycle.move (h : Lifecycle x) (hpc : x.pool[t]? = some pc)
    (hmove : Lives x.shared t pc s' pc')
    (hshutdown : pc.isShutdown = true → x.shared.accepting = true)
    (hothers : pc.isActivate = true → ∀ (u : Nat) (pc₁ : Pc V), u ≠ t → x.pool[u]? = some pc₁ → pc₁.isCreating = false)
    : Lifecycle ⟨s', x.pool.insert t pc'⟩ := by
  have hhist := h.history
  cases hmove with
  | idle hevents hes hconstructed haccepting hnot hpc' =>
    refine h.leave hpc hpc' hevents ?_ ?_ ?_ ?_
    · rw [hconstructed]
      exact hhist.others hes haccepting
    · exact fun u hu => absurd hu (not_mem_of_isOther hes rfl)
    · exact fun hcreating => by rw [hnot] at hcreating; cases hcreating
    · grind [h.busy]
  | @threw _ _ _ es hevents hes hactivate hfalse hconstructed haccepting hpc' =>
    have hquiet := h.quiet hpc hactivate (hothers hactivate)
    rw [hfalse] at hhist hconstructed
    have hbegun : History (x.shared.events ++ es ++ [.createStarted t]) false x.shared.accepting := by
      refine (hhist.others hes id).createStarted fun u hu => ?_
      rw [mem_append_others hes rfl] at hu ⊢
      exact hquiet u hu
    rw [List.append_assoc] at hevents
    refine h.leave hpc hpc' hevents ?_ ?_ ?_ fun _ _ _ _ _ => hconstructed
    · rw [hconstructed, haccepting]
      simpa only [List.append_assoc, List.singleton_append] using hbegun.createEnded (t := t)
    · intro u hu
      rw [mem_others_append hes rfl] at hu ⊢
      simp at hu
      simp [hu]
    · grind
  | creates hevents hes hactivate hfalse hconstructed haccepting hpc' =>
    have hquiet := h.quiet hpc hactivate (hothers hactivate)
    rw [hfalse] at hhist hconstructed
    rw [List.append_assoc] at hevents
    refine h.create hpc' hevents ?_ ?_ hconstructed (hothers hactivate)
    · rw [hconstructed, haccepting, ← List.append_assoc]
      refine (hhist.others hes id).createStarted fun u hu => ?_
      rw [mem_append_others hes rfl] at hu ⊢
      exact hquiet u hu
    · intro u hu
      rw [mem_others_append hes rfl] at hu
      simpa using hu
  | constructs hevents hes hactivate hfalse hconstructed haccepting hpc' =>
    rw [hfalse] at hhist
    rw [List.append_assoc] at hevents
    refine h.leave hpc hpc' hevents ?_ ?_ ?_ ?_
    · grind [History.activates, hhist.others]
    · intro u hu
      rw [mem_others_append hes rfl] at hu
      simp at hu
    · grind [not_isCreating_of_isActivate]
    · grind
  | created hevents hconstructed haccepting hcreating hpc' =>
    rw [h.busy t pc hpc hcreating] at hhist
    refine h.leave hpc hpc' hevents ?_ (by simp) (by simp) ?_
    · rw [hconstructed, haccepting]
      have hdone := (hhist.createEnded (t := t)).activates (t := t)
      simpa only [List.append_assoc, List.singleton_append] using hdone
    · intro u pc₁ hne hu hcreating'
      exact absurd (h.single u t pc₁ pc hu hpc hcreating' hcreating) hne
  | failed hevents hconstructed haccepting hcreating hpc' =>
    grind [History.createEnded, h.busy, h.leave, hhist.createEnded]
  | stops hevents hes hstop hconstructed haccepting hnot hpc' =>
    rw [hshutdown hstop] at hhist
    rw [List.append_assoc] at hevents
    refine h.leave hpc hpc' hevents ?_ ?_ ?_ ?_
    · grind [History.stopStarted, hhist.others]
    · intro u hu
      rw [mem_others_append hes rfl] at hu
      simp at hu
    · exact fun hcreating => by rw [hnot] at hcreating; cases hcreating
    · grind [h.busy]

theorem not_isCreating_of_isEntry (h : pc.isEntry = true) : pc.isCreating = false := by
  cases pc with
  | creating => cases h
  | _ => rfl

theorem Lifecycle.step {x' : Threads Shared (Pc V)} {a : Act (Pc V) (Input V)} (h : Lifecycle x)
    (ha : orderly.Allows x a) (hstep : (program c).step x a = some x') : Lifecycle x' := by
  rcases (program c).step_cases hstep with ⟨t, pc, rfl, hentry, hfresh, rfl⟩ |
    ⟨t, k, child, pc, m, rfl, hpc, hm, hshared, hpool⟩
  · exact h.start (not_isCreating_of_isEntry hentry) hfresh
  · obtain ⟨hmoves, hchild⟩ := program_moves hm
    obtain ⟨hself, hother⟩ := ha pc hpc
    rcases hpool with ⟨-, hpool⟩ | ⟨pc', hsome, -, -⟩
    · obtain ⟨s', pool'⟩ := x'
      cases hshared
      cases hpool
      exact h.move hpc hmoves.lives hself fun hactivate u pc₁ hne hu => hother u pc₁ hne hu hactivate
    · rw [hchild] at hsome
      cases hsome

/-- **If activations do not overlap and the server is shut down once, then `create` is never started
while another one runs or after an activation has answered true, at most one activation answers true,
and `stop` is called at most once.** -/
theorem create_and_stop_once (c : Config) (acts : List (Act (Pc V) (Input V)))
    (x : Threads Shared (Pc V))
    (horderly : Meets (program c).step orderly.Allows (init c) acts)
    (hrun : run (program c).step (init c) acts = some x) :
    Sequential x.shared.events ∧ (x.shared.events.filter Event.isActivated).length ≤ 1 ∧
      (x.shared.events.filter Event.isStopStarted).length ≤ 1 := by
  have h : Lifecycle x := run_invariant_of_meets (fun _ _ _ hx ha hstep => hx.step ha hstep)
    (lifecycle_init c) horderly hrun
  exact ⟨h.history.sequential, h.history.once, h.history.stops⟩

/-! ## Sample runs -/

/-- A managed plugin without endpoints and dependencies, with `create` and `stop`. -/
def sampleConfig : Config where
  maxFrameBytes := 100
  maxConcurrentRequests := 2
  maxRetiredRequestIds := 2
  managedLifecycle := true
  hasCreate := true
  hasStop := true
  dependencies := ⟨[], by decide⟩
  pluginEndpoints := []
  expectedEndpoints := []
  retired_pos := by decide

def sampleHandshake (peer version : Nat) : Message Nat :=
  ⟨peer, none, .handshake (some ⟨version, "lenso-json-value-v1", 100, some []⟩)⟩

def sampleActivate (peer : Nat) (session : String) : Message Nat :=
  ⟨peer, none, .activate (some ⟨some session,
    ⟨some "http://127.0.0.1:4100", some "0123456789abcdef", some []⟩⟩)⟩

def sampleShutdown (peer : Nat) (session : String) : Message Nat :=
  ⟨peer, none, .shutdown (some session)⟩

/-- A message arrives and is handled up to its first await. -/
def handled (t : Nat) (m : Message Nat) (k : Input Nat) : List (Act (Pc Nat) (Input Nat)) :=
  [.start t (.message m), .move t k 0]

/-- A create that fails is followed by one that does not. -/
theorem create_and_stop_once_sample :
    ∃ x, run (program sampleConfig).step (init sampleConfig)
        (handled 1 (sampleHandshake 1 1) (.uuid "u") ++ handled 2 (sampleActivate 1 "u") .go ++
          [.move 2 (.throws "not yet") 0] ++ handled 3 (sampleActivate 1 "u") .go ++
          [.move 3 (.created true) 0] ++ handled 4 (sampleShutdown 1 "u") .go) = some x ∧
      (x.shared.events.filter Event.isStopStarted).length ≤ 1 := by
  refine exists_run (by decide +kernel) ?_
  exact (create_and_stop_once sampleConfig _ _ (by decide +kernel) (run_get _)).2.2

/-- Two activations are handled before the first create ends, and both answer true; two shutdowns are
handled before the first stop ends. -/
theorem create_and_stop_run_twice :
    ∃ acts x, run (program sampleConfig).step (init sampleConfig : Threads Shared (Pc Nat)) acts =
        some x ∧
      ¬ Sequential x.shared.events ∧ (x.shared.events.filter Event.isActivated).length = 2 ∧
      (x.shared.events.filter Event.isStopStarted).length = 2 := by
  let acts := handled 1 (sampleHandshake 1 1) (.uuid "u") ++ handled 2 (sampleActivate 1 "u") .go ++
    handled 3 (sampleActivate 1 "u") .go ++ [.move 2 (.created true) 0, .move 3 (.created true) 0] ++
    handled 4 (sampleShutdown 1 "u") .go ++ handled 5 (sampleShutdown 1 "u") .go
  let x := (run (program sampleConfig).step (init sampleConfig) acts).get (by decide +kernel)
  refine ⟨acts, x, run_get _, fun hsequential => ?_, by decide +kernel, by decide +kernel⟩
  have hevents : x.shared.events = [.accepted 1 1 "u", .honoured 2 1 "u", .createStarted 2,
      .honoured 3 1 "u"] ++ .createStarted 3 :: x.shared.events.drop 5 := by decide +kernel
  have hended := (hsequential _ _ _ hevents).1 2 (by decide)
  revert hended
  decide

end LensoBun.PluginV1.Server
