import LensoBun.AuthoringV2.ChildContexts
import LensoBun.Lib.History

set_option autoImplicit false

/-! # Handlers and settlements of the child

An invoke or a stream open is admitted under a correlation id that is neither active nor retired. It
is active while its handler runs and retired from then on, so an id is used once. `WellKept` says so.

The settlement of a call is sent when its proof has been made, which is one await after the tables
have been changed. A call that has been refused at a limit has changed no table, and until its
settlement is out the same id can be admitted: then the settlement of the refused call comes after
the start of the handler, and the host sees two for one id. `Settling` is what holds when no call is
admitted in that window.
-/

namespace LensoBun.AuthoringV2.Child

open Std Lib

variable {V : Type}

/-! ## The tables -/

def Event.starts (correlationId : Nat) : Event → Bool
  | .started _ id => id = correlationId
  | _ => false

def Event.settles (correlationId : Nat) : Event → Bool
  | .settled _ settlement _ => settlement.1 = correlationId
  | _ => false

/-- Active and retired ids are apart, the limit is kept, and a handler is started once for an id. -/
structure WellKept (s : Shared) : Prop where
  size : s.active.size ≤ s.limits.maxActiveInvocations
  disjoint : ∀ id : Nat, s.active[id]?.isSome = true → s.retired[id]? = none
  known : ∀ id : Nat, s.events.any (·.starts id) = true → s.used id = true
  once : ∀ id : Nat, s.events.countP (·.starts id) ≤ 1

section Tables

variable {s s' : Shared} {t : Nat} {p : Params} {work : Work}

theorem Shared.not_used_iff {id : Nat} :
    s.used id = false ↔ s.active[id]? = none ∧ s.retired[id]? = none := by
  unfold Shared.used
  rw [Bool.or_eq_false_iff, Option.isSome_eq_false_iff, Option.isSome_eq_false_iff,
    Option.isNone_iff_eq_none, Option.isNone_iff_eq_none]

theorem threw_of_used (work : Work) (hused : s.used p.correlationId = true) :
    ∃ error, s.admission p work = .threw error := by
  cases work with
  | invoke =>
    simp only [Shared.admission, Shared.admitInvoke, if_pos hused]
    split <;> exact ⟨_, rfl⟩
  | openStream =>
    simp only [Shared.admission, Shared.admitOpen, if_pos hused]
    split <;> exact ⟨_, rfl⟩

theorem not_used_of_admitted (h : s.admission p work = .admitted) :
    s.used p.correlationId = false := by
  cases hused : s.used p.correlationId with
  | false => rfl
  | true =>
    obtain ⟨error, hthrew⟩ := threw_of_used work hused
    rw [h] at hthrew
    cases hthrew

theorem room_of_admitted (h : s.admission p work = .admitted) :
    s.active.size < s.limits.maxActiveInvocations := by
  by_contra hfull
  have hfull := Nat.le_of_not_lt hfull
  cases work with
  | invoke =>
    simp only [Shared.admission, Shared.admitInvoke, if_pos hfull] at h
    split at h
    · cases h
    · split at h
      · cases h
      · split at h <;> cases h
  | openStream =>
    simp only [Shared.admission, Shared.admitOpen, hfull, true_or, or_true, if_true] at h
    split at h
    · cases h
    · split at h <;> cases h

theorem WellKept.congr (hs : WellKept s) (hlimits : s'.limits = s.limits)
    (hactive : s'.active = s.active) (hretired : s'.retired = s.retired)
    (hevents : s'.events = s.events) : WellKept s' := by
  obtain ⟨hsize, hdisjoint, hknown, honce⟩ := hs
  refine ⟨?_, ?_, ?_, ?_⟩
  · rwa [hlimits, hactive]
  · rwa [hactive, hretired]
  · grind [Shared.used]
  · rwa [hevents]

theorem WellKept.event (hs : WellKept s) {e : Event} (he : ∀ id, e.starts id = false) :
    WellKept { s with events := s.events ++ [e] } where
  size := hs.size
  disjoint := hs.disjoint
  known id h := by
    rw [List.any_append, Bool.or_eq_true] at h
    rcases h with h | h
    · exact hs.known id h
    · simp [he id] at h
  once id := by
    rw [List.countP_append]
    simpa [he id] using hs.once id

theorem WellKept.activate (hs : WellKept s) (hunused : s.used p.correlationId = false)
    (hroom : s.active.size < s.limits.maxActiveInvocations) : WellKept (s.activate t p) where
  size := by
    show (s.active.insert p.correlationId _).size ≤ _
    rw [size_insert_of_none (Shared.not_used_iff.mp hunused).1]
    exact hroom
  disjoint id h := by
    change (s.active.insert p.correlationId _)[id]?.isSome = true at h
    rw [getElem?_insert_nat] at h
    split at h
    · next heq => exact heq ▸ (Shared.not_used_iff.mp hunused).2
    · exact hs.disjoint id h
  known id h := by
    have hused := hs.known id h
    unfold Shared.used at hused ⊢
    change ((s.active.insert p.correlationId _)[id]?.isSome || s.retired[id]?.isSome) = true
    rw [getElem?_insert_nat]
    split
    · rfl
    · exact hused
  once := hs.once

theorem WellKept.handlerStarts (hs : WellKept s) (hused : s.used p.correlationId = true)
    (hfresh : s.events.any (·.starts p.correlationId) = false) :
    WellKept (s.handlerStarts t p) where
  size := hs.size
  disjoint := hs.disjoint
  known id h := by
    change (s.events ++ [Event.started t p.correlationId]).any (·.starts id) = true at h
    rw [List.any_append, Bool.or_eq_true] at h
    rcases h with h | h
    · exact hs.known id h
    · obtain rfl : p.correlationId = id := by simpa [Event.starts] using h
      exact hused
  once id := by
    show (s.events ++ [Event.started t p.correlationId]).countP (·.starts id) ≤ 1
    rw [List.countP_append, List.countP_singleton]
    by_cases heq : p.correlationId = id
    · subst heq
      have hzero : s.events.countP (·.starts p.correlationId) = 0 := by grind
      rw [hzero]
      split <;> omega
    · have hne : (Event.started t p.correlationId).starts id = false := by
        simpa [Event.starts] using heq
      rw [hne]
      simpa using hs.once id

theorem WellKept.handlerEnds (hs : WellKept s) : WellKept (s.handlerEnds t work p) where
  size := Nat.le_trans ExtTreeMap.size_erase_le hs.size
  disjoint id h := by
    change (s.active.erase p.correlationId)[id]?.isSome = true at h
    show (s.retired.insert p.correlationId ())[id]? = none
    rw [getElem?_erase_nat] at h
    split at h
    · cases h
    · next hne =>
        rw [getElem?_insert_nat, if_neg hne]
        exact hs.disjoint id h
  known id h := by
    have hused := hs.known id h
    unfold Shared.used at hused ⊢
    show ((s.active.erase p.correlationId)[id]?.isSome ||
      (s.retired.insert p.correlationId ())[id]?.isSome) = true
    rw [getElem?_erase_nat, getElem?_insert_nat]
    split
    · rfl
    · exact hused
  once := hs.once

theorem WellKept.fresh (hs : WellKept s) {id : Nat} (hunused : s.used id = false) :
    s.events.any (·.starts id) = false := by
  by_contra h
  have hused := hs.known id (Bool.eq_true_of_not_eq_false h)
  rw [hunused] at hused
  cases hused

theorem WellKept.starts (hs : WellKept s) (hadmitted : s.admission p work = .admitted) :
    WellKept ((s.activate t p).handlerStarts t p) := by
  have hunused := not_used_of_admitted hadmitted
  refine (hs.activate hunused (room_of_admitted hadmitted)).handlerStarts ?_ (hs.fresh hunused)
  show ((s.active.insert p.correlationId _)[p.correlationId]?.isSome || _) = true
  rw [getElem?_insert_nat, if_pos rfl]
  rfl

end Tables

section Steps

variable {s s' : Shared} {t u : Nat} {pc pc' pcU : Pc V} {k : Input V}

theorem WellKept.move (hs : WellKept s) (h : Moves s t pc k s' pc') : WellKept s' := by
  cases h with
  | quiet k same | leave k same | enter k requestId same | stopPartly scopeId k cancelled same
  | stop scopeId k same | stopHook scopeId k same | stopHookThrows scopeId k same =>
    exact hs.congr same.limits same.active same.retired same.events
  | unhandled work p k error hadmitted =>
    exact (hs.activate (not_used_of_admitted hadmitted) (room_of_admitted hadmitted)).handlerEnds
  | handlerThrows work p error hadmitted => exact (hs.starts hadmitted).handlerEnds
  | handlerStarts work p hadmitted => exact hs.starts hadmitted
  | handlerEnds => exact hs.handlerEnds
  | streamOpens p =>
    have hends : WellKept (s.handlerEnds t .openStream p) := hs.handlerEnds
    exact hends.congr rfl rfl rfl rfl
  | settle | answer | hand => exact hs.event fun _ => rfl
  | _ => exact hs.congr rfl rfl rfl rfl

theorem Moves.limits (h : Moves s t pc k s' pc') : s'.limits = s.limits := by
  cases h with
  | quiet k same | leave k same => exact same.limits
  | enter k requestId same => exact same.limits
  | stopPartly scopeId k cancelled same => exact same.limits
  | stop scopeId k same | stopHook scopeId k same | stopHookThrows scopeId k same =>
    exact same.limits
  | _ => rfl

def Running (s : Shared) (t : Nat) (pc : Pc V) : Prop :=
  ∀ work p, pc = .running work p → s.active[p.correlationId]? = some ⟨t, p.scopeId⟩

theorem Moves.running (h : Moves s t pc k s' pc') : Running s' t pc' := by
  rintro work p rfl
  cases h with
  | quiet k same here next | leave k same here next => cases next
  | enter k requestId same here next => cases next
  | handlerStarts =>
    show (s.active.insert p.correlationId _)[p.correlationId]? = _
    rw [getElem?_insert_nat, if_pos rfl]
  | hand streamId k there next => rcases next with next | ⟨error, next⟩ <;> cases next
  | stopPartly scopeId k cancelled same next => cases next
  | stop scopeId k same next | stopHookThrows scopeId k same next => cases next

theorem Moves.active_of_other (hat : Running s t pc) (h : Moves s t pc k s' pc') {id : Nat}
    {active : Active} (hactive : s.active[id]? = some active) (hne : active.thread ≠ t) :
    s'.active[id]? = some active := by
  -- an admitted call comes under a new id
  have hnew : ∀ {work p}, s.admission p work = .admitted → p.correlationId ≠ id := by
    rintro work p hadmitted rfl
    rw [(Shared.not_used_iff.mp (not_used_of_admitted hadmitted)).1] at hactive
    cases hactive
  have hinsert : ∀ {p : Params} {a : Active}, p.correlationId ≠ id →
      (s.active.insert p.correlationId a)[id]? = some active := by grind
  have hends : ∀ {work p}, pc = .running work p →
      (s.active.erase p.correlationId)[id]? = some active := by
    intro work p hpc
    rw [getElem?_erase_nat, if_neg]
    · exact hactive
    · rintro rfl
      rw [hat work p hpc] at hactive
      cases hactive
      exact hne rfl
  cases h with
  | quiet k same | leave k same | enter k requestId same | stopPartly scopeId k cancelled same
  | stop scopeId k same | stopHook scopeId k same | stopHookThrows scopeId k same =>
    rw [same.active]
    exact hactive
  | unhandled work p k error hadmitted | handlerThrows work p error hadmitted =>
    show ((s.active.insert p.correlationId _).erase p.correlationId)[id]? = _
    rw [getElem?_erase_nat, if_neg (hnew hadmitted)]
    exact hinsert (hnew hadmitted)
  | handlerStarts work p hadmitted => exact hinsert (hnew hadmitted)
  | handlerEnds => exact hends rfl
  | streamOpens => exact hends rfl
  | _ => exact hactive

theorem Running.other (hat : Running s t pc) (hatU : Running s u pcU) (htu : t ≠ u)
    (h : Moves s t pc k s' pc') : Running s' u pcU := by
  intro work p hpc
  exact h.active_of_other hat (hatU work p hpc) (Ne.symm htu)

end Steps

theorem tables_valid (limits : Limits) :
    (Outline.plain (fun s => s.limits = limits ∧ WellKept s) Running).Valid (program (V := V))
      Guard.any := by
  refine Outline.plain_valid ?_ ?_ ?_ ?_
  · intro s t pc k m hm
    exact (moved_of_map hm).2
  · rintro s t pc - hentry - work p rfl
    cases hentry
  · rintro s t pc k m ⟨hlimits, hs⟩ - - hm
    have hmoves := move_moves hm
    exact ⟨⟨hmoves.limits.trans hlimits, hs.move hmoves⟩, hmoves.running⟩
  · intro s t pc k m u pcU _ hat hatU htu _ _ hm
    exact hat.other hatU htu (move_moves hm)

theorem WellKept.init (limits : Limits) (declared : ExtTreeMap Nat Binding) :
    WellKept (init (V := V) limits declared).shared := by
  refine ⟨Nat.zero_le _, ?_, ?_, ?_⟩
  · intro id h
    cases h
  · intro id h
    cases h
  · intro id
    exact Nat.zero_le _

theorem tables_init (limits : Limits) (declared : ExtTreeMap Nat Binding) :
    (Outline.plain (fun s => s.limits = limits ∧ WellKept s) Running).Holds
      (init (V := V) limits declared) := by
  refine Outline.plain_holds ⟨rfl, WellKept.init (V := V) limits declared⟩ fun t pc hpc => ?_
  cases hpc

/-! ## What follows the start of a handler -/

/-- The thread's handler has been started, if at all, and `count` settlements have followed; the
thread has not answered. -/
def Followed (events : List Event) (t id count : Nat) : Prop :=
  ∀ pre post, events = pre ++ .started t id :: post →
    post.countP (·.settles id) = count ∧ .answered t id ∉ post

/-- At most one settlement follows the start of a handler, and it comes before the answer. -/
def SettledOnce (events : List Event) : Prop :=
  ∀ pre post t id, events = pre ++ .started t id :: post →
    post.countP (·.settles id) ≤ 1 ∧
    ∀ mid rest, post = mid ++ .answered t id :: rest → mid.countP (·.settles id) = 1

section Log

variable {events : List Event} {e : Event} {t id count : Nat}

theorem Followed.of_not_started (h : .started t id ∉ events) : Followed events t id count := by
  intro pre post hsplit
  exact absurd (mem_of_split hsplit) h

theorem Followed.started (h : .started t id ∉ events) :
    Followed (events ++ [.started t id]) t id 0 := by
  intro pre post hsplit
  rcases split_append hsplit with ⟨-, -, rfl⟩ | ⟨post', -, hold⟩
  · exact ⟨rfl, List.not_mem_nil⟩
  · exact absurd (mem_of_split hold) h

theorem Followed.event (h : Followed events t id count) (hnew : e ≠ .started t id)
    (hquiet : .started t id ∈ events → e.settles id = false ∧ e ≠ .answered t id) :
    Followed (events ++ [e]) t id count := by
  intro pre post hsplit
  rcases split_append hsplit with ⟨heq, -⟩ | ⟨post', rfl, hold⟩
  · exact absurd heq hnew
  · obtain ⟨hcount, hans⟩ := h pre post' hold
    obtain ⟨hsettles, hanswers⟩ := hquiet (mem_of_split hold)
    refine ⟨?_, ?_⟩
    · grind
    · grind

theorem Followed.settled (h : Followed events t id 0) (scopeId : Nat) (state : SettlementState) :
    Followed (events ++ [.settled t (id, scopeId) state]) t id 1 := by
  intro pre post hsplit
  rcases split_append hsplit with ⟨heq, -⟩ | ⟨post', rfl, hold⟩
  · cases heq
  · obtain ⟨hcount, hans⟩ := h pre post' hold
    refine ⟨?_, ?_⟩
    · grind [Event.settles]
    · grind

/-- One more event. A settlement finds none after the start of its id and no answer; an answer finds
one settlement. -/
theorem SettledOnce.event (h : SettledOnce events)
    (hsettle : ∀ u id, e.settles id = true → Followed events u id 0)
    (hanswer : ∀ u id, e = .answered u id → Followed events u id 1) :
    SettledOnce (events ++ [e]) := by
  intro pre post u id hsplit
  rcases split_append hsplit with ⟨-, -, rfl⟩ | ⟨post', rfl, hold⟩
  · refine ⟨Nat.zero_le _, fun mid rest hpost => ?_⟩
    simp at hpost
  · obtain ⟨hcount, hans⟩ := h pre post' u id hold
    refine ⟨?_, fun mid rest hpost => ?_⟩
    · rw [List.countP_append, List.countP_singleton]
      cases hsettles : e.settles id with
      | false => simpa using hcount
      | true =>
        rw [(hsettle u id hsettles pre post' hold).1]
        exact Nat.le_refl 1
    · rcases split_append hpost with ⟨heq, rfl, -⟩ | ⟨rest', -, hmid⟩
      · exact (hanswer u id heq pre post' hold).1
      · exact hans mid rest' hmid

end Log

inductive Emits (s : Shared) (t : Nat) : Pc V → Event → Prop
  | start (work : Work) (p : Params) (admission : s.admission p work = .admitted) :
      Emits s t (.begin work p) (.started t p.correlationId)
  | settle (work : Work) (p : Params) (state : SettlementState) (answer : Answer V) :
      Emits s t (.proving work p state answer) (.settled t (p.correlationId, p.scopeId) state)
  | answer (work : Work) (p : Params) (answer : Answer V) :
      Emits s t (.settling work p answer) (.answered t p.correlationId)
  | hand (streamId sequence : Nat) :
      Emits s t (.sendStream streamId sequence) (.handed t streamId sequence)

/-- What the thread may say of the log where it stands. Until its settlement is out nobody else has
started a handler under its id. -/
def Settling (s : Shared) (t : Nat) : Pc V → Prop
  | .running _ p | .proving _ p _ _ =>
    (∀ u, .started u p.correlationId ∈ s.events → u = t) ∧ Followed s.events t p.correlationId 0
  | .settling _ p _ => Followed s.events t p.correlationId 1
  | _ => True

section Settlements

variable {s s' : Shared} {t u : Nat} {pc pc' pcU : Pc V} {k : Input V}

theorem Moves.emits (h : Moves s t pc k s' pc') :
    s'.events = s.events ∨ ∃ e, s'.events = s.events ++ [e] ∧ Emits s t pc e := by
  cases h with
  | quiet k same | leave k same => exact .inl same.events
  | enter k requestId same => exact .inl same.events
  | handlerThrows work p error admission | handlerStarts work p admission =>
    exact .inr ⟨_, rfl, .start work p admission⟩
  | settle work p state answer => exact .inr ⟨_, rfl, .settle work p state answer⟩
  | answer work p answer => exact .inr ⟨_, rfl, .answer work p answer⟩
  | hand streamId => exact .inr ⟨_, rfl, .hand streamId _⟩
  | stopPartly scopeId k cancelled same => exact .inl same.events
  | stop scopeId k same | stopHook scopeId k same | stopHookThrows scopeId k same =>
    exact .inl same.events
  | _ => exact .inl rfl

theorem WellKept.not_started (hs : WellKept s) {id : Nat} (hunused : s.used id = false) (u : Nat) :
    .started u id ∉ s.events := by
  intro hmem
  have hfresh := List.any_eq_false.mp (hs.fresh hunused) _ hmem
  exact hfresh (by simp [Event.starts])

theorem not_used_of_exhausted {p : Params} {work : Work} (h : s.admission p work = .exhausted) :
    s.used p.correlationId = false := by
  cases hused : s.used p.correlationId with
  | false => rfl
  | true =>
    obtain ⟨error, hthrew⟩ := threw_of_used work hused
    rw [h] at hthrew
    cases hthrew

theorem Settling.of_aside (h : pc.aside = true) : Settling s t pc := by
  cases pc with
  | running | proving | settling => cases h
  | _ => trivial

theorem Settling.of_enters (h : pc.enters = true) : Settling s t pc := by
  cases pc with
  | running | proving | settling => cases h
  | _ => trivial

theorem Settling.fresh (hs : WellKept s) {p : Params} (hunused : s.used p.correlationId = false)
    (hevents : s'.events = s.events) :
    (∀ u, .started u p.correlationId ∈ s'.events → u = t) ∧
      Followed s'.events t p.correlationId 0 := by
  rw [hevents]
  exact ⟨fun u hmem => absurd hmem (hs.not_started hunused u),
    .of_not_started (hs.not_started hunused t)⟩

theorem Settling.start (hs : WellKept s) {p : Params} (hunused : s.used p.correlationId = false)
    (hevents : s'.events = s.events ++ [.started t p.correlationId]) :
    (∀ u, .started u p.correlationId ∈ s'.events → u = t) ∧
      Followed s'.events t p.correlationId 0 := by
  rw [hevents]
  refine ⟨fun u hmem => ?_, .started (hs.not_started hunused t)⟩
  rw [List.mem_append, List.mem_singleton] at hmem
  rcases hmem with hmem | heq
  · exact absurd hmem (hs.not_started hunused u)
  · cases heq
    rfl

theorem Settling.move (hs : WellKept s) (hat : Settling s t pc) (h : Moves s t pc k s' pc') :
    Settling s' t pc' := by
  cases h with
  | quiet k same here next | leave k same here next => exact .of_aside next
  | enter k requestId same here next => exact .of_enters next
  | exhausted work p k admission => exact Settling.fresh hs (not_used_of_exhausted admission) rfl
  | unhandled work p k error admission =>
    exact Settling.fresh hs (not_used_of_admitted admission) rfl
  | handlerThrows work p error admission | handlerStarts work p admission =>
    exact Settling.start hs (not_used_of_admitted admission) rfl
  | handlerEnds | streamOpens => exact hat
  | settle work p state => exact hat.2.settled p.scopeId state
  | hand streamId k there next => rcases next with rfl | ⟨error, rfl⟩ <;> trivial
  | stopPartly scopeId k cancelled same next => exact .of_aside next
  | stop scopeId k same next | stopHookThrows scopeId k same next => exact .of_aside next
  | _ => trivial

/-- An event of another thread says nothing of this thread's handler. A settlement is sent where the
sender has started every handler of its id. -/
theorem Emits.followed {e : Event} (he : Emits s t pc e) (hat : Settling s t pc) (htu : t ≠ u)
    {id count : Nat} (h : Followed s.events u id count) : Followed (s.events ++ [e]) u id count := by
  cases he with
  | start =>
    refine h.event ?_ fun _ => ⟨rfl, by simp⟩
    rintro heq
    cases heq
    exact htu rfl
  | settle work p =>
    refine h.event (by simp) fun hstarted => ⟨?_, by simp⟩
    by_contra hsettles
    have hid : p.correlationId = id := by simpa [Event.settles] using hsettles
    subst hid
    exact htu (hat.1 u hstarted).symm
  | answer =>
    refine h.event (by simp) fun _ => ⟨rfl, ?_⟩
    intro heq
    cases heq
    exact htu rfl
  | hand => exact h.event (by simp) fun _ => ⟨rfl, by simp⟩

theorem SettledOnce.move (hs : SettledOnce s.events) (hat : Settling s t pc)
    (h : Moves s t pc k s' pc') : SettledOnce s'.events := by
  rcases h.emits with hevents | ⟨e, hevents, he⟩
  · rwa [hevents]
  · rw [hevents]
    cases he with
    | start | hand =>
      refine hs.event (fun u id hsettles => ?_) (fun u id heq => ?_)
      · cases hsettles
      · cases heq
    | settle work p =>
      refine hs.event (fun u id hsettles => ?_) (fun u id heq => by cases heq)
      have hid : p.correlationId = id := by simpa [Event.settles] using hsettles
      subst hid
      by_cases hstarted : .started u p.correlationId ∈ s.events
      · rw [hat.1 u hstarted]
        exact hat.2
      · exact .of_not_started hstarted
    | answer =>
      refine hs.event (fun u id hsettles => by cases hsettles) (fun u id heq => ?_)
      cases heq
      exact hat

end Settlements

/-! ## Runs -/

/-- No call is admitted under an id whose settlement is still to be sent. -/
def admitsSettled (s : Shared) : Pc V → Pc V → Bool
  | .begin work p, .proving _ p' _ _ =>
    decide (s.admission p work ≠ .admitted) || decide (p.correlationId ≠ p'.correlationId)
  | _, _ => true

def settlesFirst : Guard Shared (Pc V) (Input V) where
  self _ _ _ _ := True
  other s _ pc _ _ pcU := admitsSettled s pc pcU = true

instance (c : Threads Shared (Pc V)) (a : Act (Pc V) (Input V)) :
    Decidable (settlesFirst.Allows c a) := Guard.decidable c a

section Other

variable {s s' : Shared} {t u : Nat} {pc pc' pcU : Pc V} {k : Input V}

/-- Where one call waits for its settlement or its handler, no other call is admitted under its id. -/
theorem started_apart {work : Work} {p p' : Params} (hrunning : Running s u pcU)
    (hadmitted : s.admission p work = .admitted)
    (hallowed : admitsSettled s (.begin work p) pcU = true)
    (hpc : (∃ work', pcU = .running work' p') ∨ ∃ work' state answer, pcU = .proving work' p' state answer) :
    p.correlationId ≠ p'.correlationId := by
  rcases hpc with ⟨work', rfl⟩ | ⟨work', state, answer, rfl⟩
  · intro heq
    have hunused := (Shared.not_used_iff.mp (not_used_of_admitted hadmitted)).1
    rw [heq, hrunning work' p' rfl] at hunused
    cases hunused
  · simpa [admitsSettled, hadmitted] using hallowed

theorem Settling.other (hat : Settling s t pc) (hatU : Settling s u pcU) (hrunning : Running s u pcU)
    (htu : t ≠ u) (hallowed : admitsSettled s pc pcU = true) (h : Moves s t pc k s' pc') :
    Settling s' u pcU := by
  rcases h.emits with hevents | ⟨e, hevents, he⟩
  · cases pcU with
    | running | proving | settling =>
      simp only [Settling, hevents]
      exact hatU
    | _ => trivial
  · -- the two places before the settlement say the same
    have hwaiting : ∀ {p : Params}, ((∃ work, pcU = .running work p) ∨
          ∃ work state answer, pcU = .proving work p state answer) →
        (∀ v, .started v p.correlationId ∈ s.events → v = u) ∧
          Followed s.events u p.correlationId 0 →
        (∀ v, .started v p.correlationId ∈ s'.events → v = u) ∧
          Followed s'.events u p.correlationId 0 := by
      rintro p hpc ⟨howner, hfollowed⟩
      rw [hevents]
      refine ⟨fun v hmem => ?_, he.followed hat htu hfollowed⟩
      rw [List.mem_append, List.mem_singleton] at hmem
      rcases hmem with hmem | heq
      · exact howner v hmem
      · cases he with
        | start work p' admission =>
          injection heq with _ hid
          exact absurd hid.symm (started_apart hrunning admission hallowed hpc)
        | _ => cases heq
    cases pcU with
    | running work => exact hwaiting (.inl ⟨work, rfl⟩) hatU
    | proving work p state answer => exact hwaiting (.inr ⟨work, state, answer, rfl⟩) hatU
    | settling =>
      simp only [Settling, hevents]
      exact he.followed hat htu hatU
    | _ => trivial

end Other

theorem settlements_valid :
    (Outline.plain (fun s => WellKept s ∧ SettledOnce s.events)
      (fun s t pc => Running s t pc ∧ Settling s t pc)).Valid (program (V := V)) settlesFirst := by
  refine Outline.plain_valid ?_ ?_ ?_ ?_
  · intro s t pc k m hm
    exact (moved_of_map hm).2
  · intro s t pc _ hentry _
    refine ⟨?_, ?_⟩
    · rintro work p rfl
      cases hentry
    · cases pc with
      | running | proving | settling => cases hentry
      | _ => trivial
  · rintro s t pc k m ⟨hs, honce⟩ ⟨-, hat⟩ _ hm
    have hmoves := move_moves hm
    exact ⟨⟨hs.move hmoves, honce.move hat hmoves⟩, hmoves.running, hat.move hs hmoves⟩
  · rintro s t pc k m u pcU - ⟨hrun, hat⟩ ⟨hrunU, hatU⟩ htu _ hallowed hm
    have hmoves := move_moves hm
    exact ⟨hrun.other hrunU htu hmoves, hat.other hatU hrunU htu hallowed hmoves⟩

theorem settlements_init (limits : Limits) (declared : ExtTreeMap Nat Binding) :
    (Outline.plain (fun s => WellKept s ∧ SettledOnce s.events)
      (fun s t pc => Running s t pc ∧ Settling s t pc)).Holds (init (V := V) limits declared) := by
  refine Outline.plain_holds ⟨WellKept.init (V := V) limits declared, ?_⟩ fun t pc hpc => ?_
  · intro pre post t id hsplit
    cases pre <;> cases hsplit
  · cases hpc

/-- **Every id is started once, counted while it runs and settled once.** In every run of the child:
over invoke and stream open together a handler is started at most once for an id, the active ids keep
to the limit and are apart from the retired ones, and a running handler is active whether or not it
has been cancelled. When no call is admitted under an id whose settlement is still to be sent, at most
one settlement follows the start of a handler, and exactly one comes before its answer. -/
theorem handlers_start_and_settle_once (limits : Limits) (declared : ExtTreeMap Nat Binding)
    {acts : List (Act (Pc V) (Input V))} {c : Threads Shared (Pc V)}
    (hrun : run program.step (init limits declared) acts = some c) :
    (∀ id, c.shared.events.countP (·.starts id) ≤ 1) ∧
    c.shared.active.size ≤ limits.maxActiveInvocations ∧
    (∀ id : Nat, c.shared.active[id]?.isSome = true → c.shared.retired[id]? = none) ∧
    (∀ (t : Nat) work p, c.pool[t]? = some (.running work p) →
      c.shared.active[p.correlationId]? = some ⟨t, p.scopeId⟩) ∧
    (Meets program.step settlesFirst.Allows (init limits declared) acts →
      ∀ pre post t id, c.shared.events = pre ++ .started t id :: post →
        post.countP (·.settles id) ≤ 1 ∧
        ∀ mid rest, post = mid ++ .answered t id :: rest → mid.countP (·.settles id) = 1) := by
  have htables := Outline.run (tables_valid limits) (tables_init limits declared)
    (Guard.any_meets _ acts) hrun
  obtain ⟨hlimits, hkept⟩ := htables.shared
  refine ⟨hkept.once, hlimits ▸ hkept.size, hkept.disjoint, ?_, ?_⟩
  · intro t work p hpc
    exact htables.at_ t _ hpc work p rfl
  · intro hmeets
    exact (Outline.run settlements_valid (settlements_init limits declared) hmeets hrun).shared.2

/-- Thread 2 runs under id 7 and is cancelled, id 8 is refused and settled, then admitted. -/
def settlesInTurn : List (Act (Pc Nat) (Input Nat)) :=
  constructs ++
    [.start 2 (.begin .openStream (sampleParams 7)), .move 2 .go 0,
      .start 3 (.cancel 7 107), .move 3 .go 0,
      .start 4 (.begin .invoke (sampleParams 8)), .move 4 .go 0, .move 4 .go 0,
      .move 2 (.opened .opened) 0, .move 2 .go 0, .move 2 (.callback none) 0] ++
    worksThrough 5 .invoke (sampleParams 8) (.invoked (.success 1))

theorem handlers_start_and_settle_once_sample :
    let c := (run program.step (init sampleLimits sampleProviders) settlesInTurn).get
      (by decide +kernel)
    c.shared.events =
      [.started 2 7, .settled 4 (8, 108) .completed, .settled 2 (7, 107) .cancelled, .answered 2 7,
        .started 5 8, .settled 5 (8, 108) .completed, .answered 5 8] ∧
    ∀ pre post t id, c.shared.events = pre ++ .started t id :: post →
      post.countP (·.settles id) ≤ 1 ∧
      ∀ mid rest, post = mid ++ .answered t id :: rest → mid.countP (·.settles id) = 1 := by
  intro c
  have hmeets : Meets program.step settlesFirst.Allows (init sampleLimits sampleProviders)
      settlesInTurn := by
    decide +kernel
  exact ⟨by decide +kernel,
    (handlers_start_and_settle_once sampleLimits sampleProviders (run_get _)).2.2.2.2 hmeets⟩

/-- The settlement of a refused call comes after the id has been admitted: two settlements follow the
start of the handler, and both come before its answer. -/
theorem refused_call_settles_again :
    ∃ c, run program.step (init sampleLimits sampleProviders)
        (constructs ++
          [.start 2 (.begin .invoke (sampleParams 7)), .move 2 .go 0,
            -- refused at the limit; its proof is being made
            .start 3 (.begin .invoke (sampleParams 8)), .move 3 .go 0,
            .move 2 (.invoked (.success 1)) 0,
            .start 4 (.begin .invoke (sampleParams 8)), .move 4 .go 0,
            .move 3 .go 0,
            .move 4 (.invoked (.success 2)) 0, .move 4 .go 0, .move 4 (.callback none) 0]) = some c ∧
      c.shared.events =
        [.started 2 7, .started 4 8, .settled 3 (8, 108) .completed, .settled 4 (8, 108) .completed,
          .answered 4 8] := by
  exact exists_run (by decide +kernel) (by decide +kernel)

end LensoBun.AuthoringV2.Child
