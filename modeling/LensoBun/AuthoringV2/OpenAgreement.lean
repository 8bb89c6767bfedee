import LensoBun.AuthoringV2.ChildSettlements
import LensoBun.AuthoringV2.SelectLoop

set_option autoImplicit false

/-! # A stream open, from the host to the child and back

The loop of `BunGenerationV2::open` together with the whole child. The open's request becomes one
thread of the child; beside it any other messages reach the child, cancel messages at any time. What
the host observes comes from the child: the answer of the serving thread, and a settlement that the
child has sent. The RPC may fail, the settlement's sender may be dropped and the caller may cancel
whenever they like.

The host reports `Cancelled` for two reasons: a settlement that is not `completed` after the caller
has cancelled, or a `cancelled` failure as the child's answer. A settlement is known by its ids only,
so the first needs that a settlement which is not `completed` can come only from the one thread whose
handler was started under its id (`Blamed`).
-/

namespace LensoBun.AuthoringV2.Child

open Std Lib

variable {V : Type}

/-! ## Settlements and their threads -/

def Event.thread : Event → Nat
  | .started thread _ | .settled thread _ _ | .answered thread _ | .handed thread _ _ => thread

/-- A thread that has sent a settlement waits for the host's answer to it or has ended. -/
def Pc.fits : Pc V → Event → Bool
  | .settling _ _ _, _ | .finished (.work _) _, _ => true
  | _, .settled _ _ _ => false
  | _, _ => true

/-- A settlement which is not `completed` retires its id, and no other thread has started a handler
under it. -/
def Blamed (s : Shared) : Prop :=
  ∀ u q state, .settled u q state ∈ s.events → state ≠ .completed →
    s.retired[q.1]?.isSome = true ∧ ∀ v, .started v q.1 ∈ s.events → v = u

def Pc.sent : Pc V → Bool
  | .settling _ _ _ | .finished _ _ => true
  | _ => false

/-- The thread's handler runs, or its settlement is still to be sent. -/
def Pc.early : Pc V → Bool
  | .running _ _ | .proving _ _ _ _ => true
  | _ => false

/-- What a thread of an invoke or a stream open knows of the log. -/
structure Accounts (s : Shared) (t : Nat) (pc : Pc V) : Prop where
  running : ∀ work p, pc = .running work p →
    .started t p.correlationId ∈ s.events ∧ ∀ v, .started v p.correlationId ∈ s.events → v = t
  failed : ∀ work p state answer, pc = .proving work p state answer → state ≠ .completed →
    s.retired[p.correlationId]?.isSome = true ∧ ∀ v, .started v p.correlationId ∈ s.events → v = t
  opens : ∀ work p state answer, pc = .proving work p state answer → answer.stream.isSome = true →
    state = .completed
  began : ∀ answer, pc.outcome = some answer → answer.stream.isSome = true →
    ∃ id, .started t id ∈ s.events
  settled : ∀ answer, pc.outcome = some answer → pc.sent = true →
    ∃ q state, .settled t q state ∈ s.events ∧ (answer.stream.isSome = true → state = .completed)

section Steps

variable {s s' : Shared} {t u : Nat} {pc pc' pcU : Pc V} {k : Input V}

variable {e : Event} {id : Nat} {p : Params}

theorem Moves.event_mem (h : Moves s t pc k s' pc') (he : e ∈ s.events) : e ∈ s'.events := by
  rcases h.emits with hevents | ⟨e', hevents, -⟩
  · rwa [hevents]
  · rw [hevents]
    exact List.mem_append_left _ he

theorem Moves.event_of_mem (h : Moves s t pc k s' pc') (he : e ∈ s'.events) :
    e ∈ s.events ∨ Emits s t pc e := by
  rcases h.emits with hevents | ⟨e', hevents, hemits⟩
  · rw [hevents] at he
    exact .inl he
  · grind

theorem Emits.thread_eq (h : Emits s t pc e) : e.thread = t := by
  cases h <;> rfl

theorem retired_insert {retired : ExtTreeMap Nat Unit} {id' : Nat} (h : retired[id]?.isSome = true) :
    (retired.insert id' ())[id]?.isSome = true := by
  rw [getElem?_insert_nat]
  split
  · rfl
  · exact h

theorem Moves.retired_kept (h : Moves s t pc k s' pc') (hid : s.retired[id]?.isSome = true) :
    s'.retired[id]?.isSome = true := by
  cases h with
  | quiet k same | leave k same => rwa [same.retired]
  | enter k requestId same => rwa [same.retired]
  | unhandled | handlerThrows | handlerEnds | streamOpens => exact retired_insert hid
  | stopPartly scopeId k cancelled same => rwa [same.retired]
  | stop scopeId k same | stopHook scopeId k same | stopHookThrows scopeId k same =>
    rwa [same.retired]
  | _ => exact hid

theorem Moves.started_of_mem (h : Moves s t pc k s' pc') {v : Nat} (he : .started v id ∈ s'.events)
    : .started v id ∈ s.events ∨ (v = t ∧ s.used id = false) := by
  rcases h.event_of_mem he with hold | hemits
  · exact .inl hold
  · cases hemits with
    | start work p admission => exact .inr ⟨rfl, not_used_of_admitted admission⟩

theorem used_of_retired (h : s.retired[id]?.isSome = true) : s.used id = true := by
  unfold Shared.used
  rw [h, Bool.or_true]

theorem used_of_active {active : Active} (h : s.active[id]? = some active) : s.used id = true := by
  unfold Shared.used
  rw [h]
  rfl

theorem Moves.owner_kept (h : Moves s t pc k s' pc') (hused : s.used id = true)
    (howner : ∀ v, .started v id ∈ s.events → v = u) : ∀ v, .started v id ∈ s'.events → v = u := by
  intro v hv
  rcases h.started_of_mem hv with hold | ⟨-, hunused⟩
  · exact howner v hold
  · rw [hused] at hunused
    cases hunused

theorem WellKept.start_owner (hs : WellKept s) (hunused : s.used p.correlationId = false)
    (hevents : s'.events = s.events ++ [.started t p.correlationId]) :
    .started t p.correlationId ∈ s'.events ∧
      ∀ v, .started v p.correlationId ∈ s'.events → v = t := by
  refine ⟨?_, (Settling.start hs hunused hevents).1⟩
  rw [hevents]
  simp

theorem Blamed.move (hs : Blamed s) (hat : Accounts s t pc) (h : Moves s t pc k s' pc') :
    Blamed s' := by
  intro u q state hsettled hstate
  rcases h.event_of_mem hsettled with hold | hemits
  · obtain ⟨hretired, howner⟩ := hs u q state hold hstate
    exact ⟨h.retired_kept hretired, h.owner_kept (used_of_retired hretired) howner⟩
  · cases hemits with
    | settle work p state answer =>
      obtain ⟨hretired, howner⟩ := hat.failed work p state answer rfl hstate
      exact ⟨h.retired_kept hretired, h.owner_kept (used_of_retired hretired) howner⟩

/-- Past the settlement, or never near it, only the outcome counts. -/
theorem Accounts.of_late (hlate : pc.early = false)
    (hbegan : ∀ answer, pc.outcome = some answer → answer.stream.isSome = true →
      ∃ id, .started t id ∈ s.events)
    (hsettled : ∀ answer, pc.outcome = some answer → ∃ q state, .settled t q state ∈ s.events ∧
      (answer.stream.isSome = true → state = .completed)) : Accounts s t pc := by
  refine ⟨?_, ?_, ?_, hbegan, fun answer hanswer _ => hsettled answer hanswer⟩
  · rintro work p rfl
    cases hlate
  · rintro work p state answer rfl
    cases hlate
  · rintro work p state answer rfl
    cases hlate

theorem Accounts.of_no_outcome (hlate : pc.early = false) (houtcome : pc.outcome = none) :
    Accounts s t pc := by
  refine .of_late hlate (fun answer hanswer => ?_) (fun answer hanswer => ?_) <;>
  · rw [houtcome] at hanswer
    cases hanswer

theorem Accounts.of_aside (h : pc.aside = true) : Accounts s t pc := by
  refine .of_no_outcome ?_ (Pc.outcome_of_aside h)
  cases pc with
  | running | proving => cases h
  | _ => rfl

theorem Accounts.of_enters (h : pc.enters = true) : Accounts s t pc := by
  cases pc with
  | creating | publishing | stopping => exact .of_no_outcome rfl rfl
  | finished method =>
    cases method with
    | publishEvent => exact .of_no_outcome rfl rfl
    | _ => cases h
  | _ => cases h

theorem Accounts.of_running {work : Work}
    (hstart : .started t p.correlationId ∈ s.events ∧ ∀ v, .started v p.correlationId ∈ s.events → v = t)
    : Accounts s t (.running work p : Pc V) := by
  refine ⟨?_, ?_, ?_, ?_, ?_⟩
  · intro work' p' hpc
    cases hpc
    exact hstart
  · intro work' p' state answer hpc
    cases hpc
  · intro work' p' state answer hpc
    cases hpc
  · intro answer hanswer
    cases hanswer
  · intro answer hanswer
    cases hanswer

theorem Accounts.of_proving {work : Work} {state : SettlementState} {answer : Answer V}
    (hfailed : state ≠ .completed → s.retired[p.correlationId]?.isSome = true ∧ ∀ v, .started v p.correlationId ∈ s.events → v = t)
    (hopens : answer.stream.isSome = true → state = .completed ∧ ∃ id, .started t id ∈ s.events) :
    Accounts s t (.proving work p state answer) := by
  refine ⟨?_, ?_, ?_, ?_, ?_⟩
  · intro work' p' hpc
    cases hpc
  · grind
  · grind
  · intro answer' hanswer hstream
    cases hanswer
    exact (hopens hstream).2
  · intro answer' _ hsent
    cases hsent

theorem retired_of_insert (retired : ExtTreeMap Nat Unit) (id : Nat) :
    (retired.insert id ())[id]?.isSome = true := by
  rw [getElem?_insert_nat, if_pos rfl]
  rfl

theorem Accounts.move (hs : WellKept s) (hat : Accounts s t pc) (h : Moves s t pc k s' pc') :
    Accounts s' t pc' := by
  cases h with
  | quiet k same here next | leave k same here next => exact .of_aside next
  | enter k requestId same here next => exact .of_enters next
  | exhausted =>
    exact .of_proving (fun hstate => absurd rfl hstate) (fun hstream => by cases hstream)
  | unhandled work p k error admission =>
    have hunused := not_used_of_admitted admission
    refine .of_proving (fun _ => ⟨retired_of_insert _ _, fun v hv => ?_⟩)
      (fun hstream => by cases hstream)
    exact absurd hv (hs.not_started hunused v)
  | handlerThrows work p error admission =>
    refine .of_proving (fun _ => ⟨retired_of_insert _ _, ?_⟩) (fun hstream => by cases hstream)
    exact (hs.start_owner (not_used_of_admitted admission) rfl).2
  | handlerStarts work p admission =>
    exact .of_running (hs.start_owner (not_used_of_admitted admission) rfl)
  | handlerEnds work p k state answer none =>
    refine .of_proving (fun _ => ⟨retired_of_insert _ _, (hat.running work p rfl).2⟩)
      (fun hstream => ?_)
    rw [none] at hstream
    cases hstream
  | streamOpens p =>
    exact .of_proving (fun hstate => absurd rfl hstate)
      (fun _ => ⟨rfl, _, (hat.running .openStream p rfl).1⟩)
  | settle work p state answer =>
    refine .of_late rfl (fun answer' hanswer hstream => ?_) (fun answer' hanswer => ?_)
    · obtain ⟨id, hid⟩ := hat.began answer' hanswer hstream
      exact ⟨id, List.mem_append_left _ hid⟩
    · cases hanswer
      exact ⟨_, state, List.mem_append_right _ (List.mem_singleton_self _),
        hat.opens work p state answer rfl⟩
  | answer work p answer ending k ends =>
    refine .of_late rfl (fun answer' hanswer hstream => ?_) (fun answer' hanswer => ?_)
    · rw [ends] at hanswer
      obtain ⟨id, hid⟩ := hat.began answer' hanswer hstream
      exact ⟨id, List.mem_append_left _ hid⟩
    · rw [ends] at hanswer
      obtain ⟨q, state, hsettled, hstate⟩ := hat.settled answer' hanswer rfl
      exact ⟨q, state, List.mem_append_left _ hsettled, hstate⟩
  | hand streamId k there next =>
    rcases next with rfl | ⟨error, rfl⟩ <;> exact .of_no_outcome rfl rfl
  | receive => exact .of_no_outcome rfl rfl
  | stopPartly scopeId k cancelled same next => exact .of_aside next
  | stop scopeId k same next | stopHookThrows scopeId k same next => exact .of_aside next
  | stopHook => exact .of_enters rfl
  | _ => exact .of_aside rfl

theorem Accounts.other (hatU : Accounts s u pcU) (hrunning : Running s u pcU)
    (h : Moves s t pc k s' pc') : Accounts s' u pcU := by
  refine ⟨?_, ?_, hatU.opens, ?_, ?_⟩
  · intro work p hpc
    obtain ⟨hstarted, howner⟩ := hatU.running work p hpc
    exact ⟨h.event_mem hstarted, h.owner_kept (used_of_active (hrunning work p hpc)) howner⟩
  · intro work p state answer hpc hstate
    obtain ⟨hretired, howner⟩ := hatU.failed work p state answer hpc hstate
    exact ⟨h.retired_kept hretired, h.owner_kept (used_of_retired hretired) howner⟩
  · grind [Moves.event_mem, hatU.began, h.event_mem]
  · grind [Followed.settled, Moves.event_mem, hatU.settled, h.event_mem]

end Steps

theorem accounts_valid :
    (Outline.plain (fun s => WellKept s ∧ Blamed s)
      (fun s t pc => Running s t pc ∧ Accounts s t pc)).Valid (program (V := V)) Guard.any := by
  refine Outline.plain_valid ?_ ?_ ?_ ?_
  · intro s t pc k m hm
    exact (moved_of_map hm).2
  · intro s t pc _ hentry _
    refine ⟨?_, ?_⟩
    · rintro work p rfl
      cases hentry
    · cases pc with
      | creating | running | proving | settling | publishing | sending | receiving | closing
      | stopping | outboundWaiting | outboundActing | finished => cases hentry
      | _ => exact .of_no_outcome rfl rfl
  · rintro s t pc k m ⟨hs, hblamed⟩ ⟨-, hat⟩ _ hm
    have hmoves := move_moves hm
    exact ⟨⟨hs.move hmoves, hblamed.move hat hmoves⟩, hmoves.running, hat.move hs hmoves⟩
  · rintro s t pc k m u pcU - ⟨hrun, -⟩ ⟨hrunU, hatU⟩ htu _ _ hm
    have hmoves := move_moves hm
    exact ⟨hrun.other hrunU htu hmoves, hatU.other hrunU hmoves⟩

theorem accounts_init (limits : Limits) (declared : ExtTreeMap Nat Binding) :
    (Outline.plain (fun s => WellKept s ∧ Blamed s)
      (fun s t pc => Running s t pc ∧ Accounts s t pc)).Holds (init (V := V) limits declared) := by
  refine Outline.plain_holds ⟨WellKept.init (V := V) limits declared, ?_⟩ fun t pc hpc => ?_
  · intro u q state hsettled
    cases hsettled
  · cases hpc

/-! ## One settlement for a thread -/

section Ownership

variable {s s' : Shared} {t u : Nat} {pc pc' : Pc V} {k : Input V}

theorem Pc.fits_settled {q : Nat × Nat} {state : SettlementState}
    (h : pc.fits (.settled u q state) = true) :
    (∃ work p answer, pc = .settling work p answer) ∨
      ∃ work ending, pc = .finished (.work work) ending := by
  cases pc with
  | settling work p answer => exact .inl ⟨work, p, answer, rfl⟩
  | finished method ending =>
    cases method with
    | work work => exact .inr ⟨work, ending, rfl⟩
    | _ => cases h
  | _ => cases h

variable {e : Event}

theorem Pc.fits_of_not_settled (h : ∀ u q state, e ≠ .settled u q state) : pc.fits e = true := by
  unfold Pc.fits
  split
  · rfl
  · rfl
  · exact absurd rfl (h _ _ _)
  · rfl

/-- From the settlement on a thread stays where a settlement fits. -/
theorem Moves.fits (h : Moves s t pc k s' pc') (hfits : pc.fits e = true) : pc'.fits e = true := by
  by_cases hsettled : ∃ u q state, e = .settled u q state
  · obtain ⟨u, q, state, rfl⟩ := hsettled
    rcases Pc.fits_settled hfits with ⟨work, p, answer, rfl⟩ | ⟨work, ending, rfl⟩
    · cases h with
      | quiet k same here | enter k requestId same here => cases here
      | leave k same here => rcases here with here | here <;> cases here
      | answer => rfl
    · cases h with
      | quiet k same here | enter k requestId same here => cases here
      | leave k same here => rcases here with here | here <;> cases here
  · exact Pc.fits_of_not_settled fun u q state heq => hsettled ⟨u, q, state, heq⟩

theorem Moves.fits_emitted (h : Moves s t pc k s' pc') (hemits : Emits s t pc e) :
    pc'.fits e = true := by
  cases hemits with
  | settle =>
    cases h with
    | quiet k same here | enter k requestId same here => cases here
    | leave k same here => rcases here with here | here <;> cases here
    | settle => rfl
  | _ => exact Pc.fits_of_not_settled (by simp)

end Ownership

theorem events_backed : Backs (program (V := V)) (fun s e => e ∈ s.events) Event.thread
    (fun pc e => pc.fits e = true) where
  move s t pc k m hm hown e he := by
    have hmoves := move_moves hm
    rcases hmoves.event_of_mem he with hold | hemits
    · grind [Moves.fits]
    · exact .inr ⟨hemits.thread_eq, hmoves.fits_emitted hemits⟩

/-- The settlements of a thread agree on its state. -/
def SettlesAlike (s : Shared) : Prop :=
  ∀ t q q' state state', .settled t q state ∈ s.events → .settled t q' state' ∈ s.events →
    state = state'

theorem SettlesAlike.move {s s' : Shared} {t : Nat} {pc pc' : Pc V} {k : Input V}
    (hs : SettlesAlike s) (hown : ∀ e, e ∈ s.events → e.thread = t → pc.fits e = true)
    (h : Moves s t pc k s' pc') : SettlesAlike s' := by
  intro u q q' state state' hfirst hsecond
  have hfresh : ∀ {work p state answer q state'}, pc = .proving work p state answer →
      .settled t q state' ∉ s.events := by
    rintro work p state answer q state' rfl hmem
    have hfits := hown _ hmem rfl
    cases hfits
  rcases h.event_of_mem hfirst with hold | hemits
  · rcases h.event_of_mem hsecond with hold' | hemits'
    · exact hs u q q' state state' hold hold'
    · cases hemits'
      exact absurd hold (hfresh rfl)
  · cases hemits
    rcases h.event_of_mem hsecond with hold' | hemits'
    · exact absurd hold' (hfresh rfl)
    · cases hemits'
      rfl

theorem Moves.outcome_kept {s s' : Shared} {t : Nat} {pc pc' : Pc V} {k : Input V}
    (h : Moves s t pc k s' pc') {answer : Answer V} (hanswer : pc.outcome = some answer) :
    pc'.outcome = some answer := by
  have hnot : ¬ (pc.free = true ∨ pc.enters = true) := by
    cases pc with
    | proving | settling => rintro (here | here) <;> cases here
    | finished method =>
      cases method <;> first | cases hanswer | (rintro (here | here) <;> cases here)
    | _ => cases hanswer
  cases h with
  | quiet k same here | enter k requestId same here => exact absurd (.inl here) hnot
  | leave k same here => exact absurd here hnot
  | settle => exact hanswer
  | answer work p answer ending k ends => exact ends.trans hanswer
  | _ => cases hanswer

theorem streams_backed : Backs (program (V := V))
    (fun s (x : Nat × Nat) => s.streams[x.1]? = some x.2) Prod.snd
    (fun pc x => pc.outcome = some (.opened x.1)) where
  move s t pc k m hm hown x hx := by
    have hmoves := move_moves hm
    rcases hmoves.stream_of hx with hold | ⟨-, hthread, -, p, hnext⟩
    · grind [Moves.outcome_kept]
    · exact .inr ⟨hthread, by rw [hnext]; rfl⟩

section Runs

variable {limits : Limits} {declared : ExtTreeMap Nat Binding} {c : Threads Shared (Pc V)}

/-- **A thread that has opened a stream settles with `completed`.** -/
theorem settled_of_opened (hreach : Reaches program.step (init limits declared) c) {t : Nat}
    {pc : Pc V} {streamId : Nat} (hpc : c.pool[t]? = some pc)
    (hopened : pc.outcome = some (.opened streamId)) :
    (pc.sent = true → ∃ q, .settled t q .completed ∈ c.shared.events) ∧
    ∀ q state, .settled t q state ∈ c.shared.events → state = .completed := by
  obtain ⟨acts, hrun⟩ := hreach
  have haccounts := Outline.run accounts_valid (accounts_init limits declared)
    (Guard.any_meets _ acts) hrun
  obtain ⟨hbacked, halike⟩ := events_backed.run (G := Guard.any) (J := SettlesAlike)
    (fun s t pc k m hown hs _ hm => hs.move hown (move_moves hm)) (fun e he => by cases he)
    (fun _ _ _ _ _ h => by cases h) (Guard.any_meets _ acts) hrun
  have hsent : pc.sent = true → ∃ q, .settled t q .completed ∈ c.shared.events := by
    intro hsent
    obtain ⟨q, state, hmem, hstate⟩ := (haccounts.at_ t pc hpc).2.settled _ hopened hsent
    exact ⟨q, hstate rfl ▸ hmem⟩
  refine ⟨hsent, fun q state hmem => ?_⟩
  -- the thread has sent a settlement, so it stands past it
  have hfits := hbacked.own hpc hmem rfl
  have hpast : pc.sent = true := by
    rcases Pc.fits_settled hfits with ⟨work, p, answer, rfl⟩ | ⟨work, ending, rfl⟩ <;> rfl
  obtain ⟨q', hcompleted⟩ := hsent hpast
  exact halike t q q' state .completed hmem hcompleted

/-- The stream in the table is the outcome of its thread, whose handler was started. -/
theorem opened_of_stream (hreach : Reaches program.step (init limits declared) c)
    {t streamId : Nat} (hstream : c.shared.streams[streamId]? = some t) :
    ∃ pc, c.pool[t]? = some pc ∧ pc.outcome = some (.opened streamId) ∧
      ∃ id, .started t id ∈ c.shared.events := by
  obtain ⟨acts, hrun⟩ := hreach
  have haccounts := Outline.run accounts_valid (accounts_init limits declared)
    (Guard.any_meets _ acts) hrun
  have hbacked := (streams_backed.run (G := Guard.any) (J := fun _ => True)
    (fun _ _ _ _ _ _ _ _ _ => trivial) (fun x hx => by cases hx) trivial
    (Guard.any_meets _ acts) hrun).1
  obtain ⟨pc, hpc, hopened⟩ := hbacked (streamId, t) hstream
  exact ⟨pc, hpc, hopened, (haccounts.at_ t pc hpc).2.began _ hopened rfl⟩

theorem blamed_of_reaches (hreach : Reaches program.step (init (V := V) limits declared) c) :
    Blamed c.shared := by
  obtain ⟨acts, hrun⟩ := hreach
  exact (Outline.run accounts_valid (accounts_init limits declared)
    (Guard.any_meets _ acts) hrun).shared.2

theorem thread_of_event (hreach : Reaches program.step (init (V := V) limits declared) c)
    {e : Event} (he : e ∈ c.shared.events) : ∃ pc, c.pool[e.thread]? = some pc := by
  obtain ⟨acts, hrun⟩ := hreach
  have hbacked := (events_backed.run (G := Guard.any) (J := fun _ => True)
    (fun _ _ _ _ _ _ _ _ _ => trivial) (fun e he => by cases he) trivial
    (Guard.any_meets _ acts) hrun).1
  obtain ⟨pc, hpc, -⟩ := hbacked e he
  exact ⟨pc, hpc⟩

end Runs

end LensoBun.AuthoringV2.Child

namespace LensoBun.AuthoringV2.StreamOpen

open Std Lib Child

variable {V : Type}

/-! ## Host and child -/

/-- Why there is no answer: the RPC fails (`rpc` and the checks of its result), or its thread ends
without a result. -/
inductive RpcFailure where
  | failed (detail : String)
  | internal (detail : String)
  | lost
  deriving DecidableEq, Repr

def RpcFailure.result {Wire : Type} : RpcFailure → Option (Except RuntimeFailure Wire)
  | .failed detail => some (.error (.pluginFailure detail))
  | .internal detail => some (.error (.internal detail))
  | .lost => none

inductive Arrival where
  | answer
  | rpcFailure (failure : RpcFailure)
  | settlement (value : Settlement)
  | settlementClosed
  | cancellation
  deriving DecidableEq, Repr

inductive JointAct (V : Type) where
  /-- The request reaches the child and becomes thread `t`. -/
  | request (t : Nat)
  | child (act : Act (Pc V) (Input V))
  | host (arrival : Arrival)
  /-- Other tasks change the tables of the generation. -/
  | others (tables : Generation)

structure Joint (V : Type) where
  child : Threads Child.Shared (Pc V)
  host : LoopConfig (StreamOpenOutcome V) (Except V StreamSession)
  /-- The thread of the child that serves the open. -/
  serving : Option Nat

/-- The open's call, from the params of its request. -/
def openCall (validateFor : Settlement → Option String) (p : Params) : Call :=
  ⟨p.correlationId, p.scopeId, validateFor⟩

/-- The answers of `#openStream` on the wire. -/
def wireAnswer : Answer V → Option (StreamOpenOutcome V)
  | .opened streamId => some (.opened (toString streamId))
  | .domain error => some (.domain error)
  | .runtime failure => some (.runtime failure)
  | _ => none

/-- The answer of the serving thread, once it has returned. -/
def Joint.answer (c : Joint V) : Option (StreamOpenOutcome V) :=
  match c.serving.bind fun t => c.child.pool[t]? with
  | some (.finished (.work .openStream) (.answered answer)) => wireAnswer answer
  | _ => none

def Joint.hasSent (c : Joint V) (value : Settlement) : Bool :=
  c.child.shared.events.any fun e => match e with
    | .settled _ q state => q = (value.correlationId, value.scopeId) && state = value.state
    | _ => false

/-- What the loop observes when something arrives. -/
def Joint.observation (c : Joint V) : Arrival → Option (Observation (StreamOpenOutcome V))
  | .answer => c.answer.map fun wire => .response (some (.ok wire))
  | .rpcFailure failure => some (.response failure.result)
  | .settlement value => if c.hasSent value then some (.settlement (some value)) else none
  | .settlementClosed => some (.settlement none)
  | .cancellation => some .cancelled

def Joint.step (validateFor : Settlement → Option String) (p : Params) (c : Joint V) :
    JointAct V → Option (Joint V)
  | .request t =>
    if c.serving = none then
      (program.step c.child (.start t (.begin .openStream p))).map fun child =>
        { c with child := child, serving := some t }
    else none
  | .child act => (program.step c.child act).map fun child => { c with child := child }
  | .host arrival =>
    match c.observation arrival with
    | none => none
    | some observation =>
      (AuthoringV2.step (openLoop (openCall validateFor p)) c.host (.observe observation)).map
        fun host => { c with host := host }
  | .others tables => some { c with host := { c.host with generation := tables } }

/-- The open has spawned its RPC and enters its loop; nothing has reached the child. -/
def Joint.init (limits : Limits) (declared : ExtTreeMap Nat Binding) (g : Generation) : Joint V :=
  ⟨Child.init limits declared, start g, none⟩

/-! ## The serving thread -/

/-- The thread serves the open: it stands in `#openStream` with the open's params, or has returned. -/
def serves (p : Params) : Pc V → Prop
  | .begin .openStream p' | .running .openStream p' | .proving .openStream p' _ _
  | .settling .openStream p' _ => p' = p
  | .finished (.work .openStream) _ => True
  | _ => False

/-- What the child knows of the open: its thread, and the ids under which that thread speaks. -/
structure Serves (p : Params) (c : Threads Child.Shared (Pc V)) (t : Nat) : Prop where
  there : ∃ pc, c.pool[t]? = some pc ∧ serves p pc
  started : ∀ id, .started t id ∈ c.shared.events → id = p.correlationId
  settled : ∀ q state, .settled t q state ∈ c.shared.events → q = (p.correlationId, p.scopeId)

section Child

variable {s s' : Child.Shared} {t : Nat} {p : Params} {pc pc' : Pc V} {k : Input V}
  {c c' : Threads Child.Shared (Pc V)} {a : Act (Pc V) (Input V)}

theorem begin_next {work : Work} (h : begin s t work p k = some (s', pc')) :
    (∃ error, pc' = .finished (.work work) (.threw error)) ∨
      (∃ state answer, pc' = .proving work p state answer) ∨ pc' = .running work p := by
  cases k with
  | invalid error =>
    cases h
    exact .inl ⟨error, rfl⟩
  | _ =>
    simp only [begin, admitWork] at h
    split at h
    · cases h
      exact .inl ⟨_, rfl⟩
    · cases h
      exact .inr (.inl ⟨_, _, rfl⟩)
    · unfold startHandler at h
      split at h <;>
        first
          | (cases h; done)
          | (cases h; exact .inr (.inl ⟨_, _, rfl⟩))
          | (cases h; exact .inr (.inr rfl))

theorem serves_move (h : pcMove s t pc k = some (s', pc')) (hpc : serves p pc) : serves p pc' := by
  cases pc with
  | begin work =>
    cases work with
    | invoke => cases hpc
    | openStream =>
      cases hpc
      rcases begin_next h with ⟨error, rfl⟩ | ⟨state, answer, rfl⟩ | rfl
      · trivial
      · rfl
      · rfl
  | running work =>
    cases work with
    | invoke => cases hpc
    | openStream =>
      cases hpc
      have hmoves := pcMove_moves h
      cases hmoves with
      | quiet k same here | enter k requestId same here => cases here
      | leave k same here => rcases here with here | here <;> cases here
      | handlerEnds => rfl
      | streamOpens => rfl
  | proving work =>
    cases h
    cases work with
    | invoke => cases hpc
    | openStream => exact hpc
  | settling work =>
    cases work with
    | invoke => cases hpc
    | openStream =>
      cases k with
      | callback =>
        cases h
        trivial
      | _ => cases h
  | finished => cases h
  | _ => cases hpc

variable {e : Event}

/-- What the serving thread says, it says under the ids of the open. -/
theorem serves_emits (hpc : serves p pc) (he : Emits s t pc e) :
    (∀ id, e = .started t id → id = p.correlationId) ∧
      ∀ q state, e = .settled t q state → q = (p.correlationId, p.scopeId) := by
  cases he with
  | start work =>
    cases work with
    | invoke => cases hpc
    | openStream =>
      cases hpc
      exact ⟨fun id heq => by cases heq; rfl, fun q state heq => by cases heq⟩
  | settle work p' state =>
    cases work with
    | invoke => cases hpc
    | openStream =>
      cases hpc
      exact ⟨fun id heq => (by cases heq), fun q state heq => by cases heq; rfl⟩
  | answer => exact ⟨fun id heq => (by cases heq), fun q state heq => (by cases heq)⟩
  | hand => cases hpc

theorem event_of_step (h : program.step c a = some c') (he : e ∈ c.shared.events) :
    e ∈ c'.shared.events := by
  rcases Program.step_cases h with ⟨u, pc, -, -, -, rfl⟩ | ⟨u, k, child, pc, m, -, -, hm, hsh, -⟩
  · exact he
  · rw [hsh]
    exact (move_moves hm).event_mem he

theorem event_of_mem_step (h : program.step c a = some c') (he : e ∈ c'.shared.events) :
    e ∈ c.shared.events ∨
      ∃ pc, c.pool[e.thread]? = some pc ∧ Emits c.shared e.thread pc e := by
  rcases Program.step_cases h with ⟨u, pc, -, -, -, rfl⟩ | ⟨u, k, child, pc, m, -, hpc, hm, hsh, -⟩
  · exact .inl he
  · rw [hsh] at he
    rcases (move_moves hm).event_of_mem he with hold | hemits
    · exact .inl hold
    · obtain rfl := hemits.thread_eq
      exact .inr ⟨pc, hpc, hemits⟩

theorem finished_of_step (h : program.step c a = some c') {method : Method} {ending : Ending V}
    (hpc : c.pool[t]? = some (.finished method ending)) :
    c'.pool[t]? = some (.finished method ending) := by
  rcases Program.thread_of_step h hpc with hstays | ⟨k, child, m, -, hm, -⟩
  · exact hstays
  · cases hm

theorem Serves.step (hs : Serves p c t) (h : program.step c a = some c') : Serves p c' t := by
  obtain ⟨⟨pc, hpc, hserves⟩, hstarted, hsettled⟩ := hs
  have hnew : ∀ {e : Event}, e.thread = t → e ∈ c'.shared.events →
      e ∈ c.shared.events ∨ Emits c.shared t pc e := by grind [event_of_mem_step]
  refine ⟨?_, fun id he => ?_, fun q state he => ?_⟩
  · rcases Program.thread_of_step h hpc with hstays | ⟨k, child, m, -, hm, -, hnext⟩
    · exact ⟨pc, hstays, hserves⟩
    · exact ⟨m.next, hnext, serves_move (moved_of_map hm).1 hserves⟩
  · rcases hnew rfl he with hold | hemits
    · exact hstarted id hold
    · exact (serves_emits hserves hemits).1 id rfl
  · rcases hnew rfl he with hold | hemits
    · exact hsettled q state hold
    · exact (serves_emits hserves hemits).2 q state rfl

theorem Serves.request {limits : Limits} {declared : ExtTreeMap Nat Binding}
    (hreach : Reaches program.step (Child.init limits declared) c)
    (h : program.step c (.start t (.begin .openStream p)) = some c') : Serves p c' t := by
  rcases Program.step_cases h with ⟨u, pc, hact, -, hfresh, rfl⟩ | ⟨_, _, _, _, _, hact, _⟩
  · cases hact
    have hnone : ∀ {e : Event}, e.thread = t → e ∉ c.shared.events := by
      rintro e rfl he
      obtain ⟨pc, hpc⟩ := thread_of_event hreach he
      exact hfresh (mem_of_getElem? hpc)
    refine ⟨⟨.begin .openStream p, ?_, rfl⟩, fun id he => ?_, fun q state he => ?_⟩
    · simp only [getElem?_insert_nat, if_true]
    · exact absurd he (hnone rfl)
    · exact absurd he (hnone rfl)
  · cases hact

end Child

/-! ## The host's loop -/

section Host

variable {call : Call} {g g' : Generation} {locals locals' : LoopState (StreamOpenOutcome V)}
  {observed : Observation (StreamOpenOutcome V)}

variable {state : SettlementState}

theorem ids_of_accepted (h : Accepted (openLoop (V := V) call) observed state) :
    ∃ value, observed = .settlement (some value) ∧ value.state = state ∧
      value.scopeId = call.scopeId ∧ value.correlationId = call.correlationId := by
  obtain ⟨value, hobserved, hchecked, hstate⟩ := h
  refine ⟨value, hobserved, hstate, ?_⟩
  simp only [openLoop] at hchecked
  split at hchecked
  · cases hchecked
  · next hgood => simpa using (not_or.mp hgood).2

/-- When a finished open reports `Cancelled`. -/
theorem finish_cancelled {cancellationSent : Bool} {outcome : StreamOpenOutcome V} {requestId : Nat}
    (h : ((openLoop call).finish g cancellationSent state outcome).2 = .error (.cancelled requestId))
    : state ≠ .completed ∨ ∃ failure, outcome = .runtime failure := by
  simp only [openLoop] at h
  split at h
  · next hcancelled => exact .inl hcancelled.2
  · grind

/-- When a turn of the loop returns `Cancelled`. The slot of the outcome is empty before each turn,
so the loop finishes with an answer only. -/
theorem turn_cancelled {requestId : Nat} (hempty : locals.outcome = none)
    (h : Turned (openLoop call) g locals observed g' (.returned (.error (.cancelled requestId)))) :
    observed = .response (some (.error (.cancelled requestId))) ∨
    ∃ wire state, observed = .response (some (.ok wire)) ∧ locals.settled = some state ∧
      (state ≠ .completed ∨ ∃ failure, wire = .runtime failure) := by
  generalize hphase : Phase.returned (.error (.cancelled requestId)) = phase at h
  cases h with
  | waits => cases hphase
  | finishes observed cancellationSent state kept outcome settled =>
    rcases outcome with hslot | ⟨wire, rfl, rfl⟩
    · rw [hempty] at hslot
      cases hslot
    · refine .inr ⟨wire, state, rfl, ?_, finish_cancelled (Phase.returned.inj hphase).symm⟩
      rcases settled with hsettled | ⟨value, hvalue, -⟩
      · exact hsettled
      · cases hvalue
  | responseFails result error failed =>
    cases hphase
    rcases failed with rfl | ⟨-, hunavailable⟩
    · exact .inl rfl
    · cases hunavailable
  | settlementCloses => cases hphase
  | settlementRejected value reject checked =>
    simp only [openLoop] at checked
    split at checked
    · cases checked
      cases hphase
    · cases checked

end Host

/-! ## Agreement -/

/-- The child has sent a settlement for the open. -/
def SettledAs (p : Params) (c : Joint V) (state : SettlementState) : Prop :=
  ∃ u, .settled u (p.correlationId, p.scopeId) state ∈ c.child.shared.events

/-- The serving thread has answered with a failure. -/
def AnsweredFailure (c : Joint V) : Prop :=
  ∃ t failure, c.serving = some t ∧
    c.child.pool[t]? = some (.finished (.work .openStream) (.answered (.runtime failure)))

/-- What the host holds has come from the child. -/
structure Agrees (limits : Limits) (declared : ExtTreeMap Nat Binding) (p : Params) (c : Joint V) :
    Prop where
  child : Reaches program.step (Child.init limits declared) c.child
  serving : ∀ t, c.serving = some t → Serves p c.child t
  waiting : ∀ locals, c.host.phase = .waiting locals →
    locals.outcome = none ∧ ∀ state, locals.settled = some state → SettledAs p c state
  cancelled : ∀ requestId, c.host.phase = .returned (.error (.cancelled requestId)) →
    (∃ state, state ≠ .completed ∧ SettledAs p c state) ∨ AnsweredFailure c

section Joint

variable {validateFor : Settlement → Option String} {p : Params} {limits : Limits}
  {declared : ExtTreeMap Nat Binding} {c c' : Joint V}

theorem Agrees.init (g : Generation) : Agrees limits declared p (Joint.init (V := V) limits declared g) where
  child := .refl _
  serving t h := by cases h
  waiting locals h := by
    cases h
    exact ⟨rfl, fun state hstate => by cases hstate⟩
  cancelled requestId h := by cases h

theorem Agrees.child_step (hc : Agrees limits declared p c) {child : Threads Child.Shared (Pc V)}
    {a : Act (Pc V) (Input V)} (h : program.step c.child a = some child) {serving : Option Nat}
    (hserving : ∀ t, serving = some t → Serves p child t)
    (hkept : ∀ t, c.serving = some t → serving = some t) :
    Agrees limits declared p { c with child := child, serving := serving } where
  child := hc.child.trans (.head h (.refl _))
  serving := hserving
  waiting locals hphase := by
    obtain ⟨hempty, hsettled⟩ := hc.waiting locals hphase
    refine ⟨hempty, fun state hstate => ?_⟩
    obtain ⟨u, hu⟩ := hsettled state hstate
    exact ⟨u, event_of_step h hu⟩
  cancelled requestId hphase := by
    rcases hc.cancelled requestId hphase with ⟨state, hstate, u, hu⟩ | ⟨t, failure, ht, hpc⟩
    · exact .inl ⟨state, hstate, u, event_of_step h hu⟩
    · exact .inr ⟨t, failure, hkept t ht, finished_of_step h hpc⟩

theorem settledAs_of_hasSent {value : Settlement} (h : c.hasSent value = true)
    (hscope : value.scopeId = p.scopeId) (hid : value.correlationId = p.correlationId) :
    SettledAs p c value.state := by
  obtain ⟨e, he, hcarries⟩ := List.any_eq_true.mp h
  split at hcarries
  · next u q state =>
      obtain ⟨hq, hstate⟩ : q = (value.correlationId, value.scopeId) ∧ state = value.state := by
        simpa using hcarries
      rw [hq, hstate, hscope, hid] at he
      exact ⟨u, he⟩
  · cases hcarries

/-- The answer that arrives is the answer of the serving thread. -/
theorem answeredFailure_of_answer {failure : AuthoringFailure}
    (h : c.answer = some (.runtime failure)) : AnsweredFailure c := by
  unfold Joint.answer at h
  split at h
  · next answer hpc =>
      obtain ⟨t, hserving, hpc⟩ := Option.bind_eq_some_iff.mp hpc
      cases answer with
      | runtime failure' => exact ⟨t, failure', hserving, hpc⟩
      | _ => cases h
  · cases h

variable {observed : Observation (StreamOpenOutcome V)}

/-- What is observed as an answer or a settlement has come from the child, and an RPC failure is not
`Cancelled`. -/
theorem observation_cases {arrival : Arrival} (h : c.observation arrival = some observed) :
    (∀ value, observed = .settlement (some value) → c.hasSent value = true) ∧
    (∀ wire, observed = .response (some (.ok wire)) → c.answer = some wire) ∧
    ∀ requestId, observed ≠ .response (some (.error (.cancelled requestId))) := by
  cases arrival with
  | answer =>
    obtain ⟨wire, hwire, rfl⟩ := Option.map_eq_some_iff.mp h
    refine ⟨nofun, fun wire' heq => ?_, nofun⟩
    cases heq
    exact hwire
  | rpcFailure failure =>
    cases h
    refine ⟨nofun, ?_, ?_⟩
    · intro wire heq
      cases failure <;> cases heq
    · intro requestId heq
      cases failure <;> cases heq
  | settlement => grind [Joint.observation]
  | settlementClosed | cancellation =>
    cases h
    exact ⟨nofun, nofun, nofun⟩

theorem Agrees.host_turn (hc : Agrees limits declared p c) {arrival : Arrival}
    (hobserved : c.observation arrival = some observed)
    {host : LoopConfig (StreamOpenOutcome V) (Except V StreamSession)}
    (h : AuthoringV2.step (openLoop (openCall validateFor p)) c.host (.observe observed) = some host)
    : Agrees limits declared p { c with host := host } := by
  obtain ⟨hsent, hanswer, hnot⟩ := observation_cases hobserved
  simp only [AuthoringV2.step] at h
  split at h
  · next locals hphase =>
      obtain ⟨⟨g', phase⟩, hturn, rfl⟩ := Option.map_eq_some_iff.mp h
      obtain ⟨hempty, hsettled⟩ := hc.waiting locals hphase
      refine ⟨hc.child, hc.serving, fun locals' hphase' => ?_, fun requestId hphase' => ?_⟩
      · obtain rfl : phase = .waiting locals' := hphase'
        cases turn_turned hturn with
        | waits observed locals' empty learnt =>
          refine ⟨empty, fun state hstate => ?_⟩
          rcases learnt state hstate with hold | haccepted
          · exact hsettled state hold
          · obtain ⟨value, rfl, rfl, hscope, hid⟩ := ids_of_accepted haccepted
            exact settledAs_of_hasSent (hsent value rfl) hscope hid
      · obtain rfl : phase = .returned (.error (.cancelled requestId)) := hphase'
        rcases turn_cancelled hempty (turn_turned hturn) with
          rfl | ⟨wire, state, rfl, hstate, hcompleted | ⟨failure, rfl⟩⟩
        · exact absurd rfl (hnot requestId)
        · exact .inl ⟨state, hcompleted, hsettled state hstate⟩
        · exact .inr (answeredFailure_of_answer (hanswer _ rfl))
  · cases h

theorem Agrees.step (hc : Agrees limits declared p c) {a : JointAct V}
    (h : c.step validateFor p a = some c') : Agrees limits declared p c' := by
  cases a with
  | request =>
    simp only [Joint.step] at h
    split at h
    · next hnone =>
        obtain ⟨child, hstep, rfl⟩ := Option.map_eq_some_iff.mp h
        refine hc.child_step hstep (fun u hu => ?_) (fun u hu => ?_)
        · cases hu
          exact Serves.request hc.child hstep
        · rw [hnone] at hu
          cases hu
    · cases h
  | child =>
    obtain ⟨child, hstep, rfl⟩ := Option.map_eq_some_iff.mp h
    exact hc.child_step hstep (fun t ht => (hc.serving t ht).step hstep) (fun t ht => ht)
  | host =>
    simp only [Joint.step] at h
    split at h
    · cases h
    · next observed hobserved =>
        obtain ⟨host, hstep, rfl⟩ := Option.map_eq_some_iff.mp h
        exact hc.host_turn hobserved hstep
  | others =>
    cases h
    exact ⟨hc.child, hc.serving, hc.waiting, hc.cancelled⟩

/-- The serving thread has no stream in the table once the host has its reason to report
`Cancelled`. -/
theorem Agrees.no_stream (hc : Agrees limits declared p c)
    (hreason : (∃ state, state ≠ .completed ∧ SettledAs p c state) ∨ AnsweredFailure c) {t : Nat}
    (ht : c.serving = some t) (streamId : Nat) : c.child.shared.streams[streamId]? ≠ some t := by
  intro hstream
  obtain ⟨pc, hpc, hopened, id, hid⟩ := opened_of_stream hc.child hstream
  rcases hreason with ⟨state, hstate, u, hu⟩ | ⟨t', failure, ht', hpc'⟩
  · -- the settlement is the thread's own, and that thread settles with `completed`
    obtain rfl := (hc.serving t ht).started id hid
    obtain rfl : t = u := (blamed_of_reaches hc.child u _ state hu hstate).2 t hid
    exact hstate ((settled_of_opened hc.child hpc hopened).2 _ state hu)
  · rw [ht] at ht'
    cases ht'
    rw [hpc] at hpc'
    cases hpc'
    cases hopened

end Joint

/-- **Host and child agree on a stream open.** In every run of the host's open and the child: when the
open has returned `Cancelled`, the child holds no stream of its serving thread, then and later; and
when the serving thread has answered that it has opened a stream, it has settled for the open with
`completed` and with nothing else. -/
theorem stream_open_agreement (validateFor : Settlement → Option String) (p : Params)
    (limits : Limits) (declared : ExtTreeMap Nat Binding) (g : Generation)
    {acts : List (JointAct V)} {c : Joint V}
    (hrun : run (Joint.step validateFor p) (Joint.init limits declared g) acts = some c) {t : Nat}
    (ht : c.serving = some t) :
    (∀ requestId, c.host.phase = .returned (.error (.cancelled requestId)) →
      ∀ streamId : Nat, c.child.shared.streams[streamId]? ≠ some t) ∧
    ∀ streamId, c.child.pool[t]? =
        some (.finished (.work .openStream) (.answered (.opened streamId))) →
      .settled t (p.correlationId, p.scopeId) .completed ∈ c.child.shared.events ∧
      ∀ q state, .settled t q state ∈ c.child.shared.events → state = .completed := by
  have hc : Agrees limits declared p c :=
    run_invariant (fun _ _ _ hc hs => hc.step hs) (Agrees.init g) hrun
  refine ⟨fun requestId hphase streamId => hc.no_stream (hc.cancelled requestId hphase) ht streamId,
    fun streamId hpc => ?_⟩
  obtain ⟨hsent, hall⟩ := settled_of_opened hc.child hpc rfl
  obtain ⟨q, hq⟩ := hsent rfl
  exact ⟨(hc.serving t ht).settled q _ hq ▸ hq, hall⟩

/-- Thread 2 serves an open with id 7; its handler is called. -/
def requested : List (JointAct Nat) :=
  constructs.map .child ++ [.request 2, .child (.move 2 .go 0)]

/-- The caller cancels, and the message reaches the child before the stream is opened. -/
def cancelsInTime : List (JointAct Nat) :=
  requested ++
    [.host .cancellation, .child (.start 3 (.cancel 7 107)), .child (.move 3 .go 0),
      .child (.move 2 (.opened .opened) 0), .child (.move 2 .go 0),
      .host (.settlement ⟨"session", 107, 7, .cancelled⟩), .child (.move 2 (.callback none) 0),
      .host .answer]

/-- The caller cancels when the stream is open; the cancel message finds nothing to cancel. -/
def cancelsLate : List (JointAct Nat) :=
  requested ++
    [.child (.move 2 (.opened .opened) 0), .host .cancellation, .child (.start 3 (.cancel 7 107)),
      .child (.move 3 .go 0), .child (.move 2 .go 0),
      .host (.settlement ⟨"session", 107, 7, .completed⟩), .child (.move 2 (.callback none) 0),
      .host .answer]

theorem stream_open_agreement_sample :
    (∃ c, run (Joint.step (fun _ => none) (sampleParams 7))
        (Joint.init sampleLimits sampleProviders sampleTables) cancelsInTime = some c ∧
      c.host.phase = .returned (.error (.cancelled 7)) ∧
      ∀ streamId : Nat, c.child.shared.streams[streamId]? ≠ some 2) ∧
    ∃ c, run (Joint.step (fun _ => none) (sampleParams 7))
        (Joint.init sampleLimits sampleProviders sampleTables) cancelsLate = some c ∧
      c.child.pool[2]? = some (.finished (.work .openStream) (.answered (.opened 1))) ∧
      .settled 2 (7, 107) .completed ∈ c.child.shared.events := by
  constructor
  · have hc : ∃ c, run (Joint.step (fun _ => none) (sampleParams 7))
        (Joint.init sampleLimits sampleProviders sampleTables) cancelsInTime = some c ∧
        c.host.phase = .returned (.error (.cancelled 7)) ∧ c.serving = some 2 :=
      ⟨_, rfl, rfl, rfl⟩
    obtain ⟨c, hrun, hphase, hserving⟩ := hc
    exact ⟨c, hrun, hphase, (stream_open_agreement _ _ _ _ _ hrun hserving).1 7 hphase⟩
  · have hc : ∃ c, run (Joint.step (fun _ => none) (sampleParams 7))
        (Joint.init sampleLimits sampleProviders sampleTables) cancelsLate = some c ∧
        c.child.pool[2]? = some (.finished (.work .openStream) (.answered (.opened 1))) ∧
        c.serving = some 2 :=
      ⟨_, rfl, rfl, rfl⟩
    obtain ⟨c, hrun, hpc, hserving⟩ := hc
    exact ⟨c, hrun, hpc, ((stream_open_agreement _ _ _ _ _ hrun hserving).2 1 hpc).1⟩

end LensoBun.AuthoringV2.StreamOpen
