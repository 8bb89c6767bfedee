import LensoBun.Lib.Custody
import LensoBun.Transport.RpcCalls

set_option autoImplicit false

/-! # The registries of the JSON-RPC transport

A call enters its flag and its response channel in two registries before it is queued, and the
worker that executes it takes both out again when it is done; in between a cancel or `fail_all` may
take them out. Whatever the interleaving, an entry belongs to a call that is being made, is queued
or is being executed; so the registries are empty when there is none, and each call that was
admitted has been resolved exactly once, unless its owner has dropped it (`registries_settle`).
-/

namespace LensoBun.Transport.JsonRpc

open Std Lib

variable {V : Type}

/-! ## Resolved once -/

/-- The traces a call leaves: it is or was pending, it has been admitted. -/
inductive Mark where
  | entered (u : Nat)
  | admitted (u : Nat)

def Mark.thread : Mark → Nat
  | .entered u | .admitted u => u

def Mark.present (s : Logged (Shared V) CallEvent) : Mark → Prop
  | .entered u => Entered s.state.pending u ∨ .resolved u ∈ s.log
  | .admitted u => .admitted u ∈ s.log

/-- Where the thread can be that has left it. -/
def Mark.fits (pc : Pc V) : Mark → Prop
  | .entered _ => pc.early = false
  | .admitted _ => pc.calling = false

/-- Each call has been resolved at most once, and not while it is pending; an admitted call is
pending, has been resolved or was dropped. -/
structure Resolving (s : Logged (Shared V) CallEvent) : Prop where
  once : ∀ u, s.log.count (.resolved u) ≤ 1
  pending : ∀ u, Entered s.state.pending u → .resolved u ∉ s.log
  admitted : ∀ u, .admitted u ∈ s.log →
    Entered s.state.pending u ∨ .resolved u ∈ s.log ∨ .dropped u ∈ s.log

section

variable {calls : Nat → Call} {s : Logged (Shared V) CallEvent} {t u : Nat} {pc : Pc V}
  {k : Input V} {m : Moved (Shared V) (Pc V)}

theorem admitted_mem (hm : move s.state t pc k = some m)
    (hu : .admitted u ∈ callEvents s.state t pc k m) :
    u = t ∧ pc.sends = true ∧ m.next.calling = false ∧ m.shared.pending = s.state.pending := by
  rcases move_cases hm with ⟨lane, call, ch, rfl, htaken, rfl⟩ | ⟨hmoves, -⟩
  · cases hu
  · obtain ⟨s', next, child⟩ := m
    have hmoves : Moves s.state t pc k s' next := hmoves
    cases hmoves with
    | queue =>
      cases List.mem_singleton.mp hu
      exact ⟨rfl, rfl, rfl, rfl⟩
    | drop => cases List.mem_singleton.mp hu
    | finishPending | notPending | finishEvent => simp [callEvents, sentTo] at hu
    | failPending | failEvent | failStream => simp [callEvents, drained] at hu
    | _ => cases hu

theorem Mark.fits.move {x : Mark} (hx : x.fits pc) (hm : JsonRpc.move s.state t pc k = some m) :
    x.fits m.next := by
  rcases move_cases hm with ⟨lane, call, ch, rfl, htaken, rfl⟩ | ⟨hmoves, -⟩
  · cases x <;> rfl
  · cases x with
    | entered =>
      have hx : pc.early = false := hx
      show m.next.early = false
      by_contra hnext
      rw [Bool.not_eq_false] at hnext
      rw [early_moves hmoves hnext] at hx
      cases hx
    | admitted =>
      have hx : pc.calling = false := hx
      show m.next.calling = false
      by_contra hnext
      rw [Bool.not_eq_false] at hnext
      rw [calling_moves hmoves hnext] at hx
      cases hx

theorem mark_before {x : Mark} (hm : move s.state t pc k = some m)
    (hx : x.present ⟨m.shared, s.log ++ callEvents s.state t pc k m⟩) :
    x.present s ∨ x.thread = t ∧ x.fits m.next := by
  have htouch := move_touch hm
  cases x with
  | entered =>
    rcases hx with hentered | hresolved
    · rcases htouch.before hentered with hbefore | ⟨hself, -, hnext⟩
      · exact Or.inl (Or.inl hbefore)
      · exact Or.inr ⟨hself, early_of_sends hnext⟩
    · rcases List.mem_append.mp hresolved with hold | hnew
      · exact Or.inl (Or.inr hold)
      · exact Or.inl (Or.inl (htouch.resolves hnew))
  | admitted =>
    rcases List.mem_append.mp hx with hold | hnew
    · exact Or.inl hold
    · obtain ⟨hself, -, hnext, -⟩ := admitted_mem hm hnew
      exact Or.inr ⟨hself, hnext⟩

theorem marks_backed :
    Backs ((program (V := V)).logged callEvents) Mark.present Mark.thread (fun pc x => x.fits pc) where
  move s t pc k m' hm' hfits x hx := by
    obtain ⟨m, hm, rfl⟩ := logged_move hm'
    rcases mark_before hm hx with hbefore | hself
    · by_cases ht : x.thread = t
      · exact Or.inr ⟨ht, (hfits x hbefore ht).move hm⟩
      · exact Or.inl ⟨ht, x, hbefore, rfl, fun _ h => h⟩
    · exact Or.inr hself

theorem Resolving.move (hids : ∀ t u, (calls t).key = (calls u).key → t = u)
    (hs : Located calls s.state) (hpc : Aware calls s t pc)
    (hfits : ∀ x : Mark, x.present s → x.thread = t → x.fits pc) (hr : Resolving s)
    (hm : JsonRpc.move s.state t pc k = some m) :
    Resolving ⟨m.shared, s.log ++ callEvents s.state t pc k m⟩ := by
  have htouch := move_touch hm
  refine ⟨?_, ?_, ?_⟩
  · intro u
    rw [List.count_append]
    have hle := htouch.count_le hs u
    by_cases hnew : .resolved u ∈ callEvents s.state t pc k m
    · have hold : s.log.count (.resolved u) = 0 :=
        List.count_eq_zero.mpr (hr.pending u (htouch.resolves hnew))
      omega
    · have hnone := List.count_eq_zero.mpr hnew
      have honce := hr.once u
      omega
  · intro u hentered hresolved
    rcases List.mem_append.mp hresolved with hold | hnew
    · rcases htouch.before hentered with hbefore | ⟨rfl, hearly, -⟩
      · exact hr.pending u hbefore hold
      · -- a thread that has not entered its call has left no trace
        have hlate : pc.early = false := hfits (.entered u) (Or.inr hold) rfl
        rw [hearly] at hlate
        cases hlate
    · exact htouch.not_entered hs hnew hentered
  · intro u hadmitted
    rcases List.mem_append.mp hadmitted with hold | hnew
    · rcases hr.admitted u hold with hentered | hresolved | hdropped
      · rcases htouch.after hs hpc.named hids hentered with hkept | hnow | ⟨rfl, hcalling | hcancelling⟩
        · exact Or.inl hkept
        · exact Or.inr (Or.inl (List.mem_append_right _ hnow))
        · have hnot : pc.calling = false := hfits (.admitted u) hold rfl
          rw [hcalling] at hnot
          cases hnot
        · exact Or.inr (Or.inr (List.mem_append_left _ (hpc.dropped hcancelling)))
      · exact Or.inr (Or.inl (List.mem_append_left _ hresolved))
      · exact Or.inr (Or.inr (List.mem_append_left _ hdropped))
    · obtain ⟨rfl, hsends, -, hpending⟩ := admitted_mem hm hnew
      rcases hpc.sends hsends with hentered | hresolved
      · exact Or.inl (by rw [hpending]; exact hentered)
      · exact Or.inr (Or.inl (List.mem_append_left _ hresolved))

end

/-! ## Who has an entry -/

/-- An entry of the call of the thread `u`: among the pending calls or among the flags. -/
inductive Entry where
  | pending (u : Nat)
  | flag (u : Nat)

def Entry.thread : Entry → Nat
  | .pending u | .flag u => u

def Entry.present (s : Shared V) : Entry → Prop
  | .pending u => Entered s.pending u
  | .flag u => ∃ (group : Group) (requestId : Nat),
      (s.cancellations.get group)[requestId]? = some u

/-- The call of the thread `u` is in the queue of its lane. -/
def Queued (calls : Nat → Call) (s : Shared V) (u : Nat) : Prop :=
  ∃ call ∈ (s.senders.get (calls u).lane).items, call.flag = u

/-- The thread makes the call and has entered it, or executes it and has not taken the entry
out. -/
def Pc.has (t : Nat) (pc : Pc V) (e : Entry) : Prop :=
  match pc with
  | .caller (.pending _) => e = .flag t
  | .caller (.send _) | .caller (.undoCancellation _ _) => e.thread = t
  | .caller (.undoPending _ _) => e = .pending t
  | .execute (.finishPending call _) => e = .pending call.flag
  | .execute (.finishEvent call _) => e = .pending call.flag ∧ call.call.lane = .event
  | .execute (.finishRetire _) => False
  | .execute pc => e.thread = pc.call.flag
  | .dying _ _ after => after.executing.map HttpCall.flag = some e.thread
  | _ => False

def registryCustody (calls : Nat → Call) :
    Custody (Logged (Shared V) CallEvent) (Pc V) Entry where
  item s e := e.present s.state
  kept s e := Queued calls s.state e.thread
  hands _ t pc e := pc.has t e

section

variable {calls : Nat → Call} {s s' : Shared V} {t u : Nat} {pc next : Pc V} {k : Input V}
  {e : Entry}

theorem Queued.moves (h : Moves s t pc k s' next) (hu : Queued calls s u) :
    Queued calls s' u := by
  cases h with
  | queue call _ ch hsent =>
    obtain ⟨-, -, rfl⟩ := BoundedChannel.trySend_ok hsent
    obtain ⟨queued, hmem, hflag⟩ := hu
    refine ⟨queued, ?_, hflag⟩
    simp only [PerLane.get_set]
    split
    · grind
    · exact hmem
  | _ => exact hu

variable {call : HttpCall} {m : Moved (Shared V) (Pc V)}

theorem Queued.recv {lane : Lane} {ch : BoundedChannel HttpCall}
    (h : (s.senders.get lane).tryRecv = some (call, ch)) (inFlight : PerLane Nat)
    (hu : Queued calls s u) :
    Queued calls { s with senders := s.senders.set lane ch, inFlight := inFlight } u ∨
      u = call.flag := by
  obtain ⟨rest, hitems, rfl⟩ := BoundedChannel.tryRecv_some h
  obtain ⟨queued, hmem, hflag⟩ := hu
  by_cases hlane : lane = (calls u).lane
  · rw [← hlane, hitems] at hmem
    rcases List.mem_cons.mp hmem with rfl | hrest
    · exact Or.inr hflag.symm
    · refine Or.inl ⟨queued, ?_, hflag⟩
      simp only [PerLane.get_set, if_pos hlane]
      exact hrest
  · refine Or.inl ⟨queued, ?_, hflag⟩
    simp only [PerLane.get_set, if_neg hlane]
    exact hmem

theorem has_executeStart (h : e.thread = call.flag) :
    (Pc.execute (executeStart call) : Pc V).has t e := by
  unfold executeStart
  cases call.call.lane <;> exact h

theorem present_of_removeFlag {key : Key} (h : (Entry.flag u).present (s.removeFlag key)) :
    (Entry.flag u).present s := by
  obtain ⟨group, requestId, hfound⟩ := h
  exact ⟨group, requestId, getElem?_of_setGroup_erase hfound⟩

theorem present_of_clearFlags {group : Group} (h : (Entry.flag u).present (s.clearFlags group)) :
    (Entry.flag u).present s := by
  obtain ⟨group', requestId, hfound⟩ := h
  exact ⟨group', requestId, getElem?_of_setGroup_empty hfound⟩

/-- A new entry is in the hands of the thread that has made it. -/
theorem has_of_new (h : Moves s t pc k s' next) (he : e.present s') :
    e.present s ∨ next.has t e := by
  cases e with
  | pending =>
    have htouch : Touches s t pc next s'.pending (callEvents s t pc k ⟨s', next, none⟩) :=
      moves_touch (m := ⟨s', next, none⟩) h
    rcases htouch.before he with hbefore | ⟨rfl, -, hsends⟩
    · exact Or.inl hbefore
    · right
      cases next with
      | caller pc => cases pc <;> first | rfl | cases hsends
      | _ => cases hsends
  | flag =>
    cases h with
    | insertFlag =>
      obtain ⟨group, requestId, hfound⟩ := he
      rw [Shared.insertFlag, getElem?_setGroup_insert] at hfound
      split at hfound
      · cases hfound
        exact Or.inr rfl
      · exact Or.inl ⟨group, requestId, hfound⟩
    | pendingId | noRoom | undoCancellation | takeFlag | finish =>
      exact Or.inl (present_of_removeFlag he)
    | clearFlags | clearStreamFlags => exact Or.inl (present_of_clearFlags he)
    | _ => exact Or.inl he

/-- The flag of a call is gone when its key has been taken out. -/
theorem not_present_removeFlag (hs : Located calls s) :
    ¬ (Entry.flag u).present (s.removeFlag (calls u).key) := by
  rintro ⟨group, requestId, hfound⟩
  rw [Shared.removeFlag, getElem?_setGroup_erase] at hfound
  split at hfound
  · cases hfound
  · next hne =>
      have hkey := hs.cancellations group requestId u hfound
      rw [← hkey] at hne
      exact hne ⟨rfl, rfl⟩

theorem not_entered_take (hs : Located calls s) (result : Resolution V) :
    ¬ Entered (s.takeEntry (calls u).lane (calls u).requestId result).pending u := by
  rintro ⟨lane, requestId, hfound⟩
  rw [Shared.takeEntry, getElem?_set_erase] at hfound
  split at hfound
  · cases hfound
  · next hne =>
      obtain ⟨hlane, hid⟩ := hs.pending lane requestId u hfound
      exact hne ⟨hlane.symm, hid.symm⟩

/-- What `finish` finds in the registry it looks into first is the entry of its call. -/
theorem finishLane_eq (hids : ∀ t u, (calls t).key = (calls u).key → t = u) (hs : Located calls s)
    (hcall : call.call = calls call.flag)
    (hfound : (s.pending.get (finishLane call))[call.call.requestId]?.isSome = true ∨ call.call.lane = .stream) :
    finishLane call = call.call.lane := by
  unfold finishLane at hfound ⊢
  cases hlane : call.call.lane with
  | request => rfl
  | stream => rfl
  | event =>
    -- a request with the id of this event would be another call with the same key
    exfalso
    rcases hfound with hsome | hstream
    · rw [hlane] at hsome
      obtain ⟨v, hv⟩ := Option.isSome_iff_exists.mp hsome
      obtain ⟨hlane', hid⟩ := hs.pending _ _ v hv
      have hkey : (calls v).key = (calls call.flag).key := by
        rw [← hcall, Call.key, Call.key, ← hlane', ← hid, hlane]
        rfl
      rw [hids _ _ hkey, ← hcall, hlane] at hlane'
      cases hlane'
    · rw [hlane] at hstream
      cases hstream

theorem move_finishPending {result : Resolution V}
    (hm : move s t (.execute (.finishPending call result)) k = some m)
    (hnext : m.next = .execute (.finishRetire call)) :
    (s.pending.get (finishLane call))[call.call.requestId]?.isSome = true ∨
      call.call.lane = .stream := by
  by_contra hmissing
  have hmove : executeMove s (.finishPending call result) k =
      some (s, .execute (.finishEvent call result)) := if_neg hmissing
  simp only [move, pcMove, hmove, Option.map_some, Option.some.injEq] at hm
  rw [← hm] at hnext
  cases hnext

/-- What the mover has it queues, goes on to have, or takes out of the registry. -/
theorem has_moves (hids : ∀ t u, (calls t).key = (calls u).key → t = u) (hs : Located calls s)
    (hpc : Named calls t pc) (hm : move s t pc k = some m) (h : Moves s t pc k m.shared m.next)
    (hhas : pc.has t e) (he : e.present m.shared) :
    Queued calls m.shared e.thread ∨ m.next.has t e := by
  obtain ⟨s', next, child⟩ := m
  have h : Moves s t pc k s' next := h
  have he : e.present s' := he
  cases h with
  | insertCall =>
    cases hhas
    exact Or.inr rfl
  | pendingId call | noRoom call =>
    cases hhas
    rw [hpc.made call rfl] at he
    exact absurd he (not_present_removeFlag hs)
  | queue call _ ch hsent =>
    obtain ⟨-, -, rfl⟩ := BoundedChannel.trySend_ok hsent
    have ht : e.thread = t := hhas
    refine Or.inl ⟨⟨call, t⟩, ?_, ht.symm⟩
    rw [ht, ← hpc.made call rfl, PerLane.get_set, if_pos rfl]
    exact List.mem_append_right _ List.mem_cons_self
  | sendFails => exact Or.inr hhas
  | undoCancellation call =>
    cases e with
    | pending => exact Or.inr (congrArg Entry.pending hhas)
    | flag u =>
      have hu : u = t := hhas
      rw [hpc.made call rfl, ← hu] at he
      exact absurd he (not_present_removeFlag hs)
  | undoFull call | undoStopped call =>
    cases hhas
    rw [hpc.made call rfl] at he
    exact absurd he (not_entered_take hs _)
  | failed => exact Or.inr (congrArg some hhas.symm)
  | finish call =>
    have hcall := hpc.executing call rfl
    cases e with
    | pending => exact Or.inr (congrArg Entry.pending hhas)
    | flag u =>
      have hu : u = call.flag := hhas
      rw [hcall, ← hu] at he
      exact absurd he (not_present_removeFlag hs)
  | finishPending call =>
    have hcall := hpc.executing call rfl
    have hlane := finishLane_eq hids hs hcall (move_finishPending hm rfl)
    cases hhas
    rw [hlane, hcall] at he
    exact absurd he (not_entered_take hs _)
  | notPending call result _ hmissing hlane =>
    have hcall := hpc.executing call rfl
    cases hhas
    obtain ⟨lane, requestId, hfound⟩ := he
    obtain ⟨hlane', hid⟩ := hs.pending _ _ _ hfound
    rw [hcall] at hlane hmissing
    refine Or.inr ⟨rfl, ?_⟩
    rw [hcall]
    cases hl : (calls call.flag).lane with
    | request =>
      rw [hlane', hl, hid] at hfound
      exact absurd (hmissing.symm.trans hfound) (by simp)
    | event => rfl
    | stream => exact absurd hl hlane
  | finishEvent call =>
    have hcall := hpc.executing call rfl
    obtain ⟨rfl, hlane⟩ := hhas
    rw [← hlane, hcall] at he
    exact absurd he (not_entered_take hs _)
  | killed failure after | notify failure after =>
    cases after with
    | execute => exact Or.inr (Option.some.inj hhas).symm
    | _ => cases hhas
  | _ => first | exact Or.inr hhas | cases hhas

end

theorem registryCustody_valid (calls : Nat → Call)
    (hids : ∀ t u, (calls t).key = (calls u).key → t = u) :
    (registryCustody calls).Valid ((program (V := V)).logged callEvents) (ownCalls calls)
      (registering calls) where
  move s t pc k m' e hs hpc _ hm' he hbefore := by
    obtain ⟨m, hm, rfl⟩ := logged_move hm'
    rcases move_cases hm with ⟨lane, call, ch, rfl, htaken, rfl⟩ | ⟨hmoves, -⟩
    · -- the call that the worker takes off the queue is in the hands of its new thread
      rcases hbefore he with hqueued | hhas
      · rcases hqueued.recv htaken _ with hstill | hthread
        · exact Or.inl hstill
        · exact Or.inr (Or.inr ⟨_, rfl, fun u => has_executeStart hthread⟩)
      · cases hhas
    · have hcases : e.present s.state ∨ m.next.has t e := has_of_new hmoves he
      rcases hcases with hold | hnew
      · rcases hbefore hold with hqueued | hhas
        · exact Or.inl (hqueued.moves hmoves)
        · exact (has_moves hids hs hpc.named hm hmoves hhas he).imp_right Or.inl
      · exact Or.inr (Or.inl hnew)
  other s t pc k m' u pc' e _ _ _ _ hm' _ hhas := hhas

/-! ## Empty registries -/

/-- No thread is inside `call` or `stream_request` or executes a call, and the queues are empty. -/
structure Idle (c : Threads (Logged (Shared V) CallEvent) (Pc V)) : Prop where
  threads : ∀ (t : Nat) (pc : Pc V), c.pool[t]? = some pc →
    pc.calling = false ∧ pc.executing = none
  queues : ∀ lane : Lane, (c.shared.state.senders.get lane).items = []

/-- The call of the thread `u` with the given id is being made, is queued or is being executed. -/
def UnderWay (c : Threads (Logged (Shared V) CallEvent) (Pc V)) (requestId u : Nat) : Prop :=
  (∃ pc : Pc V, c.pool[u]? = some pc ∧ pc.calling = true) ∨
  (∃ lane : Lane, ∃ call ∈ (c.shared.state.senders.get lane).items,
    call.flag = u ∧ call.call.requestId = requestId) ∨
  ∃ (t : Nat) (pc : Pc V) (call : HttpCall), c.pool[t]? = some pc ∧
    pc.executing = some call ∧ call.flag = u ∧ call.call.requestId = requestId

section

variable {calls : Nat → Call} {c : Threads (Logged (Shared V) CallEvent) (Pc V)} {t u : Nat}
  {pc : Pc V} {e : Entry}

/-- The thread that has an entry is making the call or executing it. -/
theorem calling_or_executing (h : pc.has t e) :
    e.thread = t ∧ pc.calling = true ∨ ∃ call, pc.executing = some call ∧ call.flag = e.thread := by
  cases pc with
  | caller pc =>
    cases pc with
    | pending | undoPending =>
      cases h
      exact Or.inl ⟨rfl, rfl⟩
    | send | undoCancellation => exact Or.inl ⟨h, rfl⟩
    | _ => cases h
  | execute pc =>
    right
    refine ⟨pc.call, rfl, ?_⟩
    cases pc with
    | finishPending =>
      cases h
      rfl
    | finishEvent =>
      cases h.1
      rfl
    | finishRetire => cases h
    | _ => exact h.symm
  | dying =>
    obtain ⟨call, hcall, hflag⟩ := Option.map_eq_some_iff.mp h
    exact Or.inr ⟨call, hcall, hflag⟩
  | _ => cases h

theorem underWay_of_present (hO : (registering calls).Holds c)
    (hK : (registryCustody calls).Holds c) (he : e.present c.shared.state) :
    UnderWay c (calls e.thread).requestId e.thread := by
  rcases hK e he with ⟨call, hmem, hflag⟩ | ⟨t, pc, hpc, hhas⟩
  · refine Or.inr (Or.inl ⟨_, call, hmem, hflag, ?_⟩)
    rw [hO.shared.queued _ call hmem, hflag]
  · rcases calling_or_executing hhas with ⟨hself, hcalling⟩ | ⟨call, hexecuting, hflag⟩
    · exact Or.inl ⟨pc, hself ▸ hpc, hcalling⟩
    · refine Or.inr (Or.inr ⟨t, pc, call, hpc, hexecuting, hflag, ?_⟩)
      rw [(hO.at_ t pc hpc).named.executing call hexecuting, hflag]

theorem Idle.not_underWay (h : Idle c) (requestId : Nat) : ¬ UnderWay c requestId u := by
  rintro (⟨pc, hpc, hcalling⟩ | ⟨lane, call, hmem, -⟩ | ⟨t, pc, call, hpc, hexecuting, -⟩)
  · rw [(h.threads u pc hpc).1] at hcalling
    cases hcalling
  · rw [h.queues lane] at hmem
    cases hmem
  · rw [(h.threads t pc hpc).2] at hexecuting
    cases hexecuting

end

theorem registering_init (calls : Nat → Call) (queueCapacity eventQueueCapacity : Nat)
    (capability : String) :
    (registering calls).Holds
      (init (V := V) queueCapacity eventQueueCapacity capability).logged := by
  refine ⟨⟨?_, ?_, ?_⟩, ?_, fun _ _ _ _ _ _ _ => trivial⟩
  · intro lane requestId u hfound
    cases lane <;> cases hfound
  · intro group requestId u hfound
    cases group <;> cases hfound
  · intro lane call hmem
    cases lane <;> cases hmem
  · intro t pc hpc
    simp only [Threads.logged, init, getElem?_insert_nat] at hpc
    repeat' split at hpc
    all_goals
      cases hpc
      try exact aware_of_none rfl rfl rfl rfl

/-- Thread 5 makes a request, thread 6 publishes an event. -/
def sampleCalls (t : Nat) : Call := ⟨if t = 6 then .event else .request, t, "example.store@1", "op"⟩

def callActs (t : Nat) : List (Act (Pc Nat) (Input Nat)) :=
  [.start t (.caller (.enter (sampleCalls t))), .move t .go 0, .move t (.encoded true) 0,
    .move t .go 0, .move t .go 0, .move t .go 0, .move t .go 0]

end LensoBun.Transport.JsonRpc
