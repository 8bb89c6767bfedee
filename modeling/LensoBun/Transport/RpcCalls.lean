import LensoBun.Lib.History
import LensoBun.Transport.JsonRpc

set_option autoImplicit false

/-! # The calls of the JSON-RPC transport and their entries

What the steps of the transport do to the registry of pending calls (`Touches`): a call is entered,
taken out by the thread that makes or cancels it, or resolved. And what is known of the entries
(`registering`): each stands under the key of its call, and each thread has to do with the entries
of its own call, or of the call it executes.

`calls t` is the call that the thread `t` makes. Request ids are not reused: the keys of the calls
are different. Admissions, resolutions and drops are read off the log of the run.
-/

namespace LensoBun.Transport.JsonRpc

open Std Lib

variable {V : Type}

/-! ## What happens to a call -/

inductive CallEvent where
  /-- `call` or `stream_request` has returned the call to its owner. -/
  | admitted (u : Nat)
  | dropped (u : Nat)
  | resolved (u : Nat)
  deriving DecidableEq, Repr

/-- The results that `fail_all` sends when it empties a registry. -/
def drained (pending : PendingResponses) : List CallEvent :=
  pending.toList.map (fun entry => .resolved entry.2)

/-- The result that `finish` sends, if the id is in the registry. -/
def sentTo (pending : PendingResponses) (requestId : Nat) : List CallEvent :=
  pending[requestId]?.toList.map .resolved

def callEvents (s : Shared V) (t : Nat) (pc : Pc V) (k : Input V)
    (m : Moved (Shared V) (Pc V)) : List CallEvent :=
  match pc, k, m.next with
  | .caller (.send _), _, .caller (.holding _) => [.admitted t]
  | .caller (.holding _), .drop, _ => [.dropped t]
  | .execute (.finishPending call _), _, _ =>
    sentTo (s.pending.get (finishLane call)) call.call.requestId
  | .execute (.finishEvent call _), _, _ => sentTo s.pending.event call.call.requestId
  | .dying .pending _ _, _, _ => drained s.pending.request
  | .dying .eventPending _ _, _, _ => drained s.pending.event
  | .dying .streamPending _ _, _, _ => drained s.pending.stream
  | _, _, _ => []

/-! ## Whose a thread is -/

def CallerPc.call : CallerPc → Call
  | .enter call | .refuse call | .encode call | .retired call | .cancellations call
  | .pending call | .send call | .undoCancellation call _ | .undoPending call _ | .stopped call
  | .holding call => call

def ExecutePc.call : ExecutePc V → HttpCall
  | .encode call | .check call | .request call | .recheck call _ | .failed call _
  | .finish call _ | .finishPending call _ | .finishEvent call _ | .finishRetire call => call

def Pc.made : Pc V → Option Call
  | .caller pc => some pc.call
  | _ => none

def After.executing : After → Option HttpCall
  | .execute call _ => some call
  | _ => none

def Pc.executing : Pc V → Option HttpCall
  | .execute pc => some pc.call
  | .dying _ _ after => after.executing
  | _ => none

/-- The key of the call that the thread cancels. -/
def Pc.cancelling : Pc V → Option Key
  | .cancel (.cancellations x) | .cancel (.flag x _) | .cancel (.retire x) => some x.key
  | .cancel (.pending requestId) | .cancel (.eventPending requestId) => some (.call, requestId)
  | .cancel (.streamPending requestId _) => some (.stream, requestId)
  | _ => none

def After.calling : After → Bool
  | .caller _ => true
  | _ => false

/-- The thread is inside `call` or `stream_request`. -/
def Pc.calling : Pc V → Bool
  | .caller (.holding _) => false
  | .caller _ => true
  | .dying _ _ after => after.calling
  | _ => false

/-- The call has not been entered among the pending ones. -/
def Pc.early : Pc V → Bool
  | .caller (.enter _) | .caller (.refuse _) | .caller (.encode _) | .caller (.retired _)
  | .caller (.cancellations _) | .caller (.pending _) => true
  | _ => false

def Pc.sends : Pc V → Bool
  | .caller (.send _) => true
  | _ => false

theorem early_of_sends {pc : Pc V} (h : pc.sends = true) : pc.early = false := by
  cases pc with
  | caller pc => cases pc <;> first | rfl | cases h
  | _ => rfl

theorem key_dropped (call : Call) : (dropped call).key = call.key := by
  unfold dropped Call.key Call.lane
  cases call.kind <;> rfl

section

variable {s s' : Shared V} {t : Nat} {pc next : Pc V} {k : Input V}

theorem made_moves {call : Call} (h : Moves s t pc k s' next) (hnext : next.made = some call) :
    pc.made = some call := by
  cases h with
  | killed failure after | notify failure after => cases after <;> cases hnext
  | _ => first | exact hnext | cases hnext

theorem executing_moves {call : HttpCall} (h : Moves s t pc k s' next)
    (hnext : next.executing = some call) : pc.executing = some call := by
  cases h with
  | killed failure after | notify failure after => cases after <;> exact hnext
  | _ => first | exact hnext | cases hnext

/-- A thread cancels the call it was cancelling, or begins to cancel its own. -/
theorem cancelling_moves {key : Key} (h : Moves s t pc k s' next)
    (hnext : next.cancelling = some key) :
    pc.cancelling = some key ∨ ∃ call, pc = .caller (.holding call) ∧ k = .drop ∧
      key = call.key := by
  cases h with
  | drop call => grind [Pc.cancelling, key_dropped]
  | setFlag x =>
    left
    cases x <;> exact hnext
  | retire x => cases x <;> cases hnext
  | killed failure after | notify failure after => cases after <;> cases hnext
  | _ => first | exact Or.inl hnext | cases hnext

theorem early_moves (h : Moves s t pc k s' next) (hnext : next.early = true) :
    pc.early = true := by
  cases h with
  | killed failure after | notify failure after => cases after <;> cases hnext
  | _ => first | rfl | cases hnext

theorem calling_moves (h : Moves s t pc k s' next) (hnext : next.calling = true) :
    pc.calling = true := by
  cases h with
  | killed failure after | notify failure after => cases after <;> cases hnext
  | _ => first | rfl | exact hnext

end

/-! ## What a step does to the pending calls -/

/-- The call of the thread `u` is among the pending ones. -/
def Entered (pending : PerLane PendingResponses) (u : Nat) : Prop :=
  ∃ (lane : Lane) (requestId : Nat), (pending.get lane)[requestId]? = some u

/-- The pending calls after a step of the thread `t`, and the results it sends. -/
inductive Touches (s : Shared V) (t : Nat) (pc next : Pc V) :
    PerLane PendingResponses → List CallEvent → Prop where
  | keep (events : List CallEvent) (hnone : ∀ u, .resolved u ∉ events) :
      Touches s t pc next s.pending events
  | enter (call : Call) (hpc : pc = .caller (.pending call)) (hnext : next = .caller (.send call))
      (hfree : (s.pending.get call.lane)[call.requestId]? = none) :
      Touches s t pc next (s.insertCall t call).pending []
  /-- The sender is dropped, by the thread that makes the call or that cancels it. -/
  | close (lane : Lane) (requestId : Nat)
      (hown : (∃ call, pc.made = some call ∧ pc.calling = true ∧
          call.key = (lane.group, requestId)) ∨
        pc.cancelling = some (lane.group, requestId)) :
      Touches s t pc next (s.pending.set lane ((s.pending.get lane).erase requestId)) []
  | resolve (lane : Lane) (requestId : Nat) :
      Touches s t pc next (s.pending.set lane ((s.pending.get lane).erase requestId))
        (sentTo (s.pending.get lane) requestId)
  | drain (lane : Lane) :
      Touches s t pc next (s.pending.set lane ∅) (drained (s.pending.get lane))

theorem moves_touch {s : Shared V} {t : Nat} {pc : Pc V} {k : Input V}
    {m : Moved (Shared V) (Pc V)} (h : Moves s t pc k m.shared m.next) :
    Touches s t pc m.next m.shared.pending (callEvents s t pc k m) := by
  obtain ⟨s', next, child⟩ := m
  have h : Moves s t pc k s' next := h
  have hnil : ∀ u, CallEvent.resolved u ∉ ([] : List CallEvent) := fun u => List.not_mem_nil
  cases h with
  | insertCall call _ hfree => exact .enter call rfl rfl hfree
  | queue => exact .keep [.admitted t] (fun u => by simp)
  | undoFull call | undoStopped call =>
    exact .close call.lane call.requestId (Or.inl ⟨call, rfl, rfl, rfl⟩)
  | drop => exact .keep [.dropped t] (fun u => by simp)
  | takeRequest requestId => exact .close .request requestId (Or.inr rfl)
  | takeEvent requestId => exact .close .event requestId (Or.inr rfl)
  | takeStream requestId => exact .close .stream requestId (Or.inr rfl)
  | finishPending call => exact .resolve (finishLane call) call.call.requestId
  | notPending call result _ hmissing hlane =>
    refine .keep _ ?_
    have hfirst : finishLane call = .request := by
      unfold finishLane
      cases hl : call.call.lane with
      | stream => exact absurd hl hlane
      | _ => rfl
    intro u
    simp [callEvents, sentTo, hfirst, PerLane.get, hmissing]
  | finishEvent call => exact .resolve .event call.call.requestId
  | failPending => exact .drain .request
  | failEvent => exact .drain .event
  | failStream => exact .drain .stream
  | _ => exact .keep _ hnil

theorem mem_sentTo {pending : PendingResponses} {requestId u : Nat} :
    .resolved u ∈ sentTo pending requestId ↔ pending[requestId]? = some u := by
  simp [sentTo]

theorem mem_drained {pending : PendingResponses} {u : Nat} :
    .resolved u ∈ drained pending ↔ ∃ requestId : Nat, pending[requestId]? = some u := by
  simp only [drained, List.mem_map, CallEvent.resolved.injEq, Prod.exists,
    ExtTreeMap.mem_toList_iff_getElem?_eq_some]
  constructor
  · grind
  · grind

section

variable {s : Shared V} {t u : Nat} {pc next : Pc V} {pending : PerLane PendingResponses}
  {events : List CallEvent}

/-- A call that is pending after the step was pending before, or the thread has entered it. -/
theorem Touches.before (h : Touches s t pc next pending events) (hu : Entered pending u) :
    Entered s.pending u ∨ u = t ∧ pc.early = true ∧ next.sends = true := by
  obtain ⟨lane, requestId, hfound⟩ := hu
  cases h with
  | keep => exact Or.inl ⟨lane, requestId, hfound⟩
  | enter call hpc hnext =>
    rw [Shared.insertCall, getElem?_set_insert] at hfound
    split at hfound
    · cases hfound
      exact Or.inr ⟨rfl, by rw [hpc]; rfl, by rw [hnext]; rfl⟩
    · exact Or.inl ⟨lane, requestId, hfound⟩
  | close | resolve => exact Or.inl ⟨lane, requestId, getElem?_of_set_erase hfound⟩
  | drain => exact Or.inl ⟨lane, requestId, getElem?_of_set_empty hfound⟩

theorem Touches.resolves (h : Touches s t pc next pending events) (hu : .resolved u ∈ events) :
    Entered s.pending u := by
  cases h with
  | keep _ hnone => exact absurd hu (hnone u)
  | enter => cases hu
  | close => cases hu
  | resolve lane requestId => exact ⟨lane, requestId, mem_sentTo.mp hu⟩
  | drain lane =>
    obtain ⟨requestId, hfound⟩ := mem_drained.mp hu
    exact ⟨lane, requestId, hfound⟩

end

/-! ## Every entry under its own key -/

/-- The entries of the registries and the queued calls are those of `calls`. -/
structure Located (calls : Nat → Call) (s : Shared V) : Prop where
  pending : ∀ (lane : Lane) (requestId u : Nat), (s.pending.get lane)[requestId]? = some u →
    lane = (calls u).lane ∧ requestId = (calls u).requestId
  cancellations : ∀ (group : Group) (requestId u : Nat),
    (s.cancellations.get group)[requestId]? = some u → (group, requestId) = (calls u).key
  queued : ∀ (lane : Lane) (call : HttpCall), call ∈ (s.senders.get lane).items →
    call.call = calls call.flag

/-- What a thread knows of its own call and of the call it executes. -/
structure Named (calls : Nat → Call) (t : Nat) (pc : Pc V) : Prop where
  made : ∀ call, pc.made = some call → call = calls t
  executing : ∀ call, pc.executing = some call → call.call = calls call.flag
  cancelling : ∀ key, pc.cancelling = some key → key = (calls t).key

section

variable {calls : Nat → Call} {s s' : Shared V} {t u : Nat} {pc next : Pc V} {k : Input V}
  {pending : PerLane PendingResponses} {events : List CallEvent}

/-- With fewer entries and fewer queued calls they are still those of `calls`. -/
theorem Located.shrink (hs : Located calls s)
    (hpending : ∀ (lane : Lane) (requestId u : Nat),
      (s'.pending.get lane)[requestId]? = some u → (s.pending.get lane)[requestId]? = some u)
    (hflags : ∀ (group : Group) (requestId u : Nat),
      (s'.cancellations.get group)[requestId]? = some u →
        (s.cancellations.get group)[requestId]? = some u)
    (hqueued : ∀ (lane : Lane) (call : HttpCall), call ∈ (s'.senders.get lane).items →
      call ∈ (s.senders.get lane).items) : Located calls s' :=
  ⟨fun lane requestId u hfound => hs.pending lane requestId u (hpending _ _ _ hfound),
    fun group requestId u hfound => hs.cancellations group requestId u (hflags _ _ _ hfound),
    fun lane call hmem => hs.queued lane call (hqueued _ _ hmem)⟩

theorem Located.take (hs : Located calls s) (lane : Lane) (requestId : Nat)
    (result : Resolution V) : Located calls (s.takeEntry lane requestId result) := by
  refine hs.shrink ?_ (fun _ _ _ h => h) (fun _ _ h => h)
  intro lane' requestId' u hfound
  exact getElem?_of_set_erase hfound

theorem Located.removeFlag (hs : Located calls s) (key : Key) :
    Located calls (s.removeFlag key) := by
  refine hs.shrink (fun _ _ _ h => h) ?_ (fun _ _ h => h)
  intro group requestId u hfound
  exact getElem?_of_setGroup_erase hfound

theorem Located.clearFlags (hs : Located calls s) (group : Group) :
    Located calls (s.clearFlags group) := by
  refine hs.shrink (fun _ _ _ h => h) ?_ (fun _ _ h => h)
  intro group' requestId u hfound
  exact getElem?_of_setGroup_empty hfound

theorem Located.drain (hs : Located calls s) (lane : Lane) (failure : RuntimeFailure) :
    Located calls (s.drain lane failure) := by
  refine hs.shrink ?_ (fun _ _ _ h => h) (fun _ _ h => h)
  intro lane' requestId u hfound
  exact getElem?_of_set_empty hfound

theorem Located.moves (hs : Located calls s) (hpc : Named calls t pc)
    (h : Moves s t pc k s' next) : Located calls s' := by
  cases h with
  | insertFlag call =>
    have hcall : call = calls t := hpc.made call rfl
    refine ⟨hs.pending, ?_, hs.queued⟩
    intro group requestId u hfound
    rw [Shared.insertFlag, getElem?_setGroup_insert] at hfound
    split at hfound
    · next hkey =>
        cases hfound
        rw [← hcall, Call.key, hkey.1, hkey.2]
    · exact hs.cancellations group requestId u hfound
  | insertCall call =>
    have hcall : call = calls t := hpc.made call rfl
    refine ⟨?_, hs.cancellations, hs.queued⟩
    intro lane requestId u hfound
    rw [Shared.insertCall, getElem?_set_insert] at hfound
    split at hfound
    · grind
    · exact hs.pending lane requestId u hfound
  | queue call _ ch hsent =>
    obtain ⟨-, -, rfl⟩ := BoundedChannel.trySend_ok hsent
    refine ⟨hs.pending, hs.cancellations, ?_⟩
    intro lane queued hmem
    simp only [PerLane.get_set] at hmem
    split at hmem
    · rcases List.mem_append.mp hmem with hold | hnew
      · exact hs.queued _ queued hold
      · cases List.mem_singleton.mp hnew
        exact hpc.made call rfl
    · exact hs.queued lane queued hmem
  | pendingId call | noRoom call | undoCancellation call => exact hs.removeFlag call.key
  | takeFlag x => exact hs.removeFlag x.key
  | finish call => exact hs.removeFlag call.call.key
  | undoFull | undoStopped | takeRequest | takeEvent | takeStream | finishPending
  | finishEvent => exact hs.take ..
  | clearFlags => exact hs.clearFlags _
  | clearStreamFlags => exact hs.clearFlags _
  | failPending | failEvent | failStream => exact hs.drain ..
  | _ => exact ⟨hs.pending, hs.cancellations, hs.queued⟩

theorem Located.recv (hs : Located calls s) {lane : Lane} {call : HttpCall}
    {ch : BoundedChannel HttpCall} (h : (s.senders.get lane).tryRecv = some (call, ch))
    (inFlight : PerLane Nat) :
    Located calls { s with senders := s.senders.set lane ch, inFlight := inFlight } ∧
      call.call = calls call.flag := by
  obtain ⟨rest, hitems, rfl⟩ := BoundedChannel.tryRecv_some h
  refine ⟨hs.shrink (fun _ _ _ h => h) (fun _ _ _ h => h) ?_, ?_⟩
  · grind [PerLane.get_set]
  · refine hs.queued lane call ?_
    rw [hitems]
    exact List.mem_cons_self

theorem Named.moves (hpc : Named calls t pc) (h : Moves s t pc k s' next) :
    Named calls t next := by
  refine ⟨fun call hnext => hpc.made call (made_moves h hnext),
    fun call hnext => hpc.executing call (executing_moves h hnext), fun key hnext => ?_⟩
  rcases cancelling_moves h hnext with hbefore | ⟨call, rfl, -, rfl⟩
  · exact hpc.cancelling key hbefore
  · rw [hpc.made call rfl]

/-- A pending call stays pending or is resolved, unless it is the mover's own. -/
theorem Touches.after (hs : Located calls s) (hpc : Named calls t pc)
    (hids : ∀ t u, (calls t).key = (calls u).key → t = u) (h : Touches s t pc next pending events)
    (hu : Entered s.pending u) :
    Entered pending u ∨ .resolved u ∈ events ∨
      u = t ∧ (pc.calling = true ∨ pc.cancelling.isSome = true) := by
  obtain ⟨lane, requestId, hfound⟩ := hu
  cases h with
  | keep => exact Or.inl ⟨lane, requestId, hfound⟩
  | enter call _ _ hfree =>
    refine Or.inl ⟨lane, requestId, ?_⟩
    rw [Shared.insertCall, getElem?_set_insert]
    split
    · next hplace =>
        rw [← hplace.1, ← hplace.2, hfree] at hfound
        cases hfound
    · exact hfound
  | close lane' requestId' hown =>
    by_cases hplace : lane' = lane ∧ requestId' = requestId
    · -- the entry has the key of the thread's own call
      obtain ⟨rfl, rfl⟩ := hplace
      obtain ⟨hlane, hid⟩ := hs.pending _ _ u hfound
      have hkey : (calls u).key = (lane'.group, requestId') := by rw [Call.key, ← hlane, ← hid]
      rcases hown with ⟨call, hmade, hcalling, hcall⟩ | hcancelling
      · grind [hpc.made]
      · have hown := hpc.cancelling _ hcancelling
        rw [← hkey] at hown
        exact Or.inr (Or.inr ⟨hids _ _ hown, Or.inr (by rw [hcancelling]; rfl)⟩)
    · refine Or.inl ⟨lane, requestId, ?_⟩
      rw [getElem?_set_erase, if_neg hplace]
      exact hfound
  | resolve lane' requestId' =>
    by_cases hplace : lane' = lane ∧ requestId' = requestId
    · obtain ⟨rfl, rfl⟩ := hplace
      exact Or.inr (Or.inl (mem_sentTo.mpr hfound))
    · refine Or.inl ⟨lane, requestId, ?_⟩
      rw [getElem?_set_erase, if_neg hplace]
      exact hfound
  | drain lane' =>
    by_cases hlane : lane' = lane
    · rw [← hlane] at hfound
      exact Or.inr (Or.inl (mem_drained.mpr ⟨requestId, hfound⟩))
    · refine Or.inl ⟨lane, requestId, ?_⟩
      rw [getElem?_set_empty, if_neg hlane]
      exact hfound

theorem Touches.not_entered (hs : Located calls s) (h : Touches s t pc next pending events)
    (hu : .resolved u ∈ events) : ¬ Entered pending u := by
  rintro ⟨lane, requestId, hfound⟩
  cases h with
  | keep _ hnone => exact hnone u hu
  | enter => cases hu
  | close => cases hu
  | resolve =>
    rw [getElem?_set_erase] at hfound
    split at hfound
    · cases hfound
    · next hplace =>
        obtain ⟨hlane, hid⟩ := hs.pending _ _ u hfound
        obtain ⟨hlane', hid'⟩ := hs.pending _ _ u (mem_sentTo.mp hu)
        exact hplace ⟨hlane'.trans hlane.symm, hid'.trans hid.symm⟩
  | drain =>
    rw [getElem?_set_empty] at hfound
    split at hfound
    · cases hfound
    · next hne =>
        obtain ⟨requestId', hfound'⟩ := mem_drained.mp hu
        have hlane := (hs.pending _ _ u hfound).1
        have hlane' := (hs.pending _ _ u hfound').1
        exact hne (hlane'.trans hlane.symm)

theorem Touches.count_le (hs : Located calls s) (h : Touches s t pc next pending events) (u : Nat) :
    events.count (.resolved u) ≤ 1 := by
  cases h with
  | keep _ hnone => rw [List.count_eq_zero.mpr (hnone u)]; omega
  | enter => exact Nat.zero_le 1
  | close => exact Nat.zero_le 1
  | resolve lane requestId => grind [sentTo]
  | drain =>
    -- the ids of the entries differ, and the id of a call tells its thread
    refine List.nodup_iff_count_le_one.mp (List.pairwise_map.mpr ?_) _
    refine List.Pairwise.imp_of_mem ?_ ExtTreeMap.distinct_keys_toList
    intro a b ha hb hkeys hsame
    have hfound := ExtTreeMap.mem_toList_iff_getElem?_eq_some.mp ha
    have hfound' := ExtTreeMap.mem_toList_iff_getElem?_eq_some.mp hb
    rw [CallEvent.resolved.injEq] at hsame
    rw [← hsame] at hfound'
    have hid : a.1 = b.1 := (hs.pending _ _ _ hfound).2.trans (hs.pending _ _ _ hfound').2.symm
    exact hkeys (Std.compare_eq_iff_eq.mpr hid)

end

/-! ## The invariants of a run -/

/-- Each thread that makes a call makes the one that `calls` says. -/
def Pc.opensCall (calls : Nat → Call) (t : Nat) : Pc V → Bool
  | .caller (.enter call) => call == calls t
  | _ => true

def ownCalls (calls : Nat → Call) : Guard (Logged (Shared V) CallEvent) (Pc V) (Input V) where
  self _ _ _ _ := True
  start _ t pc := pc.opensCall calls t = true

instance (calls : Nat → Call) (c : Threads (Logged (Shared V) CallEvent) (Pc V)) (a : Act (Pc V) (Input V)) :
    Decidable ((ownCalls calls).Allows c a) := Guard.decidable c a

/-- What a thread knows of itself: its calls, that a cancel comes after the drop, and that the
call that is about to be queued is pending or has been resolved. -/
structure Aware (calls : Nat → Call) (s : Logged (Shared V) CallEvent) (t : Nat) (pc : Pc V) :
    Prop where
  named : Named calls t pc
  dropped : pc.cancelling.isSome = true → .dropped t ∈ s.log
  sends : pc.sends = true → Entered s.state.pending t ∨ .resolved t ∈ s.log

def registering (calls : Nat → Call) : Outline (Logged (Shared V) CallEvent) (Pc V) where
  Shared s := Located calls s.state
  At := Aware calls
  Pair _ _ _ _ := True

section

variable {calls : Nat → Call} {s : Logged (Shared V) CallEvent} {t u : Nat} {pc pc' next : Pc V}
  {k : Input V} {m : Moved (Shared V) (Pc V)}

theorem aware_of_none (hmade : pc.made = none) (hexecuting : pc.executing = none)
    (hcancelling : pc.cancelling = none) (hsends : pc.sends = false) : Aware calls s t pc := by
  refine ⟨⟨?_, ?_, ?_⟩, ?_, ?_⟩
  · intro call h
    rw [hmade] at h
    cases h
  · intro call h
    rw [hexecuting] at h
    cases h
  · intro key h
    rw [hcancelling] at h
    cases h
  · intro h
    rw [hcancelling] at h
    cases h
  · intro h
    rw [hsends] at h
    cases h

theorem aware_enter {call : Call} (hcall : call = calls t) :
    Aware calls s t (.caller (.enter call)) := by
  refine ⟨⟨?_, ?_, ?_⟩, ?_, ?_⟩
  · intro call' h
    rw [← hcall]
    exact (Option.some.inj h).symm
  all_goals
    intros
    contradiction

theorem aware_start (hstarts : pc.starts = true) (hg : pc.opensCall calls t = true) :
    Aware calls s t pc := by
  cases pc with
  | caller pc =>
    cases pc with
    | enter => exact aware_enter (eq_of_beq hg)
    | _ => cases hstarts
  | cancel pc =>
    cases pc with
    | session => exact aware_of_none rfl rfl rfl rfl
    | _ => cases hstarts
  | monitor => exact aware_of_none rfl rfl rfl rfl
  | _ => cases hstarts

theorem aware_executeStart {call : HttpCall} (hcall : call.call = calls call.flag) :
    Aware calls s u (.execute (executeStart call)) := by
  have hexecuting : (executeStart call : ExecutePc V).call = call := by
    unfold executeStart
    cases call.call.lane <;> rfl
  refine ⟨⟨?_, ?_, ?_⟩, ?_, ?_⟩
  · intro call' h
    cases h
  · grind [Pc.executing]
  all_goals
    intros
    contradiction

theorem Aware.moves (hpc : Aware calls s t pc)
    (h : Moves s.state t pc k m.shared m.next) :
    Aware calls ⟨m.shared, s.log ++ callEvents s.state t pc k m⟩ t m.next := by
  obtain ⟨s', next, child⟩ := m
  have h : Moves s.state t pc k s' next := h
  refine ⟨hpc.named.moves h, fun hcancelling => ?_, fun hsends => ?_⟩
  · obtain ⟨key, hkey⟩ := Option.isSome_iff_exists.mp hcancelling
    rcases cancelling_moves h hkey with hbefore | ⟨call, rfl, rfl, -⟩
    · exact List.mem_append_left _ (hpc.dropped (by rw [hbefore]; rfl))
    · exact List.mem_append_right _ (by simp [callEvents])
  · cases h with
    | insertCall call =>
      refine Or.inl ⟨call.lane, call.requestId, ?_⟩
      exact (getElem?_set_insert ..).trans (if_pos ⟨rfl, rfl⟩)
    | killed failure after | notify failure after => cases after <;> cases hsends
    | _ => cases hsends

theorem Aware.other (hids : ∀ t u, (calls t).key = (calls u).key → t = u)
    (hs : Located calls s.state) (hpc : Named calls t pc) (hu : Aware calls s u pc') (htu : t ≠ u)
    {pending : PerLane PendingResponses} {events : List CallEvent} {s' : Shared V}
    (h : Touches s.state t pc next pending events) (hpending : s'.pending = pending) :
    Aware calls ⟨s', s.log ++ events⟩ u pc' := by
  refine ⟨hu.named, fun hcancelling => List.mem_append_left _ (hu.dropped hcancelling), ?_⟩
  intro hsends
  rcases hu.sends hsends with hentered | hresolved
  · rcases h.after hs hpc hids hentered with hkept | hnow | ⟨hself, -⟩
    · left
      rw [hpending]
      exact hkept
    · exact Or.inr (List.mem_append_right _ hnow)
    · exact absurd hself.symm htu
  · exact Or.inr (List.mem_append_left _ hresolved)

/-- Every step of the program, a worker's included, on the pending calls. -/
theorem move_touch (hm : move s.state t pc k = some m) :
    Touches s.state t pc m.next m.shared.pending (callEvents s.state t pc k m) := by
  rcases move_cases hm with ⟨lane, call, ch, rfl, htaken, rfl⟩ | ⟨hmoves, -⟩
  · exact .keep [] (fun u => List.not_mem_nil)
  · exact moves_touch hmoves

end

theorem registering_valid (calls : Nat → Call)
    (hids : ∀ t u, (calls t).key = (calls u).key → t = u) :
    (registering calls).Valid ((program (V := V)).logged callEvents) (ownCalls calls) where
  start s t pc _ hpc hg := aware_start hpc hg
  start_pair _ _ _ _ _ _ _ _ _ _ := ⟨trivial, trivial⟩
  move s t pc k m' hs hpc _ hm' := by
    obtain ⟨m, hm, rfl⟩ := logged_move hm'
    rcases move_cases hm with ⟨lane, call, ch, rfl, htaken, rfl⟩ | ⟨hmoves, -⟩
    · exact ⟨(hs.recv htaken _).1, aware_of_none rfl rfl rfl rfl⟩
    · exact ⟨hs.moves hpc.named hmoves, hpc.moves hmoves⟩
  child s t pc k m' u pc' hs _ _ hm' hchild _ := by
    obtain ⟨m, hm, rfl⟩ := logged_move hm'
    rcases move_cases hm with ⟨lane, call, ch, rfl, htaken, rfl⟩ | ⟨-, hnone⟩
    · cases hchild
      exact ⟨aware_executeStart (hs.recv htaken s.state.inFlight).2, trivial, trivial⟩
    · rw [hnone] at hchild
      cases hchild
  other s t pc k m' u pc' hs hpc hpc' htu _ _ _ _ hm' := by
    obtain ⟨m, hm, rfl⟩ := logged_move hm'
    exact ⟨hpc'.other hids hs hpc.named htu (move_touch hm) rfl, trivial, trivial⟩
  child_pair _ _ _ _ _ _ _ _ _ _ _ _ _ _ _ _ _ _ _ _ := ⟨trivial, trivial⟩

end LensoBun.Transport.JsonRpc
