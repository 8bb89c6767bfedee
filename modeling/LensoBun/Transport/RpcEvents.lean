import LensoBun.Transport.RpcCalls

set_option autoImplicit false

/-! # The events of the JSON-RPC transport

Events have a channel and a worker of their own, and the worker executes one call at a time: it
takes the next one when the HTTP request of the last has been answered and the call is finished. So
the requests for events are issued one after the other, in the order in which the events were put
into the channel. An event that was cancelled while it was queued is left out.

The log records the sends on the event channel and the HTTP requests issued for events, each by the
thread that made the call.
-/

namespace LensoBun.Transport.JsonRpc

open Std Lib

variable {V : Type}

/-! ## The log -/

inductive ChannelEvent where
  | sent (t : Nat)
  | issued (t : Nat)
  deriving DecidableEq, Repr

def eventSteps (_ : Shared V) (t : Nat) (pc : Pc V) (_ : Input V) (m : Moved (Shared V) (Pc V)) :
    List ChannelEvent :=
  match pc, m.next with
  | .caller (.send call), .caller (.holding _) => if call.lane = .event then [.sent t] else []
  | .execute (.check call), .execute (.request _) =>
    if call.call.lane = .event then [.issued call.flag] else []
  | _, _ => []

def sends (log : List ChannelEvent) : List Nat :=
  log.filterMap fun
    | .sent t => some t
    | .issued _ => none

def issues (log : List ChannelEvent) : List Nat :=
  log.filterMap fun
    | .sent _ => none
    | .issued t => some t

@[simp] theorem sends_sent (log : List ChannelEvent) (t : Nat) :
    sends (log ++ [.sent t]) = sends log ++ [t] :=
  List.filterMap_append

@[simp] theorem sends_issued (log : List ChannelEvent) (t : Nat) :
    sends (log ++ [.issued t]) = sends log := by
  simp [sends]

@[simp] theorem issues_sent (log : List ChannelEvent) (t : Nat) :
    issues (log ++ [.sent t]) = issues log := by
  simp [issues]

@[simp] theorem issues_issued (log : List ChannelEvent) (t : Nat) :
    issues (log ++ [.issued t]) = issues log ++ [t] :=
  List.filterMap_append

/-! ## The worker -/

def Pc.runsEvent (pc : Pc V) : Bool :=
  match pc.executing with
  | some call => decide (call.call.lane = .event)
  | none => false

/-- The HTTP request of the event is in flight. -/
def Pc.requestsEvent : Pc V → Bool
  | .execute (.request call) => decide (call.call.lane = .event)
  | _ => false

/-- The event that the thread executes and has issued no request for. -/
def Pc.unissued : Pc V → Option Nat
  | .execute (.encode call) | .execute (.check call) =>
    if call.call.lane = .event then some call.flag else none
  | _ => none

theorem runsEvent_of_requestsEvent {pc : Pc V} (h : pc.requestsEvent = true) :
    pc.runsEvent = true := by
  cases pc with
  | execute pc =>
    cases pc with
    | request => exact h
    | _ => cases h
  | _ => cases h

theorem runsEvent_of_unissued {pc : Pc V} {f : Nat} (h : pc.unissued = some f) :
    pc.runsEvent = true := by
  cases pc with
  | execute pc =>
    cases pc with
    | encode | check =>
      simp only [Pc.unissued] at h
      split at h
      · next hlane => exact decide_eq_true hlane
      · cases h
    | _ => cases h
  | _ => cases h

theorem executing_executeStart (call : HttpCall) :
    (Pc.execute (executeStart call) : Pc V).executing = some call := by
  unfold executeStart
  cases call.call.lane <;> rfl

/-- What a step does to the event channel and its worker. -/
inductive EventMove (s : Shared V) (t : Nat) (pc : Pc V) (k : Input V) (m : Moved (Shared V) (Pc V)) :
    Prop
  | keep (senders : m.shared.senders.event = s.senders.event)
      (inFlight : m.shared.inFlight.event = s.inFlight.event)
      (log : eventSteps s t pc k m = [])
      (unissued : ∀ f, m.next.unissued = some f → pc.unissued = some f)
      (child : ∀ pc', m.child = some pc' → ∃ (call : HttpCall) (lane : Lane), lane ≠ .event ∧
        call ∈ (s.senders.get lane).items ∧ pc' = .execute (executeStart call))
  | send (call : Call) (here : pc = .caller (.send call)) (event : call.lane = .event)
      (next : m.next = .caller (.holding call))
      (items : m.shared.senders.event.items = s.senders.event.items ++ [⟨call, t⟩])
      (inFlight : m.shared.inFlight.event = s.inFlight.event)
      (log : eventSteps s t pc k m = [.sent t]) (child : m.child = none)
  | take (call : HttpCall) (here : pc = .worker .event) (next : m.next = .worker .event)
      (room : s.inFlight.event < s.maxInFlight.event)
      (items : s.senders.event.items = call :: m.shared.senders.event.items)
      (inFlight : m.shared.inFlight.event = s.inFlight.event + 1)
      (log : eventSteps s t pc k m = []) (child : m.child = some (.execute (executeStart call)))
  | issue (call : HttpCall) (here : pc = .execute (.check call)) (event : call.call.lane = .event)
      (next : m.next = .execute (.request call))
      (senders : m.shared.senders.event = s.senders.event)
      (inFlight : m.shared.inFlight.event = s.inFlight.event)
      (log : eventSteps s t pc k m = [.issued call.flag]) (child : m.child = none)
  | retire (call : HttpCall) (here : pc = .execute (.finishRetire call))
      (event : call.call.lane = .event) (next : m.next = .done)
      (senders : m.shared.senders.event = s.senders.event)
      (inFlight : m.shared.inFlight.event = s.inFlight.event - 1)
      (log : eventSteps s t pc k m = []) (child : m.child = none)

section

variable {s s' : Shared V} {t : Nat} {pc next : Pc V} {k : Input V} {m : Moved (Shared V) (Pc V)}

theorem After.unissued_pc (after : After) : (after.pc : Pc V).unissued = none := by
  cases after <;> rfl

theorem worker_eventMove {lane : Lane} (h : move s t (.worker lane) k = some m) :
    EventMove s t (.worker lane) k m := by
  simp only [move, workerMove, Option.map_eq_some_iff] at h
  obtain ⟨p, hp, rfl⟩ := h
  split at hp
  · next hroom =>
      obtain ⟨⟨call, ch⟩, htaken, rfl⟩ := Option.map_eq_some_iff.mp hp
      obtain ⟨rest, hitems, rfl⟩ := BoundedChannel.tryRecv_some htaken
      by_cases hlane : lane = .event
      · subst hlane
        exact .take call rfl rfl hroom hitems rfl rfl rfl
      · have hchild : ∃ (call' : HttpCall) (lane' : Lane), lane' ≠ .event ∧
            call' ∈ (s.senders.get lane').items ∧
            (Pc.execute (executeStart call) : Pc V) = .execute (executeStart call') :=
          ⟨call, lane, hlane, hitems ▸ List.mem_cons_self, rfl⟩
        refine .keep ?_ ?_ rfl (by rintro _ ⟨⟩) fun pc' hpc' => ?_
        · cases lane <;> first | rfl | exact absurd rfl hlane
        · cases lane <;> first | rfl | exact absurd rfl hlane
        · cases hpc'
          exact hchild
  · cases hp

theorem unissued_moves {f : Nat} (h : Moves s t pc k s' next) (hf : next.unissued = some f) :
    pc.unissued = some f := by
  cases h with
  | serialise => exact hf
  | killed failure after | notify failure after =>
    rw [after.unissued_pc] at hf
    cases hf
  | _ => cases hf

/-- The steps that have to do with the event channel or with its worker. -/
theorem eventLane_moves (h : Moves s t pc k s' next) :
    (s'.senders = s.senders ∧ s'.inFlight = s.inFlight ∧ ∀ call, next ≠ .caller (.holding call)) ∨
    (∃ call ch, (s.senders.get call.lane).trySend ⟨call, t⟩ = .ok ch ∧ pc = .caller (.send call) ∧
      next = .caller (.holding call) ∧ s' = { s with senders := s.senders.set call.lane ch }) ∨
    ∃ call, pc = .execute (.finishRetire call) ∧ next = .done ∧
      s' = (s.retire call.call.key).endExecution call.call.lane := by
  cases h with
  | queue call k ch hsent => exact .inr (.inl ⟨call, ch, hsent, rfl, rfl, rfl⟩)
  | finishRetire call => exact .inr (.inr ⟨call, rfl, rfl, rfl⟩)
  | killed failure after | notify failure after =>
    refine .inl ⟨rfl, rfl, fun call => ?_⟩
    cases after <;> exact nofun
  | _ => exact .inl ⟨rfl, rfl, nofun⟩

theorem Moves.eventMove (h : Moves s t pc k s' next) : EventMove s t pc k ⟨s', next, none⟩ := by
  have hunissued : ∀ f, next.unissued = some f → pc.unissued = some f := fun f => unissued_moves h
  have hchild : ∀ pc' : Pc V, (none : Option (Pc V)) = some pc' → ∃ (call : HttpCall) (lane : Lane),
      lane ≠ .event ∧ call ∈ (s.senders.get lane).items ∧ pc' = .execute (executeStart call) := by
    intro pc' hpc'
    cases hpc'
  rcases eventLane_moves h with ⟨hsenders, hinFlight, hhold⟩ | ⟨call, ch, hsent, rfl, rfl, rfl⟩ |
    ⟨call, rfl, rfl, rfl⟩
  · have hkeep : eventSteps s t pc k ⟨s', next, none⟩ = [] → EventMove s t pc k ⟨s', next, none⟩ :=
      fun hlog => .keep (by rw [hsenders]) (by rw [hinFlight]) hlog hunissued hchild
    rcases Classical.em (∃ call call', pc = .execute (.check call) ∧
      next = .execute (.request call')) with ⟨call, call', rfl, rfl⟩ | hissue
    · obtain rfl : call' = call := by
        cases h
        rfl
      by_cases hlane : call'.call.lane = .event
      · exact .issue call' rfl hlane rfl (by rw [hsenders]) (by rw [hinFlight])
          (by simp [eventSteps, hlane]) rfl
      · exact hkeep (by simp [eventSteps, hlane])
    · refine hkeep ?_
      unfold eventSteps
      split
      · next call _ hnext => exact absurd hnext (hhold _)
      · next call _ hnext => exact absurd ⟨call, _, rfl, hnext⟩ hissue
      · rfl
  · obtain ⟨-, -, rfl⟩ := BoundedChannel.trySend_ok hsent
    cases hlane : call.lane with
    | event => exact .send call rfl hlane rfl rfl rfl (by simp [eventSteps, hlane]) rfl
    | request | stream => exact .keep rfl rfl (by simp [eventSteps, hlane]) hunissued hchild
  · cases hlane : call.call.lane with
    | event => exact .retire call rfl hlane rfl rfl rfl rfl rfl
    | request | stream => exact .keep rfl rfl rfl hunissued hchild

theorem move_eventMove (h : move s t pc k = some m) : EventMove s t pc k m := by
  rcases move_cases h with ⟨lane, call, ch, rfl, -, -⟩ | ⟨hmoves, hchild⟩
  · exact worker_eventMove h
  · obtain ⟨s', next, child⟩ := m
    cases hchild
    exact hmoves.eventMove

end

/-! ## One at a time, in order -/

/-- What is in a channel belongs to its lane. -/
def Shared.Sorted (s : Shared V) : Prop :=
  ∀ (lane : Lane) (call : HttpCall), call ∈ (s.senders.get lane).items → call.call.lane = lane

theorem Shared.Sorted.move {s : Shared V} {t : Nat} {pc : Pc V} {k : Input V}
    {m : Moved (Shared V) (Pc V)} (hs : s.Sorted) (h : JsonRpc.move s t pc k = some m) :
    m.shared.Sorted := by
  rcases move_cases h with ⟨lane, call, ch, rfl, htaken, rfl⟩ | ⟨hmoves, -⟩
  · obtain ⟨rest, hitems, rfl⟩ := BoundedChannel.tryRecv_some htaken
    intro lane' call' hmem
    simp only [PerLane.get_set] at hmem
    split at hmem
    · next hlane =>
        refine hlane ▸ hs lane call' ?_
        rw [hitems]
        exact List.mem_cons_of_mem call hmem
    · exact hs lane' call' hmem
  · obtain ⟨s', next, child⟩ := m
    have hmoves : Moves s t pc k s' next := hmoves
    cases hmoves with
    | queue call k ch hsent =>
      obtain ⟨-, -, rfl⟩ := BoundedChannel.trySend_ok hsent
      intro lane call' hmem
      simp only [PerLane.get_set] at hmem
      split at hmem
      · next hlane =>
          rcases List.mem_append.mp hmem with hold | hnew
          · exact hlane ▸ hs _ call' hold
          · grind
      · exact hs lane call' hmem
    | _ => exact hs

def Shared.eventFlags (s : Shared V) : List Nat := s.senders.event.items.map HttpCall.flag

/-- The sends are the events taken from the channel and then those in it; the requests issued are
among the former. -/
structure Issuing (s : Logged (Shared V) ChannelEvent) : Prop where
  sorted : s.state.Sorted
  limit : s.state.maxInFlight.event = 1
  inFlight : s.state.inFlight.event ≤ 1
  order : ∃ taken, sends s.log = taken ++ s.state.eventFlags ∧ (issues s.log).Sublist taken

structure IssuingAt (s : Logged (Shared V) ChannelEvent) (pc : Pc V) : Prop where
  running : pc.runsEvent = true → s.state.inFlight.event = 1
  /-- The event about to be issued is the last one taken. -/
  next : ∀ f, pc.unissued = some f →
    ∃ before, sends s.log = before ++ f :: s.state.eventFlags ∧ (issues s.log).Sublist before

def issuing : Outline (Logged (Shared V) ChannelEvent) (Pc V) where
  Shared := Issuing
  At s _ pc := IssuingAt s pc
  Pair _ pc _ pc' := pc.runsEvent = true → pc'.runsEvent = false

section

variable {s : Logged (Shared V) ChannelEvent} {t u : Nat} {pc pc' : Pc V} {k : Input V}
  {m : Moved (Shared V) (Pc V)}

theorem maxInFlight_move (h : move s.state t pc k = some m) :
    m.shared.maxInFlight = s.state.maxInFlight := by
  rcases move_cases h with ⟨lane, call, ch, rfl, -, rfl⟩ | ⟨hmoves, -⟩
  · rfl
  · obtain ⟨s', next, child⟩ := m
    have hmoves : Moves s.state t pc k s' next := hmoves
    cases hmoves <;> rfl

theorem runsEvent_move (h : move s.state t pc k = some m) (hnext : m.next.runsEvent = true) :
    pc.runsEvent = true := by
  rcases move_cases h with ⟨lane, call, ch, rfl, -, rfl⟩ | ⟨hmoves, -⟩
  · cases hnext
  · grind [Pc.runsEvent, executing_moves]

theorem IssuingAt.of_idle (h : pc.runsEvent = false) : IssuingAt s pc := by
  refine ⟨fun hrun => ?_, fun f hf => ?_⟩
  · rw [h] at hrun
    cases hrun
  · rw [runsEvent_of_unissued hf] at h
    cases h

theorem idle_of_starts (h : pc.starts = true) : pc.runsEvent = false := by
  cases pc with
  | execute | dying => cases h
  | _ => rfl

def stepped (s : Logged (Shared V) ChannelEvent) (t : Nat) (pc : Pc V) (k : Input V)
    (m : Moved (Shared V) (Pc V)) : Logged (Shared V) ChannelEvent :=
  ⟨m.shared, s.log ++ eventSteps s.state t pc k m⟩

theorem Issuing.move (hs : Issuing s) (hpc : IssuingAt s pc) (h : JsonRpc.move s.state t pc k = some m) :
    Issuing (stepped s t pc k m) := by
  have hsorted : m.shared.Sorted := hs.sorted.move h
  have hlimit : m.shared.maxInFlight.event = 1 := by rw [maxInFlight_move h, hs.limit]
  obtain ⟨taken, hsends, hissues⟩ := hs.order
  cases move_eventMove h with
  | keep hsenders hinFlight hlog =>
    refine ⟨hsorted, hlimit, hinFlight.trans_le hs.inFlight, taken, ?_, ?_⟩
    · simp only [stepped, hlog, List.append_nil, Shared.eventFlags, hsenders]
      exact hsends
    · simpa only [stepped, hlog, List.append_nil] using hissues
  | send call _ _ _ hitems hinFlight hlog =>
    refine ⟨hsorted, hlimit, hinFlight.trans_le hs.inFlight, taken, ?_, ?_⟩
    · simp only [stepped, hlog, Shared.eventFlags, hitems, sends_sent, hsends, List.map_append,
        List.append_assoc]
      rfl
    · simpa only [stepped, hlog, issues_sent] using hissues
  | take call _ _ hroom hitems hinFlight hlog =>
    have hidle : m.shared.inFlight.event ≤ 1 := by
      have hlimit := hs.limit
      omega
    refine ⟨hsorted, hlimit, hidle, taken ++ [call.flag], ?_, ?_⟩
    · simp only [stepped, hlog, List.append_nil, hsends, Shared.eventFlags, hitems, List.map_cons,
        List.append_assoc, List.singleton_append]
    · simp only [stepped, hlog, List.append_nil]
      exact hissues.trans (List.sublist_append_left _ _)
  | issue call hhere hevent _ hsenders hinFlight hlog =>
    -- the event is the last one taken
    have hunissued : pc.unissued = some call.flag := by
      rw [hhere]
      exact if_pos hevent
    obtain ⟨before, hbefore, hsub⟩ := hpc.next call.flag hunissued
    refine ⟨hsorted, hlimit, hinFlight.trans_le hs.inFlight, before ++ [call.flag], ?_, ?_⟩
    · grind [stepped, Shared.eventFlags, sends_issued]
    · grind [stepped, issues_issued]
  | retire call _ _ _ hsenders hinFlight hlog =>
    have hle := hs.inFlight
    refine ⟨hsorted, hlimit, ?_, taken, ?_, ?_⟩
    · show m.shared.inFlight.event ≤ 1
      omega
    · simp only [stepped, hlog, List.append_nil, Shared.eventFlags, hsenders]
      exact hsends
    · simpa only [stepped, hlog, List.append_nil] using hissues

theorem IssuingAt.move (hpc : IssuingAt s pc) (h : JsonRpc.move s.state t pc k = some m) :
    IssuingAt (stepped s t pc k m) m.next := by
  cases move_eventMove h with
  | keep hsenders hinFlight hlog hunissued =>
    refine ⟨fun hrun => hinFlight.trans (hpc.running (runsEvent_move h hrun)), fun f hf => ?_⟩
    simp only [stepped, hlog, List.append_nil, Shared.eventFlags, hsenders]
    exact hpc.next f (hunissued f hf)
  | issue call hhere hevent hnext hsenders hinFlight =>
    refine ⟨fun hrun => hinFlight.trans (hpc.running (runsEvent_move h hrun)), fun f hf => ?_⟩
    rw [hnext] at hf
    cases hf
  | send call _ _ hnext | take call _ hnext | retire call _ _ hnext =>
    exact .of_idle (by rw [hnext]; rfl)

theorem IssuingAt.child (hs : Issuing s) (h : JsonRpc.move s.state t pc k = some m)
    (hchild : m.child = some pc') :
    IssuingAt (stepped s t pc k m) pc' ∧ m.next.runsEvent = false ∧
      (pc'.runsEvent = true → s.state.inFlight.event = 0) := by
  cases move_eventMove h with
  | keep _ _ _ _ hstarted =>
    obtain ⟨call, lane, hlane, hmem, rfl⟩ := hstarted pc' hchild
    have hidle : (Pc.execute (executeStart call) : Pc V).runsEvent = false := by
      unfold Pc.runsEvent
      rw [executing_executeStart]
      exact decide_eq_false fun hevent => hlane ((hs.sorted lane call hmem).symm.trans hevent)
    refine ⟨.of_idle hidle, ?_, fun hrun => ?_⟩
    · rcases move_cases h with ⟨lane, call, ch, rfl, -, rfl⟩ | ⟨-, hnone⟩
      · rfl
      · rw [hnone] at hchild
        cases hchild
    · rw [hidle] at hrun
      cases hrun
  | take call hhere hnext hroom hitems hinFlight hlog hstarted =>
    rw [hstarted, Option.some.injEq] at hchild
    subst hchild
    have hzero : s.state.inFlight.event = 0 := by
      have hlimit := hs.limit
      omega
    obtain ⟨taken, hsends, hissues⟩ := hs.order
    refine ⟨⟨fun _ => ?_, fun f hf => ⟨taken, ?_, ?_⟩⟩, by rw [hnext]; rfl, fun _ => hzero⟩
    · show m.shared.inFlight.event = 1
      omega
    · -- the call it has taken is the first in the channel
      have hflag : f = call.flag := by
        unfold executeStart at hf
        cases hlane : call.call.lane <;> rw [hlane] at hf <;>
          simp only [Pc.unissued, hlane, if_true, reduceCtorEq, if_false, Option.some.injEq] at hf
        exact hf.symm
      simp only [stepped, hlog, List.append_nil, hsends, hflag, Shared.eventFlags, hitems,
        List.map_cons]
    · grind [stepped]
  | send _ _ _ _ _ _ _ hnone | issue _ _ _ _ _ _ _ hnone | retire _ _ _ _ _ _ _ hnone =>
    rw [hnone] at hchild
    cases hchild

/-- What another thread executes is not disturbed: no other event is taken or issued meanwhile. -/
theorem IssuingAt.other (hs : Issuing s) (hpc : pc.runsEvent = true → pc'.runsEvent = false)
    (hpc' : IssuingAt s pc') (h : JsonRpc.move s.state t pc k = some m) :
    IssuingAt (stepped s t pc k m) pc' := by
  cases hrun : pc'.runsEvent with
  | false => exact .of_idle hrun
  | true =>
    have hone := hpc'.running hrun
    have hquiet : pc.runsEvent = false := by grind
    cases move_eventMove h with
    | keep hsenders hinFlight hlog =>
      refine ⟨fun _ => hinFlight.trans hone, fun f hf => ?_⟩
      simp only [stepped, hlog, List.append_nil, Shared.eventFlags, hsenders]
      exact hpc'.next f hf
    | send call _ _ _ hitems hinFlight hlog =>
      refine ⟨fun _ => hinFlight.trans hone, fun f hf => ?_⟩
      obtain ⟨before, hsends, hissues⟩ := hpc'.next f hf
      refine ⟨before, ?_, ?_⟩
      · simp only [stepped, hlog, sends_sent, hsends, Shared.eventFlags, hitems,
          List.map_append, List.append_assoc, List.cons_append]
        rfl
      · simpa only [stepped, hlog, issues_sent] using hissues
    | take =>
      have hlimit := hs.limit
      omega
    | issue call hhere hevent | retire call hhere hevent =>
      rw [hhere] at hquiet
      exact absurd hevent (of_decide_eq_false hquiet)

end

theorem issuing_valid :
    (issuing (V := V)).Valid ((program (V := V)).logged eventSteps) Guard.any where
  start s t pc _ hpc _ := .of_idle (idle_of_starts hpc)
  start_pair s t pc u pc' _ hpc _ _ _ := by
    have hidle : pc.runsEvent = false := idle_of_starts hpc
    refine ⟨fun hrun => ?_, fun _ => hidle⟩
    rw [hidle] at hrun
    cases hrun
  move s t pc k m' hs hpc _ hm' := by
    obtain ⟨m, hm, rfl⟩ := logged_move hm'
    exact ⟨hs.move hpc hm, hpc.move hm⟩
  child s t pc k m' u pc' hs hpc _ hm' hchild _ := by
    obtain ⟨m, hm, rfl⟩ := logged_move hm'
    obtain ⟨hat, hidle, -⟩ := IssuingAt.child hs hm hchild
    refine ⟨hat, fun hrun => ?_, fun _ => hidle⟩
    rw [hidle] at hrun
    cases hrun
  other s t pc k m' u pc' hs hpc hpc' _ hpair hpair' _ _ hm' := by
    obtain ⟨m, hm, rfl⟩ := logged_move hm'
    refine ⟨hpc'.other hs hpair hm, fun hrun => hpair (runsEvent_move hm hrun), fun hrun => ?_⟩
    cases hnext : m.next.runsEvent with
    | false => rfl
    | true =>
      rw [hpair (runsEvent_move hm hnext)] at hrun
      cases hrun
  child_pair s t pc k m' v pc'' u pc' hs hpc hpc' _ _ _ _ _ _ hm' hchild := by
    obtain ⟨m, hm, rfl⟩ := logged_move hm'
    obtain ⟨-, -, hzero⟩ := IssuingAt.child hs hm hchild
    -- while the worker takes an event, nobody executes one
    have hnot : pc''.runsEvent = true → pc'.runsEvent = false := by
      intro hrun
      by_contra hrun'
      have hone := hpc'.running (Bool.eq_true_of_not_eq_false hrun')
      rw [hzero hrun] at hone
      cases hone
    refine ⟨hnot, fun hrun' => ?_⟩
    by_contra hrun
    rw [hnot (Bool.eq_true_of_not_eq_false hrun)] at hrun'
    cases hrun'

theorem issuing_init (queueCapacity eventQueueCapacity : Nat) (capability : String) :
    (issuing (V := V)).Holds (init queueCapacity eventQueueCapacity capability).logged := by
  have hidle : ∀ (t : Nat) (pc : Pc V),
      (init queueCapacity eventQueueCapacity capability).pool[t]? = some pc →
      pc.runsEvent = false := by
    intro t pc hpc
    simp only [init, getElem?_insert_nat] at hpc
    repeat' split at hpc
    all_goals cases hpc <;> rfl
  refine ⟨⟨fun lane call hmem => ?_, rfl, Nat.zero_le 1, [], rfl, .slnil⟩, fun t pc hpc => ?_,
    fun t u pc pc' _ _ hu _ => hidle u pc' hu⟩
  · cases lane <;> cases hmem
  · exact .of_idle (hidle t pc hpc)

end LensoBun.Transport.JsonRpc
