import LensoBun.Transport.Framed
import LensoBun.Transport.JsonRpc

set_option autoImplicit false

/-! # Cancels and the channels they send on

A cancel ends with a `try_send` on a bounded channel, and takes every error of it for a stopped
worker: it marks the process dead. The channel has room for one message more than the queue of
requests, but nothing keeps the owners of calls from cancelling faster than the writer, or the
cancellation worker, takes the messages off.

In both transports the cancels under way are counted as holders of a place in the channel
(`Lib.BoundedChannel.Reserved`). If no owner begins a cancel when the places are taken, every cancel
finds room.
-/

open Std Lib

namespace LensoBun.Transport.Framed

variable {V : Type}

/-- An owner drops its call, a session cancels its stream, the transport is shut down. -/
def Pc.begins : Pc V → Input V → Bool
  | .caller (.holding _), .drop => true
  | .cancel (.session _), _ | .cancel .shutdown, _ => true
  | _, _ => false

/-- The thread is on its way to a send on the control channel. -/
def Pc.controls : Pc V → Bool
  | .cancel (.session _) | .cancel .shutdown => false
  | .cancel _ => true
  | _ => false

/-- A step of `cancel`, `cancel_stream_call` or `cancel_stream`, or of the `mark_dead` in them. -/
def Pc.cancels : Pc V → Bool
  | .cancel _ | .dying _ _ .cancel => true
  | _ => false

/-- Nobody begins a cancel when the messages in the control channel and the cancels under way
fill it. -/
def roomToCancel : Guard (Shared V) (Pc V) (Input V) where
  self s _ pc k := pc.begins k = true →
    s.controlSender.items.length + s.trace.controlling.size < s.controlSender.capacity

instance (c : Threads (Shared V) (Pc V)) (a : Act (Pc V) (Input V)) :
    Decidable (roomToCancel.Allows c a) := Guard.decidable c a

/-- Every cancel under way has its place, and the writer stops on a dead process only. -/
structure Roomy (s : Shared V) : Prop where
  reserved : s.controlSender.Reserved s.trace.controlling
  stopped : s.controlSender.connected = false → s.process.alive = false

/-- Where a thread can only stand when the process is dead. -/
def Pc.deadOnly : Pc V → Bool
  | .writer .exit => true
  | .dying .swap _ after => decide (after = .cancel)
  | .dying _ _ _ => true
  | _ => false

def placed : Outline (Shared V) (Pc V) where
  Shared := Roomy
  At s t pc := (pc.controls = true → s.trace.controlling[t]? = some ()) ∧
    (pc.deadOnly = true → s.process.alive = false)
  Pair _ _ _ _ := True

section

variable {s s' : Shared V} {t u : Nat} {pc pc' : Pc V} {k : Input V}

theorem reserved_move (h : Moves s t pc k s' pc') (hg : roomToCancel.self s t pc k)
    (hs : Roomy s) (hpc : pc.controls = true → s.trace.controlling[t]? = some ()) :
    s'.controlSender.Reserved s'.trace.controlling := by
  cases h with
  | drop | session | shutdown => exact BoundedChannel.Reserved.reserve (hg rfl) t
  | missEvent | missStream | cancelDead | streamDead | controlFails | controlTooLarge
  | shutdownLost => exact hs.reserved.release t
  | control frame ch sent | shutdownSend ch sent => exact hs.reserved.send (hpc rfl) sent
  | writerControl frame ch k taken => exact hs.reserved.recv taken
  | exit => exact hs.reserved.close
  | _ => exact hs.reserved

theorem stopped_move (h : Moves s t pc k s' pc') (hs : Roomy s)
    (hdead : pc.deadOnly = true → s.process.alive = false)
    (hconn : s'.controlSender.connected = false) : s'.process.alive = false := by
  cases h with
  | control frame ch sent | shutdownSend ch sent =>
    obtain ⟨-, -, rfl⟩ := BoundedChannel.trySend_ok sent
    exact hs.stopped hconn
  | writerControl frame ch k taken =>
    obtain ⟨rest, -, rfl⟩ := BoundedChannel.tryRecv_some taken
    exact hs.stopped hconn
  | exit => exact hdead rfl
  | kill => rfl
  | _ => exact hs.stopped hconn

theorem holder_self (h : Moves s t pc k s' pc')
    (hpc : pc.controls = true → s.trace.controlling[t]? = some ()) (hc : pc'.controls = true) :
    s'.trace.controlling[t]? = some () := by
  cases h with
  | drop | session | shutdown => exact (getElem?_insert_nat _ _ _ _).trans (if_pos rfl)
  | killed failure after | notify failure after => cases after <;> cases hc
  | _ => first | exact hpc rfl | cases hc

theorem holder_other (h : Moves s t pc k s' pc') (htu : t ≠ u)
    (hu : s.trace.controlling[u]? = some ()) : s'.trace.controlling[u]? = some () := by
  cases h with
  | drop | session | shutdown =>
    exact ((getElem?_insert_nat _ _ _ _).trans (if_neg htu)).trans hu
  | missEvent | missStream | cancelDead | streamDead | controlFails | controlTooLarge
  | shutdownLost | control | shutdownSend =>
    exact ((getElem?_erase_nat _ _ _).trans (if_neg htu)).trans hu
  | _ => exact hu

/-- A cancel that holds a place comes to `mark_dead` only if the writer has stopped. -/
theorem deadOnly_move (h : Moves s t pc k s' pc') (hs : Roomy s)
    (hpc : pc.controls = true → s.trace.controlling[t]? = some ())
    (hdead : pc.deadOnly = true → s.process.alive = false) (hd : pc'.deadOnly = true) :
    s'.process.alive = false := by
  cases h with
  | controlFails frame error failed =>
    have hroom := hs.reserved.room (hpc rfl)
    exact hs.stopped (BoundedChannel.not_connected_of_error hroom failed)
  | kill => rfl
  | killed failure after k dead => exact dead
  | store | failPending | failEvent | clearCancelled | failStream | clearStreamCancelled
  | notify => exact hdead rfl
  | _ => cases hd

end

theorem placed_valid : (placed (V := V)).Valid program roomToCancel where
  start s t pc _ hpc _ := by
    cases pc with
    | caller => exact ⟨nofun, nofun⟩
    | cancel pc => cases pc <;> first | (cases hpc; done) | exact ⟨nofun, nofun⟩
    | monitor => exact ⟨nofun, nofun⟩
    | _ => cases hpc
  start_pair _ _ _ _ _ _ _ _ _ _ := ⟨trivial, trivial⟩
  move s t pc k m hs hpc hg hm := by
    have h := move_moves hm
    exact ⟨⟨reserved_move h hg hs hpc.1, stopped_move h hs hpc.2⟩, holder_self h hpc.1,
      deadOnly_move h hs hpc.1 hpc.2⟩
  child _ _ _ _ _ _ _ _ _ _ hm hc _ := by
    rw [(move_eq_some hm).2] at hc
    cases hc
  other s t pc k m u pc' _ _ hu htu _ _ _ _ hm := by
    have h := move_moves hm
    exact ⟨⟨fun hc => holder_other h htu (hu.1 hc), fun hd => dead_mono h (hu.2 hd)⟩, trivial,
      trivial⟩
  child_pair _ _ _ _ _ _ _ _ _ _ _ _ _ _ _ _ _ _ _ _ := ⟨trivial, trivial⟩

theorem placed_init (queueCapacity eventQueueCapacity : Nat) (capability : String) :
    placed.Holds (init (V := V) queueCapacity eventQueueCapacity capability) := by
  refine ⟨⟨Nat.zero_le _, nofun⟩, ?_, fun _ _ _ _ _ _ _ => trivial⟩
  intro t pc hpc
  rcases init_pool hpc with ⟨-, rfl⟩ | ⟨-, rfl⟩ <;> exact ⟨nofun, nofun⟩

/-- In a run in which nobody begins a cancel without a place, no cancel marks the process dead. -/
theorem cancel_keeps_alive {queueCapacity eventQueueCapacity : Nat} {capability : String}
    {acts : List (Act (Pc V) (Input V))} {c c' : Threads (Shared V) (Pc V)}
    (hg : Meets program.step roomToCancel.Allows
      (init queueCapacity eventQueueCapacity capability) acts)
    (h : run program.step (init queueCapacity eventQueueCapacity capability) acts = some c)
    {t child : Nat} {pc : Pc V} {k : Input V} (hpc : c.pool[t]? = some pc)
    (hcancels : pc.cancels = true) (hstep : program.step c (.move t k child) = some c') :
    c'.shared.process.alive = c.shared.process.alive := by
  have hc := Outline.run placed_valid (placed_init _ _ _) hg h
  obtain ⟨pc₀, m, hpc₀, hm, hsh, -⟩ := Program.move_pool hstep
  rw [hpc, Option.some.injEq] at hpc₀
  subst hpc₀
  have hmoves : Moves c.shared t pc k m.shared m.next := move_moves hm
  have hdead := (hc.at_ t pc hpc).2
  rw [hsh]
  generalize m.shared = s' at hmoves
  generalize m.next = pc' at hmoves
  cases hmoves with
  | kill failure after =>
    -- `mark_dead` of a cancel finds the process dead
    cases after <;> first | (cases hcancels; done) | exact (hdead rfl).symm
  | _ => rfl

end LensoBun.Transport.Framed

namespace LensoBun.Transport.JsonRpc

variable {V : Type}

/-- An owner drops its call, a session cancels its stream: the channel it will send on. -/
def Pc.begins : Pc V → Input V → Option Group
  | .caller (.holding call), .drop => some call.lane.group
  | .cancel (.session _), _ => some .stream
  | _, _ => none

/-- The channel the thread is on its way to send on. -/
def Pc.controls : Pc V → Option Group
  | .cancel (.cancellations x) | .cancel (.flag x _) | .cancel (.retire x) => some x.key.1
  | .cancel (.pending _) | .cancel (.eventPending _) => some .call
  | .cancel (.streamPending _ _) | .cancel (.streamAlive _) => some .stream
  | .cancel (.send group _) => some group
  | _ => none

/-- A step of `cancel`, `cancel_stream_call` or `cancel_stream`, or of the `mark_dead` in them. -/
def Pc.cancels : Pc V → Bool
  | .cancel _ | .dying _ _ .cancel => true
  | _ => false

/-- Nobody begins a cancel when the messages in its channel and the cancels under way fill it. -/
def roomToCancel : Guard (Shared V) (Pc V) (Input V) where
  self s _ pc k := ∀ group ∈ pc.begins k,
    (s.cancelSenders.get group).items.length + (s.controlling.get group).size <
      (s.cancelSenders.get group).capacity

instance (c : Threads (Shared V) (Pc V)) (a : Act (Pc V) (Input V)) :
    Decidable (roomToCancel.Allows c a) := Guard.decidable c a

/-- Every cancel under way has its place, and the cancellation workers run. -/
structure Roomy (s : Shared V) : Prop where
  reserved : ∀ group, (s.cancelSenders.get group).Reserved (s.controlling.get group)
  connected : ∀ group, (s.cancelSenders.get group).connected = true

def Pc.blamesChannel : Pc V → Bool
  | .dying _ _ after => decide (after = .cancel)
  | _ => false

def placed : Outline (Shared V) (Pc V) where
  Shared := Roomy
  At s t pc := (∀ group, pc.controls = some group → (s.controlling.get group)[t]? = some ()) ∧
    pc.blamesChannel = false
  Pair _ _ _ _ := True

section

variable {s s' : Shared V} {t u : Nat} {pc pc' : Pc V} {k : Input V}

theorem group_dropped (call : Call) : (dropped call).key.1 = call.lane.group := by
  obtain ⟨kind, requestId, capability, operation⟩ := call
  cases kind <;> rfl

theorem controls_last (x : Cancelled) : (Pc.cancel (V := V) (lastPc x)).controls = some x.key.1 := by
  cases x <;> rfl

theorem controls_first (x : Cancelled) :
    (Pc.cancel (V := V) (firstPending x)).controls = some x.key.1 := by
  cases x <;> rfl

variable {group : Group} {ch : BoundedChannel Nat}

theorem Roomy.begin (hs : Roomy s)
    (hroom : (s.cancelSenders.get group).items.length + (s.controlling.get group).size < (s.cancelSenders.get group).capacity)
    (t : Nat) : Roomy (s.beginControl group t) := by
  refine ⟨fun group' => ?_, hs.connected⟩
  simp only [Shared.beginControl, PerGroup.get_set]
  split
  · next heq =>
      subst heq
      exact .reserve hroom t
  · exact hs.reserved group'

theorem Roomy.end_ (hs : Roomy s) (group : Group) (t : Nat) : Roomy (s.endControl group t) := by
  refine ⟨fun group' => ?_, hs.connected⟩
  simp only [Shared.endControl, PerGroup.get_set]
  split
  · next heq =>
      subst heq
      exact (hs.reserved group).release t
  · exact hs.reserved group'

theorem Roomy.send (hs : Roomy s) {id : Nat} (ht : (s.controlling.get group)[t]? = some ())
    (sent : (s.cancelSenders.get group).trySend id = .ok ch) :
    Roomy ({ s with cancelSenders := s.cancelSenders.set group ch }.endControl group t) := by
  have hreserved := (hs.reserved group).send ht sent
  obtain ⟨hconn, -, rfl⟩ := BoundedChannel.trySend_ok sent
  refine ⟨fun group' => ?_, fun group' => ?_⟩
  · simp only [Shared.endControl, PerGroup.get_set]
    split
    · exact hreserved
    · exact hs.reserved group'
  · simp only [Shared.endControl, PerGroup.get_set]
    split
    · exact hconn
    · exact hs.connected group'

theorem Roomy.recv (hs : Roomy s) {id : Nat}
    (taken : (s.cancelSenders.get group).tryRecv = some (id, ch)) :
    Roomy { s with cancelSenders := s.cancelSenders.set group ch } := by
  have hreserved := (hs.reserved group).recv taken
  obtain ⟨rest, -, rfl⟩ := BoundedChannel.tryRecv_some taken
  refine ⟨fun group' => ?_, fun group' => ?_⟩
  · simp only [PerGroup.get_set]
    split
    · grind
    · exact hs.reserved group'
  · simp only [PerGroup.get_set]
    split
    · exact hs.connected group
    · exact hs.connected group'

theorem roomy_move (h : Moves s t pc k s' pc') (hg : roomToCancel.self s t pc k) (hs : Roomy s)
    (hpc : ∀ group, pc.controls = some group → (s.controlling.get group)[t]? = some ()) :
    Roomy s' := by
  cases h with
  | drop | session => exact hs.begin (hg _ rfl) t
  | notFlagged => exact hs.end_ _ t
  | streamDead | controlFails => exact hs.end_ _ t
  | control group id k ch sent => exact hs.send (hpc group rfl) sent
  | controlRecv group id ch k taken => exact hs.recv taken
  | _ => exact ⟨hs.reserved, hs.connected⟩

theorem getElem?_beginControl (s : Shared V) (group group' : Group) (t u : Nat) :
    ((s.beginControl group t).controlling.get group')[u]? =
      if group = group' ∧ t = u then some () else (s.controlling.get group')[u]? := by
  simp only [Shared.beginControl, PerGroup.get_set]
  by_cases hgroup : group = group'
  · grind
  · simp only [hgroup, if_false, false_and]

theorem getElem?_endControl_of_ne (htu : t ≠ u) (s : Shared V) (group group' : Group) :
    ((s.endControl group t).controlling.get group')[u]? = (s.controlling.get group')[u]? := by
  simp only [Shared.endControl, PerGroup.get_set]
  split
  · grind
  · rfl

theorem holder_self (h : Moves s t pc k s' pc')
    (hpc : ∀ group, pc.controls = some group → (s.controlling.get group)[t]? = some ())
    (hc : pc'.controls = some group) : (s'.controlling.get group)[t]? = some () := by
  cases h with
  | drop call =>
    cases hc
    rw [getElem?_beginControl, if_pos ⟨(group_dropped call).symm, rfl⟩]
  | session =>
    cases hc
    rw [getElem?_beginControl, if_pos ⟨rfl, rfl⟩]
  | setFlag =>
    rw [controls_first] at hc
    exact hpc group hc
  | retire =>
    rw [controls_last] at hc
    exact hpc group hc
  | killed failure after | notify failure after => cases after <;> cases hc
  | _ => first | exact hpc group hc | cases hc

theorem holder_other (h : Moves s t pc k s' pc') (htu : t ≠ u)
    (hu : (s.controlling.get group)[u]? = some ()) : (s'.controlling.get group)[u]? = some () := by
  cases h with
  | drop | session =>
    rw [getElem?_beginControl, hu, ite_self]
  | notFlagged | streamDead | controlFails | control =>
    rw [getElem?_endControl_of_ne htu]
    exact hu
  | _ => exact hu

/-- A cancel that holds a place does not come to `mark_dead`. -/
theorem blames_move (h : Moves s t pc k s' pc') (hs : Roomy s)
    (hpc : ∀ group, pc.controls = some group → (s.controlling.get group)[t]? = some ())
    (hblames : pc.blamesChannel = false) : pc'.blamesChannel = false := by
  cases h with
  | controlFails group id k error failed =>
    have hroom := (hs.reserved group).room (hpc group rfl)
    have hgone := BoundedChannel.not_connected_of_error hroom failed
    rw [hs.connected group] at hgone
    cases hgone
  | killed failure after | notify failure after => cases after <;> rfl
  | kill | store | clearFlags | failPending | failEvent | clearStreamFlags | failStream =>
    exact hblames
  | _ => rfl

end

theorem placed_valid : (placed (V := V)).Valid program roomToCancel where
  start s t pc _ hpc _ := by
    cases pc with
    | caller => exact ⟨nofun, rfl⟩
    | cancel pc => cases pc <;> first | (cases hpc; done) | exact ⟨nofun, rfl⟩
    | monitor => exact ⟨nofun, rfl⟩
    | _ => cases hpc
  start_pair _ _ _ _ _ _ _ _ _ _ := ⟨trivial, trivial⟩
  move s t pc k m hs hpc hg hm := by
    rcases move_cases hm with ⟨lane, call, ch, rfl, -, rfl⟩ | ⟨h, -⟩
    · exact ⟨⟨hs.reserved, hs.connected⟩, nofun, rfl⟩
    · exact ⟨roomy_move h hg hs hpc.1, fun _ hc => holder_self h hpc.1 hc,
        blames_move h hs hpc.1 hpc.2⟩
  child s t pc k m u pc' _ _ _ hm hc _ := by
    rcases move_cases hm with ⟨lane, call, ch, rfl, -, rfl⟩ | ⟨-, hnone⟩
    · cases hc
      exact ⟨⟨nofun, rfl⟩, trivial, trivial⟩
    · rw [hnone] at hc
      cases hc
  other s t pc k m u pc' _ _ hu htu _ _ _ _ hm := by
    rcases move_cases hm with ⟨lane, call, ch, rfl, -, rfl⟩ | ⟨h, -⟩
    · exact ⟨hu, trivial, trivial⟩
    · exact ⟨⟨fun group hc => holder_other h htu (hu.1 group hc), hu.2⟩, trivial, trivial⟩
  child_pair _ _ _ _ _ _ _ _ _ _ _ _ _ _ _ _ _ _ _ _ := ⟨trivial, trivial⟩

theorem placed_init (queueCapacity eventQueueCapacity : Nat) (capability : String) :
    placed.Holds (init (V := V) queueCapacity eventQueueCapacity capability) := by
  refine ⟨⟨?_, ?_⟩, ?_, fun _ _ _ _ _ _ _ => trivial⟩
  · intro group
    cases group <;> exact Nat.zero_le _
  · intro group
    cases group <;> rfl
  · intro t pc hpc
    simp only [init, getElem?_insert_nat] at hpc
    repeat' split at hpc
    all_goals
      cases hpc
      try exact ⟨nofun, rfl⟩

/-- In a run in which nobody begins a cancel without a place, no cancel marks the process dead. -/
theorem cancel_keeps_alive {queueCapacity eventQueueCapacity : Nat} {capability : String}
    {acts : List (Act (Pc V) (Input V))} {c c' : Threads (Shared V) (Pc V)}
    (hg : Meets program.step roomToCancel.Allows
      (init queueCapacity eventQueueCapacity capability) acts)
    (h : run program.step (init queueCapacity eventQueueCapacity capability) acts = some c)
    {t child : Nat} {pc : Pc V} {k : Input V} (hpc : c.pool[t]? = some pc)
    (hcancels : pc.cancels = true) (hstep : program.step c (.move t k child) = some c') :
    c'.shared.process.alive = c.shared.process.alive := by
  have hc := Outline.run placed_valid (placed_init _ _ _) hg h
  obtain ⟨pc₀, m, hpc₀, hm, hsh, -⟩ := Program.move_pool hstep
  rw [hpc, Option.some.injEq] at hpc₀
  subst hpc₀
  have hblames := (hc.at_ t pc hpc).2
  rw [hsh]
  rcases move_cases hm with ⟨lane, call, ch, rfl, -, rfl⟩ | ⟨hmoves, -⟩
  · rfl
  · generalize m.shared = s' at hmoves
    generalize m.next = pc' at hmoves
    cases hmoves with
    | kill failure after =>
      cases after <;> first | (cases hcancels; done) | cases hblames
    | _ => rfl

end LensoBun.Transport.JsonRpc

namespace LensoBun.Transport

/-- **Cancels spare the process**, in every run in which no owner begins a cancel when the
messages in the channel and the cancels under way fill it: no step of `cancel`,
`cancel_stream_call` or `cancel_stream`, nor of a `mark_dead` they call, changes whether the
process is alive. This holds for the framed transport with any speed of its writer, and for the
JSON-RPC transport with any speed of its cancellation workers. -/
theorem cancels_spare_the_process (V : Type) (queueCapacity eventQueueCapacity : Nat)
    (capability : String) :
    (∀ (acts : List (Act (Framed.Pc V) (Framed.Input V))) c,
      Meets Framed.program.step Framed.roomToCancel.Allows
        (Framed.init queueCapacity eventQueueCapacity capability) acts →
      run Framed.program.step (Framed.init queueCapacity eventQueueCapacity capability) acts =
        some c →
      ∀ (t child : Nat) pc k c', c.pool[t]? = some pc → pc.cancels = true →
        Framed.program.step c (.move t k child) = some c' →
        c'.shared.process.alive = c.shared.process.alive) ∧
    (∀ (acts : List (Act (JsonRpc.Pc V) (JsonRpc.Input V))) c,
      Meets JsonRpc.program.step JsonRpc.roomToCancel.Allows
        (JsonRpc.init queueCapacity eventQueueCapacity capability) acts →
      run JsonRpc.program.step (JsonRpc.init queueCapacity eventQueueCapacity capability) acts =
        some c →
      ∀ (t child : Nat) pc k c', c.pool[t]? = some pc → pc.cancels = true →
        JsonRpc.program.step c (.move t k child) = some c' →
        c'.shared.process.alive = c.shared.process.alive) :=
  ⟨fun _ _ hg h _ _ _ _ _ hpc hcancels hstep =>
      Framed.cancel_keeps_alive hg h hpc hcancels hstep,
    fun _ _ hg h _ _ _ _ _ hpc hcancels hstep =>
      JsonRpc.cancel_keeps_alive hg h hpc hcancels hstep⟩

/-! ## Sample runs -/

/-- A call of thread `t` on the framed transport up to its queued frame. -/
def Framed.callQueued (t requestId : Nat) (kind : CallKind) :
    List (Act (Framed.Pc Nat) (Framed.Input Nat)) :=
  [.start t (.caller (.enter ⟨kind, requestId, "example.store@1", "get"⟩)), .move t .go 0,
    .move t (.encoded true) 0, .move t .go 0, .move t .go 0]

/-- The writer takes the only frame there is, a request, and is slow to write it. -/
def Framed.writerTakes : List (Act (Framed.Pc Nat) (Framed.Input Nat)) :=
  [.move 0 .go 0, .move 0 .go 0, .move 0 .go 0]

/-- The owner drops its call; its cancel makes `n` steps up to the send. -/
def Framed.callDropped (t n : Nat) : List (Act (Framed.Pc Nat) (Framed.Input Nat)) :=
  .move t .drop 0 :: List.replicate n (.move t .go 0)

/-- A call of thread `t` on the JSON-RPC transport up to its place in the queue. -/
def JsonRpc.callQueued (t requestId : Nat) :
    List (Act (JsonRpc.Pc Nat) (JsonRpc.Input Nat)) :=
  [.start t (.caller (.enter ⟨.request, requestId, "example.store@1", "get"⟩)), .move t .go 0,
    .move t (.encoded true) 0, .move t .go 0, .move t .go 0, .move t .go 0, .move t .go 0]

/-- The owner drops its call; its cancel runs up to the send. -/
def JsonRpc.callDropped (t : Nat) : List (Act (JsonRpc.Pc Nat) (JsonRpc.Input Nat)) :=
  .move t .drop 0 :: List.replicate 4 (.move t .go 0)

/-- The worker takes the call, finds its flag set and finishes it, in thread `u`. -/
def JsonRpc.callSkipped (u : Nat) : List (Act (JsonRpc.Pc Nat) (JsonRpc.Input Nat)) :=
  [.move 0 .go u, .move u (.encoded true) 0] ++ List.replicate 5 (.move u .go 0)

/-- One request is made and dropped on each transport, with the writer and the cancellation
worker asleep. -/
theorem cancels_spare_the_process_sample :
    (∃ c c', run Framed.program.step (Framed.init 1 1 "example.store@1")
        (Framed.callQueued 2 7 .request ++ Framed.callDropped 2 4) = some c ∧
      Framed.program.step c (.move 2 (.encoded true) 0) = some c' ∧
      c'.shared.process.alive = c.shared.process.alive) ∧
    ∃ c c', run JsonRpc.program.step (JsonRpc.init 1 1 "example.store@1")
        (JsonRpc.callQueued 5 7 ++ JsonRpc.callDropped 5) = some c ∧
      JsonRpc.program.step c (.move 5 .go 0) = some c' ∧
      c'.shared.process.alive = c.shared.process.alive := by
  have hspares := cancels_spare_the_process Nat 1 1 "example.store@1"
  constructor
  · let c := (run Framed.program.step (Framed.init 1 1 "example.store@1")
      (Framed.callQueued 2 7 .request ++ Framed.callDropped 2 4)).get (by decide +kernel)
    have hpc : c.pool[2]? = some (.cancel (.send (.cancel 7))) := by decide +kernel
    have hc' := (Option.some_get (x := Framed.program.step c (.move 2 (.encoded true) 0))
      (by decide +kernel)).symm
    exact ⟨c, _, run_get _, hc',
      hspares.1 _ c (by decide +kernel) (run_get _) 2 0 _ _ _ hpc rfl hc'⟩
  · let c := (run JsonRpc.program.step (JsonRpc.init 1 1 "example.store@1")
      (JsonRpc.callQueued 5 7 ++ JsonRpc.callDropped 5)).get (by decide +kernel)
    have hpc : c.pool[5]? = some (.cancel (.send .call 7)) := by decide +kernel
    have hc' := (Option.some_get (x := JsonRpc.program.step c (.move 5 .go 0))
      (by decide +kernel)).symm
    exact ⟨c, _, run_get _, hc',
      hspares.2 _ c (by decide +kernel) (run_get _) 5 0 _ _ _ hpc rfl hc'⟩

/-- With a queue capacity of one the channel has room for two messages. On the framed transport
the writer holds the first request; two requests and an event are dropped one after the other. On
the JSON-RPC transport three requests are, each before its worker has looked at it, while the
cancellation worker is asleep. The third cancel marks the process dead. -/
theorem cancels_kill_the_process :
    ((run Framed.program.step (Framed.init 1 1 "example.store@1")
        (Framed.callQueued 2 7 .request ++ Framed.writerTakes ++ Framed.callDropped 2 4 ++
          [.move 2 (.encoded true) 0] ++
          Framed.callQueued 3 8 .request ++ Framed.callDropped 3 4 ++ [.move 3 (.encoded true) 0] ++
          Framed.callQueued 4 9 .event ++ Framed.callDropped 4 5 ++
          [.move 4 (.encoded true) 0, .move 4 .go 0, .move 4 .go 0])).map
        (fun c => (c.pool[0]?, c.shared.process)) =
      some (some (.writer (.write (.call ⟨.request, 7, "example.store@1", "get"⟩))),
        ⟨false, some (.pluginFailure "Bun framed-stdio cancellation channel stopped")⟩)) ∧
    ((run JsonRpc.program.step (JsonRpc.init 1 1 "example.store@1")
        (JsonRpc.callQueued 5 7 ++ JsonRpc.callDropped 5 ++ [.move 5 .go 0] ++
          JsonRpc.callSkipped 10 ++
          JsonRpc.callQueued 6 8 ++ JsonRpc.callDropped 6 ++ [.move 6 .go 0] ++
          JsonRpc.callSkipped 11 ++
          JsonRpc.callQueued 7 9 ++ JsonRpc.callDropped 7 ++
          [.move 7 .go 0, .move 7 .go 0, .move 7 .go 0])).map
        (fun c => (c.pool[3]?, c.shared.process)) =
      some (some (.control .call .recv),
        ⟨false, some (.pluginFailure "Bun JSON-RPC cancellation channel stopped")⟩)) := by
  decide +kernel

end LensoBun.Transport
