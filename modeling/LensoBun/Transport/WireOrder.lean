import LensoBun.Lib.History
import LensoBun.Transport.SharedIds

set_option autoImplicit false

/-! # The order of frames on the wire

Calls and cancels reach the writer through different channels, and the writer looks into the control
channel first. A `Cancel` or `StreamCancel` frame therefore overtakes the frame of its call whenever
that is still queued, and the child is told to cancel what it has never heard of.

What keeps the order is that the frame of the call has left its channel and the writer's hands when
the cancel is queued. The history records the calls whose frames have been queued. It says which
calls a cancel can be meant for: a cancel comes from a call that was queued, so as long as ids are
not given out twice no frame it stands for is queued later.
-/

namespace LensoBun.Transport.Framed

open Std Lib

variable {V : Type}

/-! ## Which frame cancels which call -/

/-- The child takes the frame for a cancel of the call. -/
def Frame.cancels : Frame → Call → Bool
  | .cancel requestId, target => decide (target.key = (.call, requestId))
  | .streamCancel streamId, target => decide (target.kind = .streamOpen streamId)
  | _, _ => false

/-- The first frame is a cancel of what the second one starts. -/
def Frame.undoes (frame : Frame) : Frame → Bool
  | .call target => frame.cancels target
  | _ => false

def cancelFrame (call : Call) : Frame :=
  match call.kind with
  | .request | .event => .cancel call.requestId
  | .streamOpen streamId | .streamCall streamId => .streamCancel streamId

def clashes (call call' : Call) : Bool :=
  match call.kind with
  | .request | .event => decide (call'.key = (.call, call.requestId))
  | .streamOpen streamId => decide (call'.kind = .streamOpen streamId)
  | .streamCall _ => false

variable {frame : Frame} {calls : List Call}

theorem Frame.clashes_of_cancels {call call' : Call} (h : frame.cancels call = true)
    (h' : frame.cancels call' = true) : clashes call call' = true := by
  cases frame with
  | cancel requestId =>
    have hkey : call.key = (.call, requestId) := of_decide_eq_true h
    have hkey' : call'.key = (.call, requestId) := of_decide_eq_true h'
    unfold clashes
    unfold Call.key Call.lane at hkey
    cases hkind : call.kind <;> rw [hkind] at hkey <;> cases hkey <;> exact decide_eq_true hkey'
  | streamCancel streamId =>
    have hkind : call.kind = .streamOpen streamId := of_decide_eq_true h
    unfold clashes
    rw [hkind]
    exact h'
  | _ => cases h

/-- The frame is a cancel for a call among these, or a shutdown. -/
def Frame.grounded (calls : List Call) : Frame → Bool
  | .call _ => false
  | .shutdown => true
  | frame => calls.any frame.cancels

theorem Frame.grounded_mono {calls' : List Call} (hsub : calls ⊆ calls')
    (h : frame.grounded calls = true) : frame.grounded calls' = true := by
  cases frame with
  | cancel | streamCancel =>
    obtain ⟨call, hmem, hcancels⟩ := List.any_eq_true.mp h
    exact List.any_eq_true.mpr ⟨call, hsub hmem, hcancels⟩
  | shutdown => rfl
  | call => cases h

/-- A call that clashes with none of these is not cancelled by the frame. -/
theorem Frame.grounded_spares {call : Call} (h : frame.grounded calls = true)
    (hfree : ∀ call' ∈ calls, clashes call call' = false) : frame.cancels call = false := by
  by_contra hcancels
  have hcancels := Bool.eq_true_of_not_eq_false hcancels
  cases frame with
  | cancel | streamCancel =>
    obtain ⟨call', hmem, hcancels'⟩ := List.any_eq_true.mp h
    have hclash := Frame.clashes_of_cancels hcancels hcancels'
    rw [hfree call' hmem] at hclash
    cases hclash
  | shutdown | call => cases hcancels

theorem Frame.grounded_undoes {frame' : Frame} (h : frame'.grounded calls = true) :
    frame.undoes frame' = false := by
  cases frame' with
  | call => cases h
  | _ => rfl

/-! ## The history and the condition -/

/-- The call whose frame is queued in the step. -/
def queuedCall (_ : Shared V) (_ : Nat) (pc : Pc V) (_ : Input V) (m : Moved (Shared V) (Pc V)) :
    List Call :=
  match pc, m.next with
  | .caller (.send call), .caller (.holding _) => [call]
  | _, _ => []

/-- The frames of calls that wait for the writer. -/
def Shared.queued (s : Shared V) : List Frame := s.sender.items ++ s.eventSender.items

/-- Ids and stream ids are given to one call; a cancel is queued when no frame it is meant for is
queued. -/
def queuesInOrder (s : Logged (Shared V) Call) : Pc V → Bool
  | .caller (.send call) => s.log.all fun call' => !clashes call call'
  | .cancel (.send frame) => s.state.queued.all fun frame' => !frame.undoes frame'
  | _ => true

/-- And when the writer does not hold such a frame. -/
def queuesBeside (other : Pc V) : Pc V → Bool
  | .cancel (.send frame) =>
    match other with
    | .writer (.write frame') => !frame.undoes frame'
    | _ => true
  | _ => true

/-- Streams are used when their open has been queued. -/
def usesOpened (s : Logged (Shared V) Call) : Pc V → Bool
  | .caller (.enter call) =>
    match call.kind with
    | .streamCall _ => (cancelFrame call).grounded s.log
    | _ => true
  | .cancel (.session streamId) => (Frame.streamCancel streamId).grounded s.log
  | _ => true

def cancelsLate : Guard (Logged (Shared V) Call) (Pc V) (Input V) where
  self s _ pc _ := queuesInOrder s pc = true
  other _ _ pc _ _ pc' := queuesBeside pc' pc = true
  start s _ pc := usesOpened s pc = true

instance (c : Threads (Logged (Shared V) Call) (Pc V)) (a : Act (Pc V) (Input V)) :
    Decidable (cancelsLate.Allows c a) := Guard.decidable c a

/-! ## What a step does on the way to the wire -/

/-- What a step does to the channels, to the frames written and to the writer's hands. -/
inductive WireStep (s : Shared V) (pc : Pc V) (s' : Shared V) (pc' : Pc V) : Prop
  | idle (queued : s'.queued ⊆ s.queued)
      (control : s'.controlSender.items ⊆ s.controlSender.items)
      (written : s'.trace.written = s.trace.written) (hand : ∀ frame, pc' ≠ .writer (.write frame))
  | call (call : Call) (here : pc = .caller (.send call)) (next : pc' = .caller (.holding call))
      (queued : s'.queued ⊆ .call call :: s.queued)
      (control : s'.controlSender = s.controlSender)
      (written : s'.trace.written = s.trace.written)
  | control (frame : Frame) (here : pc = .cancel (.send frame) ∨ frame = .shutdown)
      (next : pc' = .done) (queued : s'.queued = s.queued)
      (control : s'.controlSender.items = s.controlSender.items ++ [frame])
      (written : s'.trace.written = s.trace.written)
  | take (frame : Frame) (next : pc' = .writer (.write frame))
      (taken : frame ∈ s.controlSender.items ∨ frame ∈ s.queued)
      (queued : s'.queued ⊆ s.queued)
      (control : s'.controlSender.items ⊆ s.controlSender.items)
      (written : s'.trace.written = s.trace.written)
  | write (frame : Frame) (here : pc = .writer (.write frame)) (next : pc' = .writer .control)
      (queued : s'.queued = s.queued) (control : s'.controlSender = s.controlSender)
      (written : s'.trace.written = s.trace.written ++ [frame])

section Moves

variable {s s' : Shared V} {t : Nat} {pc pc' : Pc V} {k : Input V}

theorem After.pc_ne_write (after : After) (frame : Frame) :
    (after.pc : Pc V) ≠ .writer (.write frame) := by
  cases after <;> exact nofun

theorem queued_queueCall {call : Call} {ch : BoundedChannel Frame}
    (hsent : (s.wireSender call.lane).trySend (.call call) = .ok ch) :
    (s.queueCall call ch).queued ⊆ .call call :: s.queued := by
  obtain ⟨-, -, rfl⟩ := BoundedChannel.trySend_ok hsent
  intro frame hmem
  cases hlane : call.lane <;>
    simp [Shared.queued, Shared.queueCall, Shared.setWireSender, Shared.wireSender, hlane] at hmem ⊢ <;>
    tauto

theorem Moves.wire (h : Moves s t pc k s' pc') : WireStep s pc s' pc' := by
  have hidle : (∀ frame, pc' ≠ .writer (.write frame)) → WireStep s pc s pc' :=
    fun hhand => .idle (List.Subset.refl _) (List.Subset.refl _) rfl hhand
  cases h with
  | queue call k ch sent => exact .call call rfl rfl (queued_queueCall sent) rfl rfl
  | control frame ch sent =>
    obtain ⟨-, -, rfl⟩ := BoundedChannel.trySend_ok sent
    exact .control frame (.inl rfl) rfl rfl rfl rfl
  | shutdownSend ch sent =>
    obtain ⟨-, -, rfl⟩ := BoundedChannel.trySend_ok sent
    exact .control .shutdown (.inr rfl) rfl rfl rfl rfl
  | writerControl frame ch k taken =>
    obtain ⟨rest, hitems, rfl⟩ := BoundedChannel.tryRecv_some taken
    have hmem : frame ∈ s.controlSender.items := by simp [hitems]
    refine .take frame rfl (.inl hmem) (List.Subset.refl _) ?_ rfl
    exact hitems ▸ List.subset_cons_self _ _
  | writerEvent frame ch k taken | writerRequest frame ch k taken | writerWait frame ch k taken =>
    obtain ⟨rest, hitems, rfl⟩ := BoundedChannel.tryRecv_some taken
    have hmem : frame ∈ s.queued := by simp [Shared.queued, hitems]
    refine .take frame rfl (.inr hmem) (fun g hg => ?_) (List.Subset.refl _) rfl
    simp only [Shared.queued, hitems, List.mem_append, List.mem_cons] at hg ⊢
    tauto
  | write frame => exact .write frame rfl rfl rfl rfl rfl
  | exit => exact .idle (List.nil_subset _) (List.nil_subset _) rfl nofun
  | killed failure after | notify failure after => exact hidle after.pc_ne_write
  | _ => exact .idle (List.Subset.refl _) (List.Subset.refl _) rfl nofun

/-! ## What a thread may come to cancel -/

/-- The cancel a thread will send when it goes on, if it does. -/
def Pc.aims : Pc V → Option Frame
  | .caller (.holding call) => some (cancelFrame call)
  | .caller (.enter call) | .caller (.encode call) | .caller (.insert call)
  | .caller (.send call) =>
    match call.kind with
    | .streamCall streamId => some (.streamCancel streamId)
    | _ => none
  | .cancel (.pending requestId) | .cancel (.eventPending requestId)
  | .cancel (.alive requestId) => some (.cancel requestId)
  | .cancel (.streamPending _ streamId) | .cancel (.streamAlive streamId)
  | .cancel (.session streamId) => some (.streamCancel streamId)
  | .cancel (.remember x) | .cancel (.retire x) =>
    match x with
    | .call requestId => some (.cancel requestId)
    | .stream _ streamId => some (.streamCancel streamId)
  | .cancel (.send frame) => some frame
  | _ => none

theorem Moves.aims (h : Moves s t pc k s' pc') {frame : Frame} (haims : pc'.aims = some frame) :
    pc.aims = some frame ∨
      ∃ call, pc = .caller (.send call) ∧ pc' = .caller (.holding call) ∧
        frame = cancelFrame call := by
  cases h with
  | queue call => exact .inr ⟨call, rfl, rfl, (Option.some.inj haims).symm⟩
  | drop call =>
    refine .inl (Eq.trans ?_ haims)
    simp only [Pc.aims, dropPc, cancelFrame]
    cases call.kind <;> rfl
  | retireCancelled x => cases x <;> exact .inl haims
  | killed failure after | notify failure after => cases after <;> cases haims
  | _ => first | exact .inl haims | cases haims

def Pc.isWriter : Pc V → Bool
  | .writer _ => true
  | .dying _ _ after => decide (after = .writer)
  | _ => false

theorem Moves.isWriter (h : Moves s t pc k s' pc') (hw : pc'.isWriter = true) :
    pc.isWriter = true := by
  cases h with
  | killed failure after | notify failure after =>
    cases after with
    | writer => rfl
    | _ => cases hw
  | kill | store | failPending | failEvent
  | clearCancelled | failStream
  | clearStreamCancelled => exact hw
  | _ => first | rfl | cases hw

theorem cancelFrame_grounded {call : Call} {calls : List Call}
    (hearly : ∀ frame, (Pc.caller (V := V) (.send call)).aims = some frame →
      frame.grounded calls = true) (hmem : call ∈ calls) : (cancelFrame call).grounded calls = true := by
  cases hkind : call.kind with
  | streamCall streamId => grind [Pc.aims, cancelFrame, Moves.aims]
  | request | event | streamOpen =>
    simp only [cancelFrame, hkind]
    refine List.any_eq_true.mpr ⟨call, hmem, ?_⟩
    simp [Frame.cancels, Call.key, Call.lane, CallKind.lane, Lane.group, hkind]

end Moves

/-! ## The outline -/

/-- The frames written and the cancels on their way undo nothing that is still to be written. -/
structure WireOrdered (s : Logged (Shared V) Call) : Prop where
  order : s.state.trace.written.Pairwise (fun frame frame' => frame.undoes frame' = false)
  calls : ∀ frame ∈ s.state.queued, ∃ call, frame = .call call
  control : ∀ frame ∈ s.state.controlSender.items, frame.grounded s.log = true
  written : ∀ frame ∈ s.state.trace.written, (∃ call, frame = .call call) ∨
    frame.grounded s.log = true
  ahead : ∀ frame, frame ∈ s.state.trace.written ∨ frame ∈ s.state.controlSender.items →
    ∀ frame' ∈ s.state.queued, frame.undoes frame' = false

structure Writable (s : Logged (Shared V) Call) (frame : Frame) : Prop where
  known : (∃ call, frame = .call call) ∨ frame.grounded s.log = true
  ahead : ∀ frame' ∈ s.state.queued, frame.undoes frame' = false
  behind : ∀ frame', frame' ∈ s.state.trace.written ∨ frame' ∈ s.state.controlSender.items →
    frame'.undoes frame = false

structure WireAt (s : Logged (Shared V) Call) (t : Nat) (pc : Pc V) : Prop where
  aims : ∀ frame, pc.aims = some frame → frame.grounded s.log = true
  hand : ∀ frame, pc = .writer (.write frame) → Writable s frame
  writer : pc.isWriter = true → t = 0

theorem Frame.call_undoes (call : Call) (frame : Frame) : (Frame.call call).undoes frame = false := by
  cases frame <;> rfl

/-- What is known of a frame keeps it from undoing a call that is new. -/
theorem Frame.spares_new {call : Call}
    (hknown : (∃ call, frame = .call call) ∨ frame.grounded calls = true)
    (hfree : (calls.all fun call' => !clashes call call') = true) :
    frame.undoes (.call call) = false := by
  rcases hknown with ⟨call', rfl⟩ | hgrounded
  · exact Frame.call_undoes call' _
  · refine Frame.grounded_spares hgrounded fun call' hmem => ?_
    have hclash := List.all_eq_true.mp hfree call' hmem
    rwa [Bool.not_eq_true'] at hclash

section Steps

variable {s : Logged (Shared V) Call} {s' : Shared V} {log' : List Call} {t : Nat}
  {pc pc' pcU : Pc V} {k : Input V}

theorem WireOrdered.shrink (hs : WireOrdered s) (queued : s'.queued ⊆ s.state.queued)
    (control : s'.controlSender.items ⊆ s.state.controlSender.items)
    (written : s'.trace.written = s.state.trace.written) (hlog : s.log ⊆ log') :
    WireOrdered ⟨s', log'⟩ where
  order := by
    rw [written]
    exact hs.order
  calls f hf := hs.calls f (queued hf)
  control f hf := Frame.grounded_mono hlog (hs.control f (control hf))
  written f hf := (hs.written f (written ▸ hf)).imp id (Frame.grounded_mono hlog)
  ahead f hf f' hf' :=
    hs.ahead f (hf.imp (fun h => written ▸ h) (fun h => control h)) f' (queued hf')

/-- The own step of a thread; `log'` is the history after it. -/
theorem WireOrdered.move (hs : WireOrdered s) (hat : WireAt s t pc)
    (hg : queuesInOrder s pc = true) (h : Moves s.state t pc k s' pc') (hlog : s.log ⊆ log')
    (hcall : ∀ call, pc = .caller (.send call) → pc' = .caller (.holding call) → call ∈ log') :
    WireOrdered ⟨s', log'⟩ ∧ WireAt ⟨s', log'⟩ t pc' := by
  have hknown : ∀ frame : Frame, (∃ call, frame = .call call) ∨ frame.grounded s.log = true →
      (∃ call, frame = .call call) ∨ frame.grounded log' = true :=
    fun frame hf => hf.imp id (Frame.grounded_mono hlog)
  have haims : ∀ frame, pc'.aims = some frame → frame.grounded log' = true := by
    intro frame hframe
    rcases h.aims hframe with hold | ⟨call, rfl, hnext, rfl⟩
    · exact Frame.grounded_mono hlog (hat.aims frame hold)
    · refine cancelFrame_grounded (V := V) (fun frame hearly => ?_) (hcall call rfl hnext)
      exact Frame.grounded_mono hlog (hat.aims frame hearly)
  have hwriter : pc'.isWriter = true → t = 0 := fun hw => hat.writer (h.isWriter hw)
  have hwire := h.wire
  cases hwire with
  | idle queued control written hand =>
    exact ⟨hs.shrink queued control written hlog, haims, fun f hf => absurd hf (hand f), hwriter⟩
  | call call here next queued control written =>
    subst here
    refine ⟨⟨?_, fun f hf => ?_, fun f hf => ?_, fun f hf => ?_, ?_⟩, haims, ?_, hwriter⟩
    · rw [written]
      exact hs.order
    · rcases List.mem_cons.mp (queued hf) with rfl | hold
      · exact ⟨call, rfl⟩
      · exact hs.calls f hold
    · exact Frame.grounded_mono hlog (hs.control f (control ▸ hf))
    · exact hknown f (hs.written f (written ▸ hf))
    · intro f hf f' hf'
      have hf : f ∈ s.state.trace.written ∨ f ∈ s.state.controlSender.items := by
        rwa [written, control] at hf
      rcases List.mem_cons.mp (queued hf') with rfl | hold
      · exact Frame.spares_new (hf.elim (hs.written f) (fun hc => .inr (hs.control f hc))) hg
      · exact hs.ahead f hf f' hold
    · subst next
      exact nofun
  | control frame here next queued control written =>
    have hframe : frame.grounded s.log = true := by
      rcases here with rfl | rfl
      · exact hat.aims frame rfl
      · rfl
    refine ⟨⟨?_, fun f hf => hs.calls f (queued ▸ hf), fun f hf => ?_, fun f hf => ?_, ?_⟩, haims,
      ?_, hwriter⟩
    · rw [written]
      exact hs.order
    · rw [control] at hf
      rcases List.mem_append.mp hf with hold | hnew
      · exact Frame.grounded_mono hlog (hs.control f hold)
      · obtain rfl := List.mem_singleton.mp hnew
        exact Frame.grounded_mono hlog hframe
    · exact hknown f (hs.written f (written ▸ hf))
    · intro f hf f' hf'
      rw [queued] at hf'
      rw [written, control, List.mem_append, List.mem_singleton, ← or_assoc] at hf
      rcases hf with hold | rfl
      · exact hs.ahead f hold f' hf'
      · -- the condition, or a shutdown, which undoes nothing
        rcases here with rfl | rfl
        · have hclear := List.all_eq_true.mp hg f' hf'
          rwa [Bool.not_eq_true'] at hclear
        · cases f' <;> rfl
    · subst next
      exact nofun
  | take frame next taken queued control written =>
    refine ⟨hs.shrink queued control written hlog, haims, ?_, hwriter⟩
    rintro f rfl
    cases next
    have hbehind : ∀ f', f' ∈ s'.trace.written ∨ f' ∈ s'.controlSender.items →
        f' ∈ s.state.trace.written ∨ f' ∈ s.state.controlSender.items :=
      fun f' hf' => hf'.imp (fun h => written ▸ h) (fun h => control h)
    rcases taken with hcontrol | hqueued
    · have hgrounded := hs.control frame hcontrol
      exact ⟨.inr (Frame.grounded_mono hlog hgrounded),
        fun f' hf' => hs.ahead frame (.inr hcontrol) f' (queued hf'),
        fun f' _ => Frame.grounded_undoes hgrounded⟩
    · obtain ⟨call, rfl⟩ := hs.calls frame hqueued
      exact ⟨.inl ⟨call, rfl⟩, fun f' _ => Frame.call_undoes call f',
        fun f' hf' => hs.ahead f' (hbehind f' hf') _ hqueued⟩
  | write frame here next queued control written =>
    obtain ⟨hframe, hahead, hbehind⟩ := hat.hand frame here
    refine ⟨⟨?_, fun f hf => hs.calls f (queued ▸ hf), fun f hf => ?_, fun f hf => ?_, ?_⟩, haims,
      ?_, hwriter⟩
    · rw [written]
      refine List.pairwise_append.mpr
        ⟨hs.order, List.pairwise_singleton _ _, fun f hf f' hf' => ?_⟩
      obtain rfl := List.mem_singleton.mp hf'
      exact hbehind f (.inl hf)
    · exact Frame.grounded_mono hlog (hs.control f (control ▸ hf))
    · rw [written] at hf
      rcases List.mem_append.mp hf with hold | hnew
      · exact hknown f (hs.written f hold)
      · grind
    · intro f hf f' hf'
      rw [queued] at hf'
      rw [written, control, List.mem_append, List.mem_singleton] at hf
      rcases hf with (hold | rfl) | hold
      · exact hs.ahead f (.inl hold) f' hf'
      · exact hahead f' hf'
      · exact hs.ahead f (.inr hold) f' hf'
    · subst next
      exact nofun

theorem WireAt.other {u : Nat} (hat : WireAt s t pc) (hatU : WireAt s u pcU) (htu : t ≠ u)
    (hg : queuesInOrder s pc = true) (hgU : queuesBeside pcU pc = true)
    (h : Moves s.state t pc k s' pc') (hlog : s.log ⊆ log') : WireAt ⟨s', log'⟩ u pcU := by
  refine ⟨fun f hf => Frame.grounded_mono hlog (hatU.aims f hf), ?_, hatU.writer⟩
  rintro f rfl
  obtain ⟨hknown, hahead, hbehind⟩ := hatU.hand f rfl
  have hknown' := hknown.imp id (Frame.grounded_mono hlog)
  have hwire := h.wire
  cases hwire with
  | idle queued control written | take frame next taken queued control written =>
    refine ⟨hknown', fun f' hf' => hahead f' (queued hf'), fun f' hf' => hbehind f' ?_⟩
    exact hf'.imp (fun h => written ▸ h) (fun h => control h)
  | call call here next queued control written =>
    subst here
    refine ⟨hknown', fun f' hf' => ?_, fun f' hf' => hbehind f' ?_⟩
    · rcases List.mem_cons.mp (queued hf') with rfl | hold
      · exact Frame.spares_new hknown hg
      · exact hahead f' hold
    · rwa [written, control] at hf'
  | control frame here next queued control written =>
    refine ⟨hknown', fun f' hf' => hahead f' (queued ▸ hf'), fun f' hf' => ?_⟩
    rw [written, control, List.mem_append, List.mem_singleton, ← or_assoc] at hf'
    rcases hf' with hold | rfl
    · exact hbehind f' hold
    · rcases here with rfl | rfl
      · exact (Bool.not_eq_true' _).mp hgU
      · cases f <;> rfl
  | write frame here =>
    -- there is no second writer
    subst here
    exact absurd ((hat.writer rfl).trans (hatU.writer rfl).symm) htu

end Steps

theorem wireOrdered_valid :
    (Outline.plain WireOrdered WireAt).Valid ((program (V := V)).logged queuedCall)
      cancelsLate := by
  have hqueued : ∀ (s : Shared V) t (pc : Pc V) (k : Input V) m call, pc = .caller (.send call) →
      m.next = .caller (.holding call) → call ∈ queuedCall s t pc k m := by
    rintro s t pc k m call rfl hnext
    simp [queuedCall, hnext]
  refine Outline.plain_valid ?_ ?_ ?_ ?_
  · intro s t pc k m' hm'
    obtain ⟨m, hm, rfl⟩ := logged_move hm'
    exact (move_eq_some hm).2
  · intro s t pc _ hentry hstart
    refine ⟨fun f hf => ?_, ?_, fun hw => ?_⟩
    · cases pc with
      | caller pc =>
        cases pc with
        | enter call =>
          change usesOpened s _ = true at hstart
          cases hkind : call.kind <;>
            simp only [Pc.aims, hkind, reduceCtorEq, Option.some.injEq] at hf
          subst hf
          simpa only [usesOpened, hkind, cancelFrame] using hstart
        | _ => cases hentry
      | cancel pc =>
        cases pc with
        | session =>
          cases hf
          exact hstart
        | shutdown => cases hf
        | _ => cases hentry
      | _ => cases hf
    · rintro f rfl
      cases hentry
    · cases pc with
      | writer | dying => cases hentry
      | _ => cases hw
  · intro s t pc k m' hs hat hg hm'
    obtain ⟨m, hm, rfl⟩ := logged_move hm'
    exact hs.move hat hg (move_moves hm) (List.subset_append_left _ _)
      fun call hpc hnext => List.mem_append_right _ (hqueued _ t pc k m call hpc hnext)
  · intro s t pc k m' u pcU _ hat hatU htu hg hgU hm'
    obtain ⟨m, hm, rfl⟩ := logged_move hm'
    exact hat.other hatU htu hg hgU (move_moves hm) (List.subset_append_left _ _)

theorem wireOrdered_init (queueCapacity eventQueueCapacity : Nat) (capability : String) :
    (Outline.plain WireOrdered WireAt).Holds
      (init (V := V) queueCapacity eventQueueCapacity capability).logged := by
  refine Outline.plain_holds ⟨List.Pairwise.nil, nofun, nofun, nofun, nofun⟩ fun t pc hpc => ?_
  change (init queueCapacity eventQueueCapacity capability).pool[t]? = some pc at hpc
  rcases init_pool hpc with ⟨-, rfl⟩ | ⟨rfl, rfl⟩
  · exact ⟨nofun, nofun, nofun⟩
  · exact ⟨nofun, nofun, fun _ => rfl⟩

/-- **No cancel stands before the frame it cancels**, in every run in which ids and stream ids are
given to one call each and a cancel is queued only when the frame it is meant for has left its
channel and the writer's hands. -/
theorem cancels_follow_calls (queueCapacity eventQueueCapacity : Nat) (capability : String)
    {acts : List (Act (Pc V) (Input V))} {c : Threads (Logged (Shared V) Call) (Pc V)}
    (hlate : Meets (program.logged queuedCall).step cancelsLate.Allows
      (init queueCapacity eventQueueCapacity capability).logged acts)
    (hrun : run (program.logged queuedCall).step
      (init queueCapacity eventQueueCapacity capability).logged acts = some c) :
    c.shared.state.trace.written.Pairwise (fun frame frame' => frame.undoes frame' = false) :=
  (Outline.run wireOrdered_valid (wireOrdered_init queueCapacity eventQueueCapacity capability)
    hlate hrun).shared.order

/-! ## Sample runs -/

def watchOpen : Call := ⟨.streamOpen 9, 3, "example.store@1", "watch"⟩

/-- The owner of the call drops it; its cancel goes through to the control channel. -/
def dropping (t : Nat) : List (Act (Pc Nat) (Input Nat)) :=
  [.move t .drop 0, .move t .go 0, .move t .go 0, .move t .go 0, .move t .go 0,
    .move t (.encoded true) 0]

/-- The writer comes to the request channel and writes the first frame of it. -/
def writesCall : List (Act (Pc Nat) (Input Nat)) :=
  [.move 0 .go 0, .move 0 .go 0, .move 0 .go 0, .move 0 (.written none) 0]

def writesControl : List (Act (Pc Nat) (Input Nat)) :=
  [.move 0 .go 0, .move 0 (.written none) 0]

theorem cancels_follow_calls_sample :
    ∃ c, run (program.logged queuedCall).step (init 1 1 "example.store@1").logged
        (queueing 2 storeRequest ++ writesCall ++ dropping 2 ++ writesControl) = some c ∧
      c.shared.state.trace.written = [.call storeRequest, .cancel 5] ∧
      c.shared.state.trace.written.Pairwise (fun frame frame' => frame.undoes frame' = false) := by
  refine exists_run (by decide +kernel) ⟨by decide +kernel, ?_⟩
  exact cancels_follow_calls 1 1 _ (by decide +kernel) (run_get _)

/-- A request and a stream open are dropped while their frames are queued: the writer takes the
cancel first. -/
theorem cancel_overtakes_call :
    (∃ c, run program.step (init 1 1 "example.store@1")
        (queueing 2 storeRequest ++ dropping 2 ++ writesControl ++ writesCall) = some c ∧
      c.shared.trace.written = [.cancel 5, .call storeRequest]) ∧
    ∃ c, run program.step (init 1 1 "example.store@1")
        (queueing 2 watchOpen ++ dropping 2 ++ writesControl ++ writesCall) = some c ∧
      c.shared.trace.written = [.streamCancel 9, .call watchOpen] := by
  constructor
  · exact exists_run (by decide +kernel) (by decide +kernel)
  · exact exists_run (by decide +kernel) (by decide +kernel)

end LensoBun.Transport.Framed
