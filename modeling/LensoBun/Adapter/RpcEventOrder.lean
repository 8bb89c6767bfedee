import LensoBun.Adapter.Publish
import LensoBun.Lib.History
import LensoBun.Transport.RpcEvents

set_option autoImplicit false

/-! # The order of events on the JSON-RPC wire

The publishes of a binding are admitted one after the other, and their HTTP requests are to be
issued in that order, whichever of them are dropped meanwhile. A publish puts its event into the
event channel while it has its turn, and the worker issues the requests in the order of the channel
(`Transport.RpcEvents`); so it is enough that the sends are in order. Whoever has its turn is the
first in line, and everybody still in line was admitted later.

This rests on the tickets in line being different. The counter of the tickets wraps around: after
2^64 publishes a ticket comes again, and when its first owner still has it, dropping the second one
passes the turn on over the head of the first.
-/

namespace LensoBun.Adapter

open Std Lib Transport Transport.JsonRpc

variable {β V : Type}

/-! ## The wire -/

def jsonRpcOpens : Pc V → Bool
  | .caller (.enter call) => decide (call.lane = .event)
  | _ => false

def jsonRpcRefusal : Pc V → Option RuntimeFailure
  | .refused failure => some failure
  | _ => none

def jsonRpcEnded : Pc V → Bool
  | .refused _ | .done => true
  | _ => false

/-- The JSON-RPC transport as publishes see it. -/
def jsonRpcWire : Wire (Logged (Shared V) ChannelEvent) (Pc V) (Input V) where
  program := program.logged eventSteps
  publishEvent call := .caller (.enter call)
  opens := jsonRpcOpens
  refusal := jsonRpcRefusal
  ended := jsonRpcEnded
  alive s := s.state.process.alive
  queued s := s.state.eventFlags

abbrev RpcSystem (β V : Type) := System β (Logged (Shared V) ChannelEvent) (Pc V)

def rpcInit [DecidableEq β] (codecs : β → Codec) (bindings : List (β × Nat)) (queueCapacity : Nat)
    (capability : String) : RpcSystem β V :=
  .init codecs bindings (init queueCapacity (eventQueueCapacity bindings) capability).logged

/-! ## Sends in turn -/

/-- If the two are publishes of one binding, the first was admitted before the second. -/
def Precedes (publishes : ExtTreeMap Nat (Publish β)) (n m : Nat) : Prop :=
  ∀ p p', publishes[n]? = some p → publishes[m]? = some p' → p.binding = p'.binding →
    p.serial < p'.serial

/-- The thread makes an event call and has not put it into the channel. -/
def unsent : Pc V → Bool
  | .caller (.holding _) => false
  | .caller pc => decide (pc.call.lane = .event)
  | _ => false

structure SendsInTurn (s : RpcSystem β V) : Prop where
  /-- Event calls are made by publishes that have their turn. -/
  callers : ∀ (t : Nat) (pc : Pc V) (call : Call), s.wire.pool[t]? = some pc →
    pc.made = some call → call.lane = .event →
    ∃ p, s.publishes[t]? = some p ∧ p.calling = true
  known : ∀ n ∈ sends s.wire.shared.log, ∃ p, s.publishes[n]? = some p ∧ p.permit.started = true
  late : ∀ (t : Nat) (pc : Pc V), s.wire.pool[t]? = some pc → unsent pc = true →
    t ∉ sends s.wire.shared.log
  ordered : (sends s.wire.shared.log).Pairwise (Precedes s.publishes)
  /-- Who is still in line was admitted after those who have sent. -/
  ahead : ∀ n ∈ sends s.wire.shared.log, ∀ (m : Nat) (p' : Publish β), s.publishes[m]? = some p' →
    p'.finished = false → m ≠ n → Precedes s.publishes n m

/-! ## What a step of the wire does to the sends -/

section

variable {c c' : Threads (Logged (Shared V) ChannelEvent) (Pc V)} {a : Lib.Act (Pc V) (Input V)}

/-- A step leaves the sends as they are, or a caller puts its event into the channel. -/
theorem sends_step (h : jsonRpcWire.program.step c a = some c') :
    sends c'.shared.log = sends c.shared.log ∨
    ∃ t call, c.pool[t]? = some (.caller (.send call)) ∧ call.lane = .event ∧
      c'.pool[t]? = some (.caller (.holding call)) ∧
      sends c'.shared.log = sends c.shared.log ++ [t] := by
  cases a with
  | start => grind [Program.step_cases]
  | move t =>
    obtain ⟨pc, m', hpc, hm', hsh, hnext, -, -⟩ := Program.move_pool h
    obtain ⟨m, hm, rfl⟩ := logged_move hm'
    rw [hsh]
    cases move_eventMove hm with
    | keep _ _ hlog | take _ _ _ _ _ _ hlog | retire _ _ _ _ _ _ hlog =>
      exact .inl (by simp only [hlog, List.append_nil])
    | send call hhere hevent hnext' _ _ hlog => grind [sends_sent]
    | issue _ _ _ _ _ _ hlog => exact .inl (by simp only [hlog, sends_issued])

theorem made_step (h : jsonRpcWire.program.step c a = some c') {u : Nat} {pc' : Pc V} {call : Call}
    (hu : c'.pool[u]? = some pc') (hmade : pc'.made = some call) :
    (∃ pc, c.pool[u]? = some pc ∧ pc.made = some call) ∨ a = .start u (.caller (.enter call)) := by
  rcases Program.thread_before_step h hu with hold | ⟨rfl, hstarts⟩ |
    ⟨t, k, child, pc, m', rfl, hpc, hm', hnew⟩
  · exact .inl ⟨pc', hold, hmade⟩
  · -- the only calls that start are those at their entry
    have hstarts : pc'.starts = true := hstarts
    cases pc' with
    | caller pc' =>
      cases pc' with
      | enter =>
        cases hmade
        exact .inr rfl
      | _ => cases hstarts
    | _ => cases hmade
  · obtain ⟨m, hm, rfl⟩ := logged_move hm'
    rcases move_cases hm with ⟨lane, call', ch, rfl, -, rfl⟩ | ⟨hmoves, hnone⟩
    · rcases hnew with ⟨rfl, rfl⟩ | hchild
      · cases hmade
      · cases hchild
        cases hmade
    · grind [made_moves]

/-- A caller that has its event in hand has had it before, or starts with it. -/
theorem unsent_step (h : jsonRpcWire.program.step c a = some c') {u : Nat} {pc' : Pc V}
    (hu : c'.pool[u]? = some pc') (hunsent : unsent pc' = true) :
    (∃ pc, c.pool[u]? = some pc ∧ unsent pc = true) ∨ a = .start u pc' := by
  rcases Program.thread_before_step h hu with hold | ⟨rfl, -⟩ |
    ⟨t, k, child, pc, m', rfl, hpc, hm', hnew⟩
  · exact .inl ⟨pc', hold, hunsent⟩
  · exact .inr rfl
  · obtain ⟨m, hm, rfl⟩ := logged_move hm'
    rcases move_cases hm with ⟨lane, call, ch, rfl, -, rfl⟩ | ⟨hmoves, hnone⟩
    · rcases hnew with ⟨rfl, rfl⟩ | hchild
      · cases hunsent
      · cases hchild
        cases hunsent
    · rcases hnew with ⟨rfl, rfl⟩ | hchild
      · refine .inl ⟨pc, hpc, ?_⟩
        obtain ⟨s', next, child⟩ := m
        have hmoves : Moves c.shared.state u pc k s' next := hmoves
        have hunsent : unsent next = true := hunsent
        cases hmoves with
        | killed failure after | notify failure after => cases after <;> cases hunsent
        | _ => first | exact hunsent | cases hunsent
      · rw [hnone] at hchild
        cases hchild

end

/-! ## The sends of a binding are in order -/

section

variable {publishes publishes' : ExtTreeMap Nat (Publish β)} {n m : Nat}

/-- The order of two publishes does not depend on how far they have come. -/
theorem Precedes.mono (h : Precedes publishes n m)
    (hn : ∀ p', publishes'[n]? = some p' → ∃ p, publishes[n]? = some p ∧ p.binding = p'.binding ∧
      p.serial = p'.serial)
    (hm : ∀ p', publishes'[m]? = some p' → ∃ p, publishes[m]? = some p ∧ p.binding = p'.binding ∧
      p.serial = p'.serial) : Precedes publishes' n m := by
  intro p p' hp hp' hb
  obtain ⟨q, hq, hqb, hqs⟩ := hn p hp
  obtain ⟨q', hq', hqb', hqs'⟩ := hm p' hp'
  have hlt := h q q' hq hq' (hqb.trans (hb.trans hqb'.symm))
  omega

/-- The publish of a binding that has its turn is before the others in line. -/
theorem System.InTurn.precedes {s : RpcSystem β V} (h : s.InTurn) {p p' : Publish β}
    (hp : s.publishes[n]? = some p) (hcalling : p.calling = true) (hp' : s.publishes[m]? = some p')
    (hopen : p'.finished = false) (hne : m ≠ n) : Precedes s.publishes n m := by
  intro q q' hq hq' hb
  cases hp.symm.trans hq
  cases hp'.symm.trans hq'
  exact h.serial_lt hp hcalling hp' hopen hb.symm hne

end

section

variable {s s' : RpcSystem β V}

/-- Nothing happens in the transport, and the publishes keep their places. -/
theorem SendsInTurn.same_wire (h : SendsInTurn s) (hwire : s'.wire = s.wire)
    (hold : ∀ (n : Nat) (p' : Publish β), s'.publishes[n]? = some p' →
      (∃ p, s.publishes[n]? = some p ∧ p.binding = p'.binding ∧ p.serial = p'.serial ∧
        (p'.finished = false → p.finished = false)) ∨
      s.publishes[n]? = none ∧ ∀ (m : Nat) (p : Publish β), s.publishes[m]? = some p →
        p.binding = p'.binding → p.serial < p'.serial)
    (hcallers : ∀ (n : Nat) (p : Publish β) (pc : Pc V) (call : Call), s.publishes[n]? = some p →
      p.calling = true → s.wire.pool[n]? = some pc → pc.made = some call →
      ∃ p', s'.publishes[n]? = some p' ∧ p'.calling = true)
    (hstarted : ∀ (n : Nat) (p : Publish β), s.publishes[n]? = some p → p.permit.started = true →
      ∃ p', s'.publishes[n]? = some p' ∧ p'.permit.started = true) : SendsInTurn s' := by
  have hsent : ∀ n ∈ sends s.wire.shared.log, ∀ p', s'.publishes[n]? = some p' →
      ∃ p, s.publishes[n]? = some p ∧ p.binding = p'.binding ∧ p.serial = p'.serial := by
    grind [h.known]
  refine ⟨?_, ?_, ?_, ?_, ?_⟩
  · grind [h.callers]
  · grind [h.known]
  · rw [hwire]
    exact h.late
  · rw [hwire]
    refine h.ordered.imp_of_mem fun hn hm hprec => hprec.mono (hsent _ hn) (hsent _ hm)
  · rw [hwire]
    intro n hn m p' hp' hopen hne
    rcases hold m p' hp' with ⟨p, hp, hb, hs, hfin⟩ | ⟨hnone, hnew⟩
    · refine (h.ahead n hn m p hp (hfin hopen) hne).mono (hsent n hn) fun q hq => ?_
      cases hp'.symm.trans hq
      exact ⟨p, hp, hb, hs⟩
    · -- a new publish comes after all others of its binding
      intro q q' hq hq' hqb
      cases hp'.symm.trans hq'
      obtain ⟨p, hp, hb, hs⟩ := hsent n hn q hq
      have hlt := hnew n p hp (hb.trans hqb)
      omega

/-- A step of the transport: an event that is sent comes after those sent before. -/
theorem SendsInTurn.wire_step (h : SendsInTurn s) (hturn : s.InTurn)
    {a : Lib.Act (Pc V) (Input V)} {wire : Threads (Logged (Shared V) ChannelEvent) (Pc V)}
    (hopens : (jsonRpcWire (V := V)).opensAct a = false)
    (hmoved : jsonRpcWire.program.step s.wire a = some wire) :
    SendsInTurn { s with wire := wire } := by
  have hcallers : ∀ (t : Nat) (pc : Pc V) (call : Call), wire.pool[t]? = some pc →
      pc.made = some call → call.lane = .event →
      ∃ p, s.publishes[t]? = some p ∧ p.calling = true := by
    intro t pc call hpc hmade hevent
    rcases made_step hmoved hpc hmade with ⟨pc₀, hpc₀, hmade₀⟩ | rfl
    · exact h.callers t pc₀ call hpc₀ hmade₀ hevent
    · exact absurd hevent (of_decide_eq_false hopens)
  have hunsent : ∀ (t : Nat) (pc : Pc V), wire.pool[t]? = some pc → unsent pc = true →
      t ∉ sends s.wire.shared.log := by
    intro t pc hpc hun
    rcases unsent_step hmoved hpc hun with ⟨pc₀, hpc₀, hun₀⟩ | rfl
    · exact h.late t pc₀ hpc₀ hun₀
    · -- only event calls have something to send, and they are not started here
      rcases Program.step_cases hmoved with ⟨_, _, hact, hstarts, _, _⟩ | ⟨_, _, _, _, _, hact, _⟩
      · cases hact
        have hstarts : pc.starts = true := hstarts
        cases pc with
        | caller pc =>
          cases pc with
          | enter => exact absurd (of_decide_eq_true hun) (of_decide_eq_false hopens)
          | _ => cases hstarts
        | _ => cases hun
      · cases hact
  rcases sends_step hmoved with hsame | ⟨t, call, hpc, hevent, hpc', hsends⟩
  · refine ⟨hcallers, ?_, ?_, ?_, ?_⟩
    · show ∀ n ∈ sends wire.shared.log, _
      rw [hsame]
      exact h.known
    · grind
    · show (sends wire.shared.log).Pairwise _
      rw [hsame]
      exact h.ordered
    · show ∀ n ∈ sends wire.shared.log, _
      rw [hsame]
      exact h.ahead
  · obtain ⟨p, hp, hcalling⟩ := h.callers t _ call hpc rfl hevent
    obtain ⟨hstarted, hopen⟩ := calling_iff.mp hcalling
    have hfresh : t ∉ sends s.wire.shared.log := h.late t _ hpc (decide_eq_true hevent)
    refine ⟨hcallers, ?_, ?_, ?_, ?_⟩
    · show ∀ n ∈ sends wire.shared.log, _
      rw [hsends]
      intro n hn
      rcases List.mem_append.mp hn with hn | hn
      · exact h.known n hn
      · grind
    · show ∀ (t : Nat) (pc : Pc V), _ → _ → t ∉ sends wire.shared.log
      rw [hsends]
      intro u pc hpcU hun hmem
      rcases List.mem_append.mp hmem with hmem | hmem
      · exact hunsent u pc hpcU hun hmem
      · rw [List.mem_singleton.mp hmem, hpc'] at hpcU
        cases hpcU
        cases hun
    · show (sends wire.shared.log).Pairwise _
      rw [hsends, List.pairwise_append]
      refine ⟨h.ordered, List.pairwise_singleton _ _, fun n hn m hm => ?_⟩
      rw [List.mem_singleton.mp hm]
      refine h.ahead n hn t p hp hopen ?_
      rintro rfl
      exact hfresh hn
    · show ∀ n ∈ sends wire.shared.log, _
      rw [hsends]
      intro n hn m p' hp' hopen' hne
      rcases List.mem_append.mp hn with hn | hn
      · exact h.ahead n hn m p' hp' hopen' hne
      · grind [System.InTurn.precedes]

/-- The turn has come and the call is started: it has sent nothing yet. -/
theorem SendsInTurn.begun (h : SendsInTurn s) {n : Nat} {p : Publish β}
    {wire : Threads (Logged (Shared V) ChannelEvent) (Pc V)} (hp : s.publishes[n]? = some p)
    (hwaiting : p.waiting = true)
    (hstarted : jsonRpcWire.program.step s.wire (.start n (.caller (.enter p.call))) = some wire) :
    SendsInTurn (s.begun n p wire) := by
  obtain ⟨hnot, hopen⟩ := waiting_iff.mp hwaiting
  have hfresh : n ∉ sends s.wire.shared.log := by grind [h.known]
  have hpublishes : ∀ m : Nat, (s.publishes.insert n { p with permit := p.permit.begun })[m]? =
      if n = m then some { p with permit := p.permit.begun } else s.publishes[m]? :=
    fun m => getElem?_insert_nat _ _ _ _
  have hmoved : SendsInTurn { s with
      publishes := s.publishes.insert n { p with permit := p.permit.begun } } := by
    refine h.same_wire rfl (fun m p' hp' => ?_) (fun m q pc call hq hcalling _ _ => ?_)
      fun m q hq hs => ?_
    · grind
    · change ∃ p', (s.publishes.insert n _)[m]? = some p' ∧ _
      rw [hpublishes]
      split
      · next hn =>
          subst hn
          exact ⟨_, rfl, calling_iff.mpr ⟨rfl, hopen⟩⟩
      · exact ⟨q, hq, hcalling⟩
    · grind
  rcases Program.step_cases hstarted with ⟨_, _, hact, -, hfree, rfl⟩ | ⟨_, _, _, _, _, hact, _⟩
  · cases hact
    have hpool : ∀ (t : Nat) (pc : Pc V),
        (s.wire.pool.insert n (.caller (.enter p.call)))[t]? = some pc →
        (n = t ∧ pc = .caller (.enter p.call)) ∨ s.wire.pool[t]? = some pc := by grind
    refine ⟨?_, hmoved.known, ?_, hmoved.ordered, hmoved.ahead⟩
    · intro t pc call hpc hmade hevent
      rcases hpool t pc hpc with ⟨rfl, -⟩ | hpc
      · refine ⟨_, (hpublishes n).trans (if_pos rfl), calling_iff.mpr ⟨rfl, hopen⟩⟩
      · exact hmoved.callers t pc call hpc hmade hevent
    · intro t pc hpc hun
      rcases hpool t pc hpc with ⟨rfl, -⟩ | hpc
      · exact hfresh
      · exact hmoved.late t pc hpc hun
  · cases hact

end

/-! ## Along a run -/

section

variable [DecidableEq β] {s s' : RpcSystem β V} {a : Act β (Pc V) (Input V)}

theorem made_of_ended {pc : Pc V} (h : jsonRpcEnded pc = true) : pc.made = none := by
  cases pc with
  | caller => cases h
  | _ => rfl

theorem SendsInTurn.step (h : SendsInTurn s) (hturn : s.InTurn) (hstep : Steps jsonRpcWire s a s') :
    SendsInTurn s' := by
  cases hstep with
  | publish n b requestId operation call queue queue' permit hfree =>
    have hpublishes : ∀ m : Nat, (s.enter n b call queue' permit).publishes[m]? =
        if n = m then some ⟨b, s.admitted b, call, permit, false⟩ else s.publishes[m]? :=
      fun m => getElem?_insert_nat _ _ _ _
    have hkept : ∀ (m : Nat) (q : Publish β), s.publishes[m]? = some q →
        (s.enter n b call queue' permit).publishes[m]? = some q := by grind
    refine h.same_wire rfl (fun m p' hp' => ?_)
      (fun m q pc call' hq hcalling _ _ => ⟨q, hkept m q hq, hcalling⟩)
      fun m q hq hs => ⟨q, hkept m q hq, hs⟩
    rw [hpublishes] at hp'
    split at hp'
    · grind [hturn.serial]
    · exact .inl ⟨p', hp', rfl, rfl, id⟩
  | begin n p queue wire hp hbound hwaiting hgrants hstarted => exact h.begun hp hwaiting hstarted
  | drop n p queue hp hbound hwaiting =>
    obtain ⟨hnot, hopen⟩ := waiting_iff.mp hwaiting
    have hpublishes : ∀ m : Nat, (s.dropped n p queue).publishes[m]? =
        if n = m then none else s.publishes[m]? :=
      fun m => getElem?_erase_nat _ _ _
    refine h.same_wire rfl (fun m p' hp' => ?_) (fun m q pc call hq hcalling _ _ => ?_)
      fun m q hq hs => ?_
    · grind
    · rw [hpublishes]
      split
      · next hn =>
          -- who waits does not call
          subst hn
          cases hp.symm.trans hq
          rw [(calling_iff.mp hcalling).1] at hnot
          cases hnot
      · exact ⟨q, hq, hcalling⟩
    · grind
  | finish n p queue pc hp hbound hcalling hpc hended =>
    have hpublishes : ∀ m : Nat, (s.finished n p queue).publishes[m]? =
        if n = m then some { p with finished := true } else s.publishes[m]? :=
      fun m => getElem?_insert_nat _ _ _ _
    refine h.same_wire rfl (fun m p' hp' => ?_) (fun m q pc' call hq hcalling' hpc' hmade => ?_)
      fun m q hq hs => ?_
    · grind
    · rw [hpublishes]
      split
      · next hn =>
          -- its call is over: the thread makes none
          subst hn
          cases hpc.symm.trans hpc'
          rw [made_of_ended hended] at hmade
          cases hmade
      · exact ⟨q, hq, hcalling'⟩
    · grind
  | wire a wire hopens hmoved => exact h.wire_step hturn hopens hmoved

/-- The turns, the sends and the worker, all together. -/
structure InOrder (s : RpcSystem β V) : Prop where
  turns : s.InTurn
  sends : SendsInTurn s
  issuing : issuing.Holds s.wire

theorem InOrder.step (h : InOrder s) (hfresh : freshTicket s a)
    (hstep : Adapter.step jsonRpcWire s a = some s') : InOrder s' := by
  have hsteps := step_steps hstep
  refine ⟨h.turns.step hfresh hsteps, h.sends.step h.turns hsteps, ?_⟩
  rcases hsteps.wire_step with hsame | ⟨a', ha'⟩
  · rw [hsame]
    exact h.issuing
  · exact h.issuing.step issuing_valid (Guard.any_allows s.wire a') ha'

theorem inOrder_init (codecs : β → Codec) (bindings : List (β × Nat)) (queueCapacity : Nat)
    (capability : String) :
    InOrder (rpcInit (V := V) codecs bindings queueCapacity capability) := by
  have hmade : ∀ (t : Nat) (pc : Pc V),
      (init queueCapacity (eventQueueCapacity bindings) capability).pool[t]? = some pc →
      pc.made = none := by
    intro t pc hpc
    simp only [init, getElem?_insert_nat] at hpc
    repeat' split at hpc
    all_goals cases hpc <;> rfl
  have hnone : ∀ n, n ∉ sends (rpcInit (V := V) codecs bindings queueCapacity capability).wire.shared.log :=
    fun n => List.not_mem_nil
  refine ⟨.init codecs bindings _, ⟨fun t pc call hpc hcall => ?_, fun n hn => absurd hn (hnone n),
    fun t _ _ _ => hnone t, .nil, fun n hn => absurd hn (hnone n)⟩,
    issuing_init queueCapacity _ capability⟩
  rw [hmade t pc hpc] at hcall
  cases hcall

/-! ## The theorem -/

/-- The serials, among the publishes `ns`, of those of the binding. -/
def System.serials (s : RpcSystem β V) (b : β) (ns : List Nat) : List Nat :=
  ns.filterMap fun n => s.publishes[n]?.bind fun p => if p.binding = b then some p.serial else none

end

/-- **On the JSON-RPC wire the requests for the events of a binding are issued in the order in which
their publishes were admitted, and one at a time**, if no ticket is handed out again while its first
owner has it. -/
theorem events_issued_in_order [DecidableEq β] (codecs : β → Codec) (bindings : List (β × Nat))
    (queueCapacity : Nat) (capability : String) (acts : List (Act β (Pc V) (Input V)))
    (s : RpcSystem β V)
    (hfresh : Meets (step jsonRpcWire) freshTicket (rpcInit codecs bindings queueCapacity capability)
      acts)
    (hrun : run (step jsonRpcWire) (rpcInit codecs bindings queueCapacity capability) acts = some s) :
    (∀ b, (s.serials b (issues s.wire.shared.log)).Pairwise (· < ·)) ∧
    (∀ n ∈ issues s.wire.shared.log, ∃ p, s.publishes[n]? = some p) ∧
    ∀ (t u : Nat) (pc pc' : Pc V), s.wire.pool[t]? = some pc → s.wire.pool[u]? = some pc' →
      pc.requestsEvent = true → pc'.requestsEvent = true → t = u := by
  have h : InOrder s :=
    run_invariant_of_meets (fun _ _ _ hs hf hstep => hs.step hf hstep)
      (inOrder_init codecs bindings queueCapacity capability) hfresh hrun
  obtain ⟨taken, hsends, hissues⟩ := h.issuing.shared.order
  have hsub : (issues s.wire.shared.log).Sublist (sends s.wire.shared.log) := by grind
  refine ⟨fun b => ?_, fun n hn => ?_, fun t u pc pc' hpc hpc' hreq hreq' => ?_⟩
  · rw [System.serials, List.pairwise_filterMap]
    refine (h.sends.ordered.sublist hsub).imp fun hprec i hi j hj => ?_
    obtain ⟨p, hp, hi⟩ := Option.bind_eq_some_iff.mp hi
    obtain ⟨p', hp', hj⟩ := Option.bind_eq_some_iff.mp hj
    split at hi
    · next hb =>
        split at hj
        · next hb' =>
            cases hi
            cases hj
            exact hprec p p' hp hp' (hb.trans hb'.symm)
        · cases hj
    · cases hi
  · obtain ⟨p, hp, -⟩ := h.sends.known n (hsub.subset hn)
    exact ⟨p, hp⟩
  · by_contra hne
    have hidle := h.issuing.pair t u pc pc' hne hpc hpc' (runsEvent_of_requestsEvent hreq)
    rw [runsEvent_of_requestsEvent hreq'] at hidle
    cases hidle

/-! ## Sample runs -/

def sampleCodec (_ : Unit) : Codec := ⟨"example.events@1", ["changed"]⟩

/-- One binding whose queue has room for three. -/
def sampleInit : RpcSystem Unit Nat := rpcInit sampleCodec [((), 3)] 1 "example.events@1"

/-- The event of publish `n`, with `n` for its request id. -/
def samplePublish (n : Nat) : Act Unit (Pc Nat) (Input Nat) := .publish n () n "changed" none

/-- A publish that has its turn puts its event into the channel. -/
def sendActs (n : Nat) : List (Act Unit (Pc Nat) (Input Nat)) :=
  [.begin n, .wire (.move n .go 0), .wire (.move n (.encoded true) 0)] ++
    List.replicate 4 (.wire (.move n .go 0))

/-- The worker takes the next event as thread `u`, issues its request, gets the answer and finishes
the call of publish `n`, which returns. -/
def answerActs (n u : Nat) : List (Act Unit (Pc Nat) (Input Nat)) :=
  [.wire (.move 1 .go u), .wire (.move u (.encoded true) 0), .wire (.move u .go 0),
    .wire (.move u (.outcome 0) 0)] ++ List.replicate 5 (.wire (.move u .go 0)) ++
    [.wire (.move n .poll 0), .finish n]

/-- Of three publishes the second is dropped while it waits. -/
theorem events_issued_in_order_sample :
    ∃ s, run (step jsonRpcWire) sampleInit ([samplePublish 10, samplePublish 11, samplePublish 12] ++
        sendActs 10 ++ [.drop 11] ++ answerActs 10 20 ++ sendActs 12 ++ answerActs 12 21) = some s ∧
      issues s.wire.shared.log = [10, 12] ∧
      (s.serials () (issues s.wire.shared.log)).Pairwise (· < ·) := by
  refine exists_run (by decide +kernel) ⟨by decide +kernel, ?_⟩
  exact (events_issued_in_order sampleCodec [((), 3)] 1 "example.events@1" _ _ (by decide +kernel)
    (run_get _)).1 ()

/-- Publish 10 has its turn and has not been polled, publish 11 waits, and `k` publishes have been
admitted. -/
def churned (k : Nat) : RpcSystem Unit Nat :=
  { sampleInit with
    queues := fun _ => some ⟨3, 2, UInt64.ofNat k, some 0, [(1, 11)]⟩
    admitted := fun _ => k
    publishes := (ExtTreeMap.insert ∅ 10 ⟨(), 0, ⟨.event, 10, "example.events@1", "changed"⟩,
      ⟨0, false, false⟩, false⟩).insert 11 ⟨(), 1, ⟨.event, 11, "example.events@1", "changed"⟩,
      ⟨1, true, false⟩, false⟩ }

def churn (k : Nat) : List (Act Unit (Pc Nat) (Input Nat)) :=
  (List.replicate k [samplePublish 12, .drop 12]).flatten

theorem ofNat_ne_of_lt {k i : Nat} (hk : k < 2 ^ 64) (hi : i < k) :
    UInt64.ofNat k ≠ UInt64.ofNat i := by
  intro heq
  have hnat := congrArg UInt64.toNat heq
  rw [UInt64.toNat_ofNat_of_lt' hk, UInt64.toNat_ofNat_of_lt' (hi.trans hk)] at hnat
  omega

theorem run_churn_one {k : Nat} (hlow : 2 ≤ k) (hhigh : k < 2 ^ 64) :
    run (step jsonRpcWire) (churned k) [samplePublish 12, .drop 12] = some (churned (k + 1)) := by
  have hzero : UInt64.ofNat k ≠ 0 := ofNat_ne_of_lt hhigh (show 0 < k by omega)
  have hone : UInt64.ofNat k ≠ 1 := ofNat_ne_of_lt hhigh (show 1 < k by omega)
  let queue : BunEventQueue :=
    ⟨3, 3, UInt64.ofNat k + 1, some 0, [(1, 11), (UInt64.ofNat k, 12)]⟩
  let p : Publish Unit := ⟨(), k, ⟨.event, 12, "example.events@1", "changed"⟩,
    ⟨UInt64.ofNat k, true, false⟩, false⟩
  have hpublish : step jsonRpcWire (churned k) (samplePublish 12) =
      some ((churned k).enter 12 () p.call queue p.permit) := rfl
  have hdrop : step jsonRpcWire ((churned k).enter 12 () p.call queue p.permit) (.drop 12) =
      some (((churned k).enter 12 () p.call queue p.permit).dropped 12 p queue) := rfl
  have hrelease : queue.release (UInt64.ofNat k) false =
      ⟨3, 2, UInt64.ofNat (k + 1), some 0, [(1, 11)]⟩ := by
    simp [queue, BunEventQueue.release, BunEventQueueState.release, hzero.symm, hone.symm]
  have hqueues : (((churned k).enter 12 () p.call queue p.permit).dropped 12 p queue).queues =
      (churned (k + 1)).queues := by
    funext b
    show Function.update (Function.update (churned k).queues () (some queue)) ()
      (some (queue.release (UInt64.ofNat k) false)) () = _
    rw [Function.update_self, hrelease]
    rfl
  have hadmitted : Function.update (churned k).admitted () (k + 1) = (churned (k + 1)).admitted :=
    funext fun b => Function.update_self ..
  have hpublishes : ((churned k).publishes.insert 12 p).erase 12 = (churned k).publishes := by
    refine ExtTreeMap.ext_getElem? fun m => ?_
    rw [getElem?_erase_nat, getElem?_insert_nat]
    split
    · next hm => rw [← hm]; rfl
    · rfl
  rw [run_cons_of_step hpublish, run_cons_of_step hdrop, run_nil]
  exact congrArg some (System.ext rfl hqueues hadmitted hpublishes rfl)

theorem run_churn {n : Nat} (h : 2 + n ≤ 2 ^ 64) :
    run (step jsonRpcWire) (churned 2) (churn n) = some (churned (2 + n)) := by
  induction n with
  | zero => rfl
  | succ n ih =>
    have hlast : churn (n + 1) = churn n ++ [samplePublish 12, .drop 12] := by
      simp only [churn, List.replicate_succ', List.flatten_append, List.flatten_singleton]
    rw [hlast, run_append, ih (by omega), Option.bind_some]
    exact run_churn_one (by omega) (by omega)

/-- After 2^64 publishes the ticket of publish 10 is handed out again, to publish 12. Dropping 12
passes the turn of 10 on to 11, whose request is then issued first. -/
theorem reused_ticket_reorders_events :
    ∃ acts s, run (step jsonRpcWire) sampleInit acts = some s ∧
      ¬ (s.serials () (issues s.wire.shared.log)).Pairwise (· < ·) := by
  let rest := [samplePublish 12, .drop 12] ++ sendActs 11 ++ answerActs 11 20 ++ sendActs 10 ++
    answerActs 10 21
  have hbegin : run (step jsonRpcWire) sampleInit [samplePublish 10, samplePublish 11] =
      some (churned 2) := by
    refine congrArg some (System.ext rfl ?_ ?_ rfl rfl) <;> funext b <;> rfl
  let s := (run (step jsonRpcWire) (churned (2 ^ 64)) rest).get (by decide +kernel)
  have hchurn : run (step jsonRpcWire) (churned 2) (churn (2 ^ 64 - 2)) = some (churned (2 ^ 64)) :=
    run_churn (by omega)
  refine ⟨[samplePublish 10, samplePublish 11] ++ churn (2 ^ 64 - 2) ++ rest, s, ?_, ?_⟩
  · rw [run_append, run_append, hbegin, Option.bind_some, hchurn, Option.bind_some]
    exact run_get _
  · have hissued : s.serials () (issues s.wire.shared.log) = [1, 0] := by decide +kernel
    rw [hissued]
    decide

end LensoBun.Adapter
