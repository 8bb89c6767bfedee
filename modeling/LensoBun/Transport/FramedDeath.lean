import LensoBun.Transport.Framed

set_option autoImplicit false

/-! # Calls that wait on a dead process

`call_on` and `stream_request` look at `alive` before they put their call into its registry, and
`fail_all` empties the registries once. A call put into a registry that has been emptied already
is resolved by nobody, unless its frame cannot be queued and the call is taken out again.

`Settled` is the invariant: an entry in an emptied registry belongs to a thread that has not
queued its frame yet.
-/

namespace LensoBun.Transport.Framed

open Std Lib

variable {V : Type}

/-- The thread executes `call_on` or `stream_request`. -/
def Pc.executes : Pc V → Bool
  | .caller (.holding _) => false
  | .caller _ => true
  | .dying _ _ (.caller _) => true
  | _ => false

/-- The call whose entry the thread has made and not queued yet. -/
def Pc.calling : Pc V → Option Call
  | .caller (.send call) | .caller (.undo call _) => some call
  | _ => none

theorem executes_of_calling {pc : Pc V} {call : Call} (h : pc.calling = some call) :
    pc.executes = true := by
  cases pc with
  | caller pc => cases pc <;> first | rfl | cases h
  | _ => cases h

/-- The frame of the call is queued although its registry has been emptied before the call was
put into it. -/
def Pc.queuesLate (s : Shared V) (t : Nat) : Pc V → Bool
  | .caller (.send call) =>
    s.trace.drained.get call.lane &&
      decide ((s.pending.get call.lane)[call.requestId]? = some t) &&
      ((s.wireSender call.lane).trySend (.call call)).isOk
  | _ => false

/-- No call is queued with its entry in a registry that `fail_all` has emptied already. -/
def queuesInTime : Guard (Shared V) (Pc V) (Input V) where
  self s t pc _ := pc.queuesLate s t = false

instance (c : Threads (Shared V) (Pc V)) (a : Act (Pc V) (Input V)) :
    Decidable (queuesInTime.Allows c a) := Guard.decidable c a

/-! ## What a step does to the registries -/

section

variable {s s' : Shared V} {t : Nat} {pc pc' : Pc V} {k : Input V} {lane : Lane}

/-- What is in a registry after `fail_all` has emptied one, and the registry has been emptied,
was there before, and the registry had been emptied before. -/
theorem entry_of_drain {lane₁ : Lane} {failure : RuntimeFailure} {id u : Nat}
    (hd : (s.drain lane₁ failure).trace.drained.get lane = true)
    (he : ((s.drain lane₁ failure).pending.get lane)[id]? = some u) :
    s.trace.drained.get lane = true ∧ (s.pending.get lane)[id]? = some u := by
  simp only [Shared.drain, PerLane.get_set] at hd he
  by_cases heq : lane₁ = lane
  · rw [if_pos heq] at he
    cases he
  · rw [if_neg heq] at hd he
    exact ⟨hd, he⟩

/-- An entry in an emptied registry was there before, or the thread has just made it. -/
theorem entry_move (h : Moves s t pc k s' pc') {id u : Nat}
    (hd : s'.trace.drained.get lane = true) (he : (s'.pending.get lane)[id]? = some u) :
    (s.trace.drained.get lane = true ∧ (s.pending.get lane)[id]? = some u) ∨
      (u = t ∧ ∃ call, pc' = .caller (.send call) ∧ call.lane = lane ∧ call.requestId = id) := by
  cases h with
  | insert call => grind [Shared.insertCall, getElem?_set_insert]
  | undoFull | undoStopped | takeRequest | takeEvent | takeStream | answerRequest | answerEvent
  | answerStream => exact Or.inl ⟨hd, getElem?_of_set_erase he⟩
  | failPending | failEvent | failStream => exact Or.inl (entry_of_drain hd he)
  | _ => exact Or.inl ⟨hd, he⟩

/-- A thread with an entry of its own keeps at it, has queued its frame, or takes the entry out. -/
theorem calling_move (h : Moves s t pc k s' pc') {call : Call} (hcall : pc.calling = some call) :
    pc'.calling = some call ∨
      (pc = .caller (.send call) ∧ s'.pending = s.pending ∧
        ((s.wireSender call.lane).trySend (.call call)).isOk = true) ∨
      (s'.pending.get call.lane)[call.requestId]? = none := by
  cases h with
  | queue call' k ch sent =>
    cases hcall
    exact Or.inr (Or.inl ⟨rfl, rfl, by rw [sent]; rfl⟩)
  | sendFails => exact Or.inl hcall
  | undoFull | undoStopped =>
    cases hcall
    exact Or.inr (Or.inr ((getElem?_set_erase _ _ _ _ _).trans (if_pos ⟨rfl, rfl⟩)))
  | _ => cases hcall

/-! ## How far `fail_all` has come -/

/-- The registries that have been emptied when `mark_dead` stands at the stage. -/
def Stage.past : Stage → Lane → Bool
  | .eventPending, lane => lane = .request
  | .cancelled, lane | .streamPending, lane => lane = .request || lane = .event
  | .streamCancelled, _ | .notify, _ => true
  | _, _ => false

theorem drained_mono (h : Moves s t pc k s' pc') (hd : s.trace.drained.get lane = true) :
    s'.trace.drained.get lane = true := by
  cases h with
  | failPending | failEvent | failStream =>
    simp only [Shared.drain, PerLane.get_set, hd, ite_self]
  | _ => exact hd

/-- A thread that comes to a stage of `mark_dead` has emptied the registries before it. -/
theorem past_move (h : Moves s t pc k s' pc')
    (hpast : ∀ stage failure after, pc = .dying stage failure after → stage.past lane = true →
      s.trace.drained.get lane = true)
    {stage : Stage} {failure : RuntimeFailure} {after : After}
    (hpc : pc' = .dying stage failure after) (hlane : stage.past lane = true) :
    s'.trace.drained.get lane = true := by
  cases h with
  | killed failure' after' | notify failure' after' => cases after' <;> cases hpc
  | clearCancelled | clearStreamCancelled =>
    cases hpc
    exact hpast _ _ _ rfl hlane
  | failPending | failEvent | failStream =>
    cases hpc
    simp only [Shared.drain, PerLane.get_set]
    split
    · rfl
    · exact hpast _ _ _ rfl (by cases lane <;> simp_all [Stage.past])
  | _ => first | (cases hpc; cases hlane) | cases hpc

theorem failedAll_move (h : Moves s t pc k s' pc') (hf : s'.trace.failedAll = true) :
    s.trace.failedAll = true ∨ ∃ failure after, pc = .dying .streamCancelled failure after := by
  cases h with
  | clearStreamCancelled failure after => exact Or.inr ⟨failure, after, rfl⟩
  | _ => exact Or.inl hf

end

/-! ## The invariant -/

/-- Each emptied registry holds only calls whose thread has not queued them yet; `fail_all` has
emptied the registries it has passed. -/
structure Settled (c : Threads (Shared V) (Pc V)) : Prop where
  entries : ∀ (lane : Lane) (id u : Nat), c.shared.trace.drained.get lane = true →
    (c.shared.pending.get lane)[id]? = some u →
    ∃ pc call, c.pool[u]? = some pc ∧ pc.calling = some call ∧ call.lane = lane ∧
      call.requestId = id
  past : ∀ (t : Nat) (lane : Lane) stage failure after,
    c.pool[t]? = some (.dying stage failure after) → stage.past lane = true →
    c.shared.trace.drained.get lane = true
  failedAll : c.shared.trace.failedAll = true → ∀ lane, c.shared.trace.drained.get lane = true

theorem settled_init (queueCapacity eventQueueCapacity : Nat) (capability : String) :
    Settled (init (V := V) queueCapacity eventQueueCapacity capability) := by
  refine ⟨?_, ?_, ?_⟩
  · intro lane id u hd
    cases lane <;> cases hd
  · intro t lane stage failure after hpc
    rcases init_pool hpc with ⟨-, h⟩ | ⟨-, h⟩ <;> cases h
  · intro h
    cases h

section

variable {c c' : Threads (Shared V) (Pc V)}

theorem Settled.start (hc : Settled c) {t : Nat} {pc : Pc V} (hpc : pc.starts = true)
    (ht : t ∉ c.pool) : Settled { c with pool := c.pool.insert t pc } := by
  refine ⟨?_, ?_, hc.failedAll⟩
  · intro lane id u hd he
    obtain ⟨pc', call, hpool, hcall⟩ := hc.entries lane id u hd he
    have hne : t ≠ u := by
      rintro rfl
      exact ht (mem_of_getElem? hpool)
    refine ⟨pc', call, ?_, hcall⟩
    rw [getElem?_insert_nat, if_neg hne]
    exact hpool
  · intro u lane stage failure after hu
    rw [getElem?_insert_nat] at hu
    split at hu
    · cases hu
      cases hpc
    · exact hc.past u lane stage failure after hu

theorem Settled.move (hc : Settled c) {t : Nat} {pc pc' : Pc V} {k : Input V} {s' : Shared V}
    (hpc : c.pool[t]? = some pc) (hg : pc.queuesLate c.shared t = false)
    (h : Moves c.shared t pc k s' pc') : Settled ⟨s', c.pool.insert t pc'⟩ := by
  refine ⟨?_, ?_, ?_⟩
  · intro lane id u hd he
    change (s'.pending.get lane)[id]? = some u at he
    rcases entry_move h hd he with ⟨hd₀, he₀⟩ | ⟨rfl, call, rfl, hlane, hid⟩
    · obtain ⟨pcU, call, hpool, hcall, rfl, rfl⟩ := hc.entries lane id u hd₀ he₀
      by_cases htu : t = u
      · subst htu
        rw [hpc, Option.some.injEq] at hpool
        subst hpool
        rcases calling_move h hcall with hnext | ⟨rfl, -, hsent⟩ | hnone
        · exact ⟨pc', call, by rw [getElem?_insert_nat, if_pos rfl], hnext, rfl, rfl⟩
        · -- the frame would be queued too late
          simp only [Pc.queuesLate, hd₀, he₀, hsent, decide_true, Bool.and_self,
            reduceCtorEq] at hg
        · rw [hnone] at he
          cases he
      · grind
    · exact ⟨_, call, by rw [getElem?_insert_nat, if_pos rfl], rfl, hlane, hid⟩
  · intro u lane stage failure after hu hlane
    rw [getElem?_insert_nat] at hu
    split at hu
    · cases hu
      refine past_move h ?_ rfl hlane
      rintro stage' failure' after' rfl hlane'
      exact hc.past t lane stage' failure' after' hpc hlane'
    · exact drained_mono h (hc.past u lane stage failure after hu hlane)
  · intro hf lane
    rcases failedAll_move h hf with hf₀ | ⟨failure, after, rfl⟩
    · exact drained_mono h (hc.failedAll hf₀ lane)
    · exact drained_mono h (hc.past t lane .streamCancelled failure after hpc rfl)

theorem Settled.step (hc : Settled c) {a : Act (Pc V) (Input V)} (hg : queuesInTime.Allows c a)
    (h : program.step c a = some c') : Settled c' := by
  rcases Program.step_cases h with ⟨t, pc, rfl, hpc, ht, rfl⟩ |
    ⟨t, k, child, pc, m, rfl, hpc, hm, hsh, hpool⟩
  · exact hc.start hpc ht
  · rcases hpool with ⟨-, hp⟩ | ⟨pc', hchild, -⟩
    · have hmoved := hc.move hpc (hg pc hpc).1 (move_moves hm)
      cases c'
      cases hsh
      cases hp
      exact hmoved
    · rw [(move_eq_some hm).2] at hchild
      cases hchild

end

/-- **On a dead process nobody is left waiting**, in every run in which no call is queued with its
entry in a registry that `fail_all` has emptied already: when `fail_all` has returned and no
`call_on` or `stream_request` is executing, the registries are empty. -/
theorem dead_process_leaves_no_pending (queueCapacity eventQueueCapacity : Nat)
    (capability : String) (acts : List (Act (Pc V) (Input V))) (c : Threads (Shared V) (Pc V))
    (hg : Meets program.step queuesInTime.Allows
      (init queueCapacity eventQueueCapacity capability) acts)
    (h : run program.step (init queueCapacity eventQueueCapacity capability) acts = some c)
    (hfailed : c.shared.trace.failedAll = true)
    (hidle : ∀ (t : Nat) (pc : Pc V), c.pool[t]? = some pc → pc.executes = false) :
    c.shared.pending = ⟨∅, ∅, ∅⟩ := by
  have hc : Settled c := run_invariant_of_meets (fun _ _ _ hc hg hs => Settled.step hc hg hs)
    (settled_init queueCapacity eventQueueCapacity capability) hg h
  have hempty : ∀ lane, c.shared.pending.get lane = ∅ := by
    intro lane
    refine ExtTreeMap.ext_getElem? (fun id => ?_)
    by_contra hsome
    obtain ⟨u, hu⟩ := Option.ne_none_iff_exists'.mp hsome
    obtain ⟨pc, call, hpc, hcall, -⟩ := hc.entries lane id u (hc.failedAll hfailed lane) hu
    have hexec := executes_of_calling hcall
    rw [hidle u pc hpc] at hexec
    cases hexec
  have hrequest := hempty .request
  have hevent := hempty .event
  have hstream := hempty .stream
  cases hp : c.shared.pending with
  | mk =>
    rw [hp] at hrequest hevent hstream
    cases hrequest
    cases hevent
    cases hstream
    rfl

/-! ## Sample runs -/

def sampleRequest : Call := ⟨.request, 7, "example.store@1", "get"⟩

/-- The request of thread 2 up to the look at `alive`, and from there to its queued frame. -/
def requestEnters : List (Act (Pc Nat) (Input Nat)) :=
  [.start 2 (.caller (.enter sampleRequest)), .move 2 .go 0]

def requestQueues : List (Act (Pc Nat) (Input Nat)) :=
  [.move 2 (.encoded true) 0, .move 2 .go 0, .move 2 .go 0]

/-- The monitor (thread 3) finds the child gone; `mark_dead` runs to its end. -/
def childExits : List (Act (Pc Nat) (Input Nat)) :=
  [.start 3 .monitor, .move 3 (.exited (some "exit status: 1")) 0] ++
    List.replicate 8 (.move 3 .go 0)

/-- The writer takes the frame and cannot write it; its `mark_dead` does nothing any more. -/
def writeFailsLate : List (Act (Pc Nat) (Input Nat)) :=
  [.move 0 .go 0, .move 0 .go 0, .move 0 .go 0, .move 0 (.written (some "Broken pipe")) 0,
    .move 0 .go 0, .move 0 .go 0]

theorem dead_process_leaves_no_pending_sample :
    ∃ c, run program.step (init 1 1 "example.store@1") (requestEnters ++ requestQueues ++
        childExits) = some c ∧
      c.shared.trace.failedAll = true ∧ c.shared.pending = ⟨∅, ∅, ∅⟩ := by
  refine exists_run (by decide +kernel) ⟨by decide +kernel, ?_⟩
  exact dead_process_leaves_no_pending 1 1 _ _ _ (by decide +kernel) (run_get _) (by decide +kernel)
    (by decide +kernel)

/-- The request has looked at `alive` before the child exits and is put into `pending` after
`fail_all` has returned. Its frame is queued, as the writer still runs; when the write fails
nothing is left to be done, and the request waits for ever. -/
theorem dead_process_keeps_late_request :
    ∃ c, run program.step (init 1 1 "example.store@1") (requestEnters ++ childExits ++
        requestQueues ++ writeFailsLate) = some c ∧
      c.shared.trace.failedAll = true ∧
      (∀ (t : Nat) (pc : Pc Nat), c.pool[t]? = some pc → pc.executes = false) ∧
      c.pool[0]? = some .done ∧ c.shared.pending.request[7]? = some 2 ∧
      c.shared.slots[2]? = none := by
  exact exists_run (by decide +kernel) (by decide +kernel)

end LensoBun.Transport.Framed
