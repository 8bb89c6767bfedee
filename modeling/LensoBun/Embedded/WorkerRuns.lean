import LensoBun.Embedded.Worker

set_option autoImplicit false

/-! # Runs of the embedded worker

`Shutdown` may find the queue full and be lost, and the flag is read between two commands only. The
worker is not left waiting all the same: it waits after it has read the flag unset; who sets the flag
then puts a command into the queue or finds the queue full, and with a command in the queue the worker
comes to the flag again (`Heard`).

A call that has been accepted is at some place of the queue or in the engine's hands until it is
answered or dropped, and every step of the worker brings that nearer (`Due`).
-/

namespace LensoBun.Embedded

open Std Lib

variable {Q C R D : Type}

/-! ## The flag is heard -/

/-- The worker waits for a command and there is none. -/
def Shared.Blocked (s : Shared C R) : Prop :=
  s.worker = .receiving ∧ s.queue.items = [] ∧ s.control ≠ .gone

/-- If the worker waits for a command, there is one. -/
def Shared.Supplied (s : Shared C R) : Prop := s.worker = .receiving → s.queue.items ≠ []

/-- Once the flag is set, somebody is about to announce it or the worker does not wait in vain. -/
def Heard (c : Threads (Shared C R) (Pc Q D)) : Prop :=
  c.shared.shutdown = true →
    (∃ (t : Nat) (caller : Caller), c.pool[t]? = some (.announcing caller)) ∨ c.shared.Supplied

section

variable {endpoints : Nat → Endpoint Q C R D} {s s' : Shared C R} {t : Nat} {pc pc' : Pc Q D}

/-- Announced or not, there is a command: a full queue is not empty. -/
theorem supplied_announce (hs : Phased s) : s.announce.Supplied := by
  intro hreceiving
  rcases announce_cases s with ⟨-, -, heq⟩ | ⟨heq, hclosed | hfull⟩
  · rw [heq]
    exact List.append_ne_nil_of_right_ne_nil _ (List.cons_ne_nil _ _)
  · rw [heq] at hreceiving
    rw [hs.connected, hreceiving] at hclosed
    cases hclosed
  · rw [heq]
    intro hempty
    rw [hempty] at hfull
    have hroom := hs.room
    have hlength : ([] : List (Command C)).length = 0 := rfl
    omega

/-- The worker does not go back to waiting when the flag is set. -/
theorem WorkerMoves.supplied (h : WorkerMoves s s') (hflag : s'.shutdown = true) : s'.Supplied := by
  intro hreceiving
  cases h with
  | stays here flag => grind
  | opens | openFails | leaves | takes | told | alone | answers | stops | drops => cases hreceiving

theorem Moves.supplied (hs : Phased s) (hold : s.shutdown = true → s.Supplied)
    (h : Moves s t pc s' pc') (hflag : s'.shutdown = true) :
    (∃ caller, pc' = .announcing caller) ∨ s'.Supplied := by
  cases h with
  | worker moves => exact .inr (moves.supplied hflag)
  | accept =>
    exact .inr fun _ => List.append_ne_nil_of_right_ne_nil _ (List.cons_ne_nil _ _)
  | first caller => exact .inl ⟨caller, rfl⟩
  | announce => exact .inr (supplied_announce hs)
  | refuse | ends | again | take | join | gone => exact .inr (hold hflag)

theorem Heard.step {c c' : Threads (Shared C R) (Pc Q D)} {a : Act (Pc Q D) (Input R)}
    (hc : Heard c) (hs : Phased c.shared) (h : (program endpoints).step c a = some c') :
    Heard c' := by
  intro hflag
  by_cases hannounce : ∃ (t : Nat) (caller : Caller), c.pool[t]? = some (.announcing caller)
  · obtain ⟨t, caller, ht⟩ := hannounce
    rcases (program endpoints).thread_of_step h ht with hstays | ⟨k, child, m, -, hm, hshared, -⟩
    · exact .inl ⟨t, caller, hstays⟩
    · -- it announces in this step
      obtain ⟨hmove, -⟩ := moved_of_map (x := pcMove endpoints c.shared t (.announcing caller) k) hm
      have heq : m.shared = c.shared.announce := (congrArg Prod.fst (Option.some.inj hmove)).symm
      rw [hshared, heq]
      exact .inr (supplied_announce hs)
  · have hold : c.shared.shutdown = true → c.shared.Supplied :=
      fun hset => (hc hset).resolve_left hannounce
    rcases (program endpoints).step_cases h with ⟨_, _, -, -, -, rfl⟩ |
      ⟨t, k, child, pc, m, rfl, hpc, hm, hshared, -⟩
    · exact .inr (hold hflag)
    · obtain ⟨_, m', hpc', hm', -, hnext, -, -⟩ := (program endpoints).move_pool h
      rw [hpc] at hpc'
      cases hpc'
      rw [hm] at hm'
      cases hm'
      rw [hshared] at hflag
      rcases (move_moves hm).supplied hs hold hflag with ⟨caller, hcaller⟩ | hsupplied
      · grind
      · rw [hshared]
        exact .inr hsupplied

end

/-! ## The join handle -/

section

variable {endpoints : Nat → Endpoint Q C R D} {s s' : Shared C R} {t : Nat} {pc pc' : Pc Q D}

theorem Moves.joined (h : Moves s t pc s' pc') :
    s'.join.toNat + pc'.joined.toNat = s.join.toNat + pc.joined.toNat := by
  cases h with
  | worker moves => cases moves <;> rfl
  | take caller k =>
    rw [(taken_begun s caller k).2.2]
    exact Nat.add_comm _ _
  | announce =>
    have hjoin : s.announce.join = s.join := by
      rcases announce_cases s with ⟨-, -, heq⟩ | ⟨heq, -⟩ <;> rw [heq]
    rw [hjoin]
    rfl
  | ends endpoint operation requestId next =>
    rcases next with rfl | ⟨outcome, rfl⟩ <;> rfl
  | _ => rfl

def OneHandle (c : Threads (Shared C R) (Pc Q D)) : Prop :=
  census Pc.joined c.pool + c.shared.join.toNat ≤ 1

theorem OneHandle.step {c c' : Threads (Shared C R) (Pc Q D)} {a : Act (Pc Q D) (Input R)}
    (hc : OneHandle c) (h : (program endpoints).step c a = some c') : OneHandle c' := by
  have hentry : ∀ pc : Pc Q D, (program endpoints).entry pc = true → pc.joined = false := by
    intro pc hpc
    cases pc with
    | invoke | beginShutdown => rfl
    | _ => cases hpc
  unfold OneHandle at *
  rcases (program endpoints).census_step child_none hentry h with ⟨hshared, hcensus⟩ |
    ⟨t, k, child, pc, m, -, hpc, hm, hshared, hcensus⟩
  · rw [hshared, hcensus]
    exact hc
  · have hjoined := (move_moves hm).joined
    rw [hshared]
    omega

end

/-! ## How long a call takes -/

def Response.settled : Response R → Bool
  | .pending => false
  | _ => true

/-- The call of thread `t` has been answered, or its response channel has been dropped. -/
def Shared.Resolved (s : Shared C R) (t : Nat) : Prop :=
  ∃ response, s.responses[t]? = some response ∧ response.settled = true

/-- The call of thread `t` has `i` commands before it. -/
def Shared.Place (s : Shared C R) (t i : Nat) : Prop :=
  ∃ pre call post, s.queue.items = pre ++ .call t call :: post ∧ pre.length = i

/-- The call of thread `t` is resolved after at most `n` steps of the worker: three for each command
before it, and then those that bring the worker to it. -/
inductive Due (s : Shared C R) (t n : Nat) : Prop
  | resolved (done : s.Resolved t)
  | served (call : C) (here : s.worker = .calling t call) (le : 1 ≤ n)
  | called (i u : Nat) (call : C) (here : s.worker = .calling u call) (place : s.Place t i)
      (le : 3 * i + 4 ≤ n)
  | tested (i : Nat) (here : s.worker = .testing) (place : s.Place t i) (le : 3 * i + 3 ≤ n)
  | received (i : Nat) (here : s.worker = .receiving) (place : s.Place t i) (le : 3 * i + 2 ≤ n)
  | stopped (here : s.worker = .stopping) (le : 2 ≤ n)
  | dropped (result : Except String Unit) (here : s.worker = .dropping result) (le : 1 ≤ n)

section

variable {s s' : Shared C R} {t u n : Nat} {pc pc' : Pc Q D}

theorem WorkerMoves.resolved (h : WorkerMoves s s') (ht : s.Resolved t) : s'.Resolved t := by
  cases h with
  | answers u call result =>
    obtain ⟨response, hresponse, hsettled⟩ := ht
    by_cases hut : u = t
    · refine ⟨.answered result, ?_, rfl⟩
      show (s.responses.insert u _)[t]? = _
      rw [getElem?_insert_nat, if_pos hut]
    · refine ⟨response, ?_, hsettled⟩
      show (s.responses.insert u _)[t]? = _
      rw [getElem?_insert_nat, if_neg hut]
      exact hresponse
  | drops =>
    rcases getElem?_dropResponses s.queued s.responses t with ⟨-, hdropped⟩ | ⟨-, hsame⟩
    · exact ⟨.dropped, hdropped, rfl⟩
    · obtain ⟨response, hresponse, hsettled⟩ := ht
      exact ⟨response, hsame.trans hresponse, hsettled⟩
  | _ => exact ht

theorem Moves.resolved (hfresh : pc.asks = true → s.responses[t]? = none)
    (h : Moves s t pc s' pc') (hu : s.Resolved u) : s'.Resolved u := by
  cases h with
  | worker moves => exact moves.resolved hu
  | accept =>
    obtain ⟨response, hresponse, hsettled⟩ := hu
    refine ⟨response, ?_, hsettled⟩
    show (s.responses.insert t .pending)[u]? = some response
    rw [getElem?_insert_nat, if_neg]
    · exact hresponse
    · rintro rfl
      rw [hfresh rfl] at hresponse
      cases hresponse
  | announce =>
    unfold Shared.Resolved
    rw [(announce_fields s).2.2.1]
    exact hu
  | _ => exact hu

/-- The first command goes: a call behind it comes one place nearer. -/
theorem Shared.Place.tail {i : Nat} {command : Command C} {rest : List (Command C)}
    (h : s.Place t i) (hitems : s.queue.items = command :: rest) :
    (∃ call, command = .call t call) ∨
      ∃ pre call post, rest = pre ++ .call t call :: post ∧ pre.length + 1 = i := by
  obtain ⟨pre, call, post, hsplit, hlength⟩ := h
  rw [hitems] at hsplit
  cases pre with
  | nil =>
    cases hsplit
    exact .inl ⟨call, rfl⟩
  | cons first pre => grind

/-- At the end nothing is open, so what is known has been resolved. -/
theorem resolved_of_ended (hs : Tracked s) (hknown : s.responses[t]?.isSome = true)
    (hempty : s.queue.items = []) (hserves : s.worker.serves = none) : s.Resolved t := by
  obtain ⟨response, hresponse⟩ := Option.isSome_iff_exists.mp hknown
  refine ⟨response, hresponse, ?_⟩
  cases response with
  | pending =>
    rcases hs.pending t hresponse with hqueued | hcalled
    · rw [Shared.queued, hempty] at hqueued
      cases hqueued
    · rw [hserves] at hcalled
      cases hcalled
  | answered | dropped => rfl

/-- **A step of the worker brings the call nearer.** -/
theorem Due.worker (hs' : Tracked s') (hknown : s'.responses[t]?.isSome = true)
    (h : Due s t (n + 1)) (hmove : WorkerMoves s s') : Due s' t n := by
  cases h with
  | resolved done => exact .resolved (hmove.resolved done)
  | served call here =>
    cases hmove with
    | answers v call' result here' =>
      rw [here] at here'
      cases here'
      refine .resolved ⟨.answered result, ?_, rfl⟩
      show (s.responses.insert t _)[t]? = _
      rw [getElem?_insert_nat, if_pos rfl]
    | opens h' | openFails e h' | leaves h' | stays h' | takes v c r h' | told r h'
    | alone h' | stops r h' | drops r h' =>
      rw [here] at h'
      cases h'
  | called i v call here place =>
    cases hmove with
    | answers => exact .tested i rfl place (by omega)
    | opens h' | openFails e h' | leaves h' | stays h' | takes v c r h' | told r h'
    | alone h' | stops r h' | drops r h' =>
      rw [here] at h'
      cases h'
  | tested i here place =>
    cases hmove with
    | leaves => exact .stopped rfl (by omega)
    | stays => exact .received i rfl place (by omega)
    | opens h' | openFails e h' | takes v c r h' | told r h' | alone h' | answers v c r h'
    | stops r h' | drops r h' =>
      rw [here] at h'
      cases h'
  | received i here place =>
    cases hmove with
    | takes v call rest here' queued =>
      rcases place.tail queued with ⟨call', heq⟩ | ⟨pre, call', post, hrest, hlength⟩
      · cases heq
        exact .served call rfl (by omega)
      · exact .called pre.length v call rfl ⟨pre, call', post, hrest, rfl⟩ (by omega)
    | told rest here' queued =>
      rcases place.tail queued with ⟨call', heq⟩ | ⟨pre, call', post, hrest, hlength⟩
      · cases heq
      · exact .stopped rfl (by omega)
    | alone here' empty =>
      obtain ⟨pre, call, post, hsplit, -⟩ := place
      rw [empty] at hsplit
      simp at hsplit
    | opens h' | openFails e h' | leaves h' | stays h' | answers v c r h' | stops r h'
    | drops r h' =>
      rw [here] at h'
      cases h'
  | stopped here =>
    cases hmove with
    | stops result => exact .dropped result rfl (by omega)
    | opens h' | openFails e h' | leaves h' | stays h' | takes v c r h' | told r h'
    | alone h' | answers v c r h' | drops r h' =>
      rw [here] at h'
      cases h'
  | dropped result here =>
    cases hmove with
    | drops => exact .resolved (resolved_of_ended hs' hknown rfl rfl)
    | opens h' | openFails e h' | leaves h' | stays h' | takes v c r h' | told r h'
    | alone h' | answers v c r h' | stops r h' =>
      rw [here] at h'
      cases h'

theorem Due.mono {m : Nat} (h : Due s t n) (hnm : n ≤ m) : Due s t m := by
  cases h with
  | resolved done => exact .resolved done
  | served call here le => exact .served call here (le.trans hnm)
  | called i v call here place le => exact .called i v call here place (le.trans hnm)
  | tested i here place le => exact .tested i here place (le.trans hnm)
  | received i here place le => exact .received i here place (le.trans hnm)
  | stopped here le => exact .stopped here (le.trans hnm)
  | dropped result here le => exact .dropped result here (le.trans hnm)

/-- Commands come at the end, so a call keeps its place, and the worker is where it was. -/
theorem Due.of_append (h : Due s t n) (hresolved : s.Resolved t → s'.Resolved t)
    (hworker : s'.worker = s.worker) {new : List (Command C)}
    (hitems : s'.queue.items = s.queue.items ++ new) : Due s' t n := by
  have hplace : ∀ {i}, s.Place t i → s'.Place t i := by
    rintro i ⟨pre, call, post, hsplit, hlength⟩
    refine ⟨pre, call, post ++ new, ?_, hlength⟩
    rw [hitems, hsplit, List.append_assoc, List.cons_append]
  cases h with
  | resolved done => exact .resolved (hresolved done)
  | served call here le => exact .served call (hworker.trans here) le
  | called i v call here place le => exact .called i v call (hworker.trans here) (hplace place) le
  | tested i here place le => exact .tested i (hworker.trans here) (hplace place) le
  | received i here place le => exact .received i (hworker.trans here) (hplace place) le
  | stopped here le => exact .stopped (hworker.trans here) le
  | dropped result here le => exact .dropped result (hworker.trans here) le

theorem Moves.due (hfresh : pc.asks = true → s.responses[t]? = none) (hpc : pc ≠ .worker)
    (h : Moves s t pc s' pc') (hu : Due s u n) : Due s' u n := by
  have hresolved := h.resolved (u := u) hfresh
  cases h with
  | worker => exact absurd rfl hpc
  | accept =>
    exact hu.of_append hresolved rfl rfl
  | announce => grind [announce_cases, announce_fields, Due.of_append, hu.of_append]
  | _ => exact hu.of_append hresolved rfl (List.append_nil _).symm

theorem due_of_pending (hphased : Phased s) (htracked : Tracked s)
    (h : s.responses[t]? = some .pending) : Due s t (3 * s.queue.capacity + 1) := by
  have hroom := hphased.room
  have hplace : t ∈ s.queued → ∃ i, s.Place t i ∧ i + 1 ≤ s.queue.capacity := by
    intro hqueued
    obtain ⟨command, hmem, hcaller⟩ := List.mem_filterMap.mp hqueued
    obtain ⟨pre, post, hsplit⟩ := List.append_of_mem hmem
    cases command with
    | call v call =>
      cases hcaller
      refine ⟨pre.length, ⟨pre, call, post, hsplit, rfl⟩, ?_⟩
      have hfits := hphased.fits
      rw [hsplit, List.length_append, List.length_cons] at hfits
      omega
    | shutdown => cases hcaller
  rcases htracked.pending t h with hqueued | hserved
  · obtain ⟨i, hi, hle⟩ := hplace hqueued
    cases hworker : s.worker with
    | opening =>
      rw [Shared.queued, (hphased.unopened (hphased.opening hworker)).1] at hqueued
      cases hqueued
    | testing => exact .tested i hworker hi (by omega)
    | receiving => exact .received i hworker hi (by omega)
    | calling v call => exact .called i v call hworker hi (by omega)
    | stopping => exact .stopped hworker (by omega)
    | dropping result => exact .dropped result hworker (by omega)
    | ended =>
      rw [Shared.queued, hphased.ended (by rw [hworker]; rfl)] at hqueued
      cases hqueued
  · cases hworker : s.worker with
    | calling v call =>
      rw [hworker] at hserved
      cases hserved
      exact .served call hworker (by omega)
    | _ =>
      rw [hworker] at hserved
      cases hserved

theorem worker_moves_of_pending (hphased : Phased s) (htracked : Tracked s)
    (h : s.responses[t]? = some .pending) : ∃ k, (workerMove s k).isSome = true := by
  have hdue := due_of_pending hphased htracked h
  cases hdue with
  | resolved done =>
    obtain ⟨response, hresponse, hsettled⟩ := done
    rw [h] at hresponse
    cases hresponse
    cases hsettled
  | served call here | called i v call here =>
    exact ⟨.returned (.error ""), by simp only [workerMove, here, Option.isSome_some]⟩
  | tested i here | dropped result here =>
    exact ⟨.go, by simp only [workerMove, here, Option.isSome_some]⟩
  | received i here place =>
    obtain ⟨pre, call, post, hsplit, -⟩ := place
    refine ⟨.go, ?_⟩
    simp only [workerMove, here, receive, BoundedChannel.tryRecv]
    rw [hsplit]
    cases pre with
    | nil => rfl
    | cons command => cases command <;> rfl
  | stopped here => exact ⟨.stopped (.ok ()), by simp only [workerMove, here, Option.isSome_some]⟩

end

/-! ## Runs -/

structure Kept (c : Threads (Shared C R) (Pc Q D)) : Prop where
  holds : outline.Holds c
  waited : Waited c
  worker : c.pool[0]? = some .worker
  heard : Heard c
  handle : OneHandle c

section

variable {endpoints : Nat → Endpoint Q C R D} {c c' : Threads (Shared C R) (Pc Q D)}
  {a : Act (Pc Q D) (Input R)}

variable {pc pc' : Pc Q D} {t n : Nat} {acts : List (Act (Pc Q D) (Input R))} {s s' : Shared C R}

theorem Kept.fresh (hc : Kept c) (hpc : c.pool[t]? = some pc) (hasks : pc.asks = true) :
    c.shared.responses[t]? = none := by
  by_contra hsome
  have hfits : pc.asks = false := hc.waited.own hpc (Option.isSome_iff_ne_none.mpr hsome) rfl
  rw [hasks] at hfits
  cases hfits

theorem Kept.step (hc : Kept c) (h : (program endpoints).step c a = some c') : Kept c' where
  holds := hc.holds.step outline_valid (Guard.any_allows c a) h
  waited := by
    refine hc.waited.step_of h ?_
    intro t k child pc m _ hpc hm
    exact waited_moves _ t pc k m hc.holds.shared (hc.holds.at_ t pc hpc) trivial hm
      fun u hu hut => hc.waited.own hpc hu hut
  worker := by
    rcases (program endpoints).thread_of_step h hc.worker with hstays | ⟨k, child, m, -, hm, -, hnext⟩
    · exact hstays
    · rw [hnext]
      obtain ⟨hmove, -⟩ := moved_of_map (x := pcMove endpoints c.shared 0 .worker k) hm
      obtain ⟨s', -, heq⟩ := Option.map_eq_some_iff.mp hmove
      exact congrArg some (congrArg Prod.snd heq).symm
  heard := hc.heard.step hc.holds.shared.1 h
  handle := hc.handle.step h

theorem Kept.init (queueCapacity : Nat) : Kept (init (Q := Q) (C := C) (R := R) (D := D) queueCapacity)
    where
  holds := by
    refine Outline.plain_holds ⟨⟨?_, Nat.zero_le _, rfl, fun _ => ⟨rfl, rfl⟩, nofun, fun _ => rfl, nofun,
      rfl⟩, ⟨?_, nofun⟩⟩ ?_
    · exact Nat.lt_of_lt_of_le Nat.zero_lt_one (Nat.le_max_right _ _)
    · rintro t (hqueued | hserved)
      · cases hqueued
      · cases hserved
    · intro t pc hpc
      rcases new_or_old_of_insert hpc with ⟨-, rfl⟩ | ⟨-, hpc⟩
      · exact ⟨nofun, nofun⟩
      · cases hpc
  waited := nofun
  worker := by
    show (ExtTreeMap.insert ∅ 0 _)[0]? = _
    rw [getElem?_insert_nat, if_pos rfl]
  heard := nofun
  handle := by
    show census Pc.joined (ExtTreeMap.insert ∅ 0 .worker) + 1 ≤ 1
    rw [census_insert_new rfl, census_empty]
    exact le_rfl

theorem Kept.run (hc : Kept c) (h : run (program endpoints).step c acts = some c') : Kept c' :=
  run_invariant (fun _ _ _ hc hs => hc.step hs) hc h

def ofWorker : Act (Pc Q D) (Input R) → Bool
  | .move 0 _ _ => true
  | _ => false

theorem Moves.known {u : Nat} (h : Moves s t pc s' pc') (hu : s.responses[u]?.isSome = true) :
    s'.responses[u]?.isSome = true := by
  cases h with
  | worker moves => exact moves.known hu
  | accept => grind
  | announce =>
    rw [(announce_fields s).2.2.1]
    exact hu
  | _ => exact hu

theorem Moves.ofWorker (h : Moves s t .worker s' pc') : WorkerMoves s s' := by
  cases h with
  | worker moves => exact moves

theorem Kept.due_step (hc : Kept c) (h : (program endpoints).step c a = some c')
    (hknown : c.shared.responses[t]?.isSome = true) (hdue : Due c.shared t n) :
    c'.shared.responses[t]?.isSome = true ∧ Due c'.shared t (n - (ofWorker a).toNat) := by
  have hc' := hc.step h
  rcases (program endpoints).step_cases h with ⟨u, pc, rfl, -, -, rfl⟩ |
    ⟨u, k, child, pc, m, rfl, hpc, hm, hshared, -⟩
  · exact ⟨hknown, hdue⟩
  · have hmoves := move_moves hm
    have hknown' : c'.shared.responses[t]?.isSome = true := by
      rw [hshared]
      exact hmoves.known hknown
    refine ⟨hknown', ?_⟩
    by_cases hworker : pc = .worker
    · subst hworker
      rw [hshared] at hknown' ⊢
      have htracked : Tracked m.shared := hshared ▸ hc'.holds.shared.2
      have hstep : Due m.shared t (n - 1) := by
        cases n with
        | zero => exact (hdue.mono (Nat.zero_le 1)).worker htracked hknown' hmoves.ofWorker
        | succ => exact hdue.worker htracked hknown' hmoves.ofWorker
      refine hstep.mono ?_
      have hle : (ofWorker (Q := Q) (D := D) (.move u k child)).toNat ≤ 1 := Bool.toNat_le _
      omega
    · -- thread 0 is the worker
      have hother : ofWorker (Q := Q) (D := D) (.move u k child) = false := by
        cases u with
        | zero =>
          rw [hc.worker] at hpc
          exact absurd (Option.some.inj hpc).symm hworker
        | succ => rfl
      rw [hother, hshared]
      exact hmoves.due (hc.fresh hpc) hworker hdue

theorem Due.zero (h : Due s t 0) : s.Resolved t := by
  cases h with
  | resolved done => exact done
  | served => omega
  | called => omega
  | tested => omega
  | received => omega
  | stopped => omega
  | dropped => omega

/-- **A call that is due within `n` steps of the worker is resolved by a run with that many.** -/
theorem Kept.due_run (hc : Kept c) (hknown : c.shared.responses[t]?.isSome = true)
    (hdue : Due c.shared t n) (hcount : n ≤ acts.countP ofWorker)
    (h : Lib.run (program endpoints).step c acts = some c') : c'.shared.Resolved t := by
  induction acts generalizing c n with
  | nil =>
    cases h
    have hzero : n = 0 := Nat.le_zero.mp hcount
    exact (hzero ▸ hdue).zero
  | cons a acts ih =>
    obtain ⟨c₁, hstep, hrest⟩ := run_cons_eq_some.mp h
    obtain ⟨hknown₁, hdue₁⟩ := hc.due_step hstep hknown hdue
    refine ih (hc.step hstep) hknown₁ hdue₁ ?_ hrest
    rw [List.countP_cons] at hcount
    cases hworker : ofWorker a with
    | true => grind
    | false => grind

end

section

variable {endpoints : Nat → Endpoint Q C R D} {c c' : Threads (Shared C R) (Pc Q D)}

variable {t : Nat}

theorem Moves.capacity {s s' : Shared C R} {pc pc' : Pc Q D} (h : Moves s t pc s' pc') :
    s'.queue.capacity = s.queue.capacity := by
  cases h with
  | worker moves => cases moves <;> rfl
  | announce =>
    rcases announce_cases s with ⟨-, -, heq⟩ | ⟨heq, -⟩ <;> rw [heq]
  | _ => rfl

theorem capacity_of_run {queueCapacity : Nat} {acts : List (Act (Pc Q D) (Input R))}
    (h : run (program endpoints).step (init queueCapacity) acts = some c) :
    c.shared.queue.capacity = max queueCapacity 1 := by
  have hstep : ∀ (c : Threads (Shared C R) (Pc Q D)) a c',
      c.shared.queue.capacity = max queueCapacity 1 → (program endpoints).step c a = some c' →
      c'.shared.queue.capacity = max queueCapacity 1 := by
    intro c a c' hc hs
    rcases (program endpoints).step_cases hs with ⟨_, _, -, -, -, rfl⟩ |
      ⟨t, k, child, pc, m, -, hpc, hm, hshared, -⟩
    · exact hc
    · rw [hshared]
      exact (move_moves hm).capacity.trans hc
  exact run_invariant hstep rfl h

theorem Kept.not_blocked (hc : Kept c) {pc : Pc Q D} (hpc : c.pool[t]? = some pc)
    (hbegun : pc.begun = true ∨ pc.executing = true)
    (hidle : ∀ (u : Nat) (pc' : Pc Q D), c.pool[u]? = some pc' → pc'.executing = false) :
    ¬ c.shared.Blocked := by
  rintro ⟨hreceiving, hempty, -⟩
  have hflag : c.shared.shutdown = true := by
    rcases hbegun with hbegun | hexecuting
    · exact (hc.holds.at_ t pc hpc).flag hbegun
    · rw [hidle t pc hpc] at hexecuting
      cases hexecuting
  rcases hc.heard hflag with ⟨u, caller, hu⟩ | hsupplied
  · cases hidle u _ hu
  · exact hsupplied hreceiving hempty

theorem Kept.worker_step (hc : Kept c) (hpending : c.shared.responses[t]? = some .pending) :
    ∃ k, ((program endpoints).step c (.move 0 k 0)).isSome = true := by
  obtain ⟨k, hk⟩ := worker_moves_of_pending hc.holds.shared.1 hc.holds.shared.2 hpending
  obtain ⟨s', hs'⟩ := Option.isSome_iff_exists.mp hk
  have hmove : (program endpoints).move c.shared 0 .worker k = some ⟨s', .worker, none⟩ := by
    simp only [program, pcMove, hs', Option.map_some]
  refine ⟨k, ?_⟩
  rw [(program endpoints).step_move hc.worker hmove rfl]
  rfl

/-- The future of an invocation whose call is resolved ends when it is polled. -/
theorem waiting_ends {s : Shared C R} {endpoint requestId : Nat} {operation : String}
    (h : s.Resolved t) :
    ∃ outcome, pcMove endpoints s t (.waiting endpoint operation requestId) .go =
        some (s, .invoked outcome) ∧
      (s.responses[t]? = some .dropped → outcome = .error stoppedBeforeReplying) := by
  obtain ⟨response, hresponse, hsettled⟩ := h
  cases response with
  | pending => cases hsettled
  | answered result =>
    refine ⟨outcome (endpoints endpoint) operation result, ?_, ?_⟩
    · simp only [pcMove, waiting, hresponse, Option.map_some]
    · rw [hresponse]
      rintro ⟨⟩
  | dropped =>
    refine ⟨.error stoppedBeforeReplying, ?_, fun _ => rfl⟩
    simp only [pcMove, waiting, hresponse, Option.map_some]

/-- **The embedded worker hears a shutdown, shuts its engine down once and leaves no call waiting.**

In every state of every run: when some `begin_shutdown` has been called and none is executing, the
worker does not wait on an empty queue; `engine.shutdown` has been run at most once, and once if the
engine was opened and the worker has ended; no two threads have got the join handle. A call that has
been accepted and not yet resolved lets the worker go on, and once the worker has made as many steps as
it takes to go through the queue, whatever else happens, the call has been answered by the engine or
its response channel dropped, and its invocation ends when it is polled, with a failure if it was
dropped. -/
theorem worker_hears_and_resolves (endpoints : Nat → Endpoint Q C R D) (queueCapacity : Nat)
    {acts : List (Act (Pc Q D) (Input R))}
    (h : run (program endpoints).step (init queueCapacity) acts = some c) :
    ((∃ (t : Nat) (pc : Pc Q D), c.pool[t]? = some pc ∧ (pc.begun = true ∨ pc.executing = true)) →
      (∀ (t : Nat) (pc : Pc Q D), c.pool[t]? = some pc → pc.executing = false) →
      ¬ c.shared.Blocked) ∧
    (c.shared.engineShutdowns ≤ 1 ∧
      (c.shared.opened = true → c.shared.worker.hasEnded = true →
        c.shared.engineShutdowns = 1)) ∧
    (∀ (t u : Nat) (pc pc' : Pc Q D), c.pool[t]? = some pc → c.pool[u]? = some pc' →
      pc.joined = true → pc'.joined = true → t = u) ∧
    ∀ t : Nat, c.shared.responses[t]?.isSome = true →
      (c.shared.responses[t]? = some .pending →
        ∃ k, ((program endpoints).step c (.move 0 k 0)).isSome = true) ∧
      ∀ (acts' : List (Act (Pc Q D) (Input R))) (c' : Threads (Shared C R) (Pc Q D)),
        run (program endpoints).step c acts' = some c' →
        3 * max queueCapacity 1 + 1 ≤ acts'.countP ofWorker →
        c'.shared.Resolved t ∧
        ∀ (endpoint : Nat) (operation : String) (requestId : Nat),
          c'.pool[t]? = some (.waiting endpoint operation requestId) →
          ∃ outcome, pcMove endpoints c'.shared t (.waiting endpoint operation requestId) .go =
              some (c'.shared, .invoked outcome) ∧
            (c'.shared.responses[t]? = some .dropped → outcome = .error stoppedBeforeReplying) := by
  have hc : Kept c := (Kept.init queueCapacity).run h
  have hphased := hc.holds.shared.1
  have htracked := hc.holds.shared.2
  refine ⟨?_, ⟨?_, ?_⟩, ?_, ?_⟩
  · grind [Kept.not_blocked]
  · rw [hphased.shutdowns]
    cases hworker : c.shared.worker <;> first | exact Nat.zero_le 1 | exact Bool.toNat_le _
  · intro hopened hended
    rw [hphased.shutdowns, hopened]
    cases hworker : c.shared.worker <;> rw [hworker] at hended <;> first | rfl | cases hended
  · intro t u pc pc' ht hu hjoined hjoined'
    have hle : census Pc.joined c.pool ≤ 1 := (Nat.le_add_right _ _).trans hc.handle
    exact eq_of_census_le_one hle ht hjoined hu hjoined'
  · intro t hknown
    refine ⟨fun hpending => hc.worker_step hpending, fun acts' c' h' hcount => ?_⟩
    have hdue : Due c.shared t (3 * max queueCapacity 1 + 1) := by
      obtain ⟨response, hresponse⟩ := Option.isSome_iff_exists.mp hknown
      cases response with
      | pending => grind [capacity_of_run, due_of_pending]
      | answered | dropped => exact .resolved ⟨_, hresponse, rfl⟩
    have hresolved := hc.due_run hknown hdue hcount h'
    exact ⟨hresolved, fun endpoint operation requestId _ => waiting_ends hresolved⟩

end

/-! ## A lost announcement -/

/-- Endpoint with one operation, whose calls and results are numbers. -/
def sampleEndpoint : Endpoint Nat Nat Nat Nat where
  capability := "example.store@1"
  operations := ["get"]
  buildCall _ request _ := .ok request
  decodeResult _ result := .ok result

/-- With room for one command: a call is in the engine's hands and another one fills the queue when
`release` comes, so its `Shutdown` is lost. -/
def losesShutdown : List (Act (Pc Nat Nat) (Input Nat)) :=
  [.move 0 .opened 0, .start 1 (.invoke 0 "get" 5 1), .move 1 .go 0, .move 0 .go 0, .move 0 .go 0,
    .start 2 (.invoke 0 "get" 6 2), .move 2 .go 0, .start 3 (.beginShutdown .release), .move 3 .go 0,
    .move 3 .go 0, .move 3 .go 0]

/-- The engine answers, the worker reads the flag, shuts the engine down and drops the queue. -/
def endsWorker : List (Act (Pc Nat Nat) (Input Nat)) :=
  [.move 0 (.returned (.ok 7)) 0, .move 0 .go 0, .move 0 (.stopped (.ok ())) 0, .move 0 .go 0]

theorem worker_hears_and_resolves_sample :
    let endpoints : Nat → Endpoint Nat Nat Nat Nat := fun _ => sampleEndpoint
    let c := (run (program endpoints).step (init 1) losesShutdown).get (by decide +kernel)
    let c' := (run (program endpoints).step c endsWorker).get (by decide +kernel)
    c.shared.queue.items = [.call 2 6] ∧ ¬ c.shared.Blocked ∧
    c.shared.engineShutdowns ≤ 1 ∧
    c'.shared.Resolved 1 ∧ c'.shared.Resolved 2 ∧
    c'.shared.responses[2]? = some .dropped := by
  intro endpoints c c'
  obtain ⟨hheard, ⟨hshutdowns, -⟩, -, hcalls⟩ :=
    worker_hears_and_resolves (c := c) endpoints 1 (run_get _)
  have hblocked : ¬ c.shared.Blocked :=
    hheard ⟨3, .joining, by decide +kernel, .inl rfl⟩ (by decide +kernel)
  have hfirst := (hcalls 1 (by decide +kernel)).2 endsWorker c' (run_get _) (by decide)
  have hsecond := (hcalls 2 (by decide +kernel)).2 endsWorker c' (run_get _) (by decide)
  exact ⟨by decide +kernel, hblocked, hshutdowns, hfirst.1, hsecond.1, by decide +kernel⟩

end LensoBun.Embedded
