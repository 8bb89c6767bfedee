import LensoBun.Lib.Threads
import LensoBun.Transport.Process

set_option autoImplicit false

/-! # How the end of a process is announced

`mark_dead`, `set_failure_handler`, `subscribe_exit` and `record_diagnostic` of `ProcessState`
(`transport/mod.rs`) as threads. Each section under a lock and each atomic access is one step; the
second look of `subscribe_exit` at `alive` is taken while it holds `exit_waiters`, so that lock is
part of the state.

A handler and a receiver are known by the number of the thread that registers or gets them. A
diagnostic line comes as the redaction has left it.

Of the `mark_dead`s the one whose swap finds the process alive does everything. It swaps, stores,
calls the handler and drains the waiters in this order, and whoever registers looks at `alive` and
at the failure after it has registered. So each of the two sees what the other has done, whatever
the order (`death_is_announced`).
-/

namespace LensoBun.Transport.Exit

open Std Lib

/-! ## State -/

/-- What has happened; not part of the source. -/
structure Trace where
  /-- The thread whose `mark_dead` has found the process alive. -/
  killer : Option Nat
  /-- The failures stored, with the thread that has stored them. -/
  stored : List (Nat × RuntimeFailure)
  /-- The `mark_dead` has looked for a handler, and has drained the waiters. -/
  handled : Bool
  drained : Bool
  called : List (Nat × RuntimeFailure)
  notified : List Nat

structure Shared where
  process : ProcessState
  diagnostics : List String
  failureHandler : Option Nat
  exitWaiters : List Nat
  /-- Who holds `exit_waiters` across its look at `alive`. -/
  waitersLock : Option Nat
  trace : Trace

/-- `MAX_PROCESS_DIAGNOSTIC_LINES`. -/
def maxProcessDiagnosticLines : Nat := 32

/-- `record_diagnostic`: the oldest lines go until there is room. -/
def recordDiagnostic (diagnostics : List String) (stream line : String) : List String :=
  if line.isEmpty then diagnostics
  else diagnostics.drop (diagnostics.length + 1 - maxProcessDiagnosticLines) ++
    [stream ++ ": " ++ line]

/-- `diagnostic_tail`. -/
def diagnosticTail (diagnostics : List String) : String := " | ".intercalate diagnostics

/-- `decorate_failure`. -/
def decorateFailure (diagnostics : List String) : RuntimeFailure → RuntimeFailure
  | .pluginFailure detail =>
    .pluginFailure (if (diagnosticTail diagnostics).isEmpty then detail
      else detail ++ "; child output: " ++ diagnosticTail diagnostics)
  | failure => failure

/-! ## Threads -/

inductive Pc where
  -- `mark_dead`; in the end, whether it was the one that found the process alive
  | swap (failure : RuntimeFailure)
  | store (failure : RuntimeFailure)
  | handle (failure : RuntimeFailure)
  | drain
  | markedDead (first : Bool)
  -- `set_failure_handler`
  | register
  | checkAlive
  | readFailure
  | decorate (failure : RuntimeFailure)
  | callHandler (failure : RuntimeFailure)
  | handlerSet
  -- `subscribe_exit`
  | load
  | lock
  | recheck
  | push
  | send
  | subscribed
  -- `record_diagnostic`
  | record (stream line : String)
  | recorded
  deriving DecidableEq, Repr

def Shared.kill (s : Shared) (t : Nat) : Shared :=
  { s with
    process := { s.process with alive := false }
    trace := { s.trace with killer := some t } }

def Shared.storeFailure (s : Shared) (t : Nat) (failure : RuntimeFailure) : Shared :=
  { s with
    process := { s.process with failure := some failure }
    trace := { s.trace with stored := s.trace.stored ++ [(t, failure)] } }

/-- The registered handler, if there is one, is called. -/
def Shared.callRegistered (s : Shared) (failure : RuntimeFailure) : Shared :=
  { s with
    trace := { s.trace with
      called := s.trace.called ++ s.failureHandler.toList.map (fun handler => (handler, failure)) } }

def Shared.markHandled (s : Shared) : Shared :=
  { s with trace := { s.trace with handled := true } }

def Shared.drainWaiters (s : Shared) : Shared :=
  { s with
    exitWaiters := []
    trace := { s.trace with
      notified := s.trace.notified ++ s.exitWaiters
      drained := true } }

def Shared.notify (s : Shared) (t : Nat) : Shared :=
  { s with trace := { s.trace with notified := s.trace.notified ++ [t] } }

def move (s : Shared) (t : Nat) : Pc → Option (Shared × Pc)
  | .swap failure =>
    if s.process.alive then some (s.kill t, .store failure) else some (s, .markedDead false)
  | .store failure => some (s.storeFailure t failure, .handle failure)
  | .handle failure => some ((s.callRegistered failure).markHandled, .drain)
  | .drain => if s.waitersLock.isNone then some (s.drainWaiters, .markedDead true) else none
  | .register => some ({ s with failureHandler := some t }, .checkAlive)
  | .checkAlive => some (s, if s.process.alive then .handlerSet else .readFailure)
  | .readFailure =>
    some (s, match s.process.failure with
      | some failure => .decorate failure
      | none => .handlerSet)
  | .decorate failure => some (s, .callHandler (decorateFailure s.diagnostics failure))
  | .callHandler failure => some (s.callRegistered failure, .handlerSet)
  | .load => some (s, if s.process.alive then .lock else .send)
  | .lock =>
    if s.waitersLock.isNone then some ({ s with waitersLock := some t }, .recheck) else none
  | .recheck =>
    if s.process.alive then some (s, .push) else some ({ s with waitersLock := none }, .send)
  | .push =>
    some ({ s with exitWaiters := s.exitWaiters ++ [t], waitersLock := none }, .subscribed)
  | .send => some (s.notify t, .subscribed)
  | .record stream line =>
    some ({ s with diagnostics := recordDiagnostic s.diagnostics stream line }, .recorded)
  | .markedDead _ | .handlerSet | .subscribed | .recorded => none

def Pc.starts : Pc → Bool
  | .swap _ | .register | .load | .record _ _ => true
  | _ => false

/-- Nothing is left open, so a move needs no choice. -/
def program : Program Shared Pc Unit :=
  ⟨Pc.starts, fun s t pc _ => (move s t pc).map (fun p => ⟨p.1, p.2, none⟩)⟩

/-- `ProcessState::start`. -/
def init : Threads Shared Pc :=
  { shared :=
      { process := .start, diagnostics := [], failureHandler := none, exitWaiters := []
        waitersLock := none
        trace := ⟨none, [], false, false, [], []⟩ }
    pool := ∅ }

/-- `set_failure_handler` is called once, by the thread `registrar`. -/
def oneHandler (registrar : Nat) : Guard Shared Pc Unit where
  self _ _ _ _ := True
  start _ t pc := pc = .register → t = registrar

instance (registrar : Nat) (c : Threads Shared Pc) (a : Act Pc Unit) :
    Decidable ((oneHandler registrar).Allows c a) := Guard.decidable c a

/-! ## The outline -/

/-- A failure as it was stored, or with a diagnostic tail. -/
def Decorated (failure failure' : RuntimeFailure) : Prop :=
  failure' = failure ∨ ∃ diagnostics, failure' = decorateFailure diagnostics failure

/-- The handler has been called with the stored failure. -/
def Informed (registrar : Nat) (s : Shared) : Prop :=
  ∃ killer failure failure', s.trace.stored = [(killer, failure)] ∧
    (registrar, failure') ∈ s.trace.called ∧ Decorated failure failure'

structure Announcing (s : Shared) : Prop where
  alive : s.process.alive = s.trace.killer.isNone
  unstored : s.trace.killer = none → s.trace.stored = []
  once : s.trace.stored.length ≤ 1
  failure : s.process.failure = s.trace.stored.head?.map Prod.snd
  handled : s.trace.handled = true → s.process.failure.isSome = true
  drained : s.trace.drained = true → s.exitWaiters = [] ∧ s.process.alive = false

def announcingAt (registrar : Nat) (s : Shared) (t : Nat) : Pc → Prop
  | .store _ => s.trace.killer = some t ∧ s.trace.stored = []
  | .handle failure => s.trace.killer = some t ∧ s.trace.stored = [(t, failure)]
  | .drain => s.trace.killer = some t ∧ s.trace.handled = true ∧
      ∃ failure, s.trace.stored = [(t, failure)]
  | .markedDead true => s.trace.killer = some t ∧ s.trace.handled = true ∧
      s.trace.drained = true ∧ ∃ failure, s.trace.stored = [(t, failure)]
  | .register => t = registrar
  | .checkAlive | .readFailure => t = registrar ∧ s.failureHandler = some registrar
  | .decorate failure => t = registrar ∧ s.failureHandler = some registrar ∧
      ∃ killer, s.trace.stored = [(killer, failure)]
  | .callHandler failure' => t = registrar ∧ s.failureHandler = some registrar ∧
      ∃ killer failure, s.trace.stored = [(killer, failure)] ∧ Decorated failure failure'
  | .handlerSet => t = registrar ∧ s.failureHandler = some registrar ∧
      (s.trace.handled = true → Informed registrar s)
  | .recheck => s.waitersLock = some t
  | .push => s.waitersLock = some t ∧ s.trace.drained = false
  | .subscribed => t ∈ s.exitWaiters ∨ t ∈ s.trace.notified
  | _ => True

def announcing (registrar : Nat) : Outline Shared Pc :=
  .plain Announcing (announcingAt registrar)

/-- What a step of `t` can do, as far as the other threads can see it. -/
structure Advances (t : Nat) (s s' : Shared) : Prop where
  killer : s'.trace.killer = s.trace.killer ∨ s.trace.killer = none
  stored : s'.trace.stored = s.trace.stored ∨ s.trace.killer = some t ∧ s.trace.stored = []
  handler : s'.failureHandler = s.failureHandler ∨ s'.failureHandler = some t
  handled : s.trace.handled = true → s'.trace.handled = true
  calls : s'.trace.handled = true → s.trace.handled = true ∨
    ∃ failure, s'.trace.stored = [(t, failure)] ∧
      ∀ handler, s.failureHandler = some handler → (handler, failure) ∈ s'.trace.called
  called : s.trace.called ⊆ s'.trace.called
  drained : s.trace.drained = true → s'.trace.drained = true
  drains : s'.trace.drained = s.trace.drained ∨ s.waitersLock = none
  lock : s'.waitersLock = s.waitersLock ∨ s.waitersLock = none ∨ s.waitersLock = some t
  receivers : ∀ u, u ∈ s.exitWaiters ∨ u ∈ s.trace.notified →
    u ∈ s'.exitWaiters ∨ u ∈ s'.trace.notified

theorem Advances.refl (t : Nat) (s : Shared) : Advances t s s where
  killer := .inl rfl
  stored := .inl rfl
  handler := .inl rfl
  handled := id
  calls := .inl
  called := List.Subset.refl _
  drained := id
  drains := .inl rfl
  lock := .inl rfl
  receivers _ := id

section Steps

variable {registrar t u : Nat} {s s' : Shared} {pc pc' next : Pc}

theorem Announcing.alive_iff (hs : Announcing s) :
    s.process.alive = true ↔ s.trace.killer = none := by
  rw [hs.alive, Option.isNone_iff_eq_none]

theorem Announcing.stored_eq (hs : Announcing s) {failure : RuntimeFailure}
    (hf : s.process.failure = some failure) : ∃ killer, s.trace.stored = [(killer, failure)] := by
  have honce := hs.once
  rw [hs.failure] at hf
  rcases hstored : s.trace.stored with - | ⟨⟨killer, failure'⟩, rest⟩
  · simp [hstored] at hf
  · obtain rfl : failure' = failure := by simpa [hstored] using hf
    obtain rfl : rest = [] := by
      rw [hstored, List.length_cons] at honce
      exact List.eq_nil_of_length_eq_zero (by omega)
    exact ⟨killer, rfl⟩

/-- As long as the process is alive nothing has been stored, so no handler has been looked for. -/
theorem Announcing.unhandled (hs : Announcing s) (hf : s.process.failure = none) :
    s.trace.handled = false := by
  by_contra h
  have hsome := hs.handled (Bool.eq_true_of_not_eq_false h)
  simp [hf] at hsome

theorem Announcing.failure_of_alive (hs : Announcing s) (halive : s.process.alive = true) :
    s.process.failure = none := by
  rw [hs.failure, hs.unstored (hs.alive_iff.mp halive)]
  rfl

theorem move_advances (hs : Announcing s) (hat : announcingAt registrar s t pc)
    (hm : move s t pc = some (s', next)) : Advances t s s' := by
  have hrefl := Advances.refl t s
  cases pc with
  | swap =>
    simp only [move] at hm
    split at hm <;> cases hm
    · exact { hrefl with killer := .inr (hs.alive_iff.mp ‹_›) }
    · exact hrefl
  | store =>
    cases hm
    exact { hrefl with stored := .inr hat, calls := .inl }
  | handle failure =>
    cases hm
    have hcalled : s.trace.called ⊆ (s.callRegistered failure).trace.called :=
      List.subset_append_left _ _
    refine { hrefl with handled := fun _ => rfl, called := hcalled, calls := fun _ => .inr ?_ }
    refine ⟨failure, hat.2, fun handler hh => ?_⟩
    simp [Shared.callRegistered, Shared.markHandled, hh]
  | drain =>
    simp only [move, Option.isNone_iff_eq_none] at hm
    split at hm <;> cases hm
    rename_i hlock
    refine { hrefl with drained := fun _ => rfl, drains := .inr hlock, receivers := fun v hv => ?_ }
    exact .inr (List.mem_append.mpr hv.symm)
  | register =>
    cases hm
    exact { hrefl with handler := .inr rfl }
  | callHandler =>
    cases hm
    exact { hrefl with called := List.subset_append_left _ _, calls := .inl }
  | lock =>
    simp only [move, Option.isNone_iff_eq_none] at hm
    split at hm <;> cases hm
    rename_i hlock
    exact { hrefl with lock := .inr (.inl hlock) }
  | recheck =>
    simp only [move] at hm
    split at hm <;> cases hm
    · exact hrefl
    · exact { hrefl with lock := .inr (.inr hat) }
  | push =>
    cases hm
    refine { hrefl with lock := .inr (.inr hat.1), receivers := fun v hv => ?_ }
    exact hv.imp (List.mem_append_left _) id
  | send =>
    cases hm
    exact { hrefl with receivers := fun v hv => hv.imp id (List.mem_append_left _) }
  | record =>
    cases hm
    exact { hrefl with }
  | checkAlive | readFailure | decorate | load =>
    cases hm
    exact hrefl
  | markedDead | handlerSet | subscribed | recorded => cases hm

theorem announcingAt_advances (hadv : Advances t s s') (htu : t ≠ u)
    (hregister : s'.failureHandler = some t → s'.failureHandler ≠ s.failureHandler → t = registrar)
    (hat : announcingAt registrar s u pc) : announcingAt registrar s' u pc := by
  -- the facts of `mark_dead`: only the one that has swapped changes them
  have hkiller : s.trace.killer = some u → s'.trace.killer = some u := by
    intro hk
    rcases hadv.killer with h | h
    · rw [h, hk]
    · rw [h] at hk
      cases hk
  have hmine : s.trace.killer = some u → s'.trace.stored = s.trace.stored := by
    intro hk
    rcases hadv.stored with h | ⟨h, -⟩
    · exact h
    · rw [hk] at h
      exact absurd (Option.some.inj h).symm htu
  have hstored : ∀ entry, s.trace.stored = [entry] → s'.trace.stored = [entry] := by
    intro entry he
    rcases hadv.stored with h | ⟨-, h⟩
    · rw [h, he]
    · rw [h] at he
      cases he
  -- the facts of `set_failure_handler`: nobody else registers
  have hhandler : u = registrar → s.failureHandler = some registrar →
      s'.failureHandler = some registrar := by
    intro hu hh
    rcases hadv.handler with h | h
    · rw [h, hh]
    · by_cases hsame : s'.failureHandler = s.failureHandler
      · rw [hsame, hh]
      · exact absurd ((hregister h hsame).trans hu.symm) htu
  -- the facts of `subscribe_exit`: nobody else takes the lock away
  have hlock : s.waitersLock = some u → s'.waitersLock = some u := by
    intro hl
    rcases hadv.lock with h | h | h
    · rw [h, hl]
    · rw [h] at hl
      cases hl
    · grind
  cases pc with
  | store => exact ⟨hkiller hat.1, (hmine hat.1).trans hat.2⟩
  | handle => exact ⟨hkiller hat.1, hstored _ hat.2⟩
  | drain =>
    obtain ⟨hk, hh, failure, hf⟩ := hat
    exact ⟨hkiller hk, hadv.handled hh, failure, hstored _ hf⟩
  | markedDead first =>
    cases first with
    | false => exact True.intro
    | true =>
      obtain ⟨hk, hh, hd, failure, hf⟩ := hat
      exact ⟨hkiller hk, hadv.handled hh, hadv.drained hd, failure, hstored _ hf⟩
  | register => exact hat
  | checkAlive | readFailure => exact ⟨hat.1, hhandler hat.1 hat.2⟩
  | decorate =>
    obtain ⟨hu, hh, killer, hf⟩ := hat
    exact ⟨hu, hhandler hu hh, killer, hstored _ hf⟩
  | callHandler =>
    obtain ⟨hu, hh, killer, failure, hf, hdec⟩ := hat
    exact ⟨hu, hhandler hu hh, killer, failure, hstored _ hf, hdec⟩
  | handlerSet =>
    obtain ⟨hu, hh, hinformed⟩ := hat
    refine ⟨hu, hhandler hu hh, fun hhandled => ?_⟩
    -- either it was told before, or this is the step in which the handler is called
    rcases hadv.calls hhandled with h | ⟨failure, hf, hcalls⟩
    · obtain ⟨killer, failure, failure', hf, hmem, hdec⟩ := hinformed h
      exact ⟨killer, failure, failure', hstored _ hf, hadv.called hmem, hdec⟩
    · exact ⟨t, failure, failure, hf, hcalls registrar hh, .inl rfl⟩
  | recheck => exact hlock hat
  | push =>
    obtain ⟨hheld, hundrained⟩ := hat
    refine ⟨hlock hheld, ?_⟩
    rcases hadv.drains with h | h
    · rw [h, hundrained]
    · rw [h] at hheld
      cases hheld
  | subscribed => exact hadv.receivers u hat
  | swap | load | lock | send | record | recorded => exact True.intro

theorem announcing_move (hs : Announcing s) (hat : announcingAt registrar s t pc)
    (hm : move s t pc = some (s', next)) : Announcing s' ∧ announcingAt registrar s' t next := by
  cases pc with
  | swap =>
    simp only [move] at hm
    split at hm <;> cases hm
    · rename_i halive
      have hnone := hs.alive_iff.mp halive
      refine ⟨{ hs with alive := rfl, unstored := nofun, drained := fun hd => ?_ }, rfl,
        hs.unstored hnone⟩
      exact ⟨(hs.drained hd).1, rfl⟩
    · exact ⟨hs, True.intro⟩
  | store failure =>
    cases hm
    obtain ⟨hkiller, hnil⟩ := hat
    have hstored : (s.storeFailure t failure).trace.stored = [(t, failure)] := by
      simp [Shared.storeFailure, hnil]
    refine ⟨{ hs with unstored := fun hk => ?_, once := ?_, failure := ?_, handled := fun _ => rfl },
      hkiller, hstored⟩
    · rw [show (s.storeFailure t failure).trace.killer = s.trace.killer from rfl, hkiller] at hk
      cases hk
    · rw [hstored]
      exact Nat.le_refl 1
    · rw [hstored]
      rfl
  | handle failure =>
    cases hm
    obtain ⟨hkiller, hstored⟩ := hat
    refine ⟨{ hs with handled := fun _ => ?_ }, hkiller, rfl, failure, hstored⟩
    show s.process.failure.isSome = true
    rw [hs.failure, hstored]
    rfl
  | drain =>
    simp only [move] at hm
    split at hm <;> cases hm
    obtain ⟨hkiller, hhandled, hstored⟩ := hat
    have hdead : s.process.alive = false := by
      rw [hs.alive, hkiller]
      rfl
    exact ⟨{ hs with drained := fun _ => ⟨rfl, hdead⟩ }, hkiller, hhandled, rfl, hstored⟩
  | register =>
    cases hm
    obtain rfl : t = registrar := hat
    exact ⟨{ hs with }, rfl, rfl⟩
  | checkAlive =>
    simp only [move] at hm
    split at hm <;> cases hm
    · have hunhandled := hs.unhandled (hs.failure_of_alive ‹_›)
      refine ⟨hs, hat.1, hat.2, fun hh => ?_⟩
      rw [hunhandled] at hh
      cases hh
    · exact ⟨hs, hat⟩
  | readFailure =>
    simp only [move] at hm
    split at hm <;> cases hm
    · exact ⟨hs, hat.1, hat.2, hs.stored_eq ‹_›⟩
    · have hunhandled := hs.unhandled ‹_›
      refine ⟨hs, hat.1, hat.2, fun hh => ?_⟩
      rw [hunhandled] at hh
      cases hh
  | decorate failure =>
    cases hm
    obtain ⟨ht, hhandler, killer, hstored⟩ := hat
    exact ⟨hs, ht, hhandler, killer, failure, hstored, .inr ⟨s.diagnostics, rfl⟩⟩
  | callHandler failure' =>
    cases hm
    obtain ⟨ht, hhandler, killer, failure, hstored, hdec⟩ := hat
    have hmem : (registrar, failure') ∈ (s.callRegistered failure').trace.called := by
      simp [Shared.callRegistered, hhandler]
    exact ⟨{ hs with }, ht, hhandler, fun _ => ⟨killer, failure, failure', hstored, hmem, hdec⟩⟩
  | load =>
    simp only [move] at hm
    split at hm <;> cases hm <;> exact ⟨hs, True.intro⟩
  | lock =>
    simp only [move] at hm
    split at hm <;> cases hm
    exact ⟨{ hs with }, rfl⟩
  | recheck =>
    simp only [move] at hm
    split at hm <;> cases hm
    · rename_i halive
      refine ⟨hs, hat, ?_⟩
      by_contra hd
      have hdead := (hs.drained (Bool.eq_true_of_not_eq_false hd)).2
      rw [halive] at hdead
      cases hdead
    · exact ⟨{ hs with }, True.intro⟩
  | push =>
    cases hm
    refine ⟨{ hs with drained := fun hd => ?_ }, .inl (List.mem_append_right _ (by simp))⟩
    -- the waiters have not been drained while the lock was held
    rw [show s.trace.drained = false from hat.2] at hd
    cases hd
  | send =>
    cases hm
    exact ⟨{ hs with }, .inr (List.mem_append_right _ (by simp))⟩
  | record =>
    cases hm
    exact ⟨{ hs with }, True.intro⟩
  | markedDead | handlerSet | subscribed | recorded => cases hm

theorem move_handler (hat : announcingAt registrar s t pc) (hm : move s t pc = some (s', next))
    (hchanged : s'.failureHandler ≠ s.failureHandler) : t = registrar := by
  cases pc with
  | register => exact hat
  | swap | drain | checkAlive | readFailure | lock | recheck =>
    simp only [move] at hm
    split at hm <;> cases hm <;> exact absurd rfl hchanged
  | store | handle | decorate | callHandler | load | push | send | record =>
    cases hm
    exact absurd rfl hchanged
  | markedDead | handlerSet | subscribed | recorded => cases hm

end Steps

theorem announcing_valid (registrar : Nat) :
    (announcing registrar).Valid program (oneHandler registrar) := by
  refine Outline.plain_valid ?_ ?_ ?_ ?_
  · intro s t pc k m hm
    exact (moved_of_map hm).2
  · intro s t pc _ hentry hone
    cases pc with
    | register => exact hone rfl
    | swap | load | record => exact True.intro
    | _ => cases hentry
  · intro s t pc k m hs hat _ hm
    exact announcing_move hs hat (moved_of_map hm).1
  · intro s t pc k m u pc' hs hat hat' htu _ _ hm
    have hmove := (moved_of_map hm).1
    exact announcingAt_advances (move_advances hs hat hmove) htu
      (fun _ hchanged => move_handler hat hmove hchanged) hat'

theorem announcing_init (registrar : Nat) : (announcing registrar).Holds init := by
  refine Outline.plain_holds ?_ fun t pc h => ?_
  · exact ⟨rfl, fun _ => rfl, Nat.zero_le 1, rfl, nofun, nofun⟩
  · simp [init] at h

/-- **A process's end is announced to everyone.** At most one failure is ever stored, and it is the
one that is read. Once the `mark_dead` that found the process alive has returned, it is the one that
has stored it, every receiver that a `subscribe_exit` has returned has been sent to, and the handler
has been called with it if its registration has returned. -/
theorem death_is_announced (registrar : Nat) {acts : List (Act Pc Unit)} {c : Threads Shared Pc}
    (hone : Meets program.step (oneHandler registrar).Allows init acts)
    (hrun : run program.step init acts = some c) :
    c.shared.trace.stored.length ≤ 1 ∧
    c.shared.process.failure = c.shared.trace.stored.head?.map Prod.snd ∧
    ∀ t, c.pool[t]? = some (.markedDead true) →
      ∃ failure, c.shared.trace.stored = [(t, failure)] ∧
        (∀ u, c.pool[u]? = some .subscribed → u ∈ c.shared.trace.notified) ∧
        (c.pool[registrar]? = some .handlerSet →
          ∃ failure', (registrar, failure') ∈ c.shared.trace.called ∧
            Decorated failure failure') := by
  obtain ⟨hs, hat, -⟩ :=
    Outline.run (announcing_valid registrar) (announcing_init registrar) hone hrun
  refine ⟨hs.once, hs.failure, fun t ht => ?_⟩
  obtain ⟨-, hhandled, hdrained, failure, hstored⟩ := hat t _ ht
  refine ⟨failure, hstored, fun u hu => ?_, fun hset => ?_⟩
  · -- the list of waiters is empty for good, so the receiver has been sent to
    rcases hat u _ hu with hwaits | hsent
    · rw [(hs.drained hdrained).1] at hwaits
      cases hwaits
    · exact hsent
  · obtain ⟨-, -, hinformed⟩ := hat registrar _ hset
    obtain ⟨killer, failure₀, failure', hstored', hmem, hdec⟩ := hinformed hhandled
    rw [hstored] at hstored'
    cases hstored'
    exact ⟨failure', hmem, hdec⟩

/-- Thread 4 registers between the swap and the store of thread 2, and thread 3 subscribes across
both. -/
def racing : List (Act Pc Unit) :=
  [.start 1 (.record "stderr" "boom"), .move 1 () 0,
    .start 2 (.swap (.pluginFailure "gone")), .start 3 .load, .move 3 () 0, .move 2 () 0,
    .start 4 .register, .move 4 () 0, .move 4 () 0, .move 2 () 0, .move 4 () 0, .move 4 () 0,
    .move 4 () 0, .move 2 () 0, .move 3 () 0, .move 3 () 0, .move 2 () 0, .move 3 () 0]

theorem racing_announced :
    let c := (run program.step init racing).get (by decide +kernel)
    (c.pool[2]? = some (.markedDead true) ∧ c.pool[3]? = some .subscribed ∧
      c.pool[4]? = some .handlerSet) ∧
    ∃ failure, c.shared.trace.stored = [(2, failure)] ∧
      (∀ u, c.pool[u]? = some .subscribed → u ∈ c.shared.trace.notified) ∧
      (c.pool[4]? = some .handlerSet → ∃ failure', (4, failure') ∈ c.shared.trace.called ∧
        Decorated failure failure') := by
  intro c
  have hdead : c.pool[2]? = some (.markedDead true) := by decide +kernel
  refine ⟨⟨hdead, by decide +kernel, by decide +kernel⟩, ?_⟩
  exact (death_is_announced 4 (by decide +kernel) (run_get _)).2.2 2 hdead

end LensoBun.Transport.Exit
