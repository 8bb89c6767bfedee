import LensoBun.Lib.NatMap

set_option autoImplicit false

/-! # The terminal arbiter of a Process V1 session

`TerminalArbiter` (`process_v1/terminal.rs`) decides how each invocation ends: by a cancellation,
by its deadline or by the child's response. An id is active from its admission to the one commit
that retires it; retired ids are kept, up to a limit, so that late calls can be told apart.

Instants are natural numbers. Every call returns the arbiter it leaves, also when it fails: a
`cancel` that finds no room among the retired ids has already set the flag of its invocation.
`history` performs a list of calls and logs their answers.
-/

namespace LensoBun.ProcessV1

open Std Lib

variable {T : Type}

/-! ## The arbiter -/

inductive InvocationTerminal (T : Type) where
  | cancelled
  | deadlineExceeded
  | response (value : T)
  deriving DecidableEq, Repr

inductive TerminalKind where
  | cancelled
  | deadlineExceeded
  | response
  deriving DecidableEq, Repr

def TerminalKind.of : InvocationTerminal T → TerminalKind
  | .cancelled => .cancelled
  | .deadlineExceeded => .deadlineExceeded
  | .response _ => .response

inductive TerminalError where
  | reusedCorrelationId
  | unknownCorrelationId
  | secondTerminal
  | retiredIdCapacity
  deriving DecidableEq, Repr

structure ActiveInvocation where
  deadline : Option Nat
  cancelled : Bool
  deriving DecidableEq, Repr

/-- `deadline.is_some_and(|deadline| now >= deadline)`. -/
def ActiveInvocation.expired (active : ActiveInvocation) (now : Nat) : Bool :=
  active.deadline.any (fun deadline => decide (deadline ≤ now))

structure TerminalArbiter where
  active : ExtTreeMap Nat ActiveInvocation
  retired : ExtTreeMap Nat TerminalKind
  maximumRetired : Nat

namespace TerminalArbiter

def new (maximumRetired : Nat) : TerminalArbiter :=
  { active := ∅, retired := ∅, maximumRetired := max maximumRetired 1 }

/-- `TerminalArbiter::admit`. -/
def admitId (a : TerminalArbiter) (correlationId : Nat) (deadline : Option Nat) :
    TerminalArbiter × Except TerminalError Unit :=
  if a.active[correlationId]?.isSome || a.retired[correlationId]?.isSome then
    (a, .error .reusedCorrelationId)
  else if a.retired.size ≥ a.maximumRetired then (a, .error .retiredIdCapacity)
  else
    ({ a with active :=
        a.active.insert correlationId { deadline := deadline, cancelled := false } }, .ok ())

def classifyMissing (a : TerminalArbiter) (correlationId : Nat) : TerminalError :=
  if a.retired[correlationId]?.isSome then .secondTerminal else .unknownCorrelationId

/-- The id is moved from the active to the retired ones. -/
def retire (a : TerminalArbiter) (correlationId : Nat) (terminal : InvocationTerminal T) :
    TerminalArbiter :=
  { a with
    active := a.active.erase correlationId
    retired := a.retired.insert correlationId (.of terminal) }

def commit (a : TerminalArbiter) (correlationId : Nat) (terminal : InvocationTerminal T) :
    TerminalArbiter × Except TerminalError (InvocationTerminal T) :=
  if a.retired.size ≥ a.maximumRetired then (a, .error .retiredIdCapacity)
  else
    match a.active[correlationId]? with
    | none => (a, .error (a.classifyMissing correlationId))
    | some _ => (a.retire correlationId terminal, .ok terminal)

def flag (a : TerminalArbiter) (correlationId : Nat) (active : ActiveInvocation) :
    TerminalArbiter :=
  { a with active := a.active.insert correlationId { active with cancelled := true } }

def cancel (a : TerminalArbiter) (correlationId : Nat) :
    TerminalArbiter × Except TerminalError (Option (InvocationTerminal T)) :=
  if a.retired[correlationId]?.isSome then (a, .ok none)
  else
    match a.active[correlationId]? with
    | none => (a, .ok none)
    | some active =>
      let committed := (a.flag correlationId active).commit correlationId .cancelled
      (committed.1, committed.2.map some)

def responseTerminal (active : ActiveInvocation) (response : T) (now : Nat) :
    InvocationTerminal T :=
  if active.cancelled then .cancelled
  else if active.expired now then .deadlineExceeded
  else .response response

def respond (a : TerminalArbiter) (correlationId : Nat) (response : T) (now : Nat) :
    TerminalArbiter × Except TerminalError (InvocationTerminal T) :=
  match a.active[correlationId]? with
  | none => (a, .error (a.classifyMissing correlationId))
  | some active => a.commit correlationId (responseTerminal active response now)

def expire (a : TerminalArbiter) (correlationId now : Nat) :
    TerminalArbiter × Except TerminalError (Option (InvocationTerminal T)) :=
  match a.active[correlationId]? with
  | none =>
    if a.retired[correlationId]?.isSome then (a, .ok none)
    else (a, .error .unknownCorrelationId)
  | some active =>
    if active.cancelled then
      let committed := a.commit correlationId .cancelled
      (committed.1, committed.2.map some)
    else if active.expired now then
      let committed := a.commit correlationId .deadlineExceeded
      (committed.1, committed.2.map some)
    else (a, .ok none)

def retiredTerminal (a : TerminalArbiter) (correlationId : Nat) : Option TerminalKind :=
  a.retired[correlationId]?

end TerminalArbiter

/-! ## Calls and their answers -/

inductive Call (T : Type) where
  | admitId (correlationId : Nat) (deadline : Option Nat)
  | cancel (correlationId : Nat)
  | respond (correlationId : Nat) (response : T) (now : Nat)
  | expire (correlationId now : Nat)
  deriving DecidableEq, Repr

def Call.id : Call T → Nat
  | .admitId correlationId _ | .cancel correlationId | .respond correlationId _ _
  | .expire correlationId _ => correlationId

/-- An error, or the committed terminal if there is one. -/
abbrev Answer (T : Type) := Except TerminalError (Option (InvocationTerminal T))

def TerminalArbiter.apply (a : TerminalArbiter) : Call T → TerminalArbiter × Answer T
  | .admitId correlationId deadline =>
    let admitted := a.admitId correlationId deadline
    (admitted.1, admitted.2.map (fun _ => none))
  | .cancel correlationId => a.cancel correlationId
  | .respond correlationId response now =>
    let committed := a.respond correlationId response now
    (committed.1, committed.2.map some)
  | .expire correlationId now => a.expire correlationId now

structure Event (T : Type) where
  call : Call T
  answer : Answer T
  deriving DecidableEq

def Event.admitted? : Event T → Option Nat
  | ⟨.admitId correlationId _, .ok none⟩ => some correlationId
  | _ => none

/-- The id of a call that has returned a committed terminal. -/
def Event.committed? : Event T → Option Nat
  | ⟨call, .ok (some _)⟩ => some call.id
  | _ => none

/-- The arbiter after some calls, and those calls with their answers. -/
structure History (T : Type) where
  arbiter : TerminalArbiter
  log : List (Event T)

namespace History

def record (h : History T) (call : Call T) : History T :=
  { arbiter := (h.arbiter.apply call).1
    log := h.log ++ [{ call := call, answer := (h.arbiter.apply call).2 }] }

/-- The ids admitted so far, one entry for each successful admission. -/
def admitted (h : History T) : List Nat := h.log.filterMap Event.admitted?

/-- The ids committed so far, one entry for each terminal returned. -/
def committed (h : History T) : List Nat := h.log.filterMap Event.committed?

end History

/-- The calls in order, from `TerminalArbiter::new(m)`. -/
def history (m : Nat) (calls : List (Call T)) : History T :=
  calls.foldl History.record { arbiter := .new m, log := [] }

@[simp] theorem history_nil (m : Nat) : history m ([] : List (Call T)) = ⟨.new m, []⟩ := rfl

theorem history_concat (m : Nat) (calls : List (Call T)) (call : Call T) :
    history m (calls ++ [call]) = (history m calls).record call := by
  rw [history, List.foldl_append]
  rfl

/-! ## What a call can do -/

/-- The four effects of a call: none, an admission, a commit, or the flag of a cancel for which
there was no room. -/
inductive Applies (a : TerminalArbiter) : Call T → TerminalArbiter → Answer T → Prop
  | idle (call : Call T) (answer : Answer T) (admitted : Event.admitted? ⟨call, answer⟩ = none)
      (committed : Event.committed? ⟨call, answer⟩ = none) : Applies a call a answer
  | enter (id : Nat) (deadline : Option Nat) (inactive : a.active[id]? = none)
      (fresh : a.retired[id]? = none) :
      Applies a (.admitId id deadline)
        { a with active := a.active.insert id { deadline := deadline, cancelled := false } }
        (.ok none)
  | commit (call : Call T) (terminal : InvocationTerminal T) (active : ActiveInvocation)
      (found : a.active[call.id]? = some active) (room : a.retired.size < a.maximumRetired)
      (response : ∀ value, terminal = .response value → ∃ now,
        call = .respond call.id value now ∧ active.cancelled = false ∧
          active.expired now = false)
      (cancel : call = .cancel call.id → terminal = .cancelled) :
      Applies a call (a.retire call.id terminal) (.ok (some terminal))
  | flag (id : Nat) (active : ActiveInvocation) (found : a.active[id]? = some active)
      (full : a.maximumRetired ≤ a.retired.size) :
      Applies a (.cancel id) (a.flag id active) (.error .retiredIdCapacity)

section

variable {a : TerminalArbiter} {id : Nat} {active : ActiveInvocation}
  {terminal : InvocationTerminal T}

theorem commit_of_room (found : a.active[id]? = some active)
    (room : a.retired.size < a.maximumRetired) :
    a.commit id terminal = (a.retire id terminal, .ok terminal) := by
  rw [TerminalArbiter.commit, if_neg (by omega), found]

theorem commit_of_full (full : a.maximumRetired ≤ a.retired.size) :
    a.commit id terminal = (a, .error .retiredIdCapacity) :=
  if_pos full

theorem retire_flag : (a.flag id active).retire id terminal = a.retire id terminal := by
  have herase : (a.active.insert id { active with cancelled := true }).erase id =
      a.active.erase id := by grind
  rw [TerminalArbiter.retire, TerminalArbiter.retire, TerminalArbiter.flag, herase]

/-- A commit for an active id, made by `call`, that is not a response. -/
theorem commit_applies (call : Call T) (hid : call.id = id)
    (found : a.active[id]? = some active) (hterminal : ∀ value, terminal ≠ .response value)
    (hcall : call ≠ .cancel id) :
    Applies a call (a.commit id terminal).1 ((a.commit id terminal).2.map some) := by
  by_cases hroom : a.retired.size < a.maximumRetired
  · rw [commit_of_room found hroom]
    subst hid
    exact .commit call terminal active found hroom (fun value h => absurd h (hterminal value))
      (fun h => absurd h hcall)
  · rw [commit_of_full (by omega)]
    refine .idle call _ ?_ rfl
    cases call <;> rfl

theorem cancel_applies (a : TerminalArbiter) (id : Nat) :
    Applies a (.cancel id : Call T) (a.cancel (T := T) id).1 (a.cancel (T := T) id).2 := by
  unfold TerminalArbiter.cancel
  split
  · exact .idle _ _ rfl rfl
  · split
    · exact .idle _ _ rfl rfl
    · next active found =>
        by_cases hroom : a.retired.size < a.maximumRetired
        · have hflagged : (a.flag id active).active[id]? =
              some { active with cancelled := true } := by
            simp only [TerminalArbiter.flag, getElem?_insert_nat, if_true]
          simp only [commit_of_room hflagged hroom, retire_flag]
          refine .commit (.cancel id) .cancelled active found hroom ?_ (fun _ => rfl)
          intro value h
          cases h
        · have hfull : (a.flag id active).maximumRetired ≤ (a.flag id active).retired.size := by
            simp only [TerminalArbiter.flag]
            omega
          rw [commit_of_full hfull]
          exact .flag id active found (by omega)

theorem respond_applies (a : TerminalArbiter) (id : Nat) (response : T) (now : Nat) :
    Applies a (.respond id response now) (a.respond id response now).1
      ((a.respond id response now).2.map some) := by
  unfold TerminalArbiter.respond
  split
  · exact .idle _ _ rfl rfl
  · next active found =>
      by_cases hroom : a.retired.size < a.maximumRetired
      · rw [commit_of_room found hroom]
        refine .commit (.respond id response now) _ active found hroom ?_ (fun h => by cases h)
        intro value h
        rw [TerminalArbiter.responseTerminal] at h
        split at h
        · cases h
        · next hcancelled =>
            split at h
            · cases h
            · next hexpired =>
                cases h
                exact ⟨now, rfl, by simpa using hcancelled, by simpa using hexpired⟩
      · rw [commit_of_full (by omega)]
        exact .idle _ _ rfl rfl

theorem expire_applies (a : TerminalArbiter) (id now : Nat) :
    Applies a (.expire id now : Call T) (a.expire (T := T) id now).1
      (a.expire (T := T) id now).2 := by
  unfold TerminalArbiter.expire
  split
  · split <;> exact .idle _ _ rfl rfl
  · next active found =>
      split
      · exact commit_applies (.expire id now) rfl found (by simp) (by simp)
      · split
        · exact commit_applies (.expire id now) rfl found (by simp) (by simp)
        · exact .idle _ _ rfl rfl

theorem apply_applies (a : TerminalArbiter) (call : Call T) :
    Applies a call (a.apply call).1 (a.apply call).2 := by
  cases call with
  | admitId id deadline =>
    simp only [TerminalArbiter.apply, TerminalArbiter.admitId]
    split
    · exact .idle _ _ rfl rfl
    · next hknown =>
        split
        · exact .idle _ _ rfl rfl
        · obtain ⟨hactive, hretired⟩ : a.active[id]? = none ∧ a.retired[id]? = none := by
            simpa using hknown
          exact .enter id deadline hactive hretired
  | cancel id => exact cancel_applies a id
  | respond id response now => exact respond_applies a id response now
  | expire id now => exact expire_applies a id now

end

end LensoBun.ProcessV1
