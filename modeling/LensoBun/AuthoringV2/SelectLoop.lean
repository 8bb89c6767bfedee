import LensoBun.AuthoringV2.Host
import LensoBun.Lib.Run

set_option autoImplicit false

/-! # The `select!` loop of an invocation and of a stream open

`BunGenerationV2::invoke` and `BunGenerationV2::open` wait in one loop for three things: the
answer of the RPC, the settlement of the scope and the caller's cancellation. Each turn of the
loop observes one of them; the branch is then replaced by a future that is never ready, so a
branch is observed at most once. After every turn the loop takes the stored outcome and, if the
settlement is there too, returns.

The two loops share this skeleton (`turn`) and differ in what they do on a bad settlement and
on returning (`LoopBody`). Between two turns the other tasks of the generation run and may
change its tables; `Action.others` stands for anything they do.
-/

namespace LensoBun.AuthoringV2

open Lib

/-! ## The skeleton -/

/-- What one turn of the loop observes: the answer of the RPC thread (`none` when the thread
ended without one), the settlement (`none` when its sender was dropped), or the cancellation. -/
inductive Observation (Wire : Type) where
  | response (result : Option (Except RuntimeFailure Wire))
  | settlement (result : Option Settlement)
  | cancelled

/-- The locals of the loop, with the branches that can still be ready. -/
structure LoopState (Kept : Type) where
  outcome : Option Kept
  settled : Option SettlementState
  cancellationSent : Bool
  responseArmed : Bool
  settlementArmed : Bool
  cancelledArmed : Bool

def LoopState.init {Kept : Type} : LoopState Kept :=
  { outcome := none, settled := none, cancellationSent := false
    responseArmed := true, settlementArmed := true, cancelledArmed := true }

inductive Phase (Kept Out : Type) where
  | waiting (locals : LoopState Kept)
  | returned (result : Except RuntimeFailure Out)

/-- The parts in which the loops of `invoke` and of `open` differ. -/
structure LoopBody (Wire Kept Out : Type) where
  keep : Wire → Kept
  responseFailed : Generation → Generation
  settlementClosed : Generation → Generation × RuntimeFailure
  /-- The checks of the settlement, with what happens when one fails. -/
  checkSettlement : Settlement → Option (Generation → Generation × RuntimeFailure)
  /-- Both the outcome and the settlement are there. -/
  finish : Generation → Bool → SettlementState → Kept → Generation × Except RuntimeFailure Out

variable {Wire Kept Out : Type}

/-- The code after `select!`: take the outcome and return if the settlement is there. -/
def endTurn (body : LoopBody Wire Kept Out) (g : Generation) (locals : LoopState Kept) :
    Generation × Phase Kept Out :=
  -- `outcome.take()` empties the slot whether or not the settlement has come
  let locals' := { locals with outcome := none }
  match locals.outcome, locals.settled with
  | some outcome, some state =>
    let (g', result) := body.finish g locals.cancellationSent state outcome
    (g', .returned result)
  | _, _ => (g, .waiting locals')

/-- One turn of the loop: the observed branch, then `endTurn`. A branch that was observed
before is never ready again. -/
def turn (body : LoopBody Wire Kept Out) (g : Generation) (locals : LoopState Kept) :
    Observation Wire → Option (Generation × Phase Kept Out)
  | .response result =>
    if locals.responseArmed then
      match result with
      | some (.ok wire) => some (endTurn body g
          { locals with outcome := some (body.keep wire), responseArmed := false })
      | some (.error error) => some (body.responseFailed g, .returned (.error error))
      | none => some (body.responseFailed g, .returned (.error unavailable))
    else none
  | .settlement result =>
    if locals.settlementArmed then
      match result with
      | none =>
        let (g', error) := body.settlementClosed g
        some (g', .returned (.error error))
      | some value =>
        match body.checkSettlement value with
        | some reject =>
          let (g', error) := reject g
          some (g', .returned (.error error))
        | none => some (endTurn body g
            { locals with settled := some value.state, settlementArmed := false })
    else none
  | .cancelled =>
    if locals.cancelledArmed then
      some (endTurn body g
        { locals with cancellationSent := true, cancelledArmed := false })
    else none

/-- The settlement is accepted, with this state. -/
def Accepted (body : LoopBody Wire Kept Out) (observed : Observation Wire)
    (state : SettlementState) : Prop :=
  ∃ value, observed = .settlement (some value) ∧ body.checkSettlement value = none ∧
    value.state = state

inductive Turned (body : LoopBody Wire Kept Out) (g : Generation) (locals : LoopState Kept) :
    Observation Wire → Generation → Phase Kept Out → Prop
  | waits (observed : Observation Wire) (locals' : LoopState Kept) (empty : locals'.outcome = none)
      (settled : ∀ state, locals'.settled = some state →
        locals.settled = some state ∨ Accepted body observed state)
      (armed : locals'.settlementArmed = true → locals.settlementArmed = true) :
      Turned body g locals observed g (.waiting locals')
  | finishes (observed : Observation Wire) (cancellationSent : Bool) (state : SettlementState)
      (kept : Kept)
      (outcome : locals.outcome = some kept ∨
        ∃ wire, observed = .response (some (.ok wire)) ∧ body.keep wire = kept)
      (settled : locals.settled = some state ∨ Accepted body observed state) :
      Turned body g locals observed (body.finish g cancellationSent state kept).1
        (.returned (body.finish g cancellationSent state kept).2)
  | responseFails (result : Option (Except RuntimeFailure Wire)) (error : RuntimeFailure)
      (failed : result = some (.error error) ∨ (result = none ∧ error = unavailable)) :
      Turned body g locals (.response result) (body.responseFailed g) (.returned (.error error))
  | settlementCloses (armed : locals.settlementArmed = true) :
      Turned body g locals (.settlement none) (body.settlementClosed g).1
        (.returned (.error (body.settlementClosed g).2))
  | settlementRejected (value : Settlement) (reject : Generation → Generation × RuntimeFailure)
      (checked : body.checkSettlement value = some reject) :
      Turned body g locals (.settlement (some value)) (reject g).1 (.returned (.error (reject g).2))

section

variable {body : LoopBody Wire Kept Out} {g g' : Generation} {locals locals' : LoopState Kept}
  {observed : Observation Wire} {phase : Phase Kept Out}

/-- The end of a turn whose branch has made `locals` into `locals'`. -/
theorem Turned.of_endTurn (h : endTurn body g locals' = (g', phase))
    (houtcome : ∀ kept, locals'.outcome = some kept → locals.outcome = some kept ∨
      ∃ wire, observed = .response (some (.ok wire)) ∧ body.keep wire = kept)
    (hsettled : ∀ state, locals'.settled = some state →
      locals.settled = some state ∨ Accepted body observed state)
    (harmed : locals'.settlementArmed = true → locals.settlementArmed = true) : Turned body g locals observed g' phase := by
  simp only [endTurn] at h
  split at h
  · next kept state hkept hstate =>
      cases h
      exact .finishes observed _ state kept (houtcome kept hkept) (hsettled state hstate)
  · cases h
    exact .waits observed _ rfl hsettled harmed

theorem turn_turned (h : turn body g locals observed = some (g', phase)) :
    Turned body g locals observed g' phase := by
  cases observed with
  | response =>
    simp only [turn] at h
    split at h
    · split at h
      · next wire =>
          exact .of_endTurn (Option.some.inj h)
            (fun kept hkept => .inr ⟨wire, rfl, Option.some.inj hkept⟩)
            (fun state hstate => .inl hstate) (fun harmed => harmed)
      · cases h
        exact .responseFails _ _ (.inl rfl)
      · cases h
        exact .responseFails _ _ (.inr ⟨rfl, rfl⟩)
    · cases h
  | settlement =>
    simp only [turn] at h
    split at h
    · next harmed =>
        split at h
        · cases h
          exact .settlementCloses harmed
        · next value =>
            split at h
            · next reject hchecked =>
                cases h
                exact .settlementRejected value reject hchecked
            · next hchecked =>
                refine .of_endTurn (Option.some.inj h) (fun kept hkept => .inl hkept)
                  (fun state hstate => .inr ?_) nofun
                exact ⟨value, rfl, hchecked, Option.some.inj hstate⟩
    · cases h
  | cancelled =>
    simp only [turn] at h
    split at h
    · exact .of_endTurn (Option.some.inj h) (fun kept hkept => .inl hkept)
        (fun state hstate => .inl hstate) (fun harmed => harmed)
    · cases h

end

/-- A step of the whole: a turn of the loop, or other tasks of the generation between turns. -/
inductive Action (Wire : Type) where
  | observe (observation : Observation Wire)
  | others (tables : Generation)

structure LoopConfig (Kept Out : Type) where
  generation : Generation
  phase : Phase Kept Out

def step (body : LoopBody Wire Kept Out) (c : LoopConfig Kept Out) :
    Action Wire → Option (LoopConfig Kept Out)
  | .observe observation =>
    match c.phase with
    | .waiting locals =>
      (turn body c.generation locals observation).map (fun r => ⟨r.1, r.2⟩)
    | .returned _ => none
  | .others tables => some { c with generation := tables }

def start (g : Generation) : LoopConfig Kept Out := ⟨g, .waiting .init⟩

/-! ## The two loops -/

variable {V : Type}

/-- What the code of one call fixes: the id of its request, its scope, and the protocol check of
a settlement against the session identity (`validate_for`, with the text of its error). -/
structure Call where
  requestId : Nat
  scopeId : Nat
  validateFor : Settlement → Option String

/-- The correlation id is the request id printed. -/
def Call.correlationId (call : Call) : Nat := call.requestId

/-- The loop of `BunGenerationV2::invoke`. A closed settlement channel and a settlement that
fails `validate_for` leave the tables as they are. -/
def invokeLoop (call : Call) : LoopBody (InvocationOutcome V)
    (Except RuntimeFailure (JsonInvocationOutcome V)) (JsonInvocationOutcome V) where
  keep := fromWireOutcome
  responseFailed g := g.retireInvocation call.correlationId call.scopeId
  settlementClosed g := (g, unavailable)
  checkSettlement value :=
    match call.validateFor value with
    | some error => some (fun g => (g, protocol error))
    | none =>
      if value.scopeId ≠ call.scopeId ∨ value.correlationId ≠ call.correlationId then
        some (fun g => (g.terminate, protocol "Bun settlement identity mismatch"))
      else none
  finish g cancellationSent state outcome :=
    let g' := g.retireInvocation call.correlationId call.scopeId
    if cancellationSent ∧ state ≠ .completed then (g', .error (.cancelled call.requestId))
    else (g', outcome)

/-- The session a successful open returns: `BunStreamSessionV2` at its start. -/
structure StreamSession where
  streamId : String
  scopeId : Nat
  retired : Bool
  nextSendSequence : Nat
  deriving DecidableEq

def StreamSession.opened (streamId : String) (scopeId : Nat) : StreamSession :=
  { streamId := streamId, scopeId := scopeId, retired := false, nextSendSequence := 0 }

/-- The loop of `BunGenerationV2::open`. -/
def openLoop (call : Call) :
    LoopBody (StreamOpenOutcome V) (StreamOpenOutcome V)
      (Except V StreamSession) where
  keep := id
  responseFailed g := g.retireInvocation call.correlationId call.scopeId
  settlementClosed g := (g.retireInvocation call.correlationId call.scopeId, unavailable)
  checkSettlement value :=
    if (call.validateFor value).isSome ∨ value.scopeId ≠ call.scopeId
        ∨ value.correlationId ≠ call.correlationId then
      some (fun g => ((g.retireInvocation call.correlationId call.scopeId).terminate,
        protocol "Bun Stream open settlement identity mismatch"))
    else none
  finish g cancellationSent state outcome :=
    if cancellationSent ∧ state ≠ .completed then
      (g.retireInvocation call.correlationId call.scopeId, .error (.cancelled call.requestId))
    else
      match outcome with
      | .opened streamId =>
        -- only the settlement entry goes: the scope lives on with the session
        let g' := { g with settlements := g.settlements.erase call.correlationId }
        if g.host then
          (g', .ok (.ok (StreamSession.opened streamId call.scopeId)))
        else (g', .error .admissionClosed)
      | .domain error =>
        (g.retireInvocation call.correlationId call.scopeId, .ok (.error error))
      | .runtime failure =>
        (g.retireInvocation call.correlationId call.scopeId,
          .error (fromAuthoringFailure failure))

/-! ## What has been observed, and what the locals remember of it

The slot of the outcome is empty at the start of every turn: whatever a turn stores there, the
end of the same turn takes out again. -/

/-- The locals after the turns of a run, against the observations of that run. -/
structure Remembers (acts : List (Action Wire)) (locals : LoopState Kept) : Prop where
  outcome_none : locals.outcome = none
  response_armed : ∀ result, .observe (.response result) ∈ acts → locals.responseArmed = false
  settlement_armed :
    ∀ result, .observe (.settlement result) ∈ acts → locals.settlementArmed = false
  settled : ∀ value, .observe (.settlement (some value)) ∈ acts →
    locals.settled = some value.state
  cancellation : locals.cancellationSent = true ↔ Action.observe .cancelled ∈ acts

/-- A configuration that waits remembers its run. -/
def Consistent (acts : List (Action Wire)) (c : LoopConfig Kept Out) : Prop :=
  ∀ locals, c.phase = .waiting locals → Remembers acts locals

theorem consistent_start (g : Generation) :
    Consistent ([] : List (Action Wire)) (start g : LoopConfig Kept Out) := by
  intro locals h
  cases h
  exact ⟨rfl, by simp, by simp, by simp, by simp [LoopState.init]⟩

variable {body : LoopBody Wire Kept Out} {g : Generation} {locals locals' : LoopState Kept}
  {acts : List (Action Wire)} {value : Settlement}

theorem endTurn_waiting (h : (endTurn body g locals).2 = .waiting locals') :
    locals' = { locals with outcome := none } := by
  unfold endTurn at h
  split at h
  · cases h
  · exact (Phase.waiting.inj h).symm

theorem Remembers.turn {o : Observation Wire} {r : Generation × Phase Kept Out}
    (hr : Remembers acts locals) (ht : turn body g locals o = some r) (hw : r.2 = .waiting locals')
    : Remembers (acts ++ [.observe o]) locals' := by
  obtain ⟨hout, hresp, hset, hval, hcan⟩ := hr
  cases o with
  | response =>
    simp only [AuthoringV2.turn] at ht
    split at ht
    · split at ht
      · cases ht
        rw [endTurn_waiting hw]
        refine ⟨rfl, fun _ _ => rfl, ?_, ?_, ?_⟩
        · grind
        · grind
        · simpa using hcan
      · cases ht; cases hw
      · cases ht; cases hw
    · cases ht
  | settlement =>
    simp only [AuthoringV2.turn] at ht
    split at ht
    case isFalse => cases ht
    case isTrue harmed =>
      have hfresh : ∀ result', Action.observe (.settlement result') ∉ acts := by grind
      split at ht
      · cases ht; cases hw
      · next value =>
          split at ht
          · cases ht; cases hw
          · cases ht
            rw [endTurn_waiting hw]
            refine ⟨rfl, ?_, fun _ _ => rfl, ?_, ?_⟩
            · grind
            · grind
            · simpa using hcan
  | cancelled =>
    simp only [AuthoringV2.turn] at ht
    split at ht
    · cases ht
      rw [endTurn_waiting hw]
      refine ⟨rfl, ?_, ?_, ?_, ?_⟩
      · grind
      · grind
      · grind
      · simp
    · cases ht

theorem Consistent.step {c c' : LoopConfig Kept Out} {a : Action Wire} (hc : Consistent acts c)
    (h : step body c a = some c') : Consistent (acts ++ [a]) c' := by
  intro locals' hw
  cases a with
  | observe =>
    simp only [AuthoringV2.step] at h
    split at h
    · next locals hp =>
        obtain ⟨r, ht, rfl⟩ := Option.map_eq_some_iff.mp h
        exact (hc locals hp).turn ht hw
    · cases h
  | others =>
    cases h
    obtain ⟨hout, hresp, hset, hval, hcan⟩ := hc locals' hw
    refine ⟨hout, ?_, ?_, ?_, ?_⟩
    · grind
    · grind
    · grind
    · simpa using hcan

/-- **The locals remember the run**: in every state a run reaches, for every order of turns. -/
theorem consistent_of_run {c : LoopConfig Kept Out} (h : run (step body) (start g) acts = some c) :
    Consistent acts c :=
  run_history_invariant (fun _ _ _ _ hc hs => hc.step hs) (consistent_start g) h

/-- The caller's cancellation is among the observations. -/
def cancelledIn (acts : List (Action Wire)) : Bool :=
  acts.any (fun a => match a with
    | .observe .cancelled => true
    | _ => false)

theorem cancelledIn_iff (acts : List (Action Wire)) :
    cancelledIn acts = true ↔ Action.observe .cancelled ∈ acts := by
  simp only [cancelledIn, List.any_eq_true]
  constructor
  · grind
  · intro h
    exact ⟨_, h, rfl⟩

/-! ## The moment at which both have been observed -/

/-- After `pre`, the observation `last` is the one with which both the successful answer and
the settlement `value` have been observed. -/
structure Completes (pre : List (Action Wire)) (last : Action Wire) (wire : Wire)
    (value : Settlement) : Prop where
  response : .observe (.response (some (.ok wire))) ∈ pre ++ [last]
  settlement : .observe (.settlement (some value)) ∈ pre ++ [last]
  now : ¬ (.observe (.response (some (.ok wire))) ∈ pre ∧
    .observe (.settlement (some value)) ∈ pre)

/-- The completing observation is the answer, after the settlement, or the settlement, after
the answer. -/
theorem Completes.cases {pre : List (Action Wire)} {last : Action Wire} {wire : Wire}
    (h : Completes pre last wire value) :
    (last = .observe (.response (some (.ok wire))) ∧
      .observe (.settlement (some value)) ∈ pre) ∨
    (last = .observe (.settlement (some value)) ∧
      .observe (.response (some (.ok wire))) ∈ pre) := by
  obtain ⟨hr, hs, hnow⟩ := h
  rcases List.mem_append.mp hr with hr | hr
  · grind
  · grind

section

variable {body : LoopBody Wire Kept Out} {g : Generation} {pre : List (Action Wire)}
  {c c' : LoopConfig Kept Out} {wire : Wire} {value : Settlement}

theorem returns_of_settlement_first (hpre : run (step body) (start g) pre = some c)
    (hs : .observe (.settlement (some value)) ∈ pre)
    (h : step body c (.observe (.response (some (.ok wire)))) = some c') :
    c'.phase = .returned (body.finish c.generation
      (cancelledIn pre) value.state (body.keep wire)).2 := by
  have hc := consistent_of_run hpre
  simp only [step] at h
  split at h
  · next locals hp =>
      obtain ⟨r, ht, rfl⟩ := Option.map_eq_some_iff.mp h
      have hr := hc locals hp
      have hcan : locals.cancellationSent = cancelledIn pre := by
        rw [Bool.eq_iff_iff, hr.cancellation, cancelledIn_iff]
      simp only [turn] at ht
      split at ht
      · cases ht
        simp only [endTurn, hr.settled value hs, hcan]
      · cases ht
  · cases h

/-- The loop waits, and no branch is left that could bring an outcome. -/
def Lost (c : LoopConfig Kept Out) : Prop :=
  ∃ locals, c.phase = .waiting locals ∧ locals.outcome = none ∧
    locals.responseArmed = false ∧ locals.settlementArmed = false

theorem lost_of_response_first (hpre : run (step body) (start g) pre = some c)
    (hr : .observe (.response (some (.ok wire))) ∈ pre)
    (hv : body.checkSettlement value = none)
    (h : step body c (.observe (.settlement (some value))) = some c') : Lost c' := by
  have hc := consistent_of_run hpre
  simp only [step] at h
  split at h
  · next locals hp =>
      obtain ⟨r, ht, rfl⟩ := Option.map_eq_some_iff.mp h
      have hrem := hc locals hp
      simp only [turn, hv] at ht
      split at ht
      · cases ht
        refine ⟨{ locals with settled := some value.state, settlementArmed := false }, ?_,
          hrem.outcome_none, hrem.response_armed _ hr, rfl⟩
        simp only [endTurn, hrem.outcome_none]
      · cases ht
  · cases h

end

/-! ## When the loops return what the answer carried -/

/-- The settlement passes the checks of both loops. -/
def Call.accepts (call : Call) (value : Settlement) : Prop :=
  call.validateFor value = none ∧ value.scopeId = call.scopeId ∧
    value.correlationId = call.correlationId

instance (call : Call) (value : Settlement) : Decidable (call.accepts value) :=
  inferInstanceAs (Decidable (_ ∧ _))

theorem invokeLoop_checkSettlement {call : Call} (h : call.accepts value) :
    (invokeLoop (V := V) call).checkSettlement value = none := by
  obtain ⟨h1, h2, h3⟩ := h
  simp [invokeLoop, h1, h2, h3]

theorem openLoop_checkSettlement {call : Call} (h : call.accepts value) :
    (openLoop (V := V) call).checkSettlement value = none := by
  obtain ⟨h1, h2, h3⟩ := h
  simp [openLoop, h1, h2, h3]

/-- The outcome an open's answer carries, as the caller gets it. -/
def openOutcome (call : Call) :
    StreamOpenOutcome V → Except RuntimeFailure (Except V StreamSession)
  | .opened streamId => .ok (.ok (StreamSession.opened streamId call.scopeId))
  | .domain error => .ok (.error error)
  | .runtime failure => .error (fromAuthoringFailure failure)

/-- What the loops owe their caller once both are there: `Cancelled` if the cancellation was
observed before and the work did not complete, else the outcome of the answer. -/
def owed {Out : Type} (call : Call) (cancelled : Bool) (state : SettlementState)
    (outcome : Except RuntimeFailure Out) : Except RuntimeFailure Out :=
  if cancelled ∧ state ≠ .completed then .error (.cancelled call.requestId) else outcome

theorem invokeLoop_finish (call : Call) (g : Generation) (cancelled : Bool)
    (state : SettlementState) (outcome : Except RuntimeFailure (JsonInvocationOutcome V)) :
    ((invokeLoop call).finish g cancelled state outcome).2 = owed call cancelled state outcome := by
  simp only [invokeLoop, owed]
  split <;> rfl

/-- An open returns what it owes unless it has a session to hand out and the host is gone. -/
theorem openLoop_finish (call : Call) (g : Generation) (cancelled : Bool)
    (state : SettlementState) (outcome : StreamOpenOutcome V) :
    ((openLoop call).finish g cancelled state outcome).2
        = owed call cancelled state (openOutcome call outcome) ↔
      (g.host = true ∨ (cancelled = true ∧ state ≠ .completed) ∨
        ∀ streamId, outcome ≠ .opened streamId) := by
  simp only [openLoop, owed]
  by_cases hcan : cancelled = true ∧ state ≠ .completed
  · simp [hcan]
  · grind [openOutcome]

/-- **The loops return what they owe exactly when the settlement comes before the answer.** At
the moment both have been observed, for every order of the observations and whatever the other
tasks do in between: `invoke` returns iff the settlement was observed before the answer, and
`open` iff that holds and, when there is a session to return, the host has not been
terminated. -/
theorem select_loop_returns_iff (call : Call) (g : Generation) (value : Settlement)
    (hv : call.accepts value) :
    (∀ (pre : List (Action (InvocationOutcome V))) (last : Action (InvocationOutcome V))
        (wire : InvocationOutcome V)
        (c c' : LoopConfig (Except RuntimeFailure (JsonInvocationOutcome V))
          (JsonInvocationOutcome V)),
      run (step (invokeLoop call)) (start g) pre = some c →
      step (invokeLoop call) c last = some c' → Completes pre last wire value →
      (c'.phase = .returned (owed call (cancelledIn pre) value.state (fromWireOutcome wire)) ↔
        .observe (.settlement (some value)) ∈ pre)) ∧
    (∀ (pre : List (Action (StreamOpenOutcome V))) (last : Action (StreamOpenOutcome V))
        (wire : StreamOpenOutcome V)
        (c c' : LoopConfig (StreamOpenOutcome V) (Except V StreamSession)),
      run (step (openLoop call)) (start g) pre = some c →
      step (openLoop call) c last = some c' → Completes pre last wire value →
      (c'.phase = .returned (owed call (cancelledIn pre) value.state (openOutcome call wire)) ↔
        .observe (.settlement (some value)) ∈ pre ∧
          (c.generation.host = true ∨ (cancelledIn pre = true ∧ value.state ≠ .completed) ∨
            ∀ streamId, wire ≠ .opened streamId))) := by
  refine ⟨?_, ?_⟩
  · intro pre last wire c c' hpre hstep hcompletes
    rcases hcompletes.cases with ⟨rfl, hs⟩ | ⟨rfl, hr⟩
    · have hret := returns_of_settlement_first hpre hs hstep
      rw [invokeLoop_finish] at hret
      exact ⟨fun _ => hs, fun _ => hret⟩
    · obtain ⟨locals, hw, -⟩ :=
        lost_of_response_first hpre hr (invokeLoop_checkSettlement hv) hstep
      rw [hw]
      constructor
      · intro h
        cases h
      · intro hs
        exact absurd ⟨hr, hs⟩ hcompletes.now
  · intro pre last wire c c' hpre hstep hcompletes
    rcases hcompletes.cases with ⟨rfl, hs⟩ | ⟨rfl, hr⟩
    · have hret := returns_of_settlement_first hpre hs hstep
      have hkeep : (openLoop call).keep wire = wire := rfl
      rw [hret, Phase.returned.injEq, hkeep, openLoop_finish]
      exact ⟨fun h => ⟨hs, h⟩, fun h => h.2⟩
    · obtain ⟨locals, hw, -⟩ :=
        lost_of_response_first hpre hr (openLoop_checkSettlement hv) hstep
      rw [hw]
      constructor
      · intro h
        cases h
      · rintro ⟨hs, -⟩
        exact absurd ⟨hr, hs⟩ hcompletes.now

/-- A call with request id 7 in scope 3, and its settlement. -/
def sampleCall : Call :=
  { requestId := 7, scopeId := 3
    validateFor := fun value => if value.session = "session" then none else some "session" }

def sampleTables : Generation :=
  { host := true, settlements := ∅, sharedScopes := ∅, contexts := ∅ }

def sampleSettlement : Settlement :=
  { session := "session", scopeId := 3, correlationId := 7, state := .completed }

theorem sampleCall_accepts : sampleCall.accepts sampleSettlement := ⟨rfl, rfl, rfl⟩

theorem select_loop_returns_sample :
    (step (invokeLoop (V := Nat) sampleCall)
        ⟨sampleTables, .waiting { (LoopState.init) with
          settled := some .completed, settlementArmed := false }⟩
        (.observe (.response (some (.ok (.success 1)))))).map LoopConfig.phase
      = some (.returned (.ok (.success 1))) := by
  refine congrArg some (((select_loop_returns_iff (V := Nat) sampleCall sampleTables
    sampleSettlement sampleCall_accepts).1 [.observe (.settlement (some sampleSettlement))]
    (.observe (.response (some (.ok (.success 1))))) (.success 1) _ _ rfl rfl ?_).mpr ?_)
  · exact ⟨by simp, by simp, by simp⟩
  · simp

/-- The answer first, then the settlement: both loops have consumed both and still wait. -/
theorem select_loop_loses_early_response :
    (∃ locals, (run (step (invokeLoop (V := Nat) sampleCall)) (start sampleTables)
        [.observe (.response (some (.ok (.success 1)))),
          .observe (.settlement (some sampleSettlement))]).map LoopConfig.phase
      = some (.waiting locals)) ∧
    (∃ locals, (run (step (openLoop (V := Nat) sampleCall)) (start sampleTables)
        [.observe (.response (some (.ok (.opened "stream")))),
          .observe (.settlement (some sampleSettlement))]).map LoopConfig.phase
      = some (.waiting locals)) :=
  ⟨⟨_, rfl⟩, ⟨_, rfl⟩⟩

end LensoBun.AuthoringV2
