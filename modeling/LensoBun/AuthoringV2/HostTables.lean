import LensoBun.AuthoringV2.SelectLoop
import LensoBun.Lib.Threads

set_option autoImplicit false

/-! # What calls leave in the tables of a generation

`invoke`, `publish` and `open` of `BunGenerationV2` as threads over its tables, with the callback
that delivers a settlement, the retirement of a session and `terminate` at any time. What a call does
between two awaits is one step; the loops of `invoke` and `open` are those of `SelectLoop`.

The scope of a call is `invoke-` and its request id, and its correlation id is the request id, so one
number stands for all three. A settlement that the callback has taken out of `settlements` waits in
`mail` for the call it was sent to; a sender that is neither there nor in `settlements` was dropped.

An entry can stay behind when the RPC thread cannot be started, since all tables have been filled by
then, and when a request id comes a second time. `Held` is what holds otherwise.
-/

namespace LensoBun.AuthoringV2.HostTables

open Std Lib

variable {V : Type}

/-! ## State -/

structure Config where
  /-- `request_queue_capacity`. -/
  capacity : Nat
  /-- `validate_for` against the session identity, with the text of its error. -/
  validateFor : Settlement → Option String

structure Shared where
  generation : Generation
  /-- The settlements that have been sent to a call. -/
  mail : ExtTreeMap Nat Settlement

/-- `retire_lifecycle`. -/
def retireLifecycle (g : Generation) (scopeId : Nat) : Generation :=
  { g with
    sharedScopes := g.sharedScopes.erase scopeId
    contexts := g.contexts.erase scopeId }

def addScope (g : Generation) (scopeId : Nat) : Generation :=
  { g with
    contexts := g.contexts.insert scopeId
    sharedScopes := g.sharedScopes.insert scopeId }

/-! ## Calls -/

inductive Kind where
  | invoke (operation : String)
  | publish
  | openStream
  deriving DecidableEq, Repr

inductive Result (V : Type) where
  | invoked (result : Except RuntimeFailure (JsonInvocationOutcome V))
  | published (result : Except RuntimeFailure Unit)
  | opened (result : Except RuntimeFailure (Except V StreamSession))

def Kind.fails : Kind → RuntimeFailure → Result V
  | .invoke _, failure => .invoked (.error failure)
  | .publish, failure => .published (.error failure)
  | .openStream, failure => .opened (.error failure)

def Kind.worker : Kind → String
  | .invoke _ => "invoke"
  | .publish => "event-publish"
  | .openStream => "stream-open"

inductive Pc (V : Type) where
  | begin (kind : Kind) (requestId : Nat)
  | invoking (requestId : Nat)
      (locals : LoopState (Except RuntimeFailure (JsonInvocationOutcome V)))
  | publishing (requestId : Nat)
  | opening (requestId : Nat) (locals : LoopState (StreamOpenOutcome V))
  | session (session : StreamSession)
  | returned (requestId : Nat) (result : Result V)
  /-- The child's settlement reaches the callback. -/
  | settled (value : Settlement)
  | terminate
  | done

inductive Input (V : Type) where
  | refused (failure : RuntimeFailure)
  | go
  | spawnFails (error : String)
  | answered (result : Option (Except RuntimeFailure (InvocationOutcome V)))
  | opened (result : Option (Except RuntimeFailure (StreamOpenOutcome V)))
  | published (result : Option (Except RuntimeFailure (Option AuthoringFailure)))
  | settlement
  | cancelled
  | retire

def callOf (config : Config) (requestId : Nat) : Call := ⟨requestId, requestId, config.validateFor⟩

/-- The tables are filled, or the call ends before. A request id that comes a second time replaces
the sender of the first. -/
def register (config : Config) (g : Generation) (t : Nat) (kind : Kind) (requestId : Nat) :
    Except (Generation × RuntimeFailure) Generation :=
  match kind with
  | .publish => .ok (addScope g requestId)
  | .invoke operation =>
    if config.capacity ≤ g.settlements.size then
      .error (g, .resourceExhausted executionClass operation)
    else if requestId ∈ g.settlements then
      .error ({ g with settlements := g.settlements.insert requestId t },
        protocol "Bun invocation reused a correlation id")
    else .ok (addScope { g with settlements := g.settlements.insert requestId t } requestId)
  | .openStream =>
    if config.capacity ≤ g.settlements.size then
      .error (g, .resourceExhausted executionClass "stream.open")
    else if requestId ∈ g.settlements then
      .error ({ g with settlements := g.settlements.insert requestId t },
        protocol "Bun Stream open reused a correlation id")
    else .ok (addScope { g with settlements := g.settlements.insert requestId t } requestId)

def Kind.waits : Kind → Nat → Pc V
  | .invoke _, requestId => .invoking requestId .init
  | .publish, requestId => .publishing requestId
  | .openStream, requestId => .opening requestId .init

/-- `spawn_rpc`, with the error of the operating system if there is one. -/
def spawn (kind : Kind) (requestId : Nat) : Option String → Pc V
  | none => kind.waits requestId
  | some error => .returned requestId (kind.fails (.internal
      ("failed to start Bun Authoring V2 " ++ kind.worker ++ ": " ++ error)))

def begin (config : Config) (s : Shared) (t : Nat) (kind : Kind) (requestId : Nat)
    (spawnError : Option String) : Shared × Pc V :=
  if s.generation.host then
    match register config s.generation t kind requestId with
    | .ok g => ({ s with generation := g }, spawn kind requestId spawnError)
    | .error (g, failure) =>
      ({ s with generation := g }, .returned requestId (kind.fails failure))
  else (s, .returned requestId (kind.fails .admissionClosed))

/-- The state of the call's settlement receiver: nothing yet, a settlement, or a dropped sender. -/
def Shared.receiver (s : Shared) (t requestId : Nat) : Option (Option Settlement) :=
  match s.mail[t]? with
  | some value => some (some value)
  | none => if s.generation.settlements[requestId]? = some t then none else some none

/-- A turn of the loop of `invoke`. -/
def invoking (config : Config) (s : Shared) (requestId : Nat)
    (locals : LoopState (Except RuntimeFailure (JsonInvocationOutcome V)))
    (observed : Observation (InvocationOutcome V)) : Option (Shared × Pc V) :=
  (turn (invokeLoop (callOf config requestId)) s.generation locals observed).map fun r =>
    ({ s with generation := r.1 }, match r.2 with
      | .waiting locals' => .invoking requestId locals'
      | .returned result => .returned requestId (.invoked result))

/-- A turn of the loop of `open`. -/
def opening (config : Config) (s : Shared) (requestId : Nat)
    (locals : LoopState (StreamOpenOutcome V)) (observed : Observation (StreamOpenOutcome V)) :
    Option (Shared × Pc V) :=
  (turn (openLoop (callOf config requestId)) s.generation locals observed).map fun r =>
    ({ s with generation := r.1 }, match r.2 with
      | .waiting locals' => .opening requestId locals'
      | .returned (.ok (.ok session)) => .session session
      | .returned result => .returned requestId (.opened result))

/-- What `publish` makes of its answer. -/
def publishResult : Option (Except RuntimeFailure (Option AuthoringFailure)) →
    Except RuntimeFailure Unit
  | none => .error unavailable
  | some (.error failure) => .error failure
  | some (.ok none) => .ok ()
  | some (.ok (some failure)) => .error (fromAuthoringFailure failure)

/-- `HostCallback::settled`. -/
def settled (config : Config) (s : Shared) (value : Settlement) : Shared :=
  match config.validateFor value with
  | some _ => s
  | none =>
    match s.generation.settlements[value.correlationId]? with
    | none => s
    | some owner =>
      { generation := { s.generation with
          settlements := s.generation.settlements.erase value.correlationId }
        mail := s.mail.insert owner value }

def pcMove (config : Config) (s : Shared) (t : Nat) : Pc V → Input V → Option (Shared × Pc V)
  | .begin kind requestId, .refused failure => some (s, .returned requestId (kind.fails failure))
  | .begin kind requestId, .go => some (begin config s t kind requestId none)
  | .begin kind requestId, .spawnFails error =>
    some (begin config s t kind requestId (some error))
  | .invoking requestId locals, .answered result =>
    invoking config s requestId locals (.response result)
  | .invoking requestId locals, .cancelled => invoking config s requestId locals .cancelled
  | .invoking requestId locals, .settlement =>
    (s.receiver t requestId).bind fun received =>
      invoking config s requestId locals (.settlement received)
  | .publishing requestId, .published result =>
    some ({ s with generation := retireLifecycle s.generation requestId },
      .returned requestId (.published (publishResult result)))
  | .opening requestId locals, .opened result =>
    opening config s requestId locals (.response result)
  | .opening requestId locals, .cancelled => opening config s requestId locals .cancelled
  | .opening requestId locals, .settlement =>
    (s.receiver t requestId).bind fun received =>
      opening config s requestId locals (.settlement received)
  | .session session, .retire =>
    -- `retired.swap`: later calls change nothing
    if session.retired then none
    else some ({ s with generation := retireLifecycle s.generation session.scopeId },
      .session { session with retired := true })
  | .settled value, .go => some (settled config s value, .done)
  | .terminate, .go => some ({ s with generation := s.generation.terminate }, .done)
  | _, _ => none

def Pc.starts : Pc V → Bool
  | .begin _ _ | .settled _ | .terminate => true
  | _ => false

def program (config : Config) : Program Shared (Pc V) (Input V) :=
  ⟨Pc.starts, fun s t pc k => (pcMove config s t pc k).map fun p => ⟨p.1, p.2, none⟩⟩

/-- The plugin has been constructed; nothing is in the tables. -/
def init : Threads Shared (Pc V) :=
  { shared := ⟨{ host := true, settlements := ∅, sharedScopes := ∅, contexts := ∅ }, ∅⟩, pool := ∅ }

/-! ## What a step can be -/

/-- The call is in its loop: its request id, and whether it still waits for its settlement. -/
def Pc.loop : Pc V → Option (Nat × Bool)
  | .invoking requestId locals => some (requestId, locals.settlementArmed)
  | .opening requestId locals => some (requestId, locals.settlementArmed)
  | _ => none

/-- The steps of a thread by what they do to the tables. -/
inductive Moves (config : Config) (s : Shared) (t : Nat) : Pc V → Input V → Shared → Pc V → Prop
  | ends (kind : Kind) (requestId : Nat) (k : Input V) (result : Result V) :
      Moves config s t (.begin kind requestId) k s (.returned requestId result)
  | reuses (kind : Kind) (requestId : Nat) (k : Input V) (result : Result V) {s' : Shared}
      (found : requestId ∈ s.generation.settlements) :
      Moves config s t (.begin kind requestId) k s' (.returned requestId result)
  | registers (kind : Kind) (requestId : Nat) (g : Generation) (live : s.generation.host = true)
      (registered : register config s.generation t kind requestId = .ok g) :
      Moves config s t (.begin kind requestId) .go { s with generation := g } (kind.waits requestId)
  | spawnFails (kind : Kind) (requestId : Nat) (error : String) {s' : Shared} {pc' : Pc V} :
      Moves config s t (.begin kind requestId) (.spawnFails error) s' pc'
  -- the loops
  | waits {pc pc' : Pc V} {requestId : Nat} {armed armed' : Bool} (k : Input V)
      (here : pc.loop = some (requestId, armed)) (next : pc'.loop = some (requestId, armed'))
      (still : armed' = true → armed = true) : Moves config s t pc k s pc'
  | retires {pc : Pc V} {requestId : Nat} {armed : Bool} (k : Input V)
      (here : pc.loop = some (requestId, armed)) (result : Result V) :
      Moves config s t pc k
        { s with generation := s.generation.retireInvocation requestId requestId }
        (.returned requestId result)
  | closes {pc : Pc V} {requestId : Nat} (k : Input V) (here : pc.loop = some (requestId, true))
      (dropped : s.receiver t requestId = some none) (result : Result V) :
      Moves config s t pc k s (.returned requestId result)
  | rejects {pc : Pc V} {requestId : Nat} {armed : Bool} (k : Input V)
      (here : pc.loop = some (requestId, armed)) (value : Settlement)
      (received : s.mail[t]? = some value) (invalid : config.validateFor value ≠ none)
      (result : Result V) : Moves config s t pc k s (.returned requestId result)
  | mismatches {pc : Pc V} {requestId : Nat} {armed : Bool} (k : Input V)
      (here : pc.loop = some (requestId, armed)) (result : Result V) :
      Moves config s t pc k { s with generation := s.generation.terminate }
        (.returned requestId result)
  | opens {pc : Pc V} {requestId : Nat} {armed : Bool} (k : Input V)
      (here : pc.loop = some (requestId, armed)) (streamId : String) :
      Moves config s t pc k
        { s with generation := { s.generation with
            settlements := s.generation.settlements.erase requestId } }
        (.session (.opened streamId requestId))
  | opensTooLate {pc : Pc V} {requestId : Nat} {armed : Bool} (k : Input V)
      (here : pc.loop = some (requestId, armed)) (gone : s.generation.host = false)
      (result : Result V) :
      Moves config s t pc k
        { s with generation := { s.generation with
            settlements := s.generation.settlements.erase requestId } }
        (.returned requestId result)
  -- the rest
  | publishes (requestId : Nat) (k : Input V) (result : Result V) :
      Moves config s t (.publishing requestId) k
        { s with generation := retireLifecycle s.generation requestId }
        (.returned requestId result)
  | retire (session : StreamSession) (open_ : session.retired = false) :
      Moves config s t (.session session) .retire
        { s with generation := retireLifecycle s.generation session.scopeId }
        (.session { session with retired := true })
  | delivers (value : Settlement) (owner : Nat) (valid : config.validateFor value = none)
      (found : s.generation.settlements[value.correlationId]? = some owner) :
      Moves config s t (.settled value) .go
        { generation := { s.generation with
            settlements := s.generation.settlements.erase value.correlationId }
          mail := s.mail.insert owner value } .done
  | ignores (value : Settlement) : Moves config s t (.settled value) .go s .done
  | terminate :
      Moves config s t .terminate .go { s with generation := s.generation.terminate } .done

section Inversion

variable {config : Config} {s s' : Shared} {t : Nat} {pc pc' : Pc V} {k : Input V}

variable {requestId : Nat}

theorem begin_moves {kind : Kind} (h : begin config s t kind requestId none = (s', pc')) :
    Moves config s t (.begin kind requestId) .go s' pc' := by
  unfold begin at h
  split at h
  · next hlive =>
      split at h
      · next g hregistered =>
          cases h
          exact .registers kind requestId g hlive hregistered
      · next g failure hrefused =>
          cases h
          cases kind with
          | publish => cases hrefused
          | invoke | openStream =>
            simp only [register] at hrefused
            split at hrefused
            · cases hrefused
              exact .ends _ requestId _ _
            · split at hrefused
              · next hfound =>
                  cases hrefused
                  exact .reuses _ requestId _ _ hfound
              · cases hrefused
  · cases h
    exact .ends kind requestId _ _

theorem mail_of_receiver {value : Settlement} (h : s.receiver t requestId = some (some value)) :
    s.mail[t]? = some value := by
  unfold Shared.receiver at h
  split at h
  · grind
  · split at h <;> cases h

theorem invoking_moves {locals : LoopState (Except RuntimeFailure (JsonInvocationOutcome V))}
    {observed : Observation (InvocationOutcome V)}
    (h : invoking config s requestId locals observed = some (s', pc'))
    (hreceived : ∀ received, observed = .settlement received → s.receiver t requestId = some received)
    : Moves config s t (.invoking requestId locals) k s' pc' := by
  obtain ⟨⟨g, phase⟩, hturn, hr⟩ := Option.map_eq_some_iff.mp h
  cases hr
  cases turn_turned hturn with
  | waits observed locals' empty settled armed => exact .waits k rfl rfl armed
  | finishes observed cancellationSent state kept =>
    have hfinish : ((invokeLoop (callOf config requestId)).finish s.generation cancellationSent
        state kept).1 = s.generation.retireInvocation requestId requestId := by
      simp only [invokeLoop]
      split <;> rfl
    rw [hfinish]
    exact .retires k rfl _
  | responseFails => exact .retires k rfl _
  | settlementCloses armed =>
    have hloop : (Pc.invoking requestId locals).loop = some (requestId, true) := by
      rw [Pc.loop, armed]
    exact .closes k hloop (hreceived none rfl) _
  | settlementRejected value reject checked =>
    simp only [invokeLoop] at checked
    split at checked
    · next error hinvalid =>
        cases checked
        refine .rejects k rfl value (mail_of_receiver (hreceived _ rfl)) ?_ _
        rw [show config.validateFor value = some error from hinvalid]
        rintro ⟨⟩
    · split at checked
      · cases checked
        exact .mismatches k rfl _
      · cases checked

theorem opening_moves {locals : LoopState (StreamOpenOutcome V)}
    {observed : Observation (StreamOpenOutcome V)}
    (h : opening config s requestId locals observed = some (s', pc')) :
    Moves config s t (.opening requestId locals) k s' pc' := by
  obtain ⟨⟨g, phase⟩, hturn, hr⟩ := Option.map_eq_some_iff.mp h
  cases hr
  cases turn_turned hturn with
  | waits observed locals' empty settled armed => exact .waits k rfl rfl armed
  | finishes observed cancellationSent state kept =>
    simp only [openLoop]
    split
    · exact .retires k rfl _
    · cases kept with
      | opened streamId =>
        simp only
        split
        · exact .opens k rfl streamId
        · next hgone => exact .opensTooLate k rfl (Bool.eq_false_of_not_eq_true hgone) _
      | domain => exact .retires k rfl _
      | runtime => exact .retires k rfl _
  | responseFails => exact .retires k rfl _
  | settlementCloses => exact .retires k rfl _
  | settlementRejected value reject checked =>
    simp only [openLoop] at checked
    split at checked
    · cases checked
      exact .mismatches k rfl _
    · cases checked

theorem pcMove_moves (h : pcMove config s t pc k = some (s', pc')) :
    Moves config s t pc k s' pc' := by
  cases pc with
  | begin kind requestId =>
    cases k with
    | refused =>
      cases h
      exact .ends kind requestId _ _
    | go => exact begin_moves (Option.some.inj h)
    | spawnFails error => exact .spawnFails kind requestId error
    | _ => cases h
  | invoking =>
    cases k with
    | answered | cancelled => exact invoking_moves h nofun
    | settlement =>
      obtain ⟨received, hreceived, h⟩ := Option.bind_eq_some_iff.mp h
      refine invoking_moves h (fun received' heq => ?_)
      cases heq
      exact hreceived
    | _ => cases h
  | publishing requestId =>
    cases k with
    | published =>
      cases h
      exact .publishes requestId _ _
    | _ => cases h
  | opening =>
    cases k with
    | opened => exact opening_moves h
    | cancelled => exact opening_moves h
    | settlement =>
      obtain ⟨received, hreceived, h⟩ := Option.bind_eq_some_iff.mp h
      exact opening_moves h
    | _ => cases h
  | session session =>
    cases k with
    | retire =>
      simp only [pcMove] at h
      split at h
      · cases h
      · next hopen =>
          cases h
          exact .retire session (Bool.eq_false_of_not_eq_true hopen)
    | _ => cases h
  | returned => cases h
  | settled value =>
    cases k with
    | go =>
      cases h
      unfold settled
      split
      · exact .ignores value
      · next hvalid =>
          split
          · exact .ignores value
          · next owner hfound => exact .delivers value owner hvalid hfound
    | _ => cases h
  | terminate =>
    cases k with
    | go =>
      cases h
      exact .terminate
    | _ => cases h
  | done => cases h

theorem move_moves {m : Moved Shared (Pc V)} (h : (program config).move s t pc k = some m) :
    Moves config s t pc k m.shared m.next :=
  pcMove_moves (moved_of_map h).1

end Inversion

/-! ## Entries and their calls -/

def Has (g : Generation) (scopeId : Nat) : Prop := scopeId ∈ g.contexts ∧ scopeId ∈ g.sharedScopes

def Lacks (g : Generation) (scopeId : Nat) : Prop :=
  scopeId ∉ g.contexts ∧ scopeId ∉ g.sharedScopes

instance (g : Generation) (scopeId : Nat) : Decidable (Lacks g scopeId) :=
  inferInstanceAs (Decidable (_ ∧ _))

/-- The request under whose scope the thread works, or whose session is not retired. -/
def Pc.holds : Pc V → Option Nat
  | .invoking requestId _ | .publishing requestId | .opening requestId _ => some requestId
  | .session opened => if opened.retired then none else some opened.scopeId
  | _ => none

/-- After `terminate` nothing is in the tables, and what is in the mail has been validated. -/
structure Sound (config : Config) (s : Shared) : Prop where
  gone : s.generation.host = false →
    (∀ requestId : Nat, s.generation.settlements[requestId]? = none) ∧
      ∀ scopeId, Lacks s.generation scopeId
  mail : ∀ (u : Nat) value, s.mail[u]? = some value → config.validateFor value = none

/-- While the child is there a call has its scope in the tables, and its sender until a settlement
has been sent to it. -/
structure Held (s : Shared) (t : Nat) (pc : Pc V) : Prop where
  scope : ∀ requestId, pc.holds = some requestId → s.generation.host = true →
    Has s.generation requestId
  sender : ∀ requestId, pc.loop = some (requestId, true) → s.generation.host = true →
    s.generation.settlements[requestId]? = some t ∨ s.mail[t]?.isSome = true

def Apart (pc pc' : Pc V) : Prop := ∀ requestId, pc.holds = some requestId → pc'.holds ≠ some requestId

/-- The RPC thread is started, and a call comes with a request id that no table has. -/
def startsFresh (s : Shared) : Pc V → Input V → Bool
  | .begin _ _, .spawnFails _ => false
  | .begin _ requestId, _ =>
    s.generation.settlements[requestId]?.isNone && decide (Lacks s.generation requestId)
  | _, _ => true

def fresh : Guard Shared (Pc V) (Input V) where
  self s _ pc k := startsFresh s pc k = true

instance (c : Threads Shared (Pc V)) (a : Act (Pc V) (Input V)) :
    Decidable (fresh.Allows c a) := Guard.decidable c a

section Tables

variable {g : Generation} {requestId scopeId : Nat}

theorem has_addScope (g : Generation) (scopeId : Nat) : Has (addScope g scopeId) scopeId :=
  ⟨ExtTreeSet.mem_insert_self, ExtTreeSet.mem_insert_self⟩

theorem Has.addScope (h : Has g scopeId) : Has (addScope g requestId) scopeId :=
  ⟨ExtTreeSet.mem_insert.mpr (.inr h.1), ExtTreeSet.mem_insert.mpr (.inr h.2)⟩

theorem lacks_erase (contexts sharedScopes : ExtTreeSet Nat) (scopeId : Nat) :
    scopeId ∉ contexts.erase scopeId ∧ scopeId ∉ sharedScopes.erase scopeId := by
  constructor <;> simp [ExtTreeSet.mem_erase]

variable {contexts sharedScopes : ExtTreeSet Nat}

theorem Has.erase (h : scopeId ∈ contexts ∧ scopeId ∈ sharedScopes) (hne : requestId ≠ scopeId) :
    scopeId ∈ contexts.erase requestId ∧ scopeId ∈ sharedScopes.erase requestId := by
  refine ⟨ExtTreeSet.mem_erase.mpr ⟨?_, h.1⟩, ExtTreeSet.mem_erase.mpr ⟨?_, h.2⟩⟩ <;>
  · rw [ne_eq, Nat.compare_eq_eq]
    exact hne

theorem lacks_erase_of_lacks (h : scopeId ∉ contexts ∧ scopeId ∉ sharedScopes) (requestId : Nat) :
    scopeId ∉ contexts.erase requestId ∧ scopeId ∉ sharedScopes.erase requestId :=
  ⟨fun hmem => h.1 (ExtTreeSet.mem_of_mem_erase hmem),
    fun hmem => h.2 (ExtTreeSet.mem_of_mem_erase hmem)⟩

theorem register_ok {config : Config} {g' : Generation} {t : Nat} {kind : Kind}
    (h : register config g t kind requestId = .ok g') :
    g' = addScope g requestId ∧ kind = .publish ∨
      g' = addScope { g with settlements := g.settlements.insert requestId t } requestId ∧
        kind ≠ .publish := by
  cases kind with
  | publish =>
    cases h
    exact .inl ⟨rfl, rfl⟩
  | invoke | openStream => grind [register]

end Tables

section Steps

variable {config : Config} {s s' : Shared} {t u : Nat} {pc pc' pcU : Pc V} {k : Input V}

variable {requestId : Nat} {kind : Kind}

theorem Pc.holds_of_loop {armed : Bool} (h : pc.loop = some (requestId, armed)) :
    pc.holds = some requestId := by
  cases pc with
  | invoking | opening =>
    cases h
    rfl
  | _ => cases h

theorem Kind.waits_holds (kind : Kind) (requestId : Nat) :
    (kind.waits requestId : Pc V).holds = some requestId := by
  cases kind <;> rfl

theorem fresh_begin (hfresh : startsFresh s (.begin kind requestId : Pc V) k = true) :
    s.generation.settlements[requestId]? = none ∧ Lacks s.generation requestId ∧
      ∀ error, k ≠ .spawnFails error := by
  cases k with
  | spawnFails => cases hfresh
  | _ =>
    obtain ⟨hnone, hlacks⟩ := Bool.and_eq_true_iff.mp hfresh
    exact ⟨Option.isNone_iff_eq_none.mp hnone, of_decide_eq_true hlacks, nofun⟩

theorem not_reused (hfresh : startsFresh s (.begin kind requestId : Pc V) k = true) :
    requestId ∉ s.generation.settlements :=
  not_mem_of_getElem? (fresh_begin hfresh).1

theorem Moves.host_kept (h : Moves config s t pc k s' pc') (hfresh : startsFresh s pc k = true)
    (hlive : s'.generation.host = true) : s.generation.host = true := by
  cases h with
  | reuses kind requestId k result found => exact absurd found (not_reused hfresh)
  | registers kind requestId g live => exact live
  | spawnFails => cases hfresh
  | mismatches | terminate => cases hlive
  | _ => exact hlive

theorem Moves.has_kept (h : Moves config s t pc k s' pc') (hfresh : startsFresh s pc k = true)
    (hlive : s'.generation.host = true) (hne : pc.holds ≠ some requestId)
    (hhas : Has s.generation requestId) : Has s'.generation requestId := by
  cases h with
  | reuses kind requestId k result found => exact absurd found (not_reused hfresh)
  | registers kind requestId g live registered =>
    rcases register_ok registered with ⟨rfl, -⟩ | ⟨rfl, -⟩
    · exact hhas.addScope
    · exact Has.addScope (show Has { s.generation with settlements := _ } _ from hhas)
  | spawnFails => cases hfresh
  | retires k here =>
    refine Has.erase hhas fun heq => hne ?_
    rw [Pc.holds_of_loop here, heq]
  | mismatches | terminate => cases hlive
  | publishes => exact Has.erase hhas fun heq => hne (congrArg some heq)
  | retire session open_ =>
    refine Has.erase hhas fun heq => hne ?_
    rw [Pc.holds, open_, heq]
    rfl
  | _ => exact hhas

theorem Moves.sender_kept (h : Moves config s t pc k s' pc') (hfresh : startsFresh s pc k = true)
    (hlive : s'.generation.host = true) (hne : pc.holds ≠ some requestId)
    (hsender : s.generation.settlements[requestId]? = some u ∨ s.mail[u]?.isSome = true) :
    s'.generation.settlements[requestId]? = some u ∨ s'.mail[u]?.isSome = true := by
  have herase : ∀ {other armed}, pc.loop = some (other, armed) →
      (s.generation.settlements.erase other)[requestId]? = some u ∨ s.mail[u]?.isSome = true := by
    grind [getElem?_erase_nat, Pc.holds_of_loop]
  cases h with
  | reuses kind requestId k result found => exact absurd found (not_reused hfresh)
  | registers kind other g live registered =>
    rcases register_ok registered with ⟨rfl, -⟩ | ⟨rfl, -⟩
    · exact hsender
    · refine hsender.imp_left fun hentry => ?_
      show (s.generation.settlements.insert other t)[requestId]? = some u
      rw [getElem?_insert_nat, if_neg]
      · exact hentry
      · rintro rfl
        rw [(fresh_begin hfresh).1] at hentry
        cases hentry
  | spawnFails => cases hfresh
  | retires k here => exact herase here
  | mismatches | terminate => cases hlive
  | opens k here => exact herase here
  | opensTooLate k here => exact herase here
  | delivers value owner valid found => grind [getElem?_erase_nat, getElem?_insert_nat, Has.erase]
  | _ => exact hsender

theorem Held.other (hat : Held s u pcU) (hapart : Apart pc pcU)
    (h : Moves config s t pc k s' pc') (hfresh : startsFresh s pc k = true) : Held s' u pcU := by
  have hne : ∀ {requestId}, pcU.holds = some requestId → pc.holds ≠ some requestId :=
    fun hU hpc => hapart _ hpc hU
  refine ⟨fun requestId hholds hlive => ?_, fun requestId hloop hlive => ?_⟩
  · exact h.has_kept hfresh hlive (hne hholds)
      (hat.scope requestId hholds (h.host_kept hfresh hlive))
  · exact h.sender_kept hfresh hlive (hne (Pc.holds_of_loop hloop))
      (hat.sender requestId hloop (h.host_kept hfresh hlive))

theorem Held.of_none (hholds : pc.holds = none) : Held s t pc := by
  refine ⟨fun requestId h => ?_, fun requestId h => ?_⟩
  · rw [hholds] at h
    cases h
  · rw [Pc.holds_of_loop h] at hholds
    cases hholds

theorem Held.registered {g : Generation} (h : register config s.generation t kind requestId = .ok g)
    : Held { s with generation := g } t (kind.waits requestId : Pc V) := by
  refine ⟨fun r hholds _ => ?_, fun r hloop _ => ?_⟩
  · rw [Kind.waits_holds] at hholds
    cases hholds
    rcases register_ok h with ⟨rfl, -⟩ | ⟨rfl, -⟩ <;> exact has_addScope _ _
  · have hholds := Pc.holds_of_loop hloop
    rw [Kind.waits_holds] at hholds
    cases hholds
    rcases register_ok h with ⟨-, rfl⟩ | ⟨rfl, -⟩
    · cases hloop
    · refine .inl ?_
      show (s.generation.settlements.insert requestId t)[requestId]? = some t
      rw [getElem?_insert_nat, if_pos rfl]

theorem Held.move (hat : Held s t pc) (h : Moves config s t pc k s' pc')
    (hfresh : startsFresh s pc k = true) : Held s' t pc' := by
  cases h with
  | registers kind requestId g live registered => exact .registered registered
  | spawnFails => cases hfresh
  | waits k here next still =>
    refine ⟨fun r hholds hlive => ?_, fun r hloop hlive => ?_⟩
    · rw [Pc.holds_of_loop next] at hholds
      cases hholds
      exact hat.scope _ (Pc.holds_of_loop here) hlive
    · rw [next] at hloop
      cases hloop
      refine hat.sender _ ?_ hlive
      rw [here, still rfl]
  | opens k here =>
    refine ⟨fun r hholds hlive => ?_, nofun⟩
    cases hholds
    exact hat.scope _ (Pc.holds_of_loop here) hlive
  | _ => exact .of_none rfl

/-- What a thread works under after its step it worked under before, or the tables did not have it. -/
theorem Moves.holds_next (h : Moves config s t pc k s' pc') (hfresh : startsFresh s pc k = true)
    (hnext : pc'.holds = some requestId) :
    pc.holds = some requestId ∨ (s.generation.host = true ∧ Lacks s.generation requestId) := by
  cases h with
  | registers kind other g live =>
    rw [Kind.waits_holds] at hnext
    cases hnext
    exact .inr ⟨live, (fresh_begin hfresh).2.1⟩
  | spawnFails => cases hfresh
  | waits k here next =>
    rw [Pc.holds_of_loop next] at hnext
    exact .inl ((Pc.holds_of_loop here).trans hnext)
  | opens k here =>
    cases hnext
    exact .inl (Pc.holds_of_loop here)
  | _ => cases hnext

theorem Apart.move (hapart : Apart pc pcU) (hatU : Held s u pcU)
    (h : Moves config s t pc k s' pc') (hfresh : startsFresh s pc k = true) : Apart pc' pcU := by
  intro requestId hnext hU
  rcases h.holds_next hfresh hnext with hpc | ⟨hlive, hlacks⟩
  · exact hapart requestId hpc hU
  · exact hlacks.1 (hatU.scope requestId hU hlive).1

theorem Apart.symm (h : Apart pc pcU) : Apart pcU pc := fun requestId hU hpc => h requestId hpc hU

theorem Sound.move (hs : Sound config s) (h : Moves config s t pc k s' pc')
    (hfresh : startsFresh s pc k = true) : Sound config s' := by
  have hempty : ∀ {other : Nat}, s.generation.host = false → ∀ requestId : Nat,
      (s.generation.settlements.erase other)[requestId]? = none := by
    grind [getElem?_erase_nat, hs.gone]
  cases h with
  | reuses kind requestId k result found => exact absurd found (not_reused hfresh)
  | registers kind requestId g live registered =>
    refine ⟨fun hgone => ?_, hs.mail⟩
    rcases register_ok registered with ⟨rfl, -⟩ | ⟨rfl, -⟩ <;>
    · rw [show s.generation.host = false from hgone] at live
      cases live
  | spawnFails => cases hfresh
  | retires =>
    exact ⟨fun hgone => ⟨hempty hgone, fun r => lacks_erase_of_lacks ((hs.gone hgone).2 r) _⟩,
      hs.mail⟩
  | mismatches | terminate =>
    exact ⟨fun _ => ⟨fun _ => rfl, fun _ => ⟨ExtTreeSet.not_mem_empty, ExtTreeSet.not_mem_empty⟩⟩,
      hs.mail⟩
  | opens | opensTooLate => exact ⟨fun hgone => ⟨hempty hgone, (hs.gone hgone).2⟩, hs.mail⟩
  | publishes | retire =>
    exact ⟨fun hgone => ⟨(hs.gone hgone).1, fun r => lacks_erase_of_lacks ((hs.gone hgone).2 r) _⟩,
      hs.mail⟩
  | delivers value owner valid =>
    refine ⟨fun hgone => ⟨hempty hgone, (hs.gone hgone).2⟩, fun v received hreceived => ?_⟩
    change (s.mail.insert owner value)[v]? = some received at hreceived
    rcases new_or_old_of_insert hreceived with ⟨-, rfl⟩ | ⟨-, hreceived⟩
    · exact valid
    · exact hs.mail v received hreceived
  | _ => exact hs

end Steps

def outline (config : Config) : Outline Shared (Pc V) where
  Shared := Sound config
  At := Held
  Pair _ pc _ pc' := Apart pc pc'

theorem Pc.holds_of_starts {pc : Pc V} (h : pc.starts = true) : pc.holds = none := by
  cases pc with
  | begin | settled | terminate => rfl
  | _ => cases h

theorem outline_valid (config : Config) :
    (outline config).Valid (program (V := V) config) fresh where
  start s t pc _ hentry _ := .of_none (Pc.holds_of_starts hentry)
  start_pair s t pc u pcU _ hentry _ _ _ := by
    have hapart : Apart pc pcU := by
      intro requestId hpc
      rw [Pc.holds_of_starts hentry] at hpc
      cases hpc
    exact ⟨hapart, hapart.symm⟩
  move s t pc k m hs hat hfresh hm := ⟨hs.move (move_moves hm) hfresh, hat.move (move_moves hm) hfresh⟩
  child s t pc k m u pcU _ _ _ hm hchild _ := by
    rw [(moved_of_map hm).2] at hchild
    cases hchild
  other s t pc k m u pcU _ _ hatU _ hapart _ hfresh _ hm := by
    have hmoves := move_moves hm
    have hnext := hapart.move hatU hmoves hfresh
    exact ⟨hatU.other hapart hmoves hfresh, hnext, hnext.symm⟩
  child_pair s t pc k m v pcV u pcU _ _ _ _ _ _ _ _ _ hm hchild := by
    rw [(moved_of_map hm).2] at hchild
    cases hchild

theorem outline_init (config : Config) : (outline config).Holds (init : Threads Shared (Pc V)) := by
  refine ⟨⟨?_, ?_⟩, ?_, ?_⟩
  · intro hgone
    cases hgone
  · intro u value hmail
    cases hmail
  · intro t pc hpc
    cases hpc
  · intro t u pc pcU _ hpc
    cases hpc

/-! ## Settlements belong to waiting calls -/

def IsSender (s : Shared) (x : Nat × Nat) : Prop := s.generation.settlements[x.1]? = some x.2

def awaits (pc : Pc V) (x : Nat × Nat) : Prop := ∃ armed, pc.loop = some (x.1, armed)

section Senders

variable {config : Config} {s s' : Shared} {t : Nat} {pc pc' : Pc V} {k : Input V}

variable {m : Moved Shared (Pc V)}

/-- A step that adds no sender, after which the thread's own senders fit its place. -/
theorem backs_of_subset
    (hsub : ∀ (requestId u : Nat), m.shared.generation.settlements[requestId]? = some u → s.generation.settlements[requestId]? = some u)
    (hown : ∀ requestId : Nat, m.shared.generation.settlements[requestId]? = some t → ∃ armed, m.next.loop = some (requestId, armed))
    : m.Backs IsSender Prod.snd awaits s t := by
  rintro ⟨requestId, u⟩ hx
  by_cases hut : u = t
  · subst hut
    exact .inr ⟨rfl, hown requestId hx⟩
  · exact .inl ⟨hut, (requestId, u), hsub requestId u hx, rfl, fun _ h => h⟩

theorem settlement_of_erase {settlements : ExtTreeMap Nat Nat} {other requestId u : Nat}
    (h : (settlements.erase other)[requestId]? = some u) :
    settlements[requestId]? = some u ∧ other ≠ requestId := by
  obtain ⟨hne, h⟩ := old_of_erase h
  exact ⟨h, hne⟩

theorem senders_move (hs : Sound config s) (hfresh : startsFresh s pc k = true)
    (h : Moves config s t pc k m.shared m.next) (hown : ∀ x, IsSender s x → x.2 = t → awaits pc x) :
    m.Backs IsSender Prod.snd awaits s t := by
  -- the thread's own sender is that of the call it waits in
  have hmine : ∀ {requestId : Nat}, s.generation.settlements[requestId]? = some t →
      ∃ armed, pc.loop = some (requestId, armed) := fun hentry => hown (_, t) hentry rfl
  have herased : ∀ {other armed}, pc.loop = some (other, armed) → ∀ requestId : Nat,
      (s.generation.settlements.erase other)[requestId]? ≠ some t := by
    intro other armed here requestId hentry
    obtain ⟨hold, hne⟩ := settlement_of_erase hentry
    obtain ⟨armed', hloop⟩ := hmine hold
    rw [here] at hloop
    cases hloop
    exact hne rfl
  obtain ⟨shared, next, child⟩ := m
  cases h with
  | reuses kind requestId k result found => exact absurd found (not_reused hfresh)
  | registers kind requestId g live registered =>
    rcases register_ok registered with ⟨rfl, rfl⟩ | ⟨rfl, hkind⟩
    · refine backs_of_subset (fun _ _ h => h) (fun r hentry => ?_)
      obtain ⟨armed, hloop⟩ := hmine hentry
      cases hloop
    · rintro ⟨r, u⟩ hx
      change (s.generation.settlements.insert requestId t)[r]? = some u at hx
      rw [getElem?_insert_nat] at hx
      split at hx
      · next heq =>
          cases hx
          subst heq
          refine .inr ⟨rfl, true, ?_⟩
          cases kind with
          | publish => exact absurd rfl hkind
          | invoke | openStream => rfl
      · by_cases hut : u = t
        · subst hut
          obtain ⟨armed, hloop⟩ := hmine hx
          cases hloop
        · exact .inl ⟨hut, (r, u), hx, rfl, fun _ h => h⟩
  | spawnFails => cases hfresh
  | waits k here next =>
    refine backs_of_subset (fun _ _ h => h) (fun r hentry => ?_)
    obtain ⟨armed, hloop⟩ := hmine hentry
    rw [here] at hloop
    cases hloop
    exact ⟨_, next⟩
  | retires k here | opens k here | opensTooLate k here =>
    exact backs_of_subset (fun _ _ h => (settlement_of_erase h).1)
      (fun r hentry => absurd hentry (herased here r))
  | closes k here dropped =>
    refine backs_of_subset (fun _ _ h => h) (fun r hentry => ?_)
    obtain ⟨armed, hloop⟩ := hmine hentry
    rw [here] at hloop
    cases hloop
    unfold Shared.receiver at dropped
    split at dropped
    · cases dropped
    · rw [if_pos hentry] at dropped
      cases dropped
  | rejects k here value received invalid => exact absurd (hs.mail t value received) invalid
  | mismatches | terminate => exact backs_of_subset nofun nofun
  | delivers =>
    refine backs_of_subset (fun _ _ h => (settlement_of_erase h).1) (fun r hentry => ?_)
    obtain ⟨armed, hloop⟩ := hmine (settlement_of_erase hentry).1
    cases hloop
  | _ =>
    refine backs_of_subset (fun _ _ h => h) (fun r hentry => ?_)
    obtain ⟨armed, hloop⟩ := hmine hentry
    cases hloop

end Senders

/-! ## What is left -/

section Ends

variable {config : Config} {s s' : Shared} {t : Nat} {pc pc' : Pc V} {k : Input V}

theorem Moves.lacks (h : Moves config s t pc k s' pc') (hs : Sound config s) (hat : Held s t pc)
    (hfresh : startsFresh s pc k = true) {requestId : Nat} {result : Result V}
    (hreturned : pc' = .returned requestId result) : Lacks s'.generation requestId := by
  cases h with
  | ends =>
    cases hreturned
    exact (fresh_begin hfresh).2.1
  | reuses kind other k result found => exact absurd found (not_reused hfresh)
  | registers kind => cases kind <;> cases hreturned
  | spawnFails => cases hfresh
  | waits k here next =>
    subst hreturned
    cases next
  | retires | publishes =>
    cases hreturned
    exact lacks_erase _ _ _
  | closes k here dropped =>
    cases hreturned
    cases hlive : s.generation.host with
    | false => exact (hs.gone hlive).2 _
    | true =>
      -- the sender was dropped, which only `terminate` does to a waiting call
      unfold Shared.receiver at dropped
      rcases hat.sender _ here hlive with hentry | hmail
      · grind
      · grind
  | rejects k here value received invalid => exact absurd (hs.mail t value received) invalid
  | mismatches =>
    cases hreturned
    exact ⟨ExtTreeSet.not_mem_empty, ExtTreeSet.not_mem_empty⟩
  | opens => cases hreturned
  | opensTooLate k here gone =>
    cases hreturned
    exact (hs.gone gone).2 _
  | _ => cases hreturned

/-- The scope of a session is gone when the session is retired. -/
theorem Moves.lacks_retired (h : Moves config s t pc k s' pc') (hfresh : startsFresh s pc k = true)
    {session : StreamSession} (hsession : pc' = .session session)
    (hretired : session.retired = true) : Lacks s'.generation session.scopeId := by
  cases h with
  | registers kind => cases kind <;> cases hsession
  | spawnFails => cases hfresh
  | waits k here next =>
    subst hsession
    cases next
  | opens =>
    cases hsession
    cases hretired
  | retire =>
    cases hsession
    exact lacks_erase _ _ _
  | _ => cases hsession

end Ends

theorem sender_of_run (config : Config) {acts : List (Act (Pc V) (Input V))}
    {c : Threads Shared (Pc V)} (hmeets : Meets (program config).step fresh.Allows init acts)
    (hrun : run (program config).step init acts = some c) {t : Nat} (pc : Pc V)
    (hpc : c.pool[t]? = some pc) (hloop : pc.loop = none) (id : Nat) :
    c.shared.generation.settlements[id]? ≠ some t := by
  have hinit : Backed IsSender Prod.snd awaits (init : Threads Shared (Pc V)) := by
    intro x hx
    cases hx
  have hbacked := (Backed.run_outline (outline_valid config)
    (fun s t pc k m hs _ hfresh hm hown => senders_move hs hfresh (move_moves hm) hown)
    hinit (outline_init config) hmeets hrun).2
  intro hentry
  obtain ⟨armed, hawaits⟩ := hbacked.own hpc (x := (id, t)) hentry rfl
  rw [hloop] at hawaits
  cases hawaits

/-- **Calls leave nothing behind.** In every run of a generation in which RPC threads can be started
and a call comes with a request id that no table has: after the step with which a call returns, no
sender of it is in `settlements` and its scope is in neither table; when it returns a session, no
sender of it is in `settlements`, and after the step that retires the session its scope is in neither
table. -/
theorem calls_leave_no_entries (config : Config) {acts : List (Act (Pc V) (Input V))} {t n : Nat}
    {k : Input V} {c : Threads Shared (Pc V)}
    (hmeets : Meets (program config).step fresh.Allows init (acts ++ [.move t k n]))
    (hrun : run (program config).step init (acts ++ [.move t k n]) = some c) :
    (∀ requestId result, c.pool[t]? = some (.returned requestId result) →
      (∀ id : Nat, c.shared.generation.settlements[id]? ≠ some t) ∧
        requestId ∉ c.shared.generation.contexts ∧ requestId ∉ c.shared.generation.sharedScopes) ∧
    ∀ session, c.pool[t]? = some (.session session) →
      (∀ id : Nat, c.shared.generation.settlements[id]? ≠ some t) ∧
        (session.retired = true → session.scopeId ∉ c.shared.generation.contexts ∧
          session.scopeId ∉ c.shared.generation.sharedScopes) := by
  have hsender := sender_of_run config hmeets hrun (t := t)
  obtain ⟨c₀, pc, m, hholds, hpc, hfresh, hm, hsh, hnext⟩ :=
    Outline.run_last_move (outline_valid config) (outline_init config) hmeets hrun
  have hmoves := move_moves hm
  rw [hnext] at hsender ⊢
  rw [hsh] at hsender ⊢
  refine ⟨fun requestId result hreturned => ?_, fun session hsession => ?_⟩
  · refine ⟨hsender _ hreturned rfl, ?_⟩
    exact hmoves.lacks hholds.shared (hholds.at_ t pc hpc) hfresh (Option.some.inj hreturned)
  · refine ⟨hsender _ hsession rfl, fun hretired => ?_⟩
    exact hmoves.lacks_retired hfresh (Option.some.inj hsession) hretired

def sampleConfig : Config :=
  ⟨4, fun value => if value.session = "session" then none else some "session"⟩

/-- Thread `t` calls under a request id, and thread `u` brings its settlement. -/
def callsAndSettles (t u : Nat) (kind : Kind) (requestId : Nat) : List (Act (Pc Nat) (Input Nat)) :=
  [.start t (.begin kind requestId), .move t .go 0,
    .start u (.settled ⟨"session", requestId, requestId, .completed⟩), .move u .go 0,
    .move t .settlement 0]

theorem calls_leave_no_entries_sample :
    (∃ c, run (program sampleConfig).step init (callsAndSettles 1 2 (.invoke "get") 7 ++
        [.move 1 (.answered (some (.ok (.success 5)))) 0]) = some c ∧
      c.pool[1]? = some (.returned 7 (.invoked (.ok (.success 5)))) ∧
      7 ∉ c.shared.generation.contexts) ∧
    ∃ c, run (program sampleConfig).step init ((callsAndSettles 1 2 .openStream 7 ++
        [.move 1 (.opened (some (.ok (.opened "1")))) 0]) ++ [.move 1 .retire 0]) = some c ∧
      c.pool[1]? = some (.session ⟨"1", 7, true, 0⟩) ∧ 7 ∉ c.shared.generation.contexts := by
  constructor
  · have hmeets : Meets (program sampleConfig).step fresh.Allows init
        (callsAndSettles 1 2 (.invoke "get") 7 ++
          [.move 1 (.answered (some (.ok (.success 5)))) 0]) := by
      decide +kernel
    have hc : ∃ c, run (program sampleConfig).step init (callsAndSettles 1 2 (.invoke "get") 7 ++
        [.move 1 (.answered (some (.ok (.success 5)))) 0]) = some c ∧
        c.pool[1]? = some (.returned 7 (.invoked (.ok (.success 5)))) := ⟨_, rfl, rfl⟩
    obtain ⟨c, hrun, hpc⟩ := hc
    exact ⟨c, hrun, hpc, ((calls_leave_no_entries sampleConfig hmeets hrun).1 7 _ hpc).2.1⟩
  · have hmeets : Meets (program sampleConfig).step fresh.Allows init
        ((callsAndSettles 1 2 .openStream 7 ++
          [.move 1 (.opened (some (.ok (.opened "1")))) 0]) ++ [.move 1 .retire 0]) := by
      decide +kernel
    have hc : ∃ c, run (program sampleConfig).step init ((callsAndSettles 1 2 .openStream 7 ++
        [.move 1 (.opened (some (.ok (.opened "1")))) 0]) ++ [.move 1 .retire 0]) = some c ∧
        c.pool[1]? = some (.session ⟨"1", 7, true, 0⟩) := ⟨_, rfl, rfl⟩
    obtain ⟨c, hrun, hpc⟩ := hc
    exact ⟨c, hrun, hpc, (((calls_leave_no_entries sampleConfig hmeets hrun).2 _ hpc).2 rfl).1⟩

/-- The RPC thread cannot be started: the call has returned, and its entries stay. -/
theorem failed_spawn_leaves_entries :
    (∃ c, run (program (V := Nat) sampleConfig).step init
        [.start 1 (.begin (.invoke "get") 7), .move 1 (.spawnFails "limit") 0] = some c ∧
      (∃ failure, c.pool[1]? = some (.returned 7 (.invoked (.error failure)))) ∧
      c.shared.generation.settlements[7]? = some 1 ∧ Has c.shared.generation 7) ∧
    (∃ c, run (program (V := Nat) sampleConfig).step init
        [.start 1 (.begin .publish 7), .move 1 (.spawnFails "limit") 0] = some c ∧
      (∃ failure, c.pool[1]? = some (.returned 7 (.published (.error failure)))) ∧
      Has c.shared.generation 7) ∧
    ∃ c, run (program (V := Nat) sampleConfig).step init
        [.start 1 (.begin .openStream 7), .move 1 (.spawnFails "limit") 0] = some c ∧
      (∃ failure, c.pool[1]? = some (.returned 7 (.opened (.error failure)))) ∧
      c.shared.generation.settlements[7]? = some 1 ∧ Has c.shared.generation 7 :=
  ⟨⟨_, rfl, ⟨_, rfl⟩, rfl, has_addScope _ 7⟩, ⟨_, rfl, ⟨_, rfl⟩, has_addScope _ 7⟩,
    ⟨_, rfl, ⟨_, rfl⟩, rfl, has_addScope _ 7⟩⟩

/-! ## Attempts that are refused

An attempt is refused when the settlement table is full and when it has the correlation id already.
The second check is the insertion itself, which replaces the sender of the call that runs. -/

/-- The calls that run find in `s'` what they had: the settlement sender and what was sent, and
their entries in the other two tables. -/
def Undisturbed (x : Threads Shared (Pc V)) (s' : Shared) : Prop :=
  ∀ (u requestId : Nat) (pc : Pc V) (armed : Bool),
    x.pool[u]? = some pc → pc.loop = some (requestId, armed) →
      s'.generation.settlements[requestId]? = x.shared.generation.settlements[requestId]? ∧
        s'.receiver u requestId = x.shared.receiver u requestId ∧
        (requestId ∈ s'.generation.contexts ↔ requestId ∈ x.shared.generation.contexts) ∧
        (requestId ∈ s'.generation.sharedScopes ↔ requestId ∈ x.shared.generation.sharedScopes)

/-- **An attempt under the correlation id of a running call, or with the table full, is refused and
leaves the running calls alone exactly when the table is full** or the host is gone. -/
theorem attempt_undisturbed_iff (config : Config) (x : Threads Shared (Pc V)) {t requestId : Nat}
    {kind : Kind} (spawnError : Option String) (hkind : kind ≠ .publish)
    (hown : ∀ id : Nat, x.shared.generation.settlements[id]? ≠ some t)
    (hattempt : (∃ (u : Nat) (pc : Pc V) (armed : Bool),
        x.pool[u]? = some pc ∧ pc.loop = some (requestId, armed)) ∨
      config.capacity ≤ x.shared.generation.settlements.size) :
    ((∃ failure, (begin (V := V) config x.shared t kind requestId spawnError).2 =
          .returned requestId (kind.fails failure)) ∧
        Undisturbed x (begin (V := V) config x.shared t kind requestId spawnError).1) ↔
      x.shared.generation.host = false ∨
        config.capacity ≤ x.shared.generation.settlements.size := by
  have same : Undisturbed x x.shared := fun _ _ _ _ _ _ => ⟨rfl, rfl, .rfl, .rfl⟩
  cases hhost : x.shared.generation.host with
  | false => simp [begin, hhost, same]
  | true =>
    by_cases full : config.capacity ≤ x.shared.generation.settlements.size
    · cases kind with
      | publish => exact absurd rfl hkind
      | _ => simp [begin, hhost, register, full, same]
    · obtain ⟨u, pc, armed, hpc, hloop⟩ := hattempt.resolve_right full
      simp only [full, or_self, iff_false, reduceCtorEq, not_and]
      -- whether the id is in the table or not, the entry is now the attempt's own
      have taken : (begin (V := V) config x.shared t kind requestId
          spawnError).1.generation.settlements[requestId]? = some t := by
        cases kind with
        | publish => exact absurd rfl hkind
        | _ =>
          by_cases hmem : requestId ∈ x.shared.generation.settlements
          · simp [begin, hhost, register, full, hmem]
          · simp [begin, hhost, register, full, hmem, addScope]
      intro _ undisturbed
      exact hown requestId ((undisturbed u requestId pc armed hpc hloop).1 ▸ taken)

theorem attempt_undisturbed_iff_sample :
    ∃ c, run (program ⟨1, fun _ => none⟩).step (init (V := Nat))
        [.start 1 (.begin (.invoke "get") 7), .move 1 .go 0] = some c ∧
      Undisturbed c (begin (V := Nat) ⟨1, fun _ => none⟩ c.shared 2 .openStream 7 none).1 := by
  refine ⟨_, rfl, ((attempt_undisturbed_iff ⟨1, fun _ => none⟩ _ none (by decide) ?_
    (.inl ⟨1, _, _, rfl, rfl⟩)).mpr (.inr (by decide +kernel))).2⟩
  intro id
  change ((∅ : ExtTreeMap Nat Nat).insert 7 1)[id]? ≠ some 2
  grind

/-- Thread 2 is refused, and thread 1, which had its call running, hears that there will be no
settlement and fails. -/
theorem attempt_ends_running_call :
    ∃ c, run (program sampleConfig).step (init (V := Nat))
        [.start 1 (.begin (.invoke "get") 7), .move 1 .go 0, .start 2 (.begin (.invoke "get") 7),
          .move 2 .go 0, .move 1 .settlement 0] = some c ∧
      c.pool[2]? = some (.returned 7 (.invoked
        (.error (protocol "Bun invocation reused a correlation id")))) ∧
      c.pool[1]? = some (.returned 7 (.invoked (.error unavailable))) :=
  ⟨_, rfl, rfl, rfl⟩

end LensoBun.AuthoringV2.HostTables
