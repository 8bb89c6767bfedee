import LensoBun.AuthoringV2.ChildTallies
import LensoBun.PluginV1.Dependencies

set_option autoImplicit false

/-! # The session of the child

`#initializeSession` of `v2.ts`, with the program of the child behind it: until a session is stored
every message of the host is refused. The check of the host's proof and the child's own proof are
awaited, so a request is in one of three places: before the check, waiting for it, and waiting for
the child's proof with its params stored.

That a session is not initialised twice is tested before the first await and the params are stored
after it. Two requests that overlap both pass the test, both are answered, and the second replaces
what the first has stored. When no request comes while another one's proof is being checked, the life
of the session goes in order.

`lifecycle` is not part of the source: it records the params stored, the factory and the stop hook
started and the instance made, in order. A first segment of `#construct` that throws counts as a start
of the factory, whether it was the factory that threw or what is done before it.
-/

namespace LensoBun.AuthoringV2.Session

open Std Lib PluginV1

variable {V : Type}

/-! ## Params and definition -/

structure Descriptor where
  capabilityId : String
  descriptorVersion : String
  descriptorDigest : Option String
  deriving DecidableEq, Repr

structure Declaration where
  name : String
  id : Option String
  cardinality : Cardinality
  contract : Descriptor
  deriving DecidableEq, Repr

def Declaration.requirementId (declaration : Declaration) : String :=
  declaration.id.getD declaration.name

structure Provider where
  descriptor : Descriptor
  handlers : Child.Binding
  deriving DecidableEq, Repr

structure Requirement where
  requirementId : String
  cardinality : Cardinality
  capabilityId : String
  descriptorVersion : String
  descriptorDigest : String
  deriving DecidableEq, Repr

structure Endpoint where
  endpointId : Nat
  capabilityId : String
  descriptorVersion : String
  descriptorDigest : String
  deriving DecidableEq, Repr

structure InitializeParams where
  apiVersion : String
  session : String
  requiredDeclarations : List Requirement
  providedEndpoints : List Endpoint
  limits : Child.Limits
  deriving DecidableEq, Repr

structure InitializeRequest where
  params : InitializeParams
  callbackOrigin : String
  hostNonce : String
  hostProof : String
  deriving DecidableEq, Repr

/-- The plugin definition, the bootstrap and the runtime profile. `verifyProof` and the checks of the
profile come from other packages; they give the error they throw. -/
structure Definition where
  apiVersion : String
  callbackOrigin : String
  dependencies : List Declaration
  providers : List Provider
  verifyProof : InitializeRequest → Option String
  validateForRuntimeProfile : InitializeParams → Option String

/-! ## `#validateDefinition` -/

/-- The UTF-16 code units of a character, by which `sort` compares. -/
def codeUnits (c : Char) : List Nat :=
  if c.toNat < 0x10000 then [c.toNat]
  else [0xD800 + (c.toNat - 0x10000) / 0x400, 0xDC00 + (c.toNat - 0x10000) % 0x400]

def sortNames (names : List String) : List String :=
  names.insertionSort fun a b => a.toList.flatMap codeUnits ≤ b.toList.flatMap codeUnits

/-- A digest is compared where one is declared. -/
def Descriptor.fits (descriptor : Descriptor) (capabilityId version digest : String) : Bool :=
  descriptor.capabilityId = capabilityId && descriptor.descriptorVersion = version &&
    descriptor.descriptorDigest.all (· = digest)

def Declaration.fits (declaration : Declaration) (params : InitializeParams) : Bool :=
  match params.requiredDeclarations.find? (·.requirementId = declaration.requirementId) with
  | none => false
  | some admitted =>
    declaration.cardinality = admitted.cardinality &&
      declaration.contract.fits admitted.capabilityId admitted.descriptorVersion
        admitted.descriptorDigest

def Definition.provider (d : Definition) (endpoint : Endpoint) : Option Provider :=
  d.providers.find? (·.descriptor.capabilityId = endpoint.capabilityId)

def Definition.provides (d : Definition) (endpoint : Endpoint) : Bool :=
  match d.provider endpoint with
  | none => false
  | some provider =>
    provider.descriptor.fits endpoint.capabilityId endpoint.descriptorVersion
      endpoint.descriptorDigest

/-- `#validateDefinition`: the error it throws. -/
def Definition.validateDefinition (d : Definition) (params : InitializeParams) : Option String :=
  (d.validateForRuntimeProfile params).or <|
  if params.apiVersion ≠ d.apiVersion then some "unsupported Authoring API"
  else if sortNames (d.dependencies.map (·.requirementId)) ≠
      params.requiredDeclarations.map (·.requirementId) then
    some "admitted named requirements do not match the Plugin declaration"
  else
    match d.dependencies.find? (fun declaration => !declaration.fits params) with
    | some declaration =>
      some ("admitted requirement " ++ declaration.name ++ " does not match its declaration")
    | none =>
      if d.providers.length ≠ params.providedEndpoints.length then
        some "admitted endpoints do not match the Plugin declaration"
      else
        (params.providedEndpoints.find? (fun endpoint => !d.provides endpoint)).map fun endpoint =>
          "admitted endpoint " ++ toString endpoint.endpointId ++
            " does not match its declaration"

/-- `bindProviders`, of which only the handlers that are there matter. -/
def Definition.bindProviders (d : Definition) (params : InitializeParams) :
    ExtTreeMap Nat Child.Binding :=
  params.providedEndpoints.foldl (fun bindings endpoint =>
    match d.provider endpoint with
    | none => bindings
    | some provider => bindings.insert endpoint.endpointId provider.handlers) ∅

/-! ## State -/

inductive Lifecycle where
  | stored (thread : Nat) (params : InitializeParams)
  | createStarted (thread : Nat)
  | constructed (thread : Nat)
  | stopStarted (thread : Nat)
  deriving DecidableEq, Repr

structure State where
  initialized : Option InitializeParams
  child : Child.Shared
  lifecycle : List Lifecycle

inductive Pc (V : Type) where
  | initializeSession (request : InitializeRequest)
  | verifying (request : InitializeRequest)
  | proving (request : InitializeRequest)
  | answered (params : InitializeParams)
  | refused (error : String)
  | child (pc : Child.Pc V)
  deriving DecidableEq, Repr

inductive Input (V : Type) where
  | go
  /-- The payload cannot be built, or the child's proof cannot be made. -/
  | fails (error : String)
  | child (k : Child.Input V)

/-! ## The program -/

/-- The first segment of `#initializeSession`. -/
def initializeSession (d : Definition) (s : State) (request : InitializeRequest) :
    Input V → Option (State × Pc V)
  | k =>
    if s.initialized.isSome then
      some (s, .refused "Bun Authoring V2 initialized more than once")
    else if request.callbackOrigin ≠ d.callbackOrigin then
      some (s, .refused "callback origin does not match the private bootstrap")
    else
      match k with
      | .fails error => some (s, .refused error)
      | .go => some (s, .verifying request)
      | .child _ => none

/-- The params are stored. The providers are bound from the params that were there when `#construct`
began, so these stay once it has. -/
def State.store (d : Definition) (s : State) (t : Nat) (params : InitializeParams) : State where
  initialized := some params
  child := { s.child with
    limits := params.limits
    declared := if s.child.constructionAttempted then s.child.declared else d.bindProviders params }
  lifecycle := s.lifecycle ++ [.stored t params]

def verified (d : Definition) (s : State) (t : Nat) (request : InitializeRequest) : State × Pc V :=
  match (d.verifyProof request).or (d.validateDefinition request.params) with
  | some error => (s, .refused error)
  | none => (s.store d t request.params, .proving request)

def proved (s : State) (request : InitializeRequest) : Input V → Option (State × Pc V)
  | .go => some (s, .answered request.params)
  | .fails error => some (s, .refused error)
  | .child _ => none

/-- A message of the host, which `#requireInitialize` refuses before there is a session. What the
plugin does with its clients needs a context, and so a session. -/
def message : Child.Pc V → Option Child.Method
  | .construct _ => some .construct
  | .begin work _ => some (.work work)
  | .publishEvent _ => some (.publishEvent false)
  | .sendStream _ _ => some .sendStream
  | .receiveStream _ => some .receiveStream
  | .closeStreamSend _ => some .closeStreamSend
  | .cancelStream _ => some .cancelStream
  | .cancel _ _ => some .cancel
  | .stop _ => some .stop
  | _ => none

def notInitialized : String := "Bun Plugin is not initialized"

/-- What a step of the child adds to the record. -/
def note (t : Nat) (s s' : Child.Shared) (pc pc' : Child.Pc V) : Option Lifecycle :=
  match pc, pc' with
  | .construct _, .finished .construct (.answered .constructed) => some (.constructed t)
  | .construct _, _ =>
    if s'.constructionAttempted = s.constructionAttempted then none else some (.createStarted t)
  | .creating, .finished .construct (.answered .constructed) => some (.constructed t)
  | .stop _, pc' => if pc'.place = .hooked then some (.stopStarted t) else none
  | _, _ => none

def State.childMoves (s : State) (t : Nat) (pc pc' : Child.Pc V) (child : Child.Shared) : State :=
  { s with child := child, lifecycle := s.lifecycle ++ (note t s.child child pc pc').toList }

def childMove (s : State) (t : Nat) (pc : Child.Pc V) : Input V → Option (State × Pc V)
  | .child k =>
    match message pc, s.initialized with
    | some method, none => some (s, .child (.finished method (.threw notInitialized)))
    | _, _ => (Child.pcMove s.child t pc k).map fun p =>
      (s.childMoves t pc p.2 p.1, .child p.2)
  | _ => none

def pcMove (d : Definition) (s : State) (t : Nat) : Pc V → Input V → Option (State × Pc V)
  | .initializeSession request, k => initializeSession d s request k
  | .verifying request, _ => some (verified d s t request)
  | .proving request, k => proved s request k
  | .child pc, k => childMove s t pc k
  | .answered _, _ | .refused _, _ => none

def Pc.starts : Pc V → Bool
  | .initializeSession _ => true
  | .child pc => pc.starts
  | _ => false

def program (d : Definition) : Program State (Pc V) (Input V) :=
  ⟨Pc.starts, fun s t pc k => (pcMove d s t pc k).map fun p => ⟨p.1, p.2, none⟩⟩

def init : Threads State (Pc V) where
  shared :=
    { initialized := none
      child := (Child.init (V := V) ⟨0, 0, 0, 0, 0⟩ ∅).shared
      lifecycle := [] }
  pool := ∅

/-! ## What a step can be -/

inductive Moves (d : Definition) (s : State) (t : Nat) : Pc V → State → Pc V → Prop
  | refuse {pc : Pc V} (error : String) : Moves d s t pc s (.refused error)
  | ask (request : InitializeRequest) (first : s.initialized = none) :
      Moves d s t (.initializeSession request) s (.verifying request)
  | store (request : InitializeRequest) :
      Moves d s t (.verifying request) (s.store d t request.params) (.proving request)
  | answer (request : InitializeRequest) :
      Moves d s t (.proving request) s (.answered request.params)
  | unready (pc pc' : Child.Pc V) : Moves d s t (.child pc) s (.child pc')
  | child (pc pc' : Child.Pc V) (k : Child.Input V) (child : Child.Shared)
      (ready : message pc = none ∨ s.initialized.isSome = true)
      (tallies : Child.Tallies s.child t pc k child pc') :
      Moves d s t (.child pc) (s.childMoves t pc pc' child) (.child pc')

section

variable {d : Definition} {s s' : State} {t : Nat} {pc pc' : Pc V} {k : Input V}

variable {request : InitializeRequest}

theorem initializeSession_moves (h : initializeSession d s request k = some (s', pc')) :
    Moves d s t (.initializeSession request) s' pc' := by
  unfold initializeSession at h
  split at h
  · cases h
    exact .refuse _
  · next hfirst =>
      split at h
      · cases h
        exact .refuse _
      · cases k with
        | go =>
          cases h
          exact .ask request (Option.not_isSome_iff_eq_none.mp hfirst)
        | fails error =>
          cases h
          exact .refuse error
        | child => cases h

theorem verified_moves (h : verified d s t request = (s', pc')) :
    Moves d s t (.verifying request) s' pc' := by
  unfold verified at h
  split at h
  · cases h
    exact .refuse _
  · cases h
    exact .store request

theorem proved_moves (h : proved s request k = some (s', pc')) :
    Moves d s t (.proving request) s' pc' := by
  unfold proved at h
  repeat' split at h
  all_goals grind [Moves]

theorem childMove_moves {pc : Child.Pc V} (h : childMove s t pc k = some (s', pc')) :
    Moves d s t (.child pc) s' pc' := by
  cases k with
  | child k =>
    simp only [childMove] at h
    split at h
    · cases h
      exact .unready pc _
    · next hready =>
        obtain ⟨⟨child, next⟩, hmove, heq⟩ := Option.map_eq_some_iff.mp h
        cases heq
        refine .child pc next k child ?_ (Child.pcMove_tallies hmove)
        -- the first case of the match was for a message without a session
        cases hmessage : message pc with
        | none => exact .inl rfl
        | some method =>
          cases hsession : s.initialized with
          | none => exact absurd hsession (hready method hmessage)
          | some => exact .inr rfl
  | go | fails => cases h

theorem pcMove_moves (h : pcMove d s t pc k = some (s', pc')) : Moves d s t pc s' pc' := by
  cases pc with
  | initializeSession => exact initializeSession_moves h
  | verifying => exact verified_moves (Option.some.inj h)
  | proving => exact proved_moves h
  | child => exact childMove_moves h
  | answered | refused => cases h

theorem move_moves {m : Moved State (Pc V)} (h : (program d).move s t pc k = some m) :
    Moves d s t pc m.shared m.next := pcMove_moves (moved_of_map h).1

end

/-! ## The record -/

def Lifecycle.isStored : Lifecycle → Bool
  | .stored _ _ => true
  | _ => false

def Lifecycle.isCreateStarted : Lifecycle → Bool
  | .createStarted _ => true
  | _ => false

def Lifecycle.isConstructed : Lifecycle → Bool
  | .constructed _ => true
  | _ => false

def Lifecycle.isStopStarted : Lifecycle → Bool
  | .stopStarted _ => true
  | _ => false

section

variable {s s' : Child.Shared} {t u : Nat} {pc pc' : Child.Pc V} {k : Child.Input V}

theorem attempted_of_tallies (h : Child.Tallies s t pc k s' pc') :
    s'.constructionAttempted = s.constructionAttempted ∨
      (s.constructionAttempted = false ∧ s'.constructionAttempted = true) := by
  cases h with
  | attempt scopeId k first same | constructNow scopeId k first same =>
    exact .inr ⟨first, congrArg Child.Tally.constructionAttempted same⟩
  | _ =>
    have hsame := ‹s'.tally = _›
    exact .inl (congrArg Child.Tally.constructionAttempted hsame)

theorem stopAttempted_of_tallies (h : Child.Tallies s t pc k s' pc') :
    s'.stopAttempted = s.stopAttempted ∨
      (s.stopAttempted = false ∧ s'.stopAttempted = true) := by
  cases h with
  | stopFails scopeId k first same | stopHook scopeId k first constructed settled same =>
    exact .inr ⟨first, congrArg Child.Tally.stopAttempted same⟩
  | _ =>
    have hsame := ‹s'.tally = _›
    exact .inl (congrArg Child.Tally.stopAttempted hsame)

theorem constructed_of_tallies (h : Child.Tallies s t pc k s' pc') :
    s'.constructed = s.constructed ∨ note t s s' pc pc' = some (.constructed t) := by
  cases h with
  | constructNow | create => exact .inr rfl
  | _ =>
    have hsame := ‹s'.tally = _›
    exact .inl (congrArg Child.Tally.constructed hsame)

/-- The factory is started by a first `construct`. -/
theorem createStarted_of_note (h : note t s s' pc pc' = some (.createStarted u)) :
    (∃ scopeId, pc = .construct scopeId) ∧ s'.constructionAttempted ≠ s.constructionAttempted := by
  unfold note at h
  split at h
  · cases h
  · grind
  · cases h
  · split at h <;> cases h
  · cases h

theorem stopStarted_of_note (h : note t s s' pc pc' = some (.stopStarted u)) :
    (∃ scopeId, pc = .stop scopeId) ∧ pc'.place = .hooked := by
  unfold note at h
  split at h
  · cases h
  · split at h <;> cases h
  · cases h
  · grind
  · cases h

/-- The hook is called by the first `stop`, and there is an instance then. -/
theorem stop_of_tallies {scopeId : Nat} (h : Child.Tallies s t (.stop scopeId) k s' pc')
    (hplace : pc'.place = .hooked) :
    s.stopAttempted = false ∧ s'.stopAttempted = true ∧ s.constructed = true := by
  cases h with
  | stopHook scopeId k first constructed settled same =>
    exact ⟨first, congrArg Child.Tally.stopAttempted same, constructed⟩
  | rest k same sizes here next | stopFails scopeId k first same sizes next =>
    rw [next] at hplace
    cases hplace

end

/-- The factory and the stop hook are started once and after what they need. -/
structure Ordered (s : State) : Prop where
  stored : s.initialized.isSome = true → s.lifecycle.any Lifecycle.isStored = true
  created : s.lifecycle.countP Lifecycle.isCreateStarted ≤ s.child.constructionAttempted.toNat
  createdAfter : Preceded Lifecycle.isCreateStarted Lifecycle.isStored s.lifecycle
  constructed : s.child.constructed = true → s.lifecycle.any Lifecycle.isConstructed = true
  stopped : s.lifecycle.countP Lifecycle.isStopStarted ≤ s.child.stopAttempted.toNat
  stoppedAfter : Preceded Lifecycle.isStopStarted Lifecycle.isConstructed s.lifecycle

section

variable {d : Definition} {s s' : State} {t : Nat} {pc pc' : Pc V}

theorem any_append_of_any {p : Lifecycle → Bool} {l l' : List Lifecycle} (h : l.any p = true) :
    (l ++ l').any p = true := by
  rw [List.any_append, h]
  rfl

theorem Ordered.store (hs : Ordered s) (params : InitializeParams) :
    Ordered (s.store d t params) where
  stored _ := by
    show (s.lifecycle ++ [_]).any _ = true
    simp [Lifecycle.isStored]
  created := by
    show (s.lifecycle ++ [_]).countP _ ≤ _
    rw [List.countP_append]
    exact hs.created
  createdAfter := hs.createdAfter.append fun h => by cases h
  constructed h := any_append_of_any (hs.constructed h)
  stopped := by
    show (s.lifecycle ++ [_]).countP _ ≤ _
    rw [List.countP_append]
    exact hs.stopped
  stoppedAfter := hs.stoppedAfter.append fun h => by cases h

variable {child : Child.Shared} {k : Child.Input V}

theorem Ordered.unnoted (hs : Ordered s) {pc pc' : Child.Pc V}
    (h : Child.Tallies s.child t pc k child pc') (hnote : note t s.child child pc pc' = none) :
    Ordered { s with child := child } where
  stored := hs.stored
  created := by
    refine hs.created.trans ?_
    rcases attempted_of_tallies h with hsame | ⟨hfirst, -⟩
    · exact Nat.le_of_eq (congrArg Bool.toNat hsame.symm)
    · rw [hfirst]
      exact Nat.zero_le _
  createdAfter := hs.createdAfter
  constructed hconstructed := by
    rcases constructed_of_tallies h with hsame | hnoted
    · exact hs.constructed (hsame.symm.trans hconstructed)
    · rw [hnote] at hnoted
      cases hnoted
  stopped := by
    refine hs.stopped.trans ?_
    rcases stopAttempted_of_tallies h with hsame | ⟨hfirst, -⟩
    · exact Nat.le_of_eq (congrArg Bool.toNat hsame.symm)
    · rw [hfirst]
      exact Nat.zero_le _
  stoppedAfter := hs.stoppedAfter

/-- A step that adds an entry: the flags of the child say that there was none of its kind. -/
theorem Ordered.noted (hs : Ordered s) {pc pc' : Child.Pc V} {e : Lifecycle}
    (hready : message pc = none ∨ s.initialized.isSome = true)
    (h : Child.Tallies s.child t pc k child pc') (hnote : note t s.child child pc pc' = some e) :
    Ordered { s with child := child, lifecycle := s.lifecycle ++ [e] } where
  stored hsession := any_append_of_any (hs.stored hsession)
  created := by
    show (s.lifecycle ++ [e]).countP _ ≤ child.constructionAttempted.toNat
    have hcount := hs.created
    rw [List.countP_append, List.countP_singleton]
    rcases attempted_of_tallies h with hsame | ⟨hfirst, hattempted⟩
    · rw [hsame]
      cases e with
      | createStarted => exact absurd hsame (createStarted_of_note hnote).2
      | _ => exact hcount
    · grind
  createdAfter := by
    refine hs.createdAfter.append fun he => ?_
    cases e with
    | createStarted =>
      obtain ⟨⟨scopeId, rfl⟩, -⟩ := createStarted_of_note hnote
      rcases hready with hmessage | hsession
      · cases hmessage
      · exact hs.stored hsession
    | _ => cases he
  constructed hconstructed := by
    rcases constructed_of_tallies h with hsame | hnoted
    · exact any_append_of_any (hs.constructed (hsame.symm.trans hconstructed))
    · grind [Lifecycle.isConstructed]
  stopped := by
    show (s.lifecycle ++ [e]).countP _ ≤ child.stopAttempted.toNat
    have hcount := hs.stopped
    rw [List.countP_append, List.countP_singleton]
    rcases stopAttempted_of_tallies h with hsame | ⟨hfirst, hattempted⟩
    · rw [hsame]
      cases e with
      | stopStarted =>
        obtain ⟨⟨scopeId, rfl⟩, hplace⟩ := stopStarted_of_note hnote
        obtain ⟨hfirst, hattempted, -⟩ := stop_of_tallies h hplace
        rw [hfirst, hattempted] at hsame
        cases hsame
      | _ => exact hcount
    · grind
  stoppedAfter := by
    refine hs.stoppedAfter.append fun he => ?_
    cases e with
    | stopStarted =>
      obtain ⟨⟨scopeId, rfl⟩, hplace⟩ := stopStarted_of_note hnote
      exact hs.constructed (stop_of_tallies h hplace).2.2
    | _ => cases he

theorem Ordered.childMoves (hs : Ordered s) {pc pc' : Child.Pc V}
    (hready : message pc = none ∨ s.initialized.isSome = true)
    (h : Child.Tallies s.child t pc k child pc') : Ordered (s.childMoves t pc pc' child) := by
  unfold State.childMoves
  cases hnote : note t s.child child pc pc' with
  | none => grind [Ordered.unnoted]
  | some => exact hs.noted hready h hnote

theorem Ordered.move (hs : Ordered s) (h : Moves d s t pc s' pc') : Ordered s' := by
  cases h with
  | store request => exact hs.store request.params
  | child pc pc' k child ready tallies => exact hs.childMoves ready tallies
  | refuse | ask | answer | unready => exact hs

theorem Ordered.init : Ordered (init (V := V)).shared where
  stored h := by cases h
  created := Nat.zero_le _
  createdAfter := Preceded.nil _ _
  constructed h := by cases h
  stopped := Nat.zero_le _
  stoppedAfter := Preceded.nil _ _

end

/-! ## One session -/

def Pc.asks : Pc V → Bool
  | .initializeSession _ => true
  | _ => false

def Pc.verifies : Pc V → Bool
  | .verifying _ => true
  | _ => false

/-- The params of the request have been stored, and it has not been refused since. -/
def Pc.stored : Pc V → Option InitializeParams
  | .proving request => some request.params
  | .answered params => some params
  | _ => none

/-- No request to initialise a session comes while the proof of another one is being checked. -/
def initializesAlone : Guard State (Pc V) (Input V) where
  self _ _ _ _ := True
  other s _ pc _ _ pc' := pc.asks = true → s.initialized = none → pc'.verifies = false

instance (c : Threads State (Pc V)) (a : Act (Pc V) (Input V)) :
    Decidable ((initializesAlone (V := V)).Allows c a) := Guard.decidable c a

/-- A proof is checked while no session is stored, and what is stored then stays. -/
def HoldsAt (s : State) (pc : Pc V) : Prop :=
  (pc.verifies = true → s.initialized = none) ∧
    ∀ params, pc.stored = some params → s.initialized = some params

/-- One proof is checked at a time, and one request's params are stored. -/
def Excludes (pc pc' : Pc V) : Prop :=
  (pc.verifies = true → pc'.verifies = false) ∧ (pc.stored.isSome = true → pc'.stored = none)

def oneSession : Outline State (Pc V) where
  Shared := Ordered
  At s _ pc := HoldsAt s pc
  Pair _ pc _ pc' := Excludes pc pc'

section

variable {d : Definition} {s s' : State} {t u : Nat} {pc pc' pcU : Pc V}

theorem Excludes.symm (h : Excludes pc pc') : Excludes pc' pc := by
  constructor
  · intro hverifies
    by_contra hother
    rw [h.1 (Bool.of_not_eq_false hother)] at hverifies
    cases hverifies
  · intro hstored
    by_contra hother
    rw [h.2 (Option.isSome_iff_ne_none.mpr hother)] at hstored
    cases hstored

theorem not_verifies_of_starts (h : pc.starts = true) :
    pc.verifies = false ∧ pc.stored = none := by
  cases pc with
  | initializeSession | child => exact ⟨rfl, rfl⟩
  | verifying | proving | answered | refused => cases h

theorem HoldsAt.of_starts (s : State) (h : pc.starts = true) : HoldsAt s pc := by
  obtain ⟨hverifies, hstored⟩ := not_verifies_of_starts h
  constructor
  · grind
  · grind

theorem Moves.holdsAt (hat : HoldsAt s pc) (h : Moves d s t pc s' pc') : HoldsAt s' pc' := by
  cases h with
  | ask request first => exact ⟨fun _ => first, nofun⟩
  | store => exact ⟨nofun, fun params hp => hp⟩
  | answer => exact ⟨nofun, fun params hp => hat.2 params hp⟩
  | refuse | unready | child => exact ⟨nofun, nofun⟩

/-- A move leaves what is stored or stores what has been checked. -/
theorem Moves.initialized (h : Moves d s t pc s' pc') :
    s'.initialized = s.initialized ∨ pc.verifies = true := by
  cases h with
  | store => exact .inr rfl
  | refuse | ask | answer | unready | child => exact .inl rfl

variable {params : InitializeParams}

/-- What is stored stays: it is replaced only by a request that has found nothing stored. -/
theorem Moves.kept (hat : HoldsAt s pc) (h : Moves d s t pc s' pc')
    (hstored : s.initialized = some params) : s'.initialized = some params := by
  rcases h.initialized with hsame | hverifies
  · exact hsame.trans hstored
  · rw [hat.1 hverifies] at hstored
    cases hstored

theorem Moves.holdsAt_other (hat : HoldsAt s pc) (hatU : HoldsAt s pcU) (hpair : Excludes pc pcU)
    (h : Moves d s t pc s' pc') : HoldsAt s' pcU := by
  refine ⟨fun hverifies => ?_, fun params hparams => h.kept hat (hatU.2 params hparams)⟩
  rcases h.initialized with hsame | hmover
  · exact hsame.trans (hatU.1 hverifies)
  · rw [hpair.1 hmover] at hverifies
    cases hverifies

theorem Moves.excludes (hat : HoldsAt s pc) (hatU : HoldsAt s pcU) (hpair : Excludes pc pcU)
    (halone : pc.asks = true → s.initialized = none → pcU.verifies = false)
    (h : Moves d s t pc s' pc') : Excludes pc' pcU := by
  cases h with
  | ask request first => exact ⟨fun _ => halone rfl first, nofun⟩
  | store =>
    refine ⟨nofun, fun _ => ?_⟩
    -- the mover has found nothing stored
    cases hstored : pcU.stored with
    | none => rfl
    | some params =>
      have hsome := hatU.2 params hstored
      rw [hat.1 rfl] at hsome
      cases hsome
  | answer => exact ⟨nofun, fun _ => hpair.2 rfl⟩
  | refuse | unready | child => exact ⟨nofun, nofun⟩

theorem oneSession_valid (d : Definition) :
    (oneSession (V := V)).Valid (program d) initializesAlone where
  start s t pc hs hentry _ := HoldsAt.of_starts s hentry
  start_pair s t pc u pcU hs hentry _ hatU htu := by
    obtain ⟨hverifies, hstored⟩ := not_verifies_of_starts hentry
    exact ⟨Excludes.symm ⟨fun _ => hverifies, fun _ => hstored⟩, fun _ => hverifies, fun _ => hstored⟩
  move s t pc k m hs hat _ hm := ⟨hs.move (move_moves hm), (move_moves hm).holdsAt hat⟩
  child s t pc k m u pcU hs hat _ hm hchild := by
    rw [(moved_of_map hm).2] at hchild
    cases hchild
  other s t pc k m u pcU hs hat hatU htu hpair _ _ hother hm := by
    have hmoves := move_moves hm
    have hexcludes := hmoves.excludes hat hatU hpair hother
    exact ⟨hmoves.holdsAt_other hat hatU hpair, hexcludes, hexcludes.symm⟩
  child_pair s t pc k m v pcV u pcU _ _ _ _ _ _ _ _ _ hm hchild := by
    rw [(moved_of_map hm).2] at hchild
    cases hchild

theorem oneSession_init : (oneSession (V := V)).Holds init where
  shared := Ordered.init (V := V)
  at_ t pc hpc := by cases hpc
  pair t u pc pcU _ hpc := by cases hpc

theorem stored_kept {acts : List (Act (Pc V) (Input V))} {c c' : Threads State (Pc V)}
    (hc : (oneSession (V := V)).Holds c) (hstored : c.shared.initialized = some params)
    (halone : Meets (program d).step initializesAlone.Allows c acts)
    (h : run (program d).step c acts = some c') : c'.shared.initialized = some params := by
  have hstep : ∀ (c : Threads State (Pc V)) a c', oneSession.Holds c ∧ c.shared.initialized = some params →
      initializesAlone.Allows c a → (program d).step c a = some c' →
      oneSession.Holds c' ∧ c'.shared.initialized = some params := by
    rintro c a c' ⟨hc, hstored⟩ hg hs
    refine ⟨hc.step (oneSession_valid d) hg hs, ?_⟩
    rcases (program d).step_cases hs with ⟨_, _, -, -, -, rfl⟩ |
      ⟨t, k, child, pc, m, rfl, hpc, hm, hshared, -⟩
    · exact hstored
    · rw [hshared]
      exact (move_moves hm).kept (hc.at_ t pc hpc) hstored
  exact (run_invariant_of_meets hstep ⟨hc, hstored⟩ halone h).2

end

/-! ## Two requests -/

/-- A plugin with one provider and no dependencies, for which every proof is right. -/
def sampleDefinition : Definition where
  apiVersion := "2"
  callbackOrigin := "http://127.0.0.1:4000"
  dependencies := []
  providers := [⟨⟨"example.store@1", "1.0.0", none⟩, ⟨true, true⟩⟩]
  verifyProof _ := none
  validateForRuntimeProfile _ := none

def sampleSession (session : String) : InitializeParams where
  apiVersion := "2"
  session := session
  requiredDeclarations := []
  providedEndpoints := [⟨0, "example.store@1", "1.0.0", "sha256:1"⟩]
  limits := ⟨1, 10, 2, 1, 2⟩

def sampleRequest (session : String) : InitializeRequest :=
  ⟨sampleSession session, "http://127.0.0.1:4000", "nonce", "proof"⟩

def initializes (t : Nat) (session : String) : List (Act (Pc Nat) (Input Nat)) :=
  [.start t (.initializeSession (sampleRequest session)), .move t .go 0, .move t .go 0, .move t .go 0]

/-- The plugin is constructed by its factory and stopped with its hook. -/
def constructsAndStops : List (Act (Pc Nat) (Input Nat)) :=
  [.start 2 (.child (.construct 50)), .move 2 (.child .go) 0, .move 2 (.child .created) 0,
    .start 3 (.child (.stop 60)), .move 3 (.child .hook) 0, .move 3 (.child .created) 0,
    .start 4 (.initializeSession (sampleRequest "second")), .move 4 .go 0]

/-- The second request comes while the proof of the first is being checked. -/
def initializesTwice : List (Act (Pc Nat) (Input Nat)) :=
  [.start 1 (.initializeSession (sampleRequest "first")), .move 1 .go 0,
    .start 2 (.initializeSession (sampleRequest "second")), .move 2 .go 0, .move 1 .go 0,
    .move 1 .go 0]

end LensoBun.AuthoringV2.Session
