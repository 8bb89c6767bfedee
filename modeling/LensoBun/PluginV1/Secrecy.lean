import LensoBun.PluginV1.Requests

set_option autoImplicit false

/-! # The sessions of a V1 plugin

The acknowledgement of a handshake shows the session there is, also when the handshake is refused. So
a peer whose handshakes are all refused may learn the session of another one and use it.

That is the only way. What else a reply says is made from the configuration, the message and what the
plugin's code returns (`said`), and not from the state. If no handshake is refused while there is a
session, and what is said does not mention one, then a reply mentions a session only if it is the
acknowledgement of the handshake that has created it, and a message is honoured only if a handshake of
its peer has been accepted. Sessions are random: a new one is not mentioned anywhere, and a message
carries one only if it has been shown to its peer.
-/

namespace LensoBun.PluginV1.Server

open Std Lib

variable {V : Type} (stringsOf : V → List String)

/-! ## The texts of a reply -/

def mentions (session text : String) : Bool := decide (session.toList <:+: text.toList)

def endpointStrings (d : EndpointDescriptor) : List String :=
  d.capabilityId :: d.descriptorVersion :: (d.operations ++ d.streamOperations ++ d.eventOperations)

def Failure.texts : Failure V → List String
  | .protocolViolation detail => [detail]
  | .pluginFailure detail => [detail]
  | .resourceExhausted operation => [operation]
  | .unknownOperation operation => [operation]
  | .deadlineExceeded _ => []
  | .cancelled _ => []
  | .provided failure => stringsOf failure

def Outcome.texts : Outcome V → List String
  | .success value => stringsOf value
  | .domain value => stringsOf value
  | .runtime failure => failure.texts stringsOf

/-- The texts of a body, apart from the session of an acknowledgement. -/
def Body.texts : Body V → List String
  | .ack a => "lenso-json-value-v1" :: a.endpoints.flatMap endpointStrings
  | .done => []
  | .outcome o => o.texts stringsOf

def Reply.texts : Reply V → List String
  | .http _ text => [text]
  | .error id _ message => id.toList ++ [message]
  | .result id body => id.toList ++ body.texts stringsOf

def Reply.strings (r : Reply V) : List String := r.session.toList ++ r.texts stringsOf

def Pc.texts : Pc V → List String
  | .finished _ r => r.texts stringsOf
  | _ => []

/-! ## What a reply is made from -/

def serverTexts : List String :=
  ["method not allowed", "request too large", "Parse error", "Invalid Request",
    "lenso-json-value-v1", "request session mismatch", "invalid activation",
    "Plugin create must return a complete instance", "shutdown session mismatch",
    "duplicate or retired request id", "invalid request envelope", "request before handshake"]

def errorText {α : Type} : Except String α → List String
  | .error error => [error]
  | .ok _ => []

def Call.texts (c : Config) : Call V → List String
  | .handshake h => ((h.bind (·.endpoints)).getD []).flatMap endpointStrings
  | .activate a => a.toList.flatMap fun a =>
    errorText (createDependencyClients c.dependencies a.activation)
  | .request r => r.toList.flatMap fun r => r.operation :: errorText (invocationContext r)
  | _ => []

/-- What the plugin's code makes the server say. -/
def Input.texts : Input V → List String
  | .configThrows error => [error]
  | .throws error => [error]
  | .invoked outcome => outcome.texts stringsOf
  | _ => []

def Message.said (c : Config) (m : Message V) (k : Input V) : List String :=
  serverTexts ++ m.id.toList ++ m.call.texts c ++ k.texts stringsOf

def Pc.said (c : Config) (pc : Pc V) (k : Input V) : List String :=
  match pc with
  | .message m | .creating m | .stopping m | .invoking m _ => m.said stringsOf c k
  | _ => []

section

variable {stringsOf} {c : Config} {s s' : Shared} {t : Nat} {m : Message V} {k : Input V}
  {pc pc' : Pc V}

variable {body : Body V} {session : Option String} {r : WireRequest V}

theorem texts_reply (h : body.texts stringsOf ⊆ serverTexts ++ m.call.texts c ++ k.texts stringsOf)
    : (reply m body).texts stringsOf ⊆ m.said stringsOf c k := by
  intro text htext
  rcases List.mem_append.mp htext with hid | hbody
  · grind [Message.said]
  · grind [Message.said]

theorem texts_own (h : body.texts stringsOf ⊆ serverTexts) :
    (reply m body).texts stringsOf ⊆ m.said stringsOf c k :=
  texts_reply fun text htext => by simp [h htext]

theorem texts_input (h : body.texts stringsOf ⊆ k.texts stringsOf) :
    (reply m body).texts stringsOf ⊆ m.said stringsOf c k :=
  texts_reply fun text htext => by simp [h htext]

theorem texts_call (h : body.texts stringsOf ⊆ m.call.texts c) :
    (reply m body).texts stringsOf ⊆ m.said stringsOf c k :=
  texts_reply fun text htext => by simp [h htext]

theorem texts_violation {detail : String} (h : detail ∈ serverTexts) :
    (reply m (.outcome (protocolViolation detail))).texts stringsOf ⊆ m.said stringsOf c k :=
  texts_own (by simpa [Body.texts, Outcome.texts, protocolViolation, Failure.texts] using h)

theorem texts_done : (reply m .done).texts stringsOf ⊆ m.said stringsOf c k :=
  texts_own (by simp [Body.texts])

theorem texts_onHandshake {handshake : Option Handshake} {uuid : String}
    (hcall : m.call = .handshake handshake)
    (h : onHandshake c s t m handshake uuid = (s', pc')) :
    pc'.texts stringsOf ⊆ m.said stringsOf c k := by
  have hack : ∀ accepted session, (reply m (ack c handshake accepted session)).texts stringsOf ⊆
      m.said stringsOf c k := by
    intro accepted session
    refine texts_reply fun text htext => ?_
    rcases List.mem_cons.mp htext with rfl | htext
    · simp [serverTexts]
    · rw [hcall]
      exact List.mem_append_left _ (List.mem_append_right _ htext)
  rw [onHandshake] at h
  split at h
  · cases h
    exact hack _ _
  · cases h
    exact hack _ _

theorem texts_onActivate {activation : Option ActivationRequest}
    (hcall : m.call = .activate activation)
    (h : onActivate c s t m activation k = some (s', pc')) :
    pc'.texts stringsOf ⊆ m.said stringsOf c k := by
  rw [onActivate] at h
  split at h
  · cases h
    exact texts_violation (by decide)
  · next a x hax =>
      obtain ⟨request, hrequest, hmap⟩ := Option.bind_eq_some_iff.mp hax
      obtain ⟨y, -, heq⟩ := Option.map_eq_some_iff.mp hmap
      cases heq
      split at h
      · cases h
        exact texts_violation (by decide)
      · split at h
        · next error herror =>
            cases h
            refine texts_call ?_
            rw [hcall, hrequest]
            simp [Body.texts, Outcome.texts, Failure.texts, Call.texts, herror, errorText]
        · split at h
          · cases h
            exact texts_input (by simp [Body.texts, Outcome.texts, Failure.texts, Input.texts])
          · split at h
            · cases h
              exact texts_input (by simp [Body.texts, Outcome.texts, Failure.texts, Input.texts])
            · cases h
          · split at h
            · cases h
              exact List.nil_subset _
            · cases h
              exact texts_done
          · cases h

theorem texts_onCreated (h : onCreated s t m k = some (s', pc')) :
    pc'.texts stringsOf ⊆ m.said stringsOf c k := by
  rw [onCreated.eq_def] at h
  split at h
  · cases h
    exact texts_done
  · cases h
    exact texts_own (by simp [Body.texts, Outcome.texts, Failure.texts, serverTexts])
  · cases h
    exact texts_input (by simp [Body.texts, Outcome.texts, Failure.texts, Input.texts])
  · cases h

theorem texts_onShutdown (h : onShutdown c s t m session k = some (s', pc')) :
    pc'.texts stringsOf ⊆ m.said stringsOf c k := by
  simp only [onShutdown] at h
  split at h
  · cases h
    exact texts_violation (by decide)
  · split at h
    · split at h
      · cases h
        exact List.nil_subset _
      · cases h
        exact texts_input (by simp [Body.texts, Outcome.texts, Failure.texts, Input.texts])
      · cases h
    · grind [texts_done]

theorem texts_onStopped (h : onStopped s m k = some (s', pc')) :
    pc'.texts stringsOf ⊆ m.said stringsOf c k := by
  rw [onStopped.eq_def] at h
  split at h
  · cases h
    exact texts_done
  · cases h
    exact texts_input (by simp [Body.texts, Outcome.texts, Failure.texts, Input.texts])
  · cases h

/-- A request is refused with its operation or with a text of the server's own. -/
theorem texts_refusal {failure : Failure V} (hcall : m.call = .request (some r))
    (h : refusal c s r = some failure) :
    (fail m failure).texts stringsOf ⊆ m.said stringsOf c k := by
  rw [refusal] at h
  split at h
  · cases h
    exact texts_violation (by decide)
  · split at h
    · cases h
      refine texts_call ?_
      rw [hcall]
      simp [Body.texts, Outcome.texts, Failure.texts, Call.texts]
    · split at h
      · cases h
        refine texts_call ?_
        rw [hcall]
        simp [Body.texts, Outcome.texts, Failure.texts, Call.texts]
      · cases h

theorem texts_beginRequest (hcall : m.call = .request (some r))
    (h : beginRequest c s t m r k = some (s', pc')) :
    pc'.texts stringsOf ⊆ m.said stringsOf c k := by
  simp only [beginRequest] at h
  split at h
  · next error herror =>
      cases h
      refine texts_call ?_
      rw [hcall]
      simp [Body.texts, Outcome.texts, Failure.texts, Call.texts, herror, errorText]
  · split at h
    · cases h
      exact texts_own (by simp [Body.texts, Outcome.texts, Failure.texts])
    · split at h
      · cases h
        exact List.nil_subset _
      · cases h
        exact texts_input (by simp [Body.texts, Outcome.texts, Failure.texts, Input.texts])
      · cases h

theorem texts_onRequest {request : Option (WireRequest V)} (hcall : m.call = .request request)
    (h : onRequest c s t m request k = some (s', pc')) :
    pc'.texts stringsOf ⊆ m.said stringsOf c k := by
  rw [onRequest] at h
  split at h
  · split at h
    · next r x hr hx =>
        have hrequest := (Option.filter_eq_some_iff.mp hr).1
        rw [hrequest] at hcall
        split at h
        · grind [texts_refusal]
        · exact texts_beginRequest hcall h
    · cases h
      exact texts_violation (by decide)
  · cases h
    exact texts_violation (by decide)

/-- What becomes of an outcome says nothing that the outcome does not. -/
theorem texts_settle (requestId : Nat) (outcome : Outcome V) :
    (settle s requestId outcome).texts stringsOf ⊆ outcome.texts stringsOf := by
  rw [settle]
  split
  · exact List.nil_subset _
  · exact List.nil_subset _
  · exact fun _ h => h

theorem texts_onInvoked (h : onInvoked c s m r k = some (s', pc')) :
    pc'.texts stringsOf ⊆ m.said stringsOf c k := by
  rw [onInvoked.eq_def] at h
  split at h
  · cases h
    exact texts_input (texts_settle _ _)
  · cases h
    exact texts_input (by simp [Body.texts, Outcome.texts, Failure.texts, Input.texts])
  · split at h
    · cases h
    · cases h
      exact List.nil_subset _
  · cases h

theorem texts_onMessage (h : onMessage c s t m k = some (s', pc')) :
    pc'.texts stringsOf ⊆ m.said stringsOf c k := by
  rw [onMessage.eq_def] at h
  split at h
  · cases h
    simp [Pc.texts, Reply.texts, Message.said, serverTexts]
  · cases h
    simp [Pc.texts, Reply.texts, Message.said, serverTexts]
  · cases h
    simp [Pc.texts, Reply.texts, Message.said, serverTexts]
  · cases h
    intro text htext
    rcases List.mem_append.mp htext with hid | hmessage
    · simp [Message.said, hid]
    · rw [List.mem_singleton.mp hmessage]
      simp [Message.said, serverTexts]
  · next hcall => exact texts_onHandshake hcall (Option.some.inj h)
  · cases h
  · have h := Option.some.inj h
    rw [onCancel] at h
    split at h
    · cases h
      exact texts_violation (by decide)
    · cases h
      exact texts_done
  · next hcall => exact texts_onActivate hcall h
  · exact texts_onShutdown h
  · next hcall => exact texts_onRequest hcall h
  · cases h
    exact texts_violation (by decide)

/-- **What a reply says, its session apart, does not depend on the state.** -/
theorem texts_of_next (h : next c s t pc k = some (s', pc')) :
    pc'.texts stringsOf ⊆ pc.said stringsOf c k := by
  cases pc with
  | message => exact texts_onMessage h
  | creating => exact texts_onCreated h
  | stopping => exact texts_onStopped h
  | invoking => exact texts_onInvoked h
  | stop =>
    cases h
    exact List.nil_subset _
  | finished => cases h
  | stopped => cases h

end

/-! ## The conditions -/

def sessions (events : List Event) : List String :=
  events.filterMap fun e => match e with
    | .accepted _ _ session => some session
    | _ => none

/-- The peer and the session of a message that has not been handled. -/
def Pc.claims : Pc V → Option (Nat × String)
  | .message m => m.call.session.map fun session => (m.peer, session)
  | _ => none

def Pc.strings : Pc V → List String
  | .finished _ r => r.strings stringsOf
  | _ => []

def Pc.repliedTo : Pc V → Option Nat
  | .finished m _ => some m.peer
  | _ => none

/-- Some reply to the peer mentions the session. -/
def Shown (x : Threads Shared (Pc V)) (peer : Nat) (session : String) : Prop :=
  ¬ ∀ (u : Nat) (pc : Pc V), x.pool[u]? = some pc → pc.repliedTo = some peer →
    ∀ text ∈ pc.strings stringsOf, mentions session text = false

instance (x : Threads Shared (Pc V)) (peer : Nat) (session : String) :
    Decidable (Shown stringsOf x peer session) :=
  inferInstanceAs (Decidable (¬ ∀ (u : Nat) (pc : Pc V), x.pool[u]? = some pc →
    pc.repliedTo = some peer → ∀ text ∈ pc.strings stringsOf, mentions session text = false))

/-- A value that no earlier session occurs in, no reply mentions and no message waits with. -/
def Fresh (x : Threads Shared (Pc V)) (uuid : String) : Prop :=
  (∀ session ∈ sessions x.shared.events, mentions session uuid = false) ∧
    ∀ (u : Nat) (pc : Pc V), x.pool[u]? = some pc →
      (∀ text ∈ pc.strings stringsOf, mentions uuid text = false) ∧
      ∀ claim ∈ pc.claims, claim.2 ≠ uuid

instance (x : Threads Shared (Pc V)) (uuid : String) : Decidable (Fresh stringsOf x uuid) :=
  inferInstanceAs (Decidable ((∀ session ∈ sessions x.shared.events, mentions session uuid = false) ∧
    ∀ (u : Nat) (pc : Pc V), x.pool[u]? = some pc →
      (∀ text ∈ pc.strings stringsOf, mentions uuid text = false) ∧
      ∀ claim ∈ pc.claims, claim.2 ≠ uuid))

def Input.uuids : Input V → List String
  | .uuid value => [value]
  | _ => []

/-- Sessions cannot be guessed: a message that carries one is of a peer that has been shown it, and
`crypto.randomUUID` gives a fresh value. -/
def Unguessed (x : Threads Shared (Pc V)) : Act (Pc V) (Input V) → Prop
  | .start _ pc => ∀ claim ∈ pc.claims, claim.2 ∈ sessions x.shared.events →
      Shown stringsOf x claim.1 claim.2
  | .move _ k _ => ∀ uuid ∈ k.uuids, Fresh stringsOf x uuid

instance (x : Threads Shared (Pc V)) : ∀ a, Decidable (Unguessed stringsOf x a)
  | .start _ pc => inferInstanceAs (Decidable (∀ claim ∈ pc.claims,
      claim.2 ∈ sessions x.shared.events → Shown stringsOf x claim.1 claim.2))
  | .move _ k _ => inferInstanceAs (Decidable (∀ uuid ∈ k.uuids, Fresh stringsOf x uuid))

/-- The message is a handshake that is refused. -/
def Pc.isRefused (c : Config) (s : Shared) : Pc V → Bool
  | .message ⟨_, _, .handshake h⟩ => !accepts c s h
  | _ => false

/-- No handshake is refused while there is a session. -/
def orderlyHandshakes (c : Config) : Guard Shared (Pc V) (Input V) where
  self s _ pc _ := pc.isRefused c s = true → s.session = none

instance (c : Config) (x : Threads Shared (Pc V)) (a : Act (Pc V) (Input V)) :
    Decidable ((orderlyHandshakes c).Allows x a) := Guard.decidable x a

/-- Neither messages, but for their session, nor the plugin's code repeat a session. -/
def discreet (c : Config) : Guard Shared (Pc V) (Input V) where
  self s _ pc k := ∀ session ∈ sessions s.events, ∀ text ∈ pc.said stringsOf c k,
    mentions session text = false

instance (c : Config) (x : Threads Shared (Pc V)) (a : Act (Pc V) (Input V)) :
    Decidable ((discreet stringsOf c).Allows x a) := Guard.decidable x a

/-! ## What a step does to the sessions -/

def Event.isSession : Event → Bool
  | .accepted _ _ _ | .honoured _ _ _ => true
  | _ => false

/-- The session that the reply of a thread shows. -/
def Pc.shows : Pc V → Option String
  | .finished _ r => r.session
  | _ => none

/-- The moves as far as they concern the sessions. -/
inductive Tells (c : Config) (s : Shared) (t : Nat) : Pc V → Shared → Pc V → Prop where
  | idle {s' : Shared} {pc pc' : Pc V} {es : List Event} (hevents : s'.events = s.events ++ es)
      (hes : ∀ e ∈ es, e.isSession = false) (hsession : s'.session = s.session)
      (hshows : pc'.shows = none) : Tells c s t pc s' pc'
  | refuses {pc pc' : Pc V} (hpc : pc.isRefused c s = true) (hshows : pc'.shows = s.session) :
      Tells c s t pc s pc'
  | honours {s' : Shared} {m : Message V} {pc' : Pc V} {session : String} {es : List Event}
      (hx : Honours s m session)
      (hevents : s'.events = s.events ++ .honoured t m.peer session :: es)
      (hes : ∀ e ∈ es, e.isSession = false) (hsession : s'.session = s.session)
      (hshows : pc'.shows = none) : Tells c s t (.message m) s' pc'
  | accepts {m : Message V} {handshake : Option Handshake} (uuid : String)
      (hcall : m.call = .handshake handshake) :
      Tells c s t (.message m) (s.admitSession t m.peer uuid)
        (reply m (ack c handshake true (some uuid)))

variable {c : Config}

theorem isRefused_of_call {s : Shared} {m : Message V} {h : Option Handshake}
    (hcall : m.call = .handshake h) (haccepts : Server.accepts c s h = false) :
    (Pc.message m).isRefused c s = true := by
  obtain ⟨_, _, call⟩ := m
  cases hcall
  simp [Pc.isRefused, haccepts]

theorem Moves.tells {s s' : Shared} {t : Nat} {pc pc' : Pc V} (h : Moves c s t pc s' pc') :
    Tells c s t pc s' pc' := by
  cases h with
  | answered hsession | stopped hsession => exact .idle (List.append_nil _).symm (by simp) rfl hsession
  | refused hcall haccepts => exact .refuses (isRefused_of_call hcall haccepts) rfl
  | accepted uuid hcall => exact .accepts uuid hcall
  | passed hx hsession => exact .honours hx rfl (by simp) rfl hsession
  | cancelled hx | shutDown hx => exact .honours hx rfl (by simp) rfl rfl
  | createThrew hx | creating hx | constructed hx | stopThrew hx | stopping hx | invoking hx =>
    exact .honours hx (List.append_assoc _ _ _) (by simp [Event.isSession]) rfl rfl
  | created => exact .idle rfl (by simp [Event.isSession]) rfl rfl
  | incomplete hsession | createFailed hsession | completed hsession =>
    exact .idle rfl (by simp [Event.isSession]) rfl hsession
  | ended hx _ hsession =>
    exact .honours hx (List.append_assoc _ _ _) (by simp [Event.isSession]) rfl hsession
  | handlerThrew hx =>
    exact .honours hx ((List.append_assoc _ _ _).trans (List.append_assoc _ _ _))
      (by simp [Event.isSession]) rfl rfl
  | expired | closed => exact .idle (List.append_nil _).symm (by simp) rfl rfl

/-- The value of an accepted handshake is the one that has been given. -/
theorem uuid_of_admitted {s : Shared} {t : Nat} {m : Message V} {handshake : Option Handshake}
    {uuid : String} {k : Input V} {pc' : Pc V} (hcall : m.call = .handshake handshake)
    (h : next c s t (.message m) k = some (s.admitSession t m.peer uuid, pc')) :
    uuid ∈ k.uuids := by
  simp only [next, onMessage, hcall] at h
  cases k with
  | uuid value =>
    simp only [onHandshake] at h
    split at h
    · have hsession : (s.admitSession t m.peer value).session =
          (s.admitSession t m.peer uuid).session := by rw [(Prod.mk.inj (Option.some.inj h)).1]
      rw [← Option.some.inj hsession]
      exact List.mem_singleton_self _
    · have hevents : s.events = (s.admitSession t m.peer uuid).events := by
        rw [← (Prod.mk.inj (Option.some.inj h)).1]
      simp [Shared.admitSession] at hevents
  | _ => cases h

/-! ## The invariant -/

section

variable {stringsOf} {events es : List Event}

theorem mem_sessions {session : String} :
    session ∈ sessions events ↔ ∃ t peer, .accepted t peer session ∈ events := by
  simp only [sessions, List.mem_filterMap]
  constructor
  · grind
  · grind

theorem sessions_append (events es : List Event) :
    sessions (events ++ es) = sessions events ++ sessions es :=
  List.filterMap_append

theorem sessions_of_others (hes : ∀ e ∈ es, e.isSession = false) : sessions es = [] := by
  refine List.filterMap_eq_nil_iff.mpr fun e he => ?_
  have hother := hes e he
  cases e <;> first | rfl | cases hother

/-- A session is mentioned only by the reply that has created it, and used only by a peer whose
handshake has. -/
structure Secret (stringsOf : V → List String) (x : Threads Shared (Pc V)) : Prop where
  current : ∀ session, x.shared.session = some session → session ∈ sessions x.shared.events
  honoured : ∀ t peer session, .honoured t peer session ∈ x.shared.events →
    ∃ t', .accepted t' peer session ∈ x.shared.events
  claimed : ∀ (u : Nat) (pc : Pc V) (claim : Nat × String), x.pool[u]? = some pc →
    claim ∈ pc.claims → claim.2 ∈ sessions x.shared.events →
    ∃ t', .accepted t' claim.1 claim.2 ∈ x.shared.events
  shown : ∀ (u : Nat) (m : Message V) (r : Reply V) (session : String),
    x.pool[u]? = some (.finished m r) → r.session = some session →
    .accepted u m.peer session ∈ x.shared.events
  mentioned : ∀ (u : Nat) (m : Message V) (r : Reply V), x.pool[u]? = some (.finished m r) →
    ∀ session ∈ sessions x.shared.events, ∀ text ∈ r.strings stringsOf,
    mentions session text = true → .accepted u m.peer session ∈ x.shared.events

theorem secret_init (c : Config) : Secret stringsOf (init c : Threads Shared (Pc V)) where
  current session h := by cases h
  honoured t peer session h := by cases h
  claimed u pc claim h := by simp [init] at h
  shown u m r session h := by simp [init] at h
  mentioned u m r h := by simp [init] at h

variable {c : Config} {x : Threads Shared (Pc V)} {s' : Shared} {t : Nat} {pc pc' : Pc V}

theorem claims_of_moves {s : Shared} (h : Moves c s t pc s' pc') : pc'.claims = none := by
  cases h <;> rfl

theorem strings_of_shows (h : pc.shows = none) : pc.strings stringsOf = pc.texts stringsOf := by
  cases pc with
  | finished => grind [Pc.shows, Pc.strings, Reply.strings, Pc.texts]
  | _ => rfl

/-- A peer that has been shown a session has had a handshake accepted for it. -/
theorem Secret.accepted_of_shown (h : Secret stringsOf x) {peer : Nat} {session : String}
    (hsession : session ∈ sessions x.shared.events) (hshown : Shown stringsOf x peer session) :
    ∃ t', .accepted t' peer session ∈ x.shared.events := by
  by_contra hnone
  refine hshown fun u pc hpc hpeer text htext => ?_
  cases pc with
  | finished m r =>
    cases hpeer
    by_contra hmentions
    exact hnone ⟨u, h.mentioned u m r hpc session hsession text htext (by simpa using hmentions)⟩
  | _ => cases hpeer

theorem Secret.start (h : Secret stringsOf x) (hentry : pc.isEntry = true)
    (hclaims : ∀ claim ∈ pc.claims, claim.2 ∈ sessions x.shared.events →
      Shown stringsOf x claim.1 claim.2) :
    Secret stringsOf { x with pool := x.pool.insert t pc } := by
  have hold : ∀ (u : Nat) (m : Message V) (r : Reply V),
      (x.pool.insert t pc)[u]? = some (.finished m r) → x.pool[u]? = some (.finished m r) := by
    intro u m r hu
    rw [getElem?_insert_nat] at hu
    split at hu
    · cases hu
      cases hentry
    · exact hu
  refine ⟨h.current, h.honoured, fun u pc' claim hu hclaim hmem => ?_,
    fun u m r session hu => h.shown u m r session (hold u m r hu),
    fun u m r hu => h.mentioned u m r (hold u m r hu)⟩
  rcases new_or_old_of_insert hu with ⟨-, rfl⟩ | ⟨-, hu⟩
  · exact h.accepted_of_shown hmem (hclaims claim hclaim hmem)
  · exact h.claimed u pc' claim hu hclaim hmem

theorem Secret.quiet (h : Secret stringsOf x) (hevents : s'.events = x.shared.events ++ es)
    (hes : sessions es = [])
    (hhonoured : ∀ u peer session, .honoured u peer session ∈ es → ∃ t', .accepted t' peer session ∈ x.shared.events)
    (hsession : s'.session = x.shared.session) (hclaims : pc'.claims = none)
    (hshows : pc'.shows = none)
    (htexts : ∀ session ∈ sessions x.shared.events, ∀ text ∈ pc'.texts stringsOf, mentions session text = false)
    : Secret stringsOf ⟨s', x.pool.insert t pc'⟩ := by
  have hsessions : sessions s'.events = sessions x.shared.events := by
    rw [hevents, sessions_append, hes, List.append_nil]
  have hkept : ∀ e, e ∈ x.shared.events → e ∈ s'.events := fun e he => by
    rw [hevents]
    exact List.mem_append_left _ he
  refine ⟨fun session hcurrent => ?_, fun u peer session hmem => ?_,
    fun u pc₁ claim hu hclaim hmem => ?_, fun u m r session hu hr => ?_,
    fun u m r hu session hmem text htext hmentions => ?_⟩
  · rw [hsessions]
    exact h.current session (hsession ▸ hcurrent)
  · have hbefore : ∃ t', .accepted t' peer session ∈ x.shared.events := by
      rw [hevents, List.mem_append] at hmem
      rcases hmem with hmem | hmem
      · exact h.honoured u peer session hmem
      · exact hhonoured u peer session hmem
    exact hbefore.imp fun t' => hkept _
  · rw [hsessions] at hmem
    rcases new_or_old_of_insert hu with ⟨-, rfl⟩ | ⟨-, hu⟩
    · rw [hclaims] at hclaim
      cases hclaim
    · exact (h.claimed u pc₁ claim hu hclaim hmem).imp fun t' => hkept _
  · rcases new_or_old_of_insert hu with ⟨-, rfl⟩ | ⟨-, hu⟩
    · cases hr.symm.trans hshows
    · exact hkept _ (h.shown u m r session hu hr)
  · rw [hsessions] at hmem
    rcases new_or_old_of_insert hu with ⟨-, rfl⟩ | ⟨-, hu⟩
    · have hstrings : r.strings stringsOf = r.texts stringsOf := strings_of_shows hshows
      rw [hstrings] at htext
      rw [htexts session hmem text htext] at hmentions
      cases hmentions
    · exact hkept _ (h.mentioned u m r hu session hmem text htext hmentions)

/-- A handshake is accepted: the new session is in no reply but its own, and in no message. -/
theorem Secret.admitSession (h : Secret stringsOf x) {m : Message V} {handshake : Option Handshake}
    {uuid : String} (hfresh : Fresh stringsOf x uuid)
    (htexts : ∀ session ∈ sessions x.shared.events,
      ∀ text ∈ (reply m (ack c handshake true (some uuid))).texts stringsOf,
      mentions session text = false) :
    Secret stringsOf ⟨x.shared.admitSession t m.peer uuid,
      x.pool.insert t (reply m (ack c handshake true (some uuid)))⟩ := by
  let events' := x.shared.events ++ [.accepted t m.peer uuid]
  have hsessions : sessions events' = sessions x.shared.events ++ [uuid] := sessions_append _ _
  have hkept : ∀ e, e ∈ x.shared.events → e ∈ events' := fun e he => List.mem_append_left _ he
  have hnew : .accepted t m.peer uuid ∈ events' := List.mem_append_right _ (List.mem_singleton_self _)
  refine ⟨fun session hcurrent => ?_, fun u peer session hmem => ?_,
    fun u pc₁ claim hu hclaim hmem => ?_, fun u m₁ r session hu hr => ?_,
    fun u m₁ r hu session hmem text htext hmentions => ?_⟩
  · cases hcurrent
    exact mem_sessions.mpr ⟨t, m.peer, hnew⟩
  · rcases List.mem_append.mp hmem with hmem | hmem
    · exact (h.honoured u peer session hmem).imp fun t' => hkept _
    · simp at hmem
  · rcases new_or_old_of_insert hu with ⟨-, rfl⟩ | ⟨-, hu⟩
    · cases hclaim
    · rcases List.mem_append.mp (hsessions ▸ hmem) with hmem | hmem
      · exact (h.claimed u pc₁ claim hu hclaim hmem).imp fun t' => hkept _
      · exact absurd (List.mem_singleton.mp hmem) ((hfresh.2 u pc₁ hu).2 claim hclaim)
  · simp only [getElem?_insert_nat] at hu
    split at hu
    · next htu =>
        cases hu
        cases hr
        exact htu ▸ hnew
    · exact hkept _ (h.shown u m₁ r session hu hr)
  · simp only [getElem?_insert_nat] at hu
    split at hu
    · next htu =>
        -- the reply itself: an earlier session is neither in the new one nor in the texts
        cases hu
        subst htu
        rcases List.mem_append.mp (hsessions ▸ hmem) with hmem | hmem
        · rcases List.mem_append.mp htext with htext | htext
          · rw [List.mem_singleton.mp htext, hfresh.1 session hmem] at hmentions
            cases hmentions
          · rw [htexts session hmem text htext] at hmentions
            cases hmentions
        · rw [List.mem_singleton.mp hmem]
          exact hnew
    · rcases List.mem_append.mp (hsessions ▸ hmem) with hmem | hmem
      · exact hkept _ (h.mentioned u m₁ r hu session hmem text htext hmentions)
      · rw [List.mem_singleton.mp hmem, (hfresh.2 u _ hu).1 text htext] at hmentions
        cases hmentions

theorem Secret.move (h : Secret stringsOf x) {k : Input V} (hpc : x.pool[t]? = some pc)
    (hnext : next c x.shared t pc k = some (s', pc'))
    (hunguessed : ∀ uuid ∈ k.uuids, Fresh stringsOf x uuid)
    (hhandshakes : pc.isRefused c x.shared = true → x.shared.session = none)
    (hdiscreet : ∀ session ∈ sessions x.shared.events, ∀ text ∈ pc.said stringsOf c k,
      mentions session text = false) :
    Secret stringsOf ⟨s', x.pool.insert t pc'⟩ := by
  have hmoves := moves_of_next hnext
  have hclaims := claims_of_moves hmoves
  have htexts : ∀ session ∈ sessions x.shared.events, ∀ text ∈ pc'.texts stringsOf,
      mentions session text = false :=
    fun session hsession text htext => hdiscreet session hsession text (texts_of_next hnext htext)
  cases hmoves.tells with
  | idle hevents hes hsession hshows =>
    refine h.quiet hevents (sessions_of_others hes) (fun u peer session hmem => ?_) hsession hclaims
      hshows htexts
    cases hes _ hmem
  | refuses hrefused hshows =>
    rw [hhandshakes hrefused] at hshows
    exact h.quiet (List.append_nil _).symm rfl (by simp) rfl hclaims hshows htexts
  | @honours _ m _ session es hx hevents hes hsession hshows =>
    have hsessions : sessions (.honoured t m.peer session :: es) = [] := by
      show sessions es = []
      exact sessions_of_others hes
    refine h.quiet hevents hsessions (fun u peer y hmem => ?_) hsession hclaims hshows htexts
    rcases List.mem_cons.mp hmem with heq | hmem
    · cases heq
      have hclaim : (m.peer, session) ∈ (Pc.message m).claims := by
        simp [Pc.claims, hx.2]
      exact h.claimed t _ (m.peer, session) hpc hclaim (h.current session hx.1)
    · cases hes _ hmem
  | accepts uuid hcall => exact h.admitSession (hunguessed uuid (uuid_of_admitted hcall hnext)) htexts

theorem Secret.step {x' : Threads Shared (Pc V)} {a : Act (Pc V) (Input V)}
    (h : Secret stringsOf x) (hunguessed : Unguessed stringsOf x a)
    (hhandshakes : (orderlyHandshakes c).Allows x a) (hdiscreet : (discreet stringsOf c).Allows x a)
    (hstep : (program c).step x a = some x') : Secret stringsOf x' := by
  rcases (program c).step_cases hstep with ⟨t, pc, rfl, hentry, -, rfl⟩ |
    ⟨t, k, child, pc, m, rfl, hpc, hm, hshared, hpool⟩
  · exact h.start hentry hunguessed
  · obtain ⟨hnext, hchild⟩ := moved_of_map hm
    rcases hpool with ⟨-, hpool⟩ | ⟨pc', hsome, -, -⟩
    · obtain ⟨s', pool'⟩ := x'
      cases hshared
      cases hpool
      exact h.move hpc hnext hunguessed (hhandshakes pc hpc).1 (hdiscreet pc hpc).1
    · rw [hchild] at hsome
      cases hsome

end

/-- **If sessions are not guessed, no handshake is refused while there is a session and nobody repeats
one, then a reply mentions a session only if it is the acknowledgement of the handshake that has created
it, and a peer none of whose handshakes has been accepted is shown no session and has no message
honoured.** -/
theorem session_stays_secret (c : Config) (acts : List (Act (Pc V) (Input V)))
    (x : Threads Shared (Pc V))
    (hunguessed : Meets (program c).step (Unguessed stringsOf) (init c) acts)
    (hhandshakes : Meets (program c).step (orderlyHandshakes c).Allows (init c) acts)
    (hdiscreet : Meets (program c).step (discreet stringsOf c).Allows (init c) acts)
    (hrun : run (program c).step (init c) acts = some x) :
    (∀ (u : Nat) (m : Message V) (r : Reply V), x.pool[u]? = some (.finished m r) →
      ∀ session ∈ sessions x.shared.events, ∀ text ∈ r.strings stringsOf,
      mentions session text = true → .accepted u m.peer session ∈ x.shared.events) ∧
    ∀ peer, (∀ t session, .accepted t peer session ∉ x.shared.events) →
      (∀ (u : Nat) (m : Message V) (r : Reply V), x.pool[u]? = some (.finished m r) →
        m.peer = peer → r.session = none ∧ ∀ session ∈ sessions x.shared.events,
          ∀ text ∈ r.strings stringsOf, mentions session text = false) ∧
      ∀ t session, .honoured t peer session ∉ x.shared.events := by
  have h : Secret stringsOf x := by
    refine run_invariant_of_meets (fun _ _ _ hx ha hstep => ?_) (secret_init c)
      ((hunguessed.and hhandshakes).and hdiscreet) hrun
    exact hx.step ha.1.1 ha.1.2 ha.2 hstep
  refine ⟨h.mentioned, fun peer hnone => ⟨fun u m r hu hpeer => ⟨?_, ?_⟩, fun t session hmem => ?_⟩⟩
  · cases hr : r.session with
    | none => rfl
    | some session =>
      have haccepted := h.shown u m r session hu hr
      rw [hpeer] at haccepted
      exact absurd haccepted (hnone u session)
  · intro session hsession text htext
    by_contra hmentions
    have haccepted := h.mentioned u m r hu session hsession text htext (by simpa using hmentions)
    rw [hpeer] at haccepted
    exact hnone u session haccepted
  · grind [h.honoured]

/-! ## Sample runs -/

/-- The peer of an accepted handshake makes a request; another peer knocks first and is refused. -/
theorem session_stays_secret_sample :
    ∃ x, run (program greetingConfig).step (init greetingConfig)
        (handled 1 (greetingHandshake 2 7) (.uuid "4f81") ++
          handled 2 (greetingHandshake 1 1) (.uuid "9c0d") ++
          handled 3 (greetingRequest 1 10 "9c0d") .go ++ handled 4 (greetingRequest 2 11 "77") .go) =
        some x ∧ ∀ t session, .honoured t 2 session ∉ x.shared.events := by
  let acts := handled 1 (greetingHandshake 2 7) (.uuid "4f81") ++
    handled 2 (greetingHandshake 1 1) (.uuid "9c0d") ++
    handled 3 (greetingRequest 1 10 "9c0d") .go ++ handled 4 (greetingRequest 2 11 "77") .go
  let x := (run (program greetingConfig).step (init greetingConfig) acts).get (by decide +kernel)
  have hevents : x.shared.events =
      [.accepted 2 1 "9c0d", .honoured 3 1 "9c0d", .handlerStarted 3 10] := by decide +kernel
  refine ⟨x, run_get _, ((session_stays_secret (fun _ => []) greetingConfig acts x (by decide +kernel)
    (by decide +kernel) (by decide +kernel) (run_get _)).2 2 ?_).2⟩
  simp [hevents]

/-- A handshake of another version is refused after one has been accepted: its acknowledgement shows
the session of the other peer, with which its peer then shuts the server down. -/
theorem refused_handshake_shows_session :
    ∃ acts x, run (program greetingConfig).step (init greetingConfig : Threads Shared (Pc Nat)) acts =
        some x ∧
      Meets (program greetingConfig).step (Unguessed fun _ => []) (init greetingConfig) acts ∧
      Meets (program greetingConfig).step (discreet (fun _ => []) greetingConfig).Allows
        (init greetingConfig) acts ∧
      (∀ t session, .accepted t 2 session ∉ x.shared.events) ∧
      (∃ (m : Message Nat) (r : Reply Nat), x.pool[2]? = some (.finished m r) ∧ m.peer = 2 ∧
        r.session = x.shared.session ∧ x.shared.session = some "9c0d") ∧
      .honoured 3 2 "9c0d" ∈ x.shared.events ∧ x.shared.accepting = false := by
  let acts := handled 1 (greetingHandshake 1 1) (.uuid "9c0d") ++
    handled 2 (greetingHandshake 2 7) (.uuid "4f81") ++ handled 3 (sampleShutdown 2 "9c0d") .go
  let x := (run (program greetingConfig).step (init greetingConfig) acts).get (by decide +kernel)
  have hevents : x.shared.events = [.accepted 1 1 "9c0d", .honoured 3 2 "9c0d"] := by decide +kernel
  have hreply : x.pool[2]? = some (reply (greetingHandshake 2 7)
      (ack greetingConfig (some ⟨7, "lenso-json-value-v1", 100,
        some [⟨"example.greeting@1", "1.0.0", ["greet"], [], []⟩]⟩) false (some "9c0d"))) := by
    decide +kernel
  have hsession : x.shared.session = some "9c0d" := by decide +kernel
  refine ⟨acts, x, run_get _, by decide +kernel, by decide +kernel, by simp [hevents],
    ⟨_, _, hreply, rfl, hsession.symm, hsession⟩, by simp [hevents], by decide +kernel⟩

end LensoBun.PluginV1.Server
