import LensoBun.Lib.Unwinding
import LensoBun.Provider.Server

set_option autoImplicit false

/-! # What a new session can see of the earlier ones

A handshake clears the streams, the retired streams and the retired ids, but not the cancellation
registry, and handlers of earlier sessions go on after it. Their traces are harmless when they
concern other ids than those of the new session: then two servers that received the same messages
in the new session have admitted and refused the same ones, handed out the same tokens and hold
the same streams, whatever was before the handshake and whatever the handlers of earlier sessions
still do.

`Scope` names what belongs to the new session. `apart` is the invariant: threads of the new
session use its ids only, all others keep away from them. `Agree` compares two servers on what
belongs to the session; the comparison of runs is `Lib.Unwinds`.
-/

namespace LensoBun.Provider.Server

open Std Lib

variable {V : Type}

/-! ## What belongs to a session -/

/-- The new session: its name, the request ids and stream ids its messages carry, and the threads
that handle them. -/
structure Scope where
  session : String
  requests : List Nat
  streams : List Nat
  threads : List Nat

def Kind.within (streams : Nat → Bool) : Kind → Bool
  | .stream streamId _ _ => streams streamId
  | _ => true

def Message.within (requests streams : Nat → Bool) : Message V → Bool
  | .work kind requestId _ _ => requests requestId && kind.within streams
  | .call c => streams c.streamId
  | .cancel requestId _ => requests requestId
  | .streamCancel streamId _ => streams streamId

/-- A thread that is not performing a handshake, and whose message, ids and entries are of the
given sort. -/
def Pc.within (messages : Message V → Bool) (requests streams refs : Nat → Bool) : Pc V → Bool
  | .handshake verified => !verified
  | .acknowledged _ | .refused _ | .done => true
  | .receive message => messages message
  | .openRetired requestId streamId _ _ | .openActive requestId streamId _ _ _ =>
    requests requestId && streams streamId
  | .acquire kind requestId | .checkRetired kind requestId | .register kind requestId
  | .running kind requestId _ | .removeEntry kind requestId _ | .retire kind requestId _ =>
    requests requestId && kind.within streams
  | .insertStream streamId _ _ | .cancelRemove streamId => streams streamId
  | .lookup c => streams c.streamId
  | .call streamId ref _ | .cancelStore streamId ref | .cancelProvider streamId ref
  | .cancelRemember streamId ref => streams streamId && refs ref
  | .cancelRequest requestId => requests requestId
  | .cancelRelease ref => refs ref
  | _ => false

def Pc.handshakes : Pc V → Bool
  | .handshake verified => verified
  | .takeStreams | .cancelEntries _ | .cancelEntryProvider _ _ | .rememberEntry _ _
  | .clearRetiredStreams | .nextSession | .storeSession _ | .clearRetired _ => true
  | _ => false

theorem handshakes_of_within {messages : Message V → Bool} {requests streams refs : Nat → Bool}
    {pc : Pc V} (h : pc.within messages requests streams refs = true) :
    pc.handshakes = false := by
  cases pc with
  | handshake => simpa [Pc.within, Pc.handshakes] using h
  | _ => first | rfl | cases h

def Kind.isStream : Kind → Bool
  | .stream _ _ _ => true
  | _ => false

/-- A stream open that may still store a stream. -/
def Pc.mayOpen : Pc V → Bool
  | .openRetired _ _ _ _ | .openActive _ _ _ _ _ | .insertStream _ _ _ => true
  | .acquire kind _ | .checkRetired kind _ | .register kind _ | .running kind _ _ => kind.isStream
  | .removeEntry kind _ opened | .retire kind _ opened => kind.isStream && opened
  | _ => false

def Scope.mine (x : Scope) (pc : Pc V) : Bool :=
  pc.within
    (Message.within (fun id => decide (id ∈ x.requests)) (fun id => decide (id ∈ x.streams)))
    (fun id => decide (id ∈ x.requests)) (fun id => decide (id ∈ x.streams))
    (fun ref => decide (ref ∈ x.threads))

/-- Any other thread: its message is of another session, or it is past the check of its session
and concerns other ids and entries, and will store no stream. -/
def Scope.foreign (x : Scope) (pc : Pc V) : Bool :=
  pc.within (fun message => decide (message.session ≠ some x.session))
    (fun id => decide (id ∉ x.requests)) (fun id => decide (id ∉ x.streams))
    (fun ref => decide (ref ∉ x.threads)) && !pc.mayOpen

def Scope.fits (x : Scope) (t : Nat) (pc : Pc V) : Bool :=
  if t ∈ x.threads then x.mine pc else x.foreign pc

/-! ## Conditions and invariant -/

def spares {β : Type} [DecidableEq β] (ids : List Nat) (limit : Nat) (m : ExtTreeMap Nat β) :
    Bool :=
  ids.all (fun id => decide ((evict limit m)[id]? = m[id]?))

/-- The steps that make room drop no id of the session. -/
def Scope.sparedBy (x : Scope) (s : Shared) : Pc V → Bool
  | .retire _ _ _ => spares x.requests maxRetiredRequestIds s.retired
  | .call _ _ (.remember _) | .cancelRemember _ _ =>
    spares x.streams maxRetiredRequestIds s.retiredStreams
  | .cancelRequest requestId =>
    s.cancellations[requestId]?.isSome ||
      spares x.requests maxCancellationEntries s.cancellations
  | _ => true

/-- Every thread that starts is one of the session, with its ids, or has a message of another
session; no registry drops an id of the session. -/
def Scope.guard (x : Scope) : Guard Shared (Pc V) (Input V) where
  self s _ pc _ := x.sparedBy s pc = true
  start _ t pc := x.fits t pc = true

instance (x : Scope) (c : Threads Shared (Pc V)) (a : Act (Pc V) (Input V)) :
    Decidable (x.guard.Allows c a) := Guard.decidable c a

/-- The session is the current one, and every live stream is one of the session. -/
structure InSession (x : Scope) (s : Shared) : Prop where
  session : s.session = some x.session
  streams : ∀ (streamId ref : Nat), s.streams[streamId]? = some ref →
    streamId ∈ x.streams ∧ ref ∈ x.threads

def apart (x : Scope) : Outline Shared (Pc V) where
  Shared := InSession x
  At _ t pc := x.fits t pc = true
  Pair _ _ _ _ := True

/-! ## The threads keep apart -/

theorem within_afterSession {messages : Message V → Bool} {requests streams refs : Nat → Bool}
    {message : Message V} (h : message.within requests streams = true) :
    (afterSession message).within messages requests streams refs = true := by
  cases message with
  | work kind =>
    simp only [afterSession]
    split
    · cases kind <;> simpa [afterChecks, Pc.within, Message.within, Kind.within] using h
    · rfl
  | call => exact h
  | cancel => exact h
  | streamCancel => exact h

theorem within_afterRemoval {messages : Message V → Bool} {requests streams refs : Nat → Bool}
    {kind : Kind} (h : kind.within streams = true) (opened : Bool) :
    (afterRemoval kind opened : Pc V).within messages requests streams refs = true := by
  cases kind <;> cases opened <;> first | rfl | exact h

/-- A thread stays among its ids and entries, if its message leads to such ids when it is let
in, and the streams it may look up lead to such entries. -/
theorem within_move {messages : Message V → Bool} {requests streams refs : Nat → Bool}
    {s : Shared} {t : Nat} {pc : Pc V} {k : Input V} {m : Moved Shared (Pc V)}
    (hmessages : ∀ message, messages message = true → s.session = message.session →
      (afterSession message).within messages requests streams refs = true)
    (hstreams : ∀ (streamId ref : Nat), streams streamId = true →
      s.streams[streamId]? = some ref → refs ref = true)
    (hpc : pc.within messages requests streams refs = true) (hm : move s t pc k = some m) :
    m.next.within messages requests streams refs = true := by
  obtain ⟨s', next, child⟩ := m
  have hmoves : Moves s t pc k s' next := (move_moves hm).1
  cases hmoves with
  | receive message _ hsession => exact hmessages message hpc hsession
  | retire kind requestId opened => grind [Pc.within, within_afterRemoval]
  | lookup c ref _ hfound | cancelRemove streamId ref _ hfound => grind [Pc.within]
  | cancelRemember =>
    rw [Pc.within, Bool.and_eq_true] at hpc
    exact hpc.2
  | _ => first | exact hpc | rfl | cases hpc

/-! ## Comparing two servers -/

/-- Two servers agree on what belongs to the session. -/
structure Agree (x : Scope) (s d : Shared) : Prop where
  capability : s.capability = d.capability
  session : s.session = d.session
  cancellations : ∀ id ∈ x.requests, s.cancellations[id]? = d.cancellations[id]?
  retired : ∀ id ∈ x.requests, s.retired[id]? = d.retired[id]?
  streams : ∀ id ∈ x.streams, s.streams[id]? = d.streams[id]?
  entries : ∀ ref ∈ x.threads, s.entries[ref]? = d.entries[ref]?
  retiredStreams : ∀ id ∈ x.streams, s.retiredStreams[id]? = d.retiredStreams[id]?

section

variable {x : Scope} {s d e : Shared}

theorem Agree.refl (x : Scope) (s : Shared) : Agree x s s :=
  ⟨rfl, rfl, fun _ _ => rfl, fun _ _ => rfl, fun _ _ => rfl, fun _ _ => rfl, fun _ _ => rfl⟩

theorem Agree.symm (h : Agree x s d) : Agree x d s :=
  ⟨h.capability.symm, h.session.symm, fun id hid => (h.cancellations id hid).symm,
    fun id hid => (h.retired id hid).symm, fun id hid => (h.streams id hid).symm,
    fun ref href => (h.entries ref href).symm, fun id hid => (h.retiredStreams id hid).symm⟩

theorem Agree.trans (h : Agree x s d) (h' : Agree x d e) : Agree x s e :=
  ⟨h.capability.trans h'.capability, h.session.trans h'.session,
    fun id hid => (h.cancellations id hid).trans (h'.cancellations id hid),
    fun id hid => (h.retired id hid).trans (h'.retired id hid),
    fun id hid => (h.streams id hid).trans (h'.streams id hid),
    fun ref href => (h.entries ref href).trans (h'.entries ref href),
    fun id hid => (h.retiredStreams id hid).trans (h'.retiredStreams id hid)⟩

/-! One table changes, on both sides. -/

theorem Agree.set_cancellations (h : Agree x s d) {m m' : CancellationRegistry}
    (hm : ∀ id ∈ x.requests, m[id]? = m'[id]?) :
    Agree x { s with cancellations := m } { d with cancellations := m' } :=
  ⟨h.capability, h.session, hm, h.retired, h.streams, h.entries, h.retiredStreams⟩

theorem Agree.set_retired (h : Agree x s d) {m m' : IdSet}
    (hm : ∀ id ∈ x.requests, m[id]? = m'[id]?) :
    Agree x { s with retired := m } { d with retired := m' } :=
  ⟨h.capability, h.session, h.cancellations, hm, h.streams, h.entries, h.retiredStreams⟩

theorem Agree.set_streams (h : Agree x s d) {m m' : ExtTreeMap Nat Nat}
    (hm : ∀ id ∈ x.streams, m[id]? = m'[id]?) :
    Agree x { s with streams := m } { d with streams := m' } :=
  ⟨h.capability, h.session, h.cancellations, h.retired, hm, h.entries, h.retiredStreams⟩

theorem Agree.set_entries (h : Agree x s d) {m m' : ExtTreeMap Nat ProviderStreamEntry}
    (hm : ∀ ref ∈ x.threads, m[ref]? = m'[ref]?) :
    Agree x { s with entries := m } { d with entries := m' } :=
  ⟨h.capability, h.session, h.cancellations, h.retired, h.streams, hm, h.retiredStreams⟩

theorem Agree.set_retiredStreams (h : Agree x s d) {m m' : IdSet}
    (hm : ∀ id ∈ x.streams, m[id]? = m'[id]?) :
    Agree x { s with retiredStreams := m } { d with retiredStreams := m' } :=
  ⟨h.capability, h.session, h.cancellations, h.retired, h.streams, h.entries, hm⟩

end

/-! The registries id by id, when making room drops none of the given ids. -/

theorem spares_iff {β : Type} [DecidableEq β] {ids : List Nat} {limit : Nat}
    {m : ExtTreeMap Nat β} :
    spares ids limit m = true ↔ ∀ id ∈ ids, (evict limit m)[id]? = m[id]? := by
  simp [spares]

theorem getElem?_remember {ids : List Nat} {limit id : Nat} {m : IdSet}
    (h : spares ids limit m = true) (hid : id ∈ ids) (requestId : Nat) :
    (rememberRequestId m requestId limit)[id]? = if requestId = id then some () else m[id]? := by
  rw [rememberRequestId, getElem?_insert_nat, spares_iff.mp h id hid]

theorem getElem?_cancelRequest {ids : List Nat} {id requestId : Nat} {m : CancellationRegistry}
    (h : (m[requestId]?.isSome || spares ids maxCancellationEntries m) = true) (hid : id ∈ ids) :
    (Provider.cancelRequest m requestId)[id]? =
      if requestId = id then
        some { token := m[requestId]?.bind CancellationEntry.token, cancelled := true }
      else m[id]? := by
  unfold Provider.cancelRequest
  cases hfound : m[requestId]? with
  | some => exact getElem?_insert_nat _ _ _ _
  | none =>
    rw [hfound, Option.isSome_none, Bool.false_or] at h
    dsimp only
    rw [getElem?_insert_nat, spares_iff.mp h id hid]
    rfl

/-! ## A thread of another session changes nothing of the session -/

section

variable {x : Scope} {s : Shared} {t : Nat} {pc : Pc V} {k : Input V}
  {m : Moved Shared (Pc V)}

theorem ne_of_not_mem {ids : List Nat} {id requestId : Nat}
    (h : decide (requestId ∉ ids) = true) (hid : id ∈ ids) : requestId ≠ id := by
  rintro rfl
  exact of_decide_eq_true h hid

theorem foreign_frame (hpc : x.foreign pc = true) (hg : x.sparedBy s pc = true)
    (hm : move s t pc k = some m) : Agree x m.shared s := by
  have hrefl := Agree.refl x s
  obtain ⟨s', next, child⟩ := m
  rw [Scope.foreign, Bool.and_eq_true] at hpc
  obtain ⟨hwithin, hopen⟩ := hpc
  -- the steps that write to a table write under an id or an entry that is not the session's
  have hmoves : Moves s t pc k s' next := (move_moves hm).1
  cases hmoves with
  | register kind requestId _ entries wasCancelled hreg =>
    rw [Pc.within, Bool.and_eq_true] at hwithin
    rw [(registerRequest_some hreg).2]
    refine hrefl.set_cancellations (fun id hid => ?_)
    exact (getElem?_insert_nat _ _ _ _).trans (if_neg (ne_of_not_mem hwithin.1 hid))
  | removeEntry =>
    rw [Pc.within, Bool.and_eq_true] at hwithin
    refine hrefl.set_cancellations (fun id hid => ?_)
    exact (getElem?_erase_nat _ _ _).trans (if_neg (ne_of_not_mem hwithin.1 hid))
  | retire =>
    rw [Pc.within, Bool.and_eq_true] at hwithin
    refine hrefl.set_retired (fun id hid => ?_)
    exact (getElem?_remember hg hid _).trans (if_neg (ne_of_not_mem hwithin.1 hid))
  | insertStream => cases hopen
  | unlink =>
    rw [Pc.within, Bool.and_eq_true] at hwithin
    refine hrefl.set_streams (fun id hid => ?_)
    exact (getElem?_erase_nat _ _ _).trans (if_neg (ne_of_not_mem hwithin.1 hid))
  | remember | cancelRemember =>
    rw [Pc.within, Bool.and_eq_true] at hwithin
    refine hrefl.set_retiredStreams (fun id hid => ?_)
    exact (getElem?_remember hg hid _).trans (if_neg (ne_of_not_mem hwithin.1 hid))
  | onEntry =>
    rw [Pc.within, Bool.and_eq_true] at hwithin
    refine hrefl.set_entries (fun ref' href => ?_)
    exact (getElem?_insert_nat _ _ _ _).trans (if_neg (ne_of_not_mem hwithin.2 href))
  | cancelRequest =>
    refine hrefl.set_cancellations (fun id hid => ?_)
    exact (getElem?_cancelRequest hg hid).trans (if_neg (ne_of_not_mem hwithin hid))
  | cancelRemove =>
    refine hrefl.set_streams (fun id hid => ?_)
    exact (getElem?_erase_nat _ _ _).trans (if_neg (ne_of_not_mem hwithin hid))
  | cancelStore =>
    rw [Pc.within, Bool.and_eq_true] at hwithin
    refine hrefl.set_entries (fun ref' href => ?_)
    exact (getElem?_modify_nat _ _ _ _).trans (if_neg (ne_of_not_mem hwithin.2 href))
  | cancelRelease =>
    refine hrefl.set_entries (fun ref' href => ?_)
    exact (getElem?_modify_nat _ _ _ _).trans (if_neg (ne_of_not_mem hwithin href))
  | _ => first | exact hrefl | cases hwithin

/-! ## The invariant -/

/-- What a thread that performs no handshake does to the session and to the streams. -/
theorem move_streams (hpc : pc.handshakes = false) (hm : move s t pc k = some m) :
    m.shared.session = s.session ∧
      (m.shared.streams = s.streams ∨ (∃ id, m.shared.streams = s.streams.erase id) ∨
        ∃ id credit operation, pc = .insertStream id credit operation ∧
          m.shared.streams = s.streams.insert id t) := by
  obtain ⟨s', next, child⟩ := m
  have hmoves : Moves s t pc k s' next := (move_moves hm).1
  cases hmoves with
  | insertStream id credit operation => exact ⟨rfl, Or.inr (Or.inr ⟨id, credit, operation, rfl, rfl⟩)⟩
  | unlink streamId | cancelRemove streamId => exact ⟨rfl, Or.inr (Or.inl ⟨streamId, rfl⟩)⟩
  | _ => first | exact ⟨rfl, Or.inl rfl⟩ | cases hpc

theorem fits_insertStream {id credit : Nat} {operation : String}
    (h : x.fits t (.insertStream id credit operation : Pc V) = true) :
    id ∈ x.streams ∧ t ∈ x.threads := by
  rw [Scope.fits] at h
  split at h
  · next ht => exact ⟨of_decide_eq_true h, ht⟩
  · simp [Scope.foreign, Pc.mayOpen] at h

theorem InSession.move (hs : InSession x s) (hpc : x.fits t pc = true)
    (hm : Server.move s t pc k = some m) : InSession x m.shared := by
  have hstep : m.shared.session = s.session ∧
      (m.shared.streams = s.streams ∨ (∃ id, m.shared.streams = s.streams.erase id) ∨
        ∃ id credit operation, pc = .insertStream id credit operation ∧
          m.shared.streams = s.streams.insert id t) := by
    refine move_streams ?_ hm
    by_cases ht : t ∈ x.threads
    · rw [Scope.fits, if_pos ht] at hpc
      exact handshakes_of_within hpc
    · rw [Scope.fits, if_neg ht, Scope.foreign, Bool.and_eq_true] at hpc
      exact handshakes_of_within hpc.1
  refine ⟨hstep.1.trans hs.session, fun id ref hid => ?_⟩
  rcases hstep.2 with heq | ⟨id', heq⟩ | ⟨id', credit, operation, rfl, heq⟩
  · rw [heq] at hid
    exact hs.streams id ref hid
  · grind [old_of_erase, hs.streams]
  · grind [getElem?_insert_nat, fits_insertStream, hs.streams]

theorem mayOpen_move (hpc : pc.mayOpen = false)
    (hreceive : ∀ message, pc = .receive message → s.session ≠ message.session)
    (hm : Server.move s t pc k = some m) : m.next.mayOpen = false := by
  obtain ⟨s', next, child⟩ := m
  have hmoves : Moves s t pc k s' next := (move_moves hm).1
  cases hmoves with
  | receive message _ hsession => exact absurd hsession (hreceive message rfl)
  | returned kind requestId wasCancelled success =>
    change (kind.isStream && success) = false
    rw [show kind.isStream = false from hpc, Bool.false_and]
  | retire kind requestId opened => cases kind <;> cases opened <;> first | rfl | cases hpc
  | takeStreams => cases s.streams.toList <;> rfl
  | rememberEntry streamId taken => cases taken <;> rfl
  | _ => first | rfl | exact hpc

theorem fits_move (hs : InSession x s) (hpc : x.fits t pc = true)
    (hm : Server.move s t pc k = some m) : x.fits t m.next = true := by
  by_cases ht : t ∈ x.threads
  · rw [Scope.fits, if_pos ht] at hpc ⊢
    refine within_move (fun message hmessage _ => within_afterSession hmessage)
      (fun streamId ref _ hfound => ?_) hpc hm
    exact decide_eq_true (hs.streams streamId ref hfound).2
  · rw [Scope.fits, if_neg ht, Scope.foreign, Bool.and_eq_true, Bool.not_eq_true'] at hpc ⊢
    have hstrange : ∀ message : Message V, decide (message.session ≠ some x.session) = true →
        s.session ≠ message.session := by grind [hs.session]
    refine ⟨within_move ?_ ?_ hpc.1 hm, mayOpen_move hpc.2 ?_ hm⟩
    · grind
    · grind [hs.streams]
    · rintro message rfl
      exact hstrange message hpc.1

theorem apart_valid (x : Scope) : (apart x).Valid (program (V := V)) x.guard where
  start _ _ _ _ _ hg := hg
  start_pair _ _ _ _ _ _ _ _ _ _ := ⟨trivial, trivial⟩
  move _ _ _ _ _ hs hpc _ hm := ⟨hs.move hpc hm, fits_move hs hpc hm⟩
  child _ _ _ _ _ _ _ _ _ _ hm hc := by
    rw [(move_moves hm).2] at hc
    cases hc
  other _ _ _ _ _ _ _ _ _ hu _ _ _ _ _ _ := ⟨hu, trivial, trivial⟩
  child_pair _ _ _ _ _ _ _ _ _ _ _ _ _ _ _ _ _ _ _ _ := ⟨trivial, trivial⟩

end

/-! ## A thread of the session sees only what belongs to it -/

theorem registerRequest_congr {entries entries' : CancellationRegistry} {requestId : Nat}
    (h : entries[requestId]? = entries'[requestId]?) (token : Nat) :
    (registerRequest entries requestId token = none ∧
      registerRequest entries' requestId token = none) ∨
    ∃ wasCancelled,
      registerRequest entries requestId token = some (entries.insert requestId
        { token := some token, cancelled := wasCancelled }, wasCancelled) ∧
      registerRequest entries' requestId token = some (entries'.insert requestId
        { token := some token, cancelled := wasCancelled }, wasCancelled) := by
  unfold registerRequest
  rw [h]
  by_cases hused : (entries'[requestId]?.bind CancellationEntry.token).isSome = true
  · grind
  · grind

theorem getElem?_insert_congr {β : Type} {m m' : ExtTreeMap Nat β} {id : Nat}
    (h : m[id]? = m'[id]?) (key : Nat) (v : β) : (m.insert key v)[id]? = (m'.insert key v)[id]? := by
  rw [getElem?_insert_nat, getElem?_insert_nat, h]

theorem getElem?_erase_congr {β : Type} {m m' : ExtTreeMap Nat β} {id : Nat}
    (h : m[id]? = m'[id]?) (key : Nat) : (m.erase key)[id]? = (m'.erase key)[id]? := by
  rw [getElem?_erase_nat, getElem?_erase_nat, h]

theorem getElem?_modify_congr {β : Type} {m m' : ExtTreeMap Nat β} {id : Nat}
    (h : m[id]? = m'[id]?) (key : Nat) (f : β → β) :
    (m.modify key f)[id]? = (m'.modify key f)[id]? := by
  rw [getElem?_modify_nat, getElem?_modify_nat]
  split
  · next hkey => rw [hkey, h]
  · exact h

section

variable {x : Scope} {s d : Shared} {t : Nat} {pc : Pc V} {k : Input V}
  {m n : Moved Shared (Pc V)}

/-- A step that only looks where the two servers agree takes the same branch. -/
theorem branch_agree (h : Agree x s d) {p : Prop} [Decidable p] {yes no : Pc V}
    (hm : (if p then some ⟨s, yes, none⟩ else some ⟨s, no, none⟩) = some m)
    (hn : (if p then some ⟨d, yes, none⟩ else some ⟨d, no, none⟩) = some n) :
    Agree x m.shared n.shared ∧ m.next = n.next := by
  by_cases hp : p
  · grind
  · grind

/-- A step of a call works on the entry of its stream, which is the same in both. -/
theorem call_agree (h : Agree x s d) {streamId ref : Nat} {pc : CallPc V}
    (href : ref ∈ x.threads) (hgs : x.sparedBy s (.call streamId ref pc : Pc V) = true)
    (hgd : x.sparedBy d (.call streamId ref pc : Pc V) = true)
    (hm : move s t (.call streamId ref pc) k = some m)
    (hn : move d t (.call streamId ref pc) k = some n) :
    Agree x m.shared n.shared ∧ m.next = n.next := by
  obtain ⟨s', next, child⟩ := m
  have hmoves : Moves s t (.call streamId ref pc) k s' next := (call_moves hm).1
  cases hmoves with
  | unlink _ _ =>
    cases hn
    exact ⟨h.set_streams (fun id hid => getElem?_erase_congr (h.streams id hid) _), rfl⟩
  | remember _ _ =>
    cases hn
    refine ⟨h.set_retiredStreams (fun id hid => ?_), rfl⟩
    rw [getElem?_remember hgs hid, getElem?_remember hgd hid, h.retiredStreams id hid]
  | onEntry _ _ _ pc' choice entry entry' effects hentry hmove =>
    rw [h.entries ref href] at hentry
    rw [h.capability] at hmove
    obtain ⟨d', next', child'⟩ := n
    have hmoves' : Moves d t (.call streamId ref pc) (.call choice) d' next' :=
      (call_moves hn).1
    cases hmoves' with
    | unlink | remember => cases choice <;> cases hmove
    | refuse _ _ _ hrefuse => cases hrefuse
    | onEntry _ _ _ pc'' _ found found' effects' hfound hmove' =>
      grind [getElem?_insert_congr, Agree.set_entries, h.set_entries, h.entries]
  | refuse _ _ _ hrefuse => cases hrefuse

/-- **The same step of a thread of the session in two servers that agree** leads to the same
place, and the servers still agree. -/
theorem mine_agree (h : Agree x s d) (hpc : x.mine pc = true) (hgs : x.sparedBy s pc = true)
    (hgd : x.sparedBy d pc = true) (hm : move s t pc k = some m) (hn : move d t pc k = some n) :
    Agree x m.shared n.shared ∧ m.next = n.next := by
  cases pc with
  | handshake verified => cases verified <;> cases hm <;> cases hn <;> exact ⟨h, rfl⟩
  | receive =>
    simp only [move, h.session] at hm hn
    exact branch_agree h hm hn
  | openRetired requestId streamId => grind [Scope.mine, Pc.within, move, h.retiredStreams]
  | openActive requestId streamId =>
    simp only [Scope.mine, Pc.within, Bool.and_eq_true, decide_eq_true_eq] at hpc
    simp only [move, h.streams streamId hpc.2] at hm hn
    exact branch_agree h hm hn
  | acquire =>
    cases k with
    | permit admitted => cases admitted <;> cases hm <;> cases hn <;> exact ⟨h, rfl⟩
    | _ => cases hm
  | checkRetired kind requestId =>
    simp only [Scope.mine, Pc.within, Bool.and_eq_true, decide_eq_true_eq] at hpc
    simp only [move, h.retired requestId hpc.1] at hm hn
    exact branch_agree h hm hn
  | register kind requestId =>
    simp only [Scope.mine, Pc.within, Bool.and_eq_true, decide_eq_true_eq] at hpc
    simp only [move] at hm hn
    rcases registerRequest_congr (h.cancellations requestId hpc.1) t with
      ⟨hs, hd⟩ | ⟨wasCancelled, hs, hd⟩
    · grind
    · grind [getElem?_insert_congr, Agree.set_cancellations, h.set_cancellations, h.cancellations]
  | running =>
    cases k <;> cases hm
    cases hn
    exact ⟨h, rfl⟩
  | removeEntry =>
    cases hm
    cases hn
    exact ⟨h.set_cancellations (fun id hid =>
      getElem?_erase_congr (h.cancellations id hid) _), rfl⟩
  | retire =>
    cases hm
    cases hn
    refine ⟨h.set_retired (fun id hid => ?_), rfl⟩
    rw [getElem?_remember hgs hid, getElem?_remember hgd hid, h.retired id hid]
  | insertStream =>
    cases hm
    cases hn
    exact ⟨(h.set_streams (fun id hid => getElem?_insert_congr (h.streams id hid) _ _)).set_entries
      (fun ref href => getElem?_insert_congr (h.entries ref href) _ _), rfl⟩
  | lookup c =>
    simp only [Scope.mine, Pc.within, decide_eq_true_eq] at hpc
    simp only [move, h.streams c.streamId hpc] at hm hn
    split at hm <;> cases hm
    · grind
    · grind
  | call => grind [Scope.mine, Pc.within, call_agree]
  | cancelRequest requestId =>
    simp only [Scope.mine, Pc.within, decide_eq_true_eq] at hpc
    cases hm
    cases hn
    refine ⟨h.set_cancellations (fun id hid => ?_), rfl⟩
    rw [getElem?_cancelRequest hgs hid, getElem?_cancelRequest hgd hid,
      h.cancellations id hid, h.cancellations requestId hpc]
  | cancelRemove streamId =>
    simp only [Scope.mine, Pc.within, decide_eq_true_eq] at hpc
    simp only [move, h.streams streamId hpc] at hm hn
    split at hm <;> cases hm
    · grind
    · grind [getElem?_erase_congr, Agree.set_streams, h.set_streams, h.streams]
  | cancelStore | cancelRelease =>
    cases hm
    cases hn
    exact ⟨h.set_entries (fun ref' href => getElem?_modify_congr (h.entries ref' href) _ _), rfl⟩
  | cancelProvider =>
    cases hm
    cases hn
    exact ⟨h, rfl⟩
  | cancelRemember =>
    cases hm
    cases hn
    refine ⟨h.set_retiredStreams (fun id hid => ?_), rfl⟩
    rw [getElem?_remember hgs hid, getElem?_remember hgd hid, h.retiredStreams id hid]
  | acknowledged => cases hm
  | refused => cases hm
  | done => cases hm
  | _ => cases hpc

end

/-! ## Two runs -/

/-- Two servers with their threads agree on what belongs to the session. -/
structure Alike (x : Scope) (c d : Threads Shared (Pc V)) : Prop where
  shared : Agree x c.shared d.shared
  pool : ∀ t ∈ x.threads, c.pool[t]? = d.pool[t]?

/-- The actions of the session: its messages coming in and the steps of their handlers. -/
def Scope.visible (x : Scope) : Act (Pc V) (Input V) → Bool
  | .start t _ => decide (t ∈ x.threads)
  | .move t _ _ => decide (t ∈ x.threads)

section

variable {x : Scope} {c c' d d' : Threads Shared (Pc V)}

/-- The shared state and the threads after a move; nobody starts a thread. -/
theorem step_move_cases {t child : Nat} {k : Input V}
    (h : program.step c (.move t k child) = some c') :
    ∃ pc m, c.pool[t]? = some pc ∧ move c.shared t pc k = some m ∧ c'.shared = m.shared ∧
      ∀ u : Nat, c'.pool[u]? = if t = u then some m.next else c.pool[u]? := by
  rcases Program.step_cases h with ⟨_, _, hact, _⟩ | ⟨t', k', child', pc, m, hact, hpc, hm, hsh, hp⟩
  · cases hact
  · cases hact
    refine ⟨pc, m, hpc, hm, hsh, fun u => ?_⟩
    rcases hp with ⟨-, hp⟩ | ⟨pc', hc, -⟩
    · rw [hp]
      exact getElem?_insert_nat _ _ _ _
    · rw [(move_moves hm).2] at hc
      cases hc

theorem step_start_cases {t : Nat} {pc : Pc V} (h : program.step c (.start t pc) = some c') :
    c'.shared = c.shared ∧ ∀ u : Nat, c'.pool[u]? = if t = u then some pc else c.pool[u]? := by
  rcases Program.step_cases h with ⟨_, _, hact, -, -, rfl⟩ | ⟨_, _, _, _, _, hact, _⟩
  · grind
  · cases hact

theorem alike_hidden {a : Act (Pc V) (Input V)} (hc : (apart x).Holds c)
    (hg : x.guard.Allows c a) (hvis : x.visible a = false) (h : program.step c a = some c') :
    Alike x c' c := by
  cases a with
  | start t =>
    obtain ⟨hsh, hpool⟩ := step_start_cases h
    refine ⟨by rw [hsh]; exact .refl _ _, fun u hu => ?_⟩
    have htu : t ≠ u := by
      rintro rfl
      exact of_decide_eq_false hvis hu
    rw [hpool, if_neg htu]
  | move t =>
    have ht := of_decide_eq_false hvis
    obtain ⟨pc, m, hpc, hm, hsh, hpool⟩ := step_move_cases h
    have hfits : x.fits t pc = true := hc.at_ t pc hpc
    rw [Scope.fits, if_neg ht] at hfits
    refine ⟨?_, fun u hu => ?_⟩
    · rw [hsh]
      exact foreign_frame hfits (hg pc hpc).1 hm
    · grind

theorem alike_shown {a : Act (Pc V) (Input V)} (hc : (apart x).Holds c) (h : Alike x c d)
    (hgc : x.guard.Allows c a) (hgd : x.guard.Allows d a) (hvis : x.visible a = true)
    (hs : program.step c a = some c') (hs' : program.step d a = some d') : Alike x c' d' := by
  cases a with
  | start =>
    obtain ⟨hsh, hpool⟩ := step_start_cases hs
    obtain ⟨hsh', hpool'⟩ := step_start_cases hs'
    refine ⟨by rw [hsh, hsh']; exact h.shared, fun u hu => ?_⟩
    rw [hpool, hpool', h.pool u hu]
  | move t =>
    have ht := of_decide_eq_true hvis
    obtain ⟨pc, m, hpc, hm, hsh, hpool⟩ := step_move_cases hs
    obtain ⟨pc', m', hpc', hm', hsh', hpool'⟩ := step_move_cases hs'
    rw [← h.pool t ht, hpc, Option.some.injEq] at hpc'
    subst hpc'
    have hfits : x.fits t pc = true := hc.at_ t pc hpc
    rw [Scope.fits, if_pos ht] at hfits
    have hpcd : d.pool[t]? = some pc := by rw [← h.pool t ht, hpc]
    obtain ⟨hagree, hnext⟩ :=
      mine_agree h.shared hfits (hgc pc hpc).1 (hgd pc hpcd).1 hm hm'
    refine ⟨by rw [hsh, hsh']; exact hagree, fun u hu => ?_⟩
    rw [hpool, hpool', hnext, h.pool u hu]

end

theorem alike_unwinds (x : Scope) :
    Unwinds (program (V := V)).step x.guard.Allows (apart x).Holds (Alike x) x.visible where
  symm _ _ h := ⟨h.shared.symm, fun t ht => (h.pool t ht).symm⟩
  trans _ _ _ h h' := ⟨h.shared.trans h'.shared, fun t ht => (h.pool t ht).trans (h'.pool t ht)⟩
  inv _ _ _ hc hg hs := hc.step (apart_valid x) hg hs
  hidden _ _ _ hc hg hvis hs := alike_hidden hc hg hvis hs
  shown _ _ _ _ _ hc _ h hgc hgd hvis hs hs' := alike_shown hc h hgc hgd hvis hs hs'

/-- What the handshake of the session has to leave behind: the session is the current one, no
stream is live, nothing is known of the session's ids, none of its threads has started, and every
thread there is keeps away from its ids. -/
structure CleanSlate (x : Scope) (c : Threads Shared (Pc V)) : Prop where
  session : c.shared.session = some x.session
  streams : c.shared.streams = ∅
  cancellations : ∀ id ∈ x.requests, c.shared.cancellations[id]? = none
  retired : ∀ id ∈ x.requests, c.shared.retired[id]? = none
  retiredStreams : ∀ id ∈ x.streams, c.shared.retiredStreams[id]? = none
  entries : ∀ ref ∈ x.threads, c.shared.entries[ref]? = none
  fresh : ∀ t ∈ x.threads, c.pool[t]? = none
  foreign : ∀ (t : Nat) (pc : Pc V), c.pool[t]? = some pc → x.foreign pc = true

instance (x : Scope) (c : Threads Shared (Pc V)) : Decidable (CleanSlate x c) :=
  decidable_of_iff
    (c.shared.session = some x.session ∧ c.shared.streams.isEmpty = true ∧
      (∀ id ∈ x.requests, c.shared.cancellations[id]? = none ∧ c.shared.retired[id]? = none) ∧
      (∀ id ∈ x.streams, c.shared.retiredStreams[id]? = none) ∧
      (∀ t ∈ x.threads, c.shared.entries[t]? = none ∧ c.pool[t]? = none) ∧
      ∀ p ∈ c.pool.toList, x.foreign p.2 = true)
    ⟨fun ⟨hsession, hstreams, hrequests, hretired, hthreads, hforeign⟩ =>
      { session := hsession
        streams := ExtTreeMap.isEmpty_iff.mp hstreams
        cancellations := fun id hid => (hrequests id hid).1
        retired := fun id hid => (hrequests id hid).2
        retiredStreams := hretired
        entries := fun t ht => (hthreads t ht).1
        fresh := fun t ht => (hthreads t ht).2
        foreign := fun t pc hpc =>
          hforeign (t, pc) (ExtTreeMap.mem_toList_iff_getElem?_eq_some.mpr hpc) },
      fun h => ⟨h.session, ExtTreeMap.isEmpty_iff.mpr h.streams,
        fun id hid => ⟨h.cancellations id hid, h.retired id hid⟩, h.retiredStreams,
        fun t ht => ⟨h.entries t ht, h.fresh t ht⟩,
        fun p hp => h.foreign p.1 p.2 (ExtTreeMap.mem_toList_iff_getElem?_eq_some.mp hp)⟩⟩

section

variable {x : Scope} {c d : Threads Shared (Pc V)}

theorem CleanSlate.apart (h : CleanSlate x c) : (Server.apart x).Holds c := by
  refine ⟨⟨h.session, ?_⟩, ?_, fun _ _ _ _ _ _ _ => trivial⟩
  · grind [h.streams]
  · intro t pc hpc
    change x.fits t pc = true
    have ht : t ∉ x.threads := by grind [h.fresh]
    rw [Scope.fits, if_neg ht]
    exact h.foreign t pc hpc

theorem CleanSlate.alike (hc : CleanSlate x c) (hd : CleanSlate x d)
    (hcap : c.shared.capability = d.shared.capability) : Alike x c d := by
  refine ⟨⟨hcap, hc.session.trans hd.session.symm, ?_, ?_, ?_, ?_, ?_⟩, ?_⟩
  · exact fun id hid => (hc.cancellations id hid).trans (hd.cancellations id hid).symm
  · exact fun id hid => (hc.retired id hid).trans (hd.retired id hid).symm
  · exact fun id _ => by rw [hc.streams, hd.streams]
  · exact fun ref href => (hc.entries ref href).trans (hd.entries ref href).symm
  · exact fun id hid => (hc.retiredStreams id hid).trans (hd.retiredStreams id hid).symm
  · exact fun t ht => (hc.fresh t ht).trans (hd.fresh t ht).symm

end

/-- A handshake from its message to its acknowledgement, while no stream is live. -/
def handshakeActs (t : Nat) : List (Act (Pc Nat) (Input Nat)) :=
  .start t (.handshake true) :: List.replicate 6 (.move t .go 0)

def requestActs (t requestId session : Nat) : List (Act (Pc Nat) (Input Nat)) :=
  [.start t (.receive (.work .request requestId (some (sessionName session)) true)),
    .move t .go 0, .move t (.permit true) 0, .move t .go 0, .move t .go 0]

/-- A stream open up to the moment its stream is stored. -/
def openActs (t requestId streamId session : Nat) : List (Act (Pc Nat) (Input Nat)) :=
  [.start t (.receive (.work (.stream streamId 8 "watch") requestId
      (some (sessionName session)) true)),
    .move t .go 0, .move t .go 0, .move t .go 0, .move t (.permit true) 0, .move t .go 0,
    .move t .go 0, .move t (.opened true) 0, .move t .go 0, .move t .go 0, .move t .go 0]

def cancelActs (t requestId session : Nat) : List (Act (Pc Nat) (Input Nat)) :=
  [.start t (.receive (.cancel requestId (sessionName session))), .move t .go 0, .move t .go 0]

end LensoBun.Provider.Server
