import LensoBun.Provider.Registry
import LensoBun.Provider.StreamSteps

set_option autoImplicit false

/-! # The handlers of the provider server side by side

Handshakes, requests, events, stream opens, stream calls and cancels as threads over the tables
of `ProviderState` (`server.rs`): the current session, the cancellation registry, the retired
request ids, the streams and the retired stream ids. Each lock section and each atomic access of
the source is one step.

What the tables do not decide is chosen from outside: the admission counter's verdict, whether an
event queue has room, what the provider's callbacks answer. The entry of a stream is known by
the number of the thread that opened it.
-/

namespace LensoBun.Provider.Server

open Std Lib

variable {V : Type}

structure Shared where
  capability : String
  session : Option String
  nextSessionId : Nat
  cancellations : CancellationRegistry
  retired : IdSet
  streams : ExtTreeMap Nat Nat
  entries : ExtTreeMap Nat ProviderStreamEntry
  retiredStreams : IdSet

/-- What a handler with a request id of its own is for. -/
inductive Kind where
  | request
  | event
  | stream (streamId credit : Nat) (operation : String)
  deriving DecidableEq, Repr

/-- A message of a session. `valid` is the result of the checks on the message alone: its
extensions, its capability and operation, its credit, its caller instance. -/
inductive Message (V : Type) where
  | work (kind : Kind) (requestId : Nat) (session : Option String) (valid : Bool)
  | call (call : WireStreamCall V)
  | cancel (requestId : Nat) (session : String)
  | streamCancel (streamId : Nat) (session : String)

def Message.session : Message V → Option String
  | .work _ _ session _ => session
  | .call c => some c.session
  | .cancel _ session => some session
  | .streamCancel _ session => some session

inductive Refusal where
  | session
  | invalid
  | streamReused
  | requestReused
  | resourceExhausted
  | unknownStream
  deriving DecidableEq, Repr

inductive Pc (V : Type) where
  /-- `handle_handshake`, with the verdict of `verify_handshake`. -/
  | handshake (verified : Bool)
  /-- `cancel_all_streams`: the table is taken, then each entry is cancelled in turn. -/
  | takeStreams
  | cancelEntries (taken : List (Nat × Nat))
  | cancelEntryProvider (streamId : Nat) (taken : List (Nat × Nat))
  | rememberEntry (streamId : Nat) (taken : List (Nat × Nat))
  | clearRetiredStreams
  | nextSession
  | storeSession (session : String)
  | clearRetired (session : String)
  /-- The acknowledgement, with the session if the handshake was accepted. -/
  | acknowledged (session : Option String)
  | receive (message : Message V)
  /-- `handle_stream_open`: the look at the retired stream ids, then at the streams. -/
  | openRetired (requestId streamId credit : Nat) (operation : String)
  | openActive (requestId streamId credit : Nat) (operation : String) (retired : Bool)
  | acquire (kind : Kind) (requestId : Nat)
  | checkRetired (kind : Kind) (requestId : Nat)
  | register (kind : Kind) (requestId : Nat)
  /-- Registered; the provider's callback, or for an event its place in the queue and then the
  callback. -/
  | running (kind : Kind) (requestId : Nat) (wasCancelled : Bool)
  | removeEntry (kind : Kind) (requestId : Nat) (opened : Bool)
  | retire (kind : Kind) (requestId : Nat) (opened : Bool)
  | insertStream (streamId credit : Nat) (operation : String)
  | lookup (call : WireStreamCall V)
  | call (streamId ref : Nat) (pc : CallPc V)
  | cancelRequest (requestId : Nat)
  /-- `handle_stream_cancel`: the table, the flag, the provider, the retired ids, the permit. -/
  | cancelRemove (streamId : Nat)
  | cancelStore (streamId ref : Nat)
  | cancelProvider (streamId ref : Nat)
  | cancelRemember (streamId ref : Nat)
  | cancelRelease (ref : Nat)
  | refused (refusal : Refusal)
  | done

inductive Input (V : Type) where
  | go
  | permit (admitted : Bool)
  /-- Whether `open_stream` has returned a stream. -/
  | opened (success : Bool)
  | call (choice : Choice V)

/-- The name of the session a handshake creates. -/
def sessionName (id : Nat) : String := "lenso-bun-session-" ++ toString id

/-- A handler with a request id, when its session and its message are in order. -/
def afterChecks (requestId : Nat) : Kind → Pc V
  | .request => .acquire .request requestId
  | .event => .checkRetired .event requestId
  | .stream streamId credit operation => .openRetired requestId streamId credit operation

/-- What a handler does when its session is the current one. -/
def afterSession : Message V → Pc V
  | .work kind requestId _ valid =>
    if valid then afterChecks requestId kind else .refused .invalid
  | .call c => .lookup c
  | .cancel requestId _ => .cancelRequest requestId
  | .streamCancel streamId _ => .cancelRemove streamId

/-- Where `cancel_all_streams` goes on. -/
def nextEntry : List (Nat × Nat) → Pc V
  | [] => .clearRetiredStreams
  | taken => .cancelEntries taken

/-- A handler whose id has been removed: an opened stream is still to be stored. -/
def afterRemoval (kind : Kind) (opened : Bool) : Pc V :=
  match kind, opened with
  | .stream streamId credit operation, true => .insertStream streamId credit operation
  | _, _ => .done

def Shared.rememberStream (s : Shared) (streamId : Nat) : Shared :=
  { s with
    retiredStreams := rememberRequestId s.retiredStreams streamId maxRetiredRequestIds }

def Shared.updateEntry (s : Shared) (ref : Nat)
    (f : ProviderStreamEntry → ProviderStreamEntry) : Shared :=
  { s with entries := s.entries.modify ref f }

/-- One step of the thread `t`. -/
def move (s : Shared) (t : Nat) : Pc V → Input V → Option (Moved Shared (Pc V))
  | .handshake verified, _ =>
    some ⟨s, if verified then .takeStreams else .acknowledged none, none⟩
  | .takeStreams, _ => some ⟨{ s with streams := ∅ }, nextEntry s.streams.toList, none⟩
  | .cancelEntries [], _ => none
  | .cancelEntries ((streamId, ref) :: taken), _ =>
    some ⟨s.updateEntry ref (fun entry => { entry with cancelled := true }),
      .cancelEntryProvider streamId taken, none⟩
  | .cancelEntryProvider streamId taken, _ => some ⟨s, .rememberEntry streamId taken, none⟩
  | .rememberEntry streamId taken, _ =>
    some ⟨s.rememberStream streamId, nextEntry taken, none⟩
  | .clearRetiredStreams, _ => some ⟨{ s with retiredStreams := ∅ }, .nextSession, none⟩
  | .nextSession, _ =>
    some ⟨{ s with nextSessionId := s.nextSessionId + 1 },
      .storeSession (sessionName s.nextSessionId), none⟩
  | .storeSession session, _ =>
    some ⟨{ s with session := some session }, .clearRetired session, none⟩
  | .clearRetired session, _ =>
    some ⟨{ s with retired := ∅ }, .acknowledged (some session), none⟩
  | .receive message, _ =>
    if s.session = message.session then some ⟨s, afterSession message, none⟩
    else some ⟨s, .refused .session, none⟩
  | .openRetired requestId streamId credit operation, _ =>
    some ⟨s, .openActive requestId streamId credit operation
      s.retiredStreams[streamId]?.isSome, none⟩
  | .openActive requestId streamId credit operation retired, _ =>
    if retired || s.streams[streamId]?.isSome then some ⟨s, .refused .streamReused, none⟩
    else some ⟨s, .acquire (.stream streamId credit operation) requestId, none⟩
  | .acquire kind requestId, .permit admitted =>
    if admitted then some ⟨s, .checkRetired kind requestId, none⟩
    else some ⟨s, .refused .resourceExhausted, none⟩
  | .checkRetired kind requestId, _ =>
    if s.retired[requestId]?.isSome then some ⟨s, .refused .requestReused, none⟩
    else some ⟨s, .register kind requestId, none⟩
  | .register kind requestId, _ =>
    match registerRequest s.cancellations requestId t with
    | none => some ⟨s, .refused .requestReused, none⟩
    | some (entries, wasCancelled) =>
      some ⟨{ s with cancellations := entries }, .running kind requestId wasCancelled, none⟩
  | .running kind requestId _, .opened success =>
    some ⟨s, .removeEntry kind requestId success, none⟩
  | .removeEntry kind requestId opened, _ =>
    some ⟨{ s with cancellations := s.cancellations.erase requestId },
      .retire kind requestId opened, none⟩
  | .retire kind requestId opened, _ =>
    some ⟨{ s with retired := rememberRequestId s.retired requestId maxRetiredRequestIds },
      afterRemoval kind opened, none⟩
  | .insertStream streamId credit operation, _ =>
    some ⟨{ s with streams := s.streams.insert streamId t
                   entries := s.entries.insert t (.opened operation credit) }, .done, none⟩
  | .lookup c, _ =>
    match s.streams[c.streamId]? with
    | none => some ⟨s, .refused .unknownStream, none⟩
    | some ref => some ⟨s, .call c.streamId ref (.cancelled c), none⟩
  | .call streamId ref (.unlink outcome), _ =>
    some ⟨{ s with streams := s.streams.erase streamId },
      .call streamId ref (.remember outcome), none⟩
  | .call streamId ref (.remember outcome), _ =>
    some ⟨s.rememberStream streamId, .call streamId ref (.release outcome), none⟩
  | .call streamId ref pc, .call choice =>
    match s.entries[ref]? with
    | none => none
    | some entry =>
      match callMove s.capability entry pc choice with
      | none => none
      | some (entry', pc', _) =>
        some ⟨{ s with entries := s.entries.insert ref entry' },
          .call streamId ref pc', none⟩
  | .cancelRequest requestId, _ =>
    some ⟨{ s with cancellations := Provider.cancelRequest s.cancellations requestId },
      .done, none⟩
  | .cancelRemove streamId, _ =>
    match s.streams[streamId]? with
    | none => some ⟨s, .done, none⟩
    | some ref =>
      some ⟨{ s with streams := s.streams.erase streamId }, .cancelStore streamId ref, none⟩
  | .cancelStore streamId ref, _ =>
    some ⟨s.updateEntry ref (fun entry => { entry with cancelled := true }),
      .cancelProvider streamId ref, none⟩
  | .cancelProvider streamId ref, _ => some ⟨s, .cancelRemember streamId ref, none⟩
  | .cancelRemember streamId ref, _ =>
    some ⟨s.rememberStream streamId, .cancelRelease ref, none⟩
  | .cancelRelease ref, _ =>
    some ⟨s.updateEntry ref (fun entry => { entry with permit := false }), .done, none⟩
  | _, _ => none

/-- A handler starts when its message comes in. -/
def Pc.starts : Pc V → Bool
  | .handshake _ | .receive _ => true
  | _ => false

def program : Program Shared (Pc V) (Input V) := ⟨Pc.starts, move⟩

def init (capability : String) : Threads Shared (Pc V) :=
  { shared :=
      { capability := capability, session := none, nextSessionId := 1, cancellations := ∅
        retired := ∅, streams := ∅, entries := ∅, retiredStreams := ∅ }
    pool := ∅ }

/-! ## What a step can do -/

/-- The places at which a handler may refuse its message. -/
def Pc.mayRefuse : Pc V → Bool
  | .receive _ | .openActive _ _ _ _ _ | .acquire _ _ | .checkRetired _ _ | .register _ _
  | .lookup _ => true
  | _ => false

/-- What a step of the thread `t` does: the shared state and the place it leaves. -/
inductive Moves (s : Shared) (t : Nat) : Pc V → Input V → Shared → Pc V → Prop where
  | reject (k : Input V) : Moves s t (.handshake false) k s (.acknowledged none)
  | accept (k : Input V) : Moves s t (.handshake true) k s .takeStreams
  | takeStreams (k : Input V) :
      Moves s t .takeStreams k { s with streams := ∅ } (nextEntry s.streams.toList)
  | cancelEntry (streamId ref : Nat) (taken : List (Nat × Nat)) (k : Input V) :
      Moves s t (.cancelEntries ((streamId, ref) :: taken)) k
        (s.updateEntry ref (fun entry => { entry with cancelled := true }))
        (.cancelEntryProvider streamId taken)
  | cancelEntryProvider (streamId : Nat) (taken : List (Nat × Nat)) (k : Input V) :
      Moves s t (.cancelEntryProvider streamId taken) k s (.rememberEntry streamId taken)
  | rememberEntry (streamId : Nat) (taken : List (Nat × Nat)) (k : Input V) :
      Moves s t (.rememberEntry streamId taken) k (s.rememberStream streamId) (nextEntry taken)
  | clearRetiredStreams (k : Input V) :
      Moves s t .clearRetiredStreams k { s with retiredStreams := ∅ } .nextSession
  | nextSession (k : Input V) :
      Moves s t .nextSession k { s with nextSessionId := s.nextSessionId + 1 }
        (.storeSession (sessionName s.nextSessionId))
  | storeSession (session : String) (k : Input V) :
      Moves s t (.storeSession session) k { s with session := some session }
        (.clearRetired session)
  | clearRetired (session : String) (k : Input V) :
      Moves s t (.clearRetired session) k { s with retired := ∅ } (.acknowledged (some session))
  | receive (message : Message V) (k : Input V) (hsession : s.session = message.session) :
      Moves s t (.receive message) k s (afterSession message)
  | refuse (pc : Pc V) (k : Input V) (refusal : Refusal) (hpc : pc.mayRefuse = true)
      (hreceive : ∀ message, pc = .receive message → s.session ≠ message.session) :
      Moves s t pc k s (.refused refusal)
  | openRetired (requestId streamId credit : Nat) (operation : String) (k : Input V) :
      Moves s t (.openRetired requestId streamId credit operation) k s
        (.openActive requestId streamId credit operation s.retiredStreams[streamId]?.isSome)
  | openActive (requestId streamId credit : Nat) (operation : String) (k : Input V)
      (hfree : s.streams[streamId]? = none) :
      Moves s t (.openActive requestId streamId credit operation false) k s
        (.acquire (.stream streamId credit operation) requestId)
  | acquire (kind : Kind) (requestId : Nat) :
      Moves s t (.acquire kind requestId) (.permit true) s (.checkRetired kind requestId)
  | checkRetired (kind : Kind) (requestId : Nat) (k : Input V)
      (hfree : s.retired[requestId]? = none) :
      Moves s t (.checkRetired kind requestId) k s (.register kind requestId)
  | register (kind : Kind) (requestId : Nat) (k : Input V) (entries : CancellationRegistry)
      (wasCancelled : Bool)
      (hreg : registerRequest s.cancellations requestId t = some (entries, wasCancelled)) :
      Moves s t (.register kind requestId) k { s with cancellations := entries }
        (.running kind requestId wasCancelled)
  | returned (kind : Kind) (requestId : Nat) (wasCancelled success : Bool) :
      Moves s t (.running kind requestId wasCancelled) (.opened success) s
        (.removeEntry kind requestId success)
  | removeEntry (kind : Kind) (requestId : Nat) (opened : Bool) (k : Input V) :
      Moves s t (.removeEntry kind requestId opened) k
        { s with cancellations := s.cancellations.erase requestId } (.retire kind requestId opened)
  | retire (kind : Kind) (requestId : Nat) (opened : Bool) (k : Input V) :
      Moves s t (.retire kind requestId opened) k
        { s with retired := rememberRequestId s.retired requestId maxRetiredRequestIds }
        (afterRemoval kind opened)
  | insertStream (streamId credit : Nat) (operation : String) (k : Input V) :
      Moves s t (.insertStream streamId credit operation) k
        { s with streams := s.streams.insert streamId t
                 entries := s.entries.insert t (.opened operation credit) } .done
  | lookup (c : WireStreamCall V) (ref : Nat) (k : Input V)
      (hfound : s.streams[c.streamId]? = some ref) :
      Moves s t (.lookup c) k s (.call c.streamId ref (.cancelled c))
  | unlink (streamId ref : Nat) (outcome : WireStreamOutcome V) (k : Input V) :
      Moves s t (.call streamId ref (.unlink outcome)) k
        { s with streams := s.streams.erase streamId } (.call streamId ref (.remember outcome))
  | remember (streamId ref : Nat) (outcome : WireStreamOutcome V) (k : Input V) :
      Moves s t (.call streamId ref (.remember outcome)) k (s.rememberStream streamId)
        (.call streamId ref (.release outcome))
  | onEntry (streamId ref : Nat) (pc pc' : CallPc V) (choice : Choice V)
      (entry entry' : ProviderStreamEntry) (effects : List (StreamEffect V))
      (hentry : s.entries[ref]? = some entry)
      (hmove : callMove s.capability entry pc choice = some (entry', pc', effects)) :
      Moves s t (.call streamId ref pc) (.call choice)
        { s with entries := s.entries.insert ref entry' } (.call streamId ref pc')
  | cancelRequest (requestId : Nat) (k : Input V) :
      Moves s t (.cancelRequest requestId) k
        { s with cancellations := Provider.cancelRequest s.cancellations requestId } .done
  | cancelMissing (streamId : Nat) (k : Input V) (hfree : s.streams[streamId]? = none) :
      Moves s t (.cancelRemove streamId) k s .done
  | cancelRemove (streamId ref : Nat) (k : Input V) (hfound : s.streams[streamId]? = some ref) :
      Moves s t (.cancelRemove streamId) k { s with streams := s.streams.erase streamId }
        (.cancelStore streamId ref)
  | cancelStore (streamId ref : Nat) (k : Input V) :
      Moves s t (.cancelStore streamId ref) k
        (s.updateEntry ref (fun entry => { entry with cancelled := true }))
        (.cancelProvider streamId ref)
  | cancelProvider (streamId ref : Nat) (k : Input V) :
      Moves s t (.cancelProvider streamId ref) k s (.cancelRemember streamId ref)
  | cancelRemember (streamId ref : Nat) (k : Input V) :
      Moves s t (.cancelRemember streamId ref) k (s.rememberStream streamId) (.cancelRelease ref)
  | cancelRelease (ref : Nat) (k : Input V) :
      Moves s t (.cancelRelease ref) k
        (s.updateEntry ref (fun entry => { entry with permit := false })) .done

section

variable {s : Shared} {t : Nat} {k : Input V} {m : Moved Shared (Pc V)}

/-- A step of a stream call stays in the call, and is one on the table, one on the retired ids or
one on the entry. -/
theorem call_moves {streamId ref : Nat} {pc : CallPc V}
    (hm : move s t (.call streamId ref pc) k = some m) :
    Moves s t (.call streamId ref pc) k m.shared m.next ∧ m.child = none := by
  unfold move at hm
  repeat' split at hm
  all_goals grind [Moves]

/-- **Every step is one of those**, and none starts a thread. -/
theorem move_moves {pc : Pc V} (hm : move s t pc k = some m) :
    Moves s t pc k m.shared m.next ∧ m.child = none := by
  cases pc with
  | handshake verified =>
    cases verified <;> cases hm
    · exact ⟨.reject _, rfl⟩
    · exact ⟨.accept _, rfl⟩
  | cancelEntries taken =>
    cases taken <;> cases hm
    exact ⟨.cancelEntry .., rfl⟩
  | receive message =>
    by_cases hsession : s.session = message.session
    · have hmove : move s t (.receive message) k = some ⟨s, afterSession message, none⟩ :=
        if_pos hsession
      cases hmove.symm.trans hm
      exact ⟨.receive _ _ hsession, rfl⟩
    · have hmove : move s t (.receive message) k = some ⟨s, .refused .session, none⟩ :=
        if_neg hsession
      cases hmove.symm.trans hm
      exact ⟨.refuse _ _ _ rfl (fun _ h => by cases h; exact hsession), rfl⟩
  | openActive requestId streamId credit operation retired =>
    by_cases hused : (retired || s.streams[streamId]?.isSome) = true
    · have hmove : move s t (.openActive requestId streamId credit operation retired) k =
          some ⟨s, .refused .streamReused, none⟩ := if_pos hused
      cases hmove.symm.trans hm
      exact ⟨.refuse _ _ _ rfl (fun _ h => by cases h), rfl⟩
    · have hmove : move s t (.openActive requestId streamId credit operation retired) k =
          some ⟨s, .acquire (.stream streamId credit operation) requestId, none⟩ := if_neg hused
      cases hmove.symm.trans hm
      rw [Bool.or_eq_true, not_or, Bool.not_eq_true, Bool.not_eq_true,
        Option.isSome_eq_false_iff, Option.isNone_iff_eq_none] at hused
      obtain ⟨rfl, hfree⟩ := hused
      exact ⟨.openActive _ _ _ _ _ hfree, rfl⟩
  | acquire =>
    cases k with
    | permit admitted =>
      cases admitted <;> cases hm
      · exact ⟨.refuse _ _ _ rfl (fun _ h => by cases h), rfl⟩
      · exact ⟨.acquire .., rfl⟩
    | _ => cases hm
  | checkRetired kind requestId =>
    by_cases hused : s.retired[requestId]?.isSome = true
    · have hmove : move s t (.checkRetired kind requestId) k =
          some ⟨s, .refused .requestReused, none⟩ := if_pos hused
      cases hmove.symm.trans hm
      exact ⟨.refuse _ _ _ rfl (fun _ h => by cases h), rfl⟩
    · have hmove : move s t (.checkRetired kind requestId) k =
          some ⟨s, .register kind requestId, none⟩ := if_neg hused
      cases hmove.symm.trans hm
      rw [Bool.not_eq_true, Option.isSome_eq_false_iff, Option.isNone_iff_eq_none] at hused
      exact ⟨.checkRetired _ _ _ hused, rfl⟩
  | register =>
    simp only [move] at hm
    split at hm
    · cases hm
      exact ⟨.refuse _ _ _ rfl (fun _ h => by cases h), rfl⟩
    · next entries wasCancelled hreg =>
        cases hm
        exact ⟨.register _ _ _ _ _ hreg, rfl⟩
  | running =>
    cases k <;> cases hm
    exact ⟨.returned .., rfl⟩
  | lookup =>
    simp only [move] at hm
    split at hm
    · cases hm
      exact ⟨.refuse _ _ _ rfl (fun _ h => by cases h), rfl⟩
    · next ref hfound =>
        cases hm
        exact ⟨.lookup _ _ _ hfound, rfl⟩
  | call => exact call_moves hm
  | cancelRemove =>
    simp only [move] at hm
    split at hm
    · next hfree =>
        cases hm
        exact ⟨.cancelMissing _ _ hfree, rfl⟩
    · next ref hfound =>
        cases hm
        exact ⟨.cancelRemove _ _ _ hfound, rfl⟩
  | acknowledged => cases hm
  | refused => cases hm
  | done => cases hm
  | _ =>
    cases hm
    exact ⟨by constructor, rfl⟩

end

end LensoBun.Provider.Server
