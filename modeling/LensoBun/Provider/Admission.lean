import LensoBun.Lib.Census
import LensoBun.Provider.StreamCancel
import LensoBun.Provider.StreamOwners

set_option autoImplicit false

/-! # Admission permits of the provider server

The handlers of `Provider/Server.lean` together with the counter they are admitted by. A handler
asks for a permit in the loop of `try_acquire`, a load and a weak compare-exchange at a time. It has
the permit until it returns, or until it stores it in the entry of a stream; from there the permit is
taken once, by the handler that retires or cancels the stream or with the entry when nothing refers
to it any more. A permit that is taken or not stored is dropped, and the drop counts down.

When the last reference to an entry goes is not decided here: a thread may drop an entry at any time.
`granted` and `released` are not part of the source: the credit that each open has answered, and the
streams whose permit has been taken, in order. Neither is `credit` of a handler: it says that the
handler is a Send that has taken a credit and not given it back.
-/

namespace LensoBun.Provider.Admission

open Std Lib
open Server (Kind)

variable {V : Type}

/-! ## State -/

/-- `Admission`: the limit, a `usize` that `Admission::new` has made positive. -/
structure Limit where
  limit : Nat
  pos : 0 < limit
  fits : limit < 2 ^ 64

structure Shared where
  server : Server.Shared
  active : Nat
  granted : ExtTreeMap Nat Nat
  released : List Nat

inductive Pc (V : Type) where
  | handler (pc : Server.Pc V) (permit credit : Bool)
  /-- The loop of `try_acquire`, with what it has seen of the counter. -/
  | exchange (kind : Kind) (requestId seen : Nat)
  /-- The last reference to an entry is dropped. -/
  | dropEntry (ref : Nat)

inductive Input (V : Type) where
  | handler (k : Server.Input V)
  /-- Whether the compare-exchange fails for no reason. -/
  | exchange (spurious : Bool)

/-- `fetch_sub(1)` of an `AtomicUsize`. -/
def fetchSub (active : Nat) : Nat := (active + (2 ^ 64 - 1)) % 2 ^ 64

/-! ## Steps -/

/-- The loop of `try_acquire`. -/
def onExchange (a : Limit) (s : Shared) (kind : Kind) (requestId seen : Nat) (spurious : Bool) :
    Shared × Pc V :=
  if a.limit ≤ seen then
    (s, .handler (.refused .resourceExhausted) false false)
  else if s.active = seen ∧ spurious = false then
    ({ s with active := seen + 1 }, .handler (.checkRetired kind requestId) true false)
  else
    (s, .exchange kind requestId s.active)

/-- The entry out of which a step takes the permit. -/
def takesFrom : Server.Pc V → Option Nat
  | .cancelRelease ref | .call _ ref (.release _) => some ref
  | _ => none

/-- Whether a handler has a permit after a step: an open gives it to the entry, and what is taken
from an entry is in hand. -/
def permitAfter (s : Server.Shared) (permit : Bool) (pc : Server.Pc V) : Bool :=
  match pc, takesFrom pc with
  | .insertStream _ _ _, _ => false
  | _, some ref => s.permitAt ref
  | _, none => permit

def creditAfter (credit : Bool) (pc next : Server.Pc V) : Bool :=
  match pc, next with
  | .call _ _ (.sendCredit _ _ _), .call _ _ (.sendProvider _ _) => true
  | .call _ _ .sendAccepted, _ | .call _ _ (.sendRejected _), _ => false
  | _, _ => credit

def taken (s : Server.Shared) (ref : Option Nat) : List Nat := (ref.filter s.permitAt).toList

def grantedAfter (granted : ExtTreeMap Nat Nat) (t : Nat) : Server.Pc V → ExtTreeMap Nat Nat
  | .insertStream _ credit operation =>
    granted.insert t (ProviderStreamEntry.opened operation credit).inboundCredit
  | _ => granted

def onHandler (s : Shared) (t : Nat) (pc : Server.Pc V) (permit credit : Bool)
    (k : Server.Input V) : Option (Shared × Pc V) :=
  (Server.move s.server t pc k).map fun m =>
    ({ s with
        server := m.shared
        granted := grantedAfter s.granted t pc
        released := s.released ++ taken s.server (takesFrom pc) },
      .handler m.next (permitAfter s.server permit pc) (creditAfter credit pc m.next))

/-- A handler that has returned drops the permit it has. -/
def next (a : Limit) (s : Shared) (t : Nat) : Pc V → Input V → Option (Shared × Pc V)
  | .handler (.acquire kind requestId) _ _, _ => some (s, .exchange kind requestId s.active)
  | .handler pc permit credit, .handler k =>
    if permit && pc.finished then
      some ({ s with active := fetchSub s.active }, .handler pc false credit)
    else
      onHandler s t pc permit credit k
  | .exchange kind requestId seen, .exchange spurious =>
    some (onExchange a s kind requestId seen spurious)
  | .dropEntry ref, _ =>
    some ({ s with
        server := s.server.updateEntry ref fun entry => { entry with permit := false }
        released := s.released ++ taken s.server (some ref) },
      .handler .done (s.server.permitAt ref) false)
  | _, _ => none

def Pc.isEntry : Pc V → Bool
  | .handler pc permit credit => pc.starts && !permit && !credit
  | .exchange _ _ _ => false
  | .dropEntry _ => true

def program (a : Limit) : Program Shared (Pc V) (Input V) where
  entry := Pc.isEntry
  move s t pc k := (next a s t pc k).map fun p => ⟨p.1, p.2, none⟩

def init (capability : String) : Threads Shared (Pc V) where
  shared := ⟨(Server.init (V := V) capability).shared, 0, ∅, []⟩
  pool := ∅

/-! ## What a step can do -/

inductive Steps (a : Limit) (s : Shared) (t : Nat) : Pc V → Input V → Shared → Pc V → Prop where
  | load (kind : Kind) (requestId : Nat) (permit credit : Bool) (k : Input V) :
      Steps a s t (.handler (.acquire kind requestId) permit credit) k s
        (.exchange kind requestId s.active)
  | full (kind : Kind) (requestId seen : Nat) (k : Input V) :
      Steps a s t (.exchange kind requestId seen) k s
        (.handler (.refused .resourceExhausted) false false)
  | acquired (kind : Kind) (requestId seen : Nat) (k : Input V) (hroom : s.active < a.limit) :
      Steps a s t (.exchange kind requestId seen) k { s with active := s.active + 1 }
        (.handler (.checkRetired kind requestId) true false)
  | retry (kind : Kind) (requestId seen : Nat) (k : Input V) :
      Steps a s t (.exchange kind requestId seen) k s (.exchange kind requestId s.active)
  | dropped {pc : Server.Pc V} (hpc : pc.finished = true) (credit : Bool) (k : Input V) :
      Steps a s t (.handler pc true credit) k { s with active := fetchSub s.active }
        (.handler pc false credit)
  | served {pc pc' : Server.Pc V} {s' : Server.Shared} {k : Server.Input V} (permit credit : Bool)
      (hmoves : Server.Moves s.server t pc k s' pc') (hnot : ∀ kind id, pc ≠ .acquire kind id) :
      Steps a s t (.handler pc permit credit) (.handler k)
        { s with
          server := s'
          granted := grantedAfter s.granted t pc
          released := s.released ++ taken s.server (takesFrom pc) }
        (.handler pc' (permitAfter s.server permit pc) (creditAfter credit pc pc'))
  | entryDropped (ref : Nat) (k : Input V) :
      Steps a s t (.dropEntry ref) k
        { s with
          server := s.server.updateEntry ref fun entry => { entry with permit := false }
          released := s.released ++ taken s.server (some ref) }
        (.handler .done (s.server.permitAt ref) false)

section

variable {a : Limit} {s s' : Shared} {t : Nat} {pc pc' : Pc V} {k : Input V}

theorem steps_onExchange {kind : Kind} {requestId seen : Nat} {spurious : Bool}
    (h : onExchange a s kind requestId seen spurious = (s', pc')) :
    Steps a s t (.exchange kind requestId seen) k s' pc' := by
  unfold onExchange at h
  repeat' split at h
  all_goals grind [Steps]

theorem steps_of_next (h : next a s t pc k = some (s', pc')) : Steps a s t pc k s' pc' := by
  rw [next.eq_def] at h
  split at h
  · cases h
    exact .load ..
  · next pc permit credit k hnot =>
      split at h
      · next hfinished =>
          cases h
          rw [Bool.and_eq_true] at hfinished
          obtain ⟨rfl, hfinished⟩ := hfinished
          exact .dropped hfinished _ _
      · obtain ⟨m, hm, heq⟩ := Option.map_eq_some_iff.mp h
        cases heq
        exact .served _ _ (Server.move_moves hm).1 fun kind id hpc => hnot kind id hpc
  · exact steps_onExchange (Option.some.inj h)
  · cases h
    exact .entryDropped ..
  · cases h

theorem program_steps {m : Moved Shared (Pc V)} (h : (program a).move s t pc k = some m) :
    Steps a s t pc k m.shared m.next ∧ m.child = none := by
  obtain ⟨hnext, hchild⟩ := moved_of_map h
  exact ⟨steps_of_next hnext, hchild⟩

theorem step_steps {x x' : Threads Shared (Pc V)} {act : Act (Pc V) (Input V)}
    (h : (program a).step x act = some x') :
    (∃ t pc, pc.isEntry = true ∧ t ∉ x.pool ∧ x' = { x with pool := x.pool.insert t pc }) ∨
    ∃ t pc k pc' child, act = .move t k child ∧ x.pool[t]? = some pc ∧
      Steps a x.shared t pc k x'.shared pc' ∧ x'.pool = x.pool.insert t pc' := by
  rcases (program a).step_cases h with ⟨t, pc, -, hentry, hfresh, heq⟩ |
    ⟨t, k, child, pc, m, rfl, hpc, hm, hshared, ⟨-, hpool⟩ | ⟨pc', hsome, -, -⟩⟩
  · exact .inl ⟨t, pc, hentry, hfresh, heq⟩
  · grind [program_steps]
  · rw [(program_steps hm).2] at hsome
    cases hsome

end

/-! ## What a call does to its entry -/

/-- Whether a Send at the place has taken a credit; at the end of a stream it may have. -/
def expectedCredit : CallPc V → Option Bool
  | .sendProvider _ _ | .sendStore _ _ | .sendCount _ | .sendAccepted | .sendRejected _ => some true
  | .cancelStream _ | .retire _ | .unlink _ | .remember _ | .release _ | .done _ => none
  | _ => some false

def carries : CallPc V → Option (WireStreamOutcome V)
  | .receiveStore outcome | .cancelStream outcome | .retire outcome | .unlink outcome
  | .remember outcome | .release outcome => some outcome
  | _ => none

def hasRetired : CallPc V → Bool
  | .unlink _ | .remember _ | .release _ => true
  | _ => false

def isAccepted : WireStreamOutcome V → Bool
  | .accepted _ => true
  | _ => false

/-- The steps of a call as far as they concern the credit, the permit and the end of the stream. -/
inductive Spends (entry : ProviderStreamEntry) :
    CallPc V → Choice V → ProviderStreamEntry → CallPc V → Prop where
  | takes (sequence : UInt64) (payload : V) (k : Choice V) (hcredit : entry.inboundCredit ≠ 0) :
      Spends entry (.sendCredit entry.inboundCredit sequence payload) k
        { entry with inboundCredit := entry.inboundCredit - 1 } (.sendProvider sequence payload)
  | accepts (k : Choice V) :
      Spends entry .sendAccepted k { entry with inboundCredit := entry.inboundCredit + 1 }
        (.done (some (.accepted (wireCredit (entry.inboundCredit + 1)))))
  | rejects (error : RuntimeFailure) (k : Choice V) :
      Spends entry (.sendRejected error) k { entry with inboundCredit := entry.inboundCredit + 1 }
        (.done (some (streamRuntimeOutcome error)))
  | panics (sequence : UInt64) (payload : V) :
      Spends entry (.sendProvider sequence payload) (.action none) entry (.done none)
  | closes (k : Choice V) :
      Spends entry .closeCredit k entry (.done (some (.accepted (wireCredit entry.inboundCredit))))
  | retires (outcome : WireStreamOutcome V) (k : Choice V) :
      Spends entry (.retire outcome) k { entry with cancelled := true } (.unlink outcome)
  | releases (outcome : WireStreamOutcome V) (k : Choice V) :
      Spends entry (.release outcome) k { entry with permit := false } (.done (some outcome))
  | other {entry' : ProviderStreamEntry} {pc pc' : CallPc V} {k : Choice V}
      (hcredit : entry'.inboundCredit = entry.inboundCredit) (hpermit : entry'.permit = entry.permit)
      (hcancelled : entry'.cancelled = entry.cancelled)
      (hexpected : ∀ b, expectedCredit pc' = some b → expectedCredit pc = some b)
      (hcarries : ∀ o, carries pc' = some o → carries pc = some o ∨ isAccepted o = false)
      (hretired : hasRetired pc = false ∧ hasRetired pc' = false)
      (hdone : ∀ o, pc' = .done o → expectedCredit pc = some false ∧
        ∀ n, o = some (.accepted n) → carries pc = some (.accepted n))
      (hplain : pc ≠ .sendAccepted ∧ (∀ error, pc ≠ .sendRejected error) ∧ (∀ o, pc ≠ .done o) ∧
        ∀ sequence payload, pc' ≠ .sendProvider sequence payload) : Spends entry pc k entry' pc'

section

variable {capability : String} {entry entry' : ProviderStreamEntry} {pc pc' : CallPc V}
  {k : Choice V} {effects : List (StreamEffect V)}

theorem Spends.returns {o : WireStreamOutcome V} (hentry : entry'.inboundCredit = entry.inboundCredit)
    (hpermit : entry'.permit = entry.permit) (hcancelled : entry'.cancelled = entry.cancelled)
    (hpc : expectedCredit pc = some false) (ho : isAccepted o = false) :
    Spends entry pc k entry' (.done (some o)) := by
  refine .other hentry hpermit hcancelled nofun nofun ⟨?_, rfl⟩ ?_ ?_
  · cases pc <;> first | rfl | cases hpc
  · intro result hresult
    cases hresult
    refine ⟨hpc, fun n hn => ?_⟩
    cases hn
    cases ho
  · refine ⟨?_, fun error => ?_, fun o => ?_, nofun⟩
    · rintro rfl
      cases hpc
    · rintro rfl
      cases hpc
    · rintro rfl
      cases hpc

/-- A call goes on to a place where it has taken a credit if it had. -/
theorem Spends.goes (hentry : entry'.inboundCredit = entry.inboundCredit)
    (hpermit : entry'.permit = entry.permit) (hcancelled : entry'.cancelled = entry.cancelled)
    (hpc : expectedCredit pc = some false) (hpc' : expectedCredit pc' = some false)
    (hcarries : ∀ o, carries pc' = some o → isAccepted o = false) : Spends entry pc k entry' pc' := by
  refine .other hentry hpermit hcancelled (fun b hb => ?_) (fun o ho => .inr (hcarries o ho)) ?_ ?_ ?_
  · rw [hpc, ← hb, hpc']
  · constructor
    · cases pc <;> first | rfl | cases hpc
    · cases pc' <;> first | rfl | cases hpc'
  · rintro o rfl
    cases hpc'
  · refine ⟨?_, fun error => ?_, fun o => ?_, fun sequence payload => ?_⟩
    · rintro rfl
      cases hpc
    · rintro rfl
      cases hpc
    · rintro rfl
      cases hpc
    · rintro rfl
      cases hpc'

theorem spends_afterSend {sequence : UInt64} {action : BunStreamAction}
    (hcredit : entry'.inboundCredit = entry.inboundCredit) (hpermit : entry'.permit = entry.permit)
    (hcancelled : entry'.cancelled = entry.cancelled) :
    Spends (V := V) entry (.sendStore sequence action) k entry' (afterSend sequence action) := by
  cases action with
  | accepted =>
    exact .other hcredit hpermit hcancelled (fun _ h => h) (by rintro _ ⟨⟩) ⟨rfl, rfl⟩
      (by rintro _ ⟨⟩) (by simp [afterSend])
  | runtime =>
    rw [afterSend]
    split
    · exact .other hcredit hpermit hcancelled (fun _ h => h) (by rintro _ ⟨⟩) ⟨rfl, rfl⟩
        (by rintro _ ⟨⟩) (by simp)
    · refine .other hcredit hpermit hcancelled (by rintro _ ⟨⟩) (fun o ho => .inr ?_) ⟨rfl, rfl⟩
        (by rintro _ ⟨⟩) (by simp)
      cases ho
      rfl

theorem spends_afterReceive {answer : BunStreamReceive V} :
    Spends entry .receiveProvider k entry (afterReceive answer) := by
  rcases answer with (payload | _ | outcome) | error
  · exact .goes rfl rfl rfl rfl rfl nofun
  · exact .goes rfl rfl rfl rfl rfl nofun
  · exact .goes rfl rfl rfl rfl rfl nofun
  · refine .goes rfl rfl rfl rfl rfl fun o ho => ?_
    cases ho
    rfl

theorem spends_afterResult {result : WireStreamOutcome V}
    (hcredit : entry'.inboundCredit = entry.inboundCredit) (hpermit : entry'.permit = entry.permit)
    (hcancelled : entry'.cancelled = entry.cancelled) :
    Spends entry (.receiveStore result) k entry' (afterResult result) := by
  rw [afterResult]
  split
  · exact .other hcredit hpermit hcancelled (by rintro _ ⟨⟩) (fun _ h => .inl h) ⟨rfl, rfl⟩
      (by rintro _ ⟨⟩) (by simp)
  · split
    · exact .other hcredit hpermit hcancelled (by rintro _ ⟨⟩) (fun _ h => .inl h) ⟨rfl, rfl⟩
        (by rintro _ ⟨⟩) (by simp)
    · refine .other hcredit hpermit hcancelled (by rintro _ ⟨⟩) (by rintro _ ⟨⟩) ⟨rfl, rfl⟩ (fun o ho => ?_)
        (by simp)
      cases ho
      exact ⟨rfl, fun n hn => hn⟩

theorem spends_afterClose {action : BunStreamAction} :
    Spends (V := V) entry .closeProvider k entry (afterClose action) := by
  cases action with
  | accepted => exact .goes rfl rfl rfl rfl rfl (by rintro _ ⟨⟩)
  | runtime =>
    rw [afterClose]
    split
    · exact .goes rfl rfl rfl rfl rfl (by rintro _ ⟨⟩)
    · refine .other rfl rfl rfl (by rintro _ ⟨⟩) (fun o ho => .inr ?_) ⟨rfl, rfl⟩
        (by rintro _ ⟨⟩) (by simp)
      cases ho
      rfl

theorem spends_sendCredit {credit : Nat} {sequence : UInt64} {payload : V}
    (h : callMove capability entry (.sendCredit credit sequence payload) k =
      some (entry', pc', effects)) :
    Spends entry (.sendCredit credit sequence payload) k entry' pc' := by
  cases k with
  | go =>
    simp only [callMove] at h
    split at h
    · cases h
      exact .returns rfl rfl rfl rfl rfl
    · next hzero =>
        split at h
        · next hseen =>
            cases h
            subst hseen
            exact .takes _ _ _ hzero
        · cases h
          exact .goes rfl rfl rfl rfl rfl (by rintro _ ⟨⟩)
  | spurious =>
    simp only [callMove] at h
    split at h <;> cases h
    exact .goes rfl rfl rfl rfl rfl (by rintro _ ⟨⟩)
  | _ => cases h

/-- **Every step of a call on its entry is one of those.** -/
theorem spends_of_callMove (h : callMove capability entry pc k = some (entry', pc', effects)) :
    Spends entry pc k entry' pc' := by
  cases pc with
  | unlink => cases k <;> cases h
  | remember => cases k <;> cases h
  | done => cases k <;> cases h
  | sendCredit => exact spends_sendCredit h
  | sendProvider =>
    rcases k with _ | _ | (_ | action) | _ <;> cases h
    · exact .panics ..
    · exact .other rfl rfl rfl (fun _ h => h) nofun ⟨rfl, rfl⟩ nofun ⟨nofun, nofun, nofun, nofun⟩
  | sendStore =>
    cases k <;> cases h
    exact spends_afterSend rfl rfl rfl
  | sendCount =>
    cases k <;> cases h
    exact .other rfl rfl rfl (fun _ h => h) nofun ⟨rfl, rfl⟩ nofun ⟨nofun, nofun, nofun, nofun⟩
  | sendAccepted =>
    cases k <;> cases h
    exact .accepts _
  | sendRejected =>
    cases k <;> cases h
    exact .rejects ..
  | receiveProvider =>
    rcases k with _ | _ | _ | (_ | answer) <;> cases h
    · refine .other rfl rfl rfl nofun nofun ⟨rfl, rfl⟩ (fun o ho => ?_) ⟨nofun, nofun, nofun, nofun⟩
      cases ho
      exact ⟨rfl, nofun⟩
    · exact spends_afterReceive
  | receiveStore =>
    cases k <;> cases h
    exact spends_afterResult rfl rfl rfl
  | closeProvider =>
    rcases k with _ | _ | (_ | action) | _ <;> cases h
    · refine .other rfl rfl rfl nofun nofun ⟨rfl, rfl⟩ (fun o ho => ?_) ⟨nofun, nofun, nofun, nofun⟩
      cases ho
      exact ⟨rfl, nofun⟩
    · exact spends_afterClose
  | closeCredit =>
    cases k <;> cases h
    exact .closes _
  | cancelStream =>
    cases k <;> cases h
    exact .other rfl rfl rfl nofun (fun _ h => .inl h) ⟨rfl, rfl⟩ nofun ⟨nofun, nofun, nofun, nofun⟩
  | retire =>
    cases k <;> cases h
    exact .retires ..
  | release =>
    cases k <;> cases h
    exact .releases ..
  | cancelled call =>
    cases k with
    | go =>
      simp only [callMove] at h
      split at h <;> cases h
      · exact .returns rfl rfl rfl rfl rfl
      · cases call <;> exact .goes rfl rfl rfl rfl rfl (by rintro _ ⟨⟩)
    | _ => cases h
  | halfClosedSwap | terminalSwap =>
    cases k <;> cases h
    refine .goes rfl rfl rfl rfl rfl fun o ho => ?_
    cases ho
    split <;> rfl
  | closeSwap =>
    cases k <;> cases h
    split
    · exact .returns rfl rfl rfl rfl rfl
    · exact .goes rfl rfl rfl rfl rfl (by rintro _ ⟨⟩)
  | _ =>
    -- a check that ends the call or lets it go on
    cases k with
    | go =>
      simp only [callMove] at h
      try split at h
      all_goals
        cases h
        first
          | exact .returns rfl rfl rfl rfl rfl
          | exact .goes rfl rfl rfl rfl rfl fun o ho => by cases ho <;> rfl
    | _ => cases h

end

/-! ## What a handler does to the entries -/

/-- A request or a stream open that has been admitted has a permit; nothing depends on events. -/
def admittedPermit : Kind → Option Bool
  | .event => none
  | _ => some true

/-- Whether a handler at the place has a permit in hand; one that has returned may have. -/
def expectedPermit : Server.Pc V → Option Bool
  | .checkRetired kind _ | .register kind _ | .running kind _ _ | .removeEntry kind _ _
  | .retire kind _ _ => admittedPermit kind
  | .insertStream _ _ _ => some true
  | .acknowledged _ | .refused _ | .done | .call _ _ (.done _) => none
  | _ => some false

/-- A place outside of the calls, where no permit is stored or taken. -/
def aside : Server.Pc V → Bool
  | .insertStream _ _ _ | .call _ _ _ | .cancelRelease _ => false
  | _ => true

def worth (entry : ProviderStreamEntry) : Nat × Bool := (entry.inboundCredit, entry.permit)

def cancelledAt (s : Server.Shared) (ref : Nat) : Bool :=
  s.entries[ref]?.any ProviderStreamEntry.cancelled

/-- The steps of a handler as far as they concern the entries. -/
inductive Serves (s : Server.Shared) (t : Nat) :
    Server.Pc V → Server.Input V → Server.Shared → Server.Pc V → Prop where
  | other {pc pc' : Server.Pc V} {k : Server.Input V} {s' : Server.Shared}
      (hentries : ∀ ref : Nat, s'.entries[ref]?.map worth = s.entries[ref]?.map worth)
      (hcancelled : ∀ ref, cancelledAt s ref = true → cancelledAt s' ref = true)
      (hexpected : ∀ b, expectedPermit pc' = some b → expectedPermit pc = some b)
      (hpc : aside pc = true) (hdone : pc ≠ .done)
      (hpc' : ∀ streamId ref next, pc' = .call streamId ref next → ∃ c, next = .cancelled c) :
      Serves s t pc k s' pc'
  | stores (streamId credit : Nat) (operation : String) (k : Server.Input V) {s' : Server.Shared}
      (hentries : s'.entries = s.entries.insert t (.opened operation credit)) :
      Serves s t (.insertStream streamId credit operation) k s' .done
  | spends (streamId ref : Nat) {pc pc' : CallPc V} {choice : Choice V}
      {entry entry' : ProviderStreamEntry} {s' : Server.Shared}
      (hentry : s.entries[ref]? = some entry) (hspends : Spends entry pc choice entry' pc')
      (hentries : s'.entries = s.entries.insert ref entry') :
      Serves s t (.call streamId ref pc) (.call choice) s' (.call streamId ref pc')
  | ends (streamId ref : Nat) {pc pc' : CallPc V} {k : Server.Input V} {s' : Server.Shared}
      (hentries : s'.entries = s.entries) (hcarries : carries pc' = carries pc)
      (hretired : hasRetired pc = true ∧ hasRetired pc' = true)
      (hrelease : ∀ outcome, pc ≠ .release outcome) :
      Serves s t (.call streamId ref pc) k s' (.call streamId ref pc')
  | cancels (ref : Nat) (k : Server.Input V) {s' : Server.Shared}
      (hentries : s'.entries = s.entries.modify ref fun entry => { entry with permit := false }) :
      Serves s t (.cancelRelease ref) k s' .done

section

variable {s s' : Server.Shared} {t : Nat} {pc pc' : Server.Pc V} {k : Server.Input V}

theorem Serves.same (hentries : s'.entries = s.entries)
    (hexpected : ∀ b, expectedPermit pc' = some b → expectedPermit pc = some b)
    (hpc : aside pc = true) (hdone : pc ≠ .done)
    (hpc' : ∀ streamId ref next, pc' = .call streamId ref next → ∃ c, next = .cancelled c) :
    Serves s t pc k s' pc' := by
  refine .other (fun ref => ?_) (fun ref href => ?_) hexpected hpc hdone hpc'
  · rw [hentries]
  · rwa [cancelledAt, hentries]

/-- A step that sets `cancelled` of an entry. -/
theorem Serves.cancelled {ref : Nat}
    (hentries : s'.entries = s.entries.modify ref fun entry => { entry with cancelled := true })
    (hexpected : ∀ b, expectedPermit pc' = some b → expectedPermit pc = some b)
    (hpc : aside pc = true) (hdone : pc ≠ .done)
    (hpc' : ∀ streamId ref next, pc' = .call streamId ref next → ∃ c, next = .cancelled c) :
    Serves s t pc k s' pc' := by
  refine .other (fun r => ?_) (fun r hr => ?_) hexpected hpc hdone hpc'
  · rw [hentries, getElem?_modify_nat]
    split
    · next heq =>
        subst heq
        rw [Option.map_map]
        rfl
    · rfl
  · grind [cancelledAt, getElem?_modify_nat]

/-- What comes after the check of the session has no permit, and is no call yet. -/
theorem serves_afterSession {message : Server.Message V} :
    Serves s t (.receive message) k s (Server.afterSession message) := by
  have hdone : (.receive message : Server.Pc V) ≠ .done := by rintro ⟨⟩
  rcases message with ⟨kind, requestId, session, valid⟩ | c | ⟨requestId, session⟩ | ⟨streamId, session⟩
  · rw [Server.afterSession]
    split
    · cases kind with
      | event => exact .same rfl (by rintro _ ⟨⟩) rfl hdone (by rintro _ _ _ ⟨⟩)
      | _ => exact .same rfl (fun _ h => h) rfl hdone (by rintro _ _ _ ⟨⟩)
    · exact .same rfl (by rintro _ ⟨⟩) rfl hdone (by rintro _ _ _ ⟨⟩)
  all_goals exact .same rfl (fun _ h => h) rfl hdone (by rintro _ _ _ ⟨⟩)

theorem serves_nextEntry {taken : List (Nat × Nat)} (hentries : s'.entries = s.entries)
    (hexpected : expectedPermit pc = some false) (hpc : aside pc = true) :
    Serves s t pc k s' (Server.nextEntry taken) := by
  have hdone : pc ≠ .done := by
    rintro rfl
    cases hexpected
  cases taken with
  | nil | cons => exact .same hentries (fun _ h => hexpected.trans h) hpc hdone nofun

theorem serves_afterRemoval {kind : Kind} {requestId : Nat} {opened : Bool}
    (hentries : s'.entries = s.entries) :
    Serves (V := V) s t (.retire kind requestId opened) k s' (Server.afterRemoval kind opened) := by
  cases kind with
  | stream =>
    cases opened with
    | true => exact .same hentries (fun _ h => h) rfl nofun nofun
    | false => exact .same hentries nofun rfl nofun nofun
  | _ => exact .same hentries nofun rfl nofun nofun

/-- **Every step of a handler is one of those**, the admission apart. -/
theorem serves_of_moves (h : Server.Moves s t pc k s' pc') (hnot : ∀ kind id, pc ≠ .acquire kind id) :
    Serves s t pc k s' pc' := by
  cases h with
  | reject | clearRetired | cancelRequest | cancelMissing => exact .same rfl nofun rfl nofun nofun
  | takeStreams | rememberEntry => exact serves_nextEntry rfl rfl rfl
  | cancelEntry | cancelStore => exact .cancelled rfl (fun _ h => h) rfl nofun nofun
  | receive => exact serves_afterSession
  | refuse _ _ refusal hpc =>
    refine .same rfl nofun ?_ ?_ nofun
    · cases pc <;> first | rfl | cases hpc
    · rintro rfl
      cases hpc
  | acquire kind requestId => exact absurd rfl (hnot kind requestId)
  | retire => exact serves_afterRemoval rfl
  | insertStream => exact .stores _ _ _ _ rfl
  | lookup c =>
    refine .same rfl (fun _ h => h) rfl nofun fun streamId ref next hnext => ?_
    cases hnext
    exact ⟨c, rfl⟩
  | unlink | remember => exact .ends _ _ rfl rfl ⟨rfl, rfl⟩ nofun
  | onEntry streamId ref pc pc' choice entry entry' effects hentry hmove =>
    exact .spends _ _ hentry (spends_of_callMove hmove) rfl
  | cancelRelease => exact .cancels _ _ rfl
  | _ => exact .same rfl (fun _ h => h) rfl nofun nofun

end

end LensoBun.Provider.Admission
