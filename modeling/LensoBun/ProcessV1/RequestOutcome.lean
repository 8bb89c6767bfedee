import LensoBun.ProcessV1.Client

set_option autoImplicit false

/-! # What a request returns and what the arbiter has committed

An admitted request that gets a response asks the arbiter to commit it and returns what the
arbiter says. One whose exchange fails, or that finds its deadline passed before it is sent,
does not ask what has been committed: an id that a `cancel` has retired meanwhile is reported as
a failure of the exchange, with the process retired, or as a passed deadline. So the outcome is
the committed terminal as long as no cancel has retired the id of such a request.
-/

namespace LensoBun.ProcessV1

open Std Lib

/-! ## Calls on an id and on others -/

def TerminalArbiter.Full (a : TerminalArbiter) : Prop := a.maximumRetired ≤ a.retired.size

instance (a : TerminalArbiter) : Decidable a.Full :=
  inferInstanceAs (Decidable (a.maximumRetired ≤ a.retired.size))

/-- An active id is not retired, and it is flagged only if the flagging cancel found the arbiter
full. -/
structure TerminalArbiter.Sane (a : TerminalArbiter) : Prop where
  disjoint : ∀ (id : Nat) active, a.active[id]? = some active → a.retired[id]? = none
  flagged : ∀ (id : Nat) active, a.active[id]? = some active → active.cancelled = true → a.Full

section

variable {T : Type} {a a' : TerminalArbiter} {call : Call T} {answer : Answer T} {id : Nat}
  {active : ActiveInvocation}

theorem full_retire (terminal : InvocationTerminal T) (h : a.Full) :
    (a.retire id terminal).Full :=
  Nat.le_trans h ExtTreeMap.size_le_size_insert

theorem sane_insert (hs : a.Sane) (hfresh : a.retired[id]? = none)
    (hfull : active.cancelled = true → a.Full) :
    TerminalArbiter.Sane { a with active := a.active.insert id active } := by
  refine ⟨?_, ?_⟩
  · grind [new_or_old_of_insert, hs.disjoint]
  · intro k active' hk hcancelled
    rcases new_or_old_of_insert hk with ⟨-, rfl⟩ | ⟨-, hk⟩
    · exact hfull hcancelled
    · exact hs.flagged k active' hk hcancelled

theorem sane_retire (hs : a.Sane) (terminal : InvocationTerminal T) :
    (a.retire id terminal).Sane := by
  refine ⟨?_, ?_⟩
  · grind [TerminalArbiter.retire, getElem?_erase_nat, getElem?_insert_nat, hs.disjoint]
  · grind [TerminalArbiter.retire, old_of_erase, full_retire, hs.flagged]

theorem Applies.sane (h : Applies a call a' answer) (hs : a.Sane) : a'.Sane := by
  cases h with
  | idle => exact hs
  | enter id' deadline _ hfresh => exact sane_insert hs hfresh (fun h => by cases h)
  | commit _ terminal => exact sane_retire hs terminal
  | flag id' active hfound hfull =>
    exact sane_insert hs (hs.disjoint id' active hfound) (fun _ => hfull)

/-- `expire` on an active id: no room, past the deadline, or neither. -/
theorem expire_active (now : Nat) (hs : a.Sane) (hactive : a.active[id]? = some active) :
    (a.Full ∧ ∃ error, a.expire (T := T) id now = (a, .error error)) ∨
    a.expire (T := T) id now =
      (a.retire id (.deadlineExceeded : InvocationTerminal T), .ok (some .deadlineExceeded)) ∨
    (active.expired now = false ∧ a.expire (T := T) id now = (a, .ok none)) := by
  simp only [TerminalArbiter.expire, hactive]
  by_cases hfull : a.Full
  · rw [commit_of_full hfull, commit_of_full hfull]
    cases active.cancelled with
    | true => exact Or.inl ⟨hfull, _, rfl⟩
    | false =>
      cases hexpired : active.expired now with
      | true => exact Or.inl ⟨hfull, _, rfl⟩
      | false => exact Or.inr (Or.inr ⟨rfl, rfl⟩)
  · have hroom : a.retired.size < a.maximumRetired := Nat.lt_of_not_le hfull
    have hunset : active.cancelled = false :=
      Bool.eq_false_iff.mpr (fun h => hfull (hs.flagged id active hactive h))
    rw [hunset, if_neg Bool.false_ne_true, commit_of_room hactive hroom]
    cases hexpired : active.expired now with
    | true => exact Or.inr (Or.inl rfl)
    | false => exact Or.inr (Or.inr ⟨rfl, rfl⟩)

/-- `respond` on an active id: no room, or a commit of the deadline or the response. -/
theorem respond_active (now : Nat) (hs : a.Sane) (hactive : a.active[id]? = some active) (response : T) :
    (a.Full ∧ ∃ error, a.respond id response now = (a, .error error)) ∨
    a.respond id response now = (a.retire id (.deadlineExceeded : InvocationTerminal T),
      .ok .deadlineExceeded) ∨
    a.respond id response now = (a.retire id (.response response), .ok (.response response)) := by
  simp only [TerminalArbiter.respond, hactive]
  by_cases hfull : a.Full
  · rw [commit_of_full hfull]
    exact Or.inl ⟨hfull, _, rfl⟩
  · have hroom : a.retired.size < a.maximumRetired := Nat.lt_of_not_le hfull
    have hunset : active.cancelled = false :=
      Bool.eq_false_iff.mpr (fun h => hfull (hs.flagged id active hactive h))
    rw [commit_of_room hactive hroom, TerminalArbiter.responseTerminal, hunset,
      if_neg Bool.false_ne_true]
    cases active.expired now with
    | true => exact Or.inr (Or.inl rfl)
    | false => exact Or.inr (Or.inr rfl)

theorem respond_retired {kind : TerminalKind} (now : Nat) (hs : a.Sane) (hid : a.retired[id]? = some kind)
    (response : T) : ∃ error, a.respond id response now = (a, .error error) := by
  cases hactive : a.active[id]? with
  | none => exact ⟨a.classifyMissing id, by simp only [TerminalArbiter.respond, hactive]⟩
  | some active =>
    rw [hs.disjoint id active hactive] at hid
    cases hid

end

namespace Client

variable {V : Type}

/-! ## The condition -/

/-- A request that is about to ask the arbiter after a failed exchange or a passed deadline. -/
def Pc.fails : Pc V → Option Nat
  | .expireNow id | .failed id _ => some id
  | _ => none

/-- A request that has given up on its exchange and is on its way out. -/
def Pc.givesUp : Pc V → Option Nat
  | .retire (.request id (.error _)) | .retireChild (.request id (.error _))
  | .leave id (.error _) true => some id
  | _ => none

def Input.passesChecks : Input V → Bool
  | .exchange (.response checked _) => checked
  | _ => true

/-- Responses pass the protocol checks, and no cancel has retired or retires the id of a request
whose exchange has failed or whose deadline has passed before it was sent. -/
def cancelsMeetResponses : Guard Shared (Pc V) (Input V) where
  self s _ pc k := k.passesChecks = true ∧
    ∀ id ∈ pc.fails, s.terminal.retiredTerminal id ≠ some .cancelled
  other _ _ pc _ _ pc' := ∀ id ∈ pc'.givesUp, pc ≠ .cancelTerminal id

instance (s : Shared) (t : Nat) (pc : Pc V) (k : Input V) :
    Decidable (cancelsMeetResponses.self s t pc k) :=
  inferInstanceAs (Decidable (k.passesChecks = true ∧
    ∀ id ∈ pc.fails, s.terminal.retiredTerminal id ≠ some .cancelled))

def Pc.cancels : Pc V → Option Nat
  | .cancelTerminal id => some id
  | _ => none

theorem cancels_eq_some {pc : Pc V} {id : Nat} : pc.cancels = some id ↔ pc = .cancelTerminal id := by
  cases pc <;> simp [Pc.cancels]

instance (s : Shared) (t : Nat) (pc : Pc V) (k : Input V) (u : Nat) (pc' : Pc V) :
    Decidable (cancelsMeetResponses.other s t pc k u pc') :=
  decidable_of_iff (∀ id ∈ pc'.givesUp, pc.cancels ≠ some id)
    (by simp only [cancelsMeetResponses, ne_eq, cancels_eq_some])

instance (s : Shared) (t : Nat) (pc : Pc V) :
    Decidable (cancelsMeetResponses.start s t pc) :=
  inferInstanceAs (Decidable True)

/-! ## The proof outline -/

/-- What the arbiter and the clock say about an id: the deadline of its active invocation, the
kind it was retired with, whether there is room to retire another id, and the time. -/
structure View where
  deadline : Option (Option Nat)
  held : Option TerminalKind
  full : Prop
  clock : Nat

def Shared.view (s : Shared) (id : Nat) : View :=
  { deadline := s.terminal.active[id]?.map (·.deadline)
    held := s.terminal.retired[id]?
    full := s.terminal.Full
    clock := s.clock }

structure View.Later (v v' : View) : Prop where
  deadline : v'.deadline = v.deadline
  held : v'.held = v.held
  full : v.full → v'.full
  clock : v.clock ≤ v'.clock

def View.Known (v : View) : Prop := v.deadline.isSome = true ∨ v.held.isSome = true

/-- What is returned fits the terminal that is held. -/
def fits (outcome : Outcome V) (retired : Bool) : Option TerminalKind → Prop
  | some .cancelled => outcome = .error .cancelled ∧ retired = false
  | some .deadlineExceeded => outcome = .error .deadlineExceeded ∧ retired = false
  | some .response => ∃ result, outcome = .ok result
  | none => ∃ error, outcome = .error error

/-- What a request may assume about its id. Until it has asked the arbiter, nobody but a cancel
has retired the id; an id that is not retired when the request leaves never will be, or the
request has retired the process. -/
def assumes (v : View) : Pc V → Prop
  | .remaining _ deadline => v.held = some .cancelled ∨
      (v.held = none ∧ v.deadline = some deadline)
  | .expireNow _ => v.held = some .cancelled ∨
      (v.held = none ∧ ∃ d, v.deadline = some (some d) ∧ d ≤ v.clock)
  | .send _ | .failed _ _ | .respond _ _ => v.held = some .cancelled ∨ v.held = none
  | .lookup _ => v.held = some .cancelled ∨ (v.held = none ∧ v.full)
  | .retire (.request _ (.ok _)) | .retireChild (.request _ (.ok _)) => v.held = some .response
  | .retire (.request _ (.error _)) | .retireChild (.request _ (.error _)) => v.held = none
  | .leave _ outcome retired =>
    fits outcome retired v.held ∧ (v.held = none → v.full ∨ retired = true)
  | _ => True

/-- What a request has returned fits what was held then. -/
def Pc.returnsFitting : Pc V → Prop
  | .returned _ outcome retired held => fits outcome retired held
  | _ => True

def outcomes : Outline Shared (Pc V) where
  Shared s := s.terminal.Sane
  At s _ pc := pc.returnsFitting ∧
    ∀ id, pc.owns = some id → (s.view id).Known ∧ assumes (s.view id) pc
  Pair _ pc _ pc' := ∀ id, pc.owns = some id → pc'.owns ≠ some id

theorem outcomes_init (maximumRetired : Nat) :
    outcomes.Holds (init (V := V) maximumRetired) := by
  refine ⟨⟨?_, ?_⟩, ?_, ?_⟩
  · intro id active h
    simp [init, TerminalArbiter.new] at h
  · intro id active h
    simp [init, TerminalArbiter.new] at h
  · intro t pc hpc
    rcases new_or_old_of_insert hpc with ⟨-, rfl⟩ | ⟨-, hpc⟩
    · exact ⟨trivial, fun id h => by cases h⟩
    · simp at hpc
  · grind [init, getElem?_insert_nat]

/-! ## What other threads do -/

section

variable {s s' : Shared} {pc pc' : Pc V} {k : Input V} {m : Moved Shared (Pc V)} {id : Nat}

variable {v v' : View} {kind : TerminalKind} {t u : Nat}

theorem assumes_later (hl : v.Later v') (h : assumes v pc) : assumes v' pc := by
  obtain ⟨hdeadline, hheld, hfull, hclock⟩ := hl
  cases pc with
  | remaining => grind [assumes]
  | expireNow => grind [assumes]
  | lookup => grind [assumes]
  | leave => grind [assumes]
  | retire exit | retireChild exit =>
    rcases exit with ⟨id, outcome⟩ | error | error
    · cases outcome <;> simp only [assumes, hheld] at h ⊢ <;> exact h
    · trivial
    · trivial
  | send | failed | respond => simpa only [assumes, hheld] using h
  | _ => trivial

/-- A cancel that retires the id is met by a request that will still ask the arbiter. -/
theorem assumes_cancelled (h : assumes v pc) (hnone : v.held = none) (hroom : ¬ v.full)
    (hheld : v'.held = some .cancelled) (howns : pc.owns = some id) (hstays : pc.givesUp ≠ some id) :
    assumes v' pc := by
  cases pc with
  | lookup | remaining | expireNow | send | failed | respond => exact Or.inl hheld
  | leave id' outcome retired =>
    cases howns
    obtain ⟨hfits, hleft⟩ := h
    -- it has retired the process because its exchange has failed
    rcases hleft hnone with hfull | rfl
    · exact absurd hfull hroom
    · rw [hnone] at hfits
      obtain ⟨error, rfl⟩ := hfits
      exact absurd rfl hstays
  | retire exit | retireChild exit =>
    rcases exit with ⟨id', outcome⟩ | error | error
    · cases howns
      cases outcome with
      | ok =>
        rw [assumes, hnone] at h
        cases h
      | error => exact absurd rfl hstays
    · trivial
    · trivial
  | _ => trivial

theorem clock_le (hm : move s pc k = some m) : s.clock ≤ m.shared.clock := by
  unfold move at hm
  split at hm <;> cases hm <;> simp

theorem later_insert (active : ActiveInvocation) {id' : Nat} (hne : id' ≠ id)
    (hterminal : s'.terminal = { s.terminal with active := s.terminal.active.insert id' active })
    (hclock : s.clock ≤ s'.clock) : (s.view id).Later (s'.view id) := by
  refine ⟨?_, ?_, ?_, hclock⟩
  · simp only [Shared.view, hterminal, getElem?_insert_nat, if_neg hne]
  · simp only [Shared.view, hterminal]
  · simp only [Shared.view, hterminal, TerminalArbiter.Full]
    exact fun h => h

theorem later_of_applies {T : Type} (call : Call T) {answer : Answer T} (hne : call.id ≠ id)
    (h : Applies s.terminal call s'.terminal answer) (hclock : s.clock ≤ s'.clock) :
    (s.view id).Later (s'.view id) := by
  generalize hterminal : s'.terminal = a' at h
  cases h with
  | idle =>
    refine ⟨?_, ?_, ?_, hclock⟩ <;> simp only [Shared.view, hterminal]
    exact fun h => h
  | enter id' deadline _ _ | flag id' active _ _ => exact later_insert _ hne hterminal hclock
  | commit _ terminal active _ _ _ _ =>
    refine ⟨?_, ?_, ?_, hclock⟩
    · simp only [Shared.view, hterminal, TerminalArbiter.retire, getElem?_erase_nat, if_neg hne]
    · simp only [Shared.view, hterminal, TerminalArbiter.retire, getElem?_insert_nat,
        if_neg hne]
    · grind [Shared.view, full_retire]

theorem cancel_view {answer : Answer (RequestResult V)}
    (h : Applies s.terminal (.cancel id) s'.terminal answer) (hs : s.terminal.Sane)
    (hclock : s.clock ≤ s'.clock) :
    (s.view id).Later (s'.view id) ∨
      ((s.view id).held = none ∧ ¬ (s.view id).full ∧ (s'.view id).held = some .cancelled) := by
  generalize hterminal : s'.terminal = a' at h
  cases h with
  | idle =>
    refine Or.inl ⟨?_, ?_, ?_, hclock⟩ <;> simp only [Shared.view, hterminal]
    exact fun h => h
  | commit _ terminal active hfound hroom _ hcancel =>
    refine Or.inr ⟨hs.disjoint id active hfound, Nat.not_le.mpr hroom, ?_⟩
    simp only [Shared.view, hterminal, TerminalArbiter.retire, Call.id, getElem?_insert_nat,
      if_true, hcancel rfl]
    rfl
  | flag id' active hfound =>
    refine Or.inl ⟨?_, ?_, ?_, hclock⟩
    · simp only [Shared.view, hterminal, TerminalArbiter.flag, getElem?_insert_nat, if_true,
        hfound, Option.map_some]
    · simp only [Shared.view, hterminal, TerminalArbiter.flag]
    · simp only [Shared.view, hterminal, TerminalArbiter.flag, TerminalArbiter.Full]
      exact fun h => h

/-- A move is not noticed by a request with another id; a cancel of its id may retire it. -/
theorem view_move (hm : move s pc k = some m) (hs : s.terminal.Sane)
    (hknown : (s.view id).Known) (howns : pc.owns ≠ some id) :
    (s.view id).Later (m.shared.view id) ∨
      (pc = .cancelTerminal id ∧ (s.view id).held = none ∧ ¬ (s.view id).full ∧
        (m.shared.view id).held = some .cancelled) := by
  have hclock := clock_le hm
  have htouches := move_touches hm
  generalize hterminal : m.shared.terminal = a at htouches
  cases htouches with
  | none =>
    refine Or.inl ⟨?_, ?_, ?_, hclock⟩ <;> simp only [Shared.view, hterminal]
    exact fun h => h
  | own _ call _ answer hown happlies => grind [later_of_applies]
  | enter id' deadline hinactive hfresh =>
    -- the admitted id is new
    have hne : id' ≠ id := by
      rintro rfl
      simp [View.Known, Shared.view, hinactive, hfresh] at hknown
    exact Or.inl (later_insert _ hne hterminal hclock)
  | cancel id' _ answer happlies =>
    by_cases hid : id' = id
    · subst hid
      exact (cancel_view (hterminal ▸ happlies) hs hclock).imp_right (fun h => ⟨rfl, h⟩)
    · exact Or.inl (later_of_applies (.cancel id') hid (hterminal ▸ happlies) hclock)

/-! ## What a request does -/

theorem known_later (hl : v.Later v') (h : v.Known) : v'.Known := by
  rw [View.Known, hl.deadline, hl.held]
  exact h

theorem known_of_held (h : v.held = some kind) : v.Known :=
  Or.inr (by rw [h]; rfl)

theorem leaves_fitting {outcome : Outcome V} {retired : Bool} (hheld : v.held = some kind)
    (hfits : fits outcome retired (some kind)) : assumes v (.leave id outcome retired) := by
  refine ⟨?_, ?_⟩
  · rw [hheld]
    exact hfits
  · grind

theorem leaves_open {error : ClientError} {retired : Bool} (hheld : v.held = none)
    (hstays : v.full ∨ retired = true) : assumes v (.leave id (.error error) retired : Pc V) := by
  refine ⟨?_, fun _ => hstays⟩
  rw [hheld]
  exact ⟨error, rfl⟩

theorem view_retire {T : Type} (s : Shared) (id : Nat) (terminal : InvocationTerminal T) :
    ({ s with terminal := s.terminal.retire id terminal }.view id).held = some (.of terminal) := by
  simp only [Shared.view, TerminalArbiter.retire, getElem?_insert_nat, if_true]

theorem active_of_known (hknown : (s.view id).Known) (hheld : (s.view id).held = none) :
    ∃ active, s.terminal.active[id]? = some active ∧
      (s.view id).deadline = some active.deadline := by
  rcases hknown with hactive | hretired
  · grind [Shared.view]
  · rw [hheld] at hretired
    cases hretired

/-- A request that finds its deadline passed before it is sent. -/
theorem expireNow_outcome (hs : s.terminal.Sane) (hknown : (s.view id).Known)
    (hat : assumes (s.view id) (.expireNow id : Pc V))
    (hheld : s.terminal.retiredTerminal id ≠ some .cancelled) :
    let s' : Shared := { s with terminal := (s.terminal.expire (T := RequestResult V) id s.clock).1 }
    (s'.view id).Known ∧
      assumes (s'.view id) (.leave id (.error .deadlineExceeded) false : Pc V) := by
  obtain hcancelled | ⟨hnone, d, hd, hle⟩ := hat
  · exact absurd hcancelled hheld
  obtain ⟨active, hactive, hdeadline⟩ := active_of_known hknown hnone
  rcases expire_active (T := RequestResult V) s.clock hs hactive with
    ⟨hfull, error, h⟩ | h | ⟨hexpired, h⟩
  · simp only [h]
    exact ⟨hknown, leaves_open hnone (Or.inl hfull)⟩
  · simp only [h]
    have hretired := view_retire s id
      (.deadlineExceeded : InvocationTerminal (RequestResult V))
    exact ⟨known_of_held hretired, leaves_fitting hretired ⟨rfl, rfl⟩⟩
  · rw [hdeadline, Option.some.injEq] at hd
    have hle' : d ≤ s.clock := hle
    simp [ActiveInvocation.expired, hd, hle'] at hexpired

theorem failed_outcome (hs : s.terminal.Sane) (hknown : (s.view id).Known) (error : ClientError)
    (hat : assumes (s.view id) (.failed id error : Pc V))
    (hheld : s.terminal.retiredTerminal id ≠ some .cancelled) :
    let expired := s.terminal.expire (T := RequestResult V) id s.clock
    let s' : Shared := { s with terminal := expired.1 }
    (s'.view id).Known ∧ assumes (s'.view id) (afterFailure id error expired.2) := by
  obtain hcancelled | hnone := hat
  · exact absurd hcancelled hheld
  obtain ⟨active, hactive, hdeadline⟩ := active_of_known hknown hnone
  rcases expire_active (T := RequestResult V) s.clock hs hactive with
    ⟨hfull, error', h⟩ | h | ⟨-, h⟩
  · simp only [h]
    exact ⟨hknown, leaves_open hnone (Or.inl hfull)⟩
  · simp only [h]
    have hretired := view_retire s id
      (.deadlineExceeded : InvocationTerminal (RequestResult V))
    exact ⟨known_of_held hretired, leaves_fitting hretired ⟨rfl, rfl⟩⟩
  · simp only [h]
    exact ⟨hknown, hnone⟩

theorem respond_outcome (hs : s.terminal.Sane) (hknown : (s.view id).Known)
    (result : RequestResult V) (hat : assumes (s.view id) (.respond id result)) :
    let responded := s.terminal.respond id result s.clock
    let s' : Shared := { s with terminal := responded.1 }
    (s'.view id).Known ∧ assumes (s'.view id) (afterRespond id responded.2) := by
  obtain hcancelled | hnone := hat
  · obtain ⟨error, h⟩ := respond_retired s.clock hs hcancelled result
    simp only [h]
    exact ⟨hknown, Or.inl hcancelled⟩
  obtain ⟨active, hactive, hdeadline⟩ := active_of_known hknown hnone
  rcases respond_active s.clock hs hactive result with ⟨hfull, error, h⟩ | h | h
  · simp only [h]
    exact ⟨hknown, Or.inr ⟨hnone, hfull⟩⟩
  · simp only [h]
    have hretired := view_retire s id
      (.deadlineExceeded : InvocationTerminal (RequestResult V))
    exact ⟨known_of_held hretired, leaves_fitting hretired ⟨rfl, rfl⟩⟩
  · simp only [h]
    have hretired := view_retire s id (.response result)
    refine ⟨known_of_held hretired, ?_⟩
    rw [afterRespond]
    split
    · exact hretired
    · exact leaves_fitting hretired ⟨result, rfl⟩

theorem lookup_outcome (hat : assumes (s.view id) (.lookup id : Pc V)) :
    assumes (s.view id) (afterLookup id (s.terminal.retiredTerminal id) : Pc V) := by
  rcases hat with hcancelled | ⟨hnone, -⟩
  · have hheld : s.terminal.retiredTerminal id = some .cancelled := hcancelled
    rw [hheld]
    exact leaves_fitting hcancelled ⟨rfl, rfl⟩
  · have hheld : s.terminal.retiredTerminal id = none := hnone
    rw [hheld]
    exact hnone

theorem retired_outcome {outcome : Outcome V}
    (hat : assumes (s.view id) (.retireChild (.request id outcome))) :
    assumes (s.view id) (.leave id outcome true) := by
  cases outcome with
  | ok result => exact leaves_fitting hat ⟨result, rfl⟩
  | error => exact leaves_open hat (Or.inr rfl)

theorem afterRemaining_owns (id clock : Nat) (deadline : Option Nat) :
    (afterRemaining id clock deadline : Pc V).owns = some id ∧
      (afterRemaining id clock deadline : Pc V).returnsFitting := by
  cases deadline with
  | none => exact ⟨rfl, trivial⟩
  | some =>
    rw [afterRemaining]
    split <;> exact ⟨rfl, trivial⟩

theorem afterFailure_owns (id : Nat) (error : ClientError) (answer : Answer (RequestResult V)) :
    (afterFailure id error answer).owns = some id ∧
      (afterFailure id error answer).returnsFitting := by
  rcases answer with e | _ | terminal <;> exact ⟨rfl, trivial⟩

theorem afterRespond_owns (id : Nat)
    (answer : Except TerminalError (InvocationTerminal (RequestResult V))) :
    (afterRespond id answer).owns = some id ∧ (afterRespond id answer).returnsFitting := by
  rcases answer with e | _ | _ | result
  · exact ⟨rfl, trivial⟩
  · exact ⟨rfl, trivial⟩
  · exact ⟨rfl, trivial⟩
  · rw [afterRespond]
    split <;> exact ⟨rfl, trivial⟩

theorem afterLookup_owns (id : Nat) (kind : Option TerminalKind) :
    (afterLookup id kind : Pc V).owns = some id ∧
      (afterLookup id kind : Pc V).returnsFitting := by
  rcases kind with _ | kind
  · exact ⟨rfl, trivial⟩
  · cases kind <;> exact ⟨rfl, trivial⟩

theorem at_of_owns (howns : pc.owns = some id) (hreturns : pc.returnsFitting)
    (h : (s.view id).Known ∧ assumes (s.view id) pc) : outcomes.At s t pc := by
  refine ⟨hreturns, fun id' hid => ?_⟩
  rw [howns] at hid
  cases hid
  exact h

/-- A thread that owns no id and has not returned has nothing to assume. -/
theorem at_of_free (howns : pc.owns = none) (hreturns : pc.returnsFitting) :
    outcomes.At s t pc := by
  refine ⟨hreturns, fun id hid => ?_⟩
  rw [howns] at hid
  cases hid

theorem afterChecks_free (params : RequestParams) :
    (afterChecks params : Pc V).owns = none ∧ (afterChecks params : Pc V).returnsFitting := by
  rw [afterChecks]
  split
  · exact ⟨rfl, trivial⟩
  · exact ⟨rfl, trivial⟩
  · split <;> exact ⟨rfl, trivial⟩

theorem sane_move (hs : s.terminal.Sane) (hm : move s pc k = some m) :
    m.shared.terminal.Sane := by
  have htouches := move_touches hm
  generalize m.shared.terminal = a at htouches
  cases htouches with
  | none => exact hs
  | own _ _ _ _ _ happlies => exact happlies.sane hs
  | enter _ _ _ hfresh => exact sane_insert hs hfresh (fun h => by cases h)
  | cancel _ _ _ happlies => exact happlies.sane hs

theorem admit_outcome (s : Shared) (id : Nat) (deadline : Option Nat)
    (hfresh : s.terminal.retired[id]? = none) :
    let active : ActiveInvocation := { deadline := deadline, cancelled := false }
    let s' : Shared := { s with terminal :=
      { s.terminal with active := s.terminal.active.insert id active } }
    (s'.view id).Known ∧ assumes (s'.view id) (.remaining id deadline : Pc V) := by
  intro active s'
  have hdeadline : (s'.view id).deadline = some deadline := by
    simp [s', active, Shared.view]
  exact ⟨Or.inl (by rw [hdeadline]; rfl), Or.inr ⟨hfresh, hdeadline⟩⟩

theorem remaining_outcome {deadline : Option Nat}
    (hat : assumes (s.view id) (.remaining id deadline : Pc V)) :
    assumes (s.view id) (afterRemaining id s.clock deadline : Pc V) := by
  cases deadline with
  | none => exact hat.imp_right And.left
  | some d =>
    rw [afterRemaining]
    split
    · next hle => exact hat.imp_right (And.imp_right (fun h => ⟨d, h, hle⟩))
    · exact hat.imp_right And.left

theorem outcomes_move (hs : s.terminal.Sane) (hpc : outcomes.At s t pc)
    (hg : cancelsMeetResponses.self s t pc k) (hm : move s pc k = some m) :
    outcomes.At m.shared t m.next := by
  obtain ⟨-, hat⟩ := hpc
  obtain ⟨hpasses, hfails⟩ := hg
  cases pc with
  | admitId id deadline =>
    cases hm
    rcases admitId_cases s.terminal id deadline with ⟨-, hfresh, h⟩ | ⟨error, h⟩
    · simp only [h]
      exact at_of_owns rfl trivial (admit_outcome s id deadline hfresh)
    · simp only [h]
      exact at_of_free rfl trivial
  | remaining id deadline =>
    cases hm
    obtain ⟨hknown, hopen⟩ := hat id rfl
    have howns := afterRemaining_owns (V := V) id s.clock deadline
    exact at_of_owns howns.1 howns.2 ⟨hknown, remaining_outcome hopen⟩
  | expireNow id =>
    cases hm
    obtain ⟨hknown, hopen⟩ := hat id rfl
    exact at_of_owns rfl trivial (expireNow_outcome hs hknown hopen (hfails id rfl))
  | send id =>
    obtain ⟨hknown, hopen⟩ := hat id rfl
    cases k with
    | exchange exchange =>
      rcases exchange with error | ⟨checked, result⟩
      · cases hm
        exact at_of_owns rfl trivial ⟨hknown, hopen⟩
      · have hchecked : checked = true := hpasses
        subst hchecked
        cases hm
        exact at_of_owns rfl trivial ⟨hknown, hopen⟩
    | _ => cases hm
  | failed id error =>
    cases hm
    obtain ⟨hknown, hopen⟩ := hat id rfl
    have howns := afterFailure_owns id error
      (s.terminal.expire (T := RequestResult V) id s.clock).2
    exact at_of_owns howns.1 howns.2 (failed_outcome hs hknown error hopen (hfails id rfl))
  | respond id result =>
    cases hm
    obtain ⟨hknown, hopen⟩ := hat id rfl
    have howns := afterRespond_owns id (s.terminal.respond id result s.clock).2
    exact at_of_owns howns.1 howns.2 (respond_outcome hs hknown result hopen)
  | lookup id =>
    cases hm
    obtain ⟨hknown, hopen⟩ := hat id rfl
    have howns := afterLookup_owns (V := V) id (s.terminal.retiredTerminal id)
    exact at_of_owns howns.1 howns.2 ⟨hknown, lookup_outcome hopen⟩
  | retire exit =>
    cases hm
    rcases exit with ⟨id, outcome⟩ | error | error
    · obtain ⟨hknown, hsettled⟩ := hat id rfl
      refine at_of_owns rfl trivial ⟨hknown, ?_⟩
      cases outcome <;> exact hsettled
    · exact at_of_free rfl trivial
    · exact at_of_free rfl trivial
  | retireChild exit =>
    cases hm
    rcases exit with ⟨id, outcome⟩ | error | error
    · obtain ⟨hknown, hsettled⟩ := hat id rfl
      exact at_of_owns rfl trivial ⟨hknown, retired_outcome hsettled⟩
    · exact at_of_free rfl trivial
    · exact at_of_free rfl trivial
  | leave id =>
    cases hm
    exact at_of_free rfl (hat id rfl).2.1
  | check params =>
    cases hm
    have hfree := afterChecks_free (V := V) params
    exact at_of_free hfree.1 hfree.2
  | enter | cancelTerminal =>
    cases hm
    dsimp only
    split <;> exact at_of_free rfl trivial
  | cancelSend =>
    cases k with
    | acknowledged ack =>
      cases hm
      rcases ack with error | _ | _ <;> exact at_of_free rfl trivial
    | _ => cases hm
  | clock | deadline =>
    cases k <;> cases hm
    exact at_of_free rfl trivial
  | cancelEnter id => cases id <;> cases hm <;> exact at_of_free rfl trivial
  | returned => cases hm
  | refused => cases hm
  | cancelReturned => cases hm

/-- A thread owns the id it has owned, or one that the arbiter did not know. -/
theorem owns_move (hm : move s pc k = some m) (howns : m.next.owns = some id) :
    pc.owns = some id ∨ ¬ (s.view id).Known := by
  cases pc with
  | admitId id' deadline =>
    cases hm
    rcases admitId_cases s.terminal id' deadline with ⟨hinactive, hfresh, h⟩ | ⟨error, h⟩
    · simp only [h] at howns
      cases howns
      exact Or.inr (by simp [View.Known, Shared.view, hinactive, hfresh])
    · simp only [h] at howns
      cases howns
  | remaining id' deadline =>
    cases hm
    exact Or.inl ((afterRemaining_owns id' s.clock deadline).1.symm.trans howns)
  | failed id' error =>
    cases hm
    exact Or.inl ((afterFailure_owns id' error _).1.symm.trans howns)
  | respond id' =>
    cases hm
    exact Or.inl ((afterRespond_owns id' _).1.symm.trans howns)
  | lookup id' =>
    cases hm
    exact Or.inl ((afterLookup_owns id' _).1.symm.trans howns)
  | send =>
    cases k with
    | exchange exchange =>
      rcases exchange with error | ⟨_ | _, result⟩ <;> cases hm <;> exact Or.inl howns
    | _ => cases hm
  | expireNow =>
    cases hm
    exact Or.inl howns
  | retire exit | retireChild exit =>
    cases hm
    rcases exit with _ | _ | _ <;> exact Or.inl howns
  | leave =>
    cases hm
    cases howns
  | check params =>
    cases hm
    rw [(afterChecks_free params).1] at howns
    cases howns
  | enter | cancelTerminal =>
    cases hm
    dsimp only at howns
    split at howns <;> cases howns
  | cancelSend =>
    cases k with
    | acknowledged ack =>
      cases hm
      rcases ack with error | _ | _ <;> cases howns
    | _ => cases hm
  | clock | deadline =>
    cases k <;> cases hm
    cases howns
  | cancelEnter id' => cases id' <;> cases hm <;> cases howns
  | returned => cases hm
  | refused => cases hm
  | cancelReturned => cases hm

/-- A move leaves the assertion of a request with another id in force. -/
theorem outcomes_other (hs : s.terminal.Sane) (hpc' : outcomes.At s u pc')
    (hpair : outcomes.Pair t pc u pc') (hg : cancelsMeetResponses.other s t pc k u pc')
    (hm : move s pc k = some m) : outcomes.At m.shared u pc' := by
  refine ⟨hpc'.1, fun id hid => ?_⟩
  obtain ⟨hknown, hat⟩ := hpc'.2 id hid
  rcases view_move hm hs hknown (fun h => hpair id h hid) with hlater | ⟨rfl, hnone, hroom, hheld⟩
  · exact ⟨known_later hlater hknown, assumes_later hlater hat⟩
  · exact ⟨known_of_held hheld,
      assumes_cancelled hat hnone hroom hheld hid (fun h => hg id h rfl)⟩

theorem outcomes_pair (hpc' : outcomes.At s u pc') (hpair : outcomes.Pair t pc u pc')
    (hm : move s pc k = some m) : outcomes.Pair t m.next u pc' := by
  intro id howns howns'
  rcases owns_move hm howns with hid | hunknown
  · exact hpair id hid howns'
  · exact hunknown (hpc'.2 id howns').1

theorem outcomes_valid :
    outcomes.Valid (program (V := V)) cancelsMeetResponses where
  start := by
    intro s t pc _ hentry _
    cases pc <;> first | exact at_of_free rfl trivial | cases hentry
  start_pair := by
    intro s t pc u pc' _ hentry _ _ _
    have hfree : pc.owns = none := by cases pc <;> first | rfl | cases hentry
    refine ⟨fun id h => ?_, fun id _ h => ?_⟩ <;>
    · rw [hfree] at h
      cases h
  move := by
    intro s t pc k m hs hpc hg hm
    exact ⟨sane_move hs hm, outcomes_move hs hpc hg hm⟩
  child := by
    intro s t pc k m u pc' _ _ _ hm hchild _
    rw [move_child hm] at hchild
    cases hchild
  other := by
    intro s t pc k m u pc' hs _ hpc' _ hpair _ _ hg hm
    have hnext := outcomes_pair hpc' hpair hm
    exact ⟨outcomes_other hs hpc' hpair hg hm, hnext, fun id h h' => hnext id h' h⟩
  child_pair := by
    intro s t pc k m v pc'' u pc' _ _ _ _ _ _ _ _ _ hm hchild
    rw [move_child hm] at hchild
    cases hchild

end

/-! ## Requests -/

/-- **A request returns the terminal that the arbiter holds** if that is `Cancelled` or
`DeadlineExceeded`, and it does not retire the child, in every run in which no cancel retires the
id of a request that fails or times out. -/
theorem request_returns_committed (maximumRetired : Nat)
    {acts : List (Act (Pc V) (Input V))} {c : Threads Shared (Pc V)}
    (hg : Meets program.step cancelsMeetResponses.Allows (init maximumRetired) acts)
    (hrun : run program.step (init maximumRetired) acts = some c) :
    ∀ (t id : Nat) outcome retired held,
      c.pool[t]? = some (.returned id outcome retired held) →
      (held = some .cancelled → outcome = .error .cancelled ∧ retired = false) ∧
      (held = some .deadlineExceeded → outcome = .error .deadlineExceeded ∧ retired = false) := by
  intro t id outcome retired held ht
  have hfits : fits outcome retired held :=
    ((Outline.run outcomes_valid (outcomes_init maximumRetired) hg hrun).at_ t _ ht).1
  refine ⟨?_, ?_⟩
  · rintro rfl
    exact hfits
  · rintro rfl
    exact hfits

/-- Request 7 is on its way to the peer when it is cancelled. -/
def cancelledExchange : List (Act (Pc Nat) (Input Nat)) :=
  [.start 1 (.enter ⟨.passed, some 7, some (some 5)⟩), .move 1 .go 0, .move 1 .go 0,
    .move 1 (.fits true) 0, .move 1 .go 0, .move 1 .go 0, .start 2 (.cancelEnter (some 7)),
    .move 2 .go 0, .move 2 .go 0]

/-- The response comes after the cancel: the request asks what has been committed. -/
theorem request_returns_committed_sample :
    ∃ c, run program.step (init 4) (cancelledExchange ++
        [.move 1 (.exchange (.response true ⟨3, false⟩)) 0, .move 1 .go 0, .move 1 .go 0,
          .move 1 .go 0]) = some c ∧
      c.pool[1]? = some (.returned 7 (.error .cancelled) false (some .cancelled)) := by
  let acts : List (Act (Pc Nat) (Input Nat)) := cancelledExchange ++
    [.move 1 (.exchange (.response true ⟨3, false⟩)) 0, .move 1 .go 0, .move 1 .go 0,
      .move 1 .go 0]
  let c := (run program.step (init 4) acts).get (by decide +kernel)
  obtain ⟨outcome, retired, hpc⟩ : ∃ outcome retired,
      c.pool[1]? = some (.returned 7 outcome retired (some .cancelled)) :=
    ⟨.error .cancelled, false, by decide +kernel⟩
  have hsays := request_returns_committed 4 (by decide +kernel) (run_get _) 1 7 outcome retired _ hpc
  obtain ⟨rfl, rfl⟩ := hsays.1 rfl
  exact ⟨c, run_get _, hpc⟩

/-- The exchange fails after the cancel: the request returns the failure and retires the
child. -/
theorem request_returns_failure :
    ∃ c, run program.step (init 4) (cancelledExchange ++
        [.move 1 (.exchange (.failed .transport)) 0, .move 1 .go 0, .move 1 .go 0, .move 1 .go 0,
          .move 1 .go 0]) = some c ∧
      c.pool[1]? = some (.returned 7 (.error .transport) true (some .cancelled)) ∧
      c.shared.child = false := by
  exact exists_run (by decide +kernel) (by decide +kernel)

end Client

end LensoBun.ProcessV1
