import LensoBun.Lib.Threads
import LensoBun.Provider.Stream

set_option autoImplicit false

/-! # The cancellation registry of the provider server

Request, event and stream-open handlers register their request id before they call the provider
and remove it afterwards; a cancel for an id sets the token of the handler registered under it,
or leaves a tombstone for a handler to come (`server.rs`). A cancel that leaves a tombstone makes
room first, by dropping the entries with the smallest ids.

The functions are the lock sections of the source; `program` interleaves handlers, cancels and
`cancel_all` over them. A token is known by the number of the handler's thread.
-/

namespace LensoBun.Provider

open Std Lib

/-! ## The lock sections -/

structure CancellationEntry where
  token : Option Nat
  cancelled : Bool
  deriving DecidableEq, Repr

abbrev CancellationRegistry := ExtTreeMap Nat CancellationEntry

/-- `MAX_CANCELLATION_ENTRIES`. -/
def maxCancellationEntries : Nat := 1024

/-- The second section of `register_request`: nothing when the id is in use, else the registry
with the new token and the token's first value. -/
def registerRequest (entries : CancellationRegistry) (requestId token : Nat) :
    Option (CancellationRegistry × Bool) :=
  if (entries[requestId]?.bind CancellationEntry.token).isSome then none
  else
    let wasCancelled := (entries[requestId]?.map CancellationEntry.cancelled).getD false
    some (entries.insert requestId { token := some token, cancelled := wasCancelled },
      wasCancelled)

/-- `cancel_request` on the registry. -/
def cancelRequest (entries : CancellationRegistry) (requestId : Nat) : CancellationRegistry :=
  match entries[requestId]? with
  | some entry => entries.insert requestId { entry with cancelled := true }
  | none =>
    (evict maxCancellationEntries entries).insert requestId { token := none, cancelled := true }

/-- The values of the tokens handed out so far. -/
abbrev Tokens := ExtTreeMap Nat Bool

/-- The token that `cancel_request` sets, if the id has one. -/
def cancelToken (entries : CancellationRegistry) (tokens : Tokens) (requestId : Nat) : Tokens :=
  match entries[requestId]?.bind CancellationEntry.token with
  | some token => tokens.insert token true
  | none => tokens

/-- `cancel_all` sets every token of the registry. -/
def cancelAll (entries : CancellationRegistry) (tokens : Tokens) : Tokens :=
  entries.toList.foldl
    (fun tokens entry => entry.2.token.elim tokens (fun token => tokens.insert token true)) tokens

/-! ## Handlers and cancels -/

namespace Registry

structure Shared where
  cancellations : CancellationRegistry
  retired : IdSet
  tokens : Tokens

/-- Where a handler or a cancel stands. A handler is a request, an event or a stream open; what
it does between its registration and the removal of its id (admission to an event queue, the
provider's callback) does not touch the registry. -/
inductive Pc where
  /-- `register_request`: the look at the retired ids. -/
  | checkRetired (requestId : Nat)
  /-- `register_request`: the registration. -/
  | register (requestId : Nat)
  /-- Registered, with the token's first value. -/
  | running (requestId : Nat) (wasCancelled : Bool)
  /-- `remove_request`: the id is to be removed from the registry. -/
  | removeEntry (requestId : Nat)
  /-- `remove_request`: the id is to be retired. -/
  | retire (requestId : Nat)
  | refused
  | cancel (requestId : Nat)
  | cancelAll
  | done
  deriving DecidableEq, Repr

def move (s : Shared) (t : Nat) : Pc → Option (Moved Shared Pc)
  | .checkRetired requestId =>
    if requestId ∈ s.retired then some ⟨s, .refused, none⟩
    else some ⟨s, .register requestId, none⟩
  | .register requestId =>
    match registerRequest s.cancellations requestId t with
    | none => some ⟨s, .refused, none⟩
    | some (entries, wasCancelled) =>
      some ⟨{ s with cancellations := entries, tokens := s.tokens.insert t wasCancelled },
        .running requestId wasCancelled, none⟩
  | .running requestId _ => some ⟨s, .removeEntry requestId, none⟩
  | .removeEntry requestId =>
    some ⟨{ s with cancellations := s.cancellations.erase requestId }, .retire requestId, none⟩
  | .retire requestId =>
    some ⟨{ s with retired := rememberRequestId s.retired requestId maxRetiredRequestIds },
      .done, none⟩
  | .cancel requestId =>
    some ⟨{ s with
        cancellations := cancelRequest s.cancellations requestId
        tokens := cancelToken s.cancellations s.tokens requestId }, .done, none⟩
  | .cancelAll => some ⟨{ s with tokens := Provider.cancelAll s.cancellations s.tokens },
      .done, none⟩
  | .refused | .done => none

def Pc.starts : Pc → Bool
  | .checkRetired _ | .cancel _ | .cancelAll => true
  | _ => false

/-- Nothing is left open, so a move needs no choice. -/
def program : Program Shared Pc Unit := ⟨Pc.starts, fun s t pc _ => move s t pc⟩

def init : Threads Shared Pc :=
  { shared := { cancellations := ∅, retired := ∅, tokens := ∅ }, pool := ∅ }

/-- The id a handler is registered under and has not removed. -/
def Pc.registered : Pc → Option Nat
  | .running requestId _ | .removeEntry requestId => some requestId
  | _ => none

/-! ## What the sections do -/

def Shared.owner (s : Shared) (requestId : Nat) : Option Nat :=
  s.cancellations[requestId]?.bind CancellationEntry.token

end Registry

variable {entries : CancellationRegistry} {requestId token : Nat}

/-- A registration leaves the other ids alone, and an id in use to its user. -/
theorem registerRequest_some {entries' : CancellationRegistry} {wasCancelled : Bool}
    (h : registerRequest entries requestId token = some (entries', wasCancelled)) :
    entries[requestId]?.bind CancellationEntry.token = none ∧
      entries' = entries.insert requestId { token := some token, cancelled := wasCancelled } := by
  unfold registerRequest at h
  split at h
  · cases h
  · next hfree =>
      cases h
      rw [Bool.not_eq_true, Option.isSome_eq_false_iff, Option.isNone_iff_eq_none] at hfree
      exact ⟨hfree, rfl⟩

/-- A token survives every cancel that does not drop its entry. -/
theorem token_cancelRequest {id : Nat} (h : entries[id]?.bind CancellationEntry.token = some token)
    (hroom : entries[requestId]? = none → id ∈ evict maxCancellationEntries entries) :
    (cancelRequest entries requestId)[id]?.bind CancellationEntry.token = some token := by
  obtain ⟨entry, hentry, htoken⟩ := Option.bind_eq_some_iff.mp h
  unfold cancelRequest
  split
  · grind
  · next hnone =>
      rw [getElem?_insert_nat]
      split
      · grind
      · obtain ⟨entry', hkept⟩ := Option.isSome_iff_exists.mp
          (ExtTreeMap.mem_iff_isSome_getElem?.mp (hroom hnone))
        have hsame := getElem?_evict hkept
        rw [hentry, Option.some.injEq] at hsame
        subst hsame
        rw [hkept]
        exact htoken

theorem cancelToken_self (h : entries[requestId]?.bind CancellationEntry.token = some token)
    (tokens : Tokens) : (cancelToken entries tokens requestId)[token]? = some true := by
  unfold cancelToken
  rw [h]
  exact (getElem?_insert_nat _ _ _ _).trans (if_pos rfl)

/-- Setting the tokens of a list of entries sets those of its members and keeps those set. -/
theorem foldl_cancel {entries : List (Nat × CancellationEntry)} {tokens : Tokens}
    (h : tokens[token]? = some true ∨ ∃ entry ∈ entries, entry.2.token = some token) :
    (entries.foldl (fun tokens entry =>
      entry.2.token.elim tokens (fun token => tokens.insert token true)) tokens)[token]? =
      some true := by
  induction entries generalizing tokens with
  | nil => grind
  | cons entry entries ih =>
    rw [List.foldl_cons]
    apply ih
    have hset : ∀ other, (tokens.insert other true)[token]? =
        if other = token then some true else tokens[token]? :=
      fun other => getElem?_insert_nat _ _ _ _
    rcases h with h | ⟨found, hfound, htoken⟩
    · left
      cases hother : entry.2.token with
      | none => exact h
      | some =>
        rw [Option.elim_some, hset]
        split
        · rfl
        · exact h
    · rcases List.mem_cons.mp hfound with rfl | hfound
      · grind
      · exact Or.inr ⟨found, hfound, htoken⟩

theorem cancelAll_token (h : entries[requestId]?.bind CancellationEntry.token = some token)
    (tokens : Tokens) : (cancelAll entries tokens)[token]? = some true := by
  obtain ⟨entry, hentry, htoken⟩ := Option.bind_eq_some_iff.mp h
  refine foldl_cancel (Or.inr ⟨(requestId, entry), ?_, htoken⟩)
  exact ExtTreeMap.mem_toList_iff_getElem?_eq_some.mpr hentry

/-! ## Registered handlers keep their tokens -/

namespace Registry

def Pc.cancels : Pc → Option Nat
  | .cancel requestId => some requestId
  | _ => none

/-- A cancel for an unknown id drops no entry that has a token. -/
def sparesTokens : Guard Shared Pc Unit where
  self s _ pc _ := ∀ requestId ∈ pc.cancels, s.cancellations[requestId]? = none →
    ∀ entry ∈ s.cancellations.toList, entry.2.token ≠ none →
      entry.1 ∈ evict maxCancellationEntries s.cancellations

instance (c : Threads Shared Pc) (a : Act Pc Unit) :
    Decidable (sparesTokens.Allows c a) := Guard.decidable c a

def owned : Outline Shared Pc where
  Shared _ := True
  At s t pc := ∀ requestId, pc.registered = some requestId → s.owner requestId = some t
  Pair _ _ _ _ := True

variable {m : Moved Shared Pc} {s : Shared} {t n : Nat} {c : Threads Shared Pc}

theorem owned_move {pc : Pc} (hpc : owned.At s t pc) (hm : move s t pc = some m) :
    owned.At m.shared t m.next := by
  intro id hid
  cases pc with
  | checkRetired =>
    simp only [move] at hm
    split at hm <;> cases hm <;> cases hid
  | register =>
    simp only [move] at hm
    split at hm
    · cases hm
      cases hid
    · next entries wasCancelled hreg =>
        cases hm
        cases hid
        rw [Shared.owner, (registerRequest_some hreg).2, getElem?_insert_nat, if_pos rfl]
        rfl
  | running =>
    cases hm
    exact hpc id hid
  | refused => cases hm
  | done => cases hm
  | _ => cases hm; cases hid

theorem owned_other {u : Nat} {pc pc' : Pc} (ht : owned.At s t pc) (hu : owned.At s u pc')
    (htu : t ≠ u) (hg : sparesTokens.self s t pc ()) (hm : move s t pc = some m) :
    owned.At m.shared u pc' := by
  intro id hid
  have howner := hu id hid
  cases pc with
  | checkRetired =>
    simp only [move] at hm
    split at hm <;> cases hm <;> exact howner
  | register requestId =>
    simp only [move] at hm
    split at hm
    · cases hm
      exact howner
    · next entries wasCancelled hreg =>
        cases hm
        obtain ⟨hfree, rfl⟩ := registerRequest_some hreg
        have hne : requestId ≠ id := by
          rintro rfl
          rw [Shared.owner, hfree] at howner
          cases howner
        rw [Shared.owner, getElem?_insert_nat, if_neg hne]
        exact howner
  | removeEntry requestId =>
    cases hm
    have hne : requestId ≠ id := by
      rintro rfl
      have hmine := ht requestId rfl
      rw [howner, Option.some.injEq] at hmine
      exact htu hmine.symm
    rw [Shared.owner, getElem?_erase_nat, if_neg hne]
    exact howner
  | cancel requestId =>
    cases hm
    refine token_cancelRequest howner (fun hnone => ?_)
    obtain ⟨entry, hentry, htoken⟩ := Option.bind_eq_some_iff.mp howner
    refine hg requestId rfl hnone (id, entry) ?_ (by simp [htoken])
    exact ExtTreeMap.mem_toList_iff_getElem?_eq_some.mpr hentry
  | refused => cases hm
  | done => cases hm
  | _ =>
    cases hm
    exact howner

theorem move_child {pc : Pc} (hm : move s t pc = some m) : m.child = none := by
  cases pc with
  | checkRetired | register =>
    simp only [move] at hm
    split at hm <;> cases hm <;> rfl
  | refused => cases hm
  | done => cases hm
  | _ =>
    cases hm
    rfl

theorem owned_valid : owned.Valid program sparesTokens where
  start s t pc _ hpc _ id hid := by
    have hnone : pc.registered = none := by
      cases pc <;> first | rfl | cases hpc
    rw [hnone] at hid
    cases hid
  start_pair _ _ _ _ _ _ _ _ _ _ := ⟨trivial, trivial⟩
  move s t pc k m _ hpc _ hm := ⟨trivial, owned_move hpc hm⟩
  child s t pc k m u pc' _ _ _ hm hc := by
    rw [move_child hm] at hc
    cases hc
  other s t pc k m u pc' _ ht hu htu _ _ hg _ hm :=
    ⟨owned_other ht hu htu hg hm, trivial, trivial⟩
  child_pair s t pc k m v pc'' u pc' _ _ _ _ _ _ _ _ _ _ _ := ⟨trivial, trivial⟩

theorem owned_init : owned.Holds init := by
  refine ⟨trivial, ?_, ?_⟩ <;> simp [init]

/-- **A cancel sets the token of the handler registered under its id, and `cancel_all` sets the
tokens of all registered handlers**, in every run in which no cancel for an unknown id has dropped
an entry with a token. -/
theorem cancel_sets_token (acts : List (Act Pc Unit)) (c c' : Threads Shared Pc)
    (hg : Meets program.step sparesTokens.Allows init acts)
    (h : run program.step init acts = some c) (t child u requestId : Nat) (pc : Pc)
    (hu : c.pool[u]? = some pc) (hpc : pc.registered = some requestId)
    (ht : c.pool[t]? = some (.cancel requestId) ∨ c.pool[t]? = some .cancelAll)
    (hstep : program.step c (.move t () child) = some c') :
    c'.shared.tokens[u]? = some true := by
  have howner := (Outline.run owned_valid owned_init hg h).at_ u pc hu requestId hpc
  obtain ⟨pc', m, ht', hm, hsh, -⟩ := Program.move_pool hstep
  rw [hsh]
  rcases ht with ht | ht
  · rw [ht, Option.some.injEq] at ht'
    subst ht'
    cases hm
    exact cancelToken_self howner _
  · rw [ht, Option.some.injEq] at ht'
    subst ht'
    cases hm
    exact cancelAll_token howner _

/-- A handler of id 5 is registered (thread 0) and a cancel for it has come in (thread 1). -/
def cancelOfRegistered : List (Act Pc Unit) :=
  [.start 0 (.checkRetired 5), .move 0 () 0, .move 0 () 0, .start 1 (.cancel 5)]

theorem cancel_sets_token_sample :
    ∃ c c', run program.step init cancelOfRegistered = some c ∧
      program.step c (.move 1 () 0) = some c' ∧ c'.shared.tokens[(0 : Nat)]? = some true := by
  have hg : Meets program.step sparesTokens.Allows init cancelOfRegistered := by decide
  obtain ⟨c, hc⟩ := Option.isSome_iff_exists.mp
    (by decide : (run program.step init cancelOfRegistered).isSome = true)
  have hpool : (run program.step init cancelOfRegistered).map
      (fun c => (c.pool[0]?, c.pool[1]?)) =
      some (some (.running 5 false), some (.cancel 5)) := by decide
  have hstep : ((run program.step init cancelOfRegistered).bind
      (fun c => program.step c (.move 1 () 0))).isSome = true := by decide
  rw [hc] at hpool hstep
  rw [Option.map_some, Option.some.injEq, Prod.mk.injEq] at hpool
  obtain ⟨c', hc'⟩ := Option.isSome_iff_exists.mp hstep
  exact ⟨c, c', hc, hc', cancel_sets_token _ c c' hg hc 1 0 0 5 _ hpool.1 rfl
    (Or.inl hpool.2) hc'⟩

/-! ### A registry filled with tombstones -/

/-- The cancel for `requestId` comes in and is processed, in thread `t`. -/
def cancelled (t requestId : Nat) : List (Act Pc Unit) :=
  [.start t (.cancel requestId), .move t () 0]

def afterCancel (c : Threads Shared Pc) (t requestId : Nat) : Threads Shared Pc :=
  { shared :=
      { cancellations := cancelRequest c.shared.cancellations requestId
        retired := c.shared.retired
        tokens := cancelToken c.shared.cancellations c.shared.tokens requestId }
    pool := (c.pool.insert t (.cancel requestId)).insert t .done }

theorem run_cancelled (ht : c.pool[t]? = none) (requestId : Nat) :
    run program.step c (cancelled t requestId) = some (afterCancel c t requestId) := by
  have hpool : (c.pool.insert t (.cancel requestId))[t]? = some (.cancel requestId) :=
    (getElem?_insert_nat _ _ _ _).trans (if_pos rfl)
  rw [cancelled, run_cons_of_step (Program.step_start rfl (not_mem_of_getElem? ht)),
    run_cons_of_step (Program.step_move hpool rfl rfl)]
  rfl

theorem afterCancel_pool (c : Threads Shared Pc) (t requestId u : Nat) :
    (afterCancel c t requestId).pool[u]? = if t = u then some .done else c.pool[u]? := by
  dsimp only [afterCancel]
  rw [getElem?_insert_nat, getElem?_insert_nat]
  split <;> rfl

theorem afterCancel_tokens {requestId : Nat} (h : c.shared.cancellations[requestId]? = none)
    (t : Nat) : (afterCancel c t requestId).shared.tokens = c.shared.tokens := by
  dsimp only [afterCancel]
  rw [cancelToken, h]
  rfl

/-- The handler of id 0 runs and the ids 1 to `n` have been cancelled. -/
structure Filled (n : Nat) (c : Threads Shared Pc) : Prop where
  running : c.pool[0]? = some (.running 0 false)
  fresh : ∀ t, n < t → c.pool[t]? = none
  owner : c.shared.owner 0 = some 0
  unknown : ∀ id, n < id → c.shared.cancellations[id]? = none
  size : c.shared.cancellations.size = n + 1
  unset : c.shared.tokens[0]? = some false

theorem Filled.cancelled (h : Filled n c) (hn : n + 1 < 1024) :
    ∃ c', run program.step c (cancelled (n + 1) (n + 1)) = some c' ∧ Filled (n + 1) c' := by
  refine ⟨_, run_cancelled (h.fresh (n + 1) (by omega)) (n + 1), ?_⟩
  have hunknown := h.unknown (n + 1) (by omega)
  have hcancel : (afterCancel c (n + 1) (n + 1)).shared.cancellations =
      c.shared.cancellations.insert (n + 1) { token := none, cancelled := true } := by
    dsimp only [afterCancel]
    rw [cancelRequest, hunknown]
    dsimp only
    rw [evict_of_lt (by rw [h.size]; exact hn)]
  refine ⟨?_, ?_, ?_, ?_, ?_, ?_⟩
  · rw [afterCancel_pool, if_neg (by omega)]
    exact h.running
  · intro t ht
    rw [afterCancel_pool, if_neg (by omega)]
    exact h.fresh t (by omega)
  · rw [Shared.owner, hcancel, getElem?_insert_nat, if_neg (by omega)]
    exact h.owner
  · intro id hid
    rw [hcancel, getElem?_insert_nat, if_neg (by omega)]
    exact h.unknown id (by omega)
  · rw [hcancel, size_insert_of_none hunknown, h.size]
  · rw [afterCancel_tokens hunknown]
    exact h.unset

/-- The cancels for the ids 1 to `n`, one after the other. -/
def cancelsUpTo : Nat → List (Act Pc Unit)
  | 0 => []
  | n + 1 => cancelsUpTo n ++ cancelled (n + 1) (n + 1)

theorem Filled.upTo (h : Filled 0 c) (hn : n < 1024) :
    ∃ c', run program.step c (cancelsUpTo n) = some c' ∧ Filled n c' := by
  induction n with
  | zero => exact ⟨c, rfl, h⟩
  | succ n ih =>
    obtain ⟨c₁, hc₁, hfilled⟩ := ih (by omega)
    obtain ⟨c₂, hc₂, hfilled'⟩ := hfilled.cancelled hn
    refine ⟨c₂, ?_, hfilled'⟩
    rw [cancelsUpTo, run_append, hc₁]
    exact hc₂

/-- A handler of id 0 is registered. Cancels for the unknown ids 1 to 1024 come in, and then a
cancel for id 0. -/
def cancelsFillRegistry : List (Act Pc Unit) :=
  [.start 0 (.checkRetired 0), .move 0 () 0, .move 0 () 0] ++ cancelsUpTo 1023 ++
    cancelled 1024 1024 ++ cancelled 1025 0

/-- The cancel for id 1024 has dropped the entry of id 0: the handler of id 0 is still running,
the cancel for it has been processed, and its token is not set. -/
theorem cancel_misses_token :
    ∃ c, run program.step init cancelsFillRegistry = some c ∧
      c.pool[0]? = some (.running 0 false) ∧ c.pool[1025]? = some .done ∧
      c.shared.tokens[0]? = some false := by
  have hregistered : ∃ c, run program.step init
      [.start 0 (.checkRetired 0), .move 0 () 0, .move 0 () 0] = some c ∧ Filled 0 c := by
    refine ⟨_, rfl, rfl, ?_, rfl, ?_, rfl, rfl⟩
    · intro t ht
      rw [getElem?_insert_nat, if_neg (by omega), getElem?_insert_nat, if_neg (by omega),
        getElem?_insert_nat, if_neg (by omega)]
      rfl
    · intro id hid
      rw [getElem?_insert_nat, if_neg (by omega)]
      rfl
  obtain ⟨c₀, hc₀, hfilled₀⟩ := hregistered
  obtain ⟨c₁, hc₁, hfilled⟩ := hfilled₀.upTo (by omega : 1023 < 1024)
  -- the registry is full, and the entry of id 0 is its smallest
  have hzero : 0 ∈ c₁.shared.cancellations := by
    obtain ⟨entry, hentry, -⟩ := Option.bind_eq_some_iff.mp hfilled.owner
    exact mem_of_getElem? hentry
  have hunknown := hfilled.unknown 1024 (by omega)
  have hdropped : (afterCancel c₁ 1024 1024).shared.cancellations[0]? = none := by
    dsimp only [afterCancel]
    rw [cancelRequest, hunknown]
    dsimp only
    rw [maxCancellationEntries, evict_of_size hzero hfilled.size, getElem?_insert_nat,
      if_neg (by omega), getElem?_erase_nat, if_pos rfl]
  have hfresh : (afterCancel c₁ 1024 1024).pool[1025]? = none := by
    rw [afterCancel_pool, if_neg (by omega)]
    exact hfilled.fresh 1025 (by omega)
  refine ⟨afterCancel (afterCancel c₁ 1024 1024) 1025 0, ?_, ?_, ?_, ?_⟩
  · rw [cancelsFillRegistry, run_append, run_append, run_append, hc₀, Option.bind_some, hc₁,
      Option.bind_some, run_cancelled (hfilled.fresh 1024 (by omega)), Option.bind_some,
      run_cancelled hfresh]
  · rw [afterCancel_pool, if_neg (by omega), afterCancel_pool, if_neg (by omega)]
    exact hfilled.running
  · rw [afterCancel_pool, if_pos rfl]
  · rw [afterCancel_tokens hdropped, afterCancel_tokens hunknown]
    exact hfilled.unset

end Registry

end LensoBun.Provider
