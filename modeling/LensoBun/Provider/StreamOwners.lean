import LensoBun.Lib.Custody
import LensoBun.Lib.History
import LensoBun.Provider.Sessions

set_option autoImplicit false

/-! # Where the provider's streams are

Every stream object that `open_stream` has returned is somewhere: in the table under its stream
id, or in the hands of a handler that is about to store it, to cancel it or to deliver its
terminal; or it has been cancelled, or its terminal has been delivered. So when no handler is
executing, a stream that is not in the table has been cancelled or has ended
(`opened_streams_end`).

This fails where the table is written by stream id: an open that stores its stream under an id
that has become live since the check takes the other stream out of the table and nobody cancels
it (`opened_stream_is_lost`), and a call that ends its stream takes out whatever is stored under
the id.

A stream object is known by the number of the thread that opened it; `ids t` is the stream id of
the open `t`. What has happened to the streams is read off the log of the run.
-/

namespace LensoBun.Provider

open Std Lib

variable {V : Type}

/-! ## The last steps of a call -/

/-- A call that ends its stream, with its outcome. -/
def CallPc.ending : CallPc V → Option (WireStreamOutcome V)
  | .retire outcome | .unlink outcome | .remember outcome | .release outcome => some outcome
  | _ => none

/-- A call comes to the end of its stream through `cancel`, or with a terminal. -/
theorem ending_callMove {capability : String} {entry entry' : ProviderStreamEntry}
    {pc pc' : CallPc V} {k : Choice V} {effects : List (StreamEffect V)}
    {outcome : WireStreamOutcome V}
    (h : callMove capability entry pc k = some (entry', pc', effects))
    (hending : pc'.ending = some outcome) :
    pc.ending = some outcome ∨ pc = .cancelStream outcome ∨ outcome.isTerminal = true := by
  cases pc with
  | receiveStore result =>
    cases k <;> cases h
    right; right
    rw [afterResult] at hending
    by_cases hfatal : result.isFatal = true
    · rw [if_pos hfatal] at hending
      cases hending
    · rw [if_neg hfatal] at hending
      by_cases hterminal : result.isTerminal = true
      · rw [if_pos hterminal] at hending
        cases hending
        exact hterminal
      · rw [if_neg hterminal] at hending
        cases hending
  | cancelStream =>
    cases k <;> cases h
    cases hending
    exact Or.inr (Or.inl rfl)
  | retire =>
    cases k <;> cases h
    exact Or.inl hending
  | cancelled call =>
    cases k <;> simp only [callMove] at h <;> try cases h
    split at h <;> cases h
    · cases hending
    · cases call <;> cases hending
  | sendStore sequence action =>
    cases k <;> cases h
    cases action with
    | accepted => cases hending
    | runtime =>
      rw [afterSend] at hending
      split at hending <;> cases hending
  | receiveProvider =>
    cases k with
    | receive answer =>
      rcases answer with _ | answer <;> cases h
      · cases hending
      · rcases answer with (payload | _ | result) | error <;> cases hending
    | _ => cases h
  | closeProvider =>
    cases k with
    | action answer =>
      rcases answer with _ | action <;> cases h
      · cases hending
      · cases action with
        | accepted => cases hending
        | runtime =>
          rw [afterClose] at hending
          split at hending <;> cases hending
    | _ => cases h
  | closeSwap =>
    cases k <;> cases h
    split at hending <;> cases hending
  | sendProvider =>
    cases k with
    | action answer => cases answer <;> cases h <;> cases hending
    | _ => cases h
  | sendCredit =>
    cases k <;> simp only [callMove] at h <;> try cases h
    · split at h
      · cases h
        cases hending
      · split at h <;> cases h <;> cases hending
    · split at h <;> cases h
      cases hending
  | _ =>
    cases k <;> simp only [callMove] at h <;> try cases h
    all_goals first
      | cases hending
      | (split at h <;> cases h <;> cases hending)

namespace Server

/-! ## What happens to a stream -/

inductive StreamEvent where
  /-- `open_stream` has returned a stream. -/
  | opened (ref : Nat)
  /-- The handshake `t` has come to the entry of a stream in `cancel_all_streams`. -/
  | reached (t ref : Nat)
  /-- The handshake `t` calls `cancel` on the stream it has come to. -/
  | cancelReached (t : Nat)
  /-- `cancel` is called on the stream. -/
  | cancelled (ref : Nat)
  /-- A call has returned the terminal of the stream. -/
  | terminal (ref : Nat)
  deriving DecidableEq, Repr

def streamEvents (_ : Shared) (t : Nat) (pc : Pc V) (k : Input V) (_ : Moved Shared (Pc V)) :
    List StreamEvent :=
  match pc, k with
  | .running (.stream _ _ _) _ _, .opened true => [.opened t]
  | .cancelEntries ((_, ref) :: _), _ => [.reached t ref]
  | .cancelEntryProvider _ _, _ => [.cancelReached t]
  | .cancelProvider _ ref, _ => [.cancelled ref]
  | .call _ ref (.cancelStream _), _ => [.cancelled ref]
  | .call _ ref (.release outcome), _ => if outcome.isTerminal then [.terminal ref] else []
  | _, _ => []

/-- `cancel` has been called on the stream, by a call, by a stream cancel or by a handshake that
had come to its entry. -/
def WasCancelled (log : List StreamEvent) (ref : Nat) : Prop :=
  .cancelled ref ∈ log ∨ ∃ t, [.reached t ref, .cancelReached t].Sublist log

def Pc.finished : Pc V → Bool
  | .acknowledged _ | .refused _ | .done | .call _ _ (.done _) => true
  | _ => false

theorem WasCancelled.append {log : List StreamEvent} {ref : Nat} (h : WasCancelled log ref)
    (new : List StreamEvent) : WasCancelled (log ++ new) ref := by
  rcases h with h | ⟨t, h⟩
  · exact Or.inl (List.mem_append_left new h)
  · exact Or.inr ⟨t, h.trans (List.sublist_append_left log new)⟩

/-! ## The condition -/

/-- An open stores its stream under an id that is not live. -/
def Pc.storesFree (s : Shared) : Pc V → Bool
  | .insertStream id _ _ => s.streams[id]?.isNone
  | _ => true

/-- A call that ends its stream takes its own entry out of the table, or none. -/
def Pc.unlinksOwn (s : Shared) : Pc V → Bool
  | .call id ref (.unlink _) => s.streams[id]?.all (· == ref)
  | _ => true

def Pc.opensUnder (id : Nat) : Pc V → Bool
  | .receive (.work kind _ _ _) => kind.within (· == id)
  | .acquire kind _ | .checkRetired kind _ | .register kind _ | .running kind _ _
  | .removeEntry kind _ _ | .retire kind _ _ => kind.within (· == id)
  | .openRetired _ streamId _ _ | .openActive _ streamId _ _ _ | .insertStream streamId _ _ =>
    streamId == id
  | _ => true

/-- The table is written under ids that are free, and each open has its id. -/
def writesApart (ids : Nat → Nat) : Guard (Logged Shared StreamEvent) (Pc V) (Input V) where
  self s _ pc _ := pc.storesFree s.state = true ∧ pc.unlinksOwn s.state = true
  start _ t pc := pc.opensUnder (ids t) = true

instance (ids : Nat → Nat) (c : Threads (Logged Shared StreamEvent) (Pc V)) (a : Act (Pc V) (Input V)) :
    Decidable ((writesApart ids).Allows c a) := Guard.decidable c a

/-! ## What a handler knows -/

/-- A call that ends its stream has a terminal to return, or has called `cancel`. -/
def Pc.endsWell (log : List StreamEvent) : Pc V → Prop
  | .call _ ref pc => ∀ outcome, pc.ending = some outcome →
      outcome.isTerminal = true ∨ .cancelled ref ∈ log
  | _ => True

def owning (ids : Nat → Nat) : Outline (Logged Shared StreamEvent) (Pc V) where
  Shared _ := True
  At s t pc := pc.opensUnder (ids t) = true ∧ pc.endsWell s.log
  Pair _ _ _ _ := True

theorem Pc.endsWell.append {log : List StreamEvent} {pc : Pc V} (h : pc.endsWell log)
    (new : List StreamEvent) : pc.endsWell (log ++ new) := by
  cases pc with
  | call =>
    intro outcome hending
    exact (h outcome hending).imp_right (List.mem_append_left new)
  | _ => trivial

section

variable {s s' : Shared} {t id : Nat} {pc next : Pc V} {k : Input V}

theorem opensUnder_moves (hpc : pc.opensUnder id = true) (h : Moves s t pc k s' next) :
    next.opensUnder id = true := by
  cases h with
  | receive message =>
    cases message with
    | work kind =>
      rw [afterSession]
      split
      · cases kind <;> first | rfl | exact hpc
      · rfl
    | _ => rfl
  | retire kind requestId opened => cases kind <;> cases opened <;> first | rfl | exact hpc
  | takeStreams => cases s.streams.toList <;> rfl
  | rememberEntry id taken => cases taken <;> rfl
  | _ => first | rfl | exact hpc

theorem endsWell_moves {log : List StreamEvent} (hpc : pc.endsWell log)
    (h : Moves s t pc k s' next) (m : Moved Shared (Pc V)) :
    next.endsWell (log ++ streamEvents s t pc k m) := by
  cases h with
  | receive message =>
    cases message with
    | work kind =>
      rw [afterSession]
      split
      · cases kind <;> trivial
      · trivial
    | _ => trivial
  | retire kind requestId opened => cases kind <;> cases opened <;> trivial
  | takeStreams => cases s.streams.toList <;> trivial
  | rememberEntry id taken => cases taken <;> trivial
  | lookup => exact fun outcome hending => by cases hending
  | unlink => exact hpc.append _
  | remember => exact hpc.append _
  | onEntry id ref pc pc' choice entry entry' effects hentry hmove =>
    intro outcome hending
    rcases ending_callMove hmove hending with hbefore | rfl | hterminal
    · exact (hpc outcome hbefore).imp_right (List.mem_append_left _)
    · exact Or.inr (List.mem_append_right _ (by simp [streamEvents]))
    · exact Or.inl hterminal
  | _ => trivial

end

theorem owning_valid (ids : Nat → Nat) :
    (owning ids).Valid ((program (V := V)).logged streamEvents) (writesApart ids) where
  start s t pc _ hpc hg := by
    refine ⟨hg, ?_⟩
    cases pc with
    | call => cases hpc
    | _ => trivial
  start_pair _ _ _ _ _ _ _ _ _ _ := ⟨trivial, trivial⟩
  move s t pc k m' _ hpc _ hm' := by
    obtain ⟨m, hm, rfl⟩ := logged_move hm'
    have hmoves := (move_moves hm).1
    exact ⟨trivial, opensUnder_moves hpc.1 hmoves, endsWell_moves hpc.2 hmoves m⟩
  child s t pc k m' u pc' _ _ _ hm' hchild := by
    obtain ⟨m, hm, rfl⟩ := logged_move hm'
    rw [(move_moves hm).2] at hchild
    cases hchild
  other s t pc k m' u pc' _ _ hpc' _ _ _ _ _ hm' := by
    obtain ⟨m, hm, rfl⟩ := logged_move hm'
    exact ⟨⟨hpc'.1, hpc'.2.append _⟩, trivial, trivial⟩
  child_pair s t pc k m' v pc'' u pc' _ _ _ _ _ _ _ _ _ hm' hchild := by
    obtain ⟨m, hm, rfl⟩ := logged_move hm'
    rw [(move_moves hm).2] at hchild
    cases hchild

/-! ## Who has a stream -/

/-- The stream is stored under its id, or it has been cancelled or has ended. -/
def Settled (ids : Nat → Nat) (s : Logged Shared StreamEvent) (ref : Nat) : Prop :=
  s.state.streams[ids ref]? = some ref ∨ WasCancelled s.log ref ∨ .terminal ref ∈ s.log

/-- The handler is about to store the stream, to cancel it or to return its terminal. -/
def Pc.has (ids : Nat → Nat) (log : List StreamEvent) (t : Nat) (pc : Pc V) (ref : Nat) : Prop :=
  match pc with
  | .removeEntry kind _ opened | .retire kind _ opened =>
    kind.isStream = true ∧ opened = true ∧ ref = t
  | .insertStream _ _ _ => ref = t
  | .cancelEntries taken | .rememberEntry _ taken => (ids ref, ref) ∈ taken
  | .cancelEntryProvider _ taken => (ids ref, ref) ∈ taken ∨ .reached t ref ∈ log
  | .cancelStore _ ref' | .cancelProvider _ ref' => ref' = ref
  | .call _ ref' (.remember outcome) | .call _ ref' (.release outcome) =>
    ref' = ref ∧ outcome.isTerminal = true
  | _ => False

def streamCustody (ids : Nat → Nat) : Custody (Logged Shared StreamEvent) (Pc V) Nat where
  item s ref := .opened ref ∈ s.log
  kept := Settled ids
  hands s t pc ref := pc.has ids s.log t ref

section

variable {ids : Nat → Nat} {s : Logged Shared StreamEvent} {s' : Shared} {t ref : Nat}
  {pc next : Pc V} {k : Input V}

/-- A stream is opened by the step in which the provider's callback has returned it. -/
theorem opened_mem {m : Moved Shared (Pc V)}
    (h : .opened ref ∈ s.log ++ streamEvents s.state t pc k m) :
    .opened ref ∈ s.log ∨ ref = t ∧ k = .opened true ∧
      ∃ id credit operation requestId wasCancelled,
        pc = .running (.stream id credit operation) requestId wasCancelled := by
  rcases List.mem_append.mp h with hold | hnew
  · exact Or.inl hold
  · unfold streamEvents at hnew
    split at hnew <;> try simp only [List.mem_singleton, List.not_mem_nil, reduceCtorEq] at hnew
    · next id credit operation requestId wasCancelled =>
        cases hnew
        exact Or.inr ⟨rfl, rfl, id, credit, operation, requestId, wasCancelled, rfl⟩
    · split at hnew <;> simp at hnew

theorem has_nextEntry {taken : List (Nat × Nat)} {log : List StreamEvent}
    (h : (ids ref, ref) ∈ taken) : (nextEntry taken : Pc V).has ids log t ref := by
  cases taken with
  | nil => cases h
  | cons => exact h

/-- A stream that is settled stays so, or the mover takes it out of the table and has it. -/
theorem settled_moves (hg : (writesApart ids).self s t pc k) (hwell : pc.endsWell s.log)
    (h : Moves s.state t pc k s' next) (new : List StreamEvent) (hsettled : Settled ids s ref) :
    Settled ids ⟨s', s.log ++ new⟩ ref ∨ next.has ids (s.log ++ new) t ref := by
  rcases hsettled with hstored | hgone
  · cases h with
    | takeStreams => grind [has_nextEntry]
    | insertStream id =>
      -- the id was free, so it is another stream's
      have hfree : s.state.streams[id]? = none := Option.isNone_iff_eq_none.mp hg.1
      have hne : id ≠ ids ref := by
        rintro rfl
        rw [hfree] at hstored
        cases hstored
      exact Or.inl (Or.inl ((getElem?_insert_nat _ _ _ _).trans ((if_neg hne).trans hstored)))
    | unlink id ref' outcome =>
      by_cases hid : id = ids ref
      · -- the entry is the call's own
        have hown : ref = ref' := by
          have hg := hg.2
          rw [Pc.unlinksOwn, hid, hstored] at hg
          exact eq_of_beq hg
        rcases hwell outcome rfl with hterminal | hcancelled
        · exact Or.inr ⟨hown.symm, hterminal⟩
        · exact Or.inl (Or.inr (Or.inl (Or.inl (List.mem_append_left _ (hown ▸ hcancelled)))))
      · exact Or.inl (Or.inl ((getElem?_erase_nat _ _ _).trans ((if_neg hid).trans hstored)))
    | cancelRemove id ref' _ hfound =>
      by_cases hid : id = ids ref
      · rw [hid, hstored, Option.some.injEq] at hfound
        exact Or.inr hfound.symm
      · exact Or.inl (Or.inl ((getElem?_erase_nat _ _ _).trans ((if_neg hid).trans hstored)))
    | _ => exact Or.inl (Or.inl hstored)
  · exact Or.inl (Or.inr (hgone.imp (fun h => h.append new) (List.mem_append_left new)))

theorem has_moves (hopens : pc.opensUnder (ids t) = true) (h : Moves s.state t pc k s' next)
    (m : Moved Shared (Pc V)) (hhas : pc.has ids s.log t ref) :
    Settled ids ⟨s', s.log ++ streamEvents s.state t pc k m⟩ ref ∨
      next.has ids (s.log ++ streamEvents s.state t pc k m) t ref := by
  cases h with
  | removeEntry => exact Or.inr hhas
  | retire kind =>
    obtain ⟨hkind, rfl, rfl⟩ := hhas
    cases kind with
    | stream => exact Or.inr rfl
    | _ => cases hkind
  | insertStream id =>
    have hid : id = ids t := eq_of_beq hopens
    have href : ref = t := hhas
    rw [href]
    exact Or.inl (Or.inl ((getElem?_insert_nat _ _ _ _).trans (if_pos hid)))
  | cancelEntry =>
    right
    rcases List.mem_cons.mp hhas with hfirst | htaken
    · cases hfirst
      exact Or.inr (List.mem_append_right _ (List.mem_singleton.mpr rfl))
    · exact Or.inl htaken
  | cancelEntryProvider =>
    rcases hhas with htaken | hreached
    · exact Or.inr htaken
    · have hcancelled : [StreamEvent.reached t ref, .cancelReached t].Sublist
          (s.log ++ [.cancelReached t]) :=
        (List.singleton_sublist.mpr hreached).append (List.Sublist.refl [StreamEvent.cancelReached t])
      exact Or.inl (Or.inr (Or.inl (Or.inr ⟨t, hcancelled⟩)))
  | rememberEntry => exact Or.inr (has_nextEntry hhas)
  | cancelStore => exact Or.inr hhas
  | cancelProvider id ref' =>
    have href : ref' = ref := hhas
    rw [← href]
    exact Or.inl (Or.inr (Or.inl (Or.inl
      (List.mem_append_right _ (List.mem_singleton.mpr rfl)))))
  | remember => exact Or.inr hhas
  | onEntry id ref' pc pc' choice entry entry' effects hentry hmove =>
    cases pc with
    | release =>
      obtain ⟨rfl, hterminal⟩ := hhas
      refine Or.inl (Or.inr (Or.inr (List.mem_append_right _ ?_)))
      simp [streamEvents, hterminal]
    | remember => cases choice <;> cases hmove
    | _ => cases hhas
  | refuse _ _ _ hrefuse => cases pc <;> first | (cases hrefuse; done) | cases hhas
  | _ => cases hhas

theorem Pc.has.append {log : List StreamEvent} (h : pc.has ids log t ref)
    (new : List StreamEvent) : pc.has ids (log ++ new) t ref := by
  cases pc with
  | cancelEntryProvider => exact h.imp_right (List.mem_append_left new)
  | call id ref' pc => cases pc <;> exact h
  | _ => exact h

theorem not_has_of_finished {log : List StreamEvent} (h : pc.finished = true) :
    ¬ pc.has ids log t ref := by
  cases pc with
  | call streamId ref' pc => cases pc <;> first | (cases h; done) | exact id
  | acknowledged => exact id
  | refused => exact id
  | done => exact id
  | _ => cases h

end

theorem streamCustody_valid (ids : Nat → Nat) :
    (streamCustody ids).Valid ((program (V := V)).logged streamEvents) (writesApart ids)
      (owning ids) where
  move s t pc k m' ref _ hpc hg hm' hitem hbefore := by
    obtain ⟨m, hm, rfl⟩ := logged_move hm'
    have hmoves := (move_moves hm).1
    have hafter : Settled ids ⟨m.shared, s.log ++ streamEvents s.state t pc k m⟩ ref ∨
        m.next.has ids (s.log ++ streamEvents s.state t pc k m) t ref := by
      rcases opened_mem hitem with hold | ⟨rfl, rfl, id, credit, operation, requestId, was, rfl⟩
      · rcases hbefore hold with hsettled | hhas
        · exact settled_moves hg hpc.2 hmoves _ hsettled
        · exact has_moves hpc.1 hmoves m hhas
      · cases hm
        exact Or.inr ⟨rfl, rfl, rfl⟩
    exact hafter.imp_right Or.inl
  other s t pc k m' u pc' ref _ _ _ _ hm' _ hhas := by
    obtain ⟨m, hm, rfl⟩ := logged_move hm'
    exact hhas.append _

/-! ## Quiescent states -/

/-- **When no handler is executing, every stream that `open_stream` has returned is in the table
under its id, or `cancel` has been called on it, or its terminal has been delivered**, in every
run in which streams are stored under free ids and calls take only their own entries out of the
table. -/
theorem opened_streams_end (ids : Nat → Nat) (capability : String)
    {acts : List (Act (Pc V) (Input V))} {c : Threads (Logged Shared StreamEvent) (Pc V)}
    (hg : Meets (program.logged streamEvents).step (writesApart ids).Allows
      (init capability).logged acts)
    (hrun : run (program.logged streamEvents).step (init capability).logged acts = some c)
    (hquiet : ∀ (t : Nat) (pc : Pc V), c.pool[t]? = some pc → pc.finished = true) :
    ∀ ref : Nat, .opened ref ∈ c.shared.log →
      c.shared.state.streams[ids ref]? = some ref ∨ WasCancelled c.shared.log ref ∨
        .terminal ref ∈ c.shared.log := by
  have hstart : (owning (V := V) ids).Holds (init capability).logged := by
    refine ⟨trivial, ?_, ?_⟩
    · intro t pc hpc
      cases hpc
    · intro t u pc pc' _ hpc
      cases hpc
  have hnothing : (streamCustody (V := V) ids).Holds (init capability).logged := by
    intro ref hopened
    cases hopened
  have hcustody := (Custody.run (owning_valid ids) (streamCustody_valid ids) hstart hnothing hg
    hrun).2
  intro ref hopened
  rcases hcustody ref hopened with hsettled | ⟨t, pc, hpc, hhas⟩
  · exact hsettled
  · exact absurd hhas (not_has_of_finished (hquiet t pc hpc))

/-- Stream 4 is opened and cancelled, stream 5 is opened, and a new handshake cancels it. -/
theorem opened_streams_end_sample :
    ∃ c, run (program.logged streamEvents).step (init "store").logged
        (handshakeActs 0 ++ openActs 1 6 4 1 ++
          .start 2 (.receive (.streamCancel 4 (sessionName 1))) ::
            List.replicate 6 (.move 2 .go 0) ++ openActs 3 7 5 1 ++
          .start 4 (.handshake true) :: List.replicate 9 (.move 4 .go 0)) = some c ∧
      c.shared.log = [.opened 1, .cancelled 1, .opened 3, .reached 4 3, .cancelReached 4] ∧
      (c.shared.state.streams[5]? = some 3 ∨ WasCancelled c.shared.log 3 ∨
        .terminal 3 ∈ c.shared.log) := by
  let ids : Nat → Nat := fun t => if t = 1 then 4 else 5
  refine exists_run (by decide +kernel) ⟨by decide +kernel, ?_⟩
  exact opened_streams_end ids "store" (by decide +kernel) (run_get _) (by decide +kernel) 3
    (by decide +kernel)

/-- Two opens of stream 4 pass the check of its id before either has stored its stream. The second
insert takes the first stream out of the table; nobody cancels it. -/
theorem opened_stream_is_lost :
    ∃ c, run (program.logged streamEvents).step (init "store").logged
        (handshakeActs 0 ++ (openActs 1 6 4 1).take 7 ++ openActs 2 7 4 1 ++
          (openActs 1 6 4 1).drop 7) = some c ∧
      (∀ (t : Nat) (pc : Pc Nat), c.pool[t]? = some pc → pc.finished = true) ∧
      .opened 2 ∈ c.shared.log ∧
      ¬ (c.shared.state.streams[4]? = some 2 ∨ WasCancelled c.shared.log 2 ∨
        .terminal 2 ∈ c.shared.log) := by
  refine exists_run (by decide +kernel) ⟨by decide +kernel, by decide +kernel, ?_⟩
  rintro (hfirst | (hcancelled | ⟨t, hreached⟩) | hterminal)
  · revert hfirst
    decide +kernel
  · revert hcancelled
    decide +kernel
  · have hmem : _ ∈ [StreamEvent.opened 2, .opened 1] := hreached.subset List.mem_cons_self
    simp at hmem
  · revert hterminal
    decide +kernel

end Server

end LensoBun.Provider
