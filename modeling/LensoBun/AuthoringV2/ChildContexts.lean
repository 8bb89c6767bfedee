import LensoBun.AuthoringV2.Child

set_option autoImplicit false

/-! # Who may still call the host

An outbound interaction of the plugin is let through when its context is in `#contexts`. A call puts
its context there at its start and should take it out at its end, except that a stream open leaves it
to the stream it has opened.

Construct and stream open do so on every path, an event publish does so once its provider has been
called. An invocation never does, and an event publish that ends before its provider is called does
not either: their contexts stay for good.

A context is there only for a thread that stands where it may hold one (`Pc.holds`), and for a thread
that has opened a stream only together with the stream (`Live`).
-/

namespace LensoBun.AuthoringV2.Child

open Std Lib

variable {V : Type}

/-! ## Where a context may be held -/

/-- The thread may have its context in `#contexts`. -/
def Pc.holds : Pc V → Bool
  | .creating | .publishing _ | .stopping | .running _ _ => true
  | .finished (.publishEvent false) _ => true
  | .proving .invoke _ _ _ | .settling .invoke _ _ | .finished (.work .invoke) (.answered _)
  | .finished (.work .invoke) (.unsettled _ _) => true
  | .proving .openStream _ _ answer | .settling .openStream _ answer
  | .finished (.work .openStream) (.answered answer)
  | .finished (.work .openStream) (.unsettled answer _) => answer.stream.isSome
  | _ => false

theorem Pc.not_holds_of_free {pc : Pc V} (h : pc.free = true) : pc.holds = false := by
  cases pc with
  | creating | publishing | stopping | running | proving | settling | finished => cases h
  | _ => rfl

theorem Pc.holds_of_enters {pc : Pc V} (h : pc.enters = true) : pc.holds = true := by
  cases pc with
  | creating | publishing | stopping => rfl
  | finished method =>
    cases method with
    | publishEvent called =>
      cases called with
      | false => rfl
      | true => cases h
    | _ => cases h
  | _ => cases h

section Contexts

variable {s s' : Shared} {t : Nat} {pc pc' : Pc V} {k : Input V}

theorem getElem?_deleteContexts (contexts : List Nat) (s : Shared) (u : Nat) :
    (s.deleteContexts contexts).contexts[u]? =
      if u ∈ contexts then none else s.contexts[u]? := by
  unfold Shared.deleteContexts
  generalize s.contexts = kept
  induction contexts generalizing kept with
  | nil => simp
  | cons context contexts ih => grind

variable {requestId u context : Nat} {contexts : ExtTreeMap Nat Nat}

theorem context_of_deleteContexts {contexts : List Nat}
    (h : (s.deleteContexts contexts).contexts[u]? = some requestId) :
    s.contexts[u]? = some requestId ∧ u ∉ contexts := by
  rw [getElem?_deleteContexts] at h
  split at h
  · cases h
  · next hmem => exact ⟨h, hmem⟩

/-- A context left by an erase was there before, and it is not the erased one. -/
theorem context_of_erase (h : (contexts.erase context)[u]? = some requestId) :
    contexts[u]? = some requestId ∧ u ≠ context := by
  obtain ⟨hne, h⟩ := old_of_erase h
  exact ⟨h, fun heq => hne heq.symm⟩

theorem context_of_insert {requestId' : Nat}
    (h : (contexts.insert context requestId)[u]? = some requestId') (hne : u ≠ context) :
    contexts[u]? = some requestId' := by
  rwa [getElem?_insert_nat, if_neg (Ne.symm hne)] at h

theorem Moves.context_of_other (h : Moves s t pc k s' pc') (hne : u ≠ t)
    (hctx : s'.contexts[u]? = some requestId) : s.contexts[u]? = some requestId := by
  cases h with
  | quiet k same => rwa [same.contexts] at hctx
  | enter k requestId' same =>
    rw [same.contexts] at hctx
    exact context_of_insert hctx hne
  | leave k same =>
    rw [same.contexts] at hctx
    exact (context_of_erase hctx).1
  | unhandled work p | handlerThrows work p =>
    have hadmitted : (s.contexts.insert t p.correlationId)[u]? = some requestId := by
      change (if work = .openStream then (s.contexts.insert t p.correlationId).erase t
        else s.contexts.insert t p.correlationId)[u]? = some requestId at hctx
      split at hctx
      · exact (context_of_erase hctx).1
      · exact hctx
    exact context_of_insert hadmitted hne
  | handlerStarts => exact context_of_insert hctx hne
  | handlerEnds work =>
    change (if work = .openStream then s.contexts.erase t else s.contexts)[u]? = _ at hctx
    split at hctx
    · exact (context_of_erase hctx).1
    · exact hctx
  | terminal | cancelStream => exact (context_of_erase hctx).1
  | stopPartly scopeId k cancelled same | stop scopeId k same =>
    rw [same.contexts] at hctx
    exact (context_of_deleteContexts hctx).1
  | stopHook scopeId k same =>
    rw [same.contexts] at hctx
    exact (context_of_deleteContexts (context_of_insert hctx hne)).1
  | stopHookThrows scopeId k same =>
    rw [same.contexts] at hctx
    exact (context_of_deleteContexts (context_of_erase hctx).1).1
  | _ => exact hctx

/-- After its step a thread has its context only where it may hold it. -/
theorem Moves.holds (h : Moves s t pc k s' pc')
    (hheld : ∀ requestId, s.contexts[t]? = some requestId → pc.holds = true)
    (hctx : s'.contexts[t]? = some requestId) : pc'.holds = true := by
  have hfree : ∀ {requestId}, pc.free = true → s.contexts[t]? ≠ some requestId := by
    grind [Pc.not_holds_of_free]
  cases h with
  | quiet k same here =>
    rw [same.contexts] at hctx
    exact absurd hctx (hfree here)
  | enter k requestId' same here next => exact Pc.holds_of_enters next
  | leave k same | stopHookThrows scopeId k same =>
    rw [same.contexts] at hctx
    exact absurd rfl (context_of_erase hctx).2
  | exhausted work =>
    cases work with
    | invoke => rfl
    | openStream => exact absurd hctx (hfree rfl)
  | unhandled work | handlerThrows work | handlerEnds work =>
    cases work with
    | invoke => rfl
    | openStream => exact absurd rfl (context_of_erase hctx).2
  | handlerStarts => rfl
  | streamOpens => rfl
  | settle work =>
    have hholds := hheld _ hctx
    cases work <;> exact hholds
  | answer work p answer ending k ends =>
    have hholds := hheld _ hctx
    cases ending with
    | answered | unsettled =>
      cases ends
      cases work <;> exact hholds
    | threw => cases ends
  | hand | accept | receive | abort => exact absurd hctx (hfree rfl)
  | terminal | cancelStream => exact absurd (context_of_erase hctx).1 (hfree rfl)
  | stopPartly scopeId k cancelled same | stop scopeId k same =>
    rw [same.contexts] at hctx
    exact absurd (context_of_deleteContexts hctx).1 (hfree rfl)
  | stopHook => rfl

end Contexts

/-- Contexts belong to their threads, and these stand where they may hold them. -/
theorem contexts_backed : Backs (program (V := V)) (fun s t => ∃ requestId, s.contexts[t]? = some requestId)
    id (fun pc _ => pc.holds = true) where
  move s t pc k m hm hheld u := by
    rintro ⟨requestId, hctx⟩
    have hmoves := move_moves hm
    by_cases hut : u = t
    · grind [Moves.holds]
    · exact .inl ⟨hut, u, ⟨requestId, hmoves.context_of_other hut hctx⟩, rfl, fun _ h => h⟩

/-! ## Contexts of open streams -/

section Streams

variable {s s' : Shared} {t u : Nat} {pc pc' pcU : Pc V} {k : Input V}

variable {context streamId : Nat}

/-- A stream was there before, or the thread has just opened it. -/
theorem Moves.stream_of (h : Moves s t pc k s' pc') (hstream : s'.streams[streamId]? = some context)
    :
    s.streams[streamId]? = some context ∨
      (streamId = s.nextStreamId ∧ context = t ∧ s'.nextStreamId = s.nextStreamId + 1 ∧
        ∃ p, pc' = .proving .openStream p .completed (.opened streamId)) := by
  cases h with
  | quiet k same | leave k same | enter k requestId same | stopPartly scopeId k cancelled same =>
    rw [same.streams] at hstream
    exact .inl hstream
  | streamOpens p =>
    change (s.streams.insert s.nextStreamId t)[streamId]? = some context at hstream
    rcases new_or_old_of_insert hstream with ⟨heq, rfl⟩ | ⟨-, hstream⟩
    · exact .inr ⟨heq.symm, rfl, rfl, p, by rw [heq]⟩
    · exact .inl hstream
  | terminal | cancelStream => exact .inl (context_of_erase hstream).1
  | stop scopeId k same | stopHook scopeId k same | stopHookThrows scopeId k same =>
    rw [same.streams] at hstream
    cases hstream
  | _ => exact .inl hstream

theorem Moves.nextStreamId_le (h : Moves s t pc k s' pc') : s.nextStreamId ≤ s'.nextStreamId := by
  cases h with
  | quiet k same | leave k same | enter k requestId same | stopPartly scopeId k cancelled same
  | stop scopeId k same | stopHook scopeId k same | stopHookThrows scopeId k same =>
    exact same.nextStreamId.ge
  | streamOpens => exact Nat.le_succ _
  | _ => exact Nat.le_refl _

/-- What a receive under way has looked up is what the table still has, if it has anything. -/
def Captured (s : Shared) (pc : Pc V) : Prop :=
  ∀ streamId context, pc = .receiving streamId context →
    streamId < s.nextStreamId ∧ ∀ context', s.streams[streamId]? = some context' → context' = context

theorem mem_streamContexts (h : s.streams[streamId]? = some context) : context ∈ s.streamContexts :=
  List.mem_map.mpr ⟨(streamId, context), ExtTreeMap.mem_toList_iff_getElem?_eq_some.mpr h, rfl⟩

/-- A stream that goes takes its context along: where another thread's context is left, so is its
stream. -/
theorem Moves.stream_kept (h : Moves s t pc k s' pc') (hcaptured : Captured s pc) {requestId : Nat}
    (hstream : s.streams[streamId]? = some u) (hlt : streamId < s.nextStreamId) (hne : u ≠ t)
    (hctx : s'.contexts[u]? = some requestId) : s'.streams[streamId]? = some u := by
  have hdeleted : ∀ {s₁ : Shared}, s₁.contexts = s.cancelStreams.contexts →
      s₁.contexts[u]? ≠ some requestId := by
    intro s₁ hs₁ hleft
    rw [hs₁] at hleft
    exact (context_of_deleteContexts hleft).2 (mem_streamContexts hstream)
  have herase : ∀ {id context : Nat}, (∀ context', s.streams[id]? = some context' →
      context' = context) → (s.contexts.erase context)[u]? = some requestId →
      (s.streams.erase id)[streamId]? = some u := by grind
  cases h with
  | quiet k same | leave k same | enter k requestId same | stopPartly scopeId k cancelled same =>
    rw [same.streams]
    exact hstream
  | streamOpens =>
    change (s.streams.insert s.nextStreamId t)[streamId]? = some u
    rw [getElem?_insert_nat, if_neg (by omega)]
    exact hstream
  | terminal id context => exact herase (hcaptured id context rfl).2 hctx
  | cancelStream id context k found =>
    refine herase (fun context' hfound => ?_) hctx
    rw [found] at hfound
    exact (Option.some.inj hfound).symm
  | stop scopeId k same => exact absurd hctx (hdeleted same.contexts)
  | stopHook scopeId k same =>
    rw [same.contexts] at hctx
    exact absurd (context_of_insert hctx hne) (hdeleted rfl)
  | stopHookThrows scopeId k same =>
    rw [same.contexts] at hctx
    exact absurd (context_of_erase hctx).1 (hdeleted rfl)
  | _ => exact hstream

/-- The stream a thread has opened is there as long as the thread's context is. -/
structure Live (s : Shared) (t : Nat) (pc : Pc V) : Prop where
  opened : ∀ streamId, pc.outcome.bind Answer.stream = some streamId →
    streamId < s.nextStreamId ∧
      ∀ requestId, s.contexts[t]? = some requestId → s.streams[streamId]? = some t
  captured : Captured s pc

def Numbered (s : Shared) : Prop :=
  ∀ (streamId context : Nat), s.streams[streamId]? = some context → streamId < s.nextStreamId

theorem Numbered.move (hs : Numbered s) (h : Moves s t pc k s' pc') : Numbered s' := by
  intro streamId context hstream
  rcases h.stream_of hstream with hold | ⟨rfl, -, hnext, -⟩
  · exact Nat.lt_of_lt_of_le (hs streamId context hold) h.nextStreamId_le
  · omega

theorem Live.other (hat : Live s t pc) (hatU : Live s u pcU) (htu : t ≠ u)
    (h : Moves s t pc k s' pc') : Live s' u pcU := by
  refine ⟨fun streamId hopened => ?_, fun streamId context hpc => ?_⟩
  · obtain ⟨hlt, hlive⟩ := hatU.opened streamId hopened
    refine ⟨Nat.lt_of_lt_of_le hlt h.nextStreamId_le, fun requestId hctx => ?_⟩
    have hstream := hlive requestId (h.context_of_other (Ne.symm htu) hctx)
    exact h.stream_kept hat.captured hstream hlt (Ne.symm htu) hctx
  · obtain ⟨hlt, hsame⟩ := hatU.captured streamId context hpc
    refine ⟨Nat.lt_of_lt_of_le hlt h.nextStreamId_le, fun context' hstream => ?_⟩
    rcases h.stream_of hstream with hold | ⟨rfl, -⟩
    · exact hsame context' hold
    · exact absurd hlt (Nat.lt_irrefl _)

theorem Pc.outcome_of_aside (h : pc.aside = true) : pc.outcome = none := by
  cases pc with
  | proving | settling => cases h
  | finished method ending => cases method <;> cases ending <;> first | rfl | cases h
  | _ => rfl

/-- A thread comes to report a stream when it has opened it, and the report does not change. -/
theorem Moves.reports (h : Moves s t pc k s' pc')
    (hreport : pc'.outcome.bind Answer.stream = some streamId) :
    (pc.outcome.bind Answer.stream = some streamId ∧ s'.contexts = s.contexts ∧
      s'.streams = s.streams ∧ s'.nextStreamId = s.nextStreamId) ∨
    (streamId < s'.nextStreamId ∧ s'.streams[streamId]? = some t) := by
  have haside : pc'.aside = false := by grind [Pc.outcome_of_aside]
  cases h with
  | quiet k same here next | leave k same here next | stopPartly scopeId k cancelled same next
  | stop scopeId k same next | stopHookThrows scopeId k same next =>
    rw [next] at haside
    cases haside
  | enter k requestId same here next =>
    cases pc' with
    | finished method => cases method <;> first | cases hreport | cases next
    | _ => first | cases hreport | cases next
  | handlerEnds work p k state answer none =>
    change answer.stream = some streamId at hreport
    rw [none] at hreport
    cases hreport
  | streamOpens =>
    cases hreport
    refine .inr ⟨Nat.lt_succ_self _, ?_⟩
    change (s.streams.insert s.nextStreamId t)[s.nextStreamId]? = some t
    rw [getElem?_insert_nat, if_pos rfl]
  | settle => exact .inl ⟨hreport, rfl, rfl, rfl⟩
  | answer work p answer ending k ends =>
    rw [ends] at hreport
    exact .inl ⟨hreport, rfl, rfl, rfl⟩
  | hand streamId' k there next =>
    rcases next with rfl | ⟨error, rfl⟩ <;> cases hreport
  | _ => cases hreport

theorem Moves.captures (hs : Numbered s) (h : Moves s t pc k s' pc') : Captured s' pc' := by
  rintro streamId context rfl
  cases h with
  | quiet k same here next | leave k same here next => cases next
  | enter k requestId same here next => cases next
  | receive streamId context found =>
    refine ⟨hs streamId context found, fun context' hfound => ?_⟩
    rw [found] at hfound
    exact (Option.some.inj hfound).symm
  | hand streamId k there next =>
    rcases next with next | ⟨error, next⟩ <;> cases next
  | stopPartly scopeId k cancelled same next => cases next
  | stop scopeId k same next | stopHookThrows scopeId k same next => cases next

theorem Live.move (hs : Numbered s) (hat : Live s t pc) (h : Moves s t pc k s' pc') :
    Live s' t pc' := by
  refine ⟨fun streamId hreport => ?_, h.captures hs⟩
  rcases h.reports hreport with ⟨hold, hcontexts, hstreams, hnext⟩ | ⟨hlt, hstream⟩
  · rw [hcontexts, hstreams, hnext]
    exact hat.opened streamId hold
  · exact ⟨hlt, fun _ _ => hstream⟩

end Streams

theorem live_valid :
    (Outline.plain Numbered Live).Valid (program (V := V)) Guard.any := by
  refine Outline.plain_valid ?_ ?_ ?_ ?_
  · intro s t pc k m hm
    exact (moved_of_map hm).2
  · intro s t pc _ hentry _
    refine ⟨fun streamId hreport => ?_, ?_⟩
    · cases pc with
      | proving | settling | finished => cases hentry
      | _ => cases hreport
    · rintro streamId context rfl
      cases hentry
  · intro s t pc k m hs hat _ hm
    have hmoves := move_moves hm
    exact ⟨hs.move hmoves, hat.move hs hmoves⟩
  · intro s t pc k m u pcU _ hat hatU htu _ _ hm
    exact hat.other hatU htu (move_moves hm)

theorem live_init (limits : Limits) (declared : ExtTreeMap Nat Binding) :
    (Outline.plain Numbered Live).Holds (init (V := V) limits declared) := by
  refine Outline.plain_holds ?_ fun t pc hpc => ?_
  · intro streamId context hstream
    cases hstream
  · cases hpc

/-! ## Finished calls -/

/-- The calls that take their context out of `#contexts`, leave it to their stream, or end before
they have one. -/
def releases : Method → Ending V → Bool
  | .construct, _ | .work .openStream, _ | .publishEvent true, _ | .work .invoke, .threw _ => true
  | _, _ => false

theorem holds_of_releases {method : Method} {ending : Ending V}
    (hreleases : releases method ending = true)
    (hholds : (Pc.finished method ending).holds = true) :
    method = .work .openStream ∧
      ∃ streamId, (Pc.finished method ending).outcome.bind Answer.stream = some streamId := by
  cases method with
  | construct => cases hholds
  | publishEvent called =>
    cases called with
    | true => cases hholds
    | false => cases hreleases
  | work work =>
    cases ending with
    | answered | unsettled =>
      cases work with
      | invoke => cases hreleases
      | openStream => exact ⟨rfl, Option.isSome_iff_exists.mp hholds⟩
    | threw => cases work <;> cases hholds
  | _ => cases hreleases

def sampleLimits : Limits := ⟨1, 10, 2, 1, 2⟩

def sampleProviders : ExtTreeMap Nat Binding := ExtTreeMap.insert ∅ 0 ⟨true, true⟩

def sampleParams (correlationId : Nat) : Params :=
  ⟨correlationId, 100 + correlationId, 0, "example.store@1", "get"⟩

/-- Thread 1 constructs the plugin, which has no factory. -/
def constructs : List (Act (Pc Nat) (Input Nat)) := [.start 1 (.construct 50), .move 1 .created 0]

/-- A call of thread `t` whose handler ends with `k`, settles and answers. -/
def worksThrough (t : Nat) (work : Work) (p : Params) (k : Input Nat) :
    List (Act (Pc Nat) (Input Nat)) :=
  [.start t (.begin work p), .move t .go 0, .move t k 0, .move t .go 0, .move t (.callback none) 0]

/-- An outbound call of thread `t` with the context of thread `context`. -/
def callsOut (t context : Nat) : List (Act (Pc Nat) (Input Nat)) :=
  [.start t (.outbound ⟨.call, context, "example.store@1", "get"⟩), .move t .go 0]

end LensoBun.AuthoringV2.Child
