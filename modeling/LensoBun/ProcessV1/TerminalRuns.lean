import LensoBun.ProcessV1.Terminal

set_option autoImplicit false

/-! # Runs of the terminal arbiter

An id goes from unknown to active to retired and never back. The arbiter therefore admits an id
at most once and commits at most one terminal for it, which it keeps.

`commit` checks that there is room among the retired ids, but `admit` reserves none: it only
looks whether there is room at the moment. Once more ids have been admitted than can be retired,
the calls on the ids that are left fail. As long as that has not happened, every active id can be
committed and a failed call changes nothing.
-/

namespace LensoBun.ProcessV1

open Std Lib

variable {T : Type} {m : Nat}

/-! ## What every history keeps -/

/-- The arbiter after a history, against the log of its answers. -/
structure Arbitrated (m : Nat) (h : History T) : Prop where
  maximum : h.arbiter.maximumRetired = max m 1
  size : h.arbiter.retired.size ≤ max m 1
  disjoint : ∀ (id : Nat) active, h.arbiter.active[id]? = some active → h.arbiter.retired[id]? = none
  admitted_nodup : h.admitted.Nodup
  admitted_known : ∀ id ∈ h.admitted,
    h.arbiter.active[id]?.isSome = true ∨ h.arbiter.retired[id]?.isSome = true
  admitted_length : h.admitted.length = h.arbiter.active.size + h.arbiter.retired.size
  committed_nodup : h.committed.Nodup
  committed_retired : ∀ id ∈ h.committed, h.arbiter.retired[id]?.isSome = true
  retired_committed : ∀ (id : Nat) kind, h.arbiter.retired[id]? = some kind → id ∈ h.committed
  kinds : ∀ e ∈ h.log, ∀ terminal, e.answer = .ok (some terminal) →
    h.arbiter.retired[e.call.id]? = some (.of terminal)
  deadlines : ∀ (id : Nat) active, h.arbiter.active[id]? = some active →
    ⟨.admitId id active.deadline, .ok none⟩ ∈ h.log

theorem arbitrated_new : Arbitrated m (history m ([] : List (Call T))) := by
  refine ⟨rfl, ?_, ?_, ?_, ?_, ?_, ?_, ?_, ?_, ?_, ?_⟩ <;>
    simp [History.admitted, History.committed, TerminalArbiter.new]

section

variable {a : TerminalArbiter} {log : List (Event T)}

theorem admitted_concat (a : TerminalArbiter) (log : List (Event T)) (a' : TerminalArbiter)
    (e : Event T) :
    (History.mk a' (log ++ [e])).admitted =
      (History.mk a log).admitted ++ e.admitted?.toList := by
  cases he : e.admitted? <;> simp [History.admitted, List.filterMap_append, he]

theorem committed_concat (a : TerminalArbiter) (log : List (Event T)) (a' : TerminalArbiter)
    (e : Event T) :
    (History.mk a' (log ++ [e])).committed =
      (History.mk a log).committed ++ e.committed?.toList := by
  cases he : e.committed? <;> simp [History.committed, List.filterMap_append, he]

theorem admitted?_of_ok (call : Call T) (terminal : InvocationTerminal T) :
    Event.admitted? ⟨call, .ok (some terminal)⟩ = none := by
  cases call <;> rfl

variable {terminal : InvocationTerminal T} {active : ActiveInvocation}

theorem committed?_of_ok {e : Event T} (h : e.answer = .ok (some terminal)) :
    e.committed? = some e.call.id := by
  obtain ⟨call, answer⟩ := e
  cases h
  rfl

theorem Arbitrated.idle (h : Arbitrated m ⟨a, log⟩) {e : Event T} (hadmitted : e.admitted? = none)
    (hcommitted : e.committed? = none) : Arbitrated m ⟨a, log ++ [e]⟩ := by
  have hadm : (History.mk a (log ++ [e])).admitted = (History.mk a log).admitted := by
    rw [admitted_concat (a := a), hadmitted, Option.toList_none, List.append_nil]
  have hcom : (History.mk a (log ++ [e])).committed = (History.mk a log).committed := by
    rw [committed_concat (a := a), hcommitted, Option.toList_none, List.append_nil]
  refine ⟨h.maximum, h.size, h.disjoint, hadm ▸ h.admitted_nodup, hadm ▸ h.admitted_known,
    hadm ▸ h.admitted_length, hcom ▸ h.committed_nodup, hcom ▸ h.committed_retired,
    hcom ▸ h.retired_committed, ?_, ?_⟩
  · intro e' he' terminal hanswer
    rcases List.mem_append.mp he' with he' | he'
    · exact h.kinds e' he' terminal hanswer
    · -- the new event is no commit
      rw [List.mem_singleton.mp he'] at hanswer
      rw [committed?_of_ok hanswer] at hcommitted
      cases hcommitted
  · grind [h.deadlines]

theorem Arbitrated.enter (h : Arbitrated m ⟨a, log⟩) {id : Nat} (deadline : Option Nat)
    (hinactive : a.active[id]? = none) (hfresh : a.retired[id]? = none) :
    Arbitrated m
      ⟨{ a with active := a.active.insert id { deadline := deadline, cancelled := false } },
        log ++ [⟨.admitId id deadline, .ok none⟩]⟩ := by
  have hadm := admitted_concat a log
    { a with active := a.active.insert id { deadline := deadline, cancelled := false } }
    ⟨.admitId id deadline, .ok none⟩
  have hcom := committed_concat a log
    { a with active := a.active.insert id { deadline := deadline, cancelled := false } }
    ⟨.admitId id deadline, .ok none⟩
  simp only [Event.admitted?, Option.toList_some] at hadm
  simp only [Event.committed?, Option.toList_none, List.append_nil] at hcom
  have hnew : id ∉ (History.mk a log).admitted := by
    intro hid
    have hknown := h.admitted_known id hid
    simp [hinactive, hfresh] at hknown
  exact {
    maximum := h.maximum
    size := h.size
    disjoint := by
      intro k active hk
      rcases new_or_old_of_insert hk with ⟨heq, -⟩ | ⟨-, hk⟩
      · exact heq ▸ hfresh
      · exact h.disjoint k active hk
    admitted_nodup := by
      rw [hadm]
      exact List.nodup_append_comm.mp (List.nodup_cons.mpr ⟨hnew, h.admitted_nodup⟩)
    admitted_known := by
      intro k hk
      simp only [getElem?_insert_nat]
      split
      · exact Or.inl rfl
      · grind [h.admitted_known]
    admitted_length := by
      rw [hadm, List.length_append, List.length_singleton, size_insert_of_none hinactive,
        h.admitted_length]
      show a.active.size + a.retired.size + 1 = a.active.size + 1 + a.retired.size
      omega
    committed_nodup := hcom ▸ h.committed_nodup
    committed_retired := hcom ▸ h.committed_retired
    retired_committed := hcom ▸ h.retired_committed
    kinds := by
      intro e he terminal hanswer
      rcases List.mem_append.mp he with he | he
      · exact h.kinds e he terminal hanswer
      · grind
    deadlines := by
      intro k active hk
      rcases new_or_old_of_insert hk with ⟨heq, rfl⟩ | ⟨-, hk⟩
      · exact List.mem_append_right _ (by simp [heq])
      · exact List.mem_append_left _ (h.deadlines k active hk) }

theorem Arbitrated.commit (h : Arbitrated m ⟨a, log⟩) {call : Call T}
    (hfound : a.active[call.id]? = some active) (hroom : a.retired.size < a.maximumRetired) :
    Arbitrated m ⟨a.retire call.id terminal, log ++ [⟨call, .ok (some terminal)⟩]⟩ := by
  have hfresh : a.retired[call.id]? = none := h.disjoint _ _ hfound
  have hnew : call.id ∉ (History.mk a log).committed := by
    intro hid
    have hretired := h.committed_retired _ hid
    rw [hfresh] at hretired
    cases hretired
  have hadm := admitted_concat a log (a.retire call.id terminal)
    ⟨call, .ok (some terminal)⟩
  have hcom := committed_concat a log (a.retire call.id terminal)
    ⟨call, .ok (some terminal)⟩
  rw [admitted?_of_ok, Option.toList_none, List.append_nil] at hadm
  simp only [Event.committed?, Option.toList_some] at hcom
  have hmaximum := h.maximum
  exact {
    maximum := h.maximum
    size := by
      simp only [TerminalArbiter.retire, size_insert_of_none hfresh]
      simp only at hmaximum
      omega
    disjoint := by
      intro k active' hk
      simp only [TerminalArbiter.retire, getElem?_erase_nat, getElem?_insert_nat] at hk ⊢
      split at hk
      · cases hk
      · grind [h.disjoint]
    admitted_nodup := hadm ▸ h.admitted_nodup
    admitted_known := by
      intro k hk
      rw [hadm] at hk
      simp only [TerminalArbiter.retire, getElem?_erase_nat, getElem?_insert_nat]
      split
      · exact Or.inr rfl
      · exact h.admitted_known k hk
    admitted_length := by
      rw [hadm]
      have hlength := h.admitted_length
      have herase := size_erase_of_some hfound
      simp only [TerminalArbiter.retire, size_insert_of_none hfresh]
      simp only at hlength
      omega
    committed_nodup := by
      rw [hcom]
      exact List.nodup_append_comm.mp (List.nodup_cons.mpr ⟨hnew, h.committed_nodup⟩)
    committed_retired := by
      intro k hk
      simp only [TerminalArbiter.retire, getElem?_insert_nat]
      split
      · rfl
      · grind [h.committed_retired]
    retired_committed := by
      intro k kind hk
      rw [hcom]
      rcases new_or_old_of_insert hk with ⟨heq, -⟩ | ⟨-, hk⟩
      · exact List.mem_append_right _ (by simp [heq])
      · exact List.mem_append_left _ (h.retired_committed k kind hk)
    kinds := by
      intro e he terminal' hanswer
      simp only [TerminalArbiter.retire, getElem?_insert_nat]
      rcases List.mem_append.mp he with he | he
      · grind [h.kinds]
      · grind
    deadlines := by
      intro k active' hk
      simp only [TerminalArbiter.retire] at hk
      obtain ⟨-, hk⟩ := old_of_erase hk
      exact List.mem_append_left _ (h.deadlines k active' hk) }

theorem Arbitrated.flag (h : Arbitrated m ⟨a, log⟩) {id : Nat}
    (hfound : a.active[id]? = some active) : Arbitrated m ⟨a.flag id active, log⟩ := by
  -- the same ids are active, with the same deadlines
  have hsame : ∀ (k : Nat) active', (a.flag id active).active[k]? = some active' →
      ∃ active'', a.active[k]? = some active'' ∧ active''.deadline = active'.deadline := by
    intro k active' hk
    rcases new_or_old_of_insert hk with ⟨heq, rfl⟩ | ⟨-, hk⟩
    · exact ⟨active, heq ▸ hfound, rfl⟩
    · exact ⟨active', hk, rfl⟩
  have hsize : (a.flag id active).active.size = a.active.size := by
    rw [TerminalArbiter.flag, ExtTreeMap.size_insert, if_pos]
    exact ExtTreeMap.mem_iff_contains.mp (mem_of_getElem? hfound)
  refine ⟨h.maximum, h.size, ?_, h.admitted_nodup, ?_, ?_, h.committed_nodup,
    h.committed_retired, h.retired_committed, h.kinds, ?_⟩
  · intro k active' hk
    obtain ⟨active'', hk', -⟩ := hsame k active' hk
    exact h.disjoint k active'' hk'
  · intro k hk
    simp only [TerminalArbiter.flag, getElem?_insert_nat]
    split
    · exact Or.inl rfl
    · exact h.admitted_known k hk
  · rw [hsize]
    exact h.admitted_length
  · grind [h.deadlines]

end

variable {h : History T}

theorem Arbitrated.record (hh : Arbitrated m h) (call : Call T) : Arbitrated m (h.record call) := by
  obtain ⟨a, log⟩ := h
  have happly := apply_applies a call
  rw [History.record]
  generalize (a.apply call).1 = a' at happly ⊢
  generalize (a.apply call).2 = answer at happly ⊢
  cases happly with
  | idle _ _ hadmitted hcommitted => exact hh.idle hadmitted hcommitted
  | enter id deadline hinactive hfresh => exact hh.enter deadline hinactive hfresh
  | commit _ terminal active hfound hroom => exact hh.commit hfound hroom
  | flag id active hfound => exact (hh.flag hfound).idle rfl rfl

theorem arbitrated_history (m : Nat) (calls : List (Call T)) :
    Arbitrated m (history m calls) := by
  induction calls using List.reverseRecOn with
  | nil => exact arbitrated_new
  | append_singleton calls call ih =>
    rw [history_concat]
    exact ih.record call

/-! ## Ids that cannot be answered any more -/

/-- The id is retired, or its invocation has been flagged as cancelled. -/
def TerminalArbiter.Spent (a : TerminalArbiter) (id : Nat) : Prop :=
  a.retired[id]?.isSome = true ∨ ∃ active, a.active[id]? = some active ∧ active.cancelled = true

section

variable {h : History T} {id : Nat}

variable {kind : TerminalKind} {active : ActiveInvocation}

theorem Arbitrated.retired_record (hh : Arbitrated m h) (call : Call T)
    (hid : h.arbiter.retired[id]? = some kind) :
    (h.record call).arbiter.retired[id]? = some kind := by
  have happly := apply_applies h.arbiter call
  rw [History.record]
  generalize (h.arbiter.apply call).1 = a' at happly ⊢
  generalize (h.arbiter.apply call).2 = answer at happly ⊢
  cases happly with
  | commit _ terminal active hfound _ _ _ =>
    grind [TerminalArbiter.retire, getElem?_insert_nat, hh.disjoint]
  | _ => exact hid

theorem retired_history {calls : List (Call T)}
    (hid : (history m calls).arbiter.retired[id]? = some kind) (later : List (Call T)) :
    (history m (calls ++ later)).arbiter.retired[id]? = some kind := by
  induction later using List.reverseRecOn with
  | nil => rwa [List.append_nil]
  | append_singleton later call ih =>
    grind [history_concat, arbitrated_history, Arbitrated.retired_record]

/-- A cancel of an active id spends it, whether there is room to retire it or not. -/
theorem spent_of_cancel {a : TerminalArbiter} (hfound : a.active[id]? = some active)
    (hfresh : a.retired[id]? = none) : (a.apply (.cancel id : Call T)).1.Spent id := by
  have hflagged : (a.flag id active).active[id]? = some { active with cancelled := true } := by
    simp only [TerminalArbiter.flag, getElem?_insert_nat, if_true]
  simp only [TerminalArbiter.apply, TerminalArbiter.cancel, hfresh, hfound, Option.isSome_none,
    Bool.false_eq_true, if_false]
  by_cases hroom : (a.flag id active).retired.size < (a.flag id active).maximumRetired
  · rw [commit_of_room hflagged hroom]
    refine Or.inl ?_
    simp only [TerminalArbiter.retire, getElem?_insert_nat, if_true, Option.isSome_some]
  · rw [commit_of_full (by omega)]
    exact Or.inr ⟨_, hflagged, rfl⟩

theorem Arbitrated.spent_record (hh : Arbitrated m h) (call : Call T)
    (hspent : h.arbiter.Spent id) : (h.record call).arbiter.Spent id := by
  rcases hspent with hretired | ⟨active, hactive, hcancelled⟩
  · obtain ⟨kind, hkind⟩ := Option.isSome_iff_exists.mp hretired
    exact Or.inl (Option.isSome_iff_exists.mpr ⟨kind, hh.retired_record call hkind⟩)
  · have happly := apply_applies h.arbiter call
    rw [History.record]
    generalize (h.arbiter.apply call).1 = a' at happly ⊢
    generalize (h.arbiter.apply call).2 = answer at happly ⊢
    cases happly with
    | idle => exact Or.inr ⟨active, hactive, hcancelled⟩
    | enter id' deadline hinactive _ =>
      have hne : id' ≠ id := by grind
      refine Or.inr ⟨active, ?_, hcancelled⟩
      simp only [getElem?_insert_nat, if_neg hne]
      exact hactive
    | commit _ terminal active' hfound _ _ _ =>
      by_cases heq : call.id = id
      · refine Or.inl ?_
        simp only [TerminalArbiter.retire, getElem?_insert_nat, if_pos heq, Option.isSome_some]
      · refine Or.inr ⟨active, ?_, hcancelled⟩
        simp only [TerminalArbiter.retire, getElem?_erase_nat, if_neg heq]
        exact hactive
    | flag id' active' hfound _ =>
      by_cases heq : id' = id
      · refine Or.inr ⟨{ active' with cancelled := true }, ?_, rfl⟩
        simp only [TerminalArbiter.flag, getElem?_insert_nat, if_pos heq]
      · refine Or.inr ⟨active, ?_, hcancelled⟩
        simp only [TerminalArbiter.flag, getElem?_insert_nat, if_neg heq]
        exact hactive

theorem spent_history {earlier : List (Call T)}
    (hactive : (history m earlier).arbiter.active[id]? = some active) (rest : List (Call T)) :
    (history m (earlier ++ .cancel id :: rest)).arbiter.Spent id := by
  have hearlier := arbitrated_history m earlier
  induction rest using List.reverseRecOn with
  | nil =>
    rw [history_concat]
    exact spent_of_cancel hactive (hearlier.disjoint id active hactive)
  | append_singleton rest call ih =>
    grind [history_concat, arbitrated_history, Arbitrated.spent_record]

end

/-- A response is committed only for an id that no cancel has met while it was active, and
before its deadline. -/
theorem response_conditions {calls : List (Call T)} {call : Call T} {value : T}
    (h : ((history m calls).arbiter.apply call).2 = .ok (some (.response value))) :
    ∃ now deadline, call = .respond call.id value now ∧
      ⟨.admitId call.id deadline, .ok none⟩ ∈ (history m calls).log ∧
      (∀ d, deadline = some d → now < d) ∧
      ∀ earlier rest, calls = earlier ++ .cancel call.id :: rest →
        (history m earlier).arbiter.active[call.id]? = none := by
  have hh := arbitrated_history m calls
  have happly := apply_applies (history m calls).arbiter call
  rw [h] at happly
  generalize ((history m calls).arbiter.apply call).1 = a' at happly
  cases happly with
  | idle _ _ _ hcommitted => cases hcommitted
  | commit _ _ active hfound _ hresponse _ =>
    obtain ⟨now, hcall, hcancelled, hexpired⟩ := hresponse value rfl
    refine ⟨now, active.deadline, hcall, hh.deadlines _ active hfound, ?_, ?_⟩
    · grind [ActiveInvocation.expired]
    · intro earlier rest hcalls
      by_contra hne
      obtain ⟨active', hactive'⟩ := Option.ne_none_iff_exists'.mp hne
      have hspent := spent_history hactive' rest
      rw [← hcalls] at hspent
      rcases hspent with hretired | ⟨active'', hactive'', hset⟩
      · rw [hh.disjoint _ active hfound] at hretired
        cases hretired
      · grind

/-- **The arbiter decides each id once and for all**, in every run from `new(m)`: active and
retired ids are apart, at most `max(m, 1)` ids are retired and each keeps its kind; no id is
admitted twice or committed twice, and what a call has committed is what is reported; a response
is committed only before the deadline and if no cancel has met the active id. -/
theorem arbiter_decides_once (m : Nat) (calls : List (Call T)) :
    (∀ id : Nat, (history m calls).arbiter.active[id]? = none ∨
      (history m calls).arbiter.retired[id]? = none) ∧
    (history m calls).arbiter.retired.size ≤ max m 1 ∧
    (∀ (later : List (Call T)) (id : Nat) (kind : TerminalKind),
      (history m calls).arbiter.retiredTerminal id = some kind →
        (history m (calls ++ later)).arbiter.retiredTerminal id = some kind) ∧
    (history m calls).admitted.Nodup ∧
    (history m calls).committed.Nodup ∧
    (∀ e ∈ (history m calls).log, ∀ terminal, e.answer = .ok (some terminal) →
      (history m calls).arbiter.retiredTerminal e.call.id = some (.of terminal)) ∧
    ∀ (call : Call T) (value : T),
      ((history m calls).arbiter.apply call).2 = .ok (some (.response value)) →
      ∃ now deadline, call = .respond call.id value now ∧
        ⟨.admitId call.id deadline, .ok none⟩ ∈ (history m calls).log ∧
        (∀ d, deadline = some d → now < d) ∧
        ∀ earlier rest, calls = earlier ++ .cancel call.id :: rest →
          (history m earlier).arbiter.active[call.id]? = none := by
  have hh := arbitrated_history m calls
  refine ⟨?_, hh.size, ?_, hh.admitted_nodup, hh.committed_nodup, hh.kinds, ?_⟩
  · grind [hh.disjoint]
  · intro later id kind hkind
    exact retired_history hkind later
  · intro call value hanswer
    exact response_conditions hanswer

/-! ## Room for every commit -/

/-- While no more ids have been admitted than can be retired, an active id finds room. -/
theorem Arbitrated.room (hh : Arbitrated m h) (hroom : h.admitted.length ≤ max m 1) {id : Nat}
    {active : ActiveInvocation} (hactive : h.arbiter.active[id]? = some active) :
    h.arbiter.retired.size < h.arbiter.maximumRetired := by
  have hlength := hh.admitted_length
  have hsize := size_erase_of_some hactive
  rw [hh.maximum]
  omega

theorem eq_of_filterMap_nodup {α β : Type} {f : α → Option β} {l : List α}
    (h : (l.filterMap f).Nodup) {x y : α} {b : β} (hx : x ∈ l) (hy : y ∈ l)
    (hfx : f x = some b) (hfy : f y = some b) : x = y := by
  induction l with
  | nil => cases hx
  | cons z l ih =>
    -- a later element with the value of the first would repeat it
    have hrest : ∀ w ∈ l, f w = some b → f z ≠ some b := by grind
    have htail : (l.filterMap f).Nodup := by grind
    rcases List.mem_cons.mp hx with hxz | hxl
    · grind
    · grind

/-- An admitted id without a terminal is active, with the deadline it was admitted with. -/
theorem Arbitrated.active_of_admitted (hh : Arbitrated m h) {id : Nat} {deadline : Option Nat}
    (hadmitted : ⟨.admitId id deadline, .ok none⟩ ∈ h.log) (hopen : id ∉ h.committed) :
    ∃ active, h.arbiter.active[id]? = some active ∧ active.deadline = deadline := by
  have hid : id ∈ h.admitted := List.mem_filterMap.mpr ⟨_, hadmitted, rfl⟩
  rcases hh.admitted_known id hid with hactive | hretired
  · obtain ⟨active, hactive⟩ := Option.isSome_iff_exists.mp hactive
    refine ⟨active, hactive, ?_⟩
    have hsame := eq_of_filterMap_nodup hh.admitted_nodup (hh.deadlines id active hactive)
      hadmitted rfl rfl
    cases hsame
    rfl
  · grind [hh.retired_committed]

/-- **As long as no more than `max(m, 1)` ids have been admitted, commits cannot fail**: an
admitted id without a terminal gets one from `cancel`, `respond` and, at or after its deadline,
`expire`, and a call that fails has changed nothing. -/
theorem commits_have_room (m : Nat) (calls : List (Call T))
    (hroom : (history m calls).admitted.length ≤ max m 1) :
    (∀ (id : Nat) (deadline : Option Nat),
      ⟨.admitId id deadline, .ok none⟩ ∈ (history m calls).log → id ∉ (history m calls).committed →
      (∃ terminal : InvocationTerminal T,
        ((history m calls).arbiter.cancel id).2 = .ok (some terminal)) ∧
      (∀ (response : T) (now : Nat), ∃ terminal,
        ((history m calls).arbiter.respond id response now).2 = .ok terminal) ∧
      ∀ now d : Nat, deadline = some d → d ≤ now → ∃ terminal : InvocationTerminal T,
        ((history m calls).arbiter.expire id now).2 = .ok (some terminal)) ∧
    ∀ (call : Call T) (error : TerminalError),
      ((history m calls).arbiter.apply call).2 = .error error →
        ((history m calls).arbiter.apply call).1 = (history m calls).arbiter := by
  have hh := arbitrated_history m calls
  refine ⟨?_, ?_⟩
  · intro id deadline hadmitted hopen
    obtain ⟨active, hactive, hdeadline⟩ := hh.active_of_admitted hadmitted hopen
    have hfree := hh.room hroom hactive
    refine ⟨⟨.cancelled, ?_⟩, ?_, ?_⟩
    · have hflagged : ((history m calls).arbiter.flag id active).active[id]? =
          some { active with cancelled := true } := by
        simp only [TerminalArbiter.flag, getElem?_insert_nat, if_true]
      simp only [TerminalArbiter.cancel, hh.disjoint id active hactive, hactive,
        Option.isSome_none, Bool.false_eq_true, if_false]
      rw [commit_of_room hflagged hfree]
      rfl
    · intro response now
      refine ⟨TerminalArbiter.responseTerminal active response now, ?_⟩
      simp only [TerminalArbiter.respond, hactive, commit_of_room hactive hfree]
    · intro now d hd hnow
      have hexpired : active.expired now = true := by
        rw [ActiveInvocation.expired, hdeadline, hd]
        simpa using hnow
      simp only [TerminalArbiter.expire, hactive, hexpired, if_true]
      cases active.cancelled with
      | true =>
        refine ⟨.cancelled, ?_⟩
        rw [if_pos rfl, commit_of_room hactive hfree]
        rfl
      | false =>
        refine ⟨.deadlineExceeded, ?_⟩
        rw [if_neg Bool.false_ne_true, commit_of_room hactive hfree]
        rfl
  · intro call error herror
    have happly := apply_applies (history m calls).arbiter call
    rw [herror] at happly
    generalize ((history m calls).arbiter.apply call).1 = a' at happly ⊢
    cases happly with
    | idle => rfl
    | flag id active hfound =>
      have hfree := hh.room hroom hfound
      omega

theorem commits_have_room_sample :
    (history 2 [.admitId 1 (some 5), .respond 1 () 4, .admitId 2 (some 9)]).admitted.length ≤ 2 ∧
      ∃ terminal : InvocationTerminal Unit,
        ((history 2 [.admitId 1 (some 5), .respond 1 () 4,
          .admitId 2 (some 9)]).arbiter.expire 2 9).2 = .ok (some terminal) := by
  refine ⟨by decide, ?_⟩
  have hroom := commits_have_room 2
    [.admitId 1 (some 5), .respond 1 () 4, .admitId 2 (some 9)] (by decide)
  exact (hroom.1 2 (some 9) (by decide) (by decide)).2.2 9 9 rfl (Nat.le_refl 9)

/-- Two ids are admitted where one can be retired. Once the first is retired, the response to the
second and its cancellation fail, and the failed cancellation has set the flag. -/
theorem commits_run_out :
    let calls : List (Call Unit) := [.admitId 1 none, .admitId 2 none, .respond 1 () 0]
    (history 1 calls).admitted = [1, 2] ∧ (history 1 calls).committed = [1] ∧
      ((history 1 calls).arbiter.respond 2 () 0).2 = .error .retiredIdCapacity ∧
      ((history 1 calls).arbiter.apply (.cancel 2 : Call Unit)).2 =
        .error .retiredIdCapacity ∧
      (history 1 calls).arbiter.active[2]? = some { deadline := none, cancelled := false } ∧
      ((history 1 calls).arbiter.apply (.cancel 2 : Call Unit)).1.active[2]? =
        some { deadline := none, cancelled := true } := by
  decide

end LensoBun.ProcessV1
