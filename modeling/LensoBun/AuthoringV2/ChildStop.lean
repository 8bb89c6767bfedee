import LensoBun.AuthoringV2.ChildTallies

set_option autoImplicit false

/-! # The stop hook and the handlers

`#stop` looks once, before it calls the hook, whether calls are active or outbound calls are under
way. Event publications are not among what it looks at, and invokes, event publishes and stream opens
that come while the hook runs, or after it, are taken up as before. So a handler runs beside the hook
or after it exactly when one of the two happens; `stopsLast` says that neither does.
-/

namespace LensoBun.AuthoringV2.Child

open Std Lib

variable {V : Type}

/-- A provider's handler for an invoke, a stream open or an event publish is running. -/
def Pc.handles (pc : Pc V) : Bool := pc.runs || pc.publishes

/-- The handler of the provider will be called, if there is one. -/
def takesUp (s : Shared) : Pc V → Bool
  | .begin work p => s.admission p work = .admitted
  | .publishEvent p => (s.publishRefusal p : Option (Ending V)).isNone
  | _ => false

/-- A `stop` that is not refused comes while no event is being published. -/
def stopsQuietly (s : Shared) : Pc V → Bool
  | .stop _ => s.stopAttempted || s.activeEventPublications = 0
  | _ => true

/-- `stop` finds no event publication in progress, and nothing is taken up once its hook has been
called. -/
def stopsLast : Guard Shared (Pc V) (Input V) where
  self s _ pc _ := stopsQuietly s pc = true
  other s _ pc _ _ pc' := takesUp s pc = true → pc'.place ≠ .hooked

instance (c : Threads Shared (Pc V)) (a : Act (Pc V) (Input V)) :
    Decidable ((stopsLast (V := V)).Allows c a) := Guard.decidable c a

section

variable {s s' : Shared} {t : Nat} {pc pc' : Pc V} {k : Input V}

/-- The hook is called by a `stop` that finds no call active. -/
theorem Tallies.hooked (h : Tallies s t pc k s' pc') (hnext : pc'.place = .hooked) :
    pc.place = .hooked ∨
      ∃ scopeId, pc = .stop scopeId ∧ s.stopAttempted = false ∧ s.active.size = 0 := by
  cases h with
  | stopHook scopeId k first constructed settled =>
    exact .inr ⟨scopeId, rfl, first, settled⟩
  | stopEnds => exact .inl rfl
  | rest k same sizes here next | unstarted work p k admission same sizes next
  | handlerEnds work p k same sizes next | publishEnds p k same sizes next
  | stopFails scopeId k first same sizes next | callEnds kind k same sizes next
  | actionEnds streamId k same sizes next =>
    rw [next] at hnext
    cases hnext
  | attempt scopeId k first same sizes next =>
    rw [next] at hnext
    cases hnext
  | constructNow | createFails | create | handlerStarts | publishStarts | callStarts | actionStarts =>
    cases hnext

theorem not_handles_of_idle (h : pc.place = .idle) : pc.handles = false := by
  simp only [Pc.handles, Pc.runs, Pc.publishes, h]
  rfl

theorem not_handles_of_hooked (h : pc.place = .hooked) : pc.handles = false := by
  simp only [Pc.handles, Pc.runs, Pc.publishes, h]
  rfl

theorem running_of_runs (h : pc.runs = true) : ∃ work p, pc = .running work p := by
  unfold Pc.runs Pc.place at h
  split at h
  · grind
  · cases h

theorem Tallies.handles (h : Tallies s t pc k s' pc') (hnext : pc'.handles = true) :
    takesUp s pc = true := by
  cases h with
  | handlerStarts work p k admission => exact decide_eq_true admission
  | publishStarts p k refusal => exact Option.isNone_iff_eq_none.mpr refusal
  | stopHook scopeId k first constructed settled same sizes next
  | stopEnds k same sizes next =>
    rw [not_handles_of_hooked next] at hnext
    cases hnext
  | rest k same sizes here next | unstarted work p k admission same sizes next
  | handlerEnds work p k same sizes next | publishEnds p k same sizes next
  | stopFails scopeId k first same sizes next | callEnds kind k same sizes next
  | actionEnds streamId k same sizes next =>
    rw [not_handles_of_idle next] at hnext
    cases hnext
  | attempt scopeId k first same sizes next =>
    rw [not_handles_of_idle next] at hnext
    cases hnext
  | constructNow | createFails | create | callStarts | actionStarts => cases hnext

end

/-- No handler runs beside a hook that has been called, and what `#stop` looks at counts the handlers
that run. -/
structure Apart (limits : Limits) (c : Threads Shared (Pc V)) : Prop where
  tables : (Outline.plain (fun s => s.limits = limits ∧ WellKept s) Running).Holds c
  publications : c.shared.activeEventPublications = census Pc.publishes c.pool
  hooked : ∀ (t u : Nat) (pc pc' : Pc V), c.pool[t]? = some pc → c.pool[u]? = some pc' →
    pc.place = .hooked → pc'.handles = false

section

variable {limits : Limits} {c c' : Threads Shared (Pc V)} {a : Act (Pc V) (Input V)}

variable {pc pc' pc₀ : Pc V} {u t t₀ : Nat}

/-- With no call active and no event being published no handler runs. -/
theorem Apart.not_handles (hc : Apart limits c) (hactive : c.shared.active.size = 0)
    (hpublications : c.shared.activeEventPublications = 0) (hpc : c.pool[u]? = some pc) :
    pc.handles = false := by
  unfold Pc.handles
  rw [Bool.or_eq_false_iff]
  constructor
  · by_contra hruns
    obtain ⟨work, p, rfl⟩ := running_of_runs (Bool.of_not_eq_false hruns)
    have hentry := hc.tables.at_ u _ hpc work p rfl
    rw [ExtTreeMap.eq_empty_iff_size_eq_zero.mpr hactive] at hentry
    cases hentry
  · grind [census_pos, Tallies.publications, hc.publications]

/-- A thread that starts has neither called the hook nor a handler. -/
theorem Apart.hooked_start (hc : Apart limits c) (hpc₀ : pc₀.place = .idle)
    (ht : (c.pool.insert t₀ pc₀)[t]? = some pc) (hu : (c.pool.insert t₀ pc₀)[u]? = some pc')
    (hplace : pc.place = .hooked) : pc'.handles = false := by
  rw [getElem?_insert_nat] at ht hu
  split at ht
  · grind
  · grind [not_handles_of_idle, Tallies.hooked, hc.hooked]

/-- The mover calls the hook when no handler runs, and a handler when no hook has been called. -/
theorem Apart.hooked_move (hc : Apart limits c) {k : Input V} {m : Moved Shared (Pc V)}
    (hpc₀ : c.pool[t₀]? = some pc₀) (hself : stopsQuietly c.shared pc₀ = true)
    (hother : ∀ (u : Nat) (pc' : Pc V), u ≠ t₀ → c.pool[u]? = some pc' → takesUp c.shared pc₀ = true → pc'.place ≠ .hooked)
    (hm : program.move c.shared t₀ pc₀ k = some m) (ht : (c.pool.insert t₀ m.next)[t]? = some pc)
    (hu : (c.pool.insert t₀ m.next)[u]? = some pc') (hplace : pc.place = .hooked) :
    pc'.handles = false := by
  have htallies := move_tallies hm
  rw [getElem?_insert_nat] at ht hu
  split at ht <;> split at hu
  · cases ht
    cases hu
    exact not_handles_of_hooked hplace
  · cases ht
    rcases htallies.hooked hplace with hbefore | ⟨scopeId, rfl, hfirst, hactive⟩
    · exact hc.hooked t₀ u pc₀ pc' hpc₀ hu hbefore
    · -- `#stop` has looked, and the guard has looked for the publications
      have hquiet : (c.shared.stopAttempted || decide (c.shared.activeEventPublications = 0)) = true :=
        hself
      rw [hfirst, Bool.false_or] at hquiet
      exact hc.not_handles hactive (of_decide_eq_true hquiet) hu
  · grind [Tallies.handles]
  · exact hc.hooked t u pc pc' ht hu hplace

theorem Apart.step (hc : Apart limits c) (hlast : stopsLast.Allows c a)
    (h : program.step c a = some c') : Apart limits c' where
  tables := hc.tables.step (tables_valid limits) (Guard.any_allows c a) h
  publications := publications_counted.step hc.publications h
  hooked := by
    intro t u pc pc' ht hu hplace
    rcases program.step_cases h with ⟨t₀, pc₀, -, hentry, -, rfl⟩ |
      ⟨t₀, k, child, pc₀, m, rfl, hpc₀, hm, hshared, ⟨-, hpool⟩ | ⟨pc₁, hchild, -⟩⟩
    · exact hc.hooked_start (place_of_entry hentry) ht hu hplace
    · rw [hpool] at ht hu
      obtain ⟨hself, hother⟩ := hlast pc₀ hpc₀
      exact hc.hooked_move hpc₀ hself hother hm ht hu hplace
    · rw [child_none _ _ _ _ _ hm] at hchild
      cases hchild

end

theorem Apart.init (limits : Limits) (declared : ExtTreeMap Nat Binding) :
    Apart (V := V) limits (init limits declared) where
  tables := tables_init limits declared
  publications := (census_empty _).symm
  hooked := by
    intro t u pc pc' ht
    cases ht

/-- **No handler runs while the stop hook runs, nor after it**, in a run whose `stop` finds no event
publication in progress and in which no call is taken up once the hook has been called. -/
theorem handlers_end_before_stop_hook (limits : Limits) (declared : ExtTreeMap Nat Binding)
    {acts : List (Act (Pc V) (Input V))} {c : Threads Shared (Pc V)}
    (hlast : Meets program.step stopsLast.Allows (init limits declared) acts)
    (h : run program.step (init limits declared) acts = some c) {t u : Nat} {pc pc' : Pc V}
    (hpc : c.pool[t]? = some pc) (hhook : pc.place = .hooked) (hpc' : c.pool[u]? = some pc') :
    pc'.handles = false := by
  have hapart : Apart limits c :=
    run_invariant_of_meets (fun _ _ _ hc hg hs => hc.step hg hs) (Apart.init limits declared) hlast h
  exact hapart.hooked t u pc pc' hpc hpc' hhook

/-- An event is published, an invocation runs, and `stop` comes after both. -/
def stopsAfterWork : List (Act (Pc Nat) (Input Nat)) :=
  constructs ++ [.start 2 (.publishEvent (sampleParams 8)), .move 2 .go 0,
    .move 2 (.acted .accepted) 0] ++ worksThrough 3 .invoke (sampleParams 7) (.invoked (.success 1)) ++
    [.start 4 (.stop 60), .move 4 .hook 0]

theorem handlers_end_before_stop_hook_sample :
    let c := (run program.step (init sampleLimits sampleProviders) stopsAfterWork).get
      (by decide +kernel)
    c.pool[4]? = some .stopping ∧
    ∀ (u : Nat) (pc' : Pc Nat), c.pool[u]? = some pc' → pc'.handles = false := by
  intro c
  have hstopping : c.pool[4]? = some .stopping := by decide +kernel
  exact ⟨hstopping, fun u pc' hpc' => handlers_end_before_stop_hook sampleLimits sampleProviders
    (by decide +kernel) (run_get _) hstopping rfl hpc'⟩

/-- An event is being published when `stop` comes, and an invocation comes while the hook runs. -/
def stopsBesideWork : List (Act (Pc Nat) (Input Nat)) :=
  constructs ++ [.start 2 (.publishEvent (sampleParams 8)), .move 2 .go 0, .start 3 (.stop 60),
    .move 3 .hook 0, .start 4 (.begin .invoke (sampleParams 7)), .move 4 .go 0]

/-- **Both handlers run beside the stop hook, and both still do when it has finished.** -/
theorem handlers_run_beside_stop_hook :
    ∃ c c', run program.step (init sampleLimits sampleProviders) stopsBesideWork = some c ∧
      run program.step c [.move 3 .created 0] = some c' ∧
      c.pool[3]? = some .stopping ∧ c.pool[2]? = some (.publishing (sampleParams 8)) ∧
      c.pool[4]? = some (.running .invoke (sampleParams 7)) ∧
      c'.pool[3]? = some (.finished .stop (.answered (.stopped "completed"))) ∧
      c'.pool[2]? = some (.publishing (sampleParams 8)) ∧
      c'.pool[4]? = some (.running .invoke (sampleParams 7)) := by
  refine ⟨_, _, run_get (by decide +kernel), run_get (by decide +kernel), ?_⟩
  decide +kernel

end LensoBun.AuthoringV2.Child
