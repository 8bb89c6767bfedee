import Mathlib.Data.List.Basic
import Mathlib.Tactic

set_option autoImplicit false

/-! # Runs of a partial step function

A system is given by a step function `step : σ → α → Option σ`: an action that is not enabled
in a state has no successor. A run is a list of actions (`run`). Interleavings of threads are
runs whose actions name the thread that moves, so a statement about every run is a statement
about every schedule.

* `run_invariant` is the induction rule: what every step keeps, every run keeps.
* `Meets` says that every step of a run satisfies a condition on the action and the state
  before it; `run_invariant_of_meets` is the induction rule for such runs.
-/

namespace Lib

variable {σ α : Type*}

/-- The state after performing the actions in order, if all of them are enabled. -/
def run (step : σ → α → Option σ) : σ → List α → Option σ
  | s, [] => some s
  | s, a :: as => (step s a).bind (fun s' => run step s' as)

/-- Every step of the run meets `cond`, a condition on the state before it and the action. -/
def Meets (step : σ → α → Option σ) (cond : σ → α → Prop) : σ → List α → Prop
  | _, [] => True
  | s, a :: as => cond s a ∧ ∀ s', step s a = some s' → Meets step cond s' as

/-- Some run leads from the one state to the other. -/
def Reaches (step : σ → α → Option σ) (s t : σ) : Prop := ∃ as, run step s as = some t

section

variable {step : σ → α → Option σ} {cond : σ → α → Prop} {Inv : σ → Prop}

@[simp] theorem run_nil (s : σ) : run step s [] = some s := rfl

theorem run_cons (s : σ) (a : α) (as : List α) :
    run step s (a :: as) = (step s a).bind (fun s' => run step s' as) := rfl

theorem run_cons_of_step {s s' : σ} {a : α} (h : step s a = some s') (as : List α) :
    run step s (a :: as) = run step s' as := by
  rw [run_cons, h, Option.bind_some]

theorem run_cons_eq_some {s t : σ} {a : α} {as : List α} :
    run step s (a :: as) = some t ↔ ∃ s', step s a = some s' ∧ run step s' as = some t := by
  rw [run_cons, Option.bind_eq_some_iff]

theorem run_append (s : σ) (as bs : List α) :
    run step s (as ++ bs) = (run step s as).bind (fun s' => run step s' bs) := by
  induction as generalizing s with
  | nil => rfl
  | cons a as ih =>
    rw [List.cons_append, run_cons, run_cons]
    cases step s a with
    | none => rfl
    | some s' => exact ih s'

theorem Reaches.refl (s : σ) : Reaches step s s := ⟨[], rfl⟩

theorem Reaches.head {s s' t : σ} {a : α} (h : step s a = some s') (ht : Reaches step s' t) :
    Reaches step s t := by
  obtain ⟨as, has⟩ := ht
  exact ⟨a :: as, (run_cons_of_step h as).trans has⟩

theorem Reaches.trans {s t u : σ} (h : Reaches step s t) (h' : Reaches step t u) :
    Reaches step s u := by
  obtain ⟨as, has⟩ := h
  obtain ⟨bs, hbs⟩ := h'
  exact ⟨as ++ bs, by rw [run_append, has, Option.bind_some, hbs]⟩

/-- A run that can be computed ends in the state that is computed. -/
theorem run_get {s : σ} {as : List α} (h : (run step s as).isSome = true) :
    run step s as = some ((run step s as).get h) := (Option.some_get h).symm

theorem exists_run {Q : σ → Prop} {s : σ} {as : List α} (h : (run step s as).isSome = true)
    (hQ : Q ((run step s as).get h)) : ∃ t, run step s as = some t ∧ Q t := ⟨_, run_get h, hQ⟩

/-- **What every step keeps, every run keeps.** -/
theorem run_invariant (hstep : ∀ s a s', Inv s → step s a = some s' → Inv s')
    {s t : σ} {as : List α} (hs : Inv s) (h : run step s as = some t) : Inv t := by
  induction as generalizing s with
  | nil =>
    cases h
    exact hs
  | cons a as ih =>
    obtain ⟨s', hs', h'⟩ := run_cons_eq_some.mp h
    exact ih (hstep s a s' hs hs') h'

/-- The same rule for a property of the state and the actions that led to it. -/
theorem run_history_invariant {Hist : List α → σ → Prop}
    (hstep : ∀ as s a s', Hist as s → step s a = some s' → Hist (as ++ [a]) s')
    {s t : σ} {as : List α} (hs : Hist [] s) (h : run step s as = some t) : Hist as t := by
  induction as using List.reverseRecOn generalizing t with
  | nil =>
    cases h
    exact hs
  | append_singleton as a ih =>
    rw [run_append, Option.bind_eq_some_iff] at h
    obtain ⟨s', hs', h'⟩ := h
    obtain ⟨t', ht', h''⟩ := run_cons_eq_some.mp h'
    cases h''
    exact hstep as s' a t (ih hs') ht'

theorem Meets.head {s : σ} {a : α} {as : List α} (h : Meets step cond s (a :: as)) :
    cond s a := h.1

theorem Meets.tail {s s' : σ} {a : α} {as : List α} (h : Meets step cond s (a :: as))
    (hs : step s a = some s') : Meets step cond s' as := h.2 s' hs

/-- Whether the steps of a given run meet a decidable condition can be evaluated. -/
instance decidableMeets [∀ s a, Decidable (cond s a)] :
    ∀ (s : σ) (as : List α), Decidable (Meets step cond s as)
  | _, [] => isTrue trivial
  | s, a :: as =>
    match h : step s a with
    | none => decidable_of_iff (cond s a)
        ⟨fun hc => ⟨hc, fun s' hs' => by rw [h] at hs'; cases hs'⟩, fun hm => hm.head⟩
    | some s' =>
      have := decidableMeets s' as
      decidable_of_iff (cond s a ∧ Meets step cond s' as)
        ⟨fun hc => ⟨hc.1, fun t ht => by rw [h] at ht; cases ht; exact hc.2⟩,
          fun hm => ⟨hm.head, hm.tail h⟩⟩

theorem Meets.append_left {s : σ} {as bs : List α} (h : Meets step cond s (as ++ bs)) :
    Meets step cond s as := by
  induction as generalizing s with
  | nil => trivial
  | cons a as ih => exact ⟨h.head, fun s' hs' => ih (h.tail hs')⟩

theorem Meets.append_right {s s' : σ} {as bs : List α} (h : Meets step cond s (as ++ bs))
    (hs : run step s as = some s') : Meets step cond s' bs := by
  induction as generalizing s with
  | nil =>
    cases hs
    exact h
  | cons a as ih =>
    obtain ⟨s₁, hs₁, hs'⟩ := run_cons_eq_some.mp hs
    exact ih (h.tail hs₁) hs'

theorem Meets.and {cond' : σ → α → Prop} {s : σ} {as : List α} (h : Meets step cond s as)
    (h' : Meets step cond' s as) : Meets step (fun s a => cond s a ∧ cond' s a) s as := by
  induction as generalizing s with
  | nil => trivial
  | cons a as ih =>
    exact ⟨⟨h.head, h'.head⟩, fun s' hs' => ih (h.tail hs') (h'.tail hs')⟩

theorem Meets.and_mem {p : α → Prop} {s : σ} {as : List α} (h : Meets step cond s as)
    (hp : ∀ a ∈ as, p a) : Meets step (fun s a => cond s a ∧ p a) s as := by
  induction as generalizing s with
  | nil => trivial
  | cons a as ih =>
    refine ⟨⟨h.head, hp a List.mem_cons_self⟩, fun s' hs' => ih (h.tail hs') ?_⟩
    exact fun b hb => hp b (List.mem_cons_of_mem a hb)

/-- **What every step that meets the condition keeps, every run of such steps keeps.** -/
theorem run_invariant_of_meets
    (hstep : ∀ s a s', Inv s → cond s a → step s a = some s' → Inv s')
    {s t : σ} {as : List α} (hs : Inv s) (hm : Meets step cond s as)
    (h : run step s as = some t) : Inv t := by
  induction as generalizing s with
  | nil =>
    cases h
    exact hs
  | cons a as ih =>
    obtain ⟨s', hs', h'⟩ := run_cons_eq_some.mp h
    exact ih (hstep s a s' hs hm.head hs') (hm.tail hs') h'

end

end Lib
