import LensoBun.Lib.Run

set_option autoImplicit false

/-! # Non-interference by unwinding

Two runs of one system are compared through a relation `Sim` between states. Some actions are
visible, the others hidden. If hidden steps leave `Sim` alone and a visible step performed in two
related states leads to related states, then two runs with the same visible actions end in
related states, whatever hidden actions they interleave.
-/

namespace Lib

variable {σ α : Type*}

/-- The obligations, for steps that meet `cond` from states that satisfy `Inv`. -/
structure Unwinds (step : σ → α → Option σ) (cond : σ → α → Prop) (Inv : σ → Prop)
    (Sim : σ → σ → Prop) (visible : α → Bool) : Prop where
  symm : ∀ s t, Sim s t → Sim t s
  trans : ∀ s t u, Sim s t → Sim t u → Sim s u
  inv : ∀ s a s', Inv s → cond s a → step s a = some s' → Inv s'
  hidden : ∀ s a s', Inv s → cond s a → visible a = false → step s a = some s' → Sim s' s
  shown : ∀ s t a s' t', Inv s → Inv t → Sim s t → cond s a → cond t a → visible a = true →
    step s a = some s' → step t a = some t' → Sim s' t'

section

variable {step : σ → α → Option σ} {cond : σ → α → Prop} {Inv : σ → Prop}
  {Sim : σ → σ → Prop} {visible : α → Bool}

theorem Unwinds.run_hidden (h : Unwinds step cond Inv Sim visible) {s t t' : σ} {bs : List α}
    (hs : Inv t) (hsim : Sim s t) (hm : Meets step cond t bs) (hb : bs.filter visible = [])
    (ht : run step t bs = some t') : Sim s t' := by
  induction bs generalizing t with
  | nil =>
    cases ht
    exact hsim
  | cons b bs ih =>
    obtain ⟨t₁, hstep, ht⟩ := run_cons_eq_some.mp ht
    have hvis : visible b = false := by
      by_contra hb'
      rw [Bool.not_eq_false] at hb'
      rw [List.filter_cons_of_pos hb'] at hb
      cases hb
    rw [List.filter_cons_of_neg (by rw [hvis]; exact Bool.false_ne_true)] at hb
    have hback := h.symm _ _ (h.hidden t b t₁ hs hm.head hvis hstep)
    exact ih (h.inv t b t₁ hs hm.head hstep) (h.trans _ _ _ hsim hback) (hm.tail hstep) hb ht

/-- **Two runs with the same visible actions end in related states.** -/
theorem Unwinds.run (h : Unwinds step cond Inv Sim visible) {s s' t t' : σ} {as bs : List α}
    (hs : Inv s) (ht : Inv t) (hsim : Sim s t) (hms : Meets step cond s as)
    (hmt : Meets step cond t bs) (hvisible : as.filter visible = bs.filter visible)
    (hrs : Lib.run step s as = some s') (hrt : Lib.run step t bs = some t') : Sim s' t' := by
  induction as generalizing s t bs with
  | nil =>
    cases hrs
    exact h.run_hidden ht hsim hmt hvisible.symm hrt
  | cons a as ih =>
    obtain ⟨s₁, hstep, hrs'⟩ := run_cons_eq_some.mp hrs
    have hs₁ := h.inv s a s₁ hs hms.head hstep
    by_cases hvis : visible a = true
    · -- the other run performs hidden actions, and then `a` too
      rw [List.filter_cons_of_pos hvis] at hvisible
      induction bs generalizing t with
      | nil => cases hvisible
      | cons b bs ihb =>
        obtain ⟨t₁, hstep', hrt'⟩ := run_cons_eq_some.mp hrt
        have ht₁ := h.inv t b t₁ ht hmt.head hstep'
        by_cases hvis' : visible b = true
        · rw [List.filter_cons_of_pos hvis'] at hvisible
          obtain ⟨rfl, hrest⟩ := List.cons.inj hvisible
          have hsim₁ := h.shown s t a s₁ t₁ hs ht hsim hms.head hmt.head hvis hstep hstep'
          exact ih hs₁ ht₁ hsim₁ (hms.tail hstep) (hmt.tail hstep') hrest hrs' hrt'
        · rw [List.filter_cons_of_neg hvis'] at hvisible
          rw [Bool.not_eq_true] at hvis'
          have hback := h.symm _ _ (h.hidden t b t₁ ht hmt.head hvis' hstep')
          exact ihb ht₁ (h.trans _ _ _ hsim hback) (hmt.tail hstep') hvisible hrt'
    · rw [List.filter_cons_of_neg hvis] at hvisible
      rw [Bool.not_eq_true] at hvis
      have hback := h.hidden s a s₁ hs hms.head hvis hstep
      exact ih hs₁ ht (h.trans _ _ _ hback hsim) (hms.tail hstep) hmt hvisible hrs' hrt

end

end Lib
