import LensoBun.Lib.Threads

set_option autoImplicit false

/-! # Things that pass from thread to thread

A `Custody` says what things there are (`item`), which of them the shared state accounts for
(`kept`), and which of them a thread has in hand at its program counter (`hands`). It is valid if
no move loses a thing: whatever exists after the move and was kept, was in the mover's hands or
did not exist before is kept, in the mover's hands or in its child's after the move. Then along
every run everything that exists is kept or in some thread's hands (`Custody.run`); in particular,
when no thread has anything in hand, everything is kept.
-/

namespace Lib

open Std

variable {σ π κ ι : Type*}

structure Custody (σ π ι : Type*) where
  item : σ → ι → Prop
  kept : σ → ι → Prop
  hands : σ → Nat → π → ι → Prop

def Custody.Holds (K : Custody σ π ι) (c : Threads σ π) : Prop :=
  ∀ i, K.item c.shared i →
    K.kept c.shared i ∨ ∃ t pc, c.pool[t]? = some pc ∧ K.hands c.shared t pc i

/-- The obligations of a custody, under an outline: the moving thread loses nothing, and takes
nothing out of another thread's hands. -/
structure Custody.Valid (P : Program σ π κ) (G : Guard σ π κ) (O : Outline σ π)
    (K : Custody σ π ι) : Prop where
  move : ∀ s t pc k m i, O.Shared s → O.At s t pc → G.self s t pc k → P.move s t pc k = some m →
    K.item m.shared i → (K.item s i → K.kept s i ∨ K.hands s t pc i) →
    K.kept m.shared i ∨ K.hands m.shared t m.next i ∨
      ∃ pc', m.child = some pc' ∧ ∀ u, K.hands m.shared u pc' i
  other : ∀ s t pc k m u pc' i, O.Shared s → O.At s t pc → O.At s u pc' → u ≠ t →
    P.move s t pc k = some m → K.item m.shared i → K.hands s u pc' i → K.hands m.shared u pc' i

section

variable {P : Program σ π κ} {G : Guard σ π κ} {O : Outline σ π} {K : Custody σ π ι}
  {c c' : Threads σ π}

theorem Custody.Holds.step (hK : K.Valid P G O) (hO : O.Holds c) (hc : K.Holds c) {a : Act π κ}
    (hg : G.Allows c a) (h : P.step c a = some c') : K.Holds c' := by
  intro i hi
  rcases P.step_cases h with ⟨t, pc, rfl, -, ht, rfl⟩ | ⟨t, k, child, pc, m, rfl, hpc, hm, hsh, -⟩
  · rcases hc i hi with hkept | ⟨u, pc', hu, hhands⟩
    · exact Or.inl hkept
    · -- the thread that has it was there before
      have hne : t ≠ u := by
        rintro rfl
        exact ht (mem_of_getElem? hu)
      refine Or.inr ⟨u, pc', ?_, hhands⟩
      simp only [getElem?_insert_nat, if_neg hne]
      exact hu
  · obtain ⟨pc₀, m₀, hpc₀, hm₀, -, hnext, hothers, hchild⟩ := P.move_pool h
    rw [hpc] at hpc₀
    cases hpc₀
    rw [hm] at hm₀
    cases hm₀
    have hAt := hO.at_ t pc hpc
    have hi' : K.item m.shared i := hsh ▸ hi
    by_cases hother : ∃ u pc', u ≠ t ∧ c.pool[u]? = some pc' ∧ K.hands c.shared u pc' i
    · obtain ⟨u, pc', hut, hu, hhands⟩ := hother
      refine Or.inr ⟨u, pc', hothers u pc' hut hu, ?_⟩
      rw [hsh]
      exact hK.other _ t pc k m u pc' i hO.shared hAt (hO.at_ u pc' hu) hut hm hi' hhands
    · have hmine : K.item c.shared i → K.kept c.shared i ∨ K.hands c.shared t pc i := by
        intro hitem
        rcases hc i hitem with hkept | ⟨u, pc', hu, hhands⟩
        · exact Or.inl hkept
        · by_cases hut : u = t
          · rw [hut, hpc] at hu
            cases hu
            exact Or.inr (hut ▸ hhands)
          · exact absurd ⟨u, pc', hut, hu, hhands⟩ hother
      rw [hsh]
      rcases hK.move _ t pc k m i hO.shared hAt (hg pc hpc).1 hm hi' hmine with
        hkept | hhands | ⟨pc', hpc', hhands⟩
      · exact Or.inl hkept
      · exact Or.inr ⟨t, m.next, hnext, hhands⟩
      · exact Or.inr ⟨child, pc', hchild pc' hpc', hhands child⟩

/-- **Under a valid outline a valid custody loses nothing** along a run whose moves the guard
allows. -/
theorem Custody.run (hO : O.Valid P G) (hK : K.Valid P G O) {acts : List (Act π κ)}
    (hc : O.Holds c) (hk : K.Holds c) (hg : Meets P.step G.Allows c acts)
    (h : Lib.run P.step c acts = some c') : O.Holds c' ∧ K.Holds c' := by
  have hstep : ∀ c a c', O.Holds c ∧ K.Holds c → G.Allows c a → P.step c a = some c' →
      O.Holds c' ∧ K.Holds c' := by
    rintro c a c' ⟨hc, hk⟩ hg hs
    exact ⟨hc.step hO hg hs, hk.step hK hc hg hs⟩
  exact run_invariant_of_meets hstep ⟨hc, hk⟩ hg h

end

end Lib
