import LensoBun.Lib.Threads

set_option autoImplicit false

/-! # Counting threads

`census p pool` is the number of threads at a place that satisfies `p`. A move takes the mover out of
the count at its old place and into it at its new one, so a counter of the shared state that goes up
and down with `p` is the census (`Counted`), and a limit is kept by what has been used up together
with the threads that are on their way to use more.
-/

namespace Lib

open Std

variable {σ π κ : Type*}

/-- The number of threads whose place satisfies `p`. -/
def census (p : π → Bool) (pool : ExtTreeMap Nat π) : Nat := (pool.filter fun _ pc => p pc).size

section

variable {p : π → Bool} {pool : ExtTreeMap Nat π} {t : Nat} {pc pc' : π}

theorem census_empty (p : π → Bool) : census p (∅ : ExtTreeMap Nat π) = 0 := by
  have hle : census p (∅ : ExtTreeMap Nat π) ≤ (∅ : ExtTreeMap Nat π).size :=
    ExtTreeMap.size_filter_le_size
  rw [ExtTreeMap.size_empty] at hle
  exact Nat.le_zero.mp hle

theorem filter_insert_of_pos (hp : p pc' = true) :
    (pool.insert t pc').filter (fun _ pc => p pc) = (pool.filter fun _ pc => p pc).insert t pc' := by
  refine ExtTreeMap.ext_getElem? fun u => ?_
  simp only [ExtTreeMap.getElem?_filter', getElem?_insert_nat]
  split
  · simp [hp]
  · rfl

theorem filter_insert_of_neg (hp : p pc' = false) :
    (pool.insert t pc').filter (fun _ pc => p pc) = (pool.filter fun _ pc => p pc).erase t := by
  refine ExtTreeMap.ext_getElem? fun u => ?_
  simp only [ExtTreeMap.getElem?_filter', getElem?_insert_nat, getElem?_erase_nat]
  split
  · simp [hp]
  · rfl

theorem getElem?_filter_of_pos (h : pool[t]? = some pc) (hp : p pc = true) :
    (pool.filter fun _ pc => p pc)[t]? = some pc := by
  simp [h, hp]

theorem getElem?_filter_of_neg (h : pool[t]? = some pc) (hp : p pc = false) :
    (pool.filter fun _ pc => p pc)[t]? = none := by
  simp [h, hp]

theorem census_insert_new (h : pool[t]? = none) :
    census p (pool.insert t pc) = census p pool + (p pc).toNat := by
  have hnone : (pool.filter fun _ pc => p pc)[t]? = none := by
    simp [h]
  cases hp : p pc with
  | true =>
    rw [census, filter_insert_of_pos hp, size_insert_of_none hnone]
    rfl
  | false =>
    rw [census, filter_insert_of_neg hp, ExtTreeMap.size_erase, if_neg]
    · rfl
    · grind

/-- A thread at another place: it leaves the count with its old place and enters it with its new
one. -/
theorem census_insert_old (h : pool[t]? = some pc) :
    census p (pool.insert t pc') + (p pc).toNat = census p pool + (p pc').toNat := by
  unfold census
  cases hp : p pc with
  | true =>
    have hmem := getElem?_filter_of_pos h hp
    cases hp' : p pc' with
    | true =>
      rw [filter_insert_of_pos hp', ExtTreeMap.size_insert,
        if_pos (ExtTreeMap.mem_iff_contains.mp (mem_of_getElem? hmem))]
    | false =>
      rw [filter_insert_of_neg hp']
      exact size_erase_of_some hmem
  | false =>
    have hnone := getElem?_filter_of_neg h hp
    cases hp' : p pc' with
    | true => rw [filter_insert_of_pos hp', size_insert_of_none hnone]; rfl
    | false =>
      rw [filter_insert_of_neg hp', ExtTreeMap.size_erase, if_neg]
      rw [← ExtTreeMap.mem_iff_contains]
      exact not_mem_of_getElem? hnone

theorem census_congr {ρ : Type*} {q : ρ → Bool} {other : ExtTreeMap Nat ρ}
    (h : ∀ u : Nat, pool[u]?.any p = other[u]?.any q) : census p pool = census q other := by
  have hsame : ((pool.filter fun _ pc => p pc).map fun _ _ => ()) =
      (other.filter fun _ pc => q pc).map fun _ _ => () := by
    refine ExtTreeMap.ext_getElem? fun u => ?_
    have hu := h u
    rw [ExtTreeMap.getElem?_map, ExtTreeMap.getElem?_map, ExtTreeMap.getElem?_filter',
      ExtTreeMap.getElem?_filter']
    cases hpc : pool[u]? <;> cases hpc' : other[u]? <;> simp_all [Option.filter]
  have hsize := congrArg ExtTreeMap.size hsame
  rwa [ExtTreeMap.size_map, ExtTreeMap.size_map] at hsize

theorem census_modify (f : π → π) :
    census p (pool.modify t f) + (pool[t]?.any p).toNat =
      census p pool + (pool[t]?.any (p ∘ f)).toNat := by
  cases h : pool[t]? with
  | none =>
    have hsame : pool.modify t f = pool := by grind
    rw [hsame]
    rfl
  | some =>
    rw [modify_of_some h]
    exact census_insert_old h

theorem census_pos (h : pool[t]? = some pc) (hp : p pc = true) : 0 < census p pool := by
  have hpos : (pool.filter fun _ pc => p pc).size ≠ 0 := by
    intro h0
    have hmem := getElem?_filter_of_pos h hp
    rw [ExtTreeMap.eq_empty_iff_size_eq_zero.mpr h0] at hmem
    cases hmem
  exact Nat.pos_of_ne_zero hpos

theorem exists_of_census_pos (h : 0 < census p pool) :
    ∃ (u : Nat) (other : π), pool[u]? = some other ∧ p other = true := by
  by_contra hnone
  push Not at hnone
  have hempty : ∀ u : Nat, pool[u]?.any p = (∅ : ExtTreeMap Nat π)[u]?.any p := by
    intro u
    rw [ExtTreeMap.getElem?_empty, Option.any_none]
    cases hu : pool[u]? with
    | none => rfl
    | some other => exact Bool.eq_false_iff.mpr (hnone u other hu)
  rw [census_congr hempty, census_empty] at h
  cases h

/-- With at most one thread in the census, two in it are the same. -/
theorem eq_of_census_le_one {u : Nat} (h : census p pool ≤ 1) (ht : pool[t]? = some pc)
    (hp : p pc = true) (hu : pool[u]? = some pc') (hp' : p pc' = true) : t = u := by
  by_contra hne
  have hnodup : [t, u].Nodup := by simp [hne]
  have hmem : ∀ k ∈ [t, u], k ∈ pool.filter fun _ pc => p pc := by
    intro k hk
    rcases List.mem_pair.mp hk with rfl | rfl
    · exact mem_of_getElem? (getElem?_filter_of_pos ht hp)
    · exact mem_of_getElem? (getElem?_filter_of_pos hu hp')
  have hlength : 2 ≤ census p pool := length_le_size hnodup hmem
  omega

end

/-! ## Along a run -/

variable {P : Program σ π κ}

variable {c c' : Threads σ π} {p : π → Bool}

/-- What a step does to a census, for a program whose moves start no threads and whose threads start
outside of it. -/
theorem Program.census_step (hchild : ∀ s t pc k m, P.move s t pc k = some m → m.child = none)
    (hentry : ∀ pc, P.entry pc = true → p pc = false) {a : Act π κ} (h : P.step c a = some c') :
    (c'.shared = c.shared ∧ census p c'.pool = census p c.pool) ∨
    ∃ t k child pc m, a = .move t k child ∧ c.pool[t]? = some pc ∧
      P.move c.shared t pc k = some m ∧ c'.shared = m.shared ∧
      census p c'.pool + (p pc).toNat = census p c.pool + (p m.next).toNat := by
  rcases P.step_cases h with ⟨t, pc, -, hpc, hfresh, rfl⟩ |
    ⟨t, k, child, pc, m, rfl, hpc, hm, hshared, ⟨-, hpool⟩ | ⟨pc', hc, -⟩⟩
  · refine .inl ⟨rfl, ?_⟩
    have hnew : census p (c.pool.insert t pc) = census p c.pool + (p pc).toNat :=
      census_insert_new (ExtTreeMap.getElem?_eq_none hfresh)
    rw [hentry pc hpc] at hnew
    exact hnew
  · refine .inr ⟨t, k, child, pc, m, rfl, hpc, hm, hshared, ?_⟩
    rw [hpool]
    exact census_insert_old hpc
  · rw [hchild _ t pc k m hm] at hc
    cases hc

/-- A counter of the shared state that goes up when a thread comes to a place with `p` and down when
it leaves it. -/
structure Counted (P : Program σ π κ) (count : σ → Nat) (p : π → Bool) : Prop where
  child : ∀ s t pc k m, P.move s t pc k = some m → m.child = none
  entry : ∀ pc, P.entry pc = true → p pc = false
  move : ∀ s t pc k m, (p pc = true → 0 < count s) → P.move s t pc k = some m →
    count m.shared + (p pc).toNat = count s + (p m.next).toNat

theorem Counted.step {count : σ → Nat} (hP : Counted P count p) {a : Act π κ}
    (hc : count c.shared = census p c.pool) (h : P.step c a = some c') :
    count c'.shared = census p c'.pool := by
  rcases P.census_step hP.child hP.entry h with ⟨hshared, hcensus⟩ |
    ⟨t, k, child, pc, m, -, hpc, hm, hshared, hcensus⟩
  · rw [hshared, hcensus, hc]
  · have hpos : p pc = true → 0 < count c.shared := fun hp => hc ▸ census_pos hpc hp
    have hcount := hP.move _ t pc k m hpos hm
    rw [hshared]
    omega

theorem Counted.run {count : σ → Nat} (hP : Counted P count p) {acts : List (Act π κ)}
    (hc : count c.shared = census p c.pool) (h : Lib.run P.step c acts = some c') :
    count c'.shared = census p c'.pool :=
  run_invariant (fun _ _ _ hc hs => hP.step hc hs) hc h

end Lib
