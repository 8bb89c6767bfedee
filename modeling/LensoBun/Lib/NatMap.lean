import Mathlib.Tactic
import Std.Data.ExtTreeMap

set_option autoImplicit false

/-! # Ordered maps over `Nat` keys

Lookups after an insert or an erase, with equality of keys in place of their comparison, and maps
that are kept below a limit by dropping their smallest keys (`evict`). A set is a map to `Unit`.
-/

namespace Lib

open Std

variable {β : Type*}

theorem getElem?_insert_nat (m : ExtTreeMap Nat β) (k a : Nat) (v : β) :
    (m.insert k v)[a]? = if k = a then some v else m[a]? := by
  rw [ExtTreeMap.getElem?_insert]
  simp only [Nat.compare_eq_eq]

theorem getElem?_erase_nat (m : ExtTreeMap Nat β) (k a : Nat) :
    (m.erase k)[a]? = if k = a then none else m[a]? := by
  rw [ExtTreeMap.getElem?_erase]
  simp only [Nat.compare_eq_eq]

theorem getElem?_modify_nat (m : ExtTreeMap Nat β) (k a : Nat) (f : β → β) :
    (m.modify k f)[a]? = if k = a then m[k]?.map f else m[a]? := by
  rw [ExtTreeMap.getElem?_modify]
  simp only [Nat.compare_eq_eq]

variable {a k limit : Nat} {m m' : ExtTreeMap Nat β} {v w : β}

/-- What is found after an insert is new, or was there under another key. -/
theorem new_or_old_of_insert (h : (m.insert k v)[a]? = some w) :
    (k = a ∧ v = w) ∨ (k ≠ a ∧ m[a]? = some w) := by
  rw [getElem?_insert_nat] at h
  split at h
  · next heq => exact .inl ⟨heq, Option.some.inj h⟩
  · next hne => exact .inr ⟨hne, h⟩

theorem old_of_erase (h : (m.erase k)[a]? = some w) : k ≠ a ∧ m[a]? = some w := by
  rw [getElem?_erase_nat] at h
  split at h
  · cases h
  · next hne => exact ⟨hne, h⟩

/-- What holds between any two entries, and between the new one and the others. -/
theorem pairs_insert {R : Nat → β → Nat → β → Prop}
    (hold : ∀ (a b : Nat) (x y : β), a ≠ b → m[a]? = some x → m[b]? = some y → R a x b y)
    (hnew : ∀ (b : Nat) (y : β), k ≠ b → m[b]? = some y → R k v b y ∧ R b y k v) (a b : Nat)
    (x y : β) (hab : a ≠ b) (ha : (m.insert k v)[a]? = some x) (hb : (m.insert k v)[b]? = some y) :
    R a x b y := by
  rcases new_or_old_of_insert ha with ⟨rfl, rfl⟩ | ⟨hka, ha⟩
  · grind
  · grind

theorem modify_of_some (h : m[k]? = some v) (f : β → β) : m.modify k f = m.insert k (f v) := by
  refine ExtTreeMap.ext_getElem? fun a => ?_
  rw [getElem?_modify_nat, getElem?_insert_nat]
  split
  · rw [h, Option.map_some]
  · rfl

theorem size_insert_of_none (h : m[k]? = none) (v : β) : (m.insert k v).size = m.size + 1 := by
  rw [ExtTreeMap.size_insert, if_neg]
  rw [← ExtTreeMap.mem_iff_contains, ExtTreeMap.mem_iff_isSome_getElem?, h]
  exact Bool.false_ne_true

theorem mem_of_getElem? (h : m[k]? = some v) : k ∈ m := by
  rw [ExtTreeMap.mem_iff_isSome_getElem?, h]
  rfl

theorem not_mem_of_getElem? (h : m[k]? = none) : k ∉ m := by
  rw [ExtTreeMap.mem_iff_isSome_getElem?, h]
  exact Bool.false_ne_true

theorem size_erase_of_some (h : m[k]? = some v) : (m.erase k).size + 1 = m.size := by
  have hmem := ExtTreeMap.mem_iff_contains.mp (mem_of_getElem? h)
  have hpos : m.size ≠ 0 := by
    intro h0
    rw [ExtTreeMap.eq_empty_iff_size_eq_zero.mpr h0] at h
    cases h
  rw [ExtTreeMap.size_erase, if_pos hmem]
  omega

theorem mem_insert_nat : a ∈ m.insert k v ↔ k = a ∨ a ∈ m := by
  rw [ExtTreeMap.mem_insert, Nat.compare_eq_eq]

theorem mem_erase_nat : a ∈ m.erase k ↔ k ≠ a ∧ a ∈ m := by
  rw [ExtTreeMap.mem_erase, ne_eq, Nat.compare_eq_eq, ne_eq]

theorem erase_insert_of_not_mem (h : k ∉ m) : (m.insert k v).erase k = m := by
  refine ExtTreeMap.ext_getElem? fun a => ?_
  rw [getElem?_erase_nat, getElem?_insert_nat]
  by_cases ha : k = a
  · grind
  · rw [if_neg ha, if_neg ha]

/-- Different keys that are all there are no more than the map has. -/
theorem length_le_size {ks : List Nat} (hnodup : ks.Nodup) (hmem : ∀ k ∈ ks, k ∈ m) :
    ks.length ≤ m.size := by
  have hsub : ks ⊆ m.keys := fun k hk => ExtTreeMap.mem_keys.mpr (hmem k hk)
  rw [← ExtTreeMap.length_keys]
  exact (List.subperm_of_subset hnodup hsub).length_le

/-! ## Values -/

/-- The values of a map, in the order of its keys. -/
def valueList (m : ExtTreeMap Nat β) : List β := m.toList.map Prod.snd

theorem mem_valueList : v ∈ valueList m ↔ ∃ k : Nat, m[k]? = some v := by
  constructor
  · intro h
    obtain ⟨⟨k, v'⟩, hmem, rfl⟩ := List.mem_map.mp h
    exact ⟨k, ExtTreeMap.mem_toList_iff_getElem?_eq_some.mp hmem⟩
  · rintro ⟨k, hk⟩
    exact List.mem_map.mpr ⟨(k, v), ExtTreeMap.mem_toList_iff_getElem?_eq_some.mpr hk, rfl⟩

theorem length_valueList (m : ExtTreeMap Nat β) : (valueList m).length = m.size := by
  rw [valueList, List.length_map, ExtTreeMap.length_toList]

/-- No value comes twice exactly if no two keys have the same one. -/
theorem nodup_valueList :
    (valueList m).Nodup ↔ ∀ (k k' : Nat) (v : β), m[k]? = some v → m[k']? = some v → k = k' := by
  have hkeys : m.toList.Pairwise fun x y => x.1 ≠ y.1 :=
    m.distinct_keys_toList.imp fun hne heq => hne (Nat.compare_eq_eq.mpr heq)
  constructor
  · intro hnodup k k' v hk hk'
    have hmem : (k, v) ∈ m.toList := ExtTreeMap.mem_toList_iff_getElem?_eq_some.mpr hk
    have hmem' : (k', v) ∈ m.toList := ExtTreeMap.mem_toList_iff_getElem?_eq_some.mpr hk'
    exact congrArg Prod.fst (List.inj_on_of_nodup_map hnodup hmem hmem' rfl)
  · intro hinj
    refine List.Nodup.map_on ?_ (hkeys.imp fun hne heq => hne (congrArg Prod.fst heq))
    rintro ⟨k, v⟩ hmem ⟨k', v'⟩ hmem' rfl
    have hk := ExtTreeMap.mem_toList_iff_getElem?_eq_some.mp hmem
    have hk' := ExtTreeMap.mem_toList_iff_getElem?_eq_some.mp hmem'
    rw [hinj k k' v hk hk']

theorem nodup_valueList_of_old (hold : ∀ (k : Nat) (v : β), m'[k]? = some v → m[k]? = some v)
    (hnodup : (valueList m).Nodup) : (valueList m').Nodup := by
  rw [nodup_valueList] at hnodup ⊢
  intro k k' v hk hk'
  exact hnodup k k' v (hold k v hk) (hold k' v hk')

theorem nodup_valueList_of_new {k₀ : Nat} {v₀ : β}
    (hold : ∀ (k : Nat) (v : β), m'[k]? = some v → m[k]? = some v ∨ (k = k₀ ∧ v = v₀))
    (hnodup : (valueList m).Nodup) (hnew : v₀ ∉ valueList m) : (valueList m').Nodup := by
  rw [nodup_valueList] at hnodup ⊢
  intro k k' v hk hk'
  rcases hold k v hk with hk | ⟨rfl, rfl⟩
  · rcases hold k' v hk' with hk' | ⟨rfl, rfl⟩
    · exact hnodup k k' v hk hk'
    · exact absurd (mem_valueList.mpr ⟨k, hk⟩) hnew
  · rcases hold k' v hk' with hk' | ⟨rfl, -⟩
    · exact absurd (mem_valueList.mpr ⟨k', hk'⟩) hnew
    · rfl

/-! ## Making room -/

/-- `fuel` rounds of: while `limit` entries or more are there, remove the smallest key. -/
def evictRounds (limit : Nat) : Nat → ExtTreeMap Nat β → ExtTreeMap Nat β
  | 0, m => m
  | fuel + 1, m =>
    if limit ≤ m.size then
      match m.keys.head? with
      | none => m
      | some k => evictRounds limit fuel (m.erase k)
    else m

/-- Remove smallest keys until fewer than `limit` entries are left. No more rounds than entries
are needed. -/
def evict (limit : Nat) (m : ExtTreeMap Nat β) : ExtTreeMap Nat β := evictRounds limit m.size m

theorem evictRounds_of_lt (h : m.size < limit) (fuel : Nat) : evictRounds limit fuel m = m := by
  cases fuel with
  | zero => rfl
  | succ => rw [evictRounds, if_neg (by omega)]

theorem evict_of_lt (h : m.size < limit) :
    evict limit m = m := evictRounds_of_lt h m.size

theorem getElem?_evictRounds {fuel : Nat} (h : (evictRounds limit fuel m)[k]? = some v) :
    m[k]? = some v := by
  induction fuel generalizing m with
  | zero => exact h
  | succ fuel ih =>
    rw [evictRounds] at h
    split at h
    · split at h
      · exact h
      · grind
    · exact h

theorem getElem?_evict (h : (evict limit m)[k]? = some v) : m[k]? = some v := getElem?_evictRounds h

theorem keys_head?_zero (h : 0 ∈ m) : m.keys.head? = some 0 := by
  have hmem : 0 ∈ m.keys := ExtTreeMap.mem_keys.mpr h
  have hsorted := m.ordered_keys
  cases hkeys : m.keys with
  | nil =>
    rw [hkeys] at hmem
    cases hmem
  | cons =>
    rw [hkeys] at hmem hsorted
    rcases List.mem_cons.mp hmem with rfl | hmem
    · rfl
    · have hlt := Nat.compare_eq_lt.mp ((List.pairwise_cons.mp hsorted).1 0 hmem)
      omega

/-- A map that has just reached the limit loses its smallest key, and no other. -/
theorem evict_of_size (h : 0 ∈ m) (hsize : m.size = limit + 1) :
    evict (limit + 1) m = m.erase 0 := by
  have herase : (m.erase 0).size < limit + 1 := by grind
  rw [evict, hsize, evictRounds, if_pos (by omega), keys_head?_zero h]
  exact evictRounds_of_lt herase limit

end Lib
