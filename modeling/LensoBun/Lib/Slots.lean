import Mathlib.Data.List.Perm.Subperm
import Mathlib.Data.List.Nodup

set_option autoImplicit false

/-! # Slots that are handed over

A counter of slots and a queue of those who wait for one. Who gives a slot back hands it to the first
in the queue, and the counter is lowered only if nobody waits. The log records what happens.

`Accounts limit capacity S holders` says that the counter and the log of `S` are right when `holders`
are those who have a slot: nobody waits while a slot is free, slots are granted in the order of the
queue, and every slot taken is held or has been given back, once.
-/

namespace Lib

variable {α : Type*}

inductive SlotEvent (α : Type*) where
  | acquired (a : α)
  | queued (a : α)
  | granted (a : α)
  | released (a : α)

structure Slots (α : Type*) where
  running : Nat
  waiters : List α
  log : List (SlotEvent α)

namespace Slots

def empty : Slots α := ⟨0, [], []⟩

def take (S : Slots α) (a : α) : Slots α :=
  { S with running := S.running + 1, log := S.log ++ [.acquired a] }

def queue (S : Slots α) (a : α) : Slots α :=
  { S with waiters := S.waiters ++ [a], log := S.log ++ [.queued a] }

def release (S : Slots α) (a : α) : Slots α :=
  match S.waiters with
  | b :: rest => { S with waiters := rest, log := S.log ++ [.released a, .granted b] }
  | [] => { S with running := S.running - 1, log := S.log ++ [.released a] }

/-! ## Readings of the log -/

/-- Those who have got a slot, at once or from the queue. -/
def taken (log : List (SlotEvent α)) : List α :=
  log.filterMap fun e => match e with
    | .acquired a | .granted a => some a
    | _ => none

def released (log : List (SlotEvent α)) : List α :=
  log.filterMap fun e => match e with
    | .released a => some a
    | _ => none

def queued (log : List (SlotEvent α)) : List α :=
  log.filterMap fun e => match e with
    | .queued a => some a
    | _ => none

def granted (log : List (SlotEvent α)) : List α :=
  log.filterMap fun e => match e with
    | .granted a => some a
    | _ => none

/-! ## The accounts -/

structure Accounts (limit capacity : Nat) (S : Slots α) (holders : List α) : Prop where
  count : holders.length = S.running
  within : S.running ≤ limit
  room : S.waiters.length ≤ capacity
  full : S.waiters ≠ [] → S.running = limit
  order : queued S.log = granted S.log ++ S.waiters
  balance : (holders ++ released S.log).Perm (taken S.log)
  once : (taken S.log).Nodup
  distinct : S.waiters.Nodup
  waiting : ∀ a ∈ S.waiters, a ∉ taken S.log

variable {limit capacity : Nat} {S : Slots α} {holders : List α} {a b : α}

theorem Accounts.empty (limit capacity : Nat) : Accounts limit capacity (.empty : Slots α) [] where
  count := rfl
  within := Nat.zero_le _
  room := Nat.zero_le _
  full h := absurd rfl h
  order := rfl
  balance := .refl _
  once := List.nodup_nil
  distinct := List.nodup_nil
  waiting a h := by cases h

namespace Accounts

theorem mem_taken (h : Accounts limit capacity S holders) (ha : a ∈ holders) : a ∈ taken S.log :=
  h.balance.subset (List.mem_append_left _ ha)

theorem nodup (h : Accounts limit capacity S holders) : holders.Nodup :=
  (List.nodup_append.mp (h.balance.nodup_iff.mpr h.once)).1

theorem not_mem_waiters (h : Accounts limit capacity S holders) (ha : a ∈ holders) :
    a ∉ S.waiters :=
  fun hwaits => h.waiting a hwaits (h.mem_taken ha)

/-- With no slots and no room in the queue there is nothing yet, so that the limits may be set. -/
theorem limits (h : Accounts 0 0 S holders) (limit capacity : Nat) :
    Accounts limit capacity S holders := by
  have hrunning : S.running = 0 := Nat.le_zero.mp h.within
  have hwaiters : S.waiters = [] := List.length_eq_zero_iff.mp (Nat.le_zero.mp h.room)
  refine { h with within := ?_, room := ?_, full := fun hne => absurd hwaiters hne }
  · omega
  · simp [hwaiters]

theorem take (h : Accounts limit capacity S holders) (ha : a ∉ taken S.log)
    (hfree : S.running < limit) : Accounts limit capacity (S.take a) (a :: holders) := by
  have hwaiters : S.waiters = [] := by
    by_contra hne
    have hfull := h.full hne
    omega
  have htaken : taken (S.take a).log = taken S.log ++ [a] := List.filterMap_append
  have hreleased : released (S.take a).log = released S.log :=
    List.filterMap_append.trans (List.append_nil _)
  have hqueued : queued (S.take a).log = queued S.log :=
    List.filterMap_append.trans (List.append_nil _)
  have hgranted : granted (S.take a).log = granted S.log :=
    List.filterMap_append.trans (List.append_nil _)
  constructor
  · exact congrArg (· + 1) h.count
  · exact hfree
  · exact h.room
  · exact fun hne => absurd hwaiters hne
  · rw [hqueued, hgranted]
    exact h.order
  · rw [htaken, hreleased]
    exact (h.balance.cons a).trans (List.perm_append_singleton _ _).symm
  · rw [htaken]
    exact h.once.append (List.nodup_singleton _) (List.disjoint_singleton.mpr ha)
  · exact h.distinct
  · intro b hb
    rw [show (S.take a).waiters = [] from hwaiters] at hb
    cases hb

theorem queue (h : Accounts limit capacity S holders) (ha : a ∉ taken S.log)
    (hwaits : a ∉ S.waiters) (hfull : limit ≤ S.running) (hroom : S.waiters.length < capacity) :
    Accounts limit capacity (S.queue a) holders := by
  have htaken : taken (S.queue a).log = taken S.log :=
    List.filterMap_append.trans (List.append_nil _)
  have hreleased : released (S.queue a).log = released S.log :=
    List.filterMap_append.trans (List.append_nil _)
  have hqueued : queued (S.queue a).log = queued S.log ++ [a] := List.filterMap_append
  have hgranted : granted (S.queue a).log = granted S.log :=
    List.filterMap_append.trans (List.append_nil _)
  constructor
  · exact h.count
  · exact h.within
  · rw [show (S.queue a).waiters = S.waiters ++ [a] from rfl, List.length_append]
    exact hroom
  · exact fun _ => Nat.le_antisymm h.within hfull
  · rw [hqueued, hgranted, h.order, List.append_assoc]
    rfl
  · rw [htaken, hreleased]
    exact h.balance
  · rw [htaken]
    exact h.once
  · exact h.distinct.append (List.nodup_singleton _) (List.disjoint_singleton.mpr hwaits)
  · intro b hb
    rw [htaken]
    rcases List.mem_append.mp hb with hb | hb
    · exact h.waiting b hb
    · rw [List.mem_singleton.mp hb]
      exact ha

end Accounts

section

variable [DecidableEq α]

/-- Who has a slot after it has been given back. -/
def heirs (S : Slots α) (holders : List α) (a : α) : List α :=
  match S.waiters with
  | b :: _ => b :: holders.erase a
  | [] => holders.erase a

open scoped List in
theorem Accounts.erase_balance (h : Accounts limit capacity S holders) (ha : a ∈ holders) :
    holders.erase a ++ (released S.log ++ [a]) ~ taken S.log :=
  calc holders.erase a ++ (released S.log ++ [a])
      ~ a :: (holders.erase a ++ released S.log) := by
        rw [← List.append_assoc]
        exact List.perm_append_singleton _ _
    _ ~ holders ++ released S.log := (List.perm_cons_erase ha).symm.append_right _
    _ ~ taken S.log := h.balance

theorem Accounts.release (h : Accounts limit capacity S holders) (ha : a ∈ holders) :
    Accounts limit capacity (S.release a) (S.heirs holders a) := by
  have hlength : (holders.erase a).length + 1 = S.running := by grind [h.count]
  cases hwaiters : S.waiters with
  | nil =>
    have hrelease : S.release a =
        { S with running := S.running - 1, log := S.log ++ [.released a] } := by
      rw [Slots.release, hwaiters]
    have hheirs : S.heirs holders a = holders.erase a := by rw [heirs, hwaiters]
    rw [hrelease, hheirs]
    constructor
    · exact Nat.eq_sub_of_add_eq hlength
    · exact Nat.le_trans (Nat.sub_le _ _) h.within
    · exact h.room
    · exact fun hne => absurd hwaiters hne
    · simpa [queued, granted] using h.order
    · simpa [released, taken] using h.erase_balance ha
    · simpa [taken] using h.once
    · exact h.distinct
    · simp [hwaiters]
  | cons b rest =>
    have hrelease : S.release a =
        { S with waiters := rest, log := S.log ++ [.released a, .granted b] } := by
      rw [Slots.release, hwaiters]
    have hheirs : S.heirs holders a = b :: holders.erase a := by rw [heirs, hwaiters]
    have hb : b ∈ S.waiters := by simp [hwaiters]
    have hdistinct := h.distinct
    have hroom := h.room
    have horder := h.order
    rw [hwaiters] at hdistinct hroom horder
    have htaken : taken (S.log ++ [.released a, .granted b]) = taken S.log ++ [b] :=
      List.filterMap_append
    rw [hrelease, hheirs]
    constructor
    · exact hlength
    · exact h.within
    · exact Nat.le_trans (Nat.le_succ _) hroom
    · exact fun _ => h.full (List.ne_nil_of_mem hb)
    · simpa [queued, granted] using horder
    · rw [htaken]
      have hbalance := (h.erase_balance ha).cons b
      have hreleased : released (S.log ++ [.released a, .granted b]) = released S.log ++ [a] :=
        List.filterMap_append
      rw [hreleased]
      exact hbalance.trans (List.perm_append_singleton _ _).symm
    · grind [h.once, h.waiting]
    · exact hdistinct.of_cons
    · grind [h.waiting]

theorem Accounts.mem_release (h : Accounts limit capacity S holders) (ha : a ∈ holders) (b : α) :
    b ∈ S.heirs holders a ∨ b ∈ (S.release a).waiters ↔ b ≠ a ∧ (b ∈ holders ∨ b ∈ S.waiters) := by
  have hnot := h.not_mem_waiters ha
  have hne : b ∈ S.waiters → b ≠ a := by
    rintro hb rfl
    exact hnot hb
  cases hwaiters : S.waiters with
  | nil => simp [heirs, Slots.release, hwaiters, h.nodup.mem_erase_iff]
  | cons => grind [heirs, Slots.release, nodup, h.nodup]

theorem length_release (ha : a ∈ holders) :
    (S.heirs holders a).length + (S.release a).waiters.length + 1 =
      holders.length + S.waiters.length := by
  have hpos := List.length_pos_of_mem ha
  cases hwaiters : S.waiters with
  | nil => grind [heirs, Slots.release]
  | cons => grind [heirs, Slots.release]

end

end Slots

end Lib
