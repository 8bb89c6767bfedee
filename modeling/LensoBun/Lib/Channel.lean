import LensoBun.Lib.NatMap

set_option autoImplicit false

/-! # Bounded channels

A channel with a fixed capacity whose senders never wait: `trySend` puts the item at the end, or
says that the channel is full or that its receiver has gone. `tryRecv` takes the first item.

Senders that must not find the channel full can reserve their place before they send: `Reserved`
says that what is queued and the places reserved fit the capacity together.
-/

namespace Lib

open Std

variable {α : Type*}

structure BoundedChannel (α : Type*) where
  capacity : Nat
  items : List α
  connected : Bool

inductive TrySendError where
  | full
  | disconnected
  deriving DecidableEq, Repr

namespace BoundedChannel

def empty (capacity : Nat) : BoundedChannel α := ⟨capacity, [], true⟩

def trySend (ch : BoundedChannel α) (a : α) : Except TrySendError (BoundedChannel α) :=
  if ch.connected = false then .error .disconnected
  else if ch.capacity ≤ ch.items.length then .error .full
  else .ok { ch with items := ch.items ++ [a] }

def tryRecv (ch : BoundedChannel α) : Option (α × BoundedChannel α) :=
  match ch.items with
  | [] => none
  | a :: rest => some (a, { ch with items := rest })

/-- The receiver is dropped, and with it what is queued. -/
def close (ch : BoundedChannel α) : BoundedChannel α :=
  { ch with items := [], connected := false }

variable {ch ch' : BoundedChannel α} {a : α}

theorem trySend_ok (h : ch.trySend a = .ok ch') :
    ch.connected = true ∧ ch.items.length < ch.capacity ∧
      ch' = { ch with items := ch.items ++ [a] } := by
  unfold trySend at h
  split at h
  · cases h
  · next hconn =>
      split at h
      · cases h
      · next hroom =>
          cases h
          exact ⟨by simpa using hconn, by omega, rfl⟩

theorem trySend_of_room (hconn : ch.connected = true) (hroom : ch.items.length < ch.capacity)
    (a : α) : ch.trySend a = .ok { ch with items := ch.items ++ [a] } := by
  rw [trySend, if_neg (by simp [hconn]), if_neg (by omega)]

/-- When there is room, a send fails only if the receiver has gone. -/
theorem not_connected_of_error {error : TrySendError} (hroom : ch.items.length < ch.capacity)
    (h : ch.trySend a = .error error) : ch.connected = false := by
  by_contra hconn
  rw [trySend_of_room (by simpa using hconn) hroom] at h
  cases h

theorem tryRecv_some (h : ch.tryRecv = some (a, ch')) :
    ∃ rest, ch.items = a :: rest ∧ ch' = { ch with items := rest } := by
  unfold tryRecv at h
  split at h
  · cases h
  · next b rest hitems =>
      cases h
      exact ⟨rest, hitems, rfl⟩

/-! ## Reserved places -/

/-- What is queued and the places reserved, one for each holder, fit the capacity together. -/
def Reserved (ch : BoundedChannel α) (holders : ExtTreeMap Nat Unit) : Prop :=
  ch.items.length + holders.size ≤ ch.capacity

variable {holders : ExtTreeMap Nat Unit} {t : Nat}

theorem Reserved.reserve (hroom : ch.items.length + holders.size < ch.capacity) (t : Nat) :
    ch.Reserved (holders.insert t ()) := by
  have hle : (holders.insert t ()).size ≤ holders.size + 1 := ExtTreeMap.size_insert_le
  unfold Reserved
  omega

theorem Reserved.release (h : ch.Reserved holders) (t : Nat) : ch.Reserved (holders.erase t) := by
  have hle : (holders.erase t).size ≤ holders.size := ExtTreeMap.size_erase_le
  unfold Reserved at *
  omega

theorem Reserved.room (h : ch.Reserved holders) (ht : holders[t]? = some ()) :
    ch.items.length < ch.capacity := by
  have hsize := size_erase_of_some ht
  unfold Reserved at h
  omega

theorem Reserved.send (h : ch.Reserved holders) (ht : holders[t]? = some ())
    (hs : ch.trySend a = .ok ch') : ch'.Reserved (holders.erase t) := by
  obtain ⟨-, -, rfl⟩ := trySend_ok hs
  have hsize := size_erase_of_some ht
  unfold Reserved at *
  simp only [List.length_append, List.length_singleton]
  omega

theorem Reserved.recv (h : ch.Reserved holders) (hr : ch.tryRecv = some (a, ch')) :
    ch'.Reserved holders := by
  obtain ⟨rest, hitems, rfl⟩ := tryRecv_some hr
  unfold Reserved at *
  rw [hitems, List.length_cons] at h
  change rest.length + holders.size ≤ ch.capacity
  omega

theorem Reserved.close (h : ch.Reserved holders) : ch.close.Reserved holders := by
  unfold Reserved at *
  change 0 + holders.size ≤ ch.capacity
  omega

end BoundedChannel

end Lib
