import Mathlib.Data.Nat.Log
import Mathlib.Tactic

set_option autoImplicit false

/-! # Natural numbers read as binary floating-point numbers

A natural number is read into a format whose significand has `p` bits: the representable number
nearest to it, and of two nearest ones the one with the even significand. The exponents of the
format are taken to be large enough, as those of the binary64 format are for every 64-bit integer.
-/

namespace Lib

/-- The quotient of `n` and `d` rounded to the nearest natural number, a tie to the even one. -/
def roundDiv (n d : Nat) : Nat :=
  if d < 2 * (n % d) ∨ (d = 2 * (n % d) ∧ (n / d) % 2 = 1) then n / d + 1 else n / d

theorem div_le_roundDiv (n d : Nat) : n / d ≤ roundDiv n d := by
  unfold roundDiv
  split <;> omega

/-- The number with a significand of `p` bits that `n` is read as. -/
def roundBits (p n : Nat) : Nat :=
  if n < 2 ^ p then n
  else
    let unit := 2 ^ (Nat.log 2 n + 1 - p)
    roundDiv n unit * unit

/-- Numbers of at most `p` bits are read exactly. -/
theorem roundBits_of_lt {p n : Nat} (h : n < 2 ^ p) : roundBits p n = n := if_pos h

/-- No longer number is read as one of at most `p` bits. -/
theorem le_roundBits {p n : Nat} (hp : 0 < p) (h : 2 ^ p ≤ n) : 2 ^ p ≤ roundBits p n := by
  have hn : n ≠ 0 := by
    have := Nat.two_pow_pos p
    omega
  have hlog : p ≤ Nat.log 2 n := Nat.le_log_of_pow_le Nat.one_lt_two h
  have hround : 2 ^ (p - 1) ≤ roundDiv n (2 ^ (Nat.log 2 n + 1 - p)) := by
    refine le_trans ?_ (div_le_roundDiv n _)
    rw [Nat.le_div_iff_mul_le (Nat.two_pow_pos _), ← Nat.pow_add]
    have hsum : p - 1 + (Nat.log 2 n + 1 - p) = Nat.log 2 n := by omega
    rw [hsum]
    exact Nat.pow_log_le_self 2 hn
  calc 2 ^ p ≤ 2 ^ Nat.log 2 n := Nat.pow_le_pow_right Nat.two_pos hlog
    _ = 2 ^ (p - 1) * 2 ^ (Nat.log 2 n + 1 - p) := by
        rw [← Nat.pow_add]
        congr 1
        omega
    _ ≤ roundDiv n (2 ^ (Nat.log 2 n + 1 - p)) * 2 ^ (Nat.log 2 n + 1 - p) :=
        Nat.mul_le_mul_right _ hround
    _ = roundBits p n := (if_neg (Nat.not_lt.mpr h)).symm

/-- Reading a number keeps on which side of `2 ^ p` it is. -/
theorem roundBits_lt_iff {p n : Nat} (hp : 0 < p) : roundBits p n < 2 ^ p ↔ n < 2 ^ p := by
  constructor
  · intro h
    by_contra hn
    exact absurd (le_roundBits hp (Nat.not_lt.mp hn)) (Nat.not_le.mpr h)
  · intro h
    rwa [roundBits_of_lt h]

/-- The binary64 number a natural number is read as. -/
def toDouble (n : Nat) : Nat := roundBits 53 n

theorem toDouble_of_lt {n : Nat} (h : n < 2 ^ 53) : toDouble n = n := roundBits_of_lt h

theorem toDouble_lt_iff {n : Nat} : toDouble n < 2 ^ 53 ↔ n < 2 ^ 53 := roundBits_lt_iff (by omega)

example : toDouble (2 ^ 53 + 1) = 2 ^ 53 ∧ toDouble (2 ^ 53 + 3) = 2 ^ 53 + 4 ∧
    toDouble (2 ^ 64 - 1) = 2 ^ 64 := by decide +kernel

end Lib
