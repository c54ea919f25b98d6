import Mathlib.Algebra.Order.Ring.Int
import Mathlib.Tactic.Common

/-!
# Narrowing to a signed integer

A conversion to a signed type of `w + 1` bits keeps the value modulo
`2 ^ (w + 1)`.  It keeps the value itself exactly for the numbers of that type,
and an unsigned number stays non-negative, together with all smaller ones,
exactly below `2 ^ w`.
-/

namespace Narrowing

/-- The value of `x` as a signed integer of `w + 1` bits. -/
def narrow (w : ℕ) (x : ℤ) : ℤ := x.bmod (2 ^ (w + 1))

/-- The values of a signed type of `w + 1` bits. -/
def Fits (w : ℕ) (x : ℤ) : Prop := -(2 ^ w) ≤ x ∧ x < 2 ^ w

variable {w n : ℕ} {x : ℤ}

theorem two_pow_succ_cast : ((2 ^ (w + 1) : ℕ) : ℤ) = 2 * 2 ^ w := by
  rw [Nat.pow_succ, mul_comm]
  push_cast
  rfl

theorem fits_narrow (w : ℕ) (x : ℤ) : Fits w (narrow w x) := by
  have hpos : 0 < 2 ^ (w + 1) := Nat.two_pow_pos _
  have hlow := Int.le_bmod (x := x) hpos
  have hhigh := Int.bmod_lt (x := x) hpos
  rw [two_pow_succ_cast] at hlow hhigh
  constructor
  · unfold narrow
    omega
  · unfold narrow
    omega

theorem narrow_eq_self_iff : narrow w x = x ↔ Fits w x := by
  constructor
  · intro h
    rw [← h]
    exact fits_narrow w x
  · rintro ⟨hlow, hhigh⟩
    apply Int.bmod_eq_of_le_mul_two
    · rw [two_pow_succ_cast]
      omega
    · rw [two_pow_succ_cast]
      omega

theorem fits_natCast_iff : Fits w (n : ℤ) ↔ n < 2 ^ w := by
  have hcast : ((2 ^ w : ℕ) : ℤ) = 2 ^ w := by push_cast; rfl
  unfold Fits
  omega

theorem narrow_natCast_eq_iff : narrow w n = n ↔ n < 2 ^ w :=
  narrow_eq_self_iff.trans fits_natCast_iff

/-- The first number that does not fit is the least value of the type. -/
theorem narrow_two_pow (w : ℕ) : narrow w ((2 ^ w : ℕ) : ℤ) = -(2 ^ w) := by
  have hcast : ((2 ^ w : ℕ) : ℤ) = 2 ^ w := by push_cast; rfl
  have hpos : (0 : ℤ) < 2 ^ w := Int.pow_pos (by decide)
  rw [hcast, narrow, Int.bmod_eq_iff (Nat.two_pow_pos _), two_pow_succ_cast]
  refine ⟨by omega, by omega, -1, by omega⟩

theorem narrow_nonneg_iff_forall : (∀ m ≤ n, 0 ≤ narrow w m) ↔ n < 2 ^ w := by
  constructor
  · intro h
    by_contra hn
    have hneg := h (2 ^ w) (not_lt.mp hn)
    rw [narrow_two_pow] at hneg
    have hpos : (0 : ℤ) < 2 ^ w := Int.pow_pos (by decide)
    omega
  · intro hn m hm
    rw [narrow_natCast_eq_iff.mpr (hm.trans_lt hn)]
    exact Int.natCast_nonneg m

end Narrowing
