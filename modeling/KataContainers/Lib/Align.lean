import Mathlib

/-!
# Aligning a word up to a power of two

Rounding `x` up to a multiple of a power of two `p` the way systems code does it,
`(x + (p - 1)) & !(p - 1)`, when the sum does not overflow: the result is `⌈x / p⌉ * p`
(`UInt64.toNat_round_up`), the least multiple of `p` from `x` on (`Nat.le_round_up`,
`Nat.round_up_le`). The power-of-two test `a & (a - 1) == 0` of a non-zero word is
`Nat.isPowerOfTwo` (`UInt64.and_sub_one_eq_zero_iff`).
-/

namespace Nat

/-- Clearing the low `k` bits of a 64-bit number rounds it down to a multiple of `2 ^ k`. -/
theorem and_two_pow_sub_two_pow {n k : Nat} (hn : n < 2 ^ 64) (hk : k ≤ 64) :
    n &&& (2 ^ 64 - 2 ^ k) = n / 2 ^ k * 2 ^ k := by
  have hsplit : 2 ^ 64 - 2 ^ k = 2 ^ k * (2 ^ (64 - k) - 1) := by
    rw [Nat.mul_sub_one, ← Nat.pow_add, Nat.add_sub_cancel' hk]
  have hlow : (n &&& (2 ^ 64 - 2 ^ k)) % 2 ^ k = 0 := by
    rw [Nat.and_mod_two_pow, hsplit, Nat.mul_mod_right, Nat.and_zero]
  have hhigh : (n &&& (2 ^ 64 - 2 ^ k)) / 2 ^ k = n / 2 ^ k := by
    rw [Nat.and_div_two_pow, hsplit, Nat.mul_div_cancel_left _ (Nat.two_pow_pos k),
      Nat.and_two_pow_sub_one_eq_mod, Nat.mod_eq_of_lt]
    rw [Nat.div_lt_iff_lt_mul (Nat.two_pow_pos k), ← Nat.pow_add, Nat.sub_add_cancel hk]
    exact hn
  rw [← Nat.div_add_mod (n &&& (2 ^ 64 - 2 ^ k)) (2 ^ k), hlow, hhigh, Nat.add_zero, Nat.mul_comm]

/-- Rounding up reaches at least the number rounded. -/
theorem le_round_up (x : Nat) {p : Nat} (hp : 0 < p) : x ≤ (x + p - 1) / p * p := by
  have := Nat.lt_div_mul_add (a := x + p - 1) hp
  omega

/-- Rounding up reaches at most the next multiple. -/
theorem round_up_le {x p a : Nat} (hp : 0 < p) (ha : a % p = 0) (hxa : x ≤ a) :
    (x + p - 1) / p * p ≤ a := by
  have hq : (x + p - 1) / p ≤ a / p := by
    apply Nat.le_of_lt_succ
    rw [Nat.div_lt_iff_lt_mul hp, Nat.succ_mul]
    have := Nat.div_add_mod a p
    rw [ha, Nat.mul_comm] at this
    omega
  calc (x + p - 1) / p * p ≤ a / p * p := Nat.mul_le_mul_right p hq
    _ = a := Nat.div_mul_cancel (Nat.dvd_of_mod_eq_zero ha)

/-- Between two multiples of `p`, the smaller leaves room for one more step of `p`. -/
theorem add_le_of_mod_eq_zero {a b p : Nat} (ha : a % p = 0) (hb : b % p = 0)
    (hab : a < b) : a + p ≤ b := by
  obtain ⟨q₁, rfl⟩ := Nat.dvd_of_mod_eq_zero ha
  obtain ⟨q₂, rfl⟩ := Nat.dvd_of_mod_eq_zero hb
  have hq : q₁ < q₂ := Nat.lt_of_mul_lt_mul_left hab
  calc p * q₁ + p = p * (q₁ + 1) := by rw [Nat.mul_succ]
    _ ≤ p * q₂ := Nat.mul_le_mul_left p hq

end Nat

namespace UInt64

/-- A word above another is not zero, so taking one from it does not wrap. -/
theorem toNat_sub_one_of_lt {a b : UInt64} (h : b < a) : (a - 1).toNat = a.toNat - 1 := by
  have hba := UInt64.lt_iff_toNat_lt.mp h
  have ha := UInt64.toNat_lt a
  rw [UInt64.toNat_sub, UInt64.toNat_one]
  omega

/-- A word below another is not the largest, so adding one to it does not wrap. -/
theorem toNat_add_one_of_lt {a b : UInt64} (h : a < b) : (a + 1).toNat = a.toNat + 1 := by
  have hab := UInt64.lt_iff_toNat_lt.mp h
  have hb := UInt64.toNat_lt b
  rw [UInt64.toNat_add, UInt64.toNat_one]
  omega

/-- The power-of-two test `a & (a - 1) == 0` of a non-zero word. -/
theorem and_sub_one_eq_zero_iff {a : UInt64} (ha : a ≠ 0) :
    a &&& (a - 1) = 0 ↔ a.toNat.isPowerOfTwo := by
  have hpos : 0 < a.toNat := by
    rcases Nat.eq_zero_or_pos a.toNat with h | h
    · exact absurd (UInt64.toNat_inj.mp (h.trans UInt64.toNat_zero.symm)) ha
    · exact h
  rw [← Nat.and_sub_one_eq_zero_iff_isPowerOfTwo (by omega), ← UInt64.toNat_inj, UInt64.toNat_and,
    UInt64.toNat_sub_of_le _ _ (UInt64.le_iff_toNat_le.mpr (by rw [UInt64.toNat_one]; omega)),
    UInt64.toNat_one,
    UInt64.toNat_zero]

/-- Rounding up to a multiple of a power of two `p` by adding `p - 1` and clearing the low bits,
when the sum does not overflow. -/
theorem toNat_round_up {x p : UInt64} {k : Nat} (hp : p.toNat = 2 ^ k)
    (hx : x.toNat + p.toNat - 1 < 2 ^ 64) :
    ((x + (p - 1)) &&& ~~~(p - 1)).toNat = (x.toNat + p.toNat - 1) / p.toNat * p.toNat := by
  have hk : k < 64 := by
    have := p.toNat_lt
    rw [hp] at this
    exact (Nat.pow_lt_pow_iff_right (by decide)).mp this
  have hp1 : (p - 1).toNat = p.toNat - 1 :=
    UInt64.toNat_sub_of_le _ _ (UInt64.le_iff_toNat_le.mpr (by rw [hp, UInt64.toNat_one]; exact Nat.one_le_two_pow))
  have hp0 : 1 ≤ p.toNat := by
    rw [hp]
    exact Nat.one_le_two_pow
  have hsum : (x + (p - 1)).toNat = x.toNat + p.toNat - 1 := by
    rw [UInt64.toNat_add, hp1, Nat.mod_eq_of_lt (by omega)]
    omega
  rw [UInt64.toNat_and, hsum, UInt64.toNat_not, hp1, hp,
    show UInt64.size - 1 - (2 ^ k - 1) = 2 ^ 64 - 2 ^ k by
      have : UInt64.size = 2 ^ 64 := rfl
      have : 1 ≤ 2 ^ k := Nat.one_le_two_pow
      have : 2 ^ k ≤ 2 ^ 64 := Nat.pow_le_pow_right (by decide) (Nat.le_of_lt hk)
      omega,
    Nat.and_two_pow_sub_two_pow (by rw [hp] at hx; exact hx) (Nat.le_of_lt hk)]

end UInt64
