import Mathlib

/-!
# Machine arithmetic with overflow checks

In a build with overflow checks, Rust's `+`, `-` and `*` on `u64` panic when the exact result does
not fit in 64 bits; `checked_add` and its kin return `None` there. `Checked.add`, `sub` and `mul`
are these operations: `none` where the exact result leaves `[0, 2 ^ 64)`, the machine result
otherwise. A model of code compiled with overflow checks writes its arithmetic with them, and the
panics of the code are its `none`s.

Each operation has one spec lemma saying exactly when it succeeds and what it yields, through
`toNat` (`add_eq_some_iff`, `sub_eq_some_iff`, `mul_eq_some_iff`, `div_eq_some_iff`), and one
saying when it panics; the proofs about the models cite these and never unfold the operations.
The casts of an `i64` to `u64` are read through `toInt` (`toNat_toUInt64`).
-/

namespace Checked

/-- An operation whose exact result is `n` and whose machine result is `x`: `x` when `n` fits in
64 bits, a panic otherwise. -/
def within (n : Nat) (x : UInt64) : Option UInt64 :=
  if n < 2 ^ 64 then some x else none

/-- `a + b` on `u64`, with overflow checks. -/
def add (a b : UInt64) : Option UInt64 := within (a.toNat + b.toNat) (a + b)

/-- `a - b` on `u64`, with overflow checks. -/
def sub (a b : UInt64) : Option UInt64 :=
  if b ≤ a then some (a - b) else none

/-- `a * b` on `u64`, with overflow checks. -/
def mul (a b : UInt64) : Option UInt64 := within (a.toNat * b.toNat) (a * b)

/-- `a / b` on `u64`, which panics on a zero divisor in every build. -/
def div (a b : UInt64) : Option UInt64 :=
  if b = 0 then none else some (a / b)

variable {a b c x : UInt64} {n : Nat}

/-- An operation that wraps modulo `2 ^ 64` succeeds exactly when its exact result fits, and then
yields the exact result. -/
theorem within_eq_some_iff (hx : x.toNat = n % 2 ^ 64) :
    within n x = some c ↔ n < 2 ^ 64 ∧ c.toNat = n := by
  unfold within
  split_ifs with h
  · refine ⟨fun hc => ⟨h, ?_⟩, fun ⟨_, hc⟩ => ?_⟩
    · cases hc
      rw [hx, Nat.mod_eq_of_lt h]
    · congr 1
      apply UInt64.toNat_inj.mp
      rw [hc, hx, Nat.mod_eq_of_lt h]
  · simp only [false_iff, not_and]
    intro h'
    exact absurd h' h

theorem within_eq_none_iff : within n x = none ↔ 2 ^ 64 ≤ n := by
  unfold within
  split_ifs with h <;> simp <;> omega

theorem add_eq_some_iff :
    add a b = some c ↔ a.toNat + b.toNat < 2 ^ 64 ∧ c.toNat = a.toNat + b.toNat :=
  within_eq_some_iff (UInt64.toNat_add a b)

theorem add_eq_none_iff : add a b = none ↔ 2 ^ 64 ≤ a.toNat + b.toNat := within_eq_none_iff

theorem sub_eq_some_iff :
    sub a b = some c ↔ b.toNat ≤ a.toNat ∧ c.toNat = a.toNat - b.toNat := by
  unfold sub
  split_ifs with h
  · have hle := UInt64.le_iff_toNat_le.mp h
    refine ⟨fun hc => ⟨hle, ?_⟩, fun ⟨_, hc⟩ => ?_⟩
    · cases hc
      exact UInt64.toNat_sub_of_le a b h
    · congr 1
      apply UInt64.toNat_inj.mp
      rw [hc, UInt64.toNat_sub_of_le a b h]
  · simp only [false_iff, not_and]
    intro hle
    exact absurd (UInt64.le_iff_toNat_le.mpr hle) h

theorem sub_eq_none_iff : sub a b = none ↔ a.toNat < b.toNat := by
  unfold sub
  split_ifs with h
  · simp only [false_iff, Nat.not_lt]
    exact UInt64.le_iff_toNat_le.mp h
  · simp only [true_iff]
    rw [UInt64.le_iff_toNat_le] at h
    omega

theorem mul_eq_some_iff :
    mul a b = some c ↔ a.toNat * b.toNat < 2 ^ 64 ∧ c.toNat = a.toNat * b.toNat :=
  within_eq_some_iff (UInt64.toNat_mul a b)

theorem mul_eq_none_iff : mul a b = none ↔ 2 ^ 64 ≤ a.toNat * b.toNat := within_eq_none_iff

theorem div_eq_some_iff : div a b = some c ↔ b ≠ 0 ∧ c.toNat = a.toNat / b.toNat := by
  unfold div
  split_ifs with h
  · simp [h]
  · refine ⟨fun hc => ⟨h, ?_⟩, fun ⟨_, hc⟩ => ?_⟩
    · cases hc
      exact UInt64.toNat_div a b
    · congr 1
      apply UInt64.toNat_inj.mp
      rw [hc, UInt64.toNat_div]

theorem div_eq_none_iff : div a b = none ↔ b = 0 := by
  unfold div
  split_ifs with h <;> simp [h]

/-! ## Casts from `i64` -/

/-- `x as u64` for an `i64` keeps the value modulo `2 ^ 64`. -/
theorem toNat_toUInt64 (x : Int64) : (x.toUInt64.toNat : Int) = x.toInt % 2 ^ 64 := by
  have h64 : ((2 : Int) ^ 64) = ((2 ^ 64 : Nat) : Int) := by simp
  rw [← Int64.toInt_toBitVec, BitVec.toInt_eq_toNat_bmod, h64, Int.bmod_emod,
    ← UInt64.toNat_toBitVec, Int64.toBitVec_toUInt64]
  have := x.toBitVec.isLt
  omega

/-- A non-negative `i64` keeps its value as a `u64`. -/
theorem toNat_toUInt64_of_nonneg {x : Int64} (hx : 0 ≤ x.toInt) :
    (x.toUInt64.toNat : Int) = x.toInt := by
  rw [toNat_toUInt64]
  have := Int64.toInt_lt x
  omega

/-- The cast to `u64` of `l - w` with `0 ≤ l < w`: the difference wraps below `2 ^ 64`. -/
theorem toNat_toUInt64_sub_of_lt {l w : Int64} (hl : 0 ≤ l.toInt) (hlw : l.toInt < w.toInt) :
    ((l - w).toUInt64.toNat : Int) = 2 ^ 64 - (w.toInt - l.toInt) := by
  have h64 : ((2 : Int) ^ 64) = ((2 ^ 64 : Nat) : Int) := by simp
  have hc := toNat_toUInt64 (l - w)
  rw [Int64.toInt_sub, h64, Int.bmod_emod] at hc
  have := Int64.toInt_lt w
  omega

/-- A positive `i64` is neither `0` nor `-1`, and not negative. -/
theorem ne_of_toInt_pos {x : Int64} (hx : 0 < x.toInt) : x ≠ 0 ∧ x ≠ -1 ∧ ¬ x < 0 := by
  refine ⟨?_, ?_, fun h => ?_⟩
  · rintro rfl
    exact absurd hx (by decide)
  · rintro rfl
    exact absurd hx (by decide)
  · have := Int64.lt_iff_toInt_lt.mp h
    simp only [Int64.toInt_zero] at this
    omega

/-- Subtracting a nonzero `i64` changes the value, wrapping or not. -/
theorem sub_ne_self_of_ne_zero {l : Int64} (w : Int64) (h : l ≠ 0) : w - l ≠ w := by
  intro h'
  apply h
  simpa using congrArg (· + l) h'

end Checked
