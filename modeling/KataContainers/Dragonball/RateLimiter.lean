import KataContainers.Lib.Checked
import KataContainers.Lib.Transition

/-!
# Token buckets of the rate limiter

Model of `TokenBucket` in `src/dragonball/src/dbs_utils/src/rate_limiter.rs`, the bucket behind
each of the two limits (bytes and operations) of a `RateLimiter`. A bucket holds `budget` tokens
out of `size`, plus a `one_time_burst` that does not refill. `reduce` spends the burst first, then
the budget; when the budget runs short it first refills it for the time elapsed since the last
update (`auto_replenish`), at `size` tokens per `complete_refill_time_ms` milliseconds, through the
fraction `processed_capacity / processed_refill_time` that `new` reduces by the `gcd` of `size` and
the refill time in nanoseconds.

The arithmetic is the release build's: `u64` operations wrap (`UInt64`), and only a division by
zero panics (`Checked.div`, `none`). Time is a count of nanoseconds, and `elapsed().as_nanos() as u64`
is the difference cast to `u64`.

`Inv` is the invariant of every bucket that `make_bucket` builds and `reduce` and
`force_replenish` change (`reachable_inv`), and `reduce_outcomes` what each answer of `reduce`
does to such a bucket. `refill_tokens_exact` gives the refill as the exact fraction while nothing
overflows, and `auto_replenish_wraps` the buckets where the products do overflow.

`RateLimiter` holds a bucket for bytes and one for operations and the state of its refill timer:
`consume` reduces the bucket of its token type and arms the timer when the bucket runs short, and
`manual_replenish` forces a refill. A limiter whose buckets have a nonzero divisor in their refill
fraction never panics in `consume`, and keeps that through every call (`Refills`).
-/

namespace KataContainers.Dragonball.RateLimiter

/-- `NANOSEC_IN_ONE_MILLISEC`. -/
def NANOSEC_IN_ONE_MILLISEC : UInt64 := 1000000

/-- `gcd`: Euclid's loop on `u64`. -/
def gcd (x y : UInt64) : UInt64 :=
  if y = 0 then x else gcd y (x % y)
termination_by y.toNat
decreasing_by
  rename_i h
  rw [UInt64.toNat_mod]
  exact Nat.mod_lt _ (Nat.pos_of_ne_zero fun h' => h (UInt64.toNat_inj.mp h'))

/-- `BucketReduction`; `OverConsumption` carries the two `u64`s whose quotient, as `f64`, the
source reports. -/
inductive BucketReduction
  | Failure
  | Success
  | OverConsumption (tokens size : UInt64)
  deriving DecidableEq, Repr

/-- `TokenBucket`, with `last_update` the instant in nanoseconds. -/
structure TokenBucket where
  size : UInt64
  initial_one_time_burst : UInt64
  refill_time : UInt64
  one_time_burst : UInt64
  budget : UInt64
  last_update : Nat
  processed_capacity : UInt64
  processed_refill_time : UInt64
  deriving DecidableEq, Repr

namespace TokenBucket

/-- `TokenBucket::new`, at the instant `now`. -/
def new (size one_time_burst complete_refill_time_ms : UInt64) (now : Nat) : TokenBucket :=
  let complete_refill_time_ns := complete_refill_time_ms * NANOSEC_IN_ONE_MILLISEC
  let common_factor := gcd size complete_refill_time_ns
  { size, one_time_burst, initial_one_time_burst := one_time_burst,
    refill_time := complete_refill_time_ms, budget := size, last_update := now,
    processed_capacity := size / common_factor,
    processed_refill_time := complete_refill_time_ns / common_factor }

/-- `auto_replenish`, at the instant `now`; `none` is the panic of a division by a zero
`processed_refill_time`. -/
def auto_replenish (b : TokenBucket) (now : Nat) : Option TokenBucket := do
  let time_delta := UInt64.ofNat (now - b.last_update)
  let tokens ← Checked.div (time_delta * b.processed_capacity) b.processed_refill_time
  pure { b with last_update := now, budget := min (b.budget + tokens) b.size }

/-- What `reduce` does once the one-time burst is spent: take `tokens` from the budget, refilling
it first if it is short. -/
def reduce_budget (b : TokenBucket) (tokens : UInt64) (now : Nat) :
    Option (TokenBucket × BucketReduction) :=
  if tokens > b.budget then do
    let b ← b.auto_replenish now
    if tokens > b.size then
      some ({ b with budget := 0 }, .OverConsumption (tokens - b.budget) b.size)
    else if tokens > b.budget then some (b, .Failure)
    else some ({ b with budget := b.budget - tokens }, .Success)
  else some ({ b with budget := b.budget - tokens }, .Success)

/-- `reduce`, at the instant `now`. -/
def reduce (b : TokenBucket) (tokens : UInt64) (now : Nat) :
    Option (TokenBucket × BucketReduction) :=
  if b.one_time_burst > 0 then
    if b.one_time_burst ≥ tokens then
      some ({ b with one_time_burst := b.one_time_burst - tokens, last_update := now }, .Success)
    else reduce_budget { b with one_time_burst := 0 } (tokens - b.one_time_burst) now
  else reduce_budget b tokens now

/-- `force_replenish`. -/
def force_replenish (b : TokenBucket) (tokens : UInt64) : TokenBucket :=
  if b.one_time_burst > 0 then { b with one_time_burst := b.one_time_burst + tokens }
  else { b with budget := min (b.budget + tokens) b.size }

end TokenBucket

/-- `RateLimiter::make_bucket`, at the instant `now`. -/
def make_bucket (total_capacity one_time_burst complete_refill_time_ms : UInt64) (now : Nat) :
    Option TokenBucket :=
  if total_capacity ≠ 0 ∧ complete_refill_time_ms ≠ 0 then
    some (TokenBucket.new total_capacity one_time_burst complete_refill_time_ms now)
  else none

/-! ## `gcd` and the fraction of `new` -/

theorem toNat_gcd (x y : UInt64) : (gcd x y).toNat = Nat.gcd x.toNat y.toNat := by
  induction x, y using gcd.induct with
  | case1 x =>
    rw [gcd, if_pos rfl]
    simp
  | case2 x y hy ih =>
    rw [gcd, if_neg hy, ih, UInt64.toNat_mod, Nat.gcd_comm, ← Nat.gcd_rec, Nat.gcd_comm]

/-- Dividing the numerator and the denominator by their `gcd` keeps every quotient by the
fraction. -/
theorem mul_div_gcd_fraction (d s n : Nat) (hs : 0 < s) :
    d * (s / Nat.gcd s n) / (n / Nat.gcd s n) = d * s / n := by
  have hg : 0 < Nat.gcd s n := Nat.gcd_pos_of_pos_left n hs
  have hs' : s / Nat.gcd s n * Nat.gcd s n = s := Nat.div_mul_cancel (Nat.gcd_dvd_left s n)
  have hn' : n / Nat.gcd s n * Nat.gcd s n = n := Nat.div_mul_cancel (Nat.gcd_dvd_right s n)
  calc d * (s / Nat.gcd s n) / (n / Nat.gcd s n)
      = d * (s / Nat.gcd s n) * Nat.gcd s n / (n / Nat.gcd s n * Nat.gcd s n) :=
        (Nat.mul_div_mul_right _ _ hg).symm
    _ = d * s / n := by rw [Nat.mul_assoc, hs', hn']

namespace TokenBucket

/-- What no operation of a bucket changes: its size and the fraction of its refill rate. -/
def Params (b : TokenBucket) : UInt64 × UInt64 × UInt64 :=
  (b.size, b.processed_capacity, b.processed_refill_time)

section New

variable {size burst refill : UInt64} {now : Nat}

theorem toNat_new_processed_capacity :
    (new size burst refill now).processed_capacity.toNat =
      size.toNat / Nat.gcd size.toNat (refill * NANOSEC_IN_ONE_MILLISEC).toNat := by
  simp only [new, UInt64.toNat_div, toNat_gcd]

theorem toNat_new_processed_refill_time :
    (new size burst refill now).processed_refill_time.toNat =
      (refill * NANOSEC_IN_ONE_MILLISEC).toNat /
        Nat.gcd size.toNat (refill * NANOSEC_IN_ONE_MILLISEC).toNat := by
  simp only [new, UInt64.toNat_div, toNat_gcd]

/-- The refill time in nanoseconds, while it fits in a `u64`. -/
theorem toNat_refill_ns (h : refill.toNat * 1000000 < 2 ^ 64) :
    (refill * NANOSEC_IN_ONE_MILLISEC).toNat = refill.toNat * 1000000 := by
  rw [UInt64.toNat_mul]
  exact Nat.mod_eq_of_lt h

end New

/-! ## `auto_replenish` -/

section Replenish

variable {b b₂ : TokenBucket} {now : Nat}

/-- The tokens that `auto_replenish` adds at the instant `now`, before the cap at `size`. -/
def refill_tokens (b : TokenBucket) (now : Nat) : UInt64 :=
  UInt64.ofNat (now - b.last_update) * b.processed_capacity / b.processed_refill_time

theorem auto_replenish_eq (b : TokenBucket) (now : Nat) :
    b.auto_replenish now = if b.processed_refill_time = 0 then none else
      some { b with last_update := now, budget := min (b.budget + b.refill_tokens now) b.size } := by
  split_ifs with h
  · -- a zero divisor panics
    have hdiv : Checked.div (UInt64.ofNat (now - b.last_update) * b.processed_capacity)
        b.processed_refill_time = none := Checked.div_eq_none_iff.mpr h
    simp only [auto_replenish, hdiv, Option.bind_eq_bind, Option.bind_none]
  · have hdiv : Checked.div (UInt64.ofNat (now - b.last_update) * b.processed_capacity)
        b.processed_refill_time = some (b.refill_tokens now) :=
      Checked.div_eq_some_iff.mpr ⟨h, UInt64.toNat_div _ _⟩
    simp only [auto_replenish, hdiv, Option.bind_eq_bind, Option.bind_some, Option.pure_def]

theorem auto_replenish_eq_some :
    b.auto_replenish now = some b₂ ↔ b.processed_refill_time ≠ 0 ∧
      b₂ = { b with last_update := now, budget := min (b.budget + b.refill_tokens now) b.size } := by
  rw [auto_replenish_eq]
  split_ifs with h <;> simp [h, eq_comm]

/-- A refill keeps the burst and the parameters, and caps the budget at the size. -/
theorem auto_replenish_fields (h : b.auto_replenish now = some b₂) :
    b₂.one_time_burst = b.one_time_burst ∧ b₂.Params = b.Params ∧ b₂.budget ≤ b₂.size := by
  obtain ⟨-, rfl⟩ := auto_replenish_eq_some.mp h
  exact ⟨rfl, rfl, Std.min_le_right⟩

/-- The burst plays no part in a refill. -/
theorem auto_replenish_set_burst (x : UInt64) :
    ({ b with one_time_burst := x } : TokenBucket).auto_replenish now =
      (b.auto_replenish now).map fun c => { c with one_time_burst := x } := by
  rw [auto_replenish_eq, auto_replenish_eq]
  split_ifs <;> rfl

end Replenish

/-! ## `reduce` -/

section Reduce

variable {b c b' : TokenBucket} {t k : UInt64} {now : Nat} {r : BucketReduction}

/-- What `reduce_budget` can do: take the tokens from a budget that covers them, or refill first
and then report an overconsumption, fail, or take them. -/
theorem reduce_budget_eq_some (h : c.reduce_budget k now = some (b', r)) :
    (k ≤ c.budget ∧ r = .Success ∧ b' = { c with budget := c.budget - k }) ∨
    (c.budget < k ∧ ∃ c₂, c.auto_replenish now = some c₂ ∧
      ((c₂.size < k ∧ r = .OverConsumption (k - c₂.budget) c₂.size ∧ b' = { c₂ with budget := 0 }) ∨
        (k ≤ c₂.size ∧ c₂.budget < k ∧ r = .Failure ∧ b' = c₂) ∨
        (k ≤ c₂.size ∧ k ≤ c₂.budget ∧ r = .Success ∧ b' = { c₂ with budget := c₂.budget - k }))) := by
  unfold reduce_budget at h
  split_ifs at h with hk
  · -- the budget is short: refill first
    cases hc : c.auto_replenish now with
    | none =>
      rw [hc] at h
      cases h
    | some c₂ =>
      rw [hc] at h
      refine .inr ⟨hk, c₂, rfl, ?_⟩
      simp only [Option.bind_eq_bind, Option.bind_some] at h
      split_ifs at h with h₁ h₂
      · cases h
        exact .inl ⟨h₁, rfl, rfl⟩
      · cases h
        exact .inr (.inl ⟨UInt64.not_lt.mp h₁, h₂, rfl, rfl⟩)
      · cases h
        exact .inr (.inr ⟨UInt64.not_lt.mp h₁, UInt64.not_lt.mp h₂, rfl, rfl⟩)
  · cases h
    exact .inl ⟨UInt64.not_lt.mp hk, rfl, rfl⟩

/-- What `reduce` can do: take the tokens from the burst, or spend the burst and go on with the
rest from the budget, or go to the budget when there is no burst. -/
theorem reduce_eq_some (h : b.reduce t now = some (b', r)) :
    (0 < b.one_time_burst ∧ t ≤ b.one_time_burst ∧ r = .Success ∧
      b' = { b with one_time_burst := b.one_time_burst - t, last_update := now }) ∨
    (0 < b.one_time_burst ∧ b.one_time_burst < t ∧
      ({ b with one_time_burst := 0 } : TokenBucket).reduce_budget (t - b.one_time_burst) now =
        some (b', r)) ∨
    (b.one_time_burst = 0 ∧ b.reduce_budget t now = some (b', r)) := by
  unfold reduce at h
  split_ifs at h with h₀ h₁
  · cases h
    exact .inl ⟨h₀, h₁, rfl, rfl⟩
  · exact .inr (.inl ⟨h₀, UInt64.not_le.mp h₁, h⟩)
  · exact .inr (.inr ⟨UInt64.le_antisymm (UInt64.not_lt.mp h₀) UInt64.zero_le, h⟩)

/-- What each answer of `reduce_budget` did, from a budget within the size. -/
theorem reduce_budget_outcomes (h : c.reduce_budget k now = some (b', r)) :
    (r = .Success → ∃ budget₁ : UInt64,
      (budget₁ = c.budget ∨ ∃ c₂, c.auto_replenish now = some c₂ ∧ budget₁ = c₂.budget) ∧
      b'.one_time_burst = c.one_time_burst ∧ b'.budget.toNat + k.toNat = budget₁.toNat) ∧
    (r = .Failure → c.budget < k ∧ k ≤ c.size ∧ ∃ c₂, c.auto_replenish now = some c₂ ∧ b' = c₂) ∧
    (∀ x y, r = .OverConsumption x y →
      c.size < k ∧ b'.budget = 0 ∧ b'.one_time_burst = c.one_time_burst) := by
  rcases reduce_budget_eq_some h with ⟨hk, rfl, rfl⟩ | ⟨hk, c₂, hc₂, hcases⟩
  · -- the budget covers the tokens
    refine ⟨fun _ => ⟨c.budget, .inl rfl, rfl, ?_⟩, nofun, nofun⟩
    rw [UInt64.toNat_sub_of_le _ _ hk]
    have := UInt64.le_iff_toNat_le.mp hk
    omega
  · obtain ⟨hburst, hparams, -⟩ := auto_replenish_fields hc₂
    have hsize : c₂.size = c.size := congrArg Prod.fst hparams
    rcases hcases with ⟨hs, rfl, rfl⟩ | ⟨hs, -, rfl, hb'⟩ | ⟨-, hk₂, rfl, rfl⟩
    · -- more than the whole bucket
      refine ⟨nofun, nofun, fun x y _ => ⟨hsize ▸ hs, rfl, hburst⟩⟩
    · -- still short after the refill
      exact ⟨nofun, fun _ => ⟨hk, hsize ▸ hs, c₂, hc₂, hb'⟩, nofun⟩
    · -- covered after the refill
      refine ⟨fun _ => ⟨c₂.budget, .inr ⟨c₂, hc₂, rfl⟩, hburst, ?_⟩, nofun, nofun⟩
      rw [UInt64.toNat_sub_of_le _ _ hk₂]
      have := UInt64.le_iff_toNat_le.mp hk₂
      omega

/-- With a nonzero divisor in its refill fraction, `reduce` never panics. -/
theorem reduce_isSome (h : b.processed_refill_time ≠ 0) : (b.reduce t now).isSome := by
  have hbudget : ∀ c : TokenBucket, c.processed_refill_time ≠ 0 → ∀ k,
      (c.reduce_budget k now).isSome := by
    intro c hc k
    unfold reduce_budget
    split_ifs
    · rw [auto_replenish_eq, if_neg hc]
      simp only [Option.bind_eq_bind, Option.bind_some]
      split_ifs <;> rfl
    · rfl
  unfold reduce
  split_ifs
  · rfl
  · exact hbudget { b with one_time_burst := 0 } h _
  · exact hbudget b h _

end Reduce

/-! ## The invariant of a bucket -/

/-- The invariant of a bucket: the budget within the size, and the budget full while some burst
remains. -/
structure Inv (b : TokenBucket) : Prop where
  budget_le : b.budget ≤ b.size
  full_of_burst : 0 < b.one_time_burst → b.budget = b.size

section Inv

variable {b b' c : TokenBucket} {t k : UInt64} {now : Nat} {r : BucketReduction}

theorem inv_of_burst_zero (hle : b.budget ≤ b.size) (h0 : b.one_time_burst = 0) : b.Inv :=
  ⟨hle, fun h => absurd (h0 ▸ h) (UInt64.lt_irrefl 0)⟩

theorem inv_new {size burst refill : UInt64} : (new size burst refill now).Inv :=
  ⟨UInt64.le_refl _, fun _ => rfl⟩

/-- `reduce_budget` on a bucket without burst leaves one without burst, within its size. -/
theorem reduce_budget_inv (hc : c.budget ≤ c.size) (h0 : c.one_time_burst = 0)
    (h : c.reduce_budget k now = some (b', r)) : b'.budget ≤ b'.size ∧ b'.one_time_burst = 0 := by
  rcases reduce_budget_eq_some h with ⟨hk, -, rfl⟩ | ⟨-, c₂, hc₂, hcases⟩
  · exact ⟨UInt64.le_trans (UInt64.sub_le hk) hc, h0⟩
  · obtain ⟨hburst, -, hle⟩ := auto_replenish_fields hc₂
    rcases hcases with ⟨-, -, rfl⟩ | ⟨-, -, -, rfl⟩ | ⟨-, hk, -, rfl⟩
    · exact ⟨UInt64.zero_le, hburst.trans h0⟩
    · exact ⟨hle, hburst.trans h0⟩
    · exact ⟨UInt64.le_trans (UInt64.sub_le hk) hle, hburst.trans h0⟩

/-- One `reduce` keeps the invariant. -/
theorem reduce_inv (hinv : b.Inv) (h : b.reduce t now = some (b', r)) : b'.Inv := by
  rcases reduce_eq_some h with ⟨h0, -, -, rfl⟩ | ⟨-, -, h'⟩ | ⟨h0, h'⟩
  · -- taken from the burst: the budget stays full
    exact ⟨hinv.budget_le, fun _ => hinv.full_of_burst h0⟩
  · obtain ⟨hle, h0'⟩ := reduce_budget_inv (c := { b with one_time_burst := 0 }) hinv.budget_le rfl h'
    exact inv_of_burst_zero hle h0'
  · obtain ⟨hle, h0'⟩ := reduce_budget_inv hinv.budget_le h0 h'
    exact inv_of_burst_zero hle h0'

/-- One `force_replenish` keeps the invariant. -/
theorem force_replenish_inv (hinv : b.Inv) : (b.force_replenish t).Inv := by
  unfold force_replenish
  split_ifs with h0
  · exact ⟨hinv.budget_le, fun _ => hinv.full_of_burst h0⟩
  · exact inv_of_burst_zero Std.min_le_right (UInt64.le_antisymm (UInt64.not_lt.mp h0) UInt64.zero_le)

/-- What each answer of `reduce` did to a bucket that keeps the invariant: a success spent exactly
the tokens from the burst and the budget, refilled first or not; a failure left the refilled
bucket; an overconsumption asked for more than the burst and the whole size, and emptied both. -/
theorem reduce_outcomes (hinv : b.Inv) (h : b.reduce t now = some (b', r)) :
    (r = .Success → ∃ budget₁ : UInt64,
      (budget₁ = b.budget ∨ ∃ b₂, b.auto_replenish now = some b₂ ∧ budget₁ = b₂.budget) ∧
      b'.one_time_burst.toNat + b'.budget.toNat + t.toNat = b.one_time_burst.toNat + budget₁.toNat) ∧
    (r = .Failure → b'.one_time_burst = b.one_time_burst ∧ b.auto_replenish now = some b') ∧
    (∀ x y, r = .OverConsumption x y →
      b.one_time_burst < t ∧ b.size < t - b.one_time_burst ∧ b'.budget = 0 ∧
        b'.one_time_burst = 0) := by
  rcases reduce_eq_some h with ⟨-, ht, rfl, rfl⟩ | ⟨h0, ht, h'⟩ | ⟨h0, h'⟩
  · -- all from the burst
    refine ⟨fun _ => ⟨b.budget, .inl rfl, ?_⟩, nofun, nofun⟩
    show (b.one_time_burst - t).toNat + b.budget.toNat + t.toNat = _
    rw [UInt64.toNat_sub_of_le _ _ ht]
    have := UInt64.le_iff_toNat_le.mp ht
    omega
  · -- the burst spent, the rest from the budget
    obtain ⟨hS, hF, hO⟩ := reduce_budget_outcomes h'
    refine ⟨fun hr => ?_, fun hr => ?_, fun x y hr => ?_⟩
    · obtain ⟨budget₁, hsrc, hburst, hsum⟩ := hS hr
      refine ⟨budget₁, ?_, ?_⟩
      · rcases hsrc with h₁ | ⟨c₂, hc₂, h₁⟩
        · exact .inl h₁
        · rw [auto_replenish_set_burst] at hc₂
          obtain ⟨b₂, hb₂, rfl⟩ := Option.map_eq_some_iff.mp hc₂
          exact .inr ⟨b₂, hb₂, h₁⟩
      · have hk : (t - b.one_time_burst).toNat = t.toNat - b.one_time_burst.toNat :=
          UInt64.toNat_sub_of_le _ _ (UInt64.le_of_lt ht)
        have hlt := UInt64.lt_iff_toNat_lt.mp ht
        rw [hk] at hsum
        rw [show b'.one_time_burst = 0 from hburst, UInt64.toNat_zero]
        omega
    · -- a full budget covers whatever the size covers
      obtain ⟨hshort, hle, -⟩ := hF hr
      have hfull : b.budget = b.size := hinv.full_of_burst h0
      exact absurd (UInt64.lt_of_lt_of_le hshort hle) (hfull ▸ UInt64.lt_irrefl _)
    · obtain ⟨hs, hb0, hburst⟩ := hO x y hr
      exact ⟨ht, hs, hb0, hburst⟩
  · -- no burst: all from the budget
    obtain ⟨hS, hF, hO⟩ := reduce_budget_outcomes h'
    refine ⟨fun hr => ?_, fun hr => ?_, fun x y hr => ?_⟩
    · obtain ⟨budget₁, hsrc, hburst, hsum⟩ := hS hr
      refine ⟨budget₁, hsrc, ?_⟩
      rw [hburst, h0, UInt64.toNat_zero]
      omega
    · obtain ⟨-, -, c₂, hc₂, rfl⟩ := hF hr
      exact ⟨(auto_replenish_fields hc₂).1, hc₂⟩
    · obtain ⟨hs, hb0, hburst⟩ := hO x y hr
      rw [h0, UInt64.sub_zero]
      exact ⟨UInt64.lt_of_le_of_lt UInt64.zero_le hs, hs, hb0, hburst.trans h0⟩

theorem reduce_budget_params (h : c.reduce_budget k now = some (b', r)) : b'.Params = c.Params := by
  rcases reduce_budget_eq_some h with ⟨-, -, rfl⟩ | ⟨-, c₂, hc₂, hcases⟩
  · rfl
  · have hparams := (auto_replenish_fields hc₂).2.1
    rcases hcases with ⟨-, -, rfl⟩ | ⟨-, -, -, rfl⟩ | ⟨-, -, -, rfl⟩ <;> exact hparams

/-- No `reduce` changes the size or the refill fraction. -/
theorem reduce_params (h : b.reduce t now = some (b', r)) : b'.Params = b.Params := by
  rcases reduce_eq_some h with ⟨-, -, -, rfl⟩ | ⟨-, -, h'⟩ | ⟨-, h'⟩
  · rfl
  · exact (reduce_budget_params h').trans rfl
  · exact reduce_budget_params h'

theorem force_replenish_params : (b.force_replenish t).Params = b.Params := by
  unfold force_replenish
  split_ifs <;> rfl

end Inv

end TokenBucket

/-! ## Runs of a bucket -/

open TokenBucket

/-- What a `RateLimiter` does to one of its buckets: `consume` reduces it at an instant, and
`manual_replenish` forces a refill. -/
inductive Op
  | reduce (tokens : UInt64) (now : Nat)
  | force_replenish (tokens : UInt64)

/-- One operation on a bucket; `none` is a bucket whose thread has panicked. -/
def step : Option TokenBucket → Op → Option TokenBucket
  | none, _ => none
  | some b, .reduce t now => (b.reduce t now).map Prod.fst
  | some b, .force_replenish t => some (b.force_replenish t)

/-- The buckets `TokenBucket::new` builds. -/
def Made (s : Option TokenBucket) : Prop :=
  ∃ size burst refill now, s = some (new size burst refill now)

/-- What holds of every bucket after each step holds after every operation on a bucket that has it. -/
theorem step_preserves {P : TokenBucket → Prop}
    (hred : ∀ b t now b' r, P b → b.reduce t now = some (b', r) → P b')
    (hforce : ∀ b t, P b → P (b.force_replenish t)) (s : Option TokenBucket) (op : Op)
    (hs : ∀ b, s = some b → P b) : ∀ b', step s op = some b' → P b' := by
  intro b' hb'
  cases s with
  | none => cases op <;> cases hb'
  | some b =>
    cases op with
    | reduce t now =>
      obtain ⟨⟨b'', r⟩, hb'', rfl⟩ := Option.map_eq_some_iff.mp hb'
      exact hred b t now b'' r (hs b rfl) hb''
    | force_replenish t =>
      cases hb'
      exact hforce b t (hs b rfl)

/-- Every bucket that operations reach from `new` keeps the invariant. -/
theorem reachable_inv {s : Option TokenBucket} (h : Transition.Reachable Made step s) :
    ∀ b, s = some b → b.Inv := by
  refine h.invariant (fun s hs => ?_) (step_preserves ?_ ?_)
  · obtain ⟨size, burst, refill, now, rfl⟩ := hs
    rintro b ⟨⟩
    exact inv_new
  · exact fun b t now b' r hinv h => reduce_inv hinv h
  · exact fun b t hinv => force_replenish_inv hinv

/-- Operations keep the size and the refill fraction of a bucket. -/
theorem run_params {b b' : TokenBucket} {ops : List Op}
    (h : Transition.run step (some b) ops = some b') : b'.Params = b.Params := by
  have hrun : ∀ b₁, Transition.run step (some b) ops = some b₁ → b₁.Params = b.Params := by
    refine Transition.run_invariant (I := fun s => ∀ b₁, s = some b₁ → b₁.Params = b.Params)
      (fun op _ s hs => step_preserves (P := fun b₁ => b₁.Params = b.Params) ?_ ?_ s op hs) ?_
    · exact fun b₁ t now b₂ r hb₁ h => (reduce_params h).trans hb₁
    · exact fun b₁ t hb₁ => force_replenish_params.trans hb₁
    · rintro b₁ ⟨⟩
      rfl
  exact hrun b' h

theorem reachable_bucket_outcomes {b : TokenBucket} (hb : Transition.Reachable Made step (some b)) :
    b.budget ≤ b.size ∧ (0 < b.one_time_burst → b.budget = b.size) ∧
    ∀ t now b' r, b.reduce t now = some (b', r) →
      (r = .Success → ∃ budget₁ : UInt64,
        (budget₁ = b.budget ∨ ∃ b₂, b.auto_replenish now = some b₂ ∧ budget₁ = b₂.budget) ∧
        b'.one_time_burst.toNat + b'.budget.toNat + t.toNat =
          b.one_time_burst.toNat + budget₁.toNat) ∧
      (r = .Failure → b'.one_time_burst = b.one_time_burst ∧ b.auto_replenish now = some b') ∧
      (∀ x y, r = .OverConsumption x y →
        b.one_time_burst < t ∧ b.size < t - b.one_time_burst ∧ b'.budget = 0 ∧
          b'.one_time_burst = 0) := by
  have hinv : b.Inv := reachable_inv hb b rfl
  exact ⟨hinv.budget_le, hinv.full_of_burst, fun t now b' r h => reduce_outcomes hinv h⟩

theorem reachable_bucket_outcomes_after_burst :
    Transition.Reachable Made step
        (some { new 1000 100 1000 0 with one_time_burst := 0, budget := 950 }) ∧
      (950 : UInt64) ≤ 1000 := by
  have h₀ : Transition.Reachable Made step (some (new 1000 100 1000 0)) :=
    .init ⟨1000, 100, 1000, 0, rfl⟩
  have h : Transition.Reachable Made step
      (some { new 1000 100 1000 0 with one_time_burst := 0, budget := 950 }) :=
    h₀.step (Op.reduce 150 5)
  exact ⟨h, (reachable_bucket_outcomes h).1⟩

/-! ## The refill in numbers -/

section Refill

variable {size burst refill : UInt64} {t₀ now : Nat} {b : TokenBucket}

/-- The refill as the wrapping arithmetic computes it: the elapsed time cast to `u64`, its product
with `processed_capacity` taken modulo `2 ^ 64`. -/
theorem toNat_refill_tokens (b : TokenBucket) (now : Nat) :
    (b.refill_tokens now).toNat =
      (now - b.last_update) % 2 ^ 64 * b.processed_capacity.toNat % 2 ^ 64 /
        b.processed_refill_time.toNat := by
  rw [refill_tokens, UInt64.toNat_div, UInt64.toNat_mul, UInt64.toNat_ofNat']

/-- The budget after a refill, with the sum taken modulo `2 ^ 64` before the cap. -/
theorem auto_replenish_budget (h : b.processed_refill_time ≠ 0) :
    ∃ b₂, b.auto_replenish now = some b₂ ∧
      b₂.budget.toNat = min ((b.budget.toNat + (b.refill_tokens now).toNat) % 2 ^ 64) b.size.toNat :=
  ⟨_, auto_replenish_eq_some.mpr ⟨h, rfl⟩, by rw [UInt64.toNat_min, UInt64.toNat_add]⟩

/-- A refill time that is `0` in nanoseconds, `0` itself or one whose product with a million
wraps to `0`, leaves a zero divisor. -/
theorem new_processed_refill_time_eq_zero (h : refill * NANOSEC_IN_ONE_MILLISEC = 0) :
    (new size burst refill t₀).processed_refill_time = 0 := by
  simp only [new, h, UInt64.zero_div]

theorem new_processed_capacity_pos (hsize : size ≠ 0) :
    0 < (new size burst refill t₀).processed_capacity.toNat := by
  have hs : 0 < size.toNat := Nat.pos_of_ne_zero fun h => hsize (UInt64.toNat_inj.mp h)
  rw [toNat_new_processed_capacity]
  exact Nat.div_pos (Nat.gcd_le_left _ hs) (Nat.gcd_pos_of_pos_left _ hs)

/-- While neither the refill time in nanoseconds nor the product of the elapsed time with
`processed_capacity` overflows, the refill is the exact fraction of the elapsed time. -/
theorem refill_tokens_exact (hp : b.Params = (new size burst refill t₀).Params) (hsize : size ≠ 0)
    (hns : refill.toNat * 1000000 < 2 ^ 64)
    (hmul : (now - b.last_update) * b.processed_capacity.toNat < 2 ^ 64) :
    (b.refill_tokens now).toNat = (now - b.last_update) * size.toNat / (refill.toNat * 1000000) := by
  have hs : 0 < size.toNat := Nat.pos_of_ne_zero fun h => hsize (UInt64.toNat_inj.mp h)
  have hpc : b.processed_capacity = (new size burst refill t₀).processed_capacity :=
    congrArg (fun p => p.2.1) hp
  have hprt : b.processed_refill_time = (new size burst refill t₀).processed_refill_time :=
    congrArg (fun p => p.2.2) hp
  -- the elapsed time fits, since `processed_capacity` is at least one
  have hd : now - b.last_update < 2 ^ 64 :=
    Nat.lt_of_le_of_lt (Nat.le_mul_of_pos_right _ (hpc ▸ new_processed_capacity_pos hsize)) hmul
  rw [toNat_refill_tokens, Nat.mod_eq_of_lt hd, Nat.mod_eq_of_lt hmul, hpc, hprt,
    toNat_new_processed_capacity, toNat_new_processed_refill_time, toNat_refill_ns hns]
  exact mul_div_gcd_fraction _ _ _ hs

theorem auto_replenish_wraps (hsize : size ≠ 0) (hrefill : refill ≠ 0)
    (hp : b.Params = (new size burst refill t₀).Params) :
    (refill * NANOSEC_IN_ONE_MILLISEC = 0 → b.auto_replenish now = none) ∧
    (refill * NANOSEC_IN_ONE_MILLISEC ≠ 0 → ∃ b₂, b.auto_replenish now = some b₂ ∧
      b₂.budget.toNat = min ((b.budget.toNat +
        (now - b.last_update) % 2 ^ 64 * b.processed_capacity.toNat % 2 ^ 64 /
          b.processed_refill_time.toNat) % 2 ^ 64) size.toNat) ∧
    (refill.toNat * 1000000 < 2 ^ 64 → (now - b.last_update) * b.processed_capacity.toNat < 2 ^ 64 →
      b.budget.toNat + (now - b.last_update) * size.toNat / (refill.toNat * 1000000) < 2 ^ 64 →
      ∃ b₂, b.auto_replenish now = some b₂ ∧ b₂.budget.toNat =
        min (b.budget.toNat + (now - b.last_update) * size.toNat / (refill.toNat * 1000000))
          size.toNat) := by
  have hsz : b.size = size := congrArg Prod.fst hp
  have hprt : b.processed_refill_time = (new size burst refill t₀).processed_refill_time :=
    congrArg (fun p => p.2.2) hp
  -- a nonzero refill time in nanoseconds leaves a nonzero divisor
  have hprt_ne (hns : refill * NANOSEC_IN_ONE_MILLISEC ≠ 0) : b.processed_refill_time ≠ 0 := by
    intro h0
    have hg : (new size burst refill t₀).processed_refill_time.toNat = 0 := by rw [← hprt, h0]; rfl
    rw [toNat_new_processed_refill_time] at hg
    have hpos : 0 < (refill * NANOSEC_IN_ONE_MILLISEC).toNat :=
      Nat.pos_of_ne_zero fun h => hns (UInt64.toNat_inj.mp h)
    exact absurd hg (Nat.pos_iff_ne_zero.mp
      (Nat.div_pos (Nat.gcd_le_right _ hpos) (Nat.gcd_pos_of_pos_right _ hpos)))
  refine ⟨fun h0 => ?_, fun hns => ?_, fun hns hmul hsum => ?_⟩
  · rw [auto_replenish_eq, if_pos (hprt.trans (new_processed_refill_time_eq_zero h0))]
  · obtain ⟨b₂, hb₂, hbudget⟩ := @auto_replenish_budget now b (hprt_ne hns)
    exact ⟨b₂, hb₂, by rw [hbudget, toNat_refill_tokens, hsz]⟩
  · have hns' : refill * NANOSEC_IN_ONE_MILLISEC ≠ 0 := by
      intro h0
      have h1 : (refill * NANOSEC_IN_ONE_MILLISEC).toNat = refill.toNat * 1000000 := toNat_refill_ns hns
      have hr : 0 < refill.toNat := Nat.pos_of_ne_zero fun h => hrefill (UInt64.toNat_inj.mp h)
      rw [h0] at h1
      simp at h1
      omega
    obtain ⟨b₂, hb₂, hbudget⟩ := @auto_replenish_budget now b (hprt_ne hns')
    refine ⟨b₂, hb₂, ?_⟩
    rw [hbudget, refill_tokens_exact hp hsize hns hmul, Nat.mod_eq_of_lt hsum, hsz]

/-- A bucket of `1000001` tokens a second, emptied at once, gets no token back after
`18446725626984` ns (about five hours) idle, where the exact refill fills it; and a refill time of
`2 ^ 58` ms panics at the first refill. -/
theorem auto_replenish_wraps_after_five_hours :
    (new 1000001 0 1000 0).reduce 1000001 0 =
        some ({ new 1000001 0 1000 0 with budget := 0 }, .Success) ∧
      (∃ b₂, ({ new 1000001 0 1000 0 with budget := 0 } : TokenBucket).auto_replenish
          18446725626984 = some b₂ ∧
        b₂.budget = 0 ∧ 1000001 ≤ 18446725626984 * 1000001 / (1000 * 1000000)) ∧
      (new 1 0 288230376151711744 0).auto_replenish 5 = none := by
  have hpc : (new 1000001 0 1000 0).processed_capacity.toNat = 1000001 := by
    rw [toNat_new_processed_capacity]
    decide
  have hprt : (new 1000001 0 1000 0).processed_refill_time.toNat = 1000000000 := by
    rw [toNat_new_processed_refill_time]
    decide
  obtain ⟨b₂, hb₂, hbudget⟩ := (@auto_replenish_wraps 1000001 0 1000 0 18446725626984
    { new 1000001 0 1000 0 with budget := 0 } (by decide) (by decide) rfl).2.1 (by decide)
  refine ⟨rfl, ⟨b₂, hb₂, UInt64.toNat_inj.mp ?_, by decide⟩,
    (@auto_replenish_wraps 1 0 288230376151711744 0 5 (new 1 0 288230376151711744 0)
      (by decide) (by decide) rfl).1 (by decide)⟩
  rw [hbudget]
  simp only [hpc, hprt]
  decide

end Refill

/-! ## The limiter -/

/-- `TokenType`. -/
inductive TokenType
  | Bytes
  | Ops
  deriving DecidableEq, Repr

/-- `rate_limiter::Error`. -/
inductive Error
  | SpuriousRateLimiterEvent (msg : String)
  deriving DecidableEq, Repr

end KataContainers.Dragonball.RateLimiter

namespace KataContainers.Dragonball

open RateLimiter TokenBucket

/-- `RateLimiter`: a bucket for each token type, `None` where that limit is off, and whether the
refill timer is armed. When the armed `timer_fd` fires is up to the environment of the device
that owns the limiter. -/
structure RateLimiter where
  bandwidth : Option TokenBucket
  ops : Option TokenBucket
  timer_active : Bool
  deriving DecidableEq, Repr

namespace RateLimiter

/-- `RateLimiter::new`, at the instant `now`; creating the `timer_fd` is taken to succeed. -/
def new (bytes_total_capacity bytes_one_time_burst bytes_complete_refill_time_ms
    ops_total_capacity ops_one_time_burst ops_complete_refill_time_ms : UInt64) (now : Nat) :
    RateLimiter :=
  { bandwidth :=
      make_bucket bytes_total_capacity bytes_one_time_burst bytes_complete_refill_time_ms now
    ops := make_bucket ops_total_capacity ops_one_time_burst ops_complete_refill_time_ms now
    timer_active := false }

/-- `RateLimiter::default()`, a limiter with no bucket. -/
def default : RateLimiter := new 0 0 0 0 0 0 0

/-- The bucket of a token type: `bandwidth` for bytes, `ops` for operations. -/
def bucket (r : RateLimiter) : TokenType → Option TokenBucket
  | .Bytes => r.bandwidth
  | .Ops => r.ops

def set_bucket (r : RateLimiter) (token_type : TokenType) (b : TokenBucket) : RateLimiter :=
  match token_type with
  | .Bytes => { r with bandwidth := some b }
  | .Ops => { r with ops := some b }

/-- `activate_timer`: the timer is armed; its state only says when it fires. -/
def activate_timer (r : RateLimiter) : RateLimiter := { r with timer_active := true }

/-- `consume(tokens, token_type)` at the instant `now`; `none` is the panic of the bucket's
`reduce`. An overconsumption succeeds and arms the timer. -/
def consume (r : RateLimiter) (tokens : UInt64) (token_type : TokenType) (now : Nat) :
    Option (RateLimiter × Bool) :=
  -- If the timer is active, we can't consume tokens from any bucket and the function fails.
  if r.timer_active then some (r, false)
  else
    match r.bucket token_type with
    -- If bucket is not present rate limiting is disabled on token type
    | none => some (r, true)
    | some bucket => (bucket.reduce tokens now).map fun (bucket, reduction) =>
      let r := r.set_bucket token_type bucket
      match reduction with
      | .Failure => (if !r.timer_active then r.activate_timer else r, false)
      | .Success => (r, true)
      | .OverConsumption _ _ => (r.activate_timer, true)

def manual_replenish (r : RateLimiter) (tokens : UInt64) (token_type : TokenType) : RateLimiter :=
  match r.bucket token_type with
  | none => r
  | some bucket => r.set_bucket token_type (bucket.force_replenish tokens)

def is_blocked (r : RateLimiter) : Bool := r.timer_active

/-- `event_handler`, where `expirations` is what `timer_fd.read()` returns. -/
def event_handler (r : RateLimiter) (expirations : Nat) : Except Error RateLimiter :=
  match expirations with
  | 0 => .error (.SpuriousRateLimiterEvent
      "Rate limiter event handler called without a present timer")
  | _ => .ok { r with timer_active := false }

theorem default_eq : default = ⟨none, none, false⟩ := rfl

/-- The default limiter takes every consumption and changes with none. -/
theorem consume_default (tokens : UInt64) (token_type : TokenType) (now : Nat) :
    default.consume tokens token_type now = some (default, true) := by
  cases token_type <;> rfl

theorem manual_replenish_default (tokens : UInt64) (token_type : TokenType) :
    default.manual_replenish tokens token_type = default := by
  cases token_type <;> rfl

/-- Each bucket has a nonzero divisor in its refill fraction, so no `reduce` panics. -/
def Refills (r : RateLimiter) : Prop :=
  ∀ token_type b, r.bucket token_type = some b → b.processed_refill_time ≠ 0

theorem bucket_set_bucket (r : RateLimiter) (t u : TokenType) (b : TokenBucket) :
    (r.set_bucket t b).bucket u = if t = u then some b else r.bucket u := by
  cases t <;> cases u <;> rfl

/-- A bucket put in with the fraction of the one it replaces keeps the limiter refilling. -/
theorem Refills.set_bucket {r : RateLimiter} (h : r.Refills) {t : TokenType} {b b' : TokenBucket}
    (hb : r.bucket t = some b) (hp : b'.Params = b.Params) : (r.set_bucket t b').Refills := by
  intro u c hc
  rw [bucket_set_bucket] at hc
  split_ifs at hc with htu
  · cases hc
    subst htu
    rw [show b'.processed_refill_time = b.processed_refill_time from congrArg (·.2.2) hp]
    exact h t b hb
  · exact h u c hc

theorem Refills.timer {r : RateLimiter} (h : r.Refills) (active : Bool) :
    ({ r with timer_active := active } : RateLimiter).Refills := h

/-- A limiter whose buckets refill does not panic in `consume`, and still refills after it. -/
theorem Refills.consume {r : RateLimiter} (h : r.Refills) (tokens : UInt64)
    (token_type : TokenType) (now : Nat) :
    ∃ r' ok, r.consume tokens token_type now = some (r', ok) ∧ r'.Refills := by
  unfold RateLimiter.consume
  split_ifs
  · exact ⟨r, false, rfl, h⟩
  cases hb : r.bucket token_type with
  | none => exact ⟨r, true, rfl, h⟩
  | some b =>
    have hsome : (b.reduce tokens now).isSome := reduce_isSome (h token_type b hb)
    obtain ⟨⟨b', red⟩, hred⟩ := Option.isSome_iff_exists.mp hsome
    have hset := h.set_bucket hb (reduce_params hred)
    simp only [hred, Option.map_some]
    cases red with
    | Failure => exact ⟨_, false, rfl, by split <;> exact hset.timer _⟩
    | Success => exact ⟨_, true, rfl, hset⟩
    | OverConsumption x y => exact ⟨_, true, rfl, hset.timer true⟩

theorem Refills.manual_replenish {r : RateLimiter} (h : r.Refills) (tokens : UInt64)
    (token_type : TokenType) : (r.manual_replenish tokens token_type).Refills := by
  unfold RateLimiter.manual_replenish
  cases hb : r.bucket token_type with
  | none => exact h
  | some b => exact h.set_bucket hb force_replenish_params

theorem Refills.event_handler {r r' : RateLimiter} (h : r.Refills) {expirations : Nat}
    (he : r.event_handler expirations = .ok r') : r'.Refills := by
  unfold RateLimiter.event_handler at he
  split at he
  · cases he
  · cases he
    exact h.timer false

end RateLimiter

end KataContainers.Dragonball
