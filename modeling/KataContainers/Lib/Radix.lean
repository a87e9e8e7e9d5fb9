import KataContainers.Lib.Except

/-!
# Numerals in a radix

The digits of a numeral and how a reader accumulates them, as the integer parsers of the standard
libraries do: a digit character has a value in bases up to 36 (`0`-`9`, then the letters of either
case), and the reader multiplies and adds digit by digit, failing on a digit outside the radix or
on a value above a bound (`accumulate`). The writer side is the lowercase hex of `printf`'s `%0wx`
and `format!`'s `{:0w$x}`: the digits of the value, padded with zeros to a width (`fmtHex`); in
base 256 it is the little-endian bytes of a fixed-width field (`leBytes`).

`accumulate_hexDigits` is the round trip: reading back `k` written digits gives the value they
were written from, when every value met on the way stays within the bound.

`fromStrUnsigned` is Rust's `FromStr` for an unsigned integer type, with the kinds of
`ParseIntError` it ends in; on decimal digits it gives their value (`fromStrUnsigned_digits`).
-/

namespace Radix

/-- Why a numeral is rejected: a character that is no digit of the radix, or a value above the
bound. -/
inductive RadixError
  | invalidDigit
  | overflow
  deriving DecidableEq, Repr

/-- The value of a digit character in bases up to 36. -/
def digitValue (c : Char) : Option Nat :=
  if c.isDigit then some (c.toNat - 48)
  else if c.isLower then some (c.toNat - 87)
  else if c.isUpper then some (c.toNat - 55)
  else none

/-- The value of `c` as a digit of `radix`. -/
def digitIn (radix : Nat) (c : Char) : Option Nat :=
  (digitValue c).filter (· < radix)

/-- Reading the digits `cs` after the value `acc`: each digit multiplies by the radix and adds;
a character outside the radix stops with `invalidDigit`, a value above `max` with `overflow`. -/
def accumulate (radix max : Nat) : Nat → List Char → Except RadixError Nat
  | acc, [] => .ok acc
  | acc, c :: cs =>
    match digitIn radix c with
    | none => .error .invalidDigit
    | some d =>
      if acc * radix + d ≤ max then accumulate radix max (acc * radix + d) cs
      else .error .overflow

/-- The lowercase hex digit of `d < 16`. -/
def hexChar (d : Nat) : Char :=
  if d < 10 then Char.ofNat (48 + d) else Char.ofNat (87 + d)

/-- The low `k` hex digits of `n`, most significant first. -/
def hexDigits : Nat → Nat → List Char
  | 0, _ => []
  | k + 1, n => hexDigits k (n / 16) ++ [hexChar (n % 16)]

/-- How many hex digits `n` is written with, at least one; `fuel` bounds the divisions. -/
def hexWidthAux : Nat → Nat → Nat
  | 0, _ => 1
  | fuel + 1, n => if n < 16 then 1 else hexWidthAux fuel (n / 16) + 1

/-- How many hex digits `n` is written with, at least one. -/
def hexWidth (n : Nat) : Nat := hexWidthAux n n

/-- `%0wx` and `{:0w$x}`: `n` in lowercase hex, padded with zeros to at least `w` digits. -/
def fmtHex (w n : Nat) : List Char := hexDigits (max w (hexWidth n)) n

/-- The `w` bytes of `n` in little-endian order, as `zerocopy`'s `U16<LE>`, `U32<LE>` and `U64<LE>` store
them. -/
def leBytes (w n : Nat) : List UInt8 := (List.range w).map fun i => UInt8.ofNat (n / 256 ^ i)

@[simp] theorem length_leBytes (w n : Nat) : (leBytes w n).length = w := by simp [leBytes]

/-! ## Digits -/

theorem digitIn_hexChar : ∀ d < 16, digitIn 16 (hexChar d) = some d := by decide

/-- Hex digits are letters or digits: no separator or sign of the formats that print them. -/
theorem isAlphanum_hexChar : ∀ d < 16, (hexChar d).isAlphanum = true := by decide

@[simp] theorem length_hexDigits (k n : Nat) : (hexDigits k n).length = k := by
  induction k generalizing n with
  | zero => rfl
  | succ k ih => simp [hexDigits, ih]

theorem mem_hexDigits {k n : Nat} {c : Char} (h : c ∈ hexDigits k n) : ∃ d < 16, c = hexChar d := by
  induction k generalizing n with
  | zero => cases h
  | succ k ih =>
    rcases List.mem_append.mp h with h | h
    · exact ih h
    · exact ⟨n % 16, Nat.mod_lt _ (by decide), List.mem_singleton.mp h⟩

theorem mem_fmtHex {w n : Nat} {c : Char} (h : c ∈ fmtHex w n) : ∃ d < 16, c = hexChar d :=
  mem_hexDigits h

theorem not_mem_hexDigits {k n : Nat} {c : Char} (hc : c.isAlphanum = false) : c ∉ hexDigits k n := by
  intro h
  obtain ⟨d, hd, rfl⟩ := mem_hexDigits h
  rw [isAlphanum_hexChar d hd] at hc
  cases hc

theorem not_mem_fmtHex {w n : Nat} {c : Char} (hc : c.isAlphanum = false) : c ∉ fmtHex w n :=
  not_mem_hexDigits hc

/-- At least one digit is written, and the first is a letter or a digit. -/
theorem hexDigits_eq_cons {k n : Nat} (hk : 0 < k) :
    ∃ c rest, hexDigits k n = c :: rest ∧ c.isAlphanum = true := by
  cases hd : hexDigits k n with
  | nil =>
    have := congrArg List.length hd
    simp at this
    omega
  | cons c rest =>
    obtain ⟨d, hd', rfl⟩ := mem_hexDigits (hd ▸ List.mem_cons_self : c ∈ hexDigits k n)
    exact ⟨_, rest, rfl, isAlphanum_hexChar d hd'⟩

/-- A value below `16 ^ w` is written with at most `w` digits. -/
theorem hexWidthAux_le {fuel n w : Nat} (hw : 0 < w) (hn : n < 16 ^ w) :
    hexWidthAux fuel n ≤ w := by
  induction fuel generalizing n w with
  | zero => exact hw
  | succ fuel ih =>
    unfold hexWidthAux
    split
    · exact hw
    · -- `n ≥ 16`, so `w ≥ 2` and `n / 16 < 16 ^ (w - 1)`
      obtain ⟨v, rfl⟩ : ∃ v, w = v + 1 := ⟨w - 1, by omega⟩
      have hv : 0 < v := by
        rcases Nat.eq_zero_or_pos v with rfl | hv
        · simp at hn; omega
        · exact hv
      have hdiv : n / 16 < 16 ^ v := by
        rw [Nat.div_lt_iff_lt_mul (by decide), ← Nat.pow_succ]
        exact hn
      have := ih hv hdiv
      omega

theorem fmtHex_of_lt {w n : Nat} (hw : 0 < w) (hn : n < 16 ^ w) : fmtHex w n = hexDigits w n := by
  unfold fmtHex hexWidth
  rw [Nat.max_eq_left (hexWidthAux_le hw hn)]

/-! ## Reading -/

theorem accumulate_append (radix max acc : Nat) (l₁ l₂ : List Char) :
    accumulate radix max acc (l₁ ++ l₂) =
      (accumulate radix max acc l₁ >>= fun a => accumulate radix max a l₂) := by
  induction l₁ generalizing acc with
  | nil => rfl
  | cons c cs ih =>
    simp only [List.cons_append, accumulate]
    split
    · rfl
    · split
      · exact ih _
      · rfl

/-- A value read within the bound is within it. -/
theorem accumulate_le {radix max : Nat} :
    ∀ {acc n : Nat} {l : List Char}, acc ≤ max → accumulate radix max acc l = .ok n → n ≤ max
  | _, _, [], hacc, h => by cases h; exact hacc
  | acc, n, c :: cs, _, h => by
    simp only [accumulate] at h
    split at h
    · cases h
    · split at h
      · exact accumulate_le (by assumption) h
      · cases h

/-- Reading back `k` written hex digits after `acc` gives `acc` shifted by `k` digits plus the
low `k` digits of `n`, when that stays within the bound. -/
theorem accumulate_hexDigits {max : Nat} (k : Nat) :
    ∀ {acc n : Nat}, acc * 16 ^ k + n % 16 ^ k ≤ max →
      accumulate 16 max acc (hexDigits k n) = .ok (acc * 16 ^ k + n % 16 ^ k) := by
  induction k with
  | zero => intro acc n _; simp [hexDigits, accumulate, Nat.mod_one]
  | succ k ih =>
    intro acc n hmax
    -- the low digit is `n % 16`, the rest are the digits of `n / 16`
    have hsplit : n % 16 ^ (k + 1) = n % 16 + 16 * (n / 16 % 16 ^ k) := by
      rw [Nat.pow_succ, Nat.mul_comm, Nat.mod_mul]
    have hval : (acc * 16 ^ k + n / 16 % 16 ^ k) * 16 + n % 16 =
        acc * 16 ^ (k + 1) + n % 16 ^ (k + 1) := by
      rw [hsplit, Nat.pow_succ]
      ring
    have hpre : acc * 16 ^ k + n / 16 % 16 ^ k ≤ max := by
      have : acc * 16 ^ k + n / 16 % 16 ^ k ≤ (acc * 16 ^ k + n / 16 % 16 ^ k) * 16 + n % 16 := by
        omega
      omega
    have hd : n % 16 < 16 := Nat.mod_lt _ (by decide)
    rw [hexDigits, accumulate_append, ih hpre]
    simp only [Except.ok_bind_eq, accumulate, digitIn_hexChar _ hd]
    rw [if_pos (hval ▸ hmax), hval]

/-- Reading back a value written with `k` digits gives the value, when it fits them. -/
theorem accumulate_hexDigits_of_lt {max k n : Nat} (hn : n < 16 ^ k) (hmax : n ≤ max) :
    accumulate 16 max 0 (hexDigits k n) = .ok n := by
  have hmod : n % 16 ^ k = n := Nat.mod_eq_of_lt hn
  rw [accumulate_hexDigits k (by rw [hmod]; simpa using hmax)]
  simp [hmod]

/-! ## Decimal numerals -/

/-- The value of decimal digits, most significant first. -/
def decimalValue (ds : List Char) : Nat := ds.foldl (fun acc c => acc * 10 + (c.toNat - 48)) 0

theorem digitIn_ten {c : Char} (h : c.isDigit) : digitIn 10 c = some (c.toNat - 48) := by
  have hc : 48 ≤ c.toNat ∧ c.toNat ≤ 57 := by
    simp only [Char.isDigit, Bool.and_eq_true, decide_eq_true_eq] at h
    exact h
  simp only [digitIn, digitValue, h, if_true, Option.filter_some]
  rw [if_pos (by simp only [decide_eq_true_eq]; omega)]

/-- Decimal digits only make the value grow. -/
theorem le_foldl_decimal :
    ∀ (acc : Nat) (ds : List Char), acc ≤ ds.foldl (fun acc c => acc * 10 + (c.toNat - 48)) acc
  | _, [] => Nat.le_refl _
  | acc, c :: cs => Nat.le_trans (by omega) (le_foldl_decimal (acc * 10 + (c.toNat - 48)) cs)

/-- Reading decimal digits after `acc` gives the value they extend `acc` to, when it is within the
bound: the values met on the way only grow. -/
theorem accumulate_decimal {max : Nat} :
    ∀ {acc : Nat} {ds : List Char}, (∀ c ∈ ds, c.isDigit) →
      ds.foldl (fun acc c => acc * 10 + (c.toNat - 48)) acc ≤ max →
      accumulate 10 max acc ds = .ok (ds.foldl (fun acc c => acc * 10 + (c.toNat - 48)) acc)
  | _, [], _, _ => rfl
  | acc, c :: cs, hd, hmax => by
    have hstep := le_foldl_decimal (acc * 10 + (c.toNat - 48)) cs
    simp only [accumulate, digitIn_ten (hd c List.mem_cons_self)]
    rw [if_pos (Nat.le_trans hstep hmax)]
    exact accumulate_decimal (fun c' hc' => hd c' (List.mem_cons_of_mem c hc')) hmax

/-- The kinds of `ParseIntError` an unsigned parse ends in. -/
inductive IntErrorKind
  | Empty
  | InvalidDigit
  | PosOverflow
  deriving DecidableEq, Repr

/-- What `ParseIntError`'s `Display` prints for each kind. -/
def IntErrorKind.description : IntErrorKind → String
  | .Empty => "cannot parse integer from empty string"
  | .InvalidDigit => "invalid digit found in string"
  | .PosOverflow => "number too large to fit in target type"

/-- `<uN as FromStr>::from_str` for `N = bits`: an optional `+`, then decimal digits, of a value
below `2 ^ bits`. A lone sign is an invalid digit. -/
def fromStrUnsigned (bits : Nat) (src : List Char) : Except IntErrorKind Nat :=
  match src with
  | [] => .error .Empty
  | ['+'] | ['-'] => .error .InvalidDigit
  | '+' :: digits => read digits
  | digits => read digits
where
  read (digits : List Char) : Except IntErrorKind Nat :=
    (accumulate 10 (2 ^ bits - 1) 0 digits).mapError fun
      | .invalidDigit => .InvalidDigit
      | .overflow => .PosOverflow

/-- Decimal digits parse to their value when it fits. -/
theorem fromStrUnsigned_digits {bits : Nat} {ds : List Char} (hd : ∀ c ∈ ds, c.isDigit)
    (hne : ds ≠ []) (hv : decimalValue ds < 2 ^ bits) :
    fromStrUnsigned bits ds = .ok (decimalValue ds) := by
  have hread : fromStrUnsigned.read bits ds = .ok (decimalValue ds) := by
    unfold fromStrUnsigned.read
    rw [accumulate_decimal hd (by unfold decimalValue at hv; omega)]
    rfl
  obtain ⟨c, cs, rfl⟩ := List.exists_cons_of_ne_nil hne
  -- a digit is no sign
  have hc := hd c List.mem_cons_self
  have hplus : c ≠ '+' := by
    rintro rfl
    exact absurd hc (by decide)
  have hminus : c ≠ '-' := by
    rintro rfl
    exact absurd hc (by decide)
  unfold fromStrUnsigned
  split
  · contradiction
  · simp_all
  · simp_all
  · simp_all
  · exact hread

end Radix
