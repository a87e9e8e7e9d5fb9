import Mathlib

/-!
# Plain data and its bytes

A `ByteValued` type, as in `vm-memory`, is one whose values are plain data: each is the `size`
bytes `as_slice` gives, in memory order, and the class carries that every value has exactly that
many. Numbers are stored little endian (`le16`, `le32`).

Checksums over such bytes add them in `u8`, wrapping: `wsum`. A sum over a concatenation is the
sum of the sums (`wsum_append`), and the two's complement of a sum, `(!s).wrapping_add(1)`, is the
byte that brings it to zero (`add_not_add_one`).
-/

/-- A type of plain data: each value is `size` bytes, `as_slice` of it. -/
class ByteValued (α : Type) where
  size : Nat
  as_slice : α → List UInt8
  length_as_slice : ∀ v, (as_slice v).length = size

namespace Bytes

/-- A `u16` in memory, little endian. -/
def le16 (v : UInt16) : List UInt8 := [v.toUInt8, (v >>> 8).toUInt8]

/-- A `u32` in memory, little endian. -/
def le32 (v : UInt32) : List UInt8 :=
  [v.toUInt8, (v >>> 8).toUInt8, (v >>> 16).toUInt8, (v >>> 24).toUInt8]

@[simp] theorem length_le16 (v : UInt16) : (le16 v).length = 2 := rfl

@[simp] theorem length_le32 (v : UInt32) : (le32 v).length = 4 := rfl

/-- The bytes added up in `u8`, wrapping. -/
def wsum (bs : List UInt8) : UInt8 := bs.foldl (· + ·) 0

theorem foldl_add (s : UInt8) (bs : List UInt8) : bs.foldl (· + ·) s = s + wsum bs := by
  induction bs generalizing s with
  | nil => exact (UInt8.add_zero s).symm
  | cons b bs ih =>
    have h : wsum (b :: bs) = b + wsum bs := by
      show List.foldl (· + ·) (0 + b) bs = b + wsum bs
      rw [ih, UInt8.zero_add]
    rw [List.foldl_cons, ih, h, UInt8.add_assoc]

@[simp] theorem wsum_nil : wsum [] = 0 := rfl

@[simp] theorem wsum_cons (b : UInt8) (bs : List UInt8) : wsum (b :: bs) = b + wsum bs := by
  show List.foldl (· + ·) (0 + b) bs = b + wsum bs
  rw [foldl_add, UInt8.zero_add]

@[simp] theorem wsum_append (xs ys : List UInt8) : wsum (xs ++ ys) = wsum xs + wsum ys := by
  show List.foldl (· + ·) 0 (xs ++ ys) = _
  rw [List.foldl_append, foldl_add]
  rfl

theorem wsum_replicate_zero (n : Nat) : wsum (List.replicate n 0) = 0 := by
  induction n with
  | zero => rfl
  | succ n ih => rw [List.replicate_succ, wsum_cons, ih, UInt8.add_zero]

/-- The two's complement of a sum brings it to zero. -/
theorem add_not_add_one (s : UInt8) : s + (~~~s + 1) = 0 := by
  rw [← UInt8.neg_eq_not_add, UInt8.add_right_neg]

end Bytes
