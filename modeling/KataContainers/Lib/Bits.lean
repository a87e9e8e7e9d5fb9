import Mathlib

/-!
# The `bit-vec` crate, as an interface

The methods of the crate's `BitVec` that a program calls are the class `BitVecOps`; what the
crate documents of them is the class `LawfulBitVec`, read through the bits a vector holds
(`BitVecOps.bits`, bit `i` at index `i`, as `get` returns them): `from_elem(n, b)` holds `n`
bits `b`, `grow(n, b)` adds `n` bits `b` at the end, `set(i, x)` sets bit `i` and panics past
the end (`none`), and `to_bytes` packs the bits into bytes (`Bits.pack`): bits `8i` to `8i + 7`
into byte `i` with the first of them as the high-order bit, the last byte padded with zeros.

A list of bits is such a vector (`instance : LawfulBitVec (List Bool)`).

`byte_eq_lsbValue` reads a byte back: when the bits of byte `i`, taken from the last, are `f 0`,
..., `f 7`, the byte is `lsbValue f`, the number whose bit `j` is `f j`.
-/

namespace Bits

/-- Byte `i` of the packing: bits `8i` to `8i + 7`, the first as the high-order bit. -/
def byte (v : List Bool) (i : Nat) : Nat :=
  (List.range 8).foldl (fun acc j => acc * 2 + (v.getD (8 * i + j) false).toNat) 0

/-- One byte for each eight bits, the last one padded with zeros. -/
def pack (v : List Bool) : List UInt8 :=
  (List.range ((v.length + 7) / 8)).map fun i => UInt8.ofNat (byte v i)

/-- The number below `256` whose bit `j` is `f j`. -/
def lsbValue (f : Nat → Bool) : Nat :=
  (List.range 8).foldr (fun j acc => (f j).toNat + 2 * acc) 0

@[simp] theorem length_pack (v : List Bool) : (pack v).length = (v.length + 7) / 8 := by
  simp [pack]

/-- A byte whose bits, from the last, are `f 0` to `f 7` is `lsbValue f`. -/
theorem byte_eq_lsbValue {v : List Bool} {i : Nat} {f : Nat → Bool}
    (h : ∀ j < 8, v.getD (8 * i + j) false = f (7 - j)) : byte v i = lsbValue f := by
  simp only [byte, lsbValue, List.range_succ, List.range_zero, List.nil_append, List.foldl_append,
    List.foldl_cons, List.foldl_nil, List.foldr_append, List.foldr_cons, List.foldr_nil]
  rw [h 0 (by decide), h 1 (by decide), h 2 (by decide), h 3 (by decide), h 4 (by decide),
    h 5 (by decide), h 6 (by decide), h 7 (by decide)]
  simp only [Nat.reduceSub]
  omega

end Bits

/-- The methods of `bit_vec::BitVec` that a program calls. -/
class BitVecOps (V : Type) where
  /-- `BitVec::from_elem(nbits, bit)`. -/
  from_elem : Nat → Bool → V
  /-- `len()`, the number of bits. -/
  len : V → Nat
  /-- `get(i)`, `None` past the end. -/
  get : V → Nat → Option Bool
  /-- `grow(n, value)`. -/
  grow : V → Nat → Bool → V
  /-- `set(i, x)`; `none` where the crate panics. -/
  set : V → Nat → Bool → Option V
  /-- `to_bytes()`. -/
  to_bytes : V → List UInt8

namespace BitVecOps

variable {V : Type} [BitVecOps V]

/-- The bits a vector holds, bit `i` at index `i`. -/
def bits (v : V) : List Bool := (List.range (len v)).map fun i => (get v i).getD false

@[simp] theorem length_bits (v : V) : (bits v).length = len v := by
  simp [bits]

end BitVecOps

open BitVecOps in
/-- What the crate documents of the methods, read through the bits: `from_elem` makes `nbits`
bits `bit`, `grow` adds `n` bits `value` at the end, `set` sets one bit and panics unless
`i < len()`, and `to_bytes` packs the bits, eight to a byte, the first as the high-order bit. -/
class LawfulBitVec (V : Type) [BitVecOps V] : Prop where
  bits_from_elem : ∀ nbits bit, bits (from_elem nbits bit : V) = List.replicate nbits bit
  bits_grow : ∀ (v : V) n value, bits (grow v n value) = bits v ++ List.replicate n value
  set_of_lt : ∀ (v : V) i x, i < len v → ∃ v', set v i x = some v' ∧ bits v' = (bits v).set i x
  set_of_le : ∀ (v : V) i x, len v ≤ i → set v i x = none
  to_bytes_eq : ∀ v : V, to_bytes v = Bits.pack (bits v)

/-- A list of bits, bit `i` at index `i`. -/
instance : BitVecOps (List Bool) where
  from_elem nbits bit := List.replicate nbits bit
  len v := v.length
  get v i := v[i]?
  grow v n value := v ++ List.replicate n value
  set v i x := if i < v.length then some (v.set i x) else none
  to_bytes := Bits.pack

/-- A list holds its own bits. -/
@[simp] theorem BitVecOps.bits_list (v : List Bool) : bits v = v := by
  apply List.ext_getElem
  · simp [bits, len]
  · intro i h1 h2
    simp [bits, get, List.getElem?_eq_getElem h2]

instance : LawfulBitVec (List Bool) where
  bits_from_elem nbits bit := by simp [BitVecOps.from_elem]
  bits_grow v n value := by simp [BitVecOps.grow]
  set_of_lt v i x h := ⟨v.set i x, if_pos h, by simp⟩
  set_of_le v i x h := if_neg (Nat.not_lt.mpr h)
  to_bytes_eq v := by simp [BitVecOps.to_bytes]
