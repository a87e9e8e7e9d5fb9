import KataContainers.Lib.Store
import KataContainers.Lib.ByteValued

/-!
# Writing guest memory, as an interface

What a device that writes guest memory calls of `vm-memory` on a memory `M` is the class
`GuestBytes`: `GuestMemory::address_in_range`, and the `Bytes` methods `write`, `write_slice` and
`read_from` (`write_obj` writes an object's bytes with `write_slice`). What the crate documents of
the writes on a range that lies in guest memory is the class `LawfulGuestBytes`: they succeed,
`write` with the whole buffer, and leave `Wrote`, the same guest memory with the bytes written in
that range and every other byte as it was.

`Wrote` composes as a device's writes do: writes at consecutive addresses are one write of both
(`Wrote.trans`), a write inside an earlier one is spliced into it (`Wrote.splice`), and what is
read back from a write is what was written (`Wrote.read_eq`).
-/

/-- What a device that writes guest memory calls on a memory `M`: `address_in_range`,
`write(buf, addr)`, which answers the count it wrote, `write_slice(buf, addr)` and
`read_from(addr, src, count)`, which fail with `()`; `load m a` is the byte at the guest address
`a`. -/
class GuestBytes (M : Type) where
  address_in_range : M → UInt64 → Bool
  load : M → UInt64 → UInt8
  write : M → List UInt8 → UInt64 → Except Unit (Nat × M)
  write_slice : M → List UInt8 → UInt64 → Except Unit M
  read_from : M → UInt64 → (Nat → UInt8) → Nat → Except Unit M

namespace GuestBytes

variable {M : Type} [GuestBytes M]

/-- `Bytes::write_obj`: the object's bytes, by `write_slice`. -/
def write_obj {T : Type} [ByteValued T] (m : M) (val : T) (addr : UInt64) : Except Unit M :=
  write_slice m (ByteValued.as_slice val) addr

/-- Whether the `n` bytes from `addr` on are in guest memory, with no overflow. -/
def in_range (m : M) (addr : UInt64) (n : Nat) : Bool :=
  (List.range n).all fun i =>
    decide (addr.toNat + i < 2 ^ 64) && address_in_range m (addr + UInt64.ofNat i)

/-- The `n` bytes from `addr` on. -/
def read (m : M) (addr : UInt64) (n : Nat) : List UInt8 :=
  (List.range n).map fun i => load m (addr + UInt64.ofNat i)

/-- The contents as a store addressed by numbers. -/
def view (m : M) : Nat → UInt8 := fun n => load m (UInt64.ofNat n)

/-- `m'` is `m` with `bs` written from `addr` on: the same guest memory, holding the bytes of `bs`
in `[addr, addr + bs.length)` and those of `m` everywhere else. -/
structure Wrote (m m' : M) (addr : UInt64) (bs : List UInt8) : Prop where
  layout : ∀ a, address_in_range m' a = address_in_range m a
  load_eq : ∀ a : UInt64, load m' a = Store.put (view m) addr.toNat bs a.toNat

end GuestBytes

open GuestBytes in
/-- What `vm-memory` documents of the writes on a range that lies in guest memory: `write` from an
address in guest memory and `write_slice` write the whole buffer, and `read_from` of `count > 0`
bytes writes the first `count` bytes of the stream. -/
class LawfulGuestBytes (M : Type) [GuestBytes M] : Prop where
  write_ok : ∀ (m : M) (buf : List UInt8) (addr : UInt64),
    address_in_range m addr = true → in_range m addr buf.length = true →
      ∃ m', write m buf addr = .ok (buf.length, m') ∧ Wrote m m' addr buf
  write_slice_ok : ∀ (m : M) (buf : List UInt8) (addr : UInt64),
    in_range m addr buf.length = true →
      ∃ m', write_slice m buf addr = .ok m' ∧ Wrote m m' addr buf
  read_from_ok : ∀ (m : M) (addr : UInt64) (src : Nat → UInt8) (count : Nat),
    in_range m addr count = true → 0 < count →
      ∃ m', read_from m addr src count = .ok m' ∧ Wrote m m' addr ((List.range count).map src)

namespace GuestBytes

variable {M : Type} [GuestBytes M] {m m' m₁ m₂ m₃ : M} {addr : UInt64} {xs ys : List UInt8}

theorem toNat_add_ofNat {k : Nat} (h : addr.toNat + k < 2 ^ 64) :
    (addr + UInt64.ofNat k).toNat = addr.toNat + k := by
  rw [UInt64.toNat_add, UInt64.toNat_ofNat', Nat.add_mod_mod, Nat.mod_eq_of_lt h]

theorem in_range_iff {n : Nat} :
    in_range m addr n = true ↔
      ∀ i < n, addr.toNat + i < 2 ^ 64 ∧ address_in_range m (addr + UInt64.ofNat i) = true := by
  simp [in_range]

/-- A part of a range in guest memory is in guest memory. -/
theorem in_range_sub {n k j : Nat} (h : in_range m addr n = true) (hkj : k + j ≤ n) :
    in_range m (addr + UInt64.ofNat k) j = true := by
  have hall := in_range_iff.mp h
  rw [in_range_iff]
  intro i hi
  obtain ⟨hfit, hin⟩ := hall (k + i) (by omega)
  rw [toNat_add_ofNat (by omega), UInt64.add_assoc, ← UInt64.ofNat_add]
  exact ⟨by omega, hin⟩

/-- The start of a range in guest memory is in guest memory. -/
theorem in_range_of_le {n k : Nat} (h : in_range m addr n = true) (hk : k ≤ n) :
    in_range m addr k = true := by
  rw [in_range_iff] at h ⊢
  intro i hi
  exact h i (by omega)

/-- Whether a range is in guest memory depends on the layout only. -/
theorem in_range_congr (h : ∀ a, address_in_range m' a = address_in_range m a) (a : UInt64)
    (n : Nat) : in_range m' a n = in_range m a n := by
  simp only [in_range, h]

theorem view_toNat (a : UInt64) : view m a.toNat = load m a := by
  rw [view, UInt64.ofNat_toNat]

/-- `write_obj` on a range in guest memory. -/
theorem write_obj_ok [LawfulGuestBytes M] {T : Type} [ByteValued T] (m : M) (val : T)
    (addr : UInt64) (h : in_range m addr (ByteValued.size T) = true) :
    ∃ m', write_obj m val addr = .ok m' ∧ Wrote m m' addr (ByteValued.as_slice val) :=
  LawfulGuestBytes.write_slice_ok m _ addr (by rwa [ByteValued.length_as_slice])

namespace Wrote

theorem in_range_eq (h : Wrote m m' addr xs) (a : UInt64) (n : Nat) :
    in_range m' a n = in_range m a n :=
  in_range_congr h.layout a n

theorem view_eq (h : Wrote m m' addr xs) {n : Nat} (hn : n < 2 ^ 64) :
    view m' n = Store.put (view m) addr.toNat xs n := by
  rw [view, h.load_eq, UInt64.toNat_ofNat', Nat.mod_eq_of_lt hn]

theorem nil (m : M) (addr : UInt64) : Wrote m m addr [] where
  layout _ := rfl
  load_eq a := by rw [Store.put, dif_neg (by simp), view_toNat]

/-- Outside a write, the bytes are those before it. -/
theorem load_of_not_mem (h : Wrote m m' addr xs) {a : UInt64}
    (ha : a.toNat < addr.toNat ∨ addr.toNat + xs.length ≤ a.toNat) : load m' a = load m a := by
  rw [h.load_eq, ← view_toNat]
  rcases ha with ha | ha
  · exact Store.put_of_lt ha
  · exact Store.put_of_ge ha

/-- Writes at consecutive addresses are one write of both. -/
theorem trans (h₁ : Wrote m₁ m₂ addr xs) (h₂ : Wrote m₂ m₃ (addr + UInt64.ofNat xs.length) ys)
    (hfit : addr.toNat + xs.length < 2 ^ 64) : Wrote m₁ m₃ addr (xs ++ ys) where
  layout a := (h₂.layout a).trans (h₁.layout a)
  load_eq a := by
    rw [h₂.load_eq, toNat_add_ofNat hfit, Store.put_append]
    exact Store.put_congr (h₁.view_eq a.toNat_lt)

/-- A write inside an earlier one is spliced into it. -/
theorem splice {ws zs : List UInt8} (h₁ : Wrote m₁ m₂ addr (xs ++ ys ++ ws))
    (h₂ : Wrote m₂ m₃ (addr + UInt64.ofNat xs.length) zs) (hlen : zs.length = ys.length)
    (hfit : addr.toNat + xs.length < 2 ^ 64) : Wrote m₁ m₃ addr (xs ++ zs ++ ws) where
  layout a := (h₂.layout a).trans (h₁.layout a)
  load_eq a := by
    have hin : xs.length + zs.length ≤ (xs ++ ys ++ ws).length := by simp [hlen]
    -- the new bytes replace `ys`, which has their length
    have hparts : (xs ++ ys ++ ws).take xs.length ++ zs ++
        (xs ++ ys ++ ws).drop (xs.length + zs.length) = xs ++ zs ++ ws := by
      rw [List.append_assoc xs ys ws, List.take_left, hlen, ← List.length_append,
        ← List.append_assoc, List.drop_left]
    rw [h₂.load_eq, toNat_add_ofNat hfit, Store.put_congr (h₁.view_eq a.toNat_lt),
      Store.put_put_inside hin, hparts]

/-- A write over the start of an earlier one. -/
theorem overwrite {ws zs : List UInt8} (h₁ : Wrote m₁ m₂ addr (ys ++ ws))
    (h₂ : Wrote m₂ m₃ addr zs) (hlen : zs.length = ys.length) : Wrote m₁ m₃ addr (zs ++ ws) := by
  have h₁' : Wrote m₁ m₂ addr ([] ++ ys ++ ws) := by simpa using h₁
  have h₂' : Wrote m₂ m₃ (addr + UInt64.ofNat ([] : List UInt8).length) zs := by
    simpa using h₂
  simpa using h₁'.splice h₂' hlen (by simpa using addr.toNat_lt)

/-- What is read back from a write is what was written. -/
theorem read_eq (h : Wrote m m' addr xs) (hfit : addr.toNat + xs.length ≤ 2 ^ 64) :
    read m' addr xs.length = xs := by
  apply List.ext_getElem (by simp [read])
  intro i hi _
  simp only [read, List.length_map, List.length_range] at hi
  simp only [read, List.getElem_map, List.getElem_range]
  rw [h.load_eq, toNat_add_ofNat (by omega), Store.put_of_mem (by omega) (by omega)]
  congr 1
  omega

end Wrote

end GuestBytes
