import KataContainers.Lib.Except
import KataContainers.Lib.List
import KataContainers.Lib.GuestBytes

/-!
# Guest memory

The guest memory dragonball's virtio devices read and write: `GuestMemoryHybrid` of
`dbs_address_space/src/memory/hybrid.rs`, a sorted list of non-overlapping regions, each mapped
at a host address and possibly backed by a file, with the methods of the `vm-memory` trait
`GuestMemory` that the devices call (`find_region`, `address_in_range`, `checked_offset`,
`get_host_address`, `read_obj`). A virtio descriptor, as the devices see it, is here too.

`find_region` is a binary search by start address; `find_region_eq_some_iff` shows that on a
well-formed memory it finds exactly the region that contains the address. `get_host_address`
translates an address inside that region, and says nothing about the bytes after it:
`checked_offset` checks only the end of a range, so a range can start in one region and end in
another while its host translation runs on past the first (`host_range`, the abstract backing of
a guest range, is what the devices should use).
-/

namespace KataContainers.Dragonball

/-- A descriptor of a virtio queue, as a chain yields it: guest address, length, and the
`VIRTQ_DESC_F_WRITE` and `VIRTQ_DESC_F_NEXT` flags. -/
structure Descriptor where
  addr : UInt64
  len : UInt32
  write_only : Bool
  has_next : Bool
  deriving DecidableEq, Repr

/-- `FileOffset`: the file backing a region and the offset of the region's first byte in it. -/
structure FileOffset where
  fd : Nat
  start : UInt64
  deriving DecidableEq, Repr

/-- A guest memory region (`GuestRegionHybrid`): guest start address, length, host address of its
first byte (`as_ptr`) and backing file. -/
structure Region where
  start : UInt64
  len : UInt64
  host : UInt64
  file_offset : Option FileOffset
  deriving DecidableEq, Repr

namespace Region

/-- `GuestMemoryRegion::last_addr`. -/
def last_addr (r : Region) : UInt64 := r.start + (r.len - 1)

/-- A region can be built (`GuestRegionMmap::new`): it is not empty and `start + len` does not
overflow. -/
def valid (r : Region) : Prop := 0 < r.len.toNat ∧ r.start.toNat + r.len.toNat < 2 ^ 64

instance (r : Region) : Decidable r.valid := inferInstanceAs (Decidable (_ ∧ _))

/-- `GuestMemoryRegion::get_host_address` at an offset into the region. -/
def get_host_address (r : Region) (offset : UInt64) : Option UInt64 :=
  if offset < r.len then some (r.host + offset) else none

/-- The guest address `a` lies in the region. -/
def contains (r : Region) (a : Nat) : Prop := r.start.toNat ≤ a ∧ a < r.start.toNat + r.len.toNat

instance (r : Region) (a : Nat) : Decidable (r.contains a) := inferInstanceAs (Decidable (_ ∧ _))

theorem last_addr_toNat {r : Region} (hr : r.valid) :
    r.last_addr.toNat = r.start.toNat + r.len.toNat - 1 := by
  obtain ⟨hpos, hend⟩ := hr
  have hsub : (r.len - 1).toNat = r.len.toNat - 1 := by
    rw [UInt64.toNat_sub_of_le]
    · rfl
    · exact UInt64.le_iff_toNat_le.mpr (by simp; omega)
  unfold last_addr
  rw [UInt64.toNat_add, hsub, Nat.mod_eq_of_lt (by omega)]
  omega

/-- On a valid region, the bounds test of `find_region` is `contains`. -/
theorem bounds_iff_contains {r : Region} (hr : r.valid) {a : UInt64} :
    (r.start ≤ a ∧ a ≤ r.last_addr) ↔ r.contains a.toNat := by
  have hl := last_addr_toNat hr
  have hpos := hr.1
  simp only [UInt64.le_iff_toNat_le, hl, contains]
  omega

end Region

/-- `GuestMemoryHybrid`, as `from_arc_regions` builds it: at least one region, every region
valid, and each region ending before the next one starts (the check on adjacent regions, which
for valid regions orders the whole list). The contents are the bytes at each guest address. -/
structure GuestMemoryHybrid where
  regions : List Region
  nonempty : regions ≠ []
  valid : ∀ r ∈ regions, r.valid
  sorted : regions.Pairwise fun r s => r.last_addr < s.start
  bytes : UInt64 → UInt8

namespace GuestMemoryHybrid

variable (m : GuestMemoryHybrid)

/-- `find_region`: the binary search by start address, which finds the last region starting at or
before `addr` and keeps it if `addr` is not past its end. -/
def find_region (addr : UInt64) : Option Region :=
  match (m.regions.filter fun r => r.start ≤ addr).getLast? with
  | some r => if addr ≤ r.last_addr then some r else none
  | none => none

/-- `GuestMemory::address_in_range`. -/
def address_in_range (addr : UInt64) : Bool := (m.find_region addr).isSome

/-- `GuestMemory::checked_offset`: `base + offset`, if it does not overflow and lies in guest
memory. Only that end address is checked. -/
def checked_offset (base : UInt64) (offset : Nat) : Option UInt64 :=
  if base.toNat + offset < 2 ^ 64 ∧ m.address_in_range (base + UInt64.ofNat offset) then
    some (base + UInt64.ofNat offset)
  else none

/-- `GuestMemory::get_host_address`: the host address of a guest address, through its region. -/
def get_host_address (addr : UInt64) : Option UInt64 :=
  (m.find_region addr).bind fun r => r.get_host_address (addr - r.start)

/-- The bytes `[addr, addr + n)` when each of them is in guest memory, as `read_obj` reads
them through `try_access`. -/
def read_bytes (addr : UInt64) (n : Nat) : Option (List UInt8) :=
  (List.range n).mapM fun i =>
    let a := addr + UInt64.ofNat i
    if addr.toNat + i < 2 ^ 64 ∧ m.address_in_range a then some (m.bytes a) else none

/-- `read_obj::<u32>`, little endian. -/
def read_u32 (addr : UInt64) : Option UInt32 :=
  (m.read_bytes addr 4).map fun bs => bs.foldr (fun b acc => (acc <<< 8) ||| b.toUInt32) 0

/-- `read_obj::<u64>`, little endian. -/
def read_u64 (addr : UInt64) : Option UInt64 :=
  (m.read_bytes addr 8).map fun bs => bs.foldr (fun b acc => (acc <<< 8) ||| b.toUInt64) 0

/-- The host backing of the guest range `[addr, addr + len)`: the host address of its first byte,
when the whole range lies in one region. -/
def host_range (addr : UInt64) (len : Nat) : Option UInt64 :=
  match m.regions.find? fun r => decide (r.contains addr.toNat) with
  | some r =>
    if addr.toNat + len ≤ r.start.toNat + r.len.toNat then some (r.host + (addr - r.start)) else none
  | none => none

end GuestMemoryHybrid

/-! ## `find_region` finds the region that holds the address -/

namespace GuestMemoryHybrid

variable {m : GuestMemoryHybrid}

/-- `find_region` answers a region of the memory that contains the address. -/
theorem find_region_sound {a : UInt64} {r : Region} (h : m.find_region a = some r) :
    r ∈ m.regions ∧ r.contains a.toNat := by
  unfold find_region at h
  split at h
  · rename_i r' hlast
    split at h
    · rename_i hle
      cases h
      have hmem : r ∈ m.regions.filter fun r => r.start ≤ a := List.mem_of_getLast? hlast
      have hmem' := List.mem_filter.mp hmem
      have hstart : r.start ≤ a := by simpa using hmem'.2
      exact ⟨hmem'.1, (Region.bounds_iff_contains (m.valid r hmem'.1)).mp ⟨hstart, hle⟩⟩
    · cases h
  · cases h

/-- `find_region` finds every region that contains the address. -/
theorem find_region_complete {a : UInt64} {r : Region} (hr : r ∈ m.regions)
    (hc : r.contains a.toNat) : m.find_region a = some r := by
  have hv := m.valid r hr
  obtain ⟨hstart, hle⟩ := (Region.bounds_iff_contains hv).mpr hc
  have hlast : (m.regions.filter fun r => r.start ≤ a).getLast? = some r := by
    refine List.getLast?_filter_of_after m.sorted hr (by simpa using hstart) ?_
    intro s hs
    -- a region after `r` starts past `r`'s last address, hence past `a`
    have : a < s.start := UInt64.lt_of_le_of_lt hle hs
    simpa using this
  unfold find_region
  rw [hlast]
  simp [hle]

theorem find_region_eq_some_iff {a : UInt64} {r : Region} :
    m.find_region a = some r ↔ r ∈ m.regions ∧ r.contains a.toNat :=
  ⟨find_region_sound, fun ⟨hr, hc⟩ => find_region_complete hr hc⟩

/-- The host address of a guest address is its offset into the region that holds it, from the
region's host address. -/
theorem get_host_address_of_find_region {a : UInt64} {r : Region} (h : m.find_region a = some r) :
    m.get_host_address a = some (r.host + (a - r.start)) := by
  obtain ⟨hr, hc⟩ := find_region_sound h
  have hoff : a - r.start < r.len := by
    have hle : r.start ≤ a := UInt64.le_iff_toNat_le.mpr hc.1
    rw [UInt64.lt_iff_toNat_lt, UInt64.toNat_sub_of_le _ _ hle]
    exact Nat.sub_lt_left_of_lt_add hc.1 hc.2
  simp [get_host_address, h, Region.get_host_address, hoff]

/-- Two regions that hold the same address are the same region. -/
theorem region_unique {a : Nat} {r s : Region} (hr : r ∈ m.regions) (hs : s ∈ m.regions)
    (hcr : r.contains a) (hcs : s.contains a) : r = s := by
  have ha : a < 2 ^ 64 := Nat.lt_trans hcr.2 (m.valid r hr).2
  have hna : (UInt64.ofNat a).toNat = a := by rw [UInt64.toNat_ofNat', Nat.mod_eq_of_lt ha]
  have h1 := find_region_complete (a := UInt64.ofNat a) hr (by rw [hna]; exact hcr)
  have h2 := find_region_complete (a := UInt64.ofNat a) hs (by rw [hna]; exact hcs)
  rw [h1] at h2
  exact Option.some.inj h2

/-- `checked_offset` succeeds exactly when `base + offset` does not overflow and that one address
lies in some region. -/
theorem checked_offset_isSome_iff {base : UInt64} {offset : Nat} :
    (m.checked_offset base offset).isSome ↔
      base.toNat + offset < 2 ^ 64 ∧ ∃ r ∈ m.regions, r.contains (base.toNat + offset) := by
  unfold checked_offset
  by_cases hlt : base.toNat + offset < 2 ^ 64
  · have hsum : (base + UInt64.ofNat offset).toNat = base.toNat + offset := by
      rw [UInt64.toNat_add, UInt64.toNat_ofNat']
      omega
    have hin : m.address_in_range (base + UInt64.ofNat offset) = true ↔
        ∃ r ∈ m.regions, r.contains (base.toNat + offset) := by
      rw [address_in_range, Option.isSome_iff_exists]
      simp only [find_region_eq_some_iff, hsum]
    by_cases ha : m.address_in_range (base + UInt64.ofNat offset) = true
    · simp only [hlt, ha, and_self, if_true, Option.isSome_some, true_and, true_iff]
      exact hin.mp ha
    · simp only [hlt, ha, and_false, if_false, Option.isSome_none, Bool.false_eq_true,
        true_and, false_iff]
      exact fun h => ha (hin.mpr h)
  · simp only [hlt, false_and, if_false, Option.isSome_none, Bool.false_eq_true, iff_self]

/-- When a guest range lies in one region, `host_range` is the host address of its first byte. -/
theorem host_range_of_region {a : UInt64} {len : Nat} {r : Region} (hr : r ∈ m.regions)
    (hc : r.contains a.toNat) (hend : a.toNat + len ≤ r.start.toNat + r.len.toNat) :
    m.host_range a len = some (r.host + (a - r.start)) := by
  unfold host_range
  cases hfind : m.regions.find? (fun r => decide (r.contains a.toNat)) with
  | none =>
    have := List.find?_eq_none.mp hfind r hr
    simp [hc] at this
  | some s =>
    obtain ⟨hs, hsm⟩ := List.mem_of_find?_eq_some hfind, List.find?_some hfind
    have hsr : s = r := region_unique hs hr (by simpa using hsm) hc
    subst hsr
    simp [hend]

end GuestMemoryHybrid

/-! ## Writing guest memory

A `GuestMemoryHybrid` is a guest memory a device writes through `GuestBytes`: `write_slice` and
`read_from` go through `try_access`, which stops at the first byte that is not in guest memory. -/

namespace GuestMemoryHybrid

variable (m : GuestMemoryHybrid)

/-- The contents as a store addressed by numbers. -/
def view : Nat → UInt8 := fun n => m.bytes (UInt64.ofNat n)

/-- The memory with `buf` in `[addr, addr + buf.length)`. -/
def put (buf : List UInt8) (addr : UInt64) : GuestMemoryHybrid :=
  { m with bytes := fun a => Store.put m.view addr.toNat buf a.toNat }

/-- Whether the `n` bytes from `addr` on are in guest memory, with no overflow. -/
def in_range (addr : UInt64) (n : Nat) : Bool :=
  (List.range n).all fun i =>
    decide (addr.toNat + i < 2 ^ 64) && m.address_in_range (addr + UInt64.ofNat i)

/-- `Bytes::write_slice` through `try_access`: it fails unless every byte of the buffer lands in
guest memory. -/
def write_slice (buf : List UInt8) (addr : UInt64) : Except Unit GuestMemoryHybrid :=
  if m.in_range addr buf.length then .ok (m.put buf addr) else .error ()

/-- The length of the run of bytes from `addr` on, at most `n`, that are in guest memory. -/
def run_in_range (addr : UInt64) (n : Nat) : Nat :=
  ((List.range n).takeWhile fun i =>
    decide (addr.toNat + i < 2 ^ 64) && m.address_in_range (addr + UInt64.ofNat i)).length

/-- `Bytes::write(buf, addr)` through `try_access`: the bytes of `buf` go to `addr` on while they
land in guest memory, and the count is what was written; it fails when `addr` is not in guest
memory. -/
def write (buf : List UInt8) (addr : UInt64) : Except Unit (Nat × GuestMemoryHybrid) :=
  if m.address_in_range addr then
    let n := m.run_in_range addr buf.length
    .ok (n, m.put (buf.take n) addr)
  else .error ()

/-- `Bytes::read_from(addr, src, count)` through `try_access`: byte `i` of the stream `src` goes
to `addr + i`, for the bytes from `addr` on that are in guest memory, at most `count`; it fails
when `addr` is not. -/
def read_from (addr : UInt64) (src : Nat → UInt8) (count : Nat) : Except Unit GuestMemoryHybrid :=
  let n := m.run_in_range addr count
  if n = 0 then .error () else .ok (m.put ((List.range n).map src) addr)

instance : GuestBytes GuestMemoryHybrid where
  address_in_range m := m.address_in_range
  load m := m.bytes
  write m := m.write
  write_slice m := m.write_slice
  read_from m := m.read_from

variable {m} {xs : List UInt8} {addr : UInt64}

theorem in_range_eq (a : UInt64) (n : Nat) : GuestBytes.in_range m a n = m.in_range a n := rfl

/-- A range that lies in one region is in guest memory. -/
theorem in_range_of_region {r : Region} {n : Nat} (hr : r ∈ m.regions)
    (hstart : r.start.toNat ≤ addr.toNat) (hend : addr.toNat + n ≤ r.start.toNat + r.len.toNat) :
    m.in_range addr n = true := by
  have hr_end := (m.valid r hr).2
  rw [← in_range_eq, GuestBytes.in_range_iff]
  intro i hi
  have hfit : addr.toNat + i < 2 ^ 64 := by omega
  have ha := GuestBytes.toNat_add_ofNat hfit
  refine ⟨hfit, ?_⟩
  show m.address_in_range _ = true
  rw [address_in_range, find_region_complete hr ⟨by omega, by omega⟩]
  rfl

theorem wrote_put : GuestBytes.Wrote m (m.put xs addr) addr xs := ⟨fun _ => rfl, fun _ => rfl⟩

theorem write_slice_eq_ok (h : m.in_range addr xs.length = true) :
    m.write_slice xs addr = .ok (m.put xs addr) := by
  rw [write_slice, if_pos h]

/-- On a range in guest memory the run is the whole range. -/
theorem run_in_range_eq {n : Nat} (h : m.in_range addr n = true) : m.run_in_range addr n = n := by
  have hall : (List.range n).takeWhile (fun i =>
      decide (addr.toNat + i < 2 ^ 64) && m.address_in_range (addr + UInt64.ofNat i)) =
      List.range n :=
    List.takeWhile_eq_self_iff.mpr fun i hi => by
      obtain ⟨hfit, hin⟩ := (GuestBytes.in_range_iff.mp ((in_range_eq addr n).trans h)) i
        (List.mem_range.mp hi)
      have hin' : m.address_in_range (addr + UInt64.ofNat i) = true := hin
      rw [decide_eq_true hfit, hin']
      rfl
  rw [run_in_range, hall, List.length_range]

theorem write_eq_ok (ha : m.address_in_range addr = true) (h : m.in_range addr xs.length = true) :
    m.write xs addr = .ok (xs.length, m.put xs addr) := by
  rw [write, if_pos ha, run_in_range_eq h]
  dsimp only
  rw [List.take_length]

theorem read_from_eq_ok {count : Nat} (src : Nat → UInt8) (h : m.in_range addr count = true)
    (hc : 0 < count) :
    m.read_from addr src count = .ok (m.put ((List.range count).map src) addr) := by
  simp only [read_from, run_in_range_eq h]
  rw [if_neg (Nat.pos_iff_ne_zero.mp hc)]

/-- On a range in guest memory the writes put the bytes there. -/
instance : LawfulGuestBytes GuestMemoryHybrid where
  write_ok _ _ _ ha h := ⟨_, write_eq_ok ha h, wrote_put⟩
  write_slice_ok _ _ _ h := ⟨_, write_slice_eq_ok h, wrote_put⟩
  read_from_ok _ _ src _ h hc := ⟨_, read_from_eq_ok src h hc, wrote_put⟩

end GuestMemoryHybrid

end KataContainers.Dragonball
