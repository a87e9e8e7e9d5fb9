import KataContainers.Dragonball.Memory

/-!
# vsock packets

Model of how dragonball's vsock device wraps a descriptor chain into a `VsockPacket`
(`dbs_virtio_devices/src/vsock/packet.rs`): `HdrWrapper::from_virtq_desc` and
`BufWrapper::from_virtq_desc` check a guest range with `checked_offset` and keep the host address of
its start with the range's length, which `hdr()`, `hdr_mut()`, `buf()` and `buf_mut()` later turn
into raw slices; `from_tx_virtq_head` and `from_rx_virtq_head` pick the descriptors and check their
flags and lengths.

The guest memory is what the device asks of it (`VsockMemory`): `checked_offset`, `get_host_address`
and the read of the header's length. `checked_offset(addr, len)` tests only the address
`addr + len`, so the slice the wrapper builds is the host range from the start's translation
whatever lies between (`BufWrapper.from_virtq_desc_ok`); on a `GuestMemoryHybrid` it is the host
backing of the guest range when that range lies in one region (`BufWrapper.from_virtq_desc_backing`),
and not otherwise.
-/

namespace KataContainers.Dragonball.Vsock

open GuestMemoryHybrid

def VSOCK_PKT_HDR_SIZE : Nat := 44
def MAX_PKT_BUF_SIZE : Nat := 64 * 1024

/-- The `VsockError`s of packet parsing. -/
inductive VsockError
  | BufDescMissing
  | BufDescTooSmall
  | GuestMemory
  | GuestMemoryBounds (addr : UInt64) (size : Nat)
  | HdrDescTooSmall (len : UInt32)
  | InvalidPktLen (len : UInt32)
  | UnreadableDescriptor
  | UnwritableDescriptor
  deriving DecidableEq, Repr

/-- A raw host slice, `from_raw_parts(ptr, len)`. -/
structure HostSlice where
  ptr : UInt64
  len : Nat
  deriving DecidableEq, Repr

/-- A packet: the header slice and the optional data buffer slice. -/
structure VsockPacket where
  hdr : HostSlice
  buf : Option HostSlice
  deriving DecidableEq, Repr

/-- What the device asks of the guest memory: `GuestMemory::checked_offset` of a range's end and
`get_host_address` of its start, and the header's `len` field, a `u32` at offset 24. -/
structure VsockMemory where
  checked_offset : UInt64 → Nat → Option UInt64
  get_host_address : UInt64 → Option UInt64
  read_u32 : UInt64 → Option UInt32

/-- The device's view of a `GuestMemoryHybrid`. -/
def VsockMemory.of_guest_memory (m : GuestMemoryHybrid) : VsockMemory where
  checked_offset := m.checked_offset
  get_host_address := m.get_host_address
  read_u32 := m.read_u32

instance : Coe GuestMemoryHybrid VsockMemory := ⟨VsockMemory.of_guest_memory⟩

/-- The wrapper shared by `HdrWrapper` and `BufWrapper`: `checked_offset(desc.addr(), size)`, then
the host address of `desc.addr()` with `size` bytes. -/
def wrap (m : VsockMemory) (addr : UInt64) (size : Nat) : Except VsockError HostSlice := do
  if (m.checked_offset addr size).isNone then throw (.GuestMemoryBounds addr size)
  match m.get_host_address addr with
  | some ptr => pure ⟨ptr, size⟩
  | none => throw .GuestMemory

def HdrWrapper.from_virtq_desc (m : VsockMemory) (desc : Descriptor) :
    Except VsockError HostSlice := do
  if desc.len.toNat < VSOCK_PKT_HDR_SIZE then throw (.HdrDescTooSmall desc.len)
  wrap m desc.addr VSOCK_PKT_HDR_SIZE

def BufWrapper.from_virtq_desc (m : VsockMemory) (desc : Descriptor) :
    Except VsockError HostSlice :=
  wrap m desc.addr desc.len.toNat

/-- The header's `len` field, at offset 24, read through the header pointer: the guest bytes
there when the header lies in guest memory. -/
def hdr_len (m : VsockMemory) (desc : Descriptor) : UInt32 :=
  (m.read_u32 (desc.addr + 24)).getD 0

/-- `VsockPacket::from_tx_virtq_head`. -/
def from_tx_virtq_head (m : VsockMemory) (chain : List Descriptor) :
    Except VsockError VsockPacket := do
  let desc :: rest := chain | throw .BufDescMissing
  -- all buffers in the TX queue must be readable
  if desc.write_only then throw .UnreadableDescriptor
  let hdr ← HdrWrapper.from_virtq_desc m desc
  let len := hdr_len m desc
  if len.toNat > MAX_PKT_BUF_SIZE then throw (.InvalidPktLen len)
  if len = 0 then return ⟨hdr, none⟩
  let buf_desc :: _ := rest | throw .BufDescMissing
  if buf_desc.write_only then throw .UnreadableDescriptor
  if buf_desc.len < len then throw .BufDescTooSmall
  let buf ← BufWrapper.from_virtq_desc m buf_desc
  return ⟨hdr, some buf⟩

/-- `VsockPacket::from_rx_virtq_head`. -/
def from_rx_virtq_head (m : VsockMemory) (chain : List Descriptor) :
    Except VsockError VsockPacket := do
  let desc :: rest := chain | throw .BufDescMissing
  -- all RX buffers must be writable
  if !desc.write_only then throw .UnwritableDescriptor
  let hdr ← HdrWrapper.from_virtq_desc m desc
  let buf_desc :: _ := rest | throw .BufDescMissing
  if !buf_desc.write_only then throw .UnwritableDescriptor
  let buf ← BufWrapper.from_virtq_desc m buf_desc
  return ⟨hdr, some buf⟩

/-! ## What the wrappers check -/

/-- What a successful `wrap` knows: the slice starts at the translation of `addr` and has `size`
bytes, and the one address `addr + size` passed `checked_offset`. -/
def Wrapped (m : VsockMemory) (addr : UInt64) (size : Nat) (s : HostSlice) : Prop :=
  m.get_host_address addr = some s.ptr ∧ s.len = size ∧ (m.checked_offset addr size).isSome

theorem wrap_ok {m : VsockMemory} {addr : UInt64} {size : Nat} {s : HostSlice}
    (h : wrap m addr size = .ok s) : Wrapped m addr size s := by
  unfold wrap at h
  obtain ⟨hc, h⟩ := Except.ite_throw_eq_ok.mp h
  have hsome : (m.checked_offset addr size).isSome := by
    simpa [Option.isNone_iff_eq_none, Option.isSome_iff_ne_none] using hc
  cases hh : m.get_host_address addr with
  | none => simp [hh] at h
  | some ptr =>
    simp only [hh, Except.pure_eq_ok, Except.ok.injEq] at h
    subst h
    exact ⟨hh, rfl, hsome⟩

theorem BufWrapper.from_virtq_desc_ok {m : VsockMemory} {desc : Descriptor} {s : HostSlice}
    (h : BufWrapper.from_virtq_desc m desc = .ok s) : Wrapped m desc.addr desc.len.toNat s :=
  wrap_ok h

theorem HdrWrapper.from_virtq_desc_ok {m : VsockMemory} {desc : Descriptor} {s : HostSlice}
    (h : HdrWrapper.from_virtq_desc m desc = .ok s) : Wrapped m desc.addr VSOCK_PKT_HDR_SIZE s := by
  unfold HdrWrapper.from_virtq_desc at h
  exact wrap_ok (Except.ite_throw_eq_ok.mp h).2

/-- On a `GuestMemoryHybrid`, a wrapped range starts in a region and the slice at its
translation there, and the one address `addr + size` is in some region. -/
theorem Wrapped.regions {m : GuestMemoryHybrid} {addr : UInt64} {size : Nat} {s : HostSlice}
    (h : Wrapped m addr size s) :
    (∃ r ∈ m.regions, r.contains addr.toNat ∧ s = ⟨r.host + (addr - r.start), size⟩) ∧
      addr.toNat + size < 2 ^ 64 ∧ ∃ r ∈ m.regions, r.contains (addr.toNat + size) := by
  obtain ⟨hh, hlen, hsome⟩ := h
  obtain ⟨hlt, hend⟩ := checked_offset_isSome_iff.mp hsome
  refine ⟨?_, hlt, hend⟩
  -- the host address comes from the region that holds the start
  cases hf : m.find_region addr with
  | none =>
    have hnone : m.get_host_address addr = none := by simp [get_host_address, hf]
    exact absurd (hnone ▸ hh : none = some s.ptr) (by simp)
  | some r =>
    obtain ⟨hr, hcr⟩ := find_region_sound hf
    have hptr : r.host + (addr - r.start) = s.ptr :=
      Option.some.inj ((get_host_address_of_find_region hf).symm.trans hh)
    exact ⟨r, hr, hcr, by rw [hptr, ← hlen]⟩

/-- On a `GuestMemoryHybrid`, a wrapped slice whose guest range lies in one region is the host
backing of that range. -/
theorem Wrapped.backing {m : GuestMemoryHybrid} {addr : UInt64} {size : Nat} {s : HostSlice}
    (h : Wrapped m addr size s) {r : Region} (hr : r ∈ m.regions) (hc : r.contains addr.toNat)
    (hend : addr.toNat + size ≤ r.start.toNat + r.len.toNat) :
    m.host_range addr size = some s.ptr ∧ s.len = size := by
  obtain ⟨⟨r', hr', hc', rfl⟩, -⟩ := h.regions
  have hrr : r' = r := region_unique hr' hr hc' hc
  subst hrr
  exact ⟨host_range_of_region hr' hc' hend, rfl⟩

theorem BufWrapper.from_virtq_desc_backing {m : GuestMemoryHybrid} {desc : Descriptor}
    {s : HostSlice} (h : BufWrapper.from_virtq_desc m desc = .ok s) {r : Region}
    (hr : r ∈ m.regions) (hc : r.contains desc.addr.toNat)
    (hend : desc.addr.toNat + desc.len.toNat ≤ r.start.toNat + r.len.toNat) :
    m.host_range desc.addr desc.len.toNat = some s.ptr ∧ s.len = desc.len.toNat :=
  Wrapped.backing (m := m) (BufWrapper.from_virtq_desc_ok h) hr hc hend

/-- Every slice of a packet accepted from the TX queue is a wrapped range of one of the chain's
descriptors: the header of the head descriptor, the buffer of the next one. -/
theorem from_tx_virtq_head_ok {m : VsockMemory} {chain : List Descriptor}
    {pkt : VsockPacket} (h : from_tx_virtq_head m chain = .ok pkt) :
    ∃ desc rest, chain = desc :: rest ∧ Wrapped m desc.addr VSOCK_PKT_HDR_SIZE pkt.hdr ∧
      ∀ b, pkt.buf = some b → ∃ buf_desc, buf_desc ∈ rest ∧ Wrapped m buf_desc.addr buf_desc.len.toNat b := by
  match chain, h with
  | desc :: rest, h =>
    refine ⟨desc, rest, rfl, ?_⟩
    unfold from_tx_virtq_head at h
    -- the head is readable and its header wraps
    obtain ⟨-, h⟩ := Except.ite_throw_eq_ok.mp h
    obtain ⟨hdr, hhdr, h⟩ := Except.bind_eq_ok_iff.mp h
    have hw_hdr := HdrWrapper.from_virtq_desc_ok hhdr
    obtain ⟨-, h⟩ := Except.ite_throw_eq_ok.mp h
    by_cases hz : hdr_len m desc = 0
    · rw [if_pos hz, Except.pure_eq_ok, Except.ok.injEq] at h
      subst h
      exact ⟨hw_hdr, fun b hb => nomatch hb⟩
    · rw [if_neg hz] at h
      -- a packet with a body: the next descriptor is readable, long enough, and wraps
      cases rest with
      | nil => exact nomatch h
      | cons buf_desc _ =>
        obtain ⟨-, h⟩ := Except.ite_throw_eq_ok.mp h
        obtain ⟨-, h⟩ := Except.ite_throw_eq_ok.mp h
        obtain ⟨buf, hbuf, h⟩ := Except.bind_eq_ok_iff.mp h
        rw [Except.pure_eq_ok, Except.ok.injEq] at h
        subst h
        refine ⟨hw_hdr, fun b hb => ⟨buf_desc, List.mem_cons_self, ?_⟩⟩
        cases hb
        exact BufWrapper.from_virtq_desc_ok hbuf

end KataContainers.Dragonball.Vsock
