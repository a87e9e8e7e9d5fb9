import KataContainers.Dragonball.Block
import KataContainers.Dragonball.Vsock

/-!
# Host ranges built from guest ranges

The raw host ranges the vsock and virtio-blk devices hand to `from_raw_parts` or to the kernel,
compared with the host backing of the guest ranges they stand for (`host_range`). Both devices
translate only the first byte of a range: virtio-blk's AIO path builds each iovec from
`get_host_address(data_addr)` and `data_len` (`aio_iovecs_translate`), as the vsock wrappers do
after their end-address check. On a guest memory with a gap, a buffer that starts in one region and
ends in the next gets a host range running past the first region's mapping
(`host_slices_cross_gap`).
-/

namespace KataContainers.Dragonball

open GuestMemoryHybrid Block

/-- Each iovec of the AIO path starts at the translation of its data descriptor's first byte,
through the region that holds it, and keeps the descriptor's length. -/
theorem aio_iovecs_translate {m : GuestMemoryHybrid} :
    ∀ {descs iovecs : List IoDataDesc},
      aio_iovecs (BlockMemory.of_guest_memory m) descs = .ok iovecs →
      List.Forall₂ (fun io iov => ∃ r ∈ m.regions, r.contains io.data_addr.toNat ∧
        iov = ⟨r.host + (io.data_addr - r.start), io.data_len⟩) descs iovecs := by
  intro descs
  induction descs with
  | nil => intro iovecs h; cases h; exact .nil
  | cons io rest ih =>
    intro iovecs h
    unfold aio_iovecs at h
    cases hf : m.find_region io.data_addr with
    | none =>
      have hh : m.get_host_address io.data_addr = none := by simp [get_host_address, hf]
      simp [BlockMemory.of_guest_memory, hh] at h
    | some r =>
      have hh := get_host_address_of_find_region hf
      obtain ⟨hr, hc⟩ := find_region_sound hf
      simp only [BlockMemory.of_guest_memory, hh] at h
      obtain ⟨tail, htail, h⟩ := Except.bind_eq_ok_iff.mp h
      simp only [Except.pure_eq_ok, Except.ok.injEq] at h
      subst h
      exact .cons ⟨r, hr, hc, rfl⟩ (ih htail)

/-- A guest with a gap: `[0, 0x1000)` at host `0x100000` and `[0x2000, 0x3000)` at host
`0x500000`. The only non-zero byte is at 25, so the word at 24 is `0x100`. -/
def gap_memory : GuestMemoryHybrid where
  regions := [⟨0, 0x1000, 0x100000, none⟩, ⟨0x2000, 0x1000, 0x500000, none⟩]
  nonempty := by decide
  valid := by decide
  sorted := by decide
  bytes a := if a = 25 then 1 else 0

/-- On `gap_memory`, the guest range `[0xF00, 0x2100)` crosses the gap and has no host backing.
A vsock TX packet whose buffer descriptor is that range is accepted with the buffer slice of
`0x1200` bytes from host `0x100F00`, and a virtio-blk read into that range is submitted to the
I/O engine with the same host iovec and completes with the engine's status. -/
theorem host_slices_cross_gap :
    gap_memory.host_range 0xF00 0x1200 = none ∧
      Vsock.from_tx_virtq_head gap_memory [⟨0, 44, false, true⟩, ⟨0xF00, 0x1200, false, false⟩] =
        .ok ⟨⟨0x100000, 44⟩, some ⟨0x100F00, 0x1200⟩⟩ ∧
      (process_chain [⟨0, 16, false, true⟩, ⟨0xF00, 0x1200, true, true⟩, ⟨0x800, 1, true, false⟩]
          0 (BlockMemory.of_guest_memory gap_memory) ⟨0x100000, 0x100000⟩ [] true
          VIRTIO_BLK_S_OK).iovecs = [⟨0x100F00, 0x1200⟩] ∧
      (process_chain [⟨0, 16, false, true⟩, ⟨0xF00, 0x1200, true, true⟩, ⟨0x800, 1, true, false⟩]
          0 (BlockMemory.of_guest_memory gap_memory) ⟨0x100000, 0x100000⟩ [] true
          VIRTIO_BLK_S_OK).status = some VIRTIO_BLK_S_OK := by
  decide

end KataContainers.Dragonball
