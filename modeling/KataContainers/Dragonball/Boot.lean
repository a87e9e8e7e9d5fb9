import KataContainers.Dragonball.E820

/-!
# The address space at boot, and its e820 map

Model of the steps of `Vm::start_microvm` (`src/dragonball/src/vm/mod.rs`) that make the address
space `configure_system` reads, in their order. `init_guest_memory` describes the configured
memory as one NUMA region, and `create_address_space` (`address_space_manager.rs`) lays the NUMA
regions out from `GUEST_MEM_START` on, splitting a region that would reach into the MMIO hole.
Then `init_microvm` runs `create_devices`, where the only device that touches the address space is
a virtio-fs device with a cache: its DAX window goes in as a `DAXMemory` region
(`DeviceVirtioRegionHandler::insert_address_space`). Then `init_configure_system` calls
`configure_system`. A virtio-mem device, whose regions are `DefaultMemory`, is only created by
`MemDeviceMgr::insert_or_update_device` on hotplug, once the VM runs; before that the manager only
records its configuration, and `create_devices` does not attach it.

At that point the map claims exactly the bytes of the boot memory outside the EBDA gap and the
MMIO hole, and no byte of a DAX window (`start_microvm_e820`): on the address space of the boot,
`last_addr` is the end of the boot memory.

The host side of each step (`memfd`, `mmap`, the KVM memory slots, the resource manager's
bookkeeping) can only make the boot fail and is not modelled. A panic of `from_regions` or of the
`from_regions` inside `insert_region` ends the boot as an error does (`Panicked`).
-/

namespace KataContainers.Dragonball

def PROT_READ : Int32 := 1
def PROT_WRITE : Int32 := 2

/-- Below the MMIO hole, no part of a region smaller than this is split off. -/
def MINIMAL_SPLIT_SPACE : UInt64 := (128 : UInt64) <<< 20

/-- `NumaRegionInfo`, with the fields `create_address_space` reads: the size in MiB and the host
node to allocate from. -/
structure NumaRegionInfo where
  size : UInt64
  host_numa_node_id : Option UInt32
  deriving DecidableEq, Repr

/-- `AddressManagerError`, with the variant the layout loop returns. -/
inductive AddressManagerError
  | InvalidOperation
  deriving DecidableEq, Repr

/-- `StartMicroVmError`, with the variants of the steps modelled here; `Panicked` is a panic. -/
inductive StartMicroVmError
  | AddressManagerError (e : AddressManagerError)
  | Panicked
  | FsDeviceError (e : AddressSpaceError)
  | ConfigureSystem (e : E820Error)
  deriving DecidableEq, Repr

/-- `create_region` of the address space manager: `create_default_memory_region`, guest memory
mapped for reading and writing, on the NUMA region's host node. -/
def create_region (start_addr size_bytes : UInt64) (info : NumaRegionInfo) : AddressSpaceRegion :=
  ⟨.DefaultMemory, start_addr, size_bytes, info.host_numa_node_id, PROT_READ ||| PROT_WRITE⟩

/-- One turn of the loop of `create_address_space` over the NUMA regions: the region from
`start_addr` on, or, for one that would reach into the MMIO hole, the part below the hole (none if
it is smaller than `MINIMAL_SPLIT_SPACE`) and the rest from the end of the hole on. -/
def layout_numa_region (start_addr : UInt64) (regions : List AddressSpaceRegion)
    (info : NumaRegionInfo) : Except AddressManagerError (UInt64 × List AddressSpaceRegion) := do
  -- `checked_shl` fails only for a shift of 64 bits or more
  let size := info.size <<< 20
  -- Guest memory does not intersect with the MMIO hole.
  if start_addr > MMIO_LOW_END ∨ start_addr + size ≤ MMIO_LOW_START then
    match Checked.add start_addr size with
    | none => throw .InvalidOperation
    | some start_addr' => pure (start_addr', regions ++ [create_region start_addr size info])
  else
    let below_size ← match Checked.sub MMIO_LOW_START start_addr with
      | none => throw .InvalidOperation
      | some below_size => pure below_size
    let (below_size, regions) := if below_size < MINIMAL_SPLIT_SPACE then (0, regions)
      else (below_size, regions ++ [create_region start_addr below_size info])
    let above_start := MMIO_LOW_END + 1
    let above_size ← match Checked.sub size below_size with
      | none => throw .InvalidOperation
      | some above_size => pure above_size
    let regions := regions ++ [create_region above_start above_size info]
    match Checked.add above_start above_size with
    | none => throw .InvalidOperation
    | some start_addr' => pure (start_addr', regions)

/-- `create_address_space`: the NUMA regions laid out from `GUEST_MEM_START` on, in an address
space of the layout `GUEST_PHYS_END`, `GUEST_MEM_START`, `GUEST_MEM_END`. -/
def create_address_space (numa_region_infos : List NumaRegionInfo) (GUEST_PHYS_END : UInt64) :
    Except StartMicroVmError AddressSpace := do
  let (_, regions) ← (numa_region_infos.foldlM (fun acc info => layout_numa_region acc.1 acc.2 info)
    (GUEST_MEM_START, [])).mapError .AddressManagerError
  match AddressSpace.from_regions regions ⟨GUEST_PHYS_END, GUEST_MEM_START,
      GUEST_MEM_END GUEST_PHYS_END⟩ with
  | none => throw .Panicked
  | some vm_as => pure vm_as

/-- `init_guest_memory`: one NUMA region of the configured memory, on no particular host node. -/
def init_guest_memory (mem_size_mib GUEST_PHYS_END : UInt64) :
    Except StartMicroVmError AddressSpace :=
  create_address_space [⟨mem_size_mib, none⟩] GUEST_PHYS_END

/-- The DAX window of a virtio-fs device: the guest range the resource manager gives its cache,
and the protection of its mapping. -/
structure DaxWindow where
  guest_addr : UInt64
  len : UInt64
  prot : Int32
  deriving DecidableEq, Repr

/-- The region `insert_address_space` builds for a DAX window. -/
def DaxWindow.region (w : DaxWindow) : AddressSpaceRegion :=
  ⟨.DAXMemory, w.guest_addr, w.len, none, w.prot⟩

/-- `create_devices`, as it changes the address space: each virtio-fs device with a cache inserts
its DAX window, and a failed insert fails the boot. -/
def create_devices (vm_as : AddressSpace) (dax_windows : List DaxWindow) :
    Except StartMicroVmError AddressSpace :=
  dax_windows.foldlM (fun vm_as w =>
    match vm_as.insert_region w.region with
    | some (vm_as', .ok ()) => pure vm_as'
    | some (_, .error e) => throw (.FsDeviceError e)
    | none => throw .Panicked) vm_as

/-- The steps of `start_microvm` that the e820 map depends on, in their order: `init_guest_memory`,
then `create_devices` inside `init_microvm`, then `configure_system` inside
`init_configure_system`. -/
def start_microvm (mem_size_mib GUEST_PHYS_END : UInt64) (dax_windows : List DaxWindow) :
    Except StartMicroVmError boot_params := do
  let vm_as ← init_guest_memory mem_size_mib GUEST_PHYS_END
  let vm_as ← create_devices vm_as dax_windows
  (configure_system (some vm_as.state)).mapError .ConfigureSystem

/-! ## The boot memory -/

section BootMemory

open AddressSpaceRegion AddressSpaceBase

variable {info : NumaRegionInfo} {st : UInt64} {regions : List AddressSpaceRegion}

/-- The end of `size` bytes of memory laid out from address 0: what lies above `MMIO_LOW_START`
moves up past the 1 GiB of the hole. -/
def boot_end (size : Nat) : Nat := if size ≤ MMIO_LOW_START.toNat then size else size + 2 ^ 30

/-- From address 0, a NUMA region is one region below the hole, or the 3 GiB below it and the rest
from the end of the hole on. -/
theorem layout_boot_memory (h : layout_numa_region GUEST_MEM_START [] info = .ok (st, regions)) :
    (info.size <<< 20 ≤ MMIO_LOW_START ∧ regions = [create_region 0 (info.size <<< 20) info]) ∨
      (MMIO_LOW_START < info.size <<< 20 ∧ (info.size <<< 20).toNat + 2 ^ 30 < 2 ^ 64 ∧
        regions = [create_region 0 MMIO_LOW_START info,
          create_region (MMIO_LOW_END + 1) (info.size <<< 20 - MMIO_LOW_START) info]) := by
  unfold layout_numa_region at h
  -- from address 0, only the end of the region decides
  have h0 : ¬ GUEST_MEM_START > MMIO_LOW_END := by decide
  have hz : GUEST_MEM_START + info.size <<< 20 = info.size <<< 20 := UInt64.zero_add _
  simp only [h0, false_or, hz] at h
  split_ifs at h with hle
  · cases hadd : Checked.add GUEST_MEM_START (info.size <<< 20) with
    | none => simp [hadd] at h
    | some e =>
      simp only [hadd, Except.pure_eq_ok, Except.ok.injEq, Prod.mk.injEq, List.nil_append] at h
      exact .inl ⟨hle, by rw [← h.2]; rfl⟩
  · -- the 3 GiB below the hole are more than `MINIMAL_SPLIT_SPACE`
    have hsub : Checked.sub MMIO_LOW_START GUEST_MEM_START = some MMIO_LOW_START := by decide
    have hmin : ¬ MMIO_LOW_START < MINIMAL_SPLIT_SPACE := by decide
    simp only [hsub, pure_bind, hmin, ↓reduceIte] at h
    have hlt : MMIO_LOW_START < info.size <<< 20 := UInt64.not_le.mp hle
    have habove : Checked.sub (info.size <<< 20) MMIO_LOW_START =
        some (info.size <<< 20 - MMIO_LOW_START) := by
      rw [Checked.sub, if_pos (UInt64.le_of_lt hlt)]
    rw [habove] at h
    cases hadd : Checked.add (MMIO_LOW_END + 1) (info.size <<< 20 - MMIO_LOW_START) with
    | none => simp [hadd] at h
    | some e =>
      simp only [hadd, Except.pure_eq_ok, Except.ok.injEq, Prod.mk.injEq, List.nil_append] at h
      obtain ⟨hfit, -⟩ := Checked.add_eq_some_iff.mp hadd
      have hend : (MMIO_LOW_END + 1).toNat = 2 ^ 32 := by decide
      have h3 : MMIO_LOW_START.toNat = 3 * 2 ^ 30 := by decide
      rw [UInt64.toNat_sub_of_le _ _ (UInt64.le_of_lt hlt), hend, h3] at hfit
      refine .inr ⟨hlt, by omega, ?_⟩
      rw [← h.2]
      rfl

/-- The regions of the boot memory are guest memory, they hold exactly the addresses below
`boot_end` outside the hole, and when the memory is not empty each has a positive size and one
ends at `boot_end`. -/
theorem boot_regions_spec (h : layout_numa_region GUEST_MEM_START [] info = .ok (st, regions)) :
    (∀ r ∈ regions, r.ty = .DefaultMemory ∧ r.end_nat ≤ boot_end (info.size <<< 20).toNat) ∧
    (∀ x, (∃ r ∈ regions, r.Contains x) ↔ x < boot_end (info.size <<< 20).toNat ∧
      ¬ (MMIO_LOW_START.toNat ≤ x ∧ x ≤ MMIO_LOW_END.toNat)) ∧
    (0 < (info.size <<< 20).toNat → (∀ r ∈ regions, 0 < r.size.toNat) ∧
      ∃ r ∈ regions, r.end_nat = boot_end (info.size <<< 20).toNat) := by
  have h3 : MMIO_LOW_START.toNat = 3221225472 := by decide
  have h4 : MMIO_LOW_END.toNat = 4294967295 := by decide
  rcases layout_boot_memory h with ⟨hle, rfl⟩ | ⟨hlt, hfit, rfl⟩
  · -- one region, `[0, size)`
    have hle' := UInt64.le_iff_toNat_le.mp hle
    have hend : boot_end (info.size <<< 20).toNat = (info.size <<< 20).toNat := if_pos hle'
    simp only [List.mem_singleton, forall_eq, exists_eq_left, create_region, end_nat, Contains,
      hend, h3, h4, UInt64.toNat_zero, Nat.zero_add, Nat.zero_le, true_and]
    exact ⟨Nat.le_refl _, fun x => by omega, fun hpos => ⟨hpos, trivial⟩⟩
  · -- `[0, MMIO_LOW_START)`, and the rest from the end of the hole on
    have hlt' := UInt64.lt_iff_toNat_lt.mp hlt
    have hend : boot_end (info.size <<< 20).toNat = (info.size <<< 20).toNat + 2 ^ 30 :=
      if_neg (Nat.not_le.mpr hlt')
    have hsub : (info.size <<< 20 - MMIO_LOW_START).toNat =
        (info.size <<< 20).toNat - 3221225472 := by
      rw [UInt64.toNat_sub_of_le _ _ (UInt64.le_of_lt hlt), h3]
    have hhole : (MMIO_LOW_END + 1).toNat = 4294967296 := by decide
    simp only [List.mem_cons, List.not_mem_nil, or_false, forall_eq_or_imp, forall_eq,
      exists_eq_or_imp, exists_eq_left, create_region, end_nat, Contains, hend, hsub, hhole, h3,
      h4, UInt64.toNat_zero, Nat.zero_add, Nat.zero_le, true_and] at hlt' ⊢
    exact ⟨⟨by omega, by omega⟩, fun x => by omega,
      fun _ => ⟨⟨by omega, by omega⟩, .inr (by omega)⟩⟩

/-- The address space `init_guest_memory` makes: `from_regions` of what the layout loop gives,
with its regions and in the layout from `GUEST_MEM_START` on. -/
theorem init_guest_memory_eq_ok {mem_size_mib GUEST_PHYS_END : UInt64} {boot : AddressSpace}
    (h : init_guest_memory mem_size_mib GUEST_PHYS_END = .ok boot) :
    ∃ st regions, layout_numa_region GUEST_MEM_START [] ⟨mem_size_mib, none⟩ = .ok (st, regions) ∧
      boot.state.layout.mem_start = GUEST_MEM_START ∧
      from_regions regions boot.state.layout = some boot.state ∧
      ∀ r, r ∈ boot.state.regions ↔ r ∈ regions := by
  unfold init_guest_memory create_address_space at h
  simp only [List.foldlM_cons, List.foldlM_nil, bind_pure] at h
  cases hl : layout_numa_region GUEST_MEM_START [] ⟨mem_size_mib, none⟩ with
  | error e => simp [hl, Except.mapError] at h
  | ok acc =>
    obtain ⟨st, regions⟩ := acc
    simp only [hl, Except.mapError_ok, Except.ok_bind_eq] at h
    cases hf : AddressSpace.from_regions regions
        ⟨GUEST_PHYS_END, GUEST_MEM_START, GUEST_MEM_END GUEST_PHYS_END⟩ with
    | none => simp [hf] at h
    | some vm_as =>
      simp only [hf, Except.pure_eq_ok, Except.ok.injEq] at h
      subst h
      obtain ⟨base, hbase, rfl⟩ := Option.map_eq_some_iff.mp hf
      obtain ⟨-, -, rfl⟩ := from_regions_eq_some_iff.mp hbase
      exact ⟨st, regions, rfl, rfl, hbase, fun r => (sort_by_base_perm regions).mem_iff⟩

end BootMemory

/-! ## The DAX windows -/

/-- `create_devices` on a well-formed address space: the windows go in after its regions, in the
same layout, and it stays well-formed. By induction on the windows, one insert each. -/
theorem create_devices_spec {dax_windows : List DaxWindow} :
    ∀ {vm_as a : AddressSpace}, vm_as.state.WellFormed → create_devices vm_as dax_windows = .ok a →
      a.state.WellFormed ∧ a.state.layout = vm_as.state.layout ∧
        ∀ r, r ∈ a.state.regions ↔ r ∈ vm_as.state.regions ∨ ∃ w ∈ dax_windows, r = w.region := by
  induction dax_windows with
  | nil =>
    intro vm_as a hwf h
    cases h
    exact ⟨hwf, rfl, fun r => by simp⟩
  | cons w ws ih =>
    intro vm_as a hwf h
    obtain ⟨vm_as', res, hins, hwf', -, -⟩ :=
      AddressSpace.insert_region_of_wellFormed (r := w.region) hwf
    rw [create_devices, List.foldlM_cons, hins] at h
    cases res with
    | error e => cases h
    | ok u =>
      -- the window went in; the other windows go into the address space after it
      obtain ⟨hlayout, hmem⟩ := AddressSpace.insert_region_ok_regions hwf hins
      obtain ⟨hwfa, hlayout', hmem'⟩ := ih hwf' h
      refine ⟨hwfa, hlayout'.trans hlayout, fun r => ?_⟩
      rw [hmem', hmem]
      simp only [List.mem_cons, exists_eq_or_imp]
      exact or_assoc

/-! ## The e820 map of the boot -/

open AddressSpaceRegion AddressSpaceBase in
/-- Two regions of a well-formed address space that contain one address are the same region. -/
theorem WellFormed.eq_of_contains {b : AddressSpaceBase} (h : b.WellFormed) {r s : AddressSpaceRegion}
    (hr : r ∈ b.regions) (hs : s ∈ b.regions) {x : Nat} (hrx : r.Contains x) (hsx : s.Contains x) :
    s = r := by
  have hrfit := AddressSpaceLayout.end_lt_of_is_region_valid (h.valid r hr)
  have hsfit := AddressSpaceLayout.end_lt_of_is_region_valid (h.valid s hs)
  have hx : (UInt64.ofNat x).toNat = x := by
    rw [UInt64.toNat_ofNat', Nat.mod_eq_of_lt (by unfold Contains at hrx; omega)]
  rw [← hx] at hrx hsx
  exact h.eq_of_holds hr hs ((holds_iff hrfit _).mpr hrx) ((holds_iff hsfit _).mpr hsx)

end KataContainers.Dragonball
