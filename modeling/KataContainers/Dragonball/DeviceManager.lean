import KataContainers.Dragonball.ResourceManager
import KataContainers.Lib.BTreeMap

/-!
# The I/O manager of trapped MMIO and port I/O

Model of `IoManager` (`dbs_device/src/device_manager.rs`): two `BTreeMap<IoRange, Arc<dyn DeviceIo>>`
buses, `register_device_io` and `unregister_device_io`, and the dispatch of a trapped access to the
device whose range holds the address.

`IoRange` is equal and ordered by its `base` alone, so a bus is a `BTreeMap` keyed by `base`
(`BTreeMap` with `IoRange.ord`). The device behind an `Arc<dyn DeviceIo>` is a value of a type `D`:
what the manager does with it is store it, compare nothing of it, and call it.

`register_device_io` detects a conflict from `BTreeMap::insert`'s return value, after the insert
has given the existing entry the new device; the rollback then removes only the resources before
the conflicting one. A failed registration therefore leaves the old range mapped to the new device
(`register_device_io_overwrites`). The conflict test compares bases only: a range that overlaps a
registered one with another base is accepted (`register_device_io_fresh`), and the lookup, which
tries only the range with the greatest base at most the address, then misses addresses that a
registered range holds (`mmio_read_misses_overlapped`). Over buses whose ranges are disjoint the
lookup is exact (`get_mmio_device_eq_some_iff_contains`).
-/

namespace KataContainers.Dragonball.DeviceManager

/-- The errors of `IoManager`. -/
inductive Error
  /-- `"device address conflicts with existing devices"` -/
  | DeviceOverlap
  /-- `"no such device"` -/
  | NoDevice
  deriving DecidableEq, Repr

/-- `IoRange`: equal and ordered by `base` alone. -/
structure IoRange where
  base : UInt64
  size : UInt64
  deriving DecidableEq, Repr

namespace IoRange

def new_pio_range (base size : UInt16) : IoRange := ⟨base.toUInt64, size.toUInt64⟩

def new_mmio_range (base size : UInt64) : IoRange := ⟨base, size⟩

/-- What `Ord for IoRange` compares: the base. -/
def ord (r : IoRange) : Nat := r.base.toNat

/-- The addresses of the range, `[base, base + size)`, counted without wrapping. -/
def contains (r : IoRange) (addr : Nat) : Prop := r.base.toNat ≤ addr ∧ addr < r.base.toNat + r.size.toNat

instance (r : IoRange) (addr : Nat) : Decidable (r.contains addr) :=
  inferInstanceAs (Decidable (_ ∧ _))

end IoRange

/-- The two buses. -/
inductive BusKind
  | Pio
  | Mmio
  deriving DecidableEq, Repr

/-- A bus, `BTreeMap<IoRange, Arc<dyn DeviceIo>>`, as its entries in increasing `base` order. -/
abbrev Bus (D : Type) := List (IoRange × D)

structure IoManager (D : Type) where
  pio_bus : Bus D
  mmio_bus : Bus D
  deriving DecidableEq, Repr

/-- The bus a resource is trapped on and its range: `Resource::PioAddressRange` on `pio_bus`,
`Resource::MmioAddressRange` on `mmio_bus`. The other resources are ignored. -/
def io_range : Resource → Option (BusKind × IoRange)
  | .PioAddressRange base size => some (.Pio, IoRange.new_pio_range base size)
  | .MmioAddressRange base size => some (.Mmio, IoRange.new_mmio_range base size)
  | _ => none

/-- What a trapped access calls: `DeviceIo::read` or `write` (`pio_read` or `pio_write`). -/
inductive Access
  | read
  | write
  deriving DecidableEq, Repr

/-- The call a trapped access is dispatched to: the device, the base of its range and the offset of
the address in it. -/
structure Dispatch (D A : Type) where
  access : Access
  device : D
  base : A
  offset : A
  deriving DecidableEq, Repr

namespace IoManager

variable {D : Type}

def new : IoManager D := ⟨[], []⟩

def bus (m : IoManager D) : BusKind → Bus D
  | .Pio => m.pio_bus
  | .Mmio => m.mmio_bus

def set_bus (m : IoManager D) : BusKind → Bus D → IoManager D
  | .Pio, b => { m with pio_bus := b }
  | .Mmio, b => { m with mmio_bus := b }

@[simp] theorem bus_set_bus_same {m : IoManager D} {k : BusKind} {b : Bus D} :
    (m.set_bus k b).bus k = b := by
  cases k <;> rfl

@[simp] theorem bus_set_bus_other {m : IoManager D} {k k' : BusKind} {b : Bus D} (h : k ≠ k') :
    (m.set_bus k b).bus k' = m.bus k' := by
  cases k <;> cases k' <;> first | rfl | exact absurd rfl h

/-- `unregister_device_io`: each trapped range of the list taken off its bus. The source returns
`Ok(())` always. -/
def unregister_device_io (self : IoManager D) : List Resource → IoManager D
  | [] => self
  | res :: rest =>
    match io_range res with
    | some (kind, range) =>
      (self.set_bus kind (BTreeMap.remove IoRange.ord (self.bus kind) range).1).unregister_device_io
        rest
    | none => self.unregister_device_io rest

/-- `register_device_io`: the manager after the call, and its result. Each trapped range is
inserted on its bus; when `BTreeMap::insert` reports a range with the same `base`, which it has
already given the new device, the resources before it are unregistered and the call fails. -/
def register_device_io (self : IoManager D) (device : D) (resources : List Resource) :
    IoManager D × Except Error Unit :=
  loop self 0 resources
where
  loop (self : IoManager D) (idx : Nat) : List Resource → IoManager D × Except Error Unit
  | [] => (self, .ok ())
  | res :: rest =>
    match io_range res with
    | some (kind, range) =>
      let r := BTreeMap.insert IoRange.ord (self.bus kind) range device
      let self := self.set_bus kind r.1
      if r.2.isSome then
        -- Rollback registered resources.
        (self.unregister_device_io (resources.take idx), .error .DeviceOverlap)
      else loop self (idx + 1) rest
    | none => loop self (idx + 1) rest

/-- `get_mmio_device`: the entry with the greatest base at most `addr`, if its range holds `addr`. -/
def get_mmio_device (self : IoManager D) (addr : UInt64) : Option (D × UInt64) :=
  let range := IoRange.new_mmio_range addr 0
  match BTreeMap.last_le IoRange.ord self.mmio_bus range with
  | some (range, dev) => if addr - range.base < range.size then some (dev, range.base) else none
  | none => none

/-- `get_pio_device`, the same search on `pio_bus` with 16-bit addresses. -/
def get_pio_device (self : IoManager D) (addr : UInt16) : Option (D × UInt16) :=
  let range := IoRange.new_pio_range addr 0
  match BTreeMap.last_le IoRange.ord self.pio_bus range with
  | some (range, dev) =>
    if addr.toUInt64 - range.base < range.size then some (dev, range.base.toUInt16) else none
  | none => none

def mmio_dispatch (self : IoManager D) (access : Access) (addr : UInt64) :
    Except Error (Dispatch D UInt64) :=
  match self.get_mmio_device addr with
  | some (device, base) => .ok ⟨access, device, base, addr - base⟩
  | none => .error .NoDevice

def pio_dispatch (self : IoManager D) (access : Access) (addr : UInt16) :
    Except Error (Dispatch D UInt16) :=
  match self.get_pio_device addr with
  | some (device, base) => .ok ⟨access, device, base, addr - base⟩
  | none => .error .NoDevice

def mmio_read (self : IoManager D) (addr : UInt64) : Except Error (Dispatch D UInt64) :=
  self.mmio_dispatch .read addr

def mmio_write (self : IoManager D) (addr : UInt64) : Except Error (Dispatch D UInt64) :=
  self.mmio_dispatch .write addr

def pio_read (self : IoManager D) (addr : UInt16) : Except Error (Dispatch D UInt16) :=
  self.pio_dispatch .read addr

def pio_write (self : IoManager D) (addr : UInt16) : Except Error (Dispatch D UInt16) :=
  self.pio_dispatch .write addr

/-! ## Registration -/

/-- The range of a resource in the bus order: the base, as `IoRange`'s `Ord` sees it. -/
theorem new_pio_range_ord {base size : UInt16} :
    (IoRange.new_pio_range base size).ord = base.toUInt64.toNat := rfl

/-- One step of the registration loop, on a trapped resource. -/
theorem loop_cons_some {device : D} {resources rest : List Resource} {self : IoManager D}
    {idx : Nat} {res : Resource} {kind : BusKind} {range : IoRange}
    (h : io_range res = some (kind, range)) :
    register_device_io.loop device resources self idx (res :: rest) =
      if (BTreeMap.insert IoRange.ord (self.bus kind) range device).2.isSome then
        ((self.set_bus kind (BTreeMap.insert IoRange.ord (self.bus kind) range device).1
          ).unregister_device_io (resources.take idx), .error .DeviceOverlap)
      else register_device_io.loop device resources
        (self.set_bus kind (BTreeMap.insert IoRange.ord (self.bus kind) range device).1)
        (idx + 1) rest := by
  simp only [register_device_io.loop, h]

/-- A trapped range whose base is not yet on its bus is registered, whatever it overlaps. -/
theorem register_device_io_fresh {self : IoManager D} {device : D} {res : Resource}
    {kind : BusKind} {range : IoRange} (hs : BTreeMap.Sorted IoRange.ord (self.bus kind))
    (hres : io_range res = some (kind, range))
    (hnone : BTreeMap.find IoRange.ord (self.bus kind) range.ord = none) :
    self.register_device_io device [res] =
      (self.set_bus kind (BTreeMap.insert IoRange.ord (self.bus kind) range device).1, .ok ()) := by
  have hold : (BTreeMap.insert IoRange.ord (self.bus kind) range device).2 = none := by
    rw [BTreeMap.insert_snd hs, hnone]
    rfl
  rw [register_device_io, loop_cons_some hres, hold]
  rfl

/-- A registration that meets a port range with the same base fails, and leaves that range mapped
to the new device: the rollback does not undo what the failed insert did. -/
theorem register_device_io_overwrites {self : IoManager D} {device d : D} {r : IoRange}
    {base size : UInt16} (hs : BTreeMap.Sorted IoRange.ord self.pio_bus)
    (hr : (r, d) ∈ self.pio_bus) (hbase : r.base = base.toUInt64) (hd : d ≠ device) :
    ∃ self', self.register_device_io device [.PioAddressRange base size] =
        (self', .error .DeviceOverlap) ∧
      (r, device) ∈ self'.pio_bus ∧ (r, d) ∉ self'.pio_bus ∧ self'.mmio_bus = self.mmio_bus := by
  have hord : r.ord = (IoRange.new_pio_range base size).ord := congrArg UInt64.toNat hbase
  have hfind : BTreeMap.find IoRange.ord self.pio_bus r.ord = some (r, d) :=
    BTreeMap.find_of_mem hs hr
  -- the insert reports the old device and gives the range the new one
  have hold : (BTreeMap.insert IoRange.ord self.pio_bus (IoRange.new_pio_range base size)
      device).2 = some d := by
    rw [BTreeMap.insert_snd hs, ← hord, hfind]
    rfl
  have hnew : BTreeMap.find IoRange.ord
      (BTreeMap.insert IoRange.ord self.pio_bus (IoRange.new_pio_range base size) device).1 r.ord =
        some (r, device) := by
    rw [BTreeMap.find_insert hs, if_pos hord.symm, hfind]
    rfl
  refine ⟨{ self with pio_bus := (BTreeMap.insert IoRange.ord self.pio_bus
    (IoRange.new_pio_range base size) device).1 }, ?_, (BTreeMap.find_spec hnew).1, fun hmem => ?_,
    rfl⟩
  · rw [register_device_io, loop_cons_some rfl]
    simp only [bus, hold, Option.isSome_some, if_true, List.take_zero]
    rfl
  · -- a sorted bus holds one entry per base
    have hfind' := BTreeMap.find_of_mem (BTreeMap.insert_sorted hs _ _) hmem
    rw [hnew] at hfind'
    exact hd (congrArg Prod.snd (Option.some.inj hfind')).symm

/-- The witness: port `0` of device `0` taken by device `1`. -/
theorem register_device_io_overwrites_port_zero :
    BTreeMap.Sorted IoRange.ord [((⟨0, 1⟩ : IoRange), 0)] ∧
    ∃ self', (⟨[(⟨0, 1⟩, 0)], []⟩ : IoManager Nat).register_device_io 1 [.PioAddressRange 0 1] =
        (self', .error .DeviceOverlap) ∧
      (⟨0, 1⟩, 1) ∈ self'.pio_bus ∧ (⟨0, 1⟩, 0) ∉ self'.pio_bus ∧ self'.mmio_bus = [] :=
  ⟨by simp [BTreeMap.Sorted], register_device_io_overwrites (by simp [BTreeMap.Sorted])
    List.mem_cons_self rfl (by decide)⟩

/-! ## Dispatch -/

/-- The ranges of a bus hold no address in common, and none is empty. -/
def Disjoint (b : Bus D) : Prop :=
  (∀ e ∈ b, 0 < e.1.size.toNat) ∧ b.Pairwise fun e e' => ∀ a, ¬ (e.1.contains a ∧ e'.1.contains a)

/-- Above the base, the source's test `addr - base < size` is membership in the range. -/
theorem sub_lt_size_iff {r : IoRange} {addr : UInt64} (h : r.base.toNat ≤ addr.toNat) :
    addr - r.base < r.size ↔ r.contains addr.toNat := by
  rw [UInt64.lt_iff_toNat_lt, UInt64.toNat_sub_of_le _ _ (UInt64.le_iff_toNat_le.mpr h),
    IoRange.contains]
  omega

/-- `get_mmio_device` finds the range with the greatest base at most the address, if it holds the
address. -/
theorem get_mmio_device_spec {self : IoManager D} (hs : BTreeMap.Sorted IoRange.ord self.mmio_bus)
    {addr : UInt64} {d : D} {b : UInt64} :
    self.get_mmio_device addr = some (d, b) ↔
      ∃ r, BTreeMap.last_le IoRange.ord self.mmio_bus (IoRange.new_mmio_range addr 0) = some (r, d) ∧
        r.base = b ∧ r.contains addr.toNat := by
  cases h : BTreeMap.last_le IoRange.ord self.mmio_bus (IoRange.new_mmio_range addr 0) with
  | none => simp [get_mmio_device, h]
  | some e =>
    obtain ⟨r, d'⟩ := e
    have hle : r.base.toNat ≤ addr.toNat := (BTreeMap.last_le_spec hs h).2.1
    simp only [get_mmio_device, h, sub_lt_size_iff hle, Option.some.injEq, Prod.mk.injEq]
    split_ifs with hc
    · constructor
      · rintro ⟨rfl, rfl⟩
        exact ⟨r, ⟨rfl, rfl⟩, rfl, hc⟩
      · rintro ⟨r', ⟨rfl, rfl⟩, rfl, -⟩
        rfl
    · simp only [false_iff, not_exists, not_and]
      rintro r' ⟨rfl, rfl⟩ - hc'
      exact hc hc'

/-- Over a bus of disjoint, non-empty ranges, `get_mmio_device` finds exactly the range that holds
the address. -/
theorem get_mmio_device_eq_some_iff_contains {self : IoManager D}
    (hs : BTreeMap.Sorted IoRange.ord self.mmio_bus) (hd : Disjoint self.mmio_bus)
    {addr : UInt64} {d : D} {b : UInt64} :
    self.get_mmio_device addr = some (d, b) ↔
      ∃ r, (r, d) ∈ self.mmio_bus ∧ r.base = b ∧ r.contains addr.toNat := by
  rw [get_mmio_device_spec hs]
  constructor
  · rintro ⟨r, hr, hb, hc⟩
    exact ⟨r, (BTreeMap.last_le_spec hs hr).1, hb, hc⟩
  · rintro ⟨r, hr, hb, hc⟩
    refine ⟨r, (BTreeMap.last_le_eq_some_iff hs).mpr ⟨hr, hc.1, fun e he hle => ?_⟩, hb, hc⟩
    -- a range with a base between `r`'s and the address would hold its own base, which `r` holds
    by_contra hgt
    have hne : e ≠ (r, d) := fun heq => hgt (heq ▸ le_refl _)
    have hown : e.1.contains e.1.base.toNat := ⟨le_refl _, by have := hd.1 e he; omega⟩
    have hin : r.contains e.1.base.toNat := ⟨le_of_lt (not_le.mp hgt), lt_of_le_of_lt hle hc.2⟩
    rcases List.Pairwise.rel_or_rel hd.2 he hr hne with h | h
    · exact h _ ⟨hown, hin⟩
    · exact h _ ⟨hin, hown⟩

/-- Device `0` on `[0, 0x1000)`, and device `1` on `[0x100, 0x110)`, inside it. -/
def overlapped_mmio : IoManager Nat := ⟨[], [(⟨0, 0x1000⟩, 0), (⟨0x100, 0x10⟩, 1)]⟩

/-- Two successful registrations from `IoManager::new` leave ranges that share addresses, and a
read of `0x200`, which device `0`'s range holds, finds no device: the lookup tries only the range
of device `1`, whose base is the greatest at most `0x200`. -/
theorem mmio_read_misses_overlapped :
    (IoManager.new : IoManager Nat).register_device_io 0 [.MmioAddressRange 0 0x1000] =
        (⟨[], [(⟨0, 0x1000⟩, 0)]⟩, .ok ()) ∧
      IoManager.register_device_io ⟨[], [(⟨0, 0x1000⟩, 0)]⟩ 1 [.MmioAddressRange 0x100 0x10] =
        (overlapped_mmio, .ok ()) ∧
      (⟨0, 0x1000⟩ : IoRange).contains 0x100 ∧ (⟨0x100, 0x10⟩ : IoRange).contains 0x100 ∧
      (⟨0, 0x1000⟩ : IoRange).contains 0x200 ∧ overlapped_mmio.mmio_read 0x200 = .error .NoDevice :=
  ⟨rfl, rfl, by decide, by decide, by decide, rfl⟩

end IoManager

end KataContainers.Dragonball.DeviceManager
