import KataContainers.Dragonball.Allocator

/-!
# The resource manager of the Dragonball VMM

Model of `src/dragonball/src/resource_manager.rs` on x86_64: six interval trees hand out legacy
IRQs, MSI IRQs, port I/O, MMIO, guest memory and KVM memory slots. `allocate_device_resources`
serves a device's requests one by one and, when one cannot be met, frees what it took so far with
`free_device_resources`, whose `free_*` functions check the range before they free it.

The pools, behind their mutexes, are the state of `RM`; a panic ends a call with `Except.error`.
`GUEST_PHYS_END` depends on the host's physical address size and is a parameter of `new`.

A free is checked with `base.checked_add(size)`, which rejects a range that ends at the top of its
type although allocation hands it out: the last I/O port is allocated and cannot be freed, and a
rollback stops at the first range it cannot free (`pio_top_port_not_freed`).
-/

namespace KataContainers.Dragonball

open Allocator

def LEGACY_IRQ_BASE : UInt32 := 5
def LEGACY_IRQ_MAX : UInt32 := 15
def SHARED_IRQ : UInt32 := LEGACY_IRQ_BASE
def MSI_IRQ_BASE : UInt32 := 24
def MSI_IRQ_MAX : UInt32 := 1023
def KVM_USER_MEM_SLOTS : UInt32 := 509
def PIO_MIN : UInt16 := 0x0
def PIO_MAX : UInt16 := 0xFFFF
def MMIO_SPACE_RESERVED : UInt64 := 0x4000000
def MMIO_LOW_START : UInt64 := (3 : UInt64) <<< 30
def MMIO_LOW_END : UInt64 := ((4 : UInt64) <<< 30) - 1
def GUEST_MEM_START : UInt64 := 0

/-- `GUEST_MEM_END`, half of `GUEST_PHYS_END`. -/
def GUEST_MEM_END (GUEST_PHYS_END : UInt64) : UInt64 := GUEST_PHYS_END >>> 1

inductive ResourceError
  /-- `"unsupported resource type"` -/
  | UnknownResourceType
  /-- `"invalid resource range for resource type : {0}"` -/
  | InvalidResourceRange (kind : String)
  /-- `"no resource available"` -/
  | NoAvailResource
  deriving DecidableEq, Repr

inductive MsiIrqType
  | PciMsi
  | PciMsix
  | GenericMsi
  deriving DecidableEq, Repr

/-- The resources of `Resource` that the manager hands out. -/
inductive Resource
  | PioAddressRange (base size : UInt16)
  | MmioAddressRange (base size : UInt64)
  | MemAddressRange (base size : UInt64)
  | LegacyIrq (irq : UInt32)
  | MsiIrq (ty : MsiIrqType) (base size : UInt32)
  | MacAddresss (mac : String)
  | KvmMemSlot (slot : UInt32)
  deriving DecidableEq, Repr

inductive ResourceConstraint
  | PioAddress (range : Option (UInt16 × UInt16)) (align size : UInt16)
  | MmioAddress (range : Option (UInt64 × UInt64)) (align size : UInt64)
  | MemAddress (range : Option (UInt64 × UInt64)) (align size : UInt64)
  | LegacyIrq (irq : Option UInt32)
  | PciMsiIrq (size : UInt32)
  | PciMsixIrq (size : UInt32)
  | GenericIrq (size : UInt32)
  | KvmMemSlot (slot : Option UInt32) (size : UInt32)
  deriving DecidableEq, Repr

structure ResourceManager where
  legacy_irq_pool : IntervalTree Unit
  msi_irq_pool : IntervalTree Unit
  pio_pool : IntervalTree Unit
  mmio_pool : IntervalTree Unit
  mem_pool : IntervalTree Unit
  kvm_mem_slot_pool : IntervalTree Unit
  deriving DecidableEq, Repr

/-- A call on the manager: its pools are the state, and a panic is an error. -/
abbrev RM := StateT ResourceManager (Except Panic)

/-- `checked_add` of `u16`. -/
def checked_add_u16 (a b : UInt16) : Option UInt16 :=
  if a.toNat + b.toNat < 2 ^ 16 then some (a + b) else none

/-- `checked_add` of `u32`. -/
def checked_add_u32 (a b : UInt32) : Option UInt32 :=
  if a.toNat + b.toNat < 2 ^ 32 then some (a + b) else none

/-! ## Building the pools -/

def init_mmio_pool_helper (GUEST_PHYS_END : UInt64) (mmio : IntervalTree Unit) :
    Except Panic (IntervalTree Unit) := do
  let mmio ← mmio.insert (← Range.new MMIO_LOW_START MMIO_LOW_END) none
  let mmio ← if !(GUEST_MEM_END GUEST_PHYS_END < MMIO_LOW_START ∨ GUEST_MEM_START > MMIO_LOW_END ∨
      MMIO_LOW_START = MMIO_LOW_END) then do
      -- the 64 MiB below 4 GiB are kept for the system devices of x86
      let constraint : Constraint :=
        { Constraint.new MMIO_SPACE_RESERVED with
          min := MMIO_LOW_END - MMIO_SPACE_RESERVED
          max := 0xffffffff }
      match ← mmio.allocate constraint with
      | (mmio, some k) => do
        let (mmio, _) ← mmio.update k ()
        pure mmio
      | (_, none) => .error .unwrapNone
    else pure mmio
  if GUEST_MEM_END GUEST_PHYS_END < GUEST_PHYS_END then
    mmio.insert (← Range.new (GUEST_MEM_END GUEST_PHYS_END + 1) GUEST_PHYS_END) none
  else pure mmio

def init_mem_pool_helper (GUEST_PHYS_END : UInt64) (mem : IntervalTree Unit) :
    Except Panic (IntervalTree Unit) := do
  if GUEST_MEM_END GUEST_PHYS_END < MMIO_LOW_START ∨ GUEST_MEM_START > MMIO_LOW_END ∨
      MMIO_LOW_START = MMIO_LOW_END then
    mem.insert (← Range.new GUEST_MEM_START (GUEST_MEM_END GUEST_PHYS_END)) none
  else
    let mem ← if MMIO_LOW_START > GUEST_MEM_START then
        mem.insert (← Range.new GUEST_MEM_START (MMIO_LOW_START - 1)) none
      else pure mem
    if MMIO_LOW_END < GUEST_MEM_END GUEST_PHYS_END then
      mem.insert (← Range.new (MMIO_LOW_END + 1) (GUEST_MEM_END GUEST_PHYS_END)) none
    else pure mem

/-- `ResourceManager::new`, through the `init_*` functions of the builder. -/
def ResourceManager.new (GUEST_PHYS_END : UInt64) (max_kvm_mem_slot : Option Nat) :
    Except Panic ResourceManager := do
  let legacy_irq_pool ←
    IntervalTree.new.insert (← Range.new (LEGACY_IRQ_BASE + 1).toUInt64 LEGACY_IRQ_MAX.toUInt64) none
  let msi_irq_pool ← IntervalTree.new.insert (← Range.new MSI_IRQ_BASE.toUInt64 MSI_IRQ_MAX.toUInt64) none
  let pio_pool ← IntervalTree.new.insert (← Range.new PIO_MIN.toUInt64 PIO_MAX.toUInt64) none
  let mmio_pool ← init_mmio_pool_helper GUEST_PHYS_END IntervalTree.new
  let mem_pool ← init_mem_pool_helper GUEST_PHYS_END IntervalTree.new
  let max_slots := max_kvm_mem_slot.getD KVM_USER_MEM_SLOTS.toNat
  let kvm_mem_slot_pool ← IntervalTree.new.insert (← Range.new 0 (UInt64.ofNat max_slots)) none
  return ⟨legacy_irq_pool, msi_irq_pool, pio_pool, mmio_pool, mem_pool, kvm_mem_slot_pool⟩

/-! ## Allocating and freeing -/

namespace ResourceManager

/-- The pool behind one of the manager's mutexes. -/
def lift (get : ResourceManager → IntervalTree Unit)
    (set : ResourceManager → IntervalTree Unit → ResourceManager) {α : Type}
    (f : IntervalTree Unit → Except Panic (IntervalTree Unit × α)) : RM α := fun rm => do
  let (pool, a) ← f (get rm)
  return (a, set rm pool)

def with_legacy_irq {α : Type} : (IntervalTree Unit → Except Panic (IntervalTree Unit × α)) → RM α :=
  lift (·.legacy_irq_pool) fun rm p => { rm with legacy_irq_pool := p }
def with_msi_irq {α : Type} : (IntervalTree Unit → Except Panic (IntervalTree Unit × α)) → RM α :=
  lift (·.msi_irq_pool) fun rm p => { rm with msi_irq_pool := p }
def with_pio {α : Type} : (IntervalTree Unit → Except Panic (IntervalTree Unit × α)) → RM α :=
  lift (·.pio_pool) fun rm p => { rm with pio_pool := p }
def with_mmio {α : Type} : (IntervalTree Unit → Except Panic (IntervalTree Unit × α)) → RM α :=
  lift (·.mmio_pool) fun rm p => { rm with mmio_pool := p }
def with_mem {α : Type} : (IntervalTree Unit → Except Panic (IntervalTree Unit × α)) → RM α :=
  lift (·.mem_pool) fun rm p => { rm with mem_pool := p }
def with_kvm_mem_slot {α : Type} : (IntervalTree Unit → Except Panic (IntervalTree Unit × α)) → RM α :=
  lift (·.kvm_mem_slot_pool) fun rm p => { rm with kvm_mem_slot_pool := p }

/-- `allocate` on a pool, then `update(k, ())` on what it took, as the IRQ, port and slot
allocators do. -/
def allocate_and_mark (pool : IntervalTree Unit) (c : Constraint) :
    Except Panic (IntervalTree Unit × Option Range) := do
  match ← pool.allocate c with
  | (pool, some k) => do
    let (pool, _) ← pool.update k ()
    return (pool, some k)
  | (pool, none) => return (pool, none)

/-- `free` on a pool, its result dropped. -/
def free_range (key : Range) (pool : IntervalTree Unit) : Except Panic (IntervalTree Unit × Unit) :=
  do
  let (pool, _) ← pool.free key
  return (pool, ())

def allocate_legacy_irq (shared : Bool) (fixed : Option UInt32) : RM (Option UInt32) := do
  if shared then return some SHARED_IRQ
  match fixed with
  | some v =>
    if v = SHARED_IRQ then return none
    legacy_irq { Constraint.new 1 with min := v.toUInt64, max := v.toUInt64 }
  | none => legacy_irq (Constraint.new 1)
where
  legacy_irq (constraint : Constraint) : RM (Option UInt32) := do
    let key ← with_legacy_irq fun pool => allocate_and_mark pool constraint
    return key.map fun v => v.min.toUInt32

def free_legacy_irq (irq : UInt32) : RM (Except ResourceError Unit) := do
  if irq = SHARED_IRQ then return .ok ()
  if !(LEGACY_IRQ_BASE ≤ irq ∧ irq ≤ LEGACY_IRQ_MAX) then
    return .error (.InvalidResourceRange "Legacy IRQ")
  let key ← liftM (Range.new irq.toUInt64 irq.toUInt64 : Except Panic Range)
  with_legacy_irq (free_range key)
  return .ok ()

def allocate_msi_irq (count : UInt32) : RM (Option UInt32) := do
  let key ← with_msi_irq fun pool => allocate_and_mark pool (Constraint.new count.toUInt64)
  return key.map fun v => v.min.toUInt32

def allocate_msi_irq_aligned (count : UInt32) : RM (Option UInt32) := do
  let key ← with_msi_irq fun pool =>
    allocate_and_mark pool { Constraint.new count.toUInt64 with align := count.toUInt64 }
  return key.map fun v => v.min.toUInt32

def free_msi_irq (irq count : UInt32) : RM (Except ResourceError Unit) := do
  if irq < MSI_IRQ_BASE ∨ count = 0 ∨ (checked_add_u32 irq count).isNone ∨
      irq + count - 1 > MSI_IRQ_MAX then
    return .error (.InvalidResourceRange "MSI IRQ")
  let key ← liftM (Range.new irq.toUInt64 (irq + count - 1).toUInt64 : Except Panic Range)
  with_msi_irq (free_range key)
  return .ok ()

def allocate_pio_address (constraint : Constraint) : RM (Option UInt16) := do
  let key ← with_pio fun pool => allocate_and_mark pool constraint
  return key.map fun v => v.min.toUInt16

def free_pio_address (base size : UInt16) : RM (Except ResourceError Unit) := do
  if (checked_add_u16 base size).isNone then
    return .error (.InvalidResourceRange "PIO Address")
  let key ← liftM (Range.new base.toUInt64 (base + size - 1).toUInt64 : Except Panic Range)
  with_pio (free_range key)
  return .ok ()

/-- `allocate_mmio_address`: the range stays `Allocated`, with no `update`. -/
def allocate_mmio_address (constraint : Constraint) : RM (Option UInt64) := do
  let key ← with_mmio fun pool => pool.allocate constraint
  return key.map Range.min

def free_mmio_address (base size : UInt64) : RM (Except ResourceError Unit) := do
  if (checked_add base size).isNone then
    return .error (.InvalidResourceRange "MMIO Address")
  let key ← liftM (Range.new base (base + size - 1) : Except Panic Range)
  with_mmio (free_range key)
  return .ok ()

def allocate_mem_address (constraint : Constraint) : RM (Option UInt64) := do
  let key ← with_mem fun pool => pool.allocate constraint
  return key.map Range.min

def free_mem_address (GUEST_PHYS_END : UInt64) (base size : UInt64) :
    RM (Except ResourceError Unit) := do
  if (checked_add base size).isNone ∨ base < GUEST_MEM_START ∨
      base + size > GUEST_MEM_END GUEST_PHYS_END then
    return .error (.InvalidResourceRange "MEM Address")
  let key ← liftM (Range.new base (base + size - 1) : Except Panic Range)
  with_mem (free_range key)
  return .ok ()

def allocate_kvm_mem_slot (size : UInt32) (fixed : Option UInt32) : RM (Option UInt32) := do
  let constraint := match fixed with
    | some v => { Constraint.new size.toUInt64 with min := v.toUInt64, max := v.toUInt64 }
    | none => Constraint.new size.toUInt64
  let key ← with_kvm_mem_slot fun pool => allocate_and_mark pool constraint
  return key.map fun v => v.min.toUInt32

def free_kvm_mem_slot (slot : UInt32) : RM (Except ResourceError Unit) := do
  let key ← liftM (Range.new slot.toUInt64 slot.toUInt64 : Except Panic Range)
  with_kvm_mem_slot (free_range key)
  return .ok ()

/-- The constraint of an address request: its size and alignment, within its range if it has one. -/
def address_constraint (range : Option (UInt64 × UInt64)) (align size : UInt64) : Constraint :=
  match range with
  | some r => { Constraint.new size with align, min := r.1, max := r.2 }
  | none => { Constraint.new size with align }

/-- One request of `allocate_device_resources`: the resource, or `None` when it cannot be met. -/
def allocate_one (shared_irq : Bool) :
    ResourceConstraint → RM (Option Resource)
  | .PioAddress range align size => do
    let c := address_constraint (range.map fun r => (r.1.toUInt64, r.2.toUInt64)) align.toUInt64
      size.toUInt64
    return (← allocate_pio_address c).map fun base => .PioAddressRange base size
  | .MmioAddress range align size => do
    return (← allocate_mmio_address (address_constraint range align size)).map fun base =>
      .MmioAddressRange base size
  | .MemAddress range align size => do
    return (← allocate_mem_address (address_constraint range align size)).map fun base =>
      .MemAddressRange base size
  | .LegacyIrq irq => do
    return (← allocate_legacy_irq shared_irq irq).map .LegacyIrq
  | .PciMsiIrq size => do
    return (← allocate_msi_irq_aligned size).map fun base => .MsiIrq .PciMsi base size
  | .PciMsixIrq size => do
    return (← allocate_msi_irq size).map fun base => .MsiIrq .PciMsix base size
  | .GenericIrq size => do
    return (← allocate_msi_irq size).map fun base => .MsiIrq .GenericMsi base size
  | .KvmMemSlot slot size => do
    return (← allocate_kvm_mem_slot size slot).map .KvmMemSlot

/-- `free_device_resources`: the first error stops it. -/
def free_device_resources (GUEST_PHYS_END : UInt64) :
    List Resource → RM (Except ResourceError Unit)
  | [] => return .ok ()
  | res :: rest => do
    let result ← match res with
      | .PioAddressRange base size => free_pio_address base size
      | .MmioAddressRange base size => free_mmio_address base size
      | .MemAddressRange base size => free_mem_address GUEST_PHYS_END base size
      | .LegacyIrq base => free_legacy_irq base
      | .MsiIrq _ base size => free_msi_irq base size
      | .KvmMemSlot slot => free_kvm_mem_slot slot
      | .MacAddresss _ => pure (.ok ())
    match result with
    | .error e => return .error e
    | .ok () => free_device_resources GUEST_PHYS_END rest

/-- The loop of `allocate_device_resources` over the requests, with the resources taken so far. -/
def allocate_loop (GUEST_PHYS_END : UInt64) (shared_irq : Bool) :
    List ResourceConstraint → List Resource → RM (Except ResourceError (List Resource))
  | [], resources => return .ok resources
  | resource :: rest, resources => do
    match ← allocate_one shared_irq resource with
    | some res => allocate_loop GUEST_PHYS_END shared_irq rest (resources ++ [res])
    | none =>
      -- what was taken is freed, and the first error of that is returned
      match ← free_device_resources GUEST_PHYS_END resources with
      | .error e => return .error e
      | .ok () => return .error .NoAvailResource

def allocate_device_resources (GUEST_PHYS_END : UInt64) (requests : List ResourceConstraint)
    (shared_irq : Bool) : RM (Except ResourceError (List Resource)) :=
  allocate_loop GUEST_PHYS_END shared_irq requests []

end ResourceManager

/-! ## The last I/O port -/

/-- A host with 40 bits of physical address. -/
def phys_end_40 : UInt64 := 0xFFFFFFFFFF

/-- A request for the port `0xFFFF` alone. -/
def top_port : ResourceConstraint := .PioAddress (some (0xFFFF, 0xFFFF)) 1 1

/-- The manager after a device asked for the last port. -/
def after_top_port : Except Panic (Except ResourceError (List Resource) × ResourceManager) := do
  let rm ← ResourceManager.new phys_end_40 none
  (ResourceManager.allocate_device_resources phys_end_40 [top_port] false).run rm

/-- The last port is allocated, but freeing it fails; and a device that asks for it twice gets the
error of that free, with the port still taken. -/
theorem pio_top_port_not_freed :
    after_top_port.map Prod.fst = .ok (.ok [.PioAddressRange 0xFFFF 1]) ∧
    (after_top_port >>= fun (_, rm) =>
        (ResourceManager.free_device_resources phys_end_40 [.PioAddressRange 0xFFFF 1]).run rm).map
      Prod.fst = .ok (.error (.InvalidResourceRange "PIO Address")) ∧
    (ResourceManager.new phys_end_40 none >>= fun rm =>
        (ResourceManager.allocate_device_resources phys_end_40 [top_port, top_port] false).run rm).map
      (fun (r, rm) => (r, rm.pio_pool.get ⟨0xFFFF, 0xFFFF⟩)) =
      .ok (.error (.InvalidResourceRange "PIO Address"), some (.Valued ())) := by
  refine ⟨?_, ?_, ?_⟩ <;> decide +kernel

end KataContainers.Dragonball
