import KataContainers.Dragonball.Memory
import KataContainers.Lib.Checked

/-!
# The MP table

Model of `setup_mptable` in `dbs_boot/src/x86_64/mptable.rs`, which writes the Intel MP
Specification 1.4 table that tells an x86_64 guest about its CPUs and interrupts: the floating
pointer structure `mpf_intel` at `MPTABLE_START`, then the configuration table, a header
`mpc_table` followed by one `mpc_cpu` entry per possible CPU, the ISA and PCI buses, the I/O APIC,
the interrupt sources of the ISA IRQs and the two local interrupt sources. Each `mpspec` structure
is `ByteValued`: its bytes are its fields in order, numbers little endian. The memory is any guest
memory `M` written through `GuestBytes`; what is proved of the writes is what `LawfulGuestBytes`
says of them, and a `GuestMemoryHybrid` is such a memory.

The header is written last: its length, and its checksum over the header and the entries, are only
known once the entries are out. `checksum` adds up the bytes of each entry as it is written,
skipping the slot of IRQ 2 as the loop does.
-/

namespace KataContainers.Dragonball.MpTable

open Bytes

/-- `mptable::Error`. -/
inductive Error
  | NotEnoughMemory
  | AddressOverflow
  | Clear
  | TooManyCpus
  | TooManyBootCpus
  | WriteMpfIntel
  | WriteMpcCpu
  | WriteMpcIoapic
  | WriteMpcBus
  | WriteMpcIntsrc
  | WriteMpcLintsrc
  | WriteMpcOemtable
  | WriteMpcTable
  deriving DecidableEq, Repr

/-! ## The constants of `mpspec` and `mptable.rs` -/

def MP_PROCESSOR : UInt32 := 0
def MP_BUS : UInt32 := 1
def MP_IOAPIC : UInt32 := 2
def MP_INTSRC : UInt32 := 3
def MP_LINTSRC : UInt32 := 4
def CPU_ENABLED : UInt32 := 1
def CPU_BOOTPROCESSOR : UInt32 := 2
def MPC_APIC_USABLE : UInt32 := 1
def MP_IRQDIR_DEFAULT : UInt32 := 0
def mp_irq_source_types_mp_INT : UInt32 := 0
def mp_irq_source_types_mp_NMI : UInt32 := 1
def mp_irq_source_types_mp_ExtINT : UInt32 := 3

/-- MPTABLE, describing VCPUS. -/
def MPTABLE_START : UInt64 := 0x9fc00

/-- Only 254 CPUs at most: the I/O APIC takes one of the 255 APIC IDs. -/
def MAX_SUPPORTED_CPUS : UInt32 := 254

def SMP_MAGIC_IDENT : Vector UInt8 4 :=
  #v['_'.toUInt8, 'M'.toUInt8, 'P'.toUInt8, '_'.toUInt8]
def MPC_SIGNATURE : Vector UInt8 4 :=
  #v['P'.toUInt8, 'C'.toUInt8, 'M'.toUInt8, 'P'.toUInt8]
def MPC_SPEC : UInt8 := 4
def MPC_OEM : Vector UInt8 8 :=
  #v['A'.toUInt8, 'L'.toUInt8, 'I'.toUInt8, 'C'.toUInt8, 'L'.toUInt8, 'O'.toUInt8, 'U'.toUInt8,
    'D'.toUInt8]
def MPC_PRODUCT_ID : Vector UInt8 12 :=
  #v['D'.toUInt8, 'R'.toUInt8, 'A'.toUInt8, 'G'.toUInt8, 'O'.toUInt8, 'N'.toUInt8, 'B'.toUInt8,
    'A'.toUInt8, 'L'.toUInt8, 'L'.toUInt8, '1'.toUInt8, '0'.toUInt8]
def BUS_TYPE_ISA : Vector UInt8 6 :=
  #v['I'.toUInt8, 'S'.toUInt8, 'A'.toUInt8, ' '.toUInt8, ' '.toUInt8, ' '.toUInt8]
def BUS_TYPE_PCI : Vector UInt8 6 :=
  #v['P'.toUInt8, 'C'.toUInt8, 'I'.toUInt8, ' '.toUInt8, ' '.toUInt8, ' '.toUInt8]
def IO_APIC_DEFAULT_PHYS_BASE : UInt32 := 0xfec00000
def APIC_DEFAULT_PHYS_BASE : UInt32 := 0xfee00000
def APIC_VERSION : UInt8 := 0x14
def CPU_STEPPING : UInt32 := 0x600
def CPU_FEATURE_APIC : UInt32 := 0x200
def CPU_FEATURE_FPU : UInt32 := 0x001
def BUS_ID_ISA : UInt8 := 0
def BUS_ID_PCI : UInt8 := 1

/-! ## The `mpspec` structures and their bytes -/

/-- The MP floating pointer structure. -/
structure mpf_intel where
  signature : Vector UInt8 4 := Vector.replicate 4 0
  physptr : UInt32 := 0
  length : UInt8 := 0
  specification : UInt8 := 0
  checksum : UInt8 := 0
  feature1 : UInt8 := 0
  feature2 : UInt8 := 0
  feature3 : UInt8 := 0
  feature4 : UInt8 := 0
  feature5 : UInt8 := 0
  deriving DecidableEq, Repr

/-- The header of the MP configuration table. -/
structure mpc_table where
  signature : Vector UInt8 4 := Vector.replicate 4 0
  length : UInt16 := 0
  spec : UInt8 := 0
  checksum : UInt8 := 0
  oem : Vector UInt8 8 := Vector.replicate 8 0
  productid : Vector UInt8 12 := Vector.replicate 12 0
  oemptr : UInt32 := 0
  oemsize : UInt16 := 0
  oemcount : UInt16 := 0
  lapic : UInt32 := 0
  reserved : UInt32 := 0
  deriving DecidableEq, Repr

/-- A processor entry. -/
structure mpc_cpu where
  type_ : UInt8 := 0
  apicid : UInt8 := 0
  apicver : UInt8 := 0
  cpuflag : UInt8 := 0
  cpufeature : UInt32 := 0
  featureflag : UInt32 := 0
  reserved : UInt32 × UInt32 := (0, 0)
  deriving DecidableEq, Repr

/-- A bus entry. -/
structure mpc_bus where
  type_ : UInt8 := 0
  busid : UInt8 := 0
  bustype : Vector UInt8 6 := Vector.replicate 6 0
  deriving DecidableEq, Repr

/-- An I/O APIC entry. -/
structure mpc_ioapic where
  type_ : UInt8 := 0
  apicid : UInt8 := 0
  apicver : UInt8 := 0
  flags : UInt8 := 0
  apicaddr : UInt32 := 0
  deriving DecidableEq, Repr

/-- An I/O interrupt entry. -/
structure mpc_intsrc where
  type_ : UInt8 := 0
  irqtype : UInt8 := 0
  irqflag : UInt16 := 0
  srcbus : UInt8 := 0
  srcbusirq : UInt8 := 0
  dstapic : UInt8 := 0
  dstirq : UInt8 := 0
  deriving DecidableEq, Repr

/-- A local interrupt entry. -/
structure mpc_lintsrc where
  type_ : UInt8 := 0
  irqtype : UInt8 := 0
  irqflag : UInt16 := 0
  srcbusid : UInt8 := 0
  srcbusirq : UInt8 := 0
  destapic : UInt8 := 0
  destapiclint : UInt8 := 0
  deriving DecidableEq, Repr

instance : ByteValued mpf_intel where
  size := 16
  as_slice v := v.signature.toList ++ le32 v.physptr ++
    [v.length, v.specification, v.checksum, v.feature1, v.feature2, v.feature3, v.feature4,
      v.feature5]
  length_as_slice v := by simp

instance : ByteValued mpc_table where
  size := 44
  as_slice v := v.signature.toList ++ le16 v.length ++ [v.spec, v.checksum] ++ v.oem.toList ++
    v.productid.toList ++ le32 v.oemptr ++ le16 v.oemsize ++ le16 v.oemcount ++ le32 v.lapic ++
    le32 v.reserved
  length_as_slice v := by simp

instance : ByteValued mpc_cpu where
  size := 20
  as_slice v := [v.type_, v.apicid, v.apicver, v.cpuflag] ++ le32 v.cpufeature ++
    le32 v.featureflag ++ le32 v.reserved.1 ++ le32 v.reserved.2
  length_as_slice v := by simp

instance : ByteValued mpc_bus where
  size := 8
  as_slice v := [v.type_, v.busid] ++ v.bustype.toList
  length_as_slice v := by simp

instance : ByteValued mpc_ioapic where
  size := 8
  as_slice v := [v.type_, v.apicid, v.apicver, v.flags] ++ le32 v.apicaddr
  length_as_slice v := by simp

instance : ByteValued mpc_intsrc where
  size := 8
  as_slice v := [v.type_, v.irqtype] ++ le16 v.irqflag ++
    [v.srcbus, v.srcbusirq, v.dstapic, v.dstirq]
  length_as_slice v := by simp

instance : ByteValued mpc_lintsrc where
  size := 8
  as_slice v := [v.type_, v.irqtype] ++ le16 v.irqflag ++
    [v.srcbusid, v.srcbusirq, v.destapic, v.destapiclint]
  length_as_slice v := by simp

/-! ## `setup_mptable` -/

/-- `compute_checksum`: the bytes of the object added up in `u8`. -/
def compute_checksum {T : Type} [ByteValued T] (v : T) : UInt8 :=
  wsum (ByteValued.as_slice v)

/-- `mpf_intel_compute_checksum`: the byte that brings the structure's sum, its own checksum
field left out, to zero. -/
def mpf_intel_compute_checksum (v : mpf_intel) : UInt8 :=
  let checksum := compute_checksum v - v.checksum
  ~~~checksum + 1

/-- `compute_mp_size`: the room of the table, with sixteen interrupt sources. -/
def compute_mp_size (num_cpus : UInt8) : Nat :=
  ByteValued.size mpf_intel + ByteValued.size mpc_table +
    ByteValued.size mpc_cpu * num_cpus.toNat + ByteValued.size mpc_ioapic +
    ByteValued.size mpc_bus * 2 + ByteValued.size mpc_intsrc * 16 +
    ByteValued.size mpc_lintsrc * 2

/-- `0..n` over `u8`. -/
def u8_range (n : UInt8) : List UInt8 :=
  (List.range n.toNat).map Nat.toUInt8

/-- The processor entry of `cpu_id`: enabled when it boots, the first one the bootstrap
processor. -/
def mpc_cpu_of (boot_cpus cpu_id : UInt8) : mpc_cpu :=
  let c : mpc_cpu := { type_ := MP_PROCESSOR.toUInt8, apicid := cpu_id, apicver := APIC_VERSION }
  let c := if cpu_id < boot_cpus then { c with cpuflag := c.cpuflag ||| CPU_ENABLED.toUInt8 }
    else c
  let c := if cpu_id = 0 then { c with cpuflag := c.cpuflag ||| CPU_BOOTPROCESSOR.toUInt8 }
    else c
  { c with cpufeature := CPU_STEPPING, featureflag := CPU_FEATURE_APIC ||| CPU_FEATURE_FPU }

def mpc_bus_of (busid : UInt8) (bustype : Vector UInt8 6) : mpc_bus :=
  { type_ := MP_BUS.toUInt8, busid, bustype }

def mpc_ioapic_of (ioapicid : UInt8) : mpc_ioapic :=
  { type_ := MP_IOAPIC.toUInt8, apicid := ioapicid, apicver := APIC_VERSION,
    flags := MPC_APIC_USABLE.toUInt8, apicaddr := IO_APIC_DEFAULT_PHYS_BASE }

/-- The interrupt source of ISA IRQ `i`, routed to pin `i` of the I/O APIC (IRQ 0 to pin 2), and
sourced from the PCI bus when `pci_legacy_irqs` gives it a device. -/
def mpc_intsrc_of (pci_legacy_irqs : Option (UInt8 → Option UInt8)) (ioapicid i : UInt8) :
    mpc_intsrc :=
  let s : mpc_intsrc :=
    { type_ := MP_INTSRC.toUInt8, irqtype := mp_irq_source_types_mp_INT.toUInt8,
      irqflag := MP_IRQDIR_DEFAULT.toUInt16, srcbus := BUS_ID_ISA, srcbusirq := i,
      dstapic := ioapicid, dstirq := i }
  -- Patch irq routing entry for mptable if it is registered as PCI legacy irq.
  let s := match pci_legacy_irqs with
    | some irq_device =>
      match irq_device i with
      | some device_id => { s with srcbus := BUS_ID_PCI, srcbusirq := device_id <<< 2 }
      | none => s
    | none => s
  -- IRQ0 is connected to Pin2 of the first IOAPIC
  if i = 0 then { s with dstirq := 2 } else s

def mpc_lintsrc_of (irqtype destapic destapiclint : UInt8) : mpc_lintsrc :=
  { type_ := MP_LINTSRC.toUInt8, irqtype, irqflag := MP_IRQDIR_DEFAULT.toUInt16,
    srcbusid := 0, srcbusirq := 0, destapic, destapiclint }

/-- What the writes of the entries carry along: the memory, `base_mp` (where the next entry
goes) and `checksum` (the sum of the entries' bytes so far). -/
structure Writer (M : Type) where
  mem : M
  base_mp : UInt64
  checksum : UInt8

section Model

variable {M : Type} [GuestBytes M]

/-- `mem.write_obj(v, base_mp)` of an entry, then `base_mp` past it and its bytes added to
`checksum`. -/
def Writer.entry {T : Type} [ByteValued T] (err : Error) (w : Writer M) (v : T) :
    Except Error (Writer M) :=
  match GuestBytes.write_obj w.mem v w.base_mp with
  | .error _ => .error err
  | .ok mem => .ok ⟨mem, w.base_mp + UInt64.ofNat (ByteValued.size T),
      w.checksum + compute_checksum v⟩

/-- One turn of the loop over the ISA IRQs: IRQ 2 is unused and skipped. -/
def Writer.intsrc (pci_legacy_irqs : Option (UInt8 → Option UInt8)) (ioapicid : UInt8)
    (w : Writer M) (i : UInt8) : Except Error (Writer M) :=
  if i = 2 then .ok w
  else w.entry .WriteMpcIntsrc (mpc_intsrc_of pci_legacy_irqs ioapicid i)

/-- The entries of the configuration table, written from `w.base_mp` on. -/
def write_entries (pci_legacy_irqs : Option (UInt8 → Option UInt8)) (boot_cpus max_cpus : UInt8)
    (w : Writer M) : Except Error (Writer M) := do
  let ioapicid : UInt8 := max_cpus + 1
  let w ← (u8_range max_cpus).foldlM
    (fun w cpu_id => w.entry .WriteMpcCpu (mpc_cpu_of boot_cpus cpu_id)) w
  let w ← w.entry .WriteMpcBus (mpc_bus_of BUS_ID_ISA BUS_TYPE_ISA)
  let w ← w.entry .WriteMpcBus (mpc_bus_of BUS_ID_PCI BUS_TYPE_PCI)
  let w ← w.entry .WriteMpcIoapic (mpc_ioapic_of ioapicid)
  -- Per kvm_setup_default_irq_routing() in kernel
  let w ← (u8_range 16).foldlM (Writer.intsrc pci_legacy_irqs ioapicid) w
  let w ← w.entry .WriteMpcLintsrc
    (mpc_lintsrc_of mp_irq_source_types_mp_ExtINT.toUInt8 0 0)
  -- to all local APICs
  w.entry .WriteMpcLintsrc (mpc_lintsrc_of mp_irq_source_types_mp_NMI.toUInt8 0xFF 1)

/-- The floating pointer structure at `base_mp`, pointing right after itself. -/
def mpf_intel_of (base_mp : UInt64) : mpf_intel :=
  let mpf : mpf_intel :=
    { signature := SMP_MAGIC_IDENT, length := 1, specification := 4,
      physptr := (base_mp + UInt64.ofNat (ByteValued.size mpf_intel)).toUInt32 }
  { mpf with checksum := mpf_intel_compute_checksum mpf }

/-- The header of the table at `table_base` whose entries end at `table_end` and add up to
`checksum`. -/
def mpc_table_of (table_base table_end : UInt64) (checksum : UInt8) : mpc_table :=
  let oem_ptr := table_end + UInt64.ofNat (ByteValued.size mpc_table)
  let mpc_table : mpc_table :=
    { signature := MPC_SIGNATURE, length := (table_end - table_base).toUInt16, spec := MPC_SPEC,
      oem := MPC_OEM, oemcount := 0, oemptr := oem_ptr.toUInt32, oemsize := 0,
      productid := MPC_PRODUCT_ID, lapic := APIC_DEFAULT_PHYS_BASE }
  let checksum := checksum + compute_checksum mpc_table
  { mpc_table with checksum := ~~~checksum + 1 }

/-- `setup_mptable`. -/
def setup_mptable (mem : M) (boot_cpus max_cpus : UInt8)
    (pci_legacy_irqs : Option (UInt8 → Option UInt8)) : Except Error M :=
  if boot_cpus > max_cpus then .error .TooManyBootCpus
  else if max_cpus.toUInt32 > MAX_SUPPORTED_CPUS then .error .TooManyCpus
  else
    let base_mp := MPTABLE_START
    let mp_size := compute_mp_size max_cpus
    -- The checked_add here ensures the all of the following base_mp.unchecked_add's will be
    -- without overflow.
    match Checked.add base_mp (UInt64.ofNat (mp_size - 1)) with
    | none => .error .AddressOverflow
    | some end_mp =>
      if !GuestBytes.address_in_range mem end_mp then .error .NotEnoughMemory
      else do
        let mem ← (GuestBytes.read_from mem base_mp (fun _ => 0) mp_size).mapError fun _ => .Clear
        let mem ← (GuestBytes.write_obj mem (mpf_intel_of base_mp) base_mp).mapError
          fun _ => .WriteMpfIntel
        let table_base := base_mp + UInt64.ofNat (ByteValued.size mpf_intel)
        let w ← write_entries pci_legacy_irqs boot_cpus max_cpus
          ⟨mem, table_base + UInt64.ofNat (ByteValued.size mpc_table), 0⟩
        let table := mpc_table_of table_base w.base_mp w.checksum
        (GuestBytes.write_obj w.mem table table_base).mapError fun _ => .WriteMpcTable

end Model

/-! ## What a run of writes leaves -/

namespace Writer

variable {M : Type} [GuestBytes M]

/-- `w'` is `w` after `bs` was written from `w.base_mp` on. -/
structure Writes (w w' : Writer M) (bs : List UInt8) : Prop where
  mem : GuestBytes.Wrote w.mem w'.mem w.base_mp bs
  base_mp : w'.base_mp = w.base_mp + UInt64.ofNat bs.length
  checksum : w'.checksum = w.checksum + wsum bs

/-- The next `n` bytes from `base_mp` are in guest memory, below the top of the address space. -/
def Room (w : Writer M) (n : Nat) : Prop :=
  w.base_mp.toNat + n < 2 ^ 64 ∧ GuestBytes.in_range w.mem w.base_mp n = true

variable {w w₁ w₂ w₃ : Writer M} {xs ys : List UInt8} {n : Nat}

theorem Writes.refl (w : Writer M) : Writes w w [] :=
  ⟨.nil _ _, by simp, by simp⟩

theorem Writes.trans (h₁ : Writes w₁ w₂ xs) (h₂ : Writes w₂ w₃ ys)
    (hfit : w₁.base_mp.toNat + xs.length + ys.length < 2 ^ 64) : Writes w₁ w₃ (xs ++ ys) := by
  refine ⟨?_, ?_, ?_⟩
  · have h₂m := h₂.mem
    rw [h₁.base_mp] at h₂m
    exact h₁.mem.trans h₂m (by omega)
  · rw [h₂.base_mp, h₁.base_mp, UInt64.add_assoc, ← UInt64.ofNat_add, List.length_append]
  · rw [h₂.checksum, h₁.checksum, wsum_append, UInt8.add_assoc]

/-- Room for `k + n` bytes, of which `k` are then written, leaves room for `n`. -/
theorem Room.of_writes (h : w₁.Room (xs.length + n)) (hw : Writes w₁ w₂ xs) : w₂.Room n := by
  obtain ⟨hfit, hin⟩ := h
  have hbase : w₂.base_mp.toNat = w₁.base_mp.toNat + xs.length := by
    rw [hw.base_mp, GuestBytes.toNat_add_ofNat (by omega)]
  refine ⟨by omega, ?_⟩
  rw [hw.mem.in_range_eq, hw.base_mp]
  exact GuestBytes.in_range_sub hin (Nat.le_refl _)

/-- The loop over the ISA IRQs writes the entries of the IRQs but 2, in order. -/
theorem foldlM_intsrc (pci_legacy_irqs : Option (UInt8 → Option UInt8)) (ioapicid : UInt8) :
    ∀ (l : List UInt8) (w : Writer M), l.foldlM (intsrc pci_legacy_irqs ioapicid) w =
      (l.filter (· ≠ 2)).foldlM
        (fun w i => w.entry .WriteMpcIntsrc (mpc_intsrc_of pci_legacy_irqs ioapicid i)) w
  | [], _ => rfl
  | i :: l, w => by
    by_cases hi : i = 2
    · -- `continue`
      rw [List.foldlM_cons, List.filter_cons_of_neg (by simpa using hi), intsrc, if_pos hi]
      exact foldlM_intsrc pci_legacy_irqs ioapicid l w
    · rw [List.foldlM_cons, List.filter_cons_of_pos (by simpa using hi), List.foldlM_cons,
        intsrc, if_neg hi]
      congr 1
      funext w'
      exact foldlM_intsrc pci_legacy_irqs ioapicid l w'

variable [LawfulGuestBytes M]

/-- Writing an entry with room for it. -/
theorem entry_spec {T : Type} [ByteValued T] (err : Error) (v : T)
    (h : w.Room (ByteValued.size T + n)) :
    ∃ w', w.entry err v = .ok w' ∧ Writes w w' (ByteValued.as_slice v) ∧ w'.Room n := by
  obtain ⟨mem, he, hm⟩ := GuestBytes.write_obj_ok w.mem v w.base_mp
    (GuestBytes.in_range_of_le h.2 (by omega))
  have hw : Writes w ⟨mem, w.base_mp + UInt64.ofNat (ByteValued.size T),
      w.checksum + compute_checksum v⟩ (ByteValued.as_slice v) :=
    ⟨hm, by rw [ByteValued.length_as_slice], rfl⟩
  refine ⟨_, ?_, hw, Room.of_writes (by rwa [ByteValued.length_as_slice]) hw⟩
  rw [entry, he]

/-- A loop writing one entry per item of a list, by induction on the list. -/
theorem foldlM_entry_spec {T β : Type} [ByteValued T] (err : Error) (g : β → T) :
    ∀ (l : List β) (w : Writer M) (n : Nat), w.Room (l.length * ByteValued.size T + n) →
      ∃ w', l.foldlM (fun w b => w.entry err (g b)) w = .ok w' ∧
        Writes w w' (l.flatMap fun b => ByteValued.as_slice (g b)) ∧ w'.Room n
  | [], w, n, h => ⟨w, rfl, Writes.refl w, by simpa using h⟩
  | b :: l, w, n, h => by
    obtain ⟨w₁, he, hw₁, hr₁⟩ := entry_spec err (g b)
      (n := l.length * ByteValued.size T + n) (by rw [List.length_cons] at h; rwa [Nat.succ_mul,
        Nat.add_comm (l.length * _), Nat.add_assoc] at h)
    obtain ⟨w₂, hl, hw₂, hr₂⟩ := foldlM_entry_spec err g l w₁ n hr₁
    have hlen : (l.flatMap fun b => ByteValued.as_slice (g b)).length =
        l.length * ByteValued.size T := by
      rw [List.length_flatMap]
      simp [ByteValued.length_as_slice, Nat.mul_comm]
    refine ⟨w₂, ?_, ?_, hr₂⟩
    · rw [List.foldlM_cons, he]
      exact hl
    · rw [List.flatMap_cons]
      refine hw₁.trans hw₂ ?_
      rw [ByteValued.length_as_slice, hlen]
      have := h.1
      simp only [List.length_cons] at this
      rw [Nat.succ_mul] at this
      omega

end Writer

/-! ## MP tables

What the MP Specification 1.4 asks of the table for a guest of `max_cpus` processors, `boot_cpus`
of them running, whose ISA IRQs are wired as `kvm_setup_default_irq_routing` wires them. A table is
read as the structures it is made of, in the order they lie in memory. -/

/-- An MP table: the floating pointer structure, the header of the configuration table, and the
entries that follow it, by kind. -/
structure Table where
  mpf : mpf_intel
  header : mpc_table
  cpus : List mpc_cpu
  buses : List mpc_bus
  ioapic : mpc_ioapic
  intsrcs : List mpc_intsrc
  lintsrcs : List mpc_lintsrc

namespace Table

/-- The bytes of the entries. -/
def entries (t : Table) : List UInt8 :=
  t.cpus.flatMap ByteValued.as_slice ++ t.buses.flatMap ByteValued.as_slice ++
    ByteValued.as_slice t.ioapic ++ t.intsrcs.flatMap ByteValued.as_slice ++
    t.lintsrcs.flatMap ByteValued.as_slice

/-- The bytes of the table, from the floating pointer structure on. -/
def bytes (t : Table) : List UInt8 :=
  ByteValued.as_slice t.mpf ++ ByteValued.as_slice t.header ++ t.entries

end Table

/-- The ISA IRQ of the `j`-th interrupt source: IRQ 2, the cascade, has none. -/
def isa_irq (j : Nat) : UInt8 := if j < 2 then j.toUInt8 else (j + 1).toUInt8

/-- The interrupt source entry of ISA IRQ `i`: to the I/O APIC `ioapicid`, at pin `i` but for
IRQ 0, which is at pin 2; from the PCI bus, with the device number in bits 2 to 6, when a PCI
device has the IRQ, and from the ISA bus otherwise. -/
def IntsrcFor (pci_legacy_irqs : Option (UInt8 → Option UInt8)) (ioapicid i : UInt8)
    (e : mpc_intsrc) : Prop :=
  e.dstapic = ioapicid ∧ e.dstirq = (if i = 0 then 2 else i) ∧
    match pci_legacy_irqs.bind fun irq_device => irq_device i with
    | some device_id => e.srcbus = BUS_ID_PCI ∧ e.srcbusirq.toNat = 4 * device_id.toNat
    | none => e.srcbus = BUS_ID_ISA ∧ e.srcbusirq = i

/-- A valid MP table at `base`. The floating pointer structure is signed `_MP_`, one 16-byte
paragraph long, of revision 1.4, sums to zero, and points to the configuration table right after
it. The header is signed `PCMP`, of revision 1.4, puts the local APICs at their default address
`0xfee00000`, and its length covers the entries, with which it sums to zero. Then the entries, each
with its type code: one processor entry (type 0) per APIC id below `max_cpus`, those below
`boot_cpus` enabled and the first one the bootstrap processor; an ISA and a PCI bus (type 1); a
usable I/O APIC (type 2) at its default address `0xfec00000` whose id no processor has; one
vectored interrupt source (type 3) with the polarity and trigger of its bus for each ISA IRQ but
IRQ 2; and the two local interrupt sources (type 4) of virtual wire mode, ExtINT to LINT0 of the
bootstrap processor's APIC and NMI to LINT1 of every APIC. -/
structure Table.Valid (t : Table) (base : UInt64) (boot_cpus max_cpus : UInt8)
    (pci_legacy_irqs : Option (UInt8 → Option UInt8)) : Prop where
  mpf_signature : t.mpf.signature = #v['_'.toUInt8, 'M'.toUInt8, 'P'.toUInt8, '_'.toUInt8]
  mpf_length : t.mpf.length = 1
  mpf_specification : t.mpf.specification = 4
  mpf_checksum : wsum (ByteValued.as_slice t.mpf) = 0
  physptr : t.mpf.physptr.toNat = base.toNat + ByteValued.size mpf_intel
  signature : t.header.signature = #v['P'.toUInt8, 'C'.toUInt8, 'M'.toUInt8, 'P'.toUInt8]
  spec : t.header.spec = 4
  lapic : t.header.lapic = 0xfee00000
  length : t.header.length.toNat = ByteValued.size mpc_table + t.entries.length
  checksum : wsum (ByteValued.as_slice t.header ++ t.entries) = 0
  cpu_type : ∀ c ∈ t.cpus, c.type_ = 0
  length_cpus : t.cpus.length = max_cpus.toNat
  apicid : ∀ k (hk : k < t.cpus.length), t.cpus[k].apicid.toNat = k
  enabled : ∀ k (hk : k < t.cpus.length),
    t.cpus[k].cpuflag &&& CPU_ENABLED.toUInt8 ≠ 0 ↔ k < boot_cpus.toNat
  bootstrap : ∀ k (hk : k < t.cpus.length),
    t.cpus[k].cpuflag &&& CPU_BOOTPROCESSOR.toUInt8 ≠ 0 ↔ k = 0
  buses : t.buses.map (fun b => (b.type_, b.busid, b.bustype)) =
    [(1, BUS_ID_ISA, #v['I'.toUInt8, 'S'.toUInt8, 'A'.toUInt8, ' '.toUInt8, ' '.toUInt8, ' '.toUInt8]),
      (1, BUS_ID_PCI, #v['P'.toUInt8, 'C'.toUInt8, 'I'.toUInt8, ' '.toUInt8, ' '.toUInt8, ' '.toUInt8])]
  ioapic_type : t.ioapic.type_ = 2
  ioapic_usable : t.ioapic.flags &&& 1 = 1
  ioapic_addr : t.ioapic.apicaddr = 0xfec00000
  ioapicid : t.ioapic.apicid.toNat = max_cpus.toNat + 1
  ioapicid_ne : ∀ c ∈ t.cpus, c.apicid ≠ t.ioapic.apicid
  intsrc_type : ∀ e ∈ t.intsrcs, e.type_ = 3 ∧ e.irqtype = 0 ∧ e.irqflag = 0
  length_intsrcs : t.intsrcs.length = 15
  intsrc : ∀ j (hj : j < t.intsrcs.length),
    IntsrcFor pci_legacy_irqs t.ioapic.apicid (isa_irq j) t.intsrcs[j]
  lintsrcs : t.lintsrcs.map (fun l => (l.type_, l.irqtype, l.destapic, l.destapiclint)) =
    [(4, 3, 0, 0), (4, 1, 0xFF, 1)]

/-! ## The table `setup_mptable` writes -/

/-- The ISA IRQs that get an interrupt source: all but IRQ 2. -/
def isa_irqs : List UInt8 := (u8_range 16).filter (· ≠ 2)

/-- The processor entries. -/
def cpus (boot_cpus max_cpus : UInt8) : List mpc_cpu :=
  (u8_range max_cpus).map (mpc_cpu_of boot_cpus)

/-- The I/O interrupt entries. -/
def intsrcs (pci_legacy_irqs : Option (UInt8 → Option UInt8)) (ioapicid : UInt8) :
    List mpc_intsrc :=
  isa_irqs.map (mpc_intsrc_of pci_legacy_irqs ioapicid)

/-- The bytes of the entries of the configuration table, in the order they are written. -/
def entries_bytes (pci_legacy_irqs : Option (UInt8 → Option UInt8))
    (boot_cpus max_cpus : UInt8) : List UInt8 :=
  (cpus boot_cpus max_cpus).flatMap ByteValued.as_slice ++
    ByteValued.as_slice (mpc_bus_of BUS_ID_ISA BUS_TYPE_ISA) ++
    ByteValued.as_slice (mpc_bus_of BUS_ID_PCI BUS_TYPE_PCI) ++
    ByteValued.as_slice (mpc_ioapic_of (max_cpus + 1)) ++
    (intsrcs pci_legacy_irqs (max_cpus + 1)).flatMap ByteValued.as_slice ++
    ByteValued.as_slice (mpc_lintsrc_of mp_irq_source_types_mp_ExtINT.toUInt8 0 0) ++
    ByteValued.as_slice (mpc_lintsrc_of mp_irq_source_types_mp_NMI.toUInt8 0xFF 1)

theorem length_u8_range (n : UInt8) : (u8_range n).length = n.toNat := by
  simp [u8_range]

theorem length_isa_irqs : isa_irqs.length = 15 := by
  decide

theorem length_entries_bytes (pci_legacy_irqs : Option (UInt8 → Option UInt8))
    (boot_cpus max_cpus : UInt8) :
    (entries_bytes pci_legacy_irqs boot_cpus max_cpus).length = 20 * max_cpus.toNat + 160 := by
  simp only [entries_bytes, cpus, intsrcs, List.length_append, List.length_flatMap,
    List.map_map, Function.comp_def, ByteValued.length_as_slice, List.map_const',
    List.sum_replicate_nat, length_u8_range, length_isa_irqs]
  simp only [ByteValued.size]
  omega

/-- The entries are written in order, as one run of bytes. -/
theorem write_entries_spec {M : Type} [GuestBytes M] [LawfulGuestBytes M]
    (pci_legacy_irqs : Option (UInt8 → Option UInt8)) (boot_cpus max_cpus : UInt8)
    {w : Writer M} {n : Nat}
    (h : w.Room ((entries_bytes pci_legacy_irqs boot_cpus max_cpus).length + n)) :
    ∃ w', write_entries pci_legacy_irqs boot_cpus max_cpus w = .ok w' ∧
      Writer.Writes w w' (entries_bytes pci_legacy_irqs boot_cpus max_cpus) ∧ w'.Room n := by
  have hlen := length_entries_bytes pci_legacy_irqs boot_cpus max_cpus
  -- the room each write needs, with the rest of the table after it
  have h₀ : w.Room ((u8_range max_cpus).length * ByteValued.size mpc_cpu +
      (8 + (8 + (8 + (120 + (8 + (8 + n))))))) := by
    have hk : (entries_bytes pci_legacy_irqs boot_cpus max_cpus).length + n =
        (u8_range max_cpus).length * ByteValued.size mpc_cpu +
          (8 + (8 + (8 + (120 + (8 + (8 + n)))))) := by
      rw [hlen, length_u8_range]
      simp only [ByteValued.size]
      omega
    rw [← hk]
    exact h
  obtain ⟨w₁, e₁, h₁, r₁⟩ := Writer.foldlM_entry_spec .WriteMpcCpu (mpc_cpu_of boot_cpus)
    (u8_range max_cpus) w _ h₀
  obtain ⟨w₂, e₂, h₂, r₂⟩ := Writer.entry_spec .WriteMpcBus (mpc_bus_of BUS_ID_ISA BUS_TYPE_ISA) r₁
  obtain ⟨w₃, e₃, h₃, r₃⟩ := Writer.entry_spec .WriteMpcBus (mpc_bus_of BUS_ID_PCI BUS_TYPE_PCI) r₂
  obtain ⟨w₄, e₄, h₄, r₄⟩ := Writer.entry_spec .WriteMpcIoapic (mpc_ioapic_of (max_cpus + 1)) r₃
  have r₄' : w₄.Room (isa_irqs.length * ByteValued.size mpc_intsrc + (8 + (8 + n))) := by
    rw [length_isa_irqs]
    exact r₄
  obtain ⟨w₅, e₅, h₅, r₅⟩ := Writer.foldlM_entry_spec .WriteMpcIntsrc
    (mpc_intsrc_of pci_legacy_irqs (max_cpus + 1)) isa_irqs w₄ _ r₄'
  obtain ⟨w₆, e₆, h₆, r₆⟩ := Writer.entry_spec .WriteMpcLintsrc
    (mpc_lintsrc_of mp_irq_source_types_mp_ExtINT.toUInt8 0 0) r₅
  obtain ⟨w₇, e₇, h₇, r₇⟩ := Writer.entry_spec .WriteMpcLintsrc
    (mpc_lintsrc_of mp_irq_source_types_mp_NMI.toUInt8 0xFF 1) r₆
  refine ⟨w₇, ?_, ?_, r₇⟩
  · rw [isa_irqs] at e₅
    simp only [write_entries, e₁, Except.ok_bind_eq, e₂, e₃, e₄, Writer.foldlM_intsrc, e₅, e₆]
    exact e₇
  · -- the seven runs, joined left to right as `entries_bytes` is
    have hfit := h.1
    simp only [entries_bytes, cpus, intsrcs, List.flatMap_map, List.length_append] at hfit
    simp only [entries_bytes, cpus, intsrcs, List.flatMap_map]
    refine ((((((h₁.trans h₂ (by omega)).trans h₃ ?_).trans h₄ ?_).trans h₅ ?_).trans h₆ ?_).trans
      h₇ ?_)
    all_goals simp only [List.length_append]
    all_goals omega

/-- The header `setup_mptable` writes last: the configuration table starts right after the
floating pointer structure and ends after the entries, whose bytes `checksum` has added up. -/
def header (pci_legacy_irqs : Option (UInt8 → Option UInt8)) (boot_cpus max_cpus : UInt8) :
    mpc_table :=
  let table_base := MPTABLE_START + UInt64.ofNat (ByteValued.size mpf_intel)
  let entries := entries_bytes pci_legacy_irqs boot_cpus max_cpus
  mpc_table_of table_base
    (table_base + UInt64.ofNat (ByteValued.size mpc_table) + UInt64.ofNat entries.length)
    (wsum entries)

/-- The bytes `setup_mptable` leaves from `MPTABLE_START` on. `compute_mp_size` counts sixteen
interrupt sources and fifteen are written: the last slot keeps the zeros of the fill. -/
def table_image (pci_legacy_irqs : Option (UInt8 → Option UInt8)) (boot_cpus max_cpus : UInt8) :
    List UInt8 :=
  ByteValued.as_slice (mpf_intel_of MPTABLE_START) ++
    ByteValued.as_slice (header pci_legacy_irqs boot_cpus max_cpus) ++
    (entries_bytes pci_legacy_irqs boot_cpus max_cpus ++
      List.replicate (ByteValued.size mpc_intsrc) 0)

theorem compute_mp_size_eq (max_cpus : UInt8) :
    compute_mp_size max_cpus = 20 * max_cpus.toNat + 228 := by
  simp only [compute_mp_size, ByteValued.size]
  omega

theorem length_table_image (pci_legacy_irqs : Option (UInt8 → Option UInt8))
    (boot_cpus max_cpus : UInt8) :
    (table_image pci_legacy_irqs boot_cpus max_cpus).length = compute_mp_size max_cpus := by
  simp only [table_image, List.length_append, ByteValued.length_as_slice, List.length_replicate,
    length_entries_bytes, compute_mp_size_eq]
  simp only [ByteValued.size]
  omega

/-- With at most 254 CPUs, `boot_cpus` of them booting, and guest memory under the whole table,
`setup_mptable` succeeds, and what it leaves is `table_image` written from `MPTABLE_START` on. -/
theorem setup_mptable_wrote {M : Type} [GuestBytes M] [LawfulGuestBytes M]
    (pci_legacy_irqs : Option (UInt8 → Option UInt8)) {boot_cpus max_cpus : UInt8} {mem : M}
    (hb : boot_cpus ≤ max_cpus) (hm : max_cpus ≤ 254)
    (hmem : GuestBytes.in_range mem MPTABLE_START (compute_mp_size max_cpus) = true) :
    ∃ mem', setup_mptable mem boot_cpus max_cpus pci_legacy_irqs = .ok mem' ∧
      GuestBytes.Wrote mem mem' MPTABLE_START (table_image pci_legacy_irqs boot_cpus max_cpus) := by
  have hmax : max_cpus.toNat ≤ 254 := UInt8.le_iff_toNat_le.mp hm
  have hsize := compute_mp_size_eq max_cpus
  have hlen := length_entries_bytes pci_legacy_irqs boot_cpus max_cpus
  have hbase : MPTABLE_START.toNat = 0x9fc00 := rfl
  set E := entries_bytes pci_legacy_irqs boot_cpus max_cpus with hE
  set mpf := ByteValued.as_slice (mpf_intel_of MPTABLE_START) with hmpf
  have hmpf_len : mpf.length = 16 := ByteValued.length_as_slice _
  -- the checks of the arguments and of the end of the table
  have hcpus : ¬ max_cpus.toUInt32 > MAX_SUPPORTED_CPUS := by
    have h254 : MAX_SUPPORTED_CPUS.toNat = 254 := rfl
    rw [gt_iff_lt, UInt32.lt_iff_toNat_lt, UInt8.toNat_toUInt32, h254]
    omega
  have hend : Checked.add MPTABLE_START (UInt64.ofNat (compute_mp_size max_cpus - 1)) =
      some (MPTABLE_START + UInt64.ofNat (compute_mp_size max_cpus - 1)) := by
    rw [Checked.add, Checked.within, if_pos]
    rw [UInt64.toNat_ofNat', Nat.mod_eq_of_lt (by omega)]
    omega
  have hin_end : GuestBytes.address_in_range mem
      (MPTABLE_START + UInt64.ofNat (compute_mp_size max_cpus - 1)) = true :=
    ((GuestBytes.in_range_iff.mp hmem) _ (by omega)).2
  -- the zero fill, as the runs the writes then cover
  have hzeros : (List.range (compute_mp_size max_cpus)).map (fun _ => (0 : UInt8)) =
      List.replicate 16 0 ++ (List.replicate 44 0 ++ List.replicate E.length 0 ++
        List.replicate 8 0) := by
    have hn : 20 * max_cpus.toNat + 228 = 16 + (44 + (20 * max_cpus.toNat + 160) + 8) := by omega
    rw [List.map_const', List.length_range, List.replicate_append_replicate,
      List.replicate_append_replicate, List.replicate_append_replicate, hsize, hlen, hn]
  obtain ⟨m₀, e₀, w₀⟩ := LawfulGuestBytes.read_from_ok mem MPTABLE_START (fun _ => 0) _ hmem
    (by omega)
  rw [hzeros] at w₀
  -- the floating pointer structure over the start of the fill
  obtain ⟨m₁, e₁, w₁⟩ := GuestBytes.write_obj_ok m₀ (mpf_intel_of MPTABLE_START) MPTABLE_START
    (by rw [w₀.in_range_eq]; exact GuestBytes.in_range_of_le hmem (by simp only [ByteValued.size]; omega))
  have w₀₁ : GuestBytes.Wrote mem m₁ MPTABLE_START
      (mpf ++ List.replicate 44 0 ++ List.replicate E.length 0 ++ List.replicate 8 0) := by
    have h := w₀.overwrite w₁ (by rw [← hmpf, hmpf_len, List.length_replicate])
    simpa only [List.append_assoc] using h
  -- the entries, after the room of the header
  have hfrom : MPTABLE_START + UInt64.ofNat (ByteValued.size mpf_intel) +
      UInt64.ofNat (ByteValued.size mpc_table) =
      MPTABLE_START + UInt64.ofNat (mpf ++ List.replicate 44 0).length := by
    rw [UInt64.add_assoc, ← UInt64.ofNat_add, List.length_append, hmpf_len,
      List.length_replicate]
    rfl
  obtain ⟨w, ew, hw, -⟩ := write_entries_spec pci_legacy_irqs boot_cpus max_cpus (n := 0)
    (w := ⟨m₁, MPTABLE_START + UInt64.ofNat (ByteValued.size mpf_intel) +
        UInt64.ofNat (ByteValued.size mpc_table), 0⟩) (by
      have hlen' := length_entries_bytes pci_legacy_irqs boot_cpus max_cpus
      refine ⟨?_, ?_⟩
      · rw [hfrom, GuestBytes.toNat_add_ofNat (by simp [hmpf_len]; omega)]
        simp [hmpf_len]
        omega
      · rw [hfrom, w₁.in_range_eq, w₀.in_range_eq]
        exact GuestBytes.in_range_sub hmem (by simp [hmpf_len]; omega))
  have hwmem : GuestBytes.Wrote mem w.mem MPTABLE_START
      (mpf ++ List.replicate 44 0 ++ E ++ List.replicate 8 0) := by
    have h := hw.mem
    dsimp only at h
    rw [hfrom] at h
    exact w₀₁.splice h (by rw [List.length_replicate]) (by simp [hmpf_len]; omega)
  have hwbase : w.base_mp = MPTABLE_START + UInt64.ofNat (ByteValued.size mpf_intel) +
      UInt64.ofNat (ByteValued.size mpc_table) + UInt64.ofNat E.length := hw.base_mp
  have hwsum : w.checksum = wsum E := by
    rw [hw.checksum]
    exact UInt8.zero_add _
  -- the header over the room left for it
  obtain ⟨m₃, e₃, w₃⟩ := GuestBytes.write_obj_ok w.mem
    (mpc_table_of (MPTABLE_START + UInt64.ofNat (ByteValued.size mpf_intel)) w.base_mp w.checksum)
    (MPTABLE_START + UInt64.ofNat (ByteValued.size mpf_intel)) (by
      rw [hwmem.in_range_eq]
      exact GuestBytes.in_range_sub hmem (by simp only [ByteValued.size]; omega))
  have hheader : mpc_table_of (MPTABLE_START + UInt64.ofNat (ByteValued.size mpf_intel)) w.base_mp
      w.checksum = header pci_legacy_irqs boot_cpus max_cpus := by
    rw [hwbase, hwsum]
    rfl
  have hat : MPTABLE_START + UInt64.ofNat (ByteValued.size mpf_intel) =
      MPTABLE_START + UInt64.ofNat mpf.length := by rw [hmpf_len]; rfl
  rw [hheader, hat] at w₃
  rw [List.append_assoc (mpf ++ _)] at hwmem
  refine ⟨m₃, ?_, hwmem.splice w₃ (by rw [ByteValued.length_as_slice, List.length_replicate]; rfl)
    (by omega)⟩
  have hboot : ¬ boot_cpus > max_cpus := UInt8.not_lt.mpr hb
  simp only [setup_mptable, hboot, hcpus, ↓reduceIte, hend, hin_end, Bool.not_true,
    Bool.false_eq_true, e₀, Except.mapError_ok, Except.ok_bind_eq, e₁, ew, e₃]

/-- What `setup_mptable` leaves: `table_image` read back from `MPTABLE_START` on, and every other
byte as it was. -/
theorem setup_mptable_image {M : Type} [GuestBytes M] [LawfulGuestBytes M]
    (pci_legacy_irqs : Option (UInt8 → Option UInt8)) (boot_cpus max_cpus : UInt8) {mem : M}
    (hb : boot_cpus ≤ max_cpus) (hm : max_cpus ≤ 254)
    (hmem : GuestBytes.in_range mem MPTABLE_START (compute_mp_size max_cpus) = true) :
    ∃ mem', setup_mptable mem boot_cpus max_cpus pci_legacy_irqs = .ok mem' ∧
      GuestBytes.read mem' MPTABLE_START (compute_mp_size max_cpus) =
        table_image pci_legacy_irqs boot_cpus max_cpus ∧
      ∀ a : UInt64, a.toNat < MPTABLE_START.toNat ∨
        MPTABLE_START.toNat + compute_mp_size max_cpus ≤ a.toNat →
          GuestBytes.load mem' a = GuestBytes.load mem a := by
  have hmax : max_cpus.toNat ≤ 254 := UInt8.le_iff_toNat_le.mp hm
  have hlen := length_table_image pci_legacy_irqs boot_cpus max_cpus
  have hsize := compute_mp_size_eq max_cpus
  have hbase : MPTABLE_START.toNat = 0x9fc00 := rfl
  obtain ⟨mem', he, hw⟩ := setup_mptable_wrote pci_legacy_irqs hb hm hmem
  refine ⟨mem', he, ?_, fun a ha => hw.load_of_not_mem (by rwa [hlen])⟩
  rw [← hlen]
  exact hw.read_eq (by omega)

/-! ## The table is a valid MP table -/

/-- The table `setup_mptable` writes, read as its structures. -/
def table (pci_legacy_irqs : Option (UInt8 → Option UInt8)) (boot_cpus max_cpus : UInt8) :
    Table where
  mpf := mpf_intel_of MPTABLE_START
  header := header pci_legacy_irqs boot_cpus max_cpus
  cpus := cpus boot_cpus max_cpus
  buses := [mpc_bus_of BUS_ID_ISA BUS_TYPE_ISA, mpc_bus_of BUS_ID_PCI BUS_TYPE_PCI]
  ioapic := mpc_ioapic_of (max_cpus + 1)
  intsrcs := intsrcs pci_legacy_irqs (max_cpus + 1)
  lintsrcs := [mpc_lintsrc_of mp_irq_source_types_mp_ExtINT.toUInt8 0 0,
    mpc_lintsrc_of mp_irq_source_types_mp_NMI.toUInt8 0xFF 1]

section Valid

variable (pci_legacy_irqs : Option (UInt8 → Option UInt8)) (boot_cpus max_cpus : UInt8)

theorem table_entries :
    (table pci_legacy_irqs boot_cpus max_cpus).entries =
      entries_bytes pci_legacy_irqs boot_cpus max_cpus := by
  simp only [Table.entries, table, entries_bytes, List.flatMap_cons, List.flatMap_nil,
    List.append_nil, List.append_assoc]

theorem table_image_eq :
    table_image pci_legacy_irqs boot_cpus max_cpus =
      (table pci_legacy_irqs boot_cpus max_cpus).bytes ++
        List.replicate (ByteValued.size mpc_intsrc) 0 := by
  rw [Table.bytes, table_entries, table_image]
  simp only [List.append_assoc]
  rfl

/-- Setting the checksum byte of the floating pointer structure. -/
theorem wsum_mpf_intel_checksum (v : mpf_intel) (c : UInt8) :
    wsum (ByteValued.as_slice { v with checksum := c }) =
      wsum (ByteValued.as_slice v) - v.checksum + c := by
  simp only [ByteValued.as_slice, wsum_append, wsum_cons, wsum_nil]
  grind

/-- Setting the checksum byte of the header. -/
theorem wsum_mpc_table_checksum (v : mpc_table) (c : UInt8) :
    wsum (ByteValued.as_slice { v with checksum := c }) =
      wsum (ByteValued.as_slice v) - v.checksum + c := by
  simp only [ByteValued.as_slice, wsum_append, wsum_cons, wsum_nil]
  grind

theorem wsum_mpf_intel_of (base_mp : UInt64) :
    wsum (ByteValued.as_slice (mpf_intel_of base_mp)) = 0 := by
  rw [mpf_intel_of, wsum_mpf_intel_checksum, mpf_intel_compute_checksum]
  exact add_not_add_one _

/-- The header's checksum byte brings the sum of the entries, `checksum`, with the header's own
bytes, to zero. -/
theorem add_wsum_mpc_table_of (table_base table_end : UInt64) (checksum : UInt8) :
    checksum + wsum (ByteValued.as_slice (mpc_table_of table_base table_end checksum)) = 0 := by
  rw [mpc_table_of, wsum_mpc_table_checksum, UInt8.sub_zero, ← UInt8.add_assoc]
  exact add_not_add_one _

theorem toNat_shiftLeft_two {d : UInt8} (h : d < 64) : (d <<< 2).toNat = 4 * d.toNat := by
  have hd : d.toNat < 64 := UInt8.lt_iff_toNat_lt.mp h
  rw [UInt8.toNat_shiftLeft, Nat.shiftLeft_eq]
  simp only [UInt8.reduceToNat, Nat.reduceMod, Nat.reducePow]
  omega

theorem toNat_getElem_u8_range {n : UInt8} {k : Nat} (hk : k < (u8_range n).length) :
    ((u8_range n)[k]).toNat = k := by
  have hn := n.toNat_lt
  rw [length_u8_range] at hk
  simp only [u8_range, List.getElem_map, List.getElem_range, Nat.toUInt8_eq, UInt8.toNat_ofNat']
  omega

theorem apicid_mpc_cpu_of (cpu_id : UInt8) : (mpc_cpu_of boot_cpus cpu_id).apicid = cpu_id := by
  unfold mpc_cpu_of
  split_ifs <;> rfl

theorem type_mpc_cpu_of (cpu_id : UInt8) : (mpc_cpu_of boot_cpus cpu_id).type_ = 0 := by
  unfold mpc_cpu_of
  split_ifs <;> rfl

/-- The flags of a processor entry: enabled below `boot_cpus`, bootstrap at id 0. -/
theorem cpuflag_mpc_cpu_of (cpu_id : UInt8) :
    (mpc_cpu_of boot_cpus cpu_id).cpuflag =
      (if cpu_id < boot_cpus then CPU_ENABLED.toUInt8 else 0) |||
        (if cpu_id = 0 then CPU_BOOTPROCESSOR.toUInt8 else 0) := by
  unfold mpc_cpu_of
  split_ifs <;> simp [CPU_ENABLED, CPU_BOOTPROCESSOR]

/-- The two flags are separate bits. -/
theorem cpuflag_bits (p q : Prop) [Decidable p] [Decidable q] :
    (((if p then CPU_ENABLED.toUInt8 else 0) ||| (if q then CPU_BOOTPROCESSOR.toUInt8 else 0)) &&&
        CPU_ENABLED.toUInt8 ≠ 0 ↔ p) ∧
      (((if p then CPU_ENABLED.toUInt8 else 0) ||| (if q then CPU_BOOTPROCESSOR.toUInt8 else 0)) &&&
        CPU_BOOTPROCESSOR.toUInt8 ≠ 0 ↔ q) := by
  by_cases hp : p <;> by_cases hq : q <;> simp only [hp, hq, if_true, if_false, iff_true,
    iff_false, not_not] <;> decide

theorem enabled_mpc_cpu_of (cpu_id : UInt8) :
    (mpc_cpu_of boot_cpus cpu_id).cpuflag &&& CPU_ENABLED.toUInt8 ≠ 0 ↔ cpu_id < boot_cpus := by
  rw [cpuflag_mpc_cpu_of]
  exact (cpuflag_bits _ _).1

theorem bootstrap_mpc_cpu_of (cpu_id : UInt8) :
    (mpc_cpu_of boot_cpus cpu_id).cpuflag &&& CPU_BOOTPROCESSOR.toUInt8 ≠ 0 ↔ cpu_id = 0 := by
  rw [cpuflag_mpc_cpu_of]
  exact (cpuflag_bits _ _).2

theorem getElem_isa_irqs : ∀ j (hj : j < isa_irqs.length), isa_irqs[j] = isa_irq j := by
  decide

/-- The interrupt source of IRQ `i` is the one `IntsrcFor` describes, when the devices' numbers
fit in the five bits above the pin number. -/
theorem mpc_intsrc_of_for (ioapicid i : UInt8)
    (hpci : ∀ irq_device, pci_legacy_irqs = some irq_device →
      ∀ device_id, irq_device i = some device_id → device_id < 64) :
    IntsrcFor pci_legacy_irqs ioapicid i (mpc_intsrc_of pci_legacy_irqs ioapicid i) := by
  unfold IntsrcFor mpc_intsrc_of
  -- the PCI patch comes first, the pin of IRQ 0 second
  rcases pci_legacy_irqs with _ | irq_device
  · split_ifs <;> simp
  · cases hd : irq_device i with
    | none => split_ifs <;> simp [hd]
    | some device_id =>
      have h64 := hpci irq_device rfl device_id hd
      split_ifs <;> simp [hd, toNat_shiftLeft_two h64]

/-- The patches of an interrupt source change its bus and pin, never its type or flags. -/
theorem type_mpc_intsrc_of (ioapicid i : UInt8) :
    (mpc_intsrc_of pci_legacy_irqs ioapicid i).type_ = 3 ∧
      (mpc_intsrc_of pci_legacy_irqs ioapicid i).irqtype = 0 ∧
      (mpc_intsrc_of pci_legacy_irqs ioapicid i).irqflag = 0 := by
  unfold mpc_intsrc_of
  rcases pci_legacy_irqs with _ | irq_device
  · split_ifs <;> refine ⟨?_, ?_, ?_⟩ <;> rfl
  · dsimp only
    cases irq_device i <;> split_ifs <;> refine ⟨?_, ?_, ?_⟩ <;> rfl

theorem length_header (hm : max_cpus ≤ 254) :
    (header pci_legacy_irqs boot_cpus max_cpus).length.toNat =
      ByteValued.size mpc_table + (entries_bytes pci_legacy_irqs boot_cpus max_cpus).length := by
  have hmax : max_cpus.toNat ≤ 254 := UInt8.le_iff_toNat_le.mp hm
  have hlen := length_entries_bytes pci_legacy_irqs boot_cpus max_cpus
  have hdiff : ∀ a b c : UInt64, a + b + c - a = b + c := by
    intro a b c
    grind
  simp only [header, mpc_table_of]
  rw [hdiff, ← UInt64.ofNat_add, UInt64.toNat_toUInt16, UInt64.toNat_ofNat', hlen]
  simp only [ByteValued.size]
  omega

/-- The floating pointer structure points right after itself. -/
theorem physptr_mpf_intel_of :
    (mpf_intel_of MPTABLE_START).physptr.toNat = MPTABLE_START.toNat + ByteValued.size mpf_intel := by
  decide

theorem toNat_lt_of_mem_u8_range {n cpu_id : UInt8} (h : cpu_id ∈ u8_range n) :
    cpu_id.toNat < n.toNat := by
  obtain ⟨k, hk, rfl⟩ := List.mem_map.mp h
  have hn := n.toNat_lt
  rw [List.mem_range] at hk
  rw [Nat.toUInt8_eq, UInt8.toNat_ofNat']
  omega

theorem toNat_ioapicid (hm : max_cpus ≤ 254) : (max_cpus + 1).toNat = max_cpus.toNat + 1 := by
  have hmax : max_cpus.toNat ≤ 254 := UInt8.le_iff_toNat_le.mp hm
  rw [UInt8.toNat_add]
  simp only [UInt8.reduceToNat]
  omega

/-- With at most 254 CPUs, and PCI device numbers below 64, the table `setup_mptable` writes is a
valid MP table. -/
theorem table_valid (hm : max_cpus ≤ 254)
    (hpci : ∀ irq_device, pci_legacy_irqs = some irq_device →
      ∀ i device_id, irq_device i = some device_id → device_id < 64) :
    (table pci_legacy_irqs boot_cpus max_cpus).Valid MPTABLE_START boot_cpus max_cpus
      pci_legacy_irqs where
  mpf_signature := rfl
  mpf_length := rfl
  mpf_specification := rfl
  mpf_checksum := wsum_mpf_intel_of MPTABLE_START
  physptr := physptr_mpf_intel_of
  signature := rfl
  spec := rfl
  lapic := rfl
  length := by
    rw [table_entries]
    exact length_header pci_legacy_irqs boot_cpus max_cpus hm
  checksum := by
    rw [table_entries, wsum_append, UInt8.add_comm]
    exact add_wsum_mpc_table_of _ _ _
  cpu_type c hc := by
    obtain ⟨cpu_id, -, rfl⟩ := List.mem_map.mp hc
    exact type_mpc_cpu_of boot_cpus cpu_id
  length_cpus := by simp [table, cpus, length_u8_range]
  apicid k hk := by
    simp only [table, cpus, List.getElem_map, apicid_mpc_cpu_of]
    exact toNat_getElem_u8_range _
  enabled k hk := by
    simp only [table, cpus, List.getElem_map]
    rw [enabled_mpc_cpu_of, UInt8.lt_iff_toNat_lt, toNat_getElem_u8_range]
  bootstrap k hk := by
    simp only [table, cpus, List.getElem_map]
    rw [bootstrap_mpc_cpu_of, ← UInt8.toNat_inj, toNat_getElem_u8_range]
    rfl
  buses := rfl
  ioapic_type := rfl
  ioapic_usable := by
    show MPC_APIC_USABLE.toUInt8 &&& 1 = 1
    decide
  ioapic_addr := rfl
  ioapicid := toNat_ioapicid max_cpus hm
  ioapicid_ne c hc := by
    -- the processors' ids are below `max_cpus`, the I/O APIC's is `max_cpus + 1`
    obtain ⟨cpu_id, hid, rfl⟩ := List.mem_map.mp hc
    have hlt := toNat_lt_of_mem_u8_range hid
    have hio := toNat_ioapicid max_cpus hm
    intro heq
    have := congrArg UInt8.toNat heq
    simp only [apicid_mpc_cpu_of, table, mpc_ioapic_of] at this
    omega
  intsrc_type e he := by
    obtain ⟨i, -, rfl⟩ := List.mem_map.mp he
    exact type_mpc_intsrc_of pci_legacy_irqs (max_cpus + 1) i
  length_intsrcs := by simp [table, intsrcs, length_isa_irqs]
  intsrc j hj := by
    have hj' : j < isa_irqs.length := by simpa [table, intsrcs] using hj
    simp only [table, intsrcs, List.getElem_map, getElem_isa_irqs j hj']
    exact mpc_intsrc_of_for pci_legacy_irqs (max_cpus + 1) (isa_irq j)
      fun irq_device h device_id => hpci irq_device h (isa_irq j) device_id
  lintsrcs := rfl

end Valid

/-! ## `setup_mptable` writes a valid MP table -/

/-- With `boot_cpus ≤ max_cpus ≤ 254`, PCI device numbers below 64 and guest memory under the
room `compute_mp_size` counts, `setup_mptable` succeeds on any guest memory that writes as
`vm-memory` documents; the bytes from `MPTABLE_START` on are a valid MP table, then the zeros of
the slot no interrupt source takes; and no other byte of guest memory changes. -/
theorem setup_mptable_writes_valid_table {M : Type} [GuestBytes M] [LawfulGuestBytes M]
    (boot_cpus max_cpus : UInt8) (pci_legacy_irqs : Option (UInt8 → Option UInt8)) (mem : M)
    (hb : boot_cpus ≤ max_cpus) (hm : max_cpus ≤ 254)
    (hpci : ∀ irq_device, pci_legacy_irqs = some irq_device →
      ∀ i device_id, irq_device i = some device_id → device_id < 64)
    (hmem : GuestBytes.in_range mem MPTABLE_START (compute_mp_size max_cpus) = true) :
    ∃ t : Table, t.Valid MPTABLE_START boot_cpus max_cpus pci_legacy_irqs ∧
      ∃ mem', setup_mptable mem boot_cpus max_cpus pci_legacy_irqs = .ok mem' ∧
        GuestBytes.read mem' MPTABLE_START (compute_mp_size max_cpus) =
          t.bytes ++ List.replicate (ByteValued.size mpc_intsrc) 0 ∧
        ∀ a : UInt64, a.toNat < MPTABLE_START.toNat ∨
          MPTABLE_START.toNat + compute_mp_size max_cpus ≤ a.toNat →
            GuestBytes.load mem' a = GuestBytes.load mem a := by
  obtain ⟨mem', he, hread, hout⟩ :=
    setup_mptable_image pci_legacy_irqs boot_cpus max_cpus hb hm hmem
  refine ⟨table pci_legacy_irqs boot_cpus max_cpus,
    table_valid pci_legacy_irqs boot_cpus max_cpus hm hpci, mem', he, ?_, hout⟩
  rw [hread, table_image_eq]

/-- A guest whose memory is its first MiB, at host `0x10000000`. -/
def low_memory : GuestMemoryHybrid where
  regions := [⟨0, 0x100000, 0x10000000, none⟩]
  nonempty := by decide
  valid := by decide
  sorted := by decide
  bytes _ := 0

theorem low_memory_in_range {max_cpus : UInt8} (hm : max_cpus ≤ 254) :
    GuestBytes.in_range low_memory MPTABLE_START (compute_mp_size max_cpus) = true := by
  have hmax : max_cpus.toNat ≤ 254 := UInt8.le_iff_toNat_le.mp hm
  rw [GuestMemoryHybrid.in_range_eq]
  refine GuestMemoryHybrid.in_range_of_region (List.mem_singleton_self _) (by decide) ?_
  rw [compute_mp_size_eq]
  show 0x9fc00 + (20 * max_cpus.toNat + 228) ≤ 0 + 0x100000
  omega

/-- The PCI device `2` on IRQ 5, for two CPUs of which one boots, in the first MiB of a
`GuestMemoryHybrid`. -/
theorem setup_mptable_writes_valid_table_two_cpus :
    LawfulGuestBytes GuestMemoryHybrid ∧ (1 : UInt8) ≤ 2 ∧ (2 : UInt8) ≤ 254 ∧
      (∀ irq_device, some (fun i : UInt8 => if i = 5 then some (2 : UInt8) else none) =
        some irq_device → ∀ i device_id, irq_device i = some device_id → device_id < 64) ∧
      GuestBytes.in_range low_memory MPTABLE_START (compute_mp_size 2) = true ∧
      ∃ t : Table, t.Valid MPTABLE_START 1 2
          (some fun i : UInt8 => if i = 5 then some (2 : UInt8) else none) ∧
        ∃ mem', setup_mptable low_memory 1 2
            (some fun i : UInt8 => if i = 5 then some (2 : UInt8) else none) = .ok mem' ∧
          GuestBytes.read mem' MPTABLE_START (compute_mp_size 2) =
            t.bytes ++ List.replicate (ByteValued.size mpc_intsrc) 0 ∧
          ∀ a : UInt64, a.toNat < MPTABLE_START.toNat ∨
            MPTABLE_START.toNat + compute_mp_size 2 ≤ a.toNat →
              GuestBytes.load mem' a = GuestBytes.load low_memory a := by
  have hpci : ∀ irq_device, some (fun i : UInt8 => if i = 5 then some (2 : UInt8) else none) =
      some irq_device → ∀ i device_id, irq_device i = some device_id → device_id < 64 := by
    rintro _ ⟨⟩ i device_id h
    dsimp only at h
    split at h
    · cases h
      decide
    · cases h
  exact ⟨inferInstance, by decide, by decide, hpci, low_memory_in_range (by decide),
    setup_mptable_writes_valid_table 1 2 _ low_memory (by decide) (by decide) hpci
      (low_memory_in_range (by decide))⟩

/-- A PCI device given IRQ 2 is not in the table: the loop skips the slot of IRQ 2 after the
patch, and every interrupt source is from the ISA bus. -/
theorem setup_mptable_drops_irq_two :
    ∃ mem', setup_mptable low_memory 1 1
        (some fun i : UInt8 => if i = 2 then some (1 : UInt8) else none) = .ok mem' ∧
      GuestBytes.read mem' MPTABLE_START (compute_mp_size 1) =
        (table (some fun i : UInt8 => if i = 2 then some (1 : UInt8) else none) 1 1).bytes ++
          List.replicate (ByteValued.size mpc_intsrc) 0 ∧
      ∀ e ∈ (table (some fun i : UInt8 => if i = 2 then some (1 : UInt8) else none) 1 1).intsrcs,
        e.srcbus = BUS_ID_ISA := by
  obtain ⟨mem', he, hread, -⟩ := setup_mptable_image
    (some fun i : UInt8 => if i = 2 then some (1 : UInt8) else none) 1 1 (by decide) (by decide)
    (low_memory_in_range (by decide))
  refine ⟨mem', he, ?_, by decide⟩
  rw [hread, table_image_eq]

end KataContainers.Dragonball.MpTable
