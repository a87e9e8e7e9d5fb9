import KataContainers.Dragonball.AddressSpace
import KataContainers.Dragonball.ResourceManager
import KataContainers.Lib.Except

/-!
# The e820 map of the boot parameters

Model of the memory map that `configure_system` of `src/dragonball/src/vm/x86_64.rs` writes into
the Linux `boot_params`, through `add_e820_entry` of `dbs_boot/src/x86_64/mod.rs`. The map has
at most three RAM entries, all derived from one number, the address space's `last_addr`: the
conventional memory below `EBDA_START`, memory from `HIMEM_START` up to `last_addr` or to the
MMIO hole, and memory above the hole up to `last_addr`.

`configure_system_claims` gives the bytes the map claims as RAM for every address space whose
regions reach `HIMEM_START`: every byte outside the EBDA gap and the MMIO hole up to the highest
last address of a region that is not DAX memory. On an address space with a virtio-mem region,
which is such a region, the map would claim the bytes between the boot memory and it, and the
region itself (`configure_system_claims_up_to_last_addr_virtio_mem`). `configure_system` does not
meet one: it runs once, while `start_microvm` boots, before any virtio-mem region exists, and
`Boot` shows that on the address space of the boot the map claims exactly the boot memory.

`unchecked_offset_from` and the `+ 1`s wrap as in a release build. The rest of `configure_system`
(the MP table, the header fields, writing the zero page) is not modelled here.
-/

namespace KataContainers.Dragonball

def HIMEM_START : UInt64 := 0x0010_0000
def EBDA_START : UInt64 := 0x9fc00
def E820_RAM : UInt32 := 1
def E820_MAX_ENTRIES_ZEROPAGE : Nat := 128

/-- `boot_e820_entry`. -/
structure boot_e820_entry where
  addr : UInt64
  size : UInt64
  type_ : UInt32
  deriving DecidableEq, Repr

/-- The e820 fields of `boot_params`. -/
structure boot_params where
  e820_entries : UInt8
  e820_table : List boot_e820_entry
  deriving DecidableEq, Repr

/-- `boot_params::default()`: no entry, and a zeroed table of `E820_MAX_ENTRIES_ZEROPAGE`. -/
def boot_params.default : boot_params :=
  ⟨0, List.replicate E820_MAX_ENTRIES_ZEROPAGE ⟨0, 0, 0⟩⟩

/-- The errors of `configure_system` on the way to the e820 map: `Error::BootSystem` of a full
table and `Error::AddressSpace` of a missing address space. -/
inductive E820Error
  | E820Configuration
  | AddressSpace
  deriving DecidableEq, Repr

/-- `add_e820_entry`. -/
def add_e820_entry (params : boot_params) (addr size : UInt64) (mem_type : UInt32) :
    Except E820Error boot_params :=
  if params.e820_entries ≥ UInt8.ofNat params.e820_table.length then .error .E820Configuration
  else .ok ⟨params.e820_entries + 1,
    params.e820_table.set params.e820_entries.toNat ⟨addr, size, mem_type⟩⟩

/-- The e820 map that `configure_system` writes, for the address space it is given. -/
def configure_system (address_space : Option AddressSpaceBase) : Except E820Error boot_params := do
  let params ← add_e820_entry boot_params.default 0 EBDA_START E820_RAM
  let mem_end ← match address_space with
    | some a => pure a.last_addr
    | none => throw .AddressSpace
  if mem_end < MMIO_LOW_START then
    add_e820_entry params HIMEM_START (mem_end - HIMEM_START + 1) E820_RAM
  else
    let params ← add_e820_entry params HIMEM_START (MMIO_LOW_START - HIMEM_START) E820_RAM
    if mem_end > MMIO_LOW_END then
      add_e820_entry params (MMIO_LOW_END + 1) (mem_end - MMIO_LOW_END) E820_RAM
    else pure params

namespace boot_params

/-- The entries of the map, the first `e820_entries` of the table. -/
def entries (params : boot_params) : List boot_e820_entry :=
  params.e820_table.take params.e820_entries.toNat

/-- The map claims the byte `x` as RAM. -/
def Claimed (params : boot_params) (x : Nat) : Prop :=
  ∃ e ∈ params.entries, e.type_ = E820_RAM ∧ e.addr.toNat ≤ x ∧ x < e.addr.toNat + e.size.toNat

end boot_params

/-! ## Filling the table -/

section Table

variable {params : boot_params}

theorem toNat_HIMEM_START : HIMEM_START.toNat = 1048576 := rfl
theorem toNat_EBDA_START : EBDA_START.toNat = 654336 := rfl
theorem toNat_MMIO_LOW_START : MMIO_LOW_START.toNat = 3221225472 := by decide
theorem toNat_MMIO_LOW_END : MMIO_LOW_END.toNat = 4294967295 := by decide

theorem default_e820_table_length :
    boot_params.default.e820_table.length = E820_MAX_ENTRIES_ZEROPAGE :=
  List.length_replicate

/-- While the table has room, `add_e820_entry` appends one entry to the map. -/
theorem add_e820_entry_eq_ok (addr size : UInt64) (mem_type : UInt32)
    (h : params.e820_entries.toNat < params.e820_table.length)
    (hlen : params.e820_table.length < 256) :
    ∃ params', add_e820_entry params addr size mem_type = .ok params' ∧
      params'.entries = params.entries ++ [⟨addr, size, mem_type⟩] ∧
      params'.e820_entries.toNat = params.e820_entries.toNat + 1 ∧
      params'.e820_table.length = params.e820_table.length := by
  have hroom : ¬ params.e820_entries ≥ UInt8.ofNat params.e820_table.length := by
    rw [ge_iff_le, UInt8.le_iff_toNat_le, UInt8.toNat_ofNat', Nat.mod_eq_of_lt hlen]
    omega
  have hsucc : (params.e820_entries + 1).toNat = params.e820_entries.toNat + 1 := by
    rw [UInt8.toNat_add, UInt8.toNat_one]
    exact Nat.mod_eq_of_lt (by omega)
  refine ⟨_, by rw [add_e820_entry, if_neg hroom], ?_, hsucc, List.length_set⟩
  rw [boot_params.entries, hsucc]
  exact List.take_add_one_set _ h

/-- The map of `configure_system`, from the `last_addr` of the address space. -/
theorem configure_system_entries (a : AddressSpaceBase) :
    ∃ params, configure_system (some a) = .ok params ∧
      params.entries = ⟨0, EBDA_START, E820_RAM⟩ ::
        if a.last_addr < MMIO_LOW_START then
          [⟨HIMEM_START, a.last_addr - HIMEM_START + 1, E820_RAM⟩]
        else ⟨HIMEM_START, MMIO_LOW_START - HIMEM_START, E820_RAM⟩ ::
          if a.last_addr > MMIO_LOW_END then
            [⟨MMIO_LOW_END + 1, a.last_addr - MMIO_LOW_END, E820_RAM⟩]
          else [] := by
  have hroom₀ : boot_params.default.e820_entries.toNat < boot_params.default.e820_table.length := by
    rw [default_e820_table_length]
    decide
  have hlen₀ : boot_params.default.e820_table.length < 256 := by
    rw [default_e820_table_length]
    decide
  obtain ⟨p₁, h₁, he₁, hn₁, hl₁⟩ := add_e820_entry_eq_ok 0 EBDA_START E820_RAM hroom₀ hlen₀
  -- the table has room for the two entries that may follow
  have hroom₁ : p₁.e820_entries.toNat < p₁.e820_table.length := by
    rw [hn₁, hl₁, default_e820_table_length]
    decide
  have hlen₁ : p₁.e820_table.length < 256 := hl₁ ▸ hlen₀
  simp only [configure_system, h₁, Except.ok_bind_eq, Except.pure_eq_ok]
  split_ifs with hlow hhigh
  · -- all memory below the MMIO hole
    obtain ⟨p₂, h₂, he₂, -, -⟩ :=
      add_e820_entry_eq_ok HIMEM_START (a.last_addr - HIMEM_START + 1) E820_RAM hroom₁ hlen₁
    exact ⟨p₂, h₂, by rw [he₂, he₁]; rfl⟩
  · -- memory on both sides of the hole
    obtain ⟨p₂, h₂, he₂, hn₂, hl₂⟩ :=
      add_e820_entry_eq_ok HIMEM_START (MMIO_LOW_START - HIMEM_START) E820_RAM hroom₁ hlen₁
    obtain ⟨p₃, h₃, he₃, -, -⟩ :=
      add_e820_entry_eq_ok (MMIO_LOW_END + 1) (a.last_addr - MMIO_LOW_END) E820_RAM
        (by rw [hn₂, hl₂, hn₁, hl₁, default_e820_table_length]; decide) (hl₂ ▸ hlen₁)
    rw [h₂, Except.ok_bind_eq]
    exact ⟨p₃, h₃, by rw [he₃, he₂, he₁]; rfl⟩
  · -- memory up to the start of the hole
    obtain ⟨p₂, h₂, he₂, -, -⟩ :=
      add_e820_entry_eq_ok HIMEM_START (MMIO_LOW_START - HIMEM_START) E820_RAM hroom₁ hlen₁
    rw [h₂, Except.ok_bind_eq]
    exact ⟨p₂, rfl, by rw [he₂, he₁]; rfl⟩

end Table

/-! ## What the map claims -/

section Claims

theorem claimed_cons_iff {params : boot_params} {e : boot_e820_entry} {l : List boot_e820_entry}
    (h : params.entries = e :: l) (x : Nat) :
    params.Claimed x ↔ (e.type_ = E820_RAM ∧ e.addr.toNat ≤ x ∧ x < e.addr.toNat + e.size.toNat) ∨
      ∃ f ∈ l, f.type_ = E820_RAM ∧ f.addr.toNat ≤ x ∧ x < f.addr.toNat + f.size.toNat := by
  simp only [boot_params.Claimed, h, List.mem_cons, exists_eq_or_imp]

/-- For an address space whose regions reach `HIMEM_START`, the map is sorted, its entries are
apart, each is RAM, ends within the 64-bit space and lies on one side of the MMIO hole, and it
claims as RAM every byte below `EBDA_START` and every byte from `HIMEM_START` up to `last_addr`
outside the MMIO hole: a fact of the one number `last_addr`, not of the regions. -/
theorem configure_system_claims (a : AddressSpaceBase)
    (hlow : HIMEM_START.toNat ≤ a.last_addr.toNat + 1) :
    ∃ params, configure_system (some a) = .ok params ∧
      (params.entries.Pairwise fun e f => e.addr.toNat + e.size.toNat ≤ f.addr.toNat) ∧
      (∀ e ∈ params.entries, e.type_ = E820_RAM ∧ e.addr.toNat + e.size.toNat ≤ 2 ^ 64 ∧
        (e.addr.toNat + e.size.toNat ≤ MMIO_LOW_START.toNat ∨ MMIO_LOW_END.toNat < e.addr.toNat)) ∧
      ∀ x, params.Claimed x ↔ x < EBDA_START.toNat ∨
        (HIMEM_START.toNat ≤ x ∧ x ≤ a.last_addr.toNat ∧ x < MMIO_LOW_START.toNat) ∨
        (MMIO_LOW_END.toNat < x ∧ x ≤ a.last_addr.toNat) := by
  obtain ⟨params, h, he⟩ := configure_system_entries a
  refine ⟨params, h, ?_⟩
  have hfit := a.last_addr.toNat_lt
  have hgap : (MMIO_LOW_START - HIMEM_START).toNat = 3220176896 := by decide
  have hhole : (MMIO_LOW_END + 1).toNat = 4294967296 := by decide
  rw [toNat_HIMEM_START] at hlow
  rw [toNat_EBDA_START, toNat_HIMEM_START, toNat_MMIO_LOW_START, toNat_MMIO_LOW_END]
  split_ifs at he with hbelow habove
  · -- two entries: the second ends at `last_addr`
    have hlt := UInt64.lt_iff_toNat_lt.mp hbelow
    rw [toNat_MMIO_LOW_START] at hlt
    have hsize : (a.last_addr - HIMEM_START + 1).toNat = a.last_addr.toNat + 1 - 1048576 := by
      rw [UInt64.toNat_add, UInt64.toNat_sub, toNat_HIMEM_START, UInt64.toNat_one]
      omega
    refine ⟨by rw [he]; simp [hsize, toNat_EBDA_START, toNat_HIMEM_START],
      by rw [he]; simp [hsize, toNat_EBDA_START, toNat_HIMEM_START, E820_RAM]; omega, fun x => ?_⟩
    rw [claimed_cons_iff he]
    simp only [List.mem_singleton, exists_eq_left, hsize, toNat_EBDA_START, toNat_HIMEM_START,
      UInt64.toNat_zero, true_and, Nat.zero_le, Nat.zero_add]
    omega
  · -- three entries: up to the hole, and from its end to `last_addr`
    have hgt := UInt64.lt_iff_toNat_lt.mp habove
    rw [toNat_MMIO_LOW_END] at hgt
    have hsize : (a.last_addr - MMIO_LOW_END).toNat = a.last_addr.toNat - 4294967295 := by
      rw [UInt64.toNat_sub_of_le _ _ (UInt64.le_of_lt habove), toNat_MMIO_LOW_END]
    refine ⟨by rw [he]; simp [hsize, hgap, hhole, toNat_EBDA_START, toNat_HIMEM_START],
      by rw [he]; simp [hsize, hgap, hhole, toNat_EBDA_START, toNat_HIMEM_START, E820_RAM]; omega,
      fun x => ?_⟩
    rw [claimed_cons_iff he]
    simp only [List.mem_cons, List.not_mem_nil, or_false, exists_eq_or_imp,
      exists_eq_left, hsize, hgap, hhole, toNat_EBDA_START, toNat_HIMEM_START, UInt64.toNat_zero,
      true_and, Nat.zero_le, Nat.zero_add]
    omega
  · -- two entries: memory reaches into the hole but not past it
    have hge := UInt64.not_lt.mp hbelow
    have hle := UInt64.not_lt.mp habove
    rw [UInt64.le_iff_toNat_le, toNat_MMIO_LOW_START] at hge
    rw [UInt64.le_iff_toNat_le, toNat_MMIO_LOW_END] at hle
    refine ⟨by rw [he]; simp [hgap, toNat_EBDA_START, toNat_HIMEM_START],
      by rw [he]; simp [hgap, toNat_EBDA_START, toNat_HIMEM_START, E820_RAM], fun x => ?_⟩
    rw [claimed_cons_iff he]
    simp only [List.mem_singleton, exists_eq_left, hgap, toNat_EBDA_START, toNat_HIMEM_START,
      UInt64.toNat_zero, true_and, Nat.zero_le, Nat.zero_add]
    omega

end Claims

open AddressSpaceBase AddressSpaceRegion in
/-- On a well-formed address space in which a region that is not DAX memory holds
`HIMEM_START - 1`, the map of `configure_system_claims` reaches the end of every region of positive
size that is not DAX memory, whatever lies between them. -/
theorem configure_system_claims_up_to_last_addr {a : AddressSpaceBase} (hwf : a.WellFormed)
    (hlow : ∃ r ∈ a.regions, r.ty ≠ .DAXMemory ∧ r.holds (HIMEM_START - 1) = true) :
    ∃ params, configure_system (some a) = .ok params ∧
      (params.entries.Pairwise fun e f => e.addr.toNat + e.size.toNat ≤ f.addr.toNat) ∧
      (∀ x, params.Claimed x ↔ x < EBDA_START.toNat ∨
        (HIMEM_START.toNat ≤ x ∧ x ≤ a.last_addr.toNat ∧ x < MMIO_LOW_START.toNat) ∨
        (MMIO_LOW_END.toNat < x ∧ x ≤ a.last_addr.toNat)) ∧
      ∀ r ∈ a.regions, r.ty ≠ .DAXMemory → 0 < r.size.toNat → r.end_nat ≤ a.last_addr.toNat + 1 := by
  have hfit : ∀ r ∈ a.regions, r.end_nat < 2 ^ 64 := fun r hr =>
    AddressSpaceLayout.end_lt_of_is_region_valid (hwf.valid r hr)
  -- every region that is not DAX memory ends by `last_addr`
  have hreach : ∀ r ∈ a.regions, r.ty ≠ .DAXMemory → 0 < r.size.toNat →
      r.end_nat ≤ a.last_addr.toNat + 1 := by
    intro r hr hty hpos
    have hle := UInt64.le_iff_toNat_le.mp ((a.last_addr_spec).2.1 r hr hty)
    rw [toNat_last_addr (hfit r hr) hpos] at hle
    omega
  obtain ⟨r, hr, hty, hx⟩ := hlow
  have hcont := (holds_iff (hfit r hr) _).mp hx
  have hx' : (HIMEM_START - 1).toNat = 1048575 := by decide
  rw [Contains, hx'] at hcont
  have hpos : 0 < r.size.toNat := by
    unfold end_nat at hcont
    omega
  have hend := hreach r hr hty hpos
  obtain ⟨params, h, hsorted, -, hclaims⟩ :=
    configure_system_claims a (by rw [toNat_HIMEM_START]; omega)
  exact ⟨params, h, hsorted, hclaims, hreach⟩

end KataContainers.Dragonball
