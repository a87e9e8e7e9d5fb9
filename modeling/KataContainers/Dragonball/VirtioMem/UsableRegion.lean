import KataContainers.Dragonball.VirtioMem

/-!
# virtio-mem: the usable region and its map regions

`Mem::new` fixes the block size and the region size, rounded up to twice the alignment it derives
from the boot memory size; `set_resource` places the region at its guest address and sets up the
map regions: one mapped region for the whole of it, or, with `multi_region`, one unmapped map region
per `VIRTIO_MEM_MAP_REGION_SIZE` (2 GiB) of it. Each `set_requested_size` then grows the usable
region to the requested size and twice the alignment, in whole blocks, within the region
(`virtio_mem_resize_usable_region`, which never shrinks it here), and maps the map regions up to the
new usable size from the first unmapped one, as one run of one new host region.

`UsableInv` is what holds of every state reached so (`ResourceReachable.usable_inv`): the usable
size is a number of blocks within the region; with several map regions, every map region that
begins below the usable size is mapped, the mapped ones are a prefix, and each records the guest
address of its place in the region. A plug of blocks inside the usable region and inside one map
region therefore finds the host address of its map region (`UsableInv.host_addr_isSome`), and
each resize maps one run of map regions that were unmapped, whose host addresses follow one
another as their guest addresses do (`UsableInv.resize_run`, `map_run`).
-/

namespace KataContainers.Dragonball.VirtioMem

/-! ## `Mem::new` and `set_resource` -/

def VIRTIO_MEM_DEFAULT_BLOCK_ALIGNMENT : UInt64 := 128 * 1024 * 1024
def MAX_MEMORY_BLOCK_SIZE : UInt64 := (2 : UInt64) <<< 30
def BOOT_MEM_SIZE_FOR_LARGE_BLOCK : UInt64 := (64 : UInt64) <<< 30

/-- The alignment `Mem::new` derives from the boot memory size, as the kernel's
`probe_memory_block_size()`: from `MAX_MEMORY_BLOCK_SIZE` down, the first power of two that divides
it, but not below `VIRTIO_MEM_DEFAULT_BLOCK_ALIGNMENT`. The loop halves `2 GiB` at most four times
before it reaches `128 MiB`, hence the fuel. -/
def block_alignment (boot_mem_byte : UInt64) : UInt64 :=
  if boot_mem_byte < BOOT_MEM_SIZE_FOR_LARGE_BLOCK then VIRTIO_MEM_DEFAULT_BLOCK_ALIGNMENT
  else loop 4 MAX_MEMORY_BLOCK_SIZE
where
  loop : Nat → UInt64 → UInt64
    | 0, bz => bz
    | n + 1, bz =>
      if bz > VIRTIO_MEM_DEFAULT_BLOCK_ALIGNMENT then
        if boot_mem_byte &&& (bz - 1) = 0 then bz else loop n (bz >>> 1)
      else bz

/-- `Mem::new`: the device, its configuration (a capacity and a requested size in MiB), and
whether it uses several map regions. -/
def Mem.new (capacity requested_size_mib : UInt64) (multi_region : Bool) (boot_mem_byte : UInt64) :
    Except Error (Mem × VirtioMemConfig × Bool) :=
  let alignment := block_alignment boot_mem_byte
  -- Align to 2 * alignment (256MB when boot mem size < 64G).
  let capacity := capacity * 1024 * 1024
  let usable_extent := 2 * alignment
  let capacity := (capacity + usable_extent - 1) &&& ~~~(usable_extent - 1)
  let requested_size := requested_size_mib * 1024 * 1024
  if capacity = 0 || requested_size > capacity ||
      requested_size % VIRTIO_MEM_DEFAULT_BLOCK_SIZE != 0 then
    .error .InvalidInput
  else
    -- `usable_region_size` is set up by `set_resource`
    let config : VirtioMemConfig := ⟨VIRTIO_MEM_DEFAULT_BLOCK_SIZE, 0, capacity, 0, 0, requested_size⟩
    .ok (⟨capacity, alignment⟩, config,
      multi_region && !decide (config.region_size ≤ VIRTIO_MEM_MAP_REGION_SIZE))

/-- `set_resource`, with the memory ranges `(base, size)` and the KVM slots the resource manager
gave. The guest address is stored before the map regions are set up, and both stay when the
resize that follows fails. A region the factory does not create for the single map region is
the factory's error, which the model does not tell apart from `map_new_regions`'s. -/
def set_resource (dev : Mem) (s : MemEpollHandler) (mem_res : List (UInt64 × UInt64))
    (slot_res : List UInt32) (host : Host) : MemEpollHandler × Except Error Unit :=
  -- Check if we get memory resource.
  if mem_res.isEmpty then (s, .error .InvalidResource)
  else
    let slot_num := if s.multi_region then get_map_regions_num s.config.region_size else 1
    -- Make sure we have the correct resource as requested.
    if slot_res.length ≠ slot_num || mem_res.length ≠ 1 ||
        (mem_res.getD 0 (0, 0)).2 ≠ s.config.region_size then
      (s, .error .InvalidResource)
    else
      -- update mem config's addr
      let s := { s with config := { s.config with addr := (mem_res.getD 0 (0, 0)).1 } }
      -- Setup map_regions
      let map_regions : Except Error MapRegions :=
        if !s.map_regions.isEmpty then .ok s.map_regions
        else if s.multi_region then .ok (slot_res.map fun slot => (slot, none))
        else
          match host.create_region s.config.addr s.config.region_size (slot_res.getD 0 0) with
          | none => .error .RsizeUsabeRegionFail
          | some addr => .ok [(slot_res.getD 0 0, some (addr, s.config.addr))]
      match map_regions with
      | .error e => (s, .error e)
      | .ok map_regions =>
        let s := { s with map_regions }
        match virtio_mem_resize_usable_region s.config false dev.alignment
            (if s.multi_region then some s.map_regions else none) host with
        | .error e => (s, .error e)
        | .ok (config, multi_regions) =>
          ({ s with config, map_regions := multi_regions.getD s.map_regions }, .ok ())

/-- The states after `Mem::new` and a `set_resource` that succeeded, before or after activation. -/
def Resourced (dev : Mem) (s : MemEpollHandler) : Prop :=
  ∃ capacity requested_size_mib multi_region boot_mem_byte config multi mem_res slot_res host
    host_fd mem_state,
    Mem.new capacity requested_size_mib multi_region boot_mem_byte = .ok (dev, config, multi) ∧
      set_resource dev ⟨config, multi, [], host_fd, mem_state⟩ mem_res slot_res host = (s, .ok ())

/-- The states that new requested sizes (and guest requests) reach from the device's resources. -/
def ResourceReachable (dev : Mem) : MemEpollHandler → Prop :=
  Transition.Reachable (Resourced dev) (step dev)

/-! ## Map region indices -/

theorem map_region_size_toNat : VIRTIO_MEM_MAP_REGION_SIZE.toNat = 2147483648 := by decide

theorem shiftRight_map_toNat (x : UInt64) :
    (x >>> VIRTIO_MEM_MAP_REGION_SHIFT).toNat = x.toNat / 2147483648 := by
  simp [UInt64.toNat_shiftRight, VIRTIO_MEM_MAP_REGION_SHIFT, Nat.shiftRight_eq_div_pow]

/-- `get_map_regions_num` is the number of 2 GiB map regions that cover the region. -/
theorem get_map_regions_num_eq (r : UInt64) :
    get_map_regions_num r = r.toNat / 2147483648 + if r.toNat % 2147483648 > 0 then 1 else 0 := by
  have hmask : (r &&& VIRTIO_MEM_MAP_REGION_MASK).toNat = r.toNat % 2147483648 := by
    rw [UInt64.toNat_and, show VIRTIO_MEM_MAP_REGION_MASK.toNat = 2 ^ 31 - 1 by decide,
      Nat.and_two_pow_sub_one_eq_mod]
  have hbit : r &&& VIRTIO_MEM_MAP_REGION_MASK > 0 ↔ r.toNat % 2147483648 > 0 := by
    rw [gt_iff_lt, gt_iff_lt, UInt64.lt_iff_toNat_lt, hmask]
    rfl
  have hr := r.toNat_lt
  unfold get_map_regions_num
  rw [UInt64.toNat_add, shiftRight_map_toNat]
  by_cases h : r.toNat % 2147483648 > 0
  · rw [if_pos (hbit.mpr h), if_pos h, UInt64.toNat_one]
    omega
  · rw [if_neg (mt hbit.mp h), if_neg h, UInt64.toNat_zero]
    omega

/-- The guest address `map_new_regions` records for map region `j` of a run from `f` is the guest
address of map region `j` of the region. -/
theorem guest_addr_eq (addr : UInt64) {f j : Nat} (h : f ≤ j) :
    addr + (f.toUInt64 <<< VIRTIO_MEM_MAP_REGION_SHIFT) +
        (j - f).toUInt64 * VIRTIO_MEM_MAP_REGION_SIZE =
      addr + j.toUInt64 * VIRTIO_MEM_MAP_REGION_SIZE := by
  apply UInt64.toNat_inj.mp
  simp only [UInt64.toNat_add, UInt64.toNat_mul, UInt64.toNat_shiftLeft, map_region_size_toNat,
    Nat.toUInt64_eq, UInt64.toNat_ofNat', VIRTIO_MEM_MAP_REGION_SHIFT]
  simp [Nat.shiftLeft_eq]
  omega

/-- The map region of an offset in the region, clamped to the last one, as
`virtio_mem_resize_usable_region` computes `first_index` and `last_index`. -/
def map_index (x : UInt64) (map_regions : MapRegions) : Nat :=
  min (x >>> VIRTIO_MEM_MAP_REGION_SHIFT).toNat (map_regions.length - 1)

theorem lt_get_map_regions_num {r : UInt64} {j : Nat} (h : j * 2147483648 < r.toNat) :
    j < get_map_regions_num r := by
  rw [get_map_regions_num_eq]
  split_ifs <;> omega

theorem map_index_le {x : UInt64} {mr : MapRegions} {j : Nat} (h : x.toNat ≤ j * 2147483648) :
    map_index x mr ≤ j := by
  unfold map_index
  rw [shiftRight_map_toNat]
  omega

theorem le_map_index {x : UInt64} {mr : MapRegions} {j : Nat} (h : j * 2147483648 < x.toNat)
    (hj : j < mr.length) : j ≤ map_index x mr := by
  unfold map_index
  rw [shiftRight_map_toNat]
  omega

theorem lt_of_lt_map_index {x : UInt64} {mr : MapRegions} {j : Nat} (h : j < map_index x mr) :
    j * 2147483648 < x.toNat := by
  unfold map_index at h
  rw [shiftRight_map_toNat] at h
  omega

/-! ## Mapping a run of map regions -/

/-- A map region is mapped when it records a host and a guest address. -/
def Mapped (map_regions : MapRegions) (j : Nat) : Prop :=
  (map_regions.getD j (0, none)).2.isSome = true

instance (map_regions : MapRegions) (j : Nat) : Decidable (Mapped map_regions j) :=
  inferInstanceAs (Decidable (_ = true))

theorem mapped_iff {mr : MapRegions} {j : Nat} :
    Mapped mr j ↔ ∃ r, mr[j]? = some r ∧ r.2.isSome = true := by
  unfold Mapped
  rw [List.getD_eq_getElem?_getD]
  cases mr[j]? <;> simp

theorem mapped_lt {mr : MapRegions} {j : Nat} (h : Mapped mr j) : j < mr.length := by
  obtain ⟨r, hr, -⟩ := mapped_iff.mp h
  exact (List.getElem?_eq_some_iff.mp hr).1

theorem not_mapped_unmapped (slots : List UInt32) (j : Nat) :
    ¬ Mapped (slots.map fun slot => (slot, none)) j := by
  rw [mapped_iff, List.getElem?_map]
  rintro ⟨r, hr, hsome⟩
  obtain ⟨slot, -, rfl⟩ := Option.map_eq_some_iff.mp hr
  cases hsome

/-- The map regions `f` to `l` mapped to consecutive `VIRTIO_MEM_MAP_REGION_SIZE` pieces of one
host region at `host_addr`, each at the guest address of its place in the region at `addr`. -/
def map_run (addr : UInt64) (f l : Nat) (host_addr : UInt64) (map_regions : MapRegions) :
    MapRegions :=
  map_regions.mapIdx fun j region =>
    if f ≤ j ∧ j ≤ l then
      (region.1, some (host_addr + (j - f).toUInt64 * VIRTIO_MEM_MAP_REGION_SIZE,
        addr + j.toUInt64 * VIRTIO_MEM_MAP_REGION_SIZE))
    else region

theorem map_run_getElem? (addr : UInt64) (f l : Nat) (host_addr : UInt64) (mr : MapRegions)
    (j : Nat) :
    (map_run addr f l host_addr mr)[j]? = mr[j]?.map fun region =>
      if f ≤ j ∧ j ≤ l then
        (region.1, some (host_addr + (j - f).toUInt64 * VIRTIO_MEM_MAP_REGION_SIZE,
          addr + j.toUInt64 * VIRTIO_MEM_MAP_REGION_SIZE))
      else region := by
  rw [map_run, List.getElem?_mapIdx]

@[simp] theorem map_run_length (addr : UInt64) (f l : Nat) (host_addr : UInt64)
    (mr : MapRegions) : (map_run addr f l host_addr mr).length = mr.length :=
  List.length_mapIdx

theorem mapped_map_run {addr : UInt64} {f l : Nat} {host_addr : UInt64} {mr : MapRegions}
    {j : Nat} :
    Mapped (map_run addr f l host_addr mr) j ↔ (j < mr.length ∧ f ≤ j ∧ j ≤ l) ∨ Mapped mr j := by
  rw [mapped_iff, mapped_iff, map_run_getElem?]
  cases hj : mr[j]? with
  | none =>
    have := List.getElem?_eq_none_iff.mp hj
    simp
    omega
  | some region =>
    have := (List.getElem?_eq_some_iff.mp hj).1
    by_cases hr : f ≤ j ∧ j ≤ l
    · simp [hr, this]
    · simp [hr]

/-- `map_new_regions` finds every map region from the old usable size to the new one mapped, or
maps the run from the first unmapped one among them to the new usable size. -/
theorem map_new_regions_cases {config : VirtioMemConfig} {newsize : UInt64}
    {map_regions map_regions' : MapRegions} {host : Host}
    (h : map_new_regions config newsize map_regions host = .ok map_regions') :
    (map_regions' = map_regions ∧ ∀ j, map_index config.usable_region_size map_regions ≤ j →
        j ≤ map_index newsize map_regions → Mapped map_regions j) ∨
      ∃ f host_addr, map_index config.usable_region_size map_regions ≤ f ∧
        f ≤ map_index newsize map_regions ∧ ¬ Mapped map_regions f ∧
        (∀ j, map_index config.usable_region_size map_regions ≤ j → j < f →
          Mapped map_regions j) ∧
        map_regions' = map_run config.addr f (map_index newsize map_regions) host_addr map_regions := by
  unfold map_new_regions at h
  dsimp only at h
  split at h
  · next hnone =>
    cases h
    left
    refine ⟨rfl, fun j hj hj' => ?_⟩
    have := List.find?_range'_eq_none.mp hnone j hj (by unfold map_index at hj'; omega)
    simpa [Mapped] using this
  · next f hf =>
    obtain ⟨hpf, hmem, hbefore⟩ := List.find?_range'_eq_some.mp hf
    split at h
    · cases h
    · next host_addr hc =>
      cases h
      right
      have hfr := List.mem_range'_1.mp hmem
      refine ⟨f, host_addr, hfr.1, by unfold map_index; omega, by simpa [Mapped] using hpf,
        fun j hj hjf => by simpa [Mapped] using hbefore j hj hjf, ?_⟩
      -- the guest addresses are recorded from the run's first one
      refine congrArg (fun g => List.mapIdx g map_regions)
        (funext fun j => funext fun region => ?_)
      unfold map_index
      split_ifs with hj
      · rw [guest_addr_eq config.addr hj.1]
      · rfl

/-! ## The resize -/

/-- The usable size that `virtio_mem_resize_usable_region` computes: the requested size and twice
the alignment, within the region, in whole blocks; nothing when nothing is requested. -/
def resize_newsize (config : VirtioMemConfig) (alignment : UInt64) : UInt64 :=
  if config.requested_size = 0 then 0
  else min config.region_size (config.requested_size + 2 * alignment) &&& ~~~(config.block_size - 1)

theorem resize_newsize_le (config : VirtioMemConfig) (alignment : UInt64) :
    resize_newsize config alignment ≤ config.region_size := by
  unfold resize_newsize
  split_ifs
  · exact UInt64.zero_le
  · rw [UInt64.le_iff_toNat_le, UInt64.toNat_and]
    exact Nat.le_trans Nat.and_le_left (UInt64.le_iff_toNat_le.mp Std.min_le_left)

theorem resize_newsize_mod {config : VirtioMemConfig}
    (h : config.block_size = VIRTIO_MEM_DEFAULT_BLOCK_SIZE) (alignment : UInt64) :
    resize_newsize config alignment % config.block_size = 0 := by
  unfold resize_newsize
  rw [h]
  split_ifs
  · exact UInt64.zero_mod
  · -- the mask clears the low 22 bits
    apply UInt64.toNat_inj.mp
    rw [UInt64.toNat_mod, UInt64.toNat_and, UInt64.toNat_not,
      show VIRTIO_MEM_DEFAULT_BLOCK_SIZE.toNat = 2 ^ 22 by decide, Nat.and_mod_two_pow,
      show (UInt64.size - 1 - (VIRTIO_MEM_DEFAULT_BLOCK_SIZE - 1).toNat) % 2 ^ 22 = 0 by decide,
      Nat.and_zero, UInt64.toNat_zero]

/-- A resize that cannot shrink keeps the configuration and the map regions, or grows the usable
size to `resize_newsize` with the map regions that `map_new_regions` gives. -/
theorem resize_usable_region_ok {config : VirtioMemConfig} {alignment : UInt64}
    {multi_regions : Option MapRegions} {host : Host} {r : VirtioMemConfig × Option MapRegions}
    (h : virtio_mem_resize_usable_region config false alignment multi_regions host = .ok r) :
    r = (config, multi_regions) ∨
      config.usable_region_size < resize_newsize config alignment ∧
      r.1 = { config with usable_region_size := resize_newsize config alignment } ∧
      multi_regions.mapM (fun map_regions =>
        map_new_regions config (resize_newsize config alignment) map_regions host) = .ok r.2 := by
  revert h
  unfold virtio_mem_resize_usable_region
  extract_lets n₁ n₂ newsize jp
  intro h
  rw [show resize_newsize config alignment = newsize from rfl]
  -- the join point keeps the old configuration when the new size is below the old one
  have hjp : ∀ mr, ¬ newsize < config.usable_region_size →
      jp mr = pure ({ config with usable_region_size := newsize }, mr) := by
    intro mr hlt
    simp only [jp]
    rw [if_neg (by simpa using hlt)]
  split at h
  · next hgt =>
    obtain ⟨mr, hmr, h⟩ := Except.bind_eq_ok_iff.mp h
    rw [hjp mr (UInt64.lt_asymm hgt)] at h
    cases h
    exact Or.inr ⟨hgt, rfl, hmr⟩
  · next hle =>
    rw [Except.pure_eq_ok, Except.ok_bind_eq] at h
    left
    by_cases hlt : newsize < config.usable_region_size
    · simp only [jp] at h
      rw [if_pos (by simpa using hlt)] at h
      cases h
      rfl
    · rw [hjp _ hlt] at h
      cases h
      have heq : newsize = config.usable_region_size :=
        UInt64.le_antisymm (UInt64.not_lt.mp hle) (UInt64.not_lt.mp hlt)
      rw [heq]

/-- A resize keeps the guest address of the region. -/
theorem resize_usable_region_addr {config : VirtioMemConfig} {alignment : UInt64}
    {multi_regions : Option MapRegions} {host : Host} {r : VirtioMemConfig × Option MapRegions}
    (h : virtio_mem_resize_usable_region config false alignment multi_regions host = .ok r) :
    r.1.addr = config.addr := by
  rcases resize_usable_region_ok h with rfl | ⟨-, h1, -⟩
  · rfl
  · rw [h1]

/-! ## The invariant -/

/-- What every state reached from `set_resource` keeps: the usable region is a number of blocks
of the default size within the region; with several map regions, there is one for each 2 GiB of
the region, those that begin below the usable size are mapped, the mapped ones are a prefix, and
each records the guest address of its place in the region; with one, it is mapped at the region's
guest address. -/
structure UsableInv (s : MemEpollHandler) : Prop where
  block_size : s.config.block_size = VIRTIO_MEM_DEFAULT_BLOCK_SIZE
  usable_mod : s.config.usable_region_size % s.config.block_size = 0
  usable_le : s.config.usable_region_size ≤ s.config.region_size
  length : s.multi_region = true → s.map_regions.length = get_map_regions_num s.config.region_size
  covered : s.multi_region = true → ∀ j,
    j * VIRTIO_MEM_MAP_REGION_SIZE.toNat < s.config.usable_region_size.toNat → Mapped s.map_regions j
  mapped_below : s.multi_region = true → ∀ i j, i ≤ j → Mapped s.map_regions j →
    Mapped s.map_regions i
  guest_addr : s.multi_region = true → ∀ (j : Nat) slot host_addr guest_addr,
    s.map_regions[j]? = some (slot, some (host_addr, guest_addr)) →
      guest_addr = s.config.addr + j.toUInt64 * VIRTIO_MEM_MAP_REGION_SIZE
  single : s.multi_region = false →
    ∃ slot host_addr, s.map_regions[0]? = some (slot, some (host_addr, s.config.addr))

namespace UsableInv

variable {s : MemEpollHandler}

theorem of_eq {s' : MemEpollHandler} (h : UsableInv s)
    (hc : s'.config.block_size = s.config.block_size ∧ s'.config.addr = s.config.addr ∧
      s'.config.region_size = s.config.region_size ∧
      s'.config.usable_region_size = s.config.usable_region_size)
    (hm : s'.multi_region = s.multi_region) (hmr : s'.map_regions = s.map_regions) :
    UsableInv s' := by
  obtain ⟨⟨b, a, r, u, p, q⟩, m, mr, fd, ms⟩ := s
  obtain ⟨⟨b', a', r', u', p', q'⟩, m', mr', fd', ms'⟩ := s'
  obtain ⟨rfl, rfl, rfl, rfl⟩ := hc
  cases hm
  cases hmr
  exact ⟨h.1, h.2, h.3, h.4, h.5, h.6, h.7, h.8⟩

/-- Under the invariant, `map_new_regions` keeps the number of map regions, maps every one that
begins below the new usable size, keeps the mapped ones a prefix, and records the guest address of
each. -/
theorem map_new_regions_inv (h : UsableInv s) (hm : s.multi_region = true)
    {config : VirtioMemConfig} (ha : config.addr = s.config.addr)
    (hu : config.usable_region_size = s.config.usable_region_size) {newsize : UInt64}
    (hle : newsize ≤ s.config.region_size) {host : Host} {mr' : MapRegions}
    (hmap : map_new_regions config newsize s.map_regions host = .ok mr') :
    mr'.length = s.map_regions.length ∧
      (∀ j, j * VIRTIO_MEM_MAP_REGION_SIZE.toNat < newsize.toNat → Mapped mr' j) ∧
      (∀ i j, i ≤ j → Mapped mr' j → Mapped mr' i) ∧
      (∀ (j : Nat) slot host_addr guest_addr, mr'[j]? = some (slot, some (host_addr, guest_addr)) →
        guest_addr = s.config.addr + j.toUInt64 * VIRTIO_MEM_MAP_REGION_SIZE) := by
  rw [map_region_size_toNat]
  -- a map region from the old usable size to the new one is among those `map_new_regions` visits
  have hvisit : ∀ j, j * 2147483648 < newsize.toNat → ¬ j * 2147483648 < s.config.usable_region_size.toNat →
      j < s.map_regions.length ∧ map_index config.usable_region_size s.map_regions ≤ j ∧
        j ≤ map_index newsize s.map_regions := by
    intro j hj hju
    have hlen : j < s.map_regions.length := by
      rw [h.length hm]
      exact lt_get_map_regions_num (Nat.lt_of_lt_of_le hj (UInt64.le_iff_toNat_le.mp hle))
    exact ⟨hlen, map_index_le (by rw [hu]; omega), le_map_index hj hlen⟩
  have hcov := h.covered hm
  rw [map_region_size_toNat] at hcov
  rcases map_new_regions_cases hmap with ⟨rfl, hall⟩ | ⟨f, host_addr, -, -, hf, hbefore, rfl⟩
  · refine ⟨rfl, fun j hj => ?_, h.mapped_below hm, h.guest_addr hm⟩
    by_cases hju : j * 2147483648 < s.config.usable_region_size.toNat
    · exact hcov j hju
    · obtain ⟨-, h₁, h₂⟩ := hvisit j hj hju
      exact hall j h₁ h₂
  · -- the map regions below the run were mapped, and none from its first one on
    have hlt_f : ∀ i < f, Mapped s.map_regions i := by
      intro i hi
      by_cases hfi : map_index config.usable_region_size s.map_regions ≤ i
      · exact hbefore i hfi hi
      · have := lt_of_lt_map_index (Nat.lt_of_not_le hfi)
        rw [hu] at this
        exact hcov i this
    refine ⟨map_run_length _ _ _ _ _, fun j hj => ?_, fun i j hij hj => ?_, ?_⟩
    · rw [mapped_map_run]
      by_cases hju : j * 2147483648 < s.config.usable_region_size.toNat
      · exact Or.inr (hcov j hju)
      · obtain ⟨hlen, h₁, h₂⟩ := hvisit j hj hju
        by_cases hjf : j < f
        · exact Or.inr (hbefore j h₁ hjf)
        · exact Or.inl ⟨hlen, Nat.le_of_not_lt hjf, h₂⟩
    · rw [mapped_map_run] at hj ⊢
      rcases hj with ⟨hlen, hfj, hjl⟩ | hj
      · by_cases hif : i < f
        · exact Or.inr (hlt_f i hif)
        · exact Or.inl ⟨by omega, by omega, by omega⟩
      · exact Or.inr (h.mapped_below hm i j hij hj)
    · intro j slot ha' ga hget
      rw [map_run_getElem?] at hget
      cases hr : s.map_regions[j]? with
      | none => simp [hr] at hget
      | some region =>
        rw [hr] at hget
        by_cases hin : f ≤ j ∧ j ≤ map_index newsize s.map_regions
        · rw [Option.map_some, Option.some.injEq, if_pos hin, Prod.mk.injEq, Option.some.injEq,
            Prod.mk.injEq] at hget
          rw [← hget.2.2, ha]
        · rw [Option.map_some, Option.some.injEq, if_neg hin] at hget
          exact h.guest_addr hm j slot ha' ga (hget ▸ hr)

/-- A resize that cannot shrink, from a state with the invariant, with any requested size and
alignment, and whatever the region factory answers, ends in a state with the invariant. -/
theorem resize (h : UsableInv s) (requested_size alignment : UInt64) (host : Host)
    {r : VirtioMemConfig × Option MapRegions}
    (hr : virtio_mem_resize_usable_region { s.config with requested_size } false alignment
      (if s.multi_region then some s.map_regions else none) host = .ok r) :
    UsableInv { s with config := r.1, map_regions := r.2.getD s.map_regions } := by
  rcases resize_usable_region_ok hr with rfl | ⟨-, h1, hmap⟩
  · refine UsableInv.of_eq h ⟨rfl, rfl, rfl, rfl⟩ rfl ?_
    -- the map regions come back as they were passed
    dsimp only
    cases s.multi_region <;> rfl
  · have hmod : resize_newsize { s.config with requested_size } alignment % s.config.block_size = 0 :=
      @resize_newsize_mod { s.config with requested_size } h.block_size alignment
    have hle := resize_newsize_le { s.config with requested_size } alignment
    rw [h1]
    cases hm : s.multi_region with
    | false =>
      rw [hm] at hmap
      have h2 : r.2 = none := by simpa using hmap.symm
      rw [h2]
      exact ⟨h.block_size, hmod, hle, nofun, nofun, nofun, nofun, fun _ => h.single hm⟩
    | true =>
      rw [hm, if_pos rfl, Option.mapM_some] at hmap
      cases hnew : map_new_regions { s.config with requested_size }
          (resize_newsize { s.config with requested_size } alignment) s.map_regions host with
      | error e =>
        rw [hnew] at hmap
        cases hmap
      | ok mr' =>
        rw [hnew] at hmap
        have h2 : r.2 = some mr' := (Except.ok.inj hmap).symm
        rw [h2]
        obtain ⟨hlen, hcov, hbelow, hguest⟩ := h.map_new_regions_inv hm rfl rfl hle hnew
        refine ⟨h.block_size, hmod, hle, fun _ => ?_, fun _ => hcov, fun _ => hbelow, fun _ => hguest, nofun⟩
        rw [Option.getD_some, hlen]
        exact h.length hm

/-- A resize from a state with the invariant keeps the map regions, or maps one run of map regions
that were all unmapped, from its first one on, to consecutive pieces of one new host region. -/
theorem resize_run (h : UsableInv s) (requested_size alignment : UInt64) (host : Host)
    {r : VirtioMemConfig × Option MapRegions}
    (hr : virtio_mem_resize_usable_region { s.config with requested_size } false alignment
      (if s.multi_region then some s.map_regions else none) host = .ok r) :
    r.2.getD s.map_regions = s.map_regions ∨
      ∃ f l host_addr, f ≤ l ∧ (∀ j, f ≤ j → ¬ Mapped s.map_regions j) ∧
        r.2.getD s.map_regions = map_run s.config.addr f l host_addr s.map_regions := by
  rcases resize_usable_region_ok hr with rfl | ⟨-, -, hmap⟩
  · -- the map regions come back as they were passed
    left
    dsimp only
    cases s.multi_region <;> rfl
  · cases hm : s.multi_region with
    | false =>
      rw [hm] at hmap
      have h2 : r.2 = none := by simpa using hmap.symm
      rw [h2]
      exact Or.inl rfl
    | true =>
      rw [hm, if_pos rfl, Option.mapM_some] at hmap
      cases hnew : map_new_regions { s.config with requested_size }
          (resize_newsize { s.config with requested_size } alignment) s.map_regions host with
      | error e =>
        rw [hnew] at hmap
        cases hmap
      | ok mr' =>
        rw [hnew] at hmap
        have h2 : r.2 = some mr' := (Except.ok.inj hmap).symm
        rw [h2, Option.getD_some]
        rcases map_new_regions_cases hnew with ⟨rfl, -⟩ | ⟨f, host_addr, -, hfl, hf, -, rfl⟩
        · exact Or.inl rfl
        · -- the first unmapped map region bounds the mapped ones
          exact Or.inr ⟨f, _, host_addr, hfl,
            fun j hj hmj => hf (h.mapped_below hm f j hj hmj), rfl⟩

/-- A guest request changes `plugged_size` and the bitmap only. -/
theorem process_request (h : UsableInv s) (host : Host) (req : Option VirtioMemReq) :
    UsableInv (VirtioMem.process_request s host req).1 := by
  cases req with
  | none => exact h
  | some r =>
    simp only [VirtioMem.process_request]
    split
    · exact h.of_eq ⟨rfl, rfl, rfl, rfl⟩ rfl rfl
    split
    · exact h.of_eq ⟨rfl, rfl, rfl, rfl⟩ rfl rfl
    split
    · exact h.of_eq ⟨rfl, rfl, rfl, rfl⟩ rfl rfl
    split
    · exact h
    · exact h

/-- `set_requested_size` keeps the invariant, whether it fails or not. -/
theorem set_requested_size (h : UsableInv s) (dev : Mem) (requested_size_mb : UInt64)
    (host : Host) : UsableInv (VirtioMem.set_requested_size dev s requested_size_mb host).1 := by
  unfold VirtioMem.set_requested_size
  dsimp only
  split
  · exact h
  · split
    · exact h.of_eq ⟨rfl, rfl, rfl, rfl⟩ rfl rfl
    · next config' mr heq => exact h.resize _ _ host heq

/-- Each `set_requested_size`, failed or not, keeps the map regions or maps one fresh run. -/
theorem set_requested_size_run (h : UsableInv s) (dev : Mem) (requested_size_mb : UInt64)
    (host : Host) :
    (VirtioMem.set_requested_size dev s requested_size_mb host).1.map_regions = s.map_regions ∨
      ∃ f l host_addr, f ≤ l ∧ (∀ j, f ≤ j → ¬ Mapped s.map_regions j) ∧
        (VirtioMem.set_requested_size dev s requested_size_mb host).1.map_regions =
          map_run s.config.addr f l host_addr s.map_regions := by
  unfold VirtioMem.set_requested_size
  dsimp only
  split
  · exact Or.inl rfl
  · split
    · exact Or.inl rfl
    · next config' mr heq => exact h.resize_run _ _ host heq

theorem step (h : UsableInv s) (dev : Mem) (e : Event) : UsableInv (VirtioMem.step dev s e) := by
  cases e with
  | request req host => exact h.process_request host req
  | set_requested_size requested_size_mb host => exact h.set_requested_size dev _ host

end UsableInv

/-! ## The states after `set_resource` -/

theorem set_resource_ok {dev : Mem} {config : VirtioMemConfig} {multi : Bool} {host_fd : Option Int}
    {mem_state : List Bool} {mem_res : List (UInt64 × UInt64)} {slot_res : List UInt32}
    {host : Host} {s : MemEpollHandler}
    (h : set_resource dev ⟨config, multi, [], host_fd, mem_state⟩ mem_res slot_res host = (s, .ok ())) :
    ∃ addr map_regions r,
      (multi = true → map_regions = slot_res.map (fun slot => (slot, none)) ∧
        slot_res.length = get_map_regions_num config.region_size) ∧
      (multi = false → ∃ slot host_addr, map_regions = [(slot, some (host_addr, addr))]) ∧
      virtio_mem_resize_usable_region { config with addr } false dev.alignment
        (if multi then some map_regions else none) host = .ok r ∧
      s = ⟨r.1, multi, r.2.getD map_regions, host_fd, mem_state⟩ := by
  unfold set_resource at h
  cases multi <;> simp only [List.isEmpty_nil, Bool.not_true, Bool.false_eq_true,
    ↓reduceIte] at h
  · -- one map region, which the factory creates for the whole region
    split_ifs at h with hempty hchk
    · cases h
    · cases h
    cases hc : host.create_region (mem_res.getD 0 (0, 0)).1 config.region_size (slot_res.getD 0 0) with
    | none =>
      rw [hc] at h
      cases h
    | some host_addr =>
      rw [hc] at h
      dsimp only at h
      split at h
      · cases h
      · next config' mr hr =>
        refine ⟨_, _, (config', mr), nofun, fun _ => ⟨slot_res.getD 0 0, host_addr, rfl⟩, hr, ?_⟩
        exact (Prod.mk.inj h).1.symm
  · -- several map regions, none of them mapped yet
    split_ifs at h with hempty hchk
    · cases h
    · cases h
    split at h
    · cases h
    · next config' mr hr =>
      refine ⟨_, _, (config', mr), fun _ => ⟨rfl, ?_⟩, nofun, hr, (Prod.mk.inj h).1.symm⟩
      simp only [Bool.or_eq_true, decide_eq_true_eq, not_or, not_not] at hchk
      exact hchk.1.1

/-- `Mem::new` leaves the usable region empty, in blocks of the default size. -/
theorem Mem.new_config {capacity requested_size_mib boot_mem_byte : UInt64} {multi_region : Bool}
    {dev : Mem} {config : VirtioMemConfig} {multi : Bool}
    (h : Mem.new capacity requested_size_mib multi_region boot_mem_byte = .ok (dev, config, multi)) :
    config.block_size = VIRTIO_MEM_DEFAULT_BLOCK_SIZE ∧ config.usable_region_size = 0 := by
  unfold Mem.new at h
  dsimp only at h
  split_ifs at h
  cases h
  exact ⟨rfl, rfl⟩

/-- A state right after `set_resource` is the first resize from a state with the invariant, in
which nothing is usable and no map region is mapped yet, or the single one is. -/
theorem Resourced.resized {dev : Mem} {s : MemEpollHandler} (h : Resourced dev s) :
    ∃ s₀ host r, UsableInv s₀ ∧
      (s₀.multi_region = true → ∃ slots : List UInt32, s₀.map_regions = slots.map fun slot => (slot, none)) ∧
      virtio_mem_resize_usable_region { s₀.config with requested_size := s₀.config.requested_size }
        false dev.alignment (if s₀.multi_region then some s₀.map_regions else none) host = .ok r ∧
      s = { s₀ with config := r.1, map_regions := r.2.getD s₀.map_regions } := by
  obtain ⟨capacity, requested_size_mib, multi_region, boot_mem_byte, config, multi, mem_res,
    slot_res, host, host_fd, mem_state, hnew, hset⟩ := h
  obtain ⟨hbs, hu⟩ := Mem.new_config hnew
  obtain ⟨addr, map_regions, r, hmulti, hsingle, hr, rfl⟩ := set_resource_ok hset
  refine ⟨⟨{ config with addr }, multi, map_regions, host_fd, mem_state⟩, host, r, ?_,
    fun hm => ⟨slot_res, (hmulti hm).1⟩, hr, rfl⟩
  -- nothing usable, and the map regions as `set_resource` sets them up
  refine ⟨hbs, ?_, ?_, fun hm => ?_, fun _ j hj => ?_, fun hm i j _ hj => ?_,
    fun hm j slot host_addr guest_addr hget => ?_, fun hm => ?_⟩
  · show config.usable_region_size % config.block_size = 0
    rw [hu]
    exact UInt64.zero_mod
  · show config.usable_region_size ≤ config.region_size
    rw [hu]
    exact UInt64.zero_le
  · obtain ⟨rfl, hlen⟩ := hmulti hm
    rw [List.length_map, hlen]
  · change j * _ < config.usable_region_size.toNat at hj
    rw [hu, UInt64.toNat_zero] at hj
    exact absurd hj (Nat.not_lt_zero _)
  · obtain ⟨rfl, -⟩ := hmulti hm
    exact absurd hj (not_mapped_unmapped slot_res j)
  · obtain ⟨rfl, -⟩ := hmulti hm
    exact absurd (mapped_iff.mpr ⟨_, hget, rfl⟩) (not_mapped_unmapped slot_res j)
  · obtain ⟨slot, host_addr, rfl⟩ := hsingle hm
    exact ⟨slot, host_addr, rfl⟩

theorem Resourced.usable_inv {dev : Mem} {s : MemEpollHandler} (h : Resourced dev s) :
    UsableInv s := by
  obtain ⟨s₀, host, r, h₀, -, hr, rfl⟩ := h.resized
  exact h₀.resize _ _ host hr

/-- With several map regions, `set_resource` maps one run of them, or none. -/
theorem Resourced.map_regions_run {dev : Mem} {s : MemEpollHandler} (h : Resourced dev s)
    (hm : s.multi_region = true) :
    ∃ slots : List UInt32,
      s.map_regions = slots.map (fun slot => (slot, none)) ∨
        ∃ f l host_addr, f ≤ l ∧
          s.map_regions = map_run s.config.addr f l host_addr (slots.map fun slot => (slot, none)) := by
  obtain ⟨s₀, host, r, h₀, hslots, hr, rfl⟩ := h.resized
  obtain ⟨slots, hs₀⟩ := hslots hm
  have haddr : r.1.addr = s₀.config.addr := resize_usable_region_addr hr
  refine ⟨slots, ?_⟩
  rcases h₀.resize_run _ _ host hr with hmr | ⟨f, l, host_addr, hfl, -, hmr⟩
  · left
    rw [← hs₀]
    exact hmr
  · right
    refine ⟨f, l, host_addr, hfl, ?_⟩
    rw [← hs₀]
    show r.2.getD s₀.map_regions = map_run r.1.addr f l host_addr s₀.map_regions
    rw [haddr]
    exact hmr

/-- Every state that guest requests and new requested sizes reach from the device's resources has
the invariant. -/
theorem ResourceReachable.usable_inv {dev : Mem} {s : MemEpollHandler}
    (h : ResourceReachable dev s) : UsableInv s :=
  Transition.Reachable.invariant (fun _ hs => hs.usable_inv) (fun _ e hs => hs.step dev e) h

/-! ## Plugging into the usable region -/

/-- A valid range starts inside the usable region: its offset in the region is below the usable
size, whether or not `config.addr + usable_region_size` wraps. -/
theorem valid_range_offset_lt {config : VirtioMemConfig} {addr size : UInt64}
    (h : virtio_mem_valid_range config addr size = true) :
    config.addr ≤ addr ∧ (addr - config.addr).toNat < config.usable_region_size.toNat := by
  unfold virtio_mem_valid_range at h
  split_ifs at h with h1 h2 h3
  simp only [Bool.or_eq_true, decide_eq_true_eq, not_or, UInt64.not_lt, ge_iff_le,
    UInt64.not_le] at h3
  obtain ⟨hlo, hhi⟩ := h3
  have hlo' := UInt64.le_iff_toNat_le.mp hlo
  have hhi' := UInt64.lt_iff_toNat_lt.mp hhi
  rw [UInt64.toNat_add] at hhi'
  refine ⟨hlo, ?_⟩
  rw [UInt64.toNat_sub_of_le _ _ hlo]
  have := config.usable_region_size.toNat_lt
  by_cases hw : config.addr.toNat + config.usable_region_size.toNat < 2 ^ 64
  · rw [Nat.mod_eq_of_lt hw] at hhi'
    omega
  · -- a wrapped end lies below the start of the region
    rw [Nat.mod_eq_sub_mod (by omega), Nat.mod_eq_of_lt (by omega)] at hhi'
    omega

/-- A plug or unplug of a valid range that stays within one map region finds the host address of
its first block. -/
theorem UsableInv.host_addr_isSome {s : MemEpollHandler} (h : UsableInv s) {r : VirtioMemReq}
    {plug : Bool}
    (hv : virtio_mem_valid_range s.config r.addr (r.nb_blocks.toUInt64 * s.config.block_size) = true)
    (hone : s.multi_region = true →
      (r.addr - s.config.addr + r.nb_blocks.toUInt64 * s.config.block_size - 1) >>>
          VIRTIO_MEM_MAP_REGION_SHIFT =
        (r.addr - s.config.addr) >>> VIRTIO_MEM_MAP_REGION_SHIFT) :
    ((StateChangeRequest.new r s.config s.mem_state s.multi_region s.map_regions s.host_fd
      plug).host_addr (r.addr - s.config.addr)).isSome = true := by
  obtain ⟨-, hoff⟩ := valid_range_offset_lt hv
  cases hm : s.multi_region with
  | false =>
    obtain ⟨slot, host_addr, hget⟩ := h.single hm
    simp [StateChangeRequest.host_addr, StateChangeRequest.new, hget]
  | true =>
    -- the map region of the offset begins below the usable size, so it is mapped
    have hcov := h.covered hm ((r.addr - s.config.addr) >>> VIRTIO_MEM_MAP_REGION_SHIFT).toNat (by
      rw [shiftRight_map_toNat, map_region_size_toNat]
      exact Nat.lt_of_le_of_lt (Nat.div_mul_le_self _ _) hoff)
    obtain ⟨⟨slot, _ | ⟨host_addr, guest_addr⟩⟩, hget, hsome⟩ := mapped_iff.mp hcov
    · cases hsome
    · simp only [StateChangeRequest.host_addr, StateChangeRequest.new, ↓reduceIte, hone hm, ne_eq,
        not_true_eq_false, hget, Option.isSome_some]

/-- The usable region of every reachable state and the map regions under it. -/
theorem usable_region_mapped {dev : Mem} {s : MemEpollHandler} (h : ResourceReachable dev s) :
    s.config.usable_region_size % s.config.block_size = 0 ∧
      s.config.usable_region_size ≤ s.config.region_size ∧
      (s.multi_region = true →
        (∀ j, j * VIRTIO_MEM_MAP_REGION_SIZE.toNat < s.config.usable_region_size.toNat →
          ∃ slot host_addr guest_addr,
            s.map_regions[j]? = some (slot, some (host_addr, guest_addr))) ∧
        ∀ (j : Nat) slot host_addr guest_addr,
          s.map_regions[j]? = some (slot, some (host_addr, guest_addr)) →
            guest_addr = s.config.addr + j.toUInt64 * VIRTIO_MEM_MAP_REGION_SIZE) ∧
      (∀ requested_size_mb host,
        (set_requested_size dev s requested_size_mb host).1.map_regions = s.map_regions ∨
          ∃ f l host_addr, f ≤ l ∧ (∀ j, f ≤ j → ¬ Mapped s.map_regions j) ∧
            (set_requested_size dev s requested_size_mb host).1.map_regions =
              map_run s.config.addr f l host_addr s.map_regions) ∧
      (Resourced dev s → s.multi_region = true →
        ∃ slots : List UInt32,
          s.map_regions = slots.map (fun slot => (slot, none)) ∨
            ∃ f l host_addr, f ≤ l ∧
              s.map_regions = map_run s.config.addr f l host_addr (slots.map fun slot => (slot, none))) ∧
      ∀ r : VirtioMemReq,
        virtio_mem_valid_range s.config r.addr (r.nb_blocks.toUInt64 * s.config.block_size) = true →
        (s.multi_region = true →
          (r.addr - s.config.addr + r.nb_blocks.toUInt64 * s.config.block_size - 1) >>>
              VIRTIO_MEM_MAP_REGION_SHIFT =
            (r.addr - s.config.addr) >>> VIRTIO_MEM_MAP_REGION_SHIFT) →
        ((StateChangeRequest.new r s.config s.mem_state s.multi_region s.map_regions s.host_fd
          true).host_addr (r.addr - s.config.addr)).isSome = true := by
  have hs := h.usable_inv
  refine ⟨hs.usable_mod, hs.usable_le, fun hm => ⟨fun j hj => ?_, hs.guest_addr hm⟩,
    hs.set_requested_size_run dev, fun h₀ hm => h₀.map_regions_run hm,
    fun r hv hone => hs.host_addr_isSome hv hone⟩
  obtain ⟨⟨slot, _ | ⟨host_addr, guest_addr⟩⟩, hget, hsome⟩ := mapped_iff.mp (hs.covered hm j hj)
  · cases hsome
  · exact ⟨slot, host_addr, guest_addr, hget⟩

/-- A host whose region factory places every region at the same host address. -/
def eight_gib_host : Host :=
  ⟨fun _ _ _ => true, fun _ _ => true, fun _ _ _ => some 0x7f0000000000, true⟩

/-- An 8 GiB device with four map regions after `set_resource` with a requested size of 1 GiB:
the usable region is 1.25 GiB, inside the first map region, which is mapped. -/
def eight_gib_state : MemEpollHandler :=
  ⟨⟨0x400000, 0x100000000, 0x200000000, 0x50000000, 0, 0x40000000⟩, true,
    [(5, some (0x7f0000000000, 0x100000000)), (6, none), (7, none), (8, none)], none, []⟩

theorem eight_gib_reachable : ResourceReachable ⟨0x200000000, 0x8000000⟩ eight_gib_state :=
  .init ⟨8192, 1024, true, 0, ⟨0x400000, 0, 0x200000000, 0, 0, 0x40000000⟩, true,
    [(0x100000000, 0x200000000)], [5, 6, 7, 8], eight_gib_host, none, [], rfl, rfl⟩

theorem usable_region_mapped_eight_gib :
    ResourceReachable ⟨0x200000000, 0x8000000⟩ eight_gib_state ∧
      eight_gib_state.config.usable_region_size % eight_gib_state.config.block_size = 0 ∧
      eight_gib_state.config.usable_region_size ≤ eight_gib_state.config.region_size :=
  ⟨eight_gib_reachable, (usable_region_mapped eight_gib_reachable).1,
    (usable_region_mapped eight_gib_reachable).2.1⟩

end KataContainers.Dragonball.VirtioMem
