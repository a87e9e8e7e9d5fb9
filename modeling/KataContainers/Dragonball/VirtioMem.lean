import KataContainers.Lib.Transition
import KataContainers.Lib.Checked
import KataContainers.Lib.Except

/-!
# virtio-mem: plugging and unplugging memory blocks

Model of the request handling of the virtio-mem device (`dbs_virtio_devices/src/mem.rs`): the
checks and bitmap updates of `MemTool` (`virtio_mem_valid_range`, `virtio_mem_check_bitmap`,
`virtio_mem_set_bitmap`, `virtio_mem_state_change_request`, `virtio_mem_unplug_all`,
`virtio_mem_state_request`, `virtio_mem_resize_usable_region`), one descriptor chain of
`MemEpollHandler::process_queue`, and `Mem::set_requested_size`. The host's answers, to
`fallocate64`, `madvise`, the region factory and the change notifier, are a parameter of each
step (`Host`), and a request that `Request::parse` rejects is `none`.

`config.plugged_size` is kept by `process_queue` beside the bitmap `mem_state`: it is raised by an
acknowledged plug and lowered by an acknowledged unplug, and an acknowledged plug never passes the
requested size (`process_plug_ack_le`). `virtio_mem_unplug_all` clears the plugged blocks one by
one; when it acknowledges, every block is unplugged (`unplug_all_ack_unplugged`), but when a host
call fails on a later block it returns the error with the earlier blocks already cleared, and
`process_queue` then leaves `plugged_size` as it was: `plugged_size` no longer counts the plugged
blocks (`unplug_all_error_breaks_accounting`).

Every reachable state has one bitmap entry per block of the region (`Reachable.shape`). A `STATE`
request is answered from the bitmap at `addr - config.addr` whether the range is valid or not: for
an address below the region that subtraction panics in a build with overflow checks (`Checked`),
and otherwise wraps past the end of the bitmap, where the blocks are reported plugged
(`state_request_below_region_wraps`).
-/

namespace KataContainers.Dragonball.VirtioMem

/-- Use 4 MiB alignment because current kernel use it as the subblock_size. -/
def VIRTIO_MEM_DEFAULT_BLOCK_SIZE : UInt64 := (4 : UInt64) <<< 20

def VIRTIO_MEM_MAP_REGION_SHIFT : UInt64 := 31
def VIRTIO_MEM_MAP_REGION_SIZE : UInt64 := 1 <<< VIRTIO_MEM_MAP_REGION_SHIFT
def VIRTIO_MEM_MAP_REGION_MASK : UInt64 :=
  ~~~((0xFFFFFFFFFFFFFFFF : UInt64) <<< VIRTIO_MEM_MAP_REGION_SHIFT)

def VIRTIO_MEM_RESP_ACK : UInt16 := 0
def VIRTIO_MEM_RESP_NACK : UInt16 := 1
def VIRTIO_MEM_RESP_ERROR : UInt16 := 3

def VIRTIO_MEM_STATE_PLUGGED : UInt16 := 0
def VIRTIO_MEM_STATE_UNPLUGGED : UInt16 := 1
def VIRTIO_MEM_STATE_MIXED : UInt16 := 2

def VIRTIO_MEM_REQ_PLUG : UInt16 := 0
def VIRTIO_MEM_REQ_UNPLUG : UInt16 := 1
def VIRTIO_MEM_REQ_UNPLUG_ALL : UInt16 := 2
def VIRTIO_MEM_REQ_STATE : UInt16 := 3

/-- The fields of `VirtioMemConfig` that the device reads; `node_id` and the padding are only
exposed to the guest. -/
structure VirtioMemConfig where
  block_size : UInt64
  addr : UInt64
  region_size : UInt64
  usable_region_size : UInt64
  plugged_size : UInt64
  requested_size : UInt64
  deriving DecidableEq, Repr

/-- The request of a descriptor chain that `Request::parse` accepted. -/
structure VirtioMemReq where
  req_type : UInt16
  addr : UInt64
  nb_blocks : UInt16
  deriving DecidableEq, Repr

/-- `(kvm_slot, Option (host_addr, guest_addr))` for each map region. -/
abbrev MapRegions := List (UInt32 × Option (UInt64 × UInt64))

/-- What the host answers during one step: whether `fallocate64(fd, offset, len)` and
`madvise(host_addr, len, MADV_REMOVE)` return 0, the host address of a region that the region
factory creates for a guest address, length and slot (with `get_host_address`), and whether the
device change notification goes through. -/
structure Host where
  fallocate64 : Int → UInt64 → UInt64 → Bool
  madvise : UInt64 → UInt64 → Bool
  create_region : UInt64 → UInt64 → UInt32 → Option UInt64
  notify : Bool

inductive Error
  | InvalidInput
  | InvalidResource
  | RsizeUsabeRegionFail
  | IOError
  deriving DecidableEq, Repr

/-- The state of the device: the configuration shared by `Mem` and its handler, the map regions,
and what `MemEpollHandler` keeps. -/
structure MemEpollHandler where
  config : VirtioMemConfig
  multi_region : Bool
  map_regions : MapRegions
  host_fd : Option Int
  mem_state : List Bool
  deriving DecidableEq

/-- What `Mem` keeps that `set_requested_size` reads: the aligned capacity and the alignment of the
usable region. -/
structure Mem where
  capacity : UInt64
  alignment : UInt64

/-! ## `MemTool` -/

def virtio_mem_valid_range (config : VirtioMemConfig) (addr size : UInt64) : Bool :=
  -- address properly aligned?
  if addr % config.block_size != 0 || size % config.block_size != 0 then false
  -- reasonable size
  else if decide (UInt64.size ≤ addr.toNat + size.toNat) || size == 0 then false
  -- start address in usable range?
  else if addr < config.addr || addr ≥ config.addr + config.usable_region_size then false
  -- end address in usable range?
  else if addr + size > config.addr + config.usable_region_size then false
  else true

/-- Whether the `nb_blocks` entries from `bit_index` (those there are) all equal `plug`. -/
def virtio_mem_check_bitmap (bit_index : Nat) (nb_blocks : UInt16) (mem_state : List Bool)
    (plug : Bool) : Bool :=
  ((mem_state.drop bit_index).take nb_blocks.toNat).all (· == plug)

/-- The `nb_blocks` entries from `bit_index` (those there are) set to `plug`. -/
def virtio_mem_set_bitmap (bit_index : Nat) (nb_blocks : UInt16) (mem_state : List Bool)
    (plug : Bool) : List Bool :=
  mem_state.mapIdx fun i state => if bit_index ≤ i ∧ i < bit_index + nb_blocks.toNat then plug
    else state

/-- `StateChangeRequest`, without the device id that only the log messages read. -/
structure StateChangeRequest where
  config : VirtioMemConfig
  mem_state : List Bool
  addr : UInt64
  size : UInt64
  nb_blocks : UInt16
  multi_region : Bool
  map_regions : MapRegions
  host_fd : Option Int
  plug : Bool

def StateChangeRequest.new (r : VirtioMemReq) (config : VirtioMemConfig) (mem_state : List Bool)
    (multi_region : Bool) (map_regions : MapRegions) (host_fd : Option Int) (plug : Bool) :
    StateChangeRequest :=
  ⟨config, mem_state, r.addr, r.nb_blocks.toUInt64 * config.block_size, r.nb_blocks, multi_region,
    map_regions, host_fd, plug⟩

/-- The host address of the first block of a request at `offset` in the region, or `none` where
`virtio_mem_state_change_request` answers `VIRTIO_MEM_RESP_ERROR`: a range over two map regions,
or a map region that is not mapped. -/
def StateChangeRequest.host_addr (r : StateChangeRequest) (offset : UInt64) : Option UInt64 :=
  if r.multi_region then
    if (offset + r.size - 1) >>> VIRTIO_MEM_MAP_REGION_SHIFT ≠
        offset >>> VIRTIO_MEM_MAP_REGION_SHIFT then none
    else
      match r.map_regions[(offset >>> VIRTIO_MEM_MAP_REGION_SHIFT).toNat]? with
      | some (_, some (region_host_addr, _)) =>
        some ((offset &&& VIRTIO_MEM_MAP_REGION_MASK) + region_host_addr)
      | _ => none
  else
    -- `map_regions[0]` is there: activation checks that there is one map region
    match r.map_regions[0]? with
    | some (_, some (host_addr, _)) => some (host_addr + offset)
    | _ => none

/-- The host side of an unplug: the hole punched in the backing file, if there is one, then
`MADV_REMOVE` on the host range. -/
def StateChangeRequest.unplug_host (r : StateChangeRequest) (host : Host)
    (offset host_addr : UInt64) : Bool :=
  (match r.host_fd with
    | some fd => host.fallocate64 fd offset r.size
    | none => true) &&
  host.madvise host_addr r.size

/-- `virtio_mem_state_change_request`: the response, and the bitmap. -/
def virtio_mem_state_change_request (r : StateChangeRequest) (host : Host) : UInt16 × List Bool :=
  if r.plug && r.config.plugged_size + r.size > r.config.requested_size then
    (VIRTIO_MEM_RESP_NACK, r.mem_state)
  else if !virtio_mem_valid_range r.config r.addr r.size then (VIRTIO_MEM_RESP_ERROR, r.mem_state)
  else
    let offset := r.addr - r.config.addr
    let bit_index := (offset / r.config.block_size).toNat
    if !virtio_mem_check_bitmap bit_index r.nb_blocks r.mem_state !r.plug then
      (VIRTIO_MEM_RESP_ERROR, r.mem_state)
    else
      match r.host_addr offset with
      | none => (VIRTIO_MEM_RESP_ERROR, r.mem_state)
      | some host_addr =>
        if !r.plug && !r.unplug_host host offset host_addr then (VIRTIO_MEM_RESP_ERROR, r.mem_state)
        else (VIRTIO_MEM_RESP_ACK, virtio_mem_set_bitmap bit_index r.nb_blocks r.mem_state r.plug)

/-- `virtio_mem_unplug_all`: each plugged block unplugged by its own state change request, up to
the first that fails, whose response is returned. -/
def virtio_mem_unplug_all (config : VirtioMemConfig) (mem_state : List Bool) (multi_region : Bool)
    (map_regions : MapRegions) (host_fd : Option Int) (host : Host) : UInt16 × List Bool :=
  loop (List.range (config.region_size / config.block_size).toNat) mem_state
where
  loop : List Nat → List Bool → UInt16 × List Bool
    | [], mem_state => (VIRTIO_MEM_RESP_ACK, mem_state)
    | x :: xs, mem_state =>
      -- `mem_state[x]` is there: activation gives the bitmap `region_size / block_size` entries
      if mem_state.getD x false then
        let res := virtio_mem_state_change_request
          ⟨config, mem_state, config.addr + x.toUInt64 * config.block_size, config.block_size, 1,
            multi_region, map_regions, host_fd, false⟩ host
        if res.1 ≠ VIRTIO_MEM_RESP_ACK then res
        else loop xs (res.2.set x false)
      else loop xs mem_state

/-- `virtio_mem_state_request`: the response and the state of the blocks. -/
def virtio_mem_state_request (config : VirtioMemConfig) (addr : UInt64) (nb_blocks : UInt16)
    (mem_state : List Bool) : UInt16 × UInt16 :=
  let size := nb_blocks.toUInt64 * config.block_size
  let resp_type :=
    if virtio_mem_valid_range config addr size then VIRTIO_MEM_RESP_ACK else VIRTIO_MEM_RESP_ERROR
  let offset := addr - config.addr
  let bit_index := (offset / config.block_size).toNat
  let resp_state :=
    if virtio_mem_check_bitmap bit_index nb_blocks mem_state true then VIRTIO_MEM_STATE_PLUGGED
    else if virtio_mem_check_bitmap bit_index nb_blocks mem_state false then
      VIRTIO_MEM_STATE_UNPLUGGED
    else VIRTIO_MEM_STATE_MIXED
  (resp_type, resp_state)

/-- The map regions part of `virtio_mem_resize_usable_region`: from the first unmapped one between
the old and the new usable size, the map regions up to the new size are mapped to one new region
of the factory. The indices are clamped to the last map region. -/
def map_new_regions (config : VirtioMemConfig) (newsize : UInt64) (map_regions : MapRegions)
    (host : Host) : Except Error MapRegions :=
  let first_index :=
    min (config.usable_region_size >>> VIRTIO_MEM_MAP_REGION_SHIFT).toNat (map_regions.length - 1)
  let last_index := min (newsize >>> VIRTIO_MEM_MAP_REGION_SHIFT).toNat (map_regions.length - 1)
  -- Find the first unmap index
  match (List.range' first_index (last_index + 1 - first_index)).find?
      (fun index => (map_regions.getD index (0, none)).2.isNone) with
  | none => .ok map_regions
  | some first_index =>
    let regions_num := (last_index - first_index + 1).toUInt64
    let guest_addr := config.addr + (first_index.toUInt64 <<< VIRTIO_MEM_MAP_REGION_SHIFT)
    let region_len := ((regions_num - 1) <<< VIRTIO_MEM_MAP_REGION_SHIFT) +
      if last_index + 1 = map_regions.length then
        config.region_size - (last_index.toUInt64 <<< VIRTIO_MEM_MAP_REGION_SHIFT)
      else VIRTIO_MEM_MAP_REGION_SIZE
    match host.create_region guest_addr region_len (map_regions.getD first_index (0, none)).1 with
    | none => .error .RsizeUsabeRegionFail
    | some host_addr =>
      .ok (map_regions.mapIdx fun index region =>
        if first_index ≤ index ∧ index ≤ last_index then
          (region.1, some (host_addr + (index - first_index).toUInt64 * VIRTIO_MEM_MAP_REGION_SIZE,
            guest_addr + (index - first_index).toUInt64 * VIRTIO_MEM_MAP_REGION_SIZE))
        else region)

/-- `virtio_mem_resize_usable_region`: the configuration, and the map regions when there are
several. -/
def virtio_mem_resize_usable_region (config : VirtioMemConfig) (can_shrink : Bool)
    (alignment : UInt64) (multi_regions : Option MapRegions) (host : Host) :
    Except Error (VirtioMemConfig × Option MapRegions) := do
  let newsize := min config.region_size (config.requested_size + 2 * alignment)
  -- The usable region size always has to be multiples of the block size.
  let newsize := newsize &&& ~~~(config.block_size - 1)
  let newsize := if config.requested_size = 0 then 0 else newsize
  let multi_regions ← if newsize > config.usable_region_size then
      multi_regions.mapM fun map_regions => map_new_regions config newsize map_regions host
    else pure multi_regions
  if newsize < config.usable_region_size && !can_shrink then return (config, multi_regions)
  return ({ config with usable_region_size := newsize }, multi_regions)

/-! ## The device -/

/-- `get_map_regions_num`. -/
def get_map_regions_num (region_size : UInt64) : Nat :=
  ((region_size >>> VIRTIO_MEM_MAP_REGION_SHIFT) +
    if region_size &&& VIRTIO_MEM_MAP_REGION_MASK > 0 then 1 else 0).toNat

/-- The part of `Mem::activate` that builds the handler: the number of map regions is checked, and
the bitmap is the one saved for live upgrade, or all unplugged. -/
def activate (config : VirtioMemConfig) (multi_region : Bool) (map_regions : MapRegions)
    (host_fd : Option Int) (mem_state_map : Option (List Bool)) : Option MemEpollHandler :=
  let slot_num := if multi_region then get_map_regions_num config.region_size else 1
  if map_regions.length ≠ slot_num then none
  else some ⟨config, multi_region, map_regions, host_fd,
    mem_state_map.getD (List.replicate (config.region_size.toNat / config.block_size.toNat) false)⟩

/-- The `VIRTIO_MEM_REQ_PLUG` and `VIRTIO_MEM_REQ_UNPLUG` arms of `process_queue`, which differ in
`plug` and in the update of `plugged_size` on an acknowledgement. -/
def process_state_change (s : MemEpollHandler) (host : Host) (r : VirtioMemReq) (plug : Bool) :
    MemEpollHandler × UInt16 :=
  let request := StateChangeRequest.new r s.config s.mem_state s.multi_region s.map_regions
    s.host_fd plug
  let res := virtio_mem_state_change_request request host
  let plugged_size :=
    if res.1 = VIRTIO_MEM_RESP_ACK then
      if plug then s.config.plugged_size + request.size else s.config.plugged_size - request.size
    else s.config.plugged_size
  ({ s with config := { s.config with plugged_size }, mem_state := res.2 }, res.1)

/-- One descriptor chain of `MemEpollHandler::process_queue`: the state, and the response written
to the guest (`none` for a chain that does not parse or a request of an unknown type). -/
def process_request (s : MemEpollHandler) (host : Host) :
    Option VirtioMemReq → MemEpollHandler × Option (UInt16 × UInt16)
  | none => (s, none)
  | some r =>
    if r.req_type = VIRTIO_MEM_REQ_PLUG then
      let res := process_state_change s host r true
      (res.1, some (res.2, 0))
    else if r.req_type = VIRTIO_MEM_REQ_UNPLUG then
      let res := process_state_change s host r false
      (res.1, some (res.2, 0))
    else if r.req_type = VIRTIO_MEM_REQ_UNPLUG_ALL then
      let res := virtio_mem_unplug_all s.config s.mem_state s.multi_region s.map_regions s.host_fd
        host
      let plugged_size :=
        if res.1 = VIRTIO_MEM_RESP_ACK then 0 else s.config.plugged_size
      ({ s with config := { s.config with plugged_size }, mem_state := res.2 }, some (res.1, 0))
    else if r.req_type = VIRTIO_MEM_REQ_STATE then
      (s, some (virtio_mem_state_request s.config r.addr r.nb_blocks s.mem_state))
    else (s, none)

/-- `Mem::set_requested_size`. The requested size is stored before the usable region is resized,
so it stays when the resize fails. -/
def set_requested_size (dev : Mem) (s : MemEpollHandler) (requested_size_mb : UInt64)
    (host : Host) : MemEpollHandler × Except Error Unit :=
  -- Align to 4MB.
  let requested_size := requested_size_mb * 1024 * 1024
  if requested_size > dev.capacity || requested_size % VIRTIO_MEM_DEFAULT_BLOCK_SIZE != 0 then
    (s, .error .InvalidInput)
  else
    let config := { s.config with requested_size }
    match virtio_mem_resize_usable_region config false dev.alignment
        (if s.multi_region then some s.map_regions else none) host with
    | .error e => ({ s with config }, .error e)
    | .ok (config, multi_regions) =>
      ({ s with config, map_regions := multi_regions.getD s.map_regions },
        if host.notify then .ok () else .error .IOError)

/-- What happens to the device: a guest request, or a new requested size from the VMM. -/
inductive Event
  | request (req : Option VirtioMemReq) (host : Host)
  | set_requested_size (requested_size_mb : UInt64) (host : Host)

def step (dev : Mem) (s : MemEpollHandler) : Event → MemEpollHandler
  | .request req host => (process_request s host req).1
  | .set_requested_size requested_size_mb host => (set_requested_size dev s requested_size_mb host).1

/-- The handler that activation builds from a new device: the default block size, nothing
plugged. -/
def Activated (s : MemEpollHandler) : Prop :=
  ∃ config multi_region map_regions host_fd,
    config.block_size = VIRTIO_MEM_DEFAULT_BLOCK_SIZE ∧ config.plugged_size = 0 ∧
      activate config multi_region map_regions host_fd none = some s

/-- The states that guest requests and new requested sizes reach from activation. -/
def Reachable (dev : Mem) : MemEpollHandler → Prop :=
  Transition.Reachable Activated (step dev)

/-- `plugged_size` is the size of the plugged blocks. -/
def Accounting (s : MemEpollHandler) : Prop :=
  s.config.plugged_size.toNat = s.config.block_size.toNat * s.mem_state.count true

instance (s : MemEpollHandler) : Decidable (Accounting s) :=
  inferInstanceAs (Decidable (_ = _))

/-! ## The shape of the bitmap -/

/-- The bitmap has one entry per block of the region, and the blocks have the default size. -/
def Shape (s : MemEpollHandler) : Prop :=
  s.config.block_size = VIRTIO_MEM_DEFAULT_BLOCK_SIZE ∧
    s.mem_state.length = s.config.region_size.toNat / s.config.block_size.toNat

theorem set_bitmap_length (bit_index : Nat) (nb_blocks : UInt16) (ms : List Bool) (plug : Bool) :
    (virtio_mem_set_bitmap bit_index nb_blocks ms plug).length = ms.length :=
  List.length_mapIdx

theorem state_change_request_length (r : StateChangeRequest) (host : Host) :
    (virtio_mem_state_change_request r host).2.length = r.mem_state.length := by
  unfold virtio_mem_state_change_request
  dsimp only
  split_ifs
  · rfl
  · rfl
  · rfl
  split
  · rfl
  split_ifs
  · rfl
  · exact set_bitmap_length _ _ _ _

theorem unplug_all_loop_length {config : VirtioMemConfig} {multi_region : Bool}
    {map_regions : MapRegions} {host_fd : Option Int} {host : Host} (xs : List Nat)
    (ms : List Bool) :
    (virtio_mem_unplug_all.loop config multi_region map_regions host_fd host xs ms).2.length =
      ms.length := by
  induction xs generalizing ms with
  | nil => rfl
  | cons x xs ih =>
    simp only [virtio_mem_unplug_all.loop]
    split_ifs
    · exact state_change_request_length _ _
    · rw [ih, List.length_set, state_change_request_length]
    · exact ih ms

/-- Resizing the usable region changes no other field of the configuration than the usable size. -/
theorem resize_usable_region_post (config : VirtioMemConfig) (can_shrink : Bool)
    (alignment : UInt64) (multi_regions : Option MapRegions) (host : Host) :
    Except.Post (fun r : VirtioMemConfig × Option MapRegions =>
        r.1.block_size = config.block_size ∧ r.1.region_size = config.region_size) (fun _ => True)
      (virtio_mem_resize_usable_region config can_shrink alignment multi_regions host) := by
  unfold virtio_mem_resize_usable_region
  extract_lets newsize newsize' newsize'' jp
  -- the join point returns the old configuration or the old one with a new usable size
  have hjp : ∀ mr, Except.Post (fun r : VirtioMemConfig × Option MapRegions =>
      r.1.block_size = config.block_size ∧ r.1.region_size = config.region_size)
      (fun _ => True) (jp mr) := by
    intro mr
    simp only [jp]
    split
    · exact ⟨rfl, rfl⟩
    · exact ⟨rfl, rfl⟩
  split
  · exact Except.post_bind (Except.post_true _) fun mr _ => hjp mr
  · exact Except.post_bind (Except.post_true _) fun mr _ => hjp mr

theorem process_state_change_mem_state (s : MemEpollHandler) (host : Host) (r : VirtioMemReq)
    (plug : Bool) :
    (process_state_change s host r plug).1.mem_state =
      (virtio_mem_state_change_request (StateChangeRequest.new r s.config s.mem_state s.multi_region
        s.map_regions s.host_fd plug) host).2 := rfl

/-- A plug or an unplug changes `plugged_size` and the bitmap, which keeps its length. -/
theorem process_state_change_shape {s : MemEpollHandler} (h : Shape s) (host : Host)
    (r : VirtioMemReq) (plug : Bool) : Shape (process_state_change s host r plug).1 := by
  obtain ⟨hbs, hlen⟩ := h
  have hcfg : (process_state_change s host r plug).1.config.block_size = s.config.block_size ∧
      (process_state_change s host r plug).1.config.region_size = s.config.region_size :=
    ⟨rfl, rfl⟩
  refine ⟨hcfg.1.trans hbs, ?_⟩
  rw [process_state_change_mem_state, state_change_request_length, hcfg.1, hcfg.2]
  exact hlen

theorem process_request_shape {s : MemEpollHandler} (h : Shape s) (host : Host)
    (req : Option VirtioMemReq) : Shape (process_request s host req).1 := by
  obtain ⟨hbs, hlen⟩ := h
  cases req with
  | none => exact ⟨hbs, hlen⟩
  | some r =>
    simp only [process_request]
    -- one case per arm of the request type; only the bitmap changes, and keeps its length
    split
    · exact process_state_change_shape ⟨hbs, hlen⟩ host r true
    split
    · exact process_state_change_shape ⟨hbs, hlen⟩ host r false
    split
    · refine ⟨hbs, ?_⟩
      show (virtio_mem_unplug_all s.config s.mem_state s.multi_region s.map_regions s.host_fd
        host).2.length = _
      rw [virtio_mem_unplug_all, unplug_all_loop_length]
      exact hlen
    split
    · exact ⟨hbs, hlen⟩
    · exact ⟨hbs, hlen⟩

theorem set_requested_size_shape {s : MemEpollHandler} (h : Shape s) (dev : Mem)
    (requested_size_mb : UInt64) (host : Host) :
    Shape (set_requested_size dev s requested_size_mb host).1 := by
  obtain ⟨hbs, hlen⟩ := h
  unfold set_requested_size
  dsimp only
  split
  · exact ⟨hbs, hlen⟩
  · split
    · exact ⟨hbs, hlen⟩
    · next config' mr heq =>
      obtain ⟨hbs', hrs'⟩ := (resize_usable_region_post _ _ _ _ host).of_eq_ok heq
      refine ⟨hbs'.trans hbs, ?_⟩
      show s.mem_state.length = config'.region_size.toNat / config'.block_size.toNat
      rw [hbs', hrs']
      exact hlen

theorem Reachable.shape {dev : Mem} {s : MemEpollHandler} (h : Reachable dev s) : Shape s := by
  refine h.invariant (fun s hs => ?_) (fun s e hs => ?_)
  · obtain ⟨config, multi_region, map_regions, host_fd, hbs, -, hact⟩ := hs
    unfold activate at hact
    dsimp only at hact
    split_ifs at hact <;> cases hact <;> exact ⟨hbs, List.length_replicate⟩
  · cases e with
    | request req host => exact process_request_shape hs host req
    | set_requested_size requested_size_mb host => exact set_requested_size_shape hs dev _ host

/-! ## Unplugging only clears blocks -/

/-- `mem_state'` has a block plugged only where `mem_state` has one. -/
def Clears (mem_state' mem_state : List Bool) : Prop :=
  List.Forall₂ (fun a b => a = true → b = true) mem_state' mem_state

namespace Clears

variable {ms ms' ms'' : List Bool}

theorem refl (ms : List Bool) : Clears ms ms := by
  induction ms with
  | nil => exact .nil
  | cons _ _ ih => exact .cons id ih

theorem trans (h₁ : Clears ms'' ms') (h₂ : Clears ms' ms) : Clears ms'' ms := by
  induction h₁ generalizing ms with
  | nil => cases h₂; exact .nil
  | cons hab _ ih =>
    cases h₂ with
    | cons hbc h₂ => exact .cons (hbc ∘ hab) (ih h₂)

theorem getD_false (h : Clears ms' ms) {x : Nat} (hx : ms.getD x false = false) :
    ms'.getD x false = false := by
  induction h generalizing x with
  | nil => rfl
  | @cons a b _ _ hab _ ih =>
    cases x with
    | zero =>
      cases a
      · rfl
      · exact absurd (hab rfl) (by simpa using hx)
    | succ x => exact ih hx

theorem count_le (h : Clears ms' ms) : ms'.count true ≤ ms.count true := by
  induction h with
  | nil => exact Nat.le_refl 0
  | @cons a b _ _ hab _ ih =>
    cases a <;> cases b
    · simpa [List.count_cons] using ih
    · simp only [List.count_cons, show (false == true) = false from rfl,
        show (true == true) = true from rfl, Bool.false_eq_true, if_false, if_true]
      omega
    · exact absurd (hab rfl) (by decide)
    · simpa [List.count_cons] using ih

/-- Clearing something lowers the number of plugged blocks. -/
theorem count_lt (h : Clears ms' ms) (hne : ms' ≠ ms) : ms'.count true < ms.count true := by
  induction h with
  | nil => exact absurd rfl hne
  | @cons a b l' l hab htail ih =>
    by_cases hl : l' = l
    · -- the head was cleared
      subst hl
      have hab' : a ≠ b := fun heq => hne (by rw [heq])
      cases a <;> cases b <;> simp_all
    · have := ih hl
      cases a <;> cases b <;> simp_all
      omega

end Clears

theorem clears_set_false (ms : List Bool) (x : Nat) : Clears (ms.set x false) ms := by
  induction ms generalizing x with
  | nil => exact .nil
  | cons _ ms ih =>
    cases x with
    | zero => exact .cons (fun h => absurd h (by decide)) (Clears.refl ms)
    | succ x => exact .cons id (ih x)

theorem set_bitmap_false_clears (bit_index : Nat) (nb_blocks : UInt16) (ms : List Bool) :
    Clears (virtio_mem_set_bitmap bit_index nb_blocks ms false) ms := by
  rw [Clears, List.forall₂_iff_get]
  refine ⟨List.length_mapIdx, fun j _ _ => ?_⟩
  simp only [virtio_mem_set_bitmap, List.get_eq_getElem, List.getElem_mapIdx]
  split_ifs <;> simp

/-- An unplug request changes the bitmap only by clearing blocks. -/
theorem state_change_request_clears {r : StateChangeRequest} {host : Host} (hplug : r.plug = false) :
    Clears (virtio_mem_state_change_request r host).2 r.mem_state := by
  unfold virtio_mem_state_change_request
  dsimp only
  split_ifs
  · exact Clears.refl _
  · exact Clears.refl _
  · exact Clears.refl _
  split
  · exact Clears.refl _
  split_ifs
  · exact Clears.refl _
  · rw [hplug]
    exact set_bitmap_false_clears _ _ _

/-- An acknowledged plug passed the check against the requested size. -/
theorem state_change_request_plug_ack {r : StateChangeRequest} {host : Host} (hplug : r.plug = true)
    (h : (virtio_mem_state_change_request r host).1 = VIRTIO_MEM_RESP_ACK) :
    r.config.plugged_size + r.size ≤ r.config.requested_size := by
  unfold virtio_mem_state_change_request at h
  split_ifs at h with hnack
  · simp only at h
    exact absurd h (by decide)
  all_goals
    simp only [hplug, Bool.true_and, decide_eq_true_eq] at hnack
    exact UInt64.not_lt.mp hnack

section UnplugAll

variable {config : VirtioMemConfig} {multi_region : Bool} {map_regions : MapRegions}
  {host_fd : Option Int} {host : Host}

/-- The loop of `virtio_mem_unplug_all` only clears blocks, also when it stops at an error. -/
theorem unplug_all_loop_clears (xs : List Nat) (ms : List Bool) :
    Clears (virtio_mem_unplug_all.loop config multi_region map_regions host_fd host xs ms).2 ms := by
  induction xs generalizing ms with
  | nil => exact Clears.refl ms
  | cons x xs ih =>
    have hreq : Clears (virtio_mem_state_change_request ⟨config, ms,
        config.addr + x.toUInt64 * config.block_size, config.block_size, 1, multi_region,
        map_regions, host_fd, false⟩ host).2 ms :=
      state_change_request_clears rfl
    simp only [virtio_mem_unplug_all.loop]
    split_ifs
    · exact hreq
    · exact (ih _).trans ((clears_set_false _ x).trans hreq)
    · exact ih ms

/-- When the loop acknowledges, every block it went over is unplugged. -/
theorem unplug_all_loop_ack (xs : List Nat) (ms : List Bool)
    (h : (virtio_mem_unplug_all.loop config multi_region map_regions host_fd host xs ms).1 =
      VIRTIO_MEM_RESP_ACK) :
    ∀ x ∈ xs,
      (virtio_mem_unplug_all.loop config multi_region map_regions host_fd host xs ms).2.getD x
        false = false := by
  induction xs generalizing ms with
  | nil => simp
  | cons y xs ih =>
    simp only [virtio_mem_unplug_all.loop] at h ⊢
    split_ifs at h ⊢ with hy hres
    · exact absurd h hres
    · -- the block `y` was plugged, and its request acknowledged
      intro x hx
      rcases List.mem_cons.mp hx with rfl | hx
      · apply (unplug_all_loop_clears xs _).getD_false
        simp [List.getD_eq_getElem?_getD, List.getElem?_set]
        split <;> simp
      · exact ih _ h x hx
    · intro x hx
      rcases List.mem_cons.mp hx with rfl | hx
      · exact (unplug_all_loop_clears xs ms).getD_false (by simpa using hy)
      · exact ih ms h x hx

/-- When `virtio_mem_unplug_all` acknowledges, every block of the region is unplugged. -/
theorem unplug_all_ack_unplugged {ms : List Bool}
    (h : (virtio_mem_unplug_all config ms multi_region map_regions host_fd host).1 =
      VIRTIO_MEM_RESP_ACK) {x : Nat} (hx : x < (config.region_size / config.block_size).toNat) :
    (virtio_mem_unplug_all config ms multi_region map_regions host_fd host).2.getD x false =
      false :=
  unplug_all_loop_ack _ ms h x (List.mem_range.mpr hx)

end UnplugAll

/-! ## The arms of `process_queue` -/

section Process

variable {s : MemEpollHandler} {host : Host} {r : VirtioMemReq}

theorem process_request_plug (hreq : r.req_type = VIRTIO_MEM_REQ_PLUG) :
    process_request s host (some r) =
      ((process_state_change s host r true).1, some ((process_state_change s host r true).2, 0)) := by
  simp only [process_request, hreq, if_true]

theorem process_request_unplug_all (hreq : r.req_type = VIRTIO_MEM_REQ_UNPLUG_ALL) :
    process_request s host (some r) =
      ({ s with
          config := { s.config with
            plugged_size :=
              if (virtio_mem_unplug_all s.config s.mem_state s.multi_region s.map_regions s.host_fd
                  host).1 = VIRTIO_MEM_RESP_ACK then 0
              else s.config.plugged_size }
          mem_state := (virtio_mem_unplug_all s.config s.mem_state s.multi_region s.map_regions
            s.host_fd host).2 },
        some ((virtio_mem_unplug_all s.config s.mem_state s.multi_region s.map_regions s.host_fd
          host).1, 0)) := by
  simp only [process_request, hreq]
  rw [if_neg (by decide), if_neg (by decide), if_pos trivial]

/-- An acknowledged plug leaves `plugged_size` at most the requested size of that moment. -/
theorem process_plug_ack_le (hreq : r.req_type = VIRTIO_MEM_REQ_PLUG)
    (hack : (process_request s host (some r)).2 = some (VIRTIO_MEM_RESP_ACK, 0)) :
    (process_request s host (some r)).1.config.plugged_size ≤ s.config.requested_size := by
  rw [process_request_plug hreq] at hack ⊢
  have hres : (process_state_change s host r true).2 = VIRTIO_MEM_RESP_ACK := by
    simpa using hack
  -- the request that `process_state_change` builds was acknowledged as a plug
  have hack' : (virtio_mem_state_change_request (StateChangeRequest.new r s.config s.mem_state
      s.multi_region s.map_regions s.host_fd true) host).1 = VIRTIO_MEM_RESP_ACK := hres
  have hle := state_change_request_plug_ack rfl hack'
  simp only [process_state_change, hack', ↓reduceIte]
  exact hle

/-- An `UNPLUG_ALL` that fails after unplugging some blocks leaves `plugged_size` as it was, above
the size of the blocks still plugged. -/
theorem unplug_all_error_breaks_accounting (hreq : r.req_type = VIRTIO_MEM_REQ_UNPLUG_ALL)
    (hbs : s.config.block_size ≠ 0) (hacc : Accounting s)
    (herr : (process_request s host (some r)).2 ≠ some (VIRTIO_MEM_RESP_ACK, 0))
    (hchg : (process_request s host (some r)).1.mem_state ≠ s.mem_state) :
    ¬ Accounting (process_request s host (some r)).1 := by
  rw [process_request_unplug_all hreq] at herr hchg ⊢
  have hres : (virtio_mem_unplug_all s.config s.mem_state s.multi_region s.map_regions s.host_fd
      host).1 ≠ VIRTIO_MEM_RESP_ACK := fun h => herr (by rw [h])
  have hlt := (unplug_all_loop_clears _ s.mem_state).count_lt hchg
  have hbs' : 0 < s.config.block_size.toNat := by
    have : s.config.block_size.toNat ≠ 0 := fun h => hbs (UInt64.toNat_inj.mp (by simpa using h))
    omega
  unfold Accounting at hacc ⊢
  simp only [if_neg hres]
  rw [hacc]
  exact Nat.ne_of_gt ((Nat.mul_lt_mul_left hbs').mpr hlt)

end Process

/-! ## A run that breaks the accounting -/

/-- A 256 MiB device at guest address 4 GiB, all of it usable and requested, in one map region at
host address `0x7f0000000000`, without a backing file. -/
def example_config : VirtioMemConfig :=
  ⟨VIRTIO_MEM_DEFAULT_BLOCK_SIZE, 0x100000000, 0x10000000, 0x10000000, 0, 0x10000000⟩

def example_map_regions : MapRegions := [(0, some (0x7f0000000000, 0x100000000))]

/-- A host whose `madvise` fails on one host address only. -/
def madvise_fails_at (bad : UInt64) : Host :=
  ⟨fun _ _ _ => true, fun host_addr _ => host_addr != bad, fun _ _ _ => none, true⟩

/-- The device after the guest plugged the first two blocks. -/
def plugged_two : MemEpollHandler :=
  ⟨{ example_config with plugged_size := 0x800000 }, false, example_map_regions, none,
    true :: true :: List.replicate 62 false⟩

theorem plugged_two_reachable (dev : Mem) : Reachable dev plugged_two := by
  have hact : activate example_config false example_map_regions none none =
      some ⟨example_config, false, example_map_regions, none, List.replicate 64 false⟩ := rfl
  have h₀ : Reachable dev ⟨example_config, false, example_map_regions, none, List.replicate 64 false⟩ :=
    Transition.Reachable.init ⟨example_config, false, example_map_regions, none, rfl, rfl, hact⟩
  -- the guest plugs the first two blocks
  have h₁ := h₀.step (.request (some ⟨VIRTIO_MEM_REQ_PLUG, 0x100000000, 2⟩) (madvise_fails_at 0))
  have hplug : step dev ⟨example_config, false, example_map_regions, none, List.replicate 64 false⟩
      (.request (some ⟨VIRTIO_MEM_REQ_PLUG, 0x100000000, 2⟩) (madvise_fails_at 0)) = plugged_two := by
    simp only [step]
    decide +kernel
  rwa [hplug] at h₁

/-- From the device with two plugged blocks, `UNPLUG_ALL` unplugs the first block, and `madvise`
fails on the second: the response is an error, `plugged_size` stays 8 MiB, and one 4 MiB block is
still plugged. -/
theorem unplug_all_error_breaks_accounting_second_block :
    Reachable ⟨0x10000000, 0x8000000⟩ plugged_two ∧
      ¬ Accounting (process_request plugged_two (madvise_fails_at 0x7f0000400000)
        (some ⟨VIRTIO_MEM_REQ_UNPLUG_ALL, 0, 0⟩)).1 :=
  ⟨plugged_two_reachable _, unplug_all_error_breaks_accounting rfl (by decide) (by decide)
    (by decide) (by decide)⟩


/-! ## A `STATE` request below the region -/

/-- No range that starts below the region is valid. -/
theorem valid_range_below {config : VirtioMemConfig} {addr : UInt64} (size : UInt64)
    (h : addr < config.addr) : virtio_mem_valid_range config addr size = false := by
  unfold virtio_mem_valid_range
  split_ifs with h1 h2 h3
  · rfl
  · rfl
  · rfl
  · rfl
  · simp only [h, decide_true, Bool.true_or, not_true_eq_false] at h3

/-- Past the end of the bitmap there are no blocks to check, and the check passes. -/
theorem check_bitmap_past {ms : List Bool} {bit_index : Nat} (h : ms.length ≤ bit_index)
    (nb_blocks : UInt16) (plug : Bool) : virtio_mem_check_bitmap bit_index nb_blocks ms plug = true := by
  simp [virtio_mem_check_bitmap, List.drop_eq_nil_of_le h]

/-- A `STATE` request for an address below the device's region: `virtio_mem_state_request`
subtracts the region's address from it all the same, which panics in a build with overflow checks
and otherwise wraps around to an offset past the end of the bitmap, so that the blocks are reported
plugged, with an error. -/
theorem state_request_below_region_wraps {dev : Mem} {s : MemEpollHandler} (h : Reachable dev s)
    (hfit : s.config.addr.toNat + s.config.region_size.toNat < 2 ^ 64) {addr : UInt64}
    (haddr : addr < s.config.addr) (nb_blocks : UInt16) (host : Host) :
    Checked.sub addr s.config.addr = none ∧
      s.mem_state.length ≤ ((addr - s.config.addr) / s.config.block_size).toNat ∧
      process_request s host (some ⟨VIRTIO_MEM_REQ_STATE, addr, nb_blocks⟩) =
        (s, some (VIRTIO_MEM_RESP_ERROR, VIRTIO_MEM_STATE_PLUGGED)) := by
  obtain ⟨-, hlen⟩ := h.shape
  have hlt : addr.toNat < s.config.addr.toNat := UInt64.lt_iff_toNat_lt.mp haddr
  -- the offset wraps around to `2 ^ 64 - (config.addr - addr)`, past the region's size
  have hoff : (addr - s.config.addr).toNat = 2 ^ 64 - s.config.addr.toNat + addr.toNat := by
    rw [UInt64.toNat_sub, Nat.mod_eq_of_lt (by omega)]
  have hpast : s.mem_state.length ≤ ((addr - s.config.addr) / s.config.block_size).toNat := by
    rw [hlen, UInt64.toNat_div, hoff]
    exact Nat.div_le_div_right (by omega)
  refine ⟨Checked.sub_eq_none_iff.mpr hlt, hpast, ?_⟩
  simp +decide only [process_request, VIRTIO_MEM_REQ_PLUG, VIRTIO_MEM_REQ_UNPLUG,
    VIRTIO_MEM_REQ_UNPLUG_ALL, VIRTIO_MEM_REQ_STATE, ↓reduceIte]
  simp only [virtio_mem_state_request, valid_range_below _ haddr, check_bitmap_past hpast,
    Bool.false_eq_true, ↓reduceIte]

/-- The device with two plugged blocks at 4 GiB answers a `STATE` request for address 0 with an
error and the state "plugged". -/
theorem state_request_below_region_wraps_address_zero :
    Reachable ⟨0x10000000, 0x8000000⟩ plugged_two ∧
      process_request plugged_two (madvise_fails_at 0) (some ⟨VIRTIO_MEM_REQ_STATE, 0, 1⟩) =
        (plugged_two, some (VIRTIO_MEM_RESP_ERROR, VIRTIO_MEM_STATE_PLUGGED)) :=
  ⟨plugged_two_reachable _,
    (state_request_below_region_wraps (plugged_two_reachable ⟨0x10000000, 0x8000000⟩) (by decide)
      (by decide) 1 (madvise_fails_at 0)).2.2⟩

end KataContainers.Dragonball.VirtioMem
