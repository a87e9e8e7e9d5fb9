import KataContainers.Dragonball.Memory

/-!
# virtio-blk requests

Model of the request path of dragonball's virtio-blk device (`dbs_virtio_devices/src/block`):
`Request::parse` with `check_request`, `Request::check_capacity`, `Request::execute`,
`Request::data_len`, and the handling of one descriptor chain in `process_queue`, which tries
`process_aio_request` first and falls back to `process_request` (`execute`) when the I/O engine
does not take the submission. Completion of a submitted request (`io_complete`) is folded into the
same step, with the engine's result as a parameter.

The guest memory is the `vm-memory` crate and the disk is a `Ufile` behind a trait object; the
model takes what the device asks of them as parameters (`BlockMemory`, `Disk`), and records the
disk I/O the device issues as a list of byte ranges.

`check_capacity` bounds each data descriptor by itself, `sector << SECTOR_SHIFT` drops high bits,
and the I/O is issued once for all descriptors from the shifted offset: two descriptors of one
sector at the last sector of a two-sector disk write past its end (`process_chain_writes_past_capacity`).
-/

namespace KataContainers.Dragonball.Block

def SECTOR_SHIFT : UInt64 := 9
def SECTOR_SIZE : UInt64 := 1 <<< SECTOR_SHIFT

def VIRTIO_BLK_S_OK : UInt32 := 0
def VIRTIO_BLK_S_IOERR : UInt32 := 1
def VIRTIO_BLK_S_UNSUPP : UInt32 := 2

inductive RequestType
  | In
  | Out
  | Flush
  | GetDeviceID
  | Unsupported (t : UInt32)
  deriving DecidableEq, Repr

/-- `RequestType::from(u32)` on `VIRTIO_BLK_T_IN`, `_OUT`, `_FLUSH` and `_GET_ID`. -/
def RequestType.from_u32 : UInt32 → RequestType
  | 0 => .In
  | 1 => .Out
  | 4 => .Flush
  | 8 => .GetDeviceID
  | t => .Unsupported t

/-- The `crate::Error`s of the request path. -/
inductive Error
  | DescriptorChainTooShort
  | DescriptorLengthTooSmall
  | DescriptorLengthTooBig
  | UnexpectedWriteOnlyDescriptor
  | UnexpectedReadOnlyDescriptor
  | InvalidOffset
  | GuestMemory
  | InvalidGuestAddress (addr : UInt64)
  deriving DecidableEq, Repr

inductive ExecuteError
  | BadRequest (e : Error)
  | Flush
  | Read
  | Seek
  | Write
  | GetDeviceID
  | Unsupported (t : UInt32)
  deriving DecidableEq, Repr

structure Request where
  request_type : RequestType
  sector : UInt64
  status_addr : UInt64
  request_index : UInt16
  deriving DecidableEq, Repr

/-- `IoDataDesc`: a data descriptor's guest address and its length as a `usize`. -/
structure IoDataDesc where
  data_addr : UInt64
  data_len : Nat
  deriving DecidableEq, Repr

/-- What the block device asks of the guest memory. -/
structure BlockMemory where
  /-- `RequestHeader::read_from`: the request type and the sector at an address. -/
  read_header : UInt64 → Option (UInt32 × UInt64)
  /-- `GuestMemory::address_in_range`. -/
  address_in_range : UInt64 → Bool
  /-- `GuestMemory::get_host_address`. -/
  get_host_address : UInt64 → Option UInt64
  /-- Whether `read_from`, `write_to` or `write_slice` succeed on a guest range. -/
  access_ok : UInt64 → Nat → Bool

/-- The device's view of a `GuestMemoryHybrid`: `RequestHeader::read_from` reads the 16 bytes of
the header (type, reserved word, sector); a transfer succeeds when its whole range is in guest
memory. -/
def BlockMemory.of_guest_memory (m : GuestMemoryHybrid) : BlockMemory where
  read_header a := do
    let _ ← m.read_bytes a 16
    let request_type ← m.read_u32 a
    let sector ← m.read_u64 (a + 8)
    pure (request_type, sector)
  address_in_range := m.address_in_range
  get_host_address := m.get_host_address
  access_ok a n := (m.read_bytes a n).isSome

/-- The `Ufile` behind the device: its capacity in bytes and `get_max_size`. -/
structure Disk where
  capacity : UInt64
  max_size : UInt32

/-- A disk access the device issues: a read or a write of a byte range, or a flush. -/
inductive DiskOp
  | read (offset len : Nat)
  | write (offset len : Nat)
  | flush
  deriving DecidableEq, Repr

/-- The disk accesses of reading (`read`) or writing the buffers one after the other from the disk
position `pos`, as a vectored `preadv`/`pwritev` does and as the loop of `execute` does with
the file position: each buffer takes the range after the previous one's. -/
def vectored (read : Bool) : Nat → List IoDataDesc → List DiskOp
  | _, [] => []
  | pos, io :: rest =>
    (if read then .read pos io.data_len else .write pos io.data_len) ::
      vectored read (pos + io.data_len) rest

/-- A data length rounded up to whole sectors, as `check_capacity` computes it. -/
def round_up (len : Nat) : UInt64 :=
  (UInt64.ofNat len + SECTOR_SIZE - 1) &&& ~~~(SECTOR_SIZE - 1)

namespace Request

/-- `Request::check_request(desc, max_size)`. -/
def check_request (self : Request) (desc : Descriptor) (max_size : UInt32) : Except Error Unit :=
  match self.request_type with
  | .Out =>
    if desc.write_only then .error .UnexpectedWriteOnlyDescriptor
    else if desc.len > max_size then .error .DescriptorLengthTooBig
    else .ok ()
  | .In =>
    if !desc.write_only then .error .UnexpectedReadOnlyDescriptor
    else if desc.len > max_size then .error .DescriptorLengthTooBig
    else .ok ()
  | .GetDeviceID => if !desc.write_only then .error .UnexpectedReadOnlyDescriptor else .ok ()
  | _ => .ok ()

/-- The `while desc.has_next()` loop of `parse`: the data descriptors and the status descriptor. -/
def parse_data (self : Request) (max_size : UInt32) :
    Descriptor → List Descriptor → Except Error (List IoDataDesc × Descriptor)
  | desc, rest =>
    if desc.has_next then do
      self.check_request desc max_size
      match rest with
      | [] => .error .DescriptorChainTooShort
      | next :: rest =>
        let (descs, status) ← parse_data self max_size next rest
        pure (⟨desc.addr, desc.len.toNat⟩ :: descs, status)
    else pure ([], desc)

/-- The check of one data descriptor in `check_capacity`: its sectors, placed at
`sector << SECTOR_SHIFT` (`checked_add`), end within the disk. -/
def check_desc (self : Request) (disk : Disk) (d : IoDataDesc) : Except ExecuteError Unit := do
  let off := self.sector <<< SECTOR_SHIFT
  if (round_up d.data_len).toNat + off.toNat ≥ 2 ^ 64 then throw (.BadRequest .InvalidOffset)
  if round_up d.data_len + off > disk.capacity then throw (.BadRequest .InvalidOffset)

/-- `Request::check_capacity`: each data descriptor by itself must fit. -/
def check_capacity (self : Request) (disk : Disk) (data_descs : List IoDataDesc) :
    Except ExecuteError Unit :=
  data_descs.forM (self.check_desc disk)

/-- `Request::data_len`: the total length, truncated to `u32`. -/
def data_len (data_descs : List IoDataDesc) : UInt32 :=
  UInt32.ofNat (data_descs.map IoDataDesc.data_len).sum

/-- The loop of `execute` from the disk position `pos`, with the length read so far. -/
def execute_descs (self : Request) (mem : BlockMemory) (disk_id : List UInt8) :
    Nat → Nat → List IoDataDesc → Except ExecuteError UInt32 × List DiskOp
  | _, len, [] => (.ok (UInt32.ofNat len), [])
  | pos, len, io :: rest =>
    match self.request_type with
    | .In =>
      if mem.access_ok io.data_addr io.data_len then
        let res := execute_descs self mem disk_id (pos + io.data_len) (len + io.data_len) rest
        (res.1, .read pos io.data_len :: res.2)
      else (.error .Read, [])
    | .Out =>
      if mem.access_ok io.data_addr io.data_len then
        let res := execute_descs self mem disk_id (pos + io.data_len) len rest
        (res.1, .write pos io.data_len :: res.2)
      else (.error .Write, [])
    | .Flush =>
      let res := execute_descs self mem disk_id pos len rest
      (res.1, .flush :: res.2)
    | .GetDeviceID =>
      if io.data_len < disk_id.length then (.error (.BadRequest .InvalidOffset), [])
      else if mem.access_ok io.data_addr disk_id.length then (.ok (UInt32.ofNat disk_id.length), [])
      else (.error .GetDeviceID, [])
    | .Unsupported t => (.error (.Unsupported t), [])

/-- `Request::execute`: `check_capacity`, seek to `sector << SECTOR_SHIFT`, then the loop. -/
def execute (self : Request) (disk : Disk) (mem : BlockMemory) (data_descs : List IoDataDesc)
    (disk_id : List UInt8) : Except ExecuteError UInt32 × List DiskOp :=
  match self.check_capacity disk data_descs with
  | .error e => (.error e, [])
  | .ok () =>
    let pos := self.sector <<< SECTOR_SHIFT
    -- `SeekFrom::Start` beyond `i64::MAX` is refused by `lseek`
    if pos.toNat ≥ 2 ^ 63 then (.error .Seek, [])
    else self.execute_descs mem disk_id pos.toNat 0 data_descs

end Request

/-- `Request::parse` on the descriptors of a chain with head index `head_index`. -/
def parse (chain : List Descriptor) (head_index : UInt16) (mem : BlockMemory) (max_size : UInt32) :
    Except Error (Request × List IoDataDesc) := do
  let desc :: rest := chain | throw .DescriptorChainTooShort
  if desc.write_only then throw .UnexpectedWriteOnlyDescriptor
  let some (request_type, sector) := mem.read_header desc.addr | throw .GuestMemory
  let req : Request :=
    { request_type := .from_u32 request_type, sector, status_addr := 0, request_index := head_index }
  let desc :: rest := rest | throw .DescriptorChainTooShort
  let (data_descs, status_desc) ←
    if !desc.has_next then
      -- only flush requests may skip the data descriptor
      if req.request_type ≠ .Flush then throw .DescriptorChainTooShort
      else pure ([], desc)
    else req.parse_data max_size desc rest
  if !status_desc.write_only then throw .UnexpectedReadOnlyDescriptor
  if status_desc.len < 1 then throw .DescriptorLengthTooSmall
  if !mem.address_in_range status_desc.addr then throw (.InvalidGuestAddress status_desc.addr)
  pure ({ req with status_addr := status_desc.addr }, data_descs)

/-- The status `process_request` writes for an `execute` error. -/
def ExecuteError.status : ExecuteError → UInt32
  | .Unsupported _ => VIRTIO_BLK_S_UNSUPP
  | _ => VIRTIO_BLK_S_IOERR

/-- The host iovecs of `process_aio_request`: each data descriptor's host start address, from
`get_host_address`, with its length. -/
def aio_iovecs (mem : BlockMemory) : List IoDataDesc → Except ExecuteError (List IoDataDesc)
  | [] => pure []
  | io :: rest => do
    let some host_addr := mem.get_host_address io.data_addr | throw (.BadRequest .GuestMemory)
    let iovecs ← aio_iovecs mem rest
    pure (⟨host_addr, io.data_len⟩ :: iovecs)

/-- `process_aio_request`: `none` when the request is not read or write, or the engine refuses
the submission (the caller then runs it synchronously); otherwise the host iovecs submitted and
the disk ranges they go to from `(sector << SECTOR_SHIFT) as i64`, or the error. -/
def process_aio_request (req : Request) (data_descs : List IoDataDesc) (disk : Disk)
    (mem : BlockMemory) (accepts : Bool) :
    Except ExecuteError (Option (List IoDataDesc × List DiskOp)) := do
  if req.request_type ≠ .In ∧ req.request_type ≠ .Out then return none
  req.check_capacity disk data_descs
  let iovecs ← aio_iovecs mem data_descs
  if !accepts then return none
  return some (iovecs, vectored (req.request_type = .In) (req.sector <<< SECTOR_SHIFT).toNat data_descs)

/-- What the device does with one descriptor chain: the disk accesses it issues, the status it
writes to the guest (`none` when the chain does not parse), the length it puts in the used ring,
and the host iovecs it hands to the I/O engine. -/
structure ChainOutcome where
  disk : List DiskOp
  status : Option UInt32
  used_len : UInt32
  iovecs : List IoDataDesc
  deriving DecidableEq, Repr

/-- One chain of `process_queue`, with the I/O engine's acceptance of a submission and its
completion status (`io_complete`) as parameters. -/
def process_chain (chain : List Descriptor) (head_index : UInt16) (mem : BlockMemory) (disk : Disk)
    (disk_id : List UInt8) (accepts : Bool) (aio_status : UInt32) : ChainOutcome :=
  match parse chain head_index mem disk.max_size with
  | .error _ => ⟨[], none, 0, []⟩
  | .ok (req, data_descs) =>
    match process_aio_request req data_descs disk mem accepts with
    | .error _ => ⟨[], some VIRTIO_BLK_S_IOERR, 0, []⟩
    | .ok (some (iovecs, ops)) =>
      ⟨ops, some aio_status, if req.request_type = .In then Request.data_len data_descs else 0,
        iovecs⟩
    | .ok none =>
      match req.execute disk mem data_descs disk_id with
      | (.ok l, ops) => ⟨ops, some VIRTIO_BLK_S_OK, l, []⟩
      | (.error e, ops) => ⟨ops, some e.status, 0, []⟩

/-! ## Where the disk accesses fall -/

/-- The disk accesses a request may make from the disk position `pos`: for a read or a write, the
first ranges of its data descriptors placed one after the other; for a flush, flushes. -/
def Request.accesses (req : Request) (pos : Nat) (descs : List IoDataDesc) (ops : List DiskOp) :
    Prop :=
  ((req.request_type = .In ∨ req.request_type = .Out) ∧
      ops <+: vectored (req.request_type = .In) pos descs) ∨
    (req.request_type = .Flush ∧ ∀ op ∈ ops, op = .flush)

/-- The ranges of a vectored access lie between its start and its start plus the total length. -/
theorem vectored_bounds {read : Bool} {pos : Nat} {descs : List IoDataDesc} {op : DiskOp}
    (h : op ∈ vectored read pos descs) :
    ∃ o l, (op = .read o l ∨ op = .write o l) ∧ pos ≤ o ∧
      o + l ≤ pos + (descs.map IoDataDesc.data_len).sum := by
  induction descs generalizing pos with
  | nil => cases h
  | cons io rest ih =>
    rcases List.mem_cons.mp h with rfl | h
    · refine ⟨pos, io.data_len, ?_, Nat.le_refl pos, ?_⟩
      · cases read <;> simp
      · simp
    · obtain ⟨o, l, hop, hlo, hhi⟩ := ih h
      refine ⟨o, l, hop, by omega, ?_⟩
      simp only [List.map_cons, List.sum_cons]
      omega

namespace Request

variable {req : Request} {disk : Disk} {mem : BlockMemory} {disk_id : List UInt8}

/-- `check_capacity` passes exactly when every data descriptor passes on its own. -/
theorem check_capacity_ok_iff {descs : List IoDataDesc} :
    req.check_capacity disk descs = .ok () ↔ ∀ d ∈ descs, req.check_desc disk d = .ok () :=
  Except.forM_eq_ok_iff

theorem check_desc_ok_iff {d : IoDataDesc} :
    req.check_desc disk d = .ok () ↔
      (round_up d.data_len).toNat + (req.sector <<< SECTOR_SHIFT).toNat < 2 ^ 64 ∧
        round_up d.data_len + req.sector <<< SECTOR_SHIFT ≤ disk.capacity := by
  unfold check_desc
  by_cases h1 : (round_up d.data_len).toNat + (req.sector <<< SECTOR_SHIFT).toNat ≥ 2 ^ 64
  · simp only [h1, if_true, Except.throw_eq_error, Except.error_bind_eq]
    exact ⟨fun h => (nomatch h), fun h => absurd h.1 (Nat.not_lt.mpr h1)⟩
  · by_cases h2 : round_up d.data_len + req.sector <<< SECTOR_SHIFT > disk.capacity
    · simp only [h1, h2, if_true, if_false, Except.throw_eq_error]
      exact ⟨fun h => (nomatch h), fun h => absurd h.2 (UInt64.not_le.mpr h2)⟩
    · simp only [h1, h2, if_false, Except.pure_eq_ok, true_iff]
      exact ⟨Nat.lt_of_not_ge h1, UInt64.not_lt.mp h2⟩

/-- The loop of `execute` for a read or a write makes the ranges of `vectored` in order, up to
the first guest access that fails. -/
theorem execute_descs_prefix {pos len : Nat} {descs : List IoDataDesc}
    (ht : req.request_type = .In ∨ req.request_type = .Out) :
    (req.execute_descs mem disk_id pos len descs).2 <+: vectored (req.request_type = .In) pos descs := by
  induction descs generalizing pos len with
  | nil => simp [execute_descs]
  | cons io rest ih =>
    rcases ht with ht | ht
    · simp only [ht, decide_true] at ih ⊢
      simp only [execute_descs, ht]
      split
      · simp only [vectored, if_true]
        exact (List.prefix_cons_inj _).mpr ih
      · exact List.nil_prefix
    · simp only [ht, decide_false, reduceCtorEq] at ih ⊢
      simp only [execute_descs, ht]
      split
      · simp only [vectored, Bool.false_eq_true, if_false]
        exact (List.prefix_cons_inj _).mpr ih
      · exact List.nil_prefix

/-- The loop of `execute` for a flush only flushes. -/
theorem execute_descs_flush {pos len : Nat} {descs : List IoDataDesc}
    (ht : req.request_type = .Flush) :
    ∀ op ∈ (req.execute_descs mem disk_id pos len descs).2, op = .flush := by
  induction descs generalizing pos len with
  | nil => simp [execute_descs]
  | cons io rest ih =>
    simp only [execute_descs, ht, List.mem_cons, forall_eq_or_imp, true_and]
    exact ih

/-- The loop of `execute` makes no disk access, or the accesses of its request from `pos`. -/
theorem execute_descs_accesses {pos len : Nat} {descs : List IoDataDesc} :
    (req.execute_descs mem disk_id pos len descs).2 = [] ∨
      req.accesses pos descs (req.execute_descs mem disk_id pos len descs).2 := by
  -- one case per request type, as the loop's `match`
  cases ht : req.request_type with
  | In => exact .inr (.inl ⟨.inl ht, execute_descs_prefix (.inl ht)⟩)
  | Out => exact .inr (.inl ⟨.inr ht, execute_descs_prefix (.inr ht)⟩)
  | Flush => exact .inr (.inr ⟨ht, execute_descs_flush ht⟩)
  | GetDeviceID =>
    left
    cases descs with
    | nil => rfl
    | cons io rest => simp only [execute_descs, ht]; split <;> (try split) <;> rfl
  | Unsupported t =>
    left
    cases descs with
    | nil => rfl
    | cons io rest => simp only [execute_descs, ht]

/-- `execute` touches the disk only once `check_capacity` has passed, and then with the accesses
of its request from `sector << SECTOR_SHIFT`. -/
theorem execute_accesses {descs : List IoDataDesc} (h : (req.execute disk mem descs disk_id).2 ≠ []) :
    req.check_capacity disk descs = .ok () ∧
      req.accesses (req.sector <<< SECTOR_SHIFT).toNat descs (req.execute disk mem descs disk_id).2 := by
  unfold execute at h ⊢
  cases hc : req.check_capacity disk descs with
  | error e => simp [hc] at h
  | ok u =>
    refine ⟨rfl, ?_⟩
    simp only [hc] at h ⊢
    split at h
    · exact absurd rfl h
    · rename_i hseek
      simp only [hseek, if_false]
      exact execute_descs_accesses.resolve_left h

end Request

/-- A submission to the I/O engine is a read or a write that passed `check_capacity`, with the
ranges of its data descriptors from `sector << SECTOR_SHIFT`. -/
theorem process_aio_request_submits {req : Request} {descs : List IoDataDesc} {disk : Disk}
    {mem : BlockMemory} {accepts : Bool} {iovecs : List IoDataDesc} {ops : List DiskOp}
    (h : process_aio_request req descs disk mem accepts = .ok (some (iovecs, ops))) :
    req.check_capacity disk descs = .ok () ∧
      (req.request_type = .In ∨ req.request_type = .Out) ∧
      aio_iovecs mem descs = .ok iovecs ∧
      ops = vectored (req.request_type = .In) (req.sector <<< SECTOR_SHIFT).toNat descs := by
  unfold process_aio_request at h
  by_cases ht : req.request_type ≠ .In ∧ req.request_type ≠ .Out
  · simp [ht] at h
  · rw [if_neg ht] at h
    obtain ⟨u, hc, h⟩ := Except.bind_eq_ok_iff.mp h
    obtain ⟨v, hv, h⟩ := Except.bind_eq_ok_iff.mp h
    cases accepts with
    | false => simp at h
    | true =>
      simp only [Bool.not_true, Bool.false_eq_true, if_false, Except.pure_eq_ok,
        Except.ok.injEq, Option.some.injEq, Prod.mk.injEq] at h
      obtain ⟨rfl, rfl⟩ := h
      exact ⟨hc, Decidable.or_iff_not_not_and_not.mpr ht, hv, rfl⟩

/-- The disk accesses of the synchronous path, from the pair `execute` returns. -/
theorem execute_disk {req : Request} {disk : Disk} {mem : BlockMemory} {descs : List IoDataDesc}
    {disk_id : List UInt8} {r : Except ExecuteError UInt32} {ops : List DiskOp}
    (he : req.execute disk mem descs disk_id = (r, ops)) :
    ops = [] ∨ req.check_capacity disk descs = .ok () ∧
      req.accesses (req.sector <<< SECTOR_SHIFT).toNat descs ops := by
  by_cases hops : ops = []
  · exact .inl hops
  · have hne : (req.execute disk mem descs disk_id).2 ≠ [] := by rw [he]; exact hops
    have hacc := Request.execute_accesses hne
    rw [he] at hacc
    exact .inr hacc

/-- Whatever chain the guest places, the device touches the disk only for a chain that parses and
whose request passes `check_capacity`, and then with the accesses of that request from
`sector << SECTOR_SHIFT`, on the AIO path as on the synchronous one. -/
theorem process_chain_accesses (chain : List Descriptor) (head_index : UInt16) (mem : BlockMemory)
    (disk : Disk) (disk_id : List UInt8) (accepts : Bool) (aio_status : UInt32) :
    (process_chain chain head_index mem disk disk_id accepts aio_status).disk = [] ∨
      ∃ req descs, parse chain head_index mem disk.max_size = .ok (req, descs) ∧
        req.check_capacity disk descs = .ok () ∧
        req.accesses (req.sector <<< SECTOR_SHIFT).toNat descs
          (process_chain chain head_index mem disk disk_id accepts aio_status).disk := by
  unfold process_chain
  split
  · exact .inl rfl
  · rename_i req descs hp
    -- the AIO path first, then the synchronous fallback
    split
    · exact .inl rfl
    · rename_i iovecs ops ha
      obtain ⟨hc, ht, -, rfl⟩ := process_aio_request_submits ha
      exact .inr ⟨req, descs, hp, hc, .inl ⟨ht, List.prefix_refl _⟩⟩
    · split <;>
      · rename_i he
        rcases execute_disk he with h | ⟨hc, hacc⟩
        · exact .inl h
        · exact .inr ⟨req, descs, hp, hc, hacc⟩

/-- A guest memory whose request header at `0x1000` holds `(type, sector)` and in which every
access succeeds. -/
def header_memory (type : UInt32) (sector : UInt64) : BlockMemory where
  read_header a := if a = 0x1000 then some (type, sector) else none
  address_in_range _ := true
  get_host_address a := some a
  access_ok _ _ := true

/-- A chain of a header, readable data descriptors of the given lengths and a status byte. -/
def write_chain (lens : List UInt32) : List Descriptor :=
  ⟨0x1000, 16, false, true⟩ :: lens.map (fun l => ⟨0x2000, l, false, true⟩) ++
    [⟨0x3000, 1, true, false⟩]

/-- A disk of two sectors. -/
def two_sector_disk : Disk := ⟨1024, 0x100000⟩

/-- On a disk of 1024 bytes, a write of two 512-byte descriptors at sector 1 passes
`check_capacity` and writes `[1024, 1536)`, past the end, on the AIO path and on the synchronous
one, and completes with `VIRTIO_BLK_S_OK`; a write at sector `2^55`, whose byte offset does not fit
in 64 bits, writes at offset 0. -/
theorem process_chain_writes_past_capacity :
    (∀ accepts, (process_chain (write_chain [512, 512]) 0 (header_memory 1 1) two_sector_disk []
        accepts VIRTIO_BLK_S_OK).disk = [.write 512 512, .write 1024 512] ∧
      (process_chain (write_chain [512, 512]) 0 (header_memory 1 1) two_sector_disk []
        accepts VIRTIO_BLK_S_OK).status = some VIRTIO_BLK_S_OK) ∧
    1024 + 512 > two_sector_disk.capacity.toNat ∧
    (∀ accepts, (process_chain (write_chain [512]) 0 (header_memory 1 (2 ^ 55)) two_sector_disk []
        accepts VIRTIO_BLK_S_OK).disk = [.write 0 512]) ∧
    2 ^ 55 * 512 ≥ 2 ^ 64 := by
  decide

end KataContainers.Dragonball.Block
