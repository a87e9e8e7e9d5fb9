import KataContainers.Dragonball.Memory

/-!
# virtio-balloon

Model of the queue handlers of dragonball's virtio-balloon device (`BalloonEpollHandler` in
`dbs_virtio_devices/src/balloon.rs`): what `madvise` and `fallocate` calls `process_queue` issues
for the inflate and deflate queues, and `process_reporting_queue` for free page reporting. The
guest chooses every descriptor and every pfn; the model returns the calls in the order they are
made. The guest memory is what the device asks of it (`BalloonMemory`): reading a pfn, and the
`vm-memory` lookups `find_region` and `get_host_address`, whose documented behaviour the results
take as hypotheses (`BalloonMemory.Lawful`); a `GuestMemoryHybrid` is one such memory.

`process_queue` keeps one `advice` for the whole call and turns it into `MADV_REMOVE` at the first
page of a file-backed region, so every later page gets `MADV_REMOVE` whatever its own region
(`queue_loop_advice`, `queue_loop_after_remove`). `process_reporting_queue` checks only that the
first byte of a reported range is in guest memory and releases `len` bytes of host memory from
there (`reporting_loop_sound`). `balloon_releases_past_region` runs both on a two-region memory.
-/

namespace KataContainers.Dragonball.Balloon

open GuestMemoryHybrid

/-- What the balloon device asks of the guest memory: `read_obj::<u32>` of a pfn, and
`GuestMemory::find_region` and `get_host_address` of the page it names. -/
structure BalloonMemory where
  read_u32 : UInt64 → Option UInt32
  find_region : UInt64 → Option Region
  get_host_address : UInt64 → Option UInt64

/-- The device's view of a `GuestMemoryHybrid`. -/
def BalloonMemory.of_guest_memory (m : GuestMemoryHybrid) : BalloonMemory where
  read_u32 := m.read_u32
  find_region := m.find_region
  get_host_address := m.get_host_address

instance : Coe GuestMemoryHybrid BalloonMemory := ⟨BalloonMemory.of_guest_memory⟩

/-- What `vm-memory` documents of the two lookups: `find_region` returns the region that contains
the address, and `get_host_address` translates the address through that region. -/
structure BalloonMemory.Lawful (mem : BalloonMemory) : Prop where
  find_region_contains : ∀ {g r}, mem.find_region g = some r → r.contains g.toNat
  get_host_address_eq : ∀ {g r}, mem.find_region g = some r →
    mem.get_host_address g = some (r.host + (g - r.start))

/-- A `GuestMemoryHybrid` behaves as documented. -/
theorem BalloonMemory.lawful_of_guest_memory (m : GuestMemoryHybrid) :
    (BalloonMemory.of_guest_memory m).Lawful :=
  ⟨fun h => (find_region_sound h).2, fun h => get_host_address_of_find_region h⟩

def VIRTIO_BALLOON_PFN_SHIFT : UInt64 := 12
def PAGE_SHIFT : UInt64 := 12
def INFLATE_QUEUE_AVAIL_EVENT : UInt32 := 0
def DEFLATE_QUEUE_AVAIL_EVENT : UInt32 := 1

/-- The `madvise` advice values the device uses. -/
inductive Advice
  | MADV_DONTNEED
  | MADV_WILLNEED
  | MADV_REMOVE
  deriving DecidableEq, Repr

/-- A call that releases memory: `madvise(addr, size, advice)`, or
`fallocate(fd, FALLOC_FL_PUNCH_HOLE | FALLOC_FL_KEEP_SIZE, offset, len)`. -/
inductive MemOp
  | madvise (addr : UInt64) (size : Nat) (advice : Advice)
  | fallocate (fd : Nat) (offset len : Int)
  deriving DecidableEq, Repr

/-- The `while offset < avail_desc_len` loop of `process_queue` over the pfns of one descriptor at
`desc_addr`, with `n` pfns left: read a pfn, and if its page starts in a region, `madvise` the page
there, turning the advice into `MADV_REMOVE` first when the region is file-backed. The advice is
carried to the next page. -/
def pfn_loop (m : BalloonMemory) (desc_addr : UInt64) :
    Nat → UInt64 → Advice → List MemOp × Advice
  | 0, _, advice => ([], advice)
  | n + 1, offset, advice =>
    match m.read_u32 (desc_addr + offset) with
    | none => ([], advice)
    | some pfn =>
      let offset := offset + 4
      let guest_addr := pfn.toUInt64 <<< VIRTIO_BALLOON_PFN_SHIFT
      match m.find_region guest_addr with
      | some region =>
        -- `get_host_address(..).unwrap()`: `find_region` has found the region
        let host_addr := (m.get_host_address guest_addr).getD 0
        let advice :=
          if advice = .MADV_DONTNEED ∧ region.file_offset.isSome then .MADV_REMOVE else advice
        let res := pfn_loop m desc_addr n offset advice
        (.madvise host_addr (1 <<< PAGE_SHIFT).toNat advice :: res.1, res.2)
      | none => pfn_loop m desc_addr n offset advice

/-- The loop of `process_queue` over the chains of the queue: only the head descriptor of a chain
is read; a write-only head, or a length that is not a multiple of 4, skips the chain; a chain
without a descriptor ends the call. -/
def queue_loop (m : BalloonMemory) : List (List Descriptor) → Advice → List MemOp
  | [], _ => []
  | [] :: _, _ => []
  | (desc :: _) :: rest, advice =>
    if desc.write_only then queue_loop m rest advice
    else if desc.len.toNat % 4 ≠ 0 then queue_loop m rest advice
    else
      let res := pfn_loop m desc.addr (desc.len.toNat / 4) 0 advice
      res.1 ++ queue_loop m rest res.2

/-- `process_queue(idx)`: the inflate queue starts with `MADV_DONTNEED`, the deflate queue with
`MADV_WILLNEED`. -/
def process_queue (m : BalloonMemory) (idx : UInt32) (chains : List (List Descriptor)) :
    List MemOp :=
  if idx = INFLATE_QUEUE_AVAIL_EVENT then queue_loop m chains .MADV_DONTNEED
  else if idx = DEFLATE_QUEUE_AVAIL_EVENT then queue_loop m chains .MADV_WILLNEED
  else []

/-- The `while let Some(avail_desc)` loop of `process_reporting_queue` over every descriptor of a
chain, with the length reported so far: a range whose first byte is in a region is punched out of
the region's file, or `madvise`d away in anonymous memory. -/
def reporting_loop (m : BalloonMemory) : List Descriptor → UInt32 → List MemOp × UInt32
  | [], len => ([], len)
  | d :: rest, len =>
    if d.len.toNat % 4 ≠ 0 then ([], len)
    else
      let size := d.len
      let len := len + size
      match m.find_region d.addr with
      | some region =>
        match m.get_host_address d.addr with
        | none => ([], len)
        | some host_addr =>
          let op := match region.file_offset with
            | some fo =>
              MemOp.fallocate fo.fd (fo.start.toNat + host_addr.toNat - region.host.toNat) size.toNat
            | none => MemOp.madvise host_addr size.toNat .MADV_DONTNEED
          let res := reporting_loop m rest len
          (op :: res.1, res.2)
      | none => reporting_loop m rest len

/-- `process_reporting_queue`: the calls for every chain, and the used length of each chain. -/
def process_reporting_queue (m : BalloonMemory) :
    List (List Descriptor) → List MemOp × List UInt32
  | [] => ([], [])
  | chain :: rest =>
    let res := reporting_loop m chain 0
    let res' := process_reporting_queue m rest
    (res.1 ++ res'.1, res.2 :: res'.2)

/-! ## The advice a page gets -/

/-- The advice a call that started with `start` may be using: `start` itself, or `MADV_REMOVE`
after a file-backed page of an inflate. -/
def AdviceFrom (start a : Advice) : Prop :=
  a = start ∨ (a = .MADV_REMOVE ∧ start = .MADV_DONTNEED)

/-- A call `process_queue` may make from the advice `start`: a `madvise` of one page whose
guest address is page aligned and lies in the region `find_region` finds for it, at its host
address, with an advice that `AdviceFrom start` allows. -/
def PageRelease (m : BalloonMemory) (start : Advice) (op : MemOp) : Prop :=
  ∃ g r a, m.find_region g = some r ∧ r.contains g.toNat ∧ g.toNat % 4096 = 0 ∧
    op = .madvise (r.host + (g - r.start)) 4096 a ∧ AdviceFrom start a

theorem AdviceFrom.refl (start : Advice) : AdviceFrom start start := .inl rfl

/-- The page step keeps the advice within what `start` allows. -/
theorem AdviceFrom.step {start a : Advice} (h : AdviceFrom start a) (b : Bool) :
    AdviceFrom start (if a = .MADV_DONTNEED ∧ b = true then .MADV_REMOVE else a) := by
  split
  · rename_i hc
    rcases h with rfl | ⟨rfl, _⟩
    · exact .inr ⟨rfl, hc.1⟩
    · exact absurd hc.1 (by decide)
  · exact h

/-- A pfn names a page-aligned guest address. -/
theorem pfn_page_aligned (pfn : UInt32) :
    (pfn.toUInt64 <<< VIRTIO_BALLOON_PFN_SHIFT).toNat % 4096 = 0 := by
  have hlt : pfn.toNat < 2 ^ 32 := pfn.toNat_lt
  have h12 : (2 : Nat) ^ 12 = 4096 := rfl
  rw [UInt64.toNat_shiftLeft, show VIRTIO_BALLOON_PFN_SHIFT.toNat % 64 = 12 from rfl,
    UInt32.toNat_toUInt64, Nat.shiftLeft_eq, h12,
    Nat.mod_eq_of_lt (show pfn.toNat * 4096 < 2 ^ 64 by omega)]
  exact Nat.mul_mod_left _ _

/-- Step and run lemma of the pfn loop: every call is a page release allowed from `start`, and
the advice handed on stays allowed. -/
theorem pfn_loop_sound {m : BalloonMemory} (hm : m.Lawful) (desc_addr : UInt64) {start : Advice} :
    ∀ (n : Nat) (offset : UInt64) {a : Advice}, AdviceFrom start a →
      (∀ op ∈ (pfn_loop m desc_addr n offset a).1, PageRelease m start op) ∧
        AdviceFrom start (pfn_loop m desc_addr n offset a).2 := by
  intro n
  induction n with
  | zero => intro offset a ha; exact ⟨by simp [pfn_loop], ha⟩
  | succ n ih =>
    intro offset a ha
    unfold pfn_loop
    split
    · exact ⟨by simp, ha⟩
    · rename_i pfn _
      dsimp only
      split
      · rename_i region hfind
        have ha' := ha.step region.file_offset.isSome
        obtain ⟨hops, hadv⟩ := ih _ ha'
        refine ⟨?_, hadv⟩
        intro op hop
        rcases List.mem_cons.mp hop with rfl | hop
        · -- the page itself: its region holds it and the host address is its translation
          refine ⟨_, region, _, hfind, hm.find_region_contains hfind, pfn_page_aligned pfn, ?_, ha'⟩
          rw [hm.get_host_address_eq hfind]
          rfl
        · exact hops op hop
      · exact ih _ ha

/-- Run lemma of `queue_loop`: every call of a `process_queue` call that started with `start` is
a page release allowed from `start`. -/
theorem queue_loop_advice {m : BalloonMemory} (hm : m.Lawful) {start : Advice} :
    ∀ {chains : List (List Descriptor)} {a : Advice}, AdviceFrom start a →
      ∀ op ∈ queue_loop m chains a, PageRelease m start op := by
  intro chains
  induction chains with
  | nil => intro a _ op hop; cases hop
  | cons chain rest ih =>
    intro a ha op hop
    match chain with
    | [] => cases hop
    | desc :: _ =>
      simp only [queue_loop] at hop
      split at hop
      · exact ih ha op hop
      · split at hop
        · exact ih ha op hop
        · obtain ⟨hops, hadv⟩ := pfn_loop_sound hm desc.addr (desc.len.toNat / 4) 0 ha
          rcases List.mem_append.mp hop with hop | hop
          · exact hops op hop
          · exact ih hadv op hop

/-- Deflating only ever advises `MADV_WILLNEED`, one page at a time, each at the host address of
a page-aligned guest address in the region `find_region` finds for it. -/
theorem process_queue_deflate (m : BalloonMemory) (hm : m.Lawful) (chains : List (List Descriptor)) :
    ∀ op ∈ process_queue m DEFLATE_QUEUE_AVAIL_EVENT chains,
      ∃ g r, m.find_region g = some r ∧ r.contains g.toNat ∧ g.toNat % 4096 = 0 ∧
        op = .madvise (r.host + (g - r.start)) 4096 .MADV_WILLNEED := by
  intro op hop
  obtain ⟨g, r, a, hr, hc, hpage, rfl, ha⟩ := queue_loop_advice hm (AdviceFrom.refl _) op hop
  rcases ha with rfl | ⟨-, h⟩
  · exact ⟨g, r, hr, hc, hpage, rfl⟩
  · cases h

/-- Once the advice has become `MADV_REMOVE`, every later page is advised `MADV_REMOVE`, whether
its region is file-backed or anonymous. -/
theorem queue_loop_after_remove (m : BalloonMemory) (hm : m.Lawful) (chains : List (List Descriptor)) :
    ∀ op ∈ queue_loop m chains .MADV_REMOVE, ∃ h, op = .madvise h 4096 .MADV_REMOVE := by
  intro op hop
  obtain ⟨g, r, a, -, -, -, rfl, ha⟩ := queue_loop_advice hm (AdviceFrom.refl _) op hop
  rcases ha with rfl | ⟨-, h⟩
  · exact ⟨_, rfl⟩
  · cases h

/-! ## Reported ranges -/

/-- Every call of the reporting loop releases `len` bytes from the host address of a descriptor
whose first byte lies in a region: by `madvise` in anonymous memory, by `fallocate` at the
matching file offset in a file-backed region. Nothing bounds the end of the range. -/
theorem reporting_loop_sound {m : BalloonMemory} (hm : m.Lawful) :
    ∀ {descs : List Descriptor} {len : UInt32}, ∀ op ∈ (reporting_loop m descs len).1,
      ∃ d ∈ descs, ∃ r, m.find_region d.addr = some r ∧ r.contains d.addr.toNat ∧
        (r.file_offset = none ∧ op = .madvise (r.host + (d.addr - r.start)) d.len.toNat .MADV_DONTNEED ∨
          ∃ fo, r.file_offset = some fo ∧
            op = .fallocate fo.fd (fo.start.toNat + (r.host + (d.addr - r.start)).toNat - r.host.toNat)
              d.len.toNat) := by
  intro descs
  induction descs with
  | nil => intro len op hop; cases hop
  | cons d rest ih =>
    intro len op hop
    unfold reporting_loop at hop
    split at hop
    · cases hop
    · split at hop
      · rename_i region hfind
        rw [hm.get_host_address_eq hfind] at hop
        rcases List.mem_cons.mp hop with rfl | hop
        · refine ⟨d, List.mem_cons_self, region, hfind, hm.find_region_contains hfind, ?_⟩
          cases hfo : region.file_offset with
          | none => exact .inl ⟨rfl, rfl⟩
          | some fo => exact .inr ⟨fo, rfl, rfl⟩
        · obtain ⟨d', hd', rest'⟩ := ih op hop
          exact ⟨d', List.mem_cons_of_mem _ hd', rest'⟩
      · obtain ⟨d', hd', rest'⟩ := ih op hop
        exact ⟨d', List.mem_cons_of_mem _ hd', rest'⟩

/-! ## A two-region guest -/

/-- A guest of two regions: `[0, 0x1000)` backed by the file 3 at host `0x100000`, and
`[0x1000, 0x3000)` anonymous at host `0x200000`; the word at `0x2004` is 1. -/
def two_region_memory : GuestMemoryHybrid where
  regions := [⟨0, 0x1000, 0x100000, some ⟨3, 0⟩⟩, ⟨0x1000, 0x2000, 0x200000, none⟩]
  nonempty := by decide
  valid := by decide
  sorted := by decide
  bytes a := if a = 0x2004 then 1 else 0

/-- On `two_region_memory`, inflating the pfns 0 (file-backed) and 1 (anonymous) advises both
pages `MADV_REMOVE`; and reporting `[0x2800, 0x3800)`, which runs past the end of guest memory,
`madvise`s `0x1000` bytes from host `0x201800`, past the end of the region's host mapping at
`0x202000`. -/
theorem balloon_releases_past_region :
    process_queue two_region_memory INFLATE_QUEUE_AVAIL_EVENT [[⟨0x2000, 8, false, false⟩]] =
        [.madvise 0x100000 4096 .MADV_REMOVE, .madvise 0x200000 4096 .MADV_REMOVE] ∧
      two_region_memory.find_region 0x1000 = some ⟨0x1000, 0x2000, 0x200000, none⟩ ∧
      (process_reporting_queue two_region_memory [[⟨0x2800, 0x1000, true, false⟩]]).1 =
        [.madvise 0x201800 0x1000 .MADV_DONTNEED] ∧
      two_region_memory.host_range 0x2800 0x1000 = none := by
  decide

/-- On `two_region_memory`, deflating the pfns 0 and 1 advises the page of pfn 1 at host
`0x200000`. -/
theorem process_queue_deflate_two_region :
    (BalloonMemory.of_guest_memory two_region_memory).Lawful ∧
      MemOp.madvise 0x200000 4096 .MADV_WILLNEED ∈
        process_queue two_region_memory DEFLATE_QUEUE_AVAIL_EVENT [[⟨0x2000, 8, false, false⟩]] ∧
      ∃ g r, two_region_memory.find_region g = some r ∧ r.contains g.toNat ∧ g.toNat % 4096 = 0 ∧
        MemOp.madvise 0x200000 4096 .MADV_WILLNEED =
          .madvise (r.host + (g - r.start)) 4096 .MADV_WILLNEED := by
  have hm := BalloonMemory.lawful_of_guest_memory two_region_memory
  have hmem : MemOp.madvise 0x200000 4096 .MADV_WILLNEED ∈
      process_queue two_region_memory DEFLATE_QUEUE_AVAIL_EVENT [[⟨0x2000, 8, false, false⟩]] := by
    decide
  exact ⟨hm, hmem, process_queue_deflate _ hm _ _ hmem⟩

end KataContainers.Dragonball.Balloon
