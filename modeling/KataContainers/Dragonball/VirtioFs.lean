import KataContainers.Lib.Checked
import KataContainers.Lib.Transition

/-!
# The DAX window of virtio-fs

Model of `CacheHandler` in `src/dragonball/src/dbs_virtio_devices/src/fs/handler.rs`, which serves
the guest's `FUSE_SETUPMAPPING` and `FUSE_REMOVEMAPPING` requests by remapping pages of the DAX
window, a host range of `cache_size` bytes at `mmap_cache_addr` that `register_mmap_region`
reserves with a `PROT_NONE` mapping. `map` maps a file there read-only with
`mmap(.., MAP_SHARED | MAP_FIXED, ..)`; `unmap` puts a `PROT_NONE` anonymous mapping back.

The host address space is `Space`: what maps each address. `mmap_fixed` is Linux's `mmap` with
`MAP_FIXED`: `EINVAL` for a zero length or an address off a page boundary, the length rounded up
to whole pages, and any other failure of the kernel chosen by the caller of the model. The
arithmetic is that of a build with overflow checks: `none` is a panic.

* `dax_window_map_escapes`: `map` computes `mmap_cache_addr + moffset` before it checks the request,
  so a guest `moffset` near `u64::MAX` panics the VMM; and when `cache_size` is not a multiple of
  the page size, a request that passes the check maps the page that holds the end of the window,
  past `mmap_cache_addr + cache_size`.
* `Reachable.inv`: over every run of requests, whatever the kernel answers, the space outside the
  window rounded up to pages is never changed, and every address of that rounded window stays
  mapped, `PROT_NONE` and anonymous or `PROT_READ` from a file.
-/

namespace KataContainers.Dragonball.VirtioFs

/-- The page size of the host. -/
def PAGE_SIZE : Nat := 4096

/-- `len` rounded up to whole pages, as `mmap` takes it. -/
def page_align (len : Nat) : Nat := (len + PAGE_SIZE - 1) / PAGE_SIZE * PAGE_SIZE

/-- `libc::EINVAL`. -/
def EINVAL : Int := 22

/-- The protections the handler maps with. -/
inductive Prot
  | NONE
  | READ
deriving DecidableEq, Repr

/-- What backs a mapped address: anonymous memory, or a file at an offset. -/
inductive Backing
  | anonymous
  | file (fd : Int) (offset : Nat)
deriving DecidableEq, Repr

structure Mapping where
  prot : Prot
  backing : Backing
deriving DecidableEq, Repr

/-- The host's virtual address space: the mapping of each address, if any. -/
abbrev Space := Nat → Option Mapping

/-- `mmap(addr, len, prot, flags | MAP_FIXED, fd, off)` on Linux: a zero length or an address off
a page boundary is `EINVAL`; any other failure of the kernel (a bad descriptor, an offset it
rejects, no memory) is `fails`. Each fails with the space as it was. Otherwise every address of
the range rounded up to pages is replaced by `m` of its offset in the range. -/
def mmap_fixed (space : Space) (addr len : Nat) (m : Nat → Mapping) (fails : Option Int) :
    Space × Except Int Unit :=
  if len = 0 ∨ addr % PAGE_SIZE ≠ 0 then (space, .error EINVAL)
  else match fails with
    | some errno => (space, .error errno)
    | none =>
      (fun a => if addr ≤ a ∧ a < addr + page_align len then some (m (a - addr)) else space a,
        .ok ())

/-- `CacheHandler`: the size and the host address of the DAX window. -/
structure CacheHandler where
  cache_size : UInt64
  mmap_cache_addr : UInt64
deriving DecidableEq, Repr

/-- `is_req_valid`: the request ends within the window. -/
def CacheHandler.is_req_valid (self : CacheHandler) (offset len : UInt64) : Bool :=
  match Checked.add offset len with
  | some n => n ≤ self.cache_size
  | none => false

/-- `FsCacheReqHandler::map`: the space after the call and its result; `fails` is what the
kernel answers to the `mmap`. -/
def CacheHandler.map (self : CacheHandler) (space : Space) (foffset moffset len : UInt64)
    (fd : Int) (fails : Option Int) : Option (Space × Except Int Unit) := do
  let addr ← Checked.add self.mmap_cache_addr moffset
  if !self.is_req_valid moffset len then return (space, .error EINVAL)
  return mmap_fixed space addr.toNat len.toNat
    (fun off => ⟨.READ, .file fd (foffset.toNat + off)⟩) fails

/-- One range of a `FUSE_REMOVEMAPPING` request. -/
structure RemovemappingOne where
  moffset : UInt64
  len : UInt64
deriving DecidableEq, Repr

/-- `FsCacheReqHandler::unmap`: the space after the call and its result; `kernel` holds what the
kernel answers to each `mmap` in turn, success once it runs out. -/
def CacheHandler.unmap (self : CacheHandler) :
    Space → List (Option Int) → List RemovemappingOne → Option (Space × Except Int Unit)
  | space, _, [] => some (space, .ok ())
  | space, kernel, req :: requests =>
    -- Ignore if the length is 0.
    if req.len = 0 then self.unmap space kernel requests
    else
      -- the slave asks for the unmapping of the entire mapping
      let (offset, len) :=
        if req.len = 0xffffffffffffffff then ((0 : UInt64), self.cache_size)
        else (req.moffset, req.len)
      if !self.is_req_valid offset len then some (space, .error EINVAL)
      else do
        let addr ← Checked.add self.mmap_cache_addr offset
        match mmap_fixed space addr.toNat len.toNat (fun _ => ⟨.NONE, .anonymous⟩)
            kernel.head?.join with
        | (space, .error e) => some (space, .error e)
        | (space, .ok ()) => self.unmap space kernel.tail requests

/-! ## Runs of requests -/

/-- A request of the guest. -/
inductive Request
  | setupmapping (foffset moffset len : UInt64) (fd : Int)
  | removemapping (requests : List RemovemappingOne)

/-- The space after a request, given the kernel's answers to its `mmap`s. A panic aborts the VMM
and changes no mapping. -/
def CacheHandler.handle (self : CacheHandler) (space : Space) :
    Request × List (Option Int) → Space
  | (.setupmapping foffset moffset len fd, kernel) =>
    match self.map space foffset moffset len fd kernel.head?.join with
    | some (space, _) => space
    | none => space
  | (.removemapping requests, kernel) =>
    match self.unmap space kernel requests with
    | some (space, _) => space
    | none => space

/-! ## Pages and valid requests -/

theorem le_page_align (len : Nat) : len ≤ page_align len := by
  unfold page_align PAGE_SIZE
  omega

theorem page_align_mono {a b : Nat} (h : a ≤ b) : page_align a ≤ page_align b := by
  unfold page_align PAGE_SIZE
  exact Nat.mul_le_mul_right _ (Nat.div_le_div_right (by omega))

/-- Rounding up after a whole number of pages rounds up what comes after them. -/
theorem page_align_add {m : Nat} (hm : m % PAGE_SIZE = 0) (len : Nat) :
    page_align (m + len) = m + page_align len := by
  unfold page_align
  unfold PAGE_SIZE at hm ⊢
  omega

theorem is_req_valid_iff {self : CacheHandler} {offset len : UInt64} :
    self.is_req_valid offset len = true ↔ offset.toNat + len.toNat ≤ self.cache_size.toNat := by
  unfold CacheHandler.is_req_valid
  cases hn : Checked.add offset len with
  | none =>
    have := Checked.add_eq_none_iff.mp hn
    have := self.cache_size.toNat_lt
    simp only [Bool.false_eq_true, false_iff, Nat.not_le]
    omega
  | some n =>
    obtain ⟨-, hval⟩ := Checked.add_eq_some_iff.mp hn
    simp only [decide_eq_true_eq, UInt64.le_iff_toNat_le, hval]

/-! ## What a call changes -/

/-- The host addresses of the DAX window, rounded up to pages as its reservation is. -/
def CacheHandler.window (self : CacheHandler) (a : Nat) : Prop :=
  self.mmap_cache_addr.toNat ≤ a ∧ a < self.mmap_cache_addr.toNat + page_align self.cache_size.toNat

/-- What the handler leaves in its window: the `PROT_NONE` reservation, or a read-only file
mapping. -/
def Mapping.Served (m : Mapping) : Prop :=
  m = ⟨.NONE, .anonymous⟩ ∨ m.prot = .READ ∧ ∃ fd offset, m.backing = .file fd offset

/-- Outside the window the space is the one it started as, and inside every address is mapped
as the handler leaves it. -/
def CacheHandler.Inv (self : CacheHandler) (space₀ space : Space) : Prop :=
  (∀ a, ¬ self.window a → space a = space₀ a) ∧
    ∀ a, self.window a → ∃ m, space a = some m ∧ m.Served

/-- An `mmap` of served mappings inside the window keeps the invariant, whatever the kernel
answers. -/
theorem CacheHandler.Inv.mmap_fixed {self : CacheHandler} {space₀ space : Space}
    (hinv : self.Inv space₀ space) {addr len : Nat} {m : Nat → Mapping}
    (hm : ∀ off, (m off).Served)
    (hin : addr % PAGE_SIZE = 0 → ∀ a, addr ≤ a → a < addr + page_align len → self.window a)
    (fails : Option Int) : self.Inv space₀ (mmap_fixed space addr len m fails).1 := by
  unfold VirtioFs.mmap_fixed
  split_ifs with h0
  · exact hinv
  cases fails with
  | some errno => exact hinv
  | none =>
    have haligned : addr % PAGE_SIZE = 0 := by
      rcases not_or.mp h0 with ⟨-, h⟩
      exact not_not.mp h
    refine ⟨fun a ha => ?_, fun a ha => ?_⟩
    · -- the range replaced is inside the window
      have hout : ¬ (addr ≤ a ∧ a < addr + page_align len) :=
        fun ⟨h1, h2⟩ => ha (hin haligned a h1 h2)
      simp only [hout, if_false]
      exact hinv.1 a ha
    · dsimp only
      split_ifs
      · exact ⟨_, rfl, hm _⟩
      · exact hinv.2 a ha

/-- Registered by `register_mmap_region`, the window starts on a page boundary. -/
structure CacheHandler.Registered (handler : CacheHandler) : Prop where
  aligned : handler.mmap_cache_addr.toNat % PAGE_SIZE = 0

/-- A request that passes `is_req_valid` and starts on a page boundary stays in the window once
rounded up to pages. -/
theorem CacheHandler.Registered.window_of_valid {self : CacheHandler} (hreg : self.Registered)
    {offset len addr : UInt64} (hvalid : self.is_req_valid offset len = true)
    (haddr : Checked.add self.mmap_cache_addr offset = some addr) :
    addr.toNat % PAGE_SIZE = 0 → ∀ a, addr.toNat ≤ a → a < addr.toNat + page_align len.toNat →
      self.window a := by
  intro haligned a h1 h2
  have hv := is_req_valid_iff.mp hvalid
  obtain ⟨-, hsum⟩ := Checked.add_eq_some_iff.mp haddr
  have hreg' := hreg.aligned
  -- the offset is whole pages too, so rounding up stays below the rounded window
  have hoff : offset.toNat % PAGE_SIZE = 0 := by
    unfold PAGE_SIZE at haligned hreg' ⊢
    omega
  have hround : offset.toNat + page_align len.toNat ≤ page_align self.cache_size.toNat := by
    rw [← page_align_add hoff]
    exact page_align_mono hv
  unfold CacheHandler.window
  omega

theorem CacheHandler.Inv.map {self : CacheHandler} (hreg : self.Registered) {space₀ space : Space}
    (hinv : self.Inv space₀ space) {foffset moffset len : UInt64} {fd : Int} {fails : Option Int}
    {space' : Space} {r : Except Int Unit}
    (h : self.map space foffset moffset len fd fails = some (space', r)) :
    self.Inv space₀ space' := by
  unfold CacheHandler.map at h
  cases haddr : Checked.add self.mmap_cache_addr moffset with
  | none =>
    rw [haddr] at h
    cases h
  | some addr =>
    simp only [haddr, Option.bind_eq_bind, Option.bind_some] at h
    split at h
    · cases h
      exact hinv
    · rename_i hvalid
      have hs := congrArg Prod.fst (Option.some.inj h)
      dsimp only at hs
      rw [← hs]
      exact hinv.mmap_fixed (fun _ => Or.inr ⟨rfl, _, _, rfl⟩)
        (hreg.window_of_valid (by simpa using hvalid) haddr) fails

theorem CacheHandler.Inv.unmap {self : CacheHandler} (hreg : self.Registered) {space₀ : Space}
    (kernel : List (Option Int)) (requests : List RemovemappingOne) :
    ∀ {space space' : Space} {r : Except Int Unit}, self.Inv space₀ space →
      self.unmap space kernel requests = some (space', r) → self.Inv space₀ space' := by
  induction requests generalizing kernel with
  | nil =>
    intro space space' r hinv h
    cases h
    exact hinv
  | cons req requests ih =>
    intro space space' r hinv h
    unfold CacheHandler.unmap at h
    by_cases hlen : req.len = 0
    · rw [if_pos hlen] at h
      exact ih kernel hinv h
    rw [if_neg hlen] at h
    -- the range unmapped, whole window or as requested
    generalize (if req.len = 0xffffffffffffffff then ((0 : UInt64), self.cache_size)
      else (req.moffset, req.len)) = range at h
    obtain ⟨offset, len⟩ := range
    dsimp only at h
    split_ifs at h with hvalid
    · cases h
      exact hinv
    obtain ⟨addr, haddr, h⟩ := Option.bind_eq_some_iff.mp h
    have hinv' := hinv.mmap_fixed (fun _ => Or.inl rfl)
      (hreg.window_of_valid (by simpa using hvalid) haddr) kernel.head?.join
    split at h
    · rename_i hmmap
      cases h
      rw [hmmap] at hinv'
      exact hinv'
    · rename_i hmmap
      rw [hmmap] at hinv'
      exact ih kernel.tail hinv' h

theorem CacheHandler.Inv.handle {self : CacheHandler} (hreg : self.Registered)
    {space₀ space : Space} (hinv : self.Inv space₀ space) (req : Request × List (Option Int)) :
    self.Inv space₀ (self.handle space req) := by
  obtain ⟨req, kernel⟩ := req
  cases req with
  | setupmapping foffset moffset len fd =>
    simp only [CacheHandler.handle]
    split
    · rename_i h
      exact hinv.map hreg h
    · exact hinv
  | removemapping requests =>
    simp only [CacheHandler.handle]
    split
    · rename_i h
      exact hinv.unmap hreg kernel requests h
    · exact hinv

/-- `register_mmap_region` has reserved the window with a `PROT_NONE` anonymous mapping. -/
def CacheHandler.Reserved (self : CacheHandler) (space₀ : Space) : Prop :=
  ∀ a, self.window a → space₀ a = some ⟨.NONE, .anonymous⟩

/-- Over every run of requests from the reserved window, whatever the kernel answers, nothing
outside the rounded window changes and the window stays mapped as the handler leaves it. -/
theorem CacheHandler.inv_of_reachable {self : CacheHandler} (hreg : self.Registered)
    {space₀ : Space} (h₀ : self.Reserved space₀) {space : Space}
    (h : Transition.Reachable (· = space₀) self.handle space) : self.Inv space₀ space :=
  h.invariant (fun s hs => by
      subst hs
      exact ⟨fun _ _ => rfl, fun a ha => ⟨_, h₀ a ha, Or.inl rfl⟩⟩)
    (fun _ req hs => hs.handle hreg req)

/-! ## Requests the check lets through -/

theorem dax_window_map_escapes (self : CacheHandler) (space : Space) (foffset : UInt64) (fd : Int) :
    (∀ moffset len fails, 2 ^ 64 ≤ self.mmap_cache_addr.toNat + moffset.toNat →
      self.map space foffset moffset len fd fails = none) ∧
    (self.Registered → self.cache_size.toNat % PAGE_SIZE ≠ 0 →
      self.mmap_cache_addr.toNat + self.cache_size.toNat < 2 ^ 64 →
      ∃ space', self.map space foffset (self.cache_size / 4096 * 4096) (self.cache_size % 4096)
          fd none = some (space', .ok ()) ∧
        space' (self.mmap_cache_addr.toNat + self.cache_size.toNat) =
          some ⟨.READ, .file fd (foffset.toNat + self.cache_size.toNat % PAGE_SIZE)⟩) := by
  refine ⟨fun moffset len fails hbig => ?_, fun hreg hsize hfit => ?_⟩
  · -- `mmap_cache_addr + moffset` overflows before the check
    simp only [CacheHandler.map, Checked.add_eq_none_iff.mpr hbig, Option.bind_eq_bind,
      Option.bind_none]
  · -- the last partial page of the window: whole pages before it, and the rest of the window
    have hlt := self.cache_size.toNat_lt
    have h4096 : (4096 : UInt64).toNat = 4096 := rfl
    have hmoff : (self.cache_size / 4096 * 4096).toNat = self.cache_size.toNat / 4096 * 4096 := by
      rw [UInt64.toNat_mul, UInt64.toNat_div, h4096, Nat.mod_eq_of_lt (by omega)]
    have hlen : (self.cache_size % 4096).toNat = self.cache_size.toNat % 4096 := by
      rw [UInt64.toNat_mod, h4096]
    have hreg' := hreg.aligned
    unfold PAGE_SIZE at hsize hreg' ⊢
    have hsum : (self.mmap_cache_addr + self.cache_size / 4096 * 4096).toNat =
        self.mmap_cache_addr.toNat + self.cache_size.toNat / 4096 * 4096 := by
      rw [UInt64.toNat_add, hmoff, Nat.mod_eq_of_lt (by omega)]
    have haddr : Checked.add self.mmap_cache_addr (self.cache_size / 4096 * 4096) =
        some (self.mmap_cache_addr + self.cache_size / 4096 * 4096) :=
      Checked.add_eq_some_iff.mpr ⟨by omega, by rw [hsum, hmoff]⟩
    have hvalid : self.is_req_valid (self.cache_size / 4096 * 4096) (self.cache_size % 4096) :=
      is_req_valid_iff.mpr (by omega)
    -- a nonzero length at a page boundary: the kernel maps the whole last page
    have hmmap : mmap_fixed space (self.mmap_cache_addr + self.cache_size / 4096 * 4096).toNat
        (self.cache_size % 4096).toNat (fun off => ⟨.READ, .file fd (foffset.toNat + off)⟩) none =
        (fun a => if (self.mmap_cache_addr + self.cache_size / 4096 * 4096).toNat ≤ a ∧
            a < (self.mmap_cache_addr + self.cache_size / 4096 * 4096).toNat +
              page_align (self.cache_size % 4096).toNat then
            some ⟨.READ, .file fd (foffset.toNat +
              (a - (self.mmap_cache_addr + self.cache_size / 4096 * 4096).toNat))⟩
          else space a, .ok ()) := by
      unfold mmap_fixed
      rw [if_neg (by unfold PAGE_SIZE; omega)]
    simp only [CacheHandler.map, haddr, Option.bind_eq_bind, Option.bind_some, hvalid,
      Bool.not_true, Bool.false_eq_true, if_false, hmmap]
    refine ⟨_, rfl, ?_⟩
    rw [if_pos (by unfold page_align PAGE_SIZE; omega)]
    congr 4
    omega

/-- A window of one page and one byte at `0x7f0000000000`: `moffset = u64::MAX` panics, and the
request `(moffset 4096, len 1)` maps the whole second page, the byte past the window included. -/
theorem dax_window_map_escapes_page_and_byte :
    CacheHandler.map ⟨4097, 0x7f0000000000⟩ (fun _ => none) 0 0xffffffffffffffff 1 3 none = none ∧
      ∃ space', CacheHandler.map ⟨4097, 0x7f0000000000⟩ (fun _ => none) 0 4096 1 3 none =
          some (space', .ok ()) ∧
        space' (0x7f0000000000 + 4097) = some ⟨.READ, .file 3 1⟩ := by
  obtain ⟨hpanic, hround⟩ := dax_window_map_escapes ⟨4097, 0x7f0000000000⟩ (fun _ => none) 0 3
  obtain ⟨space', hmap, hpast⟩ := hround ⟨by decide⟩ (by decide) (by decide)
  exact ⟨hpanic _ _ _ (by decide), space', hmap, hpast⟩

end KataContainers.Dragonball.VirtioFs
