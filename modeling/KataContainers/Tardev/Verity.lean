import KataContainers.Lib.Radix

/-!
# The dm-verity hash tree

Model of `src/tardev-snapshotter/verity/src/lib.rs`: `Verity::new` lays out the levels of the hash
tree, `add_block` hashes a data block into the lowest level and carries full levels up (`uplevel`),
and `finalize` flushes what is left and hashes the root level; `traverse_file` feeds it the blocks of
a file. The hash is any `Digest` (`T: Digest + Clone` in the source); the writer is the log of the
blocks it was asked to write, with their offsets.

The number of levels is the number of times the covered size must grow by the fan-out before it
reaches the data size. For a data size of a single block that is none, and `add_block` then indexes
level `count - 1` of no levels: `traverse_file` panics for every block size
(`traverse_file_single_block_panics`).
-/

namespace KataContainers.Tardev.DmVerity

open Radix

/-- The trait `Digest`: a hasher state, which `update` feeds and `finalize` reads out in
`OutputSize` bytes. -/
class Digest (T : Type) where
  OutputSize : Nat
  new_with_prefix : List UInt8 → T
  update : T → List UInt8 → T
  finalize : T → List UInt8

/-- How a call ends other than with its result. -/
inductive Fault
  /-- an index out of bounds, or a `usize` subtraction below zero -/
  | panic
  /-- a loop that does not end -/
  | hang
  /-- `"unexpected block"` -/
  | invalidData
  /-- `read_exact` past the end of the file -/
  | unexpectedEof
  deriving DecidableEq, Repr

structure SuperBlock where
  data_block_size : UInt32
  hash_block_size : UInt32
  data_block_count : UInt64
  deriving DecidableEq, Repr

def SuperBlock.as_bytes (sb : SuperBlock) : List UInt8 :=
  leBytes 4 sb.data_block_size.toNat ++ leBytes 4 sb.hash_block_size.toNat ++
    leBytes 8 sb.data_block_count.toNat

structure Level where
  next_index : Nat
  file_offset : Nat
  data : List UInt8
  deriving DecidableEq, Repr

structure Verity (T : Type) where
  levels : List Level
  seeded : T
  data_block_size : Nat
  hash_block_size : Nat
  block_remaining_count : Nat
  super_block : SuperBlock

/-- The blocks the writer was given, with their offsets, in order. -/
abbrev Log := List (List UInt8 × Nat)

section
variable {T : Type} [Digest T]

/-- `Self::HASH_SIZE` -/
def HASH_SIZE (T : Type) [Digest T] : Nat := Digest.OutputSize T

/-- The loop of `new` that counts the levels: `none` when it would not end, which takes more than
`fuel` rounds. -/
def level_count_loop (data_size fanout : Nat) : Nat → Nat → Nat → Option Nat
  | 0, _, _ => none
  | fuel + 1, max_size, count =>
    if max_size < data_size then level_count_loop data_size fanout fuel (max_size * fanout) (count + 1)
    else some count

/-- The levels of `new`, root first: level `i` starts where the blocks of the levels above end. -/
def layout_levels (data_size data_block_size hash_block_size fanout level_count : Nat) :
    List Level × Nat → Nat → List Level × Nat :=
  fun (levels, write_file_offset) i =>
    let entry_size := data_block_size * fanout ^ (level_count - i)
    let count := (data_size + entry_size - 1) / entry_size
    (levels ++ [⟨0, write_file_offset, List.replicate hash_block_size 0⟩],
      write_file_offset + hash_block_size * count)

def Verity.new (data_size data_block_size hash_block_size : Nat) (salt : List UInt8)
    (write_file_offset : Nat) : Except Fault (Verity T) := do
  let fanout := hash_block_size / HASH_SIZE T
  -- `max_size` grows at least twofold a round when it grows at all, so `data_size + 1` rounds
  -- are enough for a loop that ends
  let some level_count := level_count_loop data_size fanout (data_size + 1) data_block_size 0
    | .error .hang
  let (levels, _) := (List.range level_count).foldl
    (layout_levels data_size data_block_size hash_block_size fanout level_count) ([], write_file_offset)
  -- `data_size / data_block_size` divides by zero
  if data_block_size = 0 then .error .panic
  let block_count := data_size / data_block_size
  return {
    levels
    seeded := Digest.new_with_prefix salt
    data_block_size
    hash_block_size
    block_remaining_count := block_count
    super_block := ⟨UInt32.ofNat data_block_size, UInt32.ofNat hash_block_size,
      UInt64.ofNat block_count⟩ }

def Verity.more_blocks (v : Verity T) : Bool := v.block_remaining_count > 0

def Verity.digest (v : Verity T) (block : List UInt8) : List UInt8 :=
  Digest.finalize (Digest.update v.seeded block)

/-- `add_hash`: the hash goes in the next slot of level `l`; whether the level is now full. -/
def Verity.add_hash (v : Verity T) (l : Nat) (hash : List UInt8) : Except Fault (Verity T × Bool) :=
  match v.levels[l]? with
  | none => .error .panic
  | some level =>
    let start := level.next_index * HASH_SIZE T
    -- the slice `[start..][..HASH_SIZE]` and `copy_from_slice`
    if start + HASH_SIZE T > level.data.length ∨ hash.length ≠ HASH_SIZE T then .error .panic
    else
      let level := { level with
        data := level.data.take start ++ hash ++ level.data.drop (start + HASH_SIZE T)
        next_index := level.next_index + 1 }
      .ok ({ v with levels := v.levels.set l level },
        level.next_index ≥ v.hash_block_size / HASH_SIZE T)

/-- `finalize_level`: the rest of level `l` is zeroed and the level starts over. -/
def Verity.finalize_level (v : Verity T) (l : Nat) : Except Fault (Verity T) :=
  match v.levels[l]? with
  | none => .error .panic
  | some level =>
    let start := level.next_index * HASH_SIZE T
    if start > level.data.length then .error .panic
    else
      .ok { v with levels := v.levels.set l { level with
        data := level.data.take start ++ List.replicate (level.data.length - start) 0
        next_index := 0 } }

/-- `uplevel`: level `l` is written out, and its hash goes into level `l - 1`. -/
def Verity.uplevel (v : Verity T) (l : Nat) (log : Log) : Except Fault (Verity T × Log × Bool) := do
  let v ← v.finalize_level l
  let some level := v.levels[l]? | .error .panic
  let log := log ++ [(level.data, level.file_offset)]
  let v := { v with levels := v.levels.set l { level with
    file_offset := level.file_offset + v.hash_block_size } }
  let h := v.digest level.data
  if l = 0 then .error .panic
  let (v, full) ← v.add_hash (l - 1) h
  return (v, log, full)

/-- The loop of `add_block` over `(1..count).rev()`, from level `l` up, while levels fill. -/
def Verity.carry (v : Verity T) (log : Log) : Nat → Except Fault (Verity T × Log)
  | 0 => .ok (v, log)
  | l + 1 => do
    let (v, log, full) ← v.uplevel (l + 1) log
    if !full then return (v, log)
    v.carry log l

def Verity.add_block (v : Verity T) (b : List UInt8) (log : Log) : Except Fault (Verity T × Log) := do
  if v.block_remaining_count = 0 then .error .invalidData
  let v := { v with block_remaining_count := v.block_remaining_count - 1 }
  let count := v.levels.length
  let hash := v.digest b
  -- `count - 1` in `usize`
  if count = 0 then .error .panic
  let (v, full) ← v.add_hash (count - 1) hash
  if full then v.carry log (count - 1) else return (v, log)

/-- The `while l > 0` loop of `finalize`: every level from `l` up is written out. -/
def Verity.flush (v : Verity T) (log : Log) : Nat → Except Fault (Verity T × Log)
  | 0 => .ok (v, log)
  | l + 1 => do
    let (v, log, _) ← v.uplevel (l + 1) log
    v.flush log l

/-- The deepest level below the root with hashes in it. -/
def Verity.deepest_partial (v : Verity T) : Option Nat :=
  ((List.range v.levels.length).drop 1).reverse.find? fun l =>
    (v.levels.getD l ⟨0, 0, []⟩).next_index ≠ 0

def Verity.finalize (v : Verity T) (write_superblock : Bool) (log : Log) :
    Except Fault (List UInt8 × Log) := do
  let len := v.levels.length
  let (v, log) ← match v.deepest_partial with
    | some l => v.flush log l
    | none => pure (v, log)
  let v ← v.finalize_level 0
  let some root := v.levels[0]? | .error .panic
  let log := log ++ [(root.data, root.file_offset)]
  let v := { v with levels := v.levels.set 0 { root with
    file_offset := root.file_offset + v.hash_block_size } }
  let log ← if write_superblock then do
      let some last := v.levels[len - 1]? | .error .panic
      pure (log ++ [(v.super_block.as_bytes, last.file_offset + 4096 - 512),
        ([0], last.file_offset + 4095)])
    else pure log
  return (v.digest root.data, log)

/-- `read_exact` of `n` bytes at `offset`. -/
def read_exact (file : List UInt8) (offset n : Nat) : Except Fault (List UInt8) :=
  if offset + n ≤ file.length then .ok ((file.drop offset).take n) else .error .unexpectedEof

/-- The loop of `traverse_file`; `fuel` is the count of blocks left, of which each round takes
one. -/
def traverse_blocks (file : List UInt8) : Nat → Nat → Verity T → Log → Except Fault (Verity T × Log)
  | 0, _, v, log => .ok (v, log)
  | fuel + 1, read_offset, v, log =>
    if !v.more_blocks then .ok (v, log)
    else do
      let buf ← read_exact file read_offset v.data_block_size
      let (v, log) ← v.add_block buf log
      traverse_blocks file fuel (read_offset + v.data_block_size) v log

/-- `traverse_file`: the root hash, and the writer's log. -/
def traverse_file (file : List UInt8) (read_offset : Nat) (write_superblock : Bool) (v : Verity T) :
    Except Fault (List UInt8 × Log) := do
  let (v, log) ← traverse_blocks file v.block_remaining_count read_offset v []
  v.finalize write_superblock log

/-! ## One block of data -/

/-- Data that fits one block needs no level. -/
theorem new_single_block (data_block_size hash_block_size : Nat) (salt : List UInt8) (w : Nat)
    (hd : 0 < data_block_size) :
    ∃ v : Verity T, Verity.new data_block_size data_block_size hash_block_size salt w = .ok v ∧
      v.levels = [] ∧ v.block_remaining_count = 1 ∧ v.data_block_size = data_block_size := by
  have hloop : level_count_loop data_block_size (hash_block_size / HASH_SIZE T)
      (data_block_size + 1) data_block_size 0 = some 0 := by
    simp [level_count_loop]
  have hnew : Verity.new data_block_size data_block_size hash_block_size salt w =
      .ok ({
        levels := []
        seeded := Digest.new_with_prefix salt
        data_block_size
        hash_block_size
        block_remaining_count := data_block_size / data_block_size
        super_block := ⟨UInt32.ofNat data_block_size, UInt32.ofNat hash_block_size,
          UInt64.ofNat (data_block_size / data_block_size)⟩ } : Verity T) := by
    simp [Verity.new, hloop, Nat.ne_of_gt hd]
  exact ⟨_, hnew, rfl, Nat.div_self hd, rfl⟩

/-- `add_block` on no levels panics at `count - 1`. -/
theorem add_block_no_levels {v : Verity T} (hl : v.levels = []) (hr : v.block_remaining_count ≠ 0)
    (b : List UInt8) (log : Log) : v.add_block b log = .error .panic := by
  simp [Verity.add_block, hl, hr]

/-- For data of one block, whatever the sizes, the salt and where the tree goes, `traverse_file`
reads the block and panics in `add_block`. -/
theorem traverse_file_single_block_panics (data_block_size hash_block_size : Nat)
    (salt file : List UInt8) (read_offset w : Nat) (write_superblock : Bool)
    (hd : 0 < data_block_size) (hfile : read_offset + data_block_size ≤ file.length) :
    ∃ v : Verity T, Verity.new data_block_size data_block_size hash_block_size salt w = .ok v ∧
      traverse_file file read_offset write_superblock v = .error .panic := by
  obtain ⟨v, hnew, hl, hr, hs⟩ := new_single_block (T := T) data_block_size hash_block_size salt w hd
  refine ⟨v, hnew, ?_⟩
  have hread : read_exact file read_offset v.data_block_size = .ok ((file.drop read_offset).take data_block_size) := by
    simp [read_exact, hs, hfile]
  simp [traverse_file, hr, traverse_blocks, Verity.more_blocks, hread,
    add_block_no_levels hl (by rw [hr]; decide)]

end

/-- A digest of 32 zero bytes whatever it is fed: the panic does not depend on the hash. -/
@[reducible] def zero_digest : Digest Unit := ⟨32, fun _ => (), fun _ _ => (), fun _ => List.replicate 32 0⟩

/-- One block of 4096 bytes, with hash blocks of 4096 bytes after it. -/
theorem traverse_file_single_block_panics_4096 :
    0 < 4096 ∧ 0 + 4096 ≤ (List.replicate 4096 (0 : UInt8)).length ∧
      ∃ v : Verity Unit, @Verity.new Unit zero_digest 4096 4096 4096 [] 4096 = .ok v ∧
        @traverse_file Unit zero_digest (List.replicate 4096 0) 0 true v = .error .panic :=
  ⟨by decide, by rw [List.length_replicate],
    @traverse_file_single_block_panics Unit zero_digest 4096 4096 [] (List.replicate 4096 0) 0 4096 true
      (by decide) (by rw [List.length_replicate])⟩

end KataContainers.Tardev.DmVerity
