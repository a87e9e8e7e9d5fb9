import KataContainers.Lib.Bfs
import KataContainers.Lib.Radix

/-!
# The tarfs index

Model of `src/tardev-snapshotter/tarindex/src/lib.rs` and of the records of
`src/tardev-snapshotter/tarfs-defs/src/lib.rs`. `append_index` reads the entries of a tar stream
into a tree of `Entry`s (`read_all_entries`, with the callbacks of `append_index`), then numbers the
inodes, places the directory bodies, and writes the inode table, the directory entries, the names
of the symlinks whose target is not in their header, the names of the children, and the
super-block after the stream.

The entries are `Rc<RefCell<Entry>>`s: here an arena of `Entry`s, where a child is named by its
index (`Tree.arena`), and `Rc::new` appends. The tar crate's reading of the stream is what it yields
for each entry (`TarEntry`), and the output is the bytes written from the end of the stream on.
`visit_breadth_first_mut` is `Bfs.visit`, with `fuel` bounding each pass; I/O never fails here.

A hard link whose name lies below the file it links to makes that file its own child, and the first
pass then never ends (`append_index_link_loop`). The targets of long symlinks are written in the
order of the stream, but their offsets are handed out in the order of the tree, so a symlink can
point at another's target (`special_link_offset_mismatch`).

The first callback replaces the entry of the cell a header's path names, children included, and a
hard link makes two names share one cell: a second directory header drops the children of the
directory, and a file header on one name of a hard link changes the other (`read_entry_overwrites_cell`).
-/

namespace KataContainers.Tardev

open Radix Bfs

/-- Byte strings: names and link names. -/
abbrev Bytes := List UInt8

/-- The bytes of an ASCII text. -/
def ascii (s : String) : Bytes := s.toList.map fun c => c.toNat.toUInt8

/-! ## tarfs-defs -/

def OPAQUE : UInt8 := 0x1

def S_IFMT : UInt16 := 0o0170000
def S_IFSOCK : UInt16 := 0o0140000
def S_IFLNK : UInt16 := 0o0120000
def S_IFREG : UInt16 := 0o0100000
def S_IFBLK : UInt16 := 0o0060000
def S_IFDIR : UInt16 := 0o0040000
def S_IFCHR : UInt16 := 0o0020000
def S_IFIFO : UInt16 := 0o0010000

def DT_UNKNOWN : UInt8 := 0
def DT_FIFO : UInt8 := 1
def DT_CHR : UInt8 := 2
def DT_DIR : UInt8 := 4
def DT_BLK : UInt8 := 6
def DT_REG : UInt8 := 8
def DT_LNK : UInt8 := 10
def DT_SOCK : UInt8 := 12

/-- An inode of the inode table. -/
structure Inode where
  mode : UInt16
  flags : UInt8
  hmtime : UInt8
  owner : UInt32
  group : UInt32
  lmtime : UInt32
  size : UInt64
  offset : UInt64
  deriving DecidableEq, Repr

/-- `as_bytes` of the `repr(C)` record: 32 bytes, the fields little-endian. -/
def Inode.as_bytes (i : Inode) : List UInt8 :=
  leBytes 2 i.mode.toNat ++ [i.flags, i.hmtime] ++ leBytes 4 i.owner.toNat ++
    leBytes 4 i.group.toNat ++ leBytes 4 i.lmtime.toNat ++ leBytes 8 i.size.toNat ++
    leBytes 8 i.offset.toNat

/-- An entry of a directory body. -/
structure DirEntry where
  ino : UInt64
  name_offset : UInt64
  name_len : UInt64
  etype : UInt8
  deriving DecidableEq, Repr

/-- `as_bytes`: 32 bytes, with seven bytes of padding. -/
def DirEntry.as_bytes (d : DirEntry) : List UInt8 :=
  leBytes 8 d.ino.toNat ++ leBytes 8 d.name_offset.toNat ++ leBytes 8 d.name_len.toNat ++
    [d.etype] ++ List.replicate 7 0

structure SuperBlock where
  inode_table_offset : UInt64
  inode_count : UInt64
  deriving DecidableEq, Repr

def SuperBlock.as_bytes (sb : SuperBlock) : List UInt8 :=
  leBytes 8 sb.inode_table_offset.toNat ++ leBytes 8 sb.inode_count.toNat

/-! ## The tree of entries -/

/-- `Entry`, with `Entry::default()` as its default; `children` is the `BTreeMap` from names to
entries, in the order of the names. -/
structure Entry where
  offset : Nat := 0
  size : Nat := 0
  children : List (Bytes × Nat) := []
  mode : UInt16 := 0
  ino : Nat := 0
  emitted : Bool := false
  is_opaque : Bool := false
  mtime : Nat := 0
  owner : UInt32 := 0
  group : UInt32 := 0
  deriving DecidableEq, Repr

/-- `BTreeMap::insert`: the entry of `name` is replaced, or added in the order of the names. -/
def insertChild : List (Bytes × Nat) → Bytes → Nat → List (Bytes × Nat)
  | [], name, c => [(name, c)]
  | (n, c') :: rest, name, c =>
    if name = n then (name, c) :: rest
    else if name < n then (name, c) :: (n, c') :: rest
    else (n, c') :: insertChild rest name c

/-- The entries that `e` points to, in the order of their names. -/
def Entry.childPtrs (e : Entry) : List Nat := e.children.map Prod.snd

def find_or_create_child (arena : List Entry) (p : Nat) (name : Bytes) : List Entry × Nat :=
  match (arena.getD p {}).children.lookup name with
  | some c => (arena, c)
  | none =>
    (arena.modify p (fun e => { e with children := insertChild e.children name arena.length }) ++
      [{}], arena.length)

def traverse_path (arena : List Entry) (root : Nat) (path : List Bytes) : List Entry × Nat :=
  path.foldl (fun (arena, ptr) component => find_or_create_child arena ptr component) (arena, root)

/-- One component of a path: empty components and `.` are ignored, `..` pops. -/
def clean_component (ret : List Bytes) (component : Bytes) : Option (List Bytes) :=
  if component = [] ∨ component = ascii "." then some ret
  else if component = ascii ".." then
    if ret = [] then none else some ret.dropLast
  else some (ret ++ [component])

def clean_path (str : Bytes) : Option (List Bytes) :=
  (str.splitOn (ascii "/").head!).foldlM clean_component []

/-- The tree as `read_all_entries` builds it: the arena, the root, and `special_link`, the
targets of the symlinks whose header does not hold them, in the order of the stream. -/
structure Tree where
  arena : List Entry
  root : Nat
  special_link : List Bytes
  deriving DecidableEq, Repr

/-- The first callback of `append_index`: put the entry `e` read from the stream at `name`. -/
def Tree.cb (t : Tree) (name : Bytes) (e : Entry) : Tree :=
  match clean_path name with
  | none => t
  | some path =>
    let put := fun (path : List Bytes) =>
      let (arena, ptr) := traverse_path t.arena t.root path
      { t with arena := arena.set ptr { e with children := [] } }
    match path.getLast? with
    | none => put path
    | some n =>
      if n = ascii ".wh..wh..opq" then
        -- the parent directory is opaque
        let (arena, ptr) := traverse_path t.arena t.root path.dropLast
        { t with arena := arena.modify ptr fun cur => { cur with is_opaque := true } }
      else if (ascii ".wh.").isPrefixOf n then
        -- a whiteout: the entry becomes the character device (0, 0), without children
        let (arena, ptr) := traverse_path t.arena t.root (path.dropLast ++ [n.drop 4])
        { t with arena := arena.modify ptr fun cur =>
            { cur with
              children := []
              mode := (cur.mode &&& ~~~S_IFMT) ||| S_IFCHR
              size := 0
              offset := 0 } }
      else put path

/-- The second callback of `append_index`: the hard link `name` to `linkname`. The path to the
existing file is created as it is looked up, also when the link is then skipped. -/
def Tree.hardlink (t : Tree) (name linkname : Bytes) : Tree :=
  match clean_path linkname with
  | none => t
  | some lpath =>
    let (arena, existing) := traverse_path t.arena t.root lpath
    let t := { t with arena := arena }
    if (arena.getD existing {}).mode &&& S_IFMT ≠ S_IFREG then t
    else
      match clean_path name with
      | none => t
      | some [] => { t with root := existing }
      | some path =>
        let (arena, ptr) := traverse_path t.arena t.root path.dropLast
        { t with arena := arena.modify ptr fun cur =>
            { cur with children := insertChild cur.children path.getLast! existing } }

/-! ## Reading the stream -/

inductive EntryType
  | Regular
  | Directory
  | Fifo
  | Char
  | Block
  | Symlink
  | Link
  | Other
  deriving DecidableEq, Repr

/-- What the tar crate yields for an entry. `link_name_bytes` is the entry's link name, from an
extension header when there is one; `header_link_name_bytes` is the field of the header itself. -/
structure TarEntry where
  entry_type : EntryType
  path_bytes : Bytes
  mode : Option Nat
  size : Nat
  raw_file_position : Nat
  raw_header_position : Nat
  device_major : Option Nat
  device_minor : Option Nat
  link_name_bytes : Option Bytes
  header_link_name_bytes : Option Bytes
  mtime : Nat
  uid : Nat
  gid : Nat
  deriving DecidableEq, Repr

/-- The entry that the first callback gets, of mode `mode`, size and offset. -/
def TarEntry.entry (f : TarEntry) (mode : UInt16) (size offset : Nat) : Entry :=
  { size, offset, mode, mtime := f.mtime, owner := UInt32.ofNat f.uid, group := UInt32.ofNat f.gid }

/-- A device's `minor | (major << 32)`, when the header has both numbers. -/
def TarEntry.device (f : TarEntry) : Option Nat :=
  match f.device_major, f.device_minor with
  | some major, some minor => some (minor ||| (major <<< 32))
  | _, _ => none

/-- One entry of the loop of `read_all_entries`. -/
def read_entry (t : Tree) (f : TarEntry) : Tree :=
  match f.mode with
  | none => t
  | some m =>
    let mode := UInt16.ofNat m &&& 0x1ff
    match f.entry_type with
    | .Regular => t.cb f.path_bytes (f.entry (mode ||| S_IFREG) f.size f.raw_file_position)
    | .Directory => t.cb f.path_bytes (f.entry (mode ||| S_IFDIR) 0 0)
    | .Fifo => t.cb f.path_bytes (f.entry (mode ||| S_IFIFO) 0 0)
    | .Char =>
      match f.device with
      | some offset => t.cb f.path_bytes (f.entry (mode ||| S_IFCHR) 0 offset)
      | none => t
    | .Block =>
      match f.device with
      | some offset => t.cb f.path_bytes (f.entry (mode ||| S_IFBLK) 0 offset)
      | none => t
    | .Symlink =>
      match f.link_name_bytes with
      | some name =>
        if f.header_link_name_bytes.getD [] ≠ name then
          -- the target is not in the header: its offset is handed out later
          { t with special_link := t.special_link ++ [name] }.cb f.path_bytes
            (f.entry (mode ||| S_IFLNK) name.length 0)
        else t.cb f.path_bytes (f.entry (mode ||| S_IFLNK) name.length (f.raw_header_position + 157))
      | none => t
    | .Link =>
      match f.link_name_bytes with
      | some name => t.hardlink f.path_bytes name
      | none => t
    | .Other => t

def read_all_entries (t : Tree) (entries : List TarEntry) : Tree := entries.foldl read_entry t

/-! ## The passes of `append_index` -/

/-- `e.mode & S_IFMT == S_IFDIR` -/
def Entry.isDir (e : Entry) : Bool := e.mode &&& S_IFMT == S_IFDIR

/-- The visitor that numbers the inodes not yet numbered, counting them. -/
def number_inode (_ : List Entry) (ino_count : Nat) (e : Entry) : Nat × Entry :=
  if e.ino = 0 then (ino_count + 1, { e with ino := ino_count + 1 }) else (ino_count, e)

/-- The visitor of `init_direntry_offset`: a directory's body goes at the next offset. -/
def place_direntries (_ : List Entry) (offset : Nat) (e : Entry) : Nat × Entry :=
  if !e.isDir then (offset, e)
  else
    let e := { e with offset := offset, size := 32 * e.children.length }
    (offset + e.size, e)

def init_direntry_offset (fuel : Nat) (arena : List Entry) (root first_offset : Nat) :
    Option (List Entry × Nat) :=
  visit Entry.childPtrs place_direntries fuel arena first_offset [root]

/-- The visitor that writes the inode table, handing out the offsets of the targets of the special
symlinks as it meets them. -/
def write_inode (_ : List Entry) (st : Nat × List UInt8) (e : Entry) :
    (Nat × List UInt8) × Entry :=
  let (symlink_offset, data) := st
  if e.emitted then ((symlink_offset, data), e)
  else
    let (inode_offset, symlink_offset) :=
      if e.mode &&& S_IFMT ≠ S_IFLNK ∨ e.offset ≠ 0 then (e.offset, symlink_offset)
      else (symlink_offset, symlink_offset + e.size)
    let inode : Inode :=
      { mode := e.mode, flags := if e.is_opaque then OPAQUE else 0,
        hmtime := UInt8.ofNat (e.mtime >>> 32 &&& 0xf), owner := e.owner, group := e.group,
        lmtime := UInt32.ofNat e.mtime, size := UInt64.ofNat e.size,
        offset := UInt64.ofNat inode_offset }
    ((symlink_offset, data ++ inode.as_bytes), { e with emitted := true })

def etype (mode : UInt16) : UInt8 :=
  if mode &&& S_IFMT = S_IFSOCK then DT_SOCK
  else if mode &&& S_IFMT = S_IFLNK then DT_LNK
  else if mode &&& S_IFMT = S_IFREG then DT_REG
  else if mode &&& S_IFMT = S_IFBLK then DT_BLK
  else if mode &&& S_IFMT = S_IFDIR then DT_DIR
  else if mode &&& S_IFMT = S_IFCHR then DT_CHR
  else if mode &&& S_IFMT = S_IFIFO then DT_FIFO
  else DT_UNKNOWN

/-- The visitor of `write_direntry_bodies`: a directory's entries, its names placed from the next
string offset on. A child is read from the arena; it is never the directory itself here, as the
numbering pass would not have ended. -/
def write_direntries (arena : List Entry) (st : Nat × List UInt8) (e : Entry) :
    (Nat × List UInt8) × Entry :=
  if !e.isDir then (st, e)
  else
    let st := e.children.foldl (fun (offset, data) (name, c) =>
      let child := arena.getD c {}
      let dirent : DirEntry :=
        { ino := UInt64.ofNat child.ino, name_offset := UInt64.ofNat offset,
          name_len := UInt64.ofNat name.length, etype := etype child.mode }
      (offset + name.length, data ++ dirent.as_bytes)) st
    (st, e)

def write_direntry_bodies (fuel : Nat) (arena : List Entry) (root first_string_offset : Nat)
    (data : List UInt8) : Option (List Entry × Nat × List UInt8) :=
  visit Entry.childPtrs write_direntries fuel arena (first_string_offset, data) [root]

/-- The visitor that writes the names of a directory's children. -/
def write_names (_ : List Entry) (st : Nat × List UInt8) (e : Entry) : (Nat × List UInt8) × Entry :=
  if !e.isDir then (st, e)
  else
    (e.children.foldl (fun (end_offset, data) (name, _) => (end_offset + name.length, data ++ name))
      st, e)

def ALIGNMENT : Nat := 4096

def align (v : Nat) : Nat := (v + (ALIGNMENT - 1)) / ALIGNMENT * ALIGNMENT

/-- Writing `bytes` at `pos` after a seek: a seek past the end leaves zeros. -/
def write_at (data : List UInt8) (pos : Nat) (bytes : List UInt8) : List UInt8 :=
  let data := data ++ List.replicate (pos - data.length) 0
  data.take pos ++ bytes ++ data.drop (pos + bytes.length)

/-- `append_index` on a stream of `contents_size` bytes whose entries the tar crate reads as
`entries`: the bytes it writes from `contents_size` on, or `none` when a pass runs out of `fuel`. -/
def append_index (fuel contents_size : Nat) (entries : List TarEntry) : Option (List UInt8) := do
  let t := read_all_entries ⟨[{ mode := S_IFDIR ||| 0o555 }], 0, []⟩ entries
  let (arena, ino_count) ← visit Entry.childPtrs number_inode fuel t.arena 0 [t.root]
  let inode_table_size := 32 * ino_count
  let (arena, string_table_offset) ←
    init_direntry_offset fuel arena t.root (contents_size + inode_table_size)
  let (arena, symlink_offset, data) ←
    visit Entry.childPtrs write_inode fuel arena (string_table_offset, []) [t.root]
  let (_, end_offset, data) ← write_direntry_bodies fuel arena t.root symlink_offset data
  -- the targets of the special symlinks, in the order of the stream
  let end_offset := end_offset + (t.special_link.map List.length).sum
  let data := data ++ t.special_link.flatten
  let (_, end_offset, data) ← visit Entry.childPtrs write_names fuel arena (end_offset, data) [t.root]
  let end_offset := align end_offset
  let sb : SuperBlock :=
    { inode_table_offset := UInt64.ofNat contents_size, inode_count := UInt64.ofNat ino_count }
  let data := write_at data (end_offset + ALIGNMENT - 512 - contents_size) sb.as_bytes
  return write_at data (end_offset + (ALIGNMENT - 1) - contents_size) [0]

/-! ## A hard link below its own target -/

/-- The numbering visitor leaves the children as they are. -/
theorem childPtrs_number_inode (arena : List Entry) (n : Nat) (e : Entry) :
    (number_inode arena n e).2.childPtrs = e.childPtrs := by
  unfold number_inode
  split <;> rfl

/-- A regular file `f`, then a hard link `f/g` to it. -/
def link_below_target : List TarEntry :=
  [⟨.Regular, ascii "f", some 0o644, 0, 512, 0, none, none, none, none, 0, 0, 0⟩,
    ⟨.Link, ascii "f/g", some 0o644, 0, 0, 512, none, none, some (ascii "f"), some (ascii "f"),
      0, 0, 0⟩]

/-- The link makes `f` its own child `g`. -/
theorem read_link_below_target :
    read_all_entries ⟨[{ mode := S_IFDIR ||| 0o555 }], 0, []⟩ link_below_target =
      ⟨[{ mode := S_IFDIR ||| 0o555, children := [(ascii "f", 1)] },
        { offset := 512, mode := S_IFREG ||| 0o644, children := [(ascii "g", 1)] }], 0, []⟩ := by
  decide +kernel

/-- `append_index` of that stream runs for ever: no fuel is enough for the numbering pass, whatever
the size of the stream. -/
theorem append_index_link_loop (fuel contents_size : Nat) :
    append_index fuel contents_size link_below_target = none := by
  have hloop : visit Entry.childPtrs number_inode fuel
      [{ mode := S_IFDIR ||| 0o555, children := [(ascii "f", 1)] },
        { offset := 512, mode := S_IFREG ||| 0o644, children := [(ascii "g", 1)] }] 0 [0] = none := by
    cases fuel with
    | zero => rfl
    | succ fuel =>
      -- the root is visited, and its child `f` is in the queue for good
      simp only [visit]
      exact visit_self_loop childPtrs_number_inode fuel (p := 1) rfl (by decide) (by decide)
  simp only [append_index, read_link_below_target, hloop]
  rfl

/-! ## Two long symlinks -/

/-- The symlink `name` to `target`, which an extension header holds: the header's own field is
empty. -/
def long_symlink (name target : String) (header : Nat) : TarEntry :=
  ⟨.Symlink, ascii name, some 0o777, 0, 0, header, none, none, some (ascii target), none, 0, 0, 0⟩

/-- `z` to `Z`, then `a` to `A`, in a stream of three blocks. -/
def long_links : List TarEntry := [long_symlink "z" "Z" 0, long_symlink "a" "A" 512]

/-- The inode of `a`, the second of the table, puts its target of one byte at offset 1696, but
the byte written there, at 160 past the stream's 1536 bytes, is `Z`: the targets are written in
the order of the stream, `z`'s first, while the tree meets `a` first. -/
theorem special_link_offset_mismatch :
    (append_index 8 1536 long_links).map (fun data => ((data.drop 32).take 32, data[160]?)) =
      some ((Inode.as_bytes ⟨S_IFLNK ||| 0o777, 0, 0, 0, 0, 0, 1, 1696⟩), some (ascii "Z").head!) := by
  decide +kernel

/-! ## Writing into a cell of the tree

The first callback replaces the entry in the cell it finds (`*cur = Entry { children:
BTreeMap::new(), .. }`): a directory header for a directory that is there drops its children, and
a header for a name that a hard link shares with another writes the entry that both names show. -/

/-- The cell that `path` names from `ptr`, following the children without creating any. -/
def walk (arena : List Entry) (ptr : Nat) : List Bytes → Option Nat
  | [] => some ptr
  | c :: cs =>
    match (arena.getD ptr {}).children.lookup c with
    | some child => walk arena child cs
    | none => none

/-- The cells whose children a walk reads: every cell on the way but the last. -/
def walk_nodes (arena : List Entry) (ptr : Nat) : List Bytes → List Nat
  | [] => []
  | c :: cs =>
    ptr :: match (arena.getD ptr {}).children.lookup c with
      | some child => walk_nodes arena child cs
      | none => []

/-- Whether the first callback puts an entry at `path`: its last component is neither the
opaque marker nor a whiteout. -/
def put_path (path : List Bytes) : Bool :=
  match path.getLast? with
  | none => true
  | some n => n != ascii ".wh..wh..opq" && !(ascii ".wh.").isPrefixOf n

/-- Along a path that is there, `traverse_path` creates nothing. -/
lemma traverse_path_of_walk {arena : List Entry} {ptr i : Nat} {path : List Bytes}
    (h : walk arena ptr path = some i) : traverse_path arena ptr path = (arena, i) := by
  induction path generalizing ptr with
  | nil =>
    cases h
    rfl
  | cons c cs ih =>
    simp only [walk] at h
    split at h
    next child hc =>
      have hstep : find_or_create_child arena ptr c = (arena, child) := by
        simp only [find_or_create_child, hc]
      simp only [traverse_path, List.foldl_cons, hstep]
      exact ih h
    · cases h

/-- A walk that reads no children of cell `j` is the same once `j` is replaced. -/
lemma walk_set_of_not_mem {arena : List Entry} {ptr j : Nat} {e : Entry} {path : List Bytes}
    (h : j ∉ walk_nodes arena ptr path) : walk (arena.set j e) ptr path = walk arena ptr path := by
  induction path generalizing ptr with
  | nil => rfl
  | cons c cs ih =>
    simp only [walk_nodes, List.mem_cons, not_or] at h
    have hget : (arena.set j e).getD ptr {} = arena.getD ptr {} := by
      rw [List.getD_eq_getElem?_getD, List.getD_eq_getElem?_getD, List.getElem?_set_ne h.1]
    simp only [walk, hget]
    split
    next child hc =>
      rw [hc] at h
      exact ih h.2
    · rfl

/-- The first callback at a path that is there replaces the entry of its cell. -/
lemma cb_of_walk {t : Tree} {name : Bytes} {e : Entry} {path : List Bytes} {i : Nat}
    (hp : clean_path name = some path) (hput : put_path path = true)
    (hwalk : walk t.arena t.root path = some i) :
    t.cb name e = { t with arena := t.arena.set i { e with children := [] } } := by
  unfold Tree.cb
  rw [hp]
  dsimp only
  rw [traverse_path_of_walk hwalk]
  unfold put_path at hput
  split
  · rfl
  next n hn =>
    rw [hn] at hput
    simp only [Bool.and_eq_true, bne_iff_ne, ne_eq, Bool.not_eq_eq_eq_not, Bool.not_true] at hput
    simp [hput.1, hput.2]

/-- The first callback at a path that is there writes its entry into the cell, and a name that
reaches the cell without reading its children still reaches it. -/
lemma cb_overwrites_cell {t : Tree} {name : Bytes} {e : Entry} {path q : List Bytes} {i : Nat}
    (hp : clean_path name = some path) (hput : put_path path = true)
    (hwalk : walk t.arena t.root path = some i) (hi : i < t.arena.length)
    (hq : walk t.arena t.root q = some i) (hnodes : i ∉ walk_nodes t.arena t.root q) :
    walk (t.cb name e).arena (t.cb name e).root q = some i ∧
      (t.cb name e).arena.getD i {} = { e with children := [] } := by
  rw [cb_of_walk hp hput hwalk]
  refine ⟨by rw [walk_set_of_not_mem hnodes, hq], ?_⟩
  rw [List.getD_eq_getElem?_getD, List.getElem?_set_self hi, Option.getD_some]

lemma read_entry_of_directory {t : Tree} {f : TarEntry} {m : Nat} (hm : f.mode = some m)
    (hty : f.entry_type = .Directory) :
    read_entry t f = t.cb f.path_bytes (f.entry (UInt16.ofNat m &&& 0x1ff ||| S_IFDIR) 0 0) := by
  simp only [read_entry, hm, hty]

lemma read_entry_of_regular {t : Tree} {f : TarEntry} {m : Nat} (hm : f.mode = some m)
    (hty : f.entry_type = .Regular) :
    read_entry t f =
      t.cb f.path_bytes (f.entry (UInt16.ofNat m &&& 0x1ff ||| S_IFREG) f.size f.raw_file_position) := by
  simp only [read_entry, hm, hty]

/-- A directory or regular header whose path is there writes its entry, without children, into
the cell the path names, and every name that reaches that cell without reading its children
still reaches it: a directory header drops the children of the directory that is there, and a
regular header on a name that a hard link shares changes what the other name shows. -/
theorem read_entry_overwrites_cell {t : Tree} {f : TarEntry} {m : Nat} {path q : List Bytes}
    {i : Nat} (hm : f.mode = some m) (hp : clean_path f.path_bytes = some path)
    (hput : put_path path = true) (hwalk : walk t.arena t.root path = some i)
    (hi : i < t.arena.length) (hq : walk t.arena t.root q = some i)
    (hnodes : i ∉ walk_nodes t.arena t.root q) :
    (f.entry_type = .Directory →
      walk (read_entry t f).arena (read_entry t f).root q = some i ∧
        (read_entry t f).arena.getD i {} = f.entry (UInt16.ofNat m &&& 0x1ff ||| S_IFDIR) 0 0) ∧
    (f.entry_type = .Regular →
      walk (read_entry t f).arena (read_entry t f).root q = some i ∧
        (read_entry t f).arena.getD i {} =
          f.entry (UInt16.ofNat m &&& 0x1ff ||| S_IFREG) f.size f.raw_file_position) := by
  constructor
  · intro hty
    rw [read_entry_of_directory hm hty]
    exact cb_overwrites_cell hp hput hwalk hi hq hnodes
  · intro hty
    rw [read_entry_of_regular hm hty]
    exact cb_overwrites_cell hp hput hwalk hi hq hnodes

/-- A header of type `ty` for `name`, of mode `0o755`, its data at `pos`. -/
def plain_header (ty : EntryType) (name : String) (pos : Nat) : TarEntry :=
  ⟨ty, ascii name, some 0o755, 0, pos, pos, none, none, none, none, 0, 0, 0⟩

/-- The hard link `name` to `target`. -/
def link_header (name target : String) : TarEntry :=
  ⟨.Link, ascii name, some 0o755, 0, 0, 0, none, none, some (ascii target), some (ascii target),
    0, 0, 0⟩

/-- After the directory `d` and its file `d/f`, a second header for `d` leaves it without `f`;
after the file `a` and the hard link `b` to it, a file header for `b` changes `a`. -/
theorem read_entry_overwrites_cell_dir_and_link :
    ((read_all_entries ⟨[{ mode := S_IFDIR ||| 0o555 }], 0, []⟩
        [plain_header .Directory "d" 0, plain_header .Regular "d/f" 512]).arena.getD 1 {}).children =
      [(ascii "f", 2)] ∧
    (walk (read_entry (read_all_entries ⟨[{ mode := S_IFDIR ||| 0o555 }], 0, []⟩
          [plain_header .Directory "d" 0, plain_header .Regular "d/f" 512])
          (plain_header .Directory "d" 1024)).arena 0 [ascii "d"] = some 1 ∧
      (read_entry (read_all_entries ⟨[{ mode := S_IFDIR ||| 0o555 }], 0, []⟩
          [plain_header .Directory "d" 0, plain_header .Regular "d/f" 512])
          (plain_header .Directory "d" 1024)).arena.getD 1 {} =
        (plain_header .Directory "d" 1024).entry (UInt16.ofNat 0o755 &&& 0x1ff ||| S_IFDIR) 0 0) ∧
    walk (read_all_entries ⟨[{ mode := S_IFDIR ||| 0o555 }], 0, []⟩
        [plain_header .Regular "a" 512, link_header "b" "a"]).arena 0 [ascii "b"] = some 1 ∧
    (walk (read_entry (read_all_entries ⟨[{ mode := S_IFDIR ||| 0o555 }], 0, []⟩
          [plain_header .Regular "a" 512, link_header "b" "a"])
          (plain_header .Regular "b" 1536)).arena 0 [ascii "a"] = some 1 ∧
      (read_entry (read_all_entries ⟨[{ mode := S_IFDIR ||| 0o555 }], 0, []⟩
          [plain_header .Regular "a" 512, link_header "b" "a"])
          (plain_header .Regular "b" 1536)).arena.getD 1 {} =
        (plain_header .Regular "b" 1536).entry (UInt16.ofNat 0o755 &&& 0x1ff ||| S_IFREG) 0 1536) :=
  ⟨by decide +kernel,
    (@read_entry_overwrites_cell _ (plain_header .Directory "d" 1024) 0o755 [ascii "d"]
      [ascii "d"] 1 rfl (by decide +kernel) (by decide) (by decide +kernel) (by decide +kernel)
      (by decide +kernel) (by decide +kernel)).1 rfl,
    by decide +kernel,
    (@read_entry_overwrites_cell _ (plain_header .Regular "b" 1536) 0o755 [ascii "b"]
      [ascii "a"] 1 rfl (by decide +kernel) (by decide) (by decide +kernel) (by decide +kernel)
      (by decide +kernel) (by decide +kernel)).2 rfl⟩

end KataContainers.Tardev
