import KataContainers.Agent.Storage

/-!
# The agent's watcher of watchable mounts

Model of `Storage` in `src/agent/src/watcher.rs`, over the filesystem of `Posix.Fs`: `copy`,
`Storage::update_target`, `Storage::scan`, `Storage::scan_path` and `Storage::make_target_path`.
A scan drops from `watched_files` the paths that no longer exist and removes their targets, walks
the source tree recording each path's modification time, and copies to the target the paths that
are new or, for files and symlinks, newer than recorded.

The filesystem's inodes carry no times: a scan reads them from `mtime`, which gives the time of
each canonical path and does not change during the scan, as the source does not. A file's contents
are its size. `HashMap` iteration is taken in insertion order, one of the orders the map may use.
The recursion of `scan_path` takes a depth budget and reports `out_of_fuel` when it is spent.

`scan_path` records a directory it reaches for the first time and never looks at a path's type
again: a file that became a directory keeps its recorded time, is not queued, and its target stays
a regular file after a scan that returns `Ok` (`scan_keeps_file_turned_dir`).
-/

namespace KataContainers.Agent.Watcher

open Posix

/-- The maximum number of file system entries the agent watches for each mount. -/
def MAX_ENTRIES_PER_STORAGE : Nat := 16

/-- The maximum size of a watchable mount in bytes. -/
def MAX_SIZE_PER_WATCHABLE_MOUNT : UInt64 := 1024 * 1024

/-- `WatcherError`: the two limits of a watchable mount. -/
inductive WatcherError
  | MountTooManyFiles (count : Nat) (mnt : Path)
  | MountTooLarge (size : UInt64) (mnt : Path)
  deriving DecidableEq, Repr

/-- The errors a scan returns: an I/O error, a path outside the source mount point
(`Failed to strip prefix`), a watcher limit, or a spent depth budget. -/
inductive ScanError
  | io (e : Errno)
  | strip_prefix_failed
  | watcher (e : WatcherError)
  | out_of_fuel
  deriving DecidableEq, Repr

/-- `Storage`: a watched mount, with the modification time recorded for each watched path. -/
structure Storage where
  source_mount_point : Path
  target_mount_point : Path
  watch : Bool
  watched_files : List (Path × Nat)
  deriving DecidableEq, Repr

/-- `Storage::new` from the `source` and `mount_point` of a `protos::Storage`. -/
def Storage.new (source mount_point : Path) : Storage :=
  ⟨source, mount_point, true, []⟩

/-- What a scan works on: the filesystem, the storage (`&mut self`) and the list of paths to
update (`update_list`), each kept as it stands when the scan fails. -/
structure ScanState where
  fs : Fs
  storage : Storage
  update_list : List Path
  deriving DecidableEq, Repr

abbrev ScanM := ExceptT ScanError (StateM ScanState)

/-- Run a filesystem computation inside a scan. -/
def on_fs {α : Type} (x : FsM ScanError α) : ScanM α := fun s =>
  match x s.fs with
  | (r, fs') => (r, { s with fs := fs' })

/-- A system call inside a scan, its errors as `ScanError.io`. -/
def io {α : Type} (x : FsM Errno α) : ScanM α :=
  on_fs (FsM.lift .io x)

/-- `HashMap::insert`: the new time in place of the old one, or a new entry at the end; returns the
old time. -/
def insert_watched (w : List (Path × Nat)) (p : Path) (t : Nat) :
    List (Path × Nat) × Option Nat :=
  match w.lookup p with
  | some old => (w.map fun e => if e.1 = p then (p, t) else e, some old)
  | none => (w ++ [(p, t)], none)

/-- `self.watched_files.insert(path, modified)` inside a scan. -/
def insert_file (p : Path) (t : Nat) : ScanM (Option Nat) := do
  let s ← get
  let (w, old) := insert_watched s.storage.watched_files p t
  set { s with storage := { s.storage with watched_files := w } }
  pure old

/-- `update_list.push(path)`. -/
def push_update (p : Path) : ScanM Unit :=
  modify fun s => { s with update_list := s.update_list ++ [p] }

/-- `Metadata::len` of an `lstat`: a file's size, or the length of a link's target; a directory's is
never read. -/
def len (i : Inode) : UInt64 :=
  match i.kind with
  | .file size => size.toUInt64
  | .symlink t => t.length.toUInt64
  | .dir => 0

/-- `Storage::make_target_path`: the source path moved from the source mount point to the target
mount point. -/
def make_target_path (s : Storage) (source_file_path : Path) : Except ScanError Path :=
  match strip_prefix source_file_path s.source_mount_point with
  | some relative_path => .ok (push s.target_mount_point relative_path)
  | none => .error .strip_prefix_failed

/-- `fs::copy(from, to)` on Linux: the source, through links, must be a regular file; the
destination is opened through links with `O_CREAT | O_TRUNC`, takes the contents and gets the
source's permission bits. -/
def fs_copy (src dst : Path) : FsM Errno Unit := do
  let (_, reader_metadata) ← stat_at true src
  match reader_metadata.kind with
  | .file size =>
    let q ← open_create dst
    update_inode q fun i => { i with kind := .file size, mode := reader_metadata.mode &&& 0o7777 }
  | _ => throw .EINVAL

/-- `copy(from, to)`: a link is re-created with the same target, over whatever `to` names if that is
not a directory; anything else goes through `fs::copy`. Then `chown` (through links) gives `to` the
source's owner. -/
def copy (src dst : Path) : FsM Errno Unit := do
  let (_, metadata) ← stat_at false src
  match metadata.kind with
  | .symlink _ =>
    match ← attempt (stat_at false dst) with
    | .ok _ => unlink dst
    | .error _ => pure ()
    symlink (← readlink src) dst
  | _ => fs_copy src dst
  chown_at true dst metadata.uid metadata.gid

/-- `Storage::update_target(source_path)`: a directory is created at its target with the source's
permissions and owner; a file or a link is copied to its target, whose parent is created first, or
to the target mount point itself when the source mount point is a file. -/
def update_target (s : Storage) (source_path : Path) : FsM ScanError Unit := do
  let (_, metadata) ← FsM.lift .io (stat_at false source_path)
  if metadata.kind = .dir then
    let dest_file_path ← MonadExcept.ofExcept (make_target_path s source_path)
    FsM.lift .io (create_dir_all dest_file_path)
    FsM.lift .io (chmod dest_file_path metadata.mode)
    FsM.lift .io (chown_at true dest_file_path metadata.uid metadata.gid)
    return ()
  let dest_file_path ←
    if ← FsM.lift .io (is_file s.source_mount_point) then
      pure s.target_mount_point
    else do
      let dest_file_path ← MonadExcept.ofExcept (make_target_path s source_path)
      if let some path := parent dest_file_path then
        FsM.lift .io (create_dir_all path)
      pure dest_file_path
  FsM.lift .io (copy source_path dest_file_path)

/-- `Storage::scan_path(path, update_list)` with a depth budget: a file or a link counts its size
and is queued when it is new or newer than recorded, and the number of watched paths is checked; a
directory is queued when it is new and its entries are scanned. The total size is checked last. -/
def scan_path (mtime : List Name → Nat) : Nat → Path → ScanM UInt64
  | 0, _ => throw .out_of_fuel
  | n + 1, path => do
    let mut size : UInt64 := 0
    let (q, metadata) ← io (stat_at false path)
    let modified := mtime q
    if (← io (is_file path)) || metadata.kind matches .symlink _ then
      size := size + len metadata
      match ← insert_file path modified with
      | some old_st => if modified > old_st then push_update path
      | none => push_update path
      let s ← get
      if ¬ s.storage.watched_files.length ≤ MAX_ENTRIES_PER_STORAGE then
        throw (.watcher (.MountTooManyFiles s.storage.watched_files.length
          s.storage.source_mount_point))
    else
      if (← insert_file path modified).isNone then push_update path
      for entry in ← io (read_dir path) do
        let res_size ← scan_path mtime n entry
        size := size + res_size
    if ¬ size ≤ MAX_SIZE_PER_WATCHABLE_MOUNT then
      throw (.watcher (.MountTooLarge size (← get).storage.source_mount_point))
    return size

/-- `watched_files.retain(|st, _| st.exists())`: the entries kept, and the removed paths in the
order they were visited (`remove_list`). -/
def retain_existing : List (Path × Nat) → FsM Errno (List (Path × Nat) × List Path)
  | [] => pure ([], [])
  | (st, t) :: rest => do
    let keep ← exists_path st
    let (kept, removed) ← retain_existing rest
    if keep then pure ((st, t) :: kept, removed) else pure (kept, st :: removed)

/-- The removal of the target of a path that no longer exists: a directory with its contents,
anything else with `remove_file`; the removal's own errors are ignored. -/
def remove_target (s : Storage) (path : Path) : FsM ScanError Unit := do
  let target ← MonadExcept.ofExcept (make_target_path s path)
  let target_is_dir ←
    if ← FsM.lift .io (exists_path target) then do
      let (_, i) ← FsM.lift .io (stat_at false target)
      pure (i.kind == .dir)
    else pure false
  if target_is_dir then
    let _ ← FsM.lift .io (attempt (remove_dir_all target))
  else
    let _ ← FsM.lift .io (attempt (unlink target))

/-- `Storage::scan`: forget and remove what no longer exists, scan the source mount point, then
update each queued path, logging and skipping the updates that fail. Returns the number of queued
paths. -/
def scan (mtime : List Name → Nat) (fuel : Nat) : ScanM Nat := do
  let (kept, remove_list) ← io (retain_existing (← get).storage.watched_files)
  modify fun s => { s with storage := { s.storage with watched_files := kept }, update_list := [] }
  for path in remove_list do
    on_fs (remove_target (← get).storage path)
  let _ ← scan_path mtime fuel (← get).storage.source_mount_point
  let s ← get
  for path in s.update_list do
    on_fs (try update_target s.storage path catch _ => pure ())
  return s.update_list.length

/-- The target tree mirrors the source tree: at every relative path both sides are absent, or both
hold inodes of the same type, contents or link target and owner, with the same permissions for a
directory. -/
def Mirror (fs : Fs) (src dst : List Name) : Prop :=
  ∀ rel : List Name,
    match fs.get (src ++ rel), fs.get (dst ++ rel) with
    | none, none => True
    | some i, some j => i.kind = j.kind ∧ i.uid = j.uid ∧ i.gid = j.gid ∧
        (i.kind = .dir → i.mode = j.mode)
    | _, _ => False

/-- A relative path where the two sides hold inodes of different types breaks the mirror. -/
lemma not_mirror_of_kind_ne {fs : Fs} {src dst rel : List Name} {i j : Inode}
    (hs : fs.get (src ++ rel) = some i) (ht : fs.get (dst ++ rel) = some j)
    (hk : i.kind ≠ j.kind) : ¬ Mirror fs src dst := by
  intro h
  have hrel := h rel
  rw [hs, ht] at hrel
  exact hk hrel.1

/-- A source mount point `/s` holding a file `/s/a` of three bytes, and an empty target `/t`. -/
def source_with_file : Fs :=
  [([], ⟨.dir, 0o755, 0, 0⟩), ([utf8 "s"], ⟨.dir, 0o755, 0, 0⟩),
   ([utf8 "s", utf8 "a"], ⟨.file 3, 0o644, 0, 0⟩), ([utf8 "t"], ⟨.dir, 0o755, 0, 0⟩)]

/-- The first scan of the storage `/s` → `/t`, with every time `1`. -/
def first_scan : Except ScanError Nat × ScanState :=
  (scan (fun _ => 1) 4).run
    ⟨source_with_file, Storage.new (components (utf8 "/s")) (components (utf8 "/t")), []⟩

/-- The state after the first scan with the file `/s/a` replaced by a directory. -/
def file_turned_dir : ScanState :=
  { first_scan.2 with fs := first_scan.2.fs.set [utf8 "s", utf8 "a"] (some ⟨.dir, 0o755, 0, 0⟩) }

/-- The second scan, with every time `2`. -/
def second_scan : Except ScanError Nat × ScanState :=
  (scan (fun _ => 2) 4).run file_turned_dir

theorem scan_keeps_file_turned_dir :
    first_scan.1 = .ok 2 ∧ second_scan.1 = .ok 0 ∧
      ¬ Mirror second_scan.2.fs [utf8 "s"] [utf8 "t"] := by
  refine ⟨by decide +kernel, by decide +kernel, ?_⟩
  have hs : second_scan.2.fs.get ([utf8 "s"] ++ [utf8 "a"]) = some ⟨.dir, 0o755, 0, 0⟩ := by
    decide +kernel
  have ht : second_scan.2.fs.get ([utf8 "t"] ++ [utf8 "a"]) = some ⟨.file 3, 0o644, 0, 0⟩ := by
    decide +kernel
  exact not_mirror_of_kind_ne hs ht nofun

end KataContainers.Agent.Watcher
