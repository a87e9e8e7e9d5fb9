import KataContainers.Agent.Policy
import KataContainers.Posix.Std

/-!
# `do_copy_file`

Model of `do_copy_file` in `src/agent/src/rpc.rs`, the body of the `CopyFile` ttrpc call, over the
filesystem of `Posix.Fs`. The request's path must start with `CONTAINER_BASE`; a missing parent
directory is created with `create_dir_all` and given `dir_mode`; then the request makes a
directory (`S_IFDIR` in `file_mode`), a symlink to `data` (`S_IFLNK`), or writes `data` at
`offset` into `<path>.tmp`, and once that file has `file_size` bytes gives it its mode and owner and
renames it over the path.

The only confinement check is `Path::starts_with`, which compares components: a path such as
`/run/kata-containers/../../tmp/x` passes it, and so does a path through a symlink that an earlier
`S_IFLNK` request planted under `CONTAINER_BASE`. `do_copy_file_escapes_base` runs the first case
and `do_copy_file_writes_through_planted_link` the second.
-/

namespace KataContainers.Agent

open Posix

def CONTAINER_BASE : String := "/run/kata-containers"

/-- The errors of `do_copy_file`: an I/O error, or the message of its prefix check. -/
inductive CopyFileError
  | io (e : Errno)
  | msg (text : String)
  deriving DecidableEq, Repr

/-- `x as u32` for an `i32`. -/
def as_u32 (x : Int) : UInt32 :=
  UInt32.ofNat (x % 4294967296).toNat

/-- `x as u64` for an `i64`. -/
def as_u64 (x : Int) : UInt64 :=
  UInt64.ofNat (x % 18446744073709551616).toNat

/-- A system call inside `do_copy_file`, its error turned into `anyhow::Error` by `?`. -/
abbrev io {α : Type} (x : FsM Errno α) : FsM CopyFileError α :=
  FsM.lift CopyFileError.io x

/-- `do_copy_file(req)`. -/
def do_copy_file (req : CopyFileRequest) : FsM CopyFileError Unit := do
  let path := components (utf8 req.path)
  if !starts_with path (components (utf8 CONTAINER_BASE)) then
    throw (.msg ("Path " ++ req.path ++ " does not start with " ++ CONTAINER_BASE))
  if let some dir := parent path then
    if !(← io (exists_path dir)) then
      match ← io (attempt (create_dir_all dir)) with
      | .error e => if e ≠ .EEXIST then throw (.io e)
      | .ok () => io (chmod dir req.dir_mode)
  if sflag_contains req.file_mode S_IFDIR then
    match ← io (attempt (mkdir path 0o777)) with
    | .error e => if e ≠ .EEXIST then throw (.io e)
    | .ok () => pure ()
    io (chmod path req.file_mode)
    io (chown_at true path (as_u32 req.uid) (as_u32 req.gid))
    return ()
  if sflag_contains req.file_mode S_IFLNK then
    -- the `..data` link of a Kubernetes secret volume is replaced on update
    if (← io (is_symlink path)) && (← io (exists_path path)) then
      io (unlink path)
    io (symlink req.data path)
    io (chown_at false path (as_u32 req.uid) (as_u32 req.gid))
    return ()
  let tmpfile := set_extension path (utf8 "tmp")
  let file ← io (open_create tmpfile)
  io (pwrite file req.data.length (as_u64 req.offset))
  let (_, st) ← io (stat_at true tmpfile)
  let size : Int := match st.kind with
    | .file n => n
    | _ => 0
  if size ≠ req.file_size then return ()
  io (update_inode file fun i => { i with mode := req.file_mode &&& 0o7777 })
  io (chown_at true tmpfile (as_u32 req.uid) (as_u32 req.gid))
  io (rename tmpfile path)

/-- `do_copy_file` on each request in turn, each from the filesystem the previous one left; a
failing request does not stop the later ones. -/
def copy_file_run (fs : Fs) : List CopyFileRequest → Fs
  | [] => fs
  | r :: rs => copy_file_run ((do_copy_file r).run fs).2 rs

/-- `CONTAINER_BASE` as a canonical path. -/
def container_base : List Name := [utf8 "run", utf8 "kata-containers"]

/-- A guest filesystem with `/run/kata-containers` and `/tmp` and no symlink at all. -/
def sample_fs : Fs :=
  [([], ⟨.dir, 0o755, 0, 0⟩), ([utf8 "run"], ⟨.dir, 0o755, 0, 0⟩),
   (container_base, ⟨.dir, 0o755, 0, 0⟩), ([utf8 "tmp"], ⟨.dir, 0o755, 0, 0⟩)]

/-- A `CopyFileRequest` for a regular file whose path climbs out of `CONTAINER_BASE`. -/
def escape_req : CopyFileRequest :=
  { path := "/run/kata-containers/../../tmp/x", file_size := 0, file_mode := 0o100644,
    dir_mode := 0o755, uid := 0, gid := 0, offset := 0, data := [] }

/-- `do_copy_file` accepts `/run/kata-containers/../../tmp/x` and creates `/tmp/x`, outside
`CONTAINER_BASE`, on a filesystem with no symlink. -/
theorem do_copy_file_escapes_base :
    (∀ e ∈ sample_fs, e.2.kind = .dir) ∧
      ((do_copy_file escape_req).run sample_fs).1 = .ok () ∧
      sample_fs.get [utf8 "tmp", utf8 "x"] = none ∧
      ((do_copy_file escape_req).run sample_fs).2.get [utf8 "tmp", utf8 "x"] =
        some ⟨.file 0, 0o644, 0, 0⟩ ∧
      is_below [utf8 "tmp", utf8 "x"] container_base = false := by
  decide

/-- A `CopyFileRequest` that plants the link `/run/kata-containers/l -> /tmp`. -/
def plant_link_req : CopyFileRequest :=
  { path := "/run/kata-containers/l", file_size := 0, file_mode := 0o120777,
    dir_mode := 0o755, uid := 0, gid := 0, offset := 0, data := utf8 "/tmp" }

/-- Two requests whose paths stay lexically under `CONTAINER_BASE`: `plant_link_req`, then a file
`/run/kata-containers/l/x`, which is written through the link to `/tmp/x`. -/
theorem do_copy_file_writes_through_planted_link :
    (copy_file_run sample_fs
        [plant_link_req, { escape_req with path := "/run/kata-containers/l/x" }]).get
        [utf8 "tmp", utf8 "x"] =
      some ⟨.file 0, 0o644, 0, 0⟩ := by
  decide

end KataContainers.Agent
