import KataContainers.Posix.Fs

/-!
# The Rust standard library's filesystem calls

`std::fs` and the filesystem queries of `std::path::Path` on Linux, written over the system calls
of `Posix.Fs`: `Path::exists`, `Path::is_dir` and `Path::is_file` follow links (`metadata`),
`Path::is_symlink` does not (`symlink_metadata`), `fs::canonicalize` is `realpath(3)`, and `fs::create_dir_all` is the
recursive `DirBuilder` of `std::sys_common::fs`, which creates the missing ancestors from the top
down and accepts a directory that is already there.
-/

namespace Posix

/-- Run a call, keeping its state and dropping its result: `Ok` or the error. -/
def attempt {α : Type} (x : FsM Errno α) : FsM Errno (Except Errno α) :=
  fun fs => match x fs with
    | (.ok a, fs') => (.ok (.ok a), fs')
    | (.error e, fs') => (.ok (.error e), fs')

/-- The answer of a call that only reads the filesystem. -/
def Fs.query {α : Type} (fs : Fs) (x : FsM Errno α) : Except Errno α :=
  (x.run fs).1

/-- `Path::exists`: `fs::metadata(path).is_ok()`. -/
def exists_path (p : Path) : FsM Errno Bool := do
  match (← attempt (stat_at true p)) with
  | .ok _ => pure true
  | .error _ => pure false

/-- `Path::is_dir`: the path names a directory, through links. -/
def is_dir (p : Path) : FsM Errno Bool := do
  match (← attempt (stat_at true p)) with
  | .ok (_, i) => pure (i.kind == .dir)
  | .error _ => pure false

/-- `Path::is_file`: the path names a regular file, through links. -/
def is_file (p : Path) : FsM Errno Bool := do
  match (← attempt (stat_at true p)) with
  | .ok (_, i) =>
    match i.kind with
    | .file _ => pure true
    | _ => pure false
  | .error _ => pure false

/-- `Path::is_symlink`: the path itself is a link. -/
def is_symlink (p : Path) : FsM Errno Bool := do
  match (← attempt (stat_at false p)) with
  | .ok (_, i) =>
    match i.kind with
    | .symlink _ => pure true
    | _ => pure false
  | .error _ => pure false

/-- `fs::canonicalize` (`realpath(3)`): the canonical path of an existing object. -/
def canonicalize (p : Path) : FsM Errno (List Name) := do
  let (q, _) ← stat_at true p
  pure q

/-- `DirBuilder::create_dir_all` with the default mode `0o777`, on a path of `n` components:
`mkdir`, and on `ENOENT` the parent first, then `mkdir` again; an error where a directory now
stands counts as success. At a root it cannot create it fails with "failed to create whole tree". -/
def create_dir_all_aux : Nat → Path → FsM Errno Unit
  | 0, _ => pure ()
  | n + 1, p => do
    if p = [] then return ()
    match (← attempt (mkdir p 0o777)) with
    | .ok () => return ()
    | .error .ENOENT => pure ()
    | .error e => if (← is_dir p) then return () else throw e
    match parent p with
    | some q => create_dir_all_aux n q
    | none => throw .EOTHER
    match (← attempt (mkdir p 0o777)) with
    | .ok () => pure ()
    | .error e => if (← is_dir p) then pure () else throw e

/-- `fs::create_dir_all(path)`. -/
def create_dir_all (p : Path) : FsM Errno Unit :=
  create_dir_all_aux p.length p

/-- `fs::remove_dir_all(path)`: a link is removed itself; a directory is removed with everything
below it; anything else is `ENOTDIR`. -/
def remove_dir_all (p : Path) : FsM Errno Unit := do
  let (q, i) ← stat_at false p
  match i.kind with
  | .dir => modify fun fs => fs.filter fun e => !is_below e.1 q
  | .symlink _ => modify fun fs => fs.set q none
  | .file _ => throw .ENOTDIR

end Posix
