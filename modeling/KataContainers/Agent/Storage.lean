import KataContainers.Posix.Std

/-!
# Ownership change of fsGroup storages

Model of `recursive_ownership_change` in `src/agent/src/storage/mod.rs`, which `set_ownership`
runs on the mount point of a storage with an `fsGroup` (uid `None`, gid the group), over the
filesystem of `Posix.Fs`. On a directory it first recurses into each entry that `read_dir` lists,
by the path `path.join(name)`, then skips the path if it is a symlink, and otherwise `chown`s it and,
when a gid is given, ors the masks into its mode.

The recursion has no bound of its own; the model takes a depth budget and reports `out_of_fuel`
when the budget is spent, which a run with budget above its depth never does.

`Path::is_dir` follows links and the symlink test comes after the recursion, so a link to a
directory is descended into: its entries are reached through paths that end in an ordinary name
and are changed (`recursive_ownership_change_follows_dir_link`), although the source comment says
symlinks are skipped so that their targets keep their permissions.
-/

namespace KataContainers.Agent

open Posix

def RW_MASK : UInt32 := 0o660
def RO_MASK : UInt32 := 0o440
def EXEC_MASK : UInt32 := 0o110
def MODE_SETGID : UInt32 := 0o2000

/-- The errors of `recursive_ownership_change`: an I/O error, or a spent depth budget. -/
inductive OwnershipError
  | io (e : Errno)
  | out_of_fuel
  deriving DecidableEq, Repr

/-- `fs::read_dir(path)`: the entries of the directory the path names (through links), each as
`path.join(name)`. -/
def read_dir (p : Path) : FsM Errno (List Path) := do
  let (q, i) ← stat_at true p
  match i.kind with
  | .dir => return (← get).children q |>.map fun n => push p [.Normal n]
  | _ => throw .ENOTDIR

/-- `recursive_ownership_change(path, uid, gid, read_only)` with a depth budget; `none` is passed
to `chown` as `-1`. -/
def recursive_ownership_change :
    Nat → Path → Option UInt32 → Option UInt32 → Bool → FsM OwnershipError Unit
  | 0, _, _, _, _ => throw .out_of_fuel
  | n + 1, path, uid, gid, read_only => do
    let mut mask := if read_only then RO_MASK else RW_MASK
    if ← FsM.lift .io (is_dir path) then
      for entry in ← FsM.lift .io (read_dir path) do
        recursive_ownership_change n entry uid gid read_only
      mask := mask ||| EXEC_MASK
      mask := mask ||| MODE_SETGID
    -- symlinks are skipped, so that the files they point to keep their permissions
    if ← FsM.lift .io (is_symlink path) then return ()
    FsM.lift .io (chown_at true path (uid.getD ID_UNCHANGED) (gid.getD ID_UNCHANGED))
    if gid.isSome then
      let (_, i) ← FsM.lift .io (stat_at true path)
      FsM.lift .io (chmod path (i.mode ||| mask))

/-- A mount point `/m` holding a link `/m/l -> /o` to a directory outside it, with a file
`/o/f` of group 0 and mode `0o600`. -/
def dir_link_fs : Fs :=
  [([], ⟨.dir, 0o755, 0, 0⟩), ([utf8 "m"], ⟨.dir, 0o755, 0, 0⟩), ([utf8 "o"], ⟨.dir, 0o700, 0, 0⟩),
   ([utf8 "m", utf8 "l"], ⟨.symlink (utf8 "/o"), 0o777, 0, 0⟩),
   ([utf8 "o", utf8 "f"], ⟨.file 0, 0o600, 0, 0⟩)]

/-- `set_ownership`'s call on `/m` with group 3000 succeeds and gives `/o/f`, reachable from `/m`
only through the link `/m/l`, the group 3000 and the mode `0o660`. -/
theorem recursive_ownership_change_follows_dir_link :
    ((recursive_ownership_change 4 (components (utf8 "/m")) none (some 3000) false).run
        dir_link_fs).1 = .ok () ∧
      ((recursive_ownership_change 4 (components (utf8 "/m")) none (some 3000) false).run
        dir_link_fs).2.get [utf8 "o", utf8 "f"] = some ⟨.file 0, 0o660, 0, 3000⟩ ∧
      dir_link_fs.get [utf8 "o", utf8 "f"] = some ⟨.file 0, 0o600, 0, 0⟩ ∧
      is_below [utf8 "o", utf8 "f"] [utf8 "m"] = false := by
  decide

end KataContainers.Agent
