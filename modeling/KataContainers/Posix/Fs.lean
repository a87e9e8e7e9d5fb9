import KataContainers.Posix.Path

/-!
# A Linux filesystem and its path walk

The filesystem state of the guest, as the system calls the agent makes see it: a map from
canonical absolute paths (lists of names, `[]` for `/`) to inodes that are directories, regular
files of some size, or symbolic links with a target byte string, each with a mode and an owner.

`resolve` is the kernel's path walk (`namei`): components are taken left to right from the root or
from a directory, `..` goes to the parent (and stays at `/`), a symlink met before the last
component, or at the last one when the call follows it, restarts the walk on its target spliced
before the remaining components, relative to the link's directory or from `/` for an absolute
target. At most `MAXSYMLINKS` links are followed in one walk; the next gives `ELOOP`. The walk is
written as `walk`, which runs up to the first link to follow, and `resolve`, which restarts it: the
same shape as the restart loops in the agent's own resolvers.

The system calls are state transformers in `FsM`, where an error keeps the state reached so far,
as on a real system. Paths are absolute or taken relative to the process's working directory `/`.
-/

namespace Posix

/-- The `errno` values the modelled calls return. -/
inductive Errno
  | ENOENT
  | ENOTDIR
  | ELOOP
  | EEXIST
  | EISDIR
  | EINVAL
  | ENOTEMPTY
  | EBADF
  /-- An error with no `errno` (`io::ErrorKind::Uncategorized`). -/
  | EOTHER
  deriving DecidableEq, Repr

/-- The type of an inode, with a regular file's size and a link's target. -/
inductive Kind
  | dir
  | file (size : Nat)
  | symlink (target : List UInt8)
  deriving DecidableEq, Repr

/-- An inode: its type, its permission bits and its owner. -/
structure Inode where
  kind : Kind
  mode : UInt32
  uid : UInt32
  gid : UInt32
  deriving DecidableEq, Repr

/-- A filesystem: the inodes at canonical absolute paths, listed in directory order; the first
entry for a path is the one that counts. -/
abbrev Fs := List (List Name × Inode)

/-- The inode at a canonical path. -/
def Fs.get (fs : Fs) (p : List Name) : Option Inode :=
  (fs.find? fun e => e.1 = p).map Prod.snd

/-- The filesystem with the entry at `p` replaced. -/
def Fs.set (fs : Fs) (p : List Name) (v : Option Inode) : Fs :=
  let rest := fs.filter fun e => e.1 ≠ p
  match v with
  | some i => rest ++ [(p, i)]
  | none => rest

@[simp] lemma Fs.get_set_same (fs : Fs) (p : List Name) (v : Option Inode) :
    (fs.set p v).get p = v := by
  have h : fs.find? (fun _ => false) = none := by simp
  cases v <;> simp [Fs.set, Fs.get, List.find?_append, h]

@[simp] lemma Fs.get_set_other (fs : Fs) {p q : List Name} (v : Option Inode) (h : q ≠ p) :
    (fs.set p v).get q = fs.get q := by
  have hf : (fun e : List Name × Inode => !decide (e.1 = p) && decide (e.1 = q)) =
      fun e => decide (e.1 = q) := by
    funext e
    by_cases he : e.1 = q
    · simp [he, h]
    · simp [he]
  cases v <;> simp [Fs.set, Fs.get, List.find?_append, hf, Ne.symm h]

/-- The names in the directory at `q`, each once, in directory order (`readdir(3)`). -/
def Fs.children (fs : Fs) (q : List Name) : List Name :=
  (fs.filterMap fun e => if e.1.dropLast = q then e.1.getLast? else none).eraseDups

/-- `MAXSYMLINKS`: the number of links one path walk may follow. -/
def MAXSYMLINKS : Nat := 40

/-- Where a walk stops: at a path (which need not exist if it is the last component), at a link
it has to follow, with the link's directory, its target and the components after it, or at an
error. -/
inductive Walk
  | done (p : List Name)
  | link (dir : List Name) (target : List UInt8) (rest : Path)
  | fail (e : Errno)
  deriving DecidableEq, Repr

/-- The path walk from the directory `cur` up to the first symlink to follow; `follow` says
whether a link in the last position is followed. -/
def walk (fs : Fs) (follow : Bool) (cur : List Name) : Path → Walk
  | [] => .done cur
  | .RootDir :: rest => walk fs follow [] rest
  | .CurDir :: rest => walk fs follow cur rest
  | .ParentDir :: rest => walk fs follow cur.dropLast rest
  | .Normal n :: rest =>
    match fs.get (cur ++ [n]) with
    | none => if rest.isEmpty then .done (cur ++ [n]) else .fail .ENOENT
    | some i =>
      match i.kind with
      | .dir => walk fs follow (cur ++ [n]) rest
      | .file _ => if rest.isEmpty then .done (cur ++ [n]) else .fail .ENOTDIR
      | .symlink t => if rest.isEmpty && !follow then .done (cur ++ [n]) else .link cur t rest

/-- The kernel's path walk with a budget of links: each link restarts `walk` on its target. -/
def resolve (fs : Fs) (follow : Bool) : Nat → List Name → Path → Except Errno (List Name)
  | budget, cur, p =>
    match walk fs follow cur p with
    | .done q => .ok q
    | .fail e => .error e
    | .link dir t rest =>
      match budget with
      | 0 => .error .ELOOP
      | b + 1 => resolve fs follow b dir (components t ++ rest)

/-- A state transformer on the filesystem; an error keeps the state reached so far. -/
abbrev FsM (ε : Type) := ExceptT ε (StateM Fs)

/-- Whether a path holds a NUL byte, which no system call accepts. -/
def has_nul (p : Path) : Bool :=
  p.any fun c => match c with
    | .Normal n => n.contains 0
    | _ => false

/-- Resolve a path from `/`, following a final link or not. -/
def lookup (follow : Bool) (p : Path) : FsM Errno (List Name) := do
  if has_nul p then throw .EINVAL
  let fs ← get
  match resolve fs follow MAXSYMLINKS [] p with
  | .ok q => pure q
  | .error e => throw e

/-- `stat(2)` (`follow`) or `lstat(2)`: the canonical path and the inode a path names. -/
def stat_at (follow : Bool) (p : Path) : FsM Errno (List Name × Inode) := do
  let q ← lookup follow p
  match (← get).get q with
  | some i => pure (q, i)
  | none => throw .ENOENT

/-- `readlink(2)`. -/
def readlink (p : Path) : FsM Errno (List UInt8) := do
  let (_, i) ← stat_at false p
  match i.kind with
  | .symlink t => pure t
  | _ => throw .EINVAL

/-- Create the inode `i` at the path `p` names without following a final link; `EEXIST` if
something is there. -/
def create_at (p : Path) (i : Inode) : FsM Errno (List Name) := do
  let q ← lookup false p
  match (← get).get q with
  | some _ => throw .EEXIST
  | none =>
    modify fun fs => fs.set q (some i)
    pure q

/-- `mkdir(2)` by a process of uid and gid 0. -/
def mkdir (p : Path) (mode : UInt32) : FsM Errno Unit := do
  let _ ← create_at p ⟨.dir, mode &&& 0o7777, 0, 0⟩

/-- `symlink(2)` (`symlinkat` with no directory descriptor). -/
def symlink (target : List UInt8) (p : Path) : FsM Errno Unit := do
  let _ ← create_at p ⟨.symlink target, 0o777, 0, 0⟩

/-- Change the inode at a canonical path. -/
def update_inode (q : List Name) (f : Inode → Inode) : FsM Errno Unit := do
  match (← get).get q with
  | some i => modify fun fs => fs.set q (some (f i))
  | none => throw .ENOENT

/-- `chmod(2)` (`follow`) on the permission bits. -/
def chmod (p : Path) (mode : UInt32) : FsM Errno Unit := do
  let (q, _) ← stat_at true p
  update_inode q fun i => { i with mode := mode &&& 0o7777 }

/-- The id `-1` that `chown(2)` reads as "leave unchanged". -/
def ID_UNCHANGED : UInt32 := 0xFFFFFFFF

/-- `chown(2)` (`follow`) or `lchown(2)`. -/
def chown_at (follow : Bool) (p : Path) (uid gid : UInt32) : FsM Errno Unit := do
  let (q, _) ← stat_at follow p
  update_inode q fun i =>
    { i with uid := if uid = ID_UNCHANGED then i.uid else uid,
             gid := if gid = ID_UNCHANGED then i.gid else gid }

/-- `unlink(2)`. -/
def unlink (p : Path) : FsM Errno Unit := do
  let (q, i) ← stat_at false p
  match i.kind with
  | .dir => throw .EISDIR
  | _ => modify fun fs => fs.set q none

/-- `open(2)` with `O_WRONLY | O_CREAT` and mode `0o666`: follows a final link, and creates an
empty file where the walk ends if nothing is there. Returns the canonical path of the file. -/
def open_create (p : Path) : FsM Errno (List Name) := do
  let q ← lookup true p
  match (← get).get q with
  | some i =>
    match i.kind with
    | .dir => throw .EISDIR
    | _ => pure q
  | none =>
    modify fun fs => fs.set q (some ⟨.file 0, 0o666, 0, 0⟩)
    pure q

/-- `pwrite(2)` of `len` bytes at the `u64` offset `offset` on the file at the canonical path `q`;
an offset that is negative as an `off_t` is `EINVAL`. -/
def pwrite (q : List Name) (len : Nat) (offset : UInt64) : FsM Errno Unit := do
  if offset.toNat ≥ 2 ^ 63 then throw .EINVAL
  update_inode q fun i =>
    match i.kind with
    | .file size => { i with kind := .file (max size (offset.toNat + len)) }
    | _ => i

/-- Whether `p` lies in the subtree of `q`. -/
def is_below (p q : List Name) : Bool :=
  q.isPrefixOf p

/-- The filesystem with the subtree at `q1` moved to `q2`, over what was at `q2`. -/
def Fs.move (fs : Fs) (q1 q2 : List Name) : Fs :=
  fs.filterMap fun e =>
    if is_below e.1 q1 then some (q2 ++ e.1.drop q1.length, e.2)
    else if is_below e.1 q2 then none
    else some e

/-- `rename(2)`: the object `old` names (not following a final link) moves, with its subtree,
to where `new` names, replacing a file there or an empty directory. -/
def rename (old new : Path) : FsM Errno Unit := do
  let (q1, i1) ← stat_at false old
  let q2 ← lookup false new
  let fs ← get
  if q1 = q2 then pure ()
  else if is_below q2 q1 then throw .EINVAL
  else
    match fs.get q2 with
    | some i2 =>
      match i1.kind, i2.kind with
      | .dir, .dir => throw .ENOTEMPTY
      | .dir, _ => throw .ENOTDIR
      | _, .dir => throw .EISDIR
      | _, _ => set (fs.move q1 q2)
    | none => set (fs.move q1 q2)

/-- Run a computation on errors of another type. -/
def FsM.lift {ε ε' α : Type} (f : ε → ε') (x : FsM ε α) : FsM ε' α :=
  ExceptT.adapt f x

end Posix
