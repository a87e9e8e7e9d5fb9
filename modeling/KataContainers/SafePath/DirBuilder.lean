import KataContainers.Posix.Created
import KataContainers.SafePath.ScopedResolve

/-!
# `PinnedPathBuf` and `ScopedDirBuilder`

Model of `libs/safe-path/src/pinned_path_buf.rs` and `scoped_dir_builder.rs` over the descriptor
model of `Posix.Handles`: each system call of the code is one `SysM` call, before which other
processes may act, and the code's `?` is the bind of `ExceptT IoError`. A `PinnedPathBuf` is a
descriptor with the target that `/proc/self/fd/N` showed when it was opened: `new_from_file`
refuses a descriptor whose `/proc` link is not the path the code meant to open.

The resolver runs at one instant (`resolving`): it only reads, and what it gives `do_mkdir` is a
path, so the triples below hold for every path it could return.

`create_triple` and `create_with_unscoped_path_triple`: from a builder whose root is inside `root`,
while other processes act only strictly below `root`, the filesystem outside `root` is unchanged,
every directory the call creates is below `root`, and a `PinnedPathBuf` it returns has its
descriptor's object and its target inside `root`. The comparison of `new_from_file` carries this:
`/proc` shows where an `openat` that followed a planted link landed.

`create_returns_file` shows what the builder does not keep, the type of the last level: the loop
checks `is_dir` of a component it opened, but a component it made with `mkdirat` is opened again by
name, and a file put in the new directory's place in between is returned. In the same window an
`openat` through a link planted there opens the object outside `root` before `new_from_file`
turns it down.
-/

namespace KataContainers.SafePath

open Posix

def DIRECTORY_MODE_DEFAULT : UInt32 := 0o777

def DIRECTORY_MODE_MASK : UInt32 := 0o777

/-- `std::io::ErrorKind`, the kinds these errors have. -/
inductive ErrorKind
  | NotFound
  | AlreadyExists
  | NotADirectory
  | IsADirectory
  | DirectoryNotEmpty
  | FilesystemLoop
  | InvalidInput
  | Other
  | Uncategorized
  deriving DecidableEq, Repr

/-- `decode_error_kind`: the kind of an `errno`. -/
def decode_error_kind : Errno → ErrorKind
  | .ENOENT => .NotFound
  | .ENOTDIR => .NotADirectory
  | .ELOOP => .FilesystemLoop
  | .EEXIST => .AlreadyExists
  | .EISDIR => .IsADirectory
  | .EINVAL => .InvalidInput
  | .ENOTEMPTY => .DirectoryNotEmpty
  | .EBADF | .EOTHER => .Uncategorized

/-- The `io::Error`s of `PinnedPathBuf` and `ScopedDirBuilder`: one constructor for each place that
makes one, holding what its message shows. -/
inductive IoError
  /-- `Error::last_os_error()` after a system call, or the error of `fs::read_link` -/
  | Os (e : Errno)
  /-- an error of `scoped_resolve` or `scoped_join` -/
  | Resolve (e : ResolveError)
  /-- "Path component {} is invalid" -/
  | InvalidComponent (path_comp : Name)
  /-- "Path changed from {} to {} on open, possible attack" -/
  | PathChanged (orig_path link_path : Path)
  /-- "Path {} is not a directory" -/
  | NotADirectory (path : Path)
  /-- "directory already exists", of kind `AlreadyExists` -/
  | AlreadyExists
  /-- "parent directory does not exist", of kind `NotFound` -/
  | ParentNotFound
  /-- "Invalid root path: {}" -/
  | InvalidRoot (path : Path)
  /-- "Expected absolute directory path: {}" -/
  | NotAbsolute (path : List UInt8)
  /-- "Path {} is not under {}" -/
  | NotUnder (path root : Path)
  deriving DecidableEq, Repr

/-- `io::Error::kind`. -/
def IoError.kind : IoError → ErrorKind
  | .Os e | .Resolve (.Io e) => decode_error_kind e
  | .AlreadyExists => .AlreadyExists
  | .ParentNotFound => .NotFound
  | _ => .Other

/-- A system call as an `io::Result`: a failure is `Error::last_os_error()`. -/
def sys {α : Type} (x : SysM (Except Errno α)) : ExceptT IoError SysM α :=
  ExceptT.mk ((·.mapError .Os) <$> x)

/-- A call of the resolver, which only reads, taken at one instant. -/
def resolving {α : Type} (f : World → Except ResolveError α) : ExceptT IoError SysM α :=
  ExceptT.mk (observe fun w => (f w).mapError .Resolve)

/-! ## `PinnedPathBuf` -/

/-- `PinnedPathBuf`: the descriptor `handle`, and `target`, the path `/proc/self/fd/N` showed when
the descriptor was opened. -/
structure PinnedPathBuf where
  handle : Nat
  target : Path
  deriving DecidableEq, Repr

namespace PinnedPathBuf

/-- `path`, `/proc/self/fd/N` (`get_proc_path`): what `Deref` and `display()` give. -/
def path (self : PinnedPathBuf) : Path :=
  components (utf8 ("/proc/self/fd/" ++ toString self.handle))

/-- `prepare_path_component`: `path_comp` must be one normal component, written as such, with no
NUL byte (`CString::new`). -/
def prepare_path_component (path_comp : Name) : Except IoError Name :=
  match components path_comp with
  | [.Normal name] =>
    if name ≠ path_comp then .error (.InvalidComponent path_comp)
    else if 0 ∈ path_comp then .error (.InvalidComponent path_comp)
    else .ok path_comp
  | _ => .error (.InvalidComponent path_comp)

/-- `new_from_file(handle, orig_path)`. -/
def new_from_file (handle : Nat) (orig_path : Path) : ExceptT IoError SysM PinnedPathBuf := do
  let link_path ← sys (fd_link handle)
  if link_path ≠ orig_path then throw (.PathChanged orig_path link_path)
  else return ⟨handle, link_path⟩

/-- `open_by_path(path)`: `open` with `O_PATH | O_CLOEXEC`. -/
def open_by_path (path : Path) : ExceptT IoError SysM Nat :=
  sys (open_path path)

/-- `from_path(orig_path)`. -/
def from_path (orig_path : Path) : ExceptT IoError SysM PinnedPathBuf := do
  let handle ← open_by_path orig_path
  new_from_file handle orig_path

/-- `PinnedPathBuf::new(root, path)`. -/
def new (root path : List UInt8) : ExceptT IoError SysM PinnedPathBuf := do
  let path ← resolving fun w => scoped_join w.fs root path
  from_path path

/-- `try_clone()`. -/
def try_clone (self : PinnedPathBuf) : ExceptT IoError SysM PinnedPathBuf := do
  let fd ← sys (dup self.handle)
  return ⟨fd, self.target⟩

/-- `metadata()`, of which the code reads the type. -/
def metadata (self : PinnedPathBuf) : ExceptT IoError SysM Kind :=
  sys (fstat self.handle)

/-- `open_child(path_comp)`. -/
def open_child (self : PinnedPathBuf) (path_comp : Name) : ExceptT IoError SysM PinnedPathBuf := do
  let name ← liftExcept (prepare_path_component path_comp)
  let res ← sys (openat self.handle name)
  new_from_file res (push self.target (components path_comp))

/-- `mkdir(path_comp, mode)`. -/
def mkdir (self : PinnedPathBuf) (path_comp : Name) (mode : UInt32) :
    ExceptT IoError SysM PinnedPathBuf := do
  let path_name ← liftExcept (prepare_path_component path_comp)
  sys (mkdirat self.handle path_name mode)
  self.open_child path_comp

end PinnedPathBuf

/-! ## `ScopedDirBuilder` -/

structure ScopedDirBuilder where
  root : PinnedPathBuf
  mode : UInt32
  recursive : Bool
  deriving DecidableEq, Repr

namespace ScopedDirBuilder

/-- `ScopedDirBuilder::new(root)`. -/
def new (root : List UInt8) : ExceptT IoError SysM ScopedDirBuilder := do
  let root ← sys (observe fun w => w.fs.query (canonicalize (components root)))
  let root ← PinnedPathBuf.from_path (.RootDir :: root.map .Normal)
  if (← root.metadata) ≠ .dir then throw (.InvalidRoot root.path)
  return ⟨root, DIRECTORY_MODE_DEFAULT, false⟩

/-- `recursive(recursive)`. -/
def set_recursive (self : ScopedDirBuilder) (recursive : Bool) : ScopedDirBuilder :=
  { self with recursive }

/-- `mode(mode)`. -/
def set_mode (self : ScopedDirBuilder) (mode : UInt32) : ScopedDirBuilder :=
  { self with mode := mode &&& DIRECTORY_MODE_MASK }

/-- The loop `for (idx, comp) in path.iter().enumerate()` of `do_mkdir` from `idx` on, with `dir`
the directory reached so far. -/
def mkdir_levels (self : ScopedDirBuilder) (levels : Nat) :
    Nat → PinnedPathBuf → List Name → ExceptT IoError SysM PinnedPathBuf
  | _, dir, [] => return dir
  | idx, dir, comp :: rest => do
    match ← ExceptT.lift (dir.open_child comp).run with
    | .ok v =>
      if (← v.metadata) ≠ .dir then throw (.NotADirectory v.path)
      else if !self.recursive && idx == levels then throw .AlreadyExists
      else self.mkdir_levels levels (idx + 1) v rest
    | .error _ =>
      if !self.recursive && idx != levels then throw .ParentNotFound
      else do
        let dir ← dir.mkdir comp self.mode
        self.mkdir_levels levels (idx + 1) dir rest

/-- `do_mkdir(path)`; its `assert!(path.is_relative())` holds at both callers. -/
def do_mkdir (self : ScopedDirBuilder) (path : Path) : ExceptT IoError SysM PinnedPathBuf :=
  if file_name path = none then
    if !self.recursive then throw .AlreadyExists
    else self.root.try_clone
  else do
    -- `path` has at least one level
    let levels := (path.map Component.as_os_str).length - 1
    let dir ← self.root.try_clone
    self.mkdir_levels levels 0 dir (path.map Component.as_os_str)

/-- `create(path)`: `scoped_resolve(&self.root, path)` resolves the root through
`/proc/self/fd/N`. -/
def create (self : ScopedDirBuilder) (path : List UInt8) : ExceptT IoError SysM PinnedPathBuf := do
  let path ← resolving fun w => scoped_resolve w.fs (w.proc_fd self.root.handle) path
  self.do_mkdir path

/-- `create_with_unscoped_path(path)`. -/
def create_with_unscoped_path (self : ScopedDirBuilder) (path : List UInt8) :
    ExceptT IoError SysM PinnedPathBuf :=
  if !has_root (components path) then throw (.NotAbsolute path)
  else do
    -- partially canonicalize `path` so the `root` part can be stripped
    let scoped_path ← resolving fun w => scoped_join w.fs (utf8 "/") path
    match strip_prefix scoped_path self.root.target with
    | none => throw (.NotUnder scoped_path self.root.target)
    | some stripped_path => self.do_mkdir stripped_path

end ScopedDirBuilder

/-! ## Staying inside the root -/

/-- A target inside `root`: an absolute path of names that starts with `root`. -/
def TargetInside (root : List Name) (p : Path) : Prop :=
  ∃ t, p = .RootDir :: t.map .Normal ∧ root <+: t

/-- A `PinnedPathBuf` inside `root`: its descriptor's object and its target. -/
structure PinnedInside (root : List Name) (w : World) (pb : PinnedPathBuf) : Prop where
  fd : FdInside root w pb.handle
  target : TargetInside root pb.target

theorem PinnedPathBuf.prepare_path_component_ok {path_comp name : Name}
    (h : PinnedPathBuf.prepare_path_component path_comp = .ok name) :
    name = path_comp ∧ components path_comp = [.Normal path_comp] := by
  unfold PinnedPathBuf.prepare_path_component at h
  split at h
  · rename_i n hc
    split at h
    · exact nomatch h
    · split at h
      · exact nomatch h
      · rename_i hn _
        refine ⟨(Except.ok.inj h).symm, ?_⟩
        rw [hc, not_not.mp hn]
  · exact nomatch h

section
variable {root : List Name} {P : World → Prop}

theorem PinnedInside.stable (pb : PinnedPathBuf) : Stable root fun w => PinnedInside root w pb :=
  fun _ _ hc h => ⟨hc.fds _ h.fd, h.target⟩

theorem sys_triple {α : Type} {x : SysM (Except Errno α)} {Q : α → World → Prop}
    (h : Triple root P x fun r w => ∀ a, r = .ok a → Q a w) : TripleOk root P (sys x) Q := by
  unfold TripleOk sys
  rw [ExceptT.run_mk]
  refine (h.map _).conseq (fun _ h => h) fun _ _ ⟨r, he, hq⟩ a ha => hq a ?_
  rw [he] at ha
  cases r with
  | ok b =>
    simp only [Except.mapError, Except.ok.injEq] at ha
    rw [ha]
  | error e => exact nomatch ha

/-- A system call that keeps every stable property. -/
theorem sys_triple_stable {α : Type} {x : SysM (Except Errno α)}
    (h : Triple root P x fun _ => P) : TripleOk root P (sys x) fun _ => P :=
  sys_triple (h.conseq (fun _ h => h) fun _ _ hP _ _ => hP)

theorem resolving_triple {α : Type} (f : World → Except ResolveError α) (hP : Stable root P) :
    TripleOk root P (resolving f) fun _ => P :=
  (observe_triple _ hP).conseq (fun _ h => h) fun _ _ hP _ _ => hP

/-- `new_from_file` keeps a descriptor only where `/proc` shows the path it was meant to open, so a
descriptor meant for a path below a directory inside `root` is inside `root`. -/
theorem new_from_file_triple (hP : Stable root P) (fd : Nat) {t : List Name} (ht : root <+: t)
    (c : Name) :
    TripleOk root P (PinnedPathBuf.new_from_file fd (.RootDir :: (t ++ [c]).map .Normal))
      fun pb w => P w ∧ PinnedInside root w pb := by
  have hlink : Triple root P (fd_link fd) fun r w =>
      ∀ p, r = .ok p → P w ∧ ∃ h, w.fds[fd]? = some h ∧ h.proc_link = p :=
    (fd_link_triple fd hP).conseq (fun _ h => h) fun _ _ ⟨hPw, hl⟩ p hp => ⟨hPw, hl p hp⟩
  unfold PinnedPathBuf.new_from_file
  refine (sys_triple hlink).bind fun link => ?_
  split
  · exact TripleOk.throw _
  · rename_i heq
    refine TripleOk.pure _ fun w hw => ?_
    obtain ⟨hPw, h, hget, hl⟩ := hw
    rw [not_not] at heq
    subst heq
    exact ⟨hPw, ⟨h, hget, ht.trans (Handle.prefix_of_proc_link hl)⟩,
      ⟨t ++ [c], rfl, ht.trans (List.prefix_append _ _)⟩⟩

theorem open_child_triple (hP : Stable root P) {dir : PinnedPathBuf}
    (ht : TargetInside root dir.target) (c : Name) :
    TripleOk root P (dir.open_child c) fun v w => P w ∧ PinnedInside root w v := by
  obtain ⟨t, hdt, hroot⟩ := ht
  unfold PinnedPathBuf.open_child
  refine TripleOk.liftExcept_bind _ fun name hname => ?_
  obtain ⟨rfl, hc⟩ := PinnedPathBuf.prepare_path_component_ok hname
  have horig : push dir.target (components name) = .RootDir :: (t ++ [name]).map .Normal := by
    rw [hdt, hc]
    simp [push]
  refine (sys_triple_stable (openat_triple dir.handle name hP)).bind fun res => ?_
  rw [horig]
  exact new_from_file_triple hP res hroot name

theorem mkdir_triple {dir : PinnedPathBuf} (c : Name) (mode : UInt32) :
    TripleOk root (fun w => PinnedInside root w dir) (dir.mkdir c mode)
      fun v w => PinnedInside root w v := by
  refine TripleOk.of_pre (fun _ h => h.target) fun ht => ?_
  unfold PinnedPathBuf.mkdir
  refine TripleOk.liftExcept_bind _ fun name _ => ?_
  have hmk : Triple root (fun w => PinnedInside root w dir) (mkdirat dir.handle name mode)
      fun _ w => PinnedInside root w dir :=
    (mkdirat_triple dir.handle name mode (PinnedInside.stable dir)).conseq
      (fun _ h => ⟨h, h.fd⟩) fun _ _ h => h
  refine (sys_triple_stable hmk).bind fun _ => ?_
  exact (open_child_triple (Stable.const True) ht c).conseq (fun _ _ => trivial) fun _ _ h => h.2

theorem try_clone_triple (dir : PinnedPathBuf) :
    TripleOk root (fun w => PinnedInside root w dir) dir.try_clone
      fun v w => PinnedInside root w v := by
  refine TripleOk.of_pre (fun _ h => h.target) fun ht => ?_
  have hdup : Triple root (fun w => PinnedInside root w dir) (dup dir.handle)
      fun r w => ∀ fd, r = .ok fd → FdInside root w fd :=
    (dup_triple dir.handle (Stable.const True)).conseq (fun _ h => ⟨trivial, h.fd⟩)
      fun _ _ h => h.2
  unfold PinnedPathBuf.try_clone
  refine (sys_triple hdup).bind fun fd => ?_
  exact TripleOk.pure _ fun _ hfd => ⟨hfd, ht⟩

theorem metadata_triple (hP : Stable root P) (pb : PinnedPathBuf) :
    TripleOk root P pb.metadata fun _ => P :=
  sys_triple_stable (fstat_triple pb.handle hP)

/-- The loop of `do_mkdir`, by induction on the components left: each level opened or made is
inside `root`, whichever branch the race sends it down. -/
theorem mkdir_levels_triple (self : ScopedDirBuilder) (levels : Nat) (comps : List Name) :
    ∀ idx dir, TripleOk root (fun w => PinnedInside root w dir)
      (self.mkdir_levels levels idx dir comps) fun v w => PinnedInside root w v := by
  induction comps with
  | nil => exact fun _ dir => TripleOk.pure dir fun _ h => h
  | cons comp rest ih =>
    intro idx dir
    rw [ScopedDirBuilder.mkdir_levels]
    refine TripleOk.of_pre (fun _ h => h.target) fun ht => ?_
    -- the result of `open_child` is matched on, with `dir` kept for the branch that makes it
    have hopen := (open_child_triple (Stable.const True) ht comp).run (PinnedInside.stable dir)
    refine (TripleOk.lift (hopen.conseq (fun _ h => ⟨trivial, h⟩) fun _ _ h => h)).bind
      fun r => ?_
    cases r with
    | ok v =>
      dsimp only
      have hm : TripleOk root (fun w => PinnedInside root w v) v.metadata
          fun _ w => PinnedInside root w v :=
        metadata_triple (PinnedInside.stable v) v
      refine (hm.conseq (fun _ h => (h.2 v rfl).2) fun _ _ h => h).bind fun kind => ?_
      split
      · exact TripleOk.throw _
      · split
        · exact TripleOk.throw _
        · exact ih (idx + 1) v
    | error e =>
      dsimp only
      split
      · exact TripleOk.throw _
      · exact ((mkdir_triple comp self.mode).conseq (fun _ h => h.1) fun _ _ h => h).bind
          fun dir' => ih (idx + 1) dir'

theorem do_mkdir_triple (self : ScopedDirBuilder) (path : Path) :
    TripleOk root (fun w => PinnedInside root w self.root) (self.do_mkdir path)
      fun v w => PinnedInside root w v := by
  unfold ScopedDirBuilder.do_mkdir
  split
  · split
    · exact TripleOk.throw _
    · exact try_clone_triple self.root
  · exact (try_clone_triple self.root).bind fun dir => mkdir_levels_triple self _ _ 0 dir

/-- `create` from a builder whose root is inside `root`, while other processes act only strictly
below `root`: nothing outside `root` changes, every directory made is below `root`, and a
`PinnedPathBuf` returned has its descriptor's object and its target inside `root`. -/
theorem create_triple (self : ScopedDirBuilder) (path : List UInt8) :
    TripleOk root (fun w => PinnedInside root w self.root) (self.create path)
      fun v w => PinnedInside root w v :=
  (resolving_triple _ (PinnedInside.stable self.root)).bind fun p => do_mkdir_triple self p

theorem create_with_unscoped_path_triple (self : ScopedDirBuilder) (path : List UInt8) :
    TripleOk root (fun w => PinnedInside root w self.root)
      (self.create_with_unscoped_path path) fun v w => PinnedInside root w v := by
  unfold ScopedDirBuilder.create_with_unscoped_path
  split
  · exact TripleOk.throw _
  · refine (resolving_triple _ (PinnedInside.stable self.root)).bind fun scoped_path => ?_
    split
    · exact TripleOk.throw _
    · exact do_mkdir_triple self _

end

/-! ## The non-recursive mode -/

section
variable {α : Type}

theorem sys_creates_none {x : SysM (Except Errno α)} (h : Creates x fun _ e => e = []) :
    Creates (sys x).run fun _ e => e = [] :=
  (h.map _).conseq fun _ _ ⟨_, _, he⟩ => he

theorem new_from_file_creates (fd : Nat) (orig_path : Path) :
    Creates (PinnedPathBuf.new_from_file fd orig_path).run fun _ e => e = [] := by
  unfold PinnedPathBuf.new_from_file
  refine Creates.except_bind (sys_creates_none (fd_link_creates fd)) (fun _ _ h => h)
    fun link e₁ h₁ => ?_
  subst h₁
  split
  · exact Creates.except_throw _ rfl
  · exact Creates.except_pure _ rfl

theorem open_child_creates (dir : PinnedPathBuf) (c : Name) :
    Creates (dir.open_child c).run fun _ e => e = [] := by
  unfold PinnedPathBuf.open_child
  refine Creates.liftExcept_bind _ (fun _ _ => rfl) fun name _ => ?_
  refine Creates.except_bind (sys_creates_none (openat_creates dir.handle name)) (fun _ _ h => h)
    fun res e₁ h₁ => ?_
  subst h₁
  exact new_from_file_creates res _

theorem try_clone_creates (dir : PinnedPathBuf) : Creates dir.try_clone.run fun _ e => e = [] := by
  unfold PinnedPathBuf.try_clone
  refine Creates.except_bind (sys_creates_none (dup_creates dir.handle)) (fun _ _ h => h)
    fun fd e₁ h₁ => ?_
  subst h₁
  exact Creates.except_pure _ rfl

theorem metadata_creates (pb : PinnedPathBuf) : Creates pb.metadata.run fun _ e => e = [] :=
  sys_creates_none (fstat_creates pb.handle)

/-- `mkdir(c, mode)` makes at most the directory `c`, and makes it when it succeeds. -/
theorem mkdir_creates (dir : PinnedPathBuf) (c : Name) (mode : UInt32) :
    Creates (dir.mkdir c mode).run fun r e => AtMostOne c e ∧ ∀ v, r = .ok v → e ≠ [] := by
  unfold PinnedPathBuf.mkdir
  refine Creates.liftExcept_bind _ (fun _ _ => ⟨.inl rfl, fun _ h => nomatch h⟩)
    fun name hname => ?_
  obtain ⟨rfl, -⟩ := PinnedPathBuf.prepare_path_component_ok hname
  have hmk : Creates (sys (mkdirat dir.handle name mode)).run
      fun r e => AtMostOne name e ∧ ∀ v, r = .ok v → e ≠ [] :=
    (mkdirat_creates dir.handle name mode).map _ |>.conseq fun r e ⟨r', hr, hat, hne⟩ =>
      ⟨hat, fun v hv => by
        subst hr
        cases r' with
        | ok u => exact hne rfl
        | error err => exact nomatch hv⟩
  refine Creates.except_bind hmk (fun _ _ ⟨hat, _⟩ => ⟨hat, fun _ h => nomatch h⟩)
    fun _ e₁ ⟨hat, hne⟩ => ?_
  refine (open_child_creates dir name).conseq fun _ e₂ he₂ => ?_
  subst he₂
  rw [List.append_nil]
  exact ⟨hat, fun _ _ => hne _ rfl⟩

/-- The loop of `do_mkdir` in the non-recursive mode, by induction on the components left: only the
last level, at `idx = levels`, can be made, and a run that succeeds made it. -/
theorem mkdir_levels_creates {self : ScopedDirBuilder} (hr : self.recursive = false)
    (levels : Nat) (last : Name) : ∀ (comps : List Name) (idx : Nat) (dir : PinnedPathBuf),
      idx + comps.length = levels + 1 → comps.getLast? = some last →
      Creates (self.mkdir_levels levels idx dir comps).run
        fun r e => AtMostOne last e ∧ ∀ v, r = .ok v → e ≠ []
  | [], _, _, _, hl => nomatch hl
  | comp :: rest, idx, dir, hlen, hl => by
    -- the two branches that stop the loop before the last level
    have hstop : ∀ err : IoError, AtMostOne last [] ∧ ∀ v, (.error err : Except IoError PinnedPathBuf) = .ok v →
        ([] : List (List Name)) ≠ [] := fun _ => ⟨.inl rfl, fun _ h => nomatch h⟩
    have hlast : rest = [] → idx = levels ∧ comp = last := by
      rintro rfl
      exact ⟨by simpa using hlen, by simpa using hl⟩
    rw [ScopedDirBuilder.mkdir_levels]
    refine Creates.except_bind (Creates.lift (open_child_creates dir comp))
      (fun _ _ ⟨_, he, _⟩ => nomatch he) fun r e₁ ⟨_, hr₁, he₁⟩ => ?_
    cases hr₁
    subst he₁
    cases r with
    | ok v =>
      dsimp only
      refine Creates.except_bind (metadata_creates v) (fun err _ he => by subst he; exact hstop err)
        fun kind e₂ he₂ => ?_
      subst he₂
      split
      · exact Creates.except_throw _ (hstop _)
      · split
        · exact Creates.except_throw _ (hstop _)
        · -- not the last level: the loop goes on with the rest
          rename_i hne
          have hrest : rest ≠ [] := fun h => hne (by simp [hr, (hlast h).1])
          obtain ⟨b, rest', rfl⟩ := List.exists_cons_of_ne_nil hrest
          have hl' : (b :: rest').getLast? = some last := by
            rwa [List.getLast?_cons_cons] at hl
          exact mkdir_levels_creates hr levels last (b :: rest') (idx + 1) v
            (by simp only [List.length_cons] at hlen ⊢; omega) hl'
    | error err =>
      dsimp only
      split
      · exact Creates.except_throw _ (hstop _)
      · -- the last level: `mkdir` makes it, and the loop ends
        rename_i hne
        have hidx : idx = levels := by simpa [hr] using hne
        have hrest : rest = [] := by
          simp only [List.length_cons] at hlen
          exact List.eq_nil_of_length_eq_zero (by omega)
        subst hrest
        obtain ⟨-, rfl⟩ := hlast rfl
        refine Creates.except_bind (mkdir_creates dir comp self.mode)
          (fun _ _ ⟨hat, _⟩ => ⟨hat, fun _ h => nomatch h⟩) fun dir' e₂ ⟨hat, hne₂⟩ => ?_
        rw [ScopedDirBuilder.mkdir_levels]
        exact Creates.except_pure _ (by
          rw [List.nil_append, List.append_nil]
          exact ⟨hat, fun _ _ => hne₂ dir' rfl⟩)

/-- `do_mkdir` in the non-recursive mode makes at most the last level of `path`, and makes it
when it succeeds. -/
theorem do_mkdir_creates {self : ScopedDirBuilder} (hr : self.recursive = false) (path : Path) :
    Creates (self.do_mkdir path).run fun r e =>
      (e = [] ∨ ∃ p n, file_name path = some n ∧ e = [p ++ [n]]) ∧ ∀ v, r = .ok v → e ≠ [] := by
  unfold ScopedDirBuilder.do_mkdir
  split
  · rw [if_pos (by simp [hr])]
    exact Creates.except_throw _ ⟨.inl rfl, fun _ h => nomatch h⟩
  · rename_i hname
    obtain ⟨n, hn⟩ := Option.ne_none_iff_exists'.mp hname
    -- the last component of `path` is the name `n`
    have hlast : path.getLast? = some (.Normal n) := by
      unfold file_name at hn
      split at hn
      · rename_i c heq
        cases hn
        exact heq
      · exact nomatch hn
    have hne : path ≠ [] := fun h => by simp [h] at hlast
    have hlen : 0 + (path.map Component.as_os_str).length =
        (path.map Component.as_os_str).length - 1 + 1 := by
      have := List.length_pos_of_ne_nil hne
      simp only [List.length_map]
      omega
    have hl : (path.map Component.as_os_str).getLast? = some n := by
      rw [List.getLast?_map, hlast]
      rfl
    refine Creates.except_bind (try_clone_creates self.root)
      (fun _ _ he => ⟨.inl he, fun _ h => nomatch h⟩) fun dir e₁ he₁ => ?_
    subst he₁
    refine (mkdir_levels_creates hr _ n _ 0 dir hlen hl).conseq fun r e ⟨hat, hok⟩ => ?_
    rw [List.nil_append]
    refine ⟨hat.elim .inl fun ⟨p, hp⟩ => .inr ⟨p, n, hn, hp⟩, hok⟩

end

/-- `create` in the non-recursive mode makes at most one directory, and one when it succeeds. -/
theorem create_makes_one {self : ScopedDirBuilder} (hr : self.recursive = false)
    (path : List UInt8) :
    Creates (self.create path).run fun r e => e.length ≤ 1 ∧ ∀ v, r = .ok v → e.length = 1 := by
  have hres := Creates.map (Except.mapError IoError.Resolve)
    (observe_creates fun w => scoped_resolve w.fs (w.proc_fd self.root.handle) path)
  refine Creates.except_bind hres (fun _ _ ⟨_, _, he⟩ => ⟨by simp [he], fun _ h => nomatch h⟩)
    fun p e₁ ⟨_, _, he₁⟩ => ?_
  subst he₁
  refine (do_mkdir_creates hr p).conseq fun r e ⟨hat, hok⟩ => ?_
  rw [List.nil_append]
  -- at most one path was added, and one when the call succeeded
  have hlen : e.length ≤ 1 := by
    rcases hat with rfl | ⟨q, n, -, rfl⟩ <;> simp
  refine ⟨hlen, fun v hv => ?_⟩
  have := List.length_pos_of_ne_nil (hok v hv)
  omega

/-- A builder as `ScopedDirBuilder::new("/")` makes it, on the process's first descriptor. -/
def root_builder : ScopedDirBuilder := ⟨⟨0, [.RootDir]⟩, DIRECTORY_MODE_DEFAULT, false⟩

theorem create_makes_one_root :
    root_builder.recursive = false ∧
    Creates (root_builder.create (utf8 "a/b")).run
      fun r e => e.length ≤ 1 ∧ ∀ v, r = .ok v → e.length = 1 :=
  ⟨rfl, create_makes_one rfl _⟩

/-! ## The last level's type -/

/-- The tests' use of the builder: `ScopedDirBuilder::new(root)`, then `recursive(recursive)` and
`create(path)`. -/
def build_and_create (root : List UInt8) (recursive : Bool) (path : List UInt8) :
    ExceptT IoError SysM PinnedPathBuf := do
  let builder ← ScopedDirBuilder.new root
  (builder.set_recursive recursive).create path

/-- A root `/r` beside `/etc`. -/
def race_fs : Fs :=
  [([], ⟨.dir, 0o755, 0, 0⟩), ([utf8 "r"], ⟨.dir, 0o755, 0, 0⟩), ([utf8 "etc"], ⟨.dir, 0o755, 0, 0⟩)]

/-- Other processes do `swap` just before the ninth system call of `build_and_create`: the `openat`
of `open_child` after the `mkdirat` of `mkdir`. -/
def race_world (swap : List Action) : World :=
  ⟨race_fs, [], [], List.replicate 8 [] ++ [swap]⟩

/-- The directory `/r/c` that `create("c")` makes. -/
def new_dir : List Name := [utf8 "r", utf8 "c"]

/-- Replace the new directory by a regular file. -/
def file_swap : List Action := [.rmdir new_dir, .create new_dir]

/-- Replace the new directory by a link to `/etc`. -/
def link_swap : List Action := [.rmdir new_dir, .symlink (utf8 "/etc") new_dir]

/-- `create("c")` of a non-recursive builder on `/r`, in `race_world swap`. -/
def race_run (swap : List Action) : Except IoError PinnedPathBuf × World :=
  (build_and_create (utf8 "/r") false (utf8 "c")).run.run (race_world swap)

/-- Creating `c` under `/r`: alone, the result is the new directory; when another process, acting
only below `/r`, replaces it by a file after the `mkdirat`, the result is that file; when it
replaces it by a link to `/etc`, the `openat` opens `/etc` before the call fails. -/
theorem create_returns_file :
    (race_run []).2.fds[2]?.map Handle.kind = some .dir ∧
    ScriptWithin [utf8 "r"] (race_world file_swap) ∧ ScriptWithin [utf8 "r"] (race_world link_swap) ∧
    (race_run file_swap).1 = .ok ⟨2, components (utf8 "/r/c")⟩ ∧
    (race_run file_swap).2.fds[2]?.map Handle.kind = some (.file 0) ∧
    (race_run link_swap).1 =
      .error (.PathChanged (components (utf8 "/r/c")) (components (utf8 "/etc"))) ∧
    (race_run link_swap).2.fds[2]? = some ⟨[utf8 "etc"], .dir, true⟩ := by
  decide

end KataContainers.SafePath
