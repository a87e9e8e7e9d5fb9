import KataContainers.Posix.Walk

/-!
# Descriptors, other processes, and staying inside a directory

A process that works through file descriptors while other processes change the filesystem. The
`World` holds the filesystem, the open file descriptions the process's descriptors refer to
(descriptor `n` is the `n`-th), the directories the process itself created, and a script of what
the other processes do: before each of the process's system calls (`SysM`), the next batch of the
script runs (`interleave`). A description follows its object through renames and is marked
unlinked when the object is removed; the type of an object never changes.

The system calls are those of `*at` code: `openat` with `O_PATH` (which follows a final link),
`mkdirat`, `fstat`, `dup`, and `readlink` of `/proc/self/fd/N`, which gives the current path of a
descriptor's object.

The other processes' calls (`Action`) may be confined to a directory `root`: every path they name
is strictly below it (`Action.Within`). `Confined root w w'` is what a run that stays inside `root`
keeps: the filesystem outside `root` is unchanged, every directory the process created is below
`root`, and descriptors whose object is inside `root` stay inside. `Triple` is the Hoare triple
over `SysM` relative to `Confined`, with the rules to compose programs (`Triple.bind`, `Triple.pure`,
`Triple.conseq`) and one rule per system call.
-/

namespace Posix

/-- `p` lies strictly below `root`. -/
def Below (root p : List Name) : Prop := root <+: p ∧ p ≠ root

instance (root p : List Name) : Decidable (Below root p) := inferInstanceAs (Decidable (_ ∧ _))

/-- An open file description: the current path of its object, the object's type, and whether the
object is still linked. -/
structure Handle where
  path : List Name
  kind : Kind
  live : Bool
  deriving DecidableEq, Repr

/-- A call of another process, on canonical paths. -/
inductive Action
  | mkdir (q : List Name)
  | create (q : List Name)
  | symlink (target : List UInt8) (q : List Name)
  | unlink (q : List Name)
  | rmdir (q : List Name)
  | rename (q₁ q₂ : List Name)
  deriving DecidableEq, Repr

/-- What the process's system calls see and do. -/
structure World where
  fs : Fs
  fds : List Handle
  /-- the directories the process created with `mkdirat` -/
  created : List (List Name)
  /-- what the other processes do before each of the process's system calls -/
  script : List (List Action)
  deriving DecidableEq, Repr

/-! ## Other processes -/

/-- Nothing is at `q`, and its parent is a directory. -/
def Fs.can_create (fs : Fs) (q : List Name) : Prop :=
  q ≠ [] ∧ fs.get q = none ∧ fs.IsDir q.dropLast

instance (fs : Fs) (q : List Name) : Decidable (fs.can_create q) :=
  inferInstanceAs (Decidable (_ ∧ _ ∧ _))

/-- The descriptions after the object at `q` is removed. -/
def unlink_handles (q : List Name) (fds : List Handle) : List Handle :=
  fds.map fun h => if h.live && h.path == q then { h with live := false } else h

/-- The descriptions after the subtree at `q₁` moves to `q₂`. -/
def move_handles (q₁ q₂ : List Name) (fds : List Handle) : List Handle :=
  fds.map fun h =>
    if h.live && is_below h.path q₁ then { h with path := q₂ ++ h.path.drop q₁.length } else h

/-- A call of another process; one that fails changes nothing. -/
def Action.apply (w : World) : Action → World
  | .mkdir q =>
    if w.fs.can_create q then { w with fs := w.fs.set q (some ⟨.dir, 0o755, 0, 0⟩) } else w
  | .create q =>
    if w.fs.can_create q then { w with fs := w.fs.set q (some ⟨.file 0, 0o644, 0, 0⟩) } else w
  | .symlink t q =>
    if w.fs.can_create q then { w with fs := w.fs.set q (some ⟨.symlink t, 0o777, 0, 0⟩) } else w
  | .unlink q =>
    match w.fs.get q with
    | some i =>
      if i.kind = .dir then w else { w with fs := w.fs.set q none, fds := unlink_handles q w.fds }
    | none => w
  | .rmdir q =>
    if q ≠ [] ∧ w.fs.IsDir q ∧ w.fs.children q = [] then
      { w with fs := w.fs.set q none, fds := unlink_handles q w.fds }
    else w
  | .rename q₁ q₂ =>
    if q₁ ≠ [] ∧ (w.fs.get q₁).isSome ∧ w.fs.can_create q₂ ∧ is_below q₂ q₁ = false then
      { w with fs := w.fs.move q₁ q₂, fds := move_handles q₁ q₂ w.fds }
    else w

/-- Every path the call names is strictly below `root`. -/
def Action.Within (root : List Name) : Action → Prop
  | .mkdir q | .create q | .symlink _ q | .unlink q | .rmdir q => Below root q
  | .rename q₁ q₂ => Below root q₁ ∧ Below root q₂

instance (root : List Name) (a : Action) : Decidable (a.Within root) := by
  cases a <;> unfold Action.Within <;> infer_instance

/-! ## The process's system calls -/

/-- The process's computations. -/
abbrev SysM := StateM World

/-- The other processes take their next turn. -/
def interleave : SysM Unit :=
  modify fun w =>
    match w.script with
    | [] => w
    | batch :: rest => batch.foldl Action.apply { w with script := rest }

/-- A system call: the other processes' turn, then the call at one instant. -/
def syscall {α : Type} (call : World → α × World) : SysM α := do
  interleave
  modifyGet call

/-- A new descriptor for a description: the lowest number not in use, as the process never closes
one. -/
def World.add_fd (w : World) (h : Handle) : Nat × World :=
  (w.fds.length, { w with fds := w.fds ++ [h] })

/-- `open(p, O_PATH | O_CLOEXEC)` at one instant: a descriptor for what `p` names, following
links. -/
def World.open_path (w : World) (p : Path) : Except Errno Nat × World :=
  match lookup_result w.fs true p with
  | .error e => (.error e, w)
  | .ok q =>
    match w.fs.get q with
    | none => (.error .ENOENT, w)
    | some i => let (fd, w) := w.add_fd ⟨q, i.kind, true⟩; (.ok fd, w)

/-- `openat(fd, name, O_PATH | O_CLOEXEC)` at one instant: a descriptor for what `name` names in
the directory of `fd`, following a final link. -/
def World.openat (w : World) (fd : Nat) (name : Name) : Except Errno Nat × World :=
  match w.fds[fd]? with
  | none => (.error .EBADF, w)
  | some h =>
    if !h.live then (.error .ENOENT, w)
    else if h.kind ≠ .dir then (.error .ENOTDIR, w)
    else
      match resolve w.fs true MAXSYMLINKS h.path [.Normal name] with
      | .error e => (.error e, w)
      | .ok q =>
        match w.fs.get q with
        | none => (.error .ENOENT, w)
        | some i => let (fd, w) := w.add_fd ⟨q, i.kind, true⟩; (.ok fd, w)

/-- `mkdirat(fd, name, mode)` at one instant: a new directory `name` in the directory of `fd`; a
link there is not followed. -/
def World.mkdirat (w : World) (fd : Nat) (name : Name) (mode : UInt32) : Except Errno Unit × World :=
  match w.fds[fd]? with
  | none => (.error .EBADF, w)
  | some h =>
    if !h.live then (.error .ENOENT, w)
    else if h.kind ≠ .dir then (.error .ENOTDIR, w)
    else
      match w.fs.get (h.path ++ [name]) with
      | some _ => (.error .EEXIST, w)
      | none =>
        (.ok (), { w with fs := w.fs.set (h.path ++ [name]) (some ⟨.dir, mode &&& 0o7777, 0, 0⟩),
                          created := w.created ++ [h.path ++ [name]] })

/-- The bytes `" (deleted)"`, which `/proc` appends to the path of an unlinked object. -/
def DELETED : List UInt8 := utf8 " (deleted)"

/-- What `/proc/self/fd/N` shows for a description. -/
def Handle.proc_link (h : Handle) : Path :=
  if h.live then .RootDir :: h.path.map .Normal
  else .RootDir :: (h.path.dropLast ++ [h.path.getLast?.getD [] ++ DELETED]).map .Normal

/-- `readlink("/proc/self/fd/N")` at one instant. -/
def World.fd_link (w : World) (fd : Nat) : Except Errno Path × World :=
  match w.fds[fd]? with
  | none => (.error .ENOENT, w)
  | some h => (.ok h.proc_link, w)

/-- Where a walk that reaches `/proc/self/fd/N` goes on: the path `/proc` shows for the
description; for a descriptor not open, the entry is missing. -/
def World.proc_fd (w : World) (fd : Nat) : List UInt8 :=
  match w.fds[fd]? with
  | some h => Path.as_os_str h.proc_link
  | none => utf8 ("/proc/self/fd/" ++ toString fd)

/-- `fstat(fd)` at one instant: the type of the object. -/
def World.fstat (w : World) (fd : Nat) : Except Errno Kind × World :=
  match w.fds[fd]? with
  | none => (.error .EBADF, w)
  | some h => (.ok h.kind, w)

/-- `dup(fd)` at one instant: a second descriptor for the same description. -/
def World.dup (w : World) (fd : Nat) : Except Errno Nat × World :=
  match w.fds[fd]? with
  | none => (.error .EBADF, w)
  | some h => let (fd, w) := w.add_fd h; (.ok fd, w)

/-- What a call that only opens descriptors does: nothing, or one new descriptor. -/
def World.Opens (w w' : World) : Prop :=
  w' = w ∨ ∃ h, w' = (w.add_fd h).2

theorem World.open_path_opens (w : World) (p : Path) : w.Opens (w.open_path p).2 := by
  unfold World.open_path
  split
  · exact .inl rfl
  · split
    · exact .inl rfl
    · exact .inr ⟨_, rfl⟩

theorem World.openat_opens (w : World) (fd : Nat) (name : Name) : w.Opens (w.openat fd name).2 := by
  unfold World.openat
  split
  · exact .inl rfl
  · split
    · exact .inl rfl
    · split
      · exact .inl rfl
      · split
        · exact .inl rfl
        · split
          · exact .inl rfl
          · exact .inr ⟨_, rfl⟩

theorem World.dup_opens (w : World) (fd : Nat) : w.Opens (w.dup fd).2 := by
  unfold World.dup
  split
  · exact .inl rfl
  · exact .inr ⟨_, rfl⟩

/-- `open(p, O_PATH | O_CLOEXEC)`. -/
def open_path (p : Path) : SysM (Except Errno Nat) := syscall (·.open_path p)

/-- `openat(fd, name, O_PATH | O_CLOEXEC)`. -/
def openat (fd : Nat) (name : Name) : SysM (Except Errno Nat) := syscall (·.openat fd name)

/-- `mkdirat(fd, name, mode)`. -/
def mkdirat (fd : Nat) (name : Name) (mode : UInt32) : SysM (Except Errno Unit) :=
  syscall (·.mkdirat fd name mode)

/-- `readlink("/proc/self/fd/N")`. -/
def fd_link (fd : Nat) : SysM (Except Errno Path) := syscall (·.fd_link fd)

/-- `fstat(fd)`. -/
def fstat (fd : Nat) : SysM (Except Errno Kind) := syscall (·.fstat fd)

/-- `dup(fd)`. -/
def dup (fd : Nat) : SysM (Except Errno Nat) := syscall (·.dup fd)

/-- Calls that only read, such as `realpath(3)` or a walk of `readlink`s, taken at one instant. -/
def observe {α : Type} (f : World → α) : SysM α := syscall fun w => (f w, w)

/-! ## Staying inside a directory -/

/-- The object of descriptor `fd` is inside `root`. -/
def FdInside (root : List Name) (w : World) (fd : Nat) : Prop :=
  ∃ h, w.fds[fd]? = some h ∧ root <+: h.path

/-- The other processes only act strictly below `root`. -/
def ScriptWithin (root : List Name) (w : World) : Prop :=
  ∀ b ∈ w.script, ∀ a ∈ b, a.Within root

instance (root : List Name) (w : World) : Decidable (ScriptWithin root w) :=
  List.decidableBAll _ _

/-- What a run that stays inside `root` keeps. -/
structure Confined (root : List Name) (w w' : World) : Prop where
  outside : ∀ q, ¬ Below root q → w'.fs.get q = w.fs.get q
  created : ∀ q ∈ w'.created, q ∈ w.created ∨ Below root q
  fds : ∀ fd, FdInside root w fd → FdInside root w' fd

section
variable {root : List Name}

theorem Confined.refl (w : World) : Confined root w w :=
  ⟨fun _ _ => rfl, fun _ hq => .inl hq, fun _ h => h⟩

theorem Confined.trans {w₁ w₂ w₃ : World} (h₁ : Confined root w₁ w₂) (h₂ : Confined root w₂ w₃) :
    Confined root w₁ w₃ where
  outside q hq := (h₂.outside q hq).trans (h₁.outside q hq)
  created q hq := (h₂.created q hq).elim (h₁.created q) .inr
  fds fd h := h₂.fds fd (h₁.fds fd h)

/-- Descriptors are only ever added, and each keeps its object or follows it. -/
theorem FdInside.of_handles {w w' : World} {fd : Nat}
    (hfd : ∀ h, w.fds[fd]? = some h → root <+: h.path → ∃ h', w'.fds[fd]? = some h' ∧ root <+: h'.path)
    (h : FdInside root w fd) : FdInside root w' fd := by
  obtain ⟨h, hget, hin⟩ := h
  exact hfd h hget hin

theorem Below.not_of_prefix {q q' : List Name} (hq : Below root q) (hq' : ¬ Below root q')
    (hp : q <+: q') : False := by
  refine hq' ⟨hq.1.trans hp, fun he => hq.2 ?_⟩
  rw [he] at hp
  exact hp.eq_of_length (Nat.le_antisymm hp.length_le hq.1.length_le)

theorem unlink_handles_inside {q : List Name} {fds : List Handle} {fd : Nat} {h : Handle}
    (hget : fds[fd]? = some h) (hin : root <+: h.path) :
    ∃ h', (unlink_handles q fds)[fd]? = some h' ∧ root <+: h'.path := by
  refine ⟨if h.live && h.path == q then { h with live := false } else h, ?_, ?_⟩
  · simp [unlink_handles, hget]
  · split <;> exact hin

theorem move_handles_inside {q₁ q₂ : List Name} (h₂ : Below root q₂) {fds : List Handle}
    {fd : Nat} {h : Handle} (hget : fds[fd]? = some h) (hin : root <+: h.path) :
    ∃ h', (move_handles q₁ q₂ fds)[fd]? = some h' ∧ root <+: h'.path := by
  refine ⟨if h.live && is_below h.path q₁ then { h with path := q₂ ++ h.path.drop q₁.length }
    else h, ?_, ?_⟩
  · simp [move_handles, hget]
  · split
    · exact h₂.1.trans (List.prefix_append _ _)
    · exact hin

/-- Moving a subtree changes nothing that lies outside both places. -/
theorem Fs.get_move_of_not_below {fs : Fs} {q₁ q₂ q : List Name} (h₁ : ¬ q₁ <+: q)
    (h₂ : ¬ q₂ <+: q) : (fs.move q₁ q₂).get q = fs.get q := by
  have hb₁ : is_below q q₁ = false := by
    rw [is_below, Bool.eq_false_iff]
    exact fun h => h₁ (List.isPrefixOf_iff_prefix.mp h)
  have hb₂ : is_below q q₂ = false := by
    rw [is_below, Bool.eq_false_iff]
    exact fun h => h₂ (List.isPrefixOf_iff_prefix.mp h)
  -- the entries at `q` are kept as they are, and no moved entry lands there
  have hpred : ∀ e : List Name × Inode,
      ((if is_below e.1 q₁ then some (q₂ ++ e.1.drop q₁.length, e.2)
        else if is_below e.1 q₂ then none else some e).any fun e' => decide (e'.1 = q)) =
        decide (e.1 = q) := by
    intro e
    by_cases he : e.1 = q
    · simp [he, hb₁, hb₂]
    · by_cases hb : is_below e.1 q₁
      · have hne : q₂ ++ e.1.drop q₁.length ≠ q := fun h => h₂ (h ▸ List.prefix_append _ _)
        simp [hb, hne, he]
      · by_cases hb' : is_below e.1 q₂ <;> simp [hb, hb', he]
  unfold Fs.get Fs.move
  rw [List.find?_filterMap]
  simp only [hpred]
  rcases hf : fs.find? (fun e => decide (e.1 = q)) with _ | e
  · simp [hf]
  · have he : e.1 = q := by simpa using List.find?_some hf
    simp [hf, he, hb₁, hb₂]

/-- One call of another process that acts inside `root` stays inside `root`. -/
theorem Action.apply_confined {w : World} {a : Action} (ha : a.Within root) :
    Confined root w (a.apply w) := by
  -- a change at one path below `root`
  have hset : ∀ {q} (v : Option Inode) (fds : List Handle), Below root q →
      (∀ (fd : Nat) (h : Handle), w.fds[fd]? = some h → root <+: h.path →
        ∃ h' : Handle, fds[fd]? = some h' ∧ root <+: h'.path) →
      Confined root w { w with fs := w.fs.set q v, fds := fds } := by
    intro q v fds hq hfds
    refine ⟨fun q' hq' => ?_, fun q' hq' => .inl hq', fun fd => FdInside.of_handles (hfds fd)⟩
    exact Fs.get_set_other _ _ fun he => hq' (he ▸ hq)
  have hkeep : ∀ (fd : Nat) (h : Handle), w.fds[fd]? = some h → root <+: h.path →
      ∃ h' : Handle, w.fds[fd]? = some h' ∧ root <+: h'.path := fun _ h hget hin => ⟨h, hget, hin⟩
  cases a with
  | mkdir q | create q | symlink t q =>
    simp only [Action.apply]
    split
    · exact hset _ _ ha hkeep
    · exact Confined.refl w
  | unlink q =>
    simp only [Action.apply]
    split
    · split
      · exact Confined.refl w
      · exact hset _ _ ha fun _ _ hget hin => unlink_handles_inside hget hin
    · exact Confined.refl w
  | rmdir q =>
    simp only [Action.apply]
    split
    · exact hset _ _ ha fun _ _ hget hin => unlink_handles_inside hget hin
    · exact Confined.refl w
  | rename q₁ q₂ =>
    obtain ⟨h₁, h₂⟩ := ha
    simp only [Action.apply]
    split
    · refine ⟨fun q hq => ?_, fun q hq => .inl hq, fun fd => FdInside.of_handles ?_⟩
      · exact Fs.get_move_of_not_below (fun hp => h₁.not_of_prefix hq hp)
          (fun hp => h₂.not_of_prefix hq hp)
      · exact fun _ hget hin => move_handles_inside h₂ hget hin
    · exact Confined.refl w

theorem interleave_confined {w : World} (hw : ScriptWithin root w) :
    Confined root w (interleave.run w).2 ∧ ScriptWithin root (interleave.run w).2 := by
  have hrun : (interleave.run w).2 =
      match w.script with
      | [] => w
      | batch :: rest => batch.foldl Action.apply { w with script := rest } := rfl
  rw [hrun]
  rcases hs : w.script with _ | ⟨b, rest⟩
  · exact ⟨Confined.refl w, hw⟩
  · show Confined root w (b.foldl Action.apply { w with script := rest }) ∧
      ScriptWithin root (b.foldl Action.apply { w with script := rest })
    have hb : ∀ a ∈ b, a.Within root := hw b (by simp [hs])
    have hrest : ∀ b' ∈ rest, ∀ a ∈ b', a.Within root := fun b' hb' => hw b' (by simp [hs, hb'])
    -- the batch runs call by call; none touches the script
    have hfold : ∀ (l : List Action) (w₀ : World), (∀ a ∈ l, a.Within root) →
        Confined root w₀ (l.foldl Action.apply w₀) ∧ (l.foldl Action.apply w₀).script = w₀.script := by
      intro l
      induction l with
      | nil => exact fun w₀ _ => ⟨Confined.refl w₀, rfl⟩
      | cons a l ih =>
        intro w₀ hl
        obtain ⟨hc, hs'⟩ := ih (a.apply w₀) fun a' ha' => hl a' (List.mem_cons_of_mem _ ha')
        refine ⟨(Action.apply_confined (hl a List.mem_cons_self)).trans hc, hs'.trans ?_⟩
        cases a <;> simp only [Action.apply] <;> split <;> (try split) <;> rfl
    obtain ⟨hc, hscript⟩ := hfold b { w with script := rest } hb
    refine ⟨?_, fun b' hb' => hrest b' (by simpa [hscript] using hb')⟩
    exact (show Confined root w { w with script := rest } from
      ⟨fun _ _ => rfl, fun q hq => .inl hq, fun _ h => h⟩).trans hc

/-- A new descriptor changes nothing else. -/
theorem Confined.add_fd (w : World) (h : Handle) : Confined root w (w.add_fd h).2 := by
  refine ⟨fun _ _ => rfl, fun _ hq => .inl hq, fun fd ⟨h', hget, hin⟩ => ⟨h', ?_, hin⟩⟩
  have hlt : fd < w.fds.length := (List.getElem?_eq_some_iff.mp hget).1
  show (w.fds ++ [h])[fd]? = some h'
  rw [List.getElem?_append_left hlt]
  exact hget

theorem World.add_fd_inside (w : World) {h : Handle} (hin : root <+: h.path) :
    FdInside root (w.add_fd h).2 (w.add_fd h).1 :=
  ⟨h, by simp [World.add_fd], hin⟩

/-- A directory made through a descriptor inside `root` is below `root`. -/
theorem Confined.mkdir_at {w : World} {h : Handle} (hin : root <+: h.path) (name : Name) (i : Inode) :
    Confined root w { w with fs := w.fs.set (h.path ++ [name]) (some i),
                             created := w.created ++ [h.path ++ [name]] } := by
  have hbelow : Below root (h.path ++ [name]) :=
    ⟨hin.trans (List.prefix_append _ _), fun he => by
      have := hin.length_le
      rw [← he, List.length_append, List.length_singleton] at this
      omega⟩
  refine ⟨fun q hq => ?_, fun q hq => ?_, fun _ h => h⟩
  · show (w.fs.set (h.path ++ [name]) (some i)).get q = w.fs.get q
    exact Fs.get_set_other _ _ fun he => hq (he ▸ hbelow)
  rcases List.mem_append.mp hq with hq | hq
  · exact .inl hq
  · rw [List.mem_singleton.mp hq]
    exact .inr hbelow

end

/-! ## Pre- and postconditions -/

/-- From a world satisfying `P` whose other processes act inside `root`, `x` stays confined to
`root`, keeps the other processes inside `root`, and ends in a world satisfying `Q` of its
result. -/
def Triple {α : Type} (root : List Name) (P : World → Prop) (x : SysM α)
    (Q : α → World → Prop) : Prop :=
  ∀ w, P w → ScriptWithin root w →
    Confined root w (x.run w).2 ∧ ScriptWithin root (x.run w).2 ∧ Q (x.run w).1 (x.run w).2

/-- A property that a confined run keeps. -/
def Stable (root : List Name) (P : World → Prop) : Prop :=
  ∀ w w', Confined root w w' → P w → P w'

section
variable {root : List Name} {α β : Type} {P P' : World → Prop} {Q Q' : α → World → Prop}

theorem Triple.pure (a : α) (h : ∀ w, P w → Q a w) : Triple root P (Pure.pure a) Q :=
  fun w hP hs => ⟨Confined.refl w, hs, h w hP⟩

theorem Triple.bind {x : SysM α} {f : α → SysM β} {R : β → World → Prop}
    (hx : Triple root P x Q) (hf : ∀ a, Triple root (Q a) (f a) R) :
    Triple root P (x >>= f) R := by
  intro w hP hs
  obtain ⟨hc₁, hs₁, hQ⟩ := hx w hP hs
  obtain ⟨hc₂, hs₂, hR⟩ := hf _ _ hQ hs₁
  exact ⟨hc₁.trans hc₂, hs₂, hR⟩

theorem Triple.conseq {x : SysM α} (h : Triple root P x Q) (hP : ∀ w, P' w → P w)
    (hQ : ∀ a w, Q a w → Q' a w) : Triple root P' x Q' := by
  intro w hP' hs
  obtain ⟨hc, hs', hq⟩ := h w (hP w hP') hs
  exact ⟨hc, hs', hQ _ _ hq⟩

/-- A case split on a value known before the computation. -/
theorem Triple.of_forall {x : SysM α} (h : ∀ w₀, Triple root (fun w => P w ∧ w = w₀) x Q) :
    Triple root P x Q :=
  fun w hP hs => h w w ⟨hP, rfl⟩ hs

theorem Triple.map {x : SysM α} (f : α → β) (h : Triple root P x Q) :
    Triple root P (f <$> x) fun b w => ∃ a, b = f a ∧ Q a w := by
  intro w hP hs
  obtain ⟨hc, hs', hq⟩ := h w hP hs
  exact ⟨hc, hs', _, rfl, hq⟩

/-- The frame rule: a property that confined runs keep holds after the computation. -/
theorem Triple.frame {x : SysM α} {S : World → Prop} (h : Triple root P x Q) (hS : Stable root S) :
    Triple root (fun w => P w ∧ S w) x fun a w => Q a w ∧ S w := by
  intro w ⟨hP, hSw⟩ hs
  obtain ⟨hc, hs', hq⟩ := h w hP hs
  exact ⟨hc, hs', hq, hS _ _ hc hSw⟩

theorem Stable.fdInside (fd : Nat) : Stable root fun w => FdInside root w fd :=
  fun _ _ hc h => hc.fds fd h

theorem Stable.and {S S' : World → Prop} (h : Stable root S) (h' : Stable root S') :
    Stable root fun w => S w ∧ S' w :=
  fun w w' hc ⟨hs, hs'⟩ => ⟨h w w' hc hs, h' w w' hc hs'⟩

theorem Stable.const (p : Prop) : Stable root fun _ => p :=
  fun _ _ _ h => h

end

/-! ## One rule per system call -/

section
variable {root : List Name} {P : World → Prop}

theorem interleave_triple (hP : Stable root P) : Triple root P interleave fun _ => P := by
  intro w hPw hs
  obtain ⟨hc, hs'⟩ := interleave_confined hs
  exact ⟨hc, hs', hP _ _ hc hPw⟩

/-- A system call whose instant keeps the script and stays confined. -/
theorem syscall_triple {α : Type} {call : World → α × World} {Q : α → World → Prop}
    (hP : Stable root P)
    (h : ∀ w, P w → Confined root w (call w).2 ∧ (call w).2.script = w.script ∧ Q (call w).1 (call w).2) :
    Triple root P (syscall call) Q := by
  refine (interleave_triple hP).bind fun _ w hPw hs => ?_
  obtain ⟨hc, hscript, hQ⟩ := h w hPw
  exact ⟨hc, fun b hb => hs b (hscript ▸ hb), hQ⟩

/-- A call at one instant that keeps the script and stays confined keeps every stable property. -/
theorem syscall_triple_stable {α : Type} {call : World → α × World} (hP : Stable root P)
    (h : ∀ w, Confined root w (call w).2 ∧ (call w).2.script = w.script) :
    Triple root P (syscall call) fun _ => P :=
  syscall_triple hP fun w hPw =>
    ⟨(h w).1, (h w).2, hP _ _ (h w).1 hPw⟩

theorem World.Opens.confined {w w' : World} (ho : w.Opens w') :
    Confined root w w' ∧ w'.script = w.script := by
  rcases ho with rfl | ⟨h, rfl⟩
  · exact ⟨Confined.refl _, rfl⟩
  · exact ⟨Confined.add_fd _ h, rfl⟩

/-- `mkdirat` through a descriptor inside `root` stays inside `root`. -/
theorem World.mkdirat_confined {w : World} {fd : Nat} (hin : FdInside root w fd) (name : Name)
    (mode : UInt32) :
    Confined root w (w.mkdirat fd name mode).2 ∧ (w.mkdirat fd name mode).2.script = w.script := by
  obtain ⟨h, hget, hpath⟩ := hin
  unfold World.mkdirat
  rw [hget]
  dsimp only
  split
  · exact ⟨Confined.refl w, rfl⟩
  · split
    · exact ⟨Confined.refl w, rfl⟩
    · split
      · exact ⟨Confined.refl w, rfl⟩
      · exact ⟨Confined.mkdir_at hpath name _, rfl⟩

theorem openat_triple (fd : Nat) (name : Name) (hP : Stable root P) :
    Triple root P (openat fd name) fun _ => P :=
  syscall_triple_stable hP fun w => (w.openat_opens fd name).confined

theorem open_path_triple (p : Path) (hP : Stable root P) :
    Triple root P (open_path p) fun _ => P :=
  syscall_triple_stable hP fun w => (w.open_path_opens p).confined

theorem observe_triple {α : Type} (f : World → α) (hP : Stable root P) :
    Triple root P (observe f) fun _ => P :=
  syscall_triple_stable hP fun w => ⟨Confined.refl w, rfl⟩

theorem fstat_triple (fd : Nat) (hP : Stable root P) : Triple root P (fstat fd) fun _ => P :=
  syscall_triple_stable hP fun w => by
    unfold World.fstat
    split <;> exact ⟨Confined.refl w, rfl⟩

theorem mkdirat_triple (fd : Nat) (name : Name) (mode : UInt32) (hP : Stable root P) :
    Triple root (fun w => P w ∧ FdInside root w fd) (mkdirat fd name mode) fun _ => P :=
  syscall_triple ((hP.and (Stable.fdInside fd))) fun _ ⟨hPw, hin⟩ =>
    let h := World.mkdirat_confined hin name mode
    ⟨h.1, h.2, hP _ _ h.1 hPw⟩

/-- `readlink` of `/proc/self/fd/N` answers what `/proc` shows for the description. -/
theorem fd_link_triple (fd : Nat) (hP : Stable root P) :
    Triple root P (fd_link fd) fun r w =>
      P w ∧ ∀ p, r = .ok p → ∃ h, w.fds[fd]? = some h ∧ h.proc_link = p :=
  syscall_triple hP fun w hPw => by
    unfold World.fd_link
    split
    · exact ⟨Confined.refl w, rfl, hPw, fun _ h => nomatch h⟩
    · rename_i h hget
      exact ⟨Confined.refl w, rfl, hPw, fun p hp => ⟨h, hget, Except.ok.inj hp⟩⟩

/-- `dup` of a descriptor inside `root` gives one inside `root`. -/
theorem dup_triple (fd : Nat) (hP : Stable root P) :
    Triple root (fun w => P w ∧ FdInside root w fd) (dup fd) fun r w =>
      P w ∧ ∀ fd', r = .ok fd' → FdInside root w fd' :=
  syscall_triple (hP.and (Stable.fdInside fd)) fun w ⟨hPw, hin⟩ => by
    obtain ⟨h, hget, hpath⟩ := hin
    unfold World.dup
    rw [hget]
    have hc := @Confined.add_fd root w h
    exact ⟨hc, rfl, hP _ _ hc hPw, fun fd' hfd => by
      cases hfd
      exact w.add_fd_inside hpath⟩

/-- Where `/proc` shows a path ending in a name below `t`, the object is below `t`. -/
theorem Handle.prefix_of_proc_link {h : Handle} {t : List Name} {c : Name}
    (hl : h.proc_link = .RootDir :: (t ++ [c]).map .Normal) : t <+: h.path := by
  have hinj : ∀ {a b : List Name}, a.map Component.Normal = b.map Component.Normal → a = b :=
    fun he => List.map_injective_iff.mpr (fun _ _ he => Component.Normal.inj he) he
  unfold Handle.proc_link at hl
  split at hl
  · rw [List.cons.injEq] at hl
    rw [hinj hl.2]
    exact List.prefix_append _ _
  · rw [List.cons.injEq] at hl
    have he := hinj hl.2
    obtain ⟨hd, -⟩ := List.append_inj' he (by simp)
    rw [← hd]
    exact List.dropLast_prefix _

end

/-! ## Computations that can fail -/

/-- The triple of a computation that can fail: `Q` holds of the value of a successful run, and
every run, failed or not, stays confined. -/
def TripleOk {ε α : Type} (root : List Name) (P : World → Prop) (x : ExceptT ε SysM α)
    (Q : α → World → Prop) : Prop :=
  Triple root P x.run fun r w => ∀ a, r = .ok a → Q a w

section
variable {root : List Name} {ε α β : Type} {P P' : World → Prop} {Q Q' : α → World → Prop}

theorem TripleOk.pure (a : α) (h : ∀ w, P w → Q a w) :
    TripleOk root P (Pure.pure a : ExceptT ε SysM α) Q :=
  Triple.pure _ fun w hP _ he => Except.ok.inj he ▸ h w hP

theorem TripleOk.throw (e : ε) : TripleOk root P (MonadExcept.throw e : ExceptT ε SysM α) Q :=
  Triple.pure _ fun _ _ _ he => nomatch he

theorem TripleOk.bind {x : ExceptT ε SysM α} {f : α → ExceptT ε SysM β} {R : β → World → Prop}
    (hx : TripleOk root P x Q) (hf : ∀ a, TripleOk root (Q a) (f a) R) :
    TripleOk root P (x >>= f) R := by
  unfold TripleOk
  rw [ExceptT.run_bind]
  refine Triple.bind hx fun r => ?_
  cases r with
  | ok a => exact (hf a).conseq (fun w h => h a rfl) fun _ _ h => h
  | error e => exact Triple.pure _ fun _ _ _ he => nomatch he

theorem TripleOk.conseq {x : ExceptT ε SysM α} (h : TripleOk root P x Q) (hP : ∀ w, P' w → P w)
    (hQ : ∀ a w, Q a w → Q' a w) : TripleOk root P' x Q' :=
  Triple.conseq h hP fun _ w hq a ha => hQ a w (hq a ha)

/-- A fact that every world of the precondition gives may be assumed. -/
theorem TripleOk.of_pre {x : ExceptT ε SysM α} {φ : Prop} (hφ : ∀ w, P w → φ)
    (h : φ → TripleOk root P x Q) : TripleOk root P x Q :=
  fun w hP hs => h (hφ w hP) w hP hs

/-- A computation that cannot fail, run where one that can is expected. -/
theorem TripleOk.lift {x : SysM α} (h : Triple root P x Q) :
    TripleOk root P (ExceptT.lift x : ExceptT ε SysM α) Q := by
  unfold TripleOk
  rw [ExceptT.run_lift]
  exact (h.map _).conseq (fun _ h => h) fun _ _ ⟨a, he, hq⟩ a' ha' => by
    rw [he, Except.ok.injEq] at ha'
    exact ha' ▸ hq

/-- A pure step that can fail, as `?` runs it: the rest runs on its value. -/
theorem TripleOk.liftExcept_bind (e : Except ε α) {f : α → ExceptT ε SysM β}
    {R : β → World → Prop} (h : ∀ a, e = .ok a → TripleOk root P (f a) R) :
    TripleOk root P (liftExcept e >>= f) R := by
  cases e with
  | error e =>
    have ht : TripleOk root P (liftExcept (.error e) : ExceptT ε SysM α) fun _ _ => False :=
      TripleOk.throw e
    exact ht.bind fun _ _ hf => hf.elim
  | ok a =>
    show TripleOk root P (Pure.pure a >>= f) R
    rw [pure_bind]
    exact h a rfl

/-- The run of a computation that can fail, with the properties that confined runs keep framed
around it: they hold after a failure too. -/
theorem TripleOk.run {x : ExceptT ε SysM α} {S : World → Prop} (h : TripleOk root P x Q)
    (hS : Stable root S) :
    Triple root (fun w => P w ∧ S w) x.run fun r w => S w ∧ ∀ a, r = .ok a → Q a w :=
  (h.frame hS).conseq (fun _ h => h) fun _ _ ⟨hq, hs⟩ => ⟨hs, hq⟩

end

end Posix
