import KataContainers.Posix.Handles

/-!
# A process alone

Runs of `SysM` computations when no other process acts, that is from a world whose script is
empty: `interleave` does nothing, each system call is its instant, and a computation that can fail
runs as a chain of `RunsOk` steps (`RunsOk.bind`). One lemma per system call says what it does on
the objects it meets.
-/

namespace Posix

section
variable {w : World}

theorem interleave_alone (hs : w.script = []) : interleave.run w = ((), w) := by
  simp [interleave, hs, pure]

theorem syscall_alone {α : Type} {call : World → α × World} (hs : w.script = []) :
    (syscall call).run w = call w := by
  show (modifyGet call : SysM α).run (interleave.run w).2 = call w
  rw [interleave_alone hs]
  rfl

end

/-- Every entry of `fs` is still in `fs'`. -/
def Fs.Keeps (fs fs' : Fs) : Prop :=
  ∀ q i, fs.get q = some i → fs'.get q = some i

section
variable {fs fs' : Fs}

theorem Fs.Keeps.refl (fs : Fs) : fs.Keeps fs := fun _ _ h => h

theorem Fs.Keeps.trans {fs'' : Fs} (h₁ : fs.Keeps fs') (h₂ : fs'.Keeps fs'') : fs.Keeps fs'' :=
  fun q i h => h₂ q i (h₁ q i h)

/-- Setting a path where nothing is keeps every entry. -/
theorem Fs.Keeps.set_none {p : List Name} (hp : fs.get p = none) (v : Option Inode) :
    fs.Keeps (fs.set p v) := by
  intro q i hq
  have hne : q ≠ p := fun he => by rw [he, hp] at hq; exact nomatch hq
  rw [Fs.get_set_other _ _ hne]
  exact hq

end

/-! ## Runs that succeed -/

/-- `x` run from `w` succeeds with `a` and ends in `w'`. -/
def RunsOk {ε α : Type} (x : ExceptT ε SysM α) (w : World) (a : α) (w' : World) : Prop :=
  x.run.run w = (.ok a, w')

section
variable {ε α β : Type} {w w₁ w₂ : World}

theorem RunsOk.pure (a : α) (w : World) : RunsOk (Pure.pure a : ExceptT ε SysM α) w a w := rfl

theorem RunsOk.bind {x : ExceptT ε SysM α} {f : α → ExceptT ε SysM β} {a : α} {b : β}
    (hx : RunsOk x w a w₁) (hf : RunsOk (f a) w₁ b w₂) : RunsOk (x >>= f) w b w₂ := by
  unfold RunsOk at *
  rw [ExceptT.run_bind]
  show (match (x.run.run w).1 with
    | .ok a => (f a).run
    | .error e => Pure.pure (.error e)).run (x.run.run w).2 = _
  rw [hx]
  exact hf

/-- A failure ends the run. -/
theorem RunsOk.bind_error {x : ExceptT ε SysM α} {f : α → ExceptT ε SysM β} {e : ε}
    (hx : x.run.run w = (.error e, w₁)) : (x >>= f).run.run w = (.error e, w₁) := by
  rw [ExceptT.run_bind]
  show (match (x.run.run w).1 with
    | .ok a => (f a).run
    | .error e => Pure.pure (.error e)).run (x.run.run w).2 = _
  rw [hx]
  rfl

/-- The result of a computation that can fail, looked at by the caller. -/
theorem RunsOk.lift (x : SysM α) (w : World) :
    RunsOk (ExceptT.lift x : ExceptT ε SysM α) w (x.run w).1 (x.run w).2 := rfl

end

/-! ## The system calls, alone -/

section
variable {w : World} {fd : Nat} {cur : List Name} {c : Name}

/-- `openat` of a directory below an open directory opens it. -/
theorem World.openat_dir {i : Inode} (hget : w.fds[fd]? = some ⟨cur, .dir, true⟩)
    (hi : w.fs.get (cur ++ [c]) = some i) (hk : i.kind = .dir) :
    w.openat fd c = (.ok w.fds.length, (w.add_fd ⟨cur ++ [c], .dir, true⟩).2) := by
  have hres : resolve w.fs true MAXSYMLINKS cur [.Normal c] = .ok (cur ++ [c]) := by
    simp [resolve, walk, hi, hk]
  simp [World.openat, hget, hres, hi, hk, World.add_fd]

/-- `openat` of a name where nothing is fails with `ENOENT`. -/
theorem World.openat_none (hget : w.fds[fd]? = some ⟨cur, .dir, true⟩)
    (hnone : w.fs.get (cur ++ [c]) = none) : w.openat fd c = (.error .ENOENT, w) := by
  have hres : resolve w.fs true MAXSYMLINKS cur [.Normal c] = .ok (cur ++ [c]) := by
    simp [resolve, walk, hnone]
  simp [World.openat, hget, hres, hnone]

/-- `mkdirat` of a name where nothing is makes the directory. -/
theorem World.mkdirat_none (hget : w.fds[fd]? = some ⟨cur, .dir, true⟩)
    (hnone : w.fs.get (cur ++ [c]) = none) (mode : UInt32) :
    w.mkdirat fd c mode = (.ok (), { w with
      fs := w.fs.set (cur ++ [c]) (some ⟨.dir, mode &&& 0o7777, 0, 0⟩),
      created := w.created ++ [cur ++ [c]] }) := by
  simp [World.mkdirat, hget, hnone]

theorem World.fd_link_live {h : Handle} (hget : w.fds[fd]? = some h) (hl : h.live = true) :
    w.fd_link fd = (.ok (.RootDir :: h.path.map .Normal), w) := by
  simp [World.fd_link, hget, Handle.proc_link, hl]

theorem World.fstat_some {h : Handle} (hget : w.fds[fd]? = some h) :
    w.fstat fd = (.ok h.kind, w) := by
  simp [World.fstat, hget]

theorem World.dup_some {h : Handle} (hget : w.fds[fd]? = some h) :
    w.dup fd = (.ok w.fds.length, (w.add_fd h).2) := by
  simp [World.dup, hget, World.add_fd]

end

end Posix
