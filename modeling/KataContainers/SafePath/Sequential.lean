import KataContainers.Posix.Alone
import KataContainers.SafePath.DirBuilder

/-!
# `ScopedDirBuilder` without other processes

What `do_mkdir` does when no other process acts: in the recursive mode, from a root pinned at the
directory `croot`, on a path of valid names whose levels are directories where they exist, it makes
each missing level as a directory and returns a `PinnedPathBuf` pinned at `croot/path`, its target
that path (`do_mkdir_alone`). The type of the last level is lost only to another process acting
between the `mkdirat` and the `openat` (`create_returns_file`).

The proof runs the loop level by level: `open_child_dir` opens a level that is a directory,
`open_child_none` fails where nothing is, and `mkdir_none` makes the level and opens it.
-/

namespace KataContainers.SafePath

open Posix

/-- `dir` is pinned at `cur`: its descriptor is open on the directory `cur`, and its target names
`cur`. -/
def PinnedAt (w : World) (dir : PinnedPathBuf) (cur : List Name) : Prop :=
  w.fds[dir.handle]? = some ⟨cur, .dir, true⟩ ∧ dir.target = .RootDir :: cur.map .Normal

instance (w : World) (dir : PinnedPathBuf) (cur : List Name) : Decidable (PinnedAt w dir cur) :=
  inferInstanceAs (Decidable (_ ∧ _))

/-- Every level of `ns` below `cur` that exists is a directory. -/
def DirsAlong (fs : Fs) (cur : List Name) : List Name → Prop
  | [] => True
  | c :: rest => (fs.get (cur ++ [c])).all (fun i => i.kind == .dir) = true ∧
      DirsAlong fs (cur ++ [c]) rest

instance DirsAlong.instDecidable (fs : Fs) : (cur ns : List Name) → Decidable (DirsAlong fs cur ns)
  | _, [] => isTrue trivial
  | cur, c :: rest =>
    have := DirsAlong.instDecidable fs (cur ++ [c]) rest
    inferInstanceAs (Decidable (_ ∧ _))

/-- Every level of `ns` below `cur` is a directory. -/
def DirsExist (fs : Fs) (cur : List Name) : List Name → Prop
  | [] => True
  | c :: rest => fs.IsDir (cur ++ [c]) ∧ DirsExist fs (cur ++ [c]) rest

section
variable {fs fs' : Fs}

/-- What lies strictly below `cur` decides `DirsAlong`. -/
theorem DirsAlong.of_below {cur : List Name} {ns : List Name}
    (h : ∀ q, Below cur q → fs'.get q = fs.get q) (hd : DirsAlong fs cur ns) :
    DirsAlong fs' cur ns := by
  induction ns generalizing cur with
  | nil => trivial
  | cons c rest ih =>
    have hbelow : Below cur (cur ++ [c]) :=
      ⟨List.prefix_append _ _, fun he => by simpa using congrArg List.length he⟩
    refine ⟨by rw [h _ hbelow]; exact hd.1, ih (fun q hq => h q ?_) hd.2⟩
    exact ⟨hbelow.1.trans hq.1, fun he => by
      have := hq.1.length_le
      rw [he, List.length_append, List.length_singleton] at this
      omega⟩

theorem DirsExist.keeps {cur : List Name} {ns : List Name} (hk : fs.Keeps fs')
    (hd : DirsExist fs cur ns) : DirsExist fs' cur ns := by
  induction ns generalizing cur with
  | nil => trivial
  | cons c rest ih =>
    obtain ⟨hdir, hrest⟩ := hd
    refine ⟨?_, ih hrest⟩
    unfold Fs.IsDir at hdir ⊢
    rcases hg : fs.get (cur ++ [c]) with _ | i
    · rw [hg] at hdir
      exact nomatch hdir
    · rw [hk _ i hg]
      rw [hg] at hdir
      exact hdir

end

/-! ## The steps of the loop -/

section
variable {α : Type} {w w' : World} {x : SysM (Except Errno α)} {a : α}

theorem sys_runs (h : x.run w = (.ok a, w')) : RunsOk (sys x) w a w' := by
  unfold RunsOk sys
  show ((x.run w).1.mapError IoError.Os, (x.run w).2) = _
  rw [h]
  rfl

theorem sys_runs_error {e : Errno} (h : x.run w = (.error e, w')) :
    (sys x).run.run w = (.error (.Os e), w') := by
  show ((x.run w).1.mapError IoError.Os, (x.run w).2) = _
  rw [h]
  rfl

end

section
variable {w : World} {dir : PinnedPathBuf} {cur : List Name} {c : Name}

theorem add_fd_script (w : World) (h : Handle) : (w.add_fd h).2.script = w.script := rfl

theorem add_fd_get (w : World) (h : Handle) : (w.add_fd h).2.fds[w.fds.length]? = some h := by
  simp [World.add_fd]

/-- `new_from_file` of a live descriptor and the path `/proc` shows for it keeps it. -/
theorem new_from_file_live (hs : w.script = []) {fd : Nat} {p : List Name} {k : Kind}
    (hget : w.fds[fd]? = some ⟨p, k, true⟩) :
    RunsOk (PinnedPathBuf.new_from_file fd (.RootDir :: p.map .Normal)) w
      ⟨fd, .RootDir :: p.map .Normal⟩ w := by
  unfold PinnedPathBuf.new_from_file
  have hlink : RunsOk (sys (fd_link fd)) w (.RootDir :: p.map .Normal) w :=
    sys_runs ((syscall_alone hs).trans (World.fd_link_live hget rfl))
  refine RunsOk.bind hlink ?_
  rw [if_neg (not_not.mpr rfl)]
  exact RunsOk.pure _ w

/-- `open_child` of a level that is a directory opens it, with the target below. -/
theorem open_child_dir (hs : w.script = []) (hpin : PinnedAt w dir cur)
    (hc : PinnedPathBuf.prepare_path_component c = .ok c) {i : Inode}
    (hi : w.fs.get (cur ++ [c]) = some i) (hk : i.kind = .dir) :
    RunsOk (dir.open_child c) w ⟨w.fds.length, .RootDir :: (cur ++ [c]).map .Normal⟩
      (w.add_fd ⟨cur ++ [c], .dir, true⟩).2 := by
  have hcomp := (PinnedPathBuf.prepare_path_component_ok hc).2
  have horig : push dir.target (components c) = .RootDir :: (cur ++ [c]).map .Normal := by
    rw [hpin.2, hcomp]
    simp [push]
  unfold PinnedPathBuf.open_child
  rw [hc]
  refine RunsOk.bind (RunsOk.pure c w) (RunsOk.bind
    (sys_runs ((syscall_alone hs).trans (World.openat_dir hpin.1 hi hk))) ?_)
  rw [horig]
  exact new_from_file_live (w := (w.add_fd ⟨cur ++ [c], .dir, true⟩).2) hs (add_fd_get w _)

/-- `open_child` of a name where nothing is fails, and changes nothing. -/
theorem open_child_none (hs : w.script = []) (hpin : PinnedAt w dir cur)
    (hc : PinnedPathBuf.prepare_path_component c = .ok c) (hnone : w.fs.get (cur ++ [c]) = none) :
    (dir.open_child c).run.run w = (.error (.Os .ENOENT), w) := by
  unfold PinnedPathBuf.open_child
  rw [hc]
  show ((Pure.pure c : ExceptT IoError SysM Name) >>= _).run.run w = _
  rw [pure_bind]
  exact RunsOk.bind_error
    (sys_runs_error ((syscall_alone hs).trans (World.openat_none hpin.1 hnone)))

/-- `mkdir` of a name where nothing is makes the directory and opens it. -/
theorem mkdir_none (hs : w.script = []) (hpin : PinnedAt w dir cur)
    (hc : PinnedPathBuf.prepare_path_component c = .ok c) (hnone : w.fs.get (cur ++ [c]) = none)
    (mode : UInt32) :
    let w₁ : World := { w with
      fs := w.fs.set (cur ++ [c]) (some ⟨.dir, mode &&& 0o7777, 0, 0⟩),
      created := w.created ++ [cur ++ [c]] }
    RunsOk (dir.mkdir c mode) w ⟨w.fds.length, .RootDir :: (cur ++ [c]).map .Normal⟩
      (w₁.add_fd ⟨cur ++ [c], .dir, true⟩).2 := by
  intro w₁
  have hpin₁ : PinnedAt w₁ dir cur := hpin
  unfold PinnedPathBuf.mkdir
  rw [hc]
  refine RunsOk.bind (RunsOk.pure c w) (RunsOk.bind
    (sys_runs ((syscall_alone hs).trans (World.mkdirat_none hpin.1 hnone mode))) ?_)
  exact open_child_dir hs hpin₁ hc
    (Fs.get_set_same w.fs (cur ++ [c]) (some ⟨.dir, mode &&& 0o7777, 0, 0⟩)) rfl

theorem metadata_some (hs : w.script = []) {pb : PinnedPathBuf} {h : Handle}
    (hget : w.fds[pb.handle]? = some h) : RunsOk pb.metadata w h.kind w :=
  sys_runs ((syscall_alone hs).trans (World.fstat_some hget))

theorem try_clone_pinned (hs : w.script = []) (hpin : PinnedAt w dir cur) :
    RunsOk dir.try_clone w ⟨w.fds.length, dir.target⟩ (w.add_fd ⟨cur, .dir, true⟩).2 := by
  unfold PinnedPathBuf.try_clone
  exact RunsOk.bind (sys_runs ((syscall_alone hs).trans (World.dup_some hpin.1)))
    (RunsOk.pure _ _)

end

/-! ## The recursive mode -/

/-- The loop of `do_mkdir` in the recursive mode, alone, by induction on the levels left: each
level is opened where it is a directory and made where nothing is, and the loop ends pinned at the
last one. -/
theorem mkdir_levels_alone {self : ScopedDirBuilder} (hr : self.recursive = true) (levels : Nat) :
    ∀ (ns : List Name) (idx : Nat) (dir : PinnedPathBuf) (cur : List Name) (w : World),
      w.script = [] → PinnedAt w dir cur →
      (∀ c ∈ ns, PinnedPathBuf.prepare_path_component c = .ok c) → DirsAlong w.fs cur ns →
      ∃ pb w', RunsOk (self.mkdir_levels levels idx dir ns) w pb w' ∧ w'.script = [] ∧
        PinnedAt w' pb (cur ++ ns) ∧ DirsExist w'.fs cur ns ∧ w.fs.Keeps w'.fs
  | [], _, dir, cur, w, _, hpin, _, _ =>
    ⟨dir, w, RunsOk.pure _ _, by assumption, by rw [List.append_nil]; exact hpin, trivial,
      Fs.Keeps.refl _⟩
  | c :: rest, idx, dir, cur, w, hs, hpin, hvalid, hdirs => by
    have hc := hvalid c List.mem_cons_self
    have hrest : ∀ c' ∈ rest, PinnedPathBuf.prepare_path_component c' = .ok c' :=
      fun c' h => hvalid c' (List.mem_cons_of_mem _ h)
    have hcur : cur ++ c :: rest = (cur ++ [c]) ++ rest := by simp
    rw [ScopedDirBuilder.mkdir_levels]
    rcases hg : w.fs.get (cur ++ [c]) with _ | i
    · -- nothing at the level: `open_child` fails, and `mkdir` makes it
      let w₁ : World := { w with
        fs := w.fs.set (cur ++ [c]) (some ⟨.dir, self.mode &&& 0o7777, 0, 0⟩),
        created := w.created ++ [cur ++ [c]] }
      let w₂ := (w₁.add_fd ⟨cur ++ [c], .dir, true⟩).2
      have hopen : RunsOk (ExceptT.lift (dir.open_child c).run : ExceptT IoError SysM _) w
          (.error (.Os .ENOENT)) w := by
        unfold RunsOk
        rw [show (ExceptT.lift (dir.open_child c).run : ExceptT IoError SysM _).run.run w =
          (.ok ((dir.open_child c).run.run w).1, ((dir.open_child c).run.run w).2) from rfl,
          open_child_none hs hpin hc hg]
      have hpin₂ : PinnedAt w₂ ⟨w.fds.length, .RootDir :: (cur ++ [c]).map .Normal⟩ (cur ++ [c]) :=
        ⟨add_fd_get w₁ _, rfl⟩
      have hfs₂ : w₂.fs = w.fs.set (cur ++ [c]) (some ⟨.dir, self.mode &&& 0o7777, 0, 0⟩) := rfl
      have hdirs₂ : DirsAlong w₂.fs (cur ++ [c]) rest := by
        rw [hfs₂]
        exact DirsAlong.of_below (fun q hq => Fs.get_set_other _ _ fun he => hq.2 he) hdirs.2
      obtain ⟨pb, w', hrun, hs', hpin', hexist, hkeep⟩ :=
        mkdir_levels_alone hr levels rest (idx + 1) _ (cur ++ [c]) w₂ hs hpin₂ hrest hdirs₂
      have hkeep₂ : w.fs.Keeps w₂.fs := hfs₂ ▸ Fs.Keeps.set_none hg _
      refine ⟨pb, w', RunsOk.bind hopen ?_, hs', hcur ▸ hpin', ⟨?_, hexist⟩, hkeep₂.trans hkeep⟩
      · dsimp only
        rw [if_neg (by simp [hr])]
        exact RunsOk.bind (mkdir_none hs hpin hc hg self.mode) hrun
      · have hdir₂ : w₂.fs.IsDir (cur ++ [c]) := by
          show (w₂.fs.get (cur ++ [c])).map Inode.kind = some .dir
          simp [w₂, w₁, World.add_fd]
        unfold Fs.IsDir at hdir₂ ⊢
        obtain ⟨i₂, hi₂, hk₂⟩ := Option.map_eq_some_iff.mp hdir₂
        rw [hkeep _ _ hi₂]
        exact congrArg some hk₂
    · -- a level that exists: it is a directory, and the loop opens it
      have hk : i.kind = .dir := by simpa [hg] using hdirs.1
      let w₁ := (w.add_fd ⟨cur ++ [c], .dir, true⟩).2
      have hopen := open_child_dir hs hpin hc hg hk
      have hpin₁ : PinnedAt w₁ ⟨w.fds.length, .RootDir :: (cur ++ [c]).map .Normal⟩ (cur ++ [c]) :=
        ⟨add_fd_get w _, rfl⟩
      obtain ⟨pb, w', hrun, hs', hpin', hexist, hkeep⟩ :=
        mkdir_levels_alone hr levels rest (idx + 1) _ (cur ++ [c]) w₁ hs hpin₁ hrest hdirs.2
      refine ⟨pb, w', RunsOk.bind (RunsOk.lift _ w) ?_, hs', hcur ▸ hpin', ⟨?_, hexist⟩, hkeep⟩
      · rw [hopen]
        dsimp only
        refine RunsOk.bind (metadata_some (w := w₁) hs (add_fd_get w _)) ?_
        rw [if_neg (by simp), if_neg (by simp [hr])]
        exact hrun
      · unfold Fs.IsDir
        rw [hkeep _ _ hg, Option.map_some, hk]

/-- `do_mkdir` in the recursive mode, with no other process acting, on a path of valid names whose
levels are directories where they exist: it makes the missing levels as directories and returns a
`PinnedPathBuf` pinned at `croot/ns`, whose target is that path. -/
theorem do_mkdir_alone {self : ScopedDirBuilder} (hr : self.recursive = true) {w : World}
    {croot ns : List Name} (hs : w.script = []) (hroot : PinnedAt w self.root croot) (hne : ns ≠ [])
    (hvalid : ∀ c ∈ ns, PinnedPathBuf.prepare_path_component c = .ok c)
    (hdirs : DirsAlong w.fs croot ns) :
    ∃ pb w', RunsOk (self.do_mkdir (ns.map .Normal)) w pb w' ∧
      PinnedAt w' pb (croot ++ ns) ∧ DirsExist w'.fs croot ns := by
  have hname : file_name (ns.map .Normal) ≠ none := by
    obtain ⟨init, last, rfl⟩ := List.eq_nil_or_concat' ns |>.resolve_left hne
    simp [file_name]
  have hcomps : (ns.map Component.Normal).map Component.as_os_str = ns := by
    rw [List.map_map]
    exact List.map_id'' (fun _ => rfl) ns
  let w₁ := (w.add_fd ⟨croot, .dir, true⟩).2
  have hpin₁ : PinnedAt w₁ ⟨w.fds.length, self.root.target⟩ croot := ⟨add_fd_get w _, hroot.2⟩
  obtain ⟨pb, w', hrun, -, hpin', hexist, -⟩ :=
    mkdir_levels_alone hr _ ns 0 _ croot w₁ hs hpin₁ hvalid hdirs
  refine ⟨pb, w', ?_, hpin', hexist⟩
  unfold ScopedDirBuilder.do_mkdir
  rw [if_neg hname, hcomps]
  exact RunsOk.bind (try_clone_pinned hs hroot) hrun

/-- The world of `race_fs` with the root `/r` open, and no other process. -/
def alone_world : World := ⟨race_fs, [⟨[utf8 "r"], .dir, true⟩], [], []⟩

/-- A recursive builder at the root `/r`, on descriptor `0`. -/
def r_builder : ScopedDirBuilder :=
  ⟨⟨0, .RootDir :: [utf8 "r"].map .Normal⟩, DIRECTORY_MODE_DEFAULT, true⟩

theorem do_mkdir_alone_r_ab :
    r_builder.recursive = true ∧ alone_world.script = [] ∧
    PinnedAt alone_world r_builder.root [utf8 "r"] ∧ [utf8 "a", utf8 "b"] ≠ [] ∧
    (∀ c ∈ [utf8 "a", utf8 "b"], PinnedPathBuf.prepare_path_component c = .ok c) ∧
    DirsAlong alone_world.fs [utf8 "r"] [utf8 "a", utf8 "b"] ∧
    ∃ pb w', RunsOk (r_builder.do_mkdir ([utf8 "a", utf8 "b"].map .Normal)) alone_world pb w' ∧
      PinnedAt w' pb ([utf8 "r"] ++ [utf8 "a", utf8 "b"]) ∧
      DirsExist w'.fs [utf8 "r"] [utf8 "a", utf8 "b"] :=
  ⟨rfl, rfl, by decide, by decide, by decide, by decide,
    do_mkdir_alone rfl rfl (by decide) (by decide) (by decide) (by decide)⟩

end KataContainers.SafePath
