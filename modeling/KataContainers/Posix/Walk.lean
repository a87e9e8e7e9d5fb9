import KataContainers.Posix.Std
import KataContainers.Posix.Chroot

/-!
# What the path walk finds

Lemmas about the read-only calls of `Posix.Fs`: each runs as a function of the filesystem and
leaves it as it is (`readlink_run`, `canonicalize_run`); a walk never stands at a path whose
prefixes are not directories (`walk_ok`), so `realpath(3)` returns a path without links
(`canonicalize_clean`); and on a well-formed filesystem, `readlink(2)` of a path with no link before
its last component reads the inode at that path (`readlink_names`).

The link oracle of a directory, `Fs.link_below`, connects the filesystem to `Chroot`.
-/

namespace Posix

/-! ## Read-only calls -/

section
variable {ε α β : Type}

theorem FsM.run_bind (x : FsM ε α) (f : α → FsM ε β) (fs : Fs) :
    (x >>= f).run fs = match x.run fs with
      | (.ok a, fs') => (f a).run fs'
      | (.error e, fs') => (.error e, fs') := by
  rw [ExceptT.run_bind]
  show StateT.bind (ExceptT.run x) _ fs = _
  unfold StateT.bind
  rcases x.run fs with ⟨_ | _, _⟩ <;> rfl

@[simp] theorem FsM.run_get (fs : Fs) : (get : FsM ε Fs).run fs = (.ok fs, fs) := rfl

@[simp] theorem FsM.run_pure (a : α) (fs : Fs) : (pure a : FsM ε α).run fs = (.ok a, fs) := rfl

@[simp] theorem FsM.run_throw (e : ε) (fs : Fs) : (throw e : FsM ε α).run fs = (.error e, fs) :=
  rfl

end

/-- What `lookup` answers on `fs`. -/
def lookup_result (fs : Fs) (follow : Bool) (p : Path) : Except Errno (List Name) :=
  if has_nul p then .error .EINVAL else resolve fs follow MAXSYMLINKS [] p

theorem lookup_run (fs : Fs) (follow : Bool) (p : Path) :
    (lookup follow p).run fs = (lookup_result fs follow p, fs) := by
  unfold lookup lookup_result
  by_cases h : has_nul p
  · simp [h]
  · simp only [h, Bool.false_eq_true, if_false, FsM.run_bind, FsM.run_get]
    cases resolve fs follow MAXSYMLINKS [] p <;> rfl

theorem stat_at_run (fs : Fs) (follow : Bool) (p : Path) :
    (stat_at follow p).run fs =
      (match lookup_result fs follow p with
        | .ok q => match fs.get q with
          | some i => .ok (q, i)
          | none => .error .ENOENT
        | .error e => .error e, fs) := by
  unfold stat_at
  simp only [FsM.run_bind, lookup_run, FsM.run_get]
  rcases lookup_result fs follow p with e | q
  · rfl
  · dsimp only
    cases fs.get q <;> rfl

theorem readlink_run (fs : Fs) (p : Path) :
    (readlink p).run fs =
      (match lookup_result fs false p with
        | .ok q => match fs.get q with
          | some ⟨.symlink t, _, _, _⟩ => .ok t
          | some _ => .error .EINVAL
          | none => .error .ENOENT
        | .error e => .error e, fs) := by
  unfold readlink
  simp only [FsM.run_bind, stat_at_run]
  rcases lookup_result fs false p with e | q
  · rfl
  · dsimp only
    rcases fs.get q with _ | ⟨_ | _ | t, _, _, _⟩ <;> rfl

theorem canonicalize_run (fs : Fs) (p : Path) :
    (canonicalize p).run fs =
      (match lookup_result fs true p with
        | .ok q => match fs.get q with
          | some _ => .ok q
          | none => .error .ENOENT
        | .error e => .error e, fs) := by
  unfold canonicalize
  simp only [FsM.run_bind, stat_at_run]
  rcases lookup_result fs true p with e | q
  · rfl
  · dsimp only
    cases fs.get q <;> rfl

/-! ## Directories and links -/

/-- The inode at `p` is a directory. -/
def Fs.IsDir (fs : Fs) (p : List Name) : Prop :=
  (fs.get p).map Inode.kind = some .dir

instance (fs : Fs) (p : List Name) : Decidable (fs.IsDir p) :=
  inferInstanceAs (Decidable (_ = _))

/-- The target of the link at `p`; `none` where `p` is no link. -/
def Fs.link_target (fs : Fs) (p : List Name) : Option (List UInt8) :=
  match fs.get p with
  | some ⟨.symlink t, _, _, _⟩ => some t
  | _ => none

/-- The link oracle of the directory `root`: the parsed target of the link at `root ++ d`. -/
def Fs.link_below (fs : Fs) (root d : List Name) : Option Path :=
  (fs.link_target (root ++ d)).map components

/-- Every non-empty prefix of `cur` is a directory: where a walk stands. -/
def Fs.DirPath (fs : Fs) (cur : List Name) : Prop :=
  ∀ q, q <+: cur → q ≠ [] → fs.IsDir q

section
variable {fs : Fs}

theorem Fs.link_target_of_get_none {p : List Name} (h : fs.get p = none) : fs.link_target p = none := by
  simp [Fs.link_target, h]

theorem Fs.link_target_of_isDir {p : List Name} (h : fs.IsDir p) : fs.link_target p = none := by
  unfold Fs.IsDir at h
  unfold Fs.link_target
  rcases hg : fs.get p with _ | ⟨_ | _ | t, _, _, _⟩ <;> simp_all

theorem Fs.link_below_eq_none_iff {root d : List Name} :
    fs.link_below root d = none ↔ fs.link_target (root ++ d) = none := by
  simp [Fs.link_below]

theorem Fs.DirPath.nil : fs.DirPath [] := by
  intro q hq hne
  exact absurd (List.prefix_nil.mp hq) hne

theorem Fs.DirPath.dropLast {cur : List Name} (h : fs.DirPath cur) : fs.DirPath cur.dropLast :=
  fun q hq hne => h q (hq.trans (List.dropLast_prefix cur)) hne

theorem Fs.DirPath.concat {cur : List Name} {n : Name} (h : fs.DirPath cur)
    (hd : fs.IsDir (cur ++ [n])) : fs.DirPath (cur ++ [n]) := by
  intro q hq hne
  rcases List.prefix_concat_iff.mp hq with rfl | hq
  · exact hd
  · exact h q hq hne

/-- A path whose proper prefixes are directories and which is no link itself has no link on it. -/
theorem Fs.DirPath.clean {q : List Name} (h : fs.DirPath q.dropLast)
    (hq : q ≠ [] → fs.link_target q = none) : Clean (fs.link_below []) q := by
  intro q' hq' hne
  rw [Fs.link_below_eq_none_iff, List.nil_append]
  rcases List.eq_nil_or_concat' q with rfl | ⟨q₀, n, rfl⟩
  · exact absurd (List.prefix_nil.mp hq') hne
  · rw [List.dropLast_concat] at h
    rcases List.prefix_concat_iff.mp hq' with rfl | hq'
    · exact hq (by simp)
    · exact Fs.link_target_of_isDir (h q' hq' hne)

/-- Where a walk from a directory path stops: at a path whose proper prefixes are directories,
and which is no link when the walk follows links; or at a link inside a directory path. -/
def WalkOk (fs : Fs) (follow : Bool) : Walk → Prop
  | .done q => fs.DirPath q.dropLast ∧ (follow = true → q ≠ [] → fs.link_target q = none)
  | .link dir _ _ => fs.DirPath dir
  | .fail _ => True

/-- The invariant of `walk`: it only moves between directory paths. -/
theorem walk_ok {follow : Bool} :
    ∀ {p : Path} {cur : List Name}, fs.DirPath cur → WalkOk fs follow (walk fs follow cur p)
  | [], cur, h => by
    refine ⟨h.dropLast, fun _ hne => Fs.link_target_of_isDir (h cur List.prefix_rfl hne)⟩
  | .RootDir :: rest, _, _ => walk_ok (p := rest) Fs.DirPath.nil
  | .CurDir :: rest, _, h => walk_ok (p := rest) h
  | .ParentDir :: rest, _, h => walk_ok (p := rest) h.dropLast
  | .Normal n :: rest, cur, h => by
    -- the last component ends the walk unless it is a directory or a link to follow
    have hdone : ∀ {i : Option Inode}, fs.get (cur ++ [n]) = i →
        (∀ t, i.map Inode.kind ≠ some (.symlink t)) →
        WalkOk fs follow (.done (cur ++ [n])) := by
      intro i hi hk
      refine ⟨by simpa using h, fun _ _ => ?_⟩
      unfold Fs.link_target
      rcases i with _ | ⟨_ | _ | t, _, _, _⟩ <;> simp_all
    unfold walk
    rcases hg : fs.get (cur ++ [n]) with _ | ⟨_ | _ | t, _, _, _⟩
    · by_cases hr : rest.isEmpty
      · simpa [hr] using hdone hg (by simp)
      · simp [hr, WalkOk]
    · exact walk_ok (h.concat (by simp [Fs.IsDir, hg]))
    · by_cases hr : rest.isEmpty
      · simpa [hr] using hdone hg (by simp)
      · simp [hr, WalkOk]
    · by_cases hf : rest.isEmpty && !follow
      · simp only [hf, if_true]
        refine ⟨by simpa using h, fun hfollow _ => ?_⟩
        simp [hfollow] at hf
      · simpa [hf, WalkOk] using h

/-- A path walk that follows links ends at a path without links. -/
theorem resolve_follow_clean :
    ∀ {b : Nat} {cur q : List Name} {p : Path}, fs.DirPath cur →
      resolve fs true b cur p = .ok q → Clean (fs.link_below []) q := by
  intro b
  induction b with
  | zero =>
    intro cur q p h hr
    have hw : WalkOk fs true (walk fs true cur p) := walk_ok h
    unfold resolve at hr
    split at hr <;> simp_all [WalkOk, Fs.DirPath.clean]
  | succ b ih =>
    intro cur q p h hr
    have hw : WalkOk fs true (walk fs true cur p) := walk_ok h
    unfold resolve at hr
    split at hr
    · rename_i q' hq'
      rw [Except.ok.injEq] at hr
      subst hr
      rw [hq'] at hw
      exact Fs.DirPath.clean hw.1 (hw.2 rfl)
    · contradiction
    · rename_i dir t rest hl
      rw [hl] at hw
      exact ih hw hr

/-- `realpath(3)` returns a path without links. -/
theorem canonicalize_clean {p : Path} {q : List Name} (h : fs.query (canonicalize p) = .ok q) :
    Clean (fs.link_below []) q := by
  rw [Fs.query, canonicalize_run] at h
  unfold lookup_result at h
  split at h
  · rename_i q' hq'
    split at hq'
    · contradiction
    · split at h
      · rw [Except.ok.injEq] at h
        subst h
        exact resolve_follow_clean Fs.DirPath.nil hq'
      · contradiction
  · contradiction

/-! ## Well-formed filesystems -/

/-- A filesystem as the kernel keeps it: no name holds a NUL byte, and every inode but `/` is in
a directory. -/
structure Fs.WellFormed (fs : Fs) : Prop where
  no_nul : ∀ e ∈ fs, ∀ n ∈ e.1, 0 ∉ n
  in_dir : ∀ e ∈ fs, e.1 ≠ [] → fs.IsDir e.1.dropLast

instance (fs : Fs) : Decidable fs.WellFormed :=
  decidable_of_iff ((∀ e ∈ fs, ∀ n ∈ e.1, 0 ∉ n) ∧ ∀ e ∈ fs, e.1 ≠ [] → fs.IsDir e.1.dropLast)
    ⟨fun ⟨h₁, h₂⟩ => ⟨h₁, h₂⟩, fun ⟨h₁, h₂⟩ => ⟨h₁, h₂⟩⟩

theorem Fs.mem_of_get {p : List Name} {i : Inode} (h : fs.get p = some i) : (p, i) ∈ fs := by
  unfold Fs.get at h
  obtain ⟨e, he, rfl⟩ := Option.map_eq_some_iff.mp h
  have hp : e.1 = p := by simpa using List.find?_some he
  rw [← hp]
  exact List.mem_of_find?_eq_some he

theorem Fs.WellFormed.isDir_dropLast (hwf : fs.WellFormed) {p : List Name} {i : Inode}
    (h : fs.get p = some i) (hp : p ≠ []) : fs.IsDir p.dropLast :=
  hwf.in_dir _ (Fs.mem_of_get h) hp

/-- Above an inode there are only directories. -/
theorem Fs.WellFormed.isDir_of_get_append (hwf : fs.WellFormed) {i : Inode} :
    ∀ {q p : List Name}, fs.get (p ++ q) = some i → q ≠ [] → fs.IsDir p
  | [], _, _, hne => absurd rfl hne
  | [n], p, h, _ => by simpa using hwf.isDir_dropLast h (by simp)
  | n :: m :: q, p, h, _ => by
    -- the inode is below `p ++ [n]`, which is a directory, so in one
    have hd : fs.IsDir (p ++ [n]) :=
      hwf.isDir_of_get_append (q := m :: q) (by simpa using h) (by simp)
    obtain ⟨j, hj, _⟩ := Option.map_eq_some_iff.mp hd
    simpa using hwf.isDir_dropLast hj (by simp)

theorem Fs.WellFormed.no_nul_of_get (hwf : fs.WellFormed) {p : List Name} {i : Inode}
    (h : fs.get p = some i) : ∀ n ∈ p, 0 ∉ n :=
  hwf.no_nul _ (Fs.mem_of_get h)

/-- The walk over one last name ends at it, whatever is there. -/
theorem walk_last (cur : List Name) (n : Name) :
    walk fs false cur [.Normal n] = .done (cur ++ [n]) := by
  unfold walk
  rcases fs.get (cur ++ [n]) with _ | ⟨_ | _ | t, _, _, _⟩ <;> simp [walk]

/-- On a well-formed filesystem, a walk over names with no link before the last reaches them all,
or fails where nothing is found. -/
theorem walk_names (hwf : fs.WellFormed) :
    ∀ {ns cur : List Name}, ns ≠ [] → Clean (fs.link_below cur) ns.dropLast →
      walk fs false cur (ns.map .Normal) = .done (cur ++ ns) ∨
        ((∃ e, walk fs false cur (ns.map .Normal) = .fail e) ∧ fs.get (cur ++ ns) = none)
  | [], _, hne, _ => absurd rfl hne
  | [n], cur, _, _ => .inl (walk_last cur n)
  | n :: m :: ns, cur, _, hc => by
    have hl : fs.link_target (cur ++ [n]) = none :=
      Fs.link_below_eq_none_iff.mp (hc [n] (by simp) (by simp))
    -- what lies past a missing name or a file is missing too
    have hmissing : ¬ fs.IsDir (cur ++ [n]) → fs.get (cur ++ n :: m :: ns) = none := by
      intro hnd
      rcases hg : fs.get (cur ++ n :: m :: ns) with _ | i
      · rfl
      · exact absurd (hwf.isDir_of_get_append (q := m :: ns) (by simpa using hg) (by simp)) hnd
    simp only [List.map_cons]
    rw [walk]
    rcases hg : fs.get (cur ++ [n]) with _ | ⟨_ | _ | t, _, _, _⟩
    · exact .inr ⟨⟨.ENOENT, by simp⟩, hmissing (by simp [Fs.IsDir, hg])⟩
    · have hc' : Clean (fs.link_below (cur ++ [n])) (m :: ns).dropLast := by
        intro q hq hne
        have := hc (n :: q) (by simpa using hq) (by simp)
        simpa [Fs.link_below] using this
      simpa using @walk_names hwf (m :: ns) (cur ++ [n]) (by simp) hc'
    · exact .inr ⟨⟨.ENOTDIR, by simp⟩, hmissing (by simp [Fs.IsDir, hg])⟩
    · simp [Fs.link_target, hg] at hl

theorem has_nul_root_names (ns : List Name) :
    has_nul (.RootDir :: ns.map .Normal) = true ↔ ∃ n ∈ ns, 0 ∈ n := by
  simp [has_nul]

/-- `readlink(2)` of a path with no link before its last component reads the inode there. -/
theorem readlink_names (hwf : fs.WellFormed) {ns : List Name} (hne : ns ≠ [])
    (hc : Clean (fs.link_below []) ns.dropLast) :
    (fs.query (readlink (.RootDir :: ns.map .Normal))).toOption = fs.link_target ns := by
  -- where the walk does not reach the path, nothing is there
  have hnone : fs.get ns = none → fs.link_target ns = none := Fs.link_target_of_get_none
  rw [Fs.query, readlink_run]
  unfold lookup_result
  by_cases hnul : has_nul (.RootDir :: ns.map .Normal)
  · obtain ⟨n, hn, h0⟩ := (has_nul_root_names ns).mp hnul
    have hg : fs.get ns = none := by
      rcases hg : fs.get ns with _ | i
      · rfl
      · exact absurd h0 (hwf.no_nul_of_get hg n hn)
    simp [hnul, hnone hg, Except.toOption]
  · simp only [hnul, Bool.false_eq_true, if_false]
    rw [resolve]
    have hw : walk fs false [] (.RootDir :: ns.map .Normal) = walk fs false [] (ns.map .Normal) := by
      simp [walk]
    rcases @walk_names fs hwf ns [] hne (by simpa [Fs.link_below] using hc) with h | ⟨⟨e, h⟩, hg⟩
    · rw [hw, h]
      simp only [List.nil_append]
      unfold Fs.link_target
      rcases fs.get ns with _ | ⟨_ | _ | t, _, _, _⟩ <;> rfl
    · rw [hw, h]
      simp [hnone (by simpa using hg), Except.toOption]

/-- Below a directory without links, a path without links in the directory's oracle has none. -/
theorem Fs.clean_append {root s : List Name} (hr : Clean (fs.link_below []) root)
    (hs : Clean (fs.link_below root) s) : Clean (fs.link_below []) (root ++ s) := by
  intro q hq hne
  rcases List.prefix_or_prefix_of_prefix hq (List.prefix_append root s) with h | ⟨t, rfl⟩
  · exact hr q h hne
  · by_cases ht : t = []
    · subst ht
      exact hr _ (by simp) hne
    · have := hs t ((List.prefix_append_right_inj root).mp hq) ht
      simpa [Fs.link_below] using this

end

end Posix
