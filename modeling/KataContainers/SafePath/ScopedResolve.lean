import KataContainers.Posix.Walk
import KataContainers.Lib.Except

/-!
# `scoped_resolve`

Model of `do_scoped_resolve` in `libs/safe-path/src/scoped_path_resolver.rs`, behind
`scoped_resolve` and `scoped_join`. The root is canonicalized; then the `'restart` loop runs the
`'next_comp` loop over the components of the current path: `/` and `.` are skipped, `..` pops the
subpath built so far, and a name is pushed unless `read_link` of `root/subpath/name` succeeds. A link
restarts the loop on its target joined with the components still to come, an absolute target alone
and a relative one behind the subpath; more than `MAX_SYMLINK_DEPTH` links give an error. Linux
paths have no `Prefix` component, so the loop's first arm never runs (`Posix.Component` has none).

Against the chroot-style resolution `Posix.Chroot` over the links of the filesystem below the
root, `scoped_resolve_chroot` shows: on a well-formed filesystem whose root canonicalizes, the
result is made of names only, no prefix of it is a link, and it is the resolution of the unsafe
path, reached with at most `MAX_SYMLINK_DEPTH` links; `scoped_join` stays under the root; and the
call fails, with "Too many levels of symlinks", exactly when every resolution needs more links.

The proof follows the two loops: `next_comp_resolves` says what one pass of the inner loop tells
about the resolution, `splice_resolves` that the restarted path resolves as the link's target
followed by the rest, and `restart_ok_iff` runs the outer loop by induction on the links left.
-/

namespace KataContainers.SafePath

open Posix

def MAX_SYMLINK_DEPTH : Nat := 255

/-- The `io::Error`s of `do_scoped_resolve`: the error of `root.canonicalize()`, or
`Error::new(ErrorKind::Other, msg)` with `msg` the text followed by `path.display()`. -/
inductive ResolveError
  | Io (e : Errno)
  | Other (msg : String) (path : List UInt8)
  deriving DecidableEq, Repr

/-- `path.read_link()`. -/
def read_link (fs : Fs) (path : Path) : Except Errno (List UInt8) :=
  fs.query (readlink path)

/-- Where the `'next_comp` loop leaves: at the end of the path with the subpath built, or at a
link, with the subpath before it, its target and the components after it (`iter.as_path()`). -/
inductive NextComp
  | done (subpath : Path)
  | link (subpath : Path) (v : List UInt8) (rest : Path)
  deriving DecidableEq, Repr

/-- The `'next_comp` loop over the components of `curr_path`, from `subpath`. -/
def next_comp (fs : Fs) (root subpath : Path) : Path → NextComp
  | [] => .done subpath
  -- `RootDir` should always be the first component
  | .RootDir :: rest | .CurDir :: rest => next_comp fs root subpath rest
  | .ParentDir :: rest => next_comp fs root (pop subpath).1 rest
  | .Normal n :: rest =>
    match read_link fs (push (push root subpath) [.Normal n]) with
    | .ok v => .link subpath v rest
    | .error _ => next_comp fs root (push subpath [.Normal n]) rest

/-- The `'restart` loop, with `budget` links left to expand (`MAX_SYMLINK_DEPTH - nlinks`). -/
def restart (fs : Fs) (root : Path) (unsafe_path : List UInt8) :
    Nat → Path → Except ResolveError Path
  | budget, curr_path =>
    match next_comp fs root [] curr_path with
    | .done subpath => .ok subpath
    | .link subpath v rest =>
      match budget with
      | 0 => .error (.Other "Too many levels of symlinks: " unsafe_path)
      | budget + 1 =>
        let v := components v
        restart fs root unsafe_path budget
          (if has_root v then push v rest else push (push subpath v) rest)

/-- `do_scoped_resolve(root, unsafe_path)`: the canonical root and the resolved subpath. -/
def do_scoped_resolve (fs : Fs) (root unsafe_path : List UInt8) :
    Except ResolveError (Path × Path) := do
  let root ← (fs.query (canonicalize (components root))).mapError .Io
  let root : Path := .RootDir :: root.map .Normal
  let subpath ← restart fs root unsafe_path MAX_SYMLINK_DEPTH (components unsafe_path)
  return (root, subpath)

/-- `scoped_resolve(root, unsafe_path)`. -/
def scoped_resolve (fs : Fs) (root unsafe_path : List UInt8) : Except ResolveError Path :=
  (do_scoped_resolve fs root unsafe_path).map Prod.snd

/-- `scoped_join(root, unsafe_path)`: `root.join(path)`. -/
def scoped_join (fs : Fs) (root unsafe_path : List UInt8) : Except ResolveError Path :=
  (do_scoped_resolve fs root unsafe_path).map fun (root, path) => push root path

/-! ## The loops against `Chroot` -/

section
variable {fs : Fs} {croot : List Name}

/-- `read_link` below a canonical root, of a subpath without links, reads the link oracle. -/
theorem read_link_below (hwf : fs.WellFormed) (hroot : Clean (fs.link_below []) croot)
    {s : List Name} (hs : Clean (fs.link_below croot) s) (n : Name) :
    (read_link fs (push (push (.RootDir :: croot.map .Normal) (s.map .Normal)) [.Normal n])).toOption.map
      components = fs.link_below croot (s ++ [n]) := by
  have hpath : push (push (.RootDir :: croot.map .Normal) (s.map .Normal)) [.Normal n] =
      .RootDir :: (croot ++ s ++ [n]).map .Normal := by
    rw [push_map_normal, show [Component.Normal n] = [n].map .Normal from rfl, push_map_normal]
    simp
  have h : (fs.query (readlink (.RootDir :: (croot ++ s ++ [n]).map .Normal))).toOption =
      fs.link_target (croot ++ s ++ [n]) :=
    readlink_names hwf (by simp) (by simpa using Fs.clean_append hroot hs)
  rw [read_link, hpath, h, Fs.link_below, List.append_assoc]

/-- What a pass of `'next_comp` from the directory `s` tells about the resolution of `p` from
`s`: at the end, the subpath is its result; at a link, the subpath is a directory without links
from which the link and the rest resolve as `p` does. -/
def NextComp.Resolves (L : List Name → Option Path) (s : List Name) (p : Path) : NextComp → Prop
  | .done sub => ∃ r, sub = r.map .Normal ∧ Chroot L s p 0 r
  | .link sub v rest => ∃ s' n, sub = s'.map .Normal ∧ Clean L s' ∧
      L (s' ++ [n]) = some (components v) ∧ .RootDir ∉ rest ∧
      ∀ k r, Chroot L s p k r ↔ Chroot L s' (.Normal n :: rest) k r

/-- A pass that tells about `p₀` from `s₀` tells about any `p` from `s` that resolves the same. -/
theorem NextComp.Resolves.of_iff {L : List Name → Option Path} {s s₀ : List Name} {p p₀ : Path}
    {res : NextComp} (h : NextComp.Resolves L s₀ p₀ res)
    (hiff : ∀ k r, Chroot L s p k r ↔ Chroot L s₀ p₀ k r) : NextComp.Resolves L s p res := by
  cases res with
  | done sub =>
    obtain ⟨r, hsub, hr⟩ := h
    exact ⟨r, hsub, (hiff 0 r).mpr hr⟩
  | link sub v rest =>
    obtain ⟨s', n, hsub, hs', hl, hrest, hres⟩ := h
    exact ⟨s', n, hsub, hs', hl, hrest, fun k r => (hiff k r).trans (hres k r)⟩

/-- The step lemma of `'next_comp`: by induction on the components, with the subpath a directory
without links. -/
theorem next_comp_resolves (hwf : fs.WellFormed) (hroot : Clean (fs.link_below []) croot) :
    ∀ {p : Path} {s : List Name}, .RootDir ∉ p → Clean (fs.link_below croot) s →
      NextComp.Resolves (fs.link_below croot) s p
        (next_comp fs (.RootDir :: croot.map .Normal) (s.map .Normal) p)
  | [], s, _, _ => ⟨s, rfl, .nil s⟩
  | .RootDir :: _, _, hp, _ => absurd List.mem_cons_self hp
  | .CurDir :: rest, s, hp, hs => by
    rw [next_comp]
    exact (next_comp_resolves hwf hroot (fun h => hp (List.mem_cons_of_mem _ h)) hs).of_iff
      fun _ _ => Chroot.cur_dir_iff
  | .ParentDir :: rest, s, hp, hs => by
    rw [next_comp, pop_map_normal]
    exact (next_comp_resolves hwf hroot (fun h => hp (List.mem_cons_of_mem _ h)) hs.dropLast).of_iff
      fun _ _ => Chroot.parent_iff
  | .Normal n :: rest, s, hp, hs => by
    have hrest : .RootDir ∉ rest := fun h => hp (List.mem_cons_of_mem _ h)
    have hread := read_link_below hwf hroot hs n
    rw [next_comp]
    cases hr : read_link fs (push (push (.RootDir :: croot.map .Normal) (s.map .Normal)) [.Normal n]) with
    | ok v =>
      -- a link: the loop stops in front of it
      rw [hr] at hread
      exact ⟨s, n, rfl, hs, hread.symm, hrest, fun _ _ => Iff.rfl⟩
    | error e =>
      -- no link: the name is pushed, as `Chroot` goes into it
      rw [hr] at hread
      have hl : fs.link_below croot (s ++ [n]) = none := hread.symm
      have hsub : push (s.map .Normal) [.Normal n] = (s ++ [n]).map .Normal := by
        rw [show [Component.Normal n] = [n].map .Normal from rfl, push_map_normal, List.map_append]
      dsimp only
      rw [hsub]
      exact (next_comp_resolves hwf hroot hrest (hs.concat hl)).of_iff
        fun _ _ => Chroot.normal_iff hl

/-- The first pass, from the empty subpath, over a path with `/` at most first. -/
theorem next_comp_resolves_root (hwf : fs.WellFormed) (hroot : Clean (fs.link_below []) croot)
    {p : Path} (hp : .RootDir ∉ p.tail) :
    NextComp.Resolves (fs.link_below croot) [] p (next_comp fs (.RootDir :: croot.map .Normal) [] p) := by
  match p, hp with
  | .RootDir :: rest, hp =>
    rw [next_comp]
    exact (next_comp_resolves hwf hroot hp Clean.nil).of_iff fun _ _ => Chroot.root_iff
  | [], _ => exact next_comp_resolves hwf hroot (by simp) Clean.nil
  | .CurDir :: rest, hp => exact next_comp_resolves hwf hroot (by simpa using hp) Clean.nil
  | .ParentDir :: rest, hp => exact next_comp_resolves hwf hroot (by simpa using hp) Clean.nil
  | .Normal n :: rest, hp => exact next_comp_resolves hwf hroot (by simpa using hp) Clean.nil

/-- The path `'restart` continues with resolves from the root as the link's target followed by the
rest does from the link's directory. -/
theorem splice_resolves {L : List Name → Option Path} {s : List Name} {t : List UInt8}
    {rest : Path} (hs : Clean L s) (hrest : .RootDir ∉ rest) :
    let v := components t
    let curr := if has_root v then push v rest else push (push (s.map .Normal) v) rest
    .RootDir ∉ curr.tail ∧ ∀ k r, Chroot L [] curr k r ↔ Chroot L s (v ++ rest) k r := by
  intro v curr
  have hrest_head : rest.head? ≠ some .RootDir := fun h => hrest (List.mem_of_head? h)
  by_cases habs : has_root v = true
  · -- an absolute target is read from the root, wherever the link was
    obtain ⟨tl, hv, htl⟩ := components_of_has_root habs
    have hcurr : curr = push v rest := if_pos habs
    refine ⟨?_, fun k r => ?_⟩
    · rw [hcurr]
      exact rootDir_not_mem_tail_push (by simpa [v, hv] using htl) hrest
    · rw [hcurr, Chroot.push_iff hrest_head]
      simp only [v, hv, List.cons_append, Chroot.root_iff]
  · -- a relative one is read from the link's directory, which the subpath spells out
    have hv : .RootDir ∉ v := rootDir_not_mem_components (by simpa using habs)
    have hv_head : v.head? ≠ some .RootDir := fun h => hv (List.mem_of_head? h)
    have hcurr : curr = push (push (s.map .Normal) v) rest := if_neg habs
    refine ⟨?_, fun k r => ?_⟩
    · rw [hcurr]
      have hs' : .RootDir ∉ s.map Component.Normal := by simp
      exact fun h => rootDir_not_mem_push (rootDir_not_mem_push hs' hv) hrest
        (List.mem_of_mem_tail h)
    · rw [hcurr, Chroot.push_iff hrest_head, Chroot.push_append_iff hv_head, List.append_assoc,
        Chroot.clean_prefix_iff hs]

/-- The run lemma of `'restart`: with `b` links left it succeeds exactly on the resolutions that
expand at most `b` links, and returns their result. -/
theorem restart_ok_iff (hwf : fs.WellFormed) (hroot : Clean (fs.link_below []) croot)
    (unsafe_path : List UInt8) :
    ∀ (b : Nat) {curr : Path} {p : Path}, .RootDir ∉ curr.tail →
      (restart fs (.RootDir :: croot.map .Normal) unsafe_path b curr = .ok p ↔
        ∃ r k, p = r.map .Normal ∧ k ≤ b ∧ Chroot (fs.link_below croot) [] curr k r) := by
  intro b
  induction b with
  | zero =>
    intro curr p hcurr
    have hres := next_comp_resolves_root hwf hroot hcurr
    rw [restart]
    cases hnc : next_comp fs (.RootDir :: croot.map .Normal) [] curr with
    | done sub =>
      rw [hnc] at hres
      obtain ⟨r, rfl, hr⟩ := hres
      constructor
      · rintro ⟨⟩
        exact ⟨r, 0, rfl, Nat.le_refl 0, hr⟩
      · rintro ⟨r', k, rfl, -, hr'⟩
        rw [(hr.unique hr').2]
    | link sub v rest =>
      rw [hnc] at hres
      obtain ⟨s', n, -, -, hl, -, hiff⟩ := hres
      simp only [reduceCtorEq, false_iff, not_exists, not_and]
      -- every resolution expands the link in front of it
      intro r k _ hk hr
      obtain ⟨k', rfl, -⟩ := (Chroot.link_iff hl).mp ((hiff k r).mp hr)
      omega
  | succ b ih =>
    intro curr p hcurr
    have hres := next_comp_resolves_root hwf hroot hcurr
    rw [restart]
    cases hnc : next_comp fs (.RootDir :: croot.map .Normal) [] curr with
    | done sub =>
      rw [hnc] at hres
      obtain ⟨r, rfl, hr⟩ := hres
      constructor
      · rintro ⟨⟩
        exact ⟨r, 0, rfl, Nat.zero_le _, hr⟩
      · rintro ⟨r', k, rfl, -, hr'⟩
        rw [(hr.unique hr').2]
    | link sub v rest =>
      rw [hnc] at hres
      obtain ⟨s', n, rfl, hs', hl, hrest, hiff⟩ := hres
      obtain ⟨htail, hsplice⟩ := splice_resolves (t := v) hs' hrest
      dsimp only
      rw [ih htail]
      -- one expansion more from `curr` than from the spliced path
      constructor
      · rintro ⟨r, k, rfl, hk, hr⟩
        refine ⟨r, k + 1, rfl, by omega, (hiff _ r).mpr ((Chroot.link_iff hl).mpr ?_)⟩
        exact ⟨k, rfl, (hsplice k r).mp hr⟩
      · rintro ⟨r, k, rfl, hk, hr⟩
        obtain ⟨k', rfl, hk'⟩ := (Chroot.link_iff hl).mp ((hiff k r).mp hr)
        exact ⟨r, k', rfl, by omega, (hsplice k' r).mpr hk'⟩

/-- `'restart` fails only with "Too many levels of symlinks". -/
theorem restart_error {root : Path} {unsafe_path : List UInt8} :
    ∀ {b : Nat} {curr : Path} {e : ResolveError},
      restart fs root unsafe_path b curr = .error e →
        e = .Other "Too many levels of symlinks: " unsafe_path := by
  intro b
  induction b with
  | zero =>
    intro curr e h
    rw [restart] at h
    split at h
    · contradiction
    · exact (Except.error.inj h).symm
  | succ b ih =>
    intro curr e h
    rw [restart] at h
    split at h
    · contradiction
    · exact ih h

end

/-! ## `scoped_resolve` -/

/-- Once the root canonicalizes, `do_scoped_resolve` is the `'restart` loop from the unsafe path. -/
theorem do_scoped_resolve_eq {fs : Fs} {root unsafe_path : List UInt8} {croot : List Name}
    (hroot : fs.query (canonicalize (components root)) = .ok croot) :
    do_scoped_resolve fs root unsafe_path =
      (restart fs (.RootDir :: croot.map .Normal) unsafe_path MAX_SYMLINK_DEPTH
        (components unsafe_path)).map fun p => (.RootDir :: croot.map .Normal, p) := by
  simp only [do_scoped_resolve, hroot, Except.mapError, Except.ok_bind_eq]
  cases restart fs (.RootDir :: croot.map .Normal) unsafe_path MAX_SYMLINK_DEPTH
    (components unsafe_path) <;> rfl

/-- `scoped_resolve` on a well-formed filesystem whose root canonicalizes: its result is made of
names, has no link on it, and is the chroot-style resolution of the unsafe path with at most
`MAX_SYMLINK_DEPTH` links; `scoped_join` stays under the root; and it fails, with "Too many levels of
symlinks", exactly when every resolution needs more links. -/
theorem scoped_resolve_chroot {fs : Fs} {root unsafe_path : List UInt8} {croot : List Name}
    (hwf : fs.WellFormed) (hroot : fs.query (canonicalize (components root)) = .ok croot) :
    (∀ p, scoped_resolve fs root unsafe_path = .ok p →
      ∃ r k, p = r.map .Normal ∧ k ≤ MAX_SYMLINK_DEPTH ∧
        Chroot (fs.link_below croot) [] (components unsafe_path) k r ∧
        ∀ q, q <+: r → q ≠ [] → fs.link_target (croot ++ q) = none) ∧
    (∀ j, scoped_join fs root unsafe_path = .ok j →
      starts_with j (.RootDir :: croot.map .Normal) = true) ∧
    (scoped_resolve fs root unsafe_path =
        .error (.Other "Too many levels of symlinks: " unsafe_path) ↔
      ∀ k r, Chroot (fs.link_below croot) [] (components unsafe_path) k r →
        MAX_SYMLINK_DEPTH < k) ∧
    (∀ e, scoped_resolve fs root unsafe_path = .error e →
      e = .Other "Too many levels of symlinks: " unsafe_path) := by
  have hclean := canonicalize_clean hroot
  have hcurr := rootDir_not_mem_tail_components unsafe_path
  have hresolve : scoped_resolve fs root unsafe_path =
      restart fs (.RootDir :: croot.map .Normal) unsafe_path MAX_SYMLINK_DEPTH
        (components unsafe_path) := by
    rw [scoped_resolve, do_scoped_resolve_eq hroot]
    cases restart fs (.RootDir :: croot.map .Normal) unsafe_path MAX_SYMLINK_DEPTH
      (components unsafe_path) <;> rfl
  refine ⟨fun p hp => ?_, fun j hj => ?_, ⟨fun he k r hr => ?_, fun hall => ?_⟩,
    fun e he => restart_error (hresolve ▸ he)⟩
  · -- a result is a resolution, and one from the root ends at a path without links
    rw [hresolve] at hp
    obtain ⟨r, k, rfl, hk, hr⟩ := (restart_ok_iff hwf hclean unsafe_path MAX_SYMLINK_DEPTH hcurr).mp hp
    refine ⟨r, k, rfl, hk, hr, fun q hq hne => ?_⟩
    exact Fs.link_below_eq_none_iff.mp (hr.clean Clean.nil q hq hne)
  · -- the root joined with names starts with the root
    rw [scoped_join, do_scoped_resolve_eq hroot] at hj
    cases hres : restart fs (.RootDir :: croot.map .Normal) unsafe_path MAX_SYMLINK_DEPTH
        (components unsafe_path) with
    | error e => rw [hres] at hj; contradiction
    | ok p =>
      rw [hres] at hj
      obtain ⟨r, k, rfl, -, -⟩ := (restart_ok_iff hwf hclean unsafe_path MAX_SYMLINK_DEPTH hcurr).mp hres
      cases hj
      dsimp only
      rw [starts_with, push_map_normal, List.isPrefixOf_iff_prefix]
      exact List.prefix_append _ _
  · -- a resolution within the budget would have been returned
    by_contra hk
    have hok := (restart_ok_iff hwf hclean unsafe_path MAX_SYMLINK_DEPTH hcurr).mpr ⟨r, k, rfl, by omega, hr⟩
    rw [← hresolve, he] at hok
    contradiction
  · -- without one, the loop cannot succeed, and it fails only one way
    rw [hresolve]
    cases hres : restart fs (.RootDir :: croot.map .Normal) unsafe_path MAX_SYMLINK_DEPTH
        (components unsafe_path) with
    | error e => rw [restart_error hres]
    | ok p =>
      obtain ⟨r, k, -, hk, hr⟩ := (restart_ok_iff hwf hclean unsafe_path MAX_SYMLINK_DEPTH hcurr).mp hres
      exact absurd (hall k r hr) (by omega)

/-- The rootfs `/r` of `test_scoped_resolve_symlink`, with all the links the test creates. -/
def symlink_test_fs : Fs :=
  [([], ⟨.dir, 0o755, 0, 0⟩), ([utf8 "r"], ⟨.dir, 0o755, 0, 0⟩),
   ([utf8 "r", utf8 "symlink_dir"], ⟨.dir, 0o755, 0, 0⟩),
   ([utf8 "r", utf8 "1"], ⟨.symlink (utf8 "../../../"), 0o777, 0, 0⟩),
   ([utf8 "r", utf8 "2"], ⟨.symlink (utf8 "/dddd"), 0o777, 0, 0⟩),
   ([utf8 "r", utf8 "3"], ⟨.symlink (utf8 "/"), 0o777, 0, 0⟩),
   ([utf8 "r", utf8 "4"], ⟨.symlink (utf8 "usr/bin/../bin/ls"), 0o777, 0, 0⟩),
   ([utf8 "r", utf8 "5"], ⟨.symlink (utf8 "usr/bin/../../bin/ls"), 0o777, 0, 0⟩),
   ([utf8 "r", utf8 "symlink_dir", utf8 "6"],
     ⟨.symlink (utf8 "../usr/bin/../../../bin/ls"), 0o777, 0, 0⟩),
   ([utf8 "r", utf8 "endpoint_a"], ⟨.symlink (utf8 "/endpoint_b"), 0o777, 0, 0⟩),
   ([utf8 "r", utf8 "endpoint_b"], ⟨.symlink (utf8 "/endpoint_a"), 0o777, 0, 0⟩)]

/-- "symlink try to escape": `symlink_dir/6 -> ../usr/bin/../../../bin/ls` stays in `/r`. -/
theorem scoped_resolve_chroot_escape :
    symlink_test_fs.WellFormed ∧
      symlink_test_fs.query (canonicalize (components (utf8 "/r"))) = .ok [utf8 "r"] ∧
      ((∀ p, scoped_resolve symlink_test_fs (utf8 "/r") (utf8 "symlink_dir/6") = .ok p →
        ∃ r k, p = r.map .Normal ∧ k ≤ MAX_SYMLINK_DEPTH ∧
          Chroot (symlink_test_fs.link_below [utf8 "r"]) [] (components (utf8 "symlink_dir/6")) k r ∧
          ∀ q, q <+: r → q ≠ [] → symlink_test_fs.link_target ([utf8 "r"] ++ q) = none) ∧
      (∀ j, scoped_join symlink_test_fs (utf8 "/r") (utf8 "symlink_dir/6") = .ok j →
        starts_with j (.RootDir :: [utf8 "r"].map .Normal) = true) ∧
      (scoped_resolve symlink_test_fs (utf8 "/r") (utf8 "symlink_dir/6") =
          .error (.Other "Too many levels of symlinks: " (utf8 "symlink_dir/6")) ↔
        ∀ k r, Chroot (symlink_test_fs.link_below [utf8 "r"]) [] (components (utf8 "symlink_dir/6"))
          k r → MAX_SYMLINK_DEPTH < k) ∧
      (∀ e, scoped_resolve symlink_test_fs (utf8 "/r") (utf8 "symlink_dir/6") = .error e →
        e = .Other "Too many levels of symlinks: " (utf8 "symlink_dir/6"))) :=
  ⟨by decide, by decide, scoped_resolve_chroot (by decide) (by decide)⟩

-- "symlink try to escape" resolves to `bin/ls`
example : scoped_resolve symlink_test_fs (utf8 "/r") (utf8 "symlink_dir/6") =
    .ok (components (utf8 "bin/ls")) := by
  decide

-- "Detect symlink loop": `endpoint_a` and `endpoint_b` point at each other
example : scoped_resolve symlink_test_fs (utf8 "/r") (utf8 "endpoint_a") =
    .error (.Other "Too many levels of symlinks: " (utf8 "endpoint_a")) := by
  decide

end KataContainers.SafePath
