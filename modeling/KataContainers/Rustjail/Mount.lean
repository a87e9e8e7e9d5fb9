import KataContainers.Posix.Std

/-!
# `secure_join`

Model of `secure_join` in `src/agent/rustjail/src/mount.rs`, which builds the mount destination
under a container's rootfs for `mount_from` and for the remount of bind mounts in `init_rootfs`.
Starting from `rootfs/`, it pushes the components of the unsafe path one at a time (skipping `/`),
reads the link at the path built so far, and splices in its target: an absolute target is glued
to the rootfs string, a relative one is pushed component by component, canonicalizing each prefix
that exists and falling back to the rootfs when the canonical path leaves it. After each step a
trailing `..` is dropped.

The function only reads the filesystem. Its result is `none` where the source panics: at
`v.to_str().unwrap()` for an absolute target that is not UTF-8, at `canonicalize().unwrap()`, and
at the final `to_str().unwrap()`.

The comment above the function promises a result "below" the rootfs. An absolute target is not
re-checked, so `/r/a -> /../etc` gives `/r/../etc`, which is `/etc` (`secure_join_escapes_rootfs`).
-/

namespace KataContainers.Rustjail

open Posix

/-- The body of `for it in v.iter()` for a relative link target: push each component, and
replace a path that exists by its canonical form, or by the rootfs if that leaves it. -/
def push_relative_target (fs : Fs) (rootfs : String) : Path → List Component → Option Path
  | path, [] => some path
  | path, it :: rest =>
    let path := push path [it]
    match fs.query (exists_path path) with
    | .ok true =>
      match fs.query (canonicalize path) with
      | .ok q =>
        let path : Path := .RootDir :: q.map .Normal
        let path := if !starts_with path (components (utf8 rootfs)) then components (utf8 rootfs)
          else path
        push_relative_target fs rootfs path rest
      | .error _ => none
    | _ => push_relative_target fs rootfs path rest

/-- One iteration of the loop over the components of the unsafe path. -/
def secure_join_step (fs : Fs) (rootfs : String) (path : Path) (it : Component) : Option Path := do
  -- `it_p.has_root()`: the component `/` is skipped
  if it = .RootDir then return path
  let path := push path [it]
  let path ← match fs.query (readlink path) with
    | .ok v =>
      if has_root (components v) then
        match to_str v with
        | some _ => some (components (utf8 rootfs ++ v))
        | none => none
      else push_relative_target fs rootfs (pop path).1 (components v)
    | .error _ => some path
  -- skip any ".."
  if ends_with path [.ParentDir] then return (pop path).1 else return path

/-- `secure_join(rootfs, unsafe_path)`, as the components of the returned string; `none` is a
panic. -/
def secure_join (fs : Fs) (rootfs unsafe_path : String) : Option Path := do
  let path ← (components (utf8 unsafe_path)).foldlM (secure_join_step fs rootfs)
    (components (utf8 rootfs ++ [SEP]))
  -- `path.to_str().unwrap()`
  if path.all fun c => (to_str c.as_os_str).isSome then some path else none

/-- A filesystem with only `/`. -/
def root_only_fs : Fs := [([], ⟨.dir, 0o755, 0, 0⟩)]

-- `test_secure_join`, "skip any ..": every `..` of the unsafe path is dropped
example : secure_join root_only_fs "/home/rootfs" "../../../a/../../b/../../c" =
    some (components (utf8 "/home/rootfs/a/b/c")) := by
  decide

/-- A rootfs `/r` holding the link `/r/a -> target`, next to `/etc`. -/
def rootfs_link_fs (target : List UInt8) : Fs :=
  [([], ⟨.dir, 0o755, 0, 0⟩), ([utf8 "r"], ⟨.dir, 0o755, 0, 0⟩), ([utf8 "etc"], ⟨.dir, 0o755, 0, 0⟩),
   ([utf8 "r", utf8 "a"], ⟨.symlink target, 0o777, 0, 0⟩)]

-- `test_secure_join`, "relative softlink beyond container rootfs": `../../../` falls back to `/r`
example : secure_join (rootfs_link_fs (utf8 "../../../")) "/r" "a" = some (components (utf8 "/r")) := by
  decide

/-- In the rootfs `/r`, the link `a -> /../etc` makes `secure_join("/r", "a")` return `/r/../etc`,
which the kernel resolves to `/etc`, outside the rootfs. -/
theorem secure_join_escapes_rootfs :
    secure_join (rootfs_link_fs (utf8 "/../etc")) "/r" "a" = some (components (utf8 "/r/../etc")) ∧
      resolve (rootfs_link_fs (utf8 "/../etc")) true MAXSYMLINKS [] (components (utf8 "/r/../etc")) =
        .ok [utf8 "etc"] ∧
      is_below [utf8 "etc"] [utf8 "r"] = false :=
  ⟨by decide, by decide, by decide⟩

-- an absolute link target that is not UTF-8 makes `secure_join` panic at `to_str().unwrap()`
example : secure_join (rootfs_link_fs [47, 255]) "/r" "a" = none := by
  decide

end KataContainers.Rustjail
