import KataContainers.Posix.Path
import KataContainers.Lib.Str

/-!
# Compacting the `lowerdir` option of an overlay mount

Model of `compact_lowerdir_option` in `libs/kata-sys-util/src/mount.rs`, which `Mounter::mount`
calls when the options of an overlay mount come near a page: `find_overlay_lowerdirs` picks the
first non-empty `lowerdir=` option and splits it at `:`; `get_longest_common_prefix` sorts the
parents of the entries by `Ord for Path` and keeps the components the first and the last share;
unless that is the root, every entry has the prefix's string and a `/` deleted with
`str::replace`, and `mount_at` mounts with that directory as the working directory, where the
kernel resolves each relative entry as `Path::join` does. A mount option is the list of its
characters.

`compact_lowerdir_option_none` and `compact_lowerdir_option_some` say what the function returns;
`lowerdir_option_no_longer` that the new option is no longer than the old. `str::replace` deletes
every occurrence of the prefix, not only the leading one, so an entry keeps its path below the
common directory exactly when the prefix does not occur in it again
(`compact_lowerdir_option_strips_every_occurrence`).
-/

namespace KataContainers.SysUtil.Mount

open Posix

/-- `Path::new(s)`, as its components, of a string. -/
def path_of (s : List Char) : Path :=
  components (s.flatMap String.utf8EncodeChar)

/-- `Path::join`: `d.join(s)`. -/
def join (d : Path) (s : List Char) : Path :=
  push d (path_of s)

/-- The option name `lowerdir=`. -/
def LOWERDIR : List Char := "lowerdir=".toList

/-- The option `lowerdir=` with the entries joined by `:`. -/
def lowerdir_option (lower : List (List Char)) : List Char :=
  LOWERDIR ++ [':'].intercalate lower

/-- `find_overlay_lowerdirs`: the index of the first `lowerdir=` option with a non-empty value,
and its entries. -/
def find_overlay_lowerdirs (opts : List (List Char)) : Option (Nat × List (List Char)) :=
  opts.zipIdx.findSome? fun (o, idx) =>
    match Str.strip_prefix LOWERDIR o with
    | some lower => if lower ≠ [] then some (idx, lower.splitOn ':') else none
    | none => none

/-- `get_longest_common_prefix`: the components shared by the least and the greatest parent of
the entries, `None` when there is no entry or one has no parent. -/
def get_longest_common_prefix (opts : List (List Char)) : Option Path := do
  if opts.isEmpty then none
  else
    let paths ← opts.mapM fun opt => parent (path_of opt)
    -- `sort_unstable`: the order is total, so every sort gives this list
    let paths := paths.insertionSort fun a b => Path.cmp a b ≠ .gt
    match paths.head?, paths.getLast? with
    | some first, some last =>
      let shared := (first.zip last).takeWhile fun (f, l) => f == l
      some (shared.foldl (fun path (c, _) => push path [c]) [])
    | _, _ => none

/-- `compact_lowerdir_option`: the working directory to mount from, if any, and the options. -/
def compact_lowerdir_option (opts : List (List Char)) : Option Path × List (List Char) :=
  let n_opts := opts
  -- No need to compact if there is no overlay or only one lowerdir
  match find_overlay_lowerdirs opts with
  | none => (none, n_opts)
  | some (idx, lower_opts) =>
    if lower_opts.length ≤ 1 then (none, n_opts)
    else
      match get_longest_common_prefix lower_opts with
      | none => (none, n_opts)
      | some common_dir =>
        if has_root common_dir && (parent common_dir).isNone then (none, n_opts)
        else
          match to_str common_dir.as_os_str with
          | none => (none, n_opts)
          | some v =>
            let common_prefix := v.toList ++ ['/']
            let lower := lower_opts.map (Str.replace common_prefix [])
            (some common_dir, n_opts.set idx (lowerdir_option lower))

/-! ## What the compaction returns -/

theorem find_overlay_lowerdirs_eq_some {opts : List (List Char)} {idx : Nat}
    {lower : List (List Char)} (h : find_overlay_lowerdirs opts = some (idx, lower)) :
    ∃ val, opts[idx]? = some (LOWERDIR ++ val) ∧ val ≠ [] ∧ lower = val.splitOn ':' := by
  obtain ⟨l₁, ⟨o, i⟩, l₂, hsplit, hsome, -⟩ := List.findSome?_eq_some_iff.mp h
  have hmem : (o, i) ∈ opts.zipIdx := by
    rw [hsplit]
    exact List.mem_append_right l₁ List.mem_cons_self
  have hget : opts[i]? = some o := List.mem_zipIdx_iff_getElem?.mp hmem
  -- the option found is `lowerdir=` and a non-empty value
  dsimp only at hsome
  split at hsome
  · next val hval =>
    split at hsome
    · next hne =>
      cases hsome
      exact ⟨val, by rw [hget, Str.strip_prefix_eq_some hval], hne, rfl⟩
    · cases hsome
  · cases hsome

/-- Without a working directory, the options are returned as they are. -/
theorem compact_lowerdir_option_none {opts : List (List Char)}
    (h : (compact_lowerdir_option opts).1 = none) : (compact_lowerdir_option opts).2 = opts := by
  unfold compact_lowerdir_option at h ⊢
  dsimp only at h ⊢
  split
  · rfl
  · next idx lower hfind =>
    split
    · rfl
    · next hlen =>
      split
      · rfl
      · next C hC =>
        split
        · rfl
        · next hroot =>
          split
          · rfl
          · next v hv =>
            -- every check passed: the working directory is `C`, against `h`
            rw [hfind] at h
            dsimp only at h
            rw [if_neg hlen, hC] at h
            dsimp only at h
            rw [if_neg hroot, hv] at h
            cases h

/-- With a working directory, the `lowerdir=` option found has every occurrence of the common
prefix and a `/` deleted from each entry, and no other option changes. -/
theorem compact_lowerdir_option_some {opts : List (List Char)} {C : Path}
    {opts' : List (List Char)} (h : compact_lowerdir_option opts = (some C, opts')) :
    ∃ idx lower v, find_overlay_lowerdirs opts = some (idx, lower) ∧ 1 < lower.length ∧
      to_str C.as_os_str = some v ∧
      opts' = opts.set idx (lowerdir_option (lower.map (Str.replace (v.toList ++ ['/']) []))) := by
  unfold compact_lowerdir_option at h
  dsimp only at h
  split at h
  · cases h
  · next idx lower hfind =>
    split at h
    · cases h
    · next hlen =>
      split at h
      · cases h
      · next common_dir _ =>
        split at h
        · cases h
        · split at h
          · cases h
          · next v hv =>
            cases h
            exact ⟨idx, lower, v, hfind, by omega, hv, rfl⟩

/-- The compacted `lowerdir=` option is no longer than the one it replaces. -/
theorem lowerdir_option_no_longer (val : List Char) (p : List Char) (hp : p ≠ []) :
    (lowerdir_option ((val.splitOn ':').map (Str.replace p []))).length ≤
      (LOWERDIR ++ val).length := by
  have hle := Str.length_intercalate_map_le [':'] (Str.replace p []) (val.splitOn ':')
    fun x _ => Str.length_replace_nil_le hp x
  rw [List.intercalate_splitOn] at hle
  rw [lowerdir_option, List.length_append, List.length_append]
  omega

theorem compact_lowerdir_option_strips_every_occurrence (opts : List (List Char)) :
    ((compact_lowerdir_option opts).1 = none → (compact_lowerdir_option opts).2 = opts) ∧
    ∀ C opts', compact_lowerdir_option opts = (some C, opts') →
      ∃ idx val v, opts[idx]? = some (LOWERDIR ++ val) ∧ to_str C.as_os_str = some v ∧
        opts' = opts.set idx
          (lowerdir_option ((val.splitOn ':').map (Str.replace (v.toList ++ ['/']) []))) ∧
        (lowerdir_option ((val.splitOn ':').map (Str.replace (v.toList ++ ['/']) []))).length ≤
          (LOWERDIR ++ val).length ∧
        ∀ m, v.toList ++ '/' :: m ∈ val.splitOn ':' →
          (Str.replace (v.toList ++ ['/']) [] (v.toList ++ '/' :: m) = m ↔
            ¬ v.toList ++ ['/'] <:+: m) := by
  refine ⟨compact_lowerdir_option_none, ?_⟩
  intro C opts' h
  obtain ⟨idx, lower, v, hfind, -, hv, rfl⟩ := compact_lowerdir_option_some h
  obtain ⟨val, hget, -, rfl⟩ := find_overlay_lowerdirs_eq_some hfind
  have hp : v.toList ++ ['/'] ≠ [] := by simp
  refine ⟨idx, val, v, hget, hv, rfl, lowerdir_option_no_longer val _ hp, ?_⟩
  intro m _
  have hiff := Str.replace_prefix_append_eq_iff hp m
  rw [List.append_assoc, List.singleton_append] at hiff
  exact hiff

/-- An overlay over `/x/a/x/b` and `/x/c/d`, whose common directory `/x` occurs twice in the
first entry. -/
def two_lowerdirs : List (List Char) := ["lowerdir=/x/a/x/b:/x/c/d".toList]

/-- Both occurrences of `/x/` are deleted from `/x/a/x/b`: the entry becomes `ab`, which the
working directory `/x` resolves to `/x/ab`. -/
theorem compact_lowerdir_option_strips_every_occurrence_x :
    compact_lowerdir_option two_lowerdirs =
        (some [.RootDir, .Normal [120]], ["lowerdir=ab:c/d".toList]) ∧
      Str.replace ("/x".toList ++ ['/']) [] ("/x".toList ++ '/' :: "a/x/b".toList) ≠
        "a/x/b".toList ∧
      join [.RootDir, .Normal [120]] "ab".toList ≠ path_of "/x/a/x/b".toList := by
  have hc : compact_lowerdir_option two_lowerdirs =
      (some [.RootDir, .Normal [120]], ["lowerdir=ab:c/d".toList]) := by decide +kernel
  obtain ⟨idx, val, v, hget, hv, -, -, hiff⟩ :=
    (compact_lowerdir_option_strips_every_occurrence two_lowerdirs).2 _ _ hc
  -- the common directory reads `/x`, and the option found is the only one
  have hv' : v = "/x" := Option.some.inj (hv.symm.trans (by decide +kernel))
  have hval : val = "/x/a/x/b:/x/c/d".toList := by
    cases idx with
    | zero =>
      have h : LOWERDIR ++ "/x/a/x/b:/x/c/d".toList = LOWERDIR ++ val :=
        Option.some.inj hget
      exact (List.append_cancel_left h).symm
    | succ n => cases hget
  subst hv' hval
  have hm := hiff "a/x/b".toList (by decide +kernel)
  refine ⟨hc, fun heq => hm.mp heq (List.isInfix_iff.mp (by decide +kernel)), by decide +kernel⟩

end KataContainers.SysUtil.Mount
