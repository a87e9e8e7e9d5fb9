import Mathlib

/-!
# Unix paths

A model of the path type of the Rust standard library on Unix (`std::path::{Path, PathBuf}`), which
the agent, `rustjail` and `safe-path` use to build and take apart paths. A path is a byte string;
what every operation of `std::path` looks at is the list of its components, which `components`
parses exactly as `Path::components` does on Unix: a leading `/` gives `RootDir`, a leading `.`
segment of a relative path gives `CurDir`, empty and `.` segments are dropped elsewhere, and `..`
gives `ParentDir`. Unix has no `Prefix` component.

A `PathBuf` is represented by its component list (`Path`); `push`, `pop`, `starts_with`,
`ends_with`, `file_name` and `set_extension` are the standard library's operations on that list.
Two `PathBuf`s with the same components (`a/b` and `a//b/`) are equal under `==` in Rust as well.
-/

namespace Posix

/-- A path component name: a byte string with no `/`. -/
abbrev Name := List UInt8

/-- The byte `/`. -/
def SEP : UInt8 := 47

/-- The name `.`. -/
def DOT : Name := [46]

/-- The name `..`. -/
def DOTDOT : Name := [46, 46]

/-- `str::as_bytes`: the UTF-8 encoding of a string. -/
def utf8 (s : String) : List UInt8 :=
  s.toList.flatMap String.utf8EncodeChar

/-- `std::path::Component` on Unix. -/
inductive Component
  | RootDir
  | CurDir
  | ParentDir
  | Normal (name : Name)
  deriving DecidableEq, Repr

/-- A path, as the list of its components. -/
abbrev Path := List Component

/-- The component a segment between separators stands for, `none` for an empty or `.` segment. -/
def parse_single (s : Name) : Option Component :=
  if s = [] ∨ s = DOT then none else if s = DOTDOT then some .ParentDir else some (.Normal s)

/-- `Path::new(bytes).components()`. -/
def components (bytes : List UInt8) : Path :=
  let segs := bytes.splitOn SEP
  let head : Path :=
    if bytes.head? = some SEP then [.RootDir]
    else if segs.head? = some DOT then [.CurDir]
    else []
  head ++ segs.filterMap parse_single

/-- `Component::as_os_str`: the bytes that `Path::iter` yields for a component. -/
def Component.as_os_str : Component → Name
  | .RootDir => [SEP]
  | .CurDir => DOT
  | .ParentDir => DOTDOT
  | .Normal n => n

/-- `Path::as_os_str` of a path built from components: their bytes joined by `/`, with no second
`/` after the root. -/
def Path.as_os_str : Path → List UInt8
  | [] => []
  | .RootDir :: rest => SEP :: List.intercalate [SEP] (rest.map Component.as_os_str)
  | p => List.intercalate [SEP] (p.map Component.as_os_str)

/-- `Path::has_root` (and `is_absolute`, which is the same on Unix). -/
def has_root (p : Path) : Bool :=
  p.head? == some .RootDir

/-- `PathBuf::push(q)`: an absolute `q` replaces the path; otherwise `q` is appended, its leading
`.` dropping out unless the path was empty. -/
def push (p q : Path) : Path :=
  match q with
  | .RootDir :: _ => q
  | .CurDir :: rest => if p = [] then q else p ++ rest
  | _ => p ++ q

/-- `Path::parent`: the path without its last component, if that is `Normal`, `.` or `..`. -/
def parent (p : Path) : Option Path :=
  match p.getLast? with
  | some (.Normal _) | some .CurDir | some .ParentDir => some p.dropLast
  | _ => none

/-- `PathBuf::pop`: truncate to the parent; `false` and no change at a root or an empty path. -/
def pop (p : Path) : Path × Bool :=
  match parent p with
  | some q => (q, true)
  | none => (p, false)

/-- `Path::starts_with(base)`: `base`'s components are a prefix of the path's. -/
def starts_with (p base : Path) : Bool :=
  base.isPrefixOf p

/-- `Path::ends_with(child)`: `child`'s components are a suffix of the path's. -/
def ends_with (p child : Path) : Bool :=
  child.isSuffixOf p

/-- `Path::strip_prefix(base)`: the components after `base`, if the path starts with it. -/
def strip_prefix (p base : Path) : Option Path :=
  if starts_with p base then some (p.drop base.length) else none

/-- `Path::file_name`: the last component if it is `Normal`. -/
def file_name (p : Path) : Option Name :=
  match p.getLast? with
  | some (.Normal n) => some n
  | _ => none

/-- `Path::file_stem` of a file name: the name before its last `.`, unless that `.` is the
name's first byte or there is none. -/
def file_stem (n : Name) : Name :=
  match n.reverse.idxOf? 46 with
  | none => n
  | some i => if i + 1 = n.length then n else n.take (n.length - i - 1)

/-- `PathBuf::set_extension(ext)` for a non-empty `ext`: replace the file name by its stem, a `.`
and `ext`; a path without a file name is left as it is. -/
def set_extension (p : Path) (ext : Name) : Path :=
  match file_name p with
  | some n => p.dropLast ++ [.Normal (file_stem n ++ 46 :: ext)]
  | none => p

/-- One component of lexical cleaning (`filepath.Clean` in Go): `.` drops out, `..` removes the
name before it, stays at the root, and is kept at the start of a relative path. -/
def clean_step (acc : Path) : Component → Path
  | .RootDir => [.RootDir]
  | .CurDir => acc
  | .ParentDir =>
    match acc.getLast? with
    | some (.Normal _) => acc.dropLast
    | some .RootDir => acc
    | _ => acc ++ [.ParentDir]
  | .Normal n => acc ++ [.Normal n]

/-- The lexically cleaned form of a path: `.` and `..` resolved without looking at the
filesystem. -/
def clean (p : Path) : Path :=
  p.foldl clean_step []

/-- `OsStr::to_str`: the name as a string, when it is valid UTF-8. -/
def to_str (n : Name) : Option String :=
  String.fromUTF8? ⟨n.toArray⟩

/-- The place of a component's variant in the declaration of `Component`, after `Prefix`. -/
def Component.kind : Component → Nat
  | .RootDir => 1
  | .CurDir => 2
  | .ParentDir => 3
  | .Normal _ => 4

/-- The derived `Ord` of `Component`: by variant, names by their bytes. -/
def Component.cmp (a b : Component) : Ordering :=
  match a, b with
  | .Normal x, .Normal y => List.compareLex compare x y
  | _, _ => compare a.kind b.kind

/-- `Ord for Path` (`compare_components`): the components compared in order. -/
def Path.cmp (p q : Path) : Ordering :=
  List.compareLex Component.cmp p q

/-! ## Pushing and parsing -/

/-- Pushing names onto a path appends them. -/
theorem push_map_normal (p : Path) (s : List Name) : push p (s.map .Normal) = p ++ s.map .Normal := by
  cases s <;> rfl

/-- Popping a path of names drops the last one; the empty path stays empty. -/
theorem pop_map_normal (s : List Name) : (pop (s.map .Normal)).1 = s.dropLast.map .Normal := by
  rcases List.eq_nil_or_concat s with rfl | ⟨s', n, rfl⟩
  · rfl
  · simp [pop, parent]

theorem mem_push {p q : Path} {c : Component} (h : c ∈ push p q) : c ∈ p ∨ c ∈ q := by
  unfold push at h
  split at h
  · exact .inr h
  · split at h
    · exact .inr h
    · rcases List.mem_append.mp h with h | h
      · exact .inl h
      · exact .inr (List.mem_cons_of_mem _ h)
  · exact List.mem_append.mp h

theorem rootDir_not_mem_push {p q : Path} (hp : .RootDir ∉ p) (hq : .RootDir ∉ q) :
    .RootDir ∉ push p q := fun h => (mem_push h).elim hp hq

/-- Pushing a path without `/` keeps `/` out of all but the first place. -/
theorem rootDir_not_mem_tail_push {p q : Path} (hp : .RootDir ∉ p.tail) (hq : .RootDir ∉ q) :
    .RootDir ∉ (push p q).tail := by
  intro h
  unfold push at h
  split at h
  · exact hq (by simp_all)
  · split at h
    · exact hq (List.mem_of_mem_tail h)
    · rename_i rest _
      rcases p with _ | ⟨c, p⟩
      · contradiction
      · rcases List.mem_append.mp h with h | h
        · exact hp h
        · exact hq (List.mem_cons_of_mem _ h)
  · rcases p with _ | ⟨c, p⟩
    · exact hq (List.mem_of_mem_tail h)
    · rcases List.mem_append.mp h with h | h
      · exact hp h
      · exact hq h

theorem parse_single_ne_rootDir (s : Name) : parse_single s ≠ some .RootDir := by
  unfold parse_single
  split_ifs <;> simp

/-- `Path::components` yields `/` only first. -/
theorem rootDir_not_mem_tail_components (b : List UInt8) : .RootDir ∉ (components b).tail := by
  have hsegs : .RootDir ∉ (b.splitOn SEP).filterMap parse_single := by
    simp only [List.mem_filterMap, not_exists, not_and]
    exact fun s _ => parse_single_ne_rootDir s
  unfold components
  dsimp only
  split_ifs <;> first | exact hsegs | exact fun h => hsegs (List.mem_of_mem_tail h)

theorem rootDir_not_mem_components {b : List UInt8} (h : has_root (components b) = false) :
    .RootDir ∉ components b := by
  intro hm
  rcases hc : components b with _ | ⟨c, tl⟩
  · simp [hc] at hm
  · rcases List.mem_cons.mp (hc ▸ hm) with rfl | htl
    · simp [has_root, hc] at h
    · exact rootDir_not_mem_tail_components b (by simpa [hc] using htl)

theorem components_of_has_root {b : List UInt8} (h : has_root (components b) = true) :
    ∃ tl, components b = .RootDir :: tl ∧ .RootDir ∉ tl := by
  rcases hc : components b with _ | ⟨c, tl⟩
  · simp [has_root, hc] at h
  · have hcr : c = .RootDir := by simpa [has_root, hc] using h
    subst hcr
    exact ⟨tl, rfl, by simpa [hc] using rootDir_not_mem_tail_components b⟩

end Posix
