import KataContainers.Posix.Path

/-!
# Paths resolved inside a root

What a path means to a process whose root directory is some directory of the filesystem, as
`chroot(2)` gives it: `/` is the root, `..` of the root is the root, and a symbolic link met on the
way is replaced by its target, an absolute target read from the root and a relative one from the
link's directory. Components that name nothing are taken as they are.

The directory is abstracted into a link oracle: `link d` is the parsed target of the link at `d`
(a list of names below the root), `none` where `d` is no link. `Chroot link cur p k r` is the
big-step resolution of `p` from the directory `cur`, ending at `r` after expanding `k` links. It is
deterministic (`Chroot.unique`), composes along `++` (`Chroot.append_iff`), and never ends at a path
with a link on it when it starts from one without (`Chroot.clean`).
-/

namespace Posix

/-- `Chroot link cur p k r`: from `cur`, the components `p` resolve to `r`, expanding `k` links. -/
inductive Chroot (link : List Name → Option Path) : List Name → Path → Nat → List Name → Prop
  | nil (cur : List Name) : Chroot link cur [] 0 cur
  | root {cur rest k r} : Chroot link [] rest k r → Chroot link cur (.RootDir :: rest) k r
  | cur_dir {cur rest k r} : Chroot link cur rest k r → Chroot link cur (.CurDir :: rest) k r
  | parent {cur rest k r} :
      Chroot link cur.dropLast rest k r → Chroot link cur (.ParentDir :: rest) k r
  | normal {cur n rest k r} : link (cur ++ [n]) = none →
      Chroot link (cur ++ [n]) rest k r → Chroot link cur (.Normal n :: rest) k r
  | symlink {cur n t rest k₁ d k₂ r} : link (cur ++ [n]) = some t →
      Chroot link cur t k₁ d → Chroot link d rest k₂ r →
      Chroot link cur (.Normal n :: rest) (k₁ + k₂ + 1) r

/-- No non-empty prefix of `d` is a link. -/
def Clean (link : List Name → Option Path) (d : List Name) : Prop :=
  ∀ q, q <+: d → q ≠ [] → link q = none

section
variable {link : List Name → Option Path}

/-! ## Inversion -/

theorem Chroot.nil_iff {cur r : List Name} {k : Nat} :
    Chroot link cur [] k r ↔ k = 0 ∧ r = cur := by
  constructor
  · intro h
    cases h
    exact ⟨rfl, rfl⟩
  · rintro ⟨rfl, rfl⟩
    exact .nil _

theorem Chroot.root_iff {cur r : List Name} {rest : Path} {k : Nat} :
    Chroot link cur (.RootDir :: rest) k r ↔ Chroot link [] rest k r := by
  constructor
  · intro h
    cases h with
    | root h => exact h
  · exact .root

theorem Chroot.cur_dir_iff {cur r : List Name} {rest : Path} {k : Nat} :
    Chroot link cur (.CurDir :: rest) k r ↔ Chroot link cur rest k r := by
  constructor
  · intro h
    cases h with
    | cur_dir h => exact h
  · exact .cur_dir

theorem Chroot.parent_iff {cur r : List Name} {rest : Path} {k : Nat} :
    Chroot link cur (.ParentDir :: rest) k r ↔ Chroot link cur.dropLast rest k r := by
  constructor
  · intro h
    cases h with
    | parent h => exact h
  · exact .parent

theorem Chroot.normal_iff {cur r : List Name} {n : Name} {rest : Path} {k : Nat}
    (hl : link (cur ++ [n]) = none) :
    Chroot link cur (.Normal n :: rest) k r ↔ Chroot link (cur ++ [n]) rest k r := by
  constructor
  · intro h
    cases h with
    | normal _ h => exact h
    | symlink hs _ _ => simp [hl] at hs
  · exact .normal hl

theorem Chroot.symlink_iff {cur r : List Name} {n : Name} {t rest : Path} {k : Nat}
    (hl : link (cur ++ [n]) = some t) :
    Chroot link cur (.Normal n :: rest) k r ↔
      ∃ k₁ d k₂, Chroot link cur t k₁ d ∧ Chroot link d rest k₂ r ∧ k = k₁ + k₂ + 1 := by
  constructor
  · intro h
    cases h with
    | normal hn _ => simp [hl] at hn
    | symlink hs ht hr =>
      rw [hl, Option.some.injEq] at hs
      subst hs
      exact ⟨_, _, _, ht, hr, rfl⟩
  · rintro ⟨k₁, d, k₂, ht, hr, rfl⟩
    exact .symlink hl ht hr

/-! ## Determinism and composition -/

/-- A path has at most one resolution from a directory. -/
theorem Chroot.unique {cur r₁ r₂ : List Name} {p : Path} {k₁ k₂ : Nat}
    (h₁ : Chroot link cur p k₁ r₁) (h₂ : Chroot link cur p k₂ r₂) : k₁ = k₂ ∧ r₁ = r₂ := by
  induction h₁ generalizing k₂ r₂ with
  | nil => exact (Chroot.nil_iff.mp h₂).imp Eq.symm Eq.symm
  | root _ ih => exact ih (Chroot.root_iff.mp h₂)
  | cur_dir _ ih => exact ih (Chroot.cur_dir_iff.mp h₂)
  | parent _ ih => exact ih (Chroot.parent_iff.mp h₂)
  | normal hl _ ih => exact ih ((Chroot.normal_iff hl).mp h₂)
  | symlink hl _ _ iht ihr =>
    obtain ⟨k₁', d', k₂', ht', hr', rfl⟩ := (Chroot.symlink_iff hl).mp h₂
    obtain ⟨rfl, rfl⟩ := iht ht'
    obtain ⟨rfl, rfl⟩ := ihr hr'
    exact ⟨rfl, rfl⟩

/-- Resolving `p` and then `q` from where `p` ended resolves `p ++ q`. -/
theorem Chroot.append {cur d r : List Name} {p q : Path} {k₁ k₂ : Nat}
    (hp : Chroot link cur p k₁ d) (hq : Chroot link d q k₂ r) :
    Chroot link cur (p ++ q) (k₁ + k₂) r := by
  induction hp with
  | nil => simpa using hq
  | root _ ih => exact .root (ih hq)
  | cur_dir _ ih => exact .cur_dir (ih hq)
  | parent _ ih => exact .parent (ih hq)
  | normal hl _ ih => exact .normal hl (ih hq)
  | @symlink cur n t rest k₁ d' k₂' r' hl ht _ _ ih =>
    have h := Chroot.symlink hl ht (ih hq)
    rwa [show k₁ + (k₂' + k₂) + 1 = k₁ + k₂' + 1 + k₂ by omega] at h

/-- A resolution of `p ++ q` passes through the end of a resolution of `p`. -/
theorem Chroot.split {cur r : List Name} {p q : Path} {k : Nat}
    (h : Chroot link cur (p ++ q) k r) :
    ∃ k₁ d k₂, Chroot link cur p k₁ d ∧ Chroot link d q k₂ r ∧ k = k₁ + k₂ := by
  induction p generalizing cur k with
  | nil => exact ⟨0, cur, k, .nil cur, h, (Nat.zero_add k).symm⟩
  | cons c p ih =>
    cases h with
    | root h =>
      obtain ⟨k₁, d, k₂, hp, hq, rfl⟩ := ih h
      exact ⟨k₁, d, k₂, .root hp, hq, rfl⟩
    | cur_dir h =>
      obtain ⟨k₁, d, k₂, hp, hq, rfl⟩ := ih h
      exact ⟨k₁, d, k₂, .cur_dir hp, hq, rfl⟩
    | parent h =>
      obtain ⟨k₁, d, k₂, hp, hq, rfl⟩ := ih h
      exact ⟨k₁, d, k₂, .parent hp, hq, rfl⟩
    | normal hl h =>
      obtain ⟨k₁, d, k₂, hp, hq, rfl⟩ := ih h
      exact ⟨k₁, d, k₂, .normal hl hp, hq, rfl⟩
    | @symlink _ n t _ kt e krest _ hl ht hrest =>
      -- the link's target is resolved whole; the split falls in what follows it
      obtain ⟨k₁, d, k₂, hp, hq, rfl⟩ := ih hrest
      refine ⟨kt + k₁ + 1, d, k₂, .symlink hl ht hp, hq, ?_⟩
      omega

theorem Chroot.append_iff {cur r : List Name} {p q : Path} {k : Nat} :
    Chroot link cur (p ++ q) k r ↔
      ∃ k₁ d k₂, Chroot link cur p k₁ d ∧ Chroot link d q k₂ r ∧ k = k₁ + k₂ := by
  constructor
  · exact Chroot.split
  · rintro ⟨k₁, d, k₂, hp, hq, rfl⟩
    exact hp.append hq

/-- `PathBuf::push` of a relative path resolves as the concatenation: a leading `.` it drops is
a no-op. -/
theorem Chroot.push_append_iff {cur r : List Name} {p q rest : Path} {k : Nat}
    (hq : q.head? ≠ some .RootDir) :
    Chroot link cur (push p q ++ rest) k r ↔ Chroot link cur (p ++ q ++ rest) k r := by
  match q, hq with
  | .CurDir :: q', _ =>
    by_cases hp : p = []
    · simp [push, hp]
    · simp only [push, hp, if_false, List.append_assoc, Chroot.append_iff, List.cons_append,
        Chroot.cur_dir_iff]
  | [], _ => simp [push]
  | .ParentDir :: _, _ => simp [push]
  | .Normal _ :: _, _ => simp [push]

theorem Chroot.push_iff {cur r : List Name} {p q : Path} {k : Nat}
    (hq : q.head? ≠ some .RootDir) :
    Chroot link cur (push p q) k r ↔ Chroot link cur (p ++ q) k r := by
  simpa using @Chroot.push_append_iff link cur r p q [] k hq

/-- Resolving `t ++ rest` in place of a link to `t` saves the one expansion. -/
theorem Chroot.link_iff {cur r : List Name} {n : Name} {t rest : Path} {k : Nat}
    (hl : link (cur ++ [n]) = some t) :
    Chroot link cur (.Normal n :: rest) k r ↔ ∃ k', k = k' + 1 ∧ Chroot link cur (t ++ rest) k' r := by
  rw [Chroot.symlink_iff hl]
  constructor
  · rintro ⟨k₁, d, k₂, ht, hr, rfl⟩
    exact ⟨k₁ + k₂, rfl, ht.append hr⟩
  · rintro ⟨k', rfl, h⟩
    obtain ⟨k₁, d, k₂, ht, hr, rfl⟩ := h.split
    exact ⟨k₁, d, k₂, ht, hr, rfl⟩

/-! ## Paths without links -/

theorem Clean.nil : Clean link [] := by
  intro q hq hne
  exact absurd (List.prefix_nil.mp hq) hne

theorem Clean.dropLast {d : List Name} (h : Clean link d) : Clean link d.dropLast :=
  fun q hq hne => h q (hq.trans (List.dropLast_prefix d)) hne

theorem Clean.concat {d : List Name} {n : Name} (h : Clean link d)
    (hl : link (d ++ [n]) = none) : Clean link (d ++ [n]) := by
  intro q hq hne
  rcases List.prefix_concat_iff.mp hq with rfl | hq
  · exact hl
  · exact h q hq hne

/-- A resolution from a directory without links ends at one. -/
theorem Chroot.clean {cur r : List Name} {p : Path} {k : Nat} (h : Chroot link cur p k r)
    (hc : Clean link cur) : Clean link r := by
  induction h with
  | nil => exact hc
  | root _ ih => exact ih Clean.nil
  | cur_dir _ ih => exact ih hc
  | parent _ ih => exact ih hc.dropLast
  | normal hl _ ih => exact ih (hc.concat hl)
  | symlink _ _ _ iht ihr => exact ihr (iht hc)

/-- Names that lead through no link resolve to themselves. -/
theorem Chroot.map_normal {d : List Name} :
    ∀ {cur : List Name}, Clean link (cur ++ d) → Chroot link cur (d.map .Normal) 0 (cur ++ d) := by
  induction d with
  | nil =>
    intro cur _
    simpa using Chroot.nil cur
  | cons n d ih =>
    intro cur h
    have hl : link (cur ++ [n]) = none := h _ ⟨d, by simp⟩ (by simp)
    have hrest : Clean link ((cur ++ [n]) ++ d) := by simpa using h
    simpa using Chroot.normal hl (ih hrest)

/-- From the root, a path that starts with the names of a directory without links resolves as
the rest does from that directory. -/
theorem Chroot.clean_prefix_iff {s r : List Name} {p : Path} {k : Nat} (hs : Clean link s) :
    Chroot link [] (s.map .Normal ++ p) k r ↔ Chroot link s p k r := by
  have hmap : Chroot link [] (s.map .Normal) 0 s := by
    simpa using @Chroot.map_normal link s [] (by simpa using hs)
  constructor
  · intro h
    obtain ⟨k₁, d, k₂, hd, hp, rfl⟩ := h.split
    obtain ⟨rfl, rfl⟩ := hmap.unique hd
    simpa using hp
  · intro h
    simpa using hmap.append h

end

end Posix
