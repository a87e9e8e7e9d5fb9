import KataContainers.Lib.List

/-!
# String operations of the Rust standard library

`str::replace` and `str::strip_prefix` over a string given as its list of characters (or of any
type with decidable equality). `replace` replaces the non-overlapping occurrences of the pattern
from left to right, as `match_indices` finds them; an empty pattern matches at every boundary.

`replace` is a scan that passes over the rest of each match (`scan_skip`), which gives the
equations `replace_cons_of_match` and `replace_cons_of_no_match` the proofs unfold it by.
`replace_prefix_append` peels a leading occurrence off, `replace_of_not_infix` says a string
without the pattern is left as it is, and `length_replace_nil_lt` that deleting an occurrence
shortens the string, which together give `replace_prefix_append_eq_iff`: deleting a leading
pattern leaves the rest exactly when the pattern does not occur in it again.
`length_intercalate_map_le` bounds what `join` gives after each string is shortened.
-/

namespace Str

variable {α : Type _} [DecidableEq α]

/-- The scan of `str::replace`: the characters of a match are passed over (`skip` of them are
left), and at every other place the pattern is tried. -/
def scan (pat rep : List α) : Nat → List α → List α
  | _, [] => if pat = [] then rep else []
  | skip + 1, _ :: s => scan pat rep skip s
  | 0, c :: s =>
    if pat = [] then rep ++ c :: scan pat rep 0 s
    else if pat.isPrefixOf (c :: s) then rep ++ scan pat rep (pat.length - 1) s
    else c :: scan pat rep 0 s

/-- `str::replace(from, to)`, with `rep` for `to`. -/
def replace (pat rep : List α) (s : List α) : List α :=
  scan pat rep 0 s

/-- `str::strip_prefix(prefix)`. -/
def strip_prefix (pre s : List α) : Option (List α) :=
  if pre.isPrefixOf s then some (s.drop pre.length) else none

section Replace

variable {pat rep : List α}

theorem strip_prefix_append (pre s : List α) : strip_prefix pre (pre ++ s) = some s := by
  have h : pre.isPrefixOf (pre ++ s) = true :=
    List.isPrefixOf_iff_prefix.mpr (List.prefix_append pre s)
  rw [ strip_prefix, if_pos h, List.drop_left]

theorem strip_prefix_eq_some {pre s r : List α} (h : strip_prefix pre s = some r) :
    s = pre ++ r := by
  unfold strip_prefix at h
  split at h
  · next hp =>
    cases h
    exact (List.prefix_iff_eq_append.mp (List.isPrefixOf_iff_prefix.mp hp)).symm
  · cases h

/-- Passing over the rest of a match is scanning after it. -/
theorem scan_skip (pat rep : List α) : ∀ (skip : Nat) (s : List α),
    scan pat rep skip s = scan pat rep 0 (s.drop skip)
  | _, [] => by rw [List.drop_nil, scan, scan]
  | 0, _ :: _ => rfl
  | skip + 1, c :: s => by rw [scan, scan_skip pat rep skip s, List.drop_succ_cons]

theorem replace_nil (hp : pat ≠ []) : replace pat rep [] = [] := by
  rw [replace, scan, if_neg hp]

/-- At a match, the replacement is written and the scan goes on after the match. -/
theorem replace_cons_of_match (hp : pat ≠ []) {c : α} {s : List α}
    (h : pat.isPrefixOf (c :: s) = true) :
    replace pat rep (c :: s) = rep ++ replace pat rep ((c :: s).drop pat.length) := by
  obtain ⟨d, ds, rfl⟩ := List.exists_cons_of_ne_nil hp
  rw [replace, scan, if_neg hp, if_pos h, scan_skip, List.length_cons, Nat.add_sub_cancel,
    List.drop_succ_cons]
  rfl

/-- Elsewhere, the character is kept. -/
theorem replace_cons_of_no_match (hp : pat ≠ []) {c : α} {s : List α}
    (h : pat.isPrefixOf (c :: s) = false) :
    replace pat rep (c :: s) = c :: replace pat rep s := by
  rw [replace, scan, if_neg hp, if_neg (by rw [h]; decide)]
  rfl

/-- A leading occurrence of the pattern is replaced, and the rest is scanned after it. -/
theorem replace_prefix_append (hp : pat ≠ []) (m : List α) :
    replace pat rep (pat ++ m) = rep ++ replace pat rep m := by
  obtain ⟨c, s, hcs⟩ := List.exists_cons_of_ne_nil hp
  have hpre : pat.isPrefixOf (pat ++ m) = true :=
    List.isPrefixOf_iff_prefix.mpr (List.prefix_append pat m)
  rw [hcs, List.cons_append] at hpre ⊢
  rw [replace_cons_of_match (hcs ▸ hp) (hcs ▸ hpre), ← List.cons_append, ← hcs,
    List.drop_left]

/-- A string in which a non-empty pattern does not occur is left as it is. -/
theorem replace_of_not_infix (hp : pat ≠ []) :
    ∀ s : List α, ¬ pat <:+: s → replace pat rep s = s
  | [], _ => replace_nil hp
  | c :: s, h => by
    have hnpre : pat.isPrefixOf (c :: s) = false := by
      rw [Bool.eq_false_iff]
      intro hpre
      exact h (List.isPrefixOf_iff_prefix.mp hpre).isInfix
    have hs : ¬ pat <:+: s := fun hinf => h (hinf.trans (List.suffix_cons c s).isInfix)
    rw [replace_cons_of_no_match hp hnpre, replace_of_not_infix hp s hs]

/-- Deleting occurrences never lengthens a string. -/
theorem length_replace_nil_le (hp : pat ≠ []) :
    ∀ s : List α, (replace pat [] s).length ≤ s.length
  | [] => by rw [replace_nil hp]
  | c :: s => by
    cases hpre : pat.isPrefixOf (c :: s) with
    | true =>
      have ih := length_replace_nil_le hp ((c :: s).drop pat.length)
      rw [replace_cons_of_match hp hpre, List.nil_append]
      exact ih.trans (by rw [List.length_drop]; omega)
    | false =>
      have ih := length_replace_nil_le hp s
      rw [replace_cons_of_no_match hp hpre, List.length_cons, List.length_cons]
      omega
termination_by s => s.length
decreasing_by
  all_goals simp only [List.length_drop, List.length_cons]
  all_goals have : pat.length ≠ 0 := fun h => hp (List.length_eq_zero_iff.mp h)
  all_goals omega

/-- Deleting a pattern that occurs makes the string strictly shorter. -/
theorem length_replace_nil_lt (hp : pat ≠ []) :
    ∀ s : List α, pat <:+: s → (replace pat [] s).length < s.length
  | [], h => absurd (List.eq_nil_of_infix_nil h) hp
  | c :: s, h => by
    have hlen : pat.length ≠ 0 := fun h => hp (List.length_eq_zero_iff.mp h)
    cases hpre : pat.isPrefixOf (c :: s) with
    | true =>
      have hle := length_replace_nil_le hp ((c :: s).drop pat.length)
      rw [replace_cons_of_match hp hpre, List.nil_append]
      refine Nat.lt_of_le_of_lt hle ?_
      rw [List.length_drop, List.length_cons]
      omega
    | false =>
      -- the occurrence is further in
      have hs : pat <:+: s := by
        rcases List.infix_cons_iff.mp h with hpre' | hinf
        · rw [List.isPrefixOf_iff_prefix.mpr hpre'] at hpre
          cases hpre
        · exact hinf
      have ih := length_replace_nil_lt hp s hs
      rw [replace_cons_of_no_match hp hpre, List.length_cons, List.length_cons]
      omega
termination_by s => s.length
decreasing_by
  simp only [List.length_cons]
  omega

/-- After a leading pattern, deleting every occurrence leaves the rest of the string exactly when
the pattern does not occur in it again. -/
theorem replace_prefix_append_eq_iff (hp : pat ≠ []) (m : List α) :
    replace pat [] (pat ++ m) = m ↔ ¬ pat <:+: m := by
  rw [replace_prefix_append hp, List.nil_append]
  constructor
  · intro h hinf
    have hlt := length_replace_nil_lt hp m hinf
    rw [h] at hlt
    exact Nat.lt_irrefl _ hlt
  · exact replace_of_not_infix hp m

end Replace

/-- Joining strings each made no longer gives a string no longer than before. -/
theorem length_intercalate_map_le {β : Type _} (sep : List β) (f : List β → List β) :
    ∀ xs : List (List β), (∀ x ∈ xs, (f x).length ≤ x.length) →
      (sep.intercalate (xs.map f)).length ≤ (sep.intercalate xs).length
  | [], _ => Nat.le_refl _
  | [x], h => by
    rw [List.map_singleton, List.intercalate_singleton, List.intercalate_singleton]
    exact h x (List.mem_singleton_self x)
  | x :: y :: xs, h => by
    have hx := h x List.mem_cons_self
    have ih := length_intercalate_map_le sep f (y :: xs) fun z hz => h z (List.mem_cons_of_mem x hz)
    rw [List.map_cons, List.map_cons, List.intercalate_cons_cons, List.intercalate_cons_cons,
      ← List.map_cons, List.length_append, List.length_append, List.length_append,
      List.length_append]
    omega

end Str
