import Mathlib

/-!
# Words in shortlex order and bijective numeration

The words over the alphabet `Fin k`, listed in shortlex order: `words k l` lists the words of
length `l` in lexicographic order, and `words_upto k L` the nonempty words of length at most `L`,
shorter ones first. The word at position `first k l + j` of that list is `pos_word k l j`, the `l`
digits of `j` in base `k`, most significant first (`getElem?_words_upto`); `value` reads a word
back (`value_pos_word`, `pos_word_value`).

`bij_loop` is the loop of bijective numeration: while `n ≥ 0` it writes the digit `n % k` and goes
on with `n / k - 1`. From `first k l + j` it writes the word `pos_word k l j`, least significant
digit first, and stops at `-1` (`bij_loop_eq`): the `n`-th nonempty word in shortlex order,
reversed.
-/

namespace Shortlex

/-- The words of length `l`, in lexicographic order. -/
def words (k : Nat) : Nat → List (List (Fin k))
  | 0 => [[]]
  | l + 1 => (words k l).flatMap fun w => (List.finRange k).map fun c => w ++ [c]

/-- The nonempty words of length at most `L`, in shortlex order. -/
def words_upto (k : Nat) : Nat → List (List (Fin k))
  | 0 => []
  | l + 1 => words_upto k l ++ words k (l + 1)

/-- The number of nonempty words shorter than `l`: the position of the first word of length `l`. -/
def first (k : Nat) : Nat → Nat
  | 0 => 0
  | 1 => 0
  | l + 2 => first k (l + 1) + k ^ (l + 1)

/-- The `l` digits of `j` in base `k`, most significant first. -/
def pos_word (k : Nat) [NeZero k] : Nat → Nat → List (Fin k)
  | 0, _ => []
  | l + 1, j => pos_word k l (j / k) ++ [Fin.ofNat k j]

/-- The number a word of digits stands for, most significant first. -/
def value {k : Nat} (w : List (Fin k)) : Nat :=
  w.foldl (fun acc d => acc * k + d) 0

/-- The position of a word in the shortlex list: the words shorter than it, then its number among
the words of its length. -/
def rank {k : Nat} (w : List (Fin k)) : Nat := first k w.length + value w

/-- The loop of bijective numeration, for at most `f` digits: the digits written so far, least
significant first, and the number left. -/
def bij_loop (k : Nat) [NeZero k] : Nat → Int → List (Fin k) → List (Fin k) × Int
  | 0, n, acc => (acc, n)
  | f + 1, n, acc =>
    if 0 ≤ n then bij_loop k f (n / k - 1) (acc ++ [Fin.ofNat k (n % k).toNat]) else (acc, n)

variable {k : Nat}

/-! ## Where the words of each length start -/

theorem first_succ_succ (l : Nat) : first k (l + 2) = first k (l + 1) + k ^ (l + 1) := rfl

/-- From one length to the next, the start is scaled by the base: the recurrence that the loop of
bijective numeration undoes. -/
theorem first_succ_succ_eq_mul (l : Nat) : first k (l + 2) = k * (first k (l + 1) + 1) := by
  induction l with
  | zero => simp [first]
  | succ l ih =>
    calc first k (l + 3) = first k (l + 2) + k ^ (l + 2) := rfl
      _ = k * (first k (l + 1) + 1) + k * k ^ (l + 1) := by
        rw [ih, Nat.pow_succ, Nat.mul_comm (k ^ (l + 1)) k]
      _ = k * (first k (l + 2) + 1) := by
        rw [first_succ_succ, ← Nat.mul_add]
        congr 1
        omega

theorem dvd_first (l : Nat) : k ∣ first k l := by
  match l with
  | 0 => exact Nat.dvd_zero k
  | 1 => exact Nat.dvd_zero k
  | l + 2 => rw [first_succ_succ_eq_mul]; exact Nat.dvd_mul_right k _

theorem first_mono {l L : Nat} (h : l ≤ L) : first k l ≤ first k L := by
  induction h with
  | refl => exact Nat.le_refl _
  | step _ ih =>
    rename_i m _
    match m with
    | 0 => exact ih
    | m + 1 => exact Nat.le_trans ih (by rw [first_succ_succ]; exact Nat.le_add_right _ _)

/-- A position `first k l + j` with `j < k ^ l` lies among the words of length `l`: it comes before
the words of length `L` exactly when `l < L`. -/
theorem first_add_lt_first_iff {l j L : Nat} (hl : 1 ≤ l) (hj : j < k ^ l) :
    first k l + j < first k L ↔ l < L := by
  constructor
  · intro h
    by_contra hge
    have := first_mono (k := k) (Nat.le_of_not_lt hge)
    omega
  · intro h
    obtain ⟨l', rfl⟩ : ∃ l', l = l' + 1 := ⟨l - 1, by omega⟩
    calc first k (l' + 1) + j < first k (l' + 2) := by rw [first_succ_succ]; omega
      _ ≤ first k L := first_mono h

/-- The closed form of the start, `(k ^ (l + 1) - k) / (k - 1)`, as the equation it solves. -/
theorem first_mul_add (m l : Nat) : m * first (m + 1) (l + 1) + (m + 1) = (m + 1) ^ (l + 1) := by
  induction l with
  | zero => simp [first]
  | succ l ih =>
    calc m * first (m + 1) (l + 2) + (m + 1)
        = (m * first (m + 1) (l + 1) + (m + 1)) + m * (m + 1) ^ (l + 1) := by
          rw [first_succ_succ]; ring
      _ = (m + 1) ^ (l + 2) := by rw [ih]; ring

/-! ## Reading a word as a number -/

theorem value_append (w : List (Fin k)) (c : Fin k) : value (w ++ [c]) = value w * k + c := by
  simp [value, List.foldl_append]

theorem value_lt (w : List (Fin k)) : value w < k ^ w.length := by
  induction w using List.reverseRecOn with
  | nil => simp [value]
  | append_singleton w c ih =>
    rw [value_append, List.length_append, List.length_singleton, Nat.pow_succ]
    calc value w * k + c < value w * k + k := Nat.add_lt_add_left c.isLt _
      _ = (value w + 1) * k := (Nat.succ_mul _ _).symm
      _ ≤ k ^ w.length * k := Nat.mul_le_mul_right _ ih

/-- A nonempty word lies before the words longer than `L` exactly when its length is at most `L`. -/
theorem rank_lt_first_iff {w : List (Fin k)} (hw : w ≠ []) (L : Nat) :
    rank w < first k (L + 1) ↔ w.length ≤ L := by
  rw [rank, first_add_lt_first_iff (List.length_pos_iff.mpr hw) (value_lt w)]
  omega

variable [NeZero k]

/-! ## The positional words -/

theorem finRange_eq_map_range (k : Nat) [NeZero k] :
    List.finRange k = (List.range k).map (Fin.ofNat k) := by
  apply List.ext_getElem (by simp)
  intro i h₁ h₂
  simp only [List.getElem_finRange, List.getElem_map, List.getElem_range]
  ext
  simp only [Fin.val_cast, Fin.val_ofNat]
  rw [Nat.mod_eq_of_lt (by simpa using h₁)]

/-- Listing the blocks of `k` after one another lists the numbers below `m * k`. -/
theorem flatMap_range_finRange {β : Type _} (m : Nat) (g : Nat → Fin k → β) :
    (List.range m).flatMap (fun j => (List.finRange k).map (g j)) =
      (List.range (m * k)).map fun n => g (n / k) (Fin.ofNat k n) := by
  have hk : 0 < k := Nat.pos_of_ne_zero (NeZero.ne k)
  induction m with
  | zero => simp
  | succ m ih =>
    rw [List.range_succ, List.flatMap_append, ih, Nat.succ_mul, List.range_add, List.map_append,
      List.flatMap_singleton, List.map_map, finRange_eq_map_range, List.map_map]
    congr 1
    apply List.map_congr_left
    intro d hd
    have hd' : d < k := List.mem_range.mp hd
    simp only [Function.comp_apply]
    rw [Nat.mul_comm m k, Nat.mul_add_div hk, Nat.div_eq_of_lt hd', Nat.add_zero]
    congr 1
    ext
    simp only [Fin.val_ofNat]
    rw [Nat.mul_add_mod]

theorem words_eq_map (l : Nat) : words k l = (List.range (k ^ l)).map (pos_word k l) := by
  induction l with
  | zero => rfl
  | succ l ih =>
    rw [words, ih, List.flatMap_map, Nat.pow_succ]
    exact flatMap_range_finRange (k ^ l) fun j c => pos_word k l j ++ [c]

@[simp] theorem length_pos_word (l j : Nat) : (pos_word k l j).length = l := by
  induction l generalizing j with
  | zero => rfl
  | succ l ih => simp [pos_word, ih]

theorem value_pos_word {l j : Nat} (hj : j < k ^ l) : value (pos_word k l j) = j := by
  induction l generalizing j with
  | zero => simp_all [pos_word, value]
  | succ l ih =>
    rw [pos_word, value_append, ih (Nat.div_lt_of_lt_mul (by rwa [Nat.mul_comm, ← Nat.pow_succ])),
      Fin.val_ofNat]
    exact Nat.div_add_mod' j k

theorem pos_word_value (w : List (Fin k)) : pos_word k w.length (value w) = w := by
  have hk : 0 < k := Nat.pos_of_ne_zero (NeZero.ne k)
  induction w using List.reverseRecOn with
  | nil => rfl
  | append_singleton w c ih =>
    -- the last digit of the number is the last letter, the rest is the number of the prefix
    have hdiv : (value w * k + c) / k = value w := by
      rw [Nat.mul_comm, Nat.mul_add_div hk, Nat.div_eq_of_lt c.isLt, Nat.add_zero]
    rw [List.length_append, List.length_singleton, pos_word, value_append, hdiv, ih]
    congr 2
    ext
    rw [Fin.val_ofNat, Nat.mul_comm, Nat.mul_add_mod, Nat.mod_eq_of_lt c.isLt]

/-- A positional word determines its length and its number. -/
theorem pos_word_inj {l l' j j' : Nat} (hj : j < k ^ l) (hj' : j' < k ^ l')
    (h : pos_word k l j = pos_word k l' j') : l = l' ∧ j = j' := by
  have hl : l = l' := by simpa using congrArg List.length h
  refine ⟨hl, ?_⟩
  rw [← value_pos_word hj, ← value_pos_word hj', h]

/-! ## The shortlex list -/

theorem length_words (l : Nat) : (words k l).length = k ^ l := by
  rw [words_eq_map, List.length_map, List.length_range]

theorem length_words_upto (L : Nat) : (words_upto k L).length = first k (L + 1) := by
  induction L with
  | zero => rfl
  | succ L ih =>
    rw [words_upto, List.length_append, ih, length_words, first_succ_succ]

/-- The word at position `first k l + j` of the shortlex list is the positional word of `j`. -/
theorem getElem?_words_upto {l L j : Nat} (hl : 1 ≤ l) (hlL : l ≤ L) (hj : j < k ^ l) :
    (words_upto k L)[first k l + j]? = some (pos_word k l j) := by
  induction L with
  | zero => omega
  | succ L ih =>
    rw [words_upto]
    rcases Nat.lt_or_ge l (L + 1) with hlt | hge
    · -- the word comes before the words of length `L + 1`
      have hpos : first k l + j < (words_upto k L).length := by
        rw [length_words_upto]
        exact (first_add_lt_first_iff hl hj).2 hlt
      rw [List.getElem?_append_left hpos]
      exact ih (by omega)
    · obtain rfl : l = L + 1 := by omega
      rw [List.getElem?_append_right (by rw [length_words_upto]; omega), length_words_upto,
        Nat.add_sub_cancel_left, words_eq_map, List.getElem?_map, List.getElem?_range hj]
      rfl

/-- Every number is the position of a word: the first of its length and an offset below the
count of that length. -/
theorem exists_first_add (n : Nat) : ∃ l j, 1 ≤ l ∧ j < k ^ l ∧ n = first k l + j := by
  have hk : 0 < k := Nat.pos_of_ne_zero (NeZero.ne k)
  induction n with
  | zero => exact ⟨1, 0, Nat.le_refl 1, Nat.pow_pos hk, rfl⟩
  | succ n ih =>
    obtain ⟨l, j, hl, hj, rfl⟩ := ih
    by_cases hj' : j + 1 < k ^ l
    · exact ⟨l, j + 1, hl, hj', by omega⟩
    · -- past the last word of length `l`: the first word of length `l + 1`
      obtain ⟨l', rfl⟩ : ∃ l', l = l' + 1 := ⟨l - 1, by omega⟩
      refine ⟨l' + 2, 0, by omega, Nat.pow_pos hk, ?_⟩
      rw [first_succ_succ]
      omega

theorem rank_pos_word {l j : Nat} (hj : j < k ^ l) : rank (pos_word k l j) = first k l + j := by
  rw [rank, length_pos_word, value_pos_word hj]

theorem exists_rank_eq (n : Nat) : ∃ w : List (Fin k), w ≠ [] ∧ rank w = n := by
  obtain ⟨l, j, hl, hj, rfl⟩ := exists_first_add (k := k) n
  refine ⟨pos_word k l j, ?_, rank_pos_word hj⟩
  intro h
  have := congrArg List.length h
  simp at this
  omega

theorem rank_inj {w w' : List (Fin k)} (hw : w ≠ []) (hw' : w' ≠ []) (h : rank w = rank w') :
    w = w' := by
  -- the lengths agree since each word lies among the words of its own length
  have hlen : w.length = w'.length := by
    have h₁ := (rank_lt_first_iff hw w.length).2 (Nat.le_refl _)
    have h₂ := (rank_lt_first_iff hw' w'.length).2 (Nat.le_refl _)
    rw [h] at h₁
    rw [← h] at h₂
    have := (rank_lt_first_iff hw' w.length).1 h₁
    have := (rank_lt_first_iff hw w'.length).1 h₂
    omega
  have hval : value w = value w' := by
    rw [rank, rank, hlen] at h
    omega
  rw [← pos_word_value w, ← pos_word_value w', hlen, hval]

/-- The word at position `rank w` of the shortlex list is `w`. -/
theorem getElem?_words_upto_rank {w : List (Fin k)} {L : Nat} (hw : w ≠ []) (hL : w.length ≤ L) :
    (words_upto k L)[rank w]? = some w := by
  have h := getElem?_words_upto (k := k) (List.length_pos_iff.mpr hw) hL (value_lt w)
  rwa [pos_word_value] at h

/-! ## The loop of bijective numeration -/

/-- From `first k l + j`, with fuel enough, the loop writes the positional word of `j` backwards
and stops at `-1`. -/
theorem bij_loop_eq {l j f : Nat} (hl : 1 ≤ l) (hj : j < k ^ l) (hf : l ≤ f)
    (acc : List (Fin k)) :
    bij_loop k f ((first k l + j : Nat) : Int) acc = (acc ++ (pos_word k l j).reverse, -1) := by
  have hk : 0 < k := Nat.pos_of_ne_zero (NeZero.ne k)
  induction l generalizing j f acc with
  | zero => omega
  | succ l ih =>
    obtain ⟨f, rfl⟩ : ∃ f', f = f' + 1 := ⟨f - 1, by omega⟩
    -- the digit written is the last digit of `j`, since `k` divides `first k (l + 1)`
    have hdigit :
        Fin.ofNat k ((((first k (l + 1) + j : Nat) : Int) % k).toNat) = Fin.ofNat k j := by
      obtain ⟨c, hc⟩ := dvd_first (k := k) (l + 1)
      ext
      rw [← Int.natCast_emod, Int.toNat_natCast, Fin.val_ofNat, Fin.val_ofNat, hc,
        Nat.mul_add_mod, Nat.mod_mod]
    rw [bij_loop, if_pos (Int.natCast_nonneg _), hdigit, pos_word, List.reverse_append,
      List.reverse_singleton, List.singleton_append]
    rcases l with _ | l
    · -- one digit: the number left is `-1`
      have hnext : ((first k 1 + j : Nat) : Int) / k - 1 = -1 := by
        rw [← Int.natCast_ediv, Nat.div_eq_of_lt (by simpa [first] using hj)]
        rfl
      rw [hnext]
      cases f <;> simp [bij_loop, pos_word]
    · -- more digits: the loop goes on from `first k (l + 1) + j / k`
      have hjk : j / k < k ^ (l + 1) :=
        Nat.div_lt_of_lt_mul (by rwa [Nat.mul_comm, ← Nat.pow_succ])
      have hdiv : (first k (l + 2) + j) / k = first k (l + 1) + j / k + 1 := by
        rw [first_succ_succ_eq_mul, Nat.mul_add_div hk]
        omega
      have hnext : ((first k (l + 2) + j : Nat) : Int) / k - 1 =
          ((first k (l + 1) + j / k : Nat) : Int) := by
        rw [← Int.natCast_ediv, hdiv]
        push_cast
        omega
      rw [hnext, ih (by omega) hjk (by omega), List.append_assoc]
      rfl

/-- From the rank of a nonempty word, with fuel enough, the loop writes the word backwards. -/
theorem bij_loop_rank {w : List (Fin k)} {f : Nat} (hw : w ≠ []) (hf : w.length ≤ f)
    (acc : List (Fin k)) : bij_loop k f (rank w : Int) acc = (acc ++ w.reverse, -1) := by
  have h := bij_loop_eq (List.length_pos_iff.mpr hw) (value_lt w) hf acc
  rwa [pos_word_value] at h

end Shortlex
