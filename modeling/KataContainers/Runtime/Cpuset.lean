import KataContainers.Lib.List

/-!
# CPU lists of the Go runtime

Model of `Parse` and `CPUSet.String` in `src/runtime/virtcontainers/pkg/cpuset/cpuset.go`, the
reader and writer of the Linux CPU list format (`"0-5,34,46-48"`) through which the runtime hands
the union of its containers' CPU and memory node sets to the cgroup layer (`getSandboxCPUSet`).
Go's `int` is 64 bits wide: `e++` wraps from `MaxInt` to `MinInt` (`inc`), and `strconv.Atoi`
rejects a numeral outside `[MinInt, MaxInt]`.

`Parse` splits the list at `,` and each item at `-`. An item of one field is a number, one of two
fields a range, whose elements the loop `for e := start; e <= end; e++` adds; an item of three
fields or more is skipped. The loop never ends when `end` is `MaxInt`, so the model gives each
range loop some fuel and answers `none` when it runs out (`add_range`).

`String` sorts the elements and groups them into runs, one `ranges` entry per run (`ranges_loop`
keeps the slice of ranges with its last, open, range apart), then prints each run as `N` or
`N-M`. The runs are canonical (`Canonical`), and `String_Parse` gives the round trip: it holds
for every set of non-negative `int`s except those holding both `MaxInt - 1` and `MaxInt`, whose
last run `MaxInt-1-MaxInt` sends `Parse` into its endless loop. `Parse_skips_and_hangs` gives the
items outside the CPU list grammar that `Parse` accepts, and the ranges it never finishes.
-/

namespace KataContainers.Runtime.Cpuset

/-- `math.MaxInt` on a 64-bit platform. -/
def MaxInt : Int := 2 ^ 63 - 1

/-- `math.MinInt` on a 64-bit platform. -/
def MinInt : Int := -2 ^ 63

/-- `e++` on `int`, which wraps. -/
def inc (e : Int) : Int := if e = MaxInt then MinInt else e + 1

/-- The `Err` of a `strconv.NumError`, with the numeral it is about. -/
inductive NumError
  | ErrSyntax (num : List Char)
  | ErrRange (num : List Char)
  deriving DecidableEq, Repr

/-- The sign of a numeral and its digits. -/
def split_sign : List Char → Bool × List Char
  | '-' :: ds => (true, ds)
  | '+' :: ds => (false, ds)
  | ds => (false, ds)

/-- `strconv.Atoi`: an optional sign, then decimal digits whose value is an `int`. -/
def Atoi (s : List Char) : Except NumError Int :=
  let ds := (split_sign s).2
  if ds.isEmpty || !ds.all Char.isDigit then .error (.ErrSyntax s)
  else
    let n : Int := Nat.ofDigitChars 10 ds 0
    let v := if (split_sign s).1 then -n else n
    if MinInt ≤ v ∧ v ≤ MaxInt then .ok v else .error (.ErrRange s)

/-- `strconv.Itoa`. -/
def Itoa (n : Int) : List Char :=
  if n < 0 then '-' :: Nat.toDigits 10 n.natAbs else Nat.toDigits 10 n.natAbs

/-- `CPUSet`: a set of CPU ids, the keys of its map. -/
structure CPUSet where
  elems : Finset Int
  deriving DecidableEq

namespace CPUSet

/-- `IsEmpty`. -/
def IsEmpty (s : CPUSet) : Bool := decide (s.elems = ∅)

/-- `ToSlice`: the elements, sorted. -/
def ToSlice (s : CPUSet) : List Int := s.elems.sort (· ≤ ·)

end CPUSet

/-! ## `Parse` -/

/-- The loop `for e := start; e <= end; e++ { b.Add(e) }` of `Parse`, for at most `fuel` turns:
`none` when they run out. -/
def add_range : Nat → Int → Int → Finset Int → Option (Finset Int)
  | 0, _, _, _ => none
  | fuel + 1, e, end_, b => if e ≤ end_ then add_range fuel (inc e) end_ (insert e b) else some b

/-- The loop of `Parse` over the items of the list: `none` when a range loop runs out of fuel. On
an error `Parse` returns `NewCPUSet()` and the error. -/
def parse_ranges (fuel : Nat) : List (List Char) → Finset Int → Option (CPUSet × Option NumError)
  | [], b => some (⟨b⟩, none)
  | r :: ranges, b =>
    match r.splitOn '-' with
    | [elem] =>
      -- ranges that consist of only one element like "34"
      match Atoi elem with
      | .error err => some (⟨∅⟩, some err)
      | .ok elem => parse_ranges fuel ranges (insert elem b)
    | [start, end_] =>
      -- multi-element ranges like "0-5"
      match Atoi start with
      | .error err => some (⟨∅⟩, some err)
      | .ok start =>
        match Atoi end_ with
        | .error err => some (⟨∅⟩, some err)
        | .ok end_ =>
          match add_range fuel start end_ b with
          | none => none
          | some b => parse_ranges fuel ranges b
    | _ => parse_ranges fuel ranges b

/-- `Parse`, each range loop given `fuel` turns. -/
def Parse (fuel : Nat) (s : List Char) : Option (CPUSet × Option NumError) :=
  if s = [] then some (⟨∅⟩, none) else parse_ranges fuel (s.splitOn ',') ∅

/-! ## `String` -/

/-- The loop of `String` over the sorted elements after the first. `last` is the range at the end
of `ranges`, which the loop extends while the next element is one past its end; the ranges before
it are never touched again. -/
def ranges_loop : Int × Int → List Int → List (Int × Int)
  | last, [] => [last]
  | last, elem :: elems =>
    if elem = inc last.2 then ranges_loop (last.1, elem) elems
    else last :: ranges_loop (elem, elem) elems

/-- The runs `String` prints. -/
def CPUSet.ranges (s : CPUSet) : List (Int × Int) :=
  match s.ToSlice with
  | [] => []
  | elem :: elems => ranges_loop (elem, elem) elems

/-- How `String` prints a run: `strconv.Itoa(r.start)`, or `fmt.Sprintf("%d-%d", r.start, r.end)`. -/
def range_text (r : Int × Int) : List Char :=
  if r.1 = r.2 then Itoa r.1 else Itoa r.1 ++ '-' :: Itoa r.2

/-- `CPUSet.String`: each run and a `,`, with the trailing `,`s trimmed. -/
def CPUSet.String (s : CPUSet) : List Char :=
  if s.IsEmpty then []
  else (s.ranges.flatMap fun r => range_text r ++ [',']).rdropWhile (· == ',')

/-! ## Numerals -/

theorem isDigit_of_mem_toDigits {n : Nat} {c : Char} (h : c ∈ Nat.toDigits 10 n) :
    c.isDigit = true :=
  Nat.isDigit_of_mem_toDigits (by decide) (by decide) h

theorem not_mem_toDigits {n : Nat} {c : Char} (hc : c.isDigit = false) :
    c ∉ Nat.toDigits 10 n := by
  intro h
  rw [isDigit_of_mem_toDigits h] at hc
  cases hc

theorem split_sign_of_isDigit {ds : List Char} (h : ∀ c ∈ ds, c.isDigit = true) :
    split_sign ds = (false, ds) := by
  cases ds with
  | nil => rfl
  | cons c ds =>
    have hc := h c List.mem_cons_self
    have hminus : c ≠ '-' := by
      rintro rfl
      cases hc
    have hplus : c ≠ '+' := by
      rintro rfl
      cases hc
    simp [split_sign, hminus, hplus]

/-- `Atoi` reads back what `Itoa` writes of a non-negative `int`. -/
theorem Atoi_toDigits {n : Nat} (h : (n : Int) ≤ MaxInt) : Atoi (Nat.toDigits 10 n) = .ok n := by
  have hdigits : ∀ c ∈ Nat.toDigits 10 n, c.isDigit = true := fun c hc => isDigit_of_mem_toDigits hc
  have hmin : MinInt ≤ (n : Int) := by
    have : MinInt < 0 := by decide
    omega
  have hne : (Nat.toDigits 10 n).isEmpty = false := List.isEmpty_eq_false_iff.mpr Nat.toDigits_ne_nil
  simp only [Atoi, split_sign_of_isDigit hdigits, hne, List.all_eq_true.mpr hdigits,
    Nat.ofDigitChars_ten_toDigits, Bool.not_true, Bool.or_false, Bool.false_eq_true, if_false,
    hmin, h, and_self, if_true]

theorem Itoa_of_nonneg {n : Int} (h : 0 ≤ n) : Itoa n = Nat.toDigits 10 n.natAbs := by
  rw [Itoa, if_neg (Int.not_lt.mpr h)]

theorem Atoi_Itoa {n : Int} (h₀ : 0 ≤ n) (h : n ≤ MaxInt) : Atoi (Itoa n) = .ok n := by
  rw [Itoa_of_nonneg h₀, Atoi_toDigits (by omega), Int.natAbs_of_nonneg h₀]

theorem isDigit_of_mem_Itoa {n : Int} (h₀ : 0 ≤ n) {c : Char} (h : c ∈ Itoa n) :
    c.isDigit = true := by
  rw [Itoa_of_nonneg h₀] at h
  exact isDigit_of_mem_toDigits h

/-! ## The loop over a range -/

theorem inc_of_lt {e : Int} (h : e < MaxInt) : inc e = e + 1 := by
  rw [inc, if_neg (Int.ne_of_lt h)]

theorem inc_le {e : Int} (h : e ≤ MaxInt) : inc e ≤ MaxInt := by
  unfold inc
  split
  · decide
  · omega

/-- Below `MaxInt` the loop adds the range, given one turn per element and one to stop. -/
theorem add_range_spec : ∀ (fuel : Nat) (e end_ : Int) (b : Finset Int), end_ < MaxInt →
    (end_ + 1 - e).toNat < fuel →
      ∃ b', add_range fuel e end_ b = some b' ∧ ∀ x, x ∈ b' ↔ x ∈ b ∨ e ≤ x ∧ x ≤ end_
  | 0, _, _, _, _, hf => absurd hf (Nat.not_lt_zero _)
  | fuel + 1, e, end_, b, hend, hf => by
    by_cases he : e ≤ end_
    · -- one more element, then the rest of the range from `e + 1`
      obtain ⟨b', hb', hmem⟩ := add_range_spec fuel (e + 1) end_ (insert e b) hend (by omega)
      refine ⟨b', ?_, fun x => ?_⟩
      · rw [add_range, if_pos he, inc_of_lt (by omega), hb']
      · rw [hmem, Finset.mem_insert]
        by_cases hx : x ∈ b
        · simp only [hx, or_true, true_or]
        · simp only [hx, or_false, false_or]
          omega
    · refine ⟨b, ?_, fun x => ⟨Or.inl, ?_⟩⟩
      · rw [add_range, if_neg he]
      · rintro (hx | ⟨hx₁, hx₂⟩)
        · exact hx
        · omega

/-- A reversed range adds nothing. -/
theorem add_range_of_lt {fuel : Nat} {e end_ : Int} (b : Finset Int) (h : end_ < e) :
    add_range (fuel + 1) e end_ b = some b := by
  rw [add_range, if_neg (Int.not_le.mpr h)]

/-- A range up to `MaxInt` never ends: `e <= MaxInt` holds of every `int`. -/
theorem add_range_MaxInt : ∀ (fuel : Nat) (e : Int) (b : Finset Int), e ≤ MaxInt →
    add_range fuel e MaxInt b = none
  | 0, _, _, _ => rfl
  | fuel + 1, e, b, he => by
    rw [add_range, if_pos he]
    exact add_range_MaxInt fuel (inc e) (insert e b) (inc_le he)

/-! ## One item of `Parse` -/

section Items

variable {fuel : Nat} {ranges : List (List Char)} {b : Finset Int}

/-- An item of one field. -/
theorem parse_ranges_single {r : List Char} {v : Int} (hr : '-' ∉ r) (hv : Atoi r = .ok v) :
    parse_ranges fuel (r :: ranges) b = parse_ranges fuel ranges (insert v b) := by
  rw [parse_ranges, List.splitOn_eq_singleton hr]
  simp only [hv]

/-- An item of two fields: the range loop, then the rest. -/
theorem parse_ranges_range {s e : List Char} {start end_ : Int} (hs : '-' ∉ s) (he : '-' ∉ e)
    (hstart : Atoi s = .ok start) (hend : Atoi e = .ok end_) :
    parse_ranges fuel ((s ++ '-' :: e) :: ranges) b =
      (add_range fuel start end_ b).bind fun b => parse_ranges fuel ranges b := by
  rw [parse_ranges, List.splitOn_append_cons_of_not_mem hs he]
  simp only [hstart, hend]
  cases add_range fuel start end_ b <;> rfl

/-- An item of three fields or more is skipped. -/
theorem parse_ranges_skip {r : List Char} (hr : 3 ≤ (r.splitOn '-').length) :
    parse_ranges fuel (r :: ranges) b = parse_ranges fuel ranges b := by
  rw [parse_ranges]
  split
  · next h => rw [h] at hr; simp at hr
  · next h => rw [h] at hr; simp at hr
  · rfl

end Items

/-! ## The runs of `String` -/

/-- Two members of a list whose elements come pairwise in `R` are in `R` one way or the other. -/
theorem pairwise_mem_or {α : Type} {R : α → α → Prop} :
    ∀ {l : List α}, l.Pairwise R → ∀ {a b : α}, a ∈ l → b ∈ l → a ≠ b → R a b ∨ R b a
  | [], _, _, _, ha, _, _ => absurd ha List.not_mem_nil
  | c :: l, h, a, b, ha, hb, hab => by
    obtain ⟨hc, hl⟩ := List.pairwise_cons.mp h
    rcases List.mem_cons.mp ha with rfl | ha' <;> rcases List.mem_cons.mp hb with rfl | hb'
    · exact absurd rfl hab
    · exact Or.inl (hc b hb')
    · exact Or.inr (hc a ha')
    · exact pairwise_mem_or hl ha' hb' hab

/-- Past the end of the open run, the next element is one past it or leaves a gap. -/
theorem eq_inc_iff {last_end elem : Int} (hlt : last_end < elem) (hmax : elem ≤ MaxInt) :
    elem = inc last_end ↔ elem = last_end + 1 := by
  rw [inc_of_lt (by omega)]

/-- What the runs from an open run `last` and the sorted elements after it hold. -/
theorem ranges_loop_covers : ∀ (last : Int × Int) (elems : List Int), last.1 ≤ last.2 →
    (∀ x ∈ elems, last.2 < x) → elems.Pairwise (· < ·) → (∀ x ∈ elems, x ≤ MaxInt) →
    ∀ x, (∃ r ∈ ranges_loop last elems, r.1 ≤ x ∧ x ≤ r.2) ↔
      last.1 ≤ x ∧ x ≤ last.2 ∨ x ∈ elems
  | last, [], _, _, _, _, x => by simp [ranges_loop]
  | last, elem :: elems, hlast, hlt, hsorted, hmax, x => by
    have hel := hlt elem List.mem_cons_self
    have hnext := eq_inc_iff hel (hmax elem List.mem_cons_self)
    obtain ⟨hrest, hsorted'⟩ := List.pairwise_cons.mp hsorted
    have hmax' : ∀ y ∈ elems, y ≤ MaxInt := fun y hy => hmax y (List.mem_cons_of_mem _ hy)
    rw [ranges_loop, List.mem_cons]
    split_ifs with h
    · -- the open run grows by `elem`
      rw [ranges_loop_covers (last.1, elem) elems (by dsimp only; omega) hrest hsorted' hmax' x]
      rw [hnext] at h
      dsimp only
      by_cases hx : x ∈ elems
      · simp only [hx, or_true]
      · simp only [hx, or_false]
        omega
    · -- `elem` opens a new run
      simp only [List.mem_cons, or_and_right, exists_or, exists_eq_left]
      rw [ranges_loop_covers (elem, elem) elems le_rfl hrest hsorted' hmax' x]
      dsimp only
      by_cases hx : x ∈ elems
      · simp only [hx, or_true]
      · simp only [hx, or_false]
        omega

theorem ranges_loop_ordered : ∀ (last : Int × Int) (elems : List Int), last.1 ≤ last.2 →
    (∀ x ∈ elems, last.2 < x) → elems.Pairwise (· < ·) →
    ∀ r ∈ ranges_loop last elems, r.1 ≤ r.2
  | last, [], hlast, _, _, r, hr => by
    rw [ranges_loop, List.mem_singleton] at hr
    rw [hr]
    exact hlast
  | last, elem :: elems, hlast, hlt, hsorted, r, hr => by
    have hel := hlt elem List.mem_cons_self
    obtain ⟨hrest, hsorted'⟩ := List.pairwise_cons.mp hsorted
    rw [ranges_loop] at hr
    split_ifs at hr with h
    · exact ranges_loop_ordered (last.1, elem) elems (by dsimp only; omega) hrest hsorted' r hr
    · rcases List.mem_cons.mp hr with rfl | hr
      · exact hlast
      · exact ranges_loop_ordered (elem, elem) elems le_rfl hrest hsorted' r hr

/-- Each run ends at least two before the next starts. -/
theorem ranges_loop_apart : ∀ (last : Int × Int) (elems : List Int), last.1 ≤ last.2 →
    (∀ x ∈ elems, last.2 < x) → elems.Pairwise (· < ·) → (∀ x ∈ elems, x ≤ MaxInt) →
    (ranges_loop last elems).Pairwise fun r r' => r.2 + 1 < r'.1
  | last, [], _, _, _, _ => List.pairwise_singleton _ _
  | last, elem :: elems, hlast, hlt, hsorted, hmax => by
    have hel := hlt elem List.mem_cons_self
    have hnext := eq_inc_iff hel (hmax elem List.mem_cons_self)
    obtain ⟨hrest, hsorted'⟩ := List.pairwise_cons.mp hsorted
    have hmax' : ∀ y ∈ elems, y ≤ MaxInt := fun y hy => hmax y (List.mem_cons_of_mem _ hy)
    rw [ranges_loop]
    split_ifs with h
    · exact ranges_loop_apart (last.1, elem) elems (by dsimp only; omega) hrest hsorted' hmax'
    · refine List.pairwise_cons.mpr ⟨fun r hr => ?_,
        ranges_loop_apart (elem, elem) elems le_rfl hrest hsorted' hmax'⟩
      -- a later run starts at `elem` or after it, past the gap
      have hord := ranges_loop_ordered (elem, elem) elems le_rfl hrest hsorted' r hr
      have hstart := (ranges_loop_covers (elem, elem) elems le_rfl hrest hsorted' hmax' r.1).mp
        ⟨r, hr, le_rfl, hord⟩
      rw [hnext] at h
      rcases hstart with ⟨h₁, _⟩ | hmem
      · dsimp only at h₁
        omega
      · have := hrest r.1 hmem
        omega

/-- The runs printed for `S` are its maximal runs, in increasing order: each is a range, each ends
at least two before the next starts, and together they hold exactly `S`. -/
structure Canonical (S : Finset Int) (ranges : List (Int × Int)) : Prop where
  ordered : ∀ r ∈ ranges, r.1 ≤ r.2
  apart : ranges.Pairwise fun r r' => r.2 + 1 < r'.1
  covers : ∀ x, x ∈ S ↔ ∃ r ∈ ranges, r.1 ≤ x ∧ x ≤ r.2
  maximal : ∀ r ∈ ranges, r.1 - 1 ∉ S ∧ r.2 + 1 ∉ S

/-- Runs apart from each other that hold exactly `S` are maximal. -/
theorem maximal_of_apart {S : Finset Int} {ranges : List (Int × Int)}
    (hord : ∀ r ∈ ranges, r.1 ≤ r.2) (hapart : ranges.Pairwise fun r r' => r.2 + 1 < r'.1)
    (hcov : ∀ x, x ∈ S ↔ ∃ r ∈ ranges, r.1 ≤ x ∧ x ≤ r.2) :
    ∀ r ∈ ranges, r.1 - 1 ∉ S ∧ r.2 + 1 ∉ S := by
  -- a run holding a neighbour of `r` is another run, on the wrong side of the gap
  have hout : ∀ r ∈ ranges, ∀ x, (x + 1 = r.1 ∨ x = r.2 + 1) → x ∉ S := by
    intro r hr x hx hxS
    obtain ⟨r', hr', hx₁, hx₂⟩ := (hcov x).mp hxS
    have hne : r ≠ r' := by
      rintro rfl
      omega
    have hr₁ := hord r hr
    rcases pairwise_mem_or hapart hr hr' hne with h | h <;> omega
  intro r hr
  exact ⟨hout r hr (r.1 - 1) (Or.inl (by omega)), hout r hr (r.2 + 1) (Or.inr rfl)⟩

theorem ranges_loop_ne_nil : ∀ (last : Int × Int) (elems : List Int), ranges_loop last elems ≠ []
  | last, [] => List.cons_ne_nil _ _
  | last, elem :: elems => by
    rw [ranges_loop]
    split_ifs
    · exact ranges_loop_ne_nil _ _
    · exact List.cons_ne_nil _ _

theorem ranges_of_ToSlice_cons {S : CPUSet} {elem : Int} {elems : List Int}
    (h : S.ToSlice = elem :: elems) : S.ranges = ranges_loop (elem, elem) elems := by
  simp only [CPUSet.ranges, h]

theorem ranges_eq_nil_iff {S : CPUSet} : S.ranges = [] ↔ S.elems = ∅ := by
  have hmem : ∀ x, x ∈ S.ToSlice ↔ x ∈ S.elems := fun x => Finset.mem_sort _
  cases hl : S.ToSlice with
  | nil =>
    simp only [CPUSet.ranges, hl, true_iff]
    exact Finset.eq_empty_of_forall_notMem fun x hx => by simpa [hl] using (hmem x).mpr hx
  | cons elem elems =>
    have he : elem ∈ S.elems := (hmem elem).mp (by rw [hl]; exact List.mem_cons_self)
    rw [ranges_of_ToSlice_cons hl]
    simp only [ranges_loop_ne_nil, false_iff]
    exact Finset.ne_empty_of_mem he

/-- The runs `String` prints for a set of `int`s are canonical. -/
theorem ranges_canonical (S : CPUSet) (hS : ∀ x ∈ S.elems, x ≤ MaxInt) :
    Canonical S.elems S.ranges := by
  have hsorted : S.ToSlice.Pairwise (· < ·) :=
    List.sortedLT_iff_pairwise.mp (Finset.sortedLT_sort S.elems)
  have hmem : ∀ x, x ∈ S.ToSlice ↔ x ∈ S.elems := fun x => Finset.mem_sort _
  have hruns : (∀ r ∈ S.ranges, r.1 ≤ r.2) ∧ (S.ranges.Pairwise fun r r' => r.2 + 1 < r'.1) ∧
      ∀ x, x ∈ S.elems ↔ ∃ r ∈ S.ranges, r.1 ≤ x ∧ x ≤ r.2 := by
    cases hl : S.ToSlice with
    | nil =>
      simp only [CPUSet.ranges, hl, List.not_mem_nil, false_and, exists_false, iff_false,
        IsEmpty.forall_iff, implies_true, List.Pairwise.nil, true_and]
      intro x hx
      simpa [hl] using (hmem x).mpr hx
    | cons elem elems =>
      rw [hl] at hsorted hmem
      rw [ranges_of_ToSlice_cons hl]
      obtain ⟨hlt, hsorted'⟩ := List.pairwise_cons.mp hsorted
      have hmax : ∀ x ∈ elems, x ≤ MaxInt := fun x hx => hS x ((hmem x).mp (List.mem_cons_of_mem _ hx))
      refine ⟨ranges_loop_ordered (elem, elem) elems le_rfl hlt hsorted',
        ranges_loop_apart (elem, elem) elems le_rfl hlt hsorted' hmax, fun x => ?_⟩
      rw [ranges_loop_covers (elem, elem) elems le_rfl hlt hsorted' hmax x, ← hmem x,
        List.mem_cons]
      dsimp only
      constructor
      · rintro (rfl | hx)
        · exact Or.inl ⟨le_rfl, le_rfl⟩
        · exact Or.inr hx
      · rintro (⟨h₁, h₂⟩ | hx)
        · exact Or.inl (by omega)
        · exact Or.inr hx
  obtain ⟨hord, hapart, hcov⟩ := hruns
  exact ⟨hord, hapart, hcov, maximal_of_apart hord hapart hcov⟩

/-- The endless loop: a run of at least two elements ends at `MaxInt` exactly when both
`MaxInt - 1` and `MaxInt` are in the set. -/
theorem exists_run_to_MaxInt_iff {S : Finset Int} {ranges : List (Int × Int)}
    (hc : Canonical S ranges) (hS : ∀ x ∈ S, x ≤ MaxInt) :
    (∃ r ∈ ranges, r.1 < r.2 ∧ r.2 = MaxInt) ↔ MaxInt - 1 ∈ S ∧ MaxInt ∈ S := by
  constructor
  · rintro ⟨r, hr, hlt, hend⟩
    exact ⟨(hc.covers _).mpr ⟨r, hr, by omega, by omega⟩, (hc.covers _).mpr ⟨r, hr, by omega, by omega⟩⟩
  · rintro ⟨hprev, htop⟩
    obtain ⟨r, hr, hr₁, hr₂⟩ := (hc.covers _).mp htop
    -- the run of `MaxInt` ends there, and also holds `MaxInt - 1`
    have hend : r.2 ≤ MaxInt := hS _ ((hc.covers _).mpr ⟨r, hr, hc.ordered r hr, le_rfl⟩)
    refine ⟨r, hr, ?_, by omega⟩
    obtain ⟨r', hr', hr'₁, hr'₂⟩ := (hc.covers _).mp hprev
    by_cases hrr : r = r'
    · subst hrr
      omega
    · have hord := hc.ordered r hr
      have hord' := hc.ordered r' hr'
      rcases pairwise_mem_or hc.apart hr hr' hrr with h | h <;> omega

/-! ## The text of `String` -/

section Text

variable {α β : Type} (f : β → List α) (c : α)

/-- Each item followed by the separator is the items joined, followed by it. -/
theorem flatMap_append_sep : ∀ {L : List β}, L ≠ [] →
    L.flatMap (fun r => f r ++ [c]) = [c].intercalate (L.map f) ++ [c]
  | [], h => absurd rfl h
  | [a], _ => by simp
  | a :: b :: l, _ => by
    rw [List.flatMap_cons, flatMap_append_sep (List.cons_ne_nil b l)]
    simp only [List.map_cons, List.intercalate_cons_cons, List.append_assoc]

/-- Items that each end in something else than the separator, joined, end so too. -/
theorem intercalate_ends : ∀ {L : List β}, L ≠ [] → (∀ r ∈ L, ∃ w d, f r = w ++ [d] ∧ d ≠ c) →
    ∃ w d, [c].intercalate (L.map f) = w ++ [d] ∧ d ≠ c
  | [], h, _ => absurd rfl h
  | [a], _, hf => by simpa using hf a List.mem_cons_self
  | a :: b :: l, _, hf => by
    obtain ⟨w, d, hw, hd⟩ := intercalate_ends (List.cons_ne_nil b l)
      fun r hr => hf r (List.mem_cons_of_mem a hr)
    refine ⟨f a ++ [c] ++ w, d, ?_, hd⟩
    simp only [List.map_cons, List.intercalate_cons_cons] at hw ⊢
    rw [hw]
    simp only [List.append_assoc]

end Text

theorem minus_not_mem_Itoa {n : Int} (h₀ : 0 ≤ n) : '-' ∉ Itoa n := fun h => by
  have := isDigit_of_mem_Itoa h₀ h
  contradiction

theorem comma_not_mem_range_text {r : Int × Int} (h₁ : 0 ≤ r.1) (h₂ : 0 ≤ r.2) :
    ',' ∉ range_text r := by
  intro h
  unfold range_text at h
  split_ifs at h
  · have := isDigit_of_mem_Itoa h₁ h
    contradiction
  · rcases List.mem_append.mp h with h | h
    · have := isDigit_of_mem_Itoa h₁ h
      contradiction
    · rcases List.mem_cons.mp h with h | h
      · cases h
      · have := isDigit_of_mem_Itoa h₂ h
        contradiction

/-- A run's text ends in a digit. -/
theorem range_text_ends {r : Int × Int} (h₁ : 0 ≤ r.1) (h₂ : 0 ≤ r.2) :
    ∃ w d, range_text r = w ++ [d] ∧ d ≠ ',' := by
  have hlast : ∀ n : Int, 0 ≤ n → ∃ w d, Itoa n = w ++ [d] ∧ d ≠ ',' := by
    intro n hn
    rcases List.eq_nil_or_concat (Itoa n) with h | ⟨w, d, h⟩
    · rw [Itoa_of_nonneg hn] at h
      exact absurd h Nat.toDigits_ne_nil
    · rw [List.concat_eq_append] at h
      refine ⟨w, d, h, fun hd => ?_⟩
      have hmem : ',' ∈ Itoa n := by
        rw [h, ← hd]
        exact List.mem_append_right w List.mem_cons_self
      have := isDigit_of_mem_Itoa hn hmem
      contradiction
  unfold range_text
  split_ifs
  · exact hlast r.1 h₁
  · obtain ⟨w, d, hw, hd⟩ := hlast r.2 h₂
    exact ⟨Itoa r.1 ++ '-' :: w, d, by rw [hw]; simp, hd⟩

/-- `String` joins the texts of the runs with `,`. -/
theorem Canonical.mem_of_run {S : Finset Int} {ranges : List (Int × Int)} (hc : Canonical S ranges)
    {r : Int × Int} (hr : r ∈ ranges) : r.1 ∈ S ∧ r.2 ∈ S :=
  ⟨(hc.covers _).mpr ⟨r, hr, le_rfl, hc.ordered r hr⟩,
    (hc.covers _).mpr ⟨r, hr, hc.ordered r hr, le_rfl⟩⟩

/-- `String` joins the texts of the runs with `,`. -/
theorem String_eq (S : CPUSet) (hS : ∀ x ∈ S.elems, 0 ≤ x ∧ x ≤ MaxInt) :
    S.String = [','].intercalate (S.ranges.map range_text) := by
  have hc := ranges_canonical S fun x hx => (hS x hx).2
  by_cases he : S.elems = ∅
  · rw [CPUSet.String, if_pos (by simp [CPUSet.IsEmpty, he]), ranges_eq_nil_iff.mpr he]
    rfl
  · have hne : S.ranges ≠ [] := fun h => he (ranges_eq_nil_iff.mp h)
    -- the trailing `,` goes, and the last run's text ends in a digit
    obtain ⟨w, d, hw, hd⟩ := intercalate_ends range_text ',' hne fun r hr =>
      range_text_ends (hS _ (hc.mem_of_run hr).1).1 (hS _ (hc.mem_of_run hr).2).1
    rw [CPUSet.String, if_neg (by simpa [CPUSet.IsEmpty] using he),
      flatMap_append_sep range_text ',' hne, List.rdropWhile_concat_pos _ _ _ (by decide), hw,
      List.rdropWhile_concat_neg _ _ _ (by simpa using hd)]

/-! ## Reading back what `String` writes -/

/-- The runs `String` prints: non-negative `int`s, each run a range. -/
def Printable (ranges : List (Int × Int)) : Prop :=
  ∀ r ∈ ranges, 0 ≤ r.1 ∧ r.1 ≤ r.2 ∧ r.2 ≤ MaxInt

/-- One run read back: the loop of a range, or the one element. -/
theorem parse_ranges_run {fuel : Nat} {r : Int × Int} {ranges : List (List Char)}
    {b : Finset Int} (hr : 0 ≤ r.1 ∧ r.1 ≤ r.2 ∧ r.2 ≤ MaxInt) :
    parse_ranges fuel (range_text r :: ranges) b =
      if r.1 = r.2 then parse_ranges fuel ranges (insert r.1 b)
      else (add_range fuel r.1 r.2 b).bind fun b => parse_ranges fuel ranges b := by
  obtain ⟨h₀, h₁, h₂⟩ := hr
  unfold range_text
  split_ifs with h
  · exact parse_ranges_single (minus_not_mem_Itoa h₀) (Atoi_Itoa h₀ (by omega))
  · exact parse_ranges_range (minus_not_mem_Itoa h₀) (minus_not_mem_Itoa (by omega))
      (Atoi_Itoa h₀ (by omega)) (Atoi_Itoa (by omega) h₂)

/-- With no run of two elements or more up to `MaxInt`, and fuel for the longest, the runs are
read back. -/
theorem parse_ranges_printed (fuel : Nat) : ∀ (ranges : List (Int × Int)) (b : Finset Int),
    Printable ranges → (∀ r ∈ ranges, r.1 < r.2 → r.2 < MaxInt ∧ (r.2 + 1 - r.1).toNat < fuel) →
      ∃ b', parse_ranges fuel (ranges.map range_text) b = some (⟨b'⟩, none) ∧
        ∀ x, x ∈ b' ↔ x ∈ b ∨ ∃ r ∈ ranges, r.1 ≤ x ∧ x ≤ r.2
  | [], b, _, _ => ⟨b, rfl, by simp⟩
  | r :: ranges, b, hp, hfuel => by
    have hr := hp r List.mem_cons_self
    have hp' : Printable ranges := fun r' hr' => hp r' (List.mem_cons_of_mem r hr')
    have hfuel' := fun r' hr' => hfuel r' (List.mem_cons_of_mem r hr')
    rw [List.map_cons, parse_ranges_run hr]
    simp only [List.mem_cons, or_and_right, exists_or, exists_eq_left]
    split_ifs with h
    · -- a run of one element
      obtain ⟨b', hb', hmem⟩ := parse_ranges_printed fuel ranges (insert r.1 b) hp' hfuel'
      refine ⟨b', hb', fun x => ?_⟩
      rw [hmem x, Finset.mem_insert]
      constructor
      · rintro ((rfl | hx) | hx)
        · exact Or.inr (Or.inl ⟨le_rfl, by omega⟩)
        · exact Or.inl hx
        · exact Or.inr (Or.inr hx)
      · rintro (hx | ⟨hx₁, hx₂⟩ | hx)
        · exact Or.inl (Or.inr hx)
        · exact Or.inl (Or.inl (by omega))
        · exact Or.inr hx
    · -- a range, then the runs after it
      obtain ⟨hlt, hf⟩ := hfuel r List.mem_cons_self (by omega)
      obtain ⟨b₁, hb₁, hmem₁⟩ := add_range_spec fuel r.1 r.2 b hlt hf
      obtain ⟨b', hb', hmem⟩ := parse_ranges_printed fuel ranges b₁ hp' hfuel'
      refine ⟨b', by rw [hb₁, Option.bind_some, hb'], fun x => ?_⟩
      rw [hmem x, hmem₁ x]
      simp only [or_assoc]

/-- A run of two elements or more up to `MaxInt` sends `Parse` into its endless loop, whatever the
fuel. -/
theorem parse_ranges_printed_hangs (fuel : Nat) : ∀ (ranges : List (Int × Int)) (b : Finset Int),
    Printable ranges → (∃ r ∈ ranges, r.1 < r.2 ∧ r.2 = MaxInt) →
      parse_ranges fuel (ranges.map range_text) b = none
  | [], _, _, ⟨_, hr, _⟩ => absurd hr List.not_mem_nil
  | r :: ranges, b, hp, ⟨r', hr', hlt, hend⟩ => by
    have hr := hp r List.mem_cons_self
    have hp' : Printable ranges := fun r' hr' => hp r' (List.mem_cons_of_mem r hr')
    rw [List.map_cons, parse_ranges_run hr]
    rcases List.mem_cons.mp hr' with rfl | hr'
    · -- the range up to `MaxInt`
      rw [if_neg (Int.ne_of_lt hlt), hend, add_range_MaxInt fuel _ b (by omega), Option.bind_none]
    · -- the range is further on
      have hrest := parse_ranges_printed_hangs fuel ranges
      split_ifs
      · exact hrest _ hp' ⟨r', hr', hlt, hend⟩
      · cases add_range fuel r.1 r.2 b with
        | none => rfl
        | some b₁ => exact hrest b₁ hp' ⟨r', hr', hlt, hend⟩

/-- `String` and `Parse` on a set of non-negative `int`s: the runs printed are canonical and each
is printed as `N` or `N-M`; `Parse` reads the text back to the set, unless the set holds both
`MaxInt - 1` and `MaxInt`, whose run `Parse` never finishes reading. -/
theorem String_Parse (S : CPUSet) (hS : ∀ x ∈ S.elems, 0 ≤ x ∧ x ≤ MaxInt) :
    Canonical S.elems S.ranges ∧ S.String = [','].intercalate (S.ranges.map range_text) ∧
      (¬ (MaxInt - 1 ∈ S.elems ∧ MaxInt ∈ S.elems) → ∃ fuel, Parse fuel S.String = some (S, none)) ∧
      (MaxInt - 1 ∈ S.elems ∧ MaxInt ∈ S.elems → ∀ fuel, Parse fuel S.String = none) := by
  have hc := ranges_canonical S fun x hx => (hS x hx).2
  have hstr := String_eq S hS
  have hp : Printable S.ranges := fun r hr =>
    ⟨(hS _ (hc.mem_of_run hr).1).1, hc.ordered r hr, (hS _ (hc.mem_of_run hr).2).2⟩
  have hrun := exists_run_to_MaxInt_iff hc fun x hx => (hS x hx).2
  -- `Parse` splits the text back into the runs' texts
  have hsplit : S.ranges ≠ [] → S.String.splitOn ',' = S.ranges.map range_text := fun hne => by
    rw [hstr]
    refine List.splitOn_intercalate ',' (fun l hl => ?_) (by simpa using hne)
    obtain ⟨r, hr, rfl⟩ := List.mem_map.mp hl
    exact comma_not_mem_range_text (hp r hr).1 (by have := hp r hr; omega)
  have hparse : S.ranges ≠ [] → ∀ fuel,
      Parse fuel S.String = parse_ranges fuel (S.ranges.map range_text) ∅ := fun hne fuel => by
    have hnil : S.String ≠ [] := by
      intro h
      have := hsplit hne
      rw [h] at this
      obtain ⟨r, hr⟩ := List.exists_mem_of_ne_nil _ hne
      have hmem : range_text r ∈ S.ranges.map range_text := List.mem_map_of_mem hr
      rw [← this] at hmem
      obtain ⟨w, d, hw, -⟩ := range_text_ends (hp r hr).1 (by have := hp r hr; omega)
      simp only [List.splitOn_nil, List.mem_singleton] at hmem
      rw [hw] at hmem
      simp at hmem
    rw [Parse, if_neg hnil, hsplit hne]
  refine ⟨hc, hstr, fun hno => ?_, fun hyes fuel => ?_⟩
  · by_cases he : S.ranges = []
    · refine ⟨0, ?_⟩
      have hempty := ranges_eq_nil_iff.mp he
      rw [hstr, he, Parse]
      simp only [List.map_nil, List.intercalate_nil, if_true]
      rw [← hempty]
    · -- enough fuel for any range of `int`s
      refine ⟨2 ^ 64, ?_⟩
      obtain ⟨b', hb', hmem⟩ := parse_ranges_printed (2 ^ 64) S.ranges ∅ hp fun r hr hlt => by
        have hp₁ := hp r hr
        refine ⟨?_, by simp only [MaxInt] at hp₁; omega⟩
        rcases Int.lt_or_eq_of_le hp₁.2.2 with h | h
        · exact h
        · exact absurd (hrun.mp ⟨r, hr, hlt, h⟩) hno
      rw [hparse he, hb']
      congr
      ext x
      rw [hmem x, hc.covers x]
      simp
  · have he : S.ranges ≠ [] := by
      intro h
      rw [ranges_eq_nil_iff.mp h] at hyes
      simp at hyes
    rw [hparse he]
    exact parse_ranges_printed_hangs fuel S.ranges ∅ hp (hrun.mpr hyes)


/-- The two `int`s of the last run of `{MaxInt - 1, MaxInt}`. -/
theorem String_Parse_top_run :
    (∀ x ∈ ({MaxInt - 1, MaxInt} : Finset Int), 0 ≤ x ∧ x ≤ MaxInt) ∧
      (Canonical ({MaxInt - 1, MaxInt} : Finset Int) (CPUSet.ranges ⟨{MaxInt - 1, MaxInt}⟩) ∧
        CPUSet.String ⟨{MaxInt - 1, MaxInt}⟩ =
          [','].intercalate ((CPUSet.ranges ⟨{MaxInt - 1, MaxInt}⟩).map range_text) ∧
        (¬ (MaxInt - 1 ∈ ({MaxInt - 1, MaxInt} : Finset Int) ∧
            MaxInt ∈ ({MaxInt - 1, MaxInt} : Finset Int)) →
          ∃ fuel, Parse fuel (CPUSet.String ⟨{MaxInt - 1, MaxInt}⟩) =
            some (⟨{MaxInt - 1, MaxInt}⟩, none)) ∧
        (MaxInt - 1 ∈ ({MaxInt - 1, MaxInt} : Finset Int) ∧
            MaxInt ∈ ({MaxInt - 1, MaxInt} : Finset Int) →
          ∀ fuel, Parse fuel (CPUSet.String ⟨{MaxInt - 1, MaxInt}⟩) = none)) := by
  have hS : ∀ x ∈ ({MaxInt - 1, MaxInt} : Finset Int), 0 ≤ x ∧ x ≤ MaxInt := by decide
  exact ⟨hS, String_Parse ⟨{MaxInt - 1, MaxInt}⟩ hS⟩

/-! ## Lists outside the grammar -/

theorem splitOn_three_fields {a b c : List Char} :
    3 ≤ (((a ++ '-' :: b) ++ '-' :: c).splitOn '-').length := by
  rw [List.append_assoc, List.cons_append, List.splitOn_append_cons_self,
    List.splitOn_append_cons_self, List.length_append, List.length_append]
  have ha := List.length_pos_of_ne_nil (List.splitOn_ne_nil '-' a)
  have hb := List.length_pos_of_ne_nil (List.splitOn_ne_nil '-' b)
  have hc := List.length_pos_of_ne_nil (List.splitOn_ne_nil '-' c)
  omega

/-- An item `N-M` read by `Parse`: its two numerals and the range loop. -/
theorem Parse_range {fuel n m : Nat} (hn : (n : Int) ≤ MaxInt) (hm : (m : Int) ≤ MaxInt) :
    Parse fuel (Nat.toDigits 10 n ++ '-' :: Nat.toDigits 10 m) =
      (add_range fuel n m ∅).bind fun b => some (⟨b⟩, none) := by
  have hcomma : ',' ∉ Nat.toDigits 10 n ++ '-' :: Nat.toDigits 10 m := by
    simp only [List.mem_append, List.mem_cons, not_or]
    exact ⟨not_mem_toDigits rfl, by decide, not_mem_toDigits rfl⟩
  rw [Parse, if_neg (by simp), List.splitOn_eq_singleton hcomma,
    parse_ranges_range (not_mem_toDigits rfl) (not_mem_toDigits rfl) (Atoi_toDigits hn)
      (Atoi_toDigits hm)]
  rfl

/-- `Parse` accepts, with a nil error and no element, an item of three fields or more and a
reversed range; and it never finishes a range up to `MaxInt`. -/
theorem Parse_skips_and_hangs :
    (∀ a b c : List Char, ',' ∉ a → ',' ∉ b → ',' ∉ c → ∀ fuel,
      Parse fuel ((a ++ '-' :: b) ++ '-' :: c) = some (⟨∅⟩, none)) ∧
    (∀ n m : Nat, m < n → (n : Int) ≤ MaxInt → ∀ fuel,
      Parse (fuel + 1) (Nat.toDigits 10 n ++ '-' :: Nat.toDigits 10 m) = some (⟨∅⟩, none)) ∧
    (∀ n : Nat, (n : Int) ≤ MaxInt → ∀ fuel,
      Parse fuel (Nat.toDigits 10 n ++ '-' :: Nat.toDigits 10 MaxInt.toNat) = none) := by
  have hmax : ((MaxInt.toNat : Nat) : Int) = MaxInt := by decide
  refine ⟨fun a b c ha hb hc fuel => ?_, fun n m hmn hn fuel => ?_, fun n hn fuel => ?_⟩
  · -- one item, of three fields
    have hcomma : ',' ∉ (a ++ '-' :: b) ++ '-' :: c := by
      simp only [List.mem_append, List.mem_cons, not_or]
      exact ⟨⟨ha, by decide, hb⟩, by decide, hc⟩
    rw [Parse, if_neg (by simp), List.splitOn_eq_singleton hcomma,
      parse_ranges_skip splitOn_three_fields]
    rfl
  · rw [Parse_range hn (by omega), add_range_of_lt ∅ (by omega)]
    rfl
  · rw [Parse_range hn (by omega), hmax, add_range_MaxInt fuel _ ∅ hn]
    rfl

/-- `"1-2-3"` and `"3-1"` are read as the empty set with no error, and `Parse` never returns on
`"0-9223372036854775807"`. -/
theorem Parse_skips_and_hangs_examples :
    Parse 1 ['1', '-', '2', '-', '3'] = some (⟨∅⟩, none) ∧
      Parse 1 ['3', '-', '1'] = some (⟨∅⟩, none) ∧
      ∀ fuel, Parse fuel (Nat.toDigits 10 0 ++ '-' :: Nat.toDigits 10 MaxInt.toNat) = none := by
  obtain ⟨hskip, hrev, hhang⟩ := Parse_skips_and_hangs
  exact ⟨hskip ['1'] ['2'] ['3'] (by decide) (by decide) (by decide) 1,
    hrev 3 1 (by decide) (by decide) 0, hhang 0 (by decide)⟩

end KataContainers.Runtime.Cpuset