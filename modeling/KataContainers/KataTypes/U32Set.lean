import KataContainers.Runtime.CpuResources
import KataContainers.Lib.Except
import KataContainers.Lib.List

/-!
# Sets of `u32` ids

Model of `U32Set` in `src/libs/kata-types/src/utils/u32_set.rs`, the vector of CPU or NUMA node
ids that `LinuxContainerCpuResources::try_from` reads from the `cpus` and `mems` lists of an OCI
spec. Every constructor and mutator ends with `sort_unstable` and `dedup` (`sort_dedup`), which
leaves the ids strictly increasing and keeps which ids are there (`sort_dedup_spec`).

`from_str` pushes the ids of each comma-separated item, a number or a range `N-M` with `N < M`,
as `str::parse::<u32>` reads the numbers (`U32Numeral`: decimal digits after an optional `+`),
and fails on any other item. `from_str_spec` gives when it succeeds and what the set is, and
`from_str_toFinset` relates it to the set of ids that `Runtime.CpuResources` works with.
-/

namespace KataContainers.KataTypes

open Runtime.CpuResources (KataError parse_u32)

/-- `U32Set`: a vector of ids. -/
structure U32Set where
  ids : List Nat
  deriving DecidableEq, Repr

/-- `sort_unstable` and then `dedup` of a vector of ids. -/
def sort_dedup (v : List Nat) : List Nat := (v.mergeSort).destutter (· ≠ ·)

namespace U32Set

/-- `U32Set::new`. -/
def new : U32Set := ⟨[]⟩

/-- `U32Set::add`. -/
def add (s : U32Set) (cpu : Nat) : U32Set := ⟨sort_dedup (s.ids ++ [cpu])⟩

/-- `U32Set::extend`. -/
def extend (s : U32Set) (cpus : List Nat) : U32Set := ⟨sort_dedup (s.ids ++ cpus)⟩

/-- `From<Vec<u32>>::from`. -/
def from_vec (cpus : List Nat) : U32Set := ⟨sort_dedup cpus⟩

/-- One turn of the loop of `from_str`: the ids of the item `split_cpu` pushed onto `cpus`. -/
def push_item (cpus_str : String) (cpus : List Nat) (split_cpu : List Char) :
    Except KataError (List Nat) :=
  if !split_cpu.contains '-' then
    if !split_cpu.isEmpty then
      match parse_u32 split_cpu with
      | some cpu_id => .ok (cpus ++ [cpu_id])
      | none => .error (.InvalidList cpus_str)
    else .error (.InvalidList cpus_str)
  else
    match split_cpu.splitOn '-' with
    | [start, end_] =>
      match parse_u32 start, parse_u32 end_ with
      | some start, some end_ =>
        if start < end_ then .ok (cpus ++ List.range' start (end_ + 1 - start))
        else .error (.InvalidList cpus_str)
      | _, _ => .error (.InvalidList cpus_str)
    | _ => .error (.InvalidList cpus_str)

/-- `FromStr::from_str`. -/
def from_str (cpus_str : String) : Except KataError U32Set :=
  if cpus_str.isEmpty then .ok new
  else do
    let cpus ← (cpus_str.toList.splitOn ',').foldlM (push_item cpus_str) []
    .ok (from_vec cpus)

end U32Set

/-! ## Sorted without repeats -/

/-- `sort_dedup` leaves the ids strictly increasing, and the same ids. -/
theorem sort_dedup_spec (v : List Nat) :
    (sort_dedup v).Pairwise (· < ·) ∧ ∀ x, x ∈ sort_dedup v ↔ x ∈ v := by
  have hsorted : v.mergeSort.Pairwise fun a b => a ≤ b := by
    have h : (v.mergeSort fun a b => decide (a ≤ b)).Pairwise fun a b => decide (a ≤ b) = true :=
      List.pairwise_mergeSort (fun a b c hab hbc => by simp only [decide_eq_true_eq] at *; omega)
        (fun a b => by simp only [Bool.or_eq_true, decide_eq_true_eq]; omega) v
    exact h.imp fun hab => by simpa using hab
  -- on a sorted list, removing repeated neighbours removes every repeat
  have hdedup : sort_dedup v = v.mergeSort.dedup := hsorted.destutter_eq_dedup
  rw [hdedup]
  refine ⟨?_, fun x => by rw [List.mem_dedup, List.mem_mergeSort]⟩
  have hle := hsorted.sublist (List.dedup_sublist _)
  have hne := List.nodup_dedup v.mergeSort
  exact (hle.and hne).imp fun ⟨h₁, h₂⟩ => Nat.lt_of_le_of_ne h₁ h₂

theorem new_ids_pairwise : U32Set.new.ids.Pairwise (· < ·) := List.Pairwise.nil

/-! ## Numerals and items -/

/-- A `u32` as `str::parse::<u32>` reads it: decimal digits after an optional `+`, of value below
`2 ^ 32`. -/
def U32Numeral (s : List Char) (n : Nat) : Prop :=
  ∃ ds, (s = ds ∨ s = '+' :: ds) ∧ ds ≠ [] ∧ (∀ c ∈ ds, c.isDigit = true) ∧
    Nat.ofDigitChars 10 ds 0 = n ∧ n < 2 ^ 32

/-- The digits of a numeral, read as `parse_u32` reads them. -/
theorem parse_digits_eq_some_iff {ds : List Char} {n : Nat} :
    (if ds.isEmpty || !ds.all Char.isDigit then none
      else if ds.foldl (fun n d => 10 * n + Runtime.SandboxResources.digitValue d) 0 < 2 ^ 32 then
        some (ds.foldl (fun n d => 10 * n + Runtime.SandboxResources.digitValue d) 0)
      else none) = some n ↔
      ds ≠ [] ∧ (∀ c ∈ ds, c.isDigit = true) ∧ Nat.ofDigitChars 10 ds 0 = n ∧ n < 2 ^ 32 := by
  have hfold : ds.foldl (fun n d => 10 * n + Runtime.SandboxResources.digitValue d) 0 =
      Nat.ofDigitChars 10 ds 0 := rfl
  rw [hfold]
  cases hemp : ds.isEmpty with
  | true =>
    have hnil : ds = [] := List.isEmpty_iff.mp hemp
    simp [hnil]
  | false =>
    have hne : ds ≠ [] := fun h => by rw [h] at hemp; cases hemp
    cases hall : ds.all Char.isDigit with
    | false =>
      -- a character that is no digit
      have hbad : ¬ ∀ c ∈ ds, c.isDigit = true := fun h => by
        rw [List.all_eq_true.mpr h] at hall
        cases hall
      simp only [Bool.not_false, Bool.or_true, if_true, reduceCtorEq, false_iff, not_and]
      exact fun _ h => absurd h hbad
    | true =>
      simp only [Bool.not_true, Bool.or_false, Bool.false_eq_true, if_false]
      have hdigits := List.all_eq_true.mp hall
      split_ifs with hlt
      · simp only [Option.some.injEq]
        exact ⟨fun h => ⟨hne, hdigits, h, h ▸ hlt⟩, fun h => h.2.2.1⟩
      · simp only [false_iff, not_and]
        intro _ _ h
        omega

theorem parse_u32_eq_some_iff {s : List Char} {n : Nat} :
    parse_u32 s = some n ↔ U32Numeral s n := by
  have hplus : '+'.isDigit = false := by decide
  unfold parse_u32 U32Numeral
  split
  · -- `+` and the digits
    rename_i ds
    rw [parse_digits_eq_some_iff]
    constructor
    · intro h
      exact ⟨ds, Or.inr rfl, h⟩
    · rintro ⟨ds', hs | hs, h⟩
      · obtain ⟨-, hall, -⟩ := h
        have h' := hall '+' (by rw [← hs]; exact List.mem_cons_self)
        rw [h'] at hplus
        cases hplus
      · cases hs
        exact h
  · -- no `+`
    rename_i hs
    rw [parse_digits_eq_some_iff]
    constructor
    · intro h
      exact ⟨s, Or.inl rfl, h⟩
    · rintro ⟨ds', rfl | hs', h⟩
      · exact h
      · exact absurd hs' (hs ds')

theorem U32Numeral.minus_not_mem {s : List Char} {n : Nat} (h : U32Numeral s n) : '-' ∉ s := by
  obtain ⟨ds, hs, -, hall, -⟩ := h
  have hminus : '-'.isDigit = false := by decide
  intro hmem
  rcases hs with rfl | rfl
  · rw [hall '-' hmem] at hminus
    cases hminus
  · rcases List.mem_cons.mp hmem with h | h
    · exact absurd h (by decide)
    · rw [hall '-' h] at hminus
      cases hminus

theorem U32Numeral.ne_nil {s : List Char} {n : Nat} (h : U32Numeral s n) : s ≠ [] := by
  obtain ⟨ds, hs | hs, hne, -⟩ := h
  · rw [hs]
    exact hne
  · rw [hs]
    exact List.cons_ne_nil _ _

/-- The item `item` of a list stands for the ids `n` to `m`: it is a numeral `n` (and `m = n`), or
a range `N-M` of two numerals with `n < m`. -/
def ItemOf (item : List Char) (n m : Nat) : Prop :=
  (U32Numeral item n ∧ m = n) ∨
    ∃ a b, item = a ++ '-' :: b ∧ U32Numeral a n ∧ U32Numeral b m ∧ n < m

theorem ItemOf.le {item : List Char} {n m : Nat} (h : ItemOf item n m) : n ≤ m := by
  rcases h with ⟨-, rfl⟩ | ⟨-, -, -, -, -, hlt⟩
  · exact Nat.le_refl _
  · exact Nat.le_of_lt hlt

theorem not_ItemOf_nil {n m : Nat} : ¬ ItemOf [] n m := by
  rintro (⟨hn, -⟩ | ⟨a, b, h, -⟩)
  · exact hn.ne_nil rfl
  · simp at h

/-- The ids pushed for the range `n` to `m`. -/
theorem mem_range'_iff {n m x : Nat} (hle : n ≤ m) :
    x ∈ List.range' n (m + 1 - n) ↔ n ≤ x ∧ x ≤ m := by
  rw [List.mem_range'_1]
  omega

/-! ## One item -/

section Items

variable {cpus_str : String} {cpus : List Nat} {item : List Char} {n m : Nat}

/-- An item that stands for `n` to `m` pushes those ids. -/
theorem push_item_of_ItemOf (h : ItemOf item n m) :
    U32Set.push_item cpus_str cpus item = .ok (cpus ++ List.range' n (m + 1 - n)) := by
  rcases h with ⟨hn, rfl⟩ | ⟨a, b, rfl, ha, hb, hlt⟩
  · -- a number: no `-`, not empty
    have hcontains : item.contains '-' = false := by simpa using hn.minus_not_mem
    have hempty : item.isEmpty = false := by simpa using hn.ne_nil
    rw [U32Set.push_item, hcontains, hempty, parse_u32_eq_some_iff.mpr hn]
    simp
  · -- a range: two fields around the one `-`
    have hcontains : (a ++ '-' :: b).contains '-' = true := by simp
    rw [U32Set.push_item, hcontains,
      List.splitOn_append_cons_of_not_mem ha.minus_not_mem hb.minus_not_mem]
    simp [parse_u32_eq_some_iff.mpr ha, parse_u32_eq_some_iff.mpr hb, hlt]

/-- An item stands for one range only: the one `push_item` pushes. -/
theorem ItemOf.unique {n' m' : Nat} (h : ItemOf item n m) (h' : ItemOf item n' m') :
    n' = n ∧ m' = m := by
  have h₁ : U32Set.push_item "" [] item = .ok ([] ++ List.range' n (m + 1 - n)) :=
    push_item_of_ItemOf h
  have h₂ : U32Set.push_item "" [] item = .ok ([] ++ List.range' n' (m' + 1 - n')) :=
    push_item_of_ItemOf h'
  have hpush := h₁.symm.trans h₂
  have hle := h.le
  have hle' := h'.le
  simp only [List.nil_append, Except.ok.injEq, List.range'_inj] at hpush
  omega

/-- What a successful item pushes: the ids it stands for. -/
theorem push_item_eq_ok {cpus' : List Nat} (h : U32Set.push_item cpus_str cpus item = .ok cpus') :
    ∃ n m, ItemOf item n m ∧ cpus' = cpus ++ List.range' n (m + 1 - n) := by
  unfold U32Set.push_item at h
  split at h
  · -- no `-`: a number
    split at h
    · split at h
      · rename_i n hn
        cases h
        exact ⟨n, n, .inl ⟨parse_u32_eq_some_iff.mp hn, rfl⟩, by simp⟩
      · cases h
    · cases h
  · -- a `-`: a range of two fields
    split at h
    · rename_i start end_ hsplit
      split at h
      · rename_i s e hs he
        split at h
        · rename_i hlt
          cases h
          refine ⟨s, e, .inr ⟨start, end_, List.eq_append_cons_of_splitOn_eq_pair hsplit,
            parse_u32_eq_some_iff.mp hs, parse_u32_eq_some_iff.mp he, hlt⟩, rfl⟩
        · cases h
      · cases h
    · cases h

/-- Every failing item throws the one error, on the whole list. -/
theorem push_item_eq_error {e : KataError} (h : U32Set.push_item cpus_str cpus item = .error e) :
    e = .InvalidList cpus_str := by
  unfold U32Set.push_item at h
  repeat' split at h
  all_goals cases h
  all_goals rfl

end Items

/-! ## The loop over the items -/

section Loop

variable {cpus_str : String}

/-- What the ranges of the items hold: the ids some item stands for. -/
theorem ItemOf.covers_iff {item : List Char} {n m x : Nat} (h : ItemOf item n m) :
    (∃ n' m', ItemOf item n' m' ∧ n' ≤ x ∧ x ≤ m') ↔ n ≤ x ∧ x ≤ m := by
  constructor
  · rintro ⟨n', m', h', hx⟩
    obtain ⟨rfl, rfl⟩ := h.unique h'
    exact hx
  · intro hx
    exact ⟨n, m, h, hx⟩

/-- A successful loop: every item stands for a range, and the ids pushed are those of the
ranges. -/
theorem foldlM_push_item_eq_ok (items : List (List Char)) (cpus : List Nat) {cpus' : List Nat}
    (h : items.foldlM (U32Set.push_item cpus_str) cpus = .ok cpus') :
    (∀ item ∈ items, ∃ n m, ItemOf item n m) ∧
      ∀ x, x ∈ cpus' ↔ x ∈ cpus ∨ ∃ item ∈ items, ∃ n m, ItemOf item n m ∧ n ≤ x ∧ x ≤ m := by
  induction items generalizing cpus with
  | nil =>
    simp only [List.foldlM_nil, Except.pure_eq_ok, Except.ok.injEq] at h
    subst h
    simp
  | cons item items ih =>
    rw [List.foldlM_cons] at h
    obtain ⟨c, hc, h⟩ := Except.bind_eq_ok_iff.mp h
    obtain ⟨n, m, hnm, rfl⟩ := push_item_eq_ok hc
    obtain ⟨hall, hmem⟩ := ih _ h
    refine ⟨List.forall_mem_cons.mpr ⟨⟨n, m, hnm⟩, hall⟩, fun x => ?_⟩
    rw [hmem, List.mem_append, mem_range'_iff hnm.le, ← hnm.covers_iff]
    simp only [List.mem_cons, or_and_right, exists_or, exists_eq_left, or_assoc]

/-- The loop succeeds when every item stands for a range. -/
theorem foldlM_push_item_of_forall (items : List (List Char)) (cpus : List Nat)
    (h : ∀ item ∈ items, ∃ n m, ItemOf item n m) :
    ∃ cpus', items.foldlM (U32Set.push_item cpus_str) cpus = .ok cpus' := by
  induction items generalizing cpus with
  | nil => exact ⟨cpus, rfl⟩
  | cons item items ih =>
    obtain ⟨⟨n, m, hnm⟩, hall⟩ := List.forall_mem_cons.mp h
    rw [List.foldlM_cons, push_item_of_ItemOf hnm, Except.ok_bind_eq]
    exact ih _ hall

theorem foldlM_push_item_eq_error (items : List (List Char)) (cpus : List Nat) {e : KataError}
    (h : items.foldlM (U32Set.push_item cpus_str) cpus = .error e) : e = .InvalidList cpus_str := by
  induction items generalizing cpus with
  | nil => cases h
  | cons item items ih =>
    rw [List.foldlM_cons] at h
    cases hc : U32Set.push_item cpus_str cpus item with
    | error e' =>
      rw [hc, Except.error_bind_eq] at h
      cases h
      exact push_item_eq_error hc
    | ok c =>
      rw [hc, Except.ok_bind_eq] at h
      exact ih c h

end Loop

/-! ## `from_str` and the mutators -/

theorem from_vec_spec (cpus : List Nat) :
    (U32Set.from_vec cpus).ids.Pairwise (· < ·) ∧ ∀ x, x ∈ (U32Set.from_vec cpus).ids ↔ x ∈ cpus :=
  sort_dedup_spec cpus

theorem add_spec (s : U32Set) (cpu : Nat) :
    (s.add cpu).ids.Pairwise (· < ·) ∧ ∀ x, x ∈ (s.add cpu).ids ↔ x ∈ s.ids ∨ x = cpu := by
  obtain ⟨hsorted, hmem⟩ := sort_dedup_spec (s.ids ++ [cpu])
  refine ⟨hsorted, fun x => ?_⟩
  rw [U32Set.add, hmem, List.mem_append, List.mem_singleton]

theorem extend_spec (s : U32Set) (cpus : List Nat) :
    (s.extend cpus).ids.Pairwise (· < ·) ∧ ∀ x, x ∈ (s.extend cpus).ids ↔ x ∈ s.ids ∨ x ∈ cpus := by
  obtain ⟨hsorted, hmem⟩ := sort_dedup_spec (s.ids ++ cpus)
  refine ⟨hsorted, fun x => ?_⟩
  rw [U32Set.extend, hmem, List.mem_append]

/-- `from_str` of a list that is not empty: the loop over its items, then `from`. -/
theorem from_str_of_ne {cpus_str : String} (hs : cpus_str ≠ "") :
    U32Set.from_str cpus_str = ((cpus_str.toList.splitOn ',').foldlM (U32Set.push_item cpus_str) []
      >>= fun cpus => .ok (U32Set.from_vec cpus)) := by
  have hempty : cpus_str.isEmpty = false := by simpa [String.isEmpty_iff] using hs
  rw [U32Set.from_str, hempty]
  rfl

/-- `from_str` succeeds exactly on the empty list and on lists whose every item stands for a
range; the set is then strictly increasing and holds the ids that some item stands for. Every
error names the whole list. -/
theorem from_str_spec (s : String) :
    ((∃ set, U32Set.from_str s = .ok set) ↔
      s = "" ∨ ∀ item ∈ s.toList.splitOn ',', ∃ n m, ItemOf item n m) ∧
    (∀ set, U32Set.from_str s = .ok set → set.ids.Pairwise (· < ·) ∧
      ∀ x, x ∈ set.ids ↔ ∃ item ∈ s.toList.splitOn ',', ∃ n m, ItemOf item n m ∧ n ≤ x ∧ x ≤ m) ∧
    ∀ e, U32Set.from_str s = .error e → e = .InvalidList s := by
  by_cases hs : s = ""
  · -- the empty list: the empty set, and its one item stands for nothing
    subst hs
    have hnew : U32Set.from_str "" = .ok U32Set.new := rfl
    refine ⟨⟨fun _ => .inl rfl, fun _ => ⟨_, hnew⟩⟩, fun set h => ?_, fun e h => ?_⟩
    · rw [hnew, Except.ok.injEq] at h
      subst h
      refine ⟨new_ids_pairwise, fun x => ?_⟩
      simp [U32Set.new, not_ItemOf_nil]
    · rw [hnew] at h
      cases h
  · rw [from_str_of_ne hs]
    refine ⟨⟨fun ⟨set, h⟩ => ?_, fun h => ?_⟩, fun set h => ?_, fun e h => ?_⟩
    · obtain ⟨cpus, hcpus, -⟩ := Except.bind_eq_ok_iff.mp h
      exact .inr (foldlM_push_item_eq_ok _ _ hcpus).1
    · obtain ⟨cpus, hcpus⟩ := foldlM_push_item_of_forall _ [] (h.resolve_left hs)
      exact ⟨_, by rw [hcpus, Except.ok_bind_eq]⟩
    · obtain ⟨cpus, hcpus, h⟩ := Except.bind_eq_ok_iff.mp h
      rw [Except.ok.injEq] at h
      subst h
      obtain ⟨hsorted, hmem⟩ := from_vec_spec cpus
      refine ⟨hsorted, fun x => ?_⟩
      rw [hmem, (foldlM_push_item_eq_ok _ _ hcpus).2]
      simp
    · cases hcpus : (s.toList.splitOn ',').foldlM (U32Set.push_item s) [] with
      | error e' =>
        rw [hcpus, Except.error_bind_eq] at h
        cases h
        exact foldlM_push_item_eq_error _ _ hcpus
      | ok cpus =>
        rw [hcpus, Except.ok_bind_eq] at h
        cases h

/-- `from_str` accepts exactly the empty list and the lists whose every item stands for a range,
and then gives the ids of the ranges strictly increasing; `new`, `from`, `add` and `extend` give
strictly increasing ids too. -/
theorem from_str_and_mutators_sorted (s : String) :
    ((∃ set, U32Set.from_str s = .ok set) ↔
      s = "" ∨ ∀ item ∈ s.toList.splitOn ',', ∃ n m, ItemOf item n m) ∧
    (∀ set, U32Set.from_str s = .ok set → set.ids.Pairwise (· < ·) ∧
      ∀ x, x ∈ set.ids ↔ ∃ item ∈ s.toList.splitOn ',', ∃ n m, ItemOf item n m ∧ n ≤ x ∧ x ≤ m) ∧
    U32Set.new.ids.Pairwise (· < ·) ∧
    (∀ cpus, (U32Set.from_vec cpus).ids.Pairwise (· < ·)) ∧
    (∀ (set : U32Set) cpu, (set.add cpu).ids.Pairwise (· < ·)) ∧
    ∀ (set : U32Set) cpus, (set.extend cpus).ids.Pairwise (· < ·) := by
  obtain ⟨hok, hset, -⟩ := from_str_spec s
  exact ⟨hok, hset, new_ids_pairwise, fun cpus => (from_vec_spec cpus).1,
    fun set cpu => (add_spec set cpu).1, fun set cpus => (extend_spec set cpus).1⟩

/-- An item read as `str::parse::<u32>` reads it, with a `+` before its digits. -/
theorem from_str_accepts_plus_sign :
    U32Set.from_str "+1" = .ok ⟨[1]⟩ ∧ ¬ ∀ c ∈ "+1".toList, c.isDigit = true := by
  have htext : "+1".toList = ['+', '1'] := by decide +kernel
  have hitem : ItemOf ['+', '1'] 1 1 :=
    .inl ⟨⟨['1'], .inr rfl, List.cons_ne_nil _ _,
      fun c hc => by rw [List.mem_singleton.mp hc]; rfl, rfl, by decide⟩, rfl⟩
  refine ⟨?_, fun h => absurd (h '+' (by rw [htext]; exact List.mem_cons_self)) (by decide)⟩
  rw [from_str_of_ne (by decide), htext, List.splitOn_eq_singleton (by decide), List.foldlM_cons,
    push_item_of_ItemOf hitem]
  simp [U32Set.from_vec, sort_dedup]

/-! ## The set of ids -/

theorem toFinset_range' (n m : Nat) : (List.range' n (m + 1 - n)).toFinset = Finset.Icc n m := by
  ext x
  rw [List.mem_toFinset, List.mem_range'_1, Finset.mem_Icc]
  omega

theorem from_vec_toFinset (cpus : List Nat) :
    (U32Set.from_vec cpus).ids.toFinset = cpus.toFinset := by
  ext x
  rw [List.mem_toFinset, List.mem_toFinset, (from_vec_spec cpus).2 x]

/-- The vector of ids refines the set of ids that `LinuxContainerCpuResources::try_from` works
with: both runs of the loop take the same branches, one pushing the ids the other inserts. -/
theorem from_str_toFinset (s : String) :
    (U32Set.from_str s).map (fun set => set.ids.toFinset) = Runtime.CpuResources.U32Set.from_str s := by
  unfold U32Set.from_str Runtime.CpuResources.U32Set.from_str
  split
  · rfl
  · rw [show (∅ : Finset Nat) = ([] : List Nat).toFinset from rfl,
      ← Except.map_foldlM List.toFinset (f := U32Set.push_item s) ?step]
    · cases (s.toList.splitOn ',').foldlM (U32Set.push_item s) [] with
      | error e => rfl
      | ok cpus => exact congrArg Except.ok (from_vec_toFinset cpus)
    · intro cpus item
      unfold U32Set.push_item
      by_cases hc : item.contains '-' = true
      · -- a range: the same fields and numerals on both sides
        simp only [hc, Bool.not_true, Bool.false_eq_true, if_false]
        rcases item.splitOn '-' with _ | ⟨start, _ | ⟨end_, _ | ⟨_, _⟩⟩⟩
        · rfl
        · rfl
        · dsimp only
          rcases parse_u32 start with _ | n <;> rcases parse_u32 end_ with _ | m
          · rfl
          · rfl
          · rfl
          · dsimp only
            by_cases hlt : n < m
            · rw [if_pos hlt, if_pos hlt]
              exact congrArg Except.ok (by rw [List.toFinset_append, toFinset_range'])
            · simp only [hlt, if_false]
              rfl
        · rfl
      · -- a number: the same numeral on both sides
        simp only [Bool.not_eq_true] at hc
        simp only [hc, Bool.not_false, if_true]
        split
        · rcases parse_u32 item with _ | n
          · rfl
          · refine congrArg Except.ok ?_
            ext x
            simp
        · rfl

end KataContainers.KataTypes
