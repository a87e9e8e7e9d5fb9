import KataContainers.Rustjail.Cgroups
import KataContainers.Lib.Bits
import KataContainers.Lib.Radix
import KataContainers.Lib.List

/-!
# CPU sets of the systemd manager

Model of `CpuSet::apply` and `BitMask::try_from` in
`src/agent/rustjail/src/cgroups/systemd/subsystem/cpuset.rs`. The transformer turns the
`cpus` and `mems` lists of the OCI spec (`"0,2-3,7"`) into the byte arrays of the unit properties
`AllowedCPUs` and `AllowedMemoryNodes`. `BitMask::try_from` sets, in a `bit-vec` grown eight bits
at a time, the bit `adjust_index(c)` of each CPU `c` listed, packs the bits into bytes with
`to_bytes` and reverses the bytes. The crate is a parameter: the model runs over any vectors `V`
with its methods (`BitVecOps`), and the results hold for every `V` that behaves as the crate
documents (`LawfulBitVec`).

systemd reads such an array with CPU `c` at bit `c % 8` of byte `c / 8` (`cpu_set_bytes`).
`try_from_eq_reverse` computes the result for every list of the cpulist grammar and every such
crate: it is that
encoding with its bytes in reverse order, so every set that spans more than one byte reaches
systemd with its bytes swapped; and an item `N-M` with `N > M` is accepted as the empty range.
-/

namespace KataContainers.Rustjail.Cgroups.Systemd

open Log BitVecOps

/-- `adjust_index`: `idx` mirrored within its byte. -/
def adjust_index (idx : Nat) : Nat := idx / 8 * 8 + 7 - idx % 8

section Model

variable {V : Type} [BitVecOps V]

/-- The `while idx >= bitmask_vec.len() { bitmask_vec.grow(8, false) }` loops of
`BitMask::try_from`, for at most `fuel` rounds. -/
def grow_to (idx : Nat) : Nat → V → V
  | 0, bitmask_vec => bitmask_vec
  | fuel + 1, bitmask_vec =>
    if idx < len bitmask_vec then bitmask_vec
    else grow_to idx fuel (grow bitmask_vec 8 false)

/-- `s.parse::<usize>()?` on a 64-bit target, with the text of the error. -/
def parse_usize (s : List Char) : Except Fault Nat :=
  (Radix.fromStrUnsigned 64 s).mapError fun kind => .err kind.description

/-- `bitmask_vec.set(adjust_index(idx), true)`. -/
def set_index (bitmask_vec : V) (idx : Nat) : Except Fault V :=
  match set bitmask_vec (adjust_index idx) true with
  | some bitmask_vec => .ok bitmask_vec
  | none => .error .panic

/-- The body of the loop over `bitmask_str.split(',')`: one item, `N` or `N-M`. Each round of a
growing loop adds eight bits, so `idx / 8 + 1` rounds are enough to reach `idx`. -/
def add_bitmask (bitmask_str : String) (bitmask_vec : V) (bitmask : List Char) :
    Except Fault V :=
  match bitmask.splitOn '-' with
  | [r0] => do
    let idx ← parse_usize r0
    set_index (grow_to idx (idx / 8 + 1) bitmask_vec) idx
  | [r0, r1] => do
    let left_index ← parse_usize r0
    let right_index ← parse_usize r1
    -- `for idx in left_index..=right_index`
    (List.range' left_index (right_index + 1 - left_index)).foldlM set_index
      (grow_to right_index (right_index / 8 + 1) bitmask_vec)
  | _ => .error (.err s!"invalid bitmask str {bitmask_str}")

end Model

/-- `BitMask::try_from(&str)`, over the vectors `V` of the crate: the bytes of the mask. -/
def BitMask.try_from (V : Type) [BitVecOps V] (bitmask_str : String) : Except Fault (List UInt8) := do
  let bitmask_vec ← (bitmask_str.toList.splitOn ',').foldlM (add_bitmask bitmask_str)
    (from_elem 8 false : V)
  let result_vec := to_bytes bitmask_vec
  return result_vec.reverse

/-- The first systemd version with `AllowedCPUs` and `AllowedMemoryNodes`. -/
def CpuSet.BASIC_SYSTEMD_VERSION : String := "244"

/-- `CpuSet::apply`. -/
def CpuSet.apply (V : Type) [BitVecOps V] (cpuset_resources : LinuxCpu) (systemd_version : String) :
    Log Fault Property Unit := do
  if systemd_version < CpuSet.BASIC_SYSTEMD_VERSION then return
  let cpus := cpuset_resources.cpus
  if cpus ≠ "" then
    let cpus_vec ← liftExcept (BitMask.try_from V cpus)
    write ("AllowedCPUs", .Array cpus_vec)
  let mems := cpuset_resources.mems
  if mems ≠ "" then
    let mems_vec ← liftExcept (BitMask.try_from V mems)
    write ("AllowedMemoryNodes", .Array mems_vec)

/-! ## The encoding systemd reads, and the cpulist grammar -/

/-- systemd's encoding of a set of CPUs in `n` bytes: CPU `c` is bit `c % 8` of byte `c / 8`. -/
def cpu_set_bytes (S : Nat → Bool) (n : Nat) : List UInt8 :=
  (List.range n).map fun k => UInt8.ofNat (Bits.lsbValue fun j => S (8 * k + j))

/-- An item of a cpulist, with its numbers as they are written: `N`, or `N-M`. -/
inductive Item
  | single (n : List Char)
  | range (n m : List Char)

/-- The text of an item. -/
def Item.text : Item → List Char
  | .single n => n
  | .range n m => n ++ '-' :: m

/-- A number of the grammar: decimal digits, of a `usize` value. -/
def Numeral (ds : List Char) : Prop :=
  ds ≠ [] ∧ (∀ c ∈ ds, c.isDigit) ∧ Radix.decimalValue ds < 2 ^ 64

/-- The numbers of an item are numerals. -/
def Item.WellFormed : Item → Prop
  | .single n => Numeral n
  | .range n m => Numeral n ∧ Numeral m

/-- Whether an item lists CPU `c`. -/
def Item.mem (c : Nat) : Item → Bool
  | .single n => c == Radix.decimalValue n
  | .range n m => decide (Radix.decimalValue n ≤ c ∧ c ≤ Radix.decimalValue m)

/-- The last number of an item. -/
def Item.top : Item → Nat
  | .single n => Radix.decimalValue n
  | .range _ m => Radix.decimalValue m

/-- The cpulist of items: their texts joined with commas. -/
def cpulist (items : List Item) : String :=
  String.ofList ([','].intercalate (items.map Item.text))

/-- The set of CPUs a list of items denotes. -/
def denotes (items : List Item) (c : Nat) : Bool := items.any (Item.mem c)

/-- The largest last number of the items after `t`. -/
def cover (t : Nat) (items : List Item) : Nat := items.foldl (fun t it => max t it.top) t

/-! ## The mask after each item -/

/-- The bits of `n` bytes holding the set `T`: bit `p` is whether `adjust_index p` is in `T`. -/
def mask (T : Nat → Bool) (n : Nat) : List Bool := (List.range (8 * n)).map fun p => T (adjust_index p)

/-- Every CPU of `T` has its bit among the `n` bytes. -/
def Covers (T : Nat → Bool) (n : Nat) : Prop := ∀ c, T c = true → c < 8 * n

section Mask

variable {T : Nat → Bool} {n : Nat}

theorem adjust_index_adjust_index (p : Nat) : adjust_index (adjust_index p) = p := by
  unfold adjust_index
  omega

theorem adjust_index_div (p : Nat) : adjust_index p / 8 = p / 8 := by
  unfold adjust_index
  omega

@[simp] theorem length_mask : (mask T n).length = 8 * n := by
  simp [mask]

theorem getD_mask {p : Nat} (hp : p < 8 * n) : (mask T n).getD p false = T (adjust_index p) := by
  simp [mask, hp]

/-- One more byte of zeros is one more byte of the same set, when the set is covered. -/
theorem grow_mask (hc : Covers T n) : mask T n ++ List.replicate 8 false = mask T (n + 1) := by
  apply List.ext_getElem
  · simp
    omega
  intro p h1 h2
  simp only [mask, List.getElem_append, List.length_map, List.length_range,
    List.getElem_map, List.getElem_range, List.getElem_replicate]
  split
  · rfl
  · -- the new bits are those of CPUs in the new byte, none of which is in `T`
    have hp : 8 * n ≤ adjust_index p := by
      have := adjust_index_div p
      omega
    cases hT : T (adjust_index p)
    · rfl
    · exact absurd (hc _ hT) (by omega)

theorem Covers.mono {m : Nat} (hc : Covers T n) (h : n ≤ m) : Covers T m :=
  fun c hT => Nat.lt_of_lt_of_le (hc c hT) (by omega)

/-- Setting the bit of `idx` adds it to the set: no other bit stands for `idx`. -/
theorem set_mask (idx : Nat) :
    (mask T n).set (adjust_index idx) true = mask (fun c => T c || c == idx) n := by
  apply List.ext_getElem
  · simp
  intro p h1 h2
  simp only [mask, List.getElem_set, List.getElem_map, List.getElem_range]
  by_cases hp : adjust_index idx = p
  · rw [if_pos hp, ← hp, adjust_index_adjust_index]
    simp
  · rw [if_neg hp]
    have hne : adjust_index p ≠ idx := fun h' => hp (by rw [← h', adjust_index_adjust_index])
    simp [hne]

variable {V : Type} [BitVecOps V] [LawfulBitVec V]

omit [LawfulBitVec V] in
/-- A vector that holds a mask has a bit for each of its bytes. -/
theorem len_of_bits {v : V} (hv : bits v = mask T n) : len v = 8 * n := by
  rw [← length_bits, hv, length_mask]

/-- The growing loop adds bytes until `idx` has a bit, given a round for each byte it adds. -/
theorem grow_to_mask {v : V} (hv : bits v = mask T n) (hc : Covers T n) (hn : 1 ≤ n)
    (idx fuel : Nat) (hfuel : idx / 8 + 1 - n ≤ fuel) :
    bits (grow_to idx fuel v) = mask T (max n (idx / 8 + 1)) := by
  induction fuel generalizing n v with
  | zero =>
    rw [grow_to, hv, Nat.max_eq_left (by omega)]
  | succ fuel ih =>
    have hlen := len_of_bits hv
    rw [grow_to]
    split_ifs with hidx
    · rw [hv, Nat.max_eq_left (by omega)]
    · -- one more byte, and the loop goes on
      have hgrow : bits (grow v 8 false) = mask T (n + 1) := by
        rw [LawfulBitVec.bits_grow, hv, grow_mask hc]
      rw [ih hgrow (hc.mono (Nat.le_add_right n 1)) (by omega) (by omega),
        Nat.max_eq_right (by omega), Nat.max_eq_right (by omega)]

/-- Setting the bit of a covered `idx` adds it to the set. -/
theorem set_index_mask {v : V} (hv : bits v = mask T n) (idx : Nat) (h : idx < 8 * n) :
    ∃ v', set_index v idx = .ok v' ∧ bits v' = mask (fun c => T c || c == idx) n := by
  have hlt : adjust_index idx < len v := by
    have := adjust_index_div idx
    rw [len_of_bits hv]
    omega
  obtain ⟨v', hset, hbits⟩ := LawfulBitVec.set_of_lt v (adjust_index idx) true hlt
  refine ⟨v', by rw [set_index, hset], ?_⟩
  rw [hbits, hv, set_mask]

/-- The loop over `left..=right` adds the CPUs of the range. -/
theorem foldlM_set_index_mask {v : V} (hv : bits v = mask T n) (a k : Nat)
    (h : a + k ≤ 8 * n ∨ k = 0) :
    ∃ v', (List.range' a k).foldlM set_index v = .ok v' ∧
      bits v' = mask (fun c => T c || decide (a ≤ c ∧ c < a + k)) n := by
  induction k generalizing a T v with
  | zero =>
    refine ⟨v, rfl, ?_⟩
    rw [hv]
    congr 1
    funext c
    simp
  | succ k ih =>
    obtain ⟨v₁, hset, hbits₁⟩ := set_index_mask hv a (by omega)
    obtain ⟨v₂, hfold, hbits₂⟩ := ih hbits₁ (a + 1) (.inl (by omega))
    refine ⟨v₂, by rw [List.range'_succ, List.foldlM_cons, hset, Except.ok_bind_eq, hfold], ?_⟩
    rw [hbits₂]
    congr 1
    funext c
    by_cases hc : c = a
    · subst hc
      simp
    · have hrange : decide (a ≤ c ∧ c < a + (k + 1)) = decide (a + 1 ≤ c ∧ c < a + 1 + k) := by
        simp only [decide_eq_decide]
        omega
      have hca : (c == a) = false := beq_eq_false_iff_ne.mpr hc
      simp [hca, hrange]

/-- The bytes of a mask are systemd's encoding of its set. -/
theorem pack_mask (T : Nat → Bool) (n : Nat) : Bits.pack (mask T n) = cpu_set_bytes T n := by
  unfold Bits.pack cpu_set_bytes
  rw [length_mask, show (8 * n + 7) / 8 = n by omega]
  apply List.map_congr_left
  intro k hk
  rw [List.mem_range] at hk
  -- bit `8k + j` stands for CPU `8k + 7 - j`
  have hbits : ∀ j < 8, (mask T n).getD (8 * k + j) false = T (8 * k + (7 - j)) := by
    intro j hj
    rw [getD_mask (by omega)]
    congr 1
    unfold adjust_index
    omega
  rw [Bits.byte_eq_lsbValue (f := fun j => T (8 * k + j)) hbits]

end Mask

/-! ## Reading the items -/

section Items

variable {T : Nat → Bool} {t : Nat}

theorem not_mem_of_numeral {ds : List Char} (h : Numeral ds) {x : Char} (hx : x.isDigit = false) :
    x ∉ ds := fun hm => by
  rw [h.2.1 x hm] at hx
  cases hx

theorem parse_usize_numeral {ds : List Char} (h : Numeral ds) :
    parse_usize ds = .ok (Radix.decimalValue ds) := by
  unfold parse_usize
  rw [Radix.fromStrUnsigned_digits h.2.1 h.1 h.2.2]
  rfl

theorem splitOn_text_range {n m : List Char} (hn : Numeral n) (hm : Numeral m) :
    (Item.range n m).text.splitOn '-' = [n, m] := by
  have htext : (Item.range n m).text = ['-'].intercalate [n, m] := by
    simp [Item.text, List.intercalate]
  rw [htext]
  apply List.splitOn_intercalate
  · intro l hl
    simp only [List.mem_cons, List.not_mem_nil, or_false] at hl
    rcases hl with rfl | rfl
    · exact not_mem_of_numeral hn (by decide)
    · exact not_mem_of_numeral hm (by decide)
  · simp

theorem comma_not_mem_text {it : Item} (h : it.WellFormed) : ',' ∉ it.text := by
  cases it with
  | single n => exact not_mem_of_numeral h (by decide)
  | range n m =>
    simp only [Item.text, List.mem_append, List.mem_cons, not_or]
    exact ⟨not_mem_of_numeral h.1 (by decide), by decide, not_mem_of_numeral h.2 (by decide)⟩

/-- The bytes grown for the new last number are those of the larger of the two. -/
theorem max_bytes (t u : Nat) : max (t / 8 + 1) (u / 8 + 1) = max t u / 8 + 1 := by
  rcases Nat.le_total t u with h | h
  · rw [Nat.max_eq_right h, Nat.max_eq_right (by omega)]
  · rw [Nat.max_eq_left h, Nat.max_eq_left (by omega)]

variable {V : Type} [BitVecOps V] [LawfulBitVec V]

/-- One item adds its CPUs, and the mask grows to its last number. -/
theorem add_bitmask_item {it : Item} (hwf : it.WellFormed) (hc : Covers T (t / 8 + 1)) {v : V}
    (hv : bits v = mask T (t / 8 + 1)) (bitmask_str : String) :
    ∃ v', add_bitmask bitmask_str v it.text = .ok v' ∧
      bits v' = mask (fun c => T c || it.mem c) (max t it.top / 8 + 1) := by
  cases it with
  | single n =>
    have hsplit : (Item.single n).text.splitOn '-' = [n] :=
      List.splitOn_eq_singleton (not_mem_of_numeral hwf (by decide))
    simp only [add_bitmask, hsplit, parse_usize_numeral hwf, Except.ok_bind_eq]
    have hgrow := grow_to_mask hv hc (by omega) (Radix.decimalValue n)
      (Radix.decimalValue n / 8 + 1) (by omega)
    rw [max_bytes] at hgrow
    exact set_index_mask hgrow _ (by omega)
  | range n m =>
    simp only [add_bitmask, splitOn_text_range hwf.1 hwf.2, parse_usize_numeral hwf.1,
      parse_usize_numeral hwf.2, Except.ok_bind_eq]
    have hgrow := grow_to_mask hv hc (by omega) (Radix.decimalValue m)
      (Radix.decimalValue m / 8 + 1) (by omega)
    rw [max_bytes] at hgrow
    obtain ⟨v', hfold, hbits⟩ := foldlM_set_index_mask hgrow (Radix.decimalValue n)
      (Radix.decimalValue m + 1 - Radix.decimalValue n) (by omega)
    refine ⟨v', hfold, ?_⟩
    rw [hbits]
    congr 1
    funext c
    -- `left..=right` is the range of the item, empty when `left > right`
    have hrange : decide (Radix.decimalValue n ≤ c ∧ c < Radix.decimalValue n +
        (Radix.decimalValue m + 1 - Radix.decimalValue n)) =
        decide (Radix.decimalValue n ≤ c ∧ c ≤ Radix.decimalValue m) := by
      simp only [decide_eq_decide]
      omega
    rw [hrange]
    rfl

/-- The CPUs of an item are covered by the bytes grown to its last number. -/
theorem Covers.add_item {it : Item} (hc : Covers T (t / 8 + 1)) :
    Covers (fun c => T c || it.mem c) (max t it.top / 8 + 1) := by
  intro c hT
  rcases Bool.or_eq_true_iff.mp hT with hT | hm
  · exact Nat.lt_of_lt_of_le (hc c hT) (by omega)
  · have hle : c ≤ it.top := by
      cases it with
      | single n =>
        simp only [Item.mem, beq_iff_eq] at hm
        simp [Item.top, hm]
      | range n m =>
        simp only [Item.mem, decide_eq_true_eq] at hm
        exact hm.2
    omega

/-- The loop over the items adds the CPUs each denotes, and grows the mask to the largest last
number. -/
theorem foldlM_add_bitmask (bitmask_str : String) :
    ∀ (items : List Item) (T : Nat → Bool) (t : Nat) (v : V), (∀ it ∈ items, it.WellFormed) →
      Covers T (t / 8 + 1) → bits v = mask T (t / 8 + 1) →
      ∃ v', (items.map Item.text).foldlM (add_bitmask bitmask_str) v = .ok v' ∧
        bits v' = mask (fun c => T c || denotes items c) (cover t items / 8 + 1)
  | [], T, t, v, _, _, hv => by
    refine ⟨v, rfl, ?_⟩
    rw [hv]
    simp [cover, denotes]
  | it :: items, T, t, v, hwf, hc, hv => by
    obtain ⟨v₁, hadd, hbits₁⟩ := add_bitmask_item (hwf it List.mem_cons_self) hc hv bitmask_str
    obtain ⟨v₂, hfold, hbits₂⟩ := foldlM_add_bitmask bitmask_str items _ _ v₁
      (fun it' h => hwf it' (List.mem_cons_of_mem it h)) hc.add_item hbits₁
    refine ⟨v₂, by rw [List.map_cons, List.foldlM_cons, hadd, Except.ok_bind_eq, hfold], ?_⟩
    rw [hbits₂]
    congr 2
    funext c
    simp [denotes, Bool.or_assoc]

end Items

/-! ## What systemd receives -/

theorem try_from_eq_reverse (V : Type) [BitVecOps V] [LawfulBitVec V] (items : List Item)
    (hne : items ≠ []) (hwf : ∀ it ∈ items, it.WellFormed) :
    BitMask.try_from V (cpulist items) =
      .ok (cpu_set_bytes (denotes items) (cover 0 items / 8 + 1)).reverse := by
  have hsplit : (cpulist items).toList.splitOn ',' = items.map Item.text := by
    rw [cpulist, String.toList_ofList]
    apply List.splitOn_intercalate
    · intro l hl
      obtain ⟨it, hit, rfl⟩ := List.mem_map.mp hl
      exact comma_not_mem_text (hwf it hit)
    · simpa using hne
  -- the initial eight bits are the empty set in one byte
  have hinit : bits (from_elem 8 false : V) = mask (fun _ => false) (0 / 8 + 1) := by
    rw [LawfulBitVec.bits_from_elem]
    simp [mask, List.map_const']
  obtain ⟨v, hfold, hbits⟩ := foldlM_add_bitmask (cpulist items) items (fun _ => false) 0 _ hwf
    (fun c h => by cases h) hinit
  unfold BitMask.try_from
  rw [hsplit, hfold, Except.ok_bind_eq, LawfulBitVec.to_bytes_eq, hbits, pack_mask]
  rfl

/-- `"8"`, with a list of bits as the vector: systemd's encoding is `[0, 1]`, with CPU 8 at bit 0
of byte 1, and the mask sent is `[1, 0]`, which systemd reads as CPU 0. `"3-1"` is accepted as the
empty set. -/
theorem try_from_eq_reverse_cpu_eight :
    BitMask.try_from (List Bool) (cpulist [.single ['8']]) = .ok [1, 0] ∧
      cpu_set_bytes (denotes [.single ['8']]) 2 = [0, 1] ∧
      BitMask.try_from (List Bool) (cpulist [.range ['3'] ['1']]) = .ok [0] := by
  have h8 := try_from_eq_reverse (List Bool) [.single ['8']] (by simp) (by
    intro it hit
    simp only [List.mem_singleton] at hit
    subst hit
    exact ⟨by simp, List.all_eq_true.mp (by decide), by decide⟩)
  have h31 := try_from_eq_reverse (List Bool) [.range ['3'] ['1']] (by simp) (by
    intro it hit
    simp only [List.mem_singleton] at hit
    subst hit
    exact ⟨⟨by simp, List.all_eq_true.mp (by decide), by decide⟩,
      ⟨by simp, List.all_eq_true.mp (by decide), by decide⟩⟩)
  refine ⟨?_, by decide, ?_⟩
  · rw [h8]
    decide
  · rw [h31]
    decide

end KataContainers.Rustjail.Cgroups.Systemd
